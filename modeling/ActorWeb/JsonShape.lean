import ActorWeb.Json
import Mathlib.Data.List.Sort

/-! Facts about JSON values up to the order of their entries, and about where a JSON text can be
cut. -/

namespace ActorWeb.Json

open List

theorem get_cons (key key' : String) (v : Json) (entries : List (String × Json)) :
    (Json.obj ((key', v) :: entries)).get key =
      if key' = key then some v else (Json.obj entries).get key := by
  by_cases h : key' = key
  · simp [Json.get, h]
  · simp [Json.get, h]

/-- The values are equal up to the order of the entries of their objects. -/
inductive KeyOrder : Json → Json → Prop
  | refl (v : Json) : KeyOrder v v
  | symm {v w : Json} (h : KeyOrder v w) : KeyOrder w v
  | trans {u v w : Json} (h : KeyOrder u v) (h' : KeyOrder v w) : KeyOrder u w
  | perm {es fs : List (String × Json)} (h : es.Perm fs) : KeyOrder (.obj es) (.obj fs)
  | item (us : List Json) {v w : Json} (vs : List Json) (h : KeyOrder v w) :
      KeyOrder (.arr (us ++ v :: vs)) (.arr (us ++ w :: vs))
  | entry (es : List (String × Json)) (k : String) {v w : Json} (fs : List (String × Json))
      (h : KeyOrder v w) : KeyOrder (.obj (es ++ (k, v) :: fs)) (.obj (es ++ (k, w) :: fs))

namespace KeyOrder

theorem items {vs ws : List Json} (h : List.Forall₂ KeyOrder vs ws) (us : List Json) :
    KeyOrder (.arr (us ++ vs)) (.arr (us ++ ws)) := by
  induction h generalizing us with
  | nil => exact .refl _
  | @cons v w vs ws hvw _ ih =>
    refine .trans (.item us vs hvw) ?_
    simpa only [append_assoc, singleton_append] using ih (us ++ [w])

theorem arr {vs ws : List Json} (h : List.Forall₂ KeyOrder vs ws) : KeyOrder (.arr vs) (.arr ws) :=
  items h []

/-- Entries with equal keys and equal values up to the order of entries. -/
def Entries : List (String × Json) → List (String × Json) → Prop :=
  List.Forall₂ fun e f => e.1 = f.1 ∧ KeyOrder e.2 f.2

theorem entries {fs gs : List (String × Json)} (h : Entries fs gs) (es : List (String × Json)) :
    KeyOrder (.obj (es ++ fs)) (.obj (es ++ gs)) := by
  induction h generalizing es with
  | nil => exact .refl _
  | @cons f g fs gs hfg _ ih =>
    obtain ⟨k, v⟩ := f
    obtain ⟨j, w⟩ := g
    obtain ⟨rfl, hvw⟩ : k = j ∧ KeyOrder v w := hfg
    refine .trans (.entry es k fs hvw) ?_
    simpa only [append_assoc, singleton_append] using ih (es ++ [(k, w)])

theorem obj {es fs : List (String × Json)} (h : Entries es fs) : KeyOrder (.obj es) (.obj fs) :=
  entries h []

end KeyOrder

/-- Where a reader of JSON text is: outside strings, right after a colon or not, inside a string, or
after a backslash in one. -/
inductive Place
  | outside (colon : Bool) | inside | escaped

/-- The characters that JSON text has outside strings, apart from colons and quotes. -/
def bare (c : Char) : Bool :=
  numeralChar c ||
    ['{', '}', '[', ']', ',', 't', 'r', 'u', 'e', 'f', 'a', 'l', 's', 'n'].contains c

/-- One character, when it may stand there. Two colons never meet outside strings. -/
def Place.next (p : Place) (c : Char) : Option Place :=
  match p with
  | .outside colon =>
    if c = '"' then some .inside
    else if c = ':' then if colon then none else some (.outside true)
    else if bare c then some (.outside false)
    else none
  | .inside => some (if c = '"' then .outside false else if c = '\\' then .escaped else .inside)
  | .escaped => some .inside

def scan : Place → List Char → Option Place
  | p, [] => some p
  | p, c :: cs => (p.next c).bind fun q => scan q cs

theorem scan_append (p : Place) (cs ds : List Char) :
    scan p (cs ++ ds) = (scan p cs).bind fun q => scan q ds := by
  induction cs generalizing p with
  | nil => rfl
  | cons c cs ih =>
    simp only [cons_append, scan, Option.bind_assoc]
    exact congrArg _ (funext ih)

def Scans (cs : List Char) : Prop := ∀ colon, scan (.outside colon) cs = some (.outside false)

variable {cs ds : List Char} {c : Char}

theorem Scans.append (hc : Scans cs) (hd : Scans ds) : Scans (cs ++ ds) := by
  intro colon
  rw [scan_append, hc colon, Option.bind_some, hd]

theorem scan_bare (h : ∀ c ∈ cs, bare c = true) (colon : Bool) :
    scan (.outside colon) cs = some (.outside (colon && cs.isEmpty)) := by
  induction cs generalizing colon with
  | nil => simp [scan]
  | cons c cs ih =>
    have hc : bare c = true := h c (mem_cons_self ..)
    have hquote : c ≠ '"' := by rintro rfl; exact absurd hc (by decide)
    have hcolon : c ≠ ':' := by rintro rfl; exact absurd hc (by decide)
    simp only [scan, Place.next, hquote, hcolon, hc, if_false, if_true, Option.bind_some]
    rw [ih fun d hd => h d (List.mem_cons_of_mem c hd)]
    simp

theorem scans_bare (h : ∀ c ∈ cs, bare c = true) (hne : cs ≠ []) : Scans cs := by
  intro colon
  rw [scan_bare h colon]
  cases cs with
  | nil => exact absurd rfl hne
  | cons c cs => simp

theorem hexDigit_plain : ∀ n : Fin 16, hexDigit n ≠ '"' ∧ hexDigit n ≠ '\\' := by decide

theorem scan_escapeChar (c : Char) : scan .inside (escapeChar c) = some .inside := by
  unfold escapeChar
  split
  case isTrue => rfl
  split
  case isTrue => rfl
  split
  case isTrue => rfl
  split
  case isTrue => rfl
  split
  case isTrue => rfl
  split
  case isTrue => rfl
  split
  case isTrue => rfl
  split
  case isTrue hcontrol =>
    obtain ⟨hquote, hslash⟩ := hexDigit_plain ⟨c.toNat / 16, by omega⟩
    obtain ⟨hquote', hslash'⟩ := hexDigit_plain ⟨c.toNat % 16, by omega⟩
    simp only at hquote hslash hquote' hslash'
    simp [scan, Place.next, hquote, hslash, hquote', hslash']
  case isFalse hquote hslash _ _ _ _ _ _ => simp [scan, Place.next, hquote, hslash]

theorem scan_escaped (cs : List Char) : scan .inside (cs.flatMap escapeChar) = some .inside := by
  induction cs with
  | nil => rfl
  | cons c cs ih => rw [flatMap_cons, scan_append, scan_escapeChar, Option.bind_some, ih]

theorem scans_quote (s : String) : Scans (quote s) := by
  intro colon
  have hrest : scan .inside (s.toList.flatMap escapeChar ++ ['"']) = some (.outside false) := by
    rw [scan_append, scan_escaped]
    rfl
  exact hrest

theorem scans_entry (k : String) (h : Scans cs) : Scans (quote k ++ ':' :: cs) := by
  intro colon
  rw [scan_append, scans_quote]
  exact h true

theorem Scans.cons (hc : bare c = true) (h : Scans cs) : Scans (c :: cs) :=
  (scans_bare (List.forall_mem_singleton.mpr hc) (List.cons_ne_nil c [])).append h

theorem scans_single (hc : bare c = true) : Scans [c] :=
  scans_bare (List.forall_mem_singleton.mpr hc) (List.cons_ne_nil c [])

theorem scans_word (h : (c :: cs).all bare = true) : Scans (c :: cs) :=
  scans_bare (List.all_eq_true.mp h) (List.cons_ne_nil c cs)

mutual

theorem scans_text (depth : Nat) : (v : Json) → Scans (text 0 depth v)
  | .null => (scans_word rfl : Scans ['n', 'u', 'l', 'l'])
  | .bool true => (scans_word rfl : Scans ['t', 'r', 'u', 'e'])
  | .bool false => (scans_word rfl : Scans ['f', 'a', 'l', 's', 'e'])
  | .num n => scans_bare (fun c hc => by
    rw [bare, List.all_eq_true.mp n.numeral c hc, Bool.true_or]) n.nonempty
  | .str s => scans_quote s
  | .arr [] => (scans_word rfl : Scans ['[', ']'])
  | .arr (v :: vs) => .cons (by decide) ((scans_text (depth + 1) v).append (scans_itemsText depth vs))
  | .obj [] => (scans_word rfl : Scans ['{', '}'])
  | .obj ((k, v) :: es) => .cons (by decide)
      (scans_entry k ((scans_text (depth + 1) v).append (scans_entriesText depth es)))

theorem scans_itemsText (depth : Nat) : (vs : List Json) → Scans (itemsText 0 depth vs)
  | [] => scans_single (by decide)
  | v :: vs => .cons (by decide) ((scans_text (depth + 1) v).append (scans_itemsText depth vs))

theorem scans_entriesText (depth : Nat) :
    (es : List (String × Json)) → Scans (entriesText 0 depth es)
  | [] => scans_single (by decide)
  | (k, v) :: es => .cons (by decide)
      (scans_entry k ((scans_text (depth + 1) v).append (scans_entriesText depth es)))

end

/-- A text of an object whose first key starts with a character that is not bare. -/
def OpensWith (c : Char) (cs : List Char) : Prop := ∃ rest, cs = '{' :: '"' :: c :: rest

theorem not_scans_cut (hopens : OpensWith c ds)
    (hbare : bare c = false) (hquote : c ≠ '"') (hcolon : c ≠ ':') :
    ¬ Scans (cs ++ ':' :: ':' :: ds) := by
  intro h
  obtain ⟨rest, rfl⟩ := hopens
  have hscan := h false
  rw [scan_append] at hscan
  have hinside : ∀ rest', scan .inside (':' :: ':' :: '{' :: '"' :: c :: rest') = none := by
    intro rest'
    simp [scan, Place.next, hbare, hquote, hcolon]
  cases hp : scan (.outside false) cs with
  | none => rw [hp] at hscan; cases hscan
  | some p =>
    rw [hp, Option.bind_some] at hscan
    cases p with
    | outside colon =>
      cases colon <;> simp [scan, Place.next] at hscan
    | inside => exact absurd ((hinside rest).symm.trans hscan) (by simp)
    | escaped =>
      have hnext : scan .escaped (':' :: ':' :: '{' :: '"' :: c :: rest) = none := by
        simp [scan, Place.next, hbare, hquote, hcolon]
      exact absurd (hnext.symm.trans hscan) (by simp)

theorem join_injective {ss ts : List Char} {d : Char} (hcs : Scans cs) (hds : Scans ds)
    (hc : OpensWith c cs) (hd : OpensWith d ds) (hbc : bare c = false) (hbd : bare d = false)
    (hqc : c ≠ '"' ∧ c ≠ ':') (hqd : d ≠ '"' ∧ d ≠ ':')
    (h : ss ++ ':' :: ':' :: cs = ts ++ ':' :: ':' :: ds) : ss = ts ∧ cs = ds := by
  have hcut : ∀ {cs ds ms : List Char} {c d : Char}, Scans cs → OpensWith c cs → OpensWith d ds →
      bare d = false → d ≠ '"' ∧ d ≠ ':' → ':' :: ':' :: cs = ms ++ ':' :: ':' :: ds →
      ms = [] ∧ cs = ds := by
    intro cs ds ms c d hcs hc hd hbd hqd heq
    match ms with
    | [] => exact ⟨rfl, (List.cons.inj (List.cons.inj heq).2).2⟩
    | [m] =>
      obtain ⟨rest, rfl⟩ := hc
      simp at heq
    | m :: m' :: ms =>
      have hcut := (List.cons.inj (List.cons.inj heq).2).2
      exact absurd (hcut ▸ hcs) (not_scans_cut hd hbd hqd.1 hqd.2)
  obtain ⟨ms, rfl, heq⟩ | ⟨ms, rfl, heq⟩ := append_eq_append_iff.mp h
  · obtain ⟨rfl, hsame⟩ := hcut hcs hc hd hbd hqd heq
    exact ⟨(append_nil ss).symm, hsame⟩
  · obtain ⟨rfl, hsame⟩ := hcut hds hd hc hbc hqc heq
    exact ⟨append_nil ts, hsame.symm⟩

end ActorWeb.Json
