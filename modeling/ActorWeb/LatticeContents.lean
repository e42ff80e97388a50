import ActorWeb.JsonShape
import ActorWeb.LatticeArtifacts
import Mathlib.Data.List.Pairwise

/-! The stable text of a value is the text of a stable form of it, and values that are equal up to
the order of keys have one stable form when the locale tells their keys apart. -/

namespace ActorWeb.Lattice

open List Json Std

section Forms

variable (t : Texts)

def compareKeys {α : Type} (a b : String × α) : Ordering := t.localeCompare a.1 b.1

mutual

def stableForm : Json → Json
  | .null => .null
  | .bool value => .bool value
  | .num value => .num value
  | .str value => .str value
  | .arr items => .arr (stableForms items)
  | .obj entries => .obj (sortBy (compareKeys t) (stableFields entries))

def stableForms : List Json → List Json
  | [] => []
  | v :: vs => stableForm v :: stableForms vs

def stableFields : List (String × Json) → List (String × Json)
  | [] => []
  | (k, v) :: es => (k, stableForm v) :: stableFields es

end

theorem stableForms_eq (vs : List Json) : stableForms t vs = vs.map (stableForm t) := by
  induction vs with
  | nil => rfl
  | cons v vs ih => rw [stableForms, ih, map_cons]

theorem stableFields_eq (es : List (String × Json)) :
    stableFields t es = es.map fun e => (e.1, stableForm t e.2) := by
  induction es with
  | nil => rfl
  | cons e es ih => rw [stableFields, ih, map_cons]

theorem sortBy_map {α β : Type} {compare : α → α → Ordering} {compare' : β → β → Ordering}
    (f : α → β) (h : ∀ a b, compare a b = compare' (f a) (f b)) (values : List α) :
    (sortBy compare values).map f = sortBy compare' (values.map f) :=
  map_insertionSort _ _ f values fun a _ b _ => by rw [h]

end Forms

section Texts

def line (v : Json) : List Char := text 0 0 v

mutual

theorem text_line (depth : Nat) : (v : Json) → text 0 depth v = line v
  | .null => rfl
  | .bool true => rfl
  | .bool false => rfl
  | .num _ => rfl
  | .str _ => rfl
  | .arr [] => rfl
  | .arr (v :: vs) => by
    simp only [line, text, newline, if_true, nil_append]
    rw [text_line (depth + 1) v, text_line (0 + 1) v, itemsText_line depth vs, itemsText_line 0 vs]
  | .obj [] => rfl
  | .obj ((k, v) :: es) => by
    simp only [line, text, newline, if_true, nil_append]
    rw [text_line (depth + 1) v, text_line (0 + 1) v, entriesText_line depth es,
      entriesText_line 0 es]

theorem itemsText_line (depth : Nat) : (vs : List Json) →
    itemsText 0 depth vs = vs.flatMap (fun v => ',' :: line v) ++ [']']
  | [] => rfl
  | v :: vs => by
    simp only [itemsText, newline, if_true, nil_append, flatMap_cons, append_assoc,
      cons_append]
    rw [text_line (depth + 1) v, itemsText_line depth vs]

theorem entriesText_line (depth : Nat) : (es : List (String × Json)) →
    entriesText 0 depth es = es.flatMap (fun e => ',' :: (quote e.1 ++ ':' :: line e.2)) ++ ['}']
  | [] => rfl
  | (k, v) :: es => by
    simp only [entriesText, newline, colon, if_true, nil_append, flatMap_cons,
      append_assoc, cons_append]
    rw [text_line (depth + 1) v, entriesText_line depth es]

end

theorem intercalate_comma (cs : List Char) (parts : List (List Char)) :
    [','].intercalate (cs :: parts) = cs ++ parts.flatMap (',' :: ·) := by
  induction parts generalizing cs with
  | nil => simp
  | cons ds parts ih => simp [intercalate_cons_cons, ih]

theorem line_arr (vs : List Json) :
    line (.arr vs) = '[' :: ([','].intercalate (vs.map line) ++ [']']) := by
  cases vs with
  | nil => rfl
  | cons v vs =>
    rw [map_cons, intercalate_comma, flatMap_map]
    simp only [line, text, newline, if_true, nil_append]
    rw [text_line (0 + 1) v, itemsText_line 0 vs, append_assoc]
    rfl

theorem line_obj (es : List (String × Json)) : line (.obj es) =
    '{' :: ([','].intercalate (es.map fun e => quote e.1 ++ ':' :: line e.2) ++ ['}']) := by
  cases es with
  | nil => rfl
  | cons e es =>
    obtain ⟨k, v⟩ := e
    rw [map_cons, intercalate_comma, flatMap_map]
    simp only [line, text, newline, colon, if_true, nil_append]
    rw [text_line (0 + 1) v, entriesText_line 0 es, append_assoc, append_assoc]
    rfl

theorem toList_stringify (v : Json) : (stringify 0 v).toList = line v := by
  rw [stringify, String.toList_ofList, line]

variable (t : Texts)

mutual

theorem stableStringify_eq : (v : Json) → stableStringify t v = stringify 0 (stableForm t v)
  | .null => rfl
  | .bool _ => rfl
  | .num _ => rfl
  | .str _ => rfl
  | .arr items => by
    refine String.toList_inj.mp ?_
    rw [stableStringify, stableForm, toList_stringify, line_arr, stableItems_eq items]
    simp [Function.comp_def, toList_stringify]
  | .obj entries => by
    refine String.toList_inj.mp ?_
    have hsort : (sortBy (compareKeys t) (stableFields t entries)).map
        (fun e => (e.1, stringify 0 e.2)) =
        sortBy (compareKeys t) ((stableFields t entries).map fun e => (e.1, stringify 0 e.2)) :=
      sortBy_map _ (fun a b => show compareKeys t a b =
        compareKeys t (a.1, stringify 0 a.2) (b.1, stringify 0 b.2) from rfl) _
    rw [stableStringify, stableForm, toList_stringify, line_obj, stableEntries_eq entries]
    change ("\x7b" ++ ",".intercalate ((sortBy (compareKeys t) _).map _) ++ "\x7d").toList = _
    rw [← hsort, map_map]
    simp [Function.comp_def, toList_stringify, line, text]

theorem stableItems_eq : (vs : List Json) → stableItems t vs = (stableForms t vs).map (stringify 0)
  | [] => rfl
  | v :: vs => by rw [stableItems, stableForms, map_cons, stableStringify_eq v, stableItems_eq vs]

theorem stableEntries_eq : (es : List (String × Json)) →
    stableEntries t es = (stableFields t es).map fun e => (e.1, stringify 0 e.2)
  | [] => rfl
  | (k, v) :: es => by
    rw [stableEntries, stableFields, map_cons, stableStringify_eq v, stableEntries_eq es]

end

theorem stableStringify_inj {v w : Json} :
    stableStringify t v = stableStringify t w ↔ stableForm t v = stableForm t w := by
  rw [stableStringify_eq, stableStringify_eq]
  exact ⟨stringify_injective, congrArg _⟩

end Texts

section Orders

variable (t : Texts)

mutual

theorem keyOrder_stableForm : (v : Json) → KeyOrder v (stableForm t v)
  | .null => .refl _
  | .bool _ => .refl _
  | .num _ => .refl _
  | .str _ => .refl _
  | .arr items => .arr (keyOrder_stableForms items)
  | .obj entries =>
    (KeyOrder.obj (keyOrder_stableFields entries)).trans (.perm (sortBy_perm _ _).symm)

theorem keyOrder_stableForms : (vs : List Json) → List.Forall₂ KeyOrder vs (stableForms t vs)
  | [] => .nil
  | v :: vs => .cons (keyOrder_stableForm v) (keyOrder_stableForms vs)

theorem keyOrder_stableFields : (es : List (String × Json)) →
    KeyOrder.Entries es (stableFields t es)
  | [] => .nil
  | (_, v) :: es => .cons ⟨rfl, keyOrder_stableForm v⟩ (keyOrder_stableFields es)

end

def Keyed (es : List (String × Json)) : Prop := es.Pairwise fun a b => compareKeys t a b ≠ .eq

mutual

def ToldApart : Json → Prop
  | .null => True
  | .bool _ => True
  | .num _ => True
  | .str _ => True
  | .arr items => AllToldApart items
  | .obj entries => Keyed t entries ∧ EntriesToldApart entries

def AllToldApart : List Json → Prop
  | [] => True
  | v :: vs => ToldApart v ∧ AllToldApart vs

def EntriesToldApart : List (String × Json) → Prop
  | [] => True
  | (_, v) :: es => ToldApart v ∧ EntriesToldApart es

end

theorem allToldApart_iff {vs : List Json} : AllToldApart t vs ↔ ∀ v ∈ vs, ToldApart t v := by
  induction vs with
  | nil => simp [AllToldApart]
  | cons v vs ih => rw [AllToldApart, ih, forall_mem_cons]

variable {es fs : List (String × Json)}

theorem entriesToldApart_iff : EntriesToldApart t es ↔ ∀ e ∈ es, ToldApart t e.2 := by
  induction es with
  | nil => simp [EntriesToldApart]
  | cons e es ih =>
    obtain ⟨k, v⟩ := e
    rw [EntriesToldApart, ih, forall_mem_cons]

variable {t}

theorem toldApart_obj : ToldApart t (.obj es) ↔ Keyed t es ∧ ∀ e ∈ es, ToldApart t e.2 := by
  rw [ToldApart, entriesToldApart_iff]

theorem toldApart_arr {vs : List Json} : ToldApart t (.arr vs) ↔ ∀ v ∈ vs, ToldApart t v := by
  rw [ToldApart, allToldApart_iff]

theorem Keyed.congr (h : es.map Prod.fst = fs.map Prod.fst) : Keyed t es ↔ Keyed t fs := by
  have hmap (gs : List (String × Json)) : Keyed t gs ↔
        (gs.map Prod.fst).Pairwise fun k j => t.localeCompare k j ≠ .eq := by
    rw [pairwise_map]
    rfl
  rw [hmap, hmap, h]

variable [TransCmp t.localeCompare]

instance : TransCmp (compareKeys t : String × Json → String × Json → Ordering) where
  eq_swap {a b} := show t.localeCompare a.1 b.1 = (t.localeCompare b.1 a.1).swap from
    OrientedCmp.eq_swap
  isLE_trans {a b c} := show (t.localeCompare a.1 b.1).isLE = true →
      (t.localeCompare b.1 c.1).isLE = true → (t.localeCompare a.1 c.1).isLE = true from
    TransCmp.isLE_trans

theorem compareKeys_total (a b : String × Json) :
    (compareKeys t a b).isLE = true ∨ (compareKeys t b a).isLE = true := by
  have hswap : compareKeys t b a = (compareKeys t a b).swap := OrientedCmp.eq_swap
  rw [hswap]
  cases compareKeys t a b <;> simp

theorem sortBy_pairwise (es : List (String × Json)) :
    (sortBy (compareKeys t) es).Pairwise fun a b => (compareKeys t a b).isLE = true :=
  have : Std.Total fun a b : String × Json => (compareKeys t a b).isLE = true := ⟨compareKeys_total⟩
  have : IsTrans (String × Json) fun a b => (compareKeys t a b).isLE = true :=
    ⟨fun _ _ _ hab hbc => TransCmp.isLE_trans hab hbc⟩
  pairwise_insertionSort _ es

theorem Keyed.symm : Std.Symm fun a b : String × Json => compareKeys t a b ≠ .eq :=
  ⟨fun _ _ h h' => h (OrientedCmp.eq_symm h')⟩

theorem Keyed.perm (h : Keyed t es) (hperm : es.Perm fs) : Keyed t fs :=
  List.Pairwise.perm h hperm fun hab => Keyed.symm.symm _ _ hab

theorem sortBy_congr (hperm : es.Perm fs) (hkeyed : Keyed t es) :
    sortBy (compareKeys t) es = sortBy (compareKeys t) fs := by
  refine List.Perm.eq_of_pairwise ?_ (sortBy_pairwise es) (sortBy_pairwise fs)
    ((sortBy_perm _ es).trans (hperm.trans (sortBy_perm _ fs).symm))
  intro a b ha hb hab hba
  have heq : compareKeys t a b = .eq := OrientedCmp.isLE_antisymm hab hba
  have ha : a ∈ es := (sortBy_perm _ es).mem_iff.mp ha
  have hb : b ∈ es := hperm.mem_iff.mpr ((sortBy_perm _ fs).mem_iff.mp hb)
  have := Keyed.symm (t := t)
  by_contra hne
  exact List.Pairwise.forall hkeyed ha hb hne heq

theorem stableForm_of_keyOrder {v w : Json} (h : KeyOrder v w) :
    (ToldApart t v ↔ ToldApart t w) ∧ (ToldApart t v → stableForm t v = stableForm t w) := by
  induction h with
  | refl v => exact ⟨.rfl, fun _ => rfl⟩
  | symm h ih => exact ⟨ih.1.symm, fun hw => (ih.2 (ih.1.mpr hw)).symm⟩
  | trans h h' ih ih' =>
    exact ⟨ih.1.trans ih'.1, fun hu => (ih.2 hu).trans (ih'.2 (ih.1.mp hu))⟩
  | @perm es fs hperm =>
    constructor
    · rw [toldApart_obj, toldApart_obj]
      exact and_congr ⟨fun h => h.perm hperm, fun h => h.perm hperm.symm⟩
        (forall_congr' fun e => by rw [hperm.mem_iff])
    · intro htold
      rw [stableForm, stableForm, stableFields_eq, stableFields_eq]
      refine congrArg Json.obj (sortBy_congr (hperm.map _) ?_)
      refine (Keyed.congr ?_).mp (toldApart_obj.mp htold).1
      rw [map_map]
      rfl
  | item us vs h ih =>
    constructor
    · simp only [toldApart_arr, forall_mem_append, forall_mem_cons, ih.1]
    · intro htold
      have hv := toldApart_arr.mp htold _ (mem_append_right _ mem_cons_self)
      simp only [stableForm, stableForms_eq, map_append, map_cons, ih.2 hv]
  | @entry es k v w fs h ih =>
    have hkeys : (es ++ (k, v) :: fs).map Prod.fst = (es ++ (k, w) :: fs).map Prod.fst := by
      rw [map_append, map_append, map_cons, map_cons]
    constructor
    · simp only [toldApart_obj, Keyed.congr hkeys, forall_mem_append, forall_mem_cons,
        ih.1]
    · intro htold
      have hv := (toldApart_obj.mp htold).2 _ (mem_append_right _ mem_cons_self)
      simp only [stableForm, stableFields_eq, map_append, map_cons, ih.2 hv]

theorem stableForm_eq_iff {v w : Json} (hv : ToldApart t v) :
    stableForm t v = stableForm t w ↔ KeyOrder v w := by
  constructor
  · intro heq
    exact (keyOrder_stableForm t v).trans (heq ▸ (keyOrder_stableForm t w).symm)
  · intro h
    exact (stableForm_of_keyOrder h).2 hv

end Orders

section Hashes

variable {t : Texts} {payload payload' : Json} {metadata metadata' : Option Json}

theorem sortBy_pair {α : Type} (compare : α → α → Ordering) (a b : α) :
    sortBy compare [a, b] = if (compare a b).isLE then [a, b] else [b, a] := rfl

theorem createContentHash_inj (hsha : Function.Injective t.sha256) :
    createContentHash t payload metadata = createContentHash t payload' metadata' ↔
      stableForm t payload = stableForm t payload' ∧
        stableForm t (metadata.getD .null) = stableForm t (metadata'.getD .null) := by
  rw [createContentHash, createContentHash, String.append_right_inj, hsha.eq_iff,
    stableStringify_inj, stableForm, stableForm, Json.obj.injEq]
  simp only [stableFields, sortBy_pair, compareKeys]
  by_cases horder : (t.localeCompare "metadata" "payload").isLE = true
  · simp [horder, and_comm]
  · simp [horder]

theorem createContentHash_eq_iff [TransCmp t.localeCompare] (hsha : Function.Injective t.sha256)
    (hpayload : ToldApart t payload) (hmetadata : ToldApart t (metadata.getD .null)) :
    createContentHash t payload metadata = createContentHash t payload' metadata' ↔
      KeyOrder payload payload' ∧ KeyOrder (metadata.getD .null) (metadata'.getD .null) := by
  rw [createContentHash_inj hsha, stableForm_eq_iff hpayload, stableForm_eq_iff hmetadata]

end Hashes

end ActorWeb.Lattice
