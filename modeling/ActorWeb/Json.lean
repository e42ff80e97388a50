import Mathlib.Data.List.Basic

namespace ActorWeb

open Option hiding all_eq_true get

open List

def numeralChar (c : Char) : Bool := c.isDigit || ['+', '-', '.', 'e', 'E'].contains c

structure JsonNumber where
  digits : List Char
  nonempty : digits ≠ []
  numeral : digits.all numeralChar = true
deriving DecidableEq

namespace JsonNumber

def ofNat (n : Nat) : JsonNumber where
  digits := Nat.toDigits 10 n
  nonempty := Nat.toDigits_ne_nil
  numeral := all_eq_true.mpr fun c hc => by
    rw [numeralChar, Nat.isDigit_of_mem_toDigits (by decide) (by decide) hc, Bool.true_or]

def asNat (n : JsonNumber) : Option Nat :=
  if n.digits.all Char.isDigit then some (Nat.ofDigitChars 10 n.digits 0) else none

theorem asNat_ofNat (n : Nat) : (ofNat n).asNat = some n := by
  have hall : (Nat.toDigits 10 n).all Char.isDigit = true :=
    all_eq_true.mpr fun c hc => Nat.isDigit_of_mem_toDigits (by decide) (by decide) hc
  rw [asNat, ofNat, if_pos hall, Nat.ofDigitChars_ten_toDigits]

end JsonNumber

/-- A JSON value. The entries of an object stand in the order they are enumerated in. -/
inductive Json
  | null
  | bool (value : Bool)
  | num (value : JsonNumber)
  | str (value : String)
  | arr (items : List Json)
  | obj (entries : List (String × Json))

namespace Json

def get (v : Json) (key : String) : Option Json :=
  match v with
  | .obj entries => (entries.find? fun e => e.1 = key).map Prod.snd
  | _ => none

section Print

def hexDigit (n : Nat) : Char := if n < 10 then Char.ofNat (48 + n) else Char.ofNat (87 + n)

def escapeChar (c : Char) : List Char :=
  if c = '"' then ['\\', '"']
  else if c = '\\' then ['\\', '\\']
  else if c = '\x08' then ['\\', 'b']
  else if c = '\x0c' then ['\\', 'f']
  else if c = '\n' then ['\\', 'n']
  else if c = '\r' then ['\\', 'r']
  else if c = '\t' then ['\\', 't']
  else if c.toNat < 32 then ['\\', 'u', '0', '0', hexDigit (c.toNat / 16), hexDigit (c.toNat % 16)]
  else [c]

def quote (s : String) : List Char := '"' :: (s.toList.flatMap escapeChar ++ ['"'])

def newline (gap depth : Nat) : List Char :=
  if gap = 0 then [] else '\n' :: List.replicate (gap * depth) ' '

def colon (gap : Nat) : List Char := if gap = 0 then [':'] else [':', ' ']

mutual

def text (gap depth : Nat) : Json → List Char
  | .null => ['n', 'u', 'l', 'l']
  | .bool true => ['t', 'r', 'u', 'e']
  | .bool false => ['f', 'a', 'l', 's', 'e']
  | .num value => value.digits
  | .str value => quote value
  | .arr [] => ['[', ']']
  | .arr (v :: vs) =>
    '[' :: (newline gap (depth + 1) ++ (text gap (depth + 1) v ++ itemsText gap depth vs))
  | .obj [] => ['{', '}']
  | .obj ((k, v) :: es) =>
    '{' :: (newline gap (depth + 1) ++ (quote k ++ (colon gap ++
      (text gap (depth + 1) v ++ entriesText gap depth es))))

def itemsText (gap depth : Nat) : List Json → List Char
  | [] => newline gap depth ++ [']']
  | v :: vs => ',' :: (newline gap (depth + 1) ++ (text gap (depth + 1) v ++ itemsText gap depth vs))

def entriesText (gap depth : Nat) : List (String × Json) → List Char
  | [] => newline gap depth ++ ['}']
  | (k, v) :: es =>
    ',' :: (newline gap (depth + 1) ++ (quote k ++ (colon gap ++
      (text gap (depth + 1) v ++ entriesText gap depth es))))

end

def stringify (gap : Nat) (v : Json) : String := String.ofList (text gap 0 v)

theorem utf8ByteSize_ofList_le (cs : List Char) :
    (String.ofList cs).utf8ByteSize ≤ 4 * cs.length := by
  induction cs with
  | nil => simp
  | cons c cs ih =>
    have hsplit : String.ofList (c :: cs) = String.ofList [c] ++ String.ofList cs := by
      rw [← String.ofList_append, singleton_append]
    have hc : (String.ofList [c]).utf8ByteSize ≤ 4 := by
      rw [← String.singleton_eq_ofList, String.utf8ByteSize_singleton]
      exact Char.utf8Size_le_four c
    rw [hsplit, String.utf8ByteSize_append, length_cons]
    omega

theorem stringify_size_le (gap : Nat) (v : Json) :
    (stringify gap v).utf8ByteSize ≤ 4 * (text gap 0 v).length :=
  utf8ByteSize_ofList_le _

end Print

section Parse

def space (c : Char) : Bool := c = ' ' || c = '\n' || c = '\r' || c = '\t'

def skip (cs : List Char) : List Char := cs.dropWhile space

def hexValue (c : Char) : Option Nat :=
  if '0' ≤ c ∧ c ≤ '9' then some (c.toNat - 48)
  else if 'a' ≤ c ∧ c ≤ 'f' then some (c.toNat - 87)
  else if 'A' ≤ c ∧ c ≤ 'F' then some (c.toNat - 55)
  else none

def unescape : Char → Option Char
  | '"' => some '"'
  | '\\' => some '\\'
  | '/' => some '/'
  | 'b' => some '\x08'
  | 'f' => some '\x0c'
  | 'n' => some '\n'
  | 'r' => some '\r'
  | 't' => some '\t'
  | _ => none

def parseString : List Char → Option (List Char × List Char)
  | [] => none
  | '"' :: rest => some ([], rest)
  | '\\' :: 'u' :: a :: b :: c :: d :: rest =>
    (hexValue a).bind fun a => (hexValue b).bind fun b => (hexValue c).bind fun c =>
      (hexValue d).bind fun d =>
        (parseString rest).map fun r => (Char.ofNat (((a * 16 + b) * 16 + c) * 16 + d) :: r.1, r.2)
  | '\\' :: c :: rest =>
    (unescape c).bind fun x => (parseString rest).map fun r => (x :: r.1, r.2)
  | c :: rest =>
    if c.toNat < 32 then none else (parseString rest).map fun r => (c :: r.1, r.2)

def parseNumber (cs : List Char) : Option (Json × List Char) :=
  let digits := cs.takeWhile numeralChar
  if h : digits ≠ [] ∧ digits.all numeralChar = true then
    some (.num ⟨digits, h.1, h.2⟩, cs.dropWhile numeralChar)
  else none

mutual

def parseValue : Nat → List Char → Option (Json × List Char)
  | 0, _ => none
  | fuel + 1, cs =>
    match skip cs with
    | 'n' :: 'u' :: 'l' :: 'l' :: rest => some (.null, rest)
    | 't' :: 'r' :: 'u' :: 'e' :: rest => some (.bool true, rest)
    | 'f' :: 'a' :: 'l' :: 's' :: 'e' :: rest => some (.bool false, rest)
    | '"' :: rest => (parseString rest).map fun r => (.str (String.ofList r.1), r.2)
    | '[' :: rest =>
      match skip rest with
      | ']' :: rest => some (.arr [], rest)
      | _ =>
        (parseValue fuel rest).bind fun r =>
          (parseItems fuel r.2).map fun q => (.arr (r.1 :: q.1), q.2)
    | '{' :: rest =>
      match skip rest with
      | '}' :: rest => some (.obj [], rest)
      | _ =>
        (parseEntry fuel rest).bind fun r =>
          (parseEntries fuel r.2).map fun q => (.obj (r.1 :: q.1), q.2)
    | cs => parseNumber cs

def parseItems : Nat → List Char → Option (List Json × List Char)
  | 0, _ => none
  | fuel + 1, cs =>
    match skip cs with
    | ']' :: rest => some ([], rest)
    | ',' :: rest =>
      (parseValue fuel rest).bind fun r =>
        (parseItems fuel r.2).map fun q => (r.1 :: q.1, q.2)
    | _ => none

def parseEntry : Nat → List Char → Option ((String × Json) × List Char)
  | 0, _ => none
  | fuel + 1, cs =>
    match skip cs with
    | '"' :: rest =>
      (parseString rest).bind fun k =>
        match skip k.2 with
        | ':' :: rest =>
          (parseValue fuel rest).map fun r => ((String.ofList k.1, r.1), r.2)
        | _ => none
    | _ => none

def parseEntries : Nat → List Char → Option (List (String × Json) × List Char)
  | 0, _ => none
  | fuel + 1, cs =>
    match skip cs with
    | '}' :: rest => some ([], rest)
    | ',' :: rest =>
      (parseEntry fuel rest).bind fun r =>
        (parseEntries fuel r.2).map fun q => (r.1 :: q.1, q.2)
    | _ => none

end

def parse (s : String) : Option Json :=
  (parseValue (s.toList.length + 1) s.toList).bind fun r =>
    if skip r.2 = [] then some r.1 else none

end Parse

section RoundTrip

variable {gap depth : Nat}

variable {c : Char} {fuel : Nat} {cs ds : List Char}

theorem skip_space (h : space c = true) (cs : List Char) : skip (c :: cs) = skip cs :=
  List.dropWhile_cons_of_pos h

theorem skip_cons (h : space c = false) (cs : List Char) : skip (c :: cs) = c :: cs :=
  List.dropWhile_cons_of_neg (by simp [h])

theorem skip_spaces (n : Nat) (cs : List Char) : skip (List.replicate n ' ' ++ cs) = skip cs := by
  induction n with
  | zero => rfl
  | succ n ih => rw [List.replicate_succ, cons_append, skip_space rfl, ih]

@[simp] theorem skip_newline (gap depth : Nat) (cs : List Char) :
    skip (newline gap depth ++ cs) = skip cs := by
  unfold newline
  split
  case isTrue => rfl
  case isFalse => rw [cons_append, skip_space rfl, skip_spaces]

theorem hexValue_hexDigit : ∀ n : Fin 16, hexValue (hexDigit n) = some n.val := by decide

theorem ofNat_hex (c : Char) :
    Char.ofNat (((0 * 16 + 0) * 16 + c.toNat / 16) * 16 + c.toNat % 16) = c := by
  have heq : ((0 * 16 + 0) * 16 + c.toNat / 16) * 16 + c.toNat % 16 = c.toNat := by omega
  rw [heq, Char.ofNat_toNat]

theorem parseString_escapeChar (c : Char) (rest : List Char) :
    parseString (escapeChar c ++ rest) = (parseString rest).map fun r => (c :: r.1, r.2) := by
  unfold escapeChar
  split
  case isTrue h => subst h; rfl
  split
  case isTrue h => subst h; rfl
  split
  case isTrue h => subst h; rfl
  split
  case isTrue h => subst h; rfl
  split
  case isTrue h => subst h; rfl
  split
  case isTrue h => subst h; rfl
  split
  case isTrue h => subst h; rfl
  split
  case isTrue hcontrol =>
    have hhigh := hexValue_hexDigit ⟨c.toNat / 16, by omega⟩
    have hlow := hexValue_hexDigit ⟨c.toNat % 16, by omega⟩
    have hzero : hexValue '0' = some 0 := by decide
    simp only [cons_append, nil_append, parseString, hhigh, hlow, hzero,
      bind_some, ofNat_hex c]
  case isFalse hquote hslash _ _ _ _ _ hplain =>
    rw [cons_append, nil_append, parseString.eq_def]
    split
    case h_1 heq => cases heq
    case h_2 heq => exact absurd (List.cons.inj heq).1 hquote
    case h_3 heq => exact absurd (List.cons.inj heq).1 hslash
    case h_4 heq => exact absurd (List.cons.inj heq).1 hslash
    case h_5 heq =>
      cases heq
      rw [if_neg hplain]

theorem parseString_quoted (s rest : List Char) :
    parseString (s.flatMap escapeChar ++ '"' :: rest) = some (s, rest) := by
  induction s with
  | nil => rfl
  | cons c s ih => rw [flatMap_cons, append_assoc, parseString_escapeChar, ih]; rfl

def Stops (rest : List Char) : Prop := ∀ c cs, rest = c :: cs → numeralChar c = false

theorem stops_newline (hc : numeralChar c = false) (cs : List Char) :
    Stops (newline gap depth ++ c :: cs) := by
  intro d ds h
  unfold newline at h
  split at h
  case isTrue => exact (List.cons.inj h).1 ▸ hc
  case isFalse => exact (List.cons.inj h).1 ▸ rfl

variable {rest : List Char}

variable (n : JsonNumber)

theorem span_digits (h : Stops rest) : (n.digits ++ rest).takeWhile numeralChar = n.digits ∧
      (n.digits ++ rest).dropWhile numeralChar = rest := by
  have hall : ∀ c ∈ n.digits, numeralChar c = true := all_eq_true.mp n.numeral
  rw [takeWhile_append_of_pos hall, dropWhile_append_of_pos hall]
  cases rest with
  | nil => simp
  | cons c cs => simp [h c cs rfl]

theorem parseNumber_digits (h : Stops rest) :
    parseNumber (n.digits ++ rest) = some (.num n, rest) := by
  obtain ⟨htake, hdrop⟩ := span_digits n h
  simp only [parseNumber, htake, hdrop, n.nonempty, n.numeral, ne_eq, not_false_eq_true, and_self,
    dif_pos]

theorem numeral_head (rest : List Char) :
    ∃ c cs, n.digits ++ rest = c :: cs ∧ numeralChar c = true := by
  cases hdigits : n.digits with
  | nil => exact absurd hdigits n.nonempty
  | cons c cs =>
    have hall := n.numeral
    rw [hdigits, all_cons, Bool.and_eq_true] at hall
    exact ⟨c, cs ++ rest, rfl, hall.1⟩

theorem parseValue_number (h : Stops rest) (fuel : Nat) :
    parseValue (fuel + 1) (n.digits ++ rest) = some (.num n, rest) := by
  obtain ⟨c, cs, heq, hc⟩ := numeral_head n rest
  have hspace : space c = false := by
    by_contra hspace
    simp only [space, Bool.not_eq_false, Bool.or_eq_true, decide_eq_true_eq] at hspace
    obtain ((rfl | rfl) | rfl) | rfl := hspace <;> simp [numeralChar] at hc
  rw [← parseNumber_digits n h, parseValue, heq, skip_cons hspace]
  split
  all_goals first | rfl | (rename_i hcons; cases hcons; simp [numeralChar] at hc)

theorem parseString_quote (k : String) (rest : List Char) :
    ∃ cs, quote k ++ rest = '"' :: cs ∧ parseString cs = some (k.toList, rest) := by
  refine ⟨k.toList.flatMap escapeChar ++ '"' :: rest, ?_, parseString_quoted k.toList rest⟩
  simp only [quote, cons_append, append_assoc, nil_append]

theorem text_head (v : Json) (rest : List Char) :
    ∃ c cs, v.text gap depth ++ rest = c :: cs ∧ space c = false ∧ c ≠ ']' ∧ c ≠ '}' := by
  cases v with
  | null | str s => exact ⟨_, _, rfl, by decide, by decide, by decide⟩
  | bool b => cases b <;> exact ⟨_, _, rfl, by decide, by decide, by decide⟩
  | num n =>
    obtain ⟨c, cs, heq, hc⟩ := numeral_head n rest
    refine ⟨c, cs, heq, ?_, ?_, ?_⟩
    · by_contra hspace
      simp only [space, Bool.not_eq_false, Bool.or_eq_true, decide_eq_true_eq] at hspace
      obtain ((rfl | rfl) | rfl) | rfl := hspace <;> simp [numeralChar] at hc
    · rintro rfl
      simp [numeralChar] at hc
    · rintro rfl
      simp [numeralChar] at hc
  | arr items => cases items <;> exact ⟨_, _, rfl, by decide, by decide, by decide⟩
  | obj entries => cases entries <;> exact ⟨_, _, rfl, by decide, by decide, by decide⟩

theorem stops_items (vs : List Json) (rest : List Char) : Stops (itemsText gap depth vs ++ rest) := by
  cases vs with
  | nil =>
    rw [itemsText, append_assoc]
    exact stops_newline rfl _
  | cons v vs => exact fun c cs h => (List.cons.inj h).1 ▸ rfl

theorem stops_entries (es : List (String × Json)) (rest : List Char) :
    Stops (entriesText gap depth es ++ rest) := by
  cases es with
  | nil =>
    rw [entriesText, append_assoc]
    exact stops_newline rfl _
  | cons e es => exact fun c cs h => (List.cons.inj h).1 ▸ rfl

theorem skip_colon (gap : Nat) (cs : List Char) : ∃ ds, skip (colon gap ++ cs) = ':' :: ds ∧
    skip ds = skip cs := by
  unfold colon
  split
  case isTrue => exact ⟨cs, rfl, rfl⟩
  case isFalse => exact ⟨' ' :: cs, rfl, rfl⟩

theorem parseValue_skip (h : skip cs = skip ds) : parseValue fuel cs = parseValue fuel ds := by
  cases fuel with
  | zero => rfl
  | succ fuel => rw [parseValue, parseValue, h]

theorem parseEntry_skip (h : skip cs = skip ds) : parseEntry fuel cs = parseEntry fuel ds := by
  cases fuel with
  | zero => rfl
  | succ fuel => rw [parseEntry, parseEntry, h]

theorem parseValue_array (h : skip cs = c :: ds) (hclose : c ≠ ']') :
    parseValue (fuel + 1) ('[' :: cs) = (parseValue fuel cs).bind fun r =>
      (parseItems fuel r.2).map fun q => (.arr (r.1 :: q.1), q.2) := by
  rw [parseValue, skip_cons rfl]
  simp only [h]
  split
  case h_1 heq => exact absurd (List.cons.inj heq).1 hclose
  case h_2 => rfl

theorem parseValue_object (h : skip cs = c :: ds) (hclose : c ≠ '}') :
    parseValue (fuel + 1) ('{' :: cs) = (parseEntry fuel cs).bind fun r =>
      (parseEntries fuel r.2).map fun q => (.obj (r.1 :: q.1), q.2) := by
  rw [parseValue, skip_cons rfl]
  simp only [h]
  split
  case h_1 heq => exact absurd (List.cons.inj heq).1 hclose
  case h_2 => rfl

theorem parseEntry_quote {k : String} {v : Json} (h : parseValue fuel cs = some (v, rest)) :
    parseEntry (fuel + 1) (quote k ++ (colon gap ++ cs)) = some ((k, v), rest) := by
  obtain ⟨ds, heq, hparse⟩ := parseString_quote k (colon gap ++ cs)
  obtain ⟨es, hcolon, hskip⟩ := skip_colon gap cs
  rw [heq, parseEntry, skip_cons rfl]
  simp only [hparse, bind_some, hcolon, parseValue_skip hskip, h, map_some,
    String.ofList_toList]

mutual

theorem parseValue_text (v : Json) (gap depth fuel : Nat) (rest : List Char) (hstops : Stops rest)
    (hfuel : (v.text gap depth).length ≤ fuel) :
    parseValue fuel (v.text gap depth ++ rest) = some (v, rest) := by
  match v, fuel with
  | .null, 0 | .bool true, 0 | .bool false, 0 | .str _, 0 | .arr [], 0 | .arr (_ :: _), 0
  | .obj [], 0 | .obj ((_, _) :: _), 0 => simp [text, quote] at hfuel
  | .num n, 0 => exact absurd (length_eq_zero_iff.mp (Nat.le_zero.mp hfuel)) n.nonempty
  | .null, fuel + 1 => rfl
  | .bool true, fuel + 1 => rfl
  | .bool false, fuel + 1 => rfl
  | .num n, fuel + 1 => exact parseValue_number n hstops fuel
  | .str s, fuel + 1 =>
    obtain ⟨cs, heq, hparse⟩ := parseString_quote s rest
    rw [text, heq, parseValue, skip_cons rfl]
    simp only [hparse, map_some, String.ofList_toList]
  | .arr [], fuel + 1 => rfl
  | .arr (v :: vs), fuel + 1 =>
    simp only [text, length_cons, length_append] at hfuel
    obtain ⟨c, cs, heq, hspace, hclose, -⟩ := text_head v (itemsText gap depth vs ++ rest)
    have hhead := (skip_newline gap (depth + 1) _).trans
      ((congrArg skip heq).trans (skip_cons hspace cs))
    have hv := parseValue_text v gap (depth + 1) fuel (itemsText gap depth vs ++ rest)
      (stops_items vs rest) (by omega)
    have hvs := parseItems_text vs gap depth fuel rest (by omega)
    rw [text, cons_append, append_assoc, append_assoc,
      parseValue_array hhead hclose, parseValue_skip (skip_newline gap (depth + 1) _), hv]
    simp only [bind_some, hvs, map_some]
  | .obj [], fuel + 1 => rfl
  | .obj ((k, v) :: es), fuel + 1 =>
    simp only [text, length_cons, length_append] at hfuel
    have hentry := parseEntry_text k v gap depth fuel (entriesText gap depth es ++ rest)
      (stops_entries es rest) (by rw [length_append]; omega)
    have hes := parseEntries_text es gap depth fuel rest (by omega)
    obtain ⟨cs, heq, -⟩ := parseString_quote k
      (colon gap ++ (text gap (depth + 1) v ++ (entriesText gap depth es ++ rest)))
    have hhead := (skip_newline gap (depth + 1) _).trans
      ((congrArg skip heq).trans (skip_cons rfl cs))
    simp only [text, cons_append, append_assoc]
    rw [parseValue_object hhead (by decide), parseEntry_skip (skip_newline gap (depth + 1) _),
      hentry]
    simp only [bind_some, hes, map_some]

theorem parseItems_text (vs : List Json) (gap depth fuel : Nat) (rest : List Char)
    (hfuel : (itemsText gap depth vs).length ≤ fuel) :
    parseItems fuel (itemsText gap depth vs ++ rest) = some (vs, rest) := by
  match vs, fuel with
  | [], 0 => simp [itemsText] at hfuel
  | _ :: _, 0 => simp [itemsText] at hfuel
  | [], fuel + 1 =>
    rw [itemsText, parseItems, append_assoc, skip_newline]
    rfl
  | v :: vs, fuel + 1 =>
    simp only [itemsText, length_cons, length_append] at hfuel
    have hv := parseValue_text v gap (depth + 1) fuel (itemsText gap depth vs ++ rest)
      (stops_items vs rest) (by omega)
    have hvs := parseItems_text vs gap depth fuel rest (by omega)
    rw [itemsText, cons_append, append_assoc, append_assoc, parseItems, skip_cons rfl]
    simp only [parseValue_skip (skip_newline gap (depth + 1) _), hv, hvs, bind_some,
      map_some]

theorem parseEntries_text (es : List (String × Json)) (gap depth fuel : Nat) (rest : List Char)
    (hfuel : (entriesText gap depth es).length ≤ fuel) :
    parseEntries fuel (entriesText gap depth es ++ rest) = some (es, rest) := by
  match es, fuel with
  | [], 0 | (_, _) :: _, 0 => simp [entriesText] at hfuel
  | [], fuel + 1 =>
    rw [entriesText, parseEntries, append_assoc, skip_newline]
    rfl
  | (k, v) :: es, fuel + 1 =>
    simp only [entriesText, length_cons, length_append] at hfuel
    have hentry := parseEntry_text k v gap depth fuel (entriesText gap depth es ++ rest)
      (stops_entries es rest) (by rw [length_append]; omega)
    have hes := parseEntries_text es gap depth fuel rest (by omega)
    simp only [entriesText, cons_append, append_assoc]
    rw [parseEntries, skip_cons rfl]
    simp only [parseEntry_skip (skip_newline gap (depth + 1) _), hentry, hes, bind_some,
      map_some]

theorem parseEntry_text (k : String) (v : Json) (gap depth fuel : Nat) (rest : List Char)
    (hstops : Stops rest) (hfuel : (quote k ++ text gap (depth + 1) v).length ≤ fuel) :
    parseEntry fuel (quote k ++ (colon gap ++ (text gap (depth + 1) v ++ rest))) =
      some ((k, v), rest) := by
  match fuel with
  | 0 => simp [quote] at hfuel
  | fuel + 1 =>
    simp only [quote, length_cons, length_append, cons_append] at hfuel
    exact parseEntry_quote (parseValue_text v gap (depth + 1) fuel rest hstops (by omega))

end

theorem parse_stringify (gap : Nat) (v : Json) : parse (stringify gap v) = some v := by
  have hparse := parseValue_text v gap 0 ((text gap 0 v).length + 1) []
    (fun _ _ h => by cases h) (Nat.le_succ _)
  rw [append_nil] at hparse
  rw [parse, stringify, String.toList_ofList, hparse]
  rfl

theorem stringify_injective {gap : Nat} {v w : Json} (h : stringify gap v = stringify gap w) :
    v = w := by
  have hparse := congrArg parse h
  rw [parse_stringify, parse_stringify] at hparse
  exact some.inj hparse

instance : DecidableEq Json := fun _ _ =>
  decidable_of_iff (stringify 0 _ = stringify 0 _) ⟨stringify_injective, congrArg _⟩

end RoundTrip

end Json

end ActorWeb
