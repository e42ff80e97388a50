import ActorWeb.Json
import Mathlib.Data.List.TakeWhile

/-! Strings as the language of the source reads and prints them. -/

namespace ActorWeb.JsText

open List

def truthy (value : Option String) : Bool := value.any (· ≠ "")

variable (c : Char)

def isSpace : Bool :=
  [0x09, 0x0A, 0x0B, 0x0C, 0x0D, 0x20, 0xA0, 0x1680, 0x2028, 0x2029, 0x202F, 0x205F, 0x3000,
    0xFEFF].contains c.toNat || (0x2000 ≤ c.toNat && c.toNat ≤ 0x200A)

variable (s : String)

def trim : String :=
  String.ofList (((s.toList.dropWhile isSpace).reverse.dropWhile isSpace).reverse)

theorem trim_ne_empty_iff : trim s ≠ "" ↔ ∃ c ∈ s.toList, ¬isSpace c = true := by
  have hkept : (∀ c ∈ (s.toList.dropWhile isSpace).reverse, isSpace c = true) ↔
      ∀ c ∈ s.toList, isSpace c = true := by
    constructor
    · intro h c hc
      rw [← takeWhile_append_dropWhile (p := isSpace) (l := s.toList)] at hc
      obtain hc | hc := mem_append.mp hc
      · exact mem_takeWhile_imp hc
      · exact h c (mem_reverse.mpr hc)
    · exact fun h c hc => h c ((dropWhile_sublist _).subset (mem_reverse.mp hc))
  have hempty : trim s = "" ↔ ∀ c ∈ s.toList, isSpace c = true := by
    rw [trim, String.ofList_eq_empty_iff, reverse_eq_nil_iff, dropWhile_eq_nil_iff, hkept]
  simp only [ne_eq, hempty, not_forall, exists_prop]

structure NonEmptyString where
  value : String
  valid : trim value ≠ ""
deriving DecidableEq

def unreserved : Bool :=
  c.isAlphanum || ['-', '_', '.', '!', '~', '*', '\'', '(', ')'].contains c

def hexDigit (n : Nat) : Char := if n < 10 then Char.ofNat (48 + n) else Char.ofNat (55 + n)

def encodeChar : List Char :=
  if unreserved c then [c]
  else (String.utf8EncodeChar c).flatMap fun b =>
    ['%', hexDigit (b.toNat / 16), hexDigit (b.toNat % 16)]

def encodeURIComponent : String := String.ofList (s.toList.flatMap encodeChar)

def octets : List Char → Option (List UInt8)
  | [] => some []
  | '%' :: a :: b :: rest =>
    match Json.hexValue a, Json.hexValue b with
    | some high, some low => (octets rest).map (UInt8.ofNat (high * 16 + low) :: ·)
    | _, _ => none
  | c :: rest => if c = '%' then none else (octets rest).map (String.utf8EncodeChar c ++ ·)

/-- `none` where it throws. -/
def decodeURIComponent (cs : List Char) : Option (List Char) :=
  (octets cs).bind fun bytes => bytes.toByteArray.utf8Decode?.map Array.toList

theorem octets_percent (bytes : List UInt8) (rest : List Char) :
    octets (bytes.flatMap (fun b => ['%', hexDigit (b.toNat / 16), hexDigit (b.toNat % 16)]) ++ rest) =
      (octets rest).map (bytes ++ ·) := by
  have hdigit : ∀ n : Fin 16, Json.hexValue (hexDigit n) = some n.val := by decide
  induction bytes with
  | nil => simp
  | cons b bytes ih =>
    have hbyte := b.toNat_lt
    have hhigh := hdigit ⟨b.toNat / 16, by omega⟩
    have hlow := hdigit ⟨b.toNat % 16, by omega⟩
    have hb : UInt8.ofNat (b.toNat / 16 * 16 + b.toNat % 16) = b := by
      rw [Nat.div_add_mod', UInt8.ofNat_toNat]
    simp only at hhigh hlow
    simp only [flatMap_cons, cons_append, nil_append, octets, hhigh, hlow, hb, ih]
    simp [Function.comp_def]

theorem octets_encodeChar (rest : List Char) :
    octets (encodeChar c ++ rest) = (octets rest).map (String.utf8EncodeChar c ++ ·) := by
  unfold encodeChar
  split
  case isTrue hc =>
    have hpercent : c ≠ '%' := by rintro rfl; exact absurd hc (by decide)
    rw [singleton_append, octets.eq_3, if_neg hpercent]
    exact fun _ _ _ heq => absurd heq hpercent
  case isFalse => exact octets_percent _ _

theorem decodeURIComponent_encode (cs : List Char) :
    decodeURIComponent (cs.flatMap encodeChar) = some cs := by
  have hoctets : octets (cs.flatMap encodeChar) = some (cs.flatMap String.utf8EncodeChar) := by
    induction cs with
    | nil => rfl
    | cons c cs ih => rw [flatMap_cons, octets_encodeChar, ih, flatMap_cons]; rfl
  rw [decodeURIComponent, hoctets, Option.bind_some]
  exact congrArg (Option.map Array.toList) List.utf8Decode?_utf8Encode

theorem encodeURIComponent_injective {s t : String}
    (h : encodeURIComponent s = encodeURIComponent t) : s = t := by
  have hdecode := decodeURIComponent_encode s.toList
  rw [String.ofList_injective h, decodeURIComponent_encode] at hdecode
  exact String.toList_injective (Option.some.inj hdecode).symm

theorem not_mem_encode {d : Char}
    (hd : unreserved d = false ∧ d ≠ '%' ∧ ∀ n < 16, d ≠ hexDigit n) (cs : List Char) :
    d ∉ cs.flatMap encodeChar := by
  intro hmem
  obtain ⟨c, -, hc⟩ := mem_flatMap.mp hmem
  unfold encodeChar at hc
  split at hc
  case isTrue h =>
    rw [← mem_singleton.mp hc, hd.1] at h
    cases h
  case isFalse =>
    obtain ⟨b, -, hb⟩ := mem_flatMap.mp hc
    have hbyte := b.toNat_lt
    simp only [mem_cons, not_mem_nil, or_false] at hb
    obtain hb | hb | hb := hb
    · exact hd.2.1 hb
    · exact hd.2.2 (b.toNat / 16) (by omega) hb
    · exact hd.2.2 (b.toNat % 16) (by omega) hb

theorem plain_encodeURIComponent : ':' ∉ (encodeURIComponent s).toList := by
  rw [encodeURIComponent, String.toList_ofList]
  exact not_mem_encode (by decide) _

theorem toString_injective {n m : Nat} (h : toString n = toString m) : n = m := by
  have hdigits := congrArg String.toList h
  simp only [Nat.toString_eq_repr, Nat.toList_repr] at hdigits
  have hvalue := congrArg (fun digits => Nat.ofDigitChars 10 digits 0) hdigits
  simpa only [Nat.ofDigitChars_ten_toDigits] using hvalue

theorem split_at_last {α : Type} {a : α} {xs ys xs' ys' : List α} (h : xs ++ a :: ys = xs' ++ a :: ys')
    (hys : a ∉ ys) (hys' : a ∉ ys') : xs = xs' ∧ ys = ys' := by
  rcases append_eq_append_iff.mp h with ⟨as, rfl, htail⟩ | ⟨as, rfl, htail⟩
  all_goals
    cases as with
    | nil => simp_all
    | cons b as =>
      cases htail
      simp at hys hys'

theorem split_at_first {α : Type} {a : α} {xs ys xs' ys' : List α}
    (h : xs ++ a :: ys = xs' ++ a :: ys') (hxs : a ∉ xs) (hxs' : a ∉ xs') : xs = xs' ∧ ys = ys' := by
  rcases append_eq_append_iff.mp h with ⟨as, rfl, htail⟩ | ⟨as, rfl, htail⟩
  all_goals
    cases as with
    | nil => simp_all
    | cons b as =>
      cases htail
      simp at hxs hxs'

def templateText (value : Option NonEmptyString) : String :=
  (value.map NonEmptyString.value).getD "null"

def padded (width n : Nat) : String :=
  let digits := toString n
  "".pushn '0' (width - digits.length) ++ digits

def maxTimeValue : Nat := 8640000000000000

def civil (day : Int) : Int × Nat × Nat :=
  let shifted := day + 719468
  let era := shifted / 146097
  let dayOfEra := (shifted % 146097).toNat
  let yearOfEra := (dayOfEra - dayOfEra / 1460 + dayOfEra / 36524 - dayOfEra / 146096) / 365
  let dayOfYear := dayOfEra - (365 * yearOfEra + yearOfEra / 4 - yearOfEra / 100)
  let monthIndex := (5 * dayOfYear + 2) / 153
  let month := if monthIndex < 10 then monthIndex + 3 else monthIndex - 9
  (era * 400 + yearOfEra + (if month ≤ 2 then 1 else 0), month,
    dayOfYear - (153 * monthIndex + 2) / 5 + 1)

def yearText (year : Int) : String :=
  if 0 ≤ year ∧ year ≤ 9999 then padded 4 year.toNat
  else (if year < 0 then "-" else "+") ++ padded 6 year.natAbs

def toISOString (ms : Int) : Option String :=
  if ms.natAbs ≤ maxTimeValue then
    let (year, month, day) := civil (ms / 86400000)
    let rest := (ms % 86400000).toNat
    some (yearText year ++ "-" ++ padded 2 month ++ "-" ++ padded 2 day ++ "T" ++
      padded 2 (rest / 3600000) ++ ":" ++ padded 2 (rest / 60000 % 60) ++ ":" ++
      padded 2 (rest / 1000 % 60) ++ "." ++ padded 3 (rest % 1000) ++ "Z")
  else none

def numberOf (cs : List Char) : Option Nat :=
  if cs.all Char.isDigit then some (Nat.ofDigitChars 10 cs 0) else none

def dayNumber (year month day : Nat) : Int :=
  let shifted : Int := if month ≤ 2 then year - 1 else year
  let era := shifted / 400
  let yearOfEra := (shifted % 400).toNat
  let dayOfYear := (153 * (if month ≤ 2 then month + 9 else month - 3) + 2) / 5 + day - 1
  era * 146097 + (yearOfEra * 365 + yearOfEra / 4 - yearOfEra / 100 + dayOfYear : Nat) - 719468

/-- `Date.parse` of a text in the format of `toISOString` with a year of four digits. -/
def dateParse : Option Int :=
  match s.toList with
  | [y1, y2, y3, y4, '-', m1, m2, '-', d1, d2, 'T', h1, h2, ':', i1, i2, ':', s1, s2, '.', f1, f2, f3,
      'Z'] =>
      (numberOf [y1, y2, y3, y4]).bind fun year => (numberOf [m1, m2]).bind fun month =>
      (numberOf [d1, d2]).bind fun day => (numberOf [h1, h2]).bind fun hour =>
      (numberOf [i1, i2]).bind fun minute => (numberOf [s1, s2]).bind fun second =>
      (numberOf [f1, f2, f3]).bind fun milli =>
        if 1 ≤ month ∧ month ≤ 12 ∧ 1 ≤ day ∧ day ≤ 31 ∧ hour ≤ 24 ∧ minute ≤ 59 ∧ second ≤ 59 then
          some (dayNumber year month day * 86400000 +
            (hour * 3600000 + minute * 60000 + second * 1000 + milli : Nat))
        else none
  | _ => none

def isIsoDateString : Bool := (dateParse s).any fun ms => toISOString ms = some s

example : isIsoDateString "2024-02-29T23:59:59.999Z" = true := by decide +kernel

example : isIsoDateString "2026-02-29T00:00:00.000Z" = false := by decide +kernel

example : toISOString 1783004430000 = some "2026-07-02T15:00:30.000Z" := by decide +kernel

end ActorWeb.JsText
