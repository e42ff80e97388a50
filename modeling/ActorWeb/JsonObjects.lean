import ActorWeb.Json
import Mathlib.Algebra.Order.Field.Rat

/-! Object literals of JSON values, and the numbers that they hold. -/

namespace ActorWeb

open List

namespace JsonNumber

def decimal (cs : List Char) : ℚ :=
  let fraction := (cs.dropWhile (· ≠ '.')).drop 1
  Nat.ofDigitChars 10 (cs.takeWhile (· ≠ '.')) 0 +
    (Nat.ofDigitChars 10 fraction 0 : ℚ) / 10 ^ fraction.length

def exponent : List Char → Int
  | '-' :: cs => -(Nat.ofDigitChars 10 cs 0 : Int)
  | '+' :: cs => Nat.ofDigitChars 10 cs 0
  | cs => Nat.ofDigitChars 10 cs 0

def magnitude (cs : List Char) : ℚ :=
  decimal (cs.takeWhile (· ≠ 'e')) * 10 ^ exponent ((cs.dropWhile (· ≠ 'e')).drop 1)

def value (n : JsonNumber) : ℚ :=
  match n.digits with
  | '-' :: cs => -magnitude cs
  | cs => magnitude cs

end JsonNumber

namespace Json

def object (fields : List (String × Option Json)) : Json :=
  .obj (fields.flatMap fun f => f.2.toList.map fun v => (f.1, v))

theorem get_obj_cons (key : String) (e : String × Json) (entries : List (String × Json)) :
    (Json.obj (e :: entries)).get key = if e.1 = key then some e.2 else (Json.obj entries).get key := by
  simp only [Json.get, find?_cons]
  by_cases h : e.1 = key <;> simp [h]

theorem get_object_of_not_mem {fields : List (String × Option Json)} {key : String}
    (h : key ∉ fields.map Prod.fst) : (object fields).get key = none := by
  induction fields with
  | nil => rfl
  | cons f fields ih =>
    rw [map_cons, mem_cons, not_or] at h
    obtain ⟨name, value⟩ := f
    cases value with
    | none => exact ih h.2
    | some v =>
      rw [object, flatMap_cons, Option.toList_some, map_singleton, singleton_append,
        get_obj_cons, if_neg (Ne.symm h.1)]
      exact ih h.2

theorem get_object {fields : List (String × Option Json)} (h : (fields.map Prod.fst).Nodup)
    (key : String) : (object fields).get key = (fields.lookup key).join := by
  induction fields with
  | nil => rfl
  | cons f fields ih =>
    rw [map_cons, nodup_cons] at h
    obtain ⟨name, value⟩ := f
    by_cases hkey : key = name
    · subst hkey
      rw [lookup_cons_self, Option.join_some]
      cases value with
      | none => exact (get_object_of_not_mem h.1 : (object fields).get key = none)
      | some v =>
        rw [object, flatMap_cons, Option.toList_some, map_singleton,
          singleton_append, get_obj_cons, if_pos rfl]
    · rw [lookup_cons, beq_false_of_ne hkey]
      cases value with
      | none => exact ih h.2
      | some v =>
        rw [object, flatMap_cons, Option.toList_some, map_singleton,
          singleton_append, get_obj_cons, if_neg (Ne.symm hkey)]
        exact ih h.2

end Json

end ActorWeb
