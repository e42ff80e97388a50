import ActorWeb.OrderedMap
import Mathlib.Algebra.Order.Ring.Rat

namespace ActorWeb

open Std

inductive JsNumber
  | finite (value : ℚ)
  | infinite (negative : Bool)
  | nan
deriving DecidableEq

namespace JsNumber

def place : JsNumber → Int
  | infinite true => -1
  | finite _ => 0
  | infinite false => 1
  | nan => 2

def value : JsNumber → ℚ
  | finite q => q
  | _ => 0

def finite? : JsNumber → Option ℚ
  | finite q => some q
  | _ => none

def cmp : JsNumber → JsNumber → Ordering := compareLex (compareOn place) (compareOn value)

instance : TransCmp cmp := inferInstanceAs (TransCmp (compareLex _ _))

def lt (a b : JsNumber) : Bool := a ≠ nan ∧ b ≠ nan ∧ cmp a b = .lt

def le (a b : JsNumber) : Bool := a ≠ nan ∧ b ≠ nan ∧ cmp a b ≠ .gt

def same (a b : JsNumber) : Bool := a ≠ nan ∧ a = b

def ofPlace (place : Int) (value : ℚ) : JsNumber :=
  if place = 0 then finite value
  else if place = 2 then nan
  else infinite (place = -1)

theorem ofPlace_place : (a : JsNumber) → ofPlace a.place a.value = a
  | finite _ => rfl
  | infinite true => rfl
  | infinite false => rfl
  | nan => rfl

theorem cmp_eq_iff {a b : JsNumber} : cmp a b = .eq ↔ a = b := by
  refine ⟨fun h => ?_, fun h => h ▸ ReflCmp.compare_self⟩
  obtain ⟨hplace, hvalue⟩ := compareLex_eq_eq.mp h
  have hplace : a.place = b.place := Std.compare_eq_iff_eq.mp hplace
  have hvalue : a.value = b.value := Std.compare_eq_iff_eq.mp hvalue
  rw [← ofPlace_place a, ← ofPlace_place b, hplace, hvalue]

theorem le_finite {p q : ℚ} : le (finite p) (finite q) = true ↔ p ≤ q := by
  simp only [le, ne_eq, reduceCtorEq, not_false_eq_true, true_and, decide_eq_true_eq, cmp,
    compareLex, compareOn, place, value, Std.compare_self, Ordering.eq_then]
  exact compare_le_iff_le

theorem lt_finite {p q : ℚ} : lt (finite p) (finite q) = true ↔ p < q := by
  simp only [lt, ne_eq, reduceCtorEq, not_false_eq_true, true_and, decide_eq_true_eq, cmp,
    compareLex, compareOn, place, value, Std.compare_self, Ordering.eq_then]
  exact compare_lt_iff_lt

theorem lt_mono {e : JsNumber} {p q : ℚ} (h : lt e (finite p) = true) (hle : p ≤ q) :
    lt e (finite q) = true := by
  cases e with
  | finite r => exact lt_finite.mpr ((lt_finite.mp h).trans_le hle)
  | infinite negative =>
    cases negative with
    | true => rfl
    | false => cases h
  | nan => cases h

end JsNumber

def objectPrototype : List String :=
  ["constructor", "__defineGetter__", "__defineSetter__", "hasOwnProperty", "__lookupGetter__",
    "__lookupSetter__", "isPrototypeOf", "propertyIsEnumerable", "toString", "valueOf",
    "__proto__", "toLocaleString"]

inductive Property (V : Type)
  | own (value : V)
  | inherited
  | missing
deriving DecidableEq

def OrderedMap.property {V : Type} (m : OrderedMap String V) (key : String) : Property V :=
  match m.get key with
  | some v => .own v
  | none => if key ∈ objectPrototype then .inherited else .missing

theorem OrderedMap.property_of_get {V : Type} {m : OrderedMap String V} {key : String} {v : V}
    (h : m.get key = some v) : m.property key = .own v := by
  rw [OrderedMap.property, h]

theorem OrderedMap.property_of_get_none {V : Type} {m : OrderedMap String V} {key : String}
    (h : m.get key = none) :
    m.property key = if key ∈ objectPrototype then .inherited else .missing := by
  rw [OrderedMap.property, h]

end ActorWeb
