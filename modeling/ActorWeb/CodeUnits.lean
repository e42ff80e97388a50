import ActorWeb.JsText

/-! Strings of 16-bit code units, in which a surrogate may stand alone. -/

namespace ActorWeb.CodeUnits

open List

abbrev JsString := List UInt16

def highSurrogate (u : UInt16) : Bool := 0xD800 ≤ u.toNat && u.toNat < 0xDC00

def lowSurrogate (u : UInt16) : Bool := 0xDC00 ≤ u.toNat && u.toNat < 0xE000

def supplementary (high low : UInt16) : Char :=
  Char.ofNat (0x10000 + (high.toNat - 0xD800) * 0x400 + (low.toNat - 0xDC00))

/-- The characters that code units write, unless a surrogate stands alone. -/
def decode : JsString → Option (List Char)
  | [] => some []
  | u :: us =>
    if highSurrogate u then
      match us with
      | [] => none
      | v :: rest =>
        if lowSurrogate v then (decode rest).map (supplementary u v :: ·) else none
    else if lowSurrogate u then none
    else (decode us).map (Char.ofNat u.toNat :: ·)

def units (c : Char) : JsString :=
  if c.toNat < 0x10000 then [UInt16.ofNat c.toNat]
  else [UInt16.ofNat (0xD800 + (c.toNat - 0x10000) / 0x400),
    UInt16.ofNat (0xDC00 + (c.toNat - 0x10000) % 0x400)]

variable (s : JsString)

def WellFormed : Prop := (decode s).isSome = true

instance (s : JsString) : Decidable (WellFormed s) := inferInstanceAs (Decidable (_ = true))

theorem units_supplementary {u v : UInt16} (hu : highSurrogate u = true) (hv : lowSurrogate v = true) :
    units (supplementary u v) = [u, v] := by
  simp only [highSurrogate, lowSurrogate, Bool.and_eq_true, decide_eq_true_eq] at hu hv
  have hvalid : (0x10000 + (u.toNat - 0xD800) * 0x400 + (v.toNat - 0xDC00)).isValidChar := by
    right
    omega
  have hcode : (supplementary u v).toNat =
      0x10000 + (u.toNat - 0xD800) * 0x400 + (v.toNat - 0xDC00) := by
    rw [supplementary, Char.ofNat, dif_pos hvalid]
    rfl
  have hbig : ¬ (supplementary u v).toNat < 0x10000 := by omega
  have hhigh : 0xD800 + ((supplementary u v).toNat - 0x10000) / 0x400 = u.toNat := by omega
  have hlow : 0xDC00 + ((supplementary u v).toNat - 0x10000) % 0x400 = v.toNat := by omega
  rw [units, if_neg hbig, hhigh, hlow, UInt16.ofNat_toNat, UInt16.ofNat_toNat]

theorem units_plain {u : UInt16} (hu : highSurrogate u = false) (hl : lowSurrogate u = false) :
    units (Char.ofNat u.toNat) = [u] := by
  have hbound := u.toNat_lt
  simp only [highSurrogate, lowSurrogate, Bool.and_eq_false_iff, decide_eq_false_iff_not] at hu hl
  have hvalid : u.toNat.isValidChar := by
    rw [Nat.isValidChar]
    omega
  have hcode : (Char.ofNat u.toNat).toNat = u.toNat := by
    rw [Char.ofNat, dif_pos hvalid]
    rfl
  rw [units, hcode, if_pos (by omega), UInt16.ofNat_toNat]

theorem units_decode {s : JsString} {cs : List Char} (h : decode s = some cs) :
    cs.flatMap units = s := by
  induction s using decode.induct generalizing cs with
  | case1 =>
    rw [decode] at h
    cases h
    rfl
  | case2 u hu =>
    rw [decode, if_pos hu] at h
    cases h
  | case3 u hu v rest hv ih =>
    simp only [decode, hu, hv, if_true, Option.map_eq_some_iff] at h
    obtain ⟨ds, hds, rfl⟩ := h
    rw [flatMap_cons, units_supplementary hu hv, ih hds]
    rfl
  | case4 u hu v rest hv =>
    simp only [decode, hu, hv, if_true] at h
    cases h
  | case5 u us hu hl =>
    rw [decode.eq_def] at h
    simp only [hu, hl, Bool.false_eq_true, if_false, if_true] at h
    cases h
  | case6 u us hu hl ih =>
    rw [decode.eq_def] at h
    simp only [hu, hl, Bool.false_eq_true, if_false, Option.map_eq_some_iff] at h
    obtain ⟨ds, hds, rfl⟩ := h
    rw [flatMap_cons, units_plain (Bool.eq_false_iff.mpr hu) (Bool.eq_false_iff.mpr hl),
      ih hds]
    rfl

theorem decode_injective {s t : JsString} {cs : List Char} (hs : decode s = some cs)
    (ht : decode t = some cs) : s = t := (units_decode hs).symm.trans (units_decode ht)

def encodeURIComponent : Option String :=
  (decode s).map fun cs => JsText.encodeURIComponent (String.ofList cs)

theorem encodeURIComponent_injective {s t : JsString} {v : String}
    (hs : encodeURIComponent s = some v) (ht : encodeURIComponent t = some v) : s = t := by
  obtain ⟨cs, hcs, rfl⟩ := Option.map_eq_some_iff.mp hs
  obtain ⟨ds, hds, heq⟩ := Option.map_eq_some_iff.mp ht
  obtain rfl := String.ofList_injective (JsText.encodeURIComponent_injective heq)
  exact decode_injective hcs hds

theorem encodeURIComponent_isSome : (encodeURIComponent s).isSome = true ↔ WellFormed s := by
  rw [encodeURIComponent, Option.isSome_map, WellFormed]

def isSpace (u : UInt16) : Bool := JsText.isSpace (Char.ofNat u.toNat)

def trim : JsString := ((s.dropWhile isSpace).reverse.dropWhile isSpace).reverse

def hasNonEmptyString : Bool := 0 < (trim s).length

theorem trim_ne_nil_iff : trim s ≠ [] ↔ ∃ u ∈ s, ¬ isSpace u = true := by
  have hkept : (∀ u ∈ (s.dropWhile isSpace).reverse, isSpace u = true) ↔
      ∀ u ∈ s, isSpace u = true := by
    constructor
    · intro h u hu
      rw [← takeWhile_append_dropWhile (p := isSpace) (l := s)] at hu
      obtain hu | hu := mem_append.mp hu
      · exact mem_takeWhile_imp hu
      · exact h u (mem_reverse.mpr hu)
    · exact fun h u hu => h u ((dropWhile_sublist _).subset (mem_reverse.mp hu))
  have hempty : trim s = [] ↔ ∀ u ∈ s, isSpace u = true := by
    rw [trim, reverse_eq_nil_iff, dropWhile_eq_nil_iff, hkept]
  simp only [ne_eq, hempty, not_forall, exists_prop]

end ActorWeb.CodeUnits
