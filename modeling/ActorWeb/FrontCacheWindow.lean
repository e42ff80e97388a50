import ActorWeb.TransportContract
import Mathlib.Data.List.Induction

/-! The front cache of the idempotency claims as a window over the ids remembered last. -/

namespace ActorWeb.FrontCacheWindow

open List TransportContract

variable {limit : Nat} {ids p w : List String} {id x : String}

def remembered (limit : Nat) (ids : List String) : FrontCache :=
  ids.foldl (fun cache id => (cache.remember id).1) { limit := limit }

def lastIds (limit : Nat) (ids : List String) : List String := ids.drop (ids.length - limit)

structure Window (limit : Nat) (ids : List String) : Prop where
  has : ∀ x, (remembered limit ids).has x = true ↔ x ∈ lastIds limit ids
  evicted : ∀ p id, p ++ [id] = ids → ∀ x, x ∈ ((remembered limit p).remember id).2 ↔
    (remembered limit p).has x = true ∧ (remembered limit ids).has x = false

/-- An id that leaves the window does not occur in it a second time. -/
def Distinct (limit : Nat) (ids : List String) : Prop :=
  ∀ p x w, p ++ x :: w <+: ids → w.length = limit → x ∉ w

theorem remembered_snoc :
    remembered limit (ids ++ [id]) = ((remembered limit ids).remember id).1 := by
  simp [remembered]

theorem lastIds_of_length {q : List String} (h : q.length = limit) :
    lastIds limit (p ++ q) = q := by
  simp [lastIds, ← h]

theorem lastIds_of_le (h : ids.length ≤ limit) : lastIds limit ids = ids := by
  simp [lastIds, h]

theorem exists_lastIds (h : limit ≤ ids.length) : ∃ p q, ids = p ++ q ∧ q.length = limit :=
  ⟨_, _, (take_append_drop (ids.length - limit) ids).symm, by simp; omega⟩

theorem evict_kept {c : FrontCache} {evicted : List String} (h : (ids.length : Int) ≤ c.limit) :
    c.evict evicted ids = ({ c with messageIds := ids }, evicted) := by
  cases ids with
  | nil => rfl
  | cons id ids => rw [FrontCache.evict, if_neg (by omega)]

theorem remember_below {c : FrontCache} (id : String) (h : (c.messageIds.length : Int) < c.limit) :
    c.remember id = ({ c with
      messageIds := c.messageIds ++ [id], messageIdSet := c.messageIdSet.insert id }, []) := by
  rw [FrontCache.remember, if_neg (by omega), evict_kept (by simp; omega)]

theorem remember_full {c : FrontCache} (id : String) (h : ((x :: w).length : Int) = c.limit)
    (hids : c.messageIds = x :: w) (hx : x ≠ "") : c.remember id = ({ c with
      messageIds := w ++ [id], messageIdSet := (c.messageIdSet.insert id).filter (· ≠ x) }, [x]) := by
  have hlength : ((w ++ [id]).length : Int) = c.limit := by simpa using h
  rw [FrontCache.remember, if_neg (by simp at h; omega), hids, cons_append,
    FrontCache.evict, if_pos (by simp at h ⊢; omega), if_neg hx, evict_kept (by simp at h ⊢; omega)]
  rfl

theorem remembered_ids (hlimit : 1 ≤ limit) (hids : "" ∉ ids) :
    (remembered limit ids).limit = limit ∧
      (remembered limit ids).messageIds = lastIds limit ids := by
  induction ids using List.reverseRecOn with
  | nil => simp [remembered, lastIds]
  | append_singleton ids id ih =>
    have hids' : "" ∉ ids := fun hmem => hids (mem_append_left _ hmem)
    obtain ⟨hl, hm⟩ := ih hids'
    rw [remembered_snoc]
    rcases Nat.lt_or_ge ids.length limit with hlt | hge
    · rw [lastIds_of_le hlt.le] at hm
      rw [remember_below id (by rw [hm, hl]; omega), lastIds_of_le (by simp; omega), hm]
      exact ⟨hl, rfl⟩
    · obtain ⟨p, q, rfl, hq⟩ := exists_lastIds hge
      rw [lastIds_of_length hq] at hm
      cases q with
      | nil => simp at hq; omega
      | cons x w =>
        have hx : x ≠ "" := by rintro rfl; simp at hids'
        rw [remember_full id (by rw [hl]; exact_mod_cast hq) hm hx]
        refine ⟨hl, ?_⟩
        rw [show p ++ x :: w ++ [id] = (p ++ [x]) ++ (w ++ [id]) by simp,
          lastIds_of_length (by simpa using hq)]

theorem has_iff (hlimit : 1 ≤ limit) (hids : "" ∉ ids) :
    (remembered limit ids).has x = true ↔ x ∈ (remembered limit ids).messageIdSet := by
  have h := (remembered_ids hlimit hids).1
  simp only [FrontCache.has, h, Bool.and_eq_true, decide_eq_true_eq]
  exact ⟨And.right, fun h => ⟨by omega, h⟩⟩

theorem remember_below_window (hlimit : 1 ≤ limit) (hids : "" ∉ ids ++ [id])
    (h : ids.length < limit) : ((remembered limit ids).remember id).2 = [] ∧
      ∀ x, (remembered limit (ids ++ [id])).has x = true ↔
        (remembered limit ids).has x = true ∨ x = id := by
  have hids' : "" ∉ ids := fun hmem => hids (mem_append_left _ hmem)
  obtain ⟨hl, hm⟩ := remembered_ids hlimit hids'
  rw [lastIds_of_le h.le] at hm
  have hstep := remember_below (c := remembered limit ids) id (by rw [hm, hl]; omega)
  refine ⟨by rw [hstep], fun x => ?_⟩
  rw [has_iff hlimit hids, has_iff hlimit hids', remembered_snoc, hstep, mem_insert_iff]
  exact or_comm

theorem remember_full_window (hlimit : 1 ≤ limit) (hids : "" ∉ p ++ x :: w ++ [id])
    (h : (x :: w).length = limit) : ((remembered limit (p ++ x :: w)).remember id).2 = [x] ∧
      ∀ y, (remembered limit (p ++ x :: w ++ [id])).has y = true ↔
        ((remembered limit (p ++ x :: w)).has y = true ∨ y = id) ∧ y ≠ x := by
  have hids' : "" ∉ p ++ x :: w := fun hmem => hids (mem_append_left _ hmem)
  obtain ⟨hl, hm⟩ := remembered_ids hlimit hids'
  rw [lastIds_of_length h] at hm
  have hstep := remember_full id (by rw [hl]; exact_mod_cast h) hm
    (by rintro rfl; simp at hids')
  refine ⟨by rw [hstep], fun y => ?_⟩
  rw [has_iff hlimit hids, has_iff hlimit hids', remembered_snoc, hstep, mem_filter,
    mem_insert_iff, decide_eq_true_eq, or_comm]

theorem Distinct.of_prefix (h : Distinct limit ids) (hp : p <+: ids) : Distinct limit p :=
  fun p' x w hw hlength => h p' x w (hw.trans hp) hlength

theorem Window.of_distinct (hlimit : 1 ≤ limit) (hids : "" ∉ ids) (h : Distinct limit ids) :
    Window limit ids := by
  induction ids using List.reverseRecOn with
  | nil => exact ⟨by simp [remembered, lastIds, FrontCache.has], by simp⟩
  | append_singleton ids id ih =>
    have hids' : "" ∉ ids := fun hmem => hids (mem_append_left _ hmem)
    have hbefore := ih hids' (h.of_prefix (prefix_append ids [id]))
    rcases Nat.lt_or_ge ids.length limit with hlt | hge
    · obtain ⟨hnone, hhas⟩ := remember_below_window hlimit hids hlt
      refine ⟨fun y => ?_, fun p id' heq y => ?_⟩
      · rw [hhas, hbefore.has, lastIds_of_le hlt.le, lastIds_of_le (by simp; omega)]
        simp
      · obtain ⟨rfl, h'⟩ := append_inj' heq rfl
        obtain rfl := singleton_inj.mp h'
        rw [hnone, ← Bool.not_eq_true, hhas]
        simp_all
    · obtain ⟨p, q, rfl, hq⟩ := exists_lastIds hge
      cases q with
      | nil => simp at hq; omega
      | cons x w =>
        obtain ⟨hone, hhas⟩ := remember_full_window hlimit hids hq
        have hfresh : x ∉ w ++ [id] := by
          refine h p x (w ++ [id]) (by simp) (by simpa using hq)
        have hmem : (remembered limit (p ++ x :: w)).has x = true := by
          rw [hbefore.has, lastIds_of_length hq]
          exact mem_cons_self
        refine ⟨fun y => ?_, fun p' id' heq y => ?_⟩
        · rw [hhas, hbefore.has, lastIds_of_length hq,
            show p ++ x :: w ++ [id] = (p ++ [x]) ++ (w ++ [id]) by simp,
            lastIds_of_length (by simpa using hq)]
          grind
        · obtain ⟨rfl, h'⟩ := append_inj' heq rfl
          obtain rfl := singleton_inj.mp h'
          rw [hone, ← Bool.not_eq_true, hhas]
          grind

theorem Window.distinct (hlimit : 1 ≤ limit) (hids : "" ∉ ids)
    (h : ∀ p, p <+: ids → Window limit p) : Distinct limit ids := by
  intro p x w hw hlength hmem
  rcases eq_nil_or_concat w with rfl | ⟨w, id, rfl⟩
  · simp at hmem
  · simp only [concat_eq_append] at hw hlength hmem
    have hids' : "" ∉ p ++ x :: w ++ [id] := fun hempty => hids (hw.subset (by simpa using hempty))
    have hwindow := h _ hw
    obtain ⟨-, hhas⟩ := remember_full_window hlimit hids' (by simpa using hlength)
    have hin : (remembered limit (p ++ x :: w ++ [id])).has x = true := by
      rw [show p ++ x :: w ++ [id] = p ++ x :: (w ++ [id]) by simp, hwindow.has,
        show p ++ x :: (w ++ [id]) = (p ++ [x]) ++ (w ++ [id]) by simp,
        lastIds_of_length hlength]
      exact hmem
    exact ((hhas x).mp hin).2 rfl

/-- The cache holds the last ids and reports each that leaves, exactly as long as no id that leaves
the window occurs in it again. -/
theorem window_iff_distinct (hlimit : 1 ≤ limit) (hids : "" ∉ ids) :
    (∀ p, p <+: ids → Window limit p) ↔ Distinct limit ids :=
  ⟨Window.distinct hlimit hids, fun h _ hp =>
    .of_distinct hlimit (fun hmem => hids (hp.subset hmem)) (h.of_prefix hp)⟩

theorem window_of_two : (∀ p, p <+: ["a", "b"] → Window 1 p) ↔ Distinct 1 ["a", "b"] :=
  window_iff_distinct (by decide) (by decide)

theorem window_of_repeat : ¬ ∀ p, p <+: ["a", "a"] → Window 1 p := by
  intro h
  have hhas : (remembered 1 ["a", "a"]).has "a" = true :=
    ((h _ (prefix_refl _)).has _).mpr (by decide)
  exact absurd hhas (by decide)

end ActorWeb.FrontCacheWindow
