import Mathlib.Data.List.Basic

namespace ActorWeb

/-- One direction of a link that delivers in order while connected. `earlier` is what
is left of the connections that ended, `none` being the end of one; `current` is on
its way on the open connection. -/
structure Channel (α : Type) where
  earlier : List (Option α)
  current : List α

namespace Channel

variable {α : Type} {c d : Channel α} {x : Option α}

def empty : Channel α := ⟨[], []⟩

def pending (c : Channel α) : List (Option α) := c.earlier ++ c.current.map some

def send (c : Channel α) (a : α) : Channel α := { c with current := c.current ++ [a] }

/-- The connection ends; its first `n` messages on the way still arrive. -/
def close (c : Channel α) (n : Nat) : Channel α :=
  ⟨c.earlier ++ (c.current.take n).map some ++ [none], []⟩

def receive (c : Channel α) : Option (Option α × Channel α) :=
  match c.earlier, c.current with
  | x :: earlier, current => some (x, ⟨earlier, current⟩)
  | [], a :: current => some (some a, ⟨[], current⟩)
  | [], [] => none

@[simp] theorem pending_empty : (empty : Channel α).pending = [] := rfl

@[simp] theorem pending_send (c : Channel α) (a : α) : (c.send a).pending = c.pending ++ [some a] := by
  simp [pending, send]

theorem pending_foldl_send {β : Type} (f : β → α) (l : List β) (c : Channel α) :
    (l.foldl (fun c b => c.send (f b)) c).pending = c.pending ++ l.map fun b => some (f b) := by
  induction l generalizing c with
  | nil => simp
  | cons b l ih => simp [ih]

theorem receive_pending (h : c.receive = some (x, d)) : c.pending = x :: d.pending := by
  unfold receive at h
  split at h
  case h_1 hearlier =>
    cases h
    simp [pending, hearlier]
  case h_2 hearlier hcurrent =>
    cases h
    simp [pending, hearlier, hcurrent]
  case h_3 => cases h

/-- The end of a connection comes after a part of what was on the way; only messages are lost. -/
theorem close_pending (c : Channel α) (n : Nat) :
    ∃ kept, ∃ lost : List α, c.pending = kept ++ lost.map some ∧ (c.close n).pending = kept ++ [none] := by
  refine ⟨c.earlier ++ (c.current.take n).map some, c.current.drop n, ?_, ?_⟩
  · rw [pending, List.append_assoc, ← List.map_append, List.take_append_drop]
  · simp [pending, close]

end Channel

end ActorWeb
