import Mathlib.Data.List.Basic

namespace ActorWeb

/-- A mailbox that drops what does not fit; stopping it clears it for good. -/
structure BoundedMailbox (α : Type) where
  queue : List α
  stopped : Bool
  cleared : stopped = true → queue = []

namespace BoundedMailbox

variable {α : Type}

def capacity : Nat := 1000

def dropping : BoundedMailbox α := ⟨[], false, fun _ => rfl⟩

def enqueue (b : BoundedMailbox α) (m : α) : Option (BoundedMailbox α × Bool) :=
  if b.stopped then none
  else if b.queue.length < capacity then some (⟨b.queue ++ [m], false, (absurd · Bool.false_ne_true)⟩, true)
  else some (b, false)

def dequeue (b : BoundedMailbox α) : Option (α × BoundedMailbox α) :=
  if b.stopped then none
  else
    match b.queue with
    | [] => none
    | m :: rest => some (m, ⟨rest, false, (absurd · Bool.false_ne_true)⟩)

def stop (_ : BoundedMailbox α) : BoundedMailbox α := ⟨[], true, fun _ => rfl⟩

variable {b b' : BoundedMailbox α} {m : α}

theorem queue_of_dequeue (h : b.dequeue = some (m, b')) : b.queue = m :: b'.queue := by
  unfold dequeue at h
  split at h
  case isTrue => cases h
  case isFalse =>
    split at h
    case h_1 => cases h
    case h_2 heq =>
      cases h
      exact heq

theorem dequeue_of_stopped (h : b.stopped = true) : b.dequeue = none := by
  rw [dequeue, if_pos h]

theorem stopped_of_dequeue (h : b.dequeue = some (m, b')) : b'.stopped = b.stopped := by
  unfold dequeue at h
  split at h
  case isTrue => cases h
  case isFalse hstopped =>
    split at h
    case h_1 => cases h
    case h_2 =>
      cases h
      exact (Bool.eq_false_iff.mpr hstopped).symm

theorem enqueue_true (h : b.enqueue m = some (b', true)) :
    b'.queue = b.queue ++ [m] ∧ b'.stopped = b.stopped := by
  unfold enqueue at h
  split at h
  case isTrue => cases h
  case isFalse hstopped =>
    split at h
    case isTrue =>
      cases h
      exact ⟨rfl, (Bool.eq_false_iff.mpr hstopped).symm⟩
    case isFalse =>
      obtain ⟨-, he⟩ := Prod.mk.inj (Option.some.inj h)
      cases he

end BoundedMailbox

end ActorWeb
