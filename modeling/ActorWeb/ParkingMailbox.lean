import Mathlib.Data.List.Basic
import Mathlib.Data.List.Induction

/-! The bounded mailbox: its queue, the senders it parks, and what becomes of every call. -/

namespace ActorWeb.ParkingMailbox

open List

inductive OverflowStrategy
  | drop
  | fail
  | park

/-- A message, with the number of the promise its sender was given where it was parked. -/
structure Envelope (M : Type) where
  message : M
  promise : Option Nat := none

structure BoundedMailbox (M : Type) where
  capacity : Nat
  overflowStrategy : OverflowStrategy
  queue : List (Envelope M) := []
  parkedSenders : List (Envelope M) := []
  stopped : Bool := false

inductive Reply
  | returned (success : Bool)
  | raised
  | parked

inductive Settlement
  | resolved
  | rejected (reason : String)

section

variable {M : Type} (b : BoundedMailbox M) (x : Envelope M)

def doEnqueue : BoundedMailbox M := { b with queue := b.queue ++ [x] }

/-- What the call comes to; a sender is parked under the number of its promise. -/
def enqueue (message : M) (promise : Nat) : BoundedMailbox M × Reply :=
  if b.stopped then (b, .raised)
  else if b.queue.length < b.capacity then (doEnqueue b { message }, .returned true)
  else
    match b.overflowStrategy with
    | .drop => (b, .returned false)
    | .fail => (b, .raised)
    | .park =>
      ({ b with parkedSenders := b.parkedSenders ++ [⟨message, some promise⟩] }, .parked)

def tryUnparkSender : BoundedMailbox M × Option (Envelope M) :=
  match b.parkedSenders with
  | [] => (b, none)
  | x :: rest =>
    if b.queue.length < b.capacity then (doEnqueue { b with parkedSenders := rest } x, some x)
    else (b, none)

/-- The mailbox afterwards, the message taken, and the sender that was unparked for it. -/
def dequeue : BoundedMailbox M × Option (Envelope M) × Option (Envelope M) :=
  if b.stopped then (b, none, none)
  else
    match b.queue with
    | [] => (b, none, none)
    | x :: rest =>
      ((tryUnparkSender { b with queue := rest }).1, some x,
        (tryUnparkSender { b with queue := rest }).2)

def rejectAllParkedSenders (reason : String) : BoundedMailbox M × List (Envelope M × String) :=
  ({ b with parkedSenders := [] }, b.parkedSenders.map (·, reason))

def clear : BoundedMailbox M × List (Envelope M × String) :=
  rejectAllParkedSenders { b with queue := [] } "Mailbox cleared"

def stop : BoundedMailbox M × List (Envelope M × String) :=
  let cleared := clear { b with stopped := true }
  let stopped := rejectAllParkedSenders cleared.1 "Mailbox stopped"
  (stopped.1, cleared.2 ++ stopped.2)

end

/-- How an envelope is gone: `dequeue` returned it, or it was discarded from the queue or as its
sender was rejected. -/
inductive Fate
  | dequeued
  | cleared
  | rejected (reason : String)

/-- A mailbox with the messages it admitted, those gone from it, and how the promises settled. -/
structure History (M : Type) where
  mailbox : BoundedMailbox M
  promises : Nat := 0
  admitted : List (Envelope M) := []
  gone : List (Envelope M × Fate) := []
  settled : List (Option Nat × Settlement) := []

inductive Op (M : Type)
  | enqueue (message : M)
  | dequeue
  | clear
  | stop

variable {M : Type}

def noteReply (s : History M) (message : M) : Reply → History M
  | .returned true => { s with admitted := s.admitted ++ [{ message }] }
  | .parked =>
    { s with
      promises := s.promises + 1, admitted := s.admitted ++ [⟨message, some s.promises⟩] }
  | .returned false | .raised => s

def noteRejected (s : History M) (done : BoundedMailbox M × List (Envelope M × String)) : History M :=
  { s with
    mailbox := done.1
    gone := s.gone ++ s.mailbox.queue.map (·, .cleared) ++ done.2.map fun r => (r.1, .rejected r.2)
    settled := s.settled ++ done.2.map fun r => (r.1.promise, .rejected r.2) }

def step (s : History M) : Op M → History M
  | .enqueue message =>
    let replied := enqueue s.mailbox message s.promises
    noteReply { s with mailbox := replied.1 } message replied.2
  | .dequeue =>
    let (mailbox, taken, unparked) := dequeue s.mailbox
    { s with
      mailbox
      gone := s.gone ++ taken.toList.map (·, .dequeued)
      settled := s.settled ++ unparked.toList.map (·.promise, .resolved) }
  | .clear => noteRejected s (clear s.mailbox)
  | .stop => noteRejected s (stop s.mailbox)

def run (capacity : Nat) (overflowStrategy : OverflowStrategy) (ops : List (Op M)) : History M :=
  ops.foldl step { mailbox := { capacity, overflowStrategy } }

/-- The settlement that is due to an envelope: none where its sender was not parked. -/
def due (x : Envelope M) (settlement : Settlement) : Option (Option Nat × Settlement) :=
  x.promise.map fun n => (some n, settlement)

def Fate.settlement : Fate → Settlement
  | .rejected reason => .rejected reason
  | .dequeued | .cleared => .resolved

/-- The messages admitted are, in order and once each, those gone, those in the queue and those of the
parked senders; a promise is resolved as its message enters the queue and rejected as it is
discarded. -/
structure Lawful (capacity : Nat) (s : History M) : Prop where
  limit : s.mailbox.capacity = capacity
  bounded : s.mailbox.queue.length ≤ capacity
  full : s.mailbox.parkedSenders ≠ [] → s.mailbox.queue.length = capacity
  order : s.gone.map (·.1) ++ s.mailbox.queue ++ s.mailbox.parkedSenders = s.admitted
  parked : ∀ x ∈ s.mailbox.parkedSenders, x.promise.isSome
  promised : s.admitted.filterMap (·.promise) = List.range s.promises
  settled : s.settled = s.gone.filterMap (fun g => due g.1 g.2.settlement) ++
    s.mailbox.queue.filterMap (due · .resolved)

section

variable {capacity : Nat} {s : History M}

theorem due_eq_some {x : Envelope M} (settlement : Settlement) (h : x.promise.isSome) :
    due x settlement = some (x.promise, settlement) := by
  obtain ⟨n, hn⟩ := Option.isSome_iff_exists.mp h
  simp [due, hn]

theorem Lawful.enqueue (h : Lawful capacity s) (message : M) :
    Lawful capacity (step s (.enqueue message)) := by
  have horder := h.order
  simp only [step, ParkingMailbox.enqueue]
  split
  · exact { h with }
  split
  case isTrue hspace =>
    have hnone : s.mailbox.parkedSenders = [] := by
      by_contra hne
      exact Nat.ne_of_lt (h.limit ▸ hspace) (h.full hne)
    rw [hnone, append_nil] at horder
    refine { h with bounded := ?_, full := ?_, order := ?_, promised := ?_, settled := ?_ }
    · simpa [noteReply, doEnqueue] using Nat.succ_le_of_lt (h.limit ▸ hspace)
    · exact fun hne => absurd hnone hne
    · simp [noteReply, doEnqueue, hnone, ← horder]
    · simpa [noteReply] using h.promised
    · simp [noteReply, doEnqueue, h.settled, due]
  case isFalse hspace =>
    split
    · exact { h with }
    · exact { h with }
    · refine { h with full := fun _ => ?_, order := ?_, parked := ?_, promised := ?_ }
      · exact Nat.le_antisymm h.bounded (Nat.not_lt.mp (h.limit ▸ hspace))
      · simp [noteReply, ← horder]
      · simpa [noteReply, or_imp, forall_and] using h.parked
      · simp [noteReply, h.promised, range_succ]

theorem Lawful.dequeue (h : Lawful capacity s) : Lawful capacity (step s .dequeue) := by
  have hbounded := h.bounded
  have horder := h.order
  have hparked := h.parked
  simp only [step, ParkingMailbox.dequeue]
  split
  · simpa using h
  split
  · simpa using h
  case h_2 x rest hqueue =>
    rw [hqueue] at horder hbounded
    have hspace : rest.length < capacity := hbounded
    have hsettled := h.settled
    rw [hqueue, filterMap_cons] at hsettled
    unfold tryUnparkSender
    split
    case h_1 hnone =>
      refine { h with
        bounded := Nat.le_of_lt hspace, full := fun hne => absurd hnone hne, order := ?_,
        settled := ?_ }
      · simpa using horder
      · simp [h.settled, hqueue, filterMap_append, Fate.settlement, filterMap_cons]
        cases due x .resolved <;> rfl
    case h_2 y senders hsenders =>
      have hsenders : s.mailbox.parkedSenders = y :: senders := hsenders
      rw [hsenders] at horder hparked
      have hfull := h.full (by simp [hsenders])
      rw [hqueue] at hfull
      simp only [if_pos (h.limit ▸ hspace), doEnqueue, Option.toList_some, map_cons, map_nil]
      refine { h with
        bounded := ?_, full := fun _ => ?_, order := ?_, parked := ?_, settled := ?_ }
      · simpa using hbounded
      · simpa using hfull
      · simpa using horder
      · exact fun z hz => hparked z (mem_cons_of_mem _ hz)
      · simp only [h.settled, hqueue, filterMap_append, filterMap_cons, filterMap_nil,
          due_eq_some .resolved (hparked y mem_cons_self), Fate.settlement]
        cases due x .resolved <;> simp

theorem Lawful.noteRejected (h : Lawful capacity s) {b : BoundedMailbox M}
    (hcapacity : b.capacity = s.mailbox.capacity) (hqueue : b.queue = [])
    (hsenders : b.parkedSenders = []) (reason : String) :
    Lawful capacity (noteRejected s (b, s.mailbox.parkedSenders.map (·, reason))) := by
  have hrejected : (s.mailbox.parkedSenders.map fun x => (x, Fate.rejected reason)).filterMap
      (fun g => due g.1 g.2.settlement) =
      s.mailbox.parkedSenders.map fun x => (x.promise, .rejected reason) := by
    rw [filterMap_map]
    exact filterMap_eq_map_iff_forall_eq_some.mpr fun x hx => due_eq_some _ (h.parked x hx)
  refine { h with
    limit := hcapacity.trans h.limit, bounded := ?_, full := fun hne => absurd hsenders hne,
    order := ?_, parked := ?_, settled := ?_ }
  · simp [ParkingMailbox.noteRejected, hqueue]
  · simp [ParkingMailbox.noteRejected, hqueue, hsenders, ← h.order, Function.comp_def]
  · simp [ParkingMailbox.noteRejected, hsenders]
  · simp only [ParkingMailbox.noteRejected, hqueue, h.settled, map_map, Function.comp_def,
      filterMap_append, hrejected, filterMap_nil, append_nil]
    simp [filterMap_map, Function.comp_def, Fate.settlement]

theorem Lawful.step (h : Lawful capacity s) (op : Op M) : Lawful capacity (step s op) := by
  cases op with
  | enqueue message => exact h.enqueue message
  | dequeue => exact h.dequeue
  | clear => exact h.noteRejected (b := (clear s.mailbox).1) rfl rfl rfl "Mailbox cleared"
  | stop =>
    have hstop := h.noteRejected (b := (stop s.mailbox).1) rfl rfl rfl "Mailbox cleared"
    simpa [ParkingMailbox.step, stop, clear, rejectAllParkedSenders] using hstop

end

/-- Whatever is done to a mailbox, no message and no promise in it is lost, doubled or overtaken. -/
theorem mailbox_lawful (capacity : Nat) (overflowStrategy : OverflowStrategy) (ops : List (Op M)) :
    Lawful capacity (run capacity overflowStrategy ops) := by
  induction ops using List.reverseRecOn with
  | nil => constructor <;> simp [run]
  | append_singleton ops op ih =>
    rw [run, foldl_append]
    exact ih.step op

end ActorWeb.ParkingMailbox
