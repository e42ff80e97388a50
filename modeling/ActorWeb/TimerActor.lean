import ActorWeb.OrderedMap
import Mathlib.Algebra.Field.Rat
import Mathlib.Algebra.Order.Ring.NNRat

/-! The timer actor in test mode, whose time only moves by the messages that advance it. -/

namespace ActorWeb.TimerActor

open List

variable {A M : Type}

inductive TimerActorMessage (A M : Type)
  | schedule (targetActor : A) (message : M) (delay : NNRat) (id : Option String)
  | cancelScheduled (id : String)
  | advanceTime (span : NNRat)
  | getScheduled
  | scheduleDelay (duration : NNRat) (callbackMessage : M) (targetActor : A)

structure ScheduledItem (A M : Type) where
  id : String
  targetActor : A
  message : M
  scheduledTime : NNRat

structure TimerActorState (A M : Type) where
  currentTime : NNRat
  scheduledMessages : OrderedMap String (ScheduledItem A M)
  nextId : Nat

def createTimerActor : TimerActorState A M := ⟨0, .empty, 1⟩

/-- The empty id is no id. -/
def givenId : Option String → Option String
  | some id => if id = "" then none else some id
  | none => none

section Handlers

variable (context : TimerActorState A M)

def generatedId : String := "scheduled-" ++ toString context.nextId

def scheduledItem (targetActor : A) (message : M) (delay : NNRat) (id : Option String) :
    ScheduledItem A M :=
  ⟨(givenId id).getD (generatedId context), targetActor, message, context.currentTime + delay⟩

def schedule (item : ScheduledItem A M) : TimerActorState A M :=
  { context with
    scheduledMessages := context.scheduledMessages.set item.id item
    nextId := context.nextId + 1 }

def isDue (newTime : NNRat) (item : ScheduledItem A M) : Bool := item.scheduledTime ≤ newTime

/-- The next context and the items whose messages are emitted. -/
def onMessage : TimerActorMessage A M → TimerActorState A M × List (ScheduledItem A M)
  | .schedule targetActor message delay id =>
    (schedule context (scheduledItem context targetActor message delay id), [])
  | .cancelScheduled id =>
    ({ context with scheduledMessages := context.scheduledMessages.delete id }, [])
  | .advanceTime span =>
    let newTime := context.currentTime + span
    let messagesToSend := context.scheduledMessages.values.filter (isDue newTime)
    ({ context with
        currentTime := newTime
        scheduledMessages := context.scheduledMessages.filter fun _ item => !isDue newTime item },
      messagesToSend)
  | .getScheduled => (context, [])
  | .scheduleDelay duration callbackMessage targetActor =>
    (schedule context (scheduledItem context targetActor callbackMessage duration none), [])

def emissions (context : TimerActorState A M) :
    List (TimerActorMessage A M) → List (ScheduledItem A M)
  | [] => []
  | message :: rest => (onMessage context message).2 ++ emissions (onMessage context message).1 rest

/-! What the messages ask for: the items that should be pending, in no order. -/

def enter (item : ScheduledItem A M) (id : Option String) (pending : List (ScheduledItem A M)) :
    List (ScheduledItem A M) :=
  (match givenId id with
    | some id => pending.filter (·.id ≠ id)
    | none => pending) ++ [item]

def agenda (pending : List (ScheduledItem A M)) : TimerActorMessage A M → List (ScheduledItem A M)
  | .schedule targetActor message delay id =>
    enter (scheduledItem context targetActor message delay id) id pending
  | .cancelScheduled id => pending.filter (·.id ≠ id)
  | .advanceTime span => pending.filter fun item => !isDue (context.currentTime + span) item
  | .getScheduled => pending
  | .scheduleDelay duration callbackMessage targetActor =>
    enter (scheduledItem context targetActor callbackMessage duration none) none pending

def departures (pending : List (ScheduledItem A M)) :
    TimerActorMessage A M → List (ScheduledItem A M)
  | .advanceTime span => pending.filter (isDue (context.currentTime + span))
  | _ => []

/-- The item whose id the actor makes up, if the message schedules one. -/
def generatedItem : TimerActorMessage A M → Option (ScheduledItem A M)
  | .schedule targetActor message delay id =>
    if givenId id = none then some (scheduledItem context targetActor message delay id) else none
  | .scheduleDelay duration callbackMessage targetActor =>
    some (scheduledItem context targetActor callbackMessage duration none)
  | _ => none

/-- What the message emits is what is due, and an item with a generated id joins the others. -/
structure Serves (pending : List (ScheduledItem A M)) (message : TimerActorMessage A M) : Prop where
  emits : (onMessage context message).2.Perm (departures context pending message)
  joins : ∀ item, generatedItem context message = some item →
    (onMessage context message).1.scheduledMessages.values.Perm
      (context.scheduledMessages.values ++ [item])

def ServesAll (context : TimerActorState A M) (pending : List (ScheduledItem A M)) :
    List (TimerActorMessage A M) → Prop
  | [] => True
  | message :: rest => Serves context pending message ∧
      ServesAll (onMessage context message).1 (agenda context pending message) rest

/-- A run keeps all that is asked of the actor, and emits in the order of time. -/
structure Punctual (context : TimerActorState A M) (pending : List (ScheduledItem A M))
    (messages : List (TimerActorMessage A M)) : Prop where
  serves : ServesAll context pending messages
  ordered : (emissions context messages).Pairwise (·.scheduledTime ≤ ·.scheduledTime)

/-- A generated id is free, and what is due stands in the map by time. -/
structure Clear (message : TimerActorMessage A M) : Prop where
  free : ∀ item, generatedItem context message = some item → item.id ∉ context.scheduledMessages.keys
  inOrder : ∀ span, message = .advanceTime span →
    (context.scheduledMessages.values.filter (isDue (context.currentTime + span))).Pairwise
      (·.scheduledTime ≤ ·.scheduledTime)

def ClearAll (context : TimerActorState A M) : List (TimerActorMessage A M) → Prop
  | [] => True
  | message :: rest => Clear context message ∧ ClearAll (onMessage context message).1 rest

end Handlers

variable {context : TimerActorState A M} {pending : List (ScheduledItem A M)}

/-- The map holds what should be pending, each item under its id and none of them overdue. -/
structure Follows (context : TimerActorState A M) (pending : List (ScheduledItem A M)) : Prop where
  same : context.scheduledMessages.values.Perm pending
  named : ∀ e ∈ context.scheduledMessages.entries, e.2.id = e.1
  upcoming : ∀ item ∈ context.scheduledMessages.values, context.currentTime ≤ item.scheduledTime

theorem Follows.values_delete (h : Follows context pending) (id : String) :
    (context.scheduledMessages.delete id).values =
      context.scheduledMessages.values.filter (·.id ≠ id) := by
  rw [OrderedMap.values, OrderedMap.values, filter_map]
  refine congrArg _ (filter_congr fun e he => ?_)
  rw [Function.comp_apply, h.named e he]

theorem filter_values {m : OrderedMap String (ScheduledItem A M)} (p : ScheduledItem A M → Bool) :
    (m.filter fun _ item => p item).values = m.values.filter p := by
  rw [OrderedMap.values, OrderedMap.values, filter_map]
  rfl

theorem schedule_values (item : ScheduledItem A M) :
    (schedule context item).scheduledMessages.values.Perm
      ((context.scheduledMessages.delete item.id).values ++ [item]) := by
  have hperm := (context.scheduledMessages.set_entries_perm item.id item).map Prod.snd
  rwa [map_append] at hperm

variable {item : ScheduledItem A M}

theorem Follows.schedule (h : Follows context pending)
    (hlater : context.currentTime ≤ item.scheduledTime) {others : List (ScheduledItem A M)}
    (hothers : (context.scheduledMessages.delete item.id).values.Perm others) :
    Follows (TimerActor.schedule context item) (others ++ [item]) where
  same := (schedule_values item).trans (hothers.append_right _)
  named := by
    intro e he
    have he := (context.scheduledMessages.set_entries_perm item.id item).subset he
    obtain he | he := mem_append.mp he
    · exact h.named e (mem_filter.mp he).1
    · rw [mem_singleton.mp he]
  upcoming := by
    intro other hother
    obtain hother | hother := mem_append.mp ((schedule_values item).subset hother)
    · rw [h.values_delete] at hother
      exact h.upcoming other (mem_filter.mp hother).1
    · rwa [mem_singleton.mp hother]

variable {message : TimerActorMessage A M}

theorem onMessage_generated (pending : List (ScheduledItem A M))
    (h : generatedItem context message = some item) :
    onMessage context message = (schedule context item, []) ∧
      agenda context pending message = pending ++ [item] ∧
      departures context pending message = [] ∧ context.currentTime ≤ item.scheduledTime := by
  cases message with
  | schedule targetActor message delay id =>
    simp only [generatedItem] at h
    split at h
    case isTrue hnone =>
      cases h
      exact ⟨rfl, by rw [agenda, enter, hnone], rfl, le_self_add⟩
    case isFalse => cases h
  | scheduleDelay duration callbackMessage targetActor =>
    cases h
    exact ⟨rfl, rfl, rfl, le_self_add⟩
  | cancelScheduled id => cases h
  | advanceTime span => cases h
  | getScheduled => cases h

theorem joins_iff : (schedule context item).scheduledMessages.values.Perm
      (context.scheduledMessages.values ++ [item]) ↔
        item.id ∉ context.scheduledMessages.keys := by
  constructor
  · intro hperm hmem
    have hlength := hperm.length_eq
    rw [length_append, OrderedMap.values, OrderedMap.values, length_map, length_map]
      at hlength
    have hsize := context.scheduledMessages.size_set item.id item
    rw [if_pos (Option.isSome_iff_ne_none.mpr fun hnone => OrderedMap.get_eq_none_iff.mp hnone hmem)]
      at hsize
    change (context.scheduledMessages.set item.id item).size = _ at hlength
    rw [hsize] at hlength
    exact absurd hlength (Nat.ne_of_lt (Nat.lt_succ_self _))
  · intro hfree
    have hsame : (context.scheduledMessages.delete item.id).values =
        context.scheduledMessages.values :=
      congrArg (List.map Prod.snd) (OrderedMap.delete_entries_of_not_mem hfree)
    rw [← hsame]
    exact schedule_values item

theorem Clear.of_serves (h : Serves context pending message)
    (hordered : (onMessage context message).2.Pairwise (·.scheduledTime ≤ ·.scheduledTime)) :
    Clear context message where
  free := by
    intro item hitem
    have hjoins := h.joins item hitem
    rw [(onMessage_generated pending hitem).1] at hjoins
    exact joins_iff.mp hjoins
  inOrder := by
    rintro span rfl
    exact hordered

theorem Follows.onMessage (h : Follows context pending) (hclear : Clear context message) :
    Follows (TimerActor.onMessage context message).1 (agenda context pending message) ∧
      Serves context pending message := by
  cases hitem : generatedItem context message with
  | some item =>
    obtain ⟨hrun, hagenda, hdepartures, hlater⟩ := onMessage_generated pending hitem
    have hfree := hclear.free item hitem
    have hothers : (context.scheduledMessages.delete item.id).values.Perm pending := by
      refine (List.Perm.of_eq ?_).trans h.same
      exact congrArg (List.map Prod.snd) (OrderedMap.delete_entries_of_not_mem hfree)
    rw [hagenda]
    refine ⟨?_, ?_, ?_⟩
    · rw [hrun]
      exact h.schedule hlater hothers
    · rw [hrun, hdepartures]
    · intro other hother
      cases hitem.symm.trans hother
      rw [hrun]
      exact joins_iff.mpr hfree
  | none =>
    refine ⟨?_, ?_, fun item hsome => by cases hitem.symm.trans hsome⟩
    · cases message with
      | schedule targetActor message delay id =>
        simp only [generatedItem] at hitem
        split at hitem
        case isTrue => cases hitem
        case isFalse hgiven =>
          obtain ⟨given, hgiven⟩ := Option.ne_none_iff_exists'.mp hgiven
          have hid : (scheduledItem context targetActor message delay id).id = given := by
            rw [scheduledItem, hgiven]
            rfl
          have hothers := h.values_delete (scheduledItem context targetActor message delay id).id
          rw [hid] at hothers
          rw [agenda, enter, hgiven]
          refine h.schedule le_self_add ?_
          rw [hid, hothers]
          exact h.same.filter _
      | cancelScheduled id =>
        have hvalues := h.values_delete id
        refine ⟨?_, fun e he => h.named e (mem_filter.mp he).1, fun item hmem => ?_⟩
        · exact (List.Perm.of_eq hvalues).trans (h.same.filter _)
        · exact h.upcoming item (mem_filter.mp (hvalues ▸ hmem)).1
      | advanceTime span =>
        have hvalues := filter_values (m := context.scheduledMessages)
          fun item => !isDue (context.currentTime + span) item
        refine ⟨?_, fun e he => h.named e (mem_filter.mp he).1, fun item hmem => ?_⟩
        · exact (List.Perm.of_eq hvalues).trans (h.same.filter _)
        · have hlater := (mem_filter.mp (hvalues ▸ hmem)).2
          simp only [isDue, Bool.not_eq_true', decide_eq_false_iff_not, not_le] at hlater
          exact hlater.le
      | getScheduled => exact h
      | scheduleDelay duration callbackMessage targetActor => cases hitem
    · cases message with
      | advanceTime span => exact h.same.filter _
      | schedule | cancelScheduled | getScheduled | scheduleDelay => exact List.Perm.refl _

theorem emitted
    (h : item ∈ (onMessage context message).2) : item ∈ context.scheduledMessages.values ∧
      item.scheduledTime ≤ (onMessage context message).1.currentTime := by
  cases message with
  | advanceTime span =>
    obtain ⟨hmem, hdue⟩ := mem_filter.mp h
    exact ⟨hmem, of_decide_eq_true hdue⟩
  | schedule | cancelScheduled | getScheduled | scheduleDelay => exact absurd h not_mem_nil

theorem currentTime_le (message : TimerActorMessage A M) :
    context.currentTime ≤ (onMessage context message).1.currentTime := by
  cases message with
  | advanceTime span => exact le_self_add
  | schedule | cancelScheduled | getScheduled | scheduleDelay => exact le_refl _

theorem emissions_later {messages : List (TimerActorMessage A M)} (h : Follows context pending)
    (hclear : ClearAll context messages) :
    ∀ item ∈ emissions context messages, context.currentTime ≤ item.scheduledTime := by
  induction messages generalizing context pending with
  | nil => exact fun item hitem => absurd hitem not_mem_nil
  | cons message rest ih =>
    intro item hitem
    obtain hitem | hitem := mem_append.mp hitem
    · exact h.upcoming item (emitted hitem).1
    · exact (currentTime_le message).trans (ih (h.onMessage hclear.1).1 hclear.2 item hitem)

theorem Clear.ordered (h : Clear context message) :
    (onMessage context message).2.Pairwise (·.scheduledTime ≤ ·.scheduledTime) := by
  cases message with
  | advanceTime span => exact h.inOrder span rfl
  | schedule | cancelScheduled | getScheduled | scheduleDelay => exact List.Pairwise.nil

theorem Follows.punctual_iff (h : Follows context pending)
    (messages : List (TimerActorMessage A M)) :
    Punctual context pending messages ↔ ClearAll context messages := by
  induction messages generalizing context pending with
  | nil => exact ⟨fun _ => trivial, fun _ => ⟨trivial, List.Pairwise.nil⟩⟩
  | cons message rest ih =>
    constructor
    · intro hpunctual
      obtain ⟨hnow, hlater, -⟩ := pairwise_append.mp hpunctual.ordered
      have hclear := Clear.of_serves hpunctual.serves.1 hnow
      exact ⟨hclear, (ih (h.onMessage hclear).1).mp ⟨hpunctual.serves.2, hlater⟩⟩
    · rintro ⟨hclear, hrest⟩
      obtain ⟨hnext, hserves⟩ := h.onMessage hclear
      have hpunctual := (ih hnext).mpr hrest
      refine ⟨⟨hserves, hpunctual.serves⟩, pairwise_append.mpr
        ⟨hclear.ordered, hpunctual.ordered, fun item hitem other hother => ?_⟩⟩
      exact (emitted hitem).2.trans (emissions_later hnext hrest other hother)

theorem punctual_iff_clear (messages : List (TimerActorMessage A M)) :
    Punctual createTimerActor [] messages ↔ ClearAll createTimerActor messages := by
  have hnone : ∀ item, item ∉ (createTimerActor : TimerActorState A M).scheduledMessages.values :=
    fun item => not_mem_nil
  have hstart : Follows (createTimerActor : TimerActorState A M) [] :=
    ⟨List.Perm.refl _, fun e he => absurd he not_mem_nil, fun item hitem => (hnone item hitem).elim⟩
  exact hstart.punctual_iff messages

/-- One advance over two deadlines, the later of which was set first. -/
def passedBoth : List (TimerActorMessage Unit String) :=
  [.schedule () "later" 2 none, .schedule () "sooner" 1 none, .advanceTime 2]

theorem passedBoth_late : ¬ Punctual createTimerActor [] passedBoth := by
  intro h
  have hordered := h.ordered
  revert hordered
  decide +kernel

end ActorWeb.TimerActor
