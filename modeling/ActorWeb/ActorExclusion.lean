import ActorWeb.ActorSegments
import ActorWeb.Transition

namespace ActorWeb.ActorSystem

open Option List Supervision Transition Function

/-- A message of the path is between its dequeue and the end of `deliverMessageLocal`. -/
def Invocation.Handles (v : Invocation) (p : ActorAddress) : Prop :=
  ∃ m stage, v.call = .deliver p m stage

def Exclusive (s : System) : Prop :=
  ∀ (p : ActorAddress) (i j : Nat) (v w : Invocation), s.invocations[i]? = some v →
    s.invocations[j]? = some w → v.Handles p → w.Handles p → i = j

def System.closed (s : System) (box : Nat) : Bool := s.boxes[box]?.any (·.stopped)

/-- An invocation of the message loop of a path that may still dequeue: it is scheduled,
or under way and not merely waiting for supervision with its mailbox stopped. -/
def System.Live (s : System) (p : ActorAddress) (v : Invocation) : Prop :=
  v.base = .scheduled p ∨
    ∃ box processed, v.base = .processing p box processed ∧ (v.driver = none ∨ s.closed box = false)

def System.Free (s : System) (p : ActorAddress) : Prop :=
  ∀ (i : Nat) (v : Invocation), s.invocations[i]? = some v → ¬s.Live p v

def Invocation.Loops (v : Invocation) (p : ActorAddress) : Prop :=
  ∃ box processed, v.base = .processing p box processed ∧ v.driver = none

structure Single (s : System) : Prop where
  untested : s.testMode = false
  live : ∀ (p : ActorAddress) (i j : Nat) (v w : Invocation), s.invocations[i]? = some v →
    s.invocations[j]? = some w → s.Live p v → s.Live p w → i = j
  handles : ∀ (i : Nat) (v : Invocation) p, s.invocations[i]? = some v → v.Handles p → v.Loops p
  dequeued : ∀ (i : Nat) (v : Invocation) p m, s.invocations[i]? = some v → v.call ≠ .dequeued p m

variable {s t u : System} {p : ActorAddress} {i : Nat} {v : Invocation} {n : Next}

theorem Invocation.Loops.live (h : v.Loops p) (s : System) : s.Live p v := by
  obtain ⟨box, processed, hbase, hdriver⟩ := h
  exact .inr ⟨box, processed, hbase, .inl hdriver⟩

theorem Single.exclusive (h : Single s) : Exclusive s :=
  fun p i j v w hv hw hpv hpw =>
    h.live p i j v w hv hw ((h.handles i v p hv hpv).live s) ((h.handles j w p hw hpw).live s)

def Closes (s t : System) : Prop := ∀ box, s.closed box = true → t.closed box = true

theorem Closes.trans (h : Closes s t) (h' : Closes t u) : Closes s u :=
  fun box hbox => h' box (h box hbox)

theorem closes_of_eq (h : t.boxes = s.boxes) : Closes s t := fun box hbox => by
  rwa [System.closed, h]

theorem closes_set {box : Nat} {b b' : BoundedMailbox Message} (hb : s.boxes[box]? = some b)
    (h : b.stopped = true → b'.stopped = true) (ht : t.boxes = s.boxes.set box b') : Closes s t := by
  intro box' hbox'
  rw [System.closed, ht, getElem?_set]
  by_cases he : box = box'
  · subst he
    rw [if_pos rfl, if_pos (List.getElem?_eq_some_iff.mp hb).1]
    rw [System.closed, hb] at hbox'
    exact h hbox'
  · rw [if_neg he]
    exact hbox'

theorem closes_append {b : BoundedMailbox Message} (ht : t.boxes = s.boxes ++ [b]) : Closes s t := by
  intro box hbox
  rw [System.closed] at hbox ⊢
  rw [Option.any_eq_true] at hbox
  obtain ⟨b', hb', hstopped⟩ := hbox
  rw [ht, getElem?_append_left (List.getElem?_eq_some_iff.mp hb').1, hb']
  exact hstopped

theorem Closes.live (h : Closes s t) (ht : t.Live p v) : s.Live p v := by
  obtain hbase | ⟨box, processed, hbase, hrest⟩ := ht
  · exact .inl hbase
  · refine .inr ⟨box, processed, hbase, hrest.imp_right fun hopen => ?_⟩
    cases hclosed : s.closed box with
    | false => rfl
    | true => rw [h box hclosed] at hopen; exact hopen

theorem dequeue_of_closed {box : Nat} (h : s.closed box = true) :
    s.boxes[box]?.bind BoundedMailbox.dequeue = none := by
  rw [System.closed, Option.any_eq_true] at h
  obtain ⟨b, hb, hstopped⟩ := h
  rw [hb, bind_some]
  exact BoundedMailbox.dequeue_of_stopped hstopped

def Schedules (s t : System) : Prop :=
  t.invocations = s.invocations ∨
    ∃ p, t.invocations = s.invocations ++ [⟨.macrotask, none, .scheduled p⟩] ∧ s.Free p

/-- A segment that makes its invocation no more able to dequeue, and handles only what its
own loop dequeued. -/
structure Next.Orderly (s : System) (v : Invocation) (n : Next) : Prop where
  closes : Closes s n.system
  testMode : n.system.testMode = s.testMode
  schedules : Schedules s n.system
  live : ∀ p call, s.Live p ⟨call, n.driver, n.base⟩ → s.Live p v
  handles : ∀ p m, n.request = .deliver p m → Invocation.Loops ⟨.macrotask, n.driver, n.base⟩ p
  dequeued : ∀ p m, n.request ≠ .await (.dequeued p m)
  delivers : ∀ p m stage, n.request = .await (.deliver p m stage) →
    v.Handles p ∧ n.driver = v.driver ∧ n.base = v.base

theorem done_orderly (hc : Closes s t) (htest : t.testMode = s.testMode) (hs : Schedules s t)
    (v : Invocation) : t.done.Orderly s v where
  closes := hc
  testMode := htest
  schedules := hs
  live := fun p call h => by
    obtain h | ⟨_, _, h, -⟩ := h <;> cases h
  handles := nofun
  dequeued := nofun
  delivers := nofun

theorem processBatch_orderly {box processed : Nat} (hc : Closes s t)
    (htest : t.testMode = s.testMode) (hs : Schedules s t)
    (hv : s.closed box = false → s.Live p v) (hopen : s.closed box = t.closed box) :
    (t.processBatch p box processed).Orderly s v := by
  have hactive : ∀ active, Closes s (t.setActive p active) := fun _ => hc
  unfold System.processBatch
  split
  case h_1 => exact done_orderly (hactive false) htest hs v
  case h_2 m mailbox hdequeue =>
    obtain ⟨b, hb, hbm⟩ := bind_eq_some_iff.mp hdequeue
    have hlive : s.Live p v := by
      refine hv ?_
      cases hclosed : s.closed box with
      | false => rfl
      | true =>
        rw [hopen] at hclosed
        rw [dequeue_of_closed hclosed] at hdequeue
        cases hdequeue
    have hpath : ∀ q call driver base, (base = .scheduled p ∨ ∃ k, base = .processing p box k) →
        s.Live q ⟨call, driver, base⟩ → s.Live p v → s.Live q v := by
      rintro q call driver base (rfl | ⟨k, rfl⟩) (h | ⟨_, _, h, -⟩) hp
      · cases h; exact hp
      · cases h
      · cases h
      · cases h; exact hp
    split
    case isTrue =>
      split
      case isTrue =>
        refine ⟨hc.trans (closes_set hb ?_ rfl), htest, hs, fun q call h => ?_, ?_, nofun, nofun⟩
        · rw [BoundedMailbox.stopped_of_dequeue hbm]
          exact id
        · exact hpath q call none _ (.inr ⟨processed, rfl⟩) h hlive
        · intro q m' h
          obtain ⟨rfl, -⟩ := Request.deliver.inj h
          exact ⟨box, processed, rfl, rfl⟩
      case isFalse =>
        refine ⟨hc, htest, hs, fun q call h => ?_, nofun, nofun, nofun⟩
        exact hpath q call none _ (.inl rfl) h hlive
    case isFalse => exact done_orderly (hactive false) htest hs v

theorem processActorMessages_orderly (s : System) (v : Invocation) (hv : v.base = .scheduled p) :
    (s.processActorMessages p).Orderly s v := by
  have hactive : ∀ active, Closes s (s.setActive p active) := fun _ => closes_of_eq rfl
  unfold System.processActorMessages
  split
  case h_1 => exact done_orderly (hactive false) rfl (.inl rfl) v
  case h_2 =>
    split
    case isTrue => exact processBatch_orderly (hactive true) rfl (.inl rfl) (fun _ => .inl hv) rfl
    case isFalse => exact done_orderly (hactive false) rfl (.inl rfl) v

theorem supervises_orderly {base : Base} (h : n.Supervises s base)
    (hbase : base = v.base ∨ base = .caller) : n.Orderly s v where
  closes := closes_of_eq h.untouched.boxes
  testMode := h.untouched.testMode
  schedules := .inl h.untouched.invocations
  live := by
    intro p call hlive
    rw [h.base_eq] at hlive
    obtain rfl | rfl := hbase
    · obtain hs | ⟨box, processed, hs, hrest⟩ := hlive
      · exact .inl hs
      · refine .inr ⟨box, processed, hs, .inr (hrest.resolve_left fun hnone => ?_)⟩
        have hsome := h.driver
        rw [show n.driver = none from hnone] at hsome
        cases hsome
    · obtain hs | ⟨_, _, hs, -⟩ := hlive <;> cases hs
  handles := fun p m hrequest => by
    have hsilent := h.silent
    rw [hrequest] at hsilent
    exact hsilent.elim
  dequeued := fun p m hrequest => by
    have hsilent := h.silent
    rw [hrequest] at hsilent
    exact hsilent
  delivers := fun p m stage hrequest => by
    have hsilent := h.silent
    rw [hrequest] at hsilent
    exact hsilent.elim

theorem resume_orderly {threw : Bool} (h : s.resume i threw v.driver v.base = some n) :
    n.Orderly s v := by
  unfold System.resume at h
  split at h
  case h_1 driver hdriver =>
    cases h
    by_cases hfinishing : driver = .finishing
    · subst hfinishing
      simp only [System.resumeDriver]
      split
      case h_1 p box processed hbase =>
        refine processBatch_orderly (fun _ => id) rfl (.inl rfl) (fun hopen => ?_) rfl
        exact .inr ⟨box, processed, hbase, .inr hopen⟩
      case h_2 => exact done_orderly (fun _ => id) rfl (.inl rfl) v
    · exact supervises_orderly (resumeDriver_supervises s i v.base threw hfinishing) (.inl rfl)
  case h_2 p box processed hdriver hbase =>
    split at h
    · cases h
      exact supervises_orderly (applySupervisionStrategy_supervises s i _ p) (.inl hbase.symm)
    · cases h
      refine processBatch_orderly (fun _ => id) rfl (.inl rfl) (fun hopen => ?_) rfl
      exact .inr ⟨box, processed, hbase, .inr hopen⟩
  case h_3 =>
    split at h
    · cases h
      exact supervises_orderly (applySupervisionStrategy_supervises s i _ _) (.inr rfl)
    · cases h
      exact done_orderly (fun _ => id) rfl (.inl rfl) v
  case h_4 => cases h

theorem stopMailbox_closes (s : System) (p : ActorAddress) : Closes s (s.stopMailbox p) := by
  unfold System.stopMailbox
  split
  case h_1 => exact fun _ => id
  case h_2 =>
    split
    case h_1 => exact fun _ => id
    case h_2 hb => exact closes_set hb (fun _ => rfl) rfl

theorem emitSystemEvent_boxes (s : System) (e : SystemEvent) (p : ActorAddress) :
    (s.emitSystemEvent e p).boxes = s.boxes ∧ (s.emitSystemEvent e p).testMode = s.testMode := by
  unfold System.emitSystemEvent
  split <;> exact ⟨rfl, rfl⟩

theorem advanceStop_closes (s : System) (p : ActorAddress) (reason : Option StopReason)
    (stage : StopStage) : Closes s (s.advanceStop p reason stage).1 ∧
      (s.advanceStop p reason stage).1.testMode = s.testMode := by
  have hteardown : Closes s (s.teardown p) ∧ (s.teardown p).testMode = s.testMode := by
    refine ⟨(stopMailbox_closes s p).trans (closes_of_eq rfl), ?_⟩
    change (s.stopMailbox p).testMode = _
    unfold System.stopMailbox
    split
    case h_1 => rfl
    case h_2 => split <;> rfl
  cases stage with
  | stoppingEvent =>
    simp only [System.advanceStop]
    split
    · exact ⟨closes_of_eq rfl, rfl⟩
    · exact hteardown
  | onStop => exact hteardown
  | publish | unregister | stoppedEvent => exact ⟨closes_of_eq rfl, rfl⟩
  | broadcast =>
    obtain ⟨hboxes, htest⟩ := emitSystemEvent_boxes s (.actorStopped reason) p
    exact ⟨closes_of_eq hboxes, htest⟩

theorem advanceSpawn_closes (s : System) (p : ActorAddress) (stage : SpawnStage) :
    Closes s (s.advanceSpawn p stage).1 ∧ (s.advanceSpawn p stage).1.testMode = s.testMode := by
  cases stage with
  | register | spawnedEvent => exact ⟨closes_of_eq rfl, rfl⟩
  | broadcast =>
    obtain ⟨hboxes, htest⟩ := emitSystemEvent_boxes (s.startProcessing p) .actorSpawned p
    exact ⟨closes_append hboxes, htest⟩

/-- The condition on a step: a loop is scheduled, by a spawn or by a message that finds
the loop flagged as idle, only when no older invocation of it may still dequeue. -/
def Undisturbed (s : System) : Action → Prop
  | .advance i _ => ∀ v, s.invocations[i]? = some v →
      (∀ p, v.call = .spawn p .broadcast → s.Free p) ∧
      ∀ p m, v.call = .enqueue p m → s.processingLoops p = true → s.processingActive p = false →
        s.Free p
  | _ => True

theorem wake_invocations (s : System) (p : ActorAddress) : (s.wake p).invocations = s.invocations ∨
      s.processingLoops p = true ∧ s.processingActive p = false ∧
        (s.wake p).invocations = s.invocations ++ [⟨.macrotask, none, .scheduled p⟩] := by
  unfold System.wake
  split
  case isTrue hwake =>
    simp only [Bool.and_eq_true, Bool.not_eq_true'] at hwake
    exact .inr ⟨hwake.1.1, hwake.1.2, rfl⟩
  case isFalse => exact .inl rfl

theorem wake_boxes (s : System) (p : ActorAddress) :
    (s.wake p).boxes = s.boxes ∧ (s.wake p).testMode = s.testMode := by
  unfold System.wake
  split <;> exact ⟨rfl, rfl⟩

theorem enqueueMessage_orderly (htest : s.testMode = false) (v : Invocation) (m : Message)
    (o : Outcome) (h : s.processingLoops p = true → s.processingActive p = false → s.Free p) :
    (s.enqueueMessage p m o).Orderly s v := by
  have hdead : (s.deadLetter m).Orderly s v :=
    done_orderly (s := s) (t := { s with deadLetters := m :: s.deadLetters }) (fun _ => id) rfl (.inl rfl) v
  have hmailbox : (s.enqueueMessage p m .ok).Orderly s v := by
    simp only [System.enqueueMessage]
    split
    case h_1 => exact hdead
    case h_2 box _ =>
      split
      case h_1 mailbox henqueue =>
        obtain ⟨b, hb, hbm⟩ := bind_eq_some_iff.mp henqueue
        have hclose : Closes s { s with boxes := s.boxes.set box mailbox } := by
          refine closes_set hb ?_ rfl
          rw [(BoundedMailbox.enqueue_true hbm).2]
          exact id
        obtain ⟨hboxes, hmode⟩ := wake_boxes { s with boxes := s.boxes.set box mailbox } p
        have hoff : (System.wake { s with boxes := s.boxes.set box mailbox } p).testMode = false :=
          hmode.trans htest
        rw [System.deliverInTestMode, hoff, Bool.false_and, if_neg Bool.false_ne_true]
        refine done_orderly (hclose.trans (closes_of_eq hboxes)) hmode ?_ v
        obtain hsame | ⟨hloops, hactive, hnew⟩ :=
          wake_invocations { s with boxes := s.boxes.set box mailbox } p
        · exact .inl hsame
        · exact .inr ⟨p, hnew, h hloops hactive⟩
      case h_2 => exact hdead
  cases o with
  | ok => exact hmailbox
  | threw => exact hmailbox
  | filtered => exact done_orderly (s := s) (t := s.record (.filtered m)) (fun _ => id) rfl (.inl rfl) v
  | missing => exact hdead

theorem keeps_orderly (hc : Closes s t) (htest : t.testMode = s.testMode) (hs : Schedules s t)
    {c : Call} (hdequeued : ∀ p m, c ≠ .dequeued p m)
    (hdelivers : ∀ p m stage, c = .deliver p m stage → v.Handles p) :
    (Next.mk t v.driver v.base (.await c)).Orderly s v where
  closes := hc
  testMode := htest
  schedules := hs
  live := fun _ _ h => h
  handles := nofun
  dequeued := fun p m h => hdequeued p m (Request.await.inj h)
  delivers := fun p m stage h => ⟨hdelivers p m stage (Request.await.inj h), rfl, rfl⟩

theorem advanceDeliver_call (s : System) (p : ActorAddress) (m : Message) (stage : DeliverStage)
    (o : Outcome) : (s.advanceDeliver p m stage o).1.boxes = s.boxes ∧
      (s.advanceDeliver p m stage o).1.testMode = s.testMode ∧
      (s.advanceDeliver p m stage o).1.invocations = s.invocations ∧
      ((∃ threw, (s.advanceDeliver p m stage o).2 = .returned threw) ∨
        ∃ stage', (s.advanceDeliver p m stage o).2 = .deliver p m stage') := by
  cases stage with
  | interceptors =>
    cases o with
    | filtered => exact ⟨rfl, rfl, rfl, .inl ⟨_, rfl⟩⟩
    | ok | threw | missing =>
      simp only [System.advanceDeliver]
      split <;> exact ⟨rfl, rfl, rfl, .inr ⟨_, rfl⟩⟩
  | onStart =>
    cases o with
    | threw => exact ⟨rfl, rfl, rfl, .inl ⟨_, rfl⟩⟩
    | ok | filtered | missing => exact ⟨rfl, rfl, rfl, .inr ⟨_, rfl⟩⟩
  | handler => cases o <;> exact ⟨rfl, rfl, rfl, .inl ⟨_, rfl⟩⟩

theorem advanceStop_call (s : System) (p : ActorAddress) (reason : Option StopReason)
    (stage : StopStage) : (∃ threw, (s.advanceStop p reason stage).2 = .returned threw) ∨
      ∃ stage', (s.advanceStop p reason stage).2 = .stop p reason stage' := by
  cases stage with
  | stoppingEvent =>
    simp only [System.advanceStop]
    split <;> exact .inr ⟨_, rfl⟩
  | stoppedEvent => exact .inl ⟨_, rfl⟩
  | _ => exact .inr ⟨_, rfl⟩

theorem next_orderly {o : Outcome} (h : Single s) (hv : s.invocations[i]? = some v)
    (hord : Undisturbed s (.advance i o)) (hn : s.next i o v = some n) : n.Orderly s v := by
  obtain ⟨hspawn, henqueue⟩ := hord v hv
  obtain ⟨call, driver, base⟩ := v
  cases call with
  | stop p reason stage =>
    cases hn
    obtain ⟨hc, htest⟩ := advanceStop_closes s p reason stage
    refine keeps_orderly hc htest (.inl (advanceStop_invocations s p reason stage)) ?_ ?_
    · intro q m he
      obtain ⟨_, hcall⟩ | ⟨_, hcall⟩ := advanceStop_call s p reason stage <;>
        exact Call.noConfusion (hcall.symm.trans he)
    · intro q m _ he
      obtain ⟨_, hcall⟩ | ⟨_, hcall⟩ := advanceStop_call s p reason stage <;>
        exact Call.noConfusion (hcall.symm.trans he)
  | spawn p stage =>
    cases hn
    obtain ⟨hc, htest⟩ := advanceSpawn_closes s p stage
    cases stage with
    | register | spawnedEvent =>
      exact keeps_orderly hc htest (.inl rfl) (fun _ _ h => Call.noConfusion h) fun _ _ _ h =>
        Call.noConfusion h
    | broadcast =>
      refine keeps_orderly hc htest (.inr ⟨p, ?_, hspawn p rfl⟩) (fun _ _ h => Call.noConfusion h) fun _ _ _ h =>
        Call.noConfusion h
      exact emitSystemEvent_invocations (s.startProcessing p) .actorSpawned p
  | deliver p m stage =>
    cases hn
    obtain ⟨hboxes, htest, hinv, hcall⟩ := advanceDeliver_call s p m stage o
    refine keeps_orderly (closes_of_eq hboxes) htest (.inl hinv) (fun q m' he => ?_) ?_
    · obtain ⟨_, hcall⟩ | ⟨_, hcall⟩ := hcall <;> exact Call.noConfusion (hcall.symm.trans he)
    · intro q m' stage' he
      obtain ⟨_, hcall⟩ | ⟨_, hcall⟩ := hcall
      · exact Call.noConfusion (hcall.symm.trans he)
      · obtain ⟨rfl, rfl, rfl⟩ := Call.deliver.inj (hcall.symm.trans he)
        exact ⟨m, stage, rfl⟩
  | enqueue p m =>
    cases hn
    exact enqueueMessage_orderly h.untested _ m o (henqueue p m rfl)
  | dequeued p m => exact absurd rfl (h.dequeued i _ p m hv)
  | timer due =>
    simp only [System.next] at hn
    split at hn
    case isTrue =>
      cases hn
      exact keeps_orderly (fun _ => id) rfl (.inl rfl) (by simp) (by simp)
    case isFalse => cases hn
  | systemEvent =>
    cases hn
    exact keeps_orderly (fun _ => id) rfl (.inl rfl) (by simp) (by simp)
  | macrotask =>
    simp only [System.next] at hn
    split at hn
    case h_1 p =>
      cases hn
      exact processActorMessages_orderly s _ rfl
    case h_2 => cases hn
  | returned threw => exact resume_orderly hn

theorem perform_closes (s : System) (request : Request) :
    (s.perform request).1.boxes = s.boxes ∧ (s.perform request).1.testMode = s.testMode := by
  cases request with
  | await call => exact ⟨rfl, rfl⟩
  | stop p reason => exact emitSystemEvent_boxes s .actorStopping p
  | spawn p behavior policy =>
    simp only [System.perform, System.beginSpawn]
    split <;> exact ⟨rfl, rfl⟩
  | deliver p m =>
    simp only [System.perform, System.beginDeliver]
    split <;> exact ⟨rfl, rfl⟩

theorem perform_call (s : System) (request : Request) :
    (∀ p m stage, (s.perform request).2 = .deliver p m stage →
      request = .deliver p m ∨ request = .await (.deliver p m stage)) ∧
    ∀ p m, (s.perform request).2 = .dequeued p m → request = .await (.dequeued p m) := by
  cases request with
  | await call => exact ⟨fun _ _ _ h => .inr (congrArg _ h), fun _ _ h => congrArg _ h⟩
  | stop p reason => exact ⟨fun _ _ _ h => Call.noConfusion h, fun _ _ h => Call.noConfusion h⟩
  | spawn p behavior policy =>
    simp only [System.perform, System.beginSpawn]
    split <;> exact ⟨fun _ _ _ h => Call.noConfusion h, fun _ _ h => Call.noConfusion h⟩
  | deliver p m =>
    simp only [System.perform, System.beginDeliver]
    split
    · refine ⟨fun q m' stage h => ?_, fun _ _ h => Call.noConfusion h⟩
      obtain ⟨rfl, rfl, -⟩ := Call.deliver.inj h
      exact .inl rfl
    · exact ⟨fun _ _ _ h => Call.noConfusion h, fun _ _ h => Call.noConfusion h⟩

theorem Single.step (h : Single s) (htest : t.testMode = false)
    (hlive : ∀ (j : Nat) w p, t.invocations[j]? = some w → t.Live p w →
      (∃ v, s.invocations[j]? = some v ∧ s.Live p v) ∨ j = s.invocations.length ∧ s.Free p)
    (hhandles : ∀ (j : Nat) (w : Invocation) p, t.invocations[j]? = some w → w.Handles p →
      w.Loops p) (hdequeued : ∀ (j : Nat) (w : Invocation) p m, t.invocations[j]? = some w →
      w.call ≠ .dequeued p m) : Single t where
  untested := htest
  live := by
    intro p i j v w hv hw hpv hpw
    obtain ⟨v', hv', hlive'⟩ | ⟨hi, hfree⟩ := hlive i v p hv hpv
    · obtain ⟨w', hw', hlive''⟩ | ⟨-, hfree⟩ := hlive j w p hw hpw
      · exact h.live p i j v' w' hv' hw' hlive' hlive''
      · exact absurd hlive' (hfree i v' hv')
    · obtain ⟨w', hw', hlive''⟩ | ⟨hj, -⟩ := hlive j w p hw hpw
      · exact absurd hlive'' (hfree j w' hw')
      · exact hi.trans hj.symm
  handles := hhandles
  dequeued := hdequeued

theorem Single.add (h : Single s) (htest : t.testMode = false) (hboxes : t.boxes = s.boxes)
    {c : Call} (ht : t.invocations = s.invocations ++ [⟨c, none, .caller⟩])
    (hdeliver : ∀ p m stage, c ≠ .deliver p m stage) (hdequeued : ∀ p m, c ≠ .dequeued p m) :
    Single t := by
  have hold : ∀ {j : Nat} {w : Invocation}, t.invocations[j]? = some w →
      s.invocations[j]? = some w ∨ w = ⟨c, none, .caller⟩ := by
    intro j w hw
    rw [ht, getElem?_append] at hw
    split at hw
    · exact .inl hw
    · exact .inr (mem_singleton.mp (mem_of_getElem? hw))
  refine h.step htest (fun j w p hw hlive => ?_) (fun j w p hw hp => ?_) fun j w p m hw => ?_
  · obtain hw | rfl := hold hw
    · exact .inl ⟨w, hw, (closes_of_eq hboxes).live hlive⟩
    · obtain hs | ⟨_, _, hs, -⟩ := hlive <;> cases hs
  · obtain hw | rfl := hold hw
    · exact h.handles j w p hw hp
    · obtain ⟨m, stage, hc⟩ := hp
      exact absurd hc (hdeliver p m stage)
  · obtain hw | rfl := hold hw
    · exact h.dequeued j w p m hw
    · exact hdequeued p m

theorem advance_single {o : Outcome} (h : Single s) (hord : Undisturbed s (.advance i o))
    (hstep : step s (.advance i o) = some t) : Single t := by
  simp only [step, bind_eq_some_iff, map_eq_some_iff] at hstep
  obtain ⟨v, hv, n, hn, rfl⟩ := hstep
  have hn' := next_orderly h hv hord hn
  obtain ⟨hboxes, htest⟩ := perform_closes n.system n.request
  have hcloses : Closes s (n.settle i) := hn'.closes.trans (closes_of_eq hboxes)
  -- an invocation after the step is the one that moved, an old one or the scheduled one
  have hcases : ∀ {j : Nat} {w : Invocation}, (n.settle i).invocations[j]? = some w →
      j = i ∧ w = ⟨(n.system.perform n.request).2, n.driver, n.base⟩ ∨ s.invocations[j]? = some w ∨
        ∃ p, j = s.invocations.length ∧ w = ⟨.macrotask, none, .scheduled p⟩ ∧ s.Free p := by
    intro j w hw
    simp only [Next.settle, perform_invocations, getElem?_set] at hw
    by_cases hj : i = j
    · rw [if_pos hj] at hw
      split at hw
      · exact .inl ⟨hj.symm, (some.inj hw).symm⟩
      · cases hw
    · rw [if_neg hj] at hw
      obtain hsame | ⟨p, hnew, hfree⟩ := hn'.schedules
      · rw [hsame] at hw
        exact .inr (.inl hw)
      · rw [hnew, getElem?_append] at hw
        split at hw
        · exact .inr (.inl hw)
        · case isFalse hlt =>
          obtain ⟨hlt', hget⟩ := List.getElem?_eq_some_iff.mp hw
          rw [length_singleton, Nat.lt_one_iff] at hlt'
          refine .inr (.inr ⟨p, by omega, ?_, hfree⟩)
          exact mem_singleton.mp (mem_of_getElem? hw)
  obtain ⟨hdeliver, hdequeued⟩ := perform_call n.system n.request
  refine h.step (htest.trans (hn'.testMode.trans h.untested)) (fun j w p hw hlive => ?_)
    (fun j w p hw hp => ?_) fun j w p m hw => ?_
  · obtain ⟨rfl, rfl⟩ | hw | ⟨q, hj, rfl, hfree⟩ := hcases hw
    · exact .inl ⟨v, hv, hn'.live p _ (hcloses.live hlive)⟩
    · exact .inl ⟨w, hw, hcloses.live hlive⟩
    · obtain hs | ⟨_, _, hs, -⟩ := hlive <;> cases hs
      exact .inr ⟨hj, hfree⟩
  · obtain ⟨rfl, rfl⟩ | hw | ⟨q, hj, rfl, hfree⟩ := hcases hw
    · obtain ⟨m, stage, hcall⟩ := hp
      obtain hrequest | hrequest := hdeliver p m stage hcall
      · exact hn'.handles p m hrequest
      · obtain ⟨hv', hdriver, hbase⟩ := hn'.delivers p m stage hrequest
        obtain ⟨box, processed, hb, hd⟩ := h.handles j v p hv hv'
        exact ⟨box, processed, hbase.trans hb, hdriver.trans hd⟩
    · exact h.handles j w p hw hp
    · obtain ⟨_, _, hcall⟩ := hp
      cases hcall
  · obtain ⟨rfl, rfl⟩ | hw | ⟨q, hj, rfl, hfree⟩ := hcases hw
    · exact fun hcall => hn'.dequeued p m (hdequeued p m hcall)
    · exact h.dequeued j w p m hw
    · exact nofun

def Untested : Action → Prop
  | .processNextMessage _ => False
  | .setTestMode enabled => enabled = false
  | _ => True

theorem undisturbed_single {a : Action} (h : Single s) (ha : Untested a) (hord : Undisturbed s a)
    (hstep : step s a = some t) : Single t := by
  have hsame : ∀ {u : System}, u.testMode = false → u.boxes = s.boxes →
      u.invocations = s.invocations → Single u := by
    intro u htest hboxes hinv
    refine h.step htest (fun j w p hw hlive => .inl ?_) (fun j w p hw => ?_) fun j w p m hw => ?_
    · exact ⟨w, hinv ▸ hw, (closes_of_eq hboxes).live hlive⟩
    · exact h.handles j w p (hinv ▸ hw)
    · exact h.dequeued j w p m (hinv ▸ hw)
  have hinvoke : ∀ {u : System} {request : Request}, Single u →
      (∀ p m stage, (u.perform request).2 ≠ .deliver p m stage) →
      (∀ p m, (u.perform request).2 ≠ .dequeued p m) → Single (u.invoke request) := by
    intro u request hu hdeliver hdequeued
    obtain ⟨hboxes, htest⟩ := perform_closes u request
    refine hu.add (htest.trans hu.untested) hboxes ?_ hdeliver hdequeued
    rw [System.invoke, perform_invocations]
  cases a with
  | tick | setSystemEventActor | stopSystem =>
    cases hstep
    exact hsame h.untested rfl rfl
  | setTestMode enabled =>
    cases hstep
    exact hsame ha rfl rfl
  | spawn p behavior policy =>
    cases hstep
    refine hinvoke h ?_ ?_
    · intro q m stage he
      obtain hr | hr := (perform_call s _).1 q m stage he <;> cases hr
    · intro q m he
      cases (perform_call s _).2 q m he
  | stop p =>
    cases hstep
    exact hinvoke (hsame (u := s.record (.userStop p)) h.untested rfl rfl) nofun nofun
  | stopInternal p =>
    simp only [step] at hstep
    split at hstep
    case isTrue =>
      cases hstep
      exact hinvoke (hsame (u := s.record (.userStop p)) h.untested rfl rfl) nofun nofun
    case isFalse => cases hstep
  | enqueueMessage p =>
    cases hstep
    exact hinvoke (hsame (u := { s with given := ⟨s.given.length, p⟩ :: s.given }) h.untested rfl rfl)
      nofun nofun
  | processNextMessage p => exact ha.elim
  | advance i o => exact advance_single h hord hstep

theorem start_single (maxActors : Nat) (supervisors : List SupervisorGroupConfig) :
    Single (start maxActors supervisors) where
  untested := rfl
  live := fun _ _ _ _ _ h => by cases h
  handles := fun _ _ _ h => by cases h
  dequeued := fun _ _ _ _ h => by cases h

/-- In a run without test mode and `flush()` whose steps are undisturbed, at most one
message of each path is handled at a time. -/
theorem undisturbed_runs_exclusive (maxActors : Nat) (supervisors : List SupervisorGroupConfig)
    (actions : List Action) (huntested : ∀ a ∈ actions, Untested a)
    (hord : Guarded step Undisturbed (start maxActors supervisors) actions)
    (ht : exec step (start maxActors supervisors) actions = some t) : Exclusive t := by
  refine Single.exclusive (guarded_invariant (I := Single)
    (G := fun s a => Undisturbed s a ∧ Untested a) ?_ (start_single maxActors supervisors)
    (guarded_and_mem huntested hord) ht)
  exact fun s a u h hstep hg => undisturbed_single h hg.2 hg.1 hstep

section Runs

def counter : ActorAddress := "actor://n/counter".toList

/-- The counter fails and is restarted; the invocation that restarted it ends its batch
and clears the flag of the new loop, so the next message schedules a second loop. -/
def staleLoopRun : List Action :=
  [.spawn counter ⟨false⟩ none, .advance 0 .ok, .advance 0 .ok, .advance 0 .ok,
    .enqueueMessage counter, .advance 2 .ok, .advance 1 .ok, .advance 1 .ok, .advance 1 .ok,
    .advance 1 .threw, .advance 1 .ok, .tick 1000] ++ List.replicate 14 (.advance 1 .ok) ++
  [.enqueueMessage counter, .advance 4 .ok, .enqueueMessage counter, .advance 6 .ok,
    .advance 3 .ok, .advance 5 .ok]

theorem staleLoopRun_handles_two :
    ¬∀ maxActors supervisors actions t, (∀ a ∈ actions, Untested a) →
      exec step (start maxActors supervisors) actions = some t → Exclusive t := by
  intro h
  have hrun : (exec step (start 0 []) staleLoopRun).map (fun s =>
      (s.invocations[3]?.map (·.call), s.invocations[5]?.map (·.call))) =
        some (some (.deliver counter ⟨1, counter⟩ .interceptors),
          some (.deliver counter ⟨2, counter⟩ .interceptors)) := by
    decide +kernel
  obtain ⟨s, hs, hcalls⟩ := Option.map_eq_some_iff.mp hrun
  obtain ⟨hfirst, hsecond⟩ := Prod.mk.inj hcalls
  obtain ⟨v, hv, hvcall⟩ := Option.map_eq_some_iff.mp hfirst
  obtain ⟨w, hw, hwcall⟩ := Option.map_eq_some_iff.mp hsecond
  have huntested : ∀ a ∈ staleLoopRun, Untested a := by
    simp [staleLoopRun, Untested]
  have heq := h 0 [] staleLoopRun s huntested hs counter 3 5 v w hv hw ⟨_, _, hvcall⟩ ⟨_, _, hwcall⟩
  cases heq

def freshLoopRun : List Action :=
  [.spawn counter ⟨false⟩ none, .advance 0 .ok, .advance 0 .ok, .enqueueMessage counter,
    .advance 2 .ok, .advance 1 .ok]

theorem freshLoopRun_exclusive :
    ∃ s, exec step (start 0 []) freshLoopRun = some s ∧ Exclusive s := by
  have hrun : (exec step (start 0 []) freshLoopRun).isSome := by decide +kernel
  obtain ⟨s, hs⟩ := Option.isSome_iff_exists.mp hrun
  have huntested : ∀ a ∈ freshLoopRun, Untested a := by simp [freshLoopRun, Untested]
  refine ⟨s, hs, undisturbed_runs_exclusive 0 [] freshLoopRun huntested ?_ hs⟩
  intro s₁ h₁
  refine ⟨trivial, fun s₂ h₂ => ⟨fun v hv => ?_, fun s₃ h₃ => ⟨fun v hv => ?_, fun s₄ h₄ =>
    ⟨trivial, fun s₅ h₅ => ⟨fun v hv => ?_, fun s₆ h₆ => ⟨fun v hv => ?_, trivial⟩⟩⟩⟩⟩⟩
  · cases h₁
    cases hv
    exact ⟨nofun, nofun⟩
  · cases h₁
    cases h₂
    cases hv
    refine ⟨fun p _ i w hw => ?_, nofun⟩
    match i with
    | 0 =>
      cases hw
      rintro (hbase | ⟨_, _, hbase, -⟩) <;> cases hbase
    | i + 1 => cases hw
  · cases h₁
    cases h₂
    cases h₃
    cases h₄
    cases hv
    refine ⟨nofun, fun p m hcall _ hactive => ?_⟩
    obtain ⟨rfl, -⟩ := Call.enqueue.inj hcall
    cases hactive
  · cases h₁
    cases h₂
    cases h₃
    cases h₄
    cases h₅
    cases hv
    exact ⟨nofun, nofun⟩

end Runs

end ActorWeb.ActorSystem
