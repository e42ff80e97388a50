import ActorWeb.ActorLife
import ActorWeb.ActorSystem

namespace ActorWeb.ActorSystem

open Supervision ActorLife

def StopStage.phase : StopStage → Option Phase
  | .stoppingEvent => some .starting
  | .onStop => some .stopping
  | .publish => some .publishing
  | .unregister | .broadcast => some .forgotten
  | .stoppedEvent => none

def SpawnStage.phase : SpawnStage → Option Phase
  | .register | .broadcast => some .spawning
  | .spawnedEvent => none

def Call.phase (p : ActorAddress) : Call → Option Phase
  | .stop q _ stage => if q = p then stage.phase else none
  | .spawn q stage => if q = p then stage.phase else none
  | _ => none

def Entry.Quiet : Entry → Prop
  | .event .actorSpawned _ | .event (.actorStopped _) _ | .onStop _ => False
  | _ => True

/-- A quiet entry that is no user stop and bounds no wait of a supervised restart. -/
def Entry.Still : Entry → Prop
  | .userStop _ | .backoff _ _ | .backoffOver _ _ => False
  | e => e.Quiet

theorem Entry.Still.quiet {e : Entry} (h : e.Still) : e.Quiet := by
  cases e <;> first | exact h | exact trivial

/-- A part of a step that registers and removes no actor and makes entries of one kind. -/
structure Extends (P : Entry → Prop) (s t : System) : Prop where
  actors : t.actors = s.actors
  nextBehavior : t.nextBehavior = s.nextBehavior
  log : ∃ es, t.log = es ++ s.log ∧ ∀ e ∈ es, P e
  invocations : ∃ vs, t.invocations = s.invocations ++ vs ∧
    ∀ v ∈ vs, v.call = .macrotask ∧ v.driver = none

variable {P : Entry → Prop} {s t u : System} {p : ActorAddress} {i : Nat} {v : Invocation}

theorem Extends.refl (P) (s : System) : Extends P s s :=
  ⟨rfl, rfl, ⟨[], rfl, by simp⟩, ⟨[], by simp, by simp⟩⟩

theorem Extends.trans (h : Extends P s t) (h' : Extends P t u) : Extends P s u := by
  obtain ⟨es, hes, hquiet⟩ := h.log
  obtain ⟨es', hes', hquiet'⟩ := h'.log
  obtain ⟨vs, hvs, hcalls⟩ := h.invocations
  obtain ⟨vs', hvs', hcalls'⟩ := h'.invocations
  refine ⟨h'.actors.trans h.actors, h'.nextBehavior.trans h.nextBehavior, ⟨es' ++ es, ?_, ?_⟩,
    ⟨vs ++ vs', ?_, ?_⟩⟩
  · rw [hes', hes, List.append_assoc]
  · exact fun e he => (List.mem_append.mp he).elim (hquiet' e) (hquiet e)
  · rw [hvs', hvs, List.append_assoc]
  · exact fun v hv => (List.mem_append.mp hv).elim (hcalls v) (hcalls' v)

theorem Extends.mono {P' : Entry → Prop} (h : Extends P s t) (hP : ∀ e, P e → P' e) :
    Extends P' s t :=
  ⟨h.actors, h.nextBehavior, h.log.imp fun _ hes => ⟨hes.1, fun e he => hP e (hes.2 e he)⟩,
    h.invocations⟩

theorem record_extends (s : System) {e : Entry} (he : P e) : Extends P s (s.record e) :=
  ⟨rfl, rfl, ⟨[e], rfl, by simpa using he⟩, ⟨[], by simp [System.record], by simp⟩⟩

theorem emitSystemEvent_extends (s : System) {e : SystemEvent} (he : P (.event e p)) :
    Extends P s (s.emitSystemEvent e p) := by
  unfold System.emitSystemEvent
  split
  · exact record_extends s he
  · exact .refl P s

/-- A request that leaves no stop or spawn under way unless it begins one. -/
def Request.Plain : Request → Prop
  | .await call => ∀ p, call.phase p = none
  | _ => True

/-- What a segment of an invocation does besides the calls it makes. -/
structure Next.Still (s : System) (n : Next) : Prop where
  extends_still : Extends Entry.Still s n.system
  driver : ∀ r, n.driver ≠ some (.restarting r .backoff)
  plain : n.request.Plain

section Still

theorem bookkeeping_extends (ha : t.actors = s.actors) (hb : t.nextBehavior = s.nextBehavior)
    (hl : t.log = s.log) (hv : t.invocations = s.invocations) : Extends P s t :=
  ⟨ha, hb, ⟨[], hl, by simp⟩, ⟨[], by rw [hv, List.append_nil], by simp⟩⟩

theorem boxes_extends (s : System) (boxes : List (BoundedMailbox Message)) :
    Extends P s { s with boxes := boxes } := bookkeeping_extends rfl rfl rfl rfl

theorem setRestarting_extends (s : System) (group : SupervisorGroupConfig) (restarting : Bool) :
    Extends P s (s.setRestarting group restarting) := bookkeeping_extends rfl rfl rfl rfl

theorem setRestarts_extends (s : System) (p : ActorAddress) (count time : Nat) :
    Extends P s (s.setRestarts p count time) := bookkeeping_extends rfl rfl rfl rfl

theorem wake_extends (s : System) (p : ActorAddress) : Extends P s (s.wake p) := by
  unfold System.wake
  split
  · exact ⟨rfl, rfl, ⟨[], rfl, by simp⟩, ⟨_, rfl, by simp⟩⟩
  · exact .refl P s

theorem done_still (h : Extends Entry.Still s t) : t.done.Still s :=
  ⟨h, nofun, fun _ => rfl⟩

theorem finish_still (h : Extends Entry.Still s t) (base : Base) : (t.finish base).Still s :=
  ⟨h, nofun, fun _ => rfl⟩

theorem processBatch_still (s : System) (p : ActorAddress) (box processed : Nat) :
    (s.processBatch p box processed).Still s := by
  unfold System.processBatch
  split
  case h_1 => exact done_still (bookkeeping_extends rfl rfl rfl rfl)
  case h_2 =>
    split
    case isTrue =>
      split
      · exact ⟨bookkeeping_extends rfl rfl rfl rfl, nofun, trivial⟩
      · exact ⟨.refl _ s, nofun, fun _ => rfl⟩
    case isFalse => exact done_still (bookkeeping_extends rfl rfl rfl rfl)

theorem processActorMessages_still (s : System) (p : ActorAddress) :
    (s.processActorMessages p).Still s := by
  have hactive : ∀ active, Extends Entry.Still s (s.setActive p active) :=
    fun _ => bookkeeping_extends rfl rfl rfl rfl
  unfold System.processActorMessages
  split
  case h_1 => exact done_still (hactive false)
  case h_2 box _ =>
    split
    case isTrue =>
      obtain ⟨hext, hdriver, hplain⟩ := processBatch_still (s.setActive p true) p box 0
      exact ⟨(hactive true).trans hext, hdriver, hplain⟩
    case isFalse => exact done_still (hactive false)

theorem deliverInTestMode_still (h : Extends Entry.Still s t) (p : ActorAddress) (box : Nat) :
    (t.deliverInTestMode p box).Still s := by
  unfold System.deliverInTestMode
  split
  case isTrue =>
    split
    case h_1 => exact done_still h
    case h_2 => exact ⟨h.trans (bookkeeping_extends rfl rfl rfl rfl), nofun, trivial⟩
  case isFalse => exact done_still h

theorem enqueueMessage_still (s : System) (p : ActorAddress) (m : Message) (o : Outcome) :
    (s.enqueueMessage p m o).Still s := by
  have hdead : (s.deadLetter m).Still s := done_still (bookkeeping_extends rfl rfl rfl rfl)
  have hmailbox : (s.enqueueMessage p m .ok).Still s := by
    simp only [System.enqueueMessage]
    split
    case h_1 => exact hdead
    case h_2 =>
      split
      case h_1 =>
        refine deliverInTestMode_still ?_ p _
        exact (boxes_extends s _).trans (wake_extends _ p)
      case h_2 => exact hdead
  cases o with
  | ok => exact hmailbox
  | threw => exact hmailbox
  | filtered => exact done_still (record_extends s trivial)
  | missing => exact hdead

theorem respawnMembers_still (h : Extends Entry.Still s t) (base : Base) (g : GroupRestart)
    (rest : List ActorAddress) : (t.respawnMembers base g rest).Still s := by
  induction rest with
  | nil =>
    rw [System.respawnMembers]
    split
    · have hset := h.trans (setRestarts_extends t g.failed (g.count + 1) g.startedAt)
      exact finish_still (hset.trans (setRestarting_extends _ g.group false)) base
    · exact finish_still (h.trans (setRestarting_extends t g.group false)) base
  | cons p rest ih =>
    rw [System.respawnMembers]
    split
    case h_1 => exact ih
    case h_2 => exact ⟨h, nofun, trivial⟩

theorem stopMembers_still (h : Extends Entry.Still s t) (base : Base) (g : GroupRestart)
    (rest : List ActorAddress) : (t.stopMembers base g rest).Still s := by
  induction rest generalizing g with
  | nil => exact respawnMembers_still h base g g.respawnOrder
  | cons p rest ih =>
    rw [System.stopMembers]
    split
    case isTrue => exact ih g
    case isFalse =>
      split
      case isTrue => exact ih (g.delete p)
      case isFalse => exact ⟨h, nofun, trivial⟩

theorem stopSupervisorGroup_still (h : Extends Entry.Still s t) (base : Base)
    (group : SupervisorGroupConfig) (failed : ActorAddress) (reason : GiveUpReason)
    (rest : List ActorAddress) : (t.stopSupervisorGroup base group failed reason rest).Still s := by
  induction rest with
  | nil => exact ⟨h.trans (emitSystemEvent_extends t trivial), nofun, fun _ => rfl⟩
  | cons p rest ih =>
    rw [System.stopSupervisorGroup]
    split
    case isTrue => exact ih
    case isFalse => exact ⟨h, nofun, trivial⟩

end Still

/-- A segment makes a supervised restart wait, ends its wait, or touches no wait. -/
inductive Next.Fine (s : System) (i : Nat) (v : Invocation) (n : Next) : Prop
  | still (h : n.Still s)
  | keeps (h : Extends Entry.Still s n.system) (hdriver : n.driver = v.driver)
      (hplain : n.request.Plain)
  | waits (r : Restart) (hdriver : n.driver = some (.restarting r .backoff))
      (hbehavior : s.actors r.address = some r.behavior)
      (hlog : n.system.log = .backoff i r.address :: s.log) (h : Extends Entry.Quiet s n.system)
      (hplain : n.request.Plain)
  | resumes (r : Restart) (threw : Bool) (hcall : v.call = .returned threw)
      (hdriver : v.driver = some (.restarting r .backoff))
      (hstage : n.driver = some (.restarting r .stop))
      (hlog : n.system.log = .backoffOver i r.address :: s.log)
      (h : Extends Entry.Quiet s n.system)
      (hrequest : n.request = .stop r.address (some .supervisorRestart))

theorem setCount_extends (s : System) (p : ActorAddress) (d : Decision) :
    Extends P s (s.setCount p d) := by
  cases d <;> exact bookkeeping_extends rfl rfl rfl rfl

theorem executeDecision_fine (v : Invocation) (base : Base) {behavior : PureActorBehavior}
    (hp : s.actors p = some behavior) (decision : Decision) :
    (s.executeDecision i base p behavior decision).Fine s i v := by
  cases decision with
  | restart count limit =>
    refine .waits _ rfl hp rfl ?_ fun _ => rfl
    exact (setCount_extends s p (.restart count limit)).trans (record_extends _ trivial)
  | stopPermanent count limit | stop | escalate => exact .still ⟨.refl _ s, nofun, trivial⟩
  | resume => exact .still ⟨emitSystemEvent_extends s trivial, nofun, fun _ => rfl⟩

theorem applySupervisionStrategy_fine (v : Invocation) (base : Base) :
    (s.applySupervisionStrategy i base p).Fine s i v := by
  unfold System.applySupervisionStrategy
  split
  case isTrue => exact .still (finish_still (.refl _ s) base)
  case isFalse =>
    split
    case h_1 => exact .still (finish_still (.refl _ s) base)
    case h_2 behavior hp =>
      dsimp only
      split
      case h_1 =>
        refine .still ⟨?_, nofun, fun _ => rfl⟩
        exact (setCount_extends s p _).trans (setRestarting_extends _ _ true)
      case h_2 =>
        exact .still (stopSupervisorGroup_still (setRestarting_extends s _ true) base _ p _ _)
      case h_3 => exact executeDecision_fine v base hp _

theorem resumeRestart_fine (base : Base) (r : Restart) (threw : Bool) (stage : RestartStage)
    (hcall : v.call = .returned threw) (hdriver : v.driver = some (.restarting r stage)) :
    (s.resumeRestart i base r threw stage).Fine s i v := by
  cases stage with
  | backoff => exact .resumes r threw hcall hdriver rfl rfl (record_extends s trivial) rfl
  | stop => exact .still ⟨record_extends s trivial, nofun, trivial⟩
  | spawn =>
    simp only [System.resumeRestart]
    split
    · exact .still ⟨emitSystemEvent_extends s trivial, nofun, fun _ => rfl⟩
    · refine .still ⟨?_, nofun, fun _ => rfl⟩
      exact (setRestarts_extends s _ _ _).trans (emitSystemEvent_extends _ trivial)

theorem resumeDriver_fine (base : Base) (threw : Bool) (d : Driver)
    (hcall : v.call = .returned threw) (hdriver : v.driver = some d) :
    (s.resumeDriver i base threw d).Fine s i v := by
  cases d with
  | finishing =>
    simp only [System.resumeDriver]
    split
    case h_1 => exact .still (processBatch_still s _ _ _)
    case h_2 => exact .still (done_still (.refl _ s))
  | escalating p => exact .still ⟨emitSystemEvent_extends s trivial, nofun, fun _ => rfl⟩
  | restarting r stage => exact resumeRestart_fine base r threw stage hcall hdriver
  | waitingForGroup g => exact .still (stopMembers_still (.refl _ s) base g _)
  | stoppingMembers g rest => exact .still (stopMembers_still (.refl _ s) base g rest)
  | respawningMembers g p rest emitted =>
    simp only [System.resumeDriver]
    split
    · exact .still (respawnMembers_still (.refl _ s) base g rest)
    · exact .still ⟨emitSystemEvent_extends s trivial, nofun, fun _ => rfl⟩
  | givingUp group failed reason rest =>
    exact .still (stopSupervisorGroup_still (.refl _ s) base group failed reason rest)
  | givenUp group => exact .still (finish_still (setRestarting_extends s group false) base)

theorem resume_fine {threw : Bool} {n : Next} (hcall : v.call = .returned threw)
    (h : s.resume i threw v.driver v.base = some n) : n.Fine s i v := by
  unfold System.resume at h
  split at h
  case h_1 hdriver => exact Option.some.inj h ▸ resumeDriver_fine v.base threw _ hcall hdriver
  case h_2 =>
    split at h
    · exact Option.some.inj h ▸ applySupervisionStrategy_fine v _
    · exact Option.some.inj h ▸ .still (processBatch_still s _ _ _)
  case h_3 =>
    split at h
    · exact Option.some.inj h ▸ applySupervisionStrategy_fine v _
    · exact Option.some.inj h ▸ .still (done_still (.refl _ s))
  case h_4 => cases h

theorem advanceDeliver_extends (s : System) (p : ActorAddress) (m : Message) (stage : DeliverStage)
    (o : Outcome) : Extends Entry.Still s (s.advanceDeliver p m stage o).1 ∧
      ∀ q, (s.advanceDeliver p m stage o).2.phase q = none := by
  cases stage with
  | interceptors =>
    cases o with
    | filtered => exact ⟨record_extends s trivial, fun _ => rfl⟩
    | ok | threw | missing =>
      simp only [System.advanceDeliver]
      split
      · exact ⟨record_extends s trivial, fun _ => rfl⟩
      · exact ⟨.refl _ s, fun _ => rfl⟩
  | onStart =>
    cases o with
    | threw => exact ⟨record_extends s trivial, fun _ => rfl⟩
    | ok | filtered | missing =>
      exact ⟨⟨rfl, rfl, ⟨[.handled p m], rfl, by simp [Entry.Still, Entry.Quiet]⟩, ⟨[], by simp [System.advanceDeliver], by simp⟩⟩,
        fun _ => rfl⟩
  | handler => cases o <;> exact ⟨.refl _ s, fun _ => rfl⟩

theorem next_fine {n : Next} {o : Outcome} (h : s.next i o v = some n)
    (hstop : ∀ p reason stage, v.call ≠ .stop p reason stage)
    (hspawn : ∀ p stage, v.call ≠ .spawn p stage) : n.Fine s i v := by
  obtain ⟨call, driver, base⟩ := v
  cases call with
  | stop p reason stage => exact absurd rfl (hstop p reason stage)
  | spawn p stage => exact absurd rfl (hspawn p stage)
  | deliver p m stage =>
    cases h
    obtain ⟨hext, hplain⟩ := advanceDeliver_extends s p m stage o
    exact .keeps hext rfl hplain
  | enqueue p m =>
    cases h
    exact .still (enqueueMessage_still s p m o)
  | dequeued p m =>
    cases h
    exact .still ⟨.refl _ s, nofun, trivial⟩
  | timer due =>
    simp only [System.next] at h
    split at h
    case isTrue =>
      cases h
      exact .keeps (.refl _ s) rfl fun _ => rfl
    case isFalse => cases h
  | systemEvent =>
    cases h
    exact .keeps (.refl _ s) rfl fun _ => rfl
  | macrotask =>
    simp only [System.next] at h
    split at h
    · cases h
      exact .still (processActorMessages_still s _)
    · cases h
  | returned threw => exact resume_fine rfl h

theorem Next.Fine.extends_quiet {n : Next} (h : n.Fine s i v) : Extends Entry.Quiet s n.system := by
  cases h with
  | still h => exact h.extends_still.mono fun _ => Entry.Still.quiet
  | keeps h => exact h.mono fun _ => Entry.Still.quiet
  | waits _ _ _ _ h => exact h
  | resumes _ _ _ _ _ _ h => exact h

theorem Next.Fine.plain {n : Next} (h : n.Fine s i v) : n.request.Plain := by
  cases h with
  | still h => exact h.plain
  | keeps _ _ h => exact h
  | waits _ _ _ _ _ h => exact h
  | resumes _ _ _ _ _ _ _ h => exact h ▸ trivial

/-! ### Calls begin no invocation -/

theorem perform_invocations (s : System) (request : Request) :
    (s.perform request).1.invocations = s.invocations := by
  cases request with
  | await call => rfl
  | stop p reason =>
    simp only [System.perform, System.beginStop, System.emitSystemEvent]
    split <;> rfl
  | spawn p behavior policy =>
    simp only [System.perform, System.beginSpawn]
    split <;> rfl
  | deliver p m =>
    simp only [System.perform, System.beginDeliver]
    split <;> rfl

theorem emitSystemEvent_invocations (s : System) (e : SystemEvent) (p : ActorAddress) :
    (s.emitSystemEvent e p).invocations = s.invocations := by
  unfold System.emitSystemEvent
  split <;> rfl

theorem teardown_invocations (s : System) (p : ActorAddress) :
    (s.teardown p).invocations = s.invocations := by
  change (s.stopMailbox p).invocations = _
  unfold System.stopMailbox
  split
  case h_1 => rfl
  case h_2 => split <;> rfl

theorem advanceStop_invocations (s : System) (p : ActorAddress) (reason : Option StopReason)
    (stage : StopStage) : (s.advanceStop p reason stage).1.invocations = s.invocations := by
  cases stage with
  | stoppingEvent =>
    simp only [System.advanceStop]
    split
    · rfl
    · exact teardown_invocations s p
  | onStop => exact teardown_invocations s p
  | publish | unregister | stoppedEvent => rfl
  | broadcast => exact emitSystemEvent_invocations s _ p

/-! ### Supervision touches no message -/

def Entry.Silent : Entry → Prop
  | .handled _ _ | .filtered _ | .skipped _ | .dropped _ => False
  | _ => True

def Request.Silent : Request → Prop
  | .deliver _ _ => False
  | .await (.deliver _ _ _) | .await (.enqueue _ _) | .await (.dequeued _ _) => False
  | _ => True

structure Untouched (s t : System) : Prop where
  boxes : t.boxes = s.boxes
  mailboxes : t.mailboxes = s.mailboxes
  deadLetters : t.deadLetters = s.deadLetters
  given : t.given = s.given
  testMode : t.testMode = s.testMode
  invocations : t.invocations = s.invocations
  log : ∃ es, t.log = es ++ s.log ∧ ∀ e ∈ es, e.Silent

structure Next.Supervises (s : System) (base : Base) (n : Next) : Prop where
  untouched : Untouched s n.system
  base_eq : n.base = base
  driver : n.driver.isSome
  silent : n.request.Silent

theorem Untouched.refl (s : System) : Untouched s s :=
  ⟨rfl, rfl, rfl, rfl, rfl, rfl, [], rfl, by simp⟩

theorem Untouched.record (h : Untouched s t) {e : Entry} (he : e.Silent) :
    Untouched s (t.record e) := by
  obtain ⟨es, hes, hsilent⟩ := h.log
  refine ⟨h.boxes, h.mailboxes, h.deadLetters, h.given, h.testMode, h.invocations,
    e :: es, congrArg (e :: ·) hes, fun e' he' => ?_⟩
  obtain rfl | he' := List.mem_cons.mp he'
  · exact he
  · exact hsilent e' he'

theorem Untouched.emit (h : Untouched s t) (e : SystemEvent) (p : ActorAddress) :
    Untouched s (t.emitSystemEvent e p) := by
  unfold System.emitSystemEvent
  split
  · exact h.record trivial
  · exact h

theorem Untouched.setRestarting (h : Untouched s t) (group : SupervisorGroupConfig)
    (restarting : Bool) : Untouched s (t.setRestarting group restarting) :=
  ⟨h.boxes, h.mailboxes, h.deadLetters, h.given, h.testMode, h.invocations, h.log⟩

theorem Untouched.setRestarts (h : Untouched s t) (p : ActorAddress) (count time : Nat) :
    Untouched s (t.setRestarts p count time) :=
  ⟨h.boxes, h.mailboxes, h.deadLetters, h.given, h.testMode, h.invocations, h.log⟩

theorem Untouched.setCount (h : Untouched s t) (p : ActorAddress) (d : Decision) :
    Untouched s (t.setCount p d) := by
  cases d <;>
    exact ⟨h.boxes, h.mailboxes, h.deadLetters, h.given, h.testMode, h.invocations, h.log⟩

theorem finish_supervises (h : Untouched s t) (base : Base) : (t.finish base).Supervises s base :=
  ⟨h, rfl, rfl, trivial⟩

theorem respawnMembers_supervises (h : Untouched s t) (base : Base) (g : GroupRestart)
    (rest : List ActorAddress) : (t.respawnMembers base g rest).Supervises s base := by
  induction rest with
  | nil =>
    rw [System.respawnMembers]
    split
    · exact finish_supervises ((h.setRestarts _ _ _).setRestarting _ _) base
    · exact finish_supervises (h.setRestarting _ _) base
  | cons p rest ih =>
    rw [System.respawnMembers]
    split
    case h_1 => exact ih
    case h_2 => exact ⟨h, rfl, rfl, trivial⟩

theorem stopMembers_supervises (h : Untouched s t) (base : Base) (g : GroupRestart)
    (rest : List ActorAddress) : (t.stopMembers base g rest).Supervises s base := by
  induction rest generalizing g with
  | nil => exact respawnMembers_supervises h base g g.respawnOrder
  | cons p rest ih =>
    rw [System.stopMembers]
    split
    case isTrue => exact ih g
    case isFalse =>
      split
      case isTrue => exact ih (g.delete p)
      case isFalse => exact ⟨h, rfl, rfl, trivial⟩

theorem stopSupervisorGroup_supervises (h : Untouched s t) (base : Base)
    (group : SupervisorGroupConfig) (failed : ActorAddress) (reason : GiveUpReason)
    (rest : List ActorAddress) :
    (t.stopSupervisorGroup base group failed reason rest).Supervises s base := by
  induction rest with
  | nil => exact ⟨h.emit _ _, rfl, rfl, trivial⟩
  | cons p rest ih =>
    rw [System.stopSupervisorGroup]
    split
    case isTrue => exact ih
    case isFalse => exact ⟨h, rfl, rfl, trivial⟩

theorem executeDecision_supervises (s : System) (i : Nat) (base : Base) (p : ActorAddress)
    (behavior : PureActorBehavior) (d : Decision) :
    (s.executeDecision i base p behavior d).Supervises s base := by
  cases d with
  | restart count limit =>
    exact ⟨((Untouched.refl s).setCount p (.restart count limit)).record trivial, rfl, rfl, trivial⟩
  | stopPermanent | stop | escalate => exact ⟨.refl s, rfl, rfl, trivial⟩
  | resume => exact ⟨(Untouched.refl s).emit _ _, rfl, rfl, trivial⟩

theorem applySupervisionStrategy_supervises (s : System) (i : Nat) (base : Base) (p : ActorAddress) :
    (s.applySupervisionStrategy i base p).Supervises s base := by
  unfold System.applySupervisionStrategy
  split
  case isTrue => exact finish_supervises (.refl s) base
  case isFalse =>
    split
    case h_1 => exact finish_supervises (.refl s) base
    case h_2 behavior _ =>
      dsimp only
      split
      case h_1 =>
        exact ⟨((Untouched.refl s).setCount p _).setRestarting _ true, rfl, rfl, trivial⟩
      case h_2 =>
        exact stopSupervisorGroup_supervises ((Untouched.refl s).setRestarting _ true) base _ p _ _
      case h_3 => exact executeDecision_supervises s i base p behavior _

theorem resumeDriver_supervises (s : System) (i : Nat) (base : Base) (threw : Bool) {d : Driver}
    (hd : d ≠ .finishing) : (s.resumeDriver i base threw d).Supervises s base := by
  cases d with
  | finishing => exact absurd rfl hd
  | escalating p => exact ⟨(Untouched.refl s).emit _ _, rfl, rfl, trivial⟩
  | restarting r stage =>
    cases stage with
    | backoff | stop => exact ⟨(Untouched.refl s).record trivial, rfl, rfl, trivial⟩
    | spawn =>
      simp only [System.resumeDriver, System.resumeRestart]
      split
      · exact ⟨(Untouched.refl s).emit _ _, rfl, rfl, trivial⟩
      · exact ⟨((Untouched.refl s).setRestarts _ _ _).emit _ _, rfl, rfl, trivial⟩
  | waitingForGroup g => exact stopMembers_supervises (.refl s) base g _
  | stoppingMembers g rest => exact stopMembers_supervises (.refl s) base g rest
  | respawningMembers g p rest emitted =>
    simp only [System.resumeDriver]
    split
    · exact respawnMembers_supervises (.refl s) base g rest
    · exact ⟨(Untouched.refl s).emit _ _, rfl, rfl, trivial⟩
  | givingUp group failed reason rest =>
    exact stopSupervisorGroup_supervises (.refl s) base group failed reason rest
  | givenUp group => exact finish_supervises ((Untouched.refl s).setRestarting group false) base

end ActorWeb.ActorSystem
