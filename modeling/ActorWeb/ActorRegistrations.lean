import ActorWeb.ActorRestarts

namespace ActorWeb.ActorSystem

open Option List Supervision Transition Function

variable {s t u : System} {p q : ActorAddress} {i j : Nat} {v w : Invocation} {n : Next} {a : Action}

/-! ### What is registered under a path -/

structure Registration where
  actor : Option PureActorBehavior
  behavior : Option ActorBehavior
  policy : Option ActorSupervisionPolicy

def System.registration (s : System) (p : ActorAddress) : Registration :=
  ⟨s.actors p, s.originalBehaviors p, s.policies p⟩

structure Keeps (s t : System) : Prop where
  actors : t.actors = s.actors
  originalBehaviors : t.originalBehaviors = s.originalBehaviors
  policies : t.policies = s.policies

theorem Keeps.refl (s : System) : Keeps s s := ⟨rfl, rfl, rfl⟩

theorem Keeps.trans (h : Keeps s t) (h' : Keeps t u) : Keeps s u :=
  ⟨h'.actors.trans h.actors, h'.originalBehaviors.trans h.originalBehaviors,
    h'.policies.trans h.policies⟩

theorem Keeps.registration (h : Keeps s t) (p : ActorAddress) :
    t.registration p = s.registration p := by
  simp only [System.registration, h.actors, h.originalBehaviors, h.policies]

structure Calm (s t : System) : Prop where
  keeps : Keeps s t
  restartCounts : t.restartCounts = s.restartCounts
  restartingGroups : t.restartingGroups = s.restartingGroups
  supervisors : t.supervisors = s.supervisors

theorem Calm.trans (h : Calm s t) (h' : Calm t u) : Calm s u :=
  ⟨h.keeps.trans h'.keeps, h'.restartCounts.trans h.restartCounts,
    h'.restartingGroups.trans h.restartingGroups, h'.supervisors.trans h.supervisors⟩

theorem emitSystemEvent_calm (s : System) (e : SystemEvent) (p : ActorAddress) :
    Calm s (s.emitSystemEvent e p) := by
  unfold System.emitSystemEvent
  split <;> exact ⟨⟨rfl, rfl, rfl⟩, rfl, rfl, rfl⟩

theorem setCount_keeps (s : System) (p : ActorAddress) (d : Decision) : Keeps s (s.setCount p d) := by
  cases d <;> exact ⟨rfl, rfl, rfl⟩

theorem wake_calm (s : System) (p : ActorAddress) : Calm s (s.wake p) := by
  unfold System.wake
  split <;> exact ⟨⟨rfl, rfl, rfl⟩, rfl, rfl, rfl⟩

theorem processBatch_calm (s : System) (p : ActorAddress) (box processed : Nat) :
    Calm s (s.processBatch p box processed).system ∧ (s.processBatch p box processed).driver = none := by
  unfold System.processBatch
  split
  · exact ⟨⟨⟨rfl, rfl, rfl⟩, rfl, rfl, rfl⟩, rfl⟩
  · split
    · split <;> exact ⟨⟨⟨rfl, rfl, rfl⟩, rfl, rfl, rfl⟩, rfl⟩
    · exact ⟨⟨⟨rfl, rfl, rfl⟩, rfl, rfl, rfl⟩, rfl⟩

theorem processActorMessages_calm (s : System) (p : ActorAddress) :
    Calm s (s.processActorMessages p).system ∧ (s.processActorMessages p).driver = none := by
  unfold System.processActorMessages
  split
  · exact ⟨⟨⟨rfl, rfl, rfl⟩, rfl, rfl, rfl⟩, rfl⟩
  · split
    · obtain ⟨hcalm, hdriver⟩ := processBatch_calm (s.setActive p true) p _ 0
      refine ⟨.trans (t := s.setActive p true) ?_ hcalm, hdriver⟩
      exact ⟨⟨rfl, rfl, rfl⟩, rfl, rfl, rfl⟩
    · exact ⟨⟨⟨rfl, rfl, rfl⟩, rfl, rfl, rfl⟩, rfl⟩

theorem deliverInTestMode_calm (s : System) (p : ActorAddress) (box : Nat) :
    Calm s (s.deliverInTestMode p box).system ∧ (s.deliverInTestMode p box).driver = none := by
  unfold System.deliverInTestMode
  split
  · split <;> exact ⟨⟨⟨rfl, rfl, rfl⟩, rfl, rfl, rfl⟩, rfl⟩
  · exact ⟨⟨⟨rfl, rfl, rfl⟩, rfl, rfl, rfl⟩, rfl⟩

theorem enqueueMessage_calm (s : System) (p : ActorAddress) (m : Message) (o : Outcome) :
    Calm s (s.enqueueMessage p m o).system ∧ (s.enqueueMessage p m o).driver = none := by
  cases o with
  | filtered | missing => exact ⟨⟨⟨rfl, rfl, rfl⟩, rfl, rfl, rfl⟩, rfl⟩
  | ok | threw =>
    simp only [System.enqueueMessage]
    split
    case h_1 => exact ⟨⟨⟨rfl, rfl, rfl⟩, rfl, rfl, rfl⟩, rfl⟩
    case h_2 box _ =>
      split
      case h_1 mailbox _ =>
        obtain ⟨hcalm, hdriver⟩ :=
          deliverInTestMode_calm ({ s with boxes := s.boxes.set box mailbox }.wake p) p box
        refine ⟨.trans (t := { s with boxes := s.boxes.set box mailbox }) ⟨⟨rfl, rfl, rfl⟩, rfl, rfl, rfl⟩ ?_, hdriver⟩
        exact (wake_calm _ p).trans hcalm
      case h_2 => exact ⟨⟨⟨rfl, rfl, rfl⟩, rfl, rfl, rfl⟩, rfl⟩

theorem respawnMembers_keeps (base : Base) (g : GroupRestart) (rest : List ActorAddress) :
    Keeps s (s.respawnMembers base g rest).system := by
  induction rest with
  | nil =>
    rw [System.respawnMembers]
    split <;> exact ⟨rfl, rfl, rfl⟩
  | cons p rest ih =>
    rw [System.respawnMembers]
    split
    · exact ih
    · exact ⟨rfl, rfl, rfl⟩

theorem stopMembers_keeps (base : Base) (g : GroupRestart) (rest : List ActorAddress) :
    Keeps s (s.stopMembers base g rest).system := by
  induction rest generalizing g with
  | nil => exact respawnMembers_keeps base g _
  | cons p rest ih =>
    rw [System.stopMembers]
    split
    · exact ih g
    · split
      · exact ih (g.delete p)
      · exact ⟨rfl, rfl, rfl⟩

theorem stopSupervisorGroup_keeps (base : Base) (group : SupervisorGroupConfig)
    (failed : ActorAddress) (reason : GiveUpReason) (rest : List ActorAddress) :
    Keeps s (s.stopSupervisorGroup base group failed reason rest).system := by
  induction rest with
  | nil => exact (emitSystemEvent_calm s _ _).keeps
  | cons p rest ih =>
    rw [System.stopSupervisorGroup]
    split
    · exact ih
    · exact ⟨rfl, rfl, rfl⟩

theorem executeDecision_keeps (s : System) (i : Nat) (base : Base) (p : ActorAddress)
    (behavior : PureActorBehavior) (d : Decision) :
    Keeps s (s.executeDecision i base p behavior d).system := by
  cases d with
  | restart | stopPermanent | stop | escalate => exact ⟨rfl, rfl, rfl⟩
  | resume => exact (emitSystemEvent_calm s _ _).keeps

theorem applySupervisionStrategy_keeps (s : System) (i : Nat) (base : Base) (p : ActorAddress) :
    Keeps s (s.applySupervisionStrategy i base p).system := by
  unfold System.applySupervisionStrategy
  split
  · exact ⟨rfl, rfl, rfl⟩
  · split
    · exact ⟨rfl, rfl, rfl⟩
    · dsimp only
      split
      case h_1 => exact (setCount_keeps s p _).trans ⟨rfl, rfl, rfl⟩
      case h_2 group _ _ _ _ =>
        exact .trans (t := s.setRestarting group true) ⟨rfl, rfl, rfl⟩
          (stopSupervisorGroup_keeps base _ p _ _)
      case h_3 => exact executeDecision_keeps s i base p _ _

theorem resumeDriver_keeps (s : System) (i : Nat) (base : Base) (threw : Bool) (d : Driver) :
    Keeps s (s.resumeDriver i base threw d).system := by
  cases d with
  | finishing =>
    simp only [System.resumeDriver]
    split
    · exact (processBatch_calm s _ _ _).1.keeps
    · exact ⟨rfl, rfl, rfl⟩
  | escalating p => exact (emitSystemEvent_calm s _ _).keeps
  | restarting r stage =>
    cases stage with
    | backoff | stop => exact ⟨rfl, rfl, rfl⟩
    | spawn =>
      simp only [System.resumeDriver, System.resumeRestart]
      split
      · exact (emitSystemEvent_calm s _ _).keeps
      · exact .trans (t := s.setRestarts r.address (r.count + 1) r.startedAt) ⟨rfl, rfl, rfl⟩
          (emitSystemEvent_calm _ _ _).keeps
  | waitingForGroup g => exact stopMembers_keeps base g _
  | stoppingMembers g rest => exact stopMembers_keeps base g rest
  | respawningMembers g p rest emitted =>
    simp only [System.resumeDriver]
    split
    · exact respawnMembers_keeps base g rest
    · exact (emitSystemEvent_calm s _ _).keeps
  | givingUp group failed reason rest => exact stopSupervisorGroup_keeps base group failed reason rest
  | givenUp group => exact ⟨rfl, rfl, rfl⟩

theorem teardown_calm (s : System) (p : ActorAddress) : Calm s (s.teardown p) := by
  have hmailbox : Calm s (s.stopMailbox p) := by
    unfold System.stopMailbox
    split
    · exact ⟨⟨rfl, rfl, rfl⟩, rfl, rfl, rfl⟩
    · split <;> exact ⟨⟨rfl, rfl, rfl⟩, rfl, rfl, rfl⟩
  obtain ⟨⟨hactors, hbehaviors, hpolicies⟩, hcounts, hgroups, hsupervisors⟩ := hmailbox
  exact ⟨⟨hactors, hbehaviors, hpolicies⟩, hcounts, hgroups, hsupervisors⟩

inductive Segment (s : System) (i : Nat) (v : Invocation) (n : Next) : Prop
  | calm (h : Calm s n.system) (hdriver : n.driver = v.driver ∨ n.driver = none)
  | forgets (p : ActorAddress) (r : Option StopReason) (hcall : v.call = .stop p r .publish)
      (hn : n = ⟨s.forget p, v.driver, v.base, .await (.stop p r .unregister)⟩)
  | drives (d : Driver) (threw : Bool) (hcall : v.call = .returned threw) (hd : v.driver = some d)
      (hn : n = s.resumeDriver i v.base threw d)
  | fails (p : ActorAddress) (base : Base) (hcall : v.call = .returned true)
      (hdriver : v.driver = none)
      (hbase : (∃ box processed, v.base = .processing p box processed) ∨ v.base = .testing p)
      (hn : n = s.applySupervisionStrategy i base p)

variable {o : Outcome}

theorem next_segment (h : s.next i o v = some n) : Segment s i v n := by
  obtain ⟨call, driver, base⟩ := v
  have hsame : ∀ {t : System} {c : Call}, Calm s t →
      Segment s i ⟨call, driver, base⟩ ⟨t, driver, base, .await c⟩ := fun ht => .calm ht (.inl rfl)
  cases call with
  | stop p r stage =>
    cases h
    cases stage with
    | stoppingEvent =>
      refine hsame ?_
      simp only [System.advanceStop]
      split
      · exact ⟨⟨rfl, rfl, rfl⟩, rfl, rfl, rfl⟩
      · exact teardown_calm s p
    | onStop => exact hsame (teardown_calm s p)
    | publish => exact .forgets p r rfl rfl
    | unregister | stoppedEvent => exact hsame ⟨⟨rfl, rfl, rfl⟩, rfl, rfl, rfl⟩
    | broadcast => exact hsame (emitSystemEvent_calm s _ _)
  | spawn p stage =>
    cases h
    refine hsame ?_
    cases stage with
    | register | spawnedEvent => exact ⟨⟨rfl, rfl, rfl⟩, rfl, rfl, rfl⟩
    | broadcast =>
      refine .trans (t := s.startProcessing p) ?_ (emitSystemEvent_calm _ _ _)
      exact ⟨⟨rfl, rfl, rfl⟩, rfl, rfl, rfl⟩
  | deliver p m stage =>
    cases h
    refine hsame ?_
    cases stage with
    | interceptors =>
      cases o with
      | filtered => exact ⟨⟨rfl, rfl, rfl⟩, rfl, rfl, rfl⟩
      | ok | threw | missing =>
        simp only [System.advanceDeliver]
        split <;> exact ⟨⟨rfl, rfl, rfl⟩, rfl, rfl, rfl⟩
    | onStart | handler => cases o <;> exact ⟨⟨rfl, rfl, rfl⟩, rfl, rfl, rfl⟩
  | enqueue p m =>
    cases h
    exact .calm (enqueueMessage_calm s p m o).1 (.inr (enqueueMessage_calm s p m o).2)
  | dequeued p m =>
    cases h
    exact .calm ⟨⟨rfl, rfl, rfl⟩, rfl, rfl, rfl⟩ (.inr rfl)
  | timer due =>
    simp only [System.next] at h
    split at h
    · cases h
      exact hsame ⟨⟨rfl, rfl, rfl⟩, rfl, rfl, rfl⟩
    · cases h
  | systemEvent =>
    cases h
    exact hsame ⟨⟨rfl, rfl, rfl⟩, rfl, rfl, rfl⟩
  | macrotask =>
    simp only [System.next] at h
    split at h
    · cases h
      exact .calm (processActorMessages_calm s _).1 (.inr (processActorMessages_calm s _).2)
    · cases h
  | returned threw =>
    simp only [System.next, System.resume] at h
    split at h
    · cases h
      exact .drives _ threw rfl rfl rfl
    case h_2 p box processed =>
      split at h
      case isTrue hthrew =>
        cases h
        exact .fails p _ (congrArg _ hthrew) rfl (.inl ⟨box, processed, rfl⟩) rfl
      case isFalse =>
        cases h
        exact .calm (processBatch_calm s _ _ _).1 (.inr (processBatch_calm s _ _ _).2)
    case h_3 p =>
      split at h
      case isTrue hthrew =>
        cases h
        exact .fails p _ (congrArg _ hthrew) rfl (.inr rfl) rfl
      case isFalse =>
        cases h
        exact .calm ⟨⟨rfl, rfl, rfl⟩, rfl, rfl, rfl⟩ (.inr rfl)
    · cases h

theorem next_keeps (h : s.next i o v = some n) :
    Keeps s n.system ∨ ∃ p r, v.call = .stop p r .publish ∧ n.system = s.forget p := by
  cases next_segment h with
  | calm h => exact .inl h.keeps
  | forgets p r hcall hn => exact .inr ⟨p, r, hcall, hn ▸ rfl⟩
  | drives d threw _ _ hn => exact .inl (hn ▸ resumeDriver_keeps s i v.base threw d)
  | fails p base _ _ _ hn => exact .inl (hn ▸ applySupervisionStrategy_keeps s i base p)

theorem next_appends (h : s.next i o v = some n) :
    ∃ vs, n.system.invocations = s.invocations ++ vs ∧
      ∀ w ∈ vs, w.call = .macrotask ∧ w.driver = none := by
  by_cases hfine : (∀ q reason stage, v.call ≠ .stop q reason stage) ∧
      ∀ q stage, v.call ≠ .spawn q stage
  · exact (next_fine h hfine.1 hfine.2).extends_quiet.invocations
  · obtain ⟨call, driver, base⟩ := v
    cases call with
    | stop q reason stage =>
      cases h
      refine ⟨[], ?_, by simp⟩
      exact (advanceStop_invocations s q reason stage).trans (append_nil _).symm
    | spawn q stage =>
      cases h
      cases stage with
      | register | spawnedEvent => exact ⟨[], (append_nil _).symm, by simp⟩
      | broadcast =>
        refine ⟨[⟨.macrotask, none, .scheduled q⟩], emitSystemEvent_invocations _ _ _, ?_⟩
        exact fun w hw => mem_singleton.mp hw ▸ ⟨rfl, rfl⟩
    | _ => simp at hfine

theorem perform_registration (s : System) {request : Request}
    (hspawn : ∀ behavior policy, request ≠ .spawn p behavior policy) :
    (s.perform request).1.registration p = s.registration p := by
  cases request with
  | await call => rfl
  | stop q reason => exact (emitSystemEvent_calm s _ q).keeps.registration p
  | spawn q behavior policy =>
    have hq : p ≠ q := fun h => hspawn behavior policy (h ▸ rfl)
    simp only [System.perform, System.beginSpawn]
    split
    · rfl
    · simp only [System.registration, update_of_ne hq]
      split <;> simp only [update_of_ne hq]
  | deliver q m =>
    simp only [System.perform, System.beginDeliver]
    split <;> rfl

theorem forget_registration (s : System) (p q : ActorAddress) :
    (s.forget q).registration p = s.registration p ∨
      q = p ∧ (s.forget q).registration p = ⟨none, none, none⟩ := by
  by_cases h : q = p
  · subst h
    right
    simp only [System.registration, System.forget, update_self, and_self]
  · left
    simp only [System.registration, System.forget, update_of_ne (Ne.symm h)]

/-! ### The calls that a step makes -/

def Action.invocation : Action → Option Nat
  | .advance i _ => some i
  | _ => none

def System.request (s : System) : Action → Option Request
  | .spawn p behavior policy => some (.spawn p behavior policy)
  | .stop p => some (.stop p none)
  | .stopInternal p => some (.stop p none)
  | .advance i o => s.invocations[i]?.bind fun v => (s.next i o v).map (·.request)
  | _ => none

theorem advance_inv (h : step s (.advance i o) = some t) :
    ∃ v n, s.invocations[i]? = some v ∧ s.next i o v = some n ∧
      s.request (.advance i o) = some n.request ∧ t = n.settle i := by
  simp only [step, bind_eq_some_iff, map_eq_some_iff] at h
  obtain ⟨v, hv, n, hn, rfl⟩ := h
  exact ⟨v, n, hv, hn, by simp only [System.request, hv, bind_some, hn, map_some], rfl⟩

theorem step_registration (h : step s a = some t)
    (hspawn : ∀ behavior policy, s.request a ≠ some (.spawn p behavior policy)) :
    t.registration p = s.registration p ∨ t.registration p = ⟨none, none, none⟩ ∧
      ∃ i v r, a.invocation = some i ∧ s.invocations[i]? = some v ∧ v.call = .stop p r .publish := by
  have hinvoke : ∀ {u : System} {request : Request}, Keeps s u →
      (∀ behavior policy, request ≠ .spawn p behavior policy) →
      (u.invoke request).registration p = s.registration p :=
    fun hu hrequest => (perform_registration _ hrequest).trans (hu.registration p)
  cases a with
  | tick | setTestMode | setSystemEventActor | stopSystem =>
    cases h
    exact .inl rfl
  | spawn q behavior policy =>
    cases h
    exact .inl (hinvoke (.refl s) fun b pol he => hspawn b pol (congrArg some he))
  | stop q =>
    cases h
    exact .inl (hinvoke (u := s.record (.userStop q)) ⟨rfl, rfl, rfl⟩ fun _ _ h => by cases h)
  | stopInternal q =>
    simp only [step] at h
    split at h
    case isTrue =>
      cases h
      exact .inl (hinvoke (u := s.record (.userStop q)) ⟨rfl, rfl, rfl⟩ fun _ _ h => by cases h)
    case isFalse => cases h
  | enqueueMessage q =>
    cases h
    exact .inl rfl
  | processNextMessage q =>
    simp only [step] at h
    split at h
    case h_1 => cases h
    case h_2 =>
      cases h
      exact .inl rfl
  | advance i o =>
    obtain ⟨v, n, hv, hn, hrequest, rfl⟩ := advance_inv h
    have hperform : (n.settle i).registration p = n.system.registration p :=
      perform_registration n.system fun b pol he => hspawn b pol (hrequest.trans (congrArg some he))
    obtain hkeeps | ⟨q, r, hcall, hforget⟩ := next_keeps hn
    · exact .inl (hperform.trans (hkeeps.registration p))
    · rw [hperform, hforget]
      refine (forget_registration s p q).imp_right fun h => ?_
      obtain ⟨he, hnone⟩ := h
      exact ⟨hnone, i, v, r, rfl, hv, he ▸ hcall⟩

theorem step_invocation (h : step s a = some t) (ha : a.invocation ≠ some j)
    (hv : s.invocations[j]? = some v) : t.invocations[j]? = some v := by
  have hinvoke : ∀ {u : System} (request : Request), u.invocations = s.invocations →
      (u.invoke request).invocations[j]? = some v := by
    intro u request hu
    rw [System.invoke, perform_invocations, hu]
    exact getElem?_append_left (List.getElem?_eq_some_iff.mp hv).1 ▸ hv
  cases a with
  | tick | setTestMode | setSystemEventActor | stopSystem =>
    cases h
    exact hv
  | spawn q behavior policy =>
    cases h
    exact hinvoke _ rfl
  | stop q =>
    cases h
    exact hinvoke (u := s.record (.userStop q)) _ rfl
  | stopInternal q =>
    simp only [step] at h
    split at h
    case isTrue =>
      cases h
      exact hinvoke (u := s.record (.userStop q)) _ rfl
    case isFalse => cases h
  | enqueueMessage q =>
    cases h
    exact hinvoke (u := { s with given := ⟨s.given.length, q⟩ :: s.given }) _ rfl
  | processNextMessage q =>
    simp only [step] at h
    split at h
    case h_1 => cases h
    case h_2 box m mailbox _ =>
      cases h
      exact hinvoke (u := { s with boxes := s.boxes.set box mailbox }) _ rfl
  | advance i o =>
    obtain ⟨w, n, -, hn, -, rfl⟩ := advance_inv h
    have hij : i ≠ j := fun he => ha (congrArg some he)
    obtain ⟨vs, hvs, -⟩ := next_appends hn
    simp only [Next.settle, perform_invocations, getElem?_set_ne hij, hvs]
    rw [getElem?_append_left (List.getElem?_eq_some_iff.mp hv).1, hv]

theorem advance_invocation (h : step s (.advance i o) = some t) (hv : s.invocations[i]? = some v) :
    ∃ n, s.next i o v = some n ∧ s.request (.advance i o) = some n.request ∧ t = n.settle i ∧
      t.invocations[i]? = some ⟨(n.system.perform n.request).2, n.driver, n.base⟩ := by
  obtain ⟨w, n, hw, hn, hrequest, rfl⟩ := advance_inv h
  obtain rfl := some.inj (hv.symm.trans hw)
  refine ⟨n, hn, hrequest, rfl, ?_⟩
  obtain ⟨vs, hvs, -⟩ := next_appends hn
  have hlt := (List.getElem?_eq_some_iff.mp hv).1
  simp only [Next.settle, perform_invocations]
  refine getElem?_set_self ?_
  rw [hvs, length_append]
  exact Nat.lt_add_right _ hlt

/-! ### Registered actors have an original behavior -/

def Registered (s : System) : Prop :=
  ∀ p, (s.actors p).isSome → (s.originalBehaviors p).isSome

theorem Keeps.registered (h : Keeps s t) (hs : Registered s) : Registered t := by
  intro p hp
  rw [h.originalBehaviors]
  exact hs p (h.actors ▸ hp)

theorem forget_registered (hs : Registered s) (q : ActorAddress) : Registered (s.forget q) := by
  intro p hp
  obtain h | ⟨-, h⟩ := forget_registration s p q
  · have ha : (s.forget q).actors p = s.actors p := congrArg Registration.actor h
    have hb : (s.forget q).originalBehaviors p = s.originalBehaviors p :=
      congrArg Registration.behavior h
    rw [hb]
    exact hs p (ha ▸ hp)
  · have hnone : (s.forget q).actors p = none := congrArg Registration.actor h
    rw [hnone] at hp
    cases hp

theorem perform_registered (hs : Registered s) (request : Request) :
    Registered (s.perform request).1 := by
  cases request with
  | await => exact hs
  | stop p reason => exact (emitSystemEvent_calm s _ p).keeps.registered hs
  | spawn q behavior policy =>
    simp only [System.perform, System.beginSpawn]
    split
    · exact hs
    · intro p hp
      by_cases h : p = q
      · subst h
        simp only [update_self, isSome_some]
      · simp only [update_of_ne h] at hp ⊢
        exact hs p hp
  | deliver q m =>
    simp only [System.perform, System.beginDeliver]
    split <;> exact hs

theorem step_registered (hs : Registered s) (h : step s a = some t) : Registered t := by
  have hinvoke : ∀ {u : System} (request : Request), Registered u → Registered (u.invoke request) :=
    fun request hu => perform_registered hu request
  cases a with
  | tick | setTestMode | setSystemEventActor | stopSystem =>
    cases h
    exact hs
  | spawn q behavior policy =>
    cases h
    exact hinvoke _ hs
  | stop q =>
    cases h
    exact hinvoke (u := s.record (.userStop q)) _ hs
  | stopInternal q =>
    simp only [step] at h
    split at h
    case isTrue =>
      cases h
      exact hinvoke (u := s.record (.userStop q)) _ hs
    case isFalse => cases h
  | enqueueMessage q =>
    cases h
    exact hinvoke (u := { s with given := ⟨s.given.length, q⟩ :: s.given }) _ hs
  | processNextMessage q =>
    simp only [step] at h
    split at h
    case h_1 => cases h
    case h_2 box m mailbox _ =>
      cases h
      exact hinvoke (u := { s with boxes := s.boxes.set box mailbox }) _ hs
  | advance i o =>
    obtain ⟨v, n, -, hn, -, rfl⟩ := advance_inv h
    refine perform_registered (s := n.system) ?_ n.request
    obtain hkeeps | ⟨q, -, -, hforget⟩ := next_keeps hn
    · exact hkeeps.registered hs
    · exact hforget ▸ forget_registered hs q

theorem start_registered (maxActors : Nat) (supervisors : List SupervisorGroupConfig) :
    Registered (start maxActors supervisors) := fun _ h => by cases h

/-! ### Calls that remove an actor, and the bookkeeping of restarts -/

def Call.removes (p : ActorAddress) : Call → Bool
  | .stop q _ .stoppingEvent | .stop q _ .onStop | .stop q _ .publish => q = p
  | _ => false

theorem removes_inv {c : Call} (h : c.removes p) :
    ∃ r stage, c = .stop p r stage ∧ stage ∈ [StopStage.stoppingEvent, .onStop, .publish] := by
  cases c with
  | stop q r stage =>
    cases stage with
    | stoppingEvent | onStop | publish =>
      obtain rfl : q = p := of_decide_eq_true h
      exact ⟨r, _, rfl, by decide⟩
    | unregister | broadcast | stoppedEvent => cases h
  | _ => cases h

structure SameCounts (s t : System) : Prop where
  restartCounts : t.restartCounts = s.restartCounts
  restartingGroups : t.restartingGroups = s.restartingGroups
  supervisors : t.supervisors = s.supervisors

end ActorWeb.ActorSystem
