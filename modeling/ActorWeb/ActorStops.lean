import ActorWeb.ActorSegments

namespace ActorWeb.ActorSystem

open List Supervision ActorLife Function

/-- The entries since the last one of a kind, newest first. -/
def since (e : Entry) (log : List Entry) : List Entry := log.takeWhile fun e' => e' ≠ e

def Entry.isStopped (p : ActorAddress) : Entry → Bool
  | .event (.actorStopped _) q => q = p
  | _ => false

def stopsOf (p : ActorAddress) (log : List Entry) : Nat :=
  (since (.event .actorSpawned p) log).countP (Entry.isStopped p)

def onStopsOf (p : ActorAddress) (log : List Entry) : Nat :=
  (since (.event .actorSpawned p) log).count (.onStop p)

def System.phase (s : System) (p : ActorAddress) (i : Nat) : Option Phase :=
  s.invocations[i]?.bind fun v => v.call.phase p

def System.life (s : System) (p : ActorAddress) : Life :=
  ⟨(s.actors p).isSome, stopsOf p s.log, onStopsOf p s.log, s.phase p⟩

variable {P : Entry → Prop} {s t : System} {p q : ActorAddress} {i : Nat}

variable {es log : List Entry}

theorem since_append {e : Entry} (h : e ∉ es) : since e (es ++ log) = es ++ since e log :=
  takeWhile_append_of_pos fun _ he' => decide_eq_true fun he => h (he ▸ he')

theorem since_cons_self (e : Entry) (log : List Entry) : since e (e :: log) = [] :=
  takeWhile_cons_of_neg (by simp)

theorem stopsOf_append (h : ∀ e ∈ es, e.Quiet) : stopsOf p (es ++ log) = stopsOf p log := by
  unfold stopsOf
  have hspawned : .event .actorSpawned p ∉ es := fun he => h (.event .actorSpawned p) he
  rw [since_append hspawned, countP_append, Nat.add_eq_right, countP_eq_zero]
  intro e he
  have hquiet := h e he
  revert hquiet
  cases e with
  | event e q => cases e <;> simp [Entry.isStopped, Entry.Quiet]
  | _ => simp [Entry.isStopped]

theorem onStopsOf_append (h : ∀ e ∈ es, e.Quiet) : onStopsOf p (es ++ log) = onStopsOf p log := by
  unfold onStopsOf
  have hspawned : .event .actorSpawned p ∉ es := fun he => h (.event .actorSpawned p) he
  rw [since_append hspawned, count_append, Nat.add_eq_right, count_eq_zero]
  exact fun he => h (.onStop p) he

theorem life_extends (h : Extends Entry.Quiet s t) : t.life p = s.life p := by
  obtain ⟨es, hes, hquiet⟩ := h.log
  obtain ⟨vs, hvs, hcalls⟩ := h.invocations
  have hphase : t.phase p = s.phase p := by
    funext j
    unfold System.phase
    rw [hvs, getElem?_append]
    split
    case isTrue => rfl
    case isFalse hj =>
      rw [getElem?_eq_none (Nat.le_of_not_lt hj), Option.bind_none, Option.bind_eq_none_iff]
      intro v hv
      rw [(hcalls v (mem_of_getElem? hv)).1]
      rfl
  unfold System.life
  rw [h.actors, hes, stopsOf_append hquiet, onStopsOf_append hquiet, hphase]

theorem life_of_eq (ha : t.actors p = s.actors p) (hl : t.log = s.log)
    (hv : t.invocations = s.invocations) : t.life p = s.life p := by
  unfold System.life System.phase
  rw [ha, hl, hv]

theorem teardown_extends (s : System) (p : ActorAddress) : Extends Entry.Still s (s.teardown p) := by
  refine .trans (t := s.stopMailbox p) ?_ (bookkeeping_extends rfl rfl rfl rfl)
  unfold System.stopMailbox
  split
  case h_1 => exact .refl _ s
  case h_2 =>
    split
    case h_1 => exact .refl _ s
    case h_2 mailbox _ =>
      refine ⟨rfl, rfl, ⟨_, rfl, fun e he => ?_⟩, ⟨[], by simp, by simp⟩⟩
      obtain ⟨m, -, rfl⟩ := mem_map.mp he
      exact trivial

theorem life_teardown (s : System) (p q : ActorAddress) : (s.teardown q).life p = s.life p :=
  life_extends ((teardown_extends s q).mono fun _ => Entry.Still.quiet)

theorem life_forget (s : System) (p q : ActorAddress) :
    (s.forget q).life p = if q = p then { s.life p with registered := false } else s.life p := by
  split
  case isTrue h =>
    subst h
    simp only [System.life, System.forget, update_self]
    rfl
  case isFalse h => exact life_of_eq (update_of_ne (Ne.symm h) _ _) rfl rfl

theorem life_record_onStop (s : System) (p q : ActorAddress) : (s.record (.onStop q)).life p =
      if q = p then { s.life p with onStops := (s.life p).onStops + 1 } else s.life p := by
  have hsince : ∀ log, since (.event .actorSpawned p) (.onStop q :: log) =
      .onStop q :: since (.event .actorSpawned p) log :=
    fun log => takeWhile_cons_of_pos (by simp)
  have hstops : stopsOf p (.onStop q :: s.log) = stopsOf p s.log := by
    rw [stopsOf, hsince, countP_cons_of_neg (by simp [Entry.isStopped])]
    rfl
  split
  case isTrue h =>
    subst h
    have honStops : onStopsOf q (.onStop q :: s.log) = onStopsOf q s.log + 1 := by
      rw [onStopsOf, hsince, count_cons_self]
      rfl
    simp only [System.life, System.record, hstops, honStops]
    rfl
  case isFalse h =>
    have honStops : onStopsOf p (.onStop q :: s.log) = onStopsOf p s.log := by
      rw [onStopsOf, hsince, count_cons_of_ne (by simpa using h)]
      rfl
    simp only [System.life, System.record, hstops, honStops]
    rfl

theorem life_emit_stopped (s : System) (reason : Option StopReason) (p q : ActorAddress) :
    ∃ n ≤ 1, (s.emitSystemEvent (.actorStopped reason) q).life p =
      if q = p then { s.life p with stops := (s.life p).stops + n } else s.life p := by
  unfold System.emitSystemEvent
  split
  case isFalse => exact ⟨0, Nat.zero_le 1, by split <;> rfl⟩
  case isTrue =>
    have hsince : ∀ log, since (.event .actorSpawned p) (.event (.actorStopped reason) q :: log) =
        .event (.actorStopped reason) q :: since (.event .actorSpawned p) log :=
      fun log => takeWhile_cons_of_pos (by simp)
    have honStops : onStopsOf p (.event (.actorStopped reason) q :: s.log) = onStopsOf p s.log := by
      rw [onStopsOf, hsince, count_cons_of_ne (by simp)]
      rfl
    refine ⟨1, le_rfl, ?_⟩
    split
    case isTrue h =>
      have hstops : stopsOf p (.event (.actorStopped reason) q :: s.log) = stopsOf p s.log + 1 := by
        rw [stopsOf, hsince, countP_cons_of_pos (by simp [Entry.isStopped, h])]
        rfl
      simp only [System.life, System.record, hstops, honStops]
      rfl
    case isFalse h =>
      have hstops : stopsOf p (.event (.actorStopped reason) q :: s.log) = stopsOf p s.log := by
        rw [stopsOf, hsince, countP_cons_of_neg (by simp [Entry.isStopped, h])]
        rfl
      simp only [System.life, System.record, hstops, honStops]
      rfl

theorem life_record_spawned (s : System) (p q : ActorAddress) :
    (s.record (.event .actorSpawned q)).life p =
      if q = p then { s.life p with stops := 0, onStops := 0 } else s.life p := by
  split
  case isTrue h =>
    subst h
    simp only [System.life, System.record, stopsOf, onStopsOf, since_cons_self]
    rfl
  case isFalse h =>
    have hsince : since (.event .actorSpawned p) (.event .actorSpawned q :: s.log) =
        .event .actorSpawned q :: since (.event .actorSpawned p) s.log :=
      takeWhile_cons_of_pos (by simpa using h)
    have hstops : stopsOf p (.event .actorSpawned q :: s.log) = stopsOf p s.log := by
      rw [stopsOf, hsince, countP_cons_of_neg (by simp [Entry.isStopped])]
      rfl
    have honStops : onStopsOf p (.event .actorSpawned q :: s.log) = onStopsOf p s.log := by
      rw [onStopsOf, hsince, count_cons_of_ne (by simp)]
      rfl
    simp only [System.life, System.record, hstops, honStops]
    rfl

/-! ### Segments as steps of a life -/

def Advances (l l' : Life) : Prop := l' = l ∨ Life.Step l l'

theorem phase_stop_self (p : ActorAddress) (reason : Option StopReason) (stage : StopStage) :
    (Call.stop p reason stage).phase p = stage.phase := if_pos rfl

theorem phase_stop_ne (h : q ≠ p) (reason : Option StopReason) (stage : StopStage) :
    (Call.stop q reason stage).phase p = none := if_neg h

theorem phase_spawn_self (p : ActorAddress) (stage : SpawnStage) :
    (Call.spawn p stage).phase p = stage.phase := if_pos rfl

theorem phase_spawn_ne (h : q ≠ p) (stage : SpawnStage) : (Call.spawn q stage).phase p = none :=
  if_neg h

theorem advanceStop_other (s : System) (h : q ≠ p) (reason : Option StopReason) (stage : StopStage) :
    (s.advanceStop q reason stage).1.life p = s.life p ∧
      (s.advanceStop q reason stage).2.phase p = none := by
  have hphase : ∀ stage, (Call.stop q reason stage).phase p = none := phase_stop_ne h reason
  cases stage with
  | stoppingEvent =>
    simp only [System.advanceStop]
    split
    · exact ⟨(life_record_onStop s p q).trans (if_neg h), hphase _⟩
    · exact ⟨life_teardown s p q, hphase _⟩
  | onStop => exact ⟨life_teardown s p q, hphase _⟩
  | publish => exact ⟨(life_forget s p q).trans (if_neg h), hphase _⟩
  | unregister => exact ⟨rfl, hphase _⟩
  | broadcast =>
    obtain ⟨n, -, hlife⟩ := life_emit_stopped s reason p q
    exact ⟨hlife.trans (if_neg h), hphase _⟩
  | stoppedEvent => exact ⟨rfl, rfl⟩

theorem advanceStop_self (s : System) (reason : Option StopReason) (stage : StopStage)
    (hi : (s.life p).phase i = stage.phase) :
    Advances (s.life p) (((s.advanceStop p reason stage).1.life p).put i
      ((s.advanceStop p reason stage).2.phase p)) := by
  cases stage with
  | stoppingEvent =>
    simp only [System.advanceStop]
    split
    · rw [life_record_onStop, if_pos rfl, phase_stop_self]
      exact .inr (.runOnStop i hi)
    · rw [life_teardown, phase_stop_self]
      exact .inr (.teardown i (.inl hi))
  | onStop =>
    simp only [System.advanceStop]
    rw [life_teardown, phase_stop_self]
    exact .inr (.teardown i (.inr hi))
  | publish =>
    simp only [System.advanceStop]
    rw [life_forget, if_pos rfl, phase_stop_self]
    exact .inr (.forget i hi)
  | unregister =>
    simp only [System.advanceStop]
    rw [phase_stop_self]
    exact .inl (Life.put_of_phase hi)
  | broadcast =>
    obtain ⟨n, hn, hlife⟩ := life_emit_stopped s reason p p
    simp only [System.advanceStop]
    rw [hlife, if_pos rfl, phase_stop_self]
    exact .inr (.stopped i n hn hi)
  | stoppedEvent => exact .inl (Life.put_of_phase hi)

/-- A spawn of the path now emits its event, or the path was not stopped since its last. -/
def System.Seen (s : System) (p : ActorAddress) : Prop :=
  (s.systemEventActor.bind (s.startProcessing p).mailboxes).isSome ∨
    stopsOf p s.log = 0 ∧ onStopsOf p s.log = 0

theorem startProcessing_extends (s : System) (p : ActorAddress) :
    Extends P s (s.startProcessing p) :=
  ⟨rfl, rfl, ⟨[], rfl, by simp⟩, ⟨_, rfl, by simp⟩⟩

theorem life_startProcessing (s : System) (p q : ActorAddress) :
    (s.startProcessing q).life p = s.life p := life_extends (startProcessing_extends s q)

theorem advanceSpawn_other (s : System) (h : q ≠ p) (stage : SpawnStage) :
    (s.advanceSpawn q stage).1.life p = s.life p ∧ (s.advanceSpawn q stage).2.phase p = none := by
  cases stage with
  | register => exact ⟨rfl, phase_spawn_ne h _⟩
  | broadcast =>
    refine ⟨?_, phase_spawn_ne h _⟩
    simp only [System.advanceSpawn, System.emitSystemEvent]
    split
    · rw [life_record_spawned, if_neg h, life_startProcessing]
    · exact life_startProcessing s p q
  | spawnedEvent => exact ⟨rfl, rfl⟩

theorem advanceSpawn_self (s : System) (stage : SpawnStage) (hi : (s.life p).phase i = stage.phase)
    (hseen : stage = .broadcast → s.Seen p) :
    Advances (s.life p) (((s.advanceSpawn p stage).1.life p).put i
      ((s.advanceSpawn p stage).2.phase p)) := by
  cases stage with
  | register =>
    simp only [System.advanceSpawn]
    rw [phase_spawn_self]
    exact .inl (Life.put_of_phase hi)
  | broadcast =>
    simp only [System.advanceSpawn, System.emitSystemEvent]
    rw [phase_spawn_self]
    split
    case isTrue =>
      rw [life_record_spawned, if_pos rfl, life_startProcessing]
      exact .inr (.spawned i hi)
    case isFalse hsilent =>
      obtain ⟨hs, ho⟩ := (hseen rfl).resolve_left hsilent
      rw [life_startProcessing]
      exact .inr (.unseen i hi hs ho)
  | spawnedEvent => exact .inl (Life.put_of_phase hi)

/-- A stop is asked for a registered actor that is neither being stopped nor being
spawned, a spawn for a path that is not being stopped. -/
def System.Admits (s : System) : Request → Prop
  | .stop p _ => (s.actors p).isSome ∧ ∀ i, s.phase p i = none
  | .spawn p _ _ => ∀ i ph, s.phase p i = some ph → ph = .spawning
  | _ => True

theorem beginSpawn_life (s : System) (behavior : ActorBehavior)
    (policy : Option ActorSupervisionPolicy) :
    (s.beginSpawn q behavior policy).2 = .returned true ∧ (s.beginSpawn q behavior policy).1 = s ∨
      (s.beginSpawn q behavior policy).2 = .spawn q .register ∧
      (s.beginSpawn q behavior policy).1.life p =
        if q = p then { s.life p with registered := true } else s.life p := by
  unfold System.beginSpawn
  split
  case isTrue => exact .inl ⟨rfl, rfl⟩
  case isFalse =>
    refine .inr ⟨rfl, ?_⟩
    by_cases h : q = p
    · subst h
      rw [if_pos rfl]
      simp only [System.life, update_self]
      rfl
    · rw [if_neg h]
      exact life_of_eq (update_of_ne (Ne.symm h) _ _) rfl rfl

variable {request : Request}

theorem perform_step (hadm : s.Admits request) (hplain : request.Plain)
    (hi : (s.life p).phase i = none) :
    Advances (s.life p) (((s.perform request).1.life p).put i ((s.perform request).2.phase p)) := by
  cases request with
  | await call =>
    rw [System.perform, hplain p]
    exact .inl (Life.put_of_phase hi)
  | stop q reason =>
    have hlife : (s.emitSystemEvent .actorStopping q).life p = s.life p :=
      life_extends (emitSystemEvent_extends s trivial)
    simp only [System.perform, System.beginStop, hlife]
    by_cases h : q = p
    · subst h
      rw [phase_stop_self]
      exact .inr (.beginStop i hadm.1 hadm.2)
    · rw [phase_stop_ne h]
      exact .inl (Life.put_of_phase hi)
  | spawn q behavior policy =>
    simp only [System.perform]
    obtain ⟨hcall, hsame⟩ | ⟨hcall, hlife⟩ := beginSpawn_life (q := q) (p := p) s behavior policy
    · rw [hcall, hsame]
      exact .inl (Life.put_of_phase hi)
    · rw [hcall, hlife]
      split
      case isTrue h =>
        subst h
        rw [phase_spawn_self]
        exact .inr (.beginSpawn i hadm)
      case isFalse h =>
        rw [phase_spawn_ne h]
        exact .inl (Life.put_of_phase hi)
  | deliver q m =>
    simp only [System.perform, System.beginDeliver]
    split
    · exact .inl (Life.put_of_phase hi)
    · rw [life_extends (record_extends s (e := .skipped m) trivial)]
      exact .inl (Life.put_of_phase hi)

theorem life_set (s : System) (v : Invocation) (hi : i < s.invocations.length) :
    System.life { s with invocations := s.invocations.set i v } p =
      (s.life p).put i (v.call.phase p) := by
  have hphase : ∀ j, System.phase { s with invocations := s.invocations.set i v } p j =
      ((s.life p).put i (v.call.phase p)).phase j := by
    intro j
    rw [Life.put_phase, System.phase, getElem?_set]
    by_cases hj : i = j
    · subst hj
      rw [if_pos rfl, if_pos hi, if_pos rfl]
      rfl
    · rw [if_neg hj, if_neg (Ne.symm hj)]
      rfl
  simp only [System.life, Life.put]
  congr 1
  exact funext hphase

theorem life_append (s : System) (v : Invocation) :
    System.life { s with invocations := s.invocations ++ [v] } p =
      (s.life p).put s.invocations.length (v.call.phase p) := by
  have hphase : ∀ j, System.phase { s with invocations := s.invocations ++ [v] } p j =
      ((s.life p).put s.invocations.length (v.call.phase p)).phase j := by
    intro j
    rw [Life.put_phase, System.phase, getElem?_append]
    by_cases hj : j = s.invocations.length
    · subst hj
      simp
    · rw [if_neg hj]
      split
      case isTrue => rfl
      case isFalse hge =>
        have hnone : s.phase p j = none := by
          rw [System.phase, getElem?_eq_none (Nat.le_of_not_lt hge), Option.bind_none]
        rw [getElem?_eq_none (by simp only [length_singleton]; omega), Option.bind_none]
        exact hnone.symm
  simp only [System.life, Life.put]
  congr 1
  exact funext hphase

theorem phase_length (s : System) (p : ActorAddress) : s.phase p s.invocations.length = none := by
  rw [System.phase, getElem?_eq_none (Nat.le_refl _), Option.bind_none]

theorem invoke_step (hadm : s.Admits request) (hplain : request.Plain) :
    Advances (s.life p) ((s.invoke request).life p) := by
  rw [System.invoke, life_append, perform_invocations]
  exact perform_step hadm hplain (phase_length s p)

theorem Extends.length_le (h : Extends P s t) : s.invocations.length ≤ t.invocations.length := by
  obtain ⟨vs, hvs, -⟩ := h.invocations
  rw [hvs, length_append]
  exact Nat.le_add_right _ _

theorem advanceSpawn_length (s : System) (p : ActorAddress) (stage : SpawnStage) :
    s.invocations.length ≤ (s.advanceSpawn p stage).1.invocations.length := by
  cases stage with
  | register | spawnedEvent => exact le_rfl
  | broadcast =>
    simp only [System.advanceSpawn, emitSystemEvent_invocations]
    exact (startProcessing_extends (P := Entry.Quiet) s p).length_le

theorem life_settle (n : Next) (hi : i < n.system.invocations.length) :
    (n.settle i).life p = ((n.system.perform n.request).1.life p).put i
      ((n.system.perform n.request).2.phase p) := by
  rw [Next.settle, life_set]
  rwa [perform_invocations]

/-- The condition on a step: its stops and spawns are admitted, its `actorSpawned` event
is emitted or not needed, and a restart that waited still has its actor. -/
def Orderly (s : System) : Action → Prop
  | .spawn p behavior policy => s.Admits (.spawn p behavior policy)
  | .stop p | .stopInternal p => s.Admits (.stop p none)
  | .advance i o => ∀ v, s.invocations[i]? = some v →
      (∀ n, s.next i o v = some n → s.Admits n.request) ∧
      (∀ p, v.call = .spawn p .broadcast → s.Seen p) ∧
      ∀ r threw, v.driver = some (.restarting r .backoff) → v.call = .returned threw →
        s.actors r.address = some r.behavior
  | _ => True

theorem admits_extends (h : Extends Entry.Quiet s t) (hadm : s.Admits request) :
    t.Admits request := by
  have hphase : ∀ p, t.phase p = s.phase p := fun p => congrArg Life.phase (life_extends (p := p) h)
  cases request with
  | await => trivial
  | stop p reason =>
    refine ⟨?_, fun i => ?_⟩
    · rw [h.actors]
      exact hadm.1
    · rw [hphase]
      exact hadm.2 i
  | spawn p behavior policy =>
    intro i ph hi
    rw [hphase] at hi
    exact hadm i ph hi
  | deliver => trivial

theorem advance_step {o : Outcome} (hord : Orderly s (.advance i o))
    (h : step s (.advance i o) = some t) : Advances (s.life p) (t.life p) := by
  simp only [step, Option.bind_eq_some_iff, Option.map_eq_some_iff] at h
  obtain ⟨v, hv, n, hn, rfl⟩ := h
  obtain ⟨hadm, hseen, -⟩ := hord v hv
  have hlt : i < s.invocations.length := (List.getElem?_eq_some_iff.mp hv).1
  have hphase : (s.life p).phase i = v.call.phase p := by
    change s.phase p i = _
    rw [System.phase, hv, Option.bind_some]
  by_cases hfine : (∀ q reason stage, v.call ≠ .stop q reason stage) ∧
      ∀ q stage, v.call ≠ .spawn q stage
  · have hn' := next_fine hn hfine.1 hfine.2
    have hext := hn'.extends_quiet
    rw [life_settle n (Nat.lt_of_lt_of_le hlt hext.length_le)]
    have hi : (n.system.life p).phase i = none := by
      rw [life_extends hext, hphase]
      obtain ⟨call, driver, base⟩ := v
      cases call with
      | stop q reason stage => exact absurd rfl (hfine.1 q reason stage)
      | spawn q stage => exact absurd rfl (hfine.2 q stage)
      | _ => rfl
    have hstep := perform_step (p := p) (admits_extends hext (hadm n hn)) hn'.plain hi
    rwa [life_extends hext] at hstep
  · obtain ⟨call, driver, base⟩ := v
    cases call with
    | stop q reason stage =>
      cases hn
      rw [life_settle _ (by simpa only [advanceStop_invocations] using hlt)]
      simp only [System.perform]
      by_cases hq : q = p
      · subst hq
        rw [phase_stop_self] at hphase
        exact advanceStop_self s reason stage hphase
      · obtain ⟨hlife, hnone⟩ := advanceStop_other s hq reason stage
        rw [hlife, hnone]
        rw [phase_stop_ne hq] at hphase
        exact .inl (Life.put_of_phase hphase)
    | spawn q stage =>
      cases hn
      rw [life_settle _ (Nat.lt_of_lt_of_le hlt (advanceSpawn_length s q stage))]
      simp only [System.perform]
      by_cases hq : q = p
      · subst hq
        rw [phase_spawn_self] at hphase
        exact advanceSpawn_self s stage hphase fun hstage => hseen q (hstage ▸ rfl)
      · obtain ⟨hlife, hnone⟩ := advanceSpawn_other s hq stage
        rw [hlife, hnone]
        rw [phase_spawn_ne hq] at hphase
        exact .inl (Life.put_of_phase hphase)
    | _ => simp at hfine

theorem orderly_step {a : Action} (hord : Orderly s a) (h : step s a = some t) :
    Advances (s.life p) (t.life p) := by
  have huser : ∀ q, Extends Entry.Quiet s (s.record (.userStop q)) :=
    fun q => record_extends s trivial
  cases a with
  | tick | setTestMode | setSystemEventActor | stopSystem =>
    cases h
    exact .inl (life_of_eq rfl rfl rfl)
  | spawn q behavior policy =>
    cases h
    exact invoke_step hord trivial
  | stop q =>
    cases h
    have hadm : s.Admits (.stop q none) := hord
    have hstep := invoke_step (p := p) (admits_extends (huser q) hadm) trivial
    rwa [life_extends (huser q)] at hstep
  | stopInternal q =>
    simp only [step] at h
    split at h
    case isTrue =>
      cases h
      have hadm : s.Admits (.stop q none) := hord
      have hstep := invoke_step (p := p) (admits_extends (huser q) hadm) trivial
      rwa [life_extends (huser q)] at hstep
    case isFalse => cases h
  | enqueueMessage q =>
    cases h
    exact invoke_step (s := { s with given := ⟨s.given.length, q⟩ :: s.given }) trivial fun _ => rfl
  | processNextMessage q =>
    simp only [step] at h
    split at h
    case h_1 => cases h
    case h_2 box m mailbox _ =>
      cases h
      exact invoke_step (s := { s with boxes := s.boxes.set box mailbox }) trivial fun _ => rfl
  | advance i o => exact advance_step hord h

theorem start_sound (maxActors : Nat) (supervisors : List SupervisorGroupConfig) (p : ActorAddress) :
    ((start maxActors supervisors).life p).Sound :=
  Life.sound_of_unstopping (fun _ _ h => by cases h) (Nat.zero_le 1) (Nat.zero_le 1)
    fun h _ => by cases h

theorem orderly_sound {a : Action} (hs : ∀ p, (s.life p).Sound) (hord : Orderly s a)
    (h : step s a = some t) (p : ActorAddress) : (t.life p).Sound := by
  obtain he | hstep := orderly_step (p := p) hord h
  · exact he ▸ hs p
  · exact (hs p).step hstep

end ActorWeb.ActorSystem
