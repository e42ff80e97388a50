import ActorWeb.TransportMoves

namespace ActorWeb.TransportInbound

open List

open TransportContract TransportCore TransportQuiet TransportOwnership TransportMoves Trace Transition

def arrivedOn (p : Nat) (log : List Event) : List (Nat × RuntimeTransportFrame) :=
  log.filterMap fun
    | .arrived j q frame => if q = p then some (j, frame) else none
    | _ => none

def emittedOn (p : Nat) (log : List Event) : List (Nat × RuntimeTransportFrame) :=
  log.filterMap fun
    | .emitted j q frame => if q = p then some (j, frame) else none
    | _ => none

def queuedOn (p : Nat) (microtasks : List Microtask) : List (Nat × RuntimeTransportFrame) :=
  microtasks.filterMap fun
    | .claimed j _ q frame (.accepted _ _) => if q = p then some (j, frame) else none
    | _ => none

/-- Messages of one record are emitted in the order in which their frames arrived. -/
def InOrder (log : List Event) : Prop := ∀ p, (emittedOn p log).Sublist (arrivedOn p log)

def NotClosed (pre : List Event) : Event → Prop
  | .received _ p _ | .emitted _ p _ => ∀ a, .closed a p ∉ pre
  | _ => True

/-- The provider accepts the frames of a record in arrival order, and an accepted
frame is handled while its record is registered. -/
def Prompt (c : Core) : Action → Prop
  | .providerAnswers job .claimed => ∀ a p frame, c.jobs job = some (.claiming a p frame) →
      ∀ j key, .claimAnswered j p key false ∈ c.log → j < job
  | .microtask => ∀ j a p frame source evicted rest,
      c.microtasks = .claimed j a p frame (.accepted source evicted) :: rest → c.peers.get a = some p
  | _ => True

/-- An event that does not tell of the way of a frame through the inbound pipeline. -/
def Neutral : Event → Prop
  | .arrived _ _ _ | .received _ _ _ | .emitted _ _ _ | .closed _ _ => False
  | _ => True

structure Still (c c' : Core) : Prop where
  config : c'.config = c.config
  nextRecord : c'.nextRecord = c.nextRecord
  peers : ∀ a p, c'.peers.get a = some p → c.peers.get a = some p
  nextJob : c.nextJob ≤ c'.nextJob
  jobs : ∀ j a p f, c'.jobs j = some (.claiming a p f) → c.jobs j = some (.claiming a p f)
  queued : ∀ p, queuedOn p c'.microtasks = queuedOn p c.microtasks
  log : ∃ new, c'.log = c.log ++ new ∧ (∀ e ∈ new, Neutral e ∨ ∃ a p, e = .closed a p) ∧
    ∀ a p, .closed a p ∈ new → c.peers.get a = some p ∧ c'.peers.get a ≠ some p

namespace Still

variable {c c' c'' : Core}

theorem refl (c : Core) : Still c c :=
  ⟨rfl, rfl, fun _ _ => id, Nat.le_refl _, fun _ _ _ _ => id, fun _ => rfl, [], by simp⟩

theorem of_quiet (q : Quiet c c') : Still c c' where
  config := q.config
  nextRecord := q.nextRecord
  peers := q.peers
  nextJob := q.nextJob
  jobs := q.jobs
  queued p := by
    obtain ⟨ms, hms, hretry⟩ := q.microtasks
    have hnone : queuedOn p ms = [] := by
      refine filterMap_eq_nil_iff.mpr fun m hm => ?_
      obtain ⟨a, r, rfl⟩ := hretry m hm
      rfl
    rw [hms, queuedOn, filterMap_append]
    exact (congrArg (_ ++ ·) hnone).trans (append_nil _)
  log := by
    obtain ⟨new, hnew, hplain, hclosed⟩ := q.log
    refine ⟨new, hnew, fun e he => ?_, hclosed⟩
    have hp := hplain e he
    cases e with
    | closed a p => exact .inr ⟨a, p, rfl⟩
    | _ => exact .inl (by trivial)

theorem emit (c : Core) {e : Event} (he : Neutral e) : Still c (c.emit e) := by
  refine { Still.refl c with log := ⟨[e], rfl, by simpa using Or.inl he, fun a p h => ?_⟩ }
  rw [← mem_singleton.mp h] at he
  exact he.elim

theorem modifyRecord (c : Core) (p : Nat) (f : Peer → Peer) : Still c (c.modifyRecord p f) :=
  { Still.refl c with }

theorem addMicrotask (c : Core) {m : Microtask} (hm : ∀ p, queuedOn p [m] = []) : Still c (c.addMicrotask m) :=
  { Still.refl c with
    queued := fun p => (filterMap_append).trans ((congrArg (_ ++ ·) (hm p)).trans (append_nil _)) }

theorem arrivedOn_eq (s : Still c c') (p : Nat) : arrivedOn p c'.log = arrivedOn p c.log := by
  obtain ⟨new, hnew, hneutral, -⟩ := s.log
  have hnone : arrivedOn p new = [] := by
    refine filterMap_eq_nil_iff.mpr fun e he => ?_
    rcases hneutral e he with h | ⟨a, q, rfl⟩
    · cases e <;> first | rfl | exact h.elim
    · rfl
  rw [hnew, arrivedOn, filterMap_append]
  exact (congrArg (_ ++ ·) hnone).trans (append_nil _)

theorem emittedOn_eq (s : Still c c') (p : Nat) : emittedOn p c'.log = emittedOn p c.log := by
  obtain ⟨new, hnew, hneutral, -⟩ := s.log
  have hnone : emittedOn p new = [] := by
    refine filterMap_eq_nil_iff.mpr fun e he => ?_
    rcases hneutral e he with h | ⟨a, q, rfl⟩
    · cases e <;> first | rfl | exact h.elim
    · rfl
  rw [hnew, emittedOn, filterMap_append]
  exact (congrArg (_ ++ ·) hnone).trans (append_nil _)

end Still

/-- The frames of a record that the claim has accepted: those emitted, then those still queued. -/
def acceptedOn (p : Nat) (c : Core) : List (Nat × RuntimeTransportFrame) :=
  emittedOn p c.log ++ queuedOn p c.microtasks

structure Inbound (c : Core) : Prop where
  registry : Registry c
  closed : ∀ a p, .closed a p ∈ c.log → p < c.nextRecord ∧ ∀ b, c.peers.get b ≠ some p
  claiming : ∀ j a p f, c.jobs j = some (.claiming a p f) →
    c.config.idempotencyProvider = true ∧ (j, f) ∈ arrivedOn p c.log
  arrived : ∀ p, (arrivedOn p c.log).Pairwise (·.1 < ·.1)
  old : ∀ p, ∀ e ∈ arrivedOn p c.log, e.1 < c.nextJob
  increasing : ∀ p, (acceptedOn p c).Pairwise (·.1 < ·.1)
  accepted : ∀ p, acceptedOn p c ⊆ arrivedOn p c.log
  answered : c.config.idempotencyProvider = true → ∀ p, ∀ e ∈ acceptedOn p c,
    ∃ key, .claimAnswered e.1 p key false ∈ c.log
  disciplined : Disciplined NotClosed c.log

namespace Inbound

variable {c c' : Core} {frames : List RuntimeTransportFrame}

theorem create (config : Config) : Inbound (create config) where
  registry := registry_create config
  closed _ _ h := by simp [TransportCore.create] at h
  claiming _ _ _ _ h := by simp [TransportCore.create] at h
  arrived _ := List.Pairwise.nil
  old _ _ h := by simp [TransportCore.create, arrivedOn] at h
  increasing _ := List.Pairwise.nil
  accepted _ _ h := by simp [TransportCore.create, acceptedOn, emittedOn, queuedOn] at h
  answered _ _ _ h := by simp [TransportCore.create, acceptedOn, emittedOn, queuedOn] at h
  disciplined := disciplined_nil

theorem inOrder (i : Inbound c) : InOrder c.log := by
  intro p
  have hincreasing := (pairwise_append.mp (i.increasing p)).1
  refine sublist_of_increasing hincreasing (i.arrived p) fun e he => ?_
  exact i.accepted p (mem_append_left _ he)

variable {a : String} {p j : Nat}

theorem not_closed (i : Inbound c) (h : c.peers.get a = some p) (b : String) :
    .closed b p ∉ c.log := fun hclosed => (i.closed b p hclosed).2 a h

theorem of_still (i : Inbound c) (s : Still c c') (r : Registry c') : Inbound c' := by
  have haccepted (p : Nat) : acceptedOn p c' = acceptedOn p c := by
    rw [acceptedOn, s.emittedOn_eq, s.queued]
    rfl
  obtain ⟨new, hnew, hneutral, hclosed⟩ := s.log
  have hmem {e : Event} (he : e ∈ c.log) : e ∈ c'.log := hnew ▸ mem_append_left _ he
  refine
    { registry := r
      closed := fun a p h => ?_
      claiming := fun j a p f h => ?_
      arrived := fun p => by rw [s.arrivedOn_eq]; exact i.arrived p
      old := fun p e he => ?_
      increasing := fun p => by rw [haccepted]; exact i.increasing p
      accepted := fun p => by rw [haccepted, s.arrivedOn_eq]; exact i.accepted p
      answered := fun hprovider p e he => ?_
      disciplined := ?_ }
  · rw [hnew, mem_append] at h
    rcases h with h | h
    · exact ⟨s.nextRecord ▸ (i.closed a p h).1, fun b hb => (i.closed a p h).2 b (s.peers b p hb)⟩
    · obtain ⟨hwas, hgone⟩ := hclosed a p h
      refine ⟨s.nextRecord ▸ i.registry.old a p hwas, fun b hb => hgone ?_⟩
      -- a record is registered under one address only, that of its identity
      have haddress := i.registry.address b p (s.peers b p hb)
      rw [i.registry.address a p hwas] at haddress
      exact haddress ▸ hb
  · rw [s.config, s.arrivedOn_eq]
    exact i.claiming j a p f (s.jobs j a p f h)
  · rw [s.arrivedOn_eq] at he
    exact Nat.lt_of_lt_of_le (i.old p e he) s.nextJob
  · rw [haccepted] at he
    obtain ⟨key, hkey⟩ := i.answered (s.config ▸ hprovider) p e he
    exact ⟨key, hmem hkey⟩
  · rw [hnew]
    refine (disciplined_append fun more e he _ => ?_).mpr i.disciplined
    rcases hneutral e he with h | ⟨a, p, rfl⟩
    · cases e <;> trivial
    · trivial

theorem of_quiet (i : Inbound c) (q : Quiet c c') : Inbound c' :=
  i.of_still (.of_quiet q) (i.registry.of_kept q.toKept)

theorem emit (i : Inbound c) {e : Event} (he : Neutral e) : Inbound (c.emit e) :=
  i.of_still (.emit c he) (i.registry.of_kept (emit_kept c e))

theorem addMicrotask (i : Inbound c) {m : Microtask} (hm : ∀ p, queuedOn p [m] = []) :
    Inbound (c.addMicrotask m) :=
  i.of_still (.addMicrotask c hm) ⟨i.registry.old, i.registry.address⟩

theorem register (i : Inbound c) (link : Nat) (identity : RuntimeNodeIdentity) :
    Inbound (addPeer c link identity) where
  registry := i.registry.register link identity
  closed a p h := by
    obtain ⟨hold, hgone⟩ := i.closed a p h
    refine ⟨Nat.lt_succ_of_lt hold, fun b hb => ?_⟩
    simp only [addPeer, OrderedMap.get_set] at hb
    split at hb
    · exact absurd (Option.some.inj hb) (Nat.ne_of_gt hold)
    · exact hgone b hb
  claiming := i.claiming
  arrived := i.arrived
  old := i.old
  increasing := i.increasing
  accepted := i.accepted
  answered := i.answered
  disciplined := i.disciplined

theorem arrive (i : Inbound c) (p : Nat) (frame : RuntimeTransportFrame) :
    Inbound { c.emit (.arrived c.nextJob p frame) with nextJob := c.nextJob + 1 } := by
  have hself (q : Nat) (h : p = q) : arrivedOn q (c.log ++ [.arrived c.nextJob p frame]) =
      arrivedOn q c.log ++ [(c.nextJob, frame)] := by simp [arrivedOn, h]
  have hother (q : Nat) (h : p ≠ q) : arrivedOn q (c.log ++ [.arrived c.nextJob p frame]) =
      arrivedOn q c.log := by simp [arrivedOn, h]
  have hsub (q : Nat) : arrivedOn q c.log ⊆ arrivedOn q (c.log ++ [.arrived c.nextJob p frame]) := by
    rw [arrivedOn, arrivedOn, filterMap_append]
    exact subset_append_left _ _
  have haccepted (q : Nat) : acceptedOn q { c.emit (.arrived c.nextJob p frame) with nextJob := c.nextJob + 1 } =
      acceptedOn q c := by simp [acceptedOn, Core.emit, emittedOn]
  refine
    { registry := ⟨i.registry.old, i.registry.address⟩
      closed := fun a q h => i.closed a q (by simpa [Core.emit] using h)
      claiming := fun j a q f h => ⟨(i.claiming j a q f h).1, hsub q (i.claiming j a q f h).2⟩
      arrived := fun q => ?_
      old := fun q e he => ?_
      increasing := fun q => by rw [haccepted]; exact i.increasing q
      accepted := fun q e he => hsub q (i.accepted q (haccepted q ▸ he))
      answered := fun hprovider q e he => ?_
      disciplined := disciplined_concat.mpr ⟨i.disciplined, trivial⟩ }
  · by_cases h : p = q
    · have hlast : ∀ e ∈ arrivedOn q c.log, ∀ e' ∈ [(c.nextJob, frame)], e.1 < e'.1 := by
        simpa using fun j f => i.old q (j, f)
      rw [Core.emit, hself q h]
      exact pairwise_append.mpr ⟨i.arrived q, pairwise_singleton _ _, hlast⟩
    · rw [Core.emit, hother q h]
      exact i.arrived q
  · have he' : e ∈ arrivedOn q c.log ∨ e = (c.nextJob, frame) := by
      by_cases h : p = q
      · simpa [Core.emit, hself q h] using he
      · exact .inl (by simpa [Core.emit, hother q h] using he)
    rcases he' with he' | rfl
    · exact Nat.lt_succ_of_lt (i.old q e he')
    · exact Nat.lt_succ_self _
  · obtain ⟨key, hkey⟩ := i.answered hprovider q e (haccepted q ▸ he)
    exact ⟨key, mem_append_left _ hkey⟩

variable {frame : RuntimeTransportFrame}

theorem accept (i : Inbound c) (a : String) (source : ClaimSource)
    (evicted : List String) (hlast : ∀ e ∈ acceptedOn p c, e.1 < j) (hj : (j, frame) ∈ arrivedOn p c.log)
    (hanswered : c.config.idempotencyProvider = true → ∃ key, .claimAnswered j p key false ∈ c.log) :
    Inbound (c.addMicrotask (.claimed j a p frame (.accepted source evicted))) := by
  have hself (q : Nat) (h : p = q) : acceptedOn q
      (c.addMicrotask (.claimed j a p frame (.accepted source evicted))) = acceptedOn q c ++ [(j, frame)] := by
    simp [acceptedOn, Core.addMicrotask, queuedOn, h]
  have hother (q : Nat) (h : p ≠ q) : acceptedOn q
      (c.addMicrotask (.claimed j a p frame (.accepted source evicted))) = acceptedOn q c := by
    simp [acceptedOn, Core.addMicrotask, queuedOn, h]
  have hmem (q : Nat) (e) (he : e ∈ acceptedOn q
      (c.addMicrotask (.claimed j a p frame (.accepted source evicted)))) :
      e ∈ acceptedOn q c ∨ p = q ∧ e = (j, frame) := by
    by_cases h : p = q
    · rw [hself q h, mem_append, mem_singleton] at he
      exact he.imp_right fun he => ⟨h, he⟩
    · exact .inl (hother q h ▸ he)
  refine
    { registry := ⟨i.registry.old, i.registry.address⟩
      closed := i.closed
      claiming := i.claiming
      arrived := i.arrived
      old := i.old
      increasing := fun q => ?_
      accepted := fun q e he => ?_
      answered := fun hprovider q e he => ?_
      disciplined := i.disciplined }
  · by_cases h : p = q
    · subst h
      rw [hself p rfl]
      refine pairwise_append.mpr ⟨i.increasing p, pairwise_singleton _ _, fun e he e' he' => ?_⟩
      rw [mem_singleton.mp he']
      exact hlast e he
    · rw [hother q h]
      exact i.increasing q
  · rcases hmem q e he with he | ⟨rfl, rfl⟩
    · exact i.accepted q he
    · exact hj
  · rcases hmem q e he with he | ⟨rfl, rfl⟩
    · exact i.answered hprovider q e he
    · exact hanswered hprovider

theorem ask (i : Inbound c) (a : String)
    (hprovider : c.config.idempotencyProvider = true) (hj : (j, frame) ∈ arrivedOn p c.log) :
    Inbound (c.setJob j (some (.claiming a p frame))) where
  registry := ⟨i.registry.old, i.registry.address⟩
  closed := i.closed
  claiming j' a' q f h := by
    by_cases hjob : j' = j
    · subst hjob
      simp only [Core.setJob, Function.update_self, Option.some.injEq, Job.claiming.injEq] at h
      obtain ⟨-, rfl, rfl⟩ := h
      exact ⟨hprovider, hj⟩
    · simp only [Core.setJob, Function.update_of_ne hjob] at h
      exact i.claiming j' a' q f h
  arrived := i.arrived
  old := i.old
  increasing := i.increasing
  accepted := i.accepted
  answered := i.answered
  disciplined := i.disciplined

theorem claim (i : Inbound c) (a : String) (p : Nat) (frame : RuntimeTransportFrame) :
    Inbound (claim c a p frame) := by
  have harrived := i.arrive p frame
  have hlast : (c.nextJob, frame) ∈ arrivedOn p (c.log ++ [.arrived c.nextJob p frame]) := by simp [arrivedOn]
  have hold : ∀ e ∈ acceptedOn p c, e.1 < c.nextJob := fun e he => i.old p e (i.accepted p he)
  unfold TransportCore.claim
  simp only
  split
  · exact harrived.addMicrotask fun _ => rfl
  · split
    case isTrue hmemory =>
      have hremembered := harrived.of_still (.modifyRecord _ p fun r =>
        { r with idempotencyCache := (r.idempotencyCache.remember frame.messageId).1 })
          (harrived.registry.of_kept (remember_kept _ p frame.messageId))
      refine hremembered.accept a _ _ (fun e he => hold e ?_) hlast fun hprovider => ?_
      · simpa [acceptedOn, Core.emit, Core.modifyRecord, emittedOn] using he
      · have hprovider : c.config.idempotencyProvider = true := hprovider
        simp [Core.emit, hprovider] at hmemory
    case isFalse hprovider =>
      have hprovider : c.config.idempotencyProvider = true := by simpa [Core.emit] using hprovider
      exact harrived.ask a hprovider hlast

theorem claimAnswered (i : Inbound c)
    (answer : ClaimAnswer) (hprovider : c.config.idempotencyProvider = true)
    (hj : (j, frame) ∈ arrivedOn p c.log)
    (hlast : answer = .claimed → ∀ j' key, .claimAnswered j' p key false ∈ c.log → j' < j) :
    Inbound (claimAnswered c j a p frame answer) := by
  have hremembered := i.of_still (.modifyRecord c p fun r =>
    { r with idempotencyCache := (r.idempotencyCache.remember frame.messageId).1 })
      (i.registry.of_kept (remember_kept c p frame.messageId))
  cases answer with
  | claimed =>
    refine (hremembered.emit (e := .claimAnswered j p _ false) trivial).accept a _ _ (fun e he => ?_) ?_
      fun _ => ⟨_, mem_concat_self⟩
    · have he : e ∈ acceptedOn p c := by
        simpa [acceptedOn, Core.emit, Core.modifyRecord, emittedOn] using he
      obtain ⟨key, hkey⟩ := i.answered hprovider p e he
      exact hlast rfl e.1 key hkey
    · simpa [arrivedOn, Core.emit, Core.modifyRecord] using hj
  | duplicate =>
    exact (hremembered.emit (e := .claimAnswered j p _ true) trivial).addMicrotask fun _ => rfl
  | error => exact i.addMicrotask fun _ => rfl

theorem pop (i : Inbound c) {m : Microtask} {rest : List Microtask} (hm : c.microtasks = m :: rest) :
    Inbound { c with microtasks := rest } := by
  have hsub (p : Nat) : (acceptedOn p { c with microtasks := rest }).Sublist (acceptedOn p c) := by
    refine List.Sublist.append_left ?_ _
    rw [hm]
    exact (sublist_cons_self m rest).filterMap _
  exact
    { registry := ⟨i.registry.old, i.registry.address⟩
      closed := i.closed
      claiming := i.claiming
      arrived := i.arrived
      old := i.old
      increasing := fun p => (i.increasing p).sublist (hsub p)
      accepted := fun p e he => i.accepted p ((hsub p).subset he)
      answered := fun hprovider p e he => i.answered hprovider p e ((hsub p).subset he)
      disciplined := i.disciplined }

theorem emitReceived (i : Inbound c)
    (hp : c.peers.get a = some p) : Inbound (c.emit (.received j p frame)) := by
  have haccepted (q : Nat) : acceptedOn q (c.emit (.received j p frame)) = acceptedOn q c := by
    simp [acceptedOn, Core.emit, emittedOn]
  have harrived (q : Nat) : arrivedOn q (c.log ++ [.received j p frame]) = arrivedOn q c.log := by
    simp [arrivedOn]
  exact
    { registry := i.registry.of_kept (emit_kept c _)
      closed := fun a q h => i.closed a q (by simpa [Core.emit] using h)
      claiming := fun j' a q f h => harrived q ▸ i.claiming j' a q f h
      arrived := fun q => harrived q ▸ i.arrived q
      old := fun q e he => i.old q e (harrived q ▸ he)
      increasing := fun q => haccepted q ▸ i.increasing q
      accepted := fun q e he => harrived q ▸ i.accepted q (haccepted q ▸ he)
      answered := fun hprovider q e he => by
        obtain ⟨key, hkey⟩ := i.answered hprovider q e (haccepted q ▸ he)
        exact ⟨key, mem_append_left _ hkey⟩
      disciplined := disciplined_concat.mpr ⟨i.disciplined, i.not_closed hp⟩ }

theorem emitEmitted (i : Inbound c) (hp : c.peers.get a = some p)
    (hincreasing : (emittedOn p c.log ++ (j, frame) :: queuedOn p c.microtasks).Pairwise (·.1 < ·.1))
    (hj : (j, frame) ∈ arrivedOn p c.log)
    (hanswered : c.config.idempotencyProvider = true → ∃ key, .claimAnswered j p key false ∈ c.log) :
    Inbound (c.emit (.emitted j p frame)) := by
  have hself : acceptedOn p (c.emit (.emitted j p frame)) =
      emittedOn p c.log ++ (j, frame) :: queuedOn p c.microtasks := by
    simp [acceptedOn, Core.emit, emittedOn]
  have hother (q : Nat) (h : p ≠ q) : acceptedOn q (c.emit (.emitted j p frame)) = acceptedOn q c := by
    simp [acceptedOn, Core.emit, emittedOn, h]
  have hmem (q : Nat) (e) (he : e ∈ acceptedOn q (c.emit (.emitted j p frame))) :
      e ∈ acceptedOn q c ∨ p = q ∧ e = (j, frame) := by
    by_cases h : p = q
    · subst h
      rw [hself, mem_append, mem_cons] at he
      rcases he with he | rfl | he
      · exact .inl (mem_append_left _ he)
      · exact .inr ⟨rfl, rfl⟩
      · exact .inl (mem_append_right _ he)
    · exact .inl (hother q h ▸ he)
  have harrived (q : Nat) : arrivedOn q (c.log ++ [.emitted j p frame]) = arrivedOn q c.log := by
    simp [arrivedOn]
  refine
    { registry := i.registry.of_kept (emit_kept c _)
      closed := fun a q h => i.closed a q (by simpa [Core.emit] using h)
      claiming := fun j' a q f h => harrived q ▸ i.claiming j' a q f h
      arrived := fun q => harrived q ▸ i.arrived q
      old := fun q e he => i.old q e (harrived q ▸ he)
      increasing := fun q => ?_
      accepted := fun q e he => ?_
      answered := fun hprovider q e he => ?_
      disciplined := disciplined_concat.mpr ⟨i.disciplined, i.not_closed hp⟩ }
  · by_cases h : p = q
    · subst h
      rw [hself]
      exact hincreasing
    · rw [hother q h]
      exact i.increasing q
  · refine (harrived q).symm ▸ ?_
    rcases hmem q e he with he | ⟨rfl, rfl⟩
    · exact i.accepted q he
    · exact hj
  · have hanswer : ∃ key, .claimAnswered e.1 q key false ∈ c.log := by
      rcases hmem q e he with he | ⟨rfl, rfl⟩
      · exact i.answered hprovider q e he
      · exact hanswered hprovider
    obtain ⟨key, hkey⟩ := hanswer
    exact ⟨key, mem_append_left _ hkey⟩

theorem resumeAccepted (i : Inbound c)
    {source : ClaimSource} {evicted : List String} {rest : List Microtask}
    (hm : c.microtasks = .claimed j a p frame (.accepted source evicted) :: rest) (hp : c.peers.get a = some p) :
    Inbound (claimResumed { c with microtasks := rest } j a p frame (.accepted source evicted)) := by
  obtain ⟨c₁, c₂, h₁, hpeers₁, h₂, hpeers₂, h⟩ :=
    claimResumed_accepted { c with microtasks := rest } j a p frame source evicted
  have hp₁ : c₁.peers.get a = some p := by rw [hpeers₁]; exact hp
  have hp₂ : c₂.peers.get a = some p := by rw [hpeers₂]; exact hp
  have hreceived : Inbound c₂ := (((i.pop hm).of_quiet h₁).emitReceived hp₁).of_quiet h₂
  have hemitted : emittedOn p c₂.log = emittedOn p c.log := by
    rw [(Still.of_quiet h₂).emittedOn_eq, ← (Still.of_quiet h₁).emittedOn_eq]
    simp [emittedOn, Core.emit]
  have harrived : arrivedOn p c₂.log = arrivedOn p c.log := by
    rw [(Still.of_quiet h₂).arrivedOn_eq, ← (Still.of_quiet h₁).arrivedOn_eq]
    simp [arrivedOn, Core.emit]
  have hqueued : queuedOn p c₂.microtasks = queuedOn p rest :=
    ((Still.of_quiet h₂).queued p).trans ((Still.of_quiet h₁).queued p)
  have haccepted : acceptedOn p c = emittedOn p c.log ++ (j, frame) :: queuedOn p rest := by
    simp [acceptedOn, hm, queuedOn]
  have hmem : (j, frame) ∈ acceptedOn p c := by simp [haccepted]
  rw [h]
  refine hreceived.emitEmitted hp₂ ?_ ?_ fun hprovider => ?_
  · rw [hemitted, hqueued, ← haccepted]
    exact i.increasing p
  · rw [harrived]
    exact i.accepted p hmem
  · have hconfig : c₂.config = c.config := h₂.config.trans h₁.config
    obtain ⟨key, hkey⟩ := i.answered (hconfig ▸ hprovider) p _ hmem
    have hkey₁ := (h₁.mem_log (by simp [Plain])).mpr hkey
    exact ⟨key, (h₂.mem_log (by simp [Plain])).mpr (mem_append_left _ hkey₁)⟩

theorem routine (i : Inbound c) (h : Routine frames c c') : Inbound c' := by
  cases h with
  | quiet q => exact i.of_quiet q
  | register link identity => exact i.register link identity
  | arrive a p frame hp hsource hframe => exact i.claim _ _ _
  | ack a p messageId hp => exact (i.emit (e := .acked _ _) trivial).of_quiet (clearPendingAck_quiet _ _ _ _)

theorem microtask (i : Inbound c) (h : step c .microtask = some c') (hguard : Prompt c .microtask) :
    Inbound c' := by
  obtain ⟨m, rest, hm, h⟩ := microtask_cases h
  have hpopped := i.pop hm
  rcases h with ⟨a, p, rfl, q⟩ | ⟨j, a, p, frame, outcome, rfl, rfl⟩
  · exact hpopped.of_quiet q
  · cases outcome with
    | accepted source evicted => exact i.resumeAccepted hm (hguard j a p frame source evicted rest hm)
    | duplicate source evicted =>
      obtain ⟨c₁, h₁, h₂⟩ := claimResumed_duplicate { c with microtasks := rest } j a p frame source evicted
      have hdropped : Inbound (c₁.emit (.duplicateDropped j p frame)) := (hpopped.of_quiet h₁).emit trivial
      exact hdropped.of_quiet h₂
    | error => exact hpopped.of_quiet (claimResumed_error _ j a p frame)

theorem step (i : Inbound c) {a : Action} (h : step c a = some c') (hguard : Prompt c a) : Inbound c' := by
  cases a with
  | send destination message =>
    rcases send_cases h with ⟨-, q⟩ | ⟨p, frame, -, q⟩
    · exact i.of_quiet q
    · have hnumbered := i.of_still (.modifyRecord c p fun r => { r with sequence := r.sequence + 1 })
        (i.registry.modifyRecord p rfl)
      exact (hnumbered.emit (e := .numbered p _) trivial).of_quiet q
  | sendSettled job ok =>
    rcases sendSettled_cases h with q | ⟨a, p, item, k, c₁, -, -, -, q₁, q₂⟩
    · exact i.of_quiet q
    · have hsent := i.of_quiet q₁
      exact (hsent.of_still (.modifyRecord c₁ p _) (hsent.registry.modifyRecord p rfl)).of_quiet q₂
  | providerAnswers job answer =>
    obtain ⟨a, p, frame, hjob, rfl⟩ := providerAnswers_cases h
    obtain ⟨hprovider, hj⟩ := i.claiming job a p frame hjob
    refine (i.of_quiet (dropJob_quiet c job)).claimAnswered answer hprovider hj ?_
    rintro rfl
    exact hguard a p frame hjob
  | microtask => exact i.microtask h hguard
  | timer t =>
    rcases timer_cases h with q | ⟨p, id, c₁, q₁, -, q₂ | q₂⟩
    · exact i.of_quiet q
    · exact ((i.of_quiet q₁).emit (e := .retryScheduled p id) trivial).of_quiet q₂
    · exact ((i.of_quiet q₁).emit (e := .retryExhausted p id) trivial).of_quiet q₂
  | connect | dialSettled | authSettled | acceptInbound | rejectInbound | disconnect | flushPeer | linkFact
  | linkAlive | linkOpens | clock | stop =>
    exact routines_invariant (fun _ _ i h => i.routine h) i (step_routines (by trivial) h)

end Inbound

/-- With a provider that accepts in arrival order and handlers that run while their
record is registered, emission keeps the order of arrival and stops when a record is closed. -/
theorem inbound_in_order_until_closed (config : Config) (as : List Action) (c : Core)
    (hrun : exec step (create config) as = some c) (hguard : Guarded step Prompt (create config) as) :
    InOrder c.log ∧ Disciplined NotClosed c.log := by
  have hinbound := guarded_invariant (fun _ _ _ i h g => i.step h g) (Inbound.create config) hguard hrun
  exact ⟨hinbound.inOrder, hinbound.disciplined⟩

section Runs

def frameB (sequence : Nat) : RuntimeTransportFrame :=
  createRuntimeTransportFrame identityB nodeA.identity sequence ⟨"user.message", "hello"⟩

def arrives (sequence : Nat) : Action := .linkFact 0 (.payload (.frame (frameB sequence)))

def logAfter (as : List Action) : List Event := ((exec step (create nodeA) as).map Core.log).getD []

def orderlyRun : List Action :=
  [.acceptInbound (linkFrom identityB) [], arrives 1, arrives 2, .providerAnswers 0 .claimed,
    .providerAnswers 1 .claimed, .microtask, .microtask]

def acceptsBelow (n : Nat) : Event → Bool
  | .claimAnswered j _ _ false => j < n
  | _ => true

theorem lt_of_acceptsBelow {log : List Event} {n : Nat} (h : log.all (acceptsBelow n) = true) {j p : Nat}
    {key : String} (hmem : .claimAnswered j p key false ∈ log) : j < n :=
  of_decide_eq_true (all_eq_true.mp h _ hmem)

theorem orderlyRun_in_order :
    ∃ c, exec step (create nodeA) orderlyRun = some c ∧ (emittedOn 0 c.log).length = 2 ∧
      InOrder c.log ∧ Disciplined NotClosed c.log := by
  have hguard : Guarded step Prompt (create nodeA) orderlyRun := by
    refine (guarded_cons rfl).mpr ⟨trivial, (guarded_cons rfl).mpr ⟨trivial, (guarded_cons rfl).mpr ⟨trivial, ?_⟩⟩⟩
    refine (guarded_cons rfl).mpr ⟨fun a p frame _ j key h => lt_of_acceptsBelow rfl h, ?_⟩
    refine (guarded_cons rfl).mpr ⟨fun a p frame _ j key h => lt_of_acceptsBelow rfl h, ?_⟩
    refine (guarded_cons rfl).mpr ⟨?_, (guarded_cons rfl).mpr ⟨?_, trivial⟩⟩
    · rintro j a p frame source evicted rest ⟨⟩
      rfl
    · rintro j a p frame source evicted rest ⟨⟩
      rfl
  exact ⟨_, rfl, by decide, inbound_in_order_until_closed nodeA orderlyRun _ rfl hguard⟩

def overtakingRun : List Action :=
  [.acceptInbound (linkFrom identityB) [], arrives 1, arrives 2, .providerAnswers 1 .claimed,
    .providerAnswers 0 .claimed, .microtask, .microtask]

def disconnectedRun : List Action :=
  [.acceptInbound (linkFrom identityB) [], arrives 1, .disconnect "b", .providerAnswers 0 .claimed, .microtask]

theorem overtaking_and_disconnected_runs :
    (∃ c, exec step (create nodeA) overtakingRun = some c ∧ ¬ InOrder c.log) ∧
      ∃ c, exec step (create nodeA) disconnectedRun = some c ∧ ¬ Disciplined NotClosed c.log := by
  refine ⟨⟨_, rfl, fun h => ?_⟩, ⟨_, rfl, fun h => ?_⟩⟩
  · exact absurd (h 0) (by decide)
  · exact h ((logAfter disconnectedRun).take 6) (.emitted 0 0 (frameB 1)) [] rfl "b" (by decide)

end Runs

end ActorWeb.TransportInbound
