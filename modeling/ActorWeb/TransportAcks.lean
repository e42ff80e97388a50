import ActorWeb.TransportMoves

namespace ActorWeb.TransportAcks

open TransportContract TransportCore TransportQuiet TransportOwnership TransportMoves Trace Transition

/-- A frame whose acknowledgement was processed is neither retried nor given up. -/
def NotAcked (pre : List Event) : Event → Prop
  | .retryScheduled p messageId | .retryExhausted p messageId => .acked p messageId ∉ pre
  | _ => True

/-- The send of a watched frame settles before its acknowledgement is processed. -/
def SettlesFirst (c : Core) : Action → Prop
  | .sendSettled job true => ∀ a p item, c.jobs job = some (.drainSend a p item) → tracks c item = true →
      .acked p item.frame.messageId ∉ c.log
  | _ => True

def Unrelated : Event → Prop
  | .acked _ _ | .retryScheduled _ _ | .retryExhausted _ _ => False
  | _ => True

theorem unrelated_of_plain {e : Event} (he : Plain e) : Unrelated e := by
  cases e <;> trivial

theorem notAcked_of_unrelated (pre : List Event) {e : Event} (he : Unrelated e) : NotAcked pre e := by
  cases e <;> trivial

structure Forgotten (c : Core) : Prop where
  registry : Registry c
  acked : ∀ p id, .acked p id ∈ c.log → p < c.nextRecord ∧ (c.records p).pendingAcks.get id = none
  disciplined : Disciplined NotAcked c.log

namespace Forgotten

variable {c c' : Core} {frames : List RuntimeTransportFrame}

theorem create (config : Config) : Forgotten (create config) :=
  ⟨registry_create config, fun _ _ h => by simp [TransportCore.create] at h, disciplined_nil⟩

theorem of_kept (f : Forgotten c) (k : Kept c c') (new : List Event) (hlog : c'.log = c.log ++ new)
    (hnew : ∀ e ∈ new, Unrelated e) : Forgotten c' where
  registry := f.registry.of_kept k
  acked p id h := by
    have hold : .acked p id ∈ c.log := by
      rw [hlog, List.mem_append] at h
      exact h.resolve_right fun h => hnew _ h
    exact ⟨k.nextRecord ▸ (f.acked p id hold).1, k.pendingAcks p id (f.acked p id hold).2⟩
  disciplined := by
    rw [hlog]
    exact (disciplined_append fun more e he _ => notAcked_of_unrelated _ (hnew e he)).mpr f.disciplined

theorem of_quiet (f : Forgotten c) (q : Quiet c c') : Forgotten c' := by
  obtain ⟨new, hnew, hplain, -⟩ := q.log
  exact f.of_kept q.toKept new hnew fun e he => unrelated_of_plain (hplain e he)

theorem emit (f : Forgotten c) {e : Event} (he : Unrelated e) : Forgotten (c.emit e) :=
  f.of_kept (emit_kept c e) [e] rfl (by simpa using he)

theorem emitRetry (f : Forgotten c) {e : Event} (he : NotAcked c.log e) (hacked : ∀ p id, e ≠ .acked p id) :
    Forgotten (c.emit e) where
  registry := f.registry.of_kept (emit_kept c e)
  acked p id h := by
    rcases List.mem_append.mp h with h | h
    · exact f.acked p id h
    · exact absurd (List.mem_singleton.mp h).symm (hacked p id)
  disciplined := disciplined_concat.mpr ⟨f.disciplined, he⟩

theorem register (f : Forgotten c) (link : Nat) (identity : RuntimeNodeIdentity) :
    Forgotten (addPeer c link identity) where
  registry := f.registry.register link identity
  acked p id h := by
    obtain ⟨hold, hnone⟩ := f.acked p id h
    simp only [addPeer, Function.update_of_ne (Nat.ne_of_lt hold)]
    exact ⟨Nat.lt_succ_of_lt hold, hnone⟩
  disciplined := f.disciplined

theorem clearPendingAck_get (c : Core) (a : String) (p : Nat) (id : String) :
    ((clearPendingAck c a p id).records p).pendingAcks.get id = none := by
  unfold clearPendingAck
  split
  case h_1 hnone => exact hnone
  case h_2 i hpending =>
    simp only [count, setPeerCount, countTotal, Core.modifyRecord_records_self, OrderedMap.get_delete_self]

theorem ack (f : Forgotten c) {a : String} {p : Nat} (id : String) (hp : c.peers.get a = some p) :
    Forgotten (clearPendingAck (c.emit (.acked p id)) a p id) := by
  have hcleared := clearPendingAck_quiet (c.emit (.acked p id)) a p id
  refine ⟨f.registry.of_kept ((emit_kept c _).trans hcleared.toKept), fun q id' h => ?_, ?_⟩
  · have hmem : .acked q id' ∈ c.log ∨ q = p ∧ id' = id := by
      simpa [Core.emit] using (hcleared.mem_log (by simp [Plain])).mp h
    rcases hmem with h | ⟨rfl, rfl⟩
    · obtain ⟨hold, hnone⟩ := f.acked q id' h
      exact ⟨hcleared.nextRecord ▸ hold, hcleared.pendingAcks q id' hnone⟩
    · exact ⟨hcleared.nextRecord ▸ f.registry.old a q hp, clearPendingAck_get _ a q id'⟩
  · refine (hcleared.disciplined fun pre e he => ?_).mpr (disciplined_concat.mpr ⟨f.disciplined, trivial⟩)
    exact notAcked_of_unrelated pre (unrelated_of_plain he)

theorem routine (f : Forgotten c) (h : Routine frames c c') : Forgotten c' := by
  cases h with
  | quiet q => exact f.of_quiet q
  | register link identity => exact f.register link identity
  | arrive a p frame hp hsource hframe => exact f.of_kept (claim_kept c _ _ _) _ (claim_log c _ _ _) (by simp [Unrelated])
  | ack a p messageId hp => exact f.ack messageId hp

theorem watch (f : Forgotten c) {p : Nat} {id : String} (i : Nat) (h : .acked p id ∉ c.log) :
    Forgotten (c.modifyRecord p fun r => { r with pendingAcks := r.pendingAcks.set id i }) where
  registry := f.registry.modifyRecord p rfl
  acked q id' hacked := by
    obtain ⟨hold, hnone⟩ := f.acked q id' hacked
    refine ⟨hold, ?_⟩
    by_cases hq : q = p
    · subst hq
      have hid : id' ≠ id := by
        rintro rfl
        exact h hacked
      rw [Core.modifyRecord_records_self, OrderedMap.get_set_ne _ _ hid, hnone]
    · rw [Core.modifyRecord_records_ne c _ hq, hnone]
  disciplined := f.disciplined

theorem notAcked_of_pending (f : Forgotten c) {p : Nat} {id : String}
    (h : (c.records p).pendingAcks.has id = true) : .acked p id ∉ c.log := by
  intro hacked
  rw [OrderedMap.has, (f.acked p id hacked).2] at h
  cases h

theorem claimAnswered (f : Forgotten c) (j : Nat) (a : String) (p : Nat) (frame : RuntimeTransportFrame)
    (answer : ClaimAnswer) : Forgotten (claimAnswered c j a p frame answer) := by
  have hkept := claimAnswered_kept c j a p frame answer
  cases answer with
  | claimed | duplicate => exact f.of_kept hkept _ rfl (by simp [Unrelated])
  | error => exact f.of_kept hkept [] (List.append_nil _).symm (by simp)

theorem claimResumed (f : Forgotten c) (j : Nat) (a : String) (p : Nat) (frame : RuntimeTransportFrame)
    (outcome : ClaimOutcome) : Forgotten (claimResumed c j a p frame outcome) := by
  cases outcome with
  | accepted source evicted =>
    obtain ⟨c₁, c₂, h₁, -, h₂, -, h⟩ := claimResumed_accepted c j a p frame source evicted
    have hreceived : Forgotten (c₁.emit (.received j p frame)) := (f.of_quiet h₁).emit trivial
    rw [h]
    exact (hreceived.of_quiet h₂).emit trivial
  | duplicate source evicted =>
    obtain ⟨c₁, h₁, h₂⟩ := claimResumed_duplicate c j a p frame source evicted
    have hdropped : Forgotten (c₁.emit (.duplicateDropped j p frame)) := (f.of_quiet h₁).emit trivial
    exact hdropped.of_quiet h₂
  | error => exact f.of_quiet (claimResumed_error c j a p frame)

theorem step (f : Forgotten c) {a : Action} (h : step c a = some c') (hguard : SettlesFirst c a) :
    Forgotten c' := by
  cases a with
  | send destination message =>
    rcases send_cases h with ⟨-, q⟩ | ⟨p, frame, -, q⟩
    · exact f.of_quiet q
    · have hnumbered : Forgotten (c.modifyRecord p fun r => { r with sequence := r.sequence + 1 }) :=
        f.of_kept (modifyRecord_kept c p rfl rfl) [] (List.append_nil _).symm (by simp)
      exact (hnumbered.emit (e := .numbered p _) trivial).of_quiet q
  | sendSettled job ok =>
    rcases sendSettled_cases h with q | ⟨a, p, item, i, c₁, hjob, rfl, htracks, q₁, q₂⟩
    · exact f.of_quiet q
    · have hacked : .acked p item.frame.messageId ∉ c₁.log := fun hacked =>
        hguard a p item hjob htracks ((q₁.mem_log (by simp [Plain])).mp hacked)
      exact ((f.of_quiet q₁).watch i hacked).of_quiet q₂
  | providerAnswers job answer =>
    obtain ⟨a, p, frame, -, rfl⟩ := providerAnswers_cases h
    exact (f.of_quiet (dropJob_quiet c job)).claimAnswered job a p frame answer
  | microtask =>
    obtain ⟨m, rest, -, h⟩ := microtask_cases h
    have hpopped : Forgotten { c with microtasks := rest } :=
      f.of_kept { Kept.refl c with } [] (List.append_nil _).symm (by simp)
    rcases h with ⟨a, p, rfl, q⟩ | ⟨j, a, p, frame, outcome, rfl, rfl⟩
    · exact hpopped.of_quiet q
    · exact hpopped.claimResumed j a p frame outcome
  | timer t =>
    rcases timer_cases h with q | ⟨p, id, c₁, q₁, hpending, hretry⟩
    · exact f.of_quiet q
    · have hfresh : .acked p id ∉ c₁.log := fun hacked =>
        f.notAcked_of_pending hpending ((q₁.mem_log (by simp [Plain])).mp hacked)
      rcases hretry with q₂ | q₂
      · exact ((f.of_quiet q₁).emitRetry (e := .retryScheduled p id) hfresh (by simp)).of_quiet q₂
      · exact ((f.of_quiet q₁).emitRetry (e := .retryExhausted p id) hfresh (by simp)).of_quiet q₂
  | connect | dialSettled | authSettled | acceptInbound | rejectInbound | disconnect | flushPeer | linkFact
  | linkAlive | linkOpens | clock | stop =>
    exact routines_invariant (fun _ _ f h => f.routine h) f (step_routines (by trivial) h)

end Forgotten

/-- As long as every watched frame settles before its acknowledgement is processed, an
acknowledged frame is never retried and never given up. -/
theorem acked_frames_are_not_retried (config : Config) (as : List Action) (c : Core)
    (hrun : exec step (create config) as = some c) (hguard : Guarded step SettlesFirst (create config) as) :
    Disciplined NotAcked c.log :=
  (guarded_invariant (fun _ _ _ f h g => f.step h g) (Forgotten.create config) hguard hrun).disciplined

section Runs

def isAck : Event → Bool
  | .acked _ _ => true
  | _ => false

theorem no_ack_of_all {log : List Event} (h : log.all (fun e => !isAck e) = true) (p : Nat) (id : String) :
    .acked p id ∉ log := by
  intro hmem
  cases List.all_eq_true.mp h _ hmem

def directorySync : ActorMessage := ⟨"__runtime.directory.sync", "{}"⟩

def ackOfFirst : Action := .linkFact 0 (.payload (.ack identityB nodeA.identity "a:1:b:1" 1))

/-- The frame settles, its acknowledgement arrives, and the timer finds nothing to retry. -/
def settledRun : List Action :=
  [.acceptInbound (linkFrom identityB) [], .send "b" directorySync, .sendSettled 0 true, ackOfFirst, .clock 5000]

theorem settledRun_not_retried :
    ∃ c, exec step (create nodeA) settledRun = some c ∧ .acked 0 "a:1:b:1" ∈ c.log ∧
      Disciplined NotAcked c.log := by
  have hguard : Guarded step SettlesFirst (create nodeA) settledRun := by
    refine (guarded_cons rfl).mpr ⟨trivial, (guarded_cons rfl).mpr ⟨trivial, (guarded_cons rfl).mpr ⟨?_, ?_⟩⟩⟩
    · exact fun a p item _ _ => no_ack_of_all rfl p _
    · exact (guarded_cons rfl).mpr ⟨trivial, (guarded_cons rfl).mpr ⟨trivial, trivial⟩⟩
  exact ⟨_, rfl, by decide, acked_frames_are_not_retried nodeA settledRun _ rfl hguard⟩

def overtakenRun : List Action :=
  [.acceptInbound (linkFrom identityB) [], .send "b" directorySync, ackOfFirst, .sendSettled 0 true,
    .clock 5000, .timer 1]

def overtakenLog : List Event := ((exec step (create nodeA) overtakenRun).map Core.log).getD []

theorem overtakenRun_retries :
    ∃ c, exec step (create nodeA) overtakenRun = some c ∧ ¬ Disciplined NotAcked c.log := by
  refine ⟨_, rfl, fun h => ?_⟩
  exact h (overtakenLog.take 4) (.retryScheduled 0 "a:1:b:1") (overtakenLog.drop 5) rfl (by decide)

end Runs

end ActorWeb.TransportAcks
