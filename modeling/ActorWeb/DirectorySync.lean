import ActorWeb.DirectoryNode

namespace ActorWeb.DirectorySync

open Option Transition DirectoryNode

def step (s : DirectoryNode) (e : Event) : Option DirectoryNode := (s.handle e).map Prod.fst

def attemptOf : Event → Option Nat
  | .requestDirectorySync token => some token
  | .failDirectorySync token _ => some token
  | .settleDirectorySync token => some token
  | _ => none

/-- What a step of a node does to its readiness table and, when that is a
settled attempt, to its directory. -/
inductive ReadinessMove (s t : DirectoryNode) : Event → Prop
  | still (e : Event) : t.readiness = s.readiness → attemptOf e = none → ReadinessMove s t e
  | ensured (e : Event) (node : NodeAddress) (refreshIfReady : Bool) :
      t.readiness = s.readiness.ensure node (s.getRemoteConnectionKey node) refreshIfReady →
      attemptOf e = none → ReadinessMove s t e
  | forgot (e : Event) (node : NodeAddress) : t.readiness = s.readiness.forget node →
      attemptOf e = none → ReadinessMove s t e
  | staged (e : Event) (token : Nat) (sync : DirectorySync) (stage : SyncStage) :
      s.readiness.syncs.get token = some sync →
      t.readiness = s.readiness.setStage token sync stage →
      (∀ token, e ≠ .settleDirectorySync token) → ReadinessMove s t e
  | applied (token : Nat) (sync : DirectorySync) (entries : List RuntimeDirectoryEntry) :
      s.readiness.syncs.get token = some sync → sync.stage = .answered entries →
      s.isCurrent token sync = true →
      t.directory = entries.foldl Directory.applyRemoteEntry s.directory →
      t.readiness = (s.readiness.finish token).succeed token sync →
      ReadinessMove s t (.settleDirectorySync token)
  | degraded (token : Nat) (sync : DirectorySync) (message : List Char) :
      s.readiness.syncs.get token = some sync → s.isCurrent token sync = true →
      t.directory = s.directory →
      t.readiness = (s.readiness.finish token).degrade sync message →
      ReadinessMove s t (.settleDirectorySync token)
  | withdrew (token : Nat) (sync : DirectorySync) :
      s.readiness.syncs.get token = some sync → t.directory = s.directory →
      t.readiness = (s.readiness.finish token).withdraw token sync →
      ReadinessMove s t (.settleDirectorySync token)

theorem lookup_move (s : DirectoryNode) (a : ActorAddress) :
    ReadinessMove s (s.lookup a) (.lookup a) := by
  unfold DirectoryNode.lookup
  split
  case h_1 node _ _ =>
    split
    case isTrue => exact .ensured _ node true rfl rfl
    case isFalse => exact .still _ rfl rfl
  case h_2 => exact .still _ rfl rfl

theorem enqueueMessage_readiness (s : DirectoryNode) (a : ActorAddress) (m : Nat) :
    (s.enqueueMessage a m).1.readiness = s.readiness := by
  unfold DirectoryNode.enqueueMessage
  split
  · rfl
  · split <;> rfl

theorem answerDirectorySync_move (s : DirectoryNode) (source : NodeAddress) (requestId : Nat)
    (entries : List RuntimeDirectoryEntry) :
    ReadinessMove s (s.answerDirectorySync requestId entries)
      (.receive source (.directorySyncResponse requestId entries)) := by
  unfold answerDirectorySync
  split
  case h_1 => exact .still _ rfl rfl
  case h_2 sync hsync =>
    split
    case isTrue => exact .staged _ requestId sync _ hsync rfl (by simp)
    case isFalse => exact .still _ rfl rfl

theorem receive_move (s : DirectoryNode) (source : NodeAddress) (m : RuntimeMessage) :
    ReadinessMove s (s.receive source m).1 (.receive source m) := by
  cases m with
  | directorySyncResponse requestId entries =>
    exact answerDirectorySync_move s source requestId entries
  | remoteSend a m => exact .still _ (enqueueMessage_readiness s a m) rfl
  | directoryRegister entry | directoryUnregister address | directorySyncRequest requestId =>
    exact .still _ rfl rfl

variable {s t : DirectoryNode} {e : Event}

theorem settleDirectorySync_move {token : Nat} {sync : DirectorySync}
    (hsync : s.readiness.syncs.get token = some sync)
    (h : s.settleDirectorySync token sync = some t) :
    ReadinessMove s t (.settleDirectorySync token) := by
  unfold DirectoryNode.settleDirectorySync at h
  split at h
  case h_1 => cases h
  case h_2 => cases h
  case h_3 entries hstage =>
    split at h
    case isTrue hcur =>
      cases h
      exact .applied token sync entries hsync hstage hcur rfl rfl
    case isFalse =>
      cases h
      exact .withdrew token sync hsync rfl rfl
  case h_4 message hstage =>
    split at h
    case isTrue hcur =>
      cases h
      exact .degraded token sync message hsync hcur rfl rfl
    case isFalse =>
      cases h
      exact .withdrew token sync hsync rfl rfl

theorem step_moves (h : step s e = some t) : ReadinessMove s t e := by
  obtain ⟨⟨t', out⟩, hh, rfl⟩ := map_eq_some_iff.mp h
  cases e with
  | spawn id =>
    cases hh
    unfold DirectoryNode.spawn
    split <;> exact .still _ rfl rfl
  | registered a | unregistered a =>
    simp only [handle] at hh
    split at hh
    · cases hh
      exact .still _ rfl rfl
    · cases hh
  | receive source m =>
    obtain rfl : (s.receive source m).1 = t' := congrArg Prod.fst (some.inj hh)
    exact receive_move s source m
  | transportConnected n =>
    cases hh
    exact .ensured _ n false rfl rfl
  | join n =>
    simp only [handle] at hh
    split at hh
    · cases hh
    · cases hh
      exact .ensured _ n false rfl rfl
  | transportDisconnected n =>
    simp only [handle] at hh
    split at hh
    · cases hh
    · cases hh
      exact .forgot _ n rfl rfl
  | leave n =>
    cases hh
    exact .forgot _ n rfl rfl
  | disconnectedEntries | peerConnected n =>
    simp only [handle] at hh
    split at hh
    · cases hh
    · cases hh
      exact .still _ rfl rfl
  | lookup a =>
    cases hh
    exact lookup_move s a
  | requestDirectorySync token | failDirectorySync token message =>
    obtain ⟨sync, hsync, hs⟩ := bind_eq_some_iff.mp hh
    split at hs
    · cases hs
      exact .staged _ token sync _ hsync rfl (by simp)
    · cases hs
  | settleDirectorySync token =>
    obtain ⟨sync, hsync, hs⟩ := bind_eq_some_iff.mp hh
    obtain ⟨t'', hsettle, hpair⟩ := map_eq_some_iff.mp hs
    cases hpair
    exact settleDirectorySync_move hsync hsettle
  | enqueueMessage a m =>
    obtain rfl : (s.enqueueMessage a m).1 = t' := congrArg Prod.fst (some.inj hh)
    exact .still _ (enqueueMessage_readiness s a m) rfl
  | _ =>
    cases hh
    exact .still _ rfl rfl

theorem coherent_step (hs : s.readiness.Coherent)
    (h : step s e = some t) : t.readiness.Coherent := by
  cases step_moves h with
  | still _ heq => exact heq ▸ hs
  | ensured _ n b heq => exact heq ▸ Readiness.ensure_coherent hs n _ b
  | forgot _ n heq => exact heq ▸ Readiness.forget_coherent hs n
  | staged _ token sync stage hsync heq => exact heq ▸ Readiness.setStage_coherent hs hsync stage
  | applied token sync entries hsync _ hcur _ heq =>
    exact heq ▸ Readiness.succeed_coherent hs hsync (Bool.and_eq_true_iff.mp hcur).1
  | degraded token sync message _ _ _ heq =>
    exact heq ▸ Readiness.degrade_coherent hs token sync message
  | withdrew token sync hsync _ heq => exact heq ▸ Readiness.withdraw_coherent hs hsync

/-- What a step may do on behalf of a readiness attempt: the entries of a response
are applied by an attempt that is current, with nothing noted for its node since
it began with the identity the peer has now; a node is ready only when the last
thing noted for it is that its current attempt was applied; a superseded attempt
leaves the attempts and the facts alone. -/
structure Isolated (s : DirectoryNode) (e : Event) (t : DirectoryNode) : Prop where
  applies_current : ∀ token, e = .settleDirectorySync token →
    t.directory = s.directory ∨ ∃ sync entries, s.readiness.syncs.get token = some sync ∧
      sync.stage = .answered entries ∧
      t.directory = entries.foldl Directory.applyRemoteEntry s.directory ∧
      s.readiness.holdsToken sync.node token = true ∧
      s.readiness.lastNote sync.node =
        some (.began sync.node token (s.getRemoteConnectionKey sync.node))
  arrival_applies_nothing : ∀ source requestId entries,
    e = .receive source (.directorySyncResponse requestId entries) → t.directory = s.directory
  ready_applied : ∀ node fact, t.readiness.facts.get node = some fact → fact.status = .ready →
    ∃ attempt, t.readiness.attempts.get node = some attempt ∧
      t.readiness.lastNote node = some (.applied node attempt.token)
  superseded_silent : ∀ token sync, attemptOf e = some token →
    s.readiness.syncs.get token = some sync → s.readiness.holdsToken sync.node token = false →
      t.readiness.attempts = s.readiness.attempts ∧ t.readiness.facts = s.readiness.facts

theorem answerDirectorySync_directory (s : DirectoryNode) (requestId : Nat)
    (entries : List RuntimeDirectoryEntry) :
    (s.answerDirectorySync requestId entries).directory = s.directory := by
  unfold answerDirectorySync
  split
  · rfl
  · split <;> rfl

theorem isolated_step (hs : s.readiness.Coherent) (h : step s e = some t) : Isolated s e t where
  applies_current := by
    intro token he
    have hmove := step_moves h
    subst he
    cases hmove with
    | still _ _ hnone => cases hnone
    | ensured _ _ _ _ hnone => cases hnone
    | forgot _ _ _ hnone => cases hnone
    | staged _ _ _ _ _ _ hne => exact absurd rfl (hne token)
    | applied token sync entries hsync hstage hcur hdir _ =>
      obtain ⟨hheld, hkey⟩ := Bool.and_eq_true_iff.mp hcur
      obtain ⟨attempt, hget, rfl⟩ := Readiness.holdsToken_iff.mp hheld
      refine .inr ⟨sync, entries, hsync, hstage, hdir, hheld, ?_⟩
      rw [decide_eq_true_eq.mp hkey]
      exact (hs.running sync.node attempt sync hget hsync).2
    | degraded _ _ _ _ _ hdir _ => exact .inl hdir
    | withdrew _ _ _ hdir _ => exact .inl hdir
  arrival_applies_nothing := by
    rintro source requestId entries rfl
    obtain ⟨⟨t', out⟩, hh, rfl⟩ := map_eq_some_iff.mp h
    cases hh
    exact answerDirectorySync_directory s requestId entries
  ready_applied := (coherent_step hs h).ready
  superseded_silent := by
    intro token sync hof hsync hheld
    cases step_moves h with
    | still _ heq => exact ⟨by rw [heq], by rw [heq]⟩
    | ensured _ _ _ _ hnone => cases hnone.symm.trans hof
    | forgot _ _ _ hnone => cases hnone.symm.trans hof
    | staged _ _ _ _ _ heq => exact ⟨by rw [heq]; rfl, by rw [heq]; rfl⟩
    | applied token' sync' entries hsync' _ hcur _ _ | degraded token' sync' message hsync' hcur _ _ =>
      cases hof
      obtain rfl := some.inj (hsync.symm.trans hsync')
      rw [(Bool.and_eq_true_iff.mp hcur).1] at hheld
      cases hheld
    | withdrew token' sync' hsync' _ heq =>
      obtain rfl := some.inj hof
      obtain rfl := some.inj (hsync.symm.trans hsync')
      rw [Readiness.withdraw_of_superseded (r := s.readiness.finish token') hheld] at heq
      exact ⟨by rw [heq]; rfl, by rw [heq]; rfl⟩

/-- Along every run of a node only current attempts apply what they were answered,
and superseded ones change nothing. -/
theorem attempts_isolated (config : DirectoryConfig) (now : Nat) (events : List Event) :
    Along step Isolated (start config now) events :=
  along_of_invariant (I := fun s => s.readiness.Coherent) (fun _ _ _ => coherent_step)
    (fun _ _ _ => isolated_step) Readiness.empty_coherent events

end ActorWeb.DirectorySync
