import ActorWeb.TransportQuiet
import ActorWeb.Transition

namespace ActorWeb.TransportOwnership

open TransportContract TransportCore TransportQuiet Transition

variable (c : Core)

def failing : Action → Option (String × Nat)
  | .sendSettled job false =>
    match c.jobs job with
    | some (.drainSend nodeAddress p _) => some (nodeAddress, p)
    | some (.controlSend nodeAddress p) => some (nodeAddress, p)
    | _ => none
  | .microtask =>
    match c.microtasks with
    | .retryRejected nodeAddress p :: _ => some (nodeAddress, p)
    | _ => none
  | _ => none

def Spares (a : Action) (c' : Core) : Prop :=
  ∀ nodeAddress p, failing c a = some (nodeAddress, p) → ∀ b q, c.peers.get b = some q → q ≠ p →
    c'.peers.get b = some q ∧ (c'.records q).connected = (c.records q).connected

def Unreplaced (a : Action) : Prop :=
  ∀ nodeAddress p, failing c a = some (nodeAddress, p) → ∀ q, c.peers.get nodeAddress = some q → q = p

theorem foldl_records {α : Type} {f : Core → α → Core} (hf : ∀ c a, (f c a).records = c.records)
    (as : List α) (c : Core) : (as.foldl f c).records = c.records := by
  induction as generalizing c with
  | nil => rfl
  | cons a as ih => exact (ih _).trans (hf c a)

theorem clearTimer_records (t : Option Nat) : (c.clearTimer t).records = c.records := by
  cases t <;> rfl

theorem rejectItem_records (p : Nat) (c : Core) (item : OutboundQueueItem) :
    (rejectItem p c item).records = c.records := by
  unfold rejectItem
  split <;> rfl

theorem rejectItem_peers (p : Nat) (c : Core) (item : OutboundQueueItem) :
    (rejectItem p c item).peers = c.peers := by
  unfold rejectItem
  split <;> rfl

theorem closing_records_ne {p q : Nat} (h : q ≠ p) : (closing c p).records q = c.records q := by
  have hheartbeat : (clearHeartbeat c p).records q = c.records q :=
    (Core.modifyRecord_records_ne _ _ h).trans
      (congrFun ((clearTimer_records _ _).trans (clearTimer_records c _)) q)
  have hacks : (clearPendingAcks (clearHeartbeat c p) p).records q = (clearHeartbeat c p).records q :=
    (Core.modifyRecord_records_ne _ _ h).trans (congrFun (foldl_records (fun c _ => clearTimer_records c _) _ _) q)
  have hreject : (rejectQueuedFrames (clearPendingAcks (clearHeartbeat c p) p) p).records q =
      (clearPendingAcks (clearHeartbeat c p) p).records q :=
    (congrFun (foldl_records (rejectItem_records p) _ _) q).trans (Core.modifyRecord_records_ne _ _ h)
  exact hreject.trans (hacks.trans hheartbeat)

theorem closePeer_records_ne (a : String) {p q : Nat} (emitDisconnected : Bool) (h : q ≠ p) :
    (closePeer c a p emitDisconnected).records q = c.records q := by
  have hclosed : (closePeer c a p false).records q = c.records q :=
    (Core.modifyRecord_records_ne (closing c p) (fun r => { r with connected := false }) h).trans
      (closing_records_ne c h)
  cases emitDisconnected with
  | false => exact hclosed
  | true => exact hclosed

theorem closePeer_peers (a : String) (p : Nat) (emitDisconnected : Bool) :
    (closePeer c a p emitDisconnected).peers = c.peers.delete a := by
  have hclosed : (closePeer c a p false).peers = c.peers.delete a :=
    congrArg (OrderedMap.delete · a) (closing_peers c p)
  cases emitDisconnected with
  | false => exact hclosed
  | true => exact hclosed

theorem disconnect_get (a b : String) :
    (disconnect c a).peers.get b = if b = a then none else c.peers.get b := by
  unfold disconnect
  split
  case h_1 h =>
    split
    case isTrue hb => rw [hb, h]
    case isFalse => rfl
  case h_2 p h => rw [closePeer_peers, OrderedMap.get_delete]

theorem disconnect_records {a : String} {q : Nat} (h : c.peers.get a ≠ some q) :
    (disconnect c a).records q = c.records q := by
  unfold disconnect
  split
  case h_1 => rfl
  case h_2 p hp =>
    refine closePeer_records_ne c a true ?_
    rintro rfl
    exact h hp

theorem step_failing {c c' : Core} {a : Action} {nodeAddress : String} {p : Nat}
    (hf : failing c a = some (nodeAddress, p)) (h : step c a = some c') :
    (∀ b, c'.peers.get b = if b = nodeAddress then none else c.peers.get b) ∧
      ∀ q, q ≠ p → c.peers.get nodeAddress ≠ some q → c'.records q = c.records q := by
  unfold failing at hf
  split at hf
  case h_1 job =>
    split at hf
    case h_1 a p' item hjob =>
      obtain ⟨rfl, rfl⟩ : a = nodeAddress ∧ p' = p := by simpa using hf
      simp only [step, hjob, Option.some.injEq] at h
      subst h
      constructor
      · intro b
        refine (disconnect_get _ a b).trans ?_
        rw [rejectItem_peers]
        rfl
      · intro q hq hother
        refine (Core.modifyRecord_records_ne _ (fun r => { r with outboundFlushing := false }) hq).trans
          ((disconnect_records _ ?_).trans ?_)
        · rw [rejectItem_peers]
          exact hother
        · rw [rejectItem_records]
          rfl
    case h_2 a p' hjob =>
      obtain ⟨rfl, rfl⟩ : a = nodeAddress ∧ p' = p := by simpa using hf
      simp only [step, hjob, Option.some.injEq] at h
      subst h
      exact ⟨fun b => disconnect_get _ a b, fun q _ hother => disconnect_records _ hother⟩
    case h_3 => cases hf
  case h_2 =>
    split at hf
    case h_1 a p' rest hmicrotasks =>
      obtain ⟨rfl, rfl⟩ : a = nodeAddress ∧ p' = p := by simpa using hf
      simp only [step, hmicrotasks, Option.some.injEq] at h
      subst h
      exact ⟨fun b => disconnect_get _ a b, fun q _ hother => disconnect_records _ hother⟩
    case h_2 => cases hf
  case h_3 => cases hf

theorem spares_iff_unreplaced {c c' : Core} {a : Action} (h : step c a = some c') :
    Spares c a c' ↔ Unreplaced c a := by
  constructor
  · intro hs nodeAddress p hf q hq
    by_contra hne
    have hkept := (hs nodeAddress p hf nodeAddress q hq hne).1
    rw [(step_failing hf h).1, if_pos rfl] at hkept
    cases hkept
  · intro hu nodeAddress p hf b q hq hne
    obtain ⟨hpeers, hrecords⟩ := step_failing hf h
    have hb : b ≠ nodeAddress := by
      rintro rfl
      exact hne (hu b p hf q hq)
    refine ⟨by rw [hpeers, if_neg hb, hq], ?_⟩
    rw [hrecords q hne fun hother => hne (hu nodeAddress p hf q hother)]

/-- Late failures leave the registered peers alone in exactly those runs in which no
record fails after another one took its place. -/
theorem spares_iff_no_replaced_record_fails (config : Config) (as : List Action) :
    Along step Spares (create config) as ↔ Guarded step Unreplaced (create config) as :=
  have htrue : ∀ c a c', True → step c a = some c' → True := fun _ _ _ _ _ => trivial
  along_congr htrue (fun _ _ _ _ h => spares_iff_unreplaced h) trivial as

section Replacement

/-- A second connection replaces the first while a frame of the first is still being sent. -/
def replacedRun : List Action :=
  [.acceptInbound (linkFrom identityB) [], .send "b" ⟨"user.message", "hello"⟩,
    .acceptInbound (linkFrom identityB) [], .sendSettled 0 false]

theorem replacedRun_closes_successor : ¬ Along step Spares (create nodeA) replacedRun := by
  intro h
  obtain ⟨-, h⟩ := h _ rfl
  obtain ⟨-, h⟩ := h _ rfl
  obtain ⟨-, h⟩ := h _ rfl
  obtain ⟨hspares, -⟩ := h _ rfl
  have hkept := (hspares "b" 0 rfl "b" 1 rfl (by decide)).1
  exact absurd hkept (by decide)

end Replacement

end ActorWeb.TransportOwnership
