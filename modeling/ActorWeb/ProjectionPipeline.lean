import ActorWeb.RemoteProjection
import Mathlib.Data.List.Perm.Subperm

namespace ActorWeb

open List

variable {Node Value : Type}

namespace WatcherNode

variable {n m : WatcherNode Value}

def view (n : WatcherNode Value) : RemoteView Value := n.getOrCreateRemoteProjectionWatcher.view

/-- What an input tells the watcher; a response that no request waits for tells nothing. -/
def tellsFor (requests : List RequestId) : Option (ProjectionFrame Value) → Option (Told Value)
  | some (.snapshotUpdate payload) => some (.snapshot payload)
  | some (.eventUpdate sequence) => some (.event sequence)
  | some (.snapshotFetchResponse requestId payload) =>
    if requestId ∈ requests then some (.answer requestId.kind payload) else none
  | none => none

def waiting (n : WatcherNode Value) : List (Told Value) :=
  n.answered.map fun a => .answer a.1 a.2

/-- What the watcher has still to be told: the answers whose continuation has not run, then
what is on its way. -/
def coming (n : WatcherNode Value) : List (Told Value) :=
  n.waiting ++ n.toWatcher.pending.filterMap (tellsFor n.requests)

def fetchOf : Option ProjectionRequest → Option RequestId
  | some (.snapshotFetch requestId) => some requestId
  | _ => none

def responseOf : Option (ProjectionFrame Value) → Option RequestId
  | some (.snapshotFetchResponse requestId _) => some requestId
  | _ => none

def underWay (n : WatcherNode Value) : List RequestId :=
  n.toPublisher.pending.filterMap fetchOf ++ n.toWatcher.pending.filterMap responseOf

structure Unique (n : WatcherNode Value) : Prop where
  nodup : n.underWay.Nodup
  older : ∀ requestId ∈ n.underWay, requestId.number < n.nextRequest

variable {id : RequestId}
variable {w : RemoteProjectionWatcher Value}
variable {toPublisher : Channel ProjectionRequest}

theorem tellsFor_eq_some {requests : List RequestId} {input : Option (ProjectionFrame Value)}
    {payload : SnapshotProjection Value}
    (h : input = some (.snapshotFetchResponse id payload)) (hid : id ∈ requests) :
    tellsFor requests input = some (.answer id.kind payload) := by
  rw [h]
  exact if_pos hid

theorem filterMap_tellsFor_congr {requests requests' : List RequestId}
    {inputs : List (Option (ProjectionFrame Value))}
    (h : ∀ id ∈ inputs.filterMap responseOf, id ∈ requests ↔ id ∈ requests') :
    inputs.filterMap (tellsFor requests) = inputs.filterMap (tellsFor requests') := by
  refine filterMap_congr fun input hinput => ?_
  rcases input with _ | frame
  · rfl
  · cases frame with
    | snapshotUpdate payload => rfl
    | eventUpdate sequence => rfl
    | snapshotFetchResponse id payload =>
      have hid := h id (mem_filterMap.mpr ⟨_, hinput, rfl⟩)
      simp only [tellsFor, hid]

theorem Unique.of_subperm (h : Unique n) (hsub : m.underWay.Subperm n.underWay)
    (hnext : n.nextRequest ≤ m.nextRequest) : Unique m := by
  obtain ⟨ids, hperm, hids⟩ := hsub
  refine ⟨hperm.nodup_iff.mp (hids.nodup h.nodup), fun id hid => ?_⟩
  exact Nat.lt_of_lt_of_le (h.older id (hids.subset (hperm.mem_iff.mpr hid))) hnext

theorem Unique.setWatcher (h : Unique n) (w : RemoteProjectionWatcher Value) :
    Unique (n.setWatcher w) := ⟨h.nodup, h.older⟩

theorem send_underWay {request : ProjectionRequest} (h : fetchOf (some request) = none) :
    (n.toPublisher.send request).pending.filterMap fetchOf =
      n.toPublisher.pending.filterMap fetchOf := by
  rw [Channel.pending_send, filterMap_append, filterMap_cons_none h, filterMap_nil,
    append_nil]

theorem Unique.send (h : Unique n) {request : ProjectionRequest}
    (hrequest : fetchOf (some request) = none) : Unique (n.sendTransportMessage request) := by
  unfold sendTransportMessage
  split
  case isTrue =>
    have hsame : ({ n with toPublisher := n.toPublisher.send request } : WatcherNode Value).underWay =
        n.underWay := congrArg (· ++ _) (send_underWay hrequest)
    exact ⟨hsame ▸ h.nodup, hsame ▸ h.older⟩
  case isFalse => exact h

theorem Unique.request (h : Unique n) (kind : FetchKind) :
    Unique (n.requestRemoteSnapshotProjection kind) := by
  unfold requestRemoteSnapshotProjection
  split
  case isTrue =>
    have hperm : (WatcherNode.underWay { n with
        requests := n.requests ++ [⟨n.nextRequest, kind⟩]
        nextRequest := n.nextRequest + 1
        toPublisher := n.toPublisher.send (.snapshotFetch ⟨n.nextRequest, kind⟩) }).Perm
        (⟨n.nextRequest, kind⟩ :: n.underWay) := by
      simp only [underWay, Channel.pending_send, filterMap_append, append_assoc]
      exact perm_middle
    constructor
    · refine hperm.nodup_iff.mpr (nodup_cons.mpr ⟨fun hm => ?_, h.nodup⟩)
      exact Nat.lt_irrefl _ (h.older _ hm)
    · intro id hid
      obtain rfl | hid := mem_cons.mp (hperm.mem_iff.mp hid)
      · exact Nat.lt_succ_self _
      · exact Nat.lt_succ_of_lt (h.older id hid)
  case isFalse => exact ⟨h.nodup, h.older⟩

theorem Unique.replaySend (h : Unique n) {request : ProjectionRequest}
    (hrequest : fetchOf (some request) = none) (stage : ReplayStage) :
    Unique (n.replaySend request stage) := by
  unfold WatcherNode.replaySend
  split
  case isTrue =>
    have hsame : (WatcherNode.underWay { n with
        toPublisher := n.toPublisher.send request, replays := n.replays ++ [stage] }) =
        n.underWay := congrArg (· ++ _) (send_underWay hrequest)
    exact ⟨hsame ▸ h.nodup, hsame ▸ h.older⟩
  case isFalse => exact ⟨h.nodup, h.older⟩

theorem Unique.replayEvents (h : Unique n) (w : RemoteProjectionWatcher Value) :
    Unique (n.replayEvents w) := by
  unfold WatcherNode.replayEvents
  split
  case isTrue => exact h.replaySend rfl _
  case isFalse => exact h.request _

theorem Unique.replay (h : Unique n) (w : RemoteProjectionWatcher Value) :
    Unique (n.replayRemoteProjectionWatcher w) := by
  unfold replayRemoteProjectionWatcher
  split
  case isTrue => exact (h.setWatcher _).replaySend rfl _
  case isFalse => exact (h.setWatcher _).replayEvents _

structure Quiet (n m : WatcherNode Value) : Prop where
  view : m.view = n.view
  answered : m.answered = n.answered
  toWatcher : m.toWatcher = n.toWatcher
  requests : ∀ id ∈ n.toWatcher.pending.filterMap responseOf, id ∈ m.requests ↔ id ∈ n.requests

theorem Quiet.coming (h : Quiet n m) : m.coming = n.coming := by
  simp only [WatcherNode.coming, waiting, h.answered, h.toWatcher]
  rw [filterMap_tellsFor_congr h.requests]

theorem Quiet.trans {l : WatcherNode Value} (h : Quiet n m) (h' : Quiet m l) : Quiet n l where
  view := h'.view.trans h.view
  answered := h'.answered.trans h.answered
  toWatcher := h'.toWatcher.trans h.toWatcher
  requests := fun id hid => (h'.requests id (h.toWatcher ▸ hid)).trans (h.requests id hid)

theorem Quiet.of_eq (hview : m.view = n.view) (hanswered : m.answered = n.answered)
    (htoWatcher : m.toWatcher = n.toWatcher) (hrequests : m.requests = n.requests) : Quiet n m :=
  ⟨hview, hanswered, htoWatcher, fun _ _ => by rw [hrequests]⟩

theorem quiet_setWatcher (h : w.view = n.view) : Quiet n (n.setWatcher w) := .of_eq h rfl rfl rfl

theorem quiet_send (n : WatcherNode Value) (request : ProjectionRequest) :
    Quiet n (n.sendTransportMessage request) := by
  unfold sendTransportMessage
  split <;> exact .of_eq rfl rfl rfl rfl

theorem quiet_resend (h : w.view = n.view)
    (request : ProjectionRequest) : Quiet n ((n.setWatcher w).sendTransportMessage request) :=
  (quiet_setWatcher h).trans (quiet_send _ request)

theorem quiet_request (h : Unique n) (kind : FetchKind) :
    Quiet n (n.requestRemoteSnapshotProjection kind) := by
  unfold requestRemoteSnapshotProjection
  split
  case isTrue =>
    refine ⟨rfl, rfl, rfl, fun id hid => ?_⟩
    have hlt := h.older id (mem_append_right _ hid)
    have hne : id ≠ ⟨n.nextRequest, kind⟩ := fun h => Nat.lt_irrefl _ (h ▸ hlt)
    simp only [mem_append, mem_singleton, hne, or_false]
  case isFalse => exact .of_eq rfl rfl rfl rfl

theorem quiet_replaySend (n : WatcherNode Value) (request : ProjectionRequest)
    (stage : ReplayStage) : Quiet n (n.replaySend request stage) := by
  unfold replaySend
  split <;> exact .of_eq rfl rfl rfl rfl

theorem quiet_replayEvents (h : Unique n) (w : RemoteProjectionWatcher Value) :
    Quiet n (n.replayEvents w) := by
  unfold replayEvents
  split
  case isTrue => exact quiet_replaySend n _ _
  case isFalse => exact quiet_request h _

theorem quiet_replay (h : Unique n) (hw : w.view = n.view) :
    Quiet n (n.replayRemoteProjectionWatcher w) := by
  have hset : Quiet n (n.setWatcher { w with state := .replaying }) := quiet_setWatcher hw
  unfold replayRemoteProjectionWatcher
  split
  case isTrue => exact hset.trans (quiet_replaySend _ _ _)
  case isFalse => exact hset.trans (quiet_replayEvents (h.setWatcher _) _)

theorem Unique.step {a : NodeAction} (hu : Unique n) (h : n.step a = some m) : Unique m := by
  cases a with
  | subscribeSnapshots | subscribeEvents =>
    cases h
    simp only [subscribeSnapshots, subscribeEvents]
    split
    case isTrue => exact hu.setWatcher _
    case isFalse => exact (hu.setWatcher _).send rfl
  | unsubscribeSnapshots | unsubscribeEvents =>
    cases h
    simp only [unsubscribeSnapshots, unsubscribeEvents]
    split
    case isTrue => exact (hu.setWatcher _).send rfl
    case isFalse => exact hu
  | prime =>
    cases h
    exact (hu.setWatcher _).request _
  | attend =>
    cases h
    have hattended : Unique { n with attended := n.connected } := ⟨hu.nodup, hu.older⟩
    simp only [attend]
    split
    case h_1 => exact hattended
    case h_2 w _ => exact hattended.replay w
  | advanceReplay i =>
    obtain ⟨stage, -, rfl⟩ := Option.map_eq_some_iff.mp h
    have hless : Unique { n with replays := n.replays.eraseIdx i } := ⟨hu.nodup, hu.older⟩
    cases stage with
    | sentSnapshotSubscribe => exact hless.replayEvents _
    | sentEventSubscribe => exact hless.request _
  | failReplay | failRequest =>
    simp only [WatcherNode.step, failReplay, failRequest] at h
    split at h
    case isTrue =>
      cases h
      exact ⟨hu.nodup, hu.older⟩
    case isFalse => cases h
  | resume =>
    simp only [WatcherNode.step, resume] at h
    split at h
    case h_1 => cases h
    case h_2 =>
      cases h
      exact ⟨hu.nodup, hu.older⟩
  | resumeFailed i =>
    obtain ⟨kind, -, rfl⟩ := Option.map_eq_some_iff.mp h
    exact ⟨hu.nodup, hu.older⟩
  | receive =>
    obtain ⟨⟨input, toWatcher⟩, hreceive, rfl⟩ := Option.map_eq_some_iff.mp h
    have hless : Unique { n with toWatcher := toWatcher } := by
      refine hu.of_subperm (List.Sublist.subperm ?_) (Nat.le_refl _)
      refine List.Sublist.append_left (List.Sublist.filterMap _ ?_) _
      rw [Channel.receive_pending hreceive]
      exact sublist_cons_self _ _
    rcases input with _ | frame
    · exact ⟨hless.nodup, hless.older⟩
    · cases frame with
      | snapshotUpdate payload => exact hless.setWatcher _
      | eventUpdate sequence => exact hless.setWatcher _
      | snapshotFetchResponse id payload =>
        simp only [handle]
        split
        case isTrue => exact ⟨hless.nodup, hless.older⟩
        case isFalse => exact hless
  | connect =>
    simp only [WatcherNode.step, connect] at h
    split at h
    case isTrue => cases h
    case isFalse =>
      cases h
      exact ⟨hu.nodup, hu.older⟩
  | disconnect k l =>
    simp only [WatcherNode.step, disconnect] at h
    split at h
    case isTrue =>
      cases h
      refine hu.of_subperm (List.Sublist.subperm (List.Sublist.append ?_ ?_)) (Nat.le_refl _)
      · obtain ⟨kept, lost, hpending, hclose⟩ := n.toPublisher.close_pending k
        rw [hclose, hpending, filterMap_append, filterMap_append]
        exact List.Sublist.append_left (nil_sublist _) _
      · obtain ⟨kept, lost, hpending, hclose⟩ := n.toWatcher.close_pending l
        rw [hclose, hpending, filterMap_append, filterMap_append]
        exact List.Sublist.append_left (nil_sublist _) _
    case isFalse => cases h

def updateSequence : ProjectionFrame Value → Option Nat
  | .snapshotUpdate payload => some payload.sequence
  | .eventUpdate sequence => some sequence
  | .snapshotFetchResponse _ _ => none

/-- No update overtakes an answer whose continuation has still to run, but one that is
newer neither than the watcher nor than the answer; and no call gives up while its
answer is on its way. -/
def Prompt (n : WatcherNode Value) : NodeAction → Prop
  | .receive => ∀ frame toWatcher, n.toWatcher.receive = some (some frame, toWatcher) →
      ∀ sequence, updateSequence frame = some sequence → n.answered = [] ∨
        n.view.isStale sequence = true ∧ ∀ a ∈ n.answered, sequence ≤ a.2.sequence
  | .failRequest requestId => requestId ∉ n.toWatcher.pending.filterMap responseOf
  | _ => True

/-- What a step does to what a watcher shows and to what it has still to be told. -/
inductive Moves (n m : WatcherNode Value) : Prop
  | quiet (hcoming : m.coming = n.coming) (hview : m.view = n.view)
  | took (x : Told Value) (hcoming : n.coming = x :: m.coming) (hview : m.view = n.view.take x)
  | dropped (x : Told Value) (rest : List (Told Value)) (hcoming : n.coming = n.waiting ++ x :: rest)
      (hrest : m.coming = n.waiting ++ rest) (hview : m.view = n.view)
      (hupdate : x.isUpdate = true) (hstale : n.view.isStale x.sequence = true)
      (hwaiting : ∀ y ∈ n.waiting, x.sequence ≤ y.sequence)
  | lost (rest : List (Told Value)) (hconnected : m.connected = false) (hview : m.view = n.view)
      (hcoming : n.coming = m.coming ++ rest)

theorem Quiet.moves (h : Quiet n m) : Moves n m := .quiet h.coming h.view

theorem moves_update {x : Told Value} {frame : ProjectionFrame Value}
    {toWatcher : Channel (ProjectionFrame Value)}
    (hreceive : n.toWatcher.receive = some (some frame, toWatcher))
    (htells : ∀ requests, tellsFor requests (some frame) = some x)
    (hview : w.view = n.view.take x) (hupdate : x.isUpdate = true)
    (hstale : n.view.isStale x.sequence = true → n.view.take x = n.view)
    (hprompt : n.answered = [] ∨
      n.view.isStale x.sequence = true ∧ ∀ a ∈ n.answered, x.sequence ≤ a.2.sequence) :
    Moves n ({ n with toWatcher := toWatcher }.setWatcher w) := by
  have hcoming : n.coming =
      n.waiting ++ x :: toWatcher.pending.filterMap (tellsFor n.requests) := by
    rw [coming, Channel.receive_pending hreceive, filterMap_cons_some (htells _)]
  obtain hnone | ⟨hs, hanswered⟩ := hprompt
  · refine .took x ?_ hview
    rw [hcoming]
    simp only [coming, waiting, setWatcher, hnone, map_nil, nil_append]
  · refine .dropped x _ hcoming rfl (hview.trans (hstale hs)) hupdate hs fun y hy => ?_
    obtain ⟨a, ha, rfl⟩ := mem_map.mp hy
    exact hanswered a ha

theorem moves_receive (hu : Unique n) (hp : Prompt n .receive) (h : n.receive = some m) :
    Moves n m := by
  obtain ⟨⟨input, toWatcher⟩, hreceive, rfl⟩ := Option.map_eq_some_iff.mp h
  have hpending := Channel.receive_pending hreceive
  rcases input with _ | frame
  · refine .quiet ?_ ?_
    · rw [coming, coming, hpending, filterMap_cons_none rfl]
      rfl
    · cases hw : n.watcher <;> simp [view, handle, getOrCreateRemoteProjectionWatcher, hw,
        RemoteProjectionWatcher.createRemoteProjectionWatcher]
  · cases frame with
    | snapshotUpdate payload | eventUpdate sequence =>
      refine moves_update hreceive (fun _ => rfl) rfl rfl (fun hs => if_pos hs) ?_
      exact hp _ _ hreceive _ rfl
    | snapshotFetchResponse id payload =>
      have hnodup := (nodup_append.mp hu.nodup).2.1
      rw [hpending, filterMap_cons_some (rfl : responseOf _ = some id)] at hnodup
      have hid := (nodup_cons.mp hnodup).1
      simp only [handle]
      split
      case isTrue hmem =>
        refine .quiet ?_ rfl
        rw [coming, coming, hpending, filterMap_cons_some (tellsFor_eq_some rfl hmem)]
        simp only [waiting, map_append, map_cons, map_nil, append_assoc,
          cons_append, nil_append]
        congr 2
        refine filterMap_tellsFor_congr fun id' hid' => ?_
        have hne : id' ≠ id := fun h => hid (h ▸ hid')
        simp [hne]
      case isFalse hmem =>
        refine .quiet ?_ rfl
        have hnone : tellsFor n.requests (some (.snapshotFetchResponse id payload)) = none :=
          if_neg hmem
        rw [coming, coming, hpending, filterMap_cons_none hnone]
        rfl

theorem moves_step {a : NodeAction} (hu : Unique n) (hp : Prompt n a) (h : n.step a = some m) :
    Moves n m := by
  cases a with
  | subscribeSnapshots | subscribeEvents =>
    cases h
    simp only [subscribeSnapshots, subscribeEvents]
    split
    case isTrue => exact Quiet.moves (quiet_setWatcher rfl)
    case isFalse => exact Quiet.moves (quiet_resend (by rfl) _)
  | unsubscribeSnapshots | unsubscribeEvents =>
    cases h
    simp only [unsubscribeSnapshots, unsubscribeEvents]
    split
    case isTrue => exact Quiet.moves (quiet_resend (by rfl) _)
    case isFalse => exact Quiet.moves (.of_eq rfl rfl rfl rfl)
  | prime =>
    cases h
    exact Quiet.moves ((quiet_setWatcher rfl).trans (quiet_request (hu.setWatcher _) _))
  | attend =>
    cases h
    have hattended : Quiet n { n with attended := n.connected } := .of_eq rfl rfl rfl rfl
    have hu' : Unique { n with attended := n.connected } := ⟨hu.nodup, hu.older⟩
    simp only [attend]
    split
    case h_1 => exact hattended.moves
    case h_2 w hw =>
      refine (hattended.trans (quiet_replay hu' ?_)).moves
      simp only [view, getOrCreateRemoteProjectionWatcher, hw, Option.getD_some]
  | advanceReplay i =>
    obtain ⟨stage, -, rfl⟩ := Option.map_eq_some_iff.mp h
    have hless : Quiet n { n with replays := n.replays.eraseIdx i } := .of_eq rfl rfl rfl rfl
    have hu' : Unique { n with replays := n.replays.eraseIdx i } := ⟨hu.nodup, hu.older⟩
    cases stage with
    | sentSnapshotSubscribe => exact (hless.trans (quiet_replayEvents hu' _)).moves
    | sentEventSubscribe => exact (hless.trans (quiet_request hu' _)).moves
  | failReplay i =>
    simp only [WatcherNode.step, failReplay] at h
    split at h
    case isTrue =>
      cases h
      exact Quiet.moves (.of_eq rfl rfl rfl rfl)
    case isFalse => cases h
  | failRequest id =>
    simp only [WatcherNode.step, failRequest] at h
    split at h
    case isTrue =>
      cases h
      refine Quiet.moves ⟨rfl, rfl, rfl, fun id' hid' => ?_⟩
      have hne : id' ≠ id := fun h => hp (h ▸ hid')
      simp [hne]
    case isFalse => cases h
  | resume =>
    simp only [WatcherNode.step, resume] at h
    split at h
    case h_1 => cases h
    case h_2 kind projection answered hanswered =>
      cases h
      refine .took (.answer kind projection) ?_ rfl
      simp only [coming, waiting, hanswered, map_cons, cons_append]
      rfl
  | resumeFailed i =>
    obtain ⟨kind, -, rfl⟩ := Option.map_eq_some_iff.mp h
    refine Quiet.moves (.of_eq ?_ rfl rfl rfl)
    cases kind <;> rfl
  | receive => exact moves_receive hu hp h
  | connect =>
    simp only [WatcherNode.step, connect] at h
    split at h
    case isTrue => cases h
    case isFalse =>
      cases h
      refine Quiet.moves (.of_eq ?_ rfl rfl rfl)
      cases hw : n.watcher <;> simp [view, getOrCreateRemoteProjectionWatcher, hw,
        RemoteProjectionWatcher.createRemoteProjectionWatcher]
  | disconnect k l =>
    simp only [WatcherNode.step, disconnect] at h
    split at h
    case isTrue =>
      cases h
      obtain ⟨kept, lost, hpending, hclose⟩ := n.toWatcher.close_pending l
      refine .lost ((lost.map some).filterMap (tellsFor n.requests)) rfl ?_ ?_
      · cases hw : n.watcher <;> simp [view, getOrCreateRemoteProjectionWatcher, hw,
          RemoteProjectionWatcher.createRemoteProjectionWatcher]
      · simp only [coming, hpending, hclose, filterMap_append, append_assoc]
        rfl
    case isFalse => cases h

theorem deliver_told (n : WatcherNode Value) (frame : ProjectionFrame Value) :
    (n.deliver frame).view = n.view ∧ (n.deliver frame).coming = n.coming ++
      (if n.connected then tellsFor n.requests (some frame) else none).toList := by
  unfold deliver
  split
  case isTrue =>
    refine ⟨rfl, ?_⟩
    have hlast : ([some frame].filterMap (tellsFor n.requests)) =
        (tellsFor n.requests (some frame)).toList := by
      cases htells : tellsFor n.requests (some frame) with
      | none => exact filterMap_cons_none htells
      | some x => exact filterMap_cons_some htells
    rw [coming, coming, append_assoc, Channel.pending_send, filterMap_append, hlast]
    rfl
  case isFalse => exact ⟨rfl, (append_nil _).symm⟩

theorem deliver_underWay (n : WatcherNode Value) {frame : ProjectionFrame Value}
    (h : responseOf (some frame) = none) : (n.deliver frame).underWay = n.underWay := by
  unfold deliver
  split
  case isTrue =>
    simp only [underWay, Channel.pending_send, filterMap_append, filterMap_cons_none h,
      filterMap_nil, append_nil]
  case isFalse => rfl

theorem deliver_nextRequest (n : WatcherNode Value) (frame : ProjectionFrame Value) :
    (n.deliver frame).nextRequest = n.nextRequest := by
  unfold deliver
  split <;> rfl

theorem deliver_response (n : WatcherNode Value)
    (h : n.toPublisher.receive = some (some (.snapshotFetch id), toPublisher))
    (payload : SnapshotProjection Value) :
    (deliver { n with toPublisher } (.snapshotFetchResponse id payload)).underWay.Subperm
      n.underWay := by
  have hunder : n.underWay = id :: (toPublisher.pending.filterMap fetchOf ++
      n.toWatcher.pending.filterMap responseOf) := by
    rw [underWay, Channel.receive_pending h, filterMap_cons_some (rfl : fetchOf _ = some id),
      cons_append]
  rw [hunder]
  unfold deliver
  split
  case isTrue =>
    refine List.Perm.subperm ?_
    simp only [underWay, Channel.pending_send, filterMap_append]
    rw [filterMap_cons_some (rfl : responseOf (some (.snapshotFetchResponse id payload)) = some id),
      filterMap_nil, ← append_assoc]
    exact perm_append_singleton _ _
  case isFalse => exact (sublist_cons_self _ _).subperm

theorem Unique.deliver (h : Unique n) {frame : ProjectionFrame Value}
    (hframe : responseOf (some frame) = none) : Unique (n.deliver frame) :=
  h.of_subperm (by rw [deliver_underWay n hframe]) (Nat.le_of_eq (deliver_nextRequest n frame).symm)

theorem Unique.receiveRequest (h : Unique n) {input : Option ProjectionRequest}
    (hreceive : n.toPublisher.receive = some (input, toPublisher)) :
    Unique { n with toPublisher } := by
  refine h.of_subperm (List.Sublist.subperm ?_) (Nat.le_refl _)
  refine List.Sublist.append_right (List.Sublist.filterMap _ ?_) _
  rw [Channel.receive_pending hreceive]
  exact sublist_cons_self _ _

theorem Unique.respond (h : Unique n)
    (hreceive : n.toPublisher.receive = some (some (.snapshotFetch id), toPublisher))
    (payload : SnapshotProjection Value) :
    Unique (WatcherNode.deliver { n with toPublisher } (.snapshotFetchResponse id payload)) :=
  h.of_subperm (deliver_response n hreceive payload)
    (Nat.le_of_eq (deliver_nextRequest { n with toPublisher } _).symm)

end WatcherNode

end ActorWeb
