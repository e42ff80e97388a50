import ActorWeb.ProjectionSteps
import ActorWeb.ProjectionViews

namespace ActorWeb

open Option hiding sequence

open List

namespace RemoteView

variable {Value : Type} {v : RemoteView Value} {x : Told Value}

def Fresh (v : RemoteView Value) (x : Told Value) : Prop :=
  x.isCompared = true → ∀ shown ∈ x.carries,
    v.isStale x.sequence = false ∨ v.shown.snapshot = shown.snapshot

instance [DecidableEq Value] (v : RemoteView Value) (x : Told Value) : Decidable (Fresh v x) :=
  inferInstanceAs (Decidable (x.isCompared = true → ∀ shown ∈ x.carries,
    v.isStale x.sequence = false ∨ v.shown.snapshot = shown.snapshot))

theorem take_fresh (h : Fresh v x) {shown : Stamped Value} (hshown : x.carries = some shown) :
    (v.take x).shown.snapshot = shown.snapshot := by
  cases x with
  | event sequence => cases hshown
  | snapshot payload =>
    cases hshown
    simp only [take, handleRemoteSnapshotProjection]
    split
    case isTrue hstale =>
      refine (h rfl payload.shown rfl).resolve_left fun hfresh => ?_
      exact Bool.noConfusion (hfresh.symm.trans hstale)
    case isFalse => rfl
  | answer kind projection =>
    cases hshown
    cases kind with
    | prime => rfl
    | replay =>
      simp only [take, fetched, handleRemoteSnapshotProjection]
      split
      case isTrue hstale =>
        refine (h rfl projection.shown rfl).resolve_left fun hfresh => ?_
        exact Bool.noConfusion (hfresh.symm.trans hstale)
      case isFalse => rfl

theorem take_event (v : RemoteView Value) (sequence : Nat) :
    (v.take (.event sequence)).shown = v.shown := by
  simp only [take, handleRemoteEventProjection]
  split <;> rfl

end RemoteView

namespace WatcherNode

variable {Value : Type} {n m : WatcherNode Value}

def isSubscription : Option ProjectionRequest → Bool
  | some .snapshotSubscribe | some .snapshotUnsubscribe | none => true
  | _ => false

def subscriptions (n : WatcherNode Value) : List (Option ProjectionRequest) :=
  n.toPublisher.pending.filter isSubscription

/-- The node is connected and its watcher subscribed to snapshots; after a reconnection this
counts from the replay on. -/
structure Following (n : WatcherNode Value) : Prop where
  connected : n.connected = true
  attended : n.attended = true
  subscribed : n.getOrCreateRemoteProjectionWatcher.snapshotSubscribed = true

def Steady (n : WatcherNode Value) : Prop := n.Following ∧ n.subscriptions = []

def Subscribing (n : WatcherNode Value) : Prop :=
  n.subscriptions.getLast? = some (some .snapshotSubscribe)

structure Same (n m : WatcherNode Value) : Prop where
  connected : m.connected = n.connected
  attended : m.attended = n.attended
  subscribed : m.getOrCreateRemoteProjectionWatcher.snapshotSubscribed =
    n.getOrCreateRemoteProjectionWatcher.snapshotSubscribed
  subscriptions : m.subscriptions = n.subscriptions

theorem Same.refl (n : WatcherNode Value) : Same n n := ⟨rfl, rfl, rfl, rfl⟩

theorem Same.trans {l : WatcherNode Value} (h : Same n m) (h' : Same m l) : Same n l :=
  ⟨h'.connected.trans h.connected, h'.attended.trans h.attended, h'.subscribed.trans h.subscribed,
    h'.subscriptions.trans h.subscriptions⟩

theorem Same.following (h : Same n m) (hm : m.Following) : n.Following :=
  ⟨h.connected.symm.trans hm.connected, h.attended.symm.trans hm.attended,
    h.subscribed.symm.trans hm.subscribed⟩

theorem same_setWatcher {w : RemoteProjectionWatcher Value}
    (h : w.snapshotSubscribed = n.getOrCreateRemoteProjectionWatcher.snapshotSubscribed) :
    Same n (n.setWatcher w) := ⟨rfl, rfl, h, rfl⟩

theorem send_subscriptions (n : WatcherNode Value) (request : ProjectionRequest) :
    (n.toPublisher.send request).pending.filter isSubscription =
      n.subscriptions ++ [some request].filter isSubscription := by
  rw [Channel.pending_send, filter_append, subscriptions]

theorem same_send (n : WatcherNode Value) {request : ProjectionRequest}
    (h : isSubscription (some request) = false) : Same n (n.sendTransportMessage request) := by
  unfold sendTransportMessage
  split
  case isTrue =>
    refine ⟨rfl, rfl, rfl, (send_subscriptions n request).trans ?_⟩
    simp [h]
  case isFalse => exact .refl n

theorem same_deliver (n : WatcherNode Value) (frame : ProjectionFrame Value) :
    Same n (n.deliver frame) := by
  unfold deliver
  split <;> exact ⟨rfl, rfl, rfl, rfl⟩

theorem same_request (n : WatcherNode Value) (kind : FetchKind) :
    Same n (n.requestRemoteSnapshotProjection kind) := by
  unfold requestRemoteSnapshotProjection
  split
  case isTrue =>
    refine ⟨rfl, rfl, rfl, (send_subscriptions n _).trans ?_⟩
    simp [isSubscription]
  case isFalse => exact ⟨rfl, rfl, rfl, rfl⟩

theorem same_replayEvents (n : WatcherNode Value) (w : RemoteProjectionWatcher Value) :
    Same n (n.replayEvents w) := by
  unfold replayEvents replaySend
  split
  case isTrue =>
    split
    case isTrue =>
      refine ⟨rfl, rfl, rfl, (send_subscriptions n _).trans ?_⟩
      simp [isSubscription]
    case isFalse => exact ⟨rfl, rfl, rfl, rfl⟩
  case isFalse => exact same_request n _

theorem subscribing_send (n : WatcherNode Value) (h : n.connected = true) :
    (n.sendTransportMessage .snapshotSubscribe).Subscribing := by
  rw [Subscribing, subscriptions, sendTransportMessage, if_pos h, send_subscriptions]
  exact getLast?_concat

theorem subscribing_replay {w : RemoteProjectionWatcher Value}
    (h : (n.replayRemoteProjectionWatcher w).Following) :
    (n.replayRemoteProjectionWatcher w).Subscribing := by
  simp only [replayRemoteProjectionWatcher] at h ⊢
  split
  case isTrue hw =>
    rw [if_pos hw, replaySend] at h
    rw [replaySend]
    split
    case isTrue hconnected =>
      rw [Subscribing, subscriptions, send_subscriptions]
      exact getLast?_concat
    case isFalse hconnected =>
      rw [if_neg hconnected] at h
      exact absurd h.connected hconnected
  case isFalse hw =>
    rw [if_neg hw] at h
    exact absurd ((same_replayEvents _ _).following h).subscribed hw

theorem same_receive (h : n.receive = some m) : Same n m := by
  obtain ⟨⟨input, toWatcher⟩, -, rfl⟩ := map_eq_some_iff.mp h
  rcases input with _ | frame
  · refine ⟨rfl, rfl, ?_, rfl⟩
    cases hw : n.watcher <;> simp [handle, getOrCreateRemoteProjectionWatcher, hw]
  · cases frame with
    | snapshotUpdate payload | eventUpdate sequence => exact ⟨rfl, rfl, rfl, rfl⟩
    | snapshotFetchResponse requestId payload =>
      simp only [handle]
      split <;> exact ⟨rfl, rfl, rfl, rfl⟩

theorem following_step {a : NodeAction} (h : n.step a = some m) (hm : m.Following) :
    m.Subscribing ∨ Same n m := by
  cases a with
  | subscribeSnapshots =>
    cases h
    simp only [subscribeSnapshots] at hm ⊢
    split
    case isTrue => exact .inr (same_setWatcher rfl)
    case isFalse hw =>
      rw [if_neg hw] at hm
      refine .inl (subscribing_send _ ?_)
      have hconnected := hm.connected
      unfold sendTransportMessage at hconnected
      split at hconnected <;> exact hconnected
  | unsubscribeSnapshots =>
    cases h
    simp only [unsubscribeSnapshots] at hm ⊢
    split
    case isTrue hw =>
      rw [if_pos hw] at hm
      have hsubscribed := hm.subscribed
      unfold sendTransportMessage at hsubscribed
      split at hsubscribed <;> cases hsubscribed
    case isFalse => exact .inr (.refl n)
  | subscribeEvents =>
    cases h
    refine .inr ?_
    simp only [subscribeEvents]
    split
    case isTrue => exact same_setWatcher rfl
    case isFalse => exact (same_setWatcher (by rfl)).trans (same_send _ rfl)
  | unsubscribeEvents =>
    cases h
    refine .inr ?_
    simp only [unsubscribeEvents]
    split
    case isTrue => exact (same_setWatcher (by rfl)).trans (same_send _ rfl)
    case isFalse => exact .refl n
  | prime =>
    cases h
    exact .inr ((same_setWatcher rfl).trans (same_request _ _))
  | attend =>
    cases h
    simp only [attend] at hm ⊢
    split
    case h_1 hw =>
      simp only [hw] at hm
      have hsubscribed := hm.subscribed
      simp [getOrCreateRemoteProjectionWatcher,
        RemoteProjectionWatcher.createRemoteProjectionWatcher] at hsubscribed
    case h_2 w hw =>
      simp only [hw] at hm
      exact .inl (subscribing_replay hm)
  | advanceReplay i =>
    obtain ⟨stage, -, rfl⟩ := map_eq_some_iff.mp h
    have hless : Same n { n with replays := n.replays.eraseIdx i } := ⟨rfl, rfl, rfl, rfl⟩
    cases stage with
    | sentSnapshotSubscribe => exact .inr (hless.trans (same_replayEvents _ _))
    | sentEventSubscribe => exact .inr (hless.trans (same_request _ _))
  | failReplay i =>
    simp only [WatcherNode.step, failReplay] at h
    split at h
    case isTrue =>
      cases h
      exact .inr ⟨rfl, rfl, rfl, rfl⟩
    case isFalse => cases h
  | failRequest id =>
    simp only [WatcherNode.step, failRequest] at h
    split at h
    case isTrue =>
      cases h
      exact .inr ⟨rfl, rfl, rfl, rfl⟩
    case isFalse => cases h
  | resume =>
    simp only [WatcherNode.step, resume] at h
    split at h
    case h_1 => cases h
    case h_2 =>
      cases h
      exact .inr ⟨rfl, rfl, rfl, rfl⟩
  | resumeFailed i =>
    obtain ⟨kind, -, rfl⟩ := map_eq_some_iff.mp h
    refine .inr ⟨rfl, rfl, ?_, rfl⟩
    cases kind <;> rfl
  | receive => exact .inr (same_receive h)
  | connect =>
    simp only [WatcherNode.step, connect] at h
    split at h
    case isTrue => cases h
    case isFalse =>
      cases h
      exact Bool.noConfusion hm.attended
  | disconnect k l =>
    simp only [WatcherNode.step, disconnect] at h
    split at h
    case isTrue =>
      cases h
      exact Bool.noConfusion hm.connected
    case isFalse => cases h

end WatcherNode

namespace ProjectionSystem

open WatcherNode RemoteView Transition Function

variable {Node Value : Type}

/-- What a node that follows the actor shows, once it was told everything. -/
def Followed (s : ProjectionSystem Node Value) (n : Node) : Prop :=
  (s.nodes n).expected.shown.snapshot = s.cached.snapshot ∧ (n ∈ s.snapshotNodes ∨ s.current = none)

structure Converging (s : ProjectionSystem Node Value) : Prop where
  unique : ∀ n, Unique (s.nodes n)
  followed : ∀ n, (s.nodes n).Following → (s.nodes n).Subscribing ∨
    (s.nodes n).subscriptions = [] ∧ s.Followed n
  settled : s.handlers = [] → s.localSnapshot.snapshot = s.cached.snapshot
  ended : s.current = none → s.cached.snapshot.status = .stopped

/-- Nothing is on the way between the publisher and a node that is subscribed to snapshots, its
replay has finished and no handler of the actor is running. -/
structure Quiescent (s : ProjectionSystem Node Value) (n : Node) : Prop where
  following : (s.nodes n).Following
  toPublisher : (s.nodes n).toPublisher.pending = []
  toWatcher : (s.nodes n).toWatcher.pending = []
  replayed : (s.nodes n).replays = [] ∧ (s.nodes n).requests = [] ∧ (s.nodes n).answered = [] ∧
    (s.nodes n).failing = []
  state : (s.nodes n).getOrCreateRemoteProjectionWatcher.state = .connected
  handlers : s.handlers = []

variable {n m : Node} {x : Told Value}

theorem Converging.quiescent {s : ProjectionSystem Node Value} (h : Converging s)
    (hq : s.Quiescent n) : (s.nodes n).view.shown.snapshot = s.localSnapshot.snapshot := by
  have hnone : (s.nodes n).subscriptions = [] := by rw [subscriptions, hq.toPublisher]; rfl
  have hexpected : (s.nodes n).expected = (s.nodes n).view := by
    rw [expected, coming, waiting, hq.replayed.2.2.1, hq.toWatcher]
    rfl
  obtain hsubscribing | ⟨-, hshown, -⟩ := h.followed n hq.following
  · rw [Subscribing, hnone] at hsubscribing
    cases hsubscribing
  · rw [← hexpected, hshown, h.settled hq.handlers]

theorem converging_start (snapshot : ActorSnapshot Value) :
    Converging (start snapshot : ProjectionSystem Node Value) where
  unique := fun _ => ⟨nodup_nil, by intro id hid; cases hid⟩
  followed := fun n h => Bool.noConfusion h.connected
  settled := fun _ => rfl
  ended := by intro h; cases h

variable [DecidableEq Node]

theorem handle_handlers (s : ProjectionSystem Node Value) (n : Node)
    (input : Option ProjectionRequest) : (s.handle n input).handlers = s.handlers := by
  rcases input with _ | request
  · rfl
  · cases request <;> rfl

theorem handle_cached (s : ProjectionSystem Node Value) (n : Node)
    (input : Option ProjectionRequest) :
    (s.handle n input).cached = (s.reply input).elim s.cached fun _ => s.localSnapshot := by
  rcases input with _ | request
  · rfl
  · cases request <;> rfl

theorem mem_addNode (receivers : List Node) (n : Node) : n ∈ addNode receivers n := by
  unfold addNode
  split
  case isTrue hn => exact hn
  case isFalse => exact mem_append_right _ (mem_singleton_self n)

theorem handle_snapshotNodes {s : ProjectionSystem Node Value}
    {input : Option ProjectionRequest} (hn : n ∈ s.snapshotNodes)
    (hinput : m = n → isSubscription input = false) : n ∈ (s.handle m input).snapshotNodes := by
  have hkeeps (hm : m ≠ n) : n ∈ removeNode s.snapshotNodes m :=
    mem_filter.mpr ⟨hn, by simpa using Ne.symm hm⟩
  have hne (h : isSubscription input = true) : m ≠ n := fun hm => by
    rw [hinput hm] at h
    cases h
  rcases input with _ | request
  · exact hkeeps (hne rfl)
  · cases request with
    | snapshotSubscribe =>
      show n ∈ addNode s.snapshotNodes m
      unfold addNode
      split
      case isTrue => exact hn
      case isFalse => exact mem_append_left _ hn
    | snapshotUnsubscribe => exact hkeeps (hne rfl)
    | eventSubscribe | eventUnsubscribe | snapshotFetch => exact hn

variable [DecidableEq Value] {s t : ProjectionSystem Node Value} {a : Action Node Value}

/-- The condition on a step. `fresh`: an update, or the answer to a replay, goes to a node
under a number that is newer than all that the node has taken or has under way, unless it
shows what they show; `prompt`: see `WatcherNode.Prompt`; `changes`, `throws` and `alive`: the
snapshot changes only while a handler runs, a handler that throws leaves nothing unpublished,
and a handler completes on the current instance; `reads`: a snapshot that was not published
yet is read by an only follower; `spawns` and `stopped`: the actor is spawned with the snapshot
that its followers show, and not before the end of `stopActor`. -/
structure Conveys (s : ProjectionSystem Node Value) (a : Action Node Value) : Prop where
  fresh : ∀ n x, s.tells a n = some x → Fresh (s.nodes n).expected x
  prompt : ∀ n act, a = .node n act → (s.nodes n).Prompt act
  changes : ∀ k snapshot, a = .change k snapshot → s.current = some k → s.handlers ≠ []
  throws : ∀ i, a = .threw i → s.localSnapshot.snapshot = s.cached.snapshot
  alive : ∀ i, a = .handled i → s.handlers[i]? = s.current
  reads : ∀ m, a = .receive m → s.frameFor a m ≠ none →
    s.localSnapshot.snapshot = s.cached.snapshot ∨ ∀ n, (s.nodes n).Steady → s.tells a n ≠ none
  spawns : ∀ snapshot, a = .spawn snapshot → ∀ n, (s.nodes n).Steady →
    n ∈ s.snapshotNodes ∧ s.cached.snapshot = snapshot
  stopped : a = .stopped → s.current = none ∨ ∀ n, ¬(s.nodes n).Steady

theorem handlers_step (h : step s a = some t) (hnone : t.handlers = []) :
    s.handlers = [] ∨ (∃ i, a = .handled i) ∨ ∃ i, a = .threw i := by
  cases a with
  | handled i => exact .inr (.inl ⟨i, rfl⟩)
  | threw i => exact .inr (.inr ⟨i, rfl⟩)
  | deliver =>
    obtain ⟨k, -, rfl⟩ := map_eq_some_iff.mp h
    simp at hnone
  | spawn | change =>
    cases h
    exact .inl hnone
  | emit =>
    cases h
    rw [publishEvent_fields] at hnone
    exact .inl hnone
  | stop =>
    cases h
    rw [stop, publish_fields] at hnone
    exact .inl hnone
  | stopped =>
    simp only [step, ProjectionSystem.stopped] at h
    split at h
    case h_1 => cases h
    case h_2 =>
      cases h
      exact .inl hnone
  | receive n =>
    obtain ⟨⟨input, toPublisher⟩, -, rfl⟩ := map_eq_some_iff.mp h
    refine .inl ((handle_handlers (s.setNode n { s.nodes n with toPublisher }) n input).symm.trans ?_)
    exact hnone
  | node n act =>
    obtain ⟨node, -, rfl⟩ := map_eq_some_iff.mp h
    exact .inl hnone

theorem settled_step (hc : Converging s) (hg : Conveys s a) (h : step s a = some t)
    (hnone : t.handlers = []) : t.localSnapshot.snapshot = t.cached.snapshot := by
  have hhandlers := handlers_step h hnone
  cases step_evolves h with
  | spawn snapshot hinstances hcurrent hcached hclock =>
    simp [localSnapshot, hinstances, hcurrent, hcached]
  | change k snapshot ha hinstances hcurrent hcached hclock =>
    subst ha
    have hold : s.localSnapshot.snapshot = s.cached.snapshot := by
      obtain hold | ⟨i, hi⟩ | ⟨i, hi⟩ := hhandlers
      · exact hc.settled hold
      · cases hi
      · cases hi
    simp only [localSnapshot, hinstances, hcurrent, hcached] at hold ⊢
    cases hcur : s.current with
    | none => rfl
    | some j =>
      have hne : k ≠ j := by
        rintro rfl
        refine hg.changes k snapshot rfl hcur ?_
        exact hhandlers.resolve_right (by simp)
      rw [hcur, bind_some] at hold
      rw [bind_some, getElem?_set_ne hne, hold]
  | stop hinstances hcurrent hcached hclock => simp [localSnapshot, hcurrent]
  | handled i k ha hk hinstances hcurrent hcached hclock =>
    have hcur : s.current = some k := (hg.alive i ha).symm.trans hk
    simp [localSnapshot, hinstances, hcurrent, hcur, hcached]
  | other ha hinstances hcurrent hcached hclock =>
    have hlocal := localSnapshot_of_cached hinstances hcurrent hcached
    rw [hlocal]
    obtain hsame | hread := hcached
    · rw [hsame]
      obtain hold | ⟨i, rfl⟩ | ⟨i, rfl⟩ := hhandlers
      · exact hc.settled hold
      · exact absurd rfl (ha i)
      · exact hg.throws i rfl
    · rw [hread]

theorem ended_step (hc : Converging s) (hg : Conveys s a) (h : step s a = some t)
    (hnone : t.current = none) : t.cached.snapshot.status = .stopped := by
  cases step_evolves h with
  | spawn snapshot hinstances hcurrent hcached hclock =>
    rw [hcurrent] at hnone
    cases hnone
  | change k snapshot ha hinstances hcurrent hcached hclock =>
    rw [hcached]
    exact hc.ended (hcurrent.symm.trans hnone)
  | stop hinstances hcurrent hcached hclock => rw [hcached]; rfl
  | handled i k ha hk hinstances hcurrent hcached hclock =>
    have hcur : s.current = some k := (hg.alive i ha).symm.trans hk
    rw [hcurrent, hcur] at hnone
    cases hnone
  | other ha hinstances hcurrent hcached hclock =>
    have hold := hcurrent.symm.trans hnone
    obtain hsame | hread := hcached
    · exact hsame ▸ hc.ended hold
    · have hlocal : s.localSnapshot = s.cached := by simp [localSnapshot, hold]
      rw [hread, hlocal]
      exact hc.ended hold

theorem expected_told (ha : ∀ m act, a ≠ .node m act) (h : step s a = some t) (n : Node) :
    (t.nodes n).expected = (s.tells a n).elim (s.nodes n).expected (s.nodes n).expected.take := by
  obtain ⟨hview, hcoming⟩ := publisher_told ha h n
  rw [expected, hview, hcoming, takeAll_append]
  cases s.tells a n <;> rfl

theorem tells_of_frameFor {frame : ProjectionFrame Value}
    (hframe : s.frameFor a n = some frame) (hconnected : (s.nodes n).connected = true)
    (hx : ∀ requests, tellsFor requests (some frame) = some x) : s.tells a n = some x := by
  rw [tells, hframe, bind_some, if_pos hconnected, hx]

theorem expected_shown (hg : Conveys s a) (ha : ∀ m act, a ≠ .node m act) (h : step s a = some t)
    (hx : s.tells a n = some x) {shown : Stamped Value}
    (hshown : x.carries = some shown) : (t.nodes n).expected.shown.snapshot = shown.snapshot := by
  rw [expected_told ha h, hx]
  exact take_fresh (hg.fresh n x hx) hshown

theorem expected_quiet (ha : ∀ m act, a ≠ .node m act) (h : step s a = some t)
    (hx : s.tells a n = none) : (t.nodes n).expected = (s.nodes n).expected := by
  rw [expected_told ha h, hx]
  rfl

theorem followed_handled {i : Nat} (hg : Conveys s (.handled i))
    (h : step s (.handled i) = some t) (hsteady : (s.nodes n).Steady) (hf : s.Followed n) : t.Followed n := by
  obtain ⟨latest, hlatest, ht⟩ := map_eq_some_iff.mp h
  obtain ⟨k, hk, -⟩ := bind_eq_some_iff.mp hlatest
  have hcur : s.current = some k := (hg.alive i rfl).symm.trans hk
  have hn : n ∈ s.snapshotNodes := hf.2.resolve_right (by simp [hcur])
  simp only at ht
  split at ht
  case isTrue hsame =>
    have hx : s.tells (.handled i) n = none := by simp [tells, frameFor, hlatest, hsame]
    refine ⟨?_, .inl (by rw [← ht]; exact hn)⟩
    rw [expected_quiet (by simp) h hx, hf.1, hsame, ← ht]
  case isFalse hchanged =>
    have hframe : s.frameFor (.handled i) n =
        some (.snapshotUpdate ⟨s.sequence + 1, latest⟩) := by
      simp [frameFor, hlatest, hchanged, hn]
    have hx := tells_of_frameFor hframe hsteady.1.connected fun _ => rfl
    rw [publish_fields] at ht
    refine ⟨?_, .inl (by rw [← ht]; exact hn)⟩
    rw [expected_shown hg (by simp) h hx rfl, ← ht]

theorem followed_stop (hc : Converging s) (hg : Conveys s .stop) (h : step s .stop = some t)
    (hsteady : (s.nodes n).Steady) (hf : s.Followed n) : t.Followed n := by
  obtain rfl := some.inj h
  have hcurrent : s.stop.current = none := by rw [stop, publish_fields]
  have hcached : s.stop.cached = s.stoppedSnapshot := by rw [stop, publish_fields]
  refine ⟨?_, .inr hcurrent⟩
  rw [hcached]
  by_cases hn : n ∈ s.snapshotNodes
  · have hframe : s.frameFor .stop n =
        some (.snapshotUpdate ⟨s.sequence + 1, s.stoppedSnapshot⟩) := by simp [frameFor, hn]
    exact expected_shown hg (by simp) h (tells_of_frameFor hframe hsteady.1.connected fun _ => rfl) rfl
  · have hx : s.tells .stop n = none := by simp [tells, frameFor, hn]
    have hended := hc.ended (hf.2.resolve_left hn)
    rw [expected_quiet (by simp) h hx, hf.1, stoppedSnapshot, createFallbackSnapshot, ← hended]
    rfl

theorem followed_receive (hg : Conveys s (.receive m)) (h : step s (.receive m) = some t)
    (hsteady : (s.nodes n).Steady) (hf : s.Followed n)
    (hinput : m = n → ∀ input toPublisher, (s.nodes n).toPublisher.receive = some (input, toPublisher) →
      isSubscription input = false) : t.Followed n := by
  obtain ⟨⟨input, toPublisher⟩, hreceive, ht⟩ := map_eq_some_iff.mp h
  have hframe : s.frameFor (.receive m) m = s.reply input := by simp [frameFor, hreceive]
  have hmember : n ∈ t.snapshotNodes ∨ t.current = none := by
    rw [← ht]
    refine hf.2.imp (fun hn => handle_snapshotNodes hn fun hm => ?_) fun hnone => ?_
    · subst hm
      exact hinput rfl input toPublisher hreceive
    · exact (handle_evolves _ m input).2.1.trans hnone
  refine ⟨?_, hmember⟩
  have hcached : t.cached = (s.reply input).elim s.cached fun _ => s.localSnapshot := by
    rw [← ht]
    exact handle_cached _ m input
  have htold : ∀ x, s.tells (.receive m) n = some x → x.carries = some s.localSnapshot := by
    intro x hx
    obtain ⟨frame, hsent, hx⟩ := bind_eq_some_iff.mp hx
    simp only [frameFor] at hsent
    split at hsent
    case isFalse => cases hsent
    case isTrue hm =>
      subst hm
      rw [hreceive, bind_some] at hsent
      split at hx
      case isTrue => exact (carries_of_tellsFor hx).trans (reply_shows hsent)
      case isFalse => cases hx
  cases hreply : s.reply input with
  | none =>
    rw [hreply] at hcached
    have hx : s.tells (.receive m) n = none := by
      by_cases hm : m = n
      · subst hm
        rw [tells, hframe, hreply]
        rfl
      · simp [tells, frameFor, hm]
    rw [expected_quiet (by simp) h hx, hf.1, hcached]
    rfl
  | some frame =>
    rw [hreply] at hcached
    rw [hcached]
    cases hx : s.tells (.receive m) n with
    | some x => exact expected_shown hg (by simp) h hx (htold x hx)
    | none =>
      obtain hsame | hall := hg.reads m rfl (by rw [hframe, hreply]; simp)
      · rw [expected_quiet (by simp) h hx, hf.1, ← hsame]
        rfl
      · exact absurd hx (hall n hsteady)

theorem followed_subscribe (hg : Conveys s (.receive n)) (h : step s (.receive n) = some t)
    {toPublisher : Channel ProjectionRequest}
    (hreceive : (s.nodes n).toPublisher.receive = some (some .snapshotSubscribe, toPublisher))
    (hconnected : (s.nodes n).connected = true) : t.Followed n := by
  obtain ⟨⟨input, rest⟩, hreceive', ht⟩ := map_eq_some_iff.mp h
  obtain ⟨rfl, rfl⟩ := Prod.mk.inj (some.inj (hreceive.symm.trans hreceive'))
  have hframe : s.frameFor (.receive n) n =
      some (.snapshotUpdate s.createSnapshotProjection) := by
    simp [frameFor, hreceive, reply]
  have hx := tells_of_frameFor hframe hconnected fun _ => rfl
  constructor
  · rw [expected_shown hg (by simp) h hx rfl, ← ht]
    rfl
  · refine .inl ?_
    rw [← ht]
    exact mem_addNode _ n

theorem tells_emit (h : s.tells .emit n = some x) : x = .event (s.sequence + 1) := by
  obtain ⟨frame, hframe, htells⟩ := bind_eq_some_iff.mp h
  simp only [frameFor] at hframe
  split at hframe
  case isFalse => cases hframe
  case isTrue =>
    cases hframe
    split at htells
    case isTrue => exact (some.inj htells).symm
    case isFalse => cases htells

theorem followed_publisher (hc : Converging s) (hg : Conveys s a) (ha : ∀ m act, a ≠ .node m act)
    (h : step s a = some t) (hsteady : (s.nodes n).Steady) (hf : s.Followed n)
    (hinput : a = .receive n → ∀ input toPublisher,
      (s.nodes n).toPublisher.receive = some (input, toPublisher) → isSubscription input = false) :
    t.Followed n := by
  cases a with
  | node m act => exact absurd rfl (ha m act)
  | handled i => exact followed_handled hg h hsteady hf
  | stop => exact followed_stop hc hg h hsteady hf
  | receive m => exact followed_receive hg h hsteady hf fun hm => hinput (hm ▸ rfl)
  | spawn snapshot =>
    obtain ⟨hn, hsame⟩ := hg.spawns snapshot rfl n hsteady
    cases h
    exact ⟨hf.1.trans hsame, .inl hn⟩
  | deliver =>
    obtain ⟨k, -, rfl⟩ := map_eq_some_iff.mp h
    exact hf
  | change k snapshot =>
    cases h
    exact hf
  | threw i =>
    simp only [step] at h
    split at h
    case isTrue =>
      cases h
      exact hf
    case isFalse => cases h
  | emit =>
    have hsame : t.cached = s.cached ∧ t.snapshotNodes = s.snapshotNodes ∧
        t.current = s.current := by
      cases h
      rw [publishEvent_fields]
      exact ⟨rfl, rfl, rfl⟩
    refine ⟨?_, by rw [hsame.2.1, hsame.2.2]; exact hf.2⟩
    rw [hsame.1, ← hf.1, expected_told ha h]
    cases hx : s.tells .emit n with
    | none => rfl
    | some x =>
      obtain rfl := tells_emit hx
      exact congrArg Stamped.snapshot (take_event _ _)
  | stopped =>
    have hnone := (hg.stopped rfl).resolve_right fun hnot => hnot n hsteady
    simp only [step, ProjectionSystem.stopped] at h
    split at h
    case h_1 => cases h
    case h_2 =>
      cases h
      exact ⟨hf.1, .inr hnone⟩

theorem Converging.node {act : NodeAction} (hc : Converging s)
    (hg : Conveys s (.node m act)) (h : step s (.node m act) = some t)
    (hn : (t.nodes n).Following) :
    (t.nodes n).Subscribing ∨ (t.nodes n).subscriptions = [] ∧ t.Followed n := by
  obtain ⟨node, hnode, rfl⟩ := map_eq_some_iff.mp h
  by_cases hm : n = m
  · subst hm
    simp only [Followed, setNode_self] at hn ⊢
    obtain hsubscribing | hsame := following_step hnode hn
    · exact .inl hsubscribing
    · refine (hc.followed n (hsame.following hn)).imp ?_ ?_
      · rintro hlast
        rwa [Subscribing, hsame.subscriptions]
      · rintro ⟨hnone, hshown, hmember⟩
        refine ⟨hsame.subscriptions.trans hnone, ?_, hmember⟩
        obtain hexpected | ⟨hdown, -⟩ := (moves_step (hc.unique n) (hg.prompt n act rfl) hnode).expected
        · rwa [hexpected]
        · rw [hn.connected] at hdown
          cases hdown
  · rw [setNode_ne s hm] at hn ⊢
    refine (hc.followed n hn).imp id fun ⟨hnone, hshown, hmember⟩ => ⟨hnone, ?_, hmember⟩
    rwa [setNode_ne s hm]

theorem Converging.publisher (hc : Converging s) (hg : Conveys s a)
    (ha : ∀ m act, a ≠ .node m act) (h : step s a = some t) (hn : (t.nodes n).Following) :
    (t.nodes n).Subscribing ∨ (t.nodes n).subscriptions = [] ∧ t.Followed n := by
  obtain ⟨toPublisher, hnode, hlink⟩ := publisher_step ha h n
  have hsame : Same { s.nodes n with toPublisher } (t.nodes n) := by
    rw [hnode]
    cases s.frameFor a n with
    | none => exact .refl _
    | some frame => exact same_deliver _ frame
  have hfollowing : (s.nodes n).Following :=
    ⟨(hsame.following hn).connected, (hsame.following hn).attended, (hsame.following hn).subscribed⟩
  have hfollowed := hc.followed n hfollowing
  rw [Subscribing, hsame.subscriptions]
  obtain ⟨rfl, hne⟩ | ⟨input, rfl, hreceive⟩ := hlink
  · refine hfollowed.imp id fun ⟨hnone, hf⟩ => ⟨hnone, ?_⟩
    exact followed_publisher hc hg ha h ⟨hfollowing, hnone⟩ hf fun heq => absurd heq hne
  · have hsubscriptions : (s.nodes n).subscriptions =
        [input].filter isSubscription ++ subscriptions { s.nodes n with toPublisher } := by
      rw [subscriptions, Channel.receive_pending hreceive, ← singleton_append,
        filter_append]
      rfl
    cases hinput : isSubscription input with
    | false =>
      rw [filter_cons_of_neg (by simp [hinput]), filter_nil, nil_append]
        at hsubscriptions
      rw [← hsubscriptions]
      refine hfollowed.imp id fun ⟨hnone, hf⟩ => ⟨hnone, ?_⟩
      refine followed_publisher hc hg ha h ⟨hfollowing, hnone⟩ hf fun _ input' rest hreceive' => ?_
      rw [hreceive] at hreceive'
      rwa [← (Prod.mk.inj (some.inj hreceive')).1]
    | true =>
      rw [filter_cons_of_pos hinput, filter_nil, singleton_append]
        at hsubscriptions
      obtain hlast | ⟨hnone, -⟩ := hfollowed
      · rw [Subscribing, hsubscriptions] at hlast
        cases hrest : subscriptions { s.nodes n with toPublisher } with
        | nil =>
          rw [hrest] at hlast
          obtain rfl : input = some .snapshotSubscribe := some.inj hlast
          exact .inr ⟨rfl, followed_subscribe hg h hreceive hfollowing.connected⟩
        | cons y rest =>
          rw [hrest, getLast?_cons_cons] at hlast
          exact .inl hlast
      · rw [hsubscriptions] at hnone
        cases hnone

theorem converging_step (hc : Converging s) (hg : Conveys s a) (h : step s a = some t) :
    Converging t where
  unique := step_unique hc.unique h
  settled := settled_step hc hg h
  ended := ended_step hc hg h
  followed := by
    intro n hn
    by_cases ha : ∃ m act, a = .node m act
    · obtain ⟨m, act, rfl⟩ := ha
      exact hc.node hg h hn
    · simp only [not_exists] at ha
      exact hc.publisher hg ha h hn

theorem conveys_node {act : NodeAction} (h : (s.nodes n).Prompt act) : Conveys s (.node n act) where
  fresh := by intro m x hx; cases hx
  prompt := by
    intro m act' ha
    obtain ⟨rfl, rfl⟩ := Action.node.inj ha
    exact h
  changes := by simp
  throws := by simp
  alive := by simp
  reads := by simp
  spawns := by simp
  stopped := by simp

theorem conveys_handled {i : Nat}
    (hfresh : ∀ n, ∀ x ∈ s.tells (.handled i) n, Fresh (s.nodes n).expected x)
    (halive : s.handlers[i]? = s.current) : Conveys s (.handled i) where
  fresh := hfresh
  prompt := by simp
  changes := by simp
  throws := by simp
  alive := by
    intro j hj
    exact Action.handled.inj hj ▸ halive
  reads := by simp
  spawns := by simp
  stopped := by simp

theorem conveys_receive (hfresh : ∀ n, ∀ x ∈ s.tells (.receive m) n, Fresh (s.nodes n).expected x)
    (hread : s.localSnapshot.snapshot = s.cached.snapshot) : Conveys s (.receive m) where
  fresh := hfresh
  prompt := by simp
  changes := by simp
  throws := by simp
  alive := by simp
  reads := fun _ _ _ => .inl hread
  spawns := by simp
  stopped := by simp

/-- A subscription made before the connection is replayed; then the snapshot changes. -/
def replayedRun : List (Action Bool Nat) :=
  [.node false .subscribeSnapshots, .node false .connect, .node false .attend, .receive false, .node false .receive,
    .node false (.advanceReplay 0), .receive false, .node false .receive, .node false .resume, .deliver,
    .change 0 ⟨.running, some 1⟩, .handled 0, .node false .receive]

theorem replayedRun_conveys : Guarded step Conveys (start ⟨.running, some 0⟩) replayedRun := by
  have hreceive {n : WatcherNode Nat} (h : n.answered = []) : n.Prompt .receive :=
    fun _ _ _ _ _ => .inl h
  refine (guarded_cons rfl).mpr ⟨conveys_node trivial, (guarded_cons rfl).mpr ⟨conveys_node trivial, ?_⟩⟩
  refine (guarded_cons rfl).mpr ⟨conveys_node trivial, (guarded_cons rfl).mpr ⟨?_, ?_⟩⟩
  · exact conveys_receive (by decide +kernel) (by decide +kernel)
  refine (guarded_cons rfl).mpr ⟨conveys_node (hreceive rfl), (guarded_cons rfl).mpr ⟨?_, ?_⟩⟩
  · exact conveys_node trivial
  refine (guarded_cons rfl).mpr ⟨?_, (guarded_cons rfl).mpr ⟨conveys_node (hreceive rfl), ?_⟩⟩
  · exact conveys_receive (by decide +kernel) (by decide +kernel)
  refine (guarded_cons rfl).mpr ⟨conveys_node trivial, (guarded_cons rfl).mpr ⟨?_, ?_⟩⟩
  · constructor <;> simp [tells, frameFor]
  refine (guarded_cons rfl).mpr ⟨?_, (guarded_cons rfl).mpr ⟨?_, ?_⟩⟩
  · constructor <;> simp [tells, frameFor]
  · exact conveys_handled (by decide +kernel) rfl
  exact (guarded_cons rfl).mpr ⟨conveys_node (hreceive rfl), trivial⟩

def staleRun : List (Action Bool Nat) :=
  [.node false .connect, .node false .attend, .node false .subscribeSnapshots, .receive false, .node false .receive,
    .node false (.disconnect 0 0), .node false .receive, .receive false, .deliver,
    .change 0 ⟨.running, some 1⟩, .handled 0, .node false .connect, .node false .attend, .receive false,
    .node false .receive, .node false (.advanceReplay 0), .receive false, .node false .receive, .node false .resume]

end ProjectionSystem

end ActorWeb
