import ActorWeb.ProjectionPipeline

namespace ActorWeb

open Option hiding sequence

namespace ProjectionSystem

open WatcherNode Function

variable {Node Value : Type}

section Local

variable {s t : ProjectionSystem Node Value}

theorem localSnapshot_of_cached (hinstances : t.instances = s.instances)
    (hcurrent : t.current = s.current) (hcached : t.cached = s.cached ∨ t.cached = s.localSnapshot) :
    t.localSnapshot = s.localSnapshot := by
  rw [localSnapshot, hinstances, hcurrent]
  obtain hsame | hread := hcached
  · rw [hsame]
    rfl
  · rw [hread, localSnapshot]
    cases s.current.bind fun k => s.instances[k]? <;> rfl

structure Counted (s : ProjectionSystem Node Value) : Prop where
  instances : ∀ (k : Nat) (x : Stamped Value), s.instances[k]? = some x → x.version ≤ s.clock
  cached : s.cached.version ≤ s.clock

theorem Counted.localSnapshot (h : Counted s) : s.localSnapshot.version ≤ s.clock := by
  rw [ProjectionSystem.localSnapshot]
  cases hk : s.current.bind fun k => s.instances[k]? with
  | none => exact h.cached
  | some x =>
    obtain ⟨k, -, hx⟩ := bind_eq_some_iff.mp hk
    exact h.instances k x hx

def reply (s : ProjectionSystem Node Value) :
    Option ProjectionRequest → Option (ProjectionFrame Value)
  | some .snapshotSubscribe => some (.snapshotUpdate s.createSnapshotProjection)
  | some (.snapshotFetch requestId) =>
    some (.snapshotFetchResponse requestId s.createSnapshotProjection)
  | _ => none

def shownBy : ProjectionFrame Value → Option (Stamped Value)
  | .snapshotUpdate payload => some payload.shown
  | .eventUpdate _ => none
  | .snapshotFetchResponse _ payload => some payload.shown

theorem carries_of_tellsFor {requests : List RequestId} {frame : ProjectionFrame Value}
    {x : Told Value} (h : tellsFor requests (some frame) = some x) : x.carries = shownBy frame := by
  cases frame with
  | snapshotUpdate payload | eventUpdate sequence => rw [← some.inj h]; rfl
  | snapshotFetchResponse id payload =>
    simp only [tellsFor] at h
    split at h
    case isTrue => rw [← some.inj h]; rfl
    case isFalse => cases h

theorem reply_shows {input : Option ProjectionRequest} {frame : ProjectionFrame Value}
    (h : s.reply input = some frame) : shownBy frame = some s.localSnapshot := by
  rcases input with _ | request
  · cases h
  · cases request with
    | snapshotSubscribe | snapshotFetch => rw [← some.inj h]; rfl
    | snapshotUnsubscribe | eventSubscribe | eventUnsubscribe => cases h

end Local

variable [DecidableEq Node]

section Publisher

variable (s : ProjectionSystem Node Value)

theorem publish_fields (shown : Stamped Value) : s.publishRemoteSnapshotProjection shown =
      { s with
        sequence := (s.publishRemoteSnapshotProjection shown).sequence
        nodes := (s.publishRemoteSnapshotProjection shown).nodes } := by
  unfold publishRemoteSnapshotProjection
  split <;> rfl

theorem publishEvent_fields : s.publishRemoteActorEvent =
      { s with
        sequence := s.publishRemoteActorEvent.sequence
        nodes := s.publishRemoteActorEvent.nodes } := by
  unfold publishRemoteActorEvent
  split <;> rfl

end Publisher

theorem handle_evolves (s : ProjectionSystem Node Value) (n : Node)
    (input : Option ProjectionRequest) :
    (s.handle n input).instances = s.instances ∧ (s.handle n input).current = s.current ∧
      ((s.handle n input).cached = s.cached ∨ (s.handle n input).cached = s.localSnapshot) ∧
      (s.handle n input).clock = s.clock := by
  rcases input with _ | request
  · exact ⟨rfl, rfl, .inl rfl, rfl⟩
  · cases request with
    | snapshotSubscribe | snapshotFetch => exact ⟨rfl, rfl, .inr rfl, rfl⟩
    | snapshotUnsubscribe | eventSubscribe | eventUnsubscribe => exact ⟨rfl, rfl, .inl rfl, rfl⟩

theorem publish_nodes (s : ProjectionSystem Node Value) (shown : Stamped Value) (n : Node) :
    (s.publishRemoteSnapshotProjection shown).nodes n =
      if n ∈ s.snapshotNodes then
        (s.nodes n).deliver (.snapshotUpdate ⟨s.sequence + 1, shown⟩)
      else s.nodes n := by
  unfold publishRemoteSnapshotProjection
  split
  case isTrue hempty => simp [List.isEmpty_iff.mp hempty]
  case isFalse => rfl

theorem publishEvent_nodes (s : ProjectionSystem Node Value) (n : Node) :
    s.publishRemoteActorEvent.nodes n =
      if n ∈ s.eventNodes then (s.nodes n).deliver (.eventUpdate (s.sequence + 1))
      else s.nodes n := by
  unfold publishRemoteActorEvent
  split
  case isTrue hempty => simp [List.isEmpty_iff.mp hempty]
  case isFalse => rfl

theorem sendToAll_self (s : ProjectionSystem Node Value) (n : Node) (frame : ProjectionFrame Value) :
    (s.sendToAll [n] frame).nodes n = (s.nodes n).deliver frame :=
  if_pos (List.mem_singleton_self n)

theorem sendToAll_ne (s : ProjectionSystem Node Value) {n m : Node} (h : n ≠ m)
    (frame : ProjectionFrame Value) : (s.sendToAll [m] frame).nodes n = s.nodes n :=
  if_neg fun hm => h (List.mem_singleton.mp hm)

@[simp] theorem setNode_self (s : ProjectionSystem Node Value) (n : Node) (node : WatcherNode Value) :
    (s.setNode n node).nodes n = node := update_self ..

theorem setNode_ne (s : ProjectionSystem Node Value) {n m : Node} (h : n ≠ m)
    (node : WatcherNode Value) : (s.setNode m node).nodes n = s.nodes n := update_of_ne h _ _

theorem handle_nodes_ne (s : ProjectionSystem Node Value) {n m : Node} (h : n ≠ m)
    (input : Option ProjectionRequest) : (s.handle m input).nodes n = s.nodes n := by
  rcases input with _ | request
  · rfl
  · cases request <;> first | rfl | exact sendToAll_ne _ h _

theorem handle_nodes_self (s : ProjectionSystem Node Value) (n : Node)
    (input : Option ProjectionRequest) :
    (s.handle n input).nodes n = (s.reply input).elim (s.nodes n) (s.nodes n).deliver := by
  rcases input with _ | request
  · rfl
  · cases request <;> first | rfl | exact sendToAll_self _ _ _

variable [DecidableEq Value] {s t : ProjectionSystem Node Value} {a : Action Node Value}

def frameFor (s : ProjectionSystem Node Value) (a : Action Node Value) (n : Node) :
    Option (ProjectionFrame Value) :=
  match a with
  | .handled i =>
    (s.handlers[i]?.bind fun k => s.instances[k]?).bind fun latest =>
      if s.cached.snapshot ≠ latest.snapshot ∧ n ∈ s.snapshotNodes then
        some (.snapshotUpdate ⟨s.sequence + 1, latest⟩)
      else none
  | .emit => if n ∈ s.eventNodes then some (.eventUpdate (s.sequence + 1)) else none
  | .stop =>
    if n ∈ s.snapshotNodes then some (.snapshotUpdate ⟨s.sequence + 1, s.stoppedSnapshot⟩)
    else none
  | .receive m =>
    if m = n then
      (s.nodes n).toPublisher.receive.bind fun input => s.reply input.1
    else none
  | _ => none

def tells (s : ProjectionSystem Node Value) (a : Action Node Value) (n : Node) :
    Option (Told Value) :=
  (s.frameFor a n).bind fun frame =>
    if (s.nodes n).connected then tellsFor (s.nodes n).requests (some frame) else none

theorem publisher_step (ha : ∀ m act, a ≠ .node m act) (h : step s a = some t) (n : Node) :
    ∃ toPublisher, t.nodes n =
        (s.frameFor a n).elim { s.nodes n with toPublisher }
          (WatcherNode.deliver { s.nodes n with toPublisher }) ∧
      (toPublisher = (s.nodes n).toPublisher ∧ a ≠ .receive n ∨
        ∃ input, a = .receive n ∧ (s.nodes n).toPublisher.receive = some (input, toPublisher)) := by
  cases a with
  | node m act => exact absurd rfl (ha m act)
  | spawn snapshot | change k snapshot =>
    cases h
    exact ⟨_, rfl, .inl ⟨rfl, by simp⟩⟩
  | deliver =>
    obtain ⟨k, -, rfl⟩ := map_eq_some_iff.mp h
    exact ⟨_, rfl, .inl ⟨rfl, by simp⟩⟩
  | threw i =>
    simp only [step] at h
    split at h
    case isTrue =>
      cases h
      exact ⟨_, rfl, .inl ⟨rfl, by simp⟩⟩
    case isFalse => cases h
  | stopped =>
    simp only [step, stopped] at h
    split at h
    case h_1 => cases h
    case h_2 =>
      cases h
      exact ⟨_, rfl, .inl ⟨rfl, by simp⟩⟩
  | handled i =>
    obtain ⟨latest, hlatest, rfl⟩ := map_eq_some_iff.mp h
    refine ⟨_, ?_, .inl ⟨rfl, by simp⟩⟩
    simp only [frameFor, hlatest, bind_some]
    split
    case isTrue hsame => simp [hsame]
    case isFalse hchanged =>
      rw [publish_nodes]
      by_cases hn : n ∈ s.snapshotNodes <;> simp [hn, hchanged]
  | emit =>
    cases h
    refine ⟨_, ?_, .inl ⟨rfl, by simp⟩⟩
    simp only [frameFor, publishEvent_nodes]
    split <;> rfl
  | stop =>
    cases h
    refine ⟨_, ?_, .inl ⟨rfl, by simp⟩⟩
    simp only [frameFor, stop, publish_nodes]
    split <;> rfl
  | receive m =>
    obtain ⟨⟨input, toPublisher⟩, hreceive, rfl⟩ := map_eq_some_iff.mp h
    by_cases hm : m = n
    · subst hm
      refine ⟨toPublisher, ?_, .inr ⟨input, rfl, hreceive⟩⟩
      simp only [frameFor, if_true, hreceive, bind_some]
      rw [handle_nodes_self, setNode_self]
      rcases input with _ | request
      · rfl
      · cases request <;> rfl
    · refine ⟨_, ?_, .inl ⟨rfl, by simp [hm]⟩⟩
      have hother : n ≠ m := Ne.symm hm
      simp only [frameFor, hm, if_false, elim_none]
      exact (handle_nodes_ne _ hother input).trans (setNode_ne s hother _)

theorem frameFor_update {n : Node} {frame : ProjectionFrame Value} (hne : a ≠ .receive n)
    (h : s.frameFor a n = some frame) : responseOf (some frame) = none := by
  cases a with
  | spawn | deliver | change | threw | stopped | node => cases h
  | handled i =>
    obtain ⟨latest, -, hframe⟩ := bind_eq_some_iff.mp h
    split at hframe
    case isTrue => rw [← some.inj hframe]; rfl
    case isFalse => cases hframe
  | emit | stop =>
    simp only [frameFor] at h
    split at h
    case isTrue => rw [← some.inj h]; rfl
    case isFalse => cases h
  | receive m =>
    have hm : m ≠ n := fun hm => hne (hm ▸ rfl)
    simp only [frameFor, hm, if_false] at h
    cases h

theorem publisher_told (ha : ∀ m act, a ≠ .node m act) (h : step s a = some t) (n : Node) :
    (t.nodes n).view = (s.nodes n).view ∧
      (t.nodes n).coming = (s.nodes n).coming ++ (s.tells a n).toList := by
  obtain ⟨toPublisher, hnode, -⟩ := publisher_step ha h n
  rw [hnode, tells]
  cases hframe : s.frameFor a n with
  | none => exact ⟨rfl, (List.append_nil _).symm⟩
  | some frame => exact deliver_told { s.nodes n with toPublisher } frame

theorem step_unique (hu : ∀ n, Unique (s.nodes n)) (h : step s a = some t) (n : Node) :
    Unique (t.nodes n) := by
  by_cases ha : ∃ m act, a = .node m act
  · obtain ⟨m, act, rfl⟩ := ha
    obtain ⟨node, hnode, rfl⟩ := map_eq_some_iff.mp h
    by_cases hm : n = m
    · subst hm
      rw [setNode_self]
      exact (hu n).step hnode
    · rw [setNode_ne s hm]
      exact hu n
  · simp only [not_exists] at ha
    obtain ⟨toPublisher, hnode, hlink⟩ := publisher_step ha h n
    rw [hnode]
    obtain ⟨rfl, hne⟩ | ⟨input, rfl, hreceive⟩ := hlink
    · cases hframe : s.frameFor a n with
      | none => exact hu n
      | some frame =>
        exact (hu n).deliver (frameFor_update hne hframe)
    · simp only [frameFor, if_true, hreceive, bind_some]
      rcases input with _ | request
      · exact (hu n).receiveRequest hreceive
      · cases request with
        | snapshotUnsubscribe | eventSubscribe | eventUnsubscribe =>
          exact (hu n).receiveRequest hreceive
        | snapshotSubscribe => exact ((hu n).receiveRequest hreceive).deliver rfl
        | snapshotFetch id => exact (hu n).respond hreceive _

inductive Evolves (s : ProjectionSystem Node Value) (a : Action Node Value)
    (t : ProjectionSystem Node Value) : Prop
  | spawn (snapshot : ActorSnapshot Value)
      (hinstances : t.instances = s.instances ++ [⟨snapshot, s.clock + 1⟩])
      (hcurrent : t.current = some s.instances.length) (hcached : t.cached = ⟨snapshot, s.clock + 1⟩)
      (hclock : t.clock = s.clock + 1)
  | change (k : Nat) (snapshot : ActorSnapshot Value) (ha : a = .change k snapshot)
      (hinstances : t.instances = s.instances.set k ⟨snapshot, s.clock + 1⟩)
      (hcurrent : t.current = s.current) (hcached : t.cached = s.cached)
      (hclock : t.clock = s.clock + 1)
  | stop (hinstances : t.instances = s.instances) (hcurrent : t.current = none)
      (hcached : t.cached = s.stoppedSnapshot) (hclock : t.clock = s.clock + 1)
  | handled (i k : Nat) (ha : a = .handled i) (hk : s.handlers[i]? = some k)
      (hinstances : t.instances = s.instances) (hcurrent : t.current = s.current)
      (hcached : s.instances[k]? = some t.cached) (hclock : t.clock = s.clock)
  | other (ha : ∀ i, a ≠ .handled i) (hinstances : t.instances = s.instances) (hcurrent : t.current = s.current)
      (hcached : t.cached = s.cached ∨ t.cached = s.localSnapshot) (hclock : t.clock = s.clock)

theorem step_evolves (h : step s a = some t) : Evolves s a t := by
  cases a with
  | spawn snapshot =>
    cases h
    exact .spawn snapshot rfl rfl rfl rfl
  | deliver =>
    obtain ⟨k, -, rfl⟩ := map_eq_some_iff.mp h
    exact .other (by simp) rfl rfl (.inl rfl) rfl
  | change k snapshot =>
    cases h
    exact .change k snapshot rfl rfl rfl rfl rfl
  | handled i =>
    obtain ⟨latest, hlatest, rfl⟩ := map_eq_some_iff.mp h
    obtain ⟨k, hk, hinstance⟩ := bind_eq_some_iff.mp hlatest
    simp only
    split
    case isTrue => exact .handled i k rfl hk rfl rfl hinstance rfl
    case isFalse =>
      rw [publish_fields]
      exact .handled i k rfl hk rfl rfl hinstance rfl
  | threw i =>
    simp only [step] at h
    split at h
    case isTrue =>
      cases h
      exact .other (by simp) rfl rfl (.inl rfl) rfl
    case isFalse => cases h
  | emit =>
    cases h
    rw [publishEvent_fields]
    exact .other (by simp) rfl rfl (.inl rfl) rfl
  | stop =>
    cases h
    rw [stop, publish_fields]
    exact .stop rfl rfl rfl rfl
  | stopped =>
    simp only [step, stopped] at h
    split at h
    case h_1 => cases h
    case h_2 =>
      cases h
      exact .other (by simp) rfl rfl (.inl rfl) rfl
  | receive n =>
    obtain ⟨⟨input, toPublisher⟩, -, rfl⟩ := map_eq_some_iff.mp h
    obtain ⟨hinstances, hcurrent, hcached, hclock⟩ :=
      handle_evolves (s.setNode n { s.nodes n with toPublisher }) n input
    exact .other (by simp) hinstances hcurrent hcached hclock
  | node n act =>
    obtain ⟨node, -, rfl⟩ := map_eq_some_iff.mp h
    exact .other (by simp) rfl rfl (.inl rfl) rfl

theorem step_counted (h : Counted s) (ht : step s a = some t) : Counted t := by
  cases step_evolves ht with
  | spawn snapshot hinstances hcurrent hcached hclock =>
    refine ⟨fun k x hx => ?_, Nat.le_of_eq (by rw [hcached, hclock])⟩
    rw [hinstances, List.getElem?_append] at hx
    rw [hclock]
    split at hx
    case isTrue => exact Nat.le_succ_of_le (h.instances k x hx)
    case isFalse =>
      obtain ⟨-, rfl⟩ := List.getElem?_eq_some_iff.mp hx
      simp
  | change k snapshot ha hinstances hcurrent hcached hclock =>
    refine ⟨fun j x hx => ?_, by rw [hcached, hclock]; exact Nat.le_succ_of_le h.cached⟩
    rw [hinstances, List.getElem?_set] at hx
    rw [hclock]
    split at hx
    case isTrue =>
      split at hx
      case isTrue =>
        exact Nat.le_of_eq (by rw [← some.inj hx])
      case isFalse => cases hx
    case isFalse => exact Nat.le_succ_of_le (h.instances j x hx)
  | stop hinstances hcurrent hcached hclock =>
    refine ⟨fun k x hx => ?_, Nat.le_of_eq (by rw [hcached, hclock, stoppedSnapshot])⟩
    rw [hinstances] at hx
    rw [hclock]
    exact Nat.le_succ_of_le (h.instances k x hx)
  | handled i k ha hk hinstances hcurrent hcached hclock =>
    refine ⟨fun j x hx => ?_, hclock ▸ h.instances k _ hcached⟩
    rw [hinstances] at hx
    exact hclock ▸ h.instances j x hx
  | other ha hinstances hcurrent hcached hclock =>
    refine ⟨fun j x hx => ?_, ?_⟩
    · rw [hinstances] at hx
      exact hclock ▸ h.instances j x hx
    · rw [hclock]
      obtain hsame | hread := hcached
      · rw [hsame]
        exact h.cached
      · rw [hread]
        exact h.localSnapshot

end ProjectionSystem

end ActorWeb
