import ActorWeb.ProjectionSteps
import ActorWeb.ProjectionViews

namespace ActorWeb.ProjectionSystem

open List Option WatcherNode RemoteView Transition Function

variable {Node Value : Type}

def FirstLife (s : ProjectionSystem Node Value) : Prop := s.instances.length = 1

structure Ordered (s : ProjectionSystem Node Value) : Prop where
  unique : ∀ n, Unique (s.nodes n)
  counted : Counted s
  lives : 0 < s.instances.length
  gap : ∀ n, (s.nodes n).view.gap = false
  gapless : ∀ n, Taking Gapless (s.nodes n).view (s.nodes n).coming
  rising : s.FirstLife → ∀ n, Taking Rising (s.nodes n).view (s.nodes n).coming
  shown : s.FirstLife → ∀ n, (s.nodes n).expected.shown.version ≤ s.localSnapshot.version

theorem ordered_start (snapshot : ActorSnapshot Value) :
    Ordered (start snapshot : ProjectionSystem Node Value) where
  unique := fun _ => ⟨nodup_nil, by intro id hid; cases hid⟩
  counted := by
    refine ⟨fun k x hx => ?_, Nat.le_refl _⟩
    obtain rfl := mem_singleton.mp (mem_of_getElem? hx)
    exact Nat.le_refl _
  lives := Nat.one_pos
  gap := fun _ => rfl
  gapless := fun _ => trivial
  rising := fun _ _ => trivial
  shown := fun _ _ => Nat.zero_le _

variable [DecidableEq Node] [DecidableEq Value]
  {s t : ProjectionSystem Node Value} {a : Action Node Value}

/-- The condition on a step. `gapless`: an update, or the answer to a replay, goes to a node
only when no number was skipped since the last one that the node has taken or has under
way; `rising`: in the first life of the actor nothing goes out under a smaller number than
that; `prompt`: see `WatcherNode.Prompt`; `alive`: in the first life no handler
completes after the actor was stopped. -/
structure InStep (s : ProjectionSystem Node Value) (a : Action Node Value) : Prop where
  gapless : ∀ n x, s.tells a n = some x → Gapless (s.nodes n).expected x
  rising : s.FirstLife → ∀ n x, s.tells a n = some x →
    ∀ last, (s.nodes n).expected.lastSequence = some last → last ≤ x.sequence
  prompt : ∀ n act, a = .node n act → (s.nodes n).Prompt act
  alive : s.FirstLife → ∀ i, a = .handled i → s.handlers[i]? = s.current

theorem step_length (h : step s a = some t) : s.instances.length ≤ t.instances.length := by
  cases step_evolves h with
  | spawn snapshot hinstances => simp [hinstances]
  | change k snapshot ha hinstances => simp [hinstances]
  | stop hinstances | handled i k ha hk hinstances | other ha hinstances =>
    exact Nat.le_of_eq (congrArg List.length hinstances.symm)

theorem localSnapshot_rises (hc : Counted s) (hlife : t.FirstLife) (hpos : 0 < s.instances.length)
    (halive : ∀ i, a = .handled i → s.handlers[i]? = s.current) (h : step s a = some t) :
    s.localSnapshot.version ≤ t.localSnapshot.version := by
  cases step_evolves h with
  | spawn snapshot hinstances =>
    simp only [FirstLife, hinstances, length_append, length_singleton] at hlife
    omega
  | change k snapshot ha hinstances hcurrent hcached hclock =>
    simp only [localSnapshot, hinstances, hcurrent, hcached]
    cases s.current with
    | none => exact Nat.le_refl _
    | some j =>
      simp only [bind_some]
      by_cases hkj : k = j
      · subst hkj
        obtain hlt | hge := Nat.lt_or_ge k s.instances.length
        · rw [getElem?_set_self hlt, getElem?_eq_getElem hlt]
          exact Nat.le_succ_of_le (hc.instances k _ (getElem?_eq_getElem hlt))
        · exact Nat.le_of_eq (by rw [set_eq_of_length_le hge])
      · exact Nat.le_of_eq (by rw [getElem?_set_ne hkj])
  | stop hinstances hcurrent hcached hclock =>
    have hlocal : t.localSnapshot = s.stoppedSnapshot := by
      simp [localSnapshot, hcurrent, hcached]
    rw [hlocal]
    exact Nat.le_succ_of_le hc.localSnapshot
  | handled i k ha hk hinstances hcurrent hcached hclock =>
    have hcur : s.current = some k := (halive i ha).symm.trans hk
    simp only [localSnapshot, hinstances, hcurrent, hcur, bind_some, hcached]
    exact Nat.le_refl _
  | other ha hinstances hcurrent hcached hclock =>
    exact Nat.le_of_eq
      (congrArg Stamped.version (localSnapshot_of_cached hinstances hcurrent hcached).symm)

theorem handled_evolves {i : Nat} (h : step s (.handled i) = some t) :
    t.instances = s.instances ∧ t.current = s.current := by
  obtain ⟨latest, -, rfl⟩ := map_eq_some_iff.mp h
  simp only
  split
  case isTrue => exact ⟨rfl, rfl⟩
  case isFalse =>
    rw [publish_fields]
    exact ⟨rfl, rfl⟩

theorem frameFor_shows (hc : Counted s) (halive : ∀ i, a = .handled i → s.handlers[i]? = s.current)
    (h : step s a = some t) {n : Node} {frame : ProjectionFrame Value} {shown : Stamped Value}
    (hframe : s.frameFor a n = some frame) (hshown : shownBy frame = some shown) :
    s.localSnapshot.version ≤ shown.version ∧ shown.version ≤ t.localSnapshot.version := by
  cases a with
  | spawn | deliver | change | threw | stopped | node => cases hframe
  | handled i =>
    obtain ⟨latest, hlatest, hsent⟩ := bind_eq_some_iff.mp hframe
    split at hsent
    case isFalse => cases hsent
    case isTrue =>
      cases hsent
      cases hshown
      obtain ⟨k, hk, hinstance⟩ := bind_eq_some_iff.mp hlatest
      have hcur : s.current = some k := (halive i rfl).symm.trans hk
      have hlocal : s.localSnapshot = latest := by simp [localSnapshot, hcur, hinstance]
      have hlater : t.localSnapshot = latest := by
        obtain ⟨hinstances, hcurrent⟩ := handled_evolves h
        simp [localSnapshot, hinstances, hcurrent, hcur, hinstance]
      exact ⟨Nat.le_of_eq (by rw [hlocal]), Nat.le_of_eq (by rw [hlater])⟩
  | emit =>
    simp only [frameFor] at hframe
    split at hframe
    case isFalse => cases hframe
    case isTrue =>
      cases hframe
      cases hshown
  | stop =>
    simp only [frameFor] at hframe
    split at hframe
    case isFalse => cases hframe
    case isTrue =>
      cases hframe
      cases hshown
      cases h
      refine ⟨Nat.le_succ_of_le hc.localSnapshot, Nat.le_of_eq ?_⟩
      rw [stop, publish_fields]
      rfl
  | receive m =>
    simp only [frameFor] at hframe
    split at hframe
    case isFalse => cases hframe
    case isTrue hm =>
      have hlater : t.localSnapshot = s.localSnapshot := by
        obtain ⟨⟨input, toPublisher⟩, -, rfl⟩ := map_eq_some_iff.mp h
        obtain ⟨hinstances, hcurrent, hcached, -⟩ :=
          handle_evolves (s.setNode m { s.nodes m with toPublisher }) m input
        exact localSnapshot_of_cached hinstances hcurrent hcached
      have hread : shown = s.localSnapshot := by
        obtain ⟨⟨input, toPublisher⟩, -, hreply⟩ := bind_eq_some_iff.mp hframe
        exact some.inj (hshown.symm.trans (reply_shows hreply))
      rw [hlater, hread]
      exact ⟨Nat.le_refl _, Nat.le_refl _⟩

theorem tells_shows (hc : Counted s) (halive : ∀ i, a = .handled i → s.handlers[i]? = s.current)
    (h : step s a = some t) {n : Node} {x : Told Value} (hx : s.tells a n = some x)
    {shown : Stamped Value} (hshown : x.carries = some shown) :
    s.localSnapshot.version ≤ shown.version ∧ shown.version ≤ t.localSnapshot.version := by
  obtain ⟨frame, hframe, htells⟩ := bind_eq_some_iff.mp hx
  split at htells
  case isTrue =>
    rw [carries_of_tellsFor htells] at hshown
    exact frameFor_shows hc halive h hframe hshown
  case isFalse => cases htells

theorem firstLife_of_step (hs : 0 < s.instances.length) (h : step s a = some t)
    (hlife : t.FirstLife) : s.FirstLife := by
  have hle := step_length h
  rw [FirstLife] at *
  omega

theorem node_step (hu : ∀ n, Unique (s.nodes n)) (hp : ∀ n act, a = .node n act → (s.nodes n).Prompt act)
    (h : step s a = some t) (n : Node) : ((t.nodes n).view = (s.nodes n).view ∧
      (t.nodes n).coming = (s.nodes n).coming ++ (s.tells a n).toList) ∨
    (s.tells a n = none ∧ Moves (s.nodes n) (t.nodes n)) := by
  by_cases ha : ∃ m act, a = .node m act
  · obtain ⟨m, act, rfl⟩ := ha
    obtain ⟨node, hnode, rfl⟩ := map_eq_some_iff.mp h
    refine .inr ⟨rfl, ?_⟩
    by_cases hm : n = m
    · subst hm
      rw [setNode_self]
      exact moves_step (hu n) (hp n act rfl) hnode
    · rw [setNode_ne s hm]
      exact .quiet rfl rfl
  · simp only [not_exists] at ha
    exact .inl (publisher_told ha h n)

theorem Ordered.step (ho : Ordered s) (hg : InStep s a) (h : step s a = some t) :
    Ordered t ∧ (t.FirstLife → ∀ n, Grows (s.nodes n).view (t.nodes n).view) := by
  have hfirst := firstLife_of_step ho.lives h
  have hnode := node_step ho.unique hg.prompt h
  refine ⟨⟨step_unique ho.unique h, step_counted ho.counted h,
    Nat.lt_of_lt_of_le ho.lives (step_length h), fun n => ?_, fun n => ?_, fun hlife n => ?_,
    fun hlife n => ?_⟩, fun hlife n => ?_⟩
  · obtain ⟨hview, -⟩ | ⟨-, hmoves⟩ := hnode n
    · rw [hview, ho.gap n]
    · rw [hmoves.view_gap (ho.gapless n), ho.gap n]
  · obtain ⟨hview, hcoming⟩ | ⟨-, hmoves⟩ := hnode n
    · rw [hview, hcoming]
      exact taking_toList (ho.gapless n) fun x hx => hg.gapless n x hx
    · exact hmoves.taking (ho.gapless n)
  · obtain ⟨hview, hcoming⟩ | ⟨-, hmoves⟩ := hnode n
    · rw [hview, hcoming]
      refine taking_toList (ho.rising (hfirst hlife) n) fun x hx => ⟨?_, fun shown hshown => ?_⟩
      · exact hg.rising (hfirst hlife) n x hx
      · have hle := (tells_shows ho.counted (hg.alive (hfirst hlife)) h hx hshown).1
        exact Nat.le_trans (ho.shown (hfirst hlife) n) hle
    · exact hmoves.taking (ho.rising (hfirst hlife) n)
  · have hrises := localSnapshot_rises ho.counted hlife ho.lives (hg.alive (hfirst hlife)) h
    have hold := Nat.le_trans (ho.shown (hfirst hlife) n) hrises
    obtain ⟨hview, hcoming⟩ | ⟨-, hmoves⟩ := hnode n
    · rw [expected, hview, hcoming, takeAll_append]
      cases hx : s.tells a n with
      | none => exact hold
      | some x =>
        obtain hsame | hnew := take_shown (s.nodes n).expected x
        · exact Nat.le_trans (Nat.le_of_eq (congrArg Stamped.version hsame)) hold
        · exact (tells_shows ho.counted (hg.alive (hfirst hlife)) h hx hnew).2
    · exact Nat.le_trans (hmoves.expected_grows (ho.rising (hfirst hlife) n)).version hold
  · obtain ⟨hview, -⟩ | ⟨-, hmoves⟩ := hnode n
    · rw [hview]
      exact .refl _
    · exact hmoves.view_grows (ho.rising (hfirst hlife) n)

/-- No gap was ever detected by a watcher, and in the first life of the actor no watcher goes
back behind what it showed before the step. -/
def InOrder (s t : ProjectionSystem Node Value) : Prop :=
  ∀ n, (t.nodes n).view.gap = false ∧ (t.FirstLife → Grows (s.nodes n).view (t.nodes n).view)

theorem inStep_node {n : Node} {act : NodeAction} (h : (s.nodes n).Prompt act) :
    InStep s (.node n act) where
  gapless := by intro m x hx; cases hx
  rising := by intro _ m x hx; cases hx
  prompt := by
    intro m act' ha
    obtain ⟨rfl, rfl⟩ := Action.node.inj ha
    exact h
  alive := by intro _ i ha; cases ha

theorem inStep_publisher (ha : ∀ m act, a ≠ .node m act)
    (halive : ∀ i, a = .handled i → s.handlers[i]? = s.current)
    (h : ∀ n, ∀ x ∈ s.tells a n, Gapless (s.nodes n).expected x ∧
      ∀ last ∈ (s.nodes n).expected.lastSequence, last ≤ x.sequence) : InStep s a where
  gapless := fun n x hx => (h n x hx).1
  rising := fun _ n x hx => (h n x hx).2
  prompt := fun m act hm => absurd hm (ha m act)
  alive := fun _ => halive

/-- A subscriber for snapshots gets the answer to its subscription and an update. -/
def updatedRun : List (Action Bool Nat) :=
  [.node false .connect, .node false .attend, .node false .subscribeSnapshots, .receive false,
    .node false .receive, .deliver, .change 0 ⟨.running, some 1⟩, .handled 0, .node false .receive]

/-- Node `false` subscribes to snapshots, node `true` to events; an event is emitted before the
snapshot changes. -/
def skippingRun : List (Action Bool Nat) :=
  [.node false .connect, .node true .connect, .node false .attend, .node true .attend,
    .node false .subscribeSnapshots, .receive false, .node false .receive,
    .node true .subscribeEvents, .receive true, .emit, .deliver, .change 0 ⟨.running, some 1⟩,
    .handled 0, .node false .receive]

end ActorWeb.ProjectionSystem
