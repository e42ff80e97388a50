import ActorWeb.GroupRestarts

namespace ActorWeb.ActorSystem

open Option hiding any_eq_true filter_map map_id map_map mem_map mem_map_of_mem

open List Supervision Transition Function

variable {s t u : System} {p q : ActorAddress} {i j : Nat} {v w : Invocation} {n : Next} {a : Action}
  {as : List Action} {g : GroupRestart} {group : SupervisorGroupConfig}
  {unspawned : List ActorAddress} {visited : List (ActorAddress × Bool)}

/-! ### Plans over members without repetition -/

theorem plan_spawn_mem {m : Member} (h : .spawn m ∈ g.plan unspawned visited) :
    g.member m.address = some m ∧ m.address ∈ unspawned ∧ (m.address, false) ∉ visited := by
  induction visited generalizing g with
  | nil =>
    obtain ⟨m', hm', he⟩ := mem_map.mp h
    obtain rfl := GroupCall.spawn.inj he
    obtain ⟨q, hq, hmember⟩ := mem_filterMap.mp hm'
    obtain rfl := GroupRestart.member_address hmember
    exact ⟨hmember, hq, not_mem_nil⟩
  | cons x visited ih =>
    obtain ⟨q, alive⟩ := x
    rw [GroupRestart.plan] at h
    split at h
    case isTrue hnone =>
      obtain ⟨hmember, hun, hvisited⟩ := ih h
      refine ⟨hmember, hun, fun hm => (mem_cons.mp hm).elim (fun he => ?_) hvisited⟩
      rw [← (Prod.mk.inj he).1, hmember] at hnone
      cases hnone
    case isFalse =>
      split at h
      case isTrue halive =>
        obtain ⟨hmember, hun, hvisited⟩ := ih ((mem_cons.mp h).resolve_left fun h => by cases h)
        refine ⟨hmember, hun, fun hm => (mem_cons.mp hm).elim (fun he => ?_) hvisited⟩
        rw [halive] at he
        cases (Prod.mk.inj he).2
      case isFalse =>
        obtain ⟨hmember, hun, hvisited⟩ := ih h
        have hne : m.address ≠ q := by
          intro he
          rw [he, GroupRestart.member_delete_self] at hmember
          cases hmember
        rw [GroupRestart.member_delete_ne hne] at hmember
        exact ⟨hmember, hun, fun hm =>
          (mem_cons.mp hm).elim (fun he => hne (Prod.mk.inj he).1) hvisited⟩

theorem plan_nodup (hnodup : (visited.map Prod.fst).Nodup)
    (hcaptured : ∀ p, (p, true) ∈ visited → (g.member p).isSome) :
    g.plan unspawned visited = (visited.filter (·.2)).map (fun x => .stop x.1) ++
      (unspawned.filterMap fun p => if (p, false) ∈ visited then none else g.member p).map
        .spawn := by
  induction visited generalizing g with
  | nil => simp only [GroupRestart.plan, not_mem_nil, if_false, filter_nil, map_nil,
      nil_append]
  | cons x visited ih =>
    obtain ⟨q, alive⟩ := x
    obtain ⟨hq, hrest⟩ := nodup_cons.mp hnodup
    have hcaptured' := fun p hp => hcaptured p (mem_cons_of_mem _ hp)
    rw [GroupRestart.plan]
    split
    case isTrue hnone =>
      have hdead : alive = false := by
        cases alive with
        | false => rfl
        | true =>
          have hsome := hcaptured q mem_cons_self
          rw [isNone_iff_eq_none.mp hnone] at hsome
          cases hsome
      rw [ih hrest hcaptured', hdead, filter_cons_of_neg Bool.false_ne_true]
      congr 3
      funext p
      by_cases hp : p = q
      · simp only [hp, isNone_iff_eq_none.mp hnone, ite_self]
      · simp only [mem_cons, Prod.mk.injEq, hp, false_and, false_or]
    case isFalse hsome =>
      cases alive with
      | true =>
        rw [if_pos rfl, ih hrest hcaptured', filter_cons_of_pos rfl]
        simp only [map_cons, cons_append, mem_cons, Prod.mk.injEq,
          Bool.false_eq_true, and_false, false_or]
      | false =>
        rw [if_neg Bool.false_ne_true, ih hrest ?_, filter_cons_of_neg Bool.false_ne_true]
        · congr 3
          funext p
          by_cases hp : p = q
          · simp only [hp, GroupRestart.member_delete_self, ite_self, mem_cons_self, if_true]
          · simp only [mem_cons, Prod.mk.injEq, hp, false_and, false_or,
              GroupRestart.member_delete_ne hp]
        · intro p hp
          have hne : p ≠ q := fun he => hq (mem_map.mpr ⟨(p, true), hp, he⟩)
          rw [GroupRestart.member_delete_ne hne]
          exact hcaptured' p hp

theorem filter_alive (hnodup : (visited.map Prod.fst).Nodup) : (visited.filter (·.2)).map Prod.fst =
      (visited.map Prod.fst).filter fun p => (p, true) ∈ visited := by
  rw [filter_map]
  congr 1
  refine filter_congr fun x hx => ?_
  obtain ⟨p, alive⟩ := x
  cases alive with
  | true => simp only [Function.comp_apply, hx, decide_true]
  | false =>
    symm
    rw [Function.comp_apply, decide_eq_false_iff_not]
    exact fun htrue => nomatch (Prod.mk.inj (inj_on_of_nodup_map hnodup hx htrue rfl)).2

/-! ### Members that others stop -/

def System.Removing (s : System) (j : Nat) (p : ActorAddress) : Prop :=
  ∃ i v, i ≠ j ∧ s.invocations[i]? = some v ∧ v.call.removes p

def System.Gone (s : System) (j : Nat) (p : ActorAddress) : Prop :=
  s.actors p = none ∨ s.Removing j p

theorem gone_step (h : step s a = some t) (hgone : s.Gone j p)
    (hspawn : ∀ behavior policy, s.request a ≠ some (.spawn p behavior policy)) : t.Gone j p := by
  obtain hdead | ⟨i, v, hi, hv, hremoves⟩ := hgone
  · left
    obtain hkeeps | ⟨hnone, -⟩ := step_registration h hspawn
    · exact (congrArg Registration.actor hkeeps).trans hdead
    · exact congrArg Registration.actor hnone
  · by_cases ha : a.invocation = some i
    · cases a with
      | advance i' o =>
        obtain rfl : i' = i := some.inj ha
        obtain ⟨n, hn, -, rfl, hnext⟩ := advance_invocation h hv
        obtain ⟨call, driver, base⟩ := v
        obtain ⟨r, stage, rfl, hstage⟩ := removes_inv hremoves
        cases hn
        have hlater : ∀ stage', (s.advanceStop p r stage).2 = .stop p r stage' →
            (Call.stop p r stage').removes p → (Next.settle _ i').Gone j p :=
          fun stage' hcall hrem => .inr ⟨i', _, hi, hnext, by
            simp only [System.perform, hcall, hrem]⟩
        simp only [mem_cons, not_mem_nil, or_false] at hstage
        obtain rfl | rfl | rfl := hstage
        · by_cases hon : s.hasOnStop p
          · exact hlater .onStop (by simp only [System.advanceStop, hon, if_true])
              (decide_eq_true rfl)
          · refine hlater .publish ?_ (decide_eq_true rfl)
            rw [System.advanceStop, if_neg hon]
        · exact hlater .publish rfl (decide_eq_true rfl)
        · exact .inl (update_self ..)
      | _ => cases ha
    · exact .inr ⟨i, v, hi, step_invocation h ha hv, hremoves⟩

/-! ### Failures of children -/

def System.failure (s : System) : Action → Option ActorAddress
  | .advance i _ =>
    match s.invocations[i]? with
    | some ⟨.returned true, none, .processing p _ _⟩ => some p
    | some ⟨.returned true, none, .testing p⟩ => some p
    | _ => none
  | _ => none

/-- A failure was not just logged: an invocation carries out a decision about it. -/
def System.Decided (t : System) (a : Action) : Prop :=
  ∃ i v, a.invocation = some i ∧ t.invocations[i]? = some v ∧ v.driver.isSome ∧
    v.call ≠ .returned false

structure RestartsGroup (s : System) (a : Action) (group : SupervisorGroupConfig)
    (p : ActorAddress) : Prop where
  failure : s.failure a = some p
  alive : (s.actors p).isSome
  group_eq : (s.groupKeyOf p).bind s.groupOf = some group
  free : ¬(s.groupKeyOf p).any s.restartingGroups
  decision : ∃ stopOrder spawnOrder,
    resolveTreeSupervisionDecision (s.childDecision p (some group)) (some group) p =
      .restartGroup stopOrder spawnOrder

/-! ### What a group restart promises -/

def GroupAction.Allows (A : GroupAction) : Request → Prop
  | .stop p _ => ¬A.Due p
  | .spawn p _ _ => p ∉ A.unreached
  | _ => True

/-- Nobody else stops a member between its stop and its spawn by the group restart, spawns
one that it has not reached, or is stopping one when it reaches it; and no child that it
leaves alone fails meanwhile. -/
def LeftAlone (j : Nat) (group : SupervisorGroupConfig) (p : ActorAddress) (s : System)
    (a : Action) : Prop :=
  (if a.invocation = some j then ∀ q ∈ s.reaching j, ¬s.Removing j q
   else ∀ A ∈ s.groupAction j, ∀ r ∈ s.request a, A.Allows r) ∧
    ∀ q ∈ s.failure a, q ∈ group.children → q ∉ respawnOrder group p →
      ¬(s.groupKeyOf q).any s.restartingGroups

/-- The members that are alive when the group restart of a failed child reaches them are
stopped, the last declared first, and then spawned as they were, the first declared
first; none is stopped twice or comes back from a stop by somebody else; and the other
children are left alone and still supervised. -/
structure RestartsAsUnit (j : Nat) (group : SupervisorGroupConfig) (p : ActorAddress) (u : System)
    (as : List Action) (t : System) : Prop where
  unit : ∃ (members : List Member) (rest : List GroupCall),
    members.map Member.address =
        (respawnOrder group p).filter (fun q => (q, true) ∈ visits j u as) ∧
      (∀ m ∈ members, u.originalBehaviors m.address = some m.behavior ∧
        u.policies m.address = m.policy) ∧
      calls j u as ++ rest =
        members.reverse.map (fun m => .stop m.address) ++ members.map .spawn ∧
      (¬t.Acts j → rest = [] ∧ (visits j u as).map Prod.fst = (respawnOrder group p).reverse)
  once : Along step (fun s a _ => ∀ q, .stop q ∈ s.groupCalls j a → ¬s.Removing j q) u as
  stays : ∀ before a after x y q r, as = before ++ a :: after → exec step u before = some x →
    step x a = some y → a.invocation ≠ some j → x.request a = some (.stop q r) →
    q ∈ respawnOrder group p → ∀ m, .spawn m ∈ calls j y after → m.address ≠ q
  decided : Along step (fun s a t => ∀ q, s.failure a = some q → q ∈ group.children →
    q ∉ respawnOrder group p → (s.actors q).isSome → t.Decided a) u as

/-! ### The first segment -/

theorem respawnOrder_of_decision {d : Decision} {stopOrder spawnOrder : List ActorAddress}
    (h : resolveTreeSupervisionDecision d (some group) p = .restartGroup stopOrder spawnOrder) :
    stopOrder = (respawnOrder group p).reverse ∧ spawnOrder = respawnOrder group p := by
  simp only [resolveTreeSupervisionDecision] at h
  split at h
  · cases h
  · split at h
    · cases h
    · cases h
    · split at h
      · cases h
      · cases h
      · cases h
      · obtain ⟨rfl, rfl⟩ := TreeDecision.restartGroup.inj h
        exact ⟨rfl, rfl⟩

def System.capture (s : System) (p : ActorAddress) : Option Member :=
  (s.originalBehaviors p).map fun behavior => ⟨p, behavior, s.policies p⟩

theorem applySupervisionStrategy_restarts (s : System) (i : Nat) (base : Base)
    (halive : (s.actors p).isSome) (hgroup : (s.groupKeyOf p).bind s.groupOf = some group)
    (hfree : ¬(s.groupKeyOf p).any s.restartingGroups) (hdecision : ∃ stopOrder spawnOrder,
      resolveTreeSupervisionDecision (s.childDecision p (some group)) (some group) p =
        .restartGroup stopOrder spawnOrder) : s.applySupervisionStrategy i base p =
      (s.setCount p (s.childDecision p (some group))).restartSupervisorGroup base group p
        (respawnOrder group p).reverse (respawnOrder group p) := by
  obtain ⟨stopOrder, spawnOrder, hdecision⟩ := hdecision
  obtain ⟨behavior, hb⟩ := isSome_iff_exists.mp halive
  obtain ⟨rfl, rfl⟩ := respawnOrder_of_decision hdecision
  unfold System.applySupervisionStrategy
  rw [if_neg hfree]
  simp only [hb, hgroup, hdecision]

theorem stopSupervisorGroup_decides (base : Base) (failed : ActorAddress) (reason : GiveUpReason)
    (rest : List ActorAddress) : let n := s.stopSupervisorGroup base group failed reason rest
    n.driver.isSome ∧ (n.system.perform n.request).2 ≠ .returned false := by
  induction rest with
  | nil => exact ⟨rfl, fun h => by cases h⟩
  | cons q rest ih =>
    rw [System.stopSupervisorGroup]
    split
    · exact ih
    · exact ⟨rfl, fun h => by cases h⟩

theorem applySupervisionStrategy_decides (s : System) (i : Nat) (base : Base)
    (halive : (s.actors p).isSome) (hfree : ¬(s.groupKeyOf p).any s.restartingGroups) :
    let n := s.applySupervisionStrategy i base p
    n.driver.isSome ∧ (n.system.perform n.request).2 ≠ .returned false := by
  obtain ⟨behavior, hb⟩ := isSome_iff_exists.mp halive
  unfold System.applySupervisionStrategy
  rw [if_neg hfree]
  simp only [hb]
  split
  case h_1 => exact ⟨rfl, nofun⟩
  case h_2 => exact stopSupervisorGroup_decides base p _ _
  case h_3 =>
    cases s.decide p (s.policies p) with
    | restart | stopPermanent | stop | escalate | resume => exact ⟨rfl, nofun⟩

theorem failure_inv (h : s.failure a = some p) :
    ∃ i o v, a = .advance i o ∧ s.invocations[i]? = some v ∧
      ∃ base, ∀ o', s.next i o' v = some (s.applySupervisionStrategy i base p) := by
  cases a with
  | advance i o =>
    simp only [System.failure] at h
    split at h
    case h_1 hv =>
      cases h
      exact ⟨i, o, _, rfl, hv, _, fun _ => rfl⟩
    case h_2 hv =>
      cases h
      exact ⟨i, o, _, rfl, hv, _, fun _ => rfl⟩
    case h_3 => cases h
  | _ => cases h

theorem failure_decided (h : step s a = some t) (hfail : s.failure a = some p)
    (halive : (s.actors p).isSome) (hfree : ¬(s.groupKeyOf p).any s.restartingGroups) :
    t.Decided a := by
  obtain ⟨i, o, v, rfl, hv, base, hnext⟩ := failure_inv hfail
  obtain ⟨n, hn, -, rfl, hi⟩ := advance_invocation h hv
  obtain rfl := some.inj ((hnext o).symm.trans hn)
  obtain ⟨hdriver, hcall⟩ := applySupervisionStrategy_decides s i base halive hfree
  exact ⟨i, _, rfl, hi, hdriver, hcall⟩

theorem capture_of_keeps (h : Keeps s t) : t.capture = s.capture := by
  funext q
  simp only [System.capture, h.originalBehaviors, h.policies]

theorem begin_action {o : Outcome} (h : step s (.advance j o) = some u)
    (hb : RestartsGroup s (.advance j o) group p) :
    ∃ g, u.groupAction j = some ⟨g, (respawnOrder group p).reverse, respawnOrder group p⟩ ∧
      g.captured = (respawnOrder group p).filterMap u.capture ∧ u.Engaged j := by
  obtain ⟨i, o', v, ha, hv, base, hnext⟩ := failure_inv hb.failure
  obtain ⟨rfl, rfl⟩ := Action.advance.inj ha
  obtain ⟨n, hn, -, rfl, hi⟩ := advance_invocation h hv
  obtain rfl := some.inj ((hnext o).symm.trans hn)
  have hrestarts :=
    applySupervisionStrategy_restarts s j base hb.alive hb.group_eq hb.free hb.decision
  rw [hrestarts] at hi ⊢
  refine ⟨_, groupAction_of hi rfl, ?_, fun _ => ⟨_, hi, trivial⟩⟩
  exact congrArg (fun f => (respawnOrder group p).filterMap f) (capture_of_keeps ⟨rfl, rfl, rfl⟩).symm

/-! ### A whole group restart -/

theorem groupAction_other (h : step s a = some t) (ha : a.invocation ≠ some j) {A : GroupAction}
    (hA : s.groupAction j = some A) : t.groupAction j = some A := by
  obtain ⟨v, d, hv, hd, hdA⟩ := groupAction_inv hA
  exact (groupAction_of (step_invocation h ha hv) hd).trans hdA

theorem stop_removes {r : Option StopReason} (h : step s a = some t)
    (hr : s.request a = some (.stop p r)) (ha : a.invocation ≠ some j)
    (hj : s.invocations[j]? = some v) : t.Removing j p := by
  have hlt : j < s.invocations.length := (List.getElem?_eq_some_iff.mp hj).1
  have huser : ∀ u : System, u.invocations = s.invocations →
      (u.invoke (.stop p none)).Removing j p := by
    intro u hu
    refine ⟨s.invocations.length, ⟨.stop p none .stoppingEvent, none, .caller⟩,
      Nat.ne_of_gt hlt, ?_, decide_eq_true rfl⟩
    rw [System.invoke, perform_invocations, hu]
    exact getElem?_concat_length
  cases a with
  | stop q =>
    obtain ⟨rfl, -⟩ := Request.stop.inj (some.inj hr)
    cases h
    exact huser (s.record (.userStop q)) rfl
  | stopInternal q =>
    obtain ⟨rfl, -⟩ := Request.stop.inj (some.inj hr)
    simp only [step] at h
    split at h
    case isTrue =>
      cases h
      exact huser (s.record (.userStop q)) rfl
    case isFalse => cases h
  | advance i o =>
    obtain ⟨w, n, hw, hn, hrequest, rfl⟩ := advance_inv h
    obtain ⟨n', hn', hrequest', hsettle, hi⟩ := advance_invocation h hw
    obtain rfl := some.inj (hn.symm.trans hn')
    have hstop : n.request = .stop p r := some.inj (hrequest.symm.trans hr)
    refine ⟨i, _, fun he => ha (congrArg some he), hi, ?_⟩
    rw [hstop]
    exact decide_eq_true rfl
  | spawn => cases hr
  | tick | setTestMode | setSystemEventActor | stopSystem | enqueueMessage | processNextMessage =>
    cases hr

theorem gone_unseen (hE : s.Engaged j) (h : exec step s as = some t)
    (hacts : Along step (fun s _ _ => s.Acts j) s as)
    (hG : Guarded step (LeftAlone j group p) s as) (hgone : s.Gone j q) :
    (q, true) ∉ visits j s as := by
  induction as generalizing s with
  | nil => exact nofun
  | cons a as ih =>
    obtain ⟨u, ha, hu⟩ := exec_cons.mp h
    obtain ⟨hact, hacts⟩ := hacts u ha
    obtain ⟨⟨hmine, -⟩, hG⟩ := hG u ha
    obtain ⟨A, hA⟩ := isSome_iff_exists.mp hact
    obtain ⟨hEu, ⟨now, hnow, -, hreach, -⟩, hspawns⟩ := acting_step ha hE hA
    have hlater := (calls_plan hEu hu hacts).1
    simp only [visits, ha, reached_eq (t := u) ((unreached_of hA).trans hnow), mem_append,
      not_or]
    constructor
    · intro hm
      obtain ⟨q', hq', he⟩ := mem_map.mp hm
      obtain ⟨rfl, halive⟩ := Prod.mk.inj he
      obtain ⟨hown, hreaching⟩ := hreach q' hq'
      rw [if_pos hown] at hmine
      obtain hdead | hremoving := hgone
      · rw [hdead] at halive
        cases halive
      · exact hmine q' hreaching hremoving
    · intro hm
      have hq : q ∈ u.unreached j := by
        rw [hlater]
        exact mem_append_left _ (mem_map_of_mem (f := Prod.fst) hm)
      refine ih hEu hu hacts hG (gone_step ha hgone fun b c hr => ?_) hm
      by_cases hown : a.invocation = some j
      · rw [hspawns q b c hown hr] at hq
        cases hq
      · rw [if_neg hown] at hmine
        have hallows : q ∉ A.unreached := hmine A hA _ hr
        rw [hnow] at hallows
        exact hallows (mem_append_right now hq)

theorem filterMap_member_address {ps : List ActorAddress}
    (h : ∀ q ∈ ps, (g.member q).isSome) : (ps.filterMap g.member).map Member.address = ps := by
  induction ps with
  | nil => rfl
  | cons q ps ih =>
    obtain ⟨m, hm⟩ := isSome_iff_exists.mp (h q mem_cons_self)
    rw [filterMap_cons_some hm, map_cons, ih fun q' hq' => h q' (mem_cons_of_mem q hq'),
      GroupRestart.member_address hm]

structure Captured (u : System) (j : Nat) (group : SupervisorGroupConfig) (p : ActorAddress)
    (g : GroupRestart) : Prop where
  action : u.groupAction j = some ⟨g, (respawnOrder group p).reverse, respawnOrder group p⟩
  captured : g.captured = (respawnOrder group p).filterMap u.capture
  engaged : u.Engaged j
  registered : Registered u

namespace Captured

theorem member_inv (hc : Captured u j group p g) {m : Member} (h : g.member q = some m) :
    m.address = q ∧ u.originalBehaviors q = some m.behavior ∧ u.policies q = m.policy := by
  have hq := GroupRestart.member_address h
  have hm := mem_of_find?_eq_some h
  rw [hc.captured] at hm
  obtain ⟨q', -, hcapture⟩ := mem_filterMap.mp hm
  obtain ⟨behavior, hb, rfl⟩ := map_eq_some_iff.mp hcapture
  obtain rfl : q' = q := hq
  exact ⟨rfl, hb, rfl⟩

theorem gone_of_uncaptured (hc : Captured u j group p g) (hq : q ∈ respawnOrder group p)
    (h : ¬(g.member q).isSome) : u.Gone j q := by
  left
  by_contra halive
  obtain ⟨behavior, hb⟩ :=
    isSome_iff_exists.mp (hc.registered q (isSome_iff_ne_none.mpr halive))
  refine h (find?_isSome.mpr ⟨⟨q, behavior, u.policies q⟩, ?_, decide_eq_true rfl⟩)
  rw [hc.captured]
  refine mem_filterMap.mpr ⟨q, hq, ?_⟩
  rw [System.capture, hb]
  rfl

theorem alive_captured (hc : Captured u j group p g) (h : exec step u as = some t)
    (hacts : Along step (fun s _ _ => s.Acts j) u as)
    (hG : Guarded step (LeftAlone j group p) u as) (hq : (q, true) ∈ visits j u as) :
    (g.member q).isSome := by
  by_contra hnone
  have hmem : q ∈ respawnOrder group p := by
    rw [← mem_reverse]
    change q ∈ GroupAction.unreached ⟨g, (respawnOrder group p).reverse, respawnOrder group p⟩
    rw [← unreached_of hc.action, (calls_plan hc.engaged h hacts).1]
    exact mem_append_left _ (mem_map_of_mem (f := Prod.fst) hq)
  exact gone_unseen hc.engaged h hacts hG (hc.gone_of_uncaptured hmem hnone) hq

theorem unit (hc : Captured u j group p g) (h : exec step u as = some t)
    (hacts : Along step (fun s _ _ => s.Acts j) u as)
    (hnodup : (respawnOrder group p).Nodup) (hG : Guarded step (LeftAlone j group p) u as) :
    ∃ (members : List Member) (rest : List GroupCall),
      members.map Member.address =
          (respawnOrder group p).filter (fun q => (q, true) ∈ visits j u as) ∧
        (∀ m ∈ members, u.originalBehaviors m.address = some m.behavior ∧
          u.policies m.address = m.policy) ∧
        calls j u as ++ rest =
          members.reverse.map (fun m => .stop m.address) ++ members.map .spawn ∧
        (¬t.Acts j → rest = [] ∧ (visits j u as).map Prod.fst = (respawnOrder group p).reverse) := by
  obtain ⟨hvisits, hcalls⟩ := calls_plan hc.engaged h hacts
  have hall := unreached_of hc.action
  rw [hvisits] at hall
  -- The members that are still unreached count as gone.
  let later := (t.unreached j).map fun q => (q, false)
  have hlater : later.map Prod.fst = t.unreached j := by
    rw [map_map]
    exact map_id _
  have hfst : (visits j u as ++ later).map Prod.fst = (respawnOrder group p).reverse := by
    rw [map_append, hlater]
    exact hall
  have htrue : ∀ q, (q, true) ∈ visits j u as ++ later ↔ (q, true) ∈ visits j u as := by
    intro q
    rw [mem_append, or_iff_left]
    intro hm
    obtain ⟨q', -, he⟩ := mem_map.mp hm
    cases (Prod.mk.inj he).2
  have hvs : ((visits j u as ++ later).map Prod.fst).Nodup := by
    rw [hfst]
    exact nodup_reverse.mpr hnodup
  have hfalse : ∀ q ∈ respawnOrder group p,
      (q, false) ∉ visits j u as ++ later ↔ (q, true) ∈ visits j u as := by
    intro q hq
    rw [← htrue q]
    rw [← mem_reverse, ← hfst] at hq
    obtain ⟨⟨q', alive⟩, hx, rfl⟩ := mem_map.mp hq
    cases alive with
    | true =>
      refine iff_of_true (fun hf => ?_) hx
      cases (Prod.mk.inj (inj_on_of_nodup_map hvs hf hx rfl)).2
    | false =>
      refine iff_of_false (not_not_intro hx) fun ht => ?_
      cases (Prod.mk.inj (inj_on_of_nodup_map hvs hx ht rfl)).2
  have hplan := hcalls later hlater
  rw [plan_of hc.action, GroupAction.plan, plan_nodup hvs
    fun q hq => hc.alive_captured h hacts hG ((htrue q).mp hq)] at hplan
  have hsome := fun q (hq : q ∈ (respawnOrder group p).filter
      fun q => (q, true) ∈ visits j u as) =>
    hc.alive_captured h hacts hG (of_decide_eq_true (mem_filter.mp hq).2)
  have haddress := filterMap_member_address hsome
  refine ⟨((respawnOrder group p).filter fun q => (q, true) ∈ visits j u as).filterMap g.member,
    t.plan j later, haddress, fun m hm => ?_, ?_, fun hend => ?_⟩
  · obtain ⟨q, -, hq⟩ := mem_filterMap.mp hm
    obtain ⟨rfl, hinv⟩ := hc.member_inv hq
    exact hinv
  · rw [← hplan]
    congr 1
    · trans (((visits j u as ++ later).filter (·.2)).map Prod.fst).map GroupCall.stop
      · rw [map_map]
        rfl
      · rw [filter_alive hvs, hfst]
        simp only [htrue, filter_reverse]
        rw [← haddress, ← map_reverse, map_map, haddress]
        rfl
    · rw [filterMap_filter]
      congr 1
      refine filterMap_congr fun q hq => ?_
      by_cases ht : (q, true) ∈ visits j u as
      · simp only [if_neg ((hfalse q hq).mpr ht), ht, decide_true, if_true]
      · have hf := not_not.mp (mt (hfalse q hq).mp ht)
        simp only [if_pos hf, ht, decide_false, Bool.false_eq_true, if_false]
  · have hnone : t.groupAction j = none := not_isSome_iff_eq_none.mp hend
    constructor
    · simp only [System.plan, hnone, map_none, getD_none]
    · simp only [System.unreached, hnone, map_none, getD_none, append_nil] at hall
      exact hall

end Captured

theorem engaged_along (hE : s.Engaged j) (h : exec step s as = some t)
    (hacts : Along step (fun s _ _ => s.Acts j) s as) : t.Engaged j := by
  refine along_invariant (I := fun s => s.Engaged j) (P := fun s _ _ => s.Acts j) ?_ hE hacts h
  intro s a t hE hstep hact
  obtain ⟨A, hA⟩ := isSome_iff_exists.mp hact
  exact (acting_step hstep hE hA).engaged

theorem stopped_stays {before after : List Action} {x y : System} {r : Option StopReason}
    (hE : u.Engaged j) (h : exec step u (before ++ a :: after) = some t)
    (hacts : Along step (fun s _ _ => s.Acts j) u (before ++ a :: after))
    (hG : Guarded step (LeftAlone j group p) u (before ++ a :: after))
    (hx : exec step u before = some x) (hy : step x a = some y) (ha : a.invocation ≠ some j)
    (hr : x.request a = some (.stop q r)) {m : Member} (hm : .spawn m ∈ calls j y after) :
    m.address ≠ q := by
  rintro rfl
  rw [exec_append, hx, bind_some] at h
  obtain ⟨y', hy', hafter⟩ := exec_cons.mp h
  obtain rfl := some.inj (hy.symm.trans hy')
  obtain ⟨hbefore, hacts⟩ := (along_append hx).mp hacts
  obtain ⟨hact, hacts⟩ := hacts y hy
  obtain ⟨⟨hothers, -⟩, hG⟩ := ((along_append hx).mp hG).2 y hy
  obtain ⟨A, hA⟩ := isSome_iff_exists.mp hact
  obtain ⟨v, -, hv, -⟩ := groupAction_inv hA
  have hEy := (acting_step hy (engaged_along hE hx hbefore) hA).engaged
  have hAy := groupAction_other hy ha hA
  obtain ⟨hunreached, hcalls⟩ := calls_plan hEy hafter hacts
  -- The members that are still unreached at the end count as gone.
  have hplan := hcalls ((t.unreached j).map fun q => (q, false)) (by
    rw [map_map]
    exact map_id _)
  have hspawn : .spawn m ∈ y.plan j
      (visits j y after ++ (t.unreached j).map fun q => (q, false)) := by
    rw [hplan]
    exact mem_append_left _ hm
  rw [plan_of hAy] at hspawn
  obtain ⟨hmember, hun, hfalse⟩ := plan_spawn_mem hspawn
  rw [if_neg ha] at hothers
  have hdue : ¬A.Due m.address := hothers A hA _ hr
  have hmem : m.address ∈ A.unreached := by
    by_contra hreached
    refine hdue ⟨hreached, hun, ?_⟩
    rw [GroupAction.captured, hmember]
    rfl
  rw [← unreached_of hAy, hunreached] at hmem
  obtain hseen | hleft := mem_append.mp hmem
  · obtain ⟨⟨q, alive⟩, hq, rfl⟩ := mem_map.mp hseen
    cases alive with
    | false => exact hfalse (mem_append_left _ hq)
    | true => exact gone_unseen hEy hafter hacts hG (.inr (stop_removes hy hr ha hv)) hq
  · exact hfalse (mem_append_right _ (mem_map.mpr ⟨_, hleft, rfl⟩))

theorem stop_once (hE : u.Engaged j) (hacts : Along step (fun s _ _ => s.Acts j) u as)
    (hG : Guarded step (LeftAlone j group p) u as) :
    Along step (fun s a _ => ∀ q, .stop q ∈ s.groupCalls j a → ¬s.Removing j q) u as := by
  refine along_of_guarded (I := fun s => s.Engaged j)
    (G := fun s a => s.Acts j ∧ LeftAlone j group p s a) ?_ hE (along_and.mpr ⟨hacts, hG⟩)
  rintro s a t hE ⟨hact, hmine, -⟩ hstep
  obtain ⟨A, hA⟩ := isSome_iff_exists.mp hact
  obtain ⟨hEt, ⟨now, -, -, hreach, hstop⟩, -⟩ := acting_step hstep hE hA
  refine ⟨hEt, fun q hq => ?_⟩
  obtain ⟨hown, hreaching⟩ := hreach q (hstop q hq)
  rw [if_pos hown] at hmine
  exact hmine q hreaching

theorem others_decided (hG : Guarded step (LeftAlone j group p) u as) :
    Along step (fun s a t => ∀ q, s.failure a = some q → q ∈ group.children →
      q ∉ respawnOrder group p → (s.actors q).isSome → t.Decided a) u as := by
  refine along_of_guarded (I := fun _ => True) (G := LeftAlone j group p) ?_ trivial hG
  rintro s a t - ⟨-, hfails⟩ hstep
  exact ⟨trivial, fun q hq hchild hout halive =>
    failure_decided hstep hq halive (hfails q hq hchild hout)⟩

instance (s : System) (j : Nat) (p : ActorAddress) : Decidable (s.Removing j p) :=
  decidable_of_iff (∃ i < s.invocations.length, i ≠ j ∧
      ∃ v ∈ s.invocations[i]?, v.call.removes p = true) <| by
    constructor
    · rintro ⟨i, -, hi, v, hv, hremoves⟩
      exact ⟨i, v, hi, hv, hremoves⟩
    · rintro ⟨i, v, hi, hv, hremoves⟩
      exact ⟨i, (List.getElem?_eq_some_iff.mp hv).1, hi, v, hv, hremoves⟩

instance (A : GroupAction) (p : ActorAddress) : Decidable (A.Due p) :=
  inferInstanceAs (Decidable (_ ∧ _ ∧ _))

instance (A : GroupAction) : (r : Request) → Decidable (A.Allows r)
  | .stop p _ => inferInstanceAs (Decidable (¬A.Due p))
  | .spawn p _ _ => inferInstanceAs (Decidable (p ∉ A.unreached))
  | .await _ | .deliver _ _ => .isTrue trivial

instance (j : Nat) (group : SupervisorGroupConfig) (p : ActorAddress) (s : System) (a : Action) :
    Decidable (LeftAlone j group p s a) :=
  inferInstanceAs (Decidable (_ ∧ _))

/-- A supervisor group whose members are left alone restarts as a unit. -/
theorem group_restarts_as_unit (maxActors : Nat) (supervisors : List SupervisorGroupConfig)
    (before as : List Action) (s u t : System) (j : Nat) (o : Outcome)
    (group : SupervisorGroupConfig) (p : ActorAddress)
    (hs : exec step (start maxActors supervisors) before = some s)
    (hbegin : RestartsGroup s (.advance j o) group p)
    (hu : step s (.advance j o) = some u) (ht : exec step u as = some t)
    (hacts : Along step (fun s _ _ => s.Acts j) u as)
    (hnodup : (respawnOrder group p).Nodup) (hG : Guarded step (LeftAlone j group p) u as) :
    RestartsAsUnit j group p u as t := by
  have hregistered : Registered u := by
    refine step_registered ?_ hu
    exact exec_invariant (fun _ _ _ => step_registered) (start_registered maxActors supervisors) hs
  obtain ⟨g, haction, hcaptured, hE⟩ := begin_action hu hbegin
  refine ⟨Captured.unit ⟨haction, hcaptured, hE, hregistered⟩ ht hacts hnodup hG,
    stop_once hE hacts hG, ?_, others_decided hG⟩
  intro before a after x y q r hcut hx hy ha hr _ m hm
  subst hcut
  exact stopped_stays hE ht hacts hG hx hy ha hr hm

section Runs

instance : (d : TreeDecision) → Decidable (∃ x y, d = .restartGroup x y)
  | .restartGroup x y => .isTrue ⟨x, y, rfl⟩
  | .passThrough => .isFalse nofun
  | .giveUpGroup _ _ => .isFalse nofun

instance (s : System) (a : Action) (group : SupervisorGroupConfig) (p : ActorAddress) :
    Decidable (RestartsGroup s a group p) :=
  decidable_of_iff (s.failure a = some p ∧ (s.actors p).isSome ∧
      (s.groupKeyOf p).bind s.groupOf = some group ∧ ¬(s.groupKeyOf p).any s.restartingGroups ∧
      ∃ x y, resolveTreeSupervisionDecision (s.childDecision p (some group)) (some group) p =
        .restartGroup x y)
    ⟨fun ⟨h₁, h₂, h₃, h₄, h₅⟩ => ⟨h₁, h₂, h₃, h₄, h₅⟩,
      fun ⟨h₁, h₂, h₃, h₄, h₅⟩ => ⟨h₁, h₂, h₃, h₄, h₅⟩⟩

def first : ActorAddress := "actor://n/first".toList

def second : ActorAddress := "actor://n/second".toList

def spawned (p : ActorAddress) (onStop : Bool) (i : Nat) : List Action :=
  .spawn p ⟨onStop⟩ none :: List.replicate 3 (.advance i .ok)

def failing (p : ActorAddress) (i loop : Nat) : List Action :=
  [.enqueueMessage p, .advance i .ok] ++ List.replicate 3 (.advance loop .ok) ++
    [.advance loop .threw]

def groupOf (strategy : GroupStrategy) (children : List ActorAddress) : SupervisorGroupConfig :=
  ⟨"group".toList, strategy, children⟩

/-- A run in which a group restart with a property under way takes the given steps. -/
def Happens (group : SupervisorGroupConfig) (p : ActorAddress) (before : List Action) (j : Nat)
    (as : List Action) (P : System → System → Prop) : Prop :=
  ∃ s u t, exec step (start 0 [group]) before = some s ∧ RestartsGroup s (.advance j .ok) group p ∧
    step s (.advance j .ok) = some u ∧ exec step u as = some t ∧
    Along step (fun s _ _ => s.Acts j) u as ∧ P u t

def happens (group : SupervisorGroupConfig) (p : ActorAddress) (before : List Action) (j : Nat)
    (as : List Action) (test : System → System → Bool) : Bool :=
  (exec step (start 0 [group]) before).any fun s =>
    decide (RestartsGroup s (.advance j .ok) group p) && (step s (.advance j .ok)).any fun u =>
      (exec step u as).any fun t =>
        decide (Along step (fun s _ _ => s.Acts j) u as) && test u t

theorem happens_of {before as : List Action} {test : System → System → Bool}
    (h : happens group p before j as test) : Happens group p before j as fun u t => test u t := by
  obtain ⟨s, hs, h⟩ := (Option.any_eq_true _ _).mp h
  obtain ⟨hbegin, h⟩ := Bool.and_eq_true_iff.mp h
  obtain ⟨u, hu, h⟩ := (Option.any_eq_true _ _).mp h
  obtain ⟨t, ht, h⟩ := (Option.any_eq_true _ _).mp h
  obtain ⟨hacts, htest⟩ := Bool.and_eq_true_iff.mp h
  exact ⟨s, u, t, hs, of_decide_eq_true hbegin, hu, ht, of_decide_eq_true hacts, htest⟩

theorem Happens.mono {before as : List Action} {P Q : System → System → Prop}
    (h : Happens group p before j as P) (hPQ : ∀ u t, exec step u as = some t → P u t → Q u t) :
    Happens group p before j as Q := by
  obtain ⟨s, u, t, hs, hbegin, hu, ht, hacts, hP⟩ := h
  exact ⟨s, u, t, hs, hbegin, hu, ht, hacts, hPQ u t ht hP⟩

def pairStart : List Action := spawned first false 0 ++ spawned second true 2

def stopInBackoff : List Action :=
  [.tick 1000, .advance 1 .ok, .stop second] ++ List.replicate 3 (.advance 5 .ok) ++
    List.replicate 13 (.advance 1 .ok)

theorem stopInBackoff_restarts_as_unit :
    Happens (groupOf .oneForAll [first, second]) first (pairStart ++ failing first 4 1) 1
      stopInBackoff fun u t =>
        RestartsAsUnit 1 (groupOf .oneForAll [first, second]) first u stopInBackoff t := by
  have hrun : happens (groupOf .oneForAll [first, second]) first (pairStart ++ failing first 4 1) 1
      stopInBackoff fun u _ => decide (Guarded step
        (LeftAlone 1 (groupOf .oneForAll [first, second]) first) u stopInBackoff) := by
    decide +kernel
  obtain ⟨s, u, t, hs, hbegin, hu, ht, hacts, hG⟩ := happens_of hrun
  exact ⟨s, u, t, hs, hbegin, hu, ht, hacts, group_restarts_as_unit 0 _ _ _ s u t 1 .ok _ _ hs hbegin
    hu ht hacts (by decide) (of_decide_eq_true hG)⟩

/-- A child that is declared twice is stopped and, found gone the second time, not spawned. -/
def repeated : List Action := .tick 1000 :: List.replicate 8 (.advance 1 .ok)

theorem repeated_not_unit :
    Happens (groupOf .oneForAll [first, first]) first (spawned first false 0 ++ failing first 2 1) 1
      repeated fun u t =>
        ¬RestartsAsUnit 1 (groupOf .oneForAll [first, first]) first u repeated t := by
  have hrun : happens (groupOf .oneForAll [first, first]) first
      (spawned first false 0 ++ failing first 2 1) 1 repeated fun u t =>
        decide (¬t.Acts 1) && (calls 1 u repeated).length == 1 := by
    decide +kernel
  refine (happens_of hrun).mono fun u t _ htest h => ?_
  obtain ⟨hend, hlength⟩ := Bool.and_eq_true_iff.mp htest
  obtain ⟨members, rest, -, -, hcalls, hrest⟩ := h.unit
  rw [(hrest (of_decide_eq_true hend)).1, append_nil] at hcalls
  have htwice := congrArg List.length hcalls
  rw [eq_of_beq hlength, length_append, length_map, length_map,
    length_reverse] at htwice
  omega

def GroupCall.spawns (p : ActorAddress) : GroupCall → Bool
  | .stop _ => false
  | .spawn m => m.address = p

theorem spawns_inv {c : GroupCall} (h : c.spawns p) : ∃ m, c = .spawn m ∧ m.address = p := by
  cases c with
  | stop => cases h
  | spawn m => exact ⟨m, rfl, of_decide_eq_true h⟩

def stopBeforeSpawn : List Action :=
  List.replicate 2 (.advance 1 .ok) ++ .stop second :: List.replicate 19 (.advance 1 .ok)

theorem stopBeforeSpawn_not_unit :
    Happens (groupOf .oneForAll [first, second]) first (pairStart ++ failing first 4 1) 1
      (.tick 1000 :: stopBeforeSpawn) fun u t =>
        ¬RestartsAsUnit 1 (groupOf .oneForAll [first, second]) first u
          (.tick 1000 :: stopBeforeSpawn) t := by
  have hrun : happens (groupOf .oneForAll [first, second]) first (pairStart ++ failing first 4 1) 1
      (.tick 1000 :: stopBeforeSpawn) fun u _ =>
        (exec step u (.tick 1000 :: List.replicate 2 (.advance 1 .ok))).any fun x =>
          (step x (.stop second)).any fun y =>
            (calls 1 y (List.replicate 19 (.advance 1 .ok))).any (GroupCall.spawns second) := by
    decide +kernel
  refine (happens_of hrun).mono fun u t _ htest h => ?_
  obtain ⟨x, hx, htest⟩ := (Option.any_eq_true _ _).mp htest
  obtain ⟨y, hy, htest⟩ := (Option.any_eq_true _ _).mp htest
  obtain ⟨c, hc, hspawns⟩ := any_eq_true.mp htest
  obtain ⟨m, rfl, hm⟩ := spawns_inv hspawns
  exact h.stays (.tick 1000 :: List.replicate 2 (.advance 1 .ok)) _ _ x y second none rfl hx hy nofun
    rfl (by decide) m hc hm

theorem stray_failure_not_unit :
    Happens (groupOf .restForOne [first, second]) second (pairStart ++ failing second 4 3) 3
      (failing first 5 1 ++ [.advance 1 .ok]) fun u t =>
        ¬RestartsAsUnit 3 (groupOf .restForOne [first, second]) second u
          (failing first 5 1 ++ [.advance 1 .ok]) t := by
  have hrun : happens (groupOf .restForOne [first, second]) second (pairStart ++ failing second 4 3) 3
      (failing first 5 1 ++ [.advance 1 .ok]) fun u t =>
        (t.invocations[1]?).all (fun v => v.call == .returned false) &&
          (exec step u (failing first 5 1)).any fun x =>
            decide (x.failure (.advance 1 .ok) = some first) && (x.actors first).isSome := by
    decide +kernel
  refine (happens_of hrun).mono fun u t ht htest h => ?_
  obtain ⟨hreturned, htest⟩ := Bool.and_eq_true_iff.mp htest
  obtain ⟨x, hx, htest⟩ := (Option.any_eq_true _ _).mp htest
  obtain ⟨hfail, halive⟩ := Bool.and_eq_true_iff.mp htest
  rw [exec_append, hx, bind_some] at ht
  obtain ⟨t', hstep, ht⟩ := exec_cons.mp ht
  obtain rfl := some.inj ht
  obtain ⟨i, v, hi, hv, -, hcall⟩ := along_iff_cut.mp h.decided _ _ [] x t' rfl hx hstep first
    (of_decide_eq_true hfail) (by decide) (by decide) halive
  obtain rfl : 1 = i := some.inj hi
  rw [hv] at hreturned
  exact hcall (eq_of_beq hreturned)

theorem repeats_races_and_strays_not_units :
    (Happens (groupOf .oneForAll [first, first]) first
        (spawned first false 0 ++ failing first 2 1) 1 repeated fun u t =>
          ¬RestartsAsUnit 1 (groupOf .oneForAll [first, first]) first u repeated t) ∧
      (Happens (groupOf .oneForAll [first, second]) first (pairStart ++ failing first 4 1) 1
        (.tick 1000 :: stopBeforeSpawn) fun u t =>
          ¬RestartsAsUnit 1 (groupOf .oneForAll [first, second]) first u
            (.tick 1000 :: stopBeforeSpawn) t) ∧
      Happens (groupOf .restForOne [first, second]) second (pairStart ++ failing second 4 3) 3
        (failing first 5 1 ++ [.advance 1 .ok]) fun u t =>
          ¬RestartsAsUnit 3 (groupOf .restForOne [first, second]) second u
            (failing first 5 1 ++ [.advance 1 .ok]) t :=
  ⟨repeated_not_unit, stopBeforeSpawn_not_unit, stray_failure_not_unit⟩

end Runs

end ActorWeb.ActorSystem
