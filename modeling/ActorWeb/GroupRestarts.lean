import ActorWeb.ActorRegistrations

namespace ActorWeb.ActorSystem

open Option hiding map_id map_map

open List Supervision Transition Function

inductive GroupCall
  | stop (address : ActorAddress)
  | spawn (member : Member)

def Request.groupCalls : Request → List GroupCall
  | .stop p _ => [.stop p]
  | .spawn p behavior policy => [.spawn ⟨p, behavior, policy⟩]
  | _ => []

/-- What a group restart has before it: the members to stop that it has not reached
and the members that it may spawn after them. -/
structure GroupAction where
  restart : GroupRestart
  (unreached unspawned : List ActorAddress)

def Driver.groupAction : Driver → Option GroupAction
  | .waitingForGroup g => some ⟨g, g.stopOrder, g.respawnOrder⟩
  | .stoppingMembers g rest => some ⟨g, rest, g.respawnOrder⟩
  | .respawningMembers g _ rest _ => some ⟨g, [], rest⟩
  | _ => none

/-- The members that a group restart still spawns, by whether it finds those before it alive. -/
def GroupRestart.plan (g : GroupRestart) (unspawned : List ActorAddress) :
    List (ActorAddress × Bool) → List GroupCall
  | [] => (unspawned.filterMap g.member).map .spawn
  | (p, alive) :: visits =>
    if (g.member p).isNone then g.plan unspawned visits
    else if alive then .stop p :: g.plan unspawned visits
    else (g.delete p).plan unspawned visits

namespace GroupAction

def plan (A : GroupAction) (visits : List (ActorAddress × Bool)) : List GroupCall :=
  A.restart.plan A.unspawned visits

def captured (A : GroupAction) (p : ActorAddress) : Bool := (A.restart.member p).isSome

def Due (A : GroupAction) (p : ActorAddress) : Prop :=
  p ∉ A.unreached ∧ p ∈ A.unspawned ∧ A.captured p

end GroupAction

namespace System

def groupAction (s : System) (j : Nat) : Option GroupAction :=
  (s.invocations[j]?.bind (·.driver)).bind Driver.groupAction

def unreached (s : System) (j : Nat) : List ActorAddress :=
  ((s.groupAction j).map (·.unreached)).getD []

def plan (s : System) (j : Nat) (visits : List (ActorAddress × Bool)) : List GroupCall :=
  ((s.groupAction j).map (·.plan visits)).getD []

def groupCalls (s : System) (j : Nat) (a : Action) : List GroupCall :=
  if a.invocation = some j then ((s.request a).map Request.groupCalls).getD [] else []

def seen (s : System) (p : ActorAddress) : ActorAddress × Bool := (p, (s.actors p).isSome)

def reached (s t : System) (j : Nat) : List (ActorAddress × Bool) :=
  ((s.unreached j).take ((s.unreached j).length - (t.unreached j).length)).map s.seen

end System

/-- The members that a group restart reaches along a run, and whether they are alive then. -/
def visits (j : Nat) (s : System) : List Action → List (ActorAddress × Bool)
  | [] => []
  | a :: as =>
    match step s a with
    | none => []
    | some t => s.reached t j ++ visits j t as

def calls (j : Nat) (s : System) : List Action → List GroupCall
  | [] => []
  | a :: as =>
    match step s a with
    | none => []
    | some t => s.groupCalls j a ++ calls j t as

variable {s t u : System} {p q : ActorAddress} {i j : Nat} {v w : Invocation} {n : Next} {a : Action}
  {as : List Action} {g : GroupRestart} {A B : GroupAction} {base : Base}

theorem GroupRestart.member_address {m : Member} (h : g.member p = some m) : m.address = p := by
  simpa using find?_some h

theorem GroupRestart.member_delete_self (g : GroupRestart) (p : ActorAddress) :
    (g.delete p).member p = none := by
  simp [GroupRestart.member, GroupRestart.delete, find?_filter]

theorem GroupRestart.member_delete_ne (h : q ≠ p) : (g.delete p).member q = g.member q := by
  simp only [GroupRestart.member, GroupRestart.delete, find?_filter]
  congr 1
  funext m
  by_cases hm : m.address = q
  · simp [hm, h]
  · simp [hm]

/-! ### One segment of the driver -/

/-- The part of the unreached members that the driver goes through: up to the first one that
it finds captured and alive. -/
def GroupAction.reaching (A : GroupAction) (s : System) : List ActorAddress :=
  A.unreached.take (A.unreached.findIdx (fun p => A.captured p && (s.actors p).isSome) + 1)

def Call.Driving : Call → Prop
  | .timer _ | .systemEvent | .stop _ _ _ | .spawn _ _ | .returned _ => True
  | _ => False

namespace Next

def groupAction (n : Next) : Option GroupAction := n.driver.bind Driver.groupAction

def unreached (n : Next) : List ActorAddress := (n.groupAction.map (·.unreached)).getD []

def plan (n : Next) (visits : List (ActorAddress × Bool)) : List GroupCall :=
  (n.groupAction.map (·.plan visits)).getD []

structure Follows (s : System) (A : GroupAction) (n : Next) : Prop where
  reached : ∃ now, A.unreached = now ++ n.unreached ∧
    (∀ visits, visits.map Prod.fst = n.unreached →
      A.plan (now.map s.seen ++ visits) = n.request.groupCalls ++ n.plan visits) ∧
    (∀ p ∈ now, p ∈ A.reaching s) ∧ ∀ p r, n.request = .stop p r → p ∈ now
  spawns : ∀ p behavior policy, n.request = .spawn p behavior policy → n.unreached = []
  driving : (n.system.perform n.request).2.Driving

end Next

theorem beginSpawn_driving (s : System) (p : ActorAddress) (behavior : ActorBehavior)
    (policy : Option ActorSupervisionPolicy) : (s.beginSpawn p behavior policy).2.Driving := by
  unfold System.beginSpawn
  split <;> trivial

theorem reaching_cons {rest unspawned : List ActorAddress}
    (h : ¬((g.member p).isSome ∧ (s.actors p).isSome)) :
    GroupAction.reaching ⟨g, p :: rest, unspawned⟩ s =
      p :: GroupAction.reaching ⟨g, rest, unspawned⟩ s := by
  have hp : ((g.member p).isSome && (s.actors p).isSome) = false := by
    rw [Bool.and_eq_false_iff]
    rw [← Bool.not_eq_true, ← Bool.not_eq_true, ← not_and_or]
    exact h
  simp only [GroupAction.reaching, GroupAction.captured, findIdx_cons, hp, cond_false,
    take_succ_cons]

theorem reaching_delete {rest unspawned : List ActorAddress} (h : (s.actors p).isNone) :
    GroupAction.reaching ⟨g.delete p, rest, unspawned⟩ s =
      GroupAction.reaching ⟨g, rest, unspawned⟩ s := by
  simp only [GroupAction.reaching, GroupAction.captured]
  congr 3
  funext q
  by_cases hq : q = p
  · rw [hq, isNone_iff_eq_none.mp h, isSome_none, Bool.and_false, Bool.and_false]
  · rw [GroupRestart.member_delete_ne hq]

theorem respawnMembers_follows (s : System) (base : Base) (g : GroupRestart)
    (rest : List ActorAddress) : (s.respawnMembers base g rest).Follows s ⟨g, [], rest⟩ := by
  induction rest with
  | nil =>
    have hfinish : ∀ t : System, (t.finish base).Follows s ⟨g, [], []⟩ := by
      refine fun t => ⟨⟨[], rfl, fun visits hvisits => ?_, (fun _ h => by cases h),
        fun _ _ h => by cases h⟩, (fun _ _ _ h => by cases h), trivial⟩
      rw [map_eq_nil_iff.mp hvisits]
      rfl
    rw [System.respawnMembers]
    exact hfinish _
  | cons p rest ih =>
    rw [System.respawnMembers]
    split
    case h_1 hmember =>
      obtain ⟨⟨now, hnow, hplan, hreach, hstop⟩, hspawns, hdriving⟩ := ih
      refine ⟨⟨now, hnow, fun visits hvisits => ?_, fun q hq => ?_, hstop⟩, hspawns, hdriving⟩
      · obtain ⟨rfl, hnil⟩ := append_eq_nil_iff.mp hnow.symm
        rw [hnil] at hvisits
        rw [← hplan visits (hvisits.trans hnil.symm), map_eq_nil_iff.mp hvisits]
        simp only [GroupAction.plan, GroupRestart.plan, map_nil, nil_append,
          filterMap_cons_none hmember]
      · obtain ⟨rfl, -⟩ := append_eq_nil_iff.mp hnow.symm
        cases hq
    case h_2 m hmember =>
      refine ⟨⟨[], rfl, fun visits hvisits => ?_, (fun _ h => by cases h), fun _ _ h => by cases h⟩,
        fun _ _ _ _ => rfl, beginSpawn_driving ..⟩
      rw [map_eq_nil_iff.mp hvisits]
      simp only [GroupAction.plan, GroupRestart.plan, map_nil, nil_append,
        filterMap_cons_some hmember, map_cons, Request.groupCalls]
      rw [← GroupRestart.member_address hmember]
      rfl

theorem stopMembers_follows (s : System) (base : Base) (g : GroupRestart)
    (rest : List ActorAddress) :
    (s.stopMembers base g rest).Follows s ⟨g, rest, g.respawnOrder⟩ := by
  induction rest generalizing g with
  | nil => exact respawnMembers_follows s base g g.respawnOrder
  | cons p rest ih =>
    rw [System.stopMembers]
    split
    case isTrue hmember =>
      obtain ⟨⟨now, hnow, hplan, hreach, hstop⟩, hspawns, hdriving⟩ := ih g
      have hskip : ¬((g.member p).isSome ∧ (s.actors p).isSome) := by
        rw [isNone_iff_eq_none.mp hmember]
        exact fun h => Bool.false_ne_true h.1
      refine ⟨⟨p :: now, congrArg (p :: ·) hnow, fun visits hvisits => ?_, fun q hq => ?_,
        fun q r hr => mem_cons_of_mem p (hstop q r hr)⟩, hspawns, hdriving⟩
      · rw [← hplan visits hvisits]
        simp only [GroupAction.plan, map_cons, cons_append, System.seen,
          GroupRestart.plan, hmember, if_true]
      · rw [reaching_cons hskip]
        exact (mem_cons.mp hq).elim (fun h => h ▸ mem_cons_self)
          fun h => mem_cons_of_mem p (hreach q h)
    case isFalse hmember =>
      split
      case isTrue hgone =>
        obtain ⟨⟨now, hnow, hplan, hreach, hstop⟩, hspawns, hdriving⟩ := ih (g.delete p)
        have hdead : (s.actors p).isSome = false := by
          rw [isNone_iff_eq_none.mp hgone, isSome_none]
        have hskip : ¬((g.member p).isSome ∧ (s.actors p).isSome) := by
          rw [hdead]
          exact fun h => Bool.false_ne_true h.2
        refine ⟨⟨p :: now, congrArg (p :: ·) hnow, fun visits hvisits => ?_, fun q hq => ?_,
          fun q r hr => mem_cons_of_mem p (hstop q r hr)⟩, hspawns, hdriving⟩
        · rw [← hplan visits hvisits]
          simp only [GroupAction.plan, map_cons, cons_append, System.seen,
            GroupRestart.plan, hmember, hdead]
          rfl
        · rw [reaching_cons hskip, ← reaching_delete hgone]
          exact (mem_cons.mp hq).elim (fun h => h ▸ mem_cons_self)
            fun h => mem_cons_of_mem p (hreach q h)
      case isFalse halive =>
        have hsome : (s.actors p).isSome :=
          isSome_iff_ne_none.mpr fun h => halive (h ▸ rfl)
        refine ⟨⟨[p], rfl, fun visits _ => ?_, fun q hq => ?_, fun q r hr => ?_⟩,
          (fun _ _ _ h => by cases h), trivial⟩
        · simp only [GroupAction.plan, map_cons, map_nil, cons_append,
            nil_append, System.seen, GroupRestart.plan, hmember, hsome]
          rfl
        · obtain rfl := mem_singleton.mp hq
          rw [GroupAction.reaching, take_succ_cons]
          exact mem_cons_self
        · obtain ⟨rfl, -⟩ := Request.stop.inj hr
          exact mem_singleton_self _

variable {d : Driver}

theorem follows_unmoved (hA : d.groupAction = some A) (hdriver : n.driver = some d)
    (hcalls : n.request.groupCalls = []) (hdriving : (n.system.perform n.request).2.Driving)
    (hstop : ∀ p r, n.request ≠ .stop p r) (hspawn : ∀ p b c, n.request ≠ .spawn p b c) :
    n.Follows s A := by
  have haction : n.groupAction = some A := by rw [Next.groupAction, hdriver, bind_some, hA]
  refine ⟨⟨[], ?_, fun visits _ => ?_, nofun, fun p r h => absurd h (hstop p r)⟩,
    fun p b c h => absurd h (hspawn p b c), hdriving⟩
  · simp only [Next.unreached, haction, map_some, getD_some, nil_append]
  · simp only [map_nil, nil_append, hcalls, Next.plan, haction, map_some,
      getD_some]

theorem resumeDriver_follows (s : System) (i : Nat) (base : Base) (threw : Bool)
    (hA : d.groupAction = some A) : (s.resumeDriver i base threw d).Follows s A := by
  cases d with
  | waitingForGroup g =>
    cases hA
    exact stopMembers_follows s base g g.stopOrder
  | stoppingMembers g rest =>
    cases hA
    exact stopMembers_follows s base g rest
  | respawningMembers g p rest emitted =>
    simp only [System.resumeDriver]
    split
    case isTrue =>
      cases hA
      exact respawnMembers_follows s base g rest
    case isFalse =>
      exact follows_unmoved (d := .respawningMembers g p rest true) hA rfl rfl trivial
        (fun _ _ h => by cases h) fun _ _ _ h => by cases h
  | finishing | escalating | restarting | givingUp | givenUp => cases hA

theorem advanceStop_driving (s : System) (p : ActorAddress) (reason : Option StopReason)
    (stage : StopStage) : (s.advanceStop p reason stage).2.Driving := by
  cases stage with
  | stoppingEvent =>
    simp only [System.advanceStop]
    split <;> trivial
  | _ => trivial

theorem advanceSpawn_driving (s : System) (p : ActorAddress) (stage : SpawnStage) :
    (s.advanceSpawn p stage).2.Driving := by
  cases stage <;> trivial

theorem next_follows {o : Outcome} (h : s.next i o v = some n)
    (hd : v.driver = some d) (hA : d.groupAction = some A) (hcall : v.call.Driving) :
    n.Follows s A ∧ ((∀ threw, v.call ≠ .returned threw) → n.unreached = A.unreached) := by
  obtain ⟨call, driver, base⟩ := v
  obtain rfl : driver = some d := hd
  have hwait : ∀ (t : System) (c : Call), c.Driving →
      Next.Follows s A ⟨t, some d, base, .await c⟩ ∧
        ((∀ threw, call ≠ .returned threw) →
          Next.unreached ⟨t, some d, base, .await c⟩ = A.unreached) := by
    refine fun t c hdriving =>
      ⟨follows_unmoved (d := d) hA rfl rfl hdriving nofun nofun, fun _ => ?_⟩
    simp only [Next.unreached, Next.groupAction, bind_some, hA, map_some,
      getD_some]
  cases call with
  | stop p reason stage =>
    cases h
    exact hwait _ _ (advanceStop_driving s p reason stage)
  | spawn p stage =>
    cases h
    exact hwait _ _ (advanceSpawn_driving s p stage)
  | timer due =>
    simp only [System.next] at h
    split at h
    · cases h
      exact hwait _ _ trivial
    · cases h
  | systemEvent =>
    cases h
    exact hwait _ _ trivial
  | returned threw =>
    cases h
    exact ⟨resumeDriver_follows s i base threw hA, fun hne => absurd rfl (hne threw)⟩
  | deliver | enqueue | dequeued | macrotask => exact hcall.elim

/-! ### Runs of a group restart -/

namespace System

def Acts (s : System) (j : Nat) : Prop := (s.groupAction j).isSome

instance (s : System) (j : Nat) : Decidable (s.Acts j) := inferInstanceAs (Decidable (_ = true))

def Engaged (s : System) (j : Nat) : Prop :=
  s.Acts j → ∃ v, s.invocations[j]? = some v ∧ v.call.Driving

def reaching (s : System) (j : Nat) : List ActorAddress :=
  match s.invocations[j]?, s.groupAction j with
  | some ⟨.returned _, _, _⟩, some A => A.reaching s
  | _, _ => []

end System

theorem groupAction_of (hv : s.invocations[j]? = some v) (hd : v.driver = some d) :
    s.groupAction j = d.groupAction := by
  rw [System.groupAction, hv, bind_some, hd, bind_some]

theorem groupAction_inv (hA : s.groupAction j = some A) :
    ∃ v d, s.invocations[j]? = some v ∧ v.driver = some d ∧ d.groupAction = some A := by
  rw [System.groupAction, bind_eq_some_iff] at hA
  obtain ⟨d, hd, hA⟩ := hA
  obtain ⟨v, hv, hd⟩ := bind_eq_some_iff.mp hd
  exact ⟨v, d, hv, hd, hA⟩

structure Proceeds (s : System) (a : Action) (t : System) (j : Nat) (A : GroupAction) : Prop where
  engaged : t.Engaged j
  reached : ∃ now, A.unreached = now ++ t.unreached j ∧
    (∀ visits, visits.map Prod.fst = t.unreached j →
      A.plan (now.map s.seen ++ visits) = s.groupCalls j a ++ t.plan j visits) ∧
    (∀ p ∈ now, a.invocation = some j ∧ p ∈ s.reaching j) ∧
    ∀ p, .stop p ∈ s.groupCalls j a → p ∈ now
  spawns : ∀ p behavior policy, a.invocation = some j →
    s.request a = some (.spawn p behavior policy) → t.unreached j = []

theorem stop_mem_groupCalls {request : Request} (h : .stop p ∈ request.groupCalls) :
    ∃ r, request = .stop p r := by
  cases request with
  | await | deliver => cases h
  | stop q r =>
    obtain rfl := GroupCall.stop.inj (mem_singleton.mp h)
    exact ⟨r, rfl⟩
  | spawn q behavior policy => cases mem_singleton.mp h

theorem acting_step (h : step s a = some t) (hE : s.Engaged j) (hA : s.groupAction j = some A) :
    Proceeds s a t j A := by
  obtain ⟨v, d, hv, hd, hdA⟩ := groupAction_inv hA
  by_cases ha : a.invocation = some j
  · cases a with
    | advance i o =>
      obtain rfl : i = j := some.inj ha
      obtain ⟨w, hw, hcall⟩ := hE (by rw [System.Acts, hA]; rfl)
      obtain rfl := some.inj (hv.symm.trans hw)
      obtain ⟨n, hn, hrequest, -, hi⟩ := advance_invocation h hv
      obtain ⟨⟨⟨now, hnow, hplan, hreach, hstop⟩, hspawns, hdriving⟩, hunmoved⟩ :=
        next_follows hn hd hdA hcall
      have haction : t.groupAction i = n.groupAction := by
        rw [System.groupAction, hi]
        rfl
      have hunreached : t.unreached i = n.unreached := by rw [System.unreached, haction]; rfl
      have hcalls : s.groupCalls i (.advance i o) = n.request.groupCalls := by
        rw [System.groupCalls, if_pos ha, hrequest]
        rfl
      refine ⟨fun _ => ⟨_, hi, hdriving⟩, ⟨now, hunreached ▸ hnow, fun visits hvisits => ?_,
        fun p hp => ⟨rfl, ?_⟩, fun p hp => ?_⟩, fun p b c _ hr => ?_⟩
      · rw [hcalls, System.plan, haction]
        exact hplan visits (hvisits.trans hunreached)
      · by_cases hret : ∃ threw, v.call = .returned threw
        · obtain ⟨threw, hret⟩ := hret
          obtain ⟨call, driver, base⟩ := v
          obtain rfl : call = .returned threw := hret
          simp only [System.reaching, hv, hA]
          exact hreach p hp
        · have hsame := hunmoved fun threw hthrew => hret ⟨threw, hthrew⟩
          rw [hsame] at hnow
          rw [self_eq_append_left.mp hnow] at hp
          cases hp
      · rw [hcalls] at hp
        obtain ⟨r, hr⟩ := stop_mem_groupCalls hp
        exact hstop p r hr
      · rw [hunreached]
        exact hspawns p b c (some.inj (hrequest.symm.trans hr))
    | _ => cases ha
  · have hvt := step_invocation h ha hv
    have haction : t.groupAction j = some A := (groupAction_of hvt hd).trans hdA
    have hcalls : s.groupCalls j a = [] := if_neg ha
    refine ⟨fun _ => ?_, ⟨[], ?_, fun visits _ => ?_, nofun, fun p hp => ?_⟩,
      fun p b c ha' _ => absurd ha' ha⟩
    · obtain ⟨w, hw, hcall⟩ := hE (by rw [System.Acts, hA]; rfl)
      exact ⟨w, step_invocation h ha hw, hcall⟩
    · rw [System.unreached, haction]
      rfl
    · rw [hcalls, System.plan, haction]
      rfl
    · rw [hcalls] at hp
      cases hp

theorem reached_eq {now : List ActorAddress} (h : s.unreached j = now ++ t.unreached j) :
    s.reached t j = now.map s.seen := by
  rw [System.reached, h, length_append, Nat.add_sub_cancel, take_left']
  rfl

theorem unreached_of (hA : s.groupAction j = some A) : s.unreached j = A.unreached := by
  rw [System.unreached, hA]
  rfl

theorem plan_of (hA : s.groupAction j = some A) (vs : List (ActorAddress × Bool)) :
    s.plan j vs = A.plan vs := by
  rw [System.plan, hA]
  rfl

theorem calls_plan (hE : s.Engaged j) (h : exec step s as = some t)
    (hacts : Along step (fun s _ _ => s.Acts j) s as) :
    s.unreached j = (visits j s as).map Prod.fst ++ t.unreached j ∧
      ∀ later, later.map Prod.fst = t.unreached j →
        s.plan j (visits j s as ++ later) = calls j s as ++ t.plan j later := by
  induction as generalizing s with
  | nil =>
    obtain rfl : s = t := some.inj h
    exact ⟨rfl, fun _ _ => rfl⟩
  | cons a as ih =>
    obtain ⟨u, ha, hu⟩ := exec_cons.mp h
    obtain ⟨hact, hrest⟩ := hacts u ha
    obtain ⟨A, hA⟩ := isSome_iff_exists.mp hact
    obtain ⟨hEu, ⟨now, hnow, hplan, -, -⟩, -⟩ := acting_step ha hE hA
    obtain ⟨hunreached, hcalls⟩ := ih hEu hu hrest
    have hreached := reached_eq (t := u) ((unreached_of hA).trans hnow)
    have hfst : (now.map s.seen).map Prod.fst = now := by
      rw [map_map]
      exact map_id _
    refine ⟨?_, fun later hlater => ?_⟩
    · simp only [visits, ha, map_append, hreached, hfst, append_assoc, ← hunreached]
      exact (unreached_of hA).trans hnow
    · simp only [visits, calls, ha, hreached, append_assoc, ← hcalls later hlater]
      rw [plan_of hA]
      refine hplan _ ?_
      rw [map_append, hlater, hunreached]

end ActorWeb.ActorSystem
