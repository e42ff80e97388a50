import ActorWeb.OrderedMap
import ActorWeb.StableSort
import Mathlib.Algebra.Order.Archimedean.Basic

namespace ActorWeb.Htn

open List

section Tasks

structure Condition (State : Type) where
  id : String
  predicate : State → Except String Bool
  description : String

structure Effect (State : Type) where
  id : String
  apply : State → Except String State
  description : String

structure TaskMethod (Task State : Type) where
  (id name : String)
  preconditions : List (Condition State)
  decompose : Task → State → Except String (List Task)
  priority : ℚ

inductive TaskType
  | primitive | compound
deriving DecidableEq

/-- What the planner reads of tasks; only compound ones have methods. -/
structure Tasks (Task State : Type) where
  (id name : Task → String)
  type : Task → TaskType
  preconditions : Task → List (Condition State)
  effects : Task → List (Effect State)
  methods : Task → List (TaskMethod Task State)

structure Stats where
  planningTime : Int
  (tasksExplored decompositions depth : Nat)
deriving DecidableEq

structure PlanningResult (Task : Type) where
  plan : List Task
  success : Bool
  error : Option String
  stats : Stats
deriving DecidableEq

structure HTNPlanner (Task State : Type) where
  tasks : Tasks Task State
  maxDepth : ℚ
  methodRegistry : OrderedMap String (List (TaskMethod Task State))
  /-- How a template prints a number. -/
  numberText : ℚ → String

end Tasks

variable {Task State : Type}

section Planner

def checkPreconditions (conditions : List (Condition State)) (worldState : State) : Bool :=
  conditions.all fun condition =>
    match condition.predicate worldState with
    | .ok holds => holds
    | .error _ => false

def applyEffects (effects : List (Effect State)) (worldState : State) : State :=
  effects.foldl
    (fun newState effect =>
      match effect.apply newState with
      | .ok newState => newState
      | .error _ => newState)
    worldState

/-- The warning about failed conditions evaluates all of them, and throws where one does. -/
def failedConditions (conditions : List (Condition State)) (worldState : State) :
    Except String (List String) :=
  (conditions.filterM fun condition : Condition State =>
    (condition.predicate worldState).map fun holds => !holds).map (List.map Condition.description)

def failure (error : String) (depth : Nat) : PlanningResult Task :=
  ⟨[], false, some error, ⟨0, 0, 0, depth⟩⟩

structure PartialPlan (Task : Type) where
  plan : List Task
  (tasksExplored decompositions depth : Nat)

def PartialPlan.add (found : PartialPlan Task) (subResult : PlanningResult Task) : PartialPlan Task where
  plan := found.plan ++ subResult.plan
  tasksExplored := found.tasksExplored + subResult.stats.tasksExplored
  decompositions := found.decompositions + subResult.stats.decompositions
  depth := max found.depth subResult.stats.depth

def PartialPlan.result (found : PartialPlan Task) : PlanningResult Task :=
  ⟨found.plan, true, none, ⟨0, found.tasksExplored, found.decompositions, found.depth⟩⟩

/-- What planning a task gives: nothing while it still runs, an exception, or a result. -/
abbrev Planning (Task : Type) := Option (Except String (PlanningResult Task))

namespace HTNPlanner

variable (p : HTNPlanner Task State)

/-- The loop over the subtasks: `none` in its result when one of them has no plan. -/
def planSubtasks (planTask : Task → State → Planning Task) :
    List Task → State → PartialPlan Task → Option (Except String (Option (PartialPlan Task)))
  | [], _, found => some (.ok (some found))
  | subtask :: subtasks, currentState, found =>
    match planTask subtask currentState with
    | none => none
    | some (.error message) => some (.error message)
    | some (.ok subResult) =>
      if subResult.success then
        planSubtasks planTask subtasks (applyEffects (p.tasks.effects subtask) currentState)
          (found.add subResult)
      else some (.ok none)

def tryMethods (planTask : Task → State → Planning Task) (task : Task) (worldState : State)
    (depth : Nat) : List (TaskMethod Task State) → Planning Task
  | [] => some (.ok (failure ("No applicable methods found for task: " ++ p.tasks.name task) depth))
  | method :: methods =>
    match method.decompose task worldState with
    | .error _ => tryMethods planTask task worldState depth methods
    | .ok subtasks =>
      match p.planSubtasks planTask subtasks worldState ⟨[], 0, 1, depth⟩ with
      | none => none
      | some (.ok (some found)) => some (.ok found.result)
      | some (.ok none) | some (.error _) => tryMethods planTask task worldState depth methods

def methodsOf (task : Task) : List (TaskMethod Task State) :=
  (p.methodRegistry.get (p.tasks.id task)).getD (p.tasks.methods task)

def applicable (worldState : State) (method : TaskMethod Task State) : Bool :=
  checkPreconditions method.preconditions worldState

def sortedMethods (task : Task) (worldState : State) : List (TaskMethod Task State) :=
  ((p.methodsOf task).filter (applicable worldState)).mergeSort fun a b => b.priority ≤ a.priority

/-- The recursion ends because of the depth limit; `fuel` bounds it for the definition. -/
def planInternal (constraints : List (Condition State)) :
    Nat → Task → State → Nat → Planning Task
  | 0, _, _, _ => none
  | fuel + 1, task, worldState, depth =>
    if p.maxDepth < depth then
      some (.ok (failure ("Maximum planning depth exceeded: " ++ p.numberText p.maxDepth) depth))
    else if checkPreconditions (p.tasks.preconditions task) worldState = false then
      some ((failedConditions (p.tasks.preconditions task) worldState).map fun _ =>
        failure ("Preconditions not satisfied for task: " ++ p.tasks.name task) depth)
    else if checkPreconditions constraints worldState = false then
      some ((failedConditions constraints worldState).map fun _ =>
        failure "Planning constraints not satisfied" depth)
    else
      match p.tasks.type task with
      | .primitive => some (.ok ⟨[task], true, none, ⟨0, 1, 0, depth⟩⟩)
      | .compound =>
        if (p.methodsOf task).length = 0 then
          some (.ok
            (failure ("No methods available for compound task: " ++ p.tasks.name task) depth))
        else
          p.tryMethods
            (fun subtask state => planInternal constraints fuel subtask state (depth + 1))
            task worldState depth (p.sortedMethods task worldState)

/-- What `plan` returns once planning is over. -/
def finished (planningTime : Int) : Except String (PlanningResult Task) → PlanningResult Task
  | .ok result => { result with stats := { result.stats with planningTime } }
  | .error message => ⟨[], false, some message, ⟨planningTime, 0, 0, 0⟩⟩

def plan (fuel : Nat) (goalTask : Task) (worldState : State) (constraints : List (Condition State))
    (planningTime : Int) : Option (PlanningResult Task) :=
  (p.planInternal constraints fuel goalTask worldState 0).map (finished planningTime)

end HTNPlanner

end Planner

section Trees

/-- A decomposition of a task: each compound task with the method chosen for it. -/
inductive Tree (Task State : Type)
  | primitive (task : Task)
  | compound (task : Task) (method : TaskMethod Task State) (children : List (Tree Task State))

namespace Tree

def task : Tree Task State → Task
  | primitive task => task
  | compound task _ _ => task

mutual

def frontier : Tree Task State → List Task
  | primitive task => [task]
  | compound _ _ children => frontiers children

def frontiers : List (Tree Task State) → List Task
  | [] => []
  | tree :: trees => tree.frontier ++ frontiers trees

end

end Tree

variable (p : HTNPlanner Task State) (constraints : List (Condition State))

def Admitted (depth : Nat) (task : Task) (state : State) : Prop :=
  (depth : ℚ) ≤ p.maxDepth ∧ checkPreconditions (p.tasks.preconditions task) state = true ∧
    checkPreconditions constraints state = true

mutual

/-- A decomposition whose tasks are admitted where they stand, and whose methods are applicable and
do not throw. Each subtask sees the effects of those before it. -/
def Valid (depth : Nat) (state : State) : Tree Task State → Prop
  | .primitive task => p.tasks.type task = .primitive ∧ Admitted p constraints depth task state
  | .compound task method children =>
    p.tasks.type task = .compound ∧ Admitted p constraints depth task state ∧
      method ∈ p.methodsOf task ∧ HTNPlanner.applicable state method = true ∧
      method.decompose task state = .ok (children.map Tree.task) ∧
      ValidAll (depth + 1) state children

def ValidAll (depth : Nat) (state : State) : List (Tree Task State) → Prop
  | [] => True
  | tree :: trees =>
    Valid depth state tree ∧ ValidAll depth (applyEffects (p.tasks.effects tree.task) state) trees

end

def Fails (depth : Nat) (task : Task) (state : State) (method : TaskMethod Task State) : Prop :=
  HTNPlanner.applicable state method = true → ∀ children : List (Tree Task State),
    method.decompose task state = .ok (children.map Tree.task) →
    ¬ ValidAll p constraints (depth + 1) state children

/-- Methods of higher priority fail, and so do those of the same priority that stand before. -/
def Preferred (depth : Nat) (task : Task) (state : State) (method : TaskMethod Task State) : Prop :=
  ∃ earlier later, p.methodsOf task = earlier ++ method :: later ∧
    (∀ m ∈ p.methodsOf task, method.priority < m.priority → Fails p constraints depth task state m) ∧
    ∀ m ∈ earlier, m.priority = method.priority → Fails p constraints depth task state m

mutual

def First (depth : Nat) (state : State) : Tree Task State → Prop
  | .primitive task => p.tasks.type task = .primitive ∧ Admitted p constraints depth task state
  | .compound task method children =>
    p.tasks.type task = .compound ∧ Admitted p constraints depth task state ∧
      Preferred p constraints depth task state method ∧
      HTNPlanner.applicable state method = true ∧
      method.decompose task state = .ok (children.map Tree.task) ∧
      FirstAll (depth + 1) state children

def FirstAll (depth : Nat) (state : State) : List (Tree Task State) → Prop
  | [] => True
  | tree :: trees =>
    First depth state tree ∧ FirstAll depth (applyEffects (p.tasks.effects tree.task) state) trees

end

end Trees

section FirstTrees

variable {p : HTNPlanner Task State} {constraints : List (Condition State)} {task : Task}
  {method method' : TaskMethod Task State} {state : State} {depth : Nat}

theorem Preferred.mem (h : Preferred p constraints depth task state method) :
    method ∈ p.methodsOf task := by
  obtain ⟨earlier, later, hsplit, -⟩ := h
  rw [hsplit]
  exact mem_append_right _ mem_cons_self

mutual

theorem First.valid {depth : Nat} {state : State} : (tree : Tree Task State) →
    First p constraints depth state tree → Valid p constraints depth state tree
  | .primitive _, h => h
  | .compound _ _ children, h =>
    ⟨h.1, h.2.1, h.2.2.1.mem, h.2.2.2.1, h.2.2.2.2.1, FirstAll.valid children h.2.2.2.2.2⟩

theorem FirstAll.valid {depth : Nat} {state : State} : (trees : List (Tree Task State)) →
    FirstAll p constraints depth state trees → ValidAll p constraints depth state trees
  | [], _ => trivial
  | tree :: trees, h => ⟨First.valid tree h.1, FirstAll.valid trees h.2⟩

end

theorem Preferred.unique (h : Preferred p constraints depth task state method)
    (h' : Preferred p constraints depth task state method')
    (hgives : ¬ Fails p constraints depth task state method)
    (hgives' : ¬ Fails p constraints depth task state method') : method = method' := by
  have hmem := h.mem
  have hmem' := h'.mem
  obtain ⟨earlier, later, hsplit, hhigher, hequal⟩ := h
  obtain ⟨earlier', later', hsplit', hhigher', hequal'⟩ := h'
  have hpriority : method.priority = method'.priority := by
    refine le_antisymm (not_lt.mp fun hlt => ?_) (not_lt.mp fun hlt => ?_)
    · exact hgives (hhigher' method hmem hlt)
    · exact hgives' (hhigher method' hmem' hlt)
  obtain ⟨as, hearlier, hlater⟩ | ⟨as, hearlier, hlater⟩ :=
    append_eq_append_iff.mp (hsplit.symm.trans hsplit')
  · cases as with
    | nil => exact (List.cons.inj hlater).1
    | cons m as =>
      cases hlater
      refine absurd (hequal' method ?_ hpriority) hgives
      rw [hearlier]
      exact mem_append_right _ mem_cons_self
  · cases as with
    | nil => exact (List.cons.inj hlater).1.symm
    | cons m as =>
      cases hlater
      refine absurd (hequal method' ?_ hpriority.symm) hgives'
      rw [hearlier]
      exact mem_append_right _ mem_cons_self

mutual

theorem First.unique {depth : Nat} {state : State} : (tree tree' : Tree Task State) →
    First p constraints depth state tree → First p constraints depth state tree' →
    tree.task = tree'.task → tree = tree'
  | .primitive _, .primitive _, _, _, htask => congrArg _ htask
  | .primitive _, .compound _ _ _, h, h', htask => by
    obtain rfl : _ = _ := htask
    exact absurd (h.1.symm.trans h'.1) nofun
  | .compound _ _ _, .primitive _, h, h', htask => by
    obtain rfl : _ = _ := htask
    exact absurd (h.1.symm.trans h'.1) nofun
  | .compound task method children, .compound task' method' children', h, h', htask => by
    obtain rfl : task = task' := htask
    obtain ⟨-, -, hpreferred, happlicable, hdecompose, hchildren⟩ := h
    obtain ⟨-, -, hpreferred', happlicable', hdecompose', hchildren'⟩ := h'
    obtain rfl := hpreferred.unique hpreferred'
      (fun hfails => hfails happlicable children hdecompose (FirstAll.valid children hchildren))
      (fun hfails => hfails happlicable' children' hdecompose' (FirstAll.valid children' hchildren'))
    have htasks := Except.ok.inj (hdecompose.symm.trans hdecompose')
    rw [FirstAll.unique children children' hchildren hchildren' htasks]

theorem FirstAll.unique {depth : Nat} {state : State} : (trees trees' : List (Tree Task State)) →
    FirstAll p constraints depth state trees → FirstAll p constraints depth state trees' →
    trees.map Tree.task = trees'.map Tree.task → trees = trees'
  | [], [], _, _, _ => rfl
  | [], _ :: _, _, _, htasks => by cases htasks
  | _ :: _, [], _, _, htasks => by cases htasks
  | tree :: trees, tree' :: trees', h, h', htasks => by
    obtain ⟨htask, hrest⟩ := List.cons.inj htasks
    obtain rfl := First.unique tree tree' h.1 h'.1 htask
    exact congrArg _ (FirstAll.unique trees trees' h.2 h'.2 hrest)

end

end FirstTrees

section Search

variable {p : HTNPlanner Task State} {constraints : List (Condition State)} {task : Task}
  {method : TaskMethod Task State} {state : State} {depth : Nat}

/-- What planning a task is to give: the first decomposition, or a failure when there is none. -/
inductive Finds (p : HTNPlanner Task State) (constraints : List (Condition State)) (depth : Nat)
    (state : State) (task : Task) (outcome : Except String (PlanningResult Task)) : Prop
  | found (result : PlanningResult Task) (tree : Tree Task State) (returned : outcome = .ok result)
      (success : result.success = true) (root : tree.task = task)
      (first : First p constraints depth state tree) (plan : result.plan = tree.frontier)
  | failed (failure : ∀ result, outcome = .ok result → result.success = false)
      (none : ∀ tree, tree.task = task → ¬ Valid p constraints depth state tree)

inductive FindsAll (p : HTNPlanner Task State) (constraints : List (Condition State)) (depth : Nat)
    (state : State) (tasks : List Task) (done : PartialPlan Task)
    (outcome : Except String (Option (PartialPlan Task))) : Prop
  | found (result : PartialPlan Task) (trees : List (Tree Task State))
      (returned : outcome = .ok (some result)) (roots : trees.map Tree.task = tasks)
      (first : FirstAll p constraints depth state trees)
      (plan : result.plan = done.plan ++ Tree.frontiers trees)
  | failed (failure : ∀ result, outcome ≠ .ok (some result))
      (none : ∀ trees : List (Tree Task State), trees.map Tree.task = tasks →
        ¬ ValidAll p constraints depth state trees)

variable {planTask : Task → State → Planning Task}

theorem planSubtasks_finds (hplan : ∀ task state, ∃ outcome, planTask task state = some outcome ∧
      Finds p constraints depth state task outcome)
    (tasks : List Task) (state : State) (done : PartialPlan Task) :
    ∃ outcome, p.planSubtasks planTask tasks state done = some outcome ∧
      FindsAll p constraints depth state tasks done outcome := by
  induction tasks generalizing state done with
  | nil => exact ⟨_, rfl, .found done [] rfl rfl trivial (append_nil _).symm⟩
  | cons task tasks ih =>
    obtain ⟨outcome, houtcome, hfinds⟩ := hplan task state
    unfold HTNPlanner.planSubtasks
    rw [houtcome]
    cases hfinds with
    | found result tree returned success root first plan =>
      obtain ⟨outcome', houtcome', hrest⟩ :=
        ih (applyEffects (p.tasks.effects task) state) (done.add result)
      subst returned root
      refine ⟨outcome', ?_, ?_⟩
      · simp only [success, if_true]
        exact houtcome'
      · cases hrest with
        | found result' trees returned' roots first' plan' =>
          refine .found result' (tree :: trees) returned' (congrArg _ roots) ⟨first, first'⟩ ?_
          rw [plan', PartialPlan.add, plan, Tree.frontiers, append_assoc]
        | failed failure none =>
          refine .failed failure fun trees hroots hvalid => ?_
          cases trees with
          | nil => cases hroots
          | cons tree' trees =>
            obtain ⟨hroot, hroots⟩ := List.cons.inj hroots
            exact none trees hroots (hroot ▸ hvalid.2)
    | failed failure none =>
      have hnone : ∀ trees : List (Tree Task State), trees.map Tree.task = task :: tasks →
          ¬ ValidAll p constraints depth state trees := by
        intro trees hroots hvalid
        cases trees with
        | nil => cases hroots
        | cons tree trees => exact none tree (List.cons.inj hroots).1 hvalid.1
      cases outcome with
      | error message => exact ⟨_, rfl, .failed (fun _ h => by cases h) hnone⟩
      | ok result =>
        refine ⟨.ok Option.none, ?_, .failed (fun _ h => by cases h) hnone⟩
        simp only [failure result rfl, Bool.false_eq_true, if_false]

/-- What trying methods is to give: the first of them with a decomposition, or a failure. -/
inductive FindsMethod (p : HTNPlanner Task State) (constraints : List (Condition State))
    (depth : Nat) (state : State) (task : Task) (methods : List (TaskMethod Task State))
    (outcome : Except String (PlanningResult Task)) : Prop
  | found (result : PlanningResult Task) (before after : List (TaskMethod Task State))
      (method : TaskMethod Task State) (children : List (Tree Task State))
      (returned : outcome = .ok result) (success : result.success = true)
      (split : methods = before ++ method :: after)
      (earlier : ∀ m ∈ before, Fails p constraints depth task state m)
      (decomposed : method.decompose task state = .ok (children.map Tree.task))
      (first : FirstAll p constraints (depth + 1) state children)
      (plan : result.plan = Tree.frontiers children)
  | failed (failure : ∀ result, outcome = .ok result → result.success = false)
      (none : ∀ m ∈ methods, Fails p constraints depth task state m)

theorem FindsMethod.cons {methods : List (TaskMethod Task State)}
    {outcome : Except String (PlanningResult Task)} (hfails : Fails p constraints depth task state method)
    (h : FindsMethod p constraints depth state task methods outcome) :
    FindsMethod p constraints depth state task (method :: methods) outcome := by
  cases h with
  | found result before after chosen children returned success split earlier decomposed first plan =>
    exact .found result (method :: before) after chosen children returned success
      (congrArg _ split) (forall_mem_cons.mpr ⟨hfails, earlier⟩) decomposed first plan
  | failed failure none => exact .failed failure (forall_mem_cons.mpr ⟨hfails, none⟩)

theorem tryMethods_finds (hplan : ∀ task state, ∃ outcome, planTask task state = some outcome ∧
      Finds p constraints (depth + 1) state task outcome)
    (task : Task) (state : State) (methods : List (TaskMethod Task State)) :
    ∃ outcome, p.tryMethods planTask task state depth methods = some outcome ∧
      FindsMethod p constraints depth state task methods outcome := by
  induction methods with
  | nil =>
    refine ⟨_, rfl, .failed (fun result hreturned => ?_) nofun⟩
    rw [← Except.ok.inj hreturned]
    rfl
  | cons method methods ih =>
    obtain ⟨rest, hrest, hfinds⟩ := ih
    unfold HTNPlanner.tryMethods
    cases hdecompose : method.decompose task state with
    | error message =>
      refine ⟨rest, hrest, hfinds.cons fun _ children hchildren => ?_⟩
      rw [hdecompose] at hchildren
      cases hchildren
    | ok subtasks =>
      obtain ⟨outcome, houtcome, hall⟩ := planSubtasks_finds hplan subtasks state ⟨[], 0, 1, depth⟩
      simp only [houtcome]
      cases hall with
      | found result trees returned roots first plan =>
        subst returned
        refine ⟨_, rfl, .found result.result [] methods method trees rfl rfl rfl nofun ?_ first ?_⟩
        · rw [hdecompose, roots]
        · exact plan.trans (nil_append _)
      | failed failure none =>
        have hfails : Fails p constraints depth task state method := by
          intro _ children hchildren
          exact none children (Except.ok.inj (hchildren.symm.trans hdecompose))
        cases outcome with
        | error message => exact ⟨rest, hrest, hfinds.cons hfails⟩
        | ok result =>
          cases result with
          | none => exact ⟨rest, hrest, hfinds.cons hfails⟩
          | some result => exact absurd rfl (failure result)

theorem mem_sortedMethods : method ∈ p.sortedMethods task state ↔
    method ∈ p.methodsOf task ∧ HTNPlanner.applicable state method = true := by
  rw [HTNPlanner.sortedMethods, mem_mergeSort, mem_filter]

theorem preferred_of_sorted {before after : List (TaskMethod Task State)}
    (hsorted : p.sortedMethods task state = before ++ method :: after)
    (hfails : ∀ m ∈ before, Fails p constraints depth task state m) :
    Preferred p constraints depth task state method := by
  have htrans : ∀ a b c : TaskMethod Task State, decide (b.priority ≤ a.priority) = true →
      decide (c.priority ≤ b.priority) = true → decide (c.priority ≤ a.priority) = true := by
    intro a b c hab hbc
    rw [decide_eq_true_eq] at hab hbc ⊢
    exact hbc.trans hab
  have htotal : ∀ a b : TaskMethod Task State,
      (decide (b.priority ≤ a.priority) || decide (a.priority ≤ b.priority)) = true := by
    intro a b
    rw [Bool.or_eq_true, decide_eq_true_eq, decide_eq_true_eq]
    exact le_total ..
  have hpairwise : (p.sortedMethods task state).Pairwise fun a b =>
      decide (b.priority ≤ a.priority) = true := pairwise_mergeSort htrans htotal _
  -- the methods of the same priority stand as they stood before sorting
  have hequal : (p.methodsOf task).filter (fun m => decide (m.priority = method.priority) &&
      HTNPlanner.applicable state m) = before.filter (fun m => m.priority = method.priority) ++
        method :: after.filter fun m => m.priority = method.priority := by
    have hstable : (p.sortedMethods task state).filter (fun m => m.priority = method.priority) =
        ((p.methodsOf task).filter (HTNPlanner.applicable state)).filter
          fun m => m.priority = method.priority := by
      refine StableSort.filter_mergeSort htrans htotal fun a _ b _ ha hb => ?_
      rw [decide_eq_true_eq] at ha hb ⊢
      rw [ha, hb]
    rw [filter_filter] at hstable
    rw [← hstable, hsorted, filter_append]
    exact congrArg _ (filter_cons_of_pos (decide_eq_true rfl))
  obtain ⟨l₁, l₂, hsplit, hbefore, hrest⟩ := filter_eq_append_iff.mp hequal
  obtain ⟨l₃, later, rfl, hskipped, -⟩ := filter_eq_cons_iff.mp hrest
  refine ⟨l₁ ++ l₃, later, by rw [hsplit, append_assoc], ?_, ?_⟩
  · intro m hm hhigher happlicable
    have hm' : m ∈ before ++ method :: after := hsorted ▸ mem_sortedMethods.mpr ⟨hm, happlicable⟩
    rw [hsorted, pairwise_append] at hpairwise
    obtain hm' | hm' := mem_append.mp hm'
    · exact hfails m hm' happlicable
    · obtain rfl | hm' := mem_cons.mp hm'
      · exact absurd hhigher (lt_irrefl _)
      · have hle := rel_of_pairwise_cons hpairwise.2.1 hm'
        exact absurd hhigher (not_lt.mpr (of_decide_eq_true hle))
  · intro m hm hpriority happlicable
    have hkept : (decide (m.priority = method.priority) && HTNPlanner.applicable state m) = true := by
      rw [happlicable, Bool.and_true, decide_eq_true hpriority]
    obtain hm | hm := mem_append.mp hm
    · have hm' : m ∈ before.filter fun m => m.priority = method.priority :=
        hbefore ▸ mem_filter.mpr ⟨hm, hkept⟩
      exact hfails m (mem_filter.mp hm').1 happlicable
    · exact absurd hkept (hskipped m hm)

theorem Valid.admitted {tree : Tree Task State} (h : Valid p constraints depth state tree) :
    Admitted p constraints depth tree.task state := by
  cases tree with
  | primitive task => exact h.2
  | compound task method children => exact h.2.1

theorem finds_of_not_admitted {outcome : Except String (PlanningResult Task)}
    (hnot : ¬ Admitted p constraints depth task state)
    (hfailure : ∀ result, outcome = .ok result → result.success = false) :
    Finds p constraints depth state task outcome :=
  .failed hfailure fun _ hroot hvalid => hnot (hroot ▸ hvalid.admitted)

theorem warned_failure {conditions : List (Condition State)} {error : String}
    (result : PlanningResult Task)
    (h : ((failedConditions conditions state).map fun _ => (failure error depth)) = .ok result) :
    result.success = false := by
  cases hwarned : failedConditions conditions state with
  | error message =>
    rw [hwarned] at h
    cases h
  | ok descriptions =>
    rw [hwarned] at h
    rw [← Except.ok.inj h]
    rfl

theorem planInternal_finds_succ {fuel : Nat}
    (hnext : (depth : ℚ) ≤ p.maxDepth → ∀ task state, ∃ outcome,
      p.planInternal constraints fuel task state (depth + 1) = some outcome ∧
        Finds p constraints (depth + 1) state task outcome) (task : Task) (state : State) :
    ∃ outcome, p.planInternal constraints (fuel + 1) task state depth = some outcome ∧
      Finds p constraints depth state task outcome := by
  unfold HTNPlanner.planInternal
  by_cases hdepth : p.maxDepth < depth
  · refine ⟨_, if_pos hdepth, finds_of_not_admitted (fun h => (not_le.mpr hdepth) h.1) ?_⟩
    intro result hresult
    rw [← Except.ok.inj hresult]
    rfl
  rw [if_neg hdepth]
  by_cases hpre : checkPreconditions (p.tasks.preconditions task) state = false
  · refine ⟨_, if_pos hpre, finds_of_not_admitted (fun h => ?_) warned_failure⟩
    exact absurd (hpre.symm.trans h.2.1) (by decide)
  rw [if_neg hpre]
  by_cases hconstraints : checkPreconditions constraints state = false
  · refine ⟨_, if_pos hconstraints, finds_of_not_admitted (fun h => ?_) warned_failure⟩
    exact absurd (hconstraints.symm.trans h.2.2) (by decide)
  rw [if_neg hconstraints]
  have hadmitted : Admitted p constraints depth task state :=
    ⟨not_lt.mp hdepth, Bool.eq_true_of_not_eq_false hpre, Bool.eq_true_of_not_eq_false hconstraints⟩
  cases htype : p.tasks.type task with
  | primitive =>
    exact ⟨_, rfl, .found _ (.primitive task) rfl rfl rfl ⟨htype, hadmitted⟩ rfl⟩
  | compound =>
    have hnone (hfails : ∀ m ∈ p.methodsOf task, Fails p constraints depth task state m)
        (tree : Tree Task State) (hroot : tree.task = task) :
        ¬ Valid p constraints depth state tree := by
      intro hvalid
      cases tree with
      | primitive other =>
        obtain rfl : other = task := hroot
        exact absurd (htype.symm.trans hvalid.1) (by decide)
      | compound other method children =>
        obtain rfl : other = task := hroot
        obtain ⟨-, -, hmethod, happlicable, hdecompose, hchildren⟩ := hvalid
        exact hfails method hmethod happlicable children hdecompose hchildren
    by_cases hmethods : (p.methodsOf task).length = 0
    · refine ⟨_, if_pos hmethods, .failed (fun result hresult => ?_) (hnone fun m hm => ?_)⟩
      · rw [← Except.ok.inj hresult]
        rfl
      · rw [length_eq_zero_iff.mp hmethods] at hm
        cases hm
    · obtain ⟨outcome, houtcome, hfinds⟩ :=
        tryMethods_finds (hnext (not_lt.mp hdepth)) task state (p.sortedMethods task state)
      refine ⟨outcome, (if_neg hmethods).trans houtcome, ?_⟩
      cases hfinds with
      | found result before after method children returned success split earlier decomposed first plan =>
        have happlicable : HTNPlanner.applicable state method = true :=
          (mem_sortedMethods.mp (split ▸ mem_append_right _ mem_cons_self)).2
        exact .found result (.compound task method children) returned success rfl
          ⟨htype, hadmitted, preferred_of_sorted split earlier, happlicable, decomposed, first⟩ plan
      | failed failure none =>
        refine .failed failure (hnone fun m hm happlicable => ?_)
        exact none m (mem_sortedMethods.mpr ⟨hm, happlicable⟩) happlicable

theorem planInternal_finds (fuel : Nat) (task : Task) (state : State) (depth : Nat)
    (hfuel : p.maxDepth < depth + fuel) :
    ∃ outcome, p.planInternal constraints (fuel + 1) task state depth = some outcome ∧
      Finds p constraints depth state task outcome := by
  induction fuel generalizing task state depth with
  | zero =>
    refine planInternal_finds_succ (fun hdepth => absurd hfuel ?_) task state
    simpa using hdepth
  | succ fuel ih =>
    refine planInternal_finds_succ (fun _ task state => ih task state (depth + 1) ?_) task state
    push_cast at hfuel ⊢
    linarith

end Search

section Fuel

variable {p : HTNPlanner Task State} {constraints : List (Condition State)}
  {planTask planTask' : Task → State → Planning Task}

theorem planSubtasks_more (hplan : ∀ task state outcome, planTask task state = some outcome →
      planTask' task state = some outcome) (tasks : List Task) (state : State)
    (done : PartialPlan Task) {outcome : Except String (Option (PartialPlan Task))}
    (h : p.planSubtasks planTask tasks state done = some outcome) :
    p.planSubtasks planTask' tasks state done = some outcome := by
  induction tasks generalizing state done with
  | nil => exact h
  | cons task tasks ih =>
    unfold HTNPlanner.planSubtasks at h ⊢
    cases hfirst : planTask task state with
    | none =>
      rw [hfirst] at h
      cases h
    | some first =>
      rw [hfirst] at h
      rw [hplan task state first hfirst]
      cases first with
      | error message => exact h
      | ok result =>
        by_cases hsuccess : result.success = true
        · simp only [hsuccess, if_true] at h ⊢
          exact ih _ _ h
        · simp only [hsuccess, Bool.false_eq_true, if_false] at h ⊢
          exact h

variable {outcome : Except String (PlanningResult Task)}

theorem tryMethods_more (hplan : ∀ task state outcome, planTask task state = some outcome →
      planTask' task state = some outcome) (task : Task) (state : State) (depth : Nat)
    (methods : List (TaskMethod Task State))
    (h : p.tryMethods planTask task state depth methods = some outcome) :
    p.tryMethods planTask' task state depth methods = some outcome := by
  induction methods with
  | nil => exact h
  | cons method methods ih =>
    unfold HTNPlanner.tryMethods at h ⊢
    cases hdecompose : method.decompose task state with
    | error message =>
      simp only [hdecompose] at h ⊢
      exact ih h
    | ok subtasks =>
      simp only [hdecompose] at h ⊢
      cases hall : p.planSubtasks planTask subtasks state ⟨[], 0, 1, depth⟩ with
      | none =>
        rw [hall] at h
        cases h
      | some all =>
        rw [hall] at h
        rw [planSubtasks_more hplan subtasks state _ hall]
        cases all with
        | error message => exact ih h
        | ok found =>
          cases found with
          | none => exact ih h
          | some found => exact h

theorem planInternal_more (fuel : Nat) (task : Task) (state : State) (depth : Nat)
    (h : p.planInternal constraints fuel task state depth = some outcome) :
    p.planInternal constraints (fuel + 1) task state depth = some outcome := by
  induction fuel generalizing task state depth outcome with
  | zero => cases h
  | succ fuel ih =>
    unfold HTNPlanner.planInternal at h ⊢
    split_ifs at h ⊢ with hdepth hpre hconstraints hmethods
    · exact h
    · exact h
    · exact h
    · exact h
    · cases htype : p.tasks.type task with
      | primitive =>
        simp only [htype] at h ⊢
        exact h
      | compound =>
        simp only [htype] at h ⊢
        exact tryMethods_more (fun task state _ => ih task state (depth + 1)) task state depth _ h

theorem planInternal_le {fuel fuel' : Nat} (hle : fuel ≤ fuel') {task : Task} {state : State}
    {depth : Nat} (h : p.planInternal constraints fuel task state depth = some outcome) :
    p.planInternal constraints fuel' task state depth = some outcome := by
  induction hle with
  | refl => exact h
  | step _ ih => exact planInternal_more _ _ _ _ ih

end Fuel

section Completeness

variable {p : HTNPlanner Task State} {constraints : List (Condition State)}

/-- Planning ends. It succeeds exactly when the goal has a decomposition, with the plan that is the
frontier of the first one. -/
theorem plan_finds_first (p : HTNPlanner Task State) (goalTask : Task) (worldState : State)
    (constraints : List (Condition State)) (planningTime : Int) :
    ∃ enough result,
      (∀ fuel, enough ≤ fuel →
        p.plan fuel goalTask worldState constraints planningTime = some result) ∧
      (result.success = true ↔
        ∃ tree, tree.task = goalTask ∧ Valid p constraints 0 worldState tree) ∧
      (result.success = true → ∃ tree, tree.task = goalTask ∧
        First p constraints 0 worldState tree ∧ result.plan = tree.frontier ∧
        ∀ other, other.task = goalTask → First p constraints 0 worldState other → other = tree) := by
  obtain ⟨n, hn⟩ := exists_nat_gt p.maxDepth
  obtain ⟨outcome, houtcome, hfinds⟩ : ∃ outcome,
      p.planInternal constraints (n + 1) goalTask worldState 0 = some outcome ∧
        Finds p constraints 0 worldState goalTask outcome :=
    planInternal_finds n goalTask worldState 0 (by simpa using hn)
  have hplan (fuel : Nat) (hfuel : n + 1 ≤ fuel) :
      p.plan fuel goalTask worldState constraints planningTime =
        some (HTNPlanner.finished planningTime outcome) :=
    congrArg (Option.map _) (planInternal_le hfuel houtcome)
  refine ⟨n + 1, HTNPlanner.finished planningTime outcome, hplan, ?_⟩
  cases hfinds with
  | found result tree returned success root first plan =>
    subst returned
    refine ⟨⟨fun _ => ⟨tree, root, First.valid tree first⟩, fun _ => success⟩, fun _ => ?_⟩
    exact ⟨tree, root, first, plan, fun other hroot hother =>
      First.unique other tree hother first (hroot.trans root.symm)⟩
  | failed failure none =>
    have hfailed : (HTNPlanner.finished planningTime outcome).success = false := by
      cases outcome with
      | ok result => exact failure result rfl
      | error message => rfl
    rw [hfailed]
    refine ⟨⟨nofun, ?_⟩, nofun⟩
    rintro ⟨tree, hroot, hvalid⟩
    exact absurd hvalid (none tree hroot)

end Completeness

end ActorWeb.Htn
