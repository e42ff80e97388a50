import ActorWeb.HtnPlanner

/-! Plans are executable where compound tasks declare the effects of their subtasks. -/

namespace ActorWeb.Htn

open List

variable {Task State : Type}

section Execution

variable (p : HTNPlanner Task State) (constraints : List (Condition State))

def execute (state : State) (tasks : List Task) : State :=
  tasks.foldl (fun state task => applyEffects (p.tasks.effects task) state) state

/-- Each task is executed in a state that meets its preconditions and the constraints. -/
def Executes (state : State) : List Task → Prop
  | [] => True
  | task :: tasks =>
    checkPreconditions (p.tasks.preconditions task) state = true ∧
      checkPreconditions constraints state = true ∧
      Executes (applyEffects (p.tasks.effects task) state) tasks

inductive Reached (goal : Task) : Task → Prop
  | goal : Reached goal goal
  | subtask {parent child : Task} {method : TaskMethod Task State} {state : State}
      {subtasks : List Task} (reached : Reached goal parent) (mem : method ∈ p.methodsOf parent)
      (decomposed : method.decompose parent state = .ok subtasks) (child_mem : child ∈ subtasks) :
      Reached goal child

/-- The effects that a compound task declares are those of its subtasks, whatever method is used in
a state in which the task is admitted. -/
def Declares (task : Task) : Prop :=
  p.tasks.type task = .compound → ∀ method ∈ p.methodsOf task, ∀ state subtasks,
    checkPreconditions (p.tasks.preconditions task) state = true →
    checkPreconditions constraints state = true → HTNPlanner.applicable state method = true →
    method.decompose task state = .ok subtasks →
    execute p state subtasks = applyEffects (p.tasks.effects task) state

/-- The tasks whose effects a later task may see: a subtask that is not the last one, and all below
such a task. -/
inductive Seen (goal : Task) : Task → Prop
  | early {parent child next : Task} {method : TaskMethod Task State} {state : State}
      {done rest : List Task} (reached : Reached p goal parent) (mem : method ∈ p.methodsOf parent)
      (decomposed : method.decompose parent state = .ok (done ++ child :: next :: rest)) :
      Seen goal child
  | inside {parent child : Task} {method : TaskMethod Task State} {state : State}
      {subtasks : List Task} (seen : Seen goal parent) (mem : method ∈ p.methodsOf parent)
      (decomposed : method.decompose parent state = .ok subtasks) (child_mem : child ∈ subtasks) :
      Seen goal child

end Execution

section Frontiers

variable {p : HTNPlanner Task State} {constraints : List (Condition State)} {goal : Task}

theorem execute_append (state : State) (tasks tasks' : List Task) :
    execute p state (tasks ++ tasks') = execute p (execute p state tasks) tasks' :=
  foldl_append ..

theorem executes_append (state : State) (tasks tasks' : List Task) :
    Executes p constraints state (tasks ++ tasks') ↔ Executes p constraints state tasks ∧
      Executes p constraints (execute p state tasks) tasks' := by
  induction tasks generalizing state with
  | nil => exact ⟨fun h => ⟨trivial, h⟩, And.right⟩
  | cons task tasks ih =>
    rw [cons_append, Executes, Executes, ih, and_assoc, and_assoc]
    rfl

mutual

theorem executes_frontier (hseen : ∀ task, Seen p goal task → Declares p constraints task)
    {depth : Nat} {state : State} : (tree : Tree Task State) → Reached p goal tree.task →
    Valid p constraints depth state tree →
    Executes p constraints state tree.frontier ∧ (Seen p goal tree.task →
      execute p state tree.frontier = applyEffects (p.tasks.effects tree.task) state)
  | .primitive task, _, hvalid => ⟨⟨hvalid.2.2.1, hvalid.2.2.2, trivial⟩, fun _ => rfl⟩
  | .compound task method children, hreached, hvalid => by
    obtain ⟨htype, hadmitted, hmethod, happlicable, hdecompose, hchildren⟩ := hvalid
    obtain ⟨hexecutes, heffects⟩ :=
      executes_frontiers hseen hreached hmethod [] children hdecompose hchildren
    refine ⟨hexecutes, fun hself => (heffects hself).trans ?_⟩
    exact hseen task hself htype method hmethod state _ hadmitted.2.1 hadmitted.2.2 happlicable
      hdecompose

theorem executes_frontiers (hseen : ∀ task, Seen p goal task → Declares p constraints task)
    {parent : Task} (hreached : Reached p goal parent) {method : TaskMethod Task State}
    (hmethod : method ∈ p.methodsOf parent) {depth : Nat} {start state : State} (done : List Task) :
    (trees : List (Tree Task State)) →
    method.decompose parent start = .ok (done ++ trees.map Tree.task) →
    ValidAll p constraints depth state trees →
    Executes p constraints state (Tree.frontiers trees) ∧ (Seen p goal parent →
      execute p state (Tree.frontiers trees) = execute p state (trees.map Tree.task))
  | [], _, _ => ⟨trivial, fun _ => rfl⟩
  | [tree], hdecompose, hvalid => by
    have hmem : tree.task ∈ done ++ [tree.task] := mem_append_right _ mem_cons_self
    obtain ⟨hexecutes, heffects⟩ := executes_frontier hseen tree
      (.subtask hreached hmethod hdecompose hmem) hvalid.1
    rw [Tree.frontiers, Tree.frontiers, append_nil]
    exact ⟨hexecutes, fun hself => heffects (.inside hself hmethod hdecompose hmem)⟩
  | tree :: next :: trees, hdecompose, hvalid => by
    have hmem : tree.task ∈ done ++ (tree :: next :: trees).map Tree.task :=
      mem_append_right _ mem_cons_self
    obtain ⟨hexecutes, heffects⟩ := executes_frontier hseen tree
      (.subtask hreached hmethod hdecompose hmem) hvalid.1
    have hrest : method.decompose parent start =
        .ok ((done ++ [tree.task]) ++ (next :: trees).map Tree.task) := by
      rw [hdecompose, append_assoc]
      rfl
    obtain ⟨hexecutes', heffects'⟩ :=
      executes_frontiers hseen hreached hmethod (done ++ [tree.task]) (next :: trees) hrest hvalid.2
    rw [Tree.frontiers, executes_append, execute_append,
      heffects (.early hreached hmethod hdecompose)]
    exact ⟨⟨hexecutes, hexecutes'⟩, heffects'⟩

end

theorem plan_frontier {fuel : Nat} {worldState : State} {planningTime : Int}
    {result : PlanningResult Task}
    (hplan : p.plan fuel goal worldState constraints planningTime = some result)
    (hsuccess : result.success = true) :
    ∃ tree : Tree Task State, tree.task = goal ∧ Valid p constraints 0 worldState tree ∧
      result.plan = tree.frontier := by
  obtain ⟨outcome, houtcome, rfl⟩ := Option.map_eq_some_iff.mp hplan
  obtain ⟨n, hn⟩ := exists_nat_gt p.maxDepth
  have hn' : p.maxDepth < (0 : Nat) + ((n + fuel : Nat) : ℚ) := by
    push_cast
    have : (0 : ℚ) ≤ fuel := Nat.cast_nonneg fuel
    linarith
  obtain ⟨outcome', houtcome', hfinds⟩ := planInternal_finds (n + fuel) goal worldState 0 hn'
  obtain rfl : outcome = outcome' := Option.some.inj
    ((planInternal_le (by omega) houtcome).symm.trans houtcome')
  cases hfinds with
  | found result tree returned success root first plan =>
    subst returned
    exact ⟨tree, root, First.valid tree first, plan⟩
  | failed failure none =>
    cases outcome with
    | ok result => exact absurd ((failure result rfl).symm.trans hsuccess) (by decide)
    | error message => cases hsuccess

end Frontiers

section Soundness

inductive Chore
  | goal | fill | pour | check
deriving DecidableEq

def into (id : String) (subtasks : List Chore) : TaskMethod Chore Nat :=
  ⟨id, id, [], fun _ _ => .ok subtasks, 0⟩

def increment : Effect Nat := ⟨"increment", fun n => .ok (n + 1), "counts one"⟩

/-- The goal is to fill, which is to pour, and then to check that the count is `expected`. -/
def chores (declared : List (Effect Nat)) (expected : Nat) : HTNPlanner Chore Nat where
  tasks :=
    { id := fun | .goal => "goal" | .fill => "fill" | .pour => "pour" | .check => "check"
      name := fun | .goal => "goal" | .fill => "fill" | .pour => "pour" | .check => "check"
      type := fun | .goal | .fill => .compound | .pour | .check => .primitive
      preconditions := fun
        | .check => [⟨"counted", fun n => .ok (n = expected), "the count is as expected"⟩]
        | _ => []
      effects := fun
        | .fill => declared
        | .pour => [increment]
        | _ => []
      methods := fun
        | .goal => [into "both" [.fill, .check]]
        | .fill => [into "pour" [.pour]]
        | _ => [] }
  maxDepth := 10
  methodRegistry := .empty
  numberText := fun _ => "10"

theorem seen_ne_goal {task : Chore} (h : Seen (chores [increment] 1) .goal task) : task ≠ .goal := by
  have hmem {parent : Chore} {method : TaskMethod Chore Nat} {state : Nat} {subtasks : List Chore}
      (hmethod : method ∈ (chores [increment] 1).methodsOf parent)
      (hdecompose : method.decompose parent state = .ok subtasks) : .goal ∉ subtasks := by
    cases parent with
    | goal | fill =>
      rw [mem_singleton.mp hmethod] at hdecompose
      rw [← Except.ok.inj hdecompose]
      decide
    | pour | check => cases hmethod
  rintro rfl
  cases h with
  | early _ hmethod hdecompose => exact hmem hmethod hdecompose (by simp)
  | inside _ hmethod hdecompose hchild => exact hmem hmethod hdecompose hchild

theorem declares_pour (task : Chore) (h : Seen (chores [increment] 1) .goal task) :
    Declares (chores [increment] 1) [] task := by
  intro htype method hmethod state subtasks _ _ _ hdecompose
  cases task with
  | goal => exact absurd rfl (seen_ne_goal h)
  | pour | check => cases htype
  | fill =>
    rw [mem_singleton.mp hmethod] at hdecompose
    rw [← Except.ok.inj hdecompose]
    rfl

end Soundness

end ActorWeb.Htn
