import ActorWeb.OrderedMap
import ActorWeb.Statecharts
import Mathlib.Data.List.Dedup

/-! The static analysis of a machine's states. -/

namespace ActorWeb.StateMachines

open OrderedMap hiding keys

open Option hiding filter_filter mem_map mem_map_of_mem

open List

section Traversal

mutual

/-- The states below a node in the order they are enumerated in, with their paths. -/
def StateNode.nested (path : List String) : StateNode → List (List String × StateNode)
  | ⟨_, _, _, states⟩ => nestedStates path states

def nestedStates (path : List String) :
    List (String × StateNode) → List (List String × StateNode)
  | [] => []
  | (key, node) :: rest =>
    (path ++ [key], node) :: (node.nested (path ++ [key]) ++ nestedStates path rest)

end

def extractAllStates (machine : StateNode) : List String :=
  (machine.nested []).map fun e => pathText e.1

def extractStateMap (machine : StateNode) : OrderedMap String StateNode :=
  (machine.nested []).foldl (fun stateMap e => stateMap.set (pathText e.1) e.2) .empty

end Traversal

section Transitions

def dropLeading (c : Char) (text : String) : String :=
  match text.toList with
  | first :: rest => if first = c then String.ofList rest else text
  | [] => text

def normalizeTarget (target : String) : String := dropLeading '.' (dropLeading '#' target)

def extractTransitionTargets (value : TransitionValue) : List String :=
  value.transitions.flatMap fun transition => transition.targets.map normalizeTarget

structure ExtractedTransition where
  (eventType target : String)
deriving DecidableEq

def extractTransitions : Option StateNode → List ExtractedTransition
  | none => []
  | some stateNode =>
    stateNode.on.flatMap fun e => (extractTransitionTargets e.2).map fun target => ⟨e.1, target⟩

end Transitions

section Exploration

structure Step where
  (state eventType : String)
deriving DecidableEq

structure StaticStatePath where
  state : String
  steps : List Step
deriving DecidableEq

def StaticStatePath.extend (path : StaticStatePath) (transition : ExtractedTransition) :
    StaticStatePath where
  state := transition.target
  steps := path.steps ++ [⟨transition.target, transition.eventType⟩]

abbrev StatePaths := OrderedMap String StaticStatePath

variable (stateMap : OrderedMap String StateNode)

def followed (paths : StatePaths) (state : String) : List ExtractedTransition :=
  (extractTransitions (stateMap.get state)).filter fun transition =>
    stateMap.has transition.target && !paths.has transition.target

def unexplored (paths : StatePaths) : List String :=
  stateMap.keys.filter fun state => !paths.has state

variable {stateMap} {paths : StatePaths} {path : StaticStatePath} {state : String}

theorem has_set : (paths.set path.state path).has state = true ↔
    state = path.state ∨ paths.has state = true := by
  unfold OrderedMap.has
  rw [get_set]
  by_cases h : state = path.state <;> simp [h]

theorem mem_unexplored : state ∈ unexplored stateMap paths ↔
    stateMap.has state = true ∧ paths.has state = false := by
  have hkeys : state ∈ stateMap.keys ↔ stateMap.has state = true := by
    rw [← not_iff_not, ← get_eq_none_iff, OrderedMap.has, Bool.not_eq_true,
      isSome_eq_false_iff, isNone_iff_eq_none]
  rw [unexplored, mem_filter, hkeys, Bool.not_eq_true']

theorem unexplored_set : unexplored stateMap (paths.set path.state path) =
    (unexplored stateMap paths).filter fun state => state ≠ path.state := by
  unfold unexplored
  rw [filter_filter]
  refine filter_congr fun state _ => ?_
  rw [Bool.eq_iff_iff, Bool.not_eq_true', ← Bool.not_eq_true, has_set]
  simp [not_or]

theorem explore_decreases {queue : List StaticStatePath} (hnew : paths.has path.state = false) :
    Prod.Lex (· < ·) (· < ·)
      ((unexplored stateMap (paths.set path.state path)).length,
        (queue ++ (followed stateMap (paths.set path.state path) path.state).map path.extend).length)
      ((unexplored stateMap paths).length, (path :: queue).length) := by
  rw [unexplored_set]
  by_cases hknown : stateMap.has path.state = true
  · refine Prod.Lex.left _ _ (length_filter_lt_length_iff_exists.mpr ⟨path.state, ?_, ?_⟩)
    · exact mem_unexplored.mpr ⟨hknown, hnew⟩
    · simp
  · have hnone : stateMap.get path.state = none := by simpa [OrderedMap.has] using hknown
    have hnothing : followed stateMap (paths.set path.state path) path.state = [] := by
      rw [followed, hnone]
      rfl
    have hsame : (unexplored stateMap paths).filter (fun state => state ≠ path.state) =
        unexplored stateMap paths := by
      refine filter_eq_self.mpr fun state hstate => decide_eq_true ?_
      rintro rfl
      exact hknown (mem_unexplored.mp hstate).1
    rw [hnothing, hsame, map_nil, append_nil]
    exact Prod.Lex.right _ (Nat.lt_succ_self _)

variable (stateMap)

def explore : List StaticStatePath → StatePaths → StatePaths
  | [], paths => paths
  | current :: queue, paths =>
    if paths.has current.state then explore queue paths
    else
      explore (queue ++ (followed stateMap (paths.set current.state current) current.state).map
        current.extend) (paths.set current.state current)
termination_by queue paths => ((unexplored stateMap paths).length, queue.length)
decreasing_by
  · exact Prod.Lex.right _ (Nat.lt_succ_self _)
  · exact explore_decreases (Bool.not_eq_true _ ▸ ‹_›)

end Exploration

section Analysis

variable (machine : StateNode)

def analyzeStaticReachability (allStates : List String) : List StaticStatePath :=
  match machine.initial.orElse fun _ => allStates.head? with
  | none => []
  | some initialState =>
    if initialState = "" then []
    else (explore (extractStateMap machine) [⟨initialState, []⟩] .empty).values

structure StateAnalysisResult where
  (totalStates reachableStates : Nat)
  unreachableStates : List String
  reachablePaths : StatePaths
  simplePaths : List StaticStatePath

def analyzeStateMachine : StateAnalysisResult :=
  let allStates := extractAllStates machine
  let shortestPaths := analyzeStaticReachability machine allStates
  let reachableStates := shortestPaths.map StaticStatePath.state
  { totalStates := allStates.length
    reachableStates := reachableStates.dedup.length
    unreachableStates := allStates.filter fun state => state ∉ reachableStates
    reachablePaths := shortestPaths.foldl (fun paths path => paths.set path.state path) .empty
    simplePaths := shortestPaths }

def assertNoUnreachableStates (machineName : String) : Except String Unit :=
  let analysis := analyzeStateMachine machine
  if analysis.unreachableStates.length > 0 then
    .error (machineName ++ " has " ++ toString analysis.unreachableStates.length ++
      " unreachable states: " ++ ", ".intercalate analysis.unreachableStates)
  else .ok ()

end Analysis

section Search

variable {stateMap : OrderedMap String StateNode} {queue : List StaticStatePath}
  {paths : StatePaths} {state : String}

/-- Every path stands under its own state, and a transition of a state with a path leads to a state
that has one or is queued. -/
structure Explored (stateMap : OrderedMap String StateNode) (queue : List StaticStatePath)
    (paths : StatePaths) : Prop where
  named : ∀ state path, paths.get state = some path → path.state = state
  leads : ∀ state, paths.has state = true → ∀ transition ∈ extractTransitions (stateMap.get state),
    stateMap.has transition.target = true →
      paths.has transition.target = true ∨ ∃ path ∈ queue, path.state = transition.target

theorem Explored.skip {current : StaticStatePath} (h : Explored stateMap (current :: queue) paths)
    (hold : paths.has current.state = true) : Explored stateMap queue paths where
  named := h.named
  leads state hstate transition htransition hknown := by
    obtain hdone | ⟨path, hpath, htarget⟩ := h.leads state hstate transition htransition hknown
    · exact .inl hdone
    · obtain rfl | hpath := mem_cons.mp hpath
      · exact .inl (htarget ▸ hold)
      · exact .inr ⟨path, hpath, htarget⟩

theorem Explored.enter {current : StaticStatePath} (h : Explored stateMap (current :: queue) paths) :
    Explored stateMap (queue ++
      (followed stateMap (paths.set current.state current) current.state).map current.extend)
      (paths.set current.state current) where
  named state path hget := by
    rw [get_set] at hget
    split at hget
    case isTrue hstate => exact (some.inj hget) ▸ hstate.symm
    case isFalse => exact h.named state path hget
  leads state hstate transition htransition hknown := by
    by_cases hdone : (paths.set current.state current).has transition.target = true
    · exact .inl hdone
    · obtain rfl | hstate := has_set.mp hstate
      · refine .inr ⟨current.extend transition, mem_append_right _ (mem_map_of_mem ?_), rfl⟩
        refine mem_filter.mpr ⟨htransition, ?_⟩
        rw [hknown, (Bool.not_eq_true _).mp hdone]
        rfl
      · obtain hold | ⟨path, hpath, htarget⟩ := h.leads state hstate transition htransition hknown
        · exact absurd (has_set.mpr (.inr hold)) hdone
        · obtain rfl | hpath := mem_cons.mp hpath
          · exact absurd (has_set.mpr (.inl htarget.symm)) hdone
          · exact .inr ⟨path, mem_append_left _ hpath, htarget⟩

theorem explore_explored (h : Explored stateMap queue paths) :
    Explored stateMap [] (explore stateMap queue paths) ∧
      (∀ state, paths.has state = true → (explore stateMap queue paths).has state = true) ∧
      ∀ path ∈ queue, (explore stateMap queue paths).has path.state = true := by
  induction queue, paths using explore.induct stateMap with
  | case1 paths =>
    rw [explore]
    exact ⟨h, fun _ hstate => hstate, fun path hpath => absurd hpath not_mem_nil⟩
  | case2 paths current queue hold ih =>
    rw [explore, if_pos hold]
    obtain ⟨hdone, hkeeps, hqueue⟩ := ih (h.skip hold)
    refine ⟨hdone, hkeeps, fun path hpath => ?_⟩
    obtain rfl | hpath := mem_cons.mp hpath
    · exact hkeeps _ hold
    · exact hqueue path hpath
  | case3 paths current queue hnew ih =>
    rw [explore, if_neg hnew]
    obtain ⟨hdone, hkeeps, hqueue⟩ := ih h.enter
    refine ⟨hdone, fun state hstate => hkeeps state (has_set.mpr (.inr hstate)), ?_⟩
    intro path hpath
    obtain rfl | hpath := mem_cons.mp hpath
    · exact hkeeps _ (has_set.mpr (.inl rfl))
    · exact hqueue path (mem_append_left _ hpath)

end Search

section Nodes

variable {machine node : StateNode} {states : List (String × StateNode)} {path : List String}
  {key : String}

theorem nested_eq {pre : List String} : machine.nested pre = nestedStates pre machine.states := by
  cases machine
  rfl

theorem mem_nestedStates (pre : List String) {child : StateNode} (hchild : (key, child) ∈ states) :
    (pre ++ [key], child) ∈ nestedStates pre states ∧
      child.nested (pre ++ [key]) ⊆ nestedStates pre states := by
  induction states with
  | nil => exact absurd hchild not_mem_nil
  | cons e states ih =>
    obtain ⟨key', child'⟩ := e
    rw [nestedStates]
    obtain heq | hmem := mem_cons.mp hchild
    · cases heq
      exact ⟨mem_cons_self, fun x hx => mem_cons_of_mem _ (mem_append_left _ hx)⟩
    · obtain ⟨hself, hbelow⟩ := ih hmem
      exact ⟨mem_cons_of_mem _ (mem_append_right _ hself),
        fun x hx => mem_cons_of_mem _ (mem_append_right _ (hbelow hx))⟩

theorem child?_mem {child : StateNode} (h : node.child? key = some child) :
    (key, child) ∈ node.states := by
  obtain ⟨e, he, rfl⟩ := map_eq_some_iff.mp h
  have hkey := find?_some he
  rw [decide_eq_true_eq] at hkey
  subst hkey
  exact mem_of_find?_eq_some he

theorem node?_nested (pre : List String) {found : StateNode} (h : node.node? path = some found)
    (hpath : path ≠ []) : (pre ++ path, found) ∈ node.nested pre := by
  induction path generalizing node pre with
  | nil => exact absurd rfl hpath
  | cons key path ih =>
    obtain ⟨child, hchild, hrest⟩ := bind_eq_some_iff.mp h
    obtain ⟨hself, hbelow⟩ := mem_nestedStates pre (child?_mem hchild)
    rw [nested_eq]
    cases path with
    | nil =>
      cases hrest
      exact hself
    | cons key' path =>
      have hmem := hbelow (ih (pre ++ [key]) hrest (cons_ne_nil _ _))
      rwa [append_assoc, singleton_append] at hmem

theorem node?_append {path' : List String} :
    node.node? (path ++ path') = (node.node? path).bind fun n => n.node? path' := by
  induction path generalizing node with
  | nil => rfl
  | cons key path ih =>
    rw [cons_append, StateNode.node?, StateNode.node?, bind_assoc]
    exact Option.bind_congr fun child _ => ih

theorem node?_prefix {path' : List String} (h : (node.node? path').isSome = true)
    (hfront : path <+: path') : (node.node? path).isSome = true := by
  obtain ⟨rest, rfl⟩ := hfront
  rw [node?_append] at h
  cases hnode : node.node? path with
  | none => rw [hnode] at h; cases h
  | some _ => rfl

theorem Settles.node? (h : Settles node path) : (node.node? path).isSome = true := by
  induction h with
  | atomic _ => rfl
  | initial _ found _ ih =>
    rw [StateNode.node?, found]
    exact ih

theorem Reaches.node? {active : List String} (h : Reaches machine active) :
    (machine.node? active).isSome = true := by
  cases h with
  | start settles => exact settles.node?
  | step earlier takes =>
    cases takes with
    | transition _ _ _ _ _ _ entered path node _ _ _ _ found settles =>
      rw [node?_append, found]
      exact settles.node?

theorem foldl_set_has {entries : List (List String × StateNode)} {text : String}
    {stateMap : OrderedMap String StateNode}
    (h : stateMap.has text = true ∨ ∃ e ∈ entries, pathText e.1 = text) :
    (entries.foldl (fun stateMap e => stateMap.set (pathText e.1) e.2) stateMap).has text = true := by
  induction entries generalizing stateMap with
  | nil =>
    obtain h | ⟨e, he, -⟩ := h
    · exact h
    · exact absurd he not_mem_nil
  | cons e entries ih =>
    refine ih ?_
    have hset : ∀ text, stateMap.has text = true ∨ text = pathText e.1 →
        (stateMap.set (pathText e.1) e.2).has text = true := by
      intro text h
      rw [OrderedMap.has, get_set]
      split
      case isTrue => rfl
      case isFalse hne => exact h.resolve_right hne
    obtain h | ⟨e', he', htext⟩ := h
    · exact .inl (hset text (.inl h))
    · obtain rfl | he' := mem_cons.mp he'
      · exact .inl (hset text (.inr htext.symm))
      · exact .inr ⟨e', he', htext⟩

theorem extractStateMap_has (h : (machine.node? path).isSome = true) (hpath : path ≠ []) :
    (extractStateMap machine).has (pathText path) = true := by
  obtain ⟨found, hfound⟩ := isSome_iff_exists.mp h
  exact foldl_set_has (.inr ⟨_, node?_nested [] hfound hpath, rfl⟩)

end Nodes

section Runs

variable {machine : StateNode} {active active' path : List String}

/-- The states of a configuration were active before, or the analysis reads their texts as targets of
states that were. -/
def AsRead (machine : StateNode) (active active' : List String) : Prop :=
  ∀ path, Active active' path → Active active path ∨ ∃ source, Active active source ∧
    pathText path ∈ (extractTransitions
      ((extractStateMap machine).get (pathText source))).map ExtractedTransition.target

/-- A run that starts in a named state without an initial descendant, and whose steps are all
read. -/
inductive ReachesAsRead (machine : StateNode) : List String → Prop
  | start {active : List String} (settles : Settles machine active) (short : active.length ≤ 1)
      (named : active ≠ [""]) : ReachesAsRead machine active
  | step {active active' : List String} (earlier : ReachesAsRead machine active)
      (takes : Takes machine active active') (read : AsRead machine active active') :
      ReachesAsRead machine active'

theorem ReachesAsRead.reaches (h : ReachesAsRead machine active) : Reaches machine active := by
  induction h with
  | start settles _ _ => exact .start settles
  | step _ takes _ ih => exact .step ih takes

def Found (machine : StateNode) (text : String) : Prop :=
  text ∈ (analyzeStaticReachability machine (extractAllStates machine)).map StaticStatePath.state

theorem mem_unreachableStates {text : String} :
    text ∈ (analyzeStateMachine machine).unreachableStates ↔
      text ∈ extractAllStates machine ∧ ¬ Found machine text := by
  unfold analyzeStateMachine
  rw [mem_filter, decide_eq_true_eq]
  rfl

def explored (machine : StateNode) (initialState : String) : StatePaths :=
  explore (extractStateMap machine) [⟨initialState, []⟩] .empty

theorem explored_spec (machine : StateNode) (initialState : String) :
    Explored (extractStateMap machine) [] (explored machine initialState) ∧
      (explored machine initialState).has initialState = true := by
  have hstart : Explored (extractStateMap machine) [⟨initialState, []⟩] .empty :=
    ⟨fun _ _ h => (by cases h), fun _ h => (by cases h)⟩
  obtain ⟨hdone, -, hqueue⟩ := explore_explored hstart
  exact ⟨hdone, hqueue _ mem_cons_self⟩

theorem found_iff {initialState text : String} (hinitial : machine.initial = some initialState)
    (hnonempty : initialState ≠ "") :
    Found machine text ↔ (explored machine initialState).has text = true := by
  have hpaths : analyzeStaticReachability machine (extractAllStates machine) =
      (explored machine initialState).values := by
    unfold analyzeStaticReachability
    rw [hinitial]
    exact if_neg hnonempty
  rw [Found, hpaths, mem_map]
  constructor
  · rintro ⟨found, hfound, rfl⟩
    obtain ⟨state, hget⟩ := mem_values_iff.mp hfound
    rw [(explored_spec machine initialState).1.named state found hget, OrderedMap.has, hget]
    rfl
  · intro hhas
    obtain ⟨found, hget⟩ := isSome_iff_exists.mp hhas
    exact ⟨found, mem_values_iff.mpr ⟨text, hget⟩,
      (explored_spec machine initialState).1.named text found hget⟩

theorem active_singleton {key : String} : Active [key] path ↔ path = [key] := by
  constructor
  · rintro ⟨hne, hfront⟩
    obtain rfl | ⟨rest, rfl, hrest⟩ := prefix_cons_iff.mp hfront
    · exact absurd rfl hne
    · rw [prefix_nil.mp hrest]
  · rintro rfl
    exact ⟨cons_ne_nil _ _, prefix_refl _⟩

theorem Settles.initial_eq {key : String} (h : Settles machine (key :: path)) :
    machine.initial = some key := by
  cases h with
  | initial first _ _ => exact first

theorem ReachesAsRead.initial (h : ReachesAsRead machine active) (hactive : Active active path) :
    ∃ key, machine.initial = some key ∧ key ≠ "" := by
  induction h generalizing path with
  | @start active settles short named =>
    cases active with
    | nil => exact absurd (prefix_nil.mp hactive.2) hactive.1
    | cons key rest =>
      obtain rfl : rest = [] := length_eq_zero_iff.mp (by simpa using short)
      exact ⟨key, settles.initial_eq, fun h => named (by rw [h])⟩
  | step _ _ read ih =>
    obtain hbefore | ⟨source, hsource, -⟩ := read path hactive
    · exact ih hbefore
    · exact ih hsource

theorem ReachesAsRead.found (h : ReachesAsRead machine active) (hactive : Active active path) :
    Found machine (pathText path) := by
  induction h generalizing path with
  | @start active settles short named =>
    cases active with
    | nil => exact absurd (prefix_nil.mp hactive.2) hactive.1
    | cons key rest =>
      obtain rfl : rest = [] := length_eq_zero_iff.mp (by simpa using short)
      obtain rfl := active_singleton.mp hactive
      have hname : key ≠ "" := fun h => named (by rw [h])
      exact (found_iff settles.initial_eq hname).mpr (explored_spec machine key).2
  | @step active active' earlier takes read ih =>
    obtain hbefore | ⟨source, hsource, htarget⟩ := read path hactive
    · exact ih hbefore
    · obtain ⟨key, hinitial, hname⟩ := earlier.initial hsource
      have hnode : (machine.node? path).isSome = true :=
        node?_prefix (Reaches.step earlier.reaches takes).node? hactive.2
      obtain ⟨transition, htransition, htext⟩ := mem_map.mp htarget
      have hleads := (explored_spec machine key).1.leads _ ((found_iff hinitial hname).mp (ih hsource))
        transition htransition (htext ▸ extractStateMap_has hnode hactive.1)
      obtain hfound | ⟨_, hqueued, -⟩ := hleads
      · exact (found_iff hinitial hname).mpr (htext ▸ hfound)
      · exact absurd hqueued not_mem_nil

end Runs

section Flat

variable {machine node : StateNode} {active active' path : List String} {target : String}

/-- A machine whose states have no states themselves. Its own transitions have no targets, and an id
that is a target is that of the state with the same key. -/
structure Flat (machine : StateNode) : Prop where
  keys : (machine.states.map Prod.fst).Nodup
  named : ∀ e ∈ machine.states, e.1 ≠ ""
  atomic : ∀ e ∈ machine.states, e.2.states = []
  quiet : ∀ value ∈ machine.on, ∀ transition ∈ value.2.transitions, transition.targets = []
  ids : ∀ e ∈ machine.states, ∀ value ∈ e.2.on, ∀ transition ∈ value.2.transitions,
    ∀ target ∈ transition.targets, target.toList.head? = some '#' →
      ∀ path, Resolves machine [e.1] target path → path = [normalizeTarget target]

theorem Settles.of_atomic (hnode : node.states = []) (h : Settles node path) : path = [] := by
  cases h with
  | atomic _ => rfl
  | initial _ found _ =>
    have hmem := child?_mem found
    rw [hnode] at hmem
    exact absurd hmem not_mem_nil

theorem Flat.node? (h : Flat machine) (hnode : machine.node? path = some node) (hpath : path ≠ []) :
    ∃ key, path = [key] ∧ (key, node) ∈ machine.states := by
  cases path with
  | nil => exact absurd rfl hpath
  | cons key rest =>
    obtain ⟨child, hchild, hrest⟩ := bind_eq_some_iff.mp hnode
    have hmem := child?_mem hchild
    cases rest with
    | nil =>
      cases hrest
      exact ⟨key, rfl, hmem⟩
    | cons key' rest =>
      obtain ⟨grandchild, hgrandchild, -⟩ := bind_eq_some_iff.mp hrest
      have hin := child?_mem hgrandchild
      rw [h.atomic _ hmem] at hin
      exact absurd hin not_mem_nil

theorem Flat.settles (h : Flat machine) (hsettles : Settles machine path) :
    path.length ≤ 1 ∧ path ≠ [""] := by
  cases hsettles with
  | atomic _ => exact ⟨Nat.zero_le 1, (cons_ne_nil _ _).symm⟩
  | initial _ found below =>
    have hmem := child?_mem found
    rw [below.of_atomic (h.atomic _ hmem)]
    refine ⟨Nat.le_refl 1, fun heq => h.named _ hmem ?_⟩
    exact head_eq_of_cons_eq heq

theorem nestedStates_flat {states : List (String × StateNode)} {pre : List String}
    (hatomic : ∀ e ∈ states, e.2.states = []) :
    nestedStates pre states = states.map fun e => (pre ++ [e.1], e.2) := by
  induction states with
  | nil => rfl
  | cons e states ih =>
    obtain ⟨key, child⟩ := e
    have hchild : child.states = [] := hatomic _ mem_cons_self
    rw [nestedStates, nested_eq, hchild, ih fun e he => hatomic e (mem_cons_of_mem _ he)]
    rfl

theorem pathText_singleton (key : String) : pathText [key] = key := rfl

theorem foldl_set_get {states : List (String × StateNode)} {key : String}
    {stateMap : OrderedMap String StateNode} (hkeys : (states.map Prod.fst).Nodup) :
    (states.foldl (fun stateMap e => stateMap.set e.1 e.2) stateMap).get key =
      ((states.find? fun e => e.1 = key).map Prod.snd).or (stateMap.get key) := by
  induction states generalizing stateMap with
  | nil => rfl
  | cons e states ih =>
    rw [map_cons, nodup_cons] at hkeys
    rw [foldl_cons, ih hkeys.2, find?_cons, get_set]
    by_cases hkey : e.1 = key
    · have hnone : states.find? (fun e => e.1 = key) = none := by
        refine find?_eq_none.mpr fun e' he' hkey' => hkeys.1 ?_
        rw [hkey, ← of_decide_eq_true hkey']
        exact mem_map_of_mem he'
      rw [hnone, if_pos hkey.symm]
      simp [hkey]
    · rw [if_neg (Ne.symm hkey)]
      simp [hkey]

theorem Flat.extractStateMap_get (h : Flat machine) (key : String) :
    (extractStateMap machine).get key = machine.child? key := by
  have hnested : machine.nested [] = machine.states.map fun e => ([e.1], e.2) := by
    rw [nested_eq, nestedStates_flat h.atomic]
    rfl
  unfold extractStateMap
  rw [hnested, foldl_map]
  simp only [pathText_singleton]
  rw [foldl_set_get h.keys]
  exact or_none

variable {transition : TransitionConfig}

theorem mem_candidates {eventType : String} (h : transition ∈ node.candidates eventType) :
    ∃ value ∈ node.on, transition ∈ value.2.transitions := by
  unfold StateNode.candidates at h
  split at h
  case h_1 value hfind => exact ⟨value, mem_of_find?_eq_some hfind, h⟩
  case h_2 =>
    obtain ⟨value, hvalue, htransition⟩ := mem_flatMap.mp h
    have hmem := (perm_insertionSort _ _).mem_iff.mp hvalue
    exact ⟨value, mem_of_mem_filter hmem, htransition⟩

theorem mem_considered {eventType : String} {source : List String}
    (h : (source, transition) ∈ considered machine active eventType) :
    source <+: active ∧ ∃ node, machine.node? source = some node ∧
      ∃ value ∈ node.on, transition ∈ value.2.transitions := by
  obtain ⟨source', hsource, hmem⟩ := mem_flatMap.mp h
  obtain ⟨transition', htransition, heq⟩ := mem_map.mp hmem
  obtain ⟨rfl, rfl⟩ := Prod.mk.inj heq
  refine ⟨(mem_inits _ _).mp (mem_reverse.mp hsource), ?_⟩
  cases hnode : machine.node? source' with
  | none =>
    rw [hnode] at htransition
    exact absurd htransition not_mem_nil
  | some node =>
    rw [hnode] at htransition
    exact ⟨node, rfl, mem_candidates htransition⟩

theorem segments_singleton {first : String} (hsegments : segments target = [first]) :
    target = first ∧ '.' ∉ target.toList := by
  obtain ⟨chars, hsplit, rfl⟩ := map_eq_singleton_iff.mp hsegments
  have hjoin : ['.'].intercalate (target.toList.splitOn '.') = target.toList :=
    intercalate_splitOn '.'
  rw [hsplit] at hjoin
  obtain rfl : chars = target.toList := by simpa [List.intercalate] using hjoin
  refine ⟨(String.ofList_toList).symm, fun hdot => ?_⟩
  obtain ⟨before, after, heq⟩ := append_of_mem hdot
  have hlength := congrArg List.length hsplit
  rw [heq, splitOn_append_cons_self, length_append, length_singleton] at hlength
  have hbefore := length_pos_of_ne_nil (splitOn_ne_nil '.' before)
  have hafter := length_pos_of_ne_nil (splitOn_ne_nil '.' after)
  omega

theorem dropLeading_of_ne {c : Char} (h : target.toList.head? ≠ some c) :
    dropLeading c target = target := by
  unfold dropLeading
  split
  case h_1 first rest hlist =>
    rw [hlist, head?_cons] at h
    exact if_neg fun heq => h (congrArg some heq)
  case h_2 => rfl

theorem normalizeTarget_of_segments {first : String} (hsegments : segments target = [first])
    (hplain : first.toList.head? ≠ some '#') : normalizeTarget target = first := by
  obtain ⟨rfl, hdot⟩ := segments_singleton hsegments
  unfold normalizeTarget
  rw [dropLeading_of_ne hplain]
  exact dropLeading_of_ne fun hhead => hdot (mem_of_head? hhead)

theorem head?_of_segments {id : String} {rest : List String}
    (hsegments : segments target = ("#" ++ id) :: rest) : target.toList.head? = some '#' := by
  unfold segments at hsegments
  cases hsplit : target.toList.splitOn '.' with
  | nil => exact absurd hsplit (splitOn_ne_nil _ _)
  | cons chars others =>
    rw [hsplit, map_cons] at hsegments
    have hchars : chars = '#' :: id.toList := by
      have hlist := congrArg String.toList (List.cons.inj hsegments).1
      rw [String.toList_ofList, String.toList_append] at hlist
      exact hlist
    have hjoin : ['.'].intercalate (target.toList.splitOn '.') = target.toList :=
      intercalate_splitOn '.'
    rw [hsplit, hchars] at hjoin
    rw [← hjoin]
    cases others <;> simp [List.intercalate]

theorem Flat.resolves (h : Flat machine) {e : String × StateNode} (he : e ∈ machine.states)
    {value : String × TransitionValue} (hvalue : value ∈ e.2.on)
    (htransition : transition ∈ value.2.transitions) (htarget : target ∈ transition.targets)
    (hresolves : Resolves machine [e.1] target path) (hnode : machine.node? path = some node) :
    path = [normalizeTarget target] := by
  have hresolved := hresolves
  cases hresolves with
  | byId id owner rest text named =>
    exact h.ids e he value hvalue transition htransition target htarget (head?_of_segments text) _
      hresolved
  | child first rest text =>
    obtain ⟨key, hpath, -⟩ := h.node? hnode (cons_ne_nil _ _)
    exact absurd (congrArg List.length hpath) (by simp)
  | sibling parent key first rest nested text plain =>
    have hne : parent ++ first :: rest ≠ [] :=
      append_ne_nil_of_right_ne_nil _ (cons_ne_nil _ _)
    obtain ⟨key', hpath, -⟩ := h.node? hnode hne
    have hlength := congrArg List.length hpath
    rw [length_append, length_cons, length_singleton] at hlength
    obtain rfl : parent = [] := length_eq_zero_iff.mp (by omega)
    obtain rfl : rest = [] := length_eq_zero_iff.mp (by omega)
    rw [normalizeTarget_of_segments text plain.2]
    rfl

theorem Flat.asRead (h : Flat machine) {key : String} (htakes : Takes machine [key] active') :
    AsRead machine [key] active' ∧ ∃ key' child', active' = [key'] ∧
      machine.child? key' = some child' := by
  cases htakes with
  | transition eventType before after source transition target entered path node selected declined
      targeted resolves found settles =>
      have hmem : (source, transition) ∈ considered machine [key] eventType := by
        rw [selected]
        exact mem_append_right _ mem_cons_self
      obtain ⟨hsource, owner, howner, value, hvalue, htransition⟩ := mem_considered hmem
      obtain rfl | ⟨rest, rfl, hrest⟩ := prefix_cons_iff.mp hsource
      · cases howner
        rw [h.quiet value hvalue transition htransition] at targeted
        exact absurd targeted not_mem_nil
      · rw [prefix_nil.mp hrest] at howner resolves
        have hown : machine.child? key = some owner := by
          obtain ⟨c, hc, hsame⟩ := bind_eq_some_iff.mp howner
          rw [hc, ← some.inj hsame]
        have hentered := h.resolves (child?_mem hown) hvalue htransition targeted resolves found
        subst hentered
        obtain ⟨c, hc, hsame⟩ := bind_eq_some_iff.mp found
        have hleaf : path = [] := settles.of_atomic (by
          rw [← some.inj hsame]
          exact h.atomic _ (child?_mem hc))
        subst hleaf
        refine ⟨fun path hpath => .inr ⟨[key], active_singleton.mpr rfl, ?_⟩, _, c, rfl, hc⟩
        rw [append_nil] at hpath
        rw [active_singleton.mp hpath, pathText_singleton, pathText_singleton,
          h.extractStateMap_get, hown]
        refine mem_map.mpr ⟨⟨value.1, normalizeTarget target⟩, ?_, rfl⟩
        refine mem_flatMap.mpr ⟨value, hvalue, mem_map_of_mem ?_⟩
        exact mem_flatMap.mpr ⟨transition, htransition, mem_map_of_mem targeted⟩

theorem Flat.takes_ne_nil (h : Flat machine) (htakes : Takes machine active active') :
    active ≠ [] := by
  rintro rfl
  cases htakes with
  | transition eventType before after source transition target entered path node selected declined
      targeted resolves found settles =>
      have hmem : (source, transition) ∈ considered machine [] eventType := by
        rw [selected]
        exact mem_append_right _ mem_cons_self
      obtain ⟨hsource, owner, howner, value, hvalue, htransition⟩ := mem_considered hmem
      rw [prefix_nil.mp hsource] at howner
      cases howner
      rw [h.quiet value hvalue transition htransition] at targeted
      exact absurd targeted not_mem_nil

theorem Flat.reachesAsRead (h : Flat machine) (hreaches : Reaches machine active) :
    ReachesAsRead machine active ∧
      (active = [] ∨ ∃ key child, active = [key] ∧ machine.child? key = some child) := by
  induction hreaches with
  | @start active settles =>
    obtain ⟨hshort, hnamed⟩ := h.settles settles
    refine ⟨.start settles hshort hnamed, ?_⟩
    cases settles with
    | atomic _ => exact .inl rfl
    | @initial _ child key path _ found below =>
      rw [below.of_atomic (h.atomic _ (child?_mem found))]
      exact .inr ⟨key, child, rfl, found⟩
  | step _ takes ih =>
    obtain ⟨hread, hleaf⟩ := ih
    obtain ⟨key, -, rfl, -⟩ := hleaf.resolve_left (h.takes_ne_nil takes)
    obtain ⟨hstep, hnext⟩ := h.asRead takes
    exact ⟨.step hread takes hstep, .inr hnext⟩

end Flat

section Results

variable {machine : StateNode}

theorem mem_extractAllStates {text : String} (h : text ∈ extractAllStates machine) :
    ∃ e ∈ machine.nested [], pathText e.1 = text :=
  mem_map.mp h

/-- No state is reported that is active in a run that is read, and the assertion passes where such
runs come to all states. All runs of a flat machine are read. -/
theorem no_false_unreachable (machine : StateNode) :
    (∀ active, ReachesAsRead machine active → ∀ path, Active active path →
      pathText path ∉ (analyzeStateMachine machine).unreachableStates) ∧
    ((∀ e ∈ machine.nested [], ∃ active, ReachesAsRead machine active ∧ Active active e.1) →
      ∀ machineName, assertNoUnreachableStates machine machineName = .ok ()) ∧
    (Flat machine → ∀ active, Reaches machine active → ReachesAsRead machine active) := by
  refine ⟨fun active hreaches path hactive hreported => ?_, fun hall machineName => ?_,
    fun hflat active hreaches => (hflat.reachesAsRead hreaches).1⟩
  · exact (mem_unreachableStates.mp hreported).2 (hreaches.found hactive)
  · have hnone : (analyzeStateMachine machine).unreachableStates = [] := by
      refine eq_nil_iff_forall_not_mem.mpr fun text htext => ?_
      obtain ⟨hstate, hmissing⟩ := mem_unreachableStates.mp htext
      obtain ⟨e, he, rfl⟩ := mem_extractAllStates hstate
      obtain ⟨active, hreaches, hactive⟩ := hall e he
      exact hmissing (hreaches.found hactive)
    refine if_neg ?_
    rw [hnone]
    exact Nat.lt_irrefl 0

def toggle : StateNode where
  id := none
  initial := some "off"
  on := []
  states := [("off", ⟨none, none, [("TOGGLE", .array [.object (some (.text "on")) true])], []⟩),
    ("on", ⟨none, none, [], []⟩)]

theorem toggle_all_reachable : assertNoUnreachableStates toggle "toggle" = .ok () := by
  obtain ⟨-, hassert, hflat⟩ := no_false_unreachable toggle
  have hread : ∀ active, Reaches toggle active → ReachesAsRead toggle active := by
    refine hflat ⟨by decide, by decide, ?_, by decide, ?_⟩
    · simp [toggle]
    · simp [toggle, TransitionValue.transitions, TransitionConfig.targets]
  have hoff : Reaches toggle ["off"] := .start (.initial rfl rfl (.atomic rfl))
  have hon : Reaches toggle ["on"] := by
    refine .step hoff (.transition "TOGGLE" [] [] ["off"] (.object (some (.text "on")) true) "on"
      ["on"] [] ⟨none, none, [], []⟩ rfl ?_ mem_cons_self ?_ rfl (.atomic rfl))
    · exact fun _ h => absurd h not_mem_nil
    · exact .sibling [] "off" "on" [] rfl rfl (by decide)
  refine hassert (fun e he => ?_) "toggle"
  obtain rfl | he := mem_cons.mp he
  · exact ⟨["off"], hread _ hoff, active_singleton.mpr rfl⟩
  · obtain rfl | he := mem_cons.mp he
    · exact ⟨["on"], hread _ hon, active_singleton.mpr rfl⟩
    · exact absurd he not_mem_nil

def nestedMachine : StateNode where
  id := none
  initial := some "a"
  on := []
  states := [("a", ⟨none, some "b", [], [("b", ⟨none, none, [], []⟩)]⟩)]

theorem initial_child_reported : Reaches nestedMachine ["a", "b"] ∧
    Active ["a", "b"] ["a", "b"] ∧
    pathText ["a", "b"] ∈ (analyzeStateMachine nestedMachine).unreachableStates := by
  refine ⟨.start (.initial rfl rfl (.initial rfl rfl (.atomic rfl))),
    ⟨cons_ne_nil _ _, prefix_refl _⟩, ?_⟩
  refine mem_unreachableStates.mpr ⟨by decide, fun hfound => ?_⟩
  have hnothing : followed (extractStateMap nestedMachine)
      (OrderedMap.empty.set "a" ⟨"a", []⟩) "a" = [] := rfl
  have hinitial : nestedMachine.initial = some "a" := rfl
  rw [found_iff hinitial (by decide), explored, explore, if_neg (by decide),
    hnothing, map_nil, append_nil, explore] at hfound
  exact absurd hfound (by decide)

end Results

end ActorWeb.StateMachines
