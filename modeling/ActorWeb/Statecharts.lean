import Mathlib.Data.List.Infix
import Mathlib.Data.List.Sort

/-! Machines of nested states, and the configurations that they reach. -/

namespace ActorWeb.StateMachines

section Configs

inductive TransitionTarget
  | text (target : String)
  | texts (targets : List String)

/-- A transition as it is configured: its target alone, or an object. -/
inductive TransitionConfig
  | target (target : String)
  | object (target : Option TransitionTarget) (guarded : Bool)

inductive TransitionValue
  | single (transition : TransitionConfig)
  | array (transitions : List TransitionConfig)

structure StateNode where
  (id initial : Option String)
  on : List (String × TransitionValue)
  states : List (String × StateNode)

def TransitionConfig.targets : TransitionConfig → List String
  | .target name => [name]
  | .object (some (.text name)) _ => [name]
  | .object (some (.texts names)) _ => names
  | .object none _ => []

def TransitionConfig.guarded : TransitionConfig → Bool
  | .target _ => false
  | .object _ guarded => guarded

def TransitionValue.transitions : TransitionValue → List TransitionConfig
  | .single transition => [transition]
  | .array transitions => transitions

end Configs

section Nodes

def segments (text : String) : List String := (text.toList.splitOn '.').map String.ofList

def pathText (path : List String) : String := ".".intercalate path

def StateNode.child? (node : StateNode) (key : String) : Option StateNode :=
  (node.states.find? fun e => e.1 = key).map Prod.snd

def StateNode.node? : StateNode → List String → Option StateNode
  | node, [] => some node
  | node, key :: path => (node.child? key).bind fun child => child.node? path

/-- The id of the state at a path: one of its own, or else that of the machine with the path. -/
def StateNode.idAt (machine : StateNode) (path : List String) : Option String :=
  (machine.node? path).map fun node =>
    node.id.getD (pathText (machine.id.getD "(machine)" :: path))

end Nodes

section Semantics

variable (machine : StateNode)

inductive Resolves (source : List String) (target : String) : List String → Prop
  | byId (id : String) (owner rest : List String) (text : segments target = ("#" ++ id) :: rest)
      (named : machine.idAt owner = some id) : Resolves source target (owner ++ rest)
  | child (first : String) (rest : List String) (text : segments target = "" :: first :: rest) :
      Resolves source target (source ++ first :: rest)
  | sibling (parent : List String) (key first : String) (rest : List String)
      (nested : source = parent ++ [key]) (text : segments target = first :: rest)
      (plain : first.toList.head? ≠ none ∧ first.toList.head? ≠ some '#') :
      Resolves source target (parent ++ first :: rest)

/-- The initial descendants of a state that is entered, down to an atomic one. -/
inductive Settles : StateNode → List String → Prop
  | atomic {node : StateNode} (leaf : node.states = []) : Settles node []
  | initial {node child : StateNode} {key : String} {path : List String}
      (first : node.initial = some key) (found : node.child? key = some child)
      (below : Settles child path) : Settles node (key :: path)

def covers (eventType descriptor : String) : Bool :=
  (segments descriptor).getLast? = some "*" &&
    (segments descriptor).dropLast.isPrefixOf (segments eventType)

/-- The transitions of a state for an event: those for its type, or else those of the wildcards that
cover it, the longest ones first. -/
def StateNode.candidates (node : StateNode) (eventType : String) : List TransitionConfig :=
  match node.on.find? fun e => e.1 = eventType with
  | some e => e.2.transitions
  | none =>
    ((node.on.filter fun e => covers eventType e.1).insertionSort
      fun e e' => e'.1.length ≤ e.1.length).flatMap fun e => e.2.transitions

/-- The transitions that are considered, from the innermost active state outwards. -/
def considered (active : List String) (eventType : String) :
    List (List String × TransitionConfig) :=
  active.inits.reverse.flatMap fun source =>
    (((machine.node? source).map fun node => node.candidates eventType).getD []).map
      fun transition => (source, transition)

/-- An event takes the machine from one configuration to another. A configuration is the path of its
atomic state, and one of the targets is entered, since no state has parallel ones. The guards before
the transition that is taken are false. -/
inductive Takes (active : List String) : List String → Prop
  | transition (eventType : String) (before after : List (List String × TransitionConfig))
      (source : List String) (transition : TransitionConfig) (target : String)
      (entered path : List String) (node : StateNode)
      (selected : considered machine active eventType = before ++ (source, transition) :: after)
      (declined : ∀ c ∈ before, c.2.guarded = true) (targeted : target ∈ transition.targets)
      (resolves : Resolves machine source target entered)
      (found : machine.node? entered = some node) (settles : Settles node path) :
      Takes active (entered ++ path)

inductive Reaches : List String → Prop
  | start {active : List String} (settles : Settles machine active) : Reaches active
  | step {active active' : List String} (earlier : Reaches active)
      (takes : Takes machine active active') : Reaches active'

def Active (active path : List String) : Prop := path ≠ [] ∧ path <+: active

end Semantics

end ActorWeb.StateMachines
