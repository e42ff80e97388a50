import ActorWeb.OrderedMap
import Mathlib.Data.List.Induction

/-! The transition dispatcher of the actors that are built with a finite state machine. -/

namespace ActorWeb.FsmDispatcher

open List

structure Params (M C : Type) where
  message : M
  state : String
  context : C

inductive Target (M C : Type)
  | name (target : String)
  | compute (target : Params M C → String)

inductive Transition (M C : Type)
  | target (target : Target M C)
  | record (guard : Option (Params M C → Bool)) (target : Target M C)

/-- The definition with its handlers, by the types that have one, and whether it has a fallback. -/
structure Dispatcher (M C : Type) where
  initial : String
  states : OrderedMap String (Option (OrderedMap String (Transition M C)))
  handlers : List String
  fallback : Bool

/-- What indexing a plain object with a key finds. -/
inductive Found (α : Type)
  | own (value : α)
  | inherited
  | undefined

def inheritedNames : List String :=
  ["constructor", "hasOwnProperty", "isPrototypeOf", "propertyIsEnumerable", "toLocaleString",
    "toString", "valueOf", "__proto__", "__defineGetter__", "__defineSetter__", "__lookupGetter__",
    "__lookupSetter__"]

def index {α : Type} (own : Option α) (key : String) : Found α :=
  match own with
  | some value => .own value
  | none => if key ∈ inheritedNames then .inherited else .undefined

/-- The property key of what an inherited member gives when it is called as a target; `none` where
that is undefined, an error where it throws. -/
def inheritedTarget (key : String) : Except Unit (Option String) :=
  if key ∈ ["__defineGetter__", "__defineSetter__"] then .error ()
  else if key ∈ ["__lookupGetter__", "__lookupSetter__", "__proto__"] then .ok none
  else if key ∈ ["hasOwnProperty", "isPrototypeOf", "propertyIsEnumerable"] then .ok (some "false")
  else .ok (some "[object Object]")

structure Rejection where
  messageType : String
  state : String
  allowedTransitions : List String

/-- What a message comes to; after a transition the handler found runs, or the snapshot is the reply. -/
inductive Outcome
  | fallback
  | invalidTransition (error : Rejection)
  | moved (handler : Found Unit)
  | threw

section

variable {M C : Type} (type : M → String) (d : Dispatcher M C) (s : Option String) (m : M) (c : C)

def Target.eval (params : Params M C) : Target M C → String
  | .name state => state
  | .compute state => state params

def Transition.eval (params : Params M C) : Transition M C → String
  | .target t | .record _ t => t.eval params

def Transition.passes (params : Params M C) : Transition M C → Bool
  | .record (some guard) _ => guard params
  | _ => true

def Transition.isFalsy : Transition M C → Bool
  | .target (.name state) => state = ""
  | _ => false

def currentState : String := s.getD d.initial

def on : Option (OrderedMap String (Transition M C)) := (d.states.get (currentState d s)).join

def params : Params M C := ⟨m, currentState d s, c⟩

def createInvalidTransitionResult : Outcome :=
  .invalidTransition ⟨type m, currentState d s, ((on d s).map (·.keys)).getD []⟩

def handlerOf : Option Unit := if type m ∈ d.handlers then some () else none

def transitionOf : Option (Transition M C) := (on d s).bind (·.get (type m))

def dispatch : Option String × Outcome :=
  match index (handlerOf type d m) (type m), d.fallback with
  | .undefined, true => (s, .fallback)
  | handler, _ =>
    match (on d s).elim .undefined fun _ => index (transitionOf type d s m) (type m) with
    | .undefined => (s, createInvalidTransitionResult type d s m)
    | .inherited =>
      match inheritedTarget (type m) with
      | .error _ => (s, .threw)
      | .ok target => (target, .moved handler)
    | .own transition =>
      if transition.isFalsy || !transition.passes (params d s m c) then
        (s, createInvalidTransitionResult type d s m)
      else (some (transition.eval (params d s m c)), .moved handler)

/-- What the definition declares for a message, by its own members alone. -/
def declared : Option String × Outcome :=
  match handlerOf type d m, d.fallback, transitionOf type d s m with
  | none, true, _ => (s, .fallback)
  | handler, _, some transition =>
    if transition.passes (params d s m c) then
      (some (transition.eval (params d s m c)), .moved (handler.elim .undefined .own))
    else (s, createInvalidTransitionResult type d s m)
  | _, _, none => (s, createInvalidTransitionResult type d s m)

/-- The message meets no inherited member and no empty target: where its type names an inherited
member, that is shadowed by a handler or not reached, and by a transition or an absent `on`. -/
def Regular : Prop :=
  (type m ∈ inheritedNames →
    (type m ∈ d.handlers ∨ d.fallback = false ∧ ∀ transition, transitionOf type d s m =
      some transition → transition.passes (params d s m c) = false) ∧
    ((transitionOf type d s m).isSome ∨ on d s = none)) ∧
  ((type m ∈ d.handlers ∨ d.fallback = false) → ∀ transition, transitionOf type d s m =
    some transition → transition.passes (params d s m c) → transition.isFalsy = false)

structure Declares : Prop where
  initial : (d.states.get d.initial).isSome
  targets : ∀ state members key transition, d.states.get state = some (some members) →
    members.get key = some transition → ∀ params, (d.states.get (transition.eval params)).isSome

def live (xs : List (M × C)) : Option String :=
  xs.foldl (fun s x => (dispatch type d s x.1 x.2).1) none

theorem inherited_ne (handler : Found Unit) (o : Outcome) (hmoved : ∀ h, o ≠ .moved h)
    (hthrew : o ≠ .threw) : (match inheritedTarget (type m) with
      | .error _ => (s, Outcome.threw)
      | .ok target => (target, .moved handler)) ≠ (s, o) := by
  intro heq
  split at heq
  · exact hthrew (congrArg Prod.snd heq).symm
  · exact hmoved _ (congrArg Prod.snd heq).symm

theorem dispatch_eq_declared_iff :
    dispatch type d s m c = declared type d s m c ↔ Regular type d s m c := by
  unfold dispatch declared Regular
  have htransition : transitionOf type d s m = (on d s).bind (·.get (type m)) := rfl
  have hinherited := fun handler => inherited_ne type s m handler
    (createInvalidTransitionResult type d s m) nofun nofun
  have hfallback := fun handler => inherited_ne type s m handler .fallback nofun nofun
  by_cases hhandler : type m ∈ d.handlers <;> by_cases hname : type m ∈ inheritedNames <;>
    cases hfb : d.fallback <;> cases hon : on d s with
    | none =>
      simp [index, handlerOf, htransition, hhandler, hname, hon, createInvalidTransitionResult]
    | some members =>
      cases hget : members.get (type m) with
      | none =>
        simp [index, handlerOf, htransition, hhandler, hname, hon, hget, hinherited, hfallback]
      | some transition =>
        cases hpass : transition.passes (params d s m c) <;>
          cases hfalsy : transition.isFalsy <;>
            simp [index, handlerOf, htransition, hhandler, hname, hon, hget, hpass, hfalsy,
              createInvalidTransitionResult]

variable {type d s m c}

theorem declared_state (hd : Declares d) (hs : (d.states.get (currentState d s)).isSome) :
    (d.states.get (currentState d (declared type d s m c).1)).isSome := by
  unfold declared
  split
  · exact hs
  case h_2 transition htransition _ =>
    obtain ⟨members, hon, hget⟩ := Option.bind_eq_some_iff.mp htransition
    split
    · exact hd.targets _ members _ transition (Option.join_eq_some_iff.mp hon) hget _
    · exact hs
  · exact hs

theorem live_state (hd : Declares d) {xs : List (M × C)}
    (h : ∀ p x, p ++ [x] <+: xs → Regular type d (live type d p) x.1 x.2) :
    (d.states.get (currentState d (live type d xs))).isSome := by
  induction xs using reverseRecOn with
  | nil => exact hd.initial
  | append_singleton xs x ih =>
    have hbefore := ih fun p y hp => h p y (hp.trans (prefix_append xs [x]))
    have hstep := (dispatch_eq_declared_iff ..).mpr (h xs x (prefix_refl _))
    rw [live, foldl_append, foldl_cons, foldl_nil, ← live, hstep]
    exact declared_state hd hbefore

end

def door : Dispatcher String Unit :=
  ⟨"closed", OrderedMap.empty.set "closed" (some .empty), [], true⟩

theorem door_declares : Declares door := by
  refine ⟨rfl, fun state members key transition hstate hget => ?_⟩
  rw [door, OrderedMap.get_set] at hstate
  split at hstate
  · cases hstate
    cases hget
  · cases hstate

end ActorWeb.FsmDispatcher
