import ActorWeb.StableSort
import Mathlib.Algebra.Order.Ring.Int

/-! The chain of message interceptors and its composed pipelines. -/

namespace ActorWeb.Messaging

open List

/-- What the call of a hook gives: a value or a promise, which is awaited. -/
inductive Returned (α : Type)
  | value (a : α)
  | promise (a : α)
  | threw
  | rejected

/-- What the `try` block gets of a hook, `none` where it ends in the `catch` block. -/
def Returned.caught {α : Type} : Returned α → Option α
  | .value a | .promise a => some a
  | .threw | .rejected => none

inductive Outcome (α : Type)
  | resolved (a : α)
  | rejected

inductive Phase
  | send | receive

abbrev Address := String

/-- Messages, contexts, results and errors are those of the program. Hooks and filters read and
change a world `W`, in which the contents of the contexts are. -/
structure MessageInterceptor (M C R E W : Type) where
  (beforeSend beforeReceive : Option (M → Option Address → C → W → Returned (Option M) × W))
  afterProcess : Option (M → R → Address → C → W → Returned Unit × W)
  onError : Option (E → M → Address → C → W → Returned Unit × W)

structure InterceptorRegistration (M C R E W P : Type) where
  id : String
  interceptor : MessageInterceptor M C R E W
  priority : P
  filter : Option (M → W → Option Bool × W)
  enabled : Bool

structure InterceptorOptions (M W P : Type) where
  id : Option String
  priority : Option P
  filter : Option (M → W → Option Bool × W)

/-- Registrations are objects: the chain and its composed pipelines hold their numbers. -/
structure InterceptorChain (M C R E W P : Type) where
  registrations : List (InterceptorRegistration M C R E W P)
  interceptors : List Nat
  (composedPipeline composedAfterProcess composedError : Option (List Nat))
  nextId : Nat

structure PipelineResult (M C : Type) where
  message : Option M
  continues : Bool
  context : C

variable {M C R E W P : Type}

section Pipelines

variable (phase : Phase) (sender : Option Address) (context : C)

def InterceptorRegistration.test (reg : InterceptorRegistration M C R E W P) (message : M) (w : W) :
    Option Bool × W :=
  match reg.filter with
  | none => (some true, w)
  | some filter => filter message w

def InterceptorRegistration.hook (reg : InterceptorRegistration M C R E W P) :
    Option (M → Option Address → C → W → Returned (Option M) × W) :=
  match phase with
  | .send => reg.interceptor.beforeSend
  | .receive => reg.interceptor.beforeReceive

def runPipeline : List (InterceptorRegistration M C R E W P) → M → W →
    Outcome (PipelineResult M C) × W
  | [], current, w => (.resolved ⟨some current, true, context⟩, w)
  | reg :: sorted, current, w =>
    if !reg.enabled then runPipeline sorted current w
    else
      match reg.test current w with
      | (none, w) => (.rejected, w)
      | (some false, w) => runPipeline sorted current w
      | (some true, w) =>
        match reg.hook phase with
        | none => runPipeline sorted current w
        | some hook =>
          match (hook current sender context w).1.caught with
          | some none => (.resolved ⟨none, false, context⟩, (hook current sender context w).2)
          | some (some newMessage) =>
            runPipeline sorted newMessage (hook current sender context w).2
          | none => runPipeline sorted current (hook current sender context w).2

def runObservers (hookOf : InterceptorRegistration M C R E W P → Option (W → Returned Unit × W))
    (message : M) : List (InterceptorRegistration M C R E W P) → W → Outcome Unit × W
  | [], w => (.resolved (), w)
  | reg :: sorted, w =>
    if !reg.enabled then runObservers hookOf message sorted w
    else
      match reg.test message w with
      | (none, w) => (.rejected, w)
      | (some false, w) => runObservers hookOf message sorted w
      | (some true, w) =>
        match hookOf reg with
        | none => runObservers hookOf message sorted w
        | some hook => runObservers hookOf message sorted (hook w).2

def InterceptorRegistration.afterHook (message : M) (result : R) (actor : Address)
    (reg : InterceptorRegistration M C R E W P) : Option (W → Returned Unit × W) :=
  reg.interceptor.afterProcess.map fun hook => hook message result actor context

def InterceptorRegistration.errorHook (error : E) (message : M) (actor : Address)
    (reg : InterceptorRegistration M C R E W P) : Option (W → Returned Unit × W) :=
  reg.interceptor.onError.map fun hook => hook error message actor context

end Pipelines

namespace InterceptorChain

variable [LinearOrder P] [Zero P] (c : InterceptorChain M C R E W P)

def new : InterceptorChain M C R E W P where
  registrations := []
  interceptors := []
  composedPipeline := none
  composedAfterProcess := none
  composedError := none
  nextId := 1

def invalidate : InterceptorChain M C R E W P :=
  { c with composedPipeline := none, composedAfterProcess := none, composedError := none }

def register (interceptor : MessageInterceptor M C R E W) (options : InterceptorOptions M W P) :
    InterceptorChain M C R E W P × String :=
  let generated := options.id.getD "" = ""
  let id := if generated then "interceptor-" ++ toString c.nextId else options.id.getD ""
  let registration : InterceptorRegistration M C R E W P :=
    { id, interceptor, priority := options.priority.getD 0, filter := options.filter, enabled := true }
  (invalidate
    { c with
      registrations := c.registrations ++ [registration]
      interceptors := c.interceptors ++ [c.registrations.length]
      nextId := if generated then c.nextId + 1 else c.nextId }, id)

def hasId (id : String) (ref : Nat) : Bool := (c.registrations[ref]?).any fun reg => reg.id = id

def unregister (id : String) : InterceptorChain M C R E W P × Bool :=
  match c.interceptors.findIdx? (c.hasId id) with
  | none => (c, false)
  | some index => (invalidate { c with interceptors := c.interceptors.eraseIdx index }, true)

def setEnabled (id : String) (enabled : Bool) : InterceptorChain M C R E W P × Bool :=
  match c.interceptors.find? (c.hasId id) with
  | none => (c, false)
  | some ref =>
    (invalidate
      { c with registrations := c.registrations.modify ref fun reg => { reg with enabled } }, true)

def clear : InterceptorChain M C R E W P := invalidate { c with interceptors := [] }

def priority (ref : Nat) : P := ((c.registrations[ref]?).map fun reg => reg.priority).getD 0

def has (p : InterceptorRegistration M C R E W P → Bool) (ref : Nat) : Bool :=
  (c.registrations[ref]?).any p

def descending (p q : P) : Bool := q ≤ p

def ascending (p q : P) : Bool := p ≤ q

def sorted (before : P → P → Bool) : List Nat :=
  c.interceptors.mergeSort fun a b => before (c.priority a) (c.priority b)

def composePipeline : List Nat := c.sorted descending

def composeAfterProcess : List Nat :=
  (c.sorted ascending).filter (c.has fun reg => reg.interceptor.afterProcess.isSome)

def composeError : List Nat :=
  (c.sorted ascending).filter (c.has fun reg => reg.interceptor.onError.isSome)

def deref (refs : List Nat) : List (InterceptorRegistration M C R E W P) :=
  refs.filterMap fun ref => c.registrations[ref]?

/-- A context is created with the correlation id of a message, or without one. -/
structure Contexts (M C : Type) where
  createMessageContext : Option String → C
  correlationId : M → Option String

def execute (contexts : Contexts M C) (message : M) (sender : Option Address) (phase : Phase)
    (initialContext : Option C) (w : W) :
    (Outcome (PipelineResult M C) × W) × InterceptorChain M C R E W P :=
  if c.interceptors = [] then
    ((.resolved ⟨some message, true, initialContext.getD (contexts.createMessageContext none)⟩, w), c)
  else
    let pipeline := c.composedPipeline.getD c.composePipeline
    let context := initialContext.getD (contexts.createMessageContext (contexts.correlationId message))
    (runPipeline phase sender context (c.deref pipeline) message w,
      { c with composedPipeline := some pipeline })

def executeAfterProcess (message : M) (result : R) (actor : Address) (context : C) (w : W) :
    (Outcome Unit × W) × InterceptorChain M C R E W P :=
  if c.interceptors = [] then ((.resolved (), w), c)
  else
    let pipeline := c.composedAfterProcess.getD c.composeAfterProcess
    (runObservers (fun reg => reg.afterHook context message result actor) message (c.deref pipeline) w,
      { c with composedAfterProcess := some pipeline })

def executeOnError (error : E) (message : M) (actor : Address) (context : C) (w : W) :
    (Outcome Unit × W) × InterceptorChain M C R E W P :=
  if c.interceptors = [] then ((.resolved (), w), c)
  else
    let pipeline := c.composedError.getD c.composeError
    (runObservers (fun reg => reg.errorHook context error message actor) message (c.deref pipeline) w,
      { c with composedError := some pipeline })

end InterceptorChain

section Folds

variable (phase : Phase) (sender : Option Address) (context : C)

/-- What an enabled interceptor makes of a message, `none` where it drops it. One whose filter
or hook throws leaves the message as it is. -/
def applyInterceptor (reg : InterceptorRegistration M C R E W P) (current : M) (w : W) :
    Option M × W :=
  match reg.test current w with
  | (some true, w) =>
    match reg.hook phase with
    | none => (some current, w)
    | some hook =>
      ((hook current sender context w).1.caught.getD (some current),
        (hook current sender context w).2)
  | (_, w) => (some current, w)

def foldInterceptors : List (InterceptorRegistration M C R E W P) → M → W → Option M × W
  | [], current, w => (some current, w)
  | reg :: regs, current, w =>
    match applyInterceptor phase sender context reg current w with
    | (none, w) => (none, w)
    | (some newMessage, w) => foldInterceptors regs newMessage w

def Calm : List (InterceptorRegistration M C R E W P) → M → W → Prop
  | [], _, _ => True
  | reg :: regs, current, w => (reg.test current w).1 ≠ none ∧
      match applyInterceptor phase sender context reg current w with
      | (none, _) => True
      | (some newMessage, w) => Calm regs newMessage w

def observe (hookOf : InterceptorRegistration M C R E W P → Option (W → Returned Unit × W))
    (message : M) (reg : InterceptorRegistration M C R E W P) (w : W) : W :=
  match reg.test message w with
  | (some true, w) =>
    match hookOf reg with
    | none => w
    | some hook => (hook w).2
  | (_, w) => w

def CalmObservers (hookOf : InterceptorRegistration M C R E W P → Option (W → Returned Unit × W))
    (message : M) : List (InterceptorRegistration M C R E W P) → W → Prop
  | [], _ => True
  | reg :: regs, w => (reg.test message w).1 ≠ none ∧
      CalmObservers hookOf message regs (observe hookOf message reg w)

variable {phase sender context}

theorem runPipeline_disabled {reg : InterceptorRegistration M C R E W P} (h : reg.enabled = false)
    (sorted : List (InterceptorRegistration M C R E W P)) (current : M) (w : W) :
    runPipeline phase sender context (reg :: sorted) current w =
      runPipeline phase sender context sorted current w := by
  rw [runPipeline, h]
  rfl

theorem runPipeline_enabled {reg : InterceptorRegistration M C R E W P} (h : reg.enabled = true)
    (sorted : List (InterceptorRegistration M C R E W P)) (current : M) (w : W) :
    runPipeline phase sender context (reg :: sorted) current w =
      match (reg.test current w).1 with
      | none => (.rejected, (reg.test current w).2)
      | some _ =>
        match applyInterceptor phase sender context reg current w with
        | (none, w) => (.resolved ⟨none, false, context⟩, w)
        | (some newMessage, w) => runPipeline phase sender context sorted newMessage w := by
  rw [runPipeline, h, applyInterceptor]
  obtain ⟨test, v⟩ := reg.test current w
  cases test with
  | none => rfl
  | some passes =>
    cases passes with
    | false => rfl
    | true =>
      cases reg.hook phase with
      | none => rfl
      | some hook =>
        dsimp only
        obtain ⟨returned, u⟩ := hook current sender context v
        obtain (_ | next) | (_ | next) | _ | _ := returned <;> rfl

def resolvedTo (context : C) (folded : Option M × W) : Outcome (PipelineResult M C) × W :=
  (.resolved ⟨folded.1, folded.1.isSome, context⟩, folded.2)

theorem runPipeline_of_calm (sorted : List (InterceptorRegistration M C R E W P)) (current : M) (w : W)
    (h : Calm phase sender context (sorted.filter InterceptorRegistration.enabled) current w) :
    runPipeline phase sender context sorted current w =
      resolvedTo context (foldInterceptors phase sender context
        (sorted.filter InterceptorRegistration.enabled) current w) := by
  induction sorted generalizing current w with
  | nil => rfl
  | cons reg sorted ih =>
    cases henabled : reg.enabled with
    | false =>
      rw [filter_cons_of_neg (by simp [henabled])] at h ⊢
      rw [runPipeline_disabled henabled]
      exact ih current w h
    | true =>
      rw [filter_cons_of_pos henabled] at h ⊢
      obtain ⟨htest, hrest⟩ := h
      rw [runPipeline_enabled henabled, foldInterceptors]
      cases hpasses : (reg.test current w).1 with
      | none => exact absurd hpasses htest
      | some passes =>
        revert hrest
        obtain ⟨applied, v⟩ := applyInterceptor phase sender context reg current w
        intro hrest
        cases applied with
        | none => rfl
        | some newMessage => exact ih newMessage v hrest

theorem runPipeline_of_not_calm (sorted : List (InterceptorRegistration M C R E W P)) (current : M)
    (w : W)
    (h : ¬ Calm phase sender context (sorted.filter InterceptorRegistration.enabled) current w) :
    (runPipeline phase sender context sorted current w).1 = .rejected := by
  induction sorted generalizing current w with
  | nil => exact absurd trivial h
  | cons reg sorted ih =>
    cases henabled : reg.enabled with
    | false =>
      rw [filter_cons_of_neg (by simp [henabled])] at h
      rw [runPipeline_disabled henabled]
      exact ih current w h
    | true =>
      rw [filter_cons_of_pos henabled, Calm] at h
      rw [runPipeline_enabled henabled]
      cases hpasses : (reg.test current w).1 with
      | none => rfl
      | some passes =>
        have hrest := not_and.mp h (by simp [hpasses])
        revert hrest
        obtain ⟨applied, v⟩ := applyInterceptor phase sender context reg current w
        intro hrest
        cases applied with
        | none => exact absurd trivial hrest
        | some newMessage => exact ih newMessage v hrest

section Observers

variable {hookOf : InterceptorRegistration M C R E W P → Option (W → Returned Unit × W)} {message : M}

theorem runObservers_disabled {reg : InterceptorRegistration M C R E W P} (h : reg.enabled = false)
    (sorted : List (InterceptorRegistration M C R E W P)) (w : W) :
    runObservers hookOf message (reg :: sorted) w = runObservers hookOf message sorted w := by
  rw [runObservers, h]
  rfl

theorem runObservers_enabled {reg : InterceptorRegistration M C R E W P} (h : reg.enabled = true)
    (sorted : List (InterceptorRegistration M C R E W P)) (w : W) :
    runObservers hookOf message (reg :: sorted) w =
      match (reg.test message w).1 with
      | none => (.rejected, (reg.test message w).2)
      | some _ => runObservers hookOf message sorted (observe hookOf message reg w) := by
  rw [runObservers, h, observe]
  obtain ⟨test, w⟩ := reg.test message w
  cases test with
  | none => rfl
  | some passes =>
    cases passes with
    | false => rfl
    | true => cases hookOf reg <;> rfl

theorem runObservers_resolved_iff (sorted : List (InterceptorRegistration M C R E W P)) (w : W) :
    (runObservers hookOf message sorted w).1 = .resolved () ↔
      CalmObservers hookOf message (sorted.filter InterceptorRegistration.enabled) w := by
  induction sorted generalizing w with
  | nil => exact iff_of_true rfl trivial
  | cons reg sorted ih =>
    cases henabled : reg.enabled with
    | false =>
      rw [filter_cons_of_neg (by simp [henabled]), runObservers_disabled henabled]
      exact ih w
    | true =>
      rw [filter_cons_of_pos henabled, CalmObservers, runObservers_enabled henabled]
      cases hpasses : (reg.test message w).1 with
      | none => simp
      | some passes => simpa using ih (observe hookOf message reg w)

end Observers

end Folds

theorem deref_filter (c : InterceptorChain M C R E W P) (refs : List Nat) (p : InterceptorRegistration M C R E W P → Bool) :
    (c.deref refs).filter p = c.deref (refs.filter (c.has p)) := by
  induction refs with
  | nil => rfl
  | cons ref refs ih =>
    rw [InterceptorChain.deref] at ih ⊢
    cases hget : c.registrations[ref]? with
    | none =>
      rw [filterMap_cons_none hget, ih,
        filter_cons_of_neg (by simp [InterceptorChain.has, hget])]
    | some reg =>
      rw [filterMap_cons_some hget]
      cases hp : p reg with
      | false =>
        rw [filter_cons_of_neg (by simp [hp]), ih,
          filter_cons_of_neg (by simp [InterceptorChain.has, hget, hp])]
      | true =>
        rw [filter_cons_of_pos hp, ih,
          filter_cons_of_pos (by simp [InterceptorChain.has, hget, hp]),
          InterceptorChain.deref, InterceptorChain.deref, filterMap_cons_some hget]

section Directions

variable [LinearOrder P]

/-- A total order of the priorities, from the one side or the other. -/
structure Directed (before : P → P → Bool) : Prop where
  trans : ∀ p q r, before p q = true → before q r = true → before p r = true
  total : ∀ p q, (before p q || before q p) = true

theorem directed_descending : Directed (InterceptorChain.descending (P := P)) where
  trans p q r hpq hqr := by
    simp only [InterceptorChain.descending, decide_eq_true_eq] at *
    exact hqr.trans hpq
  total p q := by simpa [InterceptorChain.descending] using le_total q p

theorem directed_ascending : Directed (InterceptorChain.ascending (P := P)) where
  trans p q r hpq hqr := by
    simp only [InterceptorChain.ascending, decide_eq_true_eq] at *
    exact hpq.trans hqr
  total p q := by simpa [InterceptorChain.ascending] using le_total p q

end Directions

section Order

variable [Zero P] {c : InterceptorChain M C R E W P}
  {keep : InterceptorRegistration M C R E W P → Bool}

/-- The registered interceptors that are kept, by priority, and in the order of their
registration where the priorities are equal. -/
structure InOrder (before : P → P → Bool) (c : InterceptorChain M C R E W P)
    (keep : InterceptorRegistration M C R E W P → Bool) (order : List Nat) : Prop where
  perm : order.Perm (c.interceptors.filter (c.has keep))
  pairwise : order.Pairwise fun a b => before (c.priority a) (c.priority b) = true ∧
    (before (c.priority b) (c.priority a) = true → a < b)

variable {before : P → P → Bool}

theorem inOrder_sorted (hbefore : Directed before) (hc : c.interceptors.Pairwise (· < ·)) :
    InOrder before c keep ((c.sorted before).filter (c.has keep)) where
  perm := (mergeSort_perm _ _).filter _
  pairwise := by
    refine List.Pairwise.filter _ ?_
    exact StableSort.pairwise_stable (fun _ _ _ => hbefore.trans _ _ _)
      (fun _ _ => hbefore.total _ _) hc

theorem sorted_of_empty (h : c.interceptors = []) : c.sorted before = [] := by
  rw [InterceptorChain.sorted, h, mergeSort_nil]

theorem enabled_deref (p : InterceptorRegistration M C R E W P → Bool) :
    (c.deref ((c.sorted before).filter (c.has p))).filter InterceptorRegistration.enabled =
      c.deref ((c.sorted before).filter (c.has fun reg => reg.enabled && p reg)) := by
  rw [deref_filter, filter_filter]
  congr 2
  refine funext fun ref => ?_
  simp only [InterceptorChain.has]
  cases c.registrations[ref]? <;> rfl

end Order

section Built

variable [LinearOrder P] [Zero P]

/-- The calls that a chain is built by; the pipelines are composed by the calls that run them. -/
inductive Op (M C R E W P : Type)
  | register (interceptor : MessageInterceptor M C R E W) (options : InterceptorOptions M W P)
  | unregister (id : String)
  | setEnabled (id : String) (enabled : Bool)
  | clear
  | execute (contexts : InterceptorChain.Contexts M C) (message : M) (sender : Option Address)
      (phase : Phase) (initialContext : Option C) (w : W)
  | executeAfterProcess (message : M) (result : R) (actor : Address) (context : C) (w : W)
  | executeOnError (error : E) (message : M) (actor : Address) (context : C) (w : W)

def InterceptorChain.apply (c : InterceptorChain M C R E W P) :
    Op M C R E W P → InterceptorChain M C R E W P
  | .register interceptor options => (c.register interceptor options).1
  | .unregister id => (c.unregister id).1
  | .setEnabled id enabled => (c.setEnabled id enabled).1
  | .clear => c.clear
  | .execute contexts message sender phase initialContext w =>
    (c.execute contexts message sender phase initialContext w).2
  | .executeAfterProcess message result actor context w =>
    (c.executeAfterProcess message result actor context w).2
  | .executeOnError error message actor context w => (c.executeOnError error message actor context w).2

/-- The interceptors stand in the order of their registration, and a composed pipeline is the one
that would be composed now. -/
structure Coherent (c : InterceptorChain M C R E W P) : Prop where
  increasing : c.interceptors.Pairwise (· < ·)
  bounded : ∀ ref ∈ c.interceptors, ref < c.registrations.length
  pipeline : ∀ refs, c.composedPipeline = some refs → refs = c.composePipeline
  afterProcess : ∀ refs, c.composedAfterProcess = some refs → refs = c.composeAfterProcess
  error : ∀ refs, c.composedError = some refs → refs = c.composeError

variable {c : InterceptorChain M C R E W P}

theorem Coherent.of_invalidated (hincreasing : c.interceptors.Pairwise (· < ·))
    (hbounded : ∀ ref ∈ c.interceptors, ref < c.registrations.length) : Coherent c.invalidate where
  increasing := hincreasing
  bounded := hbounded
  pipeline _ h := by cases h
  afterProcess _ h := by cases h
  error _ h := by cases h

theorem coherent_new : Coherent (InterceptorChain.new : InterceptorChain M C R E W P) :=
  .of_invalidated (c := .new) List.Pairwise.nil (fun _ h => by cases h)

theorem Coherent.apply (hc : Coherent c) (op : Op M C R E W P) : Coherent (c.apply op) := by
  cases op with
  | register interceptor options =>
    refine .of_invalidated ?_ ?_
    · refine pairwise_append.mpr ⟨hc.increasing, pairwise_singleton _ _, ?_⟩
      intro ref href last hlast
      rw [mem_singleton.mp hlast]
      exact hc.bounded ref href
    · intro ref href
      simp only [mem_append, mem_singleton, length_append, length_singleton]
        at href ⊢
      obtain href | rfl := href
      · have := hc.bounded ref href
        omega
      · omega
  | unregister id =>
    simp only [InterceptorChain.apply, InterceptorChain.unregister]
    split
    case h_1 => exact hc
    case h_2 index _ =>
      refine .of_invalidated (hc.increasing.sublist (eraseIdx_sublist _ _)) ?_
      exact fun ref href => hc.bounded ref ((eraseIdx_sublist _ _).subset href)
  | setEnabled id enabled =>
    simp only [InterceptorChain.apply, InterceptorChain.setEnabled]
    split
    case h_1 => exact hc
    case h_2 ref _ =>
      refine .of_invalidated hc.increasing fun ref href => ?_
      rw [length_modify]
      exact hc.bounded ref href
  | clear => exact .of_invalidated List.Pairwise.nil (fun _ h => by cases h)
  | execute contexts message sender phase initialContext w =>
    simp only [InterceptorChain.apply, InterceptorChain.execute]
    split
    case isTrue => exact hc
    case isFalse =>
      refine { hc with pipeline := fun refs hrefs => ?_ }
      cases hrefs
      cases hcomposed : c.composedPipeline with
      | none => rfl
      | some refs => exact hc.pipeline refs hcomposed
  | executeAfterProcess message result actor context w =>
    simp only [InterceptorChain.apply, InterceptorChain.executeAfterProcess]
    split
    case isTrue => exact hc
    case isFalse =>
      refine { hc with afterProcess := fun refs hrefs => ?_ }
      cases hrefs
      cases hcomposed : c.composedAfterProcess with
      | none => rfl
      | some refs => exact hc.afterProcess refs hcomposed
  | executeOnError error message actor context w =>
    simp only [InterceptorChain.apply, InterceptorChain.executeOnError]
    split
    case isTrue => exact hc
    case isFalse =>
      refine { hc with error := fun refs hrefs => ?_ }
      cases hrefs
      cases hcomposed : c.composedError with
      | none => rfl
      | some refs => exact hc.error refs hcomposed

def built (ops : List (Op M C R E W P)) : InterceptorChain M C R E W P :=
  ops.foldl InterceptorChain.apply .new

theorem coherent_built (ops : List (Op M C R E W P)) : Coherent (built ops) := by
  have hfold : ∀ (ops : List (Op M C R E W P)) (c : InterceptorChain M C R E W P), Coherent c →
      Coherent (ops.foldl InterceptorChain.apply c) := by
    intro ops
    induction ops with
    | nil => exact fun _ hc => hc
    | cons op ops ih => exact fun c hc => ih _ (hc.apply op)
  exact hfold ops _ coherent_new

def InterceptorChain.startContext (c : InterceptorChain M C R E W P)
    (contexts : InterceptorChain.Contexts M C) (message : M) (initialContext : Option C) : C :=
  initialContext.getD (contexts.createMessageContext
    (if c.interceptors = [] then none else contexts.correlationId message))

theorem Coherent.execute_eq (hc : Coherent c) (contexts : InterceptorChain.Contexts M C) (message : M)
    (sender : Option Address) (phase : Phase) (initialContext : Option C) (w : W) :
    (c.execute contexts message sender phase initialContext w).1 =
      runPipeline phase sender (c.startContext contexts message initialContext)
        (c.deref c.composePipeline) message w := by
  rw [InterceptorChain.execute, InterceptorChain.startContext]
  split
  case isTrue h =>
    rw [InterceptorChain.composePipeline, sorted_of_empty h]
    rfl
  case isFalse =>
    cases hcomposed : c.composedPipeline with
    | none => rfl
    | some refs => rw [hc.pipeline refs hcomposed, Option.getD_some]

theorem Coherent.executeAfterProcess_eq (hc : Coherent c) (message : M) (result : R) (actor : Address)
    (context : C) (w : W) : (c.executeAfterProcess message result actor context w).1 =
      runObservers (fun reg => reg.afterHook context message result actor) message
        (c.deref c.composeAfterProcess) w := by
  rw [InterceptorChain.executeAfterProcess]
  split
  case isTrue h =>
    rw [InterceptorChain.composeAfterProcess, sorted_of_empty h]
    rfl
  case isFalse =>
    cases hcomposed : c.composedAfterProcess with
    | none => rfl
    | some refs => rw [hc.afterProcess refs hcomposed, Option.getD_some]

theorem Coherent.executeOnError_eq (hc : Coherent c) (error : E) (message : M) (actor : Address)
    (context : C) (w : W) : (c.executeOnError error message actor context w).1 =
      runObservers (fun reg => reg.errorHook context error message actor) message
        (c.deref c.composeError) w := by
  rw [InterceptorChain.executeOnError]
  split
  case isTrue h =>
    rw [InterceptorChain.composeError, sorted_of_empty h]
    rfl
  case isFalse =>
    cases hcomposed : c.composedError with
    | none => rfl
    | some refs => rw [hc.error refs hcomposed, Option.getD_some]

/-- Whatever calls built a chain, `execute` folds the message through the enabled interceptors by
descending priority, and none of the three pipelines rejects, exactly if no filter throws that
a pipeline comes to. -/
theorem chain_folds_iff_calm (ops : List (Op M C R E W P)) :
    (∃ order, InOrder InterceptorChain.descending (built ops) InterceptorRegistration.enabled order ∧
      ∀ contexts message sender phase initialContext w,
        let context := (built ops).startContext contexts message initialContext
        let executed := ((built ops).execute contexts message sender phase initialContext w).1
        (executed = resolvedTo context
            (foldInterceptors phase sender context ((built ops).deref order) message w) ↔
          Calm phase sender context ((built ops).deref order) message w) ∧
        (executed.1 = .rejected ↔
          ¬ Calm phase sender context ((built ops).deref order) message w)) ∧
    (∃ order, InOrder InterceptorChain.ascending (built ops)
        (fun reg => reg.enabled && reg.interceptor.afterProcess.isSome) order ∧
      ∀ message result actor context w,
        ((built ops).executeAfterProcess message result actor context w).1.1 = .resolved () ↔
          CalmObservers (fun reg => reg.afterHook context message result actor) message
            ((built ops).deref order) w) ∧
    ∃ order, InOrder InterceptorChain.ascending (built ops)
        (fun reg => reg.enabled && reg.interceptor.onError.isSome) order ∧
      ∀ error message actor context w,
        ((built ops).executeOnError error message actor context w).1.1 = .resolved () ↔
          CalmObservers (fun reg => reg.errorHook context error message actor) message
            ((built ops).deref order) w := by
  have hc := coherent_built ops
  refine ⟨⟨_, inOrder_sorted directed_descending hc.increasing, ?_⟩,
    ⟨_, inOrder_sorted directed_ascending hc.increasing, ?_⟩,
    ⟨_, inOrder_sorted directed_ascending hc.increasing, ?_⟩⟩
  · intro contexts message sender phase initialContext w
    dsimp only
    rw [hc.execute_eq, ← deref_filter]
    by_cases hcalm : Calm phase sender ((built ops).startContext contexts message initialContext)
        (((built ops).deref (built ops).composePipeline).filter InterceptorRegistration.enabled)
        message w
    · have hfolds := runPipeline_of_calm _ message w hcalm
      refine ⟨iff_of_true hfolds hcalm, iff_of_false ?_ (not_not.mpr hcalm)⟩
      rw [hfolds]
      exact fun h => by cases h
    · have hrejects := runPipeline_of_not_calm _ message w hcalm
      refine ⟨iff_of_false (fun h => ?_) hcalm, iff_of_true hrejects hcalm⟩
      rw [h] at hrejects
      cases hrejects
  · intro message result actor context w
    rw [hc.executeAfterProcess_eq, runObservers_resolved_iff, InterceptorChain.composeAfterProcess,
      enabled_deref]
  · intro error message actor context w
    rw [hc.executeOnError_eq, runObservers_resolved_iff, InterceptorChain.composeError, enabled_deref]

def idleInterceptor : MessageInterceptor String Unit Unit Unit Unit where
  beforeSend := none
  beforeReceive := none
  afterProcess := none
  onError := none

def throwingChain : InterceptorChain String Unit Unit Unit Unit Int :=
  built [.register idleInterceptor ⟨none, none, some fun _ w => (none, w)⟩]

theorem throwingChain_rejects :
    (throwingChain.execute ⟨fun _ => (), fun _ => none⟩ "message" none .send none ()).1.1 =
        .rejected ∧
      foldInterceptors .send none () (throwingChain.deref throwingChain.composePipeline) "message" () =
        (some "message", ()) := by
  have hcomposed : throwingChain.composePipeline = [0] := by
    rw [InterceptorChain.composePipeline, InterceptorChain.sorted]
    exact mergeSort_singleton 0
  have hchain : Coherent throwingChain := coherent_built _
  rw [hchain.execute_eq, hcomposed]
  exact ⟨rfl, rfl⟩

end Built

end ActorWeb.Messaging
