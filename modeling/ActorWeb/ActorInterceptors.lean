import ActorWeb.InterceptorChain
import ActorWeb.Transition

/-! The interceptors of an actor system, and what a delivered message passes through. -/

namespace ActorWeb.ActorInterceptors

open List Messaging Transition

variable {M C R E W P : Type}

/-- The enabled registrations whose filter accepts the message, until one drops it or a filter
throws. -/
def visits (sender : Option Address) (context : C) :
    List (InterceptorRegistration M C R E W P) → M → W → List (InterceptorRegistration M C R E W P)
  | [], _, _ => []
  | reg :: regs, current, w =>
    if !reg.enabled then visits sender context regs current w
    else
      match reg.test current w with
      | (none, _) => []
      | (some false, w) => visits sender context regs current w
      | (some true, w) =>
        reg ::
          match reg.hook .receive with
          | none => visits sender context regs current w
          | some hook =>
            match (hook current sender context w).1.caught with
            | some none => []
            | some (some newMessage) =>
              visits sender context regs newMessage (hook current sender context w).2
            | none => visits sender context regs current (hook current sender context w).2

/-- Every registration that the message comes to is disabled or filters it out. -/
def Indifferent : List (InterceptorRegistration M C R E W P) → M → W → Prop
  | [], _, _ => True
  | reg :: regs, current, w =>
    if reg.enabled then
      match reg.test current w with
      | (none, _) => True
      | (some false, w) => Indifferent regs current w
      | (some true, _) => False
    else Indifferent regs current w

theorem visits_eq_nil_iff (sender : Option Address) (context : C)
    (regs : List (InterceptorRegistration M C R E W P)) (current : M) (w : W) :
    visits sender context regs current w = [] ↔ Indifferent regs current w := by
  induction regs generalizing w with
  | nil => exact iff_of_true rfl trivial
  | cons reg regs ih =>
    unfold visits Indifferent
    cases reg.enabled with
    | false => exact ih w
    | true =>
      simp only [Bool.not_true, Bool.false_eq_true, if_false, if_true]
      obtain ⟨_ | _ | _, w'⟩ := reg.test current w
      · exact iff_of_true rfl trivial
      · exact ih w'
      · exact iff_of_false (cons_ne_nil _ _) id

/-- The `ActorPID` objects are numbers: what has been created are the addresses of the objects,
and the chains of the actors are kept by object. -/
structure ActorSystemImpl (M C R E W P : Type) where
  addresses : List Address
  globalInterceptors : InterceptorChain M C R E W P
  actorInterceptors : Nat → Option (InterceptorChain M C R E W P)

variable [LinearOrder P] [Zero P]

def create : ActorSystemImpl M C R E W P := ⟨[], .new, fun _ => none⟩

/-- What the program gives a system that delivers. -/
structure Program (M C : Type) where
  contexts : InterceptorChain.Contexts M C
  sender : M → Option Address

variable (s : ActorSystemImpl M C R E W P)

def registerActorInterceptor (actor : Nat) (interceptor : MessageInterceptor M C R E W)
    (options : InterceptorOptions M W P) : ActorSystemImpl M C R E W P :=
  let chain := (s.actorInterceptors actor).getD .new
  { s with
    actorInterceptors :=
      Function.update s.actorInterceptors actor (some (chain.register interceptor options).1) }

def unregisterActorInterceptor (actor : Nat) (id : String) : ActorSystemImpl M C R E W P :=
  match s.actorInterceptors actor with
  | none => s
  | some chain =>
    { s with
      actorInterceptors := Function.update s.actorInterceptors actor (some (chain.unregister id).1) }

def setActorInterceptorEnabled (actor : Nat) (id : String) (enabled : Bool) :
    ActorSystemImpl M C R E W P :=
  match s.actorInterceptors actor with
  | none => s
  | some chain =>
    { s with
      actorInterceptors :=
        Function.update s.actorInterceptors actor (some (chain.setEnabled id enabled).1) }

/-- A message on its way through the chains: what it has passed, of which actor's chain, and what
is left of it. -/
structure Passage (M C R E W P : Type) where
  passed : List (Option Nat × InterceptorRegistration M C R E W P)
  outcome : Outcome (PipelineResult M C) × W

/-- What a chain runs; one without interceptors is left out. -/
def pipeline (chain : InterceptorChain M C R E W P) : List Nat :=
  if chain.interceptors = [] then [] else chain.composedPipeline.getD chain.composePipeline

/-- A chain at work on a message. -/
def pass (chain : InterceptorChain M C R E W P) (owner : Option Nat) (program : Program M C)
    (message : M) (context : C) (w : W) : Passage M C R E W P where
  passed := (visits (program.sender message) context (chain.deref (pipeline chain)) message w).map
    (owner, ·)
  outcome := (chain.execute program.contexts message (program.sender message) .receive (some context) w).1

/-- What goes on to the next chain. -/
def Passage.goesOn (passage : Passage M C R E W P) : Option (M × C × W) :=
  match passage.outcome with
  | (.resolved ⟨some message, true, context⟩, w) => some (message, context, w)
  | _ => none

/-- Up to the behavior of the actor. The object that the chain of the actor is looked up by is
made here. -/
def processMessageWithContext (program : Program M C) (address : Address) (message : M) (context : C)
    (w : W) : Passage M C R E W P × ActorSystemImpl M C R E W P :=
  let passage := pass s.globalInterceptors none program message context w
  let actorPid := s.addresses.length
  match passage.goesOn with
  | none => (passage, s)
  | some (processed, context, w) =>
    let s := { s with addresses := s.addresses ++ [address] }
    match s.actorInterceptors actorPid with
    | none => (passage, s)
    | some actorChain =>
      let own := pass actorChain (some actorPid) program processed context w
      (⟨passage.passed ++ own.passed, own.outcome⟩, s)

/-- Other methods create `ActorPID` objects too, and run and change the global chain. -/
inductive Action (M C R E W P : Type)
  | createPid (address : Address)
  | onGlobal (op : Op M C R E W P)
  | registerActorInterceptor (actor : Nat) (interceptor : MessageInterceptor M C R E W)
      (options : InterceptorOptions M W P)
  | unregisterActorInterceptor (actor : Nat) (id : String)
  | setActorInterceptorEnabled (actor : Nat) (id : String) (enabled : Bool)
  | deliver (program : Program M C) (address : Address) (message : M) (context : C) (w : W)

/-- Callers hold only objects that were created. -/
def step : Action M C R E W P → Option (ActorSystemImpl M C R E W P)
  | .createPid address => some { s with addresses := s.addresses ++ [address] }
  | .onGlobal op => some { s with globalInterceptors := s.globalInterceptors.apply op }
  | .registerActorInterceptor actor interceptor options =>
    if actor < s.addresses.length then some (registerActorInterceptor s actor interceptor options)
    else none
  | .unregisterActorInterceptor actor id => some (unregisterActorInterceptor s actor id)
  | .setActorInterceptorEnabled actor id enabled => some (setActorInterceptorEnabled s actor id enabled)
  | .deliver program address message context w =>
    some { (processMessageWithContext s program address message context w).2 with
      globalInterceptors := (s.globalInterceptors.apply
        (.execute program.contexts message (program.sender message) .receive (some context) w)) }

/-- The registrations of an actor, whichever of its objects they were made with, in the order of
their priorities. -/
def registrations (address : Address) : List (InterceptorRegistration M C R E W P) :=
  ((List.range s.addresses.length).flatMap fun actor =>
    if s.addresses[actor]? = some address then
      let chain := (s.actorInterceptors actor).getD .new
      chain.deref chain.interceptors
    else []).mergeSort fun a b => InterceptorChain.descending a.priority b.priority

/-- What a delivered message is meant to pass through. -/
def intended (program : Program M C) (address : Address) (message : M) (context : C) (w : W) :
    List (InterceptorRegistration M C R E W P) :=
  visits (program.sender message) context
      (s.globalInterceptors.deref s.globalInterceptors.composePipeline) message w ++
    match (pass s.globalInterceptors none program message context w).goesOn with
    | none => []
    | some (processed, context, w) =>
      visits (program.sender processed) context (registrations s address) processed w

/-- A delivered message passes through the interceptors it is meant for, and through no
interceptor of another actor. -/
def Applied : Action M C R E W P → Prop
  | .deliver program address message context w =>
    let passed := (processMessageWithContext s program address message context w).1.passed
    passed.map Prod.snd = intended s program address message context w ∧
      ∀ entry ∈ passed, ∀ actor ∈ entry.1, s.addresses[actor]? = some address
  | _ => True

/-- The actor has no enabled interceptor that takes what the global ones leave of the message. -/
def Uninterested : Action M C R E W P → Prop
  | .deliver program address message context w =>
    ∀ processed ∈ (pass s.globalInterceptors none program message context w).goesOn,
      Indifferent (registrations s address) processed.1 processed.2.2
  | _ => True

/-- A chain belongs to an object that was created. -/
structure Sound : Prop where
  coherent : Coherent s.globalInterceptors
  created : ∀ actor chain, s.actorInterceptors actor = some chain → actor < s.addresses.length

variable {s}

theorem create_sound : Sound (create : ActorSystemImpl M C R E W P) :=
  ⟨coherent_new, fun _ _ h => by cases h⟩

theorem Sound.update (h : Sound s) {actor : Nat} (hactor : actor < s.addresses.length)
    (chain : Option (InterceptorChain M C R E W P)) :
    Sound { s with actorInterceptors := Function.update s.actorInterceptors actor chain } where
  coherent := h.coherent
  created := by
    intro other chain' hchain
    by_cases hother : other = actor
    · rwa [hother]
    · exact h.created other chain' ((Function.update_of_ne hother _ _).symm.trans hchain)

theorem Sound.createPid (h : Sound s) (address : Address) :
    Sound { s with addresses := s.addresses ++ [address] } where
  coherent := h.coherent
  created actor chain hchain := by
    rw [length_append]
    exact Nat.lt_add_right _ (h.created actor chain hchain)

theorem Sound.fresh (h : Sound s) : s.actorInterceptors s.addresses.length = none := by
  cases hchain : s.actorInterceptors s.addresses.length with
  | none => rfl
  | some chain => exact absurd (h.created _ chain hchain) (Nat.lt_irrefl _)

theorem Sound.processMessageWithContext (h : Sound s) (program : Program M C) (address : Address)
    (message : M) (context : C) (w : W) :
    ∃ t, processMessageWithContext s program address message context w =
      (pass s.globalInterceptors none program message context w, t) ∧ Sound t := by
  unfold ActorInterceptors.processMessageWithContext
  dsimp only
  split
  case h_1 => exact ⟨s, rfl, h⟩
  case h_2 =>
    simp only [h.fresh]
    exact ⟨_, rfl, h.createPid address⟩

theorem step_sound {t : ActorSystemImpl M C R E W P} {a : Action M C R E W P} (h : Sound s)
    (hstep : step s a = some t) : Sound t := by
  cases a with
  | createPid address =>
    cases hstep
    exact h.createPid address
  | onGlobal op =>
    cases hstep
    exact ⟨h.coherent.apply op, h.created⟩
  | registerActorInterceptor actor interceptor options =>
    obtain ⟨hactor, hstep⟩ := Option.ite_none_right_eq_some.mp hstep
    cases hstep
    exact h.update hactor _
  | unregisterActorInterceptor actor id =>
    cases hstep
    unfold unregisterActorInterceptor
    split
    case h_1 => exact h
    case h_2 chain hchain => exact h.update (h.created actor chain hchain) _
  | setActorInterceptorEnabled actor id enabled =>
    cases hstep
    unfold setActorInterceptorEnabled
    split
    case h_1 => exact h
    case h_2 chain hchain => exact h.update (h.created actor chain hchain) _
  | deliver program address message context w =>
    obtain ⟨t, hdelivered, ht⟩ := h.processMessageWithContext program address message context w
    simp only [step, hdelivered] at hstep
    cases hstep
    exact ⟨h.coherent.apply (.execute program.contexts message (program.sender message) .receive
      (some context) w), ht.created⟩

theorem pipeline_eq {chain : InterceptorChain M C R E W P} (h : Coherent chain) :
    pipeline chain = chain.composePipeline := by
  unfold pipeline
  split
  case isTrue hnone => exact (sorted_of_empty hnone).symm
  case isFalse =>
    cases hcomposed : chain.composedPipeline with
    | none => rfl
    | some refs => exact h.pipeline refs hcomposed

theorem applied_iff (h : Sound s) (a : Action M C R E W P) : Applied s a ↔ Uninterested s a := by
  cases a with
  | deliver program address message context w =>
    have hglobal : (pass s.globalInterceptors none program message context w).passed.map Prod.snd =
        visits (program.sender message) context
          (s.globalInterceptors.deref s.globalInterceptors.composePipeline) message w := by
      simp only [pass, pipeline_eq h.coherent, map_map, Function.comp_def, map_id']
    have hothers : ∀ entry ∈ (pass s.globalInterceptors none program message context w).passed,
        ∀ actor ∈ entry.1, s.addresses[actor]? = some address := by
      intro entry hentry actor hactor
      obtain ⟨reg, -, rfl⟩ := mem_map.mp hentry
      cases hactor
    obtain ⟨t, hdelivered, -⟩ := h.processMessageWithContext program address message context w
    simp only [Applied, Uninterested, hdelivered, hglobal, intended, and_iff_left hothers]
    cases (pass s.globalInterceptors none program message context w).goesOn with
    | none => simp
    | some processed =>
      simp only [Option.mem_def, Option.some.injEq, forall_eq', self_eq_append_right]
      exact visits_eq_nil_iff _ _ _ _ _
  | createPid | onGlobal | registerActorInterceptor | unregisterActorInterceptor
  | setActorInterceptorEnabled => exact Iff.rfl

/-- The interceptors of the actors are applied in exactly those runs in which there is nothing to
apply: they are looked up by an object that is made for the delivery. -/
theorem applied_iff_uninterested (as : List (Action M C R E W P)) :
    Along step (fun s a _ => Applied s a) create as ↔ Guarded step Uninterested create as :=
  along_congr (fun _ _ _ h hstep => step_sound h hstep) (fun _ a _ h _ => applied_iff h a) create_sound as

section Missed

/-- A message is delivered to an actor that has an interceptor. -/
def missedRun : List (Action String Unit Unit Unit Unit Int) :=
  [.createPid "actor", .registerActorInterceptor 0 idleInterceptor ⟨none, none, none⟩,
    .deliver ⟨⟨fun _ => (), fun _ => none⟩, fun _ => none⟩ "actor" "message" () ()]

def watched : ActorSystemImpl String Unit Unit Unit Unit Int :=
  registerActorInterceptor { create with addresses := ["actor"] } 0 idleInterceptor ⟨none, none, none⟩

theorem watched_registrations : registrations watched "actor" =
    [⟨"interceptor-" ++ toString 1, idleInterceptor, 0, none, true⟩] :=
  mergeSort_singleton _

theorem missedRun_not_applied : ¬ Along step (fun s a _ => Applied s a) create missedRun := by
  intro h
  obtain ⟨-, h⟩ := h _ rfl
  obtain ⟨-, h⟩ := h _ rfl
  obtain ⟨happlied, -⟩ := h _ rfl
  have hcreated : Sound (create : ActorSystemImpl String Unit Unit Unit Unit Int) := create_sound
  have hwatched : Sound watched := step_sound (step_sound hcreated (a := .createPid "actor") rfl)
    (a := .registerActorInterceptor 0 idleInterceptor ⟨none, none, none⟩) rfl
  have huninterested := (applied_iff hwatched _).mp happlied ("message", (), ()) rfl
  rw [watched_registrations] at huninterested
  exact huninterested

end Missed

end ActorWeb.ActorInterceptors
