import ActorWeb.ActorAddress
import ActorWeb.CommandAdmission

/-! The commands that a runtime host admits and dispatches to its actors. -/

namespace ActorWeb.HostCommands

open Admission AgentExecution

/-- How foreign code ends; what it throws has a text unless making one throws again. -/
inductive Settled (V : Type)
  | resolved (value : V)
  | rejected (text : Option String)

def Settled.isResolved {V : Type} : Settled V → Bool
  | .resolved _ => true
  | .rejected _ => false

@[simp] theorem Settled.isResolved_resolved {V : Type} (value : V) :
    (Settled.resolved value).isResolved = true := rfl

@[simp] theorem Settled.isResolved_rejected {V : Type} (text : Option String) :
    (Settled.rejected text : Settled V).isResolved = false := rfl

structure Host where
  (registry topologyActors : List (List Char × ActorAddress))
  directory : Option (ActorAddress → Settled Bool)
  spawnNodeKey : String
  syntaxError : String → String
  printed : JsValue → String

section Resolve

variable (host : Host) (target : List Char)

/-- Parsing an address may throw. -/
def isNamed (address : ActorAddress) : Option Bool :=
  if address = target then some true
  else (ActorAddress.parse address).map fun parts => parts.id = target

def findNamed (named : List Char × ActorAddress → Option Bool) :
    List (List Char × ActorAddress) → Option (Option ActorAddress)
  | [] => some none
  | entry :: rest => (named entry).bind fun found =>
    if found then some (some entry.2) else findNamed named rest

def resolve : Option (Option ActorAddress) :=
  match host.registry.find? fun entry => entry.1 = target with
  | some byKey => some (some byKey.2)
  | none => findNamed (fun entry => isNamed target entry.2) host.registry

/-- `lookup` of the served node's system, which throws for what is no path of an actor. -/
def systemLookup (directory : ActorAddress → Settled Bool) (path : List Char) :
    Option (Option ActorAddress) :=
  match ActorAddress.parseActorPath path with
  | .error _ => none
  | .ok address =>
    match directory address with
    | .resolved found => some (if found then some address else none)
    | .rejected _ => none

def lookupDistributedActor : Option (Option ActorAddress) :=
  match host.directory with
  | none => some none
  | some directory =>
    (findNamed (fun entry => if entry.1 = target then some true else isNamed target entry.2)
      host.topologyActors).bind fun descriptor =>
        let address := descriptor.getD target
        if ActorAddress.scheme.isPrefixOf address then systemLookup directory address else some none

/-- `none` when the resolution rejects. -/
def resolveForDispatch : Option (Option ActorAddress) :=
  (resolve host target).bind fun found =>
    match found with
    | some ref => some (some ref)
    | none => lookupDistributedActor host target

def unknownTargetError : String :=
  "Unknown actor \"" ++ String.ofList target ++ "\". Known: " ++
    (if host.registry = [] then "(none)"
      else ", ".intercalate (host.registry.map fun entry => String.ofList entry.1))

def parseMessage (messageJson : String) : Except String Json :=
  match Json.parse messageJson with
  | none => .error ("Invalid JSON: " ++ host.syntaxError messageJson)
  | some (.obj entries) =>
    match (Json.obj entries).get "type" with
    | some (.str _) => .ok (.obj entries)
    | _ => .error "Message must have a string \"type\" field"
  | some _ => .error "Message must be a JSON object with a string \"type\" field"

end Resolve

inductive Outcome
  | notDispatched | dispatchSucceeded | dispatchIndeterminate
deriving DecidableEq

inductive Event
  | decided (accepted : Bool)
  | invoked
  | flushed
  | settled (outcome : Outcome)
deriving DecidableEq

/-- The adapters of a host, with the settlement of an available claim. -/
structure CommandAdmission where
  principal : Json
  ports : Ports
  onDecision : AgentExecutionAdmissionDecision → Settled Unit
  settle : Outcome → Settled Unit

inductive Call (R : Type)
  | send (answer flush : ActorAddress → Json → Settled Unit)
  | ask (answer : ActorAddress → Json → Settled R)

section Execute

variable {R : Type} (host : Host) (admission : CommandAdmission) (call : Call R)
  (decision : AgentExecutionAdmissionDecision) (address : ActorAddress) (message : Json)

def Call.label : Call R → String
  | .send _ _ => "Send"
  | .ask _ => "Ask"

def Call.kind : Call R → CommandKind
  | .send _ _ => .send
  | .ask _ => .ask

/-- A send is done when the host has been flushed after it. -/
def Call.dispatch : Call R → List Event × Settled (String ⊕ R)
  | .send answer flush =>
    match answer address message with
    | .rejected text => ([.invoked], .rejected text)
    | .resolved _ =>
      match flush address message with
      | .rejected text => ([.invoked, .flushed], .rejected text)
      | .resolved _ => ([.invoked, .flushed], .resolved (.inl ("Sent " ++
          (match message.get "type" with
            | some (.str type) => type
            | _ => "") ++ " to " ++ String.ofList address)))
  | .ask answer =>
    match answer address message with
    | .rejected text => ([.invoked], .rejected text)
    | .resolved reply => ([.invoked], .resolved (.inr reply))

def trySettleRuntimeHostClaim (outcome : Outcome) : List Event × Bool :=
  if decision.claimed then ([.settled outcome], (admission.settle outcome).isResolved) else ([], true)

def toRuntimeHostDispatchFailure (detail : String) : Except String (String ⊕ R) :=
  .error (call.label ++ " failed: " ++ detail)

/-- `none` when the text of the error cannot be made. -/
def executeRuntimeHostDispatch : List Event × Option (Except String (String ⊕ R)) :=
  match call.dispatch address message with
  | (events, .resolved value) =>
    let settlement := trySettleRuntimeHostClaim admission decision .dispatchSucceeded
    (events ++ settlement.1, some (if settlement.2 then .ok value
      else toRuntimeHostDispatchFailure call
        "Dispatch outcome could not be recorded after execution."))
  | (events, .rejected text) =>
    (events ++ (trySettleRuntimeHostClaim admission decision .dispatchIndeterminate).1,
      text.map (toRuntimeHostDispatchFailure call))

def rejection : Except String (String ⊕ R) :=
  let reason := decision.rejectionReceipt.map (·.reason)
  .error (call.label ++ " rejected: " ++ ((reason.map (·.code)).getD "authorization_denied") ++
    (((reason.bind (·.detail)).filter JsValue.truthy).map fun detail => " (" ++ host.printed detail ++ ")").getD "")

def admitted : List Event × Option (Except String (String ⊕ R)) :=
  match admission.onDecision decision with
  | .rejected _ =>
    (.decided false :: (if decision.ok then
        (trySettleRuntimeHostClaim admission decision .notDispatched).1 else []),
      some (.error (call.label ++ " rejected: decision_sink_failure " ++
        "(Decision sink threw before recording the admission decision.)")))
  | .resolved _ =>
    if decision.ok then
      let dispatched := executeRuntimeHostDispatch admission call decision address message
      (.decided true :: dispatched.1, dispatched.2)
    else ([.decided true], some (rejection host call decision))

variable (target : List Char) (messageJson : String) (metadata : Option Json)

def decisionOn : AgentExecutionAdmissionDecision :=
  admitAgentExecutionCommand { admission.ports with requireExplicitPolicy := true }
    { actorId := String.ofList address
      sessionId := "runtime-host:" ++ host.spawnNodeKey
      kind := call.kind
      message := some message
      principal := some admission.principal
      metadata }

/-- What a send or an ask does, and its result unless it rejects. -/
def execute : List Event × Option (Except String (String ⊕ R)) :=
  match resolveForDispatch host target with
  | none => ([], none)
  | some none => ([], some (.error (unknownTargetError host target)))
  | some (some address) =>
    match parseMessage host messageJson with
    | .error error => ([], some (.error error))
    | .ok message =>
      admitted host admission call (decisionOn host admission call address message metadata)
        address message

/-- The actor and the message that a call comes to the admission with. -/
def commandOf : Option (ActorAddress × Json) :=
  match resolveForDispatch host target, parseMessage host messageJson with
  | some (some address), .ok message => some (address, message)
  | _, _ => none

def settlements (events : List Event) : List Outcome :=
  events.filterMap fun event =>
    match event with
    | .settled outcome => some outcome
    | _ => none

def expected : Outcome :=
  if (admission.onDecision decision).isResolved then
    if (call.dispatch address message).2.isResolved then .dispatchSucceeded else .dispatchIndeterminate
  else .notDispatched

/-- What is recorded of an admitted command and what comes of it. -/
structure Recorded (run : List Event × Option (Except String (String ⊕ R))) : Prop where
  once : run.1.count .invoked ≤ 1
  authorized : .invoked ∈ run.1 → decision.ok ∧ ∃ rest, run.1 = .decided true :: rest
  settles : settlements run.1 =
    if decision.claimed then [expected admission call decision address message] else []
  succeeds : (∃ value, run.2 = some (.ok value)) ↔
    decision.ok ∧ (admission.onDecision decision).isResolved ∧
      (call.dispatch address message).2.isResolved ∧
        (decision.claimed → (admission.settle .dispatchSucceeded).isResolved)

/-- A call ends, and it is either refused before the admission or recorded. -/
structure Lifecycle : Prop where
  ends : (execute host admission call target messageJson metadata).2 ≠ none
  refused : commandOf host target messageJson = none →
    (execute host admission call target messageJson metadata).1 = [] ∧
      ∀ value, (execute host admission call target messageJson metadata).2 ≠ some (.ok value)
  recorded : ∀ address message, commandOf host target messageJson = some (address, message) →
    Recorded admission call (decisionOn host admission call address message metadata) address message
      (execute host admission call target messageJson metadata)

theorem claimed_ok (ports : Ports) (input : AgentExecutionAdmissionInput) :
    (admitAgentExecutionCommand ports input).claimed →
      (admitAgentExecutionCommand ports input).ok := by
  rw [admitAgentExecutionCommand]
  dsimp only
  split
  case h_1 => exact fun h => by cases h
  case h_2 =>
    split
    case h_1 => exact fun h => by cases h
    case h_2 =>
      split
      case h_1 => exact fun h => by cases h
      case h_2 => exact fun _ => rfl

theorem Call.dispatch_events : (call.dispatch address message).1 = [.invoked] ∨
    (call.dispatch address message).1 = [.invoked, .flushed] := by
  cases call with
  | send answer flush =>
    rw [Call.dispatch]
    cases answer address message with
    | rejected text => exact .inl rfl
    | resolved =>
      cases flush address message with
      | rejected text => exact .inr rfl
      | resolved => exact .inr rfl
  | ask answer =>
    rw [Call.dispatch]
    cases answer address message with
    | rejected text => exact .inl rfl
    | resolved => exact .inl rfl

theorem executed (hok : decision.ok) (haccepted : (admission.onDecision decision).isResolved) :
    Recorded admission call decision address message
      (.decided true :: (executeRuntimeHostDispatch admission call decision address message).1,
        (executeRuntimeHostDispatch admission call decision address message).2) := by
  have hevents := call.dispatch_events address message
  rw [executeRuntimeHostDispatch]
  cases hdispatch : call.dispatch address message with
  | mk events outcome =>
    rw [hdispatch] at hevents
    refine ⟨?_, ?_, ?_, ?_⟩
    · obtain rfl | rfl := hevents <;> cases hclaimed : decision.claimed <;> cases outcome <;>
        simp [trySettleRuntimeHostClaim, hclaimed]
    · exact fun _ => by cases outcome <;> exact ⟨hok, _, rfl⟩
    · obtain rfl | rfl := hevents <;> cases hclaimed : decision.claimed <;> cases outcome <;>
        simp [trySettleRuntimeHostClaim, hclaimed, settlements, expected, haccepted, hdispatch]
    · cases outcome with
      | resolved value =>
        cases hclaimed : decision.claimed <;>
          cases hsettle : (admission.settle .dispatchSucceeded).isResolved <;>
            simp [trySettleRuntimeHostClaim, hclaimed, hok, haccepted, hdispatch, hsettle,
              toRuntimeHostDispatchFailure, -Sum.exists]
      | rejected text => cases text <;> simp [hdispatch, toRuntimeHostDispatchFailure]

theorem admitted_recorded (hclaim : decision.claimed → decision.ok) :
    Recorded admission call decision address message
      (admitted host admission call decision address message) := by
  rw [admitted]
  cases hsink : admission.onDecision decision with
  | rejected text =>
    refine ⟨?_, ?_, ?_, ?_⟩
    · cases hclaimed : decision.claimed <;> cases hok : decision.ok <;>
        simp [trySettleRuntimeHostClaim, hclaimed]
    · cases hclaimed : decision.claimed <;> cases hok : decision.ok <;>
        simp [trySettleRuntimeHostClaim, hclaimed]
    · cases hclaimed : decision.claimed with
      | false => cases hok : decision.ok <;> simp [trySettleRuntimeHostClaim, hclaimed, settlements]
      | true =>
        simp [trySettleRuntimeHostClaim, hclaimed, hclaim hclaimed, settlements, expected, hsink]
    · simp [hsink]
  | resolved =>
    have haccepted : (admission.onDecision decision).isResolved := by
      rw [hsink]
      rfl
    cases hok : decision.ok with
    | true => exact executed admission call decision address message hok haccepted
    | false =>
      have hunclaimed : decision.claimed = false := by
        cases hclaimed : decision.claimed with
        | false => rfl
        | true => cases hok.symm.trans (hclaim hclaimed)
      refine ⟨by simp, by simp, ?_, by simp [hok, rejection]⟩
      simp [hunclaimed, settlements]

theorem admitted_ends : (admitted host admission call decision address message).2 ≠ none ↔
    (decision.ok → (admission.onDecision decision).isResolved →
      (call.dispatch address message).2 ≠ .rejected none) := by
  rw [admitted]
  cases hsink : admission.onDecision decision with
  | rejected text => simp
  | resolved =>
    cases hok : decision.ok with
    | false => simp
    | true =>
      simp only [if_true, executeRuntimeHostDispatch, Settled.isResolved_resolved, forall_const]
      cases hdispatch : call.dispatch address message with
      | mk events outcome => cases outcome <;> simp

theorem execute_command (h : commandOf host target messageJson = some (address, message)) :
    execute host admission call target messageJson metadata =
      admitted host admission call (decisionOn host admission call address message metadata)
        address message := by
  rw [commandOf] at h
  split at h
  case h_1 hresolved hparsed =>
    cases h
    rw [execute, hresolved]
    dsimp only
    rw [hparsed]
  case h_2 => cases h

theorem execute_refused (h : commandOf host target messageJson = none) :
    execute host admission call target messageJson metadata = ([], none) ∧
        resolveForDispatch host target = none ∨
      ∃ error, execute host admission call target messageJson metadata = ([], some (.error error)) := by
  rw [commandOf] at h
  rw [execute]
  cases hresolved : resolveForDispatch host target with
  | none => exact .inl ⟨rfl, rfl⟩
  | some found =>
    cases found with
    | none => exact .inr ⟨_, rfl⟩
    | some address =>
      cases hparsed : parseMessage host messageJson with
      | error error => exact .inr ⟨error, rfl⟩
      | ok message =>
        rw [hresolved, hparsed] at h
        cases h

theorem commandLifecycle_iff : Lifecycle host admission call target messageJson metadata ↔
    resolveForDispatch host target ≠ none ∧
      ∀ address message, commandOf host target messageJson = some (address, message) →
        (decisionOn host admission call address message metadata).ok →
          (admission.onDecision
            (decisionOn host admission call address message metadata)).isResolved →
            (call.dispatch address message).2 ≠ .rejected none := by
  constructor
  · intro h
    refine ⟨fun hnone => h.ends (by rw [execute, hnone]), fun address message hcommand => ?_⟩
    have hends := h.ends
    rw [execute_command host admission call address message target messageJson metadata hcommand]
      at hends
    exact (admitted_ends host admission call _ address message).mp hends
  · rintro ⟨hresolves, hprints⟩
    refine ⟨?_, fun hnone => ?_, fun address message hcommand => ?_⟩
    · cases hcommand : commandOf host target messageJson with
      | none =>
        obtain ⟨-, hnone⟩ | ⟨error, herror⟩ :=
          execute_refused host admission call target messageJson metadata hcommand
        · exact absurd hnone hresolves
        · rw [herror]
          exact Option.some_ne_none _
      | some command =>
        obtain ⟨address, message⟩ := command
        rw [execute_command host admission call address message target messageJson metadata hcommand]
        exact (admitted_ends host admission call _ address message).mpr
          (hprints address message hcommand)
    · obtain ⟨hrun, -⟩ | ⟨error, hrun⟩ :=
        execute_refused host admission call target messageJson metadata hnone
      · rw [hrun]
        exact ⟨rfl, fun value h => by cases h⟩
      · rw [hrun]
        exact ⟨rfl, fun value h => by cases h⟩
    · rw [execute_command host admission call address message target messageJson metadata hcommand]
      exact admitted_recorded host admission call _ address message (claimed_ok _ _)

end Execute

/-- A host with a served node and no actors. -/
def servedHost : Host where
  registry := []
  topologyActors := []
  directory := some fun _ => .resolved false
  spawnNodeKey := "node"
  syntaxError := id
  printed _ := ""

def refusing : CommandAdmission where
  principal := .obj [("id", .str "user"), ("kind", .str "user")]
  ports :=
    { policy := some fun _ => .thrown
      requireExplicitPolicy := true
      idempotency := none
      nowTime := 0
      nowText := ""
      dateParse := fun _ => none
      fallbackCommandIdSequence := 1 }
  onDecision _ := .resolved ()
  settle _ := .resolved ()

/-- A target with the scheme of an address that is no address. -/
theorem malformedTarget_rejects : ¬ Lifecycle servedHost refusing (.ask fun _ _ => .resolved ())
    "actor://nowhere".toList "\x7b\"type\":\"PING\"\x7d" none := by
  intro h
  exact h.ends (by rw [execute]; rfl)

end ActorWeb.HostCommands
