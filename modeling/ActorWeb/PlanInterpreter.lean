import ActorWeb.Json
import ActorWeb.JsNumber

/-! The interpreter of message plans, for plans that are arrays. -/

namespace ActorWeb.Plans

open Option List Json

section Values

abbrev Thrown := Option String

def Thrown.text (thrown : Thrown) (fallback : String) : String := thrown.getD fallback

inductive Datum
  | string (value : String)
  | number
  | other

abbrev Message := List (String × Datum)

variable {Target Response : Type}

abbrev Returned := Except Thrown (Option Json)

inductive Field (Target Response : Type)
  | undefined
  | json (value : Json)
  | number (value : JsNumber)
  | message (value : Message)
  | actor (to' : Target)
  | okFunction (call : Response → Returned)
  | errorFunction (call : String → Returned)

/-- A value in a plan: a JSON value, or an object that holds something else. -/
inductive Value (Target Response : Type)
  | json (value : Json)
  | record (fields : List (String × Field Target Response))

def Value.get (value : Value Target Response) (key : String) : Option (Field Target Response) :=
  match value with
  | json v => (v.get key).map .json
  | record fields => fields.lookup key

end Values

section Guards

variable {Target Response : Type}

/-- `/^actor:\/\/[^/]+\/.+$/`. -/
def isActorAddressShape (value : String) : Bool :=
  let cs := value.toList
  let rest := cs.drop 8
  cs.take 8 = "actor://".toList && rest.takeWhile (· ≠ '/') ≠ [] &&
    match rest.dropWhile (· ≠ '/') with
    | [] => false
    | _ :: id => id ≠ [] && id.all fun c => c ≠ '\n' && c ≠ '\r' && c ≠ '\u2028' && c ≠ '\u2029'

def isActorMessage (message : Message) : Bool :=
  (match message.lookup "type" with
    | some (.string type) => type ≠ ""
    | _ => false) &&
  (match message.lookup "_timestamp" with
    | none | some .number => true
    | _ => false) &&
  (match message.lookup "_version" with
    | none | some (.string _) => true
    | _ => false) &&
  (match message.lookup "_sender" with
    | none => true
    | some (.string sender) => isActorAddressShape sender
    | _ => false) &&
  match message.lookup "_correlationId" with
  | none | some (.string _) => true
  | _ => false

def Datum.ofJson : Json → Datum
  | .str value => .string value
  | .num _ => .number
  | _ => .other

def Field.asMessage : Field Target Response → Option Message
  | message value => some value
  | json (.obj entries) => some (entries.map fun e => (e.1, Datum.ofJson e.2))
  | _ => none

def Field.typeofObject : Field Target Response → Bool
  | json (.obj _) | json (.arr _) | json .null | message _ | actor _ => true
  | _ => false

def Value.isJsonValue : Value Target Response → Bool
  | json _ => true
  | record _ => false

def isDomainEvent (value : Value Target Response) : Bool :=
  (match value.get "type" with
    | some (.json (.str type)) => type ≠ ""
    | _ => false) && value.isJsonValue

def Value.domainEvent : Value Target Response → Option Json
  | json event => if isDomainEvent (.json event : Value Target Response) then some event else none
  | record _ => none

def returnsDomainEvent : Option Json → Bool
  | some value => isDomainEvent (.json value : Value Empty Empty)
  | none => false

def isSendInstruction (value : Value Target Response) : Bool :=
  match value.get "to", value.get "tell" with
  | some to', some tell =>
    to'.typeofObject && tell.typeofObject && tell.asMessage.any isActorMessage
  | _, _ => false

def isAskInstruction (value : Value Target Response) : Bool :=
  match value.get "to", value.get "ask", value.get "onOk" with
  | some to', some ask, some onOk =>
    to'.typeofObject && ask.typeofObject && ask.asMessage.any isActorMessage &&
      match onOk with
      | .json event => returnsDomainEvent (some event)
      | .okFunction _ | .errorFunction _ => true
      | _ => false
  | _, _, _ => false

def isPlanItem (value : Value Target Response) : Bool :=
  match value with
  | .json (.arr _) => false
  | .json .null => true
  | value => isDomainEvent value || isSendInstruction value || isAskInstruction value

def isMessagePlan (plan : List (Value Target Response)) : Bool := plan.all isPlanItem

end Guards

section Factories

variable {Target Response : Type}

inductive Callback (α : Type)
  | event (value : Json)
  | function (call : α → Returned)

def createSendInstruction (to' : Target) (tell : Message) : Value Target Response :=
  .record [("to", .actor to'), ("tell", .message tell), ("mode", .json (.str "fireAndForget"))]

def okField : Option (Callback Response) → Field Target Response
  | none => .undefined
  | some (.event value) => .json value
  | some (.function call) => .okFunction call

def errorField : Option (Callback String) → Field Target Response
  | none => .undefined
  | some (.event value) => .json value
  | some (.function call) => .errorFunction call

def createAskInstruction (to' : Target) (ask : Message) (onOk : Option (Callback Response))
    (onError : Option (Callback String)) (timeout : Option JsNumber) : Value Target Response :=
  .record [("to", .actor to'), ("ask", .message ask), ("onOk", okField onOk),
    ("onError", errorField onError), ("timeout", .number (timeout.getD (.finite 5000)))]

def createDomainEvent (event : Json) : Option (Value Target Response) :=
  (Value.json event : Value Target Response).domainEvent.map .json

end Factories

section Interpreter

variable {Target Response : Type}

/-- What the actor and the targets do while an instruction is processed. -/
structure Behaviour (Target Response : Type) where
  (actorSend emit : Json → Except Thrown Unit)
  send : Target → Message → Except Thrown Unit
  ask : Target → Message → JsNumber → Except Thrown Response

/-- What happened: a fan-out of an event, a send, an ask, or the call of a callback, and whether it
was completed. Fan-outs that callbacks ask for are nested. -/
inductive Occurrence (Target : Type)
  | fanOut (event : Json) (nested completed : Bool)
  | send (to' : Target) (tell : Message) (completed : Bool)
  | ask (to' : Target) (message : Message) (completed : Bool)
  | callback (completed : Bool)

def Occurrence.completed : Occurrence Target → Bool
  | fanOut _ _ completed | send _ _ completed | ask _ _ completed | callback completed => completed

structure PlanExecutionResult where
  success : Bool
  (instructionsExecuted domainEventsEmitted sendInstructionsProcessed askInstructionsProcessed : Nat)
  errors : List String

def PlanExecutionResult.empty (success : Bool) : PlanExecutionResult := ⟨success, 0, 0, 0, 0, []⟩

def eventType (event : Json) : String :=
  match event.get "type" with
  | some (.str type) => type
  | _ => ""

def processDomainEvent (b : Behaviour Target Response) (event : Json) : Except Thrown Unit :=
  match (b.actorSend event).bind fun _ => b.emit event with
  | .ok _ => .ok ()
  | .error thrown =>
    .error (some ("Domain event fan-out failed for " ++ eventType event ++ ": " ++
      thrown.text "Unknown error"))

def instructionError (index : Nat) (thrown : Thrown) : String :=
  thrown.text ("Unknown error processing instruction at index " ++ toString index)

/-- `processMessagePlan` of the event of a callback: its only instruction is that event. -/
def processCallbackEvent (b : Behaviour Target Response) (event : Json) :
    PlanExecutionResult × List (Occurrence Target) :=
  match processDomainEvent b event with
  | .ok _ => (⟨true, 1, 1, 0, 0, []⟩, [.fanOut event true true])
  | .error thrown => (⟨false, 0, 0, 0, 0, [instructionError 0 thrown]⟩, [.fanOut event true false])

def processSendInstruction (b : Behaviour Target Response) (value : Value Target Response) :
    Except Thrown Unit × List (Occurrence Target) :=
  match value.get "to", (value.get "tell").bind Field.asMessage with
  | some (.actor to'), some tell =>
    match b.send to' tell with
    | .ok _ => (.ok (), [.send to' tell true])
    | .error thrown =>
      (.error (some ("Send instruction failed: " ++ thrown.text "Unknown error")),
        [.send to' tell false])
  | _, _ =>
    (.error (some ("Send instruction failed: " ++
      "Invalid target actor reference in send instruction")), [])

def Callback.result {α : Type} (callback : Callback α) (argument : α) : Returned :=
  match callback with
  | .event value => .ok (some value)
  | .function call => call argument

def Field.okCallback : Option (Field Target Response) → Option (Callback Response)
  | some (.json value) => some (.event value)
  | some (.okFunction call) => some (.function call)
  | _ => none

def Field.errorCallback : Option (Field Target Response) → Option (Callback String)
  | some (.json value) => some (.event value)
  | some (.errorFunction call) => some (.function call)
  | _ => none

def callbackEvent {α : Type} (name : String) (callback : Callback α) (argument : α) :
    Except Thrown Json :=
  match callback.result argument with
  | .error thrown => .error thrown
  | .ok returned =>
    match returned with
    | some event =>
      if returnsDomainEvent (some event) then .ok event
      else .error (some ("Ask instruction " ++ name ++ " callback must return a valid domain event"))
    | none => .error (some ("Ask instruction " ++ name ++ " callback must return a valid domain event"))

def processAnswer (b : Behaviour Target Response) (onOk : Option (Callback Response))
    (response : Response) : Except Thrown PlanExecutionResult × List (Occurrence Target) :=
  match onOk with
  | none => (.ok (.empty true), [])
  | some callback =>
    match callbackEvent "onOk" callback response with
    | .error thrown => (.error thrown, [.callback false])
    | .ok event =>
      let nested := processCallbackEvent b event
      (.ok nested.1, .callback true :: nested.2)

/-- The part of `processAskInstruction` that handles an error. What it counts is lost: the error is
thrown again. -/
def processFailure (b : Behaviour Target Response) (onError : Option (Callback String))
    (thrown : Thrown) : List (Occurrence Target) :=
  match onError with
  | none => []
  | some callback =>
    match callbackEvent "onError" callback (thrown.text "Unknown error") with
    | .error _ => [.callback false]
    | .ok event => .callback true :: (processCallbackEvent b event).2

def processAskInstruction (b : Behaviour Target Response) (value : Value Target Response) :
    Except Thrown PlanExecutionResult × List (Occurrence Target) :=
  let onError := Field.errorCallback (value.get "onError")
  let timeout := match value.get "timeout" with
    | some (.number timeout) => timeout
    | _ => .nan
  match value.get "to", (value.get "ask").bind Field.asMessage with
  | some (.actor to'), some message =>
    match b.ask to' message timeout with
    | .error thrown =>
      (.error thrown, .ask to' message false :: processFailure b onError thrown)
    | .ok response =>
      let answer := processAnswer b (Field.okCallback (value.get "onOk")) response
      match answer.1 with
      | .ok result => (.ok result, .ask to' message true :: answer.2)
      | .error thrown =>
        (.error thrown,
          .ask to' message true :: (answer.2 ++ processFailure b onError thrown))
  | _, _ =>
    let thrown := some "Invalid target actor reference in ask instruction"
    (.error thrown, processFailure b onError thrown)

/-- What a run of the interpreter depends on: what happens during each of the instructions, and how
plans and values are printed. -/
structure Runtime (Target Response : Type) where
  behaviours : Nat → Behaviour Target Response
  planText : List (Value Target Response) → String
  valueText : Value Target Response → String

namespace PlanExecutionResult

def executed (result : PlanExecutionResult) : PlanExecutionResult :=
  { result with instructionsExecuted := result.instructionsExecuted + 1 }

def failed (result : PlanExecutionResult) (error : String) : PlanExecutionResult :=
  { result with errors := result.errors ++ [error] }

def accumulated (result instructionResult : PlanExecutionResult) : PlanExecutionResult where
  success := (result.errors ++ instructionResult.errors).length = 0
  instructionsExecuted := result.instructionsExecuted
  domainEventsEmitted := result.domainEventsEmitted + instructionResult.domainEventsEmitted
  sendInstructionsProcessed :=
    result.sendInstructionsProcessed + instructionResult.sendInstructionsProcessed
  askInstructionsProcessed :=
    result.askInstructionsProcessed + 1 + instructionResult.askInstructionsProcessed
  errors := result.errors ++ instructionResult.errors

end PlanExecutionResult

variable (rt : Runtime Target Response)

def processInstruction (i : Nat) (value : Value Target Response) (result : PlanExecutionResult) :
    PlanExecutionResult × List (Occurrence Target) :=
  let b := rt.behaviours i
  match value.domainEvent with
  | some event =>
    match processDomainEvent b event with
    | .ok _ =>
      ({ result with domainEventsEmitted := result.domainEventsEmitted + 1 }.executed,
        [.fanOut event false true])
    | .error thrown => (result.failed (instructionError i thrown), [.fanOut event false false])
  | none =>
    if isSendInstruction value then
      let sent := processSendInstruction b value
      match sent.1 with
      | .ok _ =>
        ({ result with
            sendInstructionsProcessed := result.sendInstructionsProcessed + 1 }.executed, sent.2)
      | .error thrown => (result.failed (instructionError i thrown), sent.2)
    else if isAskInstruction value then
      let asked := processAskInstruction b value
      match asked.1 with
      | .ok instructionResult => ((result.accumulated instructionResult).executed, asked.2)
      | .error thrown => (result.failed (instructionError i thrown), asked.2)
    else
      (result.failed ("Unknown instruction type at index " ++ toString i ++ ": " ++
        rt.valueText value), [])

def processInstructions : Nat → List (Value Target Response) → PlanExecutionResult →
    PlanExecutionResult × List (Occurrence Target)
  | _, [], result => (result, [])
  | i, value :: values, result =>
    let first := processInstruction rt i value result
    let rest := processInstructions (i + 1) values first.1
    (rest.1, first.2 ++ rest.2)

def processMessagePlan (plan : List (Value Target Response)) :
    PlanExecutionResult × List (Occurrence Target) :=
  if isMessagePlan plan = false then
    ((PlanExecutionResult.empty false).failed ("Invalid message plan structure: " ++ rt.planText plan),
      [])
  else
    let processed := processInstructions rt 0 plan (.empty false)
    ({ processed.1 with success := processed.1.errors.length = 0 }, processed.2)

end Interpreter

section Laws

variable {Target Response : Type}

inductive Instruction (Target Response : Type)
  | event (value : Json)
  | send (to' : Target) (tell : Message)
  | ask (to' : Target) (message : Message) (onOk : Option (Callback Response))
      (onError : Option (Callback String)) (timeout : Option JsNumber)

def Callback.Valid {α : Type} : Callback α → Prop
  | event value => returnsDomainEvent (some value) = true
  | function _ => True

def Instruction.Makes : Instruction Target Response → Value Target Response → Prop
  | event e, value => createDomainEvent e = some value
  | send to' tell, value => isActorMessage tell = true ∧ value = createSendInstruction to' tell
  | ask to' message onOk onError timeout, value =>
    isActorMessage message = true ∧ (∀ callback ∈ onOk, callback.Valid) ∧
      (∀ callback ∈ onError, callback.Valid) ∧
      value = createAskInstruction to' message onOk onError timeout

namespace Occurrence

def topLevel : Occurrence Target → Bool
  | fanOut _ nested _ => !nested
  | send _ _ _ | ask _ _ _ => true
  | callback _ => false

def emitted : Occurrence Target → Bool
  | fanOut _ _ completed => completed
  | send _ _ _ | ask _ _ _ | callback _ => false

def sent : Occurrence Target → Bool
  | send _ _ completed => completed
  | fanOut _ _ _ | ask _ _ _ | callback _ => false

def asked : Occurrence Target → Bool
  | ask _ _ completed => completed
  | fanOut _ _ _ | send _ _ _ | callback _ => false

end Occurrence

def Instruction.Performs : Instruction Target Response → Occurrence Target → Prop
  | event e, occurrence => ∃ completed, occurrence = .fanOut e false completed
  | send to' tell, occurrence => ∃ completed, occurrence = .send to' tell completed
  | ask to' message _ _ _, occurrence => ∃ completed, occurrence = .ask to' message completed

/-- The plan is accepted, each instruction is executed once and in order, and the result says what
was completed. -/
structure AsWritten (instructions : List (Instruction Target Response))
    (plan : List (Value Target Response)) (result : PlanExecutionResult)
    (occurrences : List (Occurrence Target)) : Prop where
  accepted : isMessagePlan plan = true
  ordered : List.Forall₂ Instruction.Performs instructions (occurrences.filter Occurrence.topLevel)
  emitted : result.domainEventsEmitted = occurrences.countP Occurrence.emitted
  sent : result.sendInstructionsProcessed = occurrences.countP Occurrence.sent
  asked : result.askInstructionsProcessed = occurrences.countP Occurrence.asked
  success : result.success = true ↔ ∀ o ∈ occurrences, o.completed = true

def FansOut (b : Behaviour Target Response) (event : Json) : Prop :=
  b.actorSend event = .ok () ∧ b.emit event = .ok ()

/-- An ask has a callback for the answer, that callback gives an event when the ask is answered, and
when it is not, no event of the callback for errors is fanned out. -/
def Instruction.Accounted (b : Behaviour Target Response) : Instruction Target Response → Prop
  | event _ | send _ _ => True
  | ask to' message onOk onError timeout =>
    ∃ callback, onOk = some callback ∧
      (∀ response, b.ask to' message (timeout.getD (.finite 5000)) = .ok response →
        ∃ event, callbackEvent "onOk" callback response = .ok event) ∧
      ∀ thrown, b.ask to' message (timeout.getD (.finite 5000)) = .error thrown →
        ∀ handler, onError = some handler → ∀ event,
          callbackEvent "onError" handler (thrown.text "Unknown error") = .ok event →
          ¬ FansOut b event

end Laws

section Factories

variable {Target Response : Type} {to' : Target} {message : Message} {value : Value Target Response}
  {onOk : Option (Callback Response)} {onError : Option
    (Callback String)} {timeout : Option JsNumber}

theorem okCallback_okField : Field.okCallback (some
    (okField onOk : Field Target Response)) = onOk := by
  cases onOk with
  | none => rfl
  | some callback => cases callback <;> rfl

theorem errorCallback_errorField :
    Field.errorCallback (some (errorField onError : Field Target Response)) = onError := by
  cases onError with
  | none => rfl
  | some callback => cases callback <;> rfl

theorem domainEvent_eq_some {e : Json} (h : value.domainEvent = some e) :
    value = .json e ∧ isDomainEvent value = true := by
  cases value with
  | record fields => cases h
  | json event =>
    by_cases hevent : isDomainEvent (.json event : Value Target Response) = true
    · obtain rfl : event = e := some.inj ((if_pos hevent).symm.trans h)
      exact ⟨rfl, hevent⟩
    · cases (if_neg hevent).symm.trans h

theorem createDomainEvent_eq_some {e : Json} (h : createDomainEvent e = some value) :
    value = .json e ∧ value.domainEvent = some e := by
  obtain ⟨event, hevent, rfl⟩ := map_eq_some_iff.mp h
  obtain ⟨heq, -⟩ := domainEvent_eq_some hevent
  obtain rfl := Value.json.inj heq
  exact ⟨rfl, hevent⟩

theorem send_get (Response : Type) (to' : Target) (message : Message) :
    (createSendInstruction to' message : Value Target Response).get "to" = some (.actor to') ∧
    (createSendInstruction to' message : Value Target Response).get "tell" =
      some (.message message) := by
  simp [createSendInstruction, Value.get, lookup_cons]

structure AskFields (value : Value Target Response) (to' : Target) (message : Message)
    (onOk : Option (Callback Response)) (onError : Option (Callback String))
    (timeout : Option JsNumber) : Prop where
  target : value.get "to" = some (.actor to')
  tell : value.get "tell" = none
  ask : value.get "ask" = some (.message message)
  onOk : value.get "onOk" = some (okField onOk)
  onError : value.get "onError" = some (errorField onError)
  timeout : value.get "timeout" = some (.number (timeout.getD (.finite 5000)))

theorem ask_get : AskFields (createAskInstruction to' message onOk onError timeout) to' message onOk
    onError timeout := by
  constructor <;> simp [createAskInstruction, Value.get, lookup_cons]

theorem isSendInstruction_create : isSendInstruction
    (createSendInstruction to' message : Value Target Response) = isActorMessage message := by
  obtain ⟨hto, htell⟩ := send_get Response to' message
  rw [isSendInstruction, hto, htell]
  rfl

theorem isSendInstruction_ask : isSendInstruction
    (createAskInstruction to' message onOk onError timeout) = false := by
  rw [isSendInstruction, ask_get.target, ask_get.tell]

theorem isAskInstruction_create (hmessage : isActorMessage message = true)
    (hvalid : ∀ callback ∈ onOk, callback.Valid) :
    isAskInstruction (createAskInstruction to' message onOk onError timeout) = onOk.isSome := by
  rw [isAskInstruction, ask_get.target, ask_get.ask, ask_get.onOk]
  simp only [Field.typeofObject, Field.asMessage, any_some, hmessage, Bool.true_and]
  cases onOk with
  | none => rfl
  | some callback =>
    cases callback with
    | event e => exact hvalid _ rfl
    | function call => rfl

def Instruction.Recognised : Instruction Target Response → Prop
  | event _ | send _ _ => True
  | ask _ _ onOk _ _ => onOk.isSome = true

theorem Instruction.Accounted.recognised {b : Behaviour Target Response}
    {instruction : Instruction Target Response} (h : instruction.Accounted b) :
    instruction.Recognised := by
  cases instruction with
  | event e => trivial
  | send to' tell => trivial
  | ask to' message onOk onError timeout =>
    obtain ⟨callback, rfl, -⟩ := h
    exact rfl

theorem isPlanItem_made {instruction : Instruction Target Response} (h : instruction.Makes value) :
    isPlanItem value = true ↔ instruction.Recognised := by
  cases instruction with
  | event e =>
    obtain ⟨rfl, hevent⟩ := createDomainEvent_eq_some h
    obtain ⟨-, hevent⟩ := domainEvent_eq_some hevent
    refine iff_of_true ?_ trivial
    cases e with
    | arr items => cases hevent
    | null => rfl
    | bool _ | num _ | str _ | obj _ => simp only [isPlanItem, hevent, Bool.true_or]
  | send to' tell =>
    obtain ⟨htell, rfl⟩ := h
    refine iff_of_true ?_ trivial
    change (_ || isSendInstruction _ || _) = true
    rw [isSendInstruction_create, htell, Bool.or_true, Bool.true_or]
  | ask to' message onOk onError timeout =>
    obtain ⟨hmessage, hok, -, rfl⟩ := h
    have hevent : isDomainEvent (createAskInstruction to' message onOk onError timeout) = false :=
      Bool.and_false _
    have hitem : isPlanItem (createAskInstruction to' message onOk onError timeout) =
        (isDomainEvent (createAskInstruction to' message onOk onError timeout) ||
          isSendInstruction (createAskInstruction to' message onOk onError timeout) ||
          isAskInstruction (createAskInstruction to' message onOk onError timeout)) := rfl
    change _ ↔ onOk.isSome = true
    rw [hitem, hevent, isSendInstruction_ask, isAskInstruction_create hmessage hok, Bool.false_or,
      Bool.false_or]

theorem isMessagePlan_made {instructions : List (Instruction Target Response)}
    {plan : List (Value Target Response)} (h : List.Forall₂ Instruction.Makes instructions plan) :
    isMessagePlan plan = true ↔ ∀ instruction ∈ instructions, instruction.Recognised := by
  unfold isMessagePlan
  induction h with
  | nil => simp
  | cons hmakes _ ih =>
    rw [all_cons, Bool.and_eq_true, forall_mem_cons, isPlanItem_made hmakes, ih]

end Factories

section Counts

variable {Target Response : Type} {b : Behaviour Target Response}

theorem processDomainEvent_cases (b : Behaviour Target Response) (event : Json) :
    (FansOut b event ∧ processDomainEvent b event = .ok ()) ∨
      (¬ FansOut b event ∧ ∃ thrown, processDomainEvent b event = .error thrown) := by
  unfold FansOut processDomainEvent
  cases hsend : b.actorSend event with
  | error thrown => exact .inr ⟨fun h => (by cases h.1), _, rfl⟩
  | ok _ =>
    cases hemit : b.emit event with
    | error thrown =>
      refine .inr ⟨fun h => (by cases h.2), some ("Domain event fan-out failed for " ++
        eventType event ++ ": " ++ thrown.text "Unknown error"), ?_⟩
      simp only [Except.bind]
    | ok _ =>
      refine .inl ⟨⟨rfl, rfl⟩, ?_⟩
      simp only [Except.bind]

structure Delta where
  (emitted sent asked : Nat)
  errors : List String

structure Adds (result result' : PlanExecutionResult) (d : Delta) : Prop where
  emitted : result'.domainEventsEmitted = result.domainEventsEmitted + d.emitted
  sent : result'.sendInstructionsProcessed = result.sendInstructionsProcessed + d.sent
  asked : result'.askInstructionsProcessed = result.askInstructionsProcessed + d.asked
  errors : result'.errors = result.errors ++ d.errors

/-- What is added never exceeds what was completed, and is that where all is accounted for. -/
structure Tells (d : Delta) (occurrences : List (Occurrence Target)) (accounted : Prop) : Prop where
  emitted_le : d.emitted ≤ occurrences.countP Occurrence.emitted
  sent : d.sent = occurrences.countP Occurrence.sent
  asked_le : d.asked ≤ occurrences.countP Occurrence.asked
  exact_iff : (d.emitted = occurrences.countP Occurrence.emitted ∧
    d.asked = occurrences.countP Occurrence.asked) ↔ accounted
  errors : d.errors = [] ↔ ∀ o ∈ occurrences, o.completed = true

theorem Tells.append {d d' : Delta} {os os' : List
    (Occurrence Target)} {accounted accounted' : Prop}
    (h : Tells d os accounted) (h' : Tells d' os' accounted') :
    Tells ⟨d.emitted + d'.emitted, d.sent + d'.sent, d.asked + d'.asked, d.errors ++ d'.errors⟩
      (os ++ os') (accounted ∧ accounted') := by
  obtain ⟨hemitted, hsent, hasked, hexact, herrors⟩ := h
  obtain ⟨hemitted', hsent', hasked', hexact', herrors'⟩ := h'
  constructor
  · rw [countP_append]
    exact Nat.add_le_add hemitted hemitted'
  · rw [countP_append, hsent, hsent']
  · rw [countP_append]
    exact Nat.add_le_add hasked hasked'
  · rw [← hexact, ← hexact', countP_append, countP_append]
    dsimp only
    constructor
    · intro h
      omega
    · intro h
      omega
  · rw [append_eq_nil_iff, herrors, herrors', forall_mem_append]

theorem processCallbackEvent_occurrences (b : Behaviour Target Response) (event : Json) :
    ∃ completed, (processCallbackEvent b event).2 = [.fanOut event true completed] ∧
      (completed = true ↔ FansOut b event) := by
  unfold processCallbackEvent
  obtain ⟨hfans, heq⟩ | ⟨hfans, thrown, heq⟩ := processDomainEvent_cases b event
  · rw [heq]
    exact ⟨true, rfl, iff_of_true rfl hfans⟩
  · rw [heq]
    exact ⟨false, rfl, iff_of_false (by decide) hfans⟩

def HandlerFansOut (b : Behaviour Target Response) (onError : Option (Callback String))
    (thrown : Thrown) : Prop :=
  ∃ handler, onError = some handler ∧ ∃ event,
    callbackEvent "onError" handler (thrown.text "Unknown error") = .ok event ∧ FansOut b event

structure Handled (os : List (Occurrence Target)) (fansOut : Prop) : Prop where
  topLevel : os.filter Occurrence.topLevel = []
  sent : os.countP Occurrence.sent = 0
  asked : os.countP Occurrence.asked = 0
  emitted : os.countP Occurrence.emitted = 0 ↔ ¬ fansOut

theorem processFailure_handled (b : Behaviour Target Response) (onError : Option (Callback String))
    (thrown : Thrown) :
    Handled (processFailure b onError thrown) (HandlerFansOut b onError thrown) := by
  unfold processFailure HandlerFansOut
  cases onError with
  | none => exact ⟨rfl, rfl, rfl, iff_of_true rfl (by rintro ⟨_, h, -⟩; cases h)⟩
  | some handler =>
    cases hevent : callbackEvent "onError" handler (thrown.text "Unknown error") with
    | error thrown' =>
      refine ⟨?_, ?_, ?_, iff_of_true ?_ ?_⟩
      · simp [hevent, Occurrence.topLevel]
      · simp [hevent, Occurrence.sent]
      · simp [hevent, Occurrence.asked]
      · simp [hevent, Occurrence.emitted]
      · rintro ⟨_, h, event, hok, -⟩
        cases h
        rw [hevent] at hok
        cases hok
    | ok event =>
      obtain ⟨completed, hoccurrences, hcompleted⟩ := processCallbackEvent_occurrences b event
      have hfans : (∃ handler', some handler = some handler' ∧ ∃ event',
          callbackEvent "onError" handler' (thrown.text "Unknown error") = .ok event' ∧
            FansOut b event') ↔ FansOut b event := by
        constructor
        · rintro ⟨_, h, event', hok, hfans⟩
          cases h
          rw [hevent] at hok
          exact Except.ok.inj hok ▸ hfans
        · intro hfans
          exact ⟨handler, rfl, event, hevent, hfans⟩
      rw [hfans, ← hcompleted]
      simp only [hevent, hoccurrences]
      refine ⟨?_, ?_, ?_, ?_⟩
      · simp [Occurrence.topLevel]
      · simp [Occurrence.sent]
      · simp [Occurrence.asked]
      · cases completed <;> simp [Occurrence.emitted]

end Counts

section Steps

variable {Target Response : Type} {rt : Runtime Target Response} {value : Value Target Response}
  {to' : Target} {message : Message} {onOk : Option (Callback Response)}
  {onError : Option (Callback String)} {timeout : Option JsNumber}

structure StepLaw (instruction : Instruction Target Response) (b : Behaviour Target Response)
    (result : PlanExecutionResult) (step : PlanExecutionResult × List
      (Occurrence Target)) : Prop where
  counts : ∃ d, Adds result step.1 d ∧ Tells d step.2 (instruction.Accounted b)
  own : ∃ o, step.2.filter Occurrence.topLevel = [o] ∧ instruction.Performs o

theorem processInstruction_event {e : Json} (hevent : value.domainEvent = some e) (i : Nat)
    (result : PlanExecutionResult) :
    StepLaw (.event e) (rt.behaviours i) result (processInstruction rt i value result) := by
  unfold processInstruction
  simp only [hevent]
  obtain ⟨-, heq⟩ | ⟨-, thrown, heq⟩ := processDomainEvent_cases (rt.behaviours i) e
  · simp only [heq]
    refine ⟨⟨⟨1, 0, 0, []⟩, ⟨rfl, rfl, rfl, (append_nil _).symm⟩, ?_⟩, _, rfl, true, rfl⟩
    constructor <;> simp [Occurrence.emitted, Occurrence.sent, Occurrence.asked,
      Occurrence.completed, Instruction.Accounted]
  · simp only [heq]
    refine ⟨⟨⟨0, 0, 0, [instructionError i thrown]⟩, ⟨rfl, rfl, rfl, rfl⟩, ?_⟩, _, rfl, false, rfl⟩
    constructor <;> simp [Occurrence.emitted, Occurrence.sent, Occurrence.asked,
      Occurrence.completed, Instruction.Accounted]

theorem processInstruction_send {tell : Message} (htell : isActorMessage tell = true) (i : Nat)
    (result : PlanExecutionResult) : StepLaw (.send to' tell) (rt.behaviours i) result
      (processInstruction rt i (createSendInstruction to' tell) result) := by
  obtain ⟨hto, hget⟩ := send_get Response to' tell
  have hevent : (createSendInstruction to' tell : Value Target Response).domainEvent = none := rfl
  unfold processInstruction
  simp only [hevent, isSendInstruction_create, htell, if_true]
  unfold processSendInstruction
  rw [hto, hget]
  cases hsent : (rt.behaviours i).send to' tell with
  | ok _ =>
    simp only [bind_some, Field.asMessage, hsent]
    refine ⟨⟨⟨0, 1, 0, []⟩, ⟨rfl, rfl, rfl, (append_nil _).symm⟩, ?_⟩, _, rfl, true, rfl⟩
    constructor <;> simp [Occurrence.emitted, Occurrence.sent, Occurrence.asked,
      Occurrence.completed, Instruction.Accounted]
  | error thrown =>
    simp only [bind_some, Field.asMessage, hsent]
    refine ⟨⟨⟨0, 0, 0, [_]⟩, ⟨rfl, rfl, rfl, rfl⟩, ?_⟩, _, rfl, false, rfl⟩
    constructor <;> simp [Occurrence.emitted, Occurrence.sent, Occurrence.asked,
      Occurrence.completed, Instruction.Accounted]

theorem processAskInstruction_made (b : Behaviour Target Response) :
    processAskInstruction b (createAskInstruction to' message onOk onError timeout) =
      match b.ask to' message (timeout.getD (.finite 5000)) with
      | .error thrown => (.error thrown, .ask to' message false :: processFailure b onError thrown)
      | .ok response =>
        match (processAnswer b onOk response).1 with
        | .ok result => (.ok result, .ask to' message true :: (processAnswer b onOk response).2)
        | .error thrown => (.error thrown, .ask to' message true ::
            ((processAnswer b onOk response).2 ++ processFailure b onError thrown)) := by
  unfold processAskInstruction
  rw [ask_get.target, ask_get.ask, ask_get.onOk, ask_get.onError, ask_get.timeout, okCallback_okField,
    errorCallback_errorField]
  rfl

variable {b : Behaviour Target Response} {callback : Callback Response}

theorem processAnswer_event {response : Response} {event : Json}
    (hevent : callbackEvent "onOk" callback response = .ok event) :
    ∃ result completed, processAnswer b (some callback) response =
        (.ok result, [.callback true, .fanOut event true completed]) ∧
      result.domainEventsEmitted = completed.toNat ∧ result.sendInstructionsProcessed = 0 ∧
      result.askInstructionsProcessed = 0 ∧ (result.errors = [] ↔ completed = true) := by
  unfold processAnswer
  simp only [hevent]
  unfold processCallbackEvent
  obtain ⟨-, heq⟩ | ⟨-, thrown, heq⟩ := processDomainEvent_cases b event
  · rw [heq]
    exact ⟨_, true, rfl, rfl, rfl, rfl, iff_of_true rfl rfl⟩
  · rw [heq]
    exact ⟨_, false, rfl, rfl, rfl, rfl, iff_of_false (by simp) (by decide)⟩

theorem processAnswer_error {response : Response} {thrown : Thrown}
    (hthrown : callbackEvent "onOk" callback response = .error thrown) :
    processAnswer b (some callback) response = (.error thrown, [.callback false]) := by
  unfold processAnswer
  simp only [hthrown]

theorem stepLaw_ask_failed {result : PlanExecutionResult}
    {error : String} {completed : Bool} (os : List (Occurrence Target))
    {os' : List (Occurrence Target)} {fansOut : Prop} (hos : os = [] ∨ os = [.callback false])
    (hcompleted : completed = false ∨ os = [.callback false]) (hhandled : Handled os' fansOut)
    (haccounted : (completed = false ∧ ¬ fansOut) ↔
      (Instruction.ask to' message (some callback) onError timeout).Accounted b) :
    StepLaw (.ask to' message (some callback) onError timeout) b result
      (result.failed error, .ask to' message completed :: (os ++ os')) := by
  obtain ⟨htop, hsent, hasked, hemitted⟩ := hhandled
  have htop' : (os ++ os').filter Occurrence.topLevel = [] := by
    rw [filter_append, htop]
    obtain rfl | rfl := hos <;> rfl
  have hsent' : (os ++ os').countP Occurrence.sent = 0 := by
    rw [countP_append, hsent]
    obtain rfl | rfl := hos <;> rfl
  have hasked' : (os ++ os').countP Occurrence.asked = 0 := by
    rw [countP_append, hasked]
    obtain rfl | rfl := hos <;> rfl
  have hemitted' : (os ++ os').countP Occurrence.emitted = os'.countP Occurrence.emitted := by
    rw [countP_append]
    obtain rfl | rfl := hos <;> exact Nat.zero_add _
  refine ⟨⟨⟨0, 0, 0, [error]⟩, ⟨rfl, rfl, rfl, rfl⟩, ?_⟩, .ask to' message completed, ?_, completed,
    rfl⟩
  · refine ⟨Nat.zero_le _, ?_, Nat.zero_le _, ?_, iff_of_false (by simp) ?_⟩
    · rw [countP_cons, hsent']
      rfl
    · rw [← haccounted, ← hemitted, countP_cons, countP_cons, hasked', hemitted']
      cases completed with
      | true => simp [Occurrence.emitted, Occurrence.asked]
      | false => simp [Occurrence.emitted, Occurrence.asked, eq_comm]
    · intro h
      obtain ⟨hask, hrest⟩ := forall_mem_cons.mp h
      obtain rfl | rfl := hcompleted
      · cases hask
      · cases hrest (.callback false) (mem_append_left _ (mem_singleton.mpr rfl))
  · rw [filter_cons_of_pos rfl, htop']

theorem processInstruction_ask (hmessage : isActorMessage message = true)
    (hvalid : callback.Valid) (i : Nat) (result : PlanExecutionResult) :
    StepLaw (.ask to' message (some callback) onError timeout) (rt.behaviours i) result
      (processInstruction rt i
        (createAskInstruction to' message (some callback) onError timeout) result) := by
  have hevent : (createAskInstruction to' message (some callback) onError timeout).domainEvent =
      none := rfl
  have hask : isAskInstruction (createAskInstruction to' message (some callback) onError timeout) =
      true := isAskInstruction_create hmessage fun _ h => some.inj h ▸ hvalid
  unfold processInstruction
  simp only [hevent, isSendInstruction_ask, hask, Bool.false_eq_true, if_false, if_true]
  rw [processAskInstruction_made]
  cases hanswer : (rt.behaviours i).ask to' message (timeout.getD (.finite 5000)) with
  | error thrown =>
    dsimp only
    refine stepLaw_ask_failed [] (.inl rfl) (.inl rfl)
      (processFailure_handled (rt.behaviours i) onError thrown) ⟨?_, ?_⟩
    · rintro ⟨-, hfans⟩
      refine ⟨callback, rfl, fun response h => ?_,
        fun thrown' h handler hhandler event hok hout => ?_⟩
      · rw [hanswer] at h
        cases h
      · obtain rfl : thrown = thrown' := Except.error.inj (hanswer.symm.trans h)
        exact hfans ⟨handler, hhandler, event, hok, hout⟩
    · rintro ⟨-, -, -, hfails⟩
      refine ⟨rfl, ?_⟩
      rintro ⟨handler, hhandler, event, hok, hout⟩
      exact hfails thrown hanswer handler hhandler event hok hout
  | ok response =>
    cases hcallback : callbackEvent "onOk" callback response with
    | error thrown =>
      simp only [processAnswer_error hcallback]
      refine stepLaw_ask_failed [.callback false] (.inr rfl) (.inr rfl)
        (processFailure_handled (rt.behaviours i) onError thrown)
        (iff_of_false (fun h => (by cases h.1)) ?_)
      rintro ⟨callback', heq, hgives, -⟩
      cases heq
      obtain ⟨event, hgiven⟩ := hgives response hanswer
      rw [hcallback] at hgiven
      cases hgiven
    | ok event =>
      obtain ⟨nested, completed, heq, hemitted, hsent, hasked, herrors⟩ :=
        processAnswer_event (b := rt.behaviours i) hcallback
      simp only [heq]
      refine ⟨⟨⟨completed.toNat, 0, 1, nested.errors⟩, ⟨?_, ?_, ?_, rfl⟩, ?_⟩,
        .ask to' message true, rfl, true, rfl⟩
      · exact congrArg (result.domainEventsEmitted + ·) hemitted
      · exact congrArg (result.sendInstructionsProcessed + ·) hsent
      · exact congrArg (result.askInstructionsProcessed + 1 + ·) hasked
      · refine ⟨?_, ?_, ?_, iff_of_true ?_ ?_, ?_⟩
        · cases completed <;> simp [Occurrence.emitted]
        · simp [Occurrence.sent]
        · simp [Occurrence.asked]
        · refine ⟨?_, rfl⟩
          cases completed <;> simp [Occurrence.emitted]
        · refine ⟨callback, rfl, fun response' h => ?_, fun thrown h => ?_⟩
          · rw [hanswer] at h
            exact ⟨event, Except.ok.inj h ▸ hcallback⟩
          · rw [hanswer] at h
            cases h
        · simpa [Occurrence.completed] using herrors

theorem processInstruction_made (rt : Runtime Target Response)
    {instruction : Instruction Target Response}
    (h : instruction.Makes value) (hrecognised : instruction.Recognised) (i : Nat)
    (result : PlanExecutionResult) :
    StepLaw instruction (rt.behaviours i) result (processInstruction rt i value result) := by
  cases instruction with
  | event e => exact processInstruction_event (createDomainEvent_eq_some h).2 i result
  | send to' tell =>
    obtain ⟨htell, rfl⟩ := h
    exact processInstruction_send htell i result
  | ask to' message onOk onError timeout =>
    obtain ⟨hmessage, hok, -, rfl⟩ := h
    obtain ⟨callback, rfl⟩ := isSome_iff_exists.mp hrecognised
    exact processInstruction_ask hmessage (hok callback rfl) i result

end Steps

section Plans

variable {Target Response : Type}
  {instructions : List (Instruction Target Response)} {plan : List (Value Target Response)}

theorem processInstructions_made (rt : Runtime Target Response)
    (h : List.Forall₂ Instruction.Makes instructions plan)
    (hrecognised : ∀ instruction ∈ instructions, instruction.Recognised) (i : Nat)
    (result : PlanExecutionResult) : (∃ d, Adds result (processInstructions rt i plan result).1 d ∧
      Tells d (processInstructions rt i plan result).2
        (∀ e ∈ instructions.zipIdx i, e.1.Accounted (rt.behaviours e.2))) ∧
    List.Forall₂ Instruction.Performs instructions
      ((processInstructions rt i plan result).2.filter Occurrence.topLevel) := by
  induction h generalizing i result with
  | nil =>
    refine ⟨⟨⟨0, 0, 0, []⟩, ⟨rfl, rfl, rfl, (append_nil _).symm⟩, ?_⟩, .nil⟩
    exact ⟨le_rfl, rfl, le_rfl, iff_of_true ⟨rfl, rfl⟩ nofun, iff_of_true rfl nofun⟩
  | @cons instruction value instructions plan hmakes _ ih =>
    obtain ⟨hhead, htail⟩ := forall_mem_cons.mp hrecognised
    obtain ⟨⟨d, hadds, htells⟩, o, hown, hperforms⟩ :=
      processInstruction_made rt hmakes hhead i result
    obtain ⟨⟨d', hadds', htells'⟩, hordered⟩ :=
      ih htail (i + 1) (processInstruction rt i value result).1
    unfold processInstructions
    refine ⟨⟨⟨d.emitted + d'.emitted, d.sent + d'.sent, d.asked + d'.asked, d.errors ++ d'.errors⟩,
      ?_, ?_⟩, ?_⟩
    · refine ⟨?_, ?_, ?_, ?_⟩
      · rw [hadds'.emitted, hadds.emitted, Nat.add_assoc]
      · rw [hadds'.sent, hadds.sent, Nat.add_assoc]
      · rw [hadds'.asked, hadds.asked, Nat.add_assoc]
      · rw [hadds'.errors, hadds.errors, append_assoc]
    · rw [zipIdx_cons, forall_mem_cons]
      exact htells.append htells'
    · rw [filter_append, hown]
      exact .cons hperforms hordered

def stockTaken : Json := .obj [("type", .str "TAKEN")]

def stockRuntime : Runtime String Json where
  behaviours _ := ⟨fun _ => .ok (), fun _ => .ok (), fun _ _ => .ok (), fun _ _ _ => .ok stockTaken⟩
  planText _ := "[]"
  valueText _ := "null"

def stockAsk (onOk : Option (Callback Json)) : Instruction String Json :=
  .ask "stock" [("type", .string "TAKE")] onOk none none

def stockAskValue (onOk : Option (Callback Json)) : Value String Json :=
  createAskInstruction "stock" [("type", .string "TAKE")] onOk none none

end Plans

end ActorWeb.Plans
