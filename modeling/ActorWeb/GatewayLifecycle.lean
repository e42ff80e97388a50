import ActorWeb.GatewayCommand

namespace ActorWeb.Gateway

open Option List AgentExecution LoggedProcess

variable {AuthContext Principal Value : Type}

def ResponseFrame.requestId : ResponseFrame Value → Option String
  | .ack _ requestId _ => requestId
  | .reply _ requestId _ _ => some requestId
  | .error _ requestId _ _ _ _ => requestId

section Effects

variable (c : CommandConnection AuthContext Principal Value)
variable (admission : CommandAdmission AuthContext Principal)

def answer (frame : ResponseFrame Value) : List (CommandEvent Value) :=
  if c.live then [.sent frame] else []

def settlement (decision : AdmissionDecision) (outcome : SettleOutcome) :
    List (CommandEvent Value) :=
  match decision.verdict with
  | .authorized _ true => [.settled outcome]
  | _ => []

theorem runs_sendFrame (frame : ResponseFrame Value) :
    Runs (sendFrame c frame) (.ok ()) (answer c frame) := by
  unfold sendFrame answer
  split
  case isTrue => exact runs_emit _
  case isFalse => exact runs_pure ()

theorem runs_settle (decision : AdmissionDecision) (outcome : SettleOutcome) :
    ∃ settled, Runs (trySettleGatewayClaim admission decision outcome : Process Value Bool)
      (.ok settled) (settlement decision outcome) := by
  obtain ⟨principal, commandId, receipt, verdict⟩ := decision
  cases verdict with
  | rejected rejection => exact ⟨true, runs_pure true⟩
  | authorized authorization claimed =>
    cases claimed with
    | false => exact ⟨true, runs_pure true⟩
    | true => exact ⟨admission.settle outcome, (runs_emit _).bind (runs_pure _)⟩

def traceResult (source : CommandSource Value) (decision : AdmissionDecision)
    (receipts : List Receipt) : Except Thrown Unit :=
  match source.trace with
  | some trace => trace.appendTrace (createGatewayDecisionTrace decision receipts)
  | none => .ok ()

def factResult (source : CommandSource Value) (code : TraceFactCode) (message : String) :
    Except Thrown Unit :=
  match source.trace with
  | some trace => trace.appendTraceFact code message
  | none => .ok ()

theorem runs_trace (source : CommandSource Value) (decision : AdmissionDecision)
    (receipts : List Receipt) : Runs (appendGatewayDecisionTrace source decision receipts)
      (traceResult source decision receipts) [] := by
  unfold appendGatewayDecisionTrace traceResult
  cases source.trace with
  | none => exact runs_pure ()
  | some trace => exact runs_call _

theorem runs_fact (source : CommandSource Value) (code : TraceFactCode) (message : String) :
    Runs (appendGatewayTraceFact source code message) (factResult source code message) [] := by
  unfold appendGatewayTraceFact factResult
  cases source.trace with
  | none => exact runs_pure ()
  | some trace => exact runs_call _

end Effects

section Dispatch

variable {α : Type} (c : CommandConnection AuthContext Principal Value) (d : Dispatch Value α)
variable (admission : CommandAdmission AuthContext Principal) (source : CommandSource Value)
variable (streamId : String) (requestId : Option String)

variable (decision : AdmissionDecision)

variable (authorization : AuthorizationReceipt)

/-- The end of what is recorded between the call of the source and the settlement. -/
def Dispatch.traced :
    Except Thrown Unit :=
  match d.perform with
  | .ok value =>
    (d.receipts decision authorization value).bind fun receipts =>
      traceResult source decision receipts
  | .error _ => factResult source .traceDispatchFailed d.failedFact

def Dispatch.resolves : Bool :=
  match d.perform with
  | .ok _ => true
  | .error _ => false

/-- The settlement of a dispatch that failed: none when recording the failure throws. -/
def Dispatch.failureSettles : List (CommandEvent Value) :=
  match factResult source .traceDispatchFailed d.failedFact with
  | .ok _ => settlement decision .dispatchIndeterminate
  | .error _ => []

def Dispatch.settles :
    List (CommandEvent Value) :=
  match d.resolves, d.traced source decision authorization with
  | true, .ok _ => settlement decision .dispatchSucceeded
  | _, _ => d.failureSettles source decision

def Answers (p : Process Value Unit) (work : List (CommandEvent Value)) : Prop :=
  (∃ frame, frame.requestId = requestId ∧ Runs p (.ok ()) (work ++ answer c frame)) ∨
    ∃ error, Runs p (.error error) work

theorem Answers.after {p : Process Value α} {f : α → Process Value Unit} {a : α}
    {work more : List (CommandEvent Value)} (hp : Runs p (.ok a) work)
    (hf : Answers c requestId (f a) more) : Answers c requestId (p >>= f) (work ++ more) := by
  obtain ⟨frame, hid, hrun⟩ | ⟨error, hrun⟩ := hf
  · exact .inl ⟨frame, hid, by rw [append_assoc]; exact hp.bind hrun⟩
  · exact .inr ⟨error, hp.bind hrun⟩

theorem failure_answers (error : Thrown) :
    Answers c requestId (dispatchFailed c d admission source streamId requestId decision error)
      (d.failureSettles source decision) := by
  obtain ⟨settled, hsettle⟩ :=
    runs_settle admission decision .dispatchIndeterminate
  have hfact := runs_fact source .traceDispatchFailed d.failedFact
  unfold Dispatch.failureSettles
  cases hresult : factResult source .traceDispatchFailed d.failedFact with
  | ok u =>
    rw [hresult] at hfact
    exact .inl ⟨_, rfl, hfact.bind (hsettle.bind (runs_sendFrame c _))⟩
  | error thrown =>
    rw [hresult] at hfact
    exact .inr ⟨thrown, hfact.bind_error⟩

theorem Answers.handled {p : Process Value Unit} {handler : Thrown → Process Value Unit}
    {error : Thrown} {work more : List (CommandEvent Value)} (hp : Runs p (.error error) work)
    (hh : Answers c requestId (handler error) more) :
    Answers c requestId (tryCatch p handler) (work ++ more) := by
  obtain ⟨frame, hid, hrun⟩ | ⟨thrown, hrun⟩ := hh
  · exact .inl ⟨frame, hid, by rw [append_assoc]; exact hp.try_error hrun⟩
  · exact .inr ⟨thrown, hp.try_error hrun⟩

theorem Answers.caught {p : Process Value Unit} {work : List (CommandEvent Value)}
    (h : Answers c requestId p work) (text : String) : ∃ frame, frame.requestId = requestId ∧
      Runs (tryCatch p fun error =>
        sendError c .internalError (error.getD text) false (some streamId) requestId none)
        (.ok ()) (work ++ answer c frame) := by
  obtain ⟨frame, hid, hrun⟩ | ⟨error, hrun⟩ := h
  · exact ⟨frame, hid, hrun.try_ok⟩
  · exact ⟨_, rfl, hrun.try_error (runs_sendFrame c _)⟩

theorem rejected_answers {decision : AdmissionDecision} {rejection : RejectionReceipt}
    (hverdict : decision.verdict = .rejected rejection) :
    Answers c requestId (dispatchAdmitted c d admission source streamId requestId decision) [] := by
  have htrace := runs_trace source decision
    [.admission decision.admissionReceipt, .rejection rejection]
  simp only [dispatchAdmitted, hverdict]
  cases hresult : traceResult source decision
      [.admission decision.admissionReceipt, .rejection rejection] with
  | ok u =>
    rw [hresult] at htrace
    exact .inl ⟨_, rfl, htrace.bind (runs_sendFrame c _)⟩
  | error thrown =>
    rw [hresult] at htrace
    exact .inr ⟨thrown, htrace.bind_error⟩

theorem runs_succeeded {value : α} (hperform : d.perform = .ok value)
    (hresponse : ∀ receipt value, (d.response receipt value).requestId = requestId) :
    match d.traced source decision authorization with
    | .ok _ => ∃ frame, frame.requestId = requestId ∧
        Runs (dispatchSucceeded c d admission source streamId requestId decision authorization value)
          (.ok ()) (settlement decision .dispatchSucceeded ++ answer c frame)
    | .error error =>
      Runs (dispatchSucceeded c d admission source streamId requestId decision authorization value)
        (.error error) [] := by
  unfold Dispatch.traced dispatchSucceeded
  simp only [hperform]
  cases hreceipts : d.receipts decision authorization value with
  | error error => exact (runs_call _).bind_error
  | ok receipts =>
    have htrace := runs_trace source decision receipts
    simp only [Except.bind]
    cases hresult : traceResult source decision receipts with
    | error error =>
      rw [hresult] at htrace
      exact (runs_call _).bind htrace.bind_error
    | ok u =>
      rw [hresult] at htrace
      obtain ⟨settled, hsettle⟩ :=
        runs_settle admission decision .dispatchSucceeded
      refine ⟨if settled then d.response (some authorization) value
        else .error (some streamId) requestId .internalError
          "Dispatch outcome could not be recorded after execution." false none, ?_,
        (runs_call _).bind (htrace.bind (hsettle.bind ?_))⟩
      · split
        · exact hresponse _ _
        · rfl
      · cases settled with
        | true => exact runs_sendFrame c _
        | false => exact runs_sendFrame c _

theorem authorized_answers {decision : AdmissionDecision} {authorization : AuthorizationReceipt}
    {claimed : Bool} (hverdict : decision.verdict = .authorized authorization claimed)
    (hresponse : ∀ receipt value, (d.response receipt value).requestId = requestId) :
    Answers c requestId (dispatchAdmitted c d admission source streamId requestId decision)
      (.dispatched d.resolves :: d.settles source decision authorization) := by
  have hfailed := failure_answers c d admission source streamId requestId decision
  simp only [dispatchAdmitted, hverdict]
  cases hperform : d.perform with
  | error error =>
    have hcall : Runs (performDispatch d) (.error error) [.dispatched false] := by
      simp only [performDispatch, hperform]
      exact (runs_emit _).bind (runs_throw error)
    simp only [Dispatch.settles, Dispatch.resolves, hperform]
    exact .handled c requestId hcall.bind_error (hfailed error)
  | ok value =>
    have hcall : Runs (performDispatch d) (.ok value) [.dispatched true] := by
      simp only [performDispatch, hperform]
      exact (runs_emit _).bind (runs_pure value)
    have hrest := runs_succeeded c d admission source streamId requestId decision authorization
      hperform hresponse
    simp only [Dispatch.settles, Dispatch.resolves, hperform]
    cases htraced : d.traced source decision authorization with
    | ok u =>
      rw [htraced] at hrest
      obtain ⟨frame, hid, hrun⟩ := hrest
      exact .inl ⟨frame, hid, (hcall.bind hrun).try_ok⟩
    | error error =>
      rw [htraced] at hrest
      exact .handled c requestId (hcall.bind hrest) (hfailed error)

end Dispatch

section Admission

variable (c : CommandConnection AuthContext Principal Value)
variable (admission : CommandAdmission AuthContext Principal)

def acceptedDecision (kind : CommandKind) (streamId : String) (message : Json)
    (metadata : Option Json) : Option AdmissionDecision :=
  match validateGatewayCommandAdmissionConfig admission with
  | .error _ => none
  | .ok (resolvePrincipal, onDecision) =>
    match resolvePrincipal c.authenticatedAuthContext with
    | .error _ => none
    | .ok principal =>
      match admission.admitCommand
        { actorId := ((c.streams streamId).map CommandSource.address).getD streamId
          sessionId := c.connectionId, kind, message, principal, metadata } with
      | .error _ => none
      | .ok decision =>
        match onDecision decision with
        | .error _ => none
        | .ok _ => some decision

theorem runs_recordDecision (onDecision : AdmissionDecision → Except Thrown Unit)
    (actorId : String) (decision : AdmissionDecision) : match onDecision decision with
    | .ok _ => Runs (recordDecision c admission onDecision actorId decision) (.ok decision)
        [.recorded decision true]
    | .error _ => ∃ final rejection, final.verdict = .rejected rejection ∧
        Runs (recordDecision c admission onDecision actorId decision) (.ok final)
          (.recorded decision false :: settlement decision .notDispatched) := by
  unfold recordDecision
  cases onDecision decision with
  | ok u => exact .emit_bind (runs_pure decision)
  | error error =>
    obtain ⟨settled, hsettle⟩ := runs_settle admission decision .notDispatched
    exact ⟨_, _, rfl, .emit_bind hsettle.bind_pure⟩

variable (kind : CommandKind) (streamId : String) (message : Json) (metadata : Option Json)

theorem emitAdmissionDecision_cases :
    (acceptedDecision c admission kind streamId message metadata = none ∧
      ((∃ error, Runs (emitAdmissionDecision c admission kind streamId message metadata)
        (.error error) []) ∨
      (∃ decision rejection, decision.verdict = .rejected rejection ∧
        Runs (emitAdmissionDecision c admission kind streamId message metadata)
          (.ok decision) []) ∨
      ∃ admitted decision rejection, decision.verdict = .rejected rejection ∧
        Runs (emitAdmissionDecision c admission kind streamId message metadata) (.ok decision)
          (.admitted admitted :: .recorded admitted false :: settlement admitted .notDispatched))) ∨
    ∃ decision, acceptedDecision c admission kind streamId message metadata = some decision ∧
      Runs (emitAdmissionDecision c admission kind streamId message metadata) (.ok decision)
        [.admitted decision, .recorded decision true] := by
  unfold acceptedDecision emitAdmissionDecision
  cases validateGatewayCommandAdmissionConfig admission with
  | error reason => exact .inl ⟨rfl, .inr (.inl ⟨_, _, rfl, runs_pure _⟩)⟩
  | ok ports =>
    obtain ⟨resolvePrincipal, onDecision⟩ := ports
    simp only
    cases resolvePrincipal c.authenticatedAuthContext with
    | error error => exact .inl ⟨rfl, .inr (.inl ⟨_, _, rfl, runs_pure _⟩)⟩
    | ok principal =>
      simp only
      cases admission.admitCommand _ with
      | error error => exact .inl ⟨rfl, .inl ⟨error, (runs_call _).bind_error⟩⟩
      | ok decision =>
        have hrecord := runs_recordDecision c admission onDecision
          (((c.streams streamId).map CommandSource.address).getD streamId) decision
        simp only
        cases hsink : onDecision decision with
        | ok u =>
          rw [hsink] at hrecord
          exact .inr ⟨decision, rfl, .call_bind (.emit_bind hrecord)⟩
        | error error =>
          rw [hsink] at hrecord
          obtain ⟨final, rejection, hverdict, hrun⟩ := hrecord
          exact .inl ⟨rfl, .inr (.inr ⟨decision, final, rejection, hverdict,
            .call_bind (.emit_bind hrun)⟩)⟩

end Admission

section Commands

variable {α : Type} (c : CommandConnection AuthContext Principal Value) (d : Dispatch Value α)
variable (source : CommandSource Value) (streamId : String) (requestId : Option String)
variable (message : Json) (metadata : Option Json)

theorem dispatchCommand_cases {admission : CommandAdmission AuthContext Principal}
    (hadmission : c.commandAdmission = some admission)
    (hresponse : ∀ receipt value, (d.response receipt value).requestId = requestId) :
    ∃ frame work, frame.requestId = requestId ∧
      Runs (dispatchCommand c d source streamId requestId message metadata) (.ok ())
        (work ++ answer c frame) ∧
      (((∀ decision authorization claimed,
          acceptedDecision c admission d.kind streamId message metadata = some decision →
            decision.verdict ≠ .authorized authorization claimed) ∧
        (work = [] ∨
          (∃ decision rejection, decision.verdict = .rejected rejection ∧
            work = [.admitted decision, .recorded decision true]) ∨
          ∃ decision, work = .admitted decision :: .recorded decision false ::
            settlement decision .notDispatched)) ∨
      ∃ decision authorization claimed,
        acceptedDecision c admission d.kind streamId message metadata = some decision ∧
        decision.verdict = .authorized authorization claimed ∧
        work = .admitted decision :: .recorded decision true :: .dispatched d.resolves ::
          d.settles source decision authorization) := by
  unfold dispatchCommand
  simp only [hadmission]
  obtain ⟨hnone, hcases⟩ | ⟨decision, hsome, hrun⟩ :=
    emitAdmissionDecision_cases c admission d.kind streamId message metadata
  · have hnot : ∀ decision authorization claimed,
        acceptedDecision c admission d.kind streamId message metadata = some decision →
          decision.verdict ≠ .authorized authorization claimed := by
      intro decision authorization claimed hsome
      exact absurd (hnone.symm.trans hsome) (by simp)
    obtain ⟨error, hrun⟩ | ⟨decision, rejection, hverdict, hrun⟩ |
      ⟨admitted, decision, rejection, hverdict, hrun⟩ := hcases
    · obtain ⟨frame, hid, hfinal⟩ :=
        Answers.caught c streamId requestId (.inr ⟨error, hrun.bind_error⟩) d.failedText
      exact ⟨frame, [], hid, hfinal, .inl ⟨hnot, .inl rfl⟩⟩
    · obtain ⟨frame, hid, hfinal⟩ := Answers.caught c streamId requestId
        (.after c requestId hrun (rejected_answers c d admission source streamId requestId hverdict))
        d.failedText
      exact ⟨frame, [], hid, hfinal, .inl ⟨hnot, .inl rfl⟩⟩
    · obtain ⟨frame, hid, hfinal⟩ := Answers.caught c streamId requestId
        (.after c requestId hrun (rejected_answers c d admission source streamId requestId hverdict))
        d.failedText
      exact ⟨frame, _, hid, hfinal, .inl ⟨hnot, .inr (.inr ⟨admitted, append_nil _⟩)⟩⟩
  · obtain ⟨principal, commandId, receipt, verdict⟩ := decision
    cases verdict with
    | rejected rejection =>
      obtain ⟨frame, hid, hfinal⟩ := Answers.caught c streamId requestId
        (.after c requestId hrun (rejected_answers c d admission source streamId requestId rfl))
        d.failedText
      refine ⟨frame, _, hid, hfinal, .inl ⟨?_, .inr (.inl ⟨_, rejection, rfl, rfl⟩)⟩⟩
      intro decision authorization claimed hother
      rw [← some.inj (hsome.symm.trans hother)]
      simp
    | authorized authorization claimed =>
      obtain ⟨frame, hid, hfinal⟩ := Answers.caught c streamId requestId
        (.after c requestId hrun
          (authorized_answers c d admission source streamId requestId rfl hresponse))
        d.failedText
      exact ⟨frame, _, hid, hfinal, .inr ⟨_, authorization, claimed, hsome, rfl, rfl⟩⟩

end Commands

section Lifecycle

def CommandEvent.response : CommandEvent Value → Option (ResponseFrame Value)
  | .sent frame => some frame
  | _ => none

def CommandEvent.dispatch : CommandEvent Value → Option Bool
  | .dispatched resolved => some resolved
  | _ => none

def CommandEvent.settlement : CommandEvent Value → Option SettleOutcome
  | .settled outcome => some outcome
  | _ => none

def CommandEvent.claims : CommandEvent Value → Bool
  | .admitted decision =>
    match decision.verdict with
    | .authorized _ claimed => claimed
    | .rejected _ => false
  | _ => false

/-- What a claim is settled as: by the source's call, or as not dispatched without one. -/
def expectedSettlement (events : List (CommandEvent Value)) : SettleOutcome :=
  match events.filterMap CommandEvent.dispatch with
  | [] => .notDispatched
  | true :: _ => .dispatchSucceeded
  | false :: _ => .dispatchIndeterminate

/-- The life of a command: one answer with its id, at most one call of the source after an
authorized decision that the sink accepted, and one settlement of an available claim. -/
structure Lifecycle (requestId : String) (live : Bool) (events : List (CommandEvent Value)) :
    Prop where
  answered : (events.filterMap CommandEvent.response).map ResponseFrame.requestId =
    if live then [some requestId] else []
  dispatchedOnce : (events.filterMap CommandEvent.dispatch).length ≤ 1
  authorized : (events.filterMap CommandEvent.dispatch) ≠ [] →
    ∃ decision authorization claimed, decision.verdict = .authorized authorization claimed ∧
      .recorded decision true ∈ events.takeWhile fun e => e.dispatch.isNone
  settled : events.filterMap CommandEvent.settlement =
    if events.any CommandEvent.claims then [expectedSettlement events] else []

variable {α : Type} (c : CommandConnection AuthContext Principal Value) (d : Dispatch Value α)
variable (source : CommandSource Value)

/-- When the claim of an accepted decision is available, what is recorded between the call of the
source and the settlement returns. -/
def Dispatch.Recorded (streamId : String) (message : Json) (metadata : Option Json) : Prop :=
  ∀ admission decision authorization, c.commandAdmission = some admission →
    acceptedDecision c admission d.kind streamId message metadata = some decision →
    decision.verdict = .authorized authorization true →
    d.traced source decision authorization = .ok ()

section Parts

variable (frame : ResponseFrame Value)

@[simp] theorem response_answer : (answer c frame).filterMap CommandEvent.response =
    if c.live then [frame] else [] := by
  unfold answer
  split <;> rfl

@[simp] theorem dispatch_answer : (answer c frame).filterMap CommandEvent.dispatch = [] := by
  unfold answer
  split <;> rfl

@[simp] theorem settlement_answer : (answer c frame).filterMap CommandEvent.settlement = [] := by
  unfold answer
  split <;> rfl

@[simp] theorem claims_answer : (answer c frame).any CommandEvent.claims = false := by
  unfold answer
  split <;> rfl

def Settles (events : List (CommandEvent Value)) : Prop :=
  events = [] ∨ ∃ outcome, events = [.settled outcome]

theorem settles_settlement (decision : AdmissionDecision) (outcome : SettleOutcome) :
    Settles (settlement decision outcome : List (CommandEvent Value)) := by
  unfold settlement
  split
  case h_1 => exact .inr ⟨outcome, rfl⟩
  case h_2 => exact .inl rfl

theorem settles_dispatch (decision : AdmissionDecision) (authorization : AuthorizationReceipt) :
    Settles (d.settles source decision authorization) := by
  have hfailure : Settles (d.failureSettles source decision) := by
    unfold Dispatch.failureSettles
    split
    case h_1 => exact settles_settlement decision _
    case h_2 => exact .inl rfl
  unfold Dispatch.settles
  split
  case h_1 => exact settles_settlement decision _
  case h_2 => exact hfailure

variable {events : List (CommandEvent Value)}

theorem Settles.response (h : Settles events) : events.filterMap CommandEvent.response = [] := by
  obtain rfl | ⟨outcome, rfl⟩ := h <;> rfl

theorem Settles.dispatch (h : Settles events) : events.filterMap CommandEvent.dispatch = [] := by
  obtain rfl | ⟨outcome, rfl⟩ := h <;> rfl

theorem Settles.claims (h : Settles events) : events.any CommandEvent.claims = false := by
  obtain rfl | ⟨outcome, rfl⟩ := h <;> rfl

theorem settlement_settlement (decision : AdmissionDecision) (outcome : SettleOutcome) :
    (settlement decision outcome : List (CommandEvent Value)).filterMap CommandEvent.settlement =
      if (CommandEvent.admitted decision : CommandEvent Value).claims then [outcome] else [] := by
  obtain ⟨principal, commandId, receipt, verdict⟩ := decision
  cases verdict with
  | rejected rejection => rfl
  | authorized authorization claimed => cases claimed <;> rfl

end Parts

theorem response_answered {requestId : String} {frame : ResponseFrame Value}
    (hid : frame.requestId = some requestId) :
    ((answer c frame).filterMap CommandEvent.response).map ResponseFrame.requestId =
      if c.live then [some requestId] else [] := by
  rw [response_answer]
  split
  · exact congrArg (fun id => [id]) hid
  · rfl

theorem lifecycle_settled {requestId : String} {frame : ResponseFrame Value}
    (hid : frame.requestId = some requestId) (decision : AdmissionDecision) (accepted : Bool) :
    Lifecycle requestId c.live ((.admitted decision :: .recorded decision accepted ::
      settlement decision .notDispatched) ++ answer c frame) := by
  have hsettles : Settles (settlement decision .notDispatched : List (CommandEvent Value)) :=
    settles_settlement decision .notDispatched
  have hdispatch : List.filterMap CommandEvent.dispatch ((.admitted decision ::
      .recorded decision accepted :: settlement decision .notDispatched) ++ answer c frame) =
        [] := by
    change (settlement decision .notDispatched ++ answer c frame).filterMap _ = []
    rw [filterMap_append, hsettles.dispatch, dispatch_answer, append_nil]
  refine ⟨?_, ?_, fun hne => absurd hdispatch hne, ?_⟩
  · change ((settlement decision .notDispatched ++ answer c frame).filterMap _).map _ = _
    rw [filterMap_append, hsettles.response, nil_append, response_answered c hid]
  · rw [hdispatch]
    exact Nat.zero_le 1
  · have hclaims : List.any ((.admitted decision :: .recorded decision accepted ::
        settlement decision .notDispatched) ++ answer c frame) CommandEvent.claims =
          (CommandEvent.admitted decision : CommandEvent Value).claims := by
      change (_ || (false || (settlement decision .notDispatched ++ answer c frame).any _)) = _
      rw [any_append, hsettles.claims, claims_answer]
      simp
    rw [hclaims, expectedSettlement, hdispatch]
    change (settlement decision .notDispatched ++ answer c frame).filterMap _ = _
    rw [filterMap_append, settlement_settlement, settlement_answer, append_nil]

theorem lifecycle_undispatched {requestId : String} {frame : ResponseFrame Value}
    (hid : frame.requestId = some requestId) {work : List (CommandEvent Value)} (hwork : work = [] ∨
      (∃ decision rejection, decision.verdict = .rejected rejection ∧
        work = [.admitted decision, .recorded decision true]) ∨
      ∃ decision, work = .admitted decision :: .recorded decision false ::
        settlement decision .notDispatched) :
    Lifecycle requestId c.live (work ++ answer c frame) := by
  obtain rfl | ⟨decision, rejection, hverdict, rfl⟩ | ⟨decision, rfl⟩ := hwork
  · exact ⟨response_answered c hid, by simp, by simp, by simp⟩
  · have hquiet : (settlement decision .notDispatched : List (CommandEvent Value)) = [] := by
      simp only [settlement, hverdict]
    have h := lifecycle_settled c hid decision true
    rwa [hquiet] at h
  · exact lifecycle_settled c hid decision false

theorem settles_settled (decision : AdmissionDecision) (authorization : AuthorizationReceipt) :
    (d.settles source decision authorization).filterMap CommandEvent.settlement =
        (if (CommandEvent.admitted decision : CommandEvent Value).claims then
          [if d.resolves then .dispatchSucceeded else .dispatchIndeterminate] else []) ↔
      ((CommandEvent.admitted decision : CommandEvent Value).claims = true →
        d.traced source decision authorization = .ok ()) := by
  have hsettles : ∀ outcome : SettleOutcome,
      (settlement decision outcome : List (CommandEvent Value)).filterMap
        CommandEvent.settlement = if (CommandEvent.admitted decision : CommandEvent Value).claims
          then [outcome] else [] := settlement_settlement decision
  generalize (CommandEvent.admitted decision : CommandEvent Value).claims = claimed at *
  unfold Dispatch.settles Dispatch.failureSettles Dispatch.traced Dispatch.resolves
  cases d.perform with
  | ok value =>
    simp only
    cases (d.receipts decision authorization value).bind fun receipts =>
        traceResult source decision receipts with
    | ok u => simp [hsettles]
    | error error =>
      cases factResult source .traceDispatchFailed d.failedFact with
      | ok u => cases claimed <;> simp [hsettles]
      | error thrown => cases claimed <;> simp
  | error error =>
    simp only
    cases factResult source .traceDispatchFailed d.failedFact with
    | ok u => simp [hsettles]
    | error thrown => cases claimed <;> simp

theorem lifecycle_dispatched {requestId : String} {frame : ResponseFrame Value}
    (hid : frame.requestId = some requestId) {decision : AdmissionDecision}
    {authorization : AuthorizationReceipt} {claimed : Bool}
    (hverdict : decision.verdict = .authorized authorization claimed) :
    Lifecycle requestId c.live ((.admitted decision :: .recorded decision true ::
        .dispatched d.resolves :: d.settles source decision authorization) ++ answer c frame) ↔
      (claimed = true → d.traced source decision authorization = .ok ()) := by
  have hsettles := settles_dispatch d source decision authorization
  have hclaimed : (CommandEvent.admitted decision : CommandEvent Value).claims = claimed := by
    simp only [CommandEvent.claims, hverdict]
  have hsettled := settles_settled d source decision authorization
  have hdispatch : List.filterMap CommandEvent.dispatch ((.admitted decision ::
      .recorded decision true :: .dispatched d.resolves ::
        d.settles source decision authorization) ++ answer c frame) = [d.resolves] := by
    change d.resolves :: (d.settles source decision authorization ++ answer c frame).filterMap _ =
      [d.resolves]
    rw [filterMap_append, hsettles.dispatch, dispatch_answer, append_nil]
  have hclaims : List.any ((.admitted decision :: .recorded decision true ::
      .dispatched d.resolves :: d.settles source decision authorization) ++ answer c frame)
        CommandEvent.claims = (CommandEvent.admitted decision : CommandEvent Value).claims := by
    change (_ || (false || (false ||
      (d.settles source decision authorization ++ answer c frame).any _))) = _
    rw [any_append, hsettles.claims, claims_answer]
    simp
  have houtcomes : List.filterMap CommandEvent.settlement ((.admitted decision ::
      .recorded decision true :: .dispatched d.resolves ::
        d.settles source decision authorization) ++ answer c frame) =
          (d.settles source decision authorization).filterMap CommandEvent.settlement := by
    change (d.settles source decision authorization ++ answer c frame).filterMap _ = _
    rw [filterMap_append, settlement_answer, append_nil]
  have hexpected : expectedSettlement ((.admitted decision :: .recorded decision true ::
      .dispatched d.resolves :: d.settles source decision authorization) ++ answer c frame) =
        if d.resolves then .dispatchSucceeded else .dispatchIndeterminate := by
    rw [expectedSettlement, hdispatch]
    cases d.resolves <;> rfl
  rw [hclaimed] at hsettled hclaims
  constructor
  · intro h
    have h := h.settled
    rw [houtcomes, hclaims, hexpected] at h
    exact hsettled.mp h
  · intro h
    refine ⟨?_, ?_, fun _ => ⟨decision, authorization, claimed, hverdict, ?_⟩, ?_⟩
    · change ((d.settles source decision authorization ++ answer c frame).filterMap _).map _ = _
      rw [filterMap_append, hsettles.response, nil_append, response_answered c hid]
    · rw [hdispatch]
      exact Nat.le_refl 1
    · change _ ∈ [CommandEvent.admitted decision, .recorded decision true]
      exact mem_cons_of_mem _ (mem_cons_self ..)
    · rw [houtcomes, hclaims, hexpected]
      exact hsettled.mpr h

theorem lifecycle_command {admission : CommandAdmission AuthContext Principal}
    (hadmission : c.commandAdmission = some admission) (streamId : String) (message : Json)
    (metadata : Option Json) (requestId : String)
    (hresponse : ∀ receipt value, (d.response receipt value).requestId = some requestId) :
    Lifecycle requestId c.live
        (events (dispatchCommand c d source streamId (some requestId) message metadata)) ↔
      d.Recorded c source streamId message metadata := by
  obtain ⟨frame, work, hid, hrun, ⟨hnot, hwork⟩ |
    ⟨decision, authorization, claimed, haccepted, hverdict, rfl⟩⟩ :=
    dispatchCommand_cases c d source streamId (some requestId) message metadata hadmission hresponse
  · rw [hrun.events_eq]
    refine ⟨fun _ => ?_, fun _ => lifecycle_undispatched c hid hwork⟩
    intro other decision authorization hother haccepted hverdict
    obtain rfl := some.inj (hadmission.symm.trans hother)
    exact absurd hverdict (hnot decision authorization true haccepted)
  · rw [hrun.events_eq, lifecycle_dispatched c d source hid hverdict]
    constructor
    · intro h other found receipt hother hfound hreceipt
      obtain rfl := some.inj (hadmission.symm.trans hother)
      obtain rfl := some.inj (haccepted.symm.trans hfound)
      obtain ⟨rfl, rfl⟩ := Verdict.authorized.inj (hverdict.symm.trans hreceipt)
      exact h rfl
    · rintro h rfl
      exact h admission decision authorization hadmission haccepted hverdict

def CommandFrame.requestId : CommandFrame → Option Json
  | .send _ requestId _ _ | .ask _ requestId _ _ _ => requestId

def CommandFrame.message : CommandFrame → Option Json
  | .send _ _ message _ | .ask _ _ message _ _ => message

/-- When the frame is dispatched under an available claim, recording its trace returns. -/
def CommandFrame.Recorded : CommandFrame → Prop
  | .send streamId requestId message metadata =>
    ∀ id source send, commandStream c streamId (normalizeRequestId requestId) = .ok (id, source) →
      source.send = some send →
      (sendDispatch id (normalizeRequestId requestId) (message.getD .null) send).Recorded c source
        id (message.getD .null) metadata
  | .ask streamId requestId message timeoutMs metadata =>
    ∀ id source ask askId timeout,
      commandStream c streamId (normalizeRequestId requestId) = .ok (id, source) →
      source.ask = some ask → normalizeRequestId requestId = some askId →
      normalizeTimeoutMs timeoutMs = some timeout →
      (askDispatch c id askId (message.getD .null) timeout ask).Recorded c source id
        (message.getD .null) metadata

theorem lifecycle_sendFrame {requestId : String} {frame : ResponseFrame Value}
    (hid : frame.requestId = some requestId) :
    Lifecycle requestId c.live (events (sendFrame c frame)) := by
  rw [(runs_sendFrame c frame).events_eq]
  exact lifecycle_undispatched c hid (.inl rfl)

theorem commandStream_error {streamId : Option Json} {requestId : Option String}
    {frame : ResponseFrame Value} (h : commandStream c streamId requestId = .error frame) :
    frame.requestId = requestId := by
  unfold commandStream at h
  split at h
  · exact Except.error.inj h ▸ rfl
  · split at h
    · exact Except.error.inj h ▸ rfl
    · exact absurd h (by simp)

section Frames

variable {admission : CommandAdmission AuthContext Principal}
variable (hadmission : c.commandAdmission = some admission)
variable {streamId requestId message : Option Json} {id : String}
variable (hmessage : isValidMessage message = true) (hid : normalizeRequestId requestId = some id)

include hadmission hmessage hid

theorem lifecycle_send (metadata : Option Json) :
    Lifecycle id c.live (events (sendCommand c streamId requestId message metadata)) ↔
      (CommandFrame.send streamId requestId message metadata).Recorded c := by
  simp only [sendCommand, CommandFrame.Recorded, hid]
  cases hstream : commandStream c streamId (some id) with
  | error frame =>
    simp only
    exact iff_of_true (lifecycle_sendFrame c (commandStream_error c hstream)) (by simp)
  | ok found =>
    obtain ⟨stream, source⟩ := found
    simp only [hmessage, Bool.true_eq_false, if_false]
    cases hsend : source.send with
    | none =>
      refine iff_of_true (lifecycle_sendFrame c rfl) ?_
      rintro _ _ send hfound hother
      cases hfound
      exact absurd (hsend.symm.trans hother) (by simp)
    | some send =>
      simp only
      rw [lifecycle_command c _ source hadmission stream (message.getD .null) metadata id
        (fun _ _ => rfl)]
      constructor
      · rintro h _ _ other hfound hother
        cases hfound
        obtain rfl := some.inj (hsend.symm.trans hother)
        exact h
      · exact fun h => h stream source send rfl hsend

theorem lifecycle_ask (timeoutMs metadata : Option Json) :
    Lifecycle id c.live (events (askCommand c streamId requestId message timeoutMs metadata)) ↔
      (CommandFrame.ask streamId requestId message timeoutMs metadata).Recorded c := by
  simp only [askCommand, CommandFrame.Recorded, hid]
  cases hstream : commandStream c streamId (some id) with
  | error frame =>
    simp only
    exact iff_of_true (lifecycle_sendFrame c (commandStream_error c hstream)) (by simp)
  | ok found =>
    obtain ⟨stream, source⟩ := found
    simp only [hmessage, Bool.true_eq_false, if_false]
    cases htimeout : normalizeTimeoutMs timeoutMs with
    | none =>
      simp only
      exact iff_of_true (lifecycle_sendFrame c rfl) (by simp)
    | some timeout =>
      cases hask : source.ask with
      | none =>
        refine iff_of_true (lifecycle_sendFrame c rfl) ?_
        rintro _ _ ask _ _ hfound hother
        cases hfound
        exact absurd (hask.symm.trans hother) (by simp)
      | some ask =>
        simp only
        rw [lifecycle_command c _ source hadmission stream (message.getD .null) metadata id
          (fun _ _ => rfl)]
        constructor
        · rintro h _ _ other _ _ hfound hother hsame hallowed
          cases hfound
          obtain rfl := some.inj (hask.symm.trans hother)
          cases hsame
          cases hallowed
          exact h
        · exact fun h => h stream source ask id timeout rfl hask rfl rfl

end Frames

/-- A frame has its life if and only if, when it is dispatched under an available claim, what is
recorded before the settlement returns. -/
theorem lifecycle_iff {admission : CommandAdmission AuthContext Principal}
    (hadmission : c.commandAdmission = some admission) (frame : CommandFrame) {id : String}
    (hmessage : isValidMessage frame.message = true)
    (hid : normalizeRequestId frame.requestId = some id) :
    Lifecycle id c.live (events (processCommand c frame)) ↔ frame.Recorded c := by
  cases frame with
  | send streamId requestId message metadata => exact lifecycle_send c hadmission hmessage hid _
  | ask streamId requestId message timeoutMs metadata =>
    exact lifecycle_ask c hadmission hmessage hid _ _

theorem commandStream_ok {streamId : Option Json} {requestId : Option String} {id : String}
    (h : commandStream c streamId requestId = .ok (id, source)) : c.streams id = some source := by
  unfold commandStream at h
  split at h
  · exact absurd h (by simp)
  · split at h
    case h_1 => exact absurd h (by simp)
    case h_2 found hfound =>
      cases h
      exact hfound

def tracedSource (recorded : Except Thrown Unit) : CommandSource Unit :=
  { address := "actor:1"
    send := some fun _ => .ok ()
    ask := none
    trace := some ⟨fun _ => recorded, fun _ _ => recorded⟩ }

def tracedConnection (recorded : Except Thrown Unit) : CommandConnection Unit Unit Unit :=
  let base := gatewayReceiptBase "actor:1" "connection:1" "command:1" "now"
  let principal := Json.obj [("id", .str "user:1")]
  { connectionId := "connection:1"
    streams := fun streamId => if streamId = "s" then some (tracedSource recorded) else none
    authenticatedAuthContext := ()
    commandAdmission := some
      { resolvePrincipal := some .ok
        policy := true
        onDecision := some fun _ => .ok ()
        admitCommand := fun _ => .ok
          { principal
            commandId := "command:1"
            admissionReceipt :=
              ⟨base "admission" none 1, .executionAuthorized, .admitted, [.command]⟩
            verdict := .authorized ⟨base "authorization" none 2, principal, "policy:1"⟩ true }
        settle := fun _ => true }
    redact := fun _ => .ok .null
    now := "now"
    fallbackCommandId := "command:1"
    live := true }

def pingFrame : CommandFrame :=
  .send (some (.str "s")) (some (.str "r")) (some (.obj [("type", .str "PING")])) none

theorem tracedConnection_lifecycle :
    Lifecycle "r" true (events (processCommand (tracedConnection (.ok ())) pingFrame)) := by
  refine (lifecycle_iff (tracedConnection (.ok ())) rfl pingFrame (by decide +kernel)
    (by decide +kernel)).mpr ?_
  intro id source send hstream hsend _ decision authorization _ _ _
  obtain ⟨-, hsource⟩ := Option.ite_none_right_eq_some.mp (commandStream_ok _ _ hstream)
  cases hsource
  cases hsend
  rfl

/-- The source's call resolves, and recording its trace throws. -/
theorem untraced_not_lifecycle : isValidMessage pingFrame.message = true ∧
    normalizeRequestId pingFrame.requestId = some "r" ∧
    (tracedConnection (.error none)).commandAdmission.isSome ∧
    ¬ Lifecycle "r" true (events (processCommand (tracedConnection (.error none)) pingFrame)) :=
  ⟨by decide +kernel, by decide +kernel, rfl, fun h => absurd h.settled (by decide +kernel)⟩

end Lifecycle

end ActorWeb.Gateway
