import ActorWeb.JsNumber
import ActorWeb.Transition

namespace ActorWeb.RequestResponse

section Values

structure ManagerOptions where
  (defaultTimeout defaultRetries defaultRetryDelay : Option JsNumber)

structure AskOptions where
  correlationId : Option String
  (timeout retries retryDelay : Option JsNumber)

structure Request where
  correlationId : String
  (timeout retries retryDelay : JsNumber)

/-- The options of a request, where `generated` is the id of a request that is given none. -/
def resolveRequest (defaults : ManagerOptions) (options : AskOptions) (generated : String) :
    Request where
  correlationId := options.correlationId.getD generated
  timeout := options.timeout.getD (defaults.defaultTimeout.getD (.finite 5000))
  retries := options.retries.getD (defaults.defaultRetries.getD (.finite 0))
  retryDelay := options.retryDelay.getD (defaults.defaultRetryDelay.getD (.finite 1000))

inductive Outcome
  | completed | timeout | error
deriving DecidableEq

structure Pending where
  attempt : Nat
  (maxRetries retryDelay : JsNumber)

/-- The two callbacks that a request schedules: the timeout of an attempt, and the end of the
delay before an attempt. -/
inductive Callback
  | timeout (r : Request) (attempt : Nat)
  | retry (r : Request) (attempt : Nat)

def Callback.request : Callback → Request
  | .timeout r _ => r
  | .retry r _ => r

structure Timer where
  callback : Callback
  delay : JsNumber

def Timer.correlationId (t : Timer) : String := t.callback.request.correlationId

def calculateRetryDelay (baseDelay : JsNumber) (attempt : Nat) : JsNumber :=
  match baseDelay with
  | .finite q => .finite (q * 2 ^ (attempt - 1))
  | d => d

structure Stats where
  (total completed timeout error : Nat)

end Values

section Manager

/-- A manager with its timers, the promises of its requests, and what was counted for which
request. -/
structure Manager where
  pendingRequests : OrderedMap String Pending
  timeoutIds : OrderedMap String Nat
  timers : OrderedMap Nat Timer
  idCounter : Nat
  requestStats : Stats
  requests : List String
  settled : OrderedMap String Outcome
  counted : List (String × Outcome)

def Manager.new : Manager where
  pendingRequests := OrderedMap.empty
  timeoutIds := OrderedMap.empty
  timers := OrderedMap.empty
  idCounter := 0
  requestStats := ⟨0, 0, 0, 0⟩
  requests := []
  settled := OrderedMap.empty
  counted := []

variable (m : Manager)

def Manager.setTimeout (callback : Callback) (delay : JsNumber) : Manager :=
  { m with timers := m.timers.set m.idCounter { callback, delay }, idCounter := m.idCounter + 1 }

def Manager.clearTimeout (id : Nat) : Manager := { m with timers := m.timers.delete id }

def Stats.count (s : Stats) : Outcome → Stats
  | .completed => { s with completed := s.completed + 1 }
  | .timeout => { s with timeout := s.timeout + 1 }
  | .error => { s with error := s.error + 1 }

def Manager.count (correlationId : String) (o : Outcome) : Manager :=
  { m with requestStats := m.requestStats.count o, counted := m.counted ++ [(correlationId, o)] }

/-- Resolves or rejects the promise of a request, which only the first time has an effect. -/
def Manager.settle (correlationId : String) (o : Outcome) : Manager :=
  if m.settled.has correlationId then m else { m with settled := m.settled.set correlationId o }

variable (r : Request)

def Manager.executeRequest (attempt : Nat) : Manager :=
  { m.setTimeout (.timeout r attempt) r.timeout with
    pendingRequests := m.pendingRequests.set r.correlationId
      { attempt, maxRetries := r.retries, retryDelay := r.retryDelay }
    timeoutIds := m.timeoutIds.set r.correlationId m.idCounter }

def Request.retries? (attempt : Nat) : Bool :=
  JsNumber.lt (.finite attempt) r.retries

def Manager.attemptTimeout (attempt : Nat) : Manager :=
  let deleted := { m with pendingRequests := m.pendingRequests.delete r.correlationId }
  if r.retries? attempt then
    { deleted.setTimeout (.retry r (attempt + 1)) (calculateRetryDelay r.retryDelay attempt) with
      pendingRequests := deleted.pendingRequests.set r.correlationId
        { attempt := attempt + 1, maxRetries := r.retries, retryDelay := r.retryDelay } }
  else (deleted.count r.correlationId .timeout).settle r.correlationId .timeout

def Manager.call : Callback → Manager
  | .timeout r attempt => m.attemptTimeout r attempt
  | .retry r attempt => m.executeRequest r attempt

def Manager.createRequest : Manager :=
  { m with
    requestStats := { m.requestStats with total := m.requestStats.total + 1 }
    requests := m.requests ++ [r.correlationId] }.executeRequest r 1

def Manager.handle (o : Outcome) (correlationId : String) : Manager :=
  match m.pendingRequests.get correlationId with
  | none => m
  | some _ =>
    let cleared := match m.timeoutIds.get correlationId with
      | some id => m.clearTimeout id
      | none => m
    let counted := cleared.count correlationId o
    { counted with
      pendingRequests := counted.pendingRequests.delete correlationId
      timeoutIds := counted.timeoutIds.delete correlationId }.settle correlationId o

def Manager.handleResponse (correlationId : String) : Manager := m.handle .completed correlationId

def Manager.handleError (correlationId : String) : Manager := m.handle .error correlationId

end Manager

section Runs

inductive Action
  | create (defaults : ManagerOptions) (options : AskOptions) (generated : String)
  | respond (correlationId : String)
  | fail (correlationId : String)
  | fire (id : Nat)

/-- A request has an id that none had before; a timer fires when it is armed, and is forgotten
after its callback. -/
def Manager.step (m : Manager) : Action → Option Manager
  | .create defaults options generated =>
    let r := resolveRequest defaults options generated
    if r.correlationId ∈ m.requests then none else some (m.createRequest r)
  | .respond correlationId => some (m.handleResponse correlationId)
  | .fail correlationId => some (m.handleError correlationId)
  | .fire id =>
    (m.timers.get id).map fun t =>
      { m.call t.callback with timers := (m.call t.callback).timers.delete id }

end Runs

end ActorWeb.RequestResponse
