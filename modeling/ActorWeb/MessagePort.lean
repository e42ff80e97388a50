import Mathlib.Logic.Function.Basic

namespace ActorWeb.MessagePort

variable {M : Type}

inductive Kind (M : Type)
  | connect
  | disconnect
  | frame (message : M)
deriving DecidableEq

structure Envelope (M : Type) where
  kind : Kind M
  (source destination : String)

/-- What subscribers are told: `connect` and `disconnect` stand for the lifecycle messages. -/
structure Event (M : Type) where
  source : String
  kind : Kind M
deriving DecidableEq

/-- A delivery under way: the subscribers still to be called, and what is posted after them. -/
structure Delivery (M : Type) where
  event : Event M
  remaining : List Nat
  after : Option (Envelope M)

/-- A subscriber was called with an event; `connected` is what `isConnected` said then. -/
structure Entry (M : Type) where
  listener : Nat
  event : Event M
  connected : Bool
deriving DecidableEq

/-- One end of the port pair. The deliveries under way are nested, the innermost first. -/
structure Transport (M : Type) where
  nodeAddress : String
  peerAddress : Option String
  listeners : List Nat
  connections : String → Bool
  deliveries : List (Delivery M)
  log : List (Entry M)
  /-- The sends that resolved, with their destinations. -/
  sent : List (String × M)

inductive Side
  | left
  | right
deriving DecidableEq

def Side.other : Side → Side
  | .left => .right
  | .right => .left

structure Pair (M : Type) where
  ends : Side → Transport M
  wire : Side → List (Envelope M)

def Pair.put (p : Pair M) (side : Side) (r : Transport M × Option (Envelope M)) : Pair M where
  ends := Function.update p.ends side r.1
  wire := Function.update p.wire side.other (p.wire side.other ++ r.2.toList)

namespace Transport

variable (t : Transport M)

def call (listener : Nat) (event : Event M) : Transport M :=
  { t with log := t.log ++ [⟨listener, event, t.connections event.source⟩] }

def setConnection (address : String) (connected : Bool) : Transport M :=
  { t with connections := Function.update t.connections address connected }

/-- `deliver` up to the return of the first subscriber. What is posted after the delivery is
posted at once when there are no subscribers. -/
def deliver (event : Event M) (after : Option (Envelope M)) :
    Transport M × Option (Envelope M) :=
  match t.listeners with
  | [] => (t, after)
  | l :: ls => ({ t.call l event with deliveries := ⟨event, ls, after⟩ :: t.deliveries }, none)

/-- The next subscriber of the innermost delivery is called, or the delivery ends. -/
def advance : Option (Transport M × Option (Envelope M)) :=
  match t.deliveries with
  | [] => none
  | ⟨event, l :: ls, after⟩ :: ds =>
    some ({ t.call l event with deliveries := ⟨event, ls, after⟩ :: ds }, none)
  | ⟨_, [], after⟩ :: ds => some ({ t with deliveries := ds }, after)

def target (address : Option String) : String :=
  (address.or t.peerAddress).getD ""

def connect (t : Transport M) (address : Option String) : Transport M × Option (Envelope M) :=
  let address := t.target address
  if address = "" then (t, none)
  else if t.connections address then (t, none)
  else
    (t.setConnection address true).deliver ⟨address, .connect⟩
      (some ⟨.connect, t.nodeAddress, address⟩)

def disconnect (t : Transport M) (address : Option String) : Transport M × Option (Envelope M) :=
  let address := t.target address
  if address = "" || !t.connections address then (t, none)
  else
    (t.setConnection address false).deliver ⟨address, .disconnect⟩
      (some ⟨.disconnect, t.nodeAddress, address⟩)

def send (destination : String) (message : M) :
    Transport M × Option (Envelope M) :=
  if !t.connections destination then (t, none)
  else
    ({ t with sent := t.sent ++ [(destination, message)] },
      some ⟨.frame message, t.nodeAddress, destination⟩)

def handleEnvelope (e : Envelope M) : Transport M × Option (Envelope M) :=
  if e.destination ≠ t.nodeAddress then (t, none)
  else
    match e.kind with
    | .connect => (t.setConnection e.source true).deliver ⟨e.source, .connect⟩ none
    | .disconnect => (t.setConnection e.source false).deliver ⟨e.source, .disconnect⟩ none
    | .frame message => t.deliver ⟨e.source, .frame message⟩ none

end Transport

inductive Action (M : Type)
  | connect (address : Option String)
  | disconnect (address : Option String)
  | send (destination : String) (message : M)
  | receive
  | advance

/-- A call may come from anywhere, also from the subscriber that is being called; the port
hands over the next envelope when no delivery is under way. -/
def step (p : Pair M) (a : Side × Action M) : Option (Pair M) :=
  let t := p.ends a.1
  match a.2 with
  | .connect address => some (p.put a.1 (t.connect address))
  | .disconnect address => some (p.put a.1 (t.disconnect address))
  | .send destination message => some (p.put a.1 (t.send destination message))
  | .receive =>
    match t.deliveries, p.wire a.1 with
    | [], e :: es =>
      some ({ p with wire := Function.update p.wire a.1 es }.put a.1 (t.handleEnvelope e))
    | _, _ => none
  | .advance => t.advance.map (p.put a.1)

def createMessagePortTransport (nodeAddress : String) (peerAddress : Option String)
    (listeners : List Nat) : Transport M where
  nodeAddress := nodeAddress
  peerAddress := peerAddress
  listeners := listeners
  connections := fun _ => false
  deliveries := []
  log := []
  sent := []

def begin (left right : Transport M) : Pair M where
  ends
    | .left => left
    | .right => right
  wire := fun _ => []

end ActorWeb.MessagePort
