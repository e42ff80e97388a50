import ActorWeb.Channel
import ActorWeb.TopologyEdges
import ActorWeb.Transition

namespace ActorWeb

open List

/-- An intent object of `sendTopologySubscribe`; `id` is its identity. -/
structure TopologyIntent (Path EventType : Type) where
  id : Nat
  (publisherPath subscriberPath : Path)
  events : Option (List EventType)
deriving DecidableEq

inductive TopologyFrame (Path EventType : Type)
  | subscribe (publisherPath subscriberPath : Path) (events : Option (List EventType))
  | unsubscribe (publisherPath subscriberPath : Path)

inductive PublisherInput (Node Path EventType : Type)
  | frame (source : Node) (frame : TopologyFrame Path EventType)
  | disconnected (nodeAddress : Node)

/-- A disposer closes over the intent and over the set that held it. -/
structure TopologyDisposer (Path EventType : Type) where
  intent : TopologyIntent Path EventType
  intents : Nat

/-- A subscriber node, a publisher node and the link between them. The set objects
are cells of `sets`; `outbound` is the entry of `outboundTopologySubscriptions`
at the publisher node. -/
structure TopologyPair (Node Path EventType : Type) where
  subscriberNode : Node
  disposers : List (TopologyDisposer Path EventType)
  disposed : List Nat
  sets : Nat → List (TopologyIntent Path EventType)
  nextSet : Nat
  outbound : Option Nat
  (connected replayed : Bool)
  link : Channel (TopologyFrame Path EventType)
  edges : TopologyRemoteSubscribers Node Path EventType

namespace TopologyPair

open TopologyEdges Transition Function

variable {Node Path EventType : Type}

def start (subscriberNode : Node) : TopologyPair Node Path EventType :=
  { subscriberNode
    disposers := []
    disposed := []
    sets := fun _ => []
    nextSet := 0
    outbound := none
    connected := false
    replayed := false
    link := Channel.empty
    edges := OrderedMap.empty }

section Subscriber

variable (s : TopologyPair Node Path EventType)

/-- `sendTransportMessage` to the publisher node; the rejection of a send to a peer
that is not connected is caught by every caller. -/
def sendTransportMessage (frame : TopologyFrame Path EventType) : TopologyPair Node Path EventType :=
  if s.connected then { s with link := s.link.send frame } else s

def sendTopologySubscribe (publisherPath subscriberPath : Path)
    (events : Option (List EventType)) : TopologyPair Node Path EventType :=
  let (intents, nextSet) := match s.outbound with
    | some intents => (intents, s.nextSet)
    | none => (s.nextSet, s.nextSet + 1)
  let intent : TopologyIntent Path EventType :=
    ⟨s.disposers.length, publisherPath, subscriberPath, events⟩
  let added : TopologyPair Node Path EventType := { s with
    disposers := s.disposers ++ [⟨intent, intents⟩]
    sets := update s.sets intents (s.sets intents ++ [intent])
    nextSet := nextSet
    outbound := some intents }
  added.sendTransportMessage (.subscribe publisherPath subscriberPath events)

def dispose (d : TopologyDisposer Path EventType) : TopologyPair Node Path EventType :=
  let remaining := (s.sets d.intents).filter fun i => i.id ≠ d.intent.id
  let removed : TopologyPair Node Path EventType := { s with
    disposed := d.intent.id :: s.disposed
    sets := update s.sets d.intents remaining
    outbound := if remaining.isEmpty then none else s.outbound }
  removed.sendTransportMessage (.unsubscribe d.intent.publisherPath d.intent.subscriberPath)

/-- The intents that `outboundTopologySubscriptions` holds for the publisher node. -/
def outboundIntents : List (TopologyIntent Path EventType) :=
  match s.outbound with
  | none => []
  | some intents => s.sets intents

/-- The end of a handling of `__runtime.transport.connected` whose directory sync succeeded. -/
def replayOutboundTopologySubscriptions : TopologyPair Node Path EventType :=
  let sent := s.outboundIntents.foldl
    (fun s i => s.sendTransportMessage (.subscribe i.publisherPath i.subscriberPath i.events)) s
  { sent with replayed := s.connected }

end Subscriber

def live (s : TopologyPair Node Path EventType) : List (TopologyIntent Path EventType) :=
  (s.disposers.map TopologyDisposer.intent).filter fun i => i.id ∉ s.disposed

/-- Connected, the handling of the connection has ended with its replay and nothing is
on the way. -/
structure Quiescent (s : TopologyPair Node Path EventType) : Prop where
  connected : s.connected = true
  replayed : s.replayed = true
  link : s.link.pending = []

section Live

variable {s t : TopologyPair Node Path EventType} {frame : TopologyFrame Path EventType}

theorem send_of_connected (h : s.connected = true) :
    s.sendTransportMessage frame = { s with link := s.link.send frame } := if_pos h

theorem send_of_disconnected (h : s.connected = false) : s.sendTransportMessage frame = s :=
  if_neg (h ▸ Bool.false_ne_true)

@[simp] theorem send_disposers (s : TopologyPair Node Path EventType) :
    (s.sendTransportMessage frame).disposers = s.disposers := by
  unfold sendTransportMessage
  split <;> rfl

@[simp] theorem send_disposed (s : TopologyPair Node Path EventType) :
    (s.sendTransportMessage frame).disposed = s.disposed := by
  unfold sendTransportMessage
  split <;> rfl

@[simp] theorem send_sets (s : TopologyPair Node Path EventType) :
    (s.sendTransportMessage frame).sets = s.sets := by
  unfold sendTransportMessage
  split <;> rfl

@[simp] theorem send_outbound (s : TopologyPair Node Path EventType) :
    (s.sendTransportMessage frame).outbound = s.outbound := by
  unfold sendTransportMessage
  split <;> rfl

@[simp] theorem send_connected (s : TopologyPair Node Path EventType) :
    (s.sendTransportMessage frame).connected = s.connected := by
  unfold sendTransportMessage
  split <;> rfl

@[simp] theorem send_replayed (s : TopologyPair Node Path EventType) :
    (s.sendTransportMessage frame).replayed = s.replayed := by
  unfold sendTransportMessage
  split <;> rfl

theorem live_append {intent : TopologyIntent Path EventType} {intents : Nat}
    (hdisposers : t.disposers = s.disposers ++ [⟨intent, intents⟩])
    (hdisposed : t.disposed = s.disposed) (hfresh : intent.id ∉ s.disposed) :
    t.live = s.live ++ [intent] := by
  simp [live, hdisposers, hdisposed, hfresh]

theorem live_cons {i : Nat} (hdisposers : t.disposers = s.disposers)
    (hdisposed : t.disposed = i :: s.disposed) :
    t.live = s.live.filter fun intent => intent.id ≠ i := by
  simp only [live, hdisposers, hdisposed, filter_filter, mem_cons, not_or,
    Bool.decide_and]

end Live

variable [DecidableEq Path]

def isBetween (publisherPath subscriberPath : Path) (i : TopologyIntent Path EventType) : Bool :=
  i.publisherPath = publisherPath ∧ i.subscriberPath = subscriberPath

def latest (s : TopologyPair Node Path EventType) (publisherPath subscriberPath : Path) :
    Option (TopologyIntent Path EventType) :=
  (s.live.filter (isBetween publisherPath subscriberPath)).getLast?

def latestFilters (s : TopologyPair Node Path EventType) (p q : Path) :
    List (Option (List EventType)) :=
  (s.latest p q).toList.map TopologyIntent.events

section Latest

variable {s t : TopologyPair Node Path EventType} {p q : Path}

theorem latestFilters_append {intent : TopologyIntent Path EventType}
    (h : t.live = s.live ++ [intent]) : t.latestFilters p q =
      if p = intent.publisherPath ∧ q = intent.subscriberPath then [intent.events]
      else s.latestFilters p q := by
  simp only [latestFilters, latest, h, filter_append]
  split
  case isTrue hpair => simp [isBetween, hpair]
  case isFalse hpair =>
    have hne : isBetween p q intent = false := by
      simp only [isBetween, decide_eq_false_iff_not]
      exact fun h => hpair ⟨h.1.symm, h.2.symm⟩
    simp [hne]

theorem latestFilters_filter {intent : TopologyIntent Path EventType}
    (h : t.live = s.live.filter fun i => i.id ≠ intent.id)
    (hsame : ∀ i ∈ s.live, i.id = intent.id → i = intent) (hother : ∀ i ∈ s.live, i.id ≠ intent.id →
      ¬(i.publisherPath = intent.publisherPath ∧ i.subscriberPath = intent.subscriberPath)) :
    t.latestFilters p q =
      if p = intent.publisherPath ∧ q = intent.subscriberPath then [] else s.latestFilters p q := by
  simp only [latestFilters, latest, h, filter_filter]
  split
  case isTrue hpair =>
    have hnone : (s.live.filter fun i => isBetween p q i && decide (i.id ≠ intent.id)) = [] := by
      refine filter_eq_nil_iff.mpr fun i hi hfound => ?_
      simp only [isBetween, hpair, Bool.and_eq_true, decide_eq_true_eq] at hfound
      exact hother i hi hfound.2 hfound.1
    rw [hnone]
    rfl
  case isFalse hpair =>
    congr 3
    refine filter_congr fun i hi => ?_
    by_cases hid : i.id = intent.id
    · obtain rfl := hsame i hi hid
      have hne : isBetween p q i = false := by
        simp only [isBetween, decide_eq_false_iff_not]
        exact fun h => hpair ⟨h.1.symm, h.2.symm⟩
      rw [hne, Bool.false_and]
    · simp only [ne_eq, hid, not_false_eq_true, decide_true, Bool.and_true]

end Latest

variable [DecidableEq Node]

def handle (edges : TopologyRemoteSubscribers Node Path EventType) :
    PublisherInput Node Path EventType → TopologyRemoteSubscribers Node Path EventType
  | .frame source (.subscribe publisherPath subscriberPath events) =>
    registerTopologyRemoteSubscriber edges publisherPath source subscriberPath events
  | .frame source (.unsubscribe publisherPath subscriberPath) =>
    removeTopologyRemoteSubscriber edges publisherPath source subscriberPath
  | .disconnected nodeAddress => removeTopologyRemoteSubscribersForNode edges nodeAddress

def inputOf (node : Node) : Option (TopologyFrame Path EventType) →
    PublisherInput Node Path EventType
  | some frame => .frame node frame
  | none => .disconnected node

/-- `disconnect n` ends the connection when `n` of the frames in flight still arrive;
`other` is what another node's link hands to the publisher. -/
inductive Action (Node Path EventType : Type)
  | subscribe (publisherPath subscriberPath : Path) (events : Option (List EventType))
  | dispose (i : Nat)
  | connect
  | disconnect (n : Nat)
  | replay
  | deliver
  | other (source : Node) (frame : Option (TopologyFrame Path EventType))

def step (s : TopologyPair Node Path EventType) :
    Action Node Path EventType → Option (TopologyPair Node Path EventType)
  | .subscribe publisherPath subscriberPath events =>
    some (s.sendTopologySubscribe publisherPath subscriberPath events)
  | .dispose i => s.disposers[i]?.map s.dispose
  | .connect => if s.connected then none else some { s with connected := true, replayed := false }
  | .disconnect n =>
    if s.connected then
      some { s with
        connected := false
        replayed := false
        link := s.link.close n }
    else none
  | .replay => some s.replayOutboundTopologySubscriptions
  | .deliver =>
    s.link.receive.map fun (input, link) =>
      { s with link, edges := handle s.edges (inputOf s.subscriberNode input) }
  | .other source frame =>
    if source = s.subscriberNode then none
    else
      some { s with
        edges := handle s.edges (inputOf source frame) }

def Forwards [DecidableEq EventType] (s : TopologyPair Node Path EventType)
    (publisherPath subscriberPath : Path) (eventType : EventType) : Prop :=
  (s.subscriberNode, subscriberPath) ∈ matchTopologyRemoteSubscribers s.edges publisherPath eventType

section Arriving

variable {s : TopologyPair Node Path EventType} {node : Node}
  {edges : TopologyRemoteSubscribers Node Path EventType}
  {inputs : List (PublisherInput Node Path EventType)} {p q : Path}

/-- What an input makes of the filters registered for one publisher and one subscriber. -/
def registered (node : Node) (p q : Path) (filters : List (Option (List EventType))) :
    PublisherInput Node Path EventType → List (Option (List EventType))
  | .frame source (.subscribe publisherPath subscriberPath events) =>
    if node = source ∧ p = publisherPath ∧ q = subscriberPath then [events] else filters
  | .frame source (.unsubscribe publisherPath subscriberPath) =>
    if node = source ∧ p = publisherPath ∧ q = subscriberPath then [] else filters
  | .disconnected nodeAddress => if node = nodeAddress then [] else filters

theorem filtersFor_handle (input : PublisherInput Node Path EventType) :
    filtersFor (handle edges input) node p q = registered node p q (filtersFor edges node p q) input := by
  cases input with
  | frame source frame =>
    cases frame with
    | subscribe publisherPath subscriberPath events => exact filtersFor_register
    | unsubscribe publisherPath subscriberPath => exact filtersFor_remove
  | disconnected nodeAddress => exact filtersFor_removeForNode

/-- The filters registered for a publisher and a subscriber once everything on the way is handled. -/
def arriving (s : TopologyPair Node Path EventType) (p q : Path) : List (Option (List EventType)) :=
  (s.link.pending.map (inputOf s.subscriberNode)).foldl (registered s.subscriberNode p q)
    (filtersFor s.edges s.subscriberNode p q)

theorem arriving_deliver {input : Option (TopologyFrame Path EventType)}
    {link : Channel (TopologyFrame Path EventType)} (h : s.link.receive = some (input, link)) :
    arriving { s with link, edges := handle s.edges (inputOf s.subscriberNode input) } p q =
      s.arriving p q := by
  simp only [arriving, Channel.receive_pending h, map_cons, foldl_cons, filtersFor_handle]

theorem arriving_other {source : Node} (hsource : source ≠ s.subscriberNode)
    (frame : Option (TopologyFrame Path EventType)) :
    arriving { s with edges := handle s.edges (inputOf source frame) } p q =
      s.arriving p q := by
  have hne : s.subscriberNode ≠ source := Ne.symm hsource
  simp only [arriving, filtersFor_handle]
  congr 1
  cases frame with
  | none => exact if_neg hne
  | some frame => cases frame <;> exact if_neg fun h => hne h.1

theorem arriving_close (n : Nat) (filters : List (Option (List EventType))) :
    ((s.link.close n).pending.map (inputOf s.subscriberNode)).foldl
      (registered s.subscriberNode p q) filters = [] := by
  obtain ⟨kept, lost, -, hclose⟩ := s.link.close_pending n
  rw [hclose, map_append, foldl_append]
  exact if_pos rfl

theorem arriving_send {frame : TopologyFrame Path EventType} (h : s.connected = true) :
    (s.sendTransportMessage frame).arriving p q =
      registered s.subscriberNode p q (s.arriving p q) (.frame s.subscriberNode frame) := by
  rw [send_of_connected h]
  simp only [arriving, Channel.pending_send, map_append, foldl_append]
  rfl

theorem foldl_subscribe (node : Node) (intents : List (TopologyIntent Path EventType))
    (filters : List (Option (List EventType))) : (intents.map fun i => PublisherInput.frame node
        (.subscribe i.publisherPath i.subscriberPath i.events)).foldl (registered node p q) filters =
      if intents.filter (isBetween p q) = [] then filters
      else (intents.filter (isBetween p q)).getLast?.toList.map TopologyIntent.events := by
  induction intents generalizing filters with
  | nil => rfl
  | cons i intents ih =>
    simp only [map_cons, foldl_cons, ih, registered, true_and]
    by_cases hpair : p = i.publisherPath ∧ q = i.subscriberPath
    · have hbetween : isBetween p q i = true := by simp [isBetween, hpair]
      rw [if_pos hpair, filter_cons_of_pos hbetween, if_neg (cons_ne_nil _ _)]
      split
      case isTrue hnil => rw [hnil]; rfl
      case isFalse hcons =>
        rw [getLast?_cons, getLast?_eq_some_getLast hcons]
        rfl
    · have hbetween : isBetween p q i = false := by
        simp only [isBetween, decide_eq_false_iff_not]
        exact fun h => hpair ⟨h.1.symm, h.2.symm⟩
      rw [if_neg hpair, filter_cons_of_neg (by simp [hbetween])]

end Arriving

end TopologyPair

end ActorWeb
