import ActorWeb.OrderedMap

namespace ActorWeb

open List

/-- An edge of a publisher node: what a subscriber on another node listens to. -/
structure TopologyEdge (Node Path EventType : Type) where
  node : Node
  subscriberPath : Path
  events : Option (List EventType)

abbrev TopologyRemoteSubscribers (Node Path EventType : Type) :=
  OrderedMap Path (List (TopologyEdge Node Path EventType))

namespace TopologyEdges

variable {Node Path EventType : Type} [DecidableEq Path]

def passes [DecidableEq EventType] (events : Option (List EventType)) (eventType : EventType) :
    Bool :=
  match events with
  | none => true
  | some types => types.isEmpty || types.contains eventType

def edgesAt (edges : TopologyRemoteSubscribers Node Path EventType) (publisherPath : Path) :
    List (TopologyEdge Node Path EventType) :=
  (edges.get publisherPath).getD []

theorem edgesAt_set (edges : TopologyRemoteSubscribers Node Path EventType) (p q : Path)
    (existing : List (TopologyEdge Node Path EventType)) :
    edgesAt (edges.set p existing) q = if q = p then existing else edgesAt edges q := by
  simp only [edgesAt, OrderedMap.get_set]
  split <;> rfl

theorem edgesAt_remove (edges : TopologyRemoteSubscribers Node Path EventType) (p q : Path)
    (existing : List (TopologyEdge Node Path EventType)) :
    edgesAt (if existing.isEmpty then edges.delete p else edges.set p existing) q =
      if q = p then existing else edgesAt edges q := by
  split
  case isTrue hempty =>
    simp only [edgesAt, OrderedMap.get_delete, List.isEmpty_iff.mp hempty]
    split <;> rfl
  case isFalse => exact edgesAt_set edges p q existing

variable [DecidableEq Node]

def isFor (node : Node) (subscriberPath : Path) (e : TopologyEdge Node Path EventType) : Bool :=
  e.node = node ∧ e.subscriberPath = subscriberPath

variable (edges : TopologyRemoteSubscribers Node Path EventType)

def registerTopologyRemoteSubscriber (publisherPath : Path) (subscriberNode : Node)
    (subscriberPath : Path) (events : Option (List EventType)) :
    TopologyRemoteSubscribers Node Path EventType :=
  edges.set publisherPath
    ((edgesAt edges publisherPath).filter (fun e => !isFor subscriberNode subscriberPath e) ++
      [⟨subscriberNode, subscriberPath, events⟩])

def removeTopologyRemoteSubscriber (publisherPath : Path) (subscriberNode : Node)
    (subscriberPath : Path) : TopologyRemoteSubscribers Node Path EventType :=
  match edges.get publisherPath with
  | none => edges
  | some existing =>
    let remaining := existing.filter fun e => !isFor subscriberNode subscriberPath e
    if remaining.isEmpty then edges.delete publisherPath else edges.set publisherPath remaining

def removeTopologyRemoteSubscribersForNode (node : Node) :
    TopologyRemoteSubscribers Node Path EventType :=
  (edges.mapValues fun existing => existing.filter fun e => e.node ≠ node).filter
    fun _ remaining => !remaining.isEmpty

/-- The edges that an event goes out on, as pairs of a node and a subscriber there. -/
def matchTopologyRemoteSubscribers [DecidableEq EventType] (publisherPath : Path)
    (eventType : EventType) : List (Node × Path) :=
  ((edgesAt edges publisherPath).filter fun e => passes e.events eventType).map fun e =>
    (e.node, e.subscriberPath)

def filtersFor (node : Node) (publisherPath subscriberPath : Path) :
    List (Option (List EventType)) :=
  ((edgesAt edges publisherPath).filter (isFor node subscriberPath)).map TopologyEdge.events

variable {edges} {node source : Node} {publisherPath subscriberPath p q : Path}
  {events : Option (List EventType)} {eventType : EventType}

theorem edgesAt_removeTopologyRemoteSubscriber :
    edgesAt (removeTopologyRemoteSubscriber edges p source subscriberPath) q =
      if q = p then (edgesAt edges p).filter fun e => !isFor source subscriberPath e
      else edgesAt edges q := by
  unfold removeTopologyRemoteSubscriber
  split
  case h_1 hnone =>
    split
    case isTrue h => simp [h, edgesAt, hnone]
    case isFalse => rfl
  case h_2 existing hsome =>
    rw [edgesAt_remove]
    simp only [edgesAt, hsome, Option.getD_some]

theorem edgesAt_removeTopologyRemoteSubscribersForNode :
    edgesAt (removeTopologyRemoteSubscribersForNode edges node) q =
      (edgesAt edges q).filter fun e => e.node ≠ node := by
  simp only [edgesAt, removeTopologyRemoteSubscribersForNode, OrderedMap.get_filter,
    OrderedMap.get_mapValues]
  cases edges.get q with
  | none => rfl
  | some existing =>
    simp only [Option.map_some, Option.filter_some, Option.getD_some]
    split
    case isTrue => rfl
    case isFalse hempty =>
      simp only [Bool.not_eq_true', Bool.not_eq_false, List.isEmpty_iff] at hempty
      rw [hempty, Option.getD_none]

theorem filter_isFor_of_ne {l : List (TopologyEdge Node Path EventType)}
    (h : ¬(node = source ∧ subscriberPath = p)) :
    (l.filter fun e => !isFor source p e).filter (isFor node subscriberPath) =
      l.filter (isFor node subscriberPath) := by
  rw [filter_filter]
  refine filter_congr fun e _ => ?_
  by_cases he : isFor node subscriberPath e
  · simp only [isFor, decide_eq_true_eq] at he
    simp only [isFor, he.1, he.2, h, decide_false, Bool.not_false, and_self, decide_true,
      Bool.and_self]
  · simp only [he, Bool.false_and]

theorem filter_isFor_self (l : List (TopologyEdge Node Path EventType)) :
    (l.filter fun e => !isFor node subscriberPath e).filter (isFor node subscriberPath) = [] := by
  simp [filter_filter]

theorem filtersFor_register :
    filtersFor (registerTopologyRemoteSubscriber edges p source q events) node publisherPath
        subscriberPath =
      if node = source ∧ publisherPath = p ∧ subscriberPath = q then [events]
      else filtersFor edges node publisherPath subscriberPath := by
  simp only [filtersFor, registerTopologyRemoteSubscriber, edgesAt_set]
  by_cases hp : publisherPath = p
  · by_cases hs : node = source ∧ subscriberPath = q
    · obtain ⟨rfl, rfl⟩ := hs
      simp only [hp, if_true, and_self, filter_append, filter_isFor_self, nil_append]
      simp [isFor]
    · have hother : ¬(node = source ∧ publisherPath = p ∧ subscriberPath = q) :=
        fun h => hs ⟨h.1, h.2.2⟩
      have hnew : isFor node subscriberPath
          (⟨source, q, events⟩ : TopologyEdge Node Path EventType) = false := by
        simp only [isFor, decide_eq_false_iff_not]
        exact fun h => hs ⟨h.1.symm, h.2.symm⟩
      rw [if_pos hp, if_neg hother, filter_append, filter_isFor_of_ne hs, hp]
      simp [hnew]
  · have hother : ¬(node = source ∧ publisherPath = p ∧ subscriberPath = q) := fun h => hp h.2.1
    rw [if_neg hp, if_neg hother]

theorem filtersFor_remove :
    filtersFor (removeTopologyRemoteSubscriber edges p source q) node publisherPath
        subscriberPath =
      if node = source ∧ publisherPath = p ∧ subscriberPath = q then []
      else filtersFor edges node publisherPath subscriberPath := by
  simp only [filtersFor, edgesAt_removeTopologyRemoteSubscriber]
  by_cases hp : publisherPath = p
  · by_cases hs : node = source ∧ subscriberPath = q
    · obtain ⟨rfl, rfl⟩ := hs
      simp only [hp, if_true, and_self, filter_isFor_self, map_nil]
    · have hother : ¬(node = source ∧ publisherPath = p ∧ subscriberPath = q) :=
        fun h => hs ⟨h.1, h.2.2⟩
      rw [if_pos hp, if_neg hother, filter_isFor_of_ne hs, hp]
  · have hother : ¬(node = source ∧ publisherPath = p ∧ subscriberPath = q) := fun h => hp h.2.1
    rw [if_neg hp, if_neg hother]

theorem filtersFor_removeForNode :
    filtersFor (removeTopologyRemoteSubscribersForNode edges source) node publisherPath
        subscriberPath =
      if node = source then [] else filtersFor edges node publisherPath subscriberPath := by
  simp only [filtersFor, edgesAt_removeTopologyRemoteSubscribersForNode, filter_filter]
  split
  case isTrue h =>
    rw [map_eq_nil_iff, filter_eq_nil_iff]
    rintro e - he
    simp only [isFor, Bool.and_eq_true, decide_eq_true_eq, h] at he
    exact he.2 he.1.1
  case isFalse h =>
    congr 1
    refine filter_congr fun e _ => ?_
    by_cases he : isFor node subscriberPath e
    · simp only [isFor, decide_eq_true_eq] at he
      simp [isFor, he, h]
    · simp only [he, Bool.false_and]

theorem mem_match_iff [DecidableEq EventType] :
    (node, subscriberPath) ∈ matchTopologyRemoteSubscribers edges publisherPath eventType ↔
      ∃ events ∈ filtersFor edges node publisherPath subscriberPath, passes events eventType := by
  simp only [matchTopologyRemoteSubscribers, filtersFor, mem_map, mem_filter, isFor,
    Prod.mk.injEq, decide_eq_true_eq]
  constructor
  · rintro ⟨e, ⟨he, hpass⟩, hnode, hpath⟩
    exact ⟨e.events, ⟨e, ⟨he, hnode, hpath⟩, rfl⟩, hpass⟩
  · rintro ⟨_, ⟨e, ⟨he, hnode, hpath⟩, rfl⟩, hpass⟩
    exact ⟨e, ⟨he, hpass⟩, hnode, hpath⟩

end TopologyEdges

end ActorWeb
