import ActorWeb.JsText
import ActorWeb.OrderedMap

namespace ActorWeb.TransportContract

structure RuntimeNodeIdentity where
  (nodeAddress nodeId incarnation : String)
deriving DecidableEq

def isSameRuntimeNodeIdentity (left right : RuntimeNodeIdentity) : Bool :=
  left.nodeId = right.nodeId && left.incarnation = right.incarnation

structure ActorMessage where
  (type body : String)
deriving DecidableEq

structure RuntimeTransportFrame where
  (source destination : RuntimeNodeIdentity)
  messageId : String
  sequence : Nat
  message : ActorMessage
deriving DecidableEq

variable (source destination : RuntimeNodeIdentity)

def createRuntimeTransportMessageId (sequence : Nat) : String :=
  ":".intercalate [source.nodeAddress, source.incarnation, destination.nodeAddress, toString sequence]

theorem createRuntimeTransportMessageId_eq (n : Nat) :
    createRuntimeTransportMessageId source destination n =
      source.nodeAddress ++ ":" ++ source.incarnation ++ ":" ++ destination.nodeAddress ++ ":" ++ n.repr := rfl

theorem messageId_inj {source destination destination' : RuntimeNodeIdentity} {n n' : Nat}
    (h : createRuntimeTransportMessageId source destination n =
      createRuntimeTransportMessageId source destination' n') :
    destination.nodeAddress = destination'.nodeAddress ∧ n = n' := by
  have hstart : source.nodeAddress ++ ":" ++ source.incarnation ++ ":" ++
      (destination.nodeAddress ++ (":" ++ n.repr)) = source.nodeAddress ++ ":" ++ source.incarnation ++ ":" ++
      (destination'.nodeAddress ++ (":" ++ n'.repr)) := by
    simpa only [createRuntimeTransportMessageId_eq, String.append_assoc] using h
  have hend : destination.nodeAddress.toList ++ ':' :: Nat.toDigits 10 n =
      destination'.nodeAddress.toList ++ ':' :: Nat.toDigits 10 n' := by
    simpa using congrArg String.toList ((String.append_right_inj _).mp hstart)
  have hdigits (m : Nat) : ':' ∉ Nat.toDigits 10 m := fun hm => by
    simpa using Nat.isDigit_of_mem_toDigits (by decide) (by decide) hm
  -- the number holds no colon, so both ids split at the same colon
  obtain ⟨haddress, hnumber⟩ := JsText.split_at_last hend (hdigits n) (hdigits n')
  exact ⟨String.toList_inj.mp haddress,
    JsText.toString_injective (String.toList_inj.mp (by simpa using hnumber))⟩

def createRuntimeTransportFrame (sequence : Nat)
    (message : ActorMessage) : RuntimeTransportFrame where
  source := source
  destination := destination
  messageId := createRuntimeTransportMessageId source destination sequence
  sequence := sequence
  message := message

inductive DropCode
  | malformedFrame
  | incompatibleProtocol
  | idempotencyProviderError

/-- What a link delivers, with the payloads whose form is already wrong as one case. -/
inductive Payload
  | invalid (code : DropCode)
  | heartbeat (ping : Bool) (source destination : RuntimeNodeIdentity)
  | ack (source destination : RuntimeNodeIdentity) (messageId : String) (sequence : Nat)
  | frame (frame : RuntimeTransportFrame)

def isRetryableRuntimeFrame (frame : RuntimeTransportFrame) : Bool :=
  "__runtime.".toList.isPrefixOf frame.message.type.toList

def createRuntimeTransportIdempotencyScope (localNode peerNode : RuntimeNodeIdentity) : String :=
  ":".intercalate ["runtime-transport", "local", localNode.nodeAddress, localNode.nodeId, "peer",
    peerNode.nodeAddress, peerNode.nodeId]

def idempotencyKey (localNode peerNode : RuntimeNodeIdentity) (frame : RuntimeTransportFrame) : String :=
  createRuntimeTransportIdempotencyScope localNode peerNode ++ ":message:" ++ frame.messageId

structure FrontCache where
  limit : Int
  messageIds : List String := []
  messageIdSet : List String := []

def FrontCache.has (c : FrontCache) (messageId : String) : Bool :=
  0 < c.limit && messageId ∈ c.messageIdSet

/-- Drop the oldest ids until the limit is kept; an empty id is dropped silently. -/
def FrontCache.evict (c : FrontCache) (evicted : List String) : List String → FrontCache × List String
  | [] => ({ c with messageIds := [] }, evicted)
  | id :: ids =>
    if c.limit < (id :: ids).length then
      if id = "" then evict c evicted ids
      else evict { c with messageIdSet := c.messageIdSet.filter (· ≠ id) } (evicted ++ [id]) ids
    else ({ c with messageIds := id :: ids }, evicted)

def FrontCache.remember (c : FrontCache) (messageId : String) : FrontCache × List String :=
  if c.limit ≤ 0 then (c, [])
  else
    FrontCache.evict { c with messageIdSet := c.messageIdSet.insert messageId } []
      (c.messageIds ++ [messageId])

theorem FrontCache.has_of_evict {c : FrontCache} {evicted ids : List String} {id : String}
    (h : (FrontCache.evict c evicted ids).1.has id = true) : c.has id = true := by
  induction ids generalizing c evicted with
  | nil => exact h
  | cons id' ids ih =>
    unfold FrontCache.evict at h
    split at h
    · split at h
      · exact ih h
      · have hshrunk := ih h
        simp only [FrontCache.has, List.mem_filter, Bool.and_eq_true, decide_eq_true_eq] at hshrunk ⊢
        exact ⟨hshrunk.1, hshrunk.2.1⟩
    · exact h

theorem FrontCache.has_of_remember {c : FrontCache} {id id' : String}
    (h : (c.remember id).1.has id' = true) : c.has id' = true ∨ id' = id := by
  unfold FrontCache.remember at h
  split at h
  · exact .inl h
  · have hadded := FrontCache.has_of_evict h
    simp only [FrontCache.has, Bool.and_eq_true, decide_eq_true_eq, List.mem_insert_iff] at hadded ⊢
    exact hadded.2.symm.imp_left fun hmem => ⟨hadded.1, hmem⟩

inductive AckRetryVerdict
  | wait
  | retry
  | giveUp
deriving DecidableEq

def resolveAckRetry (attempts : Nat) (lastSentAtMs nowMs ackTimeoutMs maxAckRetries : Int) :
    AckRetryVerdict :=
  if ackTimeoutMs ≤ 0 || maxAckRetries ≤ 0 then .giveUp
  else if nowMs - lastSentAtMs < ackTimeoutMs then .wait
  else if maxAckRetries ≤ attempts then .giveUp
  else .retry

inductive BackpressureVerdict
  | enqueue
  | drop
deriving DecidableEq

def resolveBackpressure (queueDepth : Nat) (limit : Int) : BackpressureVerdict :=
  if 0 ≤ limit && limit ≤ queueDepth then .drop else .enqueue

inductive HeartbeatVerdict
  | alive
  | timedOut

def resolveHeartbeat (lastSeenAtMs nowMs heartbeatTimeoutMs : Int) : HeartbeatVerdict :=
  if heartbeatTimeoutMs ≤ 0 then .alive
  else if heartbeatTimeoutMs ≤ nowMs - lastSeenAtMs then .timedOut
  else .alive

end ActorWeb.TransportContract
