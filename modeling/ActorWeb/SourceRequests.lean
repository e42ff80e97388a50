import ActorWeb.JsText
import ActorWeb.OrderedMap
import ActorWeb.Transition

/-! The sends and asks of a gateway-backed source, from the call to the answer. -/

namespace ActorWeb.SourceRequests

open Option hiding mem_map_of_mem sequence

open List Transition

variable {V : Type}

inductive Kind where
  | send
  | ask
  deriving DecidableEq

inductive Result (V : Type) where
  | resolved (value : Option V)
  | rejected (message : String)
  deriving DecidableEq

/-- A call waits for the source to be ready, is then registered under its number until
its promise settles. -/
inductive Phase (V : Type) where
  | waiting
  | registered (number : Nat)
  | settled (result : Result V)
  deriving DecidableEq

structure Call (V : Type) where
  kind : Kind
  phase : Phase V
  deriving DecidableEq

inductive Ready where
  | pending
  | resolved
  | rejected (message : String)

inductive Frame (V : Type) where
  | ready
  | snapshot (sequence : Int)
  | event (sequence : Int)
  | transition (sequence : Int)
  | status (replaying : Bool)
  | ack (requestId : Option String)
  | reply (requestId : String) (value : V)
  | error (requestId : Option String) (message : String)
  | pong
  | malformed

/-- The resolvers in the maps stand for the place of their call in `calls`. -/
structure Source (V : Type) where
  (pendingAsks pendingSends : OrderedMap String Nat)
  pendingSendOrder : List String
  ready : Ready
  requestSequence : Nat
  lastSequence : Int
  resyncInProgress : Bool
  calls : List (Call V)
  closed : Bool

def start : Source V :=
  { pendingAsks := .empty, pendingSends := .empty, pendingSendOrder := [], ready := .pending
    requestSequence := 0, lastSequence := 0, resyncInProgress := false, calls := []
    closed := false }

inductive Action (V : Type) where
  | call (kind : Kind)
  | resume (index : Nat) (thrown : Option String)
  | receive (frame : Frame V)
  | authFailed (message : String)
  | socketClosed
  | socketError
  | close

def requestPrefix : Kind → String
  | .send => "actor-web-source-send-"
  | .ask => "actor-web-source-request-"

def requestId (kind : Kind) (number : Nat) : String := requestPrefix kind ++ toString number

def present (requestId : Option String) : Option String := requestId.filter fun id => id ≠ ""

def Call.isSettled (c : Call V) : Bool :=
  match c.phase with
  | .settled _ => true
  | _ => false

def Call.settle (result : Result V) (c : Call V) : Call V :=
  if c.isSettled then c else { c with phase := .settled result }

def settle (calls : List (Call V)) (index : Nat) (result : Result V) : List (Call V) :=
  calls.modify index (Call.settle result)

namespace Source

variable (s : Source V)

def resolveReady : Source V :=
  { s with
    ready := match s.ready with
      | .pending => .resolved
      | other => other }

def rejectReady (message : String) : Source V :=
  { s with
    ready := match s.ready with
      | .pending => .rejected message
      | other => other }

def rejectSend (message : String) (s : Source V) (requestId : String) : Source V :=
  match s.pendingSends.get requestId with
  | none => { s with pendingSends := s.pendingSends.delete requestId }
  | some index =>
    { s with
      pendingSends := s.pendingSends.delete requestId
      calls := settle s.calls index (.rejected message) }

def rejectAsk (message : String) (s : Source V) (index : Nat) : Source V :=
  { s with calls := settle s.calls index (.rejected message) }

def rejectPending (message : String) : Source V :=
  let sends := s.pendingSendOrder.foldl (rejectSend message)
    { s.rejectReady message with pendingSendOrder := [] }
  let asks := sends.pendingAsks.values.foldl (rejectAsk message) sends
  { asks with pendingAsks := .empty }

def takeOldest (sends : OrderedMap String Nat) :
    List String → Option Nat × OrderedMap String Nat × List String
  | [] => (none, sends, [])
  | requestId :: order =>
    if requestId = "" then (none, sends, order)
    else
      match sends.get requestId with
      | some index => (some index, sends.delete requestId, order)
      | none => takeOldest (sends.delete requestId) order

def takePendingSend (requestId : Option String) : Option Nat × Source V :=
  match present requestId with
  | some id =>
    match s.pendingSends.get id with
    | none => (none, s)
    | some index =>
      (some index,
        { s with
          pendingSends := s.pendingSends.delete id
          pendingSendOrder := s.pendingSendOrder.erase id })
  | none =>
    let (taken, sends, order) := takeOldest s.pendingSends s.pendingSendOrder
    (taken, { s with pendingSends := sends, pendingSendOrder := order })

def acceptSequence (sequence : Int) (isSnapshot : Bool) : Bool × Source V :=
  if sequence = s.lastSequence + 1 then (true, { s with lastSequence := sequence })
  else if sequence ≤ s.lastSequence then (false, s)
  else if s.resyncInProgress && isSnapshot then
    (true, { s with lastSequence := sequence, resyncInProgress := false })
  else (false, { s with resyncInProgress := true })

def settleTaken (result : Result V) (taken : Option Nat × Source V) : Source V :=
  match taken.1 with
  | none => taken.2
  | some index => { taken.2 with calls := settle taken.2.calls index result }

def receiveReply (requestId : String) (value : V) : Source V :=
  match s.pendingAsks.get requestId with
  | none => { s with pendingAsks := s.pendingAsks.delete requestId }
  | some index =>
    { s with
      pendingAsks := s.pendingAsks.delete requestId
      calls := settle s.calls index (.resolved (some value)) }

def receiveSendError (requestId : Option String) (message : String) : Source V :=
  match (s.takePendingSend requestId).1 with
  | none => (s.takePendingSend requestId).2.rejectPending message
  | some _ => settleTaken (.rejected message) (s.takePendingSend requestId)

def receiveError (requestId : Option String) (message : String) : Source V :=
  match present requestId with
  | none => s.receiveSendError none message
  | some id =>
    match s.pendingAsks.get id with
    | some index =>
      { s with
        pendingAsks := s.pendingAsks.delete id
        calls := settle s.calls index (.rejected message) }
    | none => s.receiveSendError requestId message

def receive (readyOnStatus : Bool) : Frame V → Source V
  | .ready | .pong | .malformed => s
  | .snapshot sequence =>
    if (s.acceptSequence sequence true).1 then (s.acceptSequence sequence true).2.resolveReady
    else (s.acceptSequence sequence true).2
  | .event sequence | .transition sequence => (s.acceptSequence sequence false).2
  | .status replaying =>
    let settled := if replaying then s else { s with resyncInProgress := false }
    if readyOnStatus then settled.resolveReady else settled
  | .ack requestId => settleTaken (.resolved none) (s.takePendingSend requestId)
  | .reply requestId value => s.receiveReply requestId value
  | .error requestId message => s.receiveError requestId message

/-- The call whose `await ready` has ended is entered into its map and sent. -/
def register (index : Nat) (kind : Kind) (thrown : Option String) : Source V :=
  let number := s.requestSequence + 1
  let id := requestId kind number
  let calls := s.calls.set index ⟨kind, .registered number⟩
  match kind with
  | .send =>
    let sent : Source V :=
      { s with
        requestSequence := number
        pendingSends := s.pendingSends.set id index
        pendingSendOrder := s.pendingSendOrder ++ [id]
        calls := calls }
    match thrown with
    | none => sent
    | some message =>
      { (sent.takePendingSend (some id)).2 with
        calls := settle calls index (.rejected message) }
  | .ask =>
    let sent : Source V :=
      { s with
        requestSequence := number
        pendingAsks := s.pendingAsks.set id index
        calls := calls }
    match thrown with
    | none => sent
    | some message =>
      { sent with
        pendingAsks := sent.pendingAsks.delete id
        calls := settle calls index (.rejected message) }

end Source

def step (readyOnStatus : Bool) (s : Source V) : Action V → Option (Source V)
  | .call kind => some { s with calls := s.calls ++ [⟨kind, .waiting⟩] }
  | .resume index thrown =>
    match s.calls[index]? with
    | some ⟨kind, .waiting⟩ =>
      match s.ready with
      | .pending => none
      | .resolved => some (s.register index kind thrown)
      | .rejected message =>
        some { s with calls := settle s.calls index (.rejected message) }
    | _ => none
  | .receive frame => some (s.receive readyOnStatus frame)
  | .authFailed message => some (s.rejectPending message)
  | .socketClosed =>
    some { s.rejectPending "Actor-Web gateway disconnected." with closed := true }
  | .socketError => some (s.rejectPending "Actor-Web gateway connection failed.")
  | .close => some { s.rejectPending "Actor-Web source closed." with closed := true }

section Calls

variable {s : Source V} {calls : List (Call V)} {index j : Nat} {result : Result V} {c : Call V}
  {k l : Kind} {n m : Nat} {message : String}

theorem send_ne_ask (n m : Nat) : requestId .send n ≠ requestId .ask m := by
  intro h
  have hlist := congrArg (fun text => text.toList.take 18) h
  simp only [requestId, String.toList_append] at hlist
  rw [take_append_of_le_length (by decide),
    take_append_of_le_length (by decide)] at hlist
  revert hlist
  decide

theorem requestId_inj (h : requestId k n = requestId l m) : k = l ∧ n = m := by
  have hkind : k = l := by
    cases k with
    | send =>
      cases l with
      | send => rfl
      | ask => exact absurd h (send_ne_ask n m)
    | ask =>
      cases l with
      | send => exact absurd h.symm (send_ne_ask m n)
      | ask => rfl
  subst hkind
  exact ⟨rfl, JsText.toString_injective ((String.append_right_inj _).mp h)⟩

theorem requestId_ne_empty (k : Kind) (n : Nat) : requestId k n ≠ "" := by
  intro hempty
  have hlist := congrArg String.toList hempty
  rw [requestId, String.toList_append] at hlist
  have hprefix := (append_eq_nil_iff.mp hlist).1
  cases k <;> cases hprefix

theorem present_requestId (k : Kind) (n : Nat) :
    present (some (requestId k n)) = some (requestId k n) := by
  simp only [present, Option.filter, ne_eq, requestId_ne_empty, not_false_eq_true, decide_true,
    if_true]

theorem settle_idem (r : Result V) (c : Call V) : (c.settle r).settle r = c.settle r := by
  by_cases h : c.isSettled = true
  · simp only [Call.settle, h, if_true]
  · have hsettle : c.settle r = { c with phase := .settled r } := if_neg h
    rw [hsettle]
    rfl

theorem settle_get (calls : List (Call V)) (index : Nat) (result : Result V) (j : Nat) :
    (settle calls index result)[j]? =
      if index = j then (calls[j]?).map (Call.settle result) else calls[j]? := by
  rw [settle, getElem?_modify]
  split <;> simp

theorem registered_settle (hget : calls[index]? = some ⟨k, .registered n⟩) :
    (settle calls index result)[j]? = some ⟨l, .registered m⟩ ↔
      j ≠ index ∧ calls[j]? = some ⟨l, .registered m⟩ := by
  rw [settle_get]
  obtain rfl | hne := eq_or_ne index j
  · simp [hget, Call.settle, Call.isSettled]
  · simp [hne, hne.symm]

end Calls

section Invariant

variable {s t : Source V} {index : Nat} {result : Result V} {k l : Kind} {n m : Nat}
  {message : String} {x : Option String}

/-- The maps hold exactly the registered calls, the sends in the order of their numbers. -/
structure Sound (s : Source V) : Prop where
  sends : ∀ (id : String) (i : Nat), s.pendingSends.get id = some i ↔
    ∃ n, id = requestId .send n ∧ s.calls[i]? = some ⟨.send, .registered n⟩
  asks : ∀ (id : String) (i : Nat), s.pendingAsks.get id = some i ↔
    ∃ n, id = requestId .ask n ∧ s.calls[i]? = some ⟨.ask, .registered n⟩
  order : ∃ numbers : List Nat, numbers.Pairwise (· < ·) ∧
    s.pendingSendOrder = numbers.map (requestId .send) ∧
    ∀ n, n ∈ numbers ↔ ∃ i : Nat, s.calls[i]? = some ⟨.send, .registered n⟩
  bound : ∀ (i : Nat) (k : Kind) (n : Nat), s.calls[i]? = some ⟨k, .registered n⟩ →
    n ≤ s.requestSequence
  gate : ∀ (i : Nat) (k : Kind) (n : Nat), s.calls[i]? = some ⟨k, .registered n⟩ →
    s.ready = .resolved

theorem sound_start : Sound (start : Source V) where
  sends := by simp [start, OrderedMap.get, OrderedMap.empty]
  asks := by simp [start, OrderedMap.get, OrderedMap.empty]
  order := ⟨[], .nil, rfl, by simp [start]⟩
  bound := by simp [start]
  gate := by simp [start]

theorem Sound.unique (hs : Sound s) {i j : Nat} (hi : s.calls[i]? = some ⟨k, .registered n⟩)
    (hj : s.calls[j]? = some ⟨k, .registered n⟩) : i = j := by
  cases k with
  | send =>
    have hget := (hs.sends _ i).mpr ⟨n, rfl, hi⟩
    exact some.inj (hget.symm.trans ((hs.sends _ j).mpr ⟨n, rfl, hj⟩))
  | ask =>
    have hget := (hs.asks _ i).mpr ⟨n, rfl, hi⟩
    exact some.inj (hget.symm.trans ((hs.asks _ j).mpr ⟨n, rfl, hj⟩))

theorem Sound.erase_order (hs : Sound s) (n : Nat) :
    ∃ numbers : List Nat, numbers.Pairwise (· < ·) ∧
      s.pendingSendOrder.erase (requestId .send n) = numbers.map (requestId .send) ∧
      ∀ m, m ∈ numbers ↔ m ≠ n ∧ ∃ i : Nat, s.calls[i]? = some ⟨.send, .registered m⟩ := by
  obtain ⟨numbers, hsorted, horder, hmem⟩ := hs.order
  have hinj : Function.Injective (requestId .send) := fun a b h => (requestId_inj h).2
  have hnodup : numbers.Nodup := hsorted.imp fun h => Nat.ne_of_lt h
  refine ⟨numbers.erase n, hsorted.sublist erase_sublist, ?_, fun m => ?_⟩
  · rw [horder, map_erase hinj]
  · rw [hnodup.mem_erase_iff, hmem]

theorem Sound.settleSend (hs : Sound s)
    (hget : s.calls[index]? = some ⟨.send, .registered n⟩) (result : Result V) : Sound { s with
      pendingSends := s.pendingSends.delete (requestId .send n)
      pendingSendOrder := s.pendingSendOrder.erase (requestId .send n)
      calls := settle s.calls index result } := by
  obtain ⟨numbers, hsorted, horder, hmem⟩ := hs.erase_order n
  refine ⟨fun id i => ?_, fun id i => ?_, ⟨numbers, hsorted, horder, fun m => ?_⟩,
    fun i k m h => ?_, fun i k m h => ?_⟩
  · simp only [OrderedMap.get_delete, registered_settle hget]
    split
    · rename_i hid
      refine iff_of_false (some_ne_none i).symm ?_
      rintro ⟨m, hm, hne, hi⟩
      obtain rfl := (requestId_inj (hid.symm.trans hm)).2
      exact hne (hs.unique hi hget)
    · rename_i hid
      rw [hs.sends]
      refine exists_congr fun m => and_congr_right fun hm => ?_
      refine ⟨fun h => ⟨?_, h⟩, And.right⟩
      rintro rfl
      rw [hget] at h
      cases h
      exact hid hm
  · simp only [hs.asks, registered_settle hget]
    refine exists_congr fun m => and_congr_right fun hm => ⟨fun h => ⟨?_, h⟩, And.right⟩
    rintro rfl
    rw [hget] at h
    cases h
  · simp only [hmem, registered_settle hget]
    constructor
    · rintro ⟨hne, i, hi⟩
      refine ⟨i, ?_, hi⟩
      rintro rfl
      rw [hget] at hi
      cases hi
      exact hne rfl
    · rintro ⟨i, hne, hi⟩
      refine ⟨?_, i, hi⟩
      rintro rfl
      exact hne (hs.unique hi hget)
  · exact hs.bound i k m ((registered_settle hget).mp h).2
  · exact hs.gate i k m ((registered_settle hget).mp h).2

theorem Sound.settleAsk (hs : Sound s)
    (hget : s.calls[index]? = some ⟨.ask, .registered n⟩) (result : Result V) : Sound { s with
      pendingAsks := s.pendingAsks.delete (requestId .ask n)
      calls := settle s.calls index result } := by
  have hkeep : ∀ {i m}, s.calls[i]? = some ⟨.send, .registered m⟩ → i ≠ index := by
    rintro i m h rfl
    rw [hget] at h
    cases h
  obtain ⟨numbers, hsorted, horder, hmem⟩ := hs.order
  refine ⟨fun id i => ?_, fun id i => ?_, ⟨numbers, hsorted, horder, fun m => ?_⟩,
    fun i k m h => ?_, fun i k m h => ?_⟩
  · simp only [hs.sends, registered_settle hget]
    exact exists_congr fun m => and_congr_right fun hm => ⟨fun h => ⟨hkeep h, h⟩, And.right⟩
  · simp only [OrderedMap.get_delete, registered_settle hget]
    split
    · rename_i hid
      refine iff_of_false (some_ne_none i).symm ?_
      rintro ⟨m, hm, hne, hi⟩
      obtain rfl := (requestId_inj (hid.symm.trans hm)).2
      exact hne (hs.unique hi hget)
    · rename_i hid
      rw [hs.asks]
      refine exists_congr fun m => and_congr_right fun hm => ?_
      refine ⟨fun h => ⟨?_, h⟩, And.right⟩
      rintro rfl
      rw [hget] at h
      cases h
      exact hid hm
  · simp only [hmem, registered_settle hget]
    exact exists_congr fun i => ⟨fun h => ⟨hkeep h, h⟩, And.right⟩
  · exact hs.bound i k m ((registered_settle hget).mp h).2
  · exact hs.gate i k m ((registered_settle hget).mp h).2

end Invariant

section Rejections

variable {s t : Source V} {message : String} {k : Kind} {n : Nat} {j : Nat}

def Call.reject (message : String) (c : Call V) : Call V :=
  match c.phase with
  | .registered _ => { c with phase := .settled (.rejected message) }
  | _ => c

theorem rejectSend_get (message : String) (s : Source V) (requestId : String) (id : String) :
    (s.rejectSend message requestId).pendingSends.get id =
      if id = requestId then none else s.pendingSends.get id := by
  rw [Source.rejectSend]
  split
  · exact OrderedMap.get_delete _ _ _
  · exact OrderedMap.get_delete _ _ _

theorem rejectSend_calls (message : String) (s : Source V) (requestId : String) (j : Nat) :
    (s.rejectSend message requestId).calls[j]? =
      if s.pendingSends.get requestId = some j then
        (s.calls[j]?).map (Call.settle (.rejected message))
      else s.calls[j]? := by
  rw [Source.rejectSend]
  split
  · rename_i hnone
    rw [hnone, if_neg (some_ne_none j).symm]
  · rename_i index hget
    rw [settle_get, hget]
    simp only [some.injEq]

theorem rejectSends_rest (message : String) (s : Source V) (ids : List String) :
    ids.foldl (Source.rejectSend message) s =
      { s with
        pendingSends := (ids.foldl (Source.rejectSend message) s).pendingSends
        calls := (ids.foldl (Source.rejectSend message) s).calls } := by
  induction ids generalizing s with
  | nil => rfl
  | cons id ids ih =>
    rw [foldl_cons, ih, Source.rejectSend]
    split <;> rfl

theorem rejectSends_get (message : String) (s : Source V) (ids : List String) (id : String) :
    (ids.foldl (Source.rejectSend message) s).pendingSends.get id =
      if id ∈ ids then none else s.pendingSends.get id := by
  induction ids generalizing s with
  | nil => simp
  | cons first ids ih =>
    rw [foldl_cons, ih, rejectSend_get]
    by_cases hmem : id ∈ ids
    · simp [hmem]
    · by_cases hfirst : id = first <;> simp [hmem, hfirst]

theorem rejectSends_calls (message : String) (s : Source V) (ids : List String) (j : Nat) :
    ((∃ id ∈ ids, s.pendingSends.get id = some j) →
      (ids.foldl (Source.rejectSend message) s).calls[j]? =
        (s.calls[j]?).map (Call.settle (.rejected message))) ∧
    ((∀ id ∈ ids, s.pendingSends.get id ≠ some j) →
      (ids.foldl (Source.rejectSend message) s).calls[j]? = s.calls[j]?) := by
  induction ids generalizing s with
  | nil => simp
  | cons first ids ih =>
    obtain ⟨hfound, hleft⟩ := ih (s.rejectSend message first)
    rw [foldl_cons]
    by_cases hfirst : s.pendingSends.get first = some j
    · refine ⟨fun _ => ?_, fun h => absurd hfirst (h first mem_cons_self)⟩
      have hcalls := rejectSend_calls message s first j
      rw [if_pos hfirst] at hcalls
      by_cases hlater : ∃ id ∈ ids, (s.rejectSend message first).pendingSends.get id = some j
      · rw [hfound hlater, hcalls, Option.map_map]
        exact congrArg (fun f => (s.calls[j]?).map f) (funext (settle_idem _))
      · rw [hleft fun id hid h => hlater ⟨id, hid, h⟩, hcalls]
    · have hcalls := rejectSend_calls message s first j
      rw [if_neg hfirst] at hcalls
      have hsame : ∀ id, (s.rejectSend message first).pendingSends.get id = some j ↔
          s.pendingSends.get id = some j := by
        intro id
        rw [rejectSend_get]
        split
        · rename_i hid
          rw [hid]
          exact iff_of_false (some_ne_none j).symm hfirst
        · rfl
      constructor
      · rintro ⟨id, hid, hget⟩
        obtain rfl | hmem := mem_cons.mp hid
        · exact absurd hget hfirst
        · rw [hfound ⟨id, hmem, (hsame id).mpr hget⟩, hcalls]
      · intro h
        have hnone := fun id hid hget => h id (mem_cons_of_mem _ hid) ((hsame id).mp hget)
        rw [hleft hnone, hcalls]

theorem rejectAsks_eq (message : String) (s : Source V) (indices : List Nat) :
    indices.foldl (Source.rejectAsk message) s =
      { s with calls := (indices.foldl (Source.rejectAsk message) s).calls } := by
  induction indices generalizing s with
  | nil => rfl
  | cons index indices ih =>
    rw [foldl_cons, ih]
    rfl

theorem rejectAsks_calls (message : String) (s : Source V) (indices : List Nat) (j : Nat) :
    (indices.foldl (Source.rejectAsk message) s).calls[j]? =
      if j ∈ indices then (s.calls[j]?).map (Call.settle (.rejected message))
      else s.calls[j]? := by
  induction indices generalizing s with
  | nil => simp
  | cons index indices ih =>
    rw [foldl_cons, ih, Source.rejectAsk, settle_get]
    by_cases hindex : index = j
    · have hidem : Call.settle (V := V) (.rejected message) ∘ Call.settle (.rejected message) =
          Call.settle (.rejected message) := funext (settle_idem _)
      by_cases hmem : j ∈ indices <;> simp [hmem, hindex, hidem]
    · have hne : j ≠ index := Ne.symm hindex
      by_cases hmem : j ∈ indices <;> simp [hmem, hindex, hne]

/-- What `rejectPending` does: every registered call is rejected, nothing else is touched. -/
structure Rejected (message : String) (s t : Source V) : Prop where
  sends : ∀ id, t.pendingSends.get id = none
  asks : t.pendingAsks = .empty
  order : t.pendingSendOrder = []
  ready : t.ready = (s.rejectReady message).ready
  calls : ∀ j : Nat, t.calls[j]? = (s.calls[j]?).map (Call.reject message)

theorem Sound.rejected (hs : Sound s) (message : String) :
    Rejected message s (s.rejectPending message) := by
  have hsends := rejectSends_rest message { s.rejectReady message with pendingSendOrder := [] }
    s.pendingSendOrder
  have hget := rejectSends_get message { s.rejectReady message with pendingSendOrder := [] }
    s.pendingSendOrder
  have hcalls := rejectSends_calls message { s.rejectReady message with pendingSendOrder := [] }
    s.pendingSendOrder
  obtain ⟨numbers, -, horder, hmem⟩ := hs.order
  rw [Source.rejectPending]
  generalize s.pendingSendOrder.foldl (Source.rejectSend message)
    { s.rejectReady message with pendingSendOrder := [] } = u at hsends hget hcalls ⊢
  have hasks := rejectAsks_eq message u u.pendingAsks.values
  refine ⟨fun id => ?_, rfl, ?_, ?_, fun j => ?_⟩
  · rw [hasks]
    change u.pendingSends.get id = none
    rw [hget]
    split
    · rfl
    · rename_i hid
      refine eq_none_iff_forall_ne_some.mpr fun i hi => hid ?_
      obtain ⟨n, rfl, hcall⟩ := (hs.sends id i).mp hi
      rw [horder]
      exact mem_map_of_mem ((hmem n).mpr ⟨i, hcall⟩)
  · rw [hasks, hsends]
  · rw [hasks, hsends]
  · change (u.pendingAsks.values.foldl (Source.rejectAsk message) u).calls[j]? = _
    have hvalues : j ∈ u.pendingAsks.values ↔ ∃ n, s.calls[j]? = some ⟨.ask, .registered n⟩ := by
      rw [OrderedMap.mem_values_iff, hsends]
      change (∃ id, s.pendingAsks.get id = some j) ↔ _
      simp only [hs.asks]
      constructor
      · rintro ⟨-, n, -, h⟩
        exact ⟨n, h⟩
      · rintro ⟨n, h⟩
        exact ⟨_, n, rfl, h⟩
    have hfound : (∃ id ∈ s.pendingSendOrder, s.pendingSends.get id = some j) ↔
        ∃ n, s.calls[j]? = some ⟨.send, .registered n⟩ := by
      simp only [hs.sends]
      constructor
      · rintro ⟨id, -, n, -, h⟩
        exact ⟨n, h⟩
      · rintro ⟨n, h⟩
        refine ⟨requestId .send n, ?_, n, rfl, h⟩
        rw [horder]
        exact mem_map_of_mem ((hmem n).mpr ⟨j, h⟩)
    have hleft : (¬∃ n, s.calls[j]? = some ⟨.send, .registered n⟩) → u.calls[j]? = s.calls[j]? := by
      intro h
      exact (hcalls j).2 fun id hid hsome => h (hfound.mp ⟨id, hid, hsome⟩)
    rw [rejectAsks_calls]
    cases hcall : s.calls[j]? with
    | none =>
      have hsame := hleft (by simp [hcall])
      rw [if_neg (by simp [hvalues, hcall]), hsame, hcall]
      rfl
    | some c =>
      obtain ⟨kind, phase⟩ := c
      cases phase with
      | waiting | settled result =>
        have hsame := hleft (by simp [hcall])
        rw [if_neg (by simp [hvalues, hcall]), hsame, hcall]
        rfl
      | registered n =>
        cases kind with
        | send =>
          have hmapped := (hcalls j).1 (hfound.mpr ⟨n, hcall⟩)
          rw [if_neg (by simp [hvalues, hcall]), hmapped]
          change Option.map _ (s.calls[j]?) = _
          rw [hcall]
          rfl
        | ask =>
          have hsame := hleft (by simp [hcall])
          rw [if_pos (hvalues.mpr ⟨n, hcall⟩), hsame, hcall]
          rfl

theorem reject_unregistered (message : String) (c : Call V) (k : Kind) (n : Nat) :
    c.reject message ≠ ⟨k, .registered n⟩ := by
  obtain ⟨kind, phase⟩ := c
  cases phase <;> simp [Call.reject]

theorem Rejected.none_registered (h : Rejected message s t) (j : Nat) (k : Kind) (n : Nat) :
    t.calls[j]? ≠ some ⟨k, .registered n⟩ := by
  intro hj
  rw [h.calls] at hj
  obtain ⟨c, -, hc⟩ := map_eq_some_iff.mp hj
  exact reject_unregistered message c k n hc

theorem Rejected.sound (h : Rejected message s t) : Sound t where
  sends := by
    intro id i
    rw [h.sends]
    exact iff_of_false nofun fun ⟨n, _, hi⟩ => h.none_registered i .send n hi
  asks := by
    intro id i
    rw [h.asks]
    exact iff_of_false nofun fun ⟨n, _, hi⟩ => h.none_registered i .ask n hi
  order := ⟨[], .nil, h.order, fun n => iff_of_false not_mem_nil fun ⟨i, hi⟩ =>
    h.none_registered i .send n hi⟩
  bound := fun i k n hi => absurd hi (h.none_registered i k n)
  gate := fun i k n hi => absurd hi (h.none_registered i k n)

end Rejections

section Answers

variable {s t : Source V} {x : Option String} {k : Kind} {n index : Nat} {message : String}

def Oldest (s : Source V) (n : Nat) : Prop :=
  ∀ (i m : Nat), s.calls[i]? = some ⟨.send, .registered m⟩ → n ≤ m

/-- The frame is for this send: it carries its id, or none and no pending send is older. -/
def ForSend (s : Source V) (x : Option String) (n : Nat) : Prop :=
  present x = some (requestId .send n) ∨ present x = none ∧ Oldest s n

theorem Sound.take_cases (hs : Sound s) (x : Option String) :
    (∃ n i, s.calls[i]? = some ⟨.send, .registered n⟩ ∧ ForSend s x n ∧
      s.takePendingSend x = (some i,
        { s with
          pendingSends := s.pendingSends.delete (requestId .send n)
          pendingSendOrder := s.pendingSendOrder.erase (requestId .send n) })) ∨
    (s.takePendingSend x = (none, s) ∧
      ∀ (i n : Nat), s.calls[i]? = some ⟨.send, .registered n⟩ →
        ∃ id, present x = some id ∧ id ≠ requestId .send n) := by
  rw [Source.takePendingSend]
  cases hx : present x with
  | some id =>
    dsimp only
    cases hget : s.pendingSends.get id with
    | none =>
      refine .inr ⟨rfl, fun i n hi => ⟨id, rfl, ?_⟩⟩
      rintro rfl
      cases hget.symm.trans ((hs.sends _ i).mpr ⟨n, rfl, hi⟩)
    | some i =>
      obtain ⟨n, rfl, hi⟩ := (hs.sends id i).mp hget
      exact .inl ⟨n, i, hi, .inl hx, rfl⟩
  | none =>
    obtain ⟨numbers, hsorted, horder, hmem⟩ := hs.order
    cases numbers with
    | nil =>
      have hempty : s.pendingSendOrder = [] := horder
      refine .inr ⟨by rw [hempty, Source.takeOldest, ← hempty], fun i n hi => ?_⟩
      exact absurd ((hmem n).mpr ⟨i, hi⟩) not_mem_nil
    | cons n numbers =>
      obtain ⟨i, hi⟩ := (hmem n).mp mem_cons_self
      have hget := (hs.sends _ i).mpr ⟨n, rfl, hi⟩
      have holdest : Oldest s n := by
        intro j m hj
        obtain rfl | hlater := mem_cons.mp ((hmem m).mpr ⟨j, hj⟩)
        · exact Nat.le_refl _
        · exact Nat.le_of_lt ((pairwise_cons.mp hsorted).1 m hlater)
      refine .inl ⟨n, i, hi, .inr ⟨hx, holdest⟩, ?_⟩
      rw [horder, map_cons, Source.takeOldest, if_neg (requestId_ne_empty .send n), hget,
        erase_cons_head]

def Unclaimed (s : Source V) (x : Option String) : Prop :=
  ∀ (i : Nat) (k : Kind) (n : Nat), s.calls[i]? = some ⟨k, .registered n⟩ →
    match present x with
    | none => k ≠ .send
    | some id => id ≠ requestId k n

def Reason (s : Source V) (a : Action V) (k : Kind) (n : Nat) : Result V → Prop
  | .resolved none => k = .send ∧ ∃ x, a = .receive (.ack x) ∧ ForSend s x n
  | .resolved (some value) => k = .ask ∧ a = .receive (.reply (requestId k n) value)
  | .rejected message =>
    match a with
    | .receive (.error x text) =>
      message = text ∧
        (present x = some (requestId k n) ∨ k = .send ∧ ForSend s x n ∨ Unclaimed s x)
    | .authFailed text => message = text
    | .socketClosed | .socketError | .close => True
    | _ => False

inductive Move (s : Source V) (a : Action V) (i : Nat) : Call V → Call V → Prop where
  | same (c : Call V) : Move s a i c c
  | registered (k : Kind) (n : Nat) (h : a = .resume i none) :
      Move s a i ⟨k, .waiting⟩ ⟨k, .registered n⟩
  | unsent (k : Kind) (message : String) (h : a = .resume i (some message)) :
      Move s a i ⟨k, .waiting⟩ ⟨k, .settled (.rejected message)⟩
  | unready (k : Kind) (message : String) (thrown : Option String) (h : a = .resume i thrown)
      (hready : s.ready = .rejected message) :
      Move s a i ⟨k, .waiting⟩ ⟨k, .settled (.rejected message)⟩
  | settled (k : Kind) (n : Nat) (result : Result V) (h : Reason s a k n result) :
      Move s a i ⟨k, .registered n⟩ ⟨k, .settled result⟩

def Moves (s : Source V) (a : Action V) (t : Source V) : Prop :=
  ∀ (i : Nat) (c : Call V), s.calls[i]? = some c → ∃ d, t.calls[i]? = some d ∧ Move s a i c d

theorem Moves.of_calls {a : Action V} (h : t.calls = s.calls) : Moves s a t :=
  fun i c hc => ⟨c, by rw [h, hc], .same c⟩

theorem Moves.of_settle {a : Action V} (hget : s.calls[index]? = some ⟨k, .registered n⟩)
    (result : Result V) (hreason : Reason s a k n result)
    (h : t.calls = settle s.calls index result) : Moves s a t := by
  intro i c hc
  rw [h, settle_get]
  split
  · rename_i hi
    subst hi
    obtain rfl := some.inj (hget.symm.trans hc)
    refine ⟨_, by rw [hc]; rfl, ?_⟩
    exact .settled k n result hreason
  · exact ⟨c, hc, .same c⟩

theorem Rejected.moves {a : Action V} (h : Rejected message s t)
    (hreason : ∀ (i : Nat) (k : Kind) (n : Nat), s.calls[i]? = some ⟨k, .registered n⟩ →
      Reason s a k n (.rejected message)) : Moves s a t := by
  intro i c hc
  refine ⟨c.reject message, by rw [h.calls, hc, map_some], ?_⟩
  obtain ⟨kind, phase⟩ := c
  cases phase with
  | waiting => exact .same _
  | registered n => exact .settled kind n _ (hreason i kind n hc)
  | settled result => exact .same _

end Answers

section Registration

variable {s : Source V} {k l : Kind} {n m index i : Nat}

theorem registered_set (hget : s.calls[index]? = some ⟨k, .waiting⟩) :
    (s.calls.set index ⟨k, .registered n⟩)[i]? = some ⟨l, .registered m⟩ ↔
      (i = index ∧ l = k ∧ m = n) ∨ s.calls[i]? = some ⟨l, .registered m⟩ := by
  have hlt := (List.getElem?_eq_some_iff.mp hget).1
  obtain rfl | hne := eq_or_ne index i
  · rw [getElem?_set_self hlt, hget]
    simp [eq_comm]
  · rw [getElem?_set_ne hne]
    simp [hne.symm]

theorem Sound.fresh (hs : Sound s) (i : Nat) (k : Kind) :
    s.calls[i]? ≠ some ⟨k, .registered (s.requestSequence + 1)⟩ := by
  intro hi
  have := hs.bound i k _ hi
  omega

theorem Sound.registerSend (hs : Sound s) (hready : s.ready = .resolved)
    (hget : s.calls[index]? = some ⟨.send, .waiting⟩) : Sound { s with
      requestSequence := s.requestSequence + 1
      pendingSends := s.pendingSends.set (requestId .send (s.requestSequence + 1)) index
      pendingSendOrder := s.pendingSendOrder ++ [requestId .send (s.requestSequence + 1)]
      calls := s.calls.set index ⟨.send, .registered (s.requestSequence + 1)⟩ } := by
  obtain ⟨numbers, hsorted, horder, hmem⟩ := hs.order
  refine ⟨fun id i => ?_, fun id i => ?_, ⟨numbers ++ [s.requestSequence + 1], ?_, ?_, fun m => ?_⟩,
    fun i l m h => ?_, fun i l m h => hready⟩
  · simp only [registered_set hget, OrderedMap.get_set]
    split
    · rename_i hid
      rw [some.injEq]
      constructor
      · rintro rfl
        exact ⟨_, hid, .inl ⟨rfl, trivial, rfl⟩⟩
      · rintro ⟨m, hm, ⟨rfl, -, -⟩ | hi⟩
        · rfl
        · obtain rfl := (requestId_inj (hid.symm.trans hm)).2
          exact absurd hi (hs.fresh i .send)
    · rename_i hid
      rw [hs.sends]
      refine exists_congr fun m => and_congr_right fun hm => ⟨.inr, ?_⟩
      rintro (⟨-, -, rfl⟩ | hi)
      · exact absurd hm hid
      · exact hi
  · simp only [registered_set hget, hs.asks]
    refine exists_congr fun m => and_congr_right fun hm => ⟨.inr, ?_⟩
    rintro (⟨-, hkind, -⟩ | hi)
    · cases hkind
    · exact hi
  · rw [pairwise_append]
    refine ⟨hsorted, pairwise_singleton _ _, fun m hm b hb => ?_⟩
    obtain ⟨i, hi⟩ := (hmem m).mp hm
    rw [mem_singleton.mp hb]
    exact Nat.lt_succ_of_le (hs.bound i .send m hi)
  · rw [map_append, horder]
    rfl
  · simp only [registered_set hget, mem_append, mem_singleton, hmem]
    constructor
    · rintro (⟨i, hi⟩ | rfl)
      · exact ⟨i, .inr hi⟩
      · exact ⟨index, .inl ⟨rfl, trivial, rfl⟩⟩
    · rintro ⟨i, ⟨-, -, rfl⟩ | hi⟩
      · exact .inr rfl
      · exact .inl ⟨i, hi⟩
  · obtain ⟨-, -, rfl⟩ | hi := (registered_set hget).mp h
    · exact Nat.le_refl _
    · exact Nat.le_succ_of_le (hs.bound i l m hi)

theorem Sound.registerAsk (hs : Sound s) (hready : s.ready = .resolved)
    (hget : s.calls[index]? = some ⟨.ask, .waiting⟩) : Sound { s with
      requestSequence := s.requestSequence + 1
      pendingAsks := s.pendingAsks.set (requestId .ask (s.requestSequence + 1)) index
      calls := s.calls.set index ⟨.ask, .registered (s.requestSequence + 1)⟩ } := by
  obtain ⟨numbers, hsorted, horder, hmem⟩ := hs.order
  have hsend : ∀ {i m : Nat}, (s.calls.set index ⟨.ask, .registered (s.requestSequence + 1)⟩)[i]? =
      some ⟨.send, .registered m⟩ ↔ s.calls[i]? = some ⟨.send, .registered m⟩ := by
    intro i m
    rw [registered_set hget]
    refine ⟨?_, .inr⟩
    rintro (⟨-, hkind, -⟩ | hi)
    · cases hkind
    · exact hi
  refine ⟨fun id i => ?_, fun id i => ?_, ⟨numbers, hsorted, horder, fun m => ?_⟩,
    fun i l m h => ?_, fun i l m h => hready⟩
  · simp only [hsend, hs.sends]
  · simp only [registered_set hget, OrderedMap.get_set]
    split
    · rename_i hid
      rw [some.injEq]
      constructor
      · rintro rfl
        exact ⟨_, hid, .inl ⟨rfl, trivial, rfl⟩⟩
      · rintro ⟨m, hm, ⟨rfl, -, -⟩ | hi⟩
        · rfl
        · obtain rfl := (requestId_inj (hid.symm.trans hm)).2
          exact absurd hi (hs.fresh i .ask)
    · rename_i hid
      rw [hs.asks]
      refine exists_congr fun m => and_congr_right fun hm => ⟨.inr, ?_⟩
      rintro (⟨-, -, rfl⟩ | hi)
      · exact absurd hm hid
      · exact hi
  · simp only [hsend, hmem]
  · obtain ⟨-, -, rfl⟩ | hi := (registered_set hget).mp h
    · exact Nat.le_refl _
    · exact Nat.le_succ_of_le (hs.bound i l m hi)

theorem registered_self (hget : s.calls[index]? = some ⟨k, .waiting⟩) (n : Nat) :
    (s.calls.set index ⟨k, .registered n⟩)[index]? = some ⟨k, .registered n⟩ :=
  (registered_set hget).mpr (.inl ⟨rfl, rfl, rfl⟩)

theorem Sound.register (hs : Sound s) (hready : s.ready = .resolved)
    (hget : s.calls[index]? = some ⟨k, .waiting⟩) (thrown : Option String) :
    Sound (s.register index k thrown) := by
  cases k with
  | send =>
    have hsent := hs.registerSend hready hget
    cases thrown with
    | none => exact hsent
    | some message =>
      have hself := registered_self hget (s.requestSequence + 1)
      have htaken := (hsent.sends _ index).mpr ⟨_, rfl, hself⟩
      have hsettled := hsent.settleSend hself (.rejected message)
      simp only [Source.register, Source.takePendingSend, present_requestId]
      dsimp only at htaken
      rw [htaken]
      exact hsettled
  | ask =>
    have hsent := hs.registerAsk hready hget
    cases thrown with
    | none => exact hsent
    | some message => exact hsent.settleAsk (registered_self hget _) (.rejected message)

theorem register_calls (s : Source V) (index : Nat) (k : Kind) (thrown : Option String) :
    (s.register index k thrown).calls =
      match thrown with
      | none => s.calls.set index ⟨k, .registered (s.requestSequence + 1)⟩
      | some message =>
        settle (s.calls.set index ⟨k, .registered (s.requestSequence + 1)⟩) index
          (.rejected message) := by
  cases k <;> cases thrown <;> rfl

theorem register_moves (hget : s.calls[index]? = some ⟨k, .waiting⟩) (thrown : Option String) :
    Moves s (.resume index thrown) (s.register index k thrown) := by
  intro i c hc
  rw [register_calls]
  have hself := registered_self hget (s.requestSequence + 1)
  obtain rfl | hne := eq_or_ne index i
  · obtain rfl := some.inj (hget.symm.trans hc)
    cases thrown with
    | none => exact ⟨_, hself, .registered k _ rfl⟩
    | some message =>
      refine ⟨⟨k, .settled (.rejected message)⟩, ?_, .unsent k message rfl⟩
      dsimp only
      rw [settle_get, if_pos rfl, hself]
      rfl
  · refine ⟨c, ?_, .same c⟩
    cases thrown with
    | none => rw [getElem?_set_ne hne, hc]
    | some message =>
      dsimp only
      rw [settle_get, if_neg hne, getElem?_set_ne hne, hc]

end Registration

section Steps

variable {s t : Source V} {a : Action V} {k : Kind} {n index : Nat} {message : String}
  {readyOnStatus : Bool}

/-- What a step keeps: the invariant, the laws of the calls and a settled readiness. -/
structure Lawful (s : Source V) (a : Action V) (t : Source V) : Prop where
  sound : Sound t
  moves : Moves s a t
  ready : s.ready ≠ .pending → t.ready = s.ready

theorem Sound.of_eq (hs : Sound s) (hasks : t.pendingAsks = s.pendingAsks)
    (hsends : t.pendingSends = s.pendingSends) (horder : t.pendingSendOrder = s.pendingSendOrder)
    (hsequence : t.requestSequence = s.requestSequence) (hcalls : t.calls = s.calls)
    (hready : s.ready ≠ .pending → t.ready = s.ready) : Sound t where
  sends := by
    intro id i
    rw [hsends, hcalls]
    exact hs.sends id i
  asks := by
    intro id i
    rw [hasks, hcalls]
    exact hs.asks id i
  order := by
    rw [horder, hcalls]
    exact hs.order
  bound := by
    rw [hcalls, hsequence]
    exact hs.bound
  gate := by
    intro i k n hi
    rw [hcalls] at hi
    have hresolved := hs.gate i k n hi
    rw [hready (by rw [hresolved]; nofun), hresolved]

theorem resolveReady_ready (h : s.ready ≠ .pending) : s.resolveReady.ready = s.ready := by
  rw [Source.resolveReady]
  dsimp only
  split
  · rename_i hpending
    exact absurd hpending h
  · rfl

theorem rejectReady_ready (h : s.ready ≠ .pending) : (s.rejectReady message).ready = s.ready := by
  rw [Source.rejectReady]
  dsimp only
  split
  · rename_i hpending
    exact absurd hpending h
  · rfl

theorem rejectReady_settled (s : Source V) (message : String) :
    (s.rejectReady message).ready ≠ .pending := by
  rw [Source.rejectReady]
  dsimp only
  split
  · nofun
  · rename_i hother
    exact hother

theorem acceptSequence_eq (s : Source V) (sequence : Int) (isSnapshot : Bool) :
    (s.acceptSequence sequence isSnapshot).2 =
      { s with
        lastSequence := (s.acceptSequence sequence isSnapshot).2.lastSequence
        resyncInProgress := (s.acceptSequence sequence isSnapshot).2.resyncInProgress } := by
  rw [Source.acceptSequence]
  split
  · rfl
  · split
    · rfl
    · split <;> rfl

theorem Sound.lawful_idle (hs : Sound s) (hasks : t.pendingAsks = s.pendingAsks)
    (hsends : t.pendingSends = s.pendingSends) (horder : t.pendingSendOrder = s.pendingSendOrder)
    (hsequence : t.requestSequence = s.requestSequence) (hcalls : t.calls = s.calls)
    (hready : s.ready ≠ .pending → t.ready = s.ready) : Lawful s a t :=
  ⟨hs.of_eq hasks hsends horder hsequence hcalls hready, .of_calls hcalls, hready⟩

theorem Sound.lawful_accept (hs : Sound s) (sequence : Int) (isSnapshot : Bool) :
    Lawful s a (s.acceptSequence sequence isSnapshot).2 := by
  rw [acceptSequence_eq]
  exact hs.lawful_idle rfl rfl rfl rfl rfl fun _ => rfl

theorem Sound.lawful_snapshot (hs : Sound s) (sequence : Int) :
    Lawful s a (s.acceptSequence sequence true).2.resolveReady := by
  rw [acceptSequence_eq]
  exact hs.lawful_idle rfl rfl rfl rfl rfl resolveReady_ready

theorem Sound.lawful_reject (hs : Sound s) (message : String)
    (hreason : ∀ (i : Nat) (k : Kind) (n : Nat), s.calls[i]? = some ⟨k, .registered n⟩ →
      Reason s a k n (.rejected message)) : Lawful s a (s.rejectPending message) := by
  have hrejected := hs.rejected message
  exact ⟨hrejected.sound, hrejected.moves hreason, fun h => by
    rw [hrejected.ready, rejectReady_ready h]⟩

theorem Sound.lawful_ack (hs : Sound s) (x : Option String) :
    Lawful s (.receive (.ack x)) (Source.settleTaken (.resolved none) (s.takePendingSend x)) := by
  obtain ⟨n, i, hi, hfor, htake⟩ | ⟨htake, -⟩ := hs.take_cases x
  · rw [htake]
    exact ⟨hs.settleSend hi _, .of_settle hi (.resolved none) ⟨rfl, x, rfl, hfor⟩ rfl, fun _ => rfl⟩
  · rw [htake]
    exact hs.lawful_idle rfl rfl rfl rfl rfl fun _ => rfl

theorem Sound.lawful_reply (hs : Sound s) (id : String) (value : V) :
    Lawful s (.receive (.reply id value)) (s.receiveReply id value) := by
  rw [Source.receiveReply]
  cases hget : s.pendingAsks.get id with
  | none =>
    have hsame : ∀ j, (s.pendingAsks.delete id).get j = s.pendingAsks.get j := by
      intro j
      rw [OrderedMap.get_delete]
      split
      · rename_i hj
        rw [hj, hget]
      · rfl
    refine ⟨⟨hs.sends, fun j i => ?_, hs.order, hs.bound, hs.gate⟩, .of_calls rfl, fun _ => rfl⟩
    dsimp only
    rw [hsame]
    exact hs.asks j i
  | some i =>
    obtain ⟨n, rfl, hi⟩ := (hs.asks id i).mp hget
    refine ⟨hs.settleAsk hi _, ?_, fun _ => rfl⟩
    exact .of_settle hi (.resolved (some value)) ⟨rfl, rfl⟩ rfl

theorem Sound.lawful_sendError (hs : Sound s) (x y : Option String) (message : String)
    (hxy : present x = present y)
    (hnoask : ∀ (i n : Nat), s.calls[i]? = some ⟨.ask, .registered n⟩ →
      present x ≠ some (requestId .ask n)) :
    Lawful s (.receive (.error x message)) (s.receiveSendError y message) := by
  rw [Source.receiveSendError]
  obtain ⟨n, i, hi, hfor, htake⟩ | ⟨htake, hnone⟩ := hs.take_cases y
  · rw [htake]
    have hforx : ForSend s x n := by
      rw [ForSend, hxy]
      exact hfor
    refine ⟨hs.settleSend hi _, ?_, fun _ => rfl⟩
    exact .of_settle hi (.rejected message) ⟨rfl, .inr (.inl ⟨rfl, hforx⟩)⟩ rfl
  · rw [htake]
    have hunclaimed : Unclaimed s x := by
      intro i k n hi
      cases k with
      | send =>
        obtain ⟨id, hid, hne⟩ := hnone i n hi
        rw [hxy, hid]
        exact hne
      | ask =>
        have hother := hnoask i n hi
        cases hx : present x with
        | none => nofun
        | some id => exact fun hid => hother (by rw [hx, hid])
    exact hs.lawful_reject message fun i k n hi => ⟨rfl, .inr (.inr hunclaimed)⟩

theorem Sound.lawful_error (hs : Sound s) (x : Option String) (message : String) :
    Lawful s (.receive (.error x message)) (s.receiveError x message) := by
  rw [Source.receiveError]
  cases hx : present x with
  | none => exact hs.lawful_sendError x none message hx fun i n hi => by rw [hx]; nofun
  | some id =>
    dsimp only
    cases hget : s.pendingAsks.get id with
    | some i =>
      obtain ⟨n, rfl, hi⟩ := (hs.asks id i).mp hget
      refine ⟨hs.settleAsk hi _, ?_, fun _ => rfl⟩
      exact .of_settle hi (.rejected message) ⟨rfl, .inl hx⟩ rfl
    | none =>
      refine hs.lawful_sendError x x message rfl fun i n hi hid => ?_
      obtain rfl := some.inj (hx.symm.trans hid)
      cases hget.symm.trans ((hs.asks _ i).mpr ⟨n, rfl, hi⟩)

theorem Sound.lawful_receive (hs : Sound s) (frame : Frame V) :
    Lawful s (.receive frame) (s.receive readyOnStatus frame) := by
  cases frame with
  | ready | pong | malformed => exact hs.lawful_idle rfl rfl rfl rfl rfl fun _ => rfl
  | snapshot sequence =>
    rw [Source.receive]
    split
    · exact hs.lawful_snapshot sequence
    · exact hs.lawful_accept sequence true
  | event sequence | transition sequence => exact hs.lawful_accept sequence false
  | status replaying =>
    cases readyOnStatus with
    | true =>
      cases replaying with
      | true | false => exact hs.lawful_idle rfl rfl rfl rfl rfl resolveReady_ready
    | false =>
      cases replaying with
      | true | false => exact hs.lawful_idle rfl rfl rfl rfl rfl fun _ => rfl
  | ack x => exact hs.lawful_ack x
  | reply id value => exact hs.lawful_reply id value
  | error x message => exact hs.lawful_error x message

theorem Sound.lawful_unready (hs : Sound s) (hget : s.calls[index]? = some ⟨k, .waiting⟩)
    (hready : s.ready = .rejected message) (thrown : Option String) :
    Lawful s (.resume index thrown)
      { s with calls := settle s.calls index (.rejected message) } := by
  have hnone : ∀ (i : Nat) (k : Kind) (n : Nat), s.calls[i]? ≠ some ⟨k, .registered n⟩ := by
    intro i k n hi
    cases hready.symm.trans (hs.gate i k n hi)
  have hsame : ∀ (i : Nat) (k : Kind) (n : Nat),
      (settle s.calls index (.rejected message))[i]? ≠ some ⟨k, .registered n⟩ := by
    intro i l n hi
    rw [settle_get] at hi
    split at hi
    · rename_i hindex
      rw [← hindex, hget] at hi
      cases hi
    · exact hnone i l n hi
  obtain ⟨numbers, -, horder, hmem⟩ := hs.order
  have hempty : numbers = [] := eq_nil_iff_forall_not_mem.mpr fun n hn => by
    obtain ⟨i, hi⟩ := (hmem n).mp hn
    exact hnone i .send n hi
  refine ⟨⟨fun id i => ?_, fun id i => ?_, ⟨[], .nil, by rw [horder, hempty], fun n => ?_⟩,
    fun i k n hi => absurd hi (hsame i k n), fun i k n hi => absurd hi (hsame i k n)⟩, ?_,
    fun _ => rfl⟩
  · rw [hs.sends]
    exact iff_of_false (fun ⟨n, _, hi⟩ => hnone i .send n hi) fun ⟨n, _, hi⟩ => hsame i .send n hi
  · rw [hs.asks]
    exact iff_of_false (fun ⟨n, _, hi⟩ => hnone i .ask n hi) fun ⟨n, _, hi⟩ => hsame i .ask n hi
  · exact iff_of_false not_mem_nil fun ⟨i, hi⟩ => hsame i .send n hi
  · intro i c hc
    dsimp only
    rw [settle_get]
    split
    · rename_i hindex
      subst hindex
      obtain rfl := some.inj (hget.symm.trans hc)
      exact ⟨_, by rw [hc]; rfl, .unready k message thrown rfl hready⟩
    · exact ⟨c, hc, .same c⟩

theorem Lawful.closed (h : Lawful s a t) : Lawful s a { t with closed := true } :=
  ⟨h.sound.of_eq rfl rfl rfl rfl rfl fun _ => rfl, h.moves, h.ready⟩

theorem step_lawful (hs : Sound s) (h : step readyOnStatus s a = some t) : Lawful s a t := by
  cases a with
  | call kind =>
    cases h
    have hnew : ∀ (i : Nat) (k : Kind) (n : Nat),
        (s.calls ++ [⟨kind, .waiting⟩])[i]? = some ⟨k, .registered n⟩ ↔
          s.calls[i]? = some ⟨k, .registered n⟩ := by
      intro i k n
      rw [getElem?_append]
      split
      · rfl
      · rename_i hlt
        rw [getElem?_eq_none (Nat.le_of_not_lt hlt)]
        refine iff_of_false (fun hi => ?_) nofun
        cases mem_singleton.mp (mem_of_getElem? hi)
    refine ⟨⟨?_, ?_, ?_, fun i k n hi => hs.bound i k n ((hnew i k n).mp hi),
      fun i k n hi => hs.gate i k n ((hnew i k n).mp hi)⟩, fun i c hc => ⟨c, ?_, .same c⟩,
      fun _ => rfl⟩
    · simp only [hnew]
      exact hs.sends
    · simp only [hnew]
      exact hs.asks
    · simp only [hnew]
      exact hs.order
    · exact getElem?_append_left (List.getElem?_eq_some_iff.mp hc).1 ▸ hc
  | resume index thrown =>
    simp only [step] at h
    split at h
    · rename_i k hget
      split at h
      · cases h
      · rename_i hready
        cases h
        refine ⟨hs.register hready hget thrown, register_moves hget thrown, fun _ => ?_⟩
        cases k <;> cases thrown <;> simp [Source.register, Source.takePendingSend,
          present_requestId]
      · rename_i message hready
        cases h
        exact hs.lawful_unready hget hready thrown
    · cases h
  | receive frame =>
    cases h
    exact hs.lawful_receive frame
  | authFailed message =>
    cases h
    exact hs.lawful_reject message fun _ _ _ _ => rfl
  | socketClosed =>
    cases h
    have hreject : Lawful s .socketClosed (s.rejectPending "Actor-Web gateway disconnected.") :=
      hs.lawful_reject _ fun _ _ _ _ => trivial
    exact hreject.closed
  | socketError =>
    cases h
    exact hs.lawful_reject _ fun _ _ _ _ => trivial
  | close =>
    cases h
    have hreject : Lawful s .close (s.rejectPending "Actor-Web source closed.") :=
      hs.lawful_reject _ fun _ _ _ _ => trivial
    exact hreject.closed

/-- A step settles calls for its reasons only, and the end of the connection settles all that
are registered; of a source that never became ready it settles every call, also later ones. -/
structure Correlated (readyOnStatus : Bool) (s : Source V) (a : Action V) (t : Source V) :
    Prop where
  moves : Moves s a t
  closing : a = .socketClosed ∨ a = .close → t.ready ≠ .pending ∧
    ∀ (i : Nat) (k : Kind) (n : Nat), s.calls[i]? = some ⟨k, .registered n⟩ →
      ∃ message, t.calls[i]? = some ⟨k, .settled (.rejected message)⟩
  unready : ∀ message, t.ready = .rejected message →
    (∀ (i : Nat) (k : Kind) (n : Nat), t.calls[i]? ≠ some ⟨k, .registered n⟩) ∧
    ∀ (i : Nat) (k : Kind) (thrown : Option String), t.calls[i]? = some ⟨k, .waiting⟩ →
      ∃ u, step readyOnStatus t (.resume i thrown) = some u ∧
        u.calls[i]? = some ⟨k, .settled (.rejected message)⟩
  ready : s.ready ≠ .pending → t.ready = s.ready

theorem Rejected.closing (h : Rejected message s t) :
    t.ready ≠ .pending ∧ ∀ (i : Nat) (k : Kind) (n : Nat),
      s.calls[i]? = some ⟨k, .registered n⟩ →
        ∃ message, t.calls[i]? = some ⟨k, .settled (.rejected message)⟩ := by
  refine ⟨?_, fun i k n hi => ⟨message, ?_⟩⟩
  · rw [h.ready]
    exact rejectReady_settled s message
  · rw [h.calls, hi]
    rfl

theorem Sound.unready (ht : Sound t) (hready : t.ready = .rejected message) :
    (∀ (i : Nat) (k : Kind) (n : Nat), t.calls[i]? ≠ some ⟨k, .registered n⟩) ∧
    ∀ (i : Nat) (k : Kind) (thrown : Option String), t.calls[i]? = some ⟨k, .waiting⟩ →
      ∃ u, step readyOnStatus t (.resume i thrown) = some u ∧
        u.calls[i]? = some ⟨k, .settled (.rejected message)⟩ := by
  refine ⟨fun i k n hi => ?_, fun i k thrown hi => ?_⟩
  · cases hready.symm.trans (ht.gate i k n hi)
  · refine ⟨{ t with calls := settle t.calls i (.rejected message) }, ?_, ?_⟩
    · simp only [step, hi, hready]
    · dsimp only
      rw [settle_get, if_pos rfl, hi]
      rfl

theorem step_correlated (hs : Sound s) (h : step readyOnStatus s a = some t) :
    Correlated readyOnStatus s a t := by
  have hlawful := step_lawful hs h
  refine ⟨hlawful.moves, ?_, fun message hready => hlawful.sound.unready hready, hlawful.ready⟩
  rintro (rfl | rfl)
  · cases h
    exact (hs.rejected _).closing
  · cases h
    exact (hs.rejected _).closing

def legacyRun : List (Action String) :=
  [.receive .ready, .receive (.snapshot 1), .call .send, .call .send, .resume 0 none,
    .resume 1 none, .receive (.ack none),
    .receive (.error none "Cannot resync an unsubscribed stream.")]

end Steps

end ActorWeb.SourceRequests
