import ActorWeb.Redaction
import Mathlib.Data.List.Nodup

/-! The discovery of peers that keeps its table in memory. -/

namespace ActorWeb.Discovery

open List JsText AgentTraces

section Records

structure RuntimePeerDiscoveryRecord where
  (nodeAddress url : String)
  (nodeId incarnation protocolVersion : Option String)
  metadata : Option (List (String × String))

structure UrlClass where
  Url : Type
  parse : String → Except String Url
  (protocol username password host pathname search : Url → String)
  searchParams : Url → List (String × String)
  setSearch : Url → List (String × String) → Url
  clearHash : Url → Url
  toText : Url → String
  localeCompare : String → String → Ordering

variable (u : UrlClass)

def present (value : Option String) : Option String := value.filter (· ≠ "")

variable (peer : RuntimePeerDiscoveryRecord)

def clonePeer : RuntimePeerDiscoveryRecord :=
  { peer with
    nodeId := present peer.nodeId
    incarnation := present peer.incarnation
    protocolVersion := present peer.protocolVersion }

def isSecretLikeRuntimePeerDiscoveryKey (key : String) : Bool :=
  let letters := key.toList.map Char.toLower
  ["authorization", "cookie", "credential", "jwt", "pass", "privatekey", "private-key", "private_key",
    "secret", "session", "token", "apikey", "api-key", "api_key"].any (includes letters)

def sanitizePeerMetadata (metadata : Option (List (String × String))) :
    Option (List (String × String)) :=
  match metadata with
  | none => none
  | some entries =>
    let filtered := entries.filter fun e => !isSecretLikeRuntimePeerDiscoveryKey e.1
    if 0 < filtered.length then some filtered else none

def sanitizeRuntimePeerDiscoverySearchParams (url : u.Url) : u.Url :=
  u.setSearch url
    (((u.searchParams url).mergeSort fun a b => (u.localeCompare a.1 b.1).isLE).filter fun e =>
      !isSecretLikeRuntimePeerDiscoveryKey e.1)

/-- `/^[a-z][a-z0-9+.-]*:\/\/[^/?#]+(?:[?#]|$)/i`. -/
def hasAuthorityOnlyRuntimePeerDiscoveryUrl (urlInput : String) : Bool :=
  let scheme := urlInput.toList.takeWhile (· ≠ ':')
  let rest := urlInput.toList.drop scheme.length
  let authority := (rest.drop 3).takeWhile fun c => c ≠ '/' && c ≠ '?' && c ≠ '#'
  scheme.head?.any Char.isAlpha &&
    scheme.all (fun c => c.isAlphanum || c = '+' || c = '.' || c = '-') &&
    rest.take 3 = [':', '/', '/'] && authority ≠ [] &&
    ((rest.drop 3).drop authority.length).head? ≠ some '/'

def sanitizeRuntimePeerDiscoveryUrl (urlInput : String) : Except String String :=
  (u.parse urlInput).bind fun url =>
    if u.protocol url ≠ "ws:" && u.protocol url ≠ "wss:" then
      .error "Runtime peer discovery record url must use ws: or wss:."
    else if u.username url ≠ "" || u.password url ≠ "" then
      .error "Runtime peer discovery record url must not include embedded credentials."
    else
      let clean := u.clearHash (sanitizeRuntimePeerDiscoverySearchParams u url)
      if u.pathname clean = "/" && hasAuthorityOnlyRuntimePeerDiscoveryUrl urlInput then
        .ok (u.protocol clean ++ "//" ++ u.host clean ++ u.search clean)
      else .ok (u.toText clean)

def assertPeer : Except String Unit :=
  if trim peer.nodeAddress = "" then
    .error "Runtime peer discovery record requires a non-empty nodeAddress."
  else if trim peer.url = "" then
    .error "Runtime peer discovery record requires a non-empty url."
  else .ok ()

def normalizeRuntimePeerDiscoveryRecord :
    Except String RuntimePeerDiscoveryRecord :=
  (assertPeer peer).bind fun _ =>
    (sanitizeRuntimePeerDiscoveryUrl u peer.url).map fun url =>
      clonePeer
        { nodeAddress := peer.nodeAddress
          url := url
          nodeId := present peer.nodeId
          incarnation := present peer.incarnation
          protocolVersion := present peer.protocolVersion
          metadata := sanitizePeerMetadata peer.metadata }

theorem present_idem (value : Option String) : present (present value) = present value := by
  simp [present, Option.filter_filter]

theorem clonePeer_idem : clonePeer (clonePeer peer) = clonePeer peer := by
  simp only [clonePeer, present_idem]

theorem normalize_clone {peer next : RuntimePeerDiscoveryRecord}
    (h : normalizeRuntimePeerDiscoveryRecord u peer = .ok next) : clonePeer next = next := by
  unfold normalizeRuntimePeerDiscoveryRecord at h
  cases hassert : assertPeer peer with
  | error thrown =>
    rw [hassert] at h
    cases h
  | ok _ =>
    cases hurl : sanitizeRuntimePeerDiscoveryUrl u peer.url with
    | error thrown =>
      rw [hassert, hurl] at h
      cases h
    | ok url =>
      rw [hassert, hurl] at h
      cases h
      exact clonePeer_idem _

end Records

section Table

def setPeer (peer : RuntimePeerDiscoveryRecord) :
    List RuntimePeerDiscoveryRecord → List RuntimePeerDiscoveryRecord
  | [] => [peer]
  | p :: ps => if p.nodeAddress = peer.nodeAddress then peer :: ps else p :: setPeer peer ps

variable (nodeAddress : String)

def deletePeer (peers : List RuntimePeerDiscoveryRecord) :
    List RuntimePeerDiscoveryRecord :=
  peers.filter (·.nodeAddress ≠ nodeAddress)

def hasPeer (peers : List RuntimePeerDiscoveryRecord) : Bool :=
  peers.any (·.nodeAddress = nodeAddress)

inductive RuntimePeerDiscoveryEvent
  | available (peer : RuntimePeerDiscoveryRecord)
  | updated (peer : RuntimePeerDiscoveryRecord)
  | unavailable (nodeAddress : String) (reason : Option String)

inductive Mutation
  | upsert (peer : RuntimePeerDiscoveryRecord)
  | remove (nodeAddress : String) (reason : Option String)

/-- What a mutation makes of the table, and the event that it emits, or the error that it throws. -/
def Mutation.run (u : UrlClass) (peers : List RuntimePeerDiscoveryRecord) :
    Mutation → Except String (List RuntimePeerDiscoveryRecord × Option RuntimePeerDiscoveryEvent)
  | upsert peer =>
    (normalizeRuntimePeerDiscoveryRecord u peer).map fun next =>
      (setPeer next peers,
        some (if hasPeer next.nodeAddress peers then .updated (clonePeer next)
          else .available (clonePeer next)))
  | remove nodeAddress reason =>
    if hasPeer nodeAddress peers then
      .ok (deletePeer nodeAddress peers, some (.unavailable nodeAddress (present reason)))
    else .ok (peers, none)

variable (peers : List RuntimePeerDiscoveryRecord)

def replay :
    RuntimePeerDiscoveryEvent → List RuntimePeerDiscoveryRecord
  | .available peer | .updated peer => setPeer peer peers
  | .unavailable nodeAddress _ => deletePeer nodeAddress peers

theorem setPeer_idem (peer : RuntimePeerDiscoveryRecord) (peers : List RuntimePeerDiscoveryRecord) :
    setPeer peer (setPeer peer peers) = setPeer peer peers := by
  induction peers with
  | nil => simp [setPeer]
  | cons p ps ih =>
    by_cases h : p.nodeAddress = peer.nodeAddress
    · simp [setPeer, h]
    · simp [setPeer, h, ih]

theorem deletePeer_idem (peers : List RuntimePeerDiscoveryRecord) :
    deletePeer nodeAddress (deletePeer nodeAddress peers) = deletePeer nodeAddress peers := by
  simp [deletePeer, filter_filter]

theorem replay_idem (event : RuntimePeerDiscoveryEvent) :
    replay (replay peers event) event = replay peers event := by
  cases event with
  | available peer => exact setPeer_idem peer peers
  | updated peer => exact setPeer_idem peer peers
  | unavailable nodeAddress reason => exact deletePeer_idem nodeAddress peers

theorem deletePeer_absent {nodeAddress : String} {peers : List RuntimePeerDiscoveryRecord}
    (h : hasPeer nodeAddress peers = false) : deletePeer nodeAddress peers = peers := by
  rw [hasPeer, any_eq_false] at h
  refine filter_eq_self.mpr fun p hp => ?_
  simpa using h p hp

theorem mem_setPeer {peer p : RuntimePeerDiscoveryRecord} {peers : List RuntimePeerDiscoveryRecord}
    (h : p ∈ setPeer peer peers) : p = peer ∨ p ∈ peers := by
  induction peers with
  | nil => exact .inl (mem_singleton.mp h)
  | cons q ps ih =>
    unfold setPeer at h
    by_cases hq : q.nodeAddress = peer.nodeAddress
    · rw [if_pos hq] at h
      obtain rfl | h := mem_cons.mp h
      · exact .inl rfl
      · exact .inr (mem_cons_of_mem q h)
    · rw [if_neg hq] at h
      obtain rfl | h := mem_cons.mp h
      · exact .inr mem_cons_self
      · exact (ih h).imp_right (mem_cons_of_mem q)

theorem deleteAll : (peers.map (·.nodeAddress)).foldl (fun ps a => deletePeer a ps) peers = [] := by
  have hkept : ∀ (addresses : List String) (ps : List RuntimePeerDiscoveryRecord)
      (p : RuntimePeerDiscoveryRecord), p ∈ addresses.foldl (fun ps a => deletePeer a ps) ps →
      p ∈ ps ∧ p.nodeAddress ∉ addresses := by
    intro addresses
    induction addresses with
    | nil => exact fun ps p h => ⟨h, not_mem_nil⟩
    | cons a as ih =>
      intro ps p h
      obtain ⟨hmem, hnot⟩ := ih _ p h
      obtain ⟨hmem, hne⟩ := mem_filter.mp hmem
      refine ⟨hmem, fun hin => ?_⟩
      obtain heq | hin := mem_cons.mp hin
      · exact of_decide_eq_true hne heq
      · exact hnot hin
  refine eq_nil_iff_forall_not_mem.mpr fun p hp => ?_
  obtain ⟨hmem, hnot⟩ := hkept _ _ p hp
  exact hnot (mem_map_of_mem hmem)

theorem Mutation.run_replay {u : UrlClass} {m : Mutation}
    {peers peers' : List RuntimePeerDiscoveryRecord} {event : Option RuntimePeerDiscoveryEvent}
    (h : m.run u peers = .ok (peers', event)) : peers' = event.toList.foldl replay peers := by
  cases m with
  | upsert peer =>
    simp only [Mutation.run] at h
    cases hnext : normalizeRuntimePeerDiscoveryRecord u peer with
    | error thrown =>
      rw [hnext] at h
      cases h
    | ok next =>
      rw [hnext] at h
      cases h
      have hclone := normalize_clone u hnext
      by_cases hhas : hasPeer next.nodeAddress peers = true
      · simp [hhas, hclone, replay]
      · simp [hhas, hclone, replay]
  | remove nodeAddress reason =>
    simp only [Mutation.run] at h
    by_cases hhas : hasPeer nodeAddress peers = true
    · rw [if_pos hhas] at h
      cases h
      rfl
    · rw [if_neg hhas] at h
      cases h
      rfl

def Stored : Prop := ∀ p ∈ peers, clonePeer p = p

theorem Mutation.run_stored {u : UrlClass} {m : Mutation}
    {peers peers' : List RuntimePeerDiscoveryRecord} {event : Option RuntimePeerDiscoveryEvent}
    (h : m.run u peers = .ok (peers', event)) (hstored : Stored peers) : Stored peers' := by
  cases m with
  | upsert peer =>
    simp only [Mutation.run] at h
    cases hnext : normalizeRuntimePeerDiscoveryRecord u peer with
    | error thrown =>
      rw [hnext] at h
      cases h
    | ok next =>
      rw [hnext] at h
      cases h
      intro p hp
      obtain rfl | hp := mem_setPeer hp
      · exact normalize_clone u hnext
      · exact hstored p hp
  | remove nodeAddress reason =>
    simp only [Mutation.run] at h
    by_cases hhas : hasPeer nodeAddress peers = true
    · rw [if_pos hhas] at h
      cases h
      exact fun p hp => hstored p (mem_of_mem_filter hp)
    · rw [if_neg hhas] at h
      cases h
      exact hstored

end Table

section Provider

inductive Call
  | upsertPeer (peer : RuntimePeerDiscoveryRecord)
  | removePeer (nodeAddress : String) (reason : Option String)
  | registerSelf (peer : RuntimePeerDiscoveryRecord)
  | unregisterSelf (nodeAddress : String)
  | clear

/-- The mutation that a call serializes, `none` for `clear`, which makes a call for every peer. -/
def Call.mutation : Call → Option Mutation
  | upsertPeer peer | registerSelf peer => some (.upsert peer)
  | removePeer nodeAddress reason => some (.remove nodeAddress reason)
  | unregisterSelf nodeAddress => some (.remove nodeAddress (some "node stopped"))
  | clear => none

variable {L : Type}

inductive Frame (L : Type)
  | clearing (rest : List String)
  | serializing (firstMutationError : Option String)
  | emitting (event : RuntimePeerDiscoveryEvent) (rest : List L)
  | listening (listener : L)

structure Provider (L : Type) where
  peers : List RuntimePeerDiscoveryRecord
  listeners : List L
  pendingMutations : List Mutation
  processingMutations : Bool
  stack : List (Frame L)

def createInMemoryRuntimePeerDiscoveryProvider : Provider L := ⟨[], [], [], false, []⟩

def getPeers (s : Provider L) : List RuntimePeerDiscoveryRecord := s.peers.map clonePeer

/-- What happens next: code outside of the provider, which may be a listener, calls the provider, a
listener returns or throws, or the provider's own code goes on. -/
inductive Action (L : Type)
  | call (c : Call)
  | subscribe (listener : L)
  | unsubscribe (listener : L)
  | finish
  | tick

def outside : List (Frame L) → Bool
  | [] | .listening _ :: _ => true
  | _ => false

def runSerializedMutation (m : Mutation) (s : Provider L) : Provider L :=
  if s.processingMutations then { s with pendingMutations := s.pendingMutations ++ [m] }
  else
    { s with
      pendingMutations := s.pendingMutations ++ [m]
      processingMutations := true
      stack := .serializing none :: s.stack }

def unwound : List (Frame L) → List (Frame L)
  | .clearing _ :: stack => stack
  | stack => stack

def tick (u : UrlClass) (s : Provider L) : Option (Provider L) :=
  match s.stack with
  | .clearing [] :: stack => some { s with stack }
  | .clearing (nodeAddress :: rest) :: stack =>
    some (runSerializedMutation (.remove nodeAddress (some "discovery cleared"))
      { s with stack := .clearing rest :: stack })
  | .serializing firstMutationError :: stack =>
    match s.pendingMutations with
    | [] =>
      some { s with
        processingMutations := false
        stack := if firstMutationError.isSome then unwound stack else stack }
    | nextMutation :: pending =>
      match nextMutation.run u s.peers with
      | .error thrown =>
        some { s with
          pendingMutations := pending
          stack := .serializing (some (firstMutationError.getD thrown)) :: stack }
      | .ok (peers, none) =>
        some { s with
          peers
          pendingMutations := pending
          stack := .serializing firstMutationError :: stack }
      | .ok (peers, some event) =>
        some { s with
          peers
          pendingMutations := pending
          stack := .emitting event s.listeners :: .serializing firstMutationError :: stack }
  | .emitting _ [] :: stack => some { s with stack }
  | .emitting event (listener :: rest) :: stack =>
    some { s with stack := .listening listener :: .emitting event rest :: stack }
  | _ => none

variable [DecidableEq L]

def step (u : UrlClass) (s : Provider L) : Action L → Option (Provider L)
  | .call c =>
    if outside s.stack then
      match c.mutation with
      | some m => some (runSerializedMutation m s)
      | none => some { s with stack := .clearing (s.peers.map (·.nodeAddress)) :: s.stack }
    else none
  | .subscribe listener =>
    if outside s.stack then
      some { s with
        listeners := if listener ∈ s.listeners then s.listeners else s.listeners ++ [listener] }
    else none
  | .unsubscribe listener =>
    if outside s.stack then some { s with listeners := s.listeners.filter (· ≠ listener) } else none
  | .finish =>
    match s.stack with
    | .listening _ :: stack => some { s with stack }
    | _ => none
  | .tick => tick u s

abbrev History (L : Type) := List (Provider L × Action L)

inductive Run (u : UrlClass) : Provider L → History L → Provider L → Prop
  | nil (s : Provider L) : Run u s [] s
  | cons {s t s' : Provider L} {a : Action L} {h : History L} (hstep : step u s a = some t)
      (hrun : Run u t h s') : Run u s ((s, a) :: h) s'

end Provider

section Observations

variable {L : Type}

def called (h : History L) : List Call :=
  h.filterMap fun e => match e.2 with
    | .call c => some c
    | _ => none

def hears : Provider L × Action L → Option (L × RuntimePeerDiscoveryEvent)
  | (s, .tick) =>
    match s.stack with
    | .emitting event (listener :: _) :: _ => some (listener, event)
    | _ => none
  | _ => none

def heard [DecidableEq L] (listener : L) (e : Provider L × Action L) :
    Option RuntimePeerDiscoveryEvent :=
  ((hears e).filter fun heard => heard.1 = listener).map Prod.snd

def heardBy [DecidableEq L] (listener : L) (h : History L) : List RuntimePeerDiscoveryEvent :=
  h.filterMap (heard listener)

/-- The result of a call, for its caller: `none` where no call ends, and `some none` where one ends
without an error. -/
def ended : Provider L × Action L → Option (Option String)
  | (s, .call c) => if c.mutation.isSome && s.processingMutations then some none else none
  | (s, .tick) =>
    match s.stack, s.pendingMutations with
    | .clearing [] :: _, _ => some none
    | .serializing firstMutationError :: .clearing _ :: _, [] => firstMutationError.map some
    | .serializing firstMutationError :: _, [] => some firstMutationError
    | _, _ => none
  | _ => none

def Call.perform (u : UrlClass) (peers : List RuntimePeerDiscoveryRecord) :
    Call → List RuntimePeerDiscoveryRecord
  | upsertPeer peer | registerSelf peer =>
    match normalizeRuntimePeerDiscoveryRecord u peer with
    | .ok next => setPeer next peers
    | .error _ => peers
  | removePeer nodeAddress _ | unregisterSelf nodeAddress => deletePeer nodeAddress peers
  | clear => []

def Call.Invalid (u : UrlClass) : Call → Prop
  | upsertPeer peer | registerSelf peer =>
    ∃ thrown, normalizeRuntimePeerDiscoveryRecord u peer = .error thrown
  | removePeer _ _ | unregisterSelf _ | clear => False

def Apart (e : Provider L × Action L) : Prop :=
  ∀ c, e.2 = .call c → (c = .clear → e.1.stack = []) ∧ ∀ rest, .clearing rest ∉ e.1.stack

def SubscribedThroughout (listener : L) (s : Provider L) (h : History L) : Prop :=
  listener ∈ s.listeners ∧ ∀ e ∈ h, e.2 ≠ .unsubscribe listener

structure Orderly [DecidableEq L] (u : UrlClass) (s : Provider L) (h : History L)
    (s' : Provider L) : Prop where
  same : s.stack = [] → s'.stack = [] → ∀ l l', SubscribedThroughout l s h →
    SubscribedThroughout l' s h → heardBy l h = heardBy l' h
  unnested : ∀ e ∈ h, (hears e).isSome = true → ∀ l, .listening l ∉ e.1.stack
  replayed : s'.stack = [] → ∀ l, SubscribedThroughout l s h →
    (heardBy l h).foldl replay (getPeers s) = getPeers s'
  inOrder : s.stack = [] → s'.stack = [] → (∀ e ∈ h, Apart e) →
    getPeers s' = (called h).foldl (Call.perform u) (getPeers s)
  thrown : s.stack = [] → s'.stack = [] → ∀ c h', h = (s, .call c) :: h' →
    (∀ e ∈ h', e.1.stack ≠ []) → ∃ result, h.getLast?.bind ended = some result ∧
      (result.isSome = true ↔ ∃ c' ∈ called h, c'.Invalid u)
  nested : ∀ e ∈ h, ∀ thrown t, ended e = some (some thrown) → step u e.1 e.2 = some t →
    t.stack = []

end Observations

section Moves

variable {L : Type} [DecidableEq L] {u : UrlClass}

def base : Option (List String) → List (Frame L)
  | none => []
  | some rest => [.clearing rest]

inductive Sound : Provider L → Prop
  | idle {peers listeners} (b : Option (List String)) (hstored : Stored peers)
      (hnodup : listeners.Nodup) : Sound ⟨peers, listeners, [], false, base b⟩
  | serializing {peers listeners} (pending firstError) (b : Option (List String))
      (hstored : Stored peers) (hnodup : listeners.Nodup) :
      Sound ⟨peers, listeners, pending, true, .serializing firstError :: base b⟩
  | emitting {peers listeners event rest} (pending firstError) (b : Option (List String))
      (hstored : Stored peers) (hnodup : listeners.Nodup) (hrest : rest.Nodup)
      (htold : replay peers event = peers) :
      Sound ⟨peers, listeners, pending, true,
        .emitting event rest :: .serializing firstError :: base b⟩
  | listening {peers listeners event rest} (pending firstError) (b : Option (List String))
      (listener : L) (hstored : Stored peers) (hnodup : listeners.Nodup) (hrest : rest.Nodup)
      (htold : replay peers event = peers) :
      Sound ⟨peers, listeners, pending, true,
        .listening listener :: .emitting event rest :: .serializing firstError :: base b⟩
  | clearing {peers listeners event rest} (pending firstError) (b : Option (List String))
      (listener : L) (addresses : List String) (hstored : Stored peers) (hnodup : listeners.Nodup)
      (hrest : rest.Nodup) (htold : replay peers event = peers) :
      Sound ⟨peers, listeners, pending, true,
        .clearing addresses :: .listening listener :: .emitting event rest ::
          .serializing firstError :: base b⟩

inductive Move (u : UrlClass) : Provider L → Action L → Provider L → Prop
  | start {peers listeners c m} (hm : c.mutation = some m) :
      Move u ⟨peers, listeners, [], false, []⟩ (.call c)
        ⟨peers, listeners, [m], true, [.serializing none]⟩
  | clear {peers listeners} :
      Move u ⟨peers, listeners, [], false, []⟩ (.call .clear)
        ⟨peers, listeners, [], false, [.clearing (peers.map (·.nodeAddress))]⟩
  | enqueue {peers listeners pending stack c m} (listener : L) (hm : c.mutation = some m) :
      Move u ⟨peers, listeners, pending, true, .listening listener :: stack⟩ (.call c)
        ⟨peers, listeners, pending ++ [m], true, .listening listener :: stack⟩
  | nestedClear {peers listeners pending stack} (listener : L) :
      Move u ⟨peers, listeners, pending, true, .listening listener :: stack⟩ (.call .clear)
        ⟨peers, listeners, pending, true,
          .clearing (peers.map (·.nodeAddress)) :: .listening listener :: stack⟩
  | subscribe {s : Provider L} (listener : L) :
      Move u s (.subscribe listener) { s with
        listeners := if listener ∈ s.listeners then s.listeners else s.listeners ++ [listener] }
  | unsubscribe {s : Provider L} (listener : L) :
      Move u s (.unsubscribe listener) { s with listeners := s.listeners.filter (· ≠ listener) }
  | finish {peers listeners pending event rest firstError b} (listener : L) :
      Move u ⟨peers, listeners, pending, true,
          .listening listener :: .emitting event rest :: .serializing firstError :: base b⟩ .finish
        ⟨peers, listeners, pending, true, .emitting event rest :: .serializing firstError :: base b⟩
  | cleared {peers listeners} :
      Move u ⟨peers, listeners, [], false, [.clearing []]⟩ .tick ⟨peers, listeners, [], false, []⟩
  | nestedCleared {peers listeners pending stack} (listener : L) :
      Move u ⟨peers, listeners, pending, true, .clearing [] :: .listening listener :: stack⟩ .tick
        ⟨peers, listeners, pending, true, .listening listener :: stack⟩
  | clearNext {peers listeners} (nodeAddress : String) (rest : List String) :
      Move u ⟨peers, listeners, [], false, [.clearing (nodeAddress :: rest)]⟩ .tick
        ⟨peers, listeners, [.remove nodeAddress (some "discovery cleared")], true,
          [.serializing none, .clearing rest]⟩
  | nestedClearNext {peers listeners pending stack} (nodeAddress : String) (rest : List String)
      (listener : L) :
      Move u ⟨peers, listeners, pending, true,
          .clearing (nodeAddress :: rest) :: .listening listener :: stack⟩ .tick
        ⟨peers, listeners, pending ++ [.remove nodeAddress (some "discovery cleared")], true,
          .clearing rest :: .listening listener :: stack⟩
  | serialized {peers listeners} (firstError : Option String) (b : Option (List String)) :
      Move u ⟨peers, listeners, [], true, .serializing firstError :: base b⟩ .tick
        ⟨peers, listeners, [], false, base (if firstError.isSome then none else b)⟩
  | mutationFails {peers listeners m pending thrown} (firstError : Option String)
      (b : Option (List String)) (hrun : m.run u peers = .error thrown) :
      Move u ⟨peers, listeners, m :: pending, true, .serializing firstError :: base b⟩ .tick
        ⟨peers, listeners, pending, true, .serializing (some (firstError.getD thrown)) :: base b⟩
  | mutationSkips {peers peers' listeners m pending} (firstError : Option String)
      (b : Option (List String)) (hrun : m.run u peers = .ok (peers', none)) :
      Move u ⟨peers, listeners, m :: pending, true, .serializing firstError :: base b⟩ .tick
        ⟨peers', listeners, pending, true, .serializing firstError :: base b⟩
  | mutationEmits {peers peers' listeners m pending event} (firstError : Option String)
      (b : Option (List String)) (hrun : m.run u peers = .ok (peers', some event)) :
      Move u ⟨peers, listeners, m :: pending, true, .serializing firstError :: base b⟩ .tick
        ⟨peers', listeners, pending, true,
          .emitting event listeners :: .serializing firstError :: base b⟩
  | emitted {peers listeners pending firstError b} (event : RuntimePeerDiscoveryEvent) :
      Move u ⟨peers, listeners, pending, true,
          .emitting event [] :: .serializing firstError :: base b⟩ .tick
        ⟨peers, listeners, pending, true, .serializing firstError :: base b⟩
  | notify {peers listeners pending firstError b} (event : RuntimePeerDiscoveryEvent) (listener : L)
      (rest : List L) (hnodup : (listener :: rest).Nodup) :
      Move u ⟨peers, listeners, pending, true,
          .emitting event (listener :: rest) :: .serializing firstError :: base b⟩ .tick
        ⟨peers, listeners, pending, true,
          .listening listener :: .emitting event rest :: .serializing firstError :: base b⟩

omit [DecidableEq L] in
theorem outside_base {b : Option (List String)} (h : outside (base b : List (Frame L)) = true) :
    b = none := by
  cases b with
  | none => rfl
  | some rest => cases h

theorem mutation_eq_none {c : Call} (h : c.mutation = none) : c = .clear := by
  cases c <;> first | rfl | cases h

omit [DecidableEq L] in
theorem base_unwound (b : Option (List String)) (failed : Bool) :
    (if failed then unwound (base b : List (Frame L)) else base b) =
      base (if failed then none else b) := by
  cases failed with
  | false => rfl
  | true => cases b <;> rfl

variable {s t : Provider L}

omit [DecidableEq L] in
theorem Sound.relisten (hs : Sound s) {ls : List L} (hls : ls.Nodup) :
    Sound { s with listeners := ls } := by
  cases hs with
  | idle b hstored hnodup => exact .idle b hstored hls
  | serializing pending firstError b hstored hnodup =>
    exact .serializing pending firstError b hstored hls
  | emitting pending firstError b hstored hnodup hrest htold =>
    exact .emitting pending firstError b hstored hls hrest htold
  | listening pending firstError b listener hstored hnodup hrest htold =>
    exact .listening pending firstError b listener hstored hls hrest htold
  | clearing pending firstError b listener addresses hstored hnodup hrest htold =>
    exact .clearing pending firstError b listener addresses hstored hls hrest htold

omit [DecidableEq L] in
theorem Sound.nodup (hs : Sound s) : s.listeners.Nodup := by
  cases hs <;> assumption

omit [DecidableEq L] in
theorem Sound.stored (hs : Sound s) : Stored s.peers := by
  cases hs <;> assumption

theorem step_subscribe {l : L} (hs : Sound s)
    (h : step u s (.subscribe l) = some t) : Move u s (.subscribe l) t ∧ Sound t := by
  simp only [step] at h
  by_cases hout : outside s.stack = true
  · rw [if_pos hout] at h
    cases h
    refine ⟨.subscribe l, hs.relisten ?_⟩
    by_cases hl : l ∈ s.listeners
    · rw [if_pos hl]
      exact hs.nodup
    · rw [if_neg hl]
      refine List.Nodup.append hs.nodup (nodup_singleton l) ?_
      exact disjoint_singleton.mpr hl
  · rw [if_neg hout] at h
    cases h

theorem step_unsubscribe {l : L} (hs : Sound s)
    (h : step u s (.unsubscribe l) = some t) : Move u s (.unsubscribe l) t ∧ Sound t := by
  simp only [step] at h
  by_cases hout : outside s.stack = true
  · rw [if_pos hout] at h
    cases h
    exact ⟨.unsubscribe l, hs.relisten (hs.nodup.filter _)⟩
  · rw [if_neg hout] at h
    cases h

theorem step_call {c : Call} (hs : Sound s) (h : step u s (.call c) = some t) :
    Move u s (.call c) t ∧ Sound t := by
  simp only [step] at h
  by_cases hout : outside s.stack = true
  · rw [if_pos hout] at h
    cases hs with
    | idle b hstored hnodup =>
      obtain rfl := outside_base hout
      cases hm : c.mutation with
      | some m =>
        rw [hm] at h
        cases h
        exact ⟨.start hm, .serializing _ none none hstored hnodup⟩
      | none =>
        obtain rfl := mutation_eq_none hm
        cases h
        exact ⟨.clear, .idle (some _) hstored hnodup⟩
    | serializing pending firstError b hstored hnodup => cases hout
    | emitting pending firstError b hstored hnodup hrest htold => cases hout
    | listening pending firstError b listener hstored hnodup hrest htold =>
      cases hm : c.mutation with
      | some m =>
        rw [hm] at h
        cases h
        exact ⟨.enqueue listener hm,
          .listening _ firstError b listener hstored hnodup hrest htold⟩
      | none =>
        obtain rfl := mutation_eq_none hm
        cases h
        exact ⟨.nestedClear listener,
          .clearing pending firstError b listener _ hstored hnodup hrest htold⟩
    | clearing pending firstError b listener addresses hstored hnodup hrest htold => cases hout
  · rw [if_neg hout] at h
    cases h

theorem step_finish (hs : Sound s) (h : step u s .finish = some t) :
    Move u s .finish t ∧ Sound t := by
  simp only [step] at h
  cases hs with
  | idle b hstored hnodup => cases b <;> cases h
  | serializing pending firstError b hstored hnodup => cases h
  | emitting pending firstError b hstored hnodup hrest htold => cases h
  | listening pending firstError b listener hstored hnodup hrest htold =>
    cases h
    exact ⟨.finish listener, .emitting pending firstError b hstored hnodup hrest htold⟩
  | clearing pending firstError b listener addresses hstored hnodup hrest htold => cases h

theorem tick_serializing {peers : List RuntimePeerDiscoveryRecord} {listeners : List L}
    {pending : List Mutation} {firstError : Option String} {b : Option (List String)}
    (hstored : Stored peers) (hnodup : listeners.Nodup)
    (h : tick u ⟨peers, listeners, pending, true, .serializing firstError :: base b⟩ = some t) :
    Move u ⟨peers, listeners, pending, true, .serializing firstError :: base b⟩ .tick t ∧
      Sound t := by
  cases pending with
  | nil =>
    cases h
    rw [base_unwound]
    exact ⟨.serialized firstError b, .idle _ hstored hnodup⟩
  | cons m pending =>
    cases hrun : m.run u peers with
    | error thrown =>
      simp only [tick, hrun] at h
      cases h
      exact ⟨.mutationFails firstError b hrun, .serializing pending _ b hstored hnodup⟩
    | ok result =>
      obtain ⟨peers', event⟩ := result
      have hstored' := Mutation.run_stored hrun hstored
      cases event with
      | none =>
        simp only [tick, hrun] at h
        cases h
        exact ⟨.mutationSkips firstError b hrun,
          .serializing pending firstError b hstored' hnodup⟩
      | some event =>
        simp only [tick, hrun] at h
        cases h
        refine ⟨.mutationEmits firstError b hrun,
          .emitting pending firstError b hstored' hnodup hnodup ?_⟩
        obtain rfl : peers' = replay peers event := Mutation.run_replay hrun
        exact replay_idem peers event

theorem step_tick (hs : Sound s) (h : tick u s = some t) : Move u s .tick t ∧ Sound t := by
  cases hs with
  | idle b hstored hnodup =>
    cases b with
    | none => cases h
    | some addresses =>
      cases addresses with
      | nil =>
        cases h
        exact ⟨.cleared, .idle none hstored hnodup⟩
      | cons nodeAddress rest =>
        cases h
        exact ⟨.clearNext nodeAddress rest, .serializing _ none (some rest) hstored hnodup⟩
  | serializing pending firstError b hstored hnodup => exact tick_serializing hstored hnodup h
  | @emitting _ _ event rest pending firstError b hstored hnodup hrest htold =>
    cases rest with
    | nil =>
      cases h
      exact ⟨.emitted event, .serializing pending firstError b hstored hnodup⟩
    | cons listener rest =>
      cases h
      exact ⟨.notify event listener rest hrest,
        .listening pending firstError b listener hstored hnodup hrest.of_cons htold⟩
  | listening pending firstError b listener hstored hnodup hrest htold => cases h
  | clearing pending firstError b listener addresses hstored hnodup hrest htold =>
    cases addresses with
    | nil =>
      cases h
      exact ⟨.nestedCleared listener,
        .listening pending firstError b listener hstored hnodup hrest htold⟩
    | cons nodeAddress rest =>
      cases h
      exact ⟨.nestedClearNext nodeAddress rest listener,
        .clearing _ firstError b listener rest hstored hnodup hrest htold⟩

theorem step_move {a : Action L} (hs : Sound s) (h : step u s a = some t) :
    Move u s a t ∧ Sound t := by
  cases a with
  | call c => exact step_call hs h
  | subscribe l => exact step_subscribe hs h
  | unsubscribe l => exact step_unsubscribe hs h
  | finish => exact step_finish hs h
  | tick => exact step_tick hs h

end Moves

section Hearing

variable {L : Type} [DecidableEq L] {u : UrlClass} {s t : Provider L} {a : Action L} {l : L}

def Frame.toHear (l : L) : Frame L → List RuntimePeerDiscoveryEvent
  | .emitting event rest => if l ∈ rest then [event] else []
  | _ => []

def toHear (l : L) (s : Provider L) : List RuntimePeerDiscoveryEvent :=
  s.stack.flatMap (Frame.toHear l)

def emittedIn (u : UrlClass) : Provider L × Action L → Option RuntimePeerDiscoveryEvent
  | (s, .tick) =>
    match s.stack, s.pendingMutations with
    | .serializing _ :: _, m :: _ =>
      match m.run u s.peers with
      | .ok (_, event) => event
      | .error _ => none
    | _, _ => none
  | _ => none

theorem toHear_base (b : Option (List String)) : (base b).flatMap (Frame.toHear l) = [] := by
  cases b <;> rfl

theorem heard_of_none {e : Provider L × Action L} (h : hears e = none) : heard l e = none := by
  rw [heard, h]
  rfl

theorem hears_nothing {e : Provider L × Action L} (hheard : hears e = none)
    (hemitted : emittedIn u e = none) (hstack : toHear l t = toHear l s) :
    (heard l e).toList ++ toHear l t = toHear l s ++ (emittedIn u e).toList := by
  rw [heard_of_none hheard, hemitted, hstack]
  exact (append_nil _).symm

theorem move_hears (h : Move u s a t) (hl : l ∈ s.listeners) :
    (heard l (s, a)).toList ++ toHear l t = toHear l s ++ (emittedIn u (s, a)).toList := by
  cases h with
  | start hm | clear | enqueue listener hm | nestedClear listener | subscribe listener
  | unsubscribe listener | finish listener | cleared | nestedCleared listener
  | clearNext nodeAddress rest | nestedClearNext nodeAddress rest listener | emitted event =>
    exact hears_nothing rfl rfl rfl
  | serialized firstError b => exact hears_nothing rfl rfl ((toHear_base _).trans (toHear_base b).symm)
  | mutationFails firstError b hrun | mutationSkips firstError b hrun =>
    exact hears_nothing rfl (by simp only [emittedIn, hrun]) rfl
  | mutationEmits firstError b hrun =>
    have hmem := hl
    rw [heard_of_none rfl]
    simp [toHear, Frame.toHear, toHear_base, emittedIn, hrun, hmem]
  | notify event listener rest hnodup =>
    obtain ⟨hnot, -⟩ := nodup_cons.mp hnodup
    by_cases heq : listener = l
    · subst heq
      simp [heard, hears, Option.filter, toHear, Frame.toHear, toHear_base, emittedIn, hnot]
    · simp [heard, hears, Option.filter, toHear, Frame.toHear, toHear_base, emittedIn, heq, Ne.symm heq]

theorem move_replays (h : Move u s a t) :
    t.peers = (emittedIn u (s, a)).toList.foldl replay s.peers := by
  cases h with
  | start hm => rfl
  | clear => rfl
  | enqueue listener hm => rfl
  | nestedClear listener => rfl
  | subscribe listener => rfl
  | unsubscribe listener => rfl
  | finish listener => rfl
  | cleared => rfl
  | nestedCleared listener => rfl
  | clearNext nodeAddress rest => rfl
  | nestedClearNext nodeAddress rest listener => rfl
  | serialized firstError b => rfl
  | mutationFails firstError b hrun =>
    simp only [emittedIn, hrun]
    rfl
  | mutationSkips firstError b hrun | mutationEmits firstError b hrun =>
    simp only [emittedIn, hrun]
    exact Mutation.run_replay hrun
  | emitted event => rfl
  | notify event listener rest hnodup => rfl

theorem move_subscribed (h : Move u s a t) (hl : l ∈ s.listeners) (ha : a ≠ .unsubscribe l) :
    l ∈ t.listeners := by
  cases h with
  | subscribe listener =>
    by_cases hmem : listener ∈ s.listeners
    · simpa only [if_pos hmem] using hl
    · simpa only [if_neg hmem] using mem_append_left _ hl
  | unsubscribe listener =>
    refine mem_filter.mpr ⟨hl, decide_eq_true fun heq => ha ?_⟩
    rw [heq]
  | _ => exact hl

theorem Sound.toHear_told (hs : Sound s) : (toHear l s).foldl replay s.peers = s.peers := by
  cases hs with
  | idle b hstored hnodup => simp [toHear, toHear_base]
  | serializing pending firstError b hstored hnodup => simp [toHear, Frame.toHear, toHear_base]
  | @emitting _ _ event rest pending firstError b hstored hnodup hrest htold
  | @listening _ _ event rest pending firstError b listener hstored hnodup hrest htold
  | @clearing _ _ event rest pending firstError b listener addresses hstored hnodup hrest htold =>
    by_cases hl : l ∈ rest <;> simp [toHear, Frame.toHear, toHear_base, hl, htold]

theorem toHear_quiet (h : s.stack = []) : toHear l s = [] := by
  rw [toHear, h]
  rfl

omit [DecidableEq L] in
theorem Sound.unnested (hs : Sound s) (h : (hears (s, a)).isSome = true) : .listening l ∉ s.stack := by
  cases hs with
  | idle b hstored hnodup | serializing pending firstError b hstored hnodup
  | emitting pending firstError b hstored hnodup hrest htold => cases b <;> simp [base]
  | listening pending firstError b listener hstored hnodup hrest htold => cases a <;> cases h
  | clearing pending firstError b listener addresses hstored hnodup hrest htold =>
    cases a <;> cases h

variable {h : History L} {s' : Provider L}

omit [DecidableEq L] in
theorem filterMap_split {β : Type} (f : Provider L × Action L → Option β)
    (e : Provider L × Action L) (h : History L) :
    (e :: h).filterMap f = (f e).toList ++ h.filterMap f := by
  rw [filterMap_cons]
  cases f e <;> rfl

theorem run_sound (hs : Sound s) (hrun : Run u s h s') : Sound s' ∧ ∀ e ∈ h, Sound e.1 := by
  induction hrun with
  | nil s => exact ⟨hs, forall_mem_nil _⟩
  | cons hstep _ ih =>
    obtain ⟨hs', hsounds⟩ := ih (step_move hs hstep).2
    exact ⟨hs', forall_mem_cons.mpr ⟨hs, hsounds⟩⟩

theorem run_hears (hs : Sound s) (hrun : Run u s h s') (hl : SubscribedThroughout l s h) :
    heardBy l h ++ toHear l s' = toHear l s ++ h.filterMap (emittedIn u) := by
  induction hrun with
  | nil s => exact (append_nil _).symm
  | @cons s t s' a h hstep _ ih =>
    obtain ⟨hmove, ht⟩ := step_move hs hstep
    obtain ⟨ha, hrest⟩ := forall_mem_cons.mp hl.2
    rw [heardBy, filterMap_split, filterMap_split, append_assoc, ← heardBy,
      ih ht ⟨move_subscribed hmove hl.1 ha, hrest⟩,
      ← append_assoc, move_hears hmove hl.1, append_assoc]

theorem run_replays (hs : Sound s) (hrun : Run u s h s') :
    s'.peers = (h.filterMap (emittedIn u)).foldl replay s.peers := by
  induction hrun with
  | nil s => rfl
  | @cons s t s' a h hstep _ ih =>
    obtain ⟨hmove, ht⟩ := step_move hs hstep
    rw [filterMap_split, foldl_append, ← move_replays hmove, ih ht]

end Hearing

section Settling

variable {L : Type} [DecidableEq L] {u : UrlClass} {s t s' : Provider L} {a : Action L} {h : History L}

def applied (u : UrlClass) (peers : List RuntimePeerDiscoveryRecord) (m : Mutation) :
    List RuntimePeerDiscoveryRecord :=
  match m.run u peers with
  | .ok (peers', _) => peers'
  | .error _ => peers

def Frame.toClear : Frame L → List String
  | .clearing rest => rest
  | _ => []

def settled (u : UrlClass) (s : Provider L) : List RuntimePeerDiscoveryRecord :=
  (s.stack.flatMap Frame.toClear).foldl (fun peers nodeAddress => deletePeer nodeAddress peers)
    (s.pendingMutations.foldl (applied u) s.peers)

theorem perform_eq_applied {c : Call} {m : Mutation} (h : c.mutation = some m)
    (peers : List RuntimePeerDiscoveryRecord) : c.perform u peers = applied u peers m := by
  have hupsert : ∀ peer, Call.perform u peers (.upsertPeer peer) = applied u peers (.upsert peer) := by
    intro peer
    simp only [Call.perform, applied, Mutation.run]
    cases normalizeRuntimePeerDiscoveryRecord u peer <;> rfl
  have hremove : ∀ nodeAddress reason, deletePeer nodeAddress peers =
      applied u peers (.remove nodeAddress reason) := by
    intro nodeAddress reason
    simp only [applied, Mutation.run]
    by_cases hhas : hasPeer nodeAddress peers = true
    · simp only [if_pos hhas]
    · simp only [if_neg hhas]
      exact deletePeer_absent (Bool.eq_false_iff.mpr hhas)
  cases c with
  | upsertPeer peer =>
    cases h
    exact hupsert peer
  | registerSelf peer =>
    cases h
    exact hupsert peer
  | removePeer nodeAddress reason =>
    cases h
    exact hremove nodeAddress reason
  | unregisterSelf nodeAddress =>
    cases h
    exact hremove nodeAddress _
  | clear => cases h

/-- While `clear` runs, nothing but removals is pending, and it was not called by a listener. -/
structure Calm (s : Provider L) : Prop where
  removals : ∀ rest, .clearing rest ∈ s.stack →
    (∀ m ∈ s.pendingMutations, ∃ nodeAddress reason, m = .remove nodeAddress reason) ∧
      ∀ firstError, .serializing firstError ∈ s.stack → firstError = none
  outermost : ∀ rest stack, s.stack = .clearing rest :: stack → stack = []

omit [DecidableEq L] in
theorem toClear_none {stack : List (Frame L)} (h : ∀ rest, .clearing rest ∉ stack) :
    stack.flatMap Frame.toClear = [] := by
  refine flatMap_eq_nil_iff.mpr fun frame hframe => ?_
  cases frame with
  | clearing rest => exact absurd hframe (h rest)
  | _ => rfl

variable {listeners : List L} {firstError : Option String}

variable {pending : List Mutation}

omit [DecidableEq L] in
theorem calm_serializing {peers : List RuntimePeerDiscoveryRecord} {b : Option (List String)}
    (top : List (Frame L)) (hclearing : ∀ rest, .clearing rest ∉ top)
    (hserializing : ∀ firstError, .serializing firstError ∉ top) (h : ∀ rest, b = some rest →
      (∀ m ∈ pending, ∃ nodeAddress reason, m = .remove nodeAddress reason) ∧ firstError = none) :
    Calm ⟨peers, listeners, pending, true, top ++ .serializing firstError :: base b⟩ := by
  constructor
  · intro rest hrest
    cases b with
    | none => simp [base, hclearing] at hrest
    | some rest' =>
      obtain ⟨hpending, herror⟩ := h rest' rfl
      refine ⟨hpending, fun error hmem => ?_⟩
      simp only [base, mem_append, hserializing, mem_cons, Frame.serializing.injEq,
        reduceCtorEq, not_mem_nil, or_false, false_or] at hmem
      exact hmem.trans herror
  · intro rest stack hstack
    cases top with
    | nil => cases hstack
    | cons frame top =>
      cases hstack
      exact absurd mem_cons_self (hclearing rest)

omit [DecidableEq L] in
theorem Calm.serializing {peers : List RuntimePeerDiscoveryRecord} {rest : List String}
    (top : List (Frame L))
    (h : Calm ⟨peers, listeners, pending, true, top ++ .serializing firstError :: base (some rest)⟩) :
    (∀ m ∈ pending, ∃ nodeAddress reason, m = .remove nodeAddress reason) ∧ firstError = none := by
  obtain ⟨hpending, herror⟩ := h.removals rest (by simp [base])
  exact ⟨hpending, herror firstError (by simp)⟩

omit [DecidableEq L] in
theorem settled_pending {peers peers' : List RuntimePeerDiscoveryRecord}
    {m : Mutation} {error : Option String}
    {b : Option (List String)} (hpeers : applied u peers m = peers') (top : List (Frame L))
    (htop : top.flatMap Frame.toClear = []) :
    settled u ⟨peers', listeners, pending, true, top ++ .serializing error :: base b⟩ =
      settled u ⟨peers, listeners, m :: pending, true, .serializing firstError :: base b⟩ := by
  simp only [settled, flatMap_append, htop, flatMap_cons, foldl_cons, hpeers,
    nil_append, Frame.toClear]

theorem move_settled (hmove : Move u s a t) (hcalm : Calm s) (hapart : Apart (s, a)) :
    settled u t = (called [(s, a)]).foldl (Call.perform u) (settled u s) ∧ Calm t := by
  cases hmove with
  | start hm =>
    refine ⟨(perform_eq_applied hm _).symm, ⟨fun rest hrest => ?_, fun rest stack hstack => ?_⟩⟩
    · simp at hrest
    · cases hstack
  | clear =>
    refine ⟨?_, ⟨fun rest hrest => ⟨forall_mem_nil _, fun e he => ?_⟩,
      fun rest stack hstack => (List.cons.inj hstack).2.symm⟩⟩
    · simpa [settled, Frame.toClear, called, Call.perform] using deleteAll _
    · simp at he
  | enqueue listener hm =>
    obtain ⟨-, hnone⟩ := hapart _ rfl
    refine ⟨?_, ⟨fun rest hrest => absurd hrest (hnone rest), fun rest stack hstack => ?_⟩⟩
    · simp only [settled, toClear_none hnone, foldl_append, foldl_cons, foldl_nil]
      exact (perform_eq_applied hm _).symm
    · cases hstack
  | nestedClear listener => cases (hapart _ rfl).1 rfl
  | subscribe listener | unsubscribe listener => exact ⟨rfl, hcalm.removals, hcalm.outermost⟩
  | finish listener =>
    exact ⟨rfl, calm_serializing [.emitting _ _] (by simp) (by simp) fun rest hb =>
      Calm.serializing [.listening listener, .emitting _ _] (hb ▸ hcalm)⟩
  | cleared =>
    refine ⟨rfl, ⟨fun rest hrest => ?_, fun rest stack hstack => ?_⟩⟩
    · cases hrest
    · cases hstack
  | nestedCleared listener => cases hcalm.outermost _ _ rfl
  | clearNext nodeAddress rest =>
    refine ⟨?_, calm_serializing (b := some rest) [] (by simp) (by simp) fun _ _ => ⟨?_, rfl⟩⟩
    · simp only [settled, Frame.toClear, flatMap_cons, flatMap_nil, foldl_cons,
        append_nil, nil_append, foldl_nil]
      rw [← perform_eq_applied (c := .removePeer nodeAddress (some "discovery cleared")) rfl]
      rfl
    · intro m hm
      exact ⟨_, _, mem_singleton.mp hm⟩
  | nestedClearNext nodeAddress rest listener => cases hcalm.outermost _ _ rfl
  | serialized firstError b =>
    cases b with
    | none =>
      rw [ite_self]
      refine ⟨rfl, ⟨fun rest hrest => ?_, fun rest stack hstack => ?_⟩⟩
      · cases hrest
      · cases hstack
    | some rest =>
      obtain ⟨-, rfl⟩ := Calm.serializing [] hcalm
      refine ⟨rfl, ⟨fun rest hrest => ⟨forall_mem_nil _, fun e he => ?_⟩,
        fun rest stack hstack => (List.cons.inj hstack).2.symm⟩⟩
      simp [base] at he
  | @mutationFails peers listeners m pending thrown firstError b hrun =>
    refine ⟨settled_pending ?_ [] rfl,
      calm_serializing [] (by simp) (by simp) fun rest hb => ?_⟩
    · simp only [applied, hrun]
    · subst hb
      obtain ⟨nodeAddress, reason, rfl⟩ := (Calm.serializing [] hcalm).1 m mem_cons_self
      simp only [Mutation.run] at hrun
      split at hrun <;> cases hrun
  | mutationSkips firstError b hrun =>
    refine ⟨settled_pending ?_ [] rfl,
      calm_serializing [] (by simp) (by simp) fun rest hb => ?_⟩
    · simp only [applied, hrun]
    · subst hb
      obtain ⟨hpending, herror⟩ := Calm.serializing [] hcalm
      exact ⟨(forall_mem_cons.mp hpending).2, herror⟩
  | mutationEmits firstError b hrun =>
    refine ⟨settled_pending ?_ [.emitting _ _] rfl,
      calm_serializing [.emitting _ _] (by simp) (by simp) fun rest hb => ?_⟩
    · simp only [applied, hrun]
    · subst hb
      obtain ⟨hpending, herror⟩ := Calm.serializing [] hcalm
      exact ⟨(forall_mem_cons.mp hpending).2, herror⟩
  | emitted event =>
    refine ⟨rfl, calm_serializing [] (by simp) (by simp) fun rest hb => ?_⟩
    subst hb
    exact Calm.serializing [.emitting event []] hcalm
  | notify event listener waiting hnodup =>
    refine ⟨rfl, calm_serializing [.listening listener, .emitting event waiting] (by simp) (by simp)
      fun rest hb => ?_⟩
    subst hb
    exact Calm.serializing [.emitting event (listener :: waiting)] hcalm
theorem run_settled (hs : Sound s) (hrun : Run u s h s') (hcalm : Calm s) (hapart : ∀ e ∈ h, Apart e) :
    settled u s' = (called h).foldl (Call.perform u) (settled u s) := by
  induction hrun with
  | nil s => rfl
  | @cons s t s' a h hstep _ ih =>
    obtain ⟨hmove, ht⟩ := step_move hs hstep
    obtain ⟨hfirst, hrest⟩ := forall_mem_cons.mp hapart
    obtain ⟨hsettled, hcalm'⟩ := move_settled hmove hcalm hfirst
    have hsplit : called ((s, a) :: h) = called [(s, a)] ++ called h :=
      filterMap_append (l := [(s, a)])
    rw [hsplit, foldl_append, ← hsettled, ih ht hcalm' hrest]

end Settling

section Errors

variable {L : Type} [DecidableEq L] {u : UrlClass} {s t s' : Provider L} {a : Action L} {h : History L}

def Mutation.Invalid (u : UrlClass) : Mutation → Prop
  | upsert peer => ∃ thrown, normalizeRuntimePeerDiscoveryRecord u peer = .error thrown
  | remove _ _ => False

def Due (u : UrlClass) (s : Provider L) : Prop :=
  (∃ thrown, .serializing (some thrown) ∈ s.stack) ∨ ∃ m ∈ s.pendingMutations, m.Invalid u

theorem run_invalid_iff {m : Mutation} {peers : List RuntimePeerDiscoveryRecord} :
    m.Invalid u ↔ ∃ thrown, m.run u peers = .error thrown := by
  cases m with
  | upsert peer =>
    simp only [Mutation.Invalid, Mutation.run]
    cases normalizeRuntimePeerDiscoveryRecord u peer <;> simp [Except.map]
  | remove nodeAddress reason =>
    simp only [Mutation.Invalid, Mutation.run, false_iff]
    rintro ⟨thrown, h⟩
    split at h <;> cases h

theorem call_invalid_iff {c : Call} {m : Mutation} (h : c.mutation = some m) :
    c.Invalid u ↔ m.Invalid u := by
  cases c with
  | clear => cases h
  | _ =>
    cases h
    exact Iff.rfl

omit [DecidableEq L] in
theorem Sound.pending_eq_nil (hs : Sound s) (h : s.stack = []) : s.pendingMutations = [] := by
  cases hs with
  | idle b hstored hnodup => rfl
  | _ => cases h

omit [DecidableEq L] in
theorem not_due_of_quiet (hs : Sound s) (h : s.stack = []) : ¬ Due u s := by
  rintro (⟨thrown, hmem⟩ | ⟨m, hm, -⟩)
  · rw [h] at hmem
    cases hmem
  · rw [hs.pending_eq_nil h] at hm
    cases hm

theorem move_due (hmove : Move u s a t) (hrunning : t.stack ≠ []) :
    Due u t ↔ Due u s ∨ ∃ c ∈ called [(s, a)], c.Invalid u := by
  cases hmove with
  | start hm => simp [Due, called, call_invalid_iff hm]
  | clear => simp [Due, called, Call.Invalid]
  | enqueue listener hm =>
    simp only [Due, called, filterMap_cons, filterMap_nil, mem_singleton,
      exists_eq_left, call_invalid_iff hm, mem_append, or_and_right, exists_or]
    rw [or_assoc]
  | nestedClear listener => simp [Due, called, Call.Invalid]
  | subscribe listener | unsubscribe listener | finish listener | nestedCleared listener
  | emitted event | notify event listener rest hnodup => simp [Due, called]
  | cleared => exact absurd rfl hrunning
  | clearNext nodeAddress rest => simp [Due, called, Mutation.Invalid]
  | nestedClearNext nodeAddress rest listener => simp [Due, called, Mutation.Invalid, or_and_right, exists_or]
  | serialized firstError b =>
    cases b with
    | none => exact absurd (congrArg base (ite_self none)) hrunning
    | some rest =>
      cases firstError with
      | some thrown => exact absurd rfl hrunning
      | none => simp [Due, called, base]
  | mutationFails firstError b hrun =>
    have hm := run_invalid_iff.mpr ⟨_, hrun⟩
    simp [Due, called, base, hm]
  | mutationSkips firstError b hrun | mutationEmits firstError b hrun =>
    have hm : ¬ Mutation.Invalid u _ := fun hm => (by
      obtain ⟨thrown, h⟩ := run_invalid_iff.mp hm
      rw [hrun] at h
      cases h)
    simp [Due, called, hm]

theorem move_ended (hmove : Move u s a t) (hrunning : s.stack ≠ []) (hquiet : t.stack = []) :
    called [(s, a)] = [] ∧ ∃ result, ended (s, a) = some result ∧
      (result.isSome = true ↔ Due u s) := by
  cases hmove with
  | cleared => exact ⟨rfl, none, rfl, by simp [Due]⟩
  | serialized firstError b =>
    refine ⟨rfl, firstError, ?_, ?_⟩
    · cases b with
      | none => rfl
      | some rest =>
        cases firstError with
        | none => cases hquiet
        | some thrown => rfl
    · cases b <;> cases firstError <;> simp [Due, base]
  | subscribe listener => exact absurd hquiet hrunning
  | unsubscribe listener => exact absurd hquiet hrunning
  | _ => cases hquiet

theorem move_nested {thrown : String} (hmove : Move u s a t)
    (h : ended (s, a) = some (some thrown)) : t.stack = [] := by
  cases hmove with
  | start hm => simp [ended] at h
  | enqueue listener hm => simp [ended] at h
  | nestedClear listener => simp [ended, Call.mutation] at h
  | serialized firstError b =>
    cases firstError with
    | none => cases b <;> simp [ended, base] at h
    | some _ => rfl
  | mutationFails firstError b hrun => cases b <;> cases h
  | mutationSkips firstError b hrun => cases b <;> cases h
  | mutationEmits firstError b hrun => cases b <;> cases h
  | _ => cases h

theorem move_call_running {c : Call} (hmove : Move u s (.call c) t) : t.stack ≠ [] := by
  cases hmove with
  | _ => exact cons_ne_nil _ _

theorem run_ended (hs : Sound s) (hrun : Run u s h s') (hstart : s.stack ≠ [])
    (hquiet : s'.stack = []) (hrunning : ∀ e ∈ h, e.1.stack ≠ []) :
    ∃ result, h.getLast?.bind ended = some result ∧
      (result.isSome = true ↔ Due u s ∨ ∃ c ∈ called h, c.Invalid u) := by
  induction hrun with
  | nil s => exact absurd hquiet hstart
  | @cons s t s' a h hstep hrest ih =>
    obtain ⟨hmove, ht⟩ := step_move hs hstep
    obtain ⟨-, hrunning'⟩ := forall_mem_cons.mp hrunning
    have hsplit : called ((s, a) :: h) = called [(s, a)] ++ called h :=
      filterMap_append (l := [(s, a)])
    cases hrest with
    | nil =>
      obtain ⟨hcalled, result, hended, hdue⟩ := move_ended hmove hstart hquiet
      refine ⟨result, hended, ?_⟩
      rw [hcalled, hdue]
      simp
    | @cons _ t' _ a' h' hstep' hrest =>
      have hnext : t.stack ≠ [] := hrunning' (t, a') mem_cons_self
      obtain ⟨result, hended, hdue⟩ := ih ht hnext hquiet hrunning'
      refine ⟨result, hended, ?_⟩
      rw [hdue, move_due hmove hnext, hsplit]
      simp only [mem_append, or_and_right, exists_or]
      rw [or_assoc]

end Errors

section Claims

variable {L : Type} [DecidableEq L]

omit [DecidableEq L] in
theorem getPeers_eq {s : Provider L} (hs : Sound s) : getPeers s = s.peers :=
  map_congr_left hs.stored |>.trans (map_id s.peers)

/-- Every part of a run of the provider is orderly. -/
theorem discovery_orderly (u : UrlClass) {s s' : Provider L} {h₀ h : History L}
    (hbefore : Run u createInMemoryRuntimePeerDiscoveryProvider h₀ s) (hrun : Run u s h s') :
    Orderly u s h s' := by
  have hnew : Sound (createInMemoryRuntimePeerDiscoveryProvider : Provider L) :=
    .idle none (forall_mem_nil _) nodup_nil
  have hs := (run_sound hnew hbefore).1
  obtain ⟨hs', hsounds⟩ := run_sound hs hrun
  have hquiet : ∀ {l}, s'.stack = [] → SubscribedThroughout l s h →
      heardBy l h = toHear l s ++ h.filterMap (emittedIn u) := by
    intro l hstack hl
    rw [← run_hears hs hrun hl, toHear_quiet hstack, append_nil]
  constructor
  · intro hstack hstack' l l' hl hl'
    rw [hquiet hstack' hl, hquiet hstack' hl', toHear_quiet hstack, toHear_quiet hstack]
  · exact fun e he hhears l => (hsounds e he).unnested hhears
  · intro hstack l hl
    rw [hquiet hstack hl, getPeers_eq hs, getPeers_eq hs', foldl_append, hs.toHear_told]
    exact (run_replays hs hrun).symm
  · intro hstack hstack' hapart
    have hcalm : Calm s := ⟨fun rest hrest => (by rw [hstack] at hrest; cases hrest),
      fun rest stack heq => (by rw [hstack] at heq; cases heq)⟩
    have hsettled : ∀ {s : Provider L}, Sound s → s.stack = [] → settled u s = s.peers := by
      intro s hs hstack
      rw [settled, hstack, hs.pending_eq_nil hstack]
      rfl
    rw [getPeers_eq hs, getPeers_eq hs', ← hsettled hs' hstack', ← hsettled hs hstack]
    exact run_settled hs hrun hcalm hapart
  · rintro hstack hstack' c h' rfl hrunning
    cases hrun with
    | @cons _ t _ _ _ hstep hrest =>
      obtain ⟨hmove, ht⟩ := step_move hs hstep
      have hnext := move_call_running hmove
      obtain ⟨result, hended, hdue⟩ := run_ended ht hrest hnext hstack' hrunning
      cases h' with
      | nil => cases hended
      | cons e h' =>
        refine ⟨result, by rwa [getLast?_cons_cons], ?_⟩
        have hsplit : called ((s, .call c) :: e :: h') = [c] ++ called (e :: h') := rfl
        rw [hdue, move_due hmove hnext, hsplit, or_iff_right (not_due_of_quiet hs hstack)]
        simp only [mem_append, or_and_right, exists_or]
        rfl
  · intro e he thrown t hended hstep
    exact move_nested (step_move (hsounds e he) hstep).1 hended

def runs (u : UrlClass) (s : Provider L) : List (Action L) → Option (History L × Provider L)
  | [] => some ([], s)
  | a :: rest =>
    (step u s a).bind fun t => (runs u t rest).map fun r => ((s, a) :: r.1, r.2)

theorem run_of_runs {u : UrlClass} {s : Provider L} {actions : List (Action L)}
    {r : History L × Provider L} (h : runs u s actions = some r) : Run u s r.1 r.2 := by
  induction actions generalizing s r with
  | nil =>
    cases h
    exact .nil s
  | cons a rest ih =>
    obtain ⟨t, hstep, h⟩ := Option.bind_eq_some_iff.mp h
    obtain ⟨r, hr, rfl⟩ := Option.map_eq_some_iff.mp h
    exact .cons hstep (ih hr)

def plainUrls : UrlClass where
  Url := String
  parse := .ok
  protocol _ := "ws:"
  username _ := ""
  password _ := ""
  host _ := ""
  pathname _ := ""
  search _ := ""
  searchParams _ := []
  setSearch url _ := url
  clearHash url := url
  toText url := url
  localeCompare := compare

def plainPeer (nodeAddress : String) : RuntimePeerDiscoveryRecord :=
  ⟨nodeAddress, "ws://peer", none, none, none, none⟩

/-- A listener upserts a blank record: its call returns, and the call from outside throws. -/
def blankUpsert : List (Action Unit) :=
  [.subscribe (), .call (.upsertPeer (plainPeer "a")), .tick, .tick,
    .call (.upsertPeer (plainPeer "")), .finish, .tick, .tick, .tick]

def upsertAndClear : List (Action Unit) :=
  [.subscribe (), .call (.upsertPeer (plainPeer "a")), .tick, .tick,
    .call (.upsertPeer (plainPeer "b")), .call .clear, .tick, .tick, .finish, .tick,
    .tick, .tick, .finish, .tick, .tick, .tick, .finish, .tick, .tick]

theorem run_of_actions (actions : List (Action Unit)) (h : (runs plainUrls
    createInMemoryRuntimePeerDiscoveryProvider actions).isSome = true) :
    Run plainUrls createInMemoryRuntimePeerDiscoveryProvider
      ((runs plainUrls createInMemoryRuntimePeerDiscoveryProvider actions).get h).1
      ((runs plainUrls createInMemoryRuntimePeerDiscoveryProvider actions).get h).2 :=
  run_of_runs (Option.some_get h).symm

theorem discovery_orderly_blank : Orderly plainUrls createInMemoryRuntimePeerDiscoveryProvider
    ((runs plainUrls createInMemoryRuntimePeerDiscoveryProvider blankUpsert).get rfl).1
    ((runs plainUrls createInMemoryRuntimePeerDiscoveryProvider blankUpsert).get rfl).2 :=
  discovery_orderly plainUrls (.nil _) (run_of_actions blankUpsert rfl)

theorem reentrant_calls_differ :
    (∃ h s', Run (L := Unit) plainUrls createInMemoryRuntimePeerDiscoveryProvider h s' ∧
      s'.stack = [] ∧ h.filterMap ended =
        [none, some "Runtime peer discovery record requires a non-empty nodeAddress."] ∧
      called h = [.upsertPeer (plainPeer "a"), .upsertPeer (plainPeer "")] ∧
      ¬ (Call.upsertPeer (plainPeer "a")).Invalid plainUrls ∧
      (Call.upsertPeer (plainPeer "")).Invalid plainUrls) ∧
    ∃ h s', Run (L := Unit) plainUrls createInMemoryRuntimePeerDiscoveryProvider h s' ∧
      s'.stack = [] ∧ called h = [.upsertPeer (plainPeer "a"), .upsertPeer (plainPeer "b"), .clear] ∧
      getPeers s' = [plainPeer "b"] ∧ (called h).foldl (Call.perform plainUrls) [] = [] := by
  refine ⟨⟨_, _, run_of_actions blankUpsert rfl, rfl, rfl, rfl, ?_, _, rfl⟩,
    ⟨_, _, run_of_actions upsertAndClear rfl, rfl, rfl, rfl, rfl⟩⟩
  rintro ⟨thrown, h⟩
  cases h

end Claims

end ActorWeb.Discovery
