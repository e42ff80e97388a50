import ActorWeb.Directory

namespace ActorWeb

open OrderedMap List

structure RemoteConnectionIdentity where
  (nodeId incarnation : List Char)
deriving DecidableEq

/-- What `getRemoteConnectionKey` compares: the identity of the peer, if the
transport knows one. -/
abbrev ConnectionKey := Option RemoteConnectionIdentity

inductive ReadinessStatus
  | syncing
  | ready
  | degraded (message : List Char)
deriving DecidableEq

structure DirectoryReadinessFact where
  identity : ConnectionKey
  status : ReadinessStatus

structure RemoteDirectoryReadinessAttempt where
  token : Nat
  connectionKey : ConnectionKey

inductive SyncStage
  | scheduled
  | requested
  | answered (entries : List RuntimeDirectoryEntry)
  | failed (message : List Char)
deriving DecidableEq

/-- The promise body of one readiness attempt, suspended at a stage. -/
structure DirectorySync where
  node : NodeAddress
  connectionKey : ConnectionKey
  stage : SyncStage

inductive AttemptNote
  | began (node : NodeAddress) (token : Nat) (key : ConnectionKey)
  | applied (node : NodeAddress) (token : Nat)
  | cleared (node : NodeAddress)

def AttemptNote.node : AttemptNote → NodeAddress
  | .began n _ _ => n
  | .applied n _ => n
  | .cleared n => n

/-- The readiness attempts and facts of an actor system, by node, and the
promise bodies that are still running, by the token of their attempt. -/
structure Readiness where
  attempts : OrderedMap NodeAddress RemoteDirectoryReadinessAttempt
  facts : OrderedMap NodeAddress DirectoryReadinessFact
  syncs : OrderedMap Nat DirectorySync
  nextToken : Nat
  notes : List AttemptNote

namespace Readiness

def empty : Readiness :=
  { attempts := OrderedMap.empty, facts := OrderedMap.empty, syncs := OrderedMap.empty
    nextToken := 0, notes := [] }

def beginAttempt (r : Readiness) (node : NodeAddress) (key : ConnectionKey) : Readiness :=
  { attempts := r.attempts.set node ⟨r.nextToken, key⟩
    facts := r.facts.set node ⟨key, .syncing⟩
    syncs := r.syncs.set r.nextToken ⟨node, key, .scheduled⟩
    nextToken := r.nextToken + 1
    notes := r.notes ++ [.began node r.nextToken key] }

def isSyncing (r : Readiness) (node : NodeAddress) : Bool :=
  (r.facts.get node).any fun fact => fact.status = .syncing

def sharesAttempt (r : Readiness) (node : NodeAddress) (key : ConnectionKey)
    (refreshIfReady : Bool) : Bool :=
  (r.attempts.get node).any fun existing =>
    existing.connectionKey = key && (!refreshIfReady || r.isSyncing node)

def ensure (r : Readiness) (node : NodeAddress) (key : ConnectionKey) (refreshIfReady : Bool) :
    Readiness :=
  if r.sharesAttempt node key refreshIfReady then r else r.beginAttempt node key

def setStage (r : Readiness) (token : Nat) (sync : DirectorySync) (stage : SyncStage) :
    Readiness :=
  { r with syncs := r.syncs.set token { sync with stage } }

def finish (r : Readiness) (token : Nat) : Readiness := { r with syncs := r.syncs.delete token }

def holdsToken (r : Readiness) (node : NodeAddress) (token : Nat) : Bool :=
  (r.attempts.get node).any fun attempt => attempt.token = token

def succeed (r : Readiness) (token : Nat) (sync : DirectorySync) : Readiness :=
  { r with
    facts := r.facts.set sync.node ⟨sync.connectionKey, .ready⟩
    notes := r.notes ++ [.applied sync.node token] }

def withdraw (r : Readiness) (token : Nat) (sync : DirectorySync) : Readiness :=
  if r.holdsToken sync.node token then
    { r with
      attempts := r.attempts.delete sync.node
      facts := if r.isSyncing sync.node then r.facts.delete sync.node else r.facts
      notes := r.notes ++ [.cleared sync.node] }
  else r

def degrade (r : Readiness) (sync : DirectorySync) (message : List Char) : Readiness :=
  { r with
    attempts := r.attempts.delete sync.node
    facts := r.facts.set sync.node ⟨sync.connectionKey, .degraded message⟩
    notes := r.notes ++ [.cleared sync.node] }

def forget (r : Readiness) (node : NodeAddress) : Readiness :=
  { r with
    attempts := r.attempts.delete node
    facts := r.facts.delete node
    notes := r.notes ++ [.cleared node] }

def lastNote (r : Readiness) (node : NodeAddress) : Option AttemptNote :=
  (r.notes.filter fun note => note.node = node).getLast?

theorem lastNote_concat {notes : List AttemptNote} {note : AttemptNote} (node : NodeAddress) :
    ((notes ++ [note]).filter fun x => x.node = node).getLast? =
      if note.node = node then some note
      else (notes.filter fun x => x.node = node).getLast? := by
  rw [filter_append]
  by_cases h : note.node = node
  · rw [if_pos h, filter_singleton, decide_eq_true h, cond_true, getLast?_concat]
  · rw [if_neg h, filter_singleton, decide_eq_false h, cond_false, append_nil]

/-- The attempts of the table, their promise bodies, the facts and the notes agree. -/
structure Coherent (r : Readiness) : Prop where
  attempt_fresh : ∀ node attempt, r.attempts.get node = some attempt → attempt.token < r.nextToken
  sync_fresh : ∀ token sync, r.syncs.get token = some sync → token < r.nextToken
  noted_fresh : ∀ node token, .applied node token ∈ r.notes → token < r.nextToken
  running : ∀ node attempt sync, r.attempts.get node = some attempt →
    r.syncs.get attempt.token = some sync →
      sync.node = node ∧
        r.lastNote node = some (.began node attempt.token sync.connectionKey)
  unapplied : ∀ token sync, r.syncs.get token = some sync →
    ∀ node, .applied node token ∉ r.notes
  ready : ∀ node fact, r.facts.get node = some fact → fact.status = .ready →
    ∃ attempt, r.attempts.get node = some attempt ∧
      r.lastNote node = some (.applied node attempt.token)

theorem empty_coherent : empty.Coherent where
  attempt_fresh := by simp [empty]
  sync_fresh := by simp [empty]
  noted_fresh := by simp [empty]
  running := by simp [empty]
  unapplied := by simp [empty]
  ready := by simp [empty]

variable {r : Readiness} {sync : DirectorySync}

variable {token : Nat}

theorem holdsToken_iff {node : NodeAddress} : r.holdsToken node token = true ↔
      ∃ attempt, r.attempts.get node = some attempt ∧ attempt.token = token := by
  simp [holdsToken, Option.any_eq_true]

theorem beginAttempt_coherent (h : r.Coherent) (node : NodeAddress)
    (key : ConnectionKey) : (r.beginAttempt node key).Coherent where
  attempt_fresh := by
    intro n a ha
    simp only [beginAttempt, get_set] at ha ⊢
    split at ha
    · cases ha
      exact Nat.lt_succ_self _
    · exact Nat.lt_succ_of_lt (h.attempt_fresh n a ha)
  sync_fresh := by
    intro token sync hs
    simp only [beginAttempt, get_set] at hs ⊢
    split at hs
    · omega
    · exact Nat.lt_succ_of_lt (h.sync_fresh token sync hs)
  noted_fresh := by
    intro n token hm
    simp only [beginAttempt, mem_append, mem_singleton, reduceCtorEq, or_false] at hm
    exact Nat.lt_succ_of_lt (h.noted_fresh n token hm)
  running := by
    intro n a sync ha hs
    simp only [beginAttempt, get_set, lastNote, lastNote_concat] at ha hs ⊢
    split at ha
    case isTrue hn =>
      cases ha
      rw [if_pos rfl] at hs
      cases hs
      subst hn
      exact ⟨rfl, if_pos rfl⟩
    case isFalse hn =>
      have hlt := h.attempt_fresh n a ha
      rw [if_neg (by omega)] at hs
      rw [if_neg fun he => hn he.symm]
      exact h.running n a sync ha hs
  unapplied := by
    intro token sync hs n hm
    simp only [beginAttempt, get_set, mem_append, mem_singleton,
      reduceCtorEq, or_false] at hs hm
    split at hs
    case isTrue ht => exact absurd (h.noted_fresh n token hm) (by omega)
    case isFalse => exact h.unapplied token sync hs n hm
  ready := by
    intro n fact hf hr
    simp only [beginAttempt, get_set, lastNote, lastNote_concat] at hf ⊢
    split at hf
    case isTrue =>
      cases hf
      cases hr
    case isFalse hn =>
      rw [if_neg hn, if_neg fun he => hn he.symm]
      exact h.ready n fact hf hr

theorem ensure_coherent (h : r.Coherent) (node : NodeAddress)
    (key : ConnectionKey) (refreshIfReady : Bool) :
    (r.ensure node key refreshIfReady).Coherent := by
  unfold ensure
  split
  · exact h
  · exact beginAttempt_coherent h node key

theorem setStage_coherent (h : r.Coherent)
    (hsync : r.syncs.get token = some sync) (stage : SyncStage) :
    (r.setStage token sync stage).Coherent where
  attempt_fresh := h.attempt_fresh
  sync_fresh := by
    intro t s hs
    simp only [setStage, get_set] at hs
    split at hs
    case isTrue ht => exact ht ▸ h.sync_fresh token sync hsync
    case isFalse => exact h.sync_fresh t s hs
  noted_fresh := h.noted_fresh
  running := by
    intro n a s ha hs
    simp only [setStage, get_set] at ha hs
    split at hs
    case isTrue ht =>
      cases hs
      exact h.running n a sync ha (ht ▸ hsync)
    case isFalse => exact h.running n a s ha hs
  unapplied := by
    intro t s hs
    simp only [setStage, get_set] at hs
    split at hs
    case isTrue ht => exact ht ▸ h.unapplied token sync hsync
    case isFalse => exact h.unapplied t s hs
  ready := h.ready

theorem forget_coherent (h : r.Coherent) (node : NodeAddress) : (r.forget node).Coherent where
  attempt_fresh := by
    intro n a ha
    simp only [forget, OrderedMap.get_delete] at ha
    split at ha
    · cases ha
    · exact h.attempt_fresh n a ha
  sync_fresh := h.sync_fresh
  noted_fresh := by simpa [forget] using h.noted_fresh
  running := by
    intro n a s ha hs
    simp only [forget, OrderedMap.get_delete, lastNote, lastNote_concat] at ha hs ⊢
    split at ha
    case isTrue => cases ha
    case isFalse hn =>
      rw [if_neg fun he => hn he.symm]
      exact h.running n a s ha hs
  unapplied := by simpa [forget] using h.unapplied
  ready := by
    intro n fact hf hr
    simp only [forget, OrderedMap.get_delete, lastNote, lastNote_concat] at hf ⊢
    split at hf
    case isTrue => cases hf
    case isFalse hn =>
      rw [if_neg hn, if_neg fun he => hn he.symm]
      exact h.ready n fact hf hr

theorem finish_coherent (h : r.Coherent) (token : Nat) : (r.finish token).Coherent where
  attempt_fresh := h.attempt_fresh
  sync_fresh := by
    intro t s hs
    simp only [finish, OrderedMap.get_delete] at hs
    split at hs
    · cases hs
    · exact h.sync_fresh t s hs
  noted_fresh := h.noted_fresh
  running := by
    intro n a s ha hs
    simp only [finish, OrderedMap.get_delete] at ha hs
    split at hs
    · cases hs
    · exact h.running n a s ha hs
  unapplied := by
    intro t s hs
    simp only [finish, OrderedMap.get_delete] at hs
    split at hs
    · cases hs
    · exact h.unapplied t s hs
  ready := h.ready

theorem succeed_coherent (h : r.Coherent)
    (hsync : r.syncs.get token = some sync) (hheld : r.holdsToken sync.node token = true) :
    ((r.finish token).succeed token sync).Coherent where
  attempt_fresh := h.attempt_fresh
  sync_fresh := (finish_coherent h token).sync_fresh
  noted_fresh := by
    intro n t hm
    simp only [finish, succeed, mem_append, mem_singleton, AttemptNote.applied.injEq] at hm
    obtain hm | ⟨-, rfl⟩ := hm
    · exact h.noted_fresh n t hm
    · exact h.sync_fresh t sync hsync
  running := by
    intro n a s ha hs
    obtain ⟨hn, hlast⟩ := (finish_coherent h token).running n a s ha hs
    refine ⟨hn, ?_⟩
    simp only [lastNote, succeed, lastNote_concat]
    split
    case isTrue he =>
      obtain rfl : sync.node = n := he
      obtain ⟨held, hget, htoken⟩ := holdsToken_iff.mp hheld
      obtain rfl : held = a := Option.some.inj (hget.symm.trans ha)
      simp [succeed, finish, htoken] at hs
    case isFalse => exact hlast
  unapplied := by
    intro t s hs n hm
    simp only [finish, succeed, OrderedMap.get_delete, mem_append, mem_singleton,
      AttemptNote.applied.injEq] at hs hm
    split at hs
    case isTrue => cases hs
    case isFalse ht => exact h.unapplied t s hs n (hm.resolve_right fun he => ht he.2)
  ready := by
    intro n fact hf hr
    simp only [finish, succeed, get_set, lastNote, lastNote_concat] at hf ⊢
    split at hf
    case isTrue hn =>
      subst hn
      obtain ⟨a, ha, rfl⟩ := holdsToken_iff.mp hheld
      exact ⟨a, ha, if_pos rfl⟩
    case isFalse hn =>
      rw [if_neg fun he => hn he.symm]
      exact h.ready n fact hf hr

theorem surrender_coherent (h : r.Coherent) (token : Nat) (node : NodeAddress)
    {facts : OrderedMap NodeAddress DirectoryReadinessFact}
    (hself : ∀ fact, facts.get node = some fact → fact.status ≠ .ready)
    (hother : ∀ n, n ≠ node → facts.get n = r.facts.get n) : Coherent { r.finish token with
      attempts := r.attempts.delete node, facts, notes := r.notes ++ [.cleared node] } where
  attempt_fresh := (forget_coherent (finish_coherent h token) node).attempt_fresh
  sync_fresh := (finish_coherent h token).sync_fresh
  noted_fresh := (forget_coherent (finish_coherent h token) node).noted_fresh
  running := (forget_coherent (finish_coherent h token) node).running
  unapplied := (forget_coherent (finish_coherent h token) node).unapplied
  ready := by
    intro n fact hf hr
    by_cases hn : n = node
    · exact absurd hr (hself fact (hn ▸ hf))
    · obtain ⟨a, ha, hlast⟩ := h.ready n fact (by rw [← hother n hn]; exact hf) hr
      refine ⟨a, by simpa [get_delete_ne _ hn] using ha, ?_⟩
      simp only [lastNote, lastNote_concat]
      rw [if_neg fun he => hn he.symm]
      exact hlast

theorem withdraw_coherent (h : r.Coherent) (hsync : r.syncs.get token = some sync) :
    ((r.finish token).withdraw token sync).Coherent := by
  unfold withdraw
  split
  case isFalse => exact finish_coherent h token
  case isTrue hheld =>
    refine surrender_coherent h token sync.node ?_ ?_
    · intro fact hf hr
      split at hf
      case isTrue => simp at hf
      case isFalse =>
        obtain ⟨a, ha, hlast⟩ := h.ready sync.node fact hf hr
        obtain ⟨a', ha', htoken⟩ := holdsToken_iff.mp hheld
        obtain rfl : a = a' := Option.some.inj (ha.symm.trans ha')
        refine h.unapplied token sync hsync sync.node ?_
        rw [← htoken]
        exact (mem_filter.mp (mem_of_getLast? hlast)).1
    · intro n hn
      split
      case isTrue => exact get_delete_ne _ hn
      case isFalse => rfl

theorem degrade_coherent (h : r.Coherent) (token : Nat) (sync : DirectorySync)
    (message : List Char) : ((r.finish token).degrade sync message).Coherent := by
  refine surrender_coherent h token sync.node ?_ ?_
  · intro fact hf
    rw [get_set_self] at hf
    cases hf
    simp
  · exact fun n hn => get_set_ne _ _ hn

theorem withdraw_of_superseded
    (h : r.holdsToken sync.node token = false) : r.withdraw token sync = r := by
  rw [withdraw, h]
  rfl

end Readiness

end ActorWeb
