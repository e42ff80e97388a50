import ActorWeb.GatewayReplayKeys
import ActorWeb.GatewayStream
import ActorWeb.OrderedMap
import ActorWeb.Transition

namespace ActorWeb.Gateway.Persistence

open Option hiding attach sequence

open List Function Transition

structure ReplayStream (P : Type) where
  (connectionId replaySessionId replayStorageStreamId : String)
  (acceptsFrames attached : Bool)
  state : StreamState P

/-- How far a persist is: it waits, `storeFrames` was called, its promise is settled, and the
`finally` of its promise has run. -/
inductive Stage
  | queued | started | settled | finalised
deriving DecidableEq

def Stage.done : Stage → Bool
  | queued => false
  | started => false
  | settled => true
  | finalised => true

/-- One call of `persistReplayFrames`: what its closure holds, the promise it waits for, and how
far it is. `sequence` is the number of the last frame when it was called. -/
structure Persist (P : Type) where
  connectionId : String
  replayPersistenceToken : Nat
  (replaySessionId replayStorageStreamId : String)
  frames : List (ReplayFrame P)
  sequence : Nat
  previousPersist : Option Nat
  stage : Stage

/-- The streams of a connection by their tokens, and the one whose sources are subscribed. -/
structure StreamTable where
  terminated : Bool
  streams : OrderedMap String Nat
  registering : Option Nat

/-- A hub with a replay storage. Streams and promises are numbered as they are made, and the number
of a stream is its token. `stores` lists the promises that called `storeFrames`. -/
structure PersistHub (P : Type) where
  connections : String → Option StreamTable
  streams : List (ReplayStream P)
  persists : List (Persist P)
  replayPersistQueue : String → Option Nat
  (abortedReplayPersistTokens stores : List Nat)

inductive PersistAction (P : Type)
  | attach (connectionId : String)
  | cleanup (connectionId streamId : String)
  | create (connectionId streamId replaySessionId replayStorageStreamId : String) (mode : Mode)
      (restored : List (ReplayFrame P))
  | emit (token : Nat) (draft : FrameDraft P)
  | register (token : Nat)
  | discard (token : Nat)
  | terminate (connectionId : String)
  | run (persist : Nat)
  | settle (persist : Nat)
  | finalise (persist : Nat)

variable {P : Type}

def ReplayStream.key (s : ReplayStream P) : String :=
  runtimeGatewayReplayStorageKey s.replaySessionId s.replayStorageStreamId

def Persist.key (p : Persist P) : String :=
  runtimeGatewayReplayStorageKey p.replaySessionId p.replayStorageStreamId

namespace PersistHub

def init : PersistHub P where
  connections _ := none
  streams := []
  persists := []
  replayPersistQueue _ := none
  abortedReplayPersistTokens := []
  stores := []

variable (replayBufferSize : Int) (h : PersistHub P)

def close (tokens : List Nat) : List (ReplayStream P) :=
  h.streams.mapIdx fun token s => if token ∈ tokens then { s with acceptsFrames := false } else s

variable (token : Nat)

def isCurrentStream (s : ReplayStream P) : Bool :=
  (h.connections s.connectionId).any fun c =>
    !c.terminated && s.acceptsFrames && (!s.attached || c.streams.get s.state.streamId = some token)

def persistReplayFrames (s : ReplayStream P) : PersistHub P :=
  { h with
    persists := h.persists ++
      [{ connectionId := s.connectionId
         replayPersistenceToken := token
         replaySessionId := s.replaySessionId
         replayStorageStreamId := s.replayStorageStreamId
         frames := s.state.replayFrames
         sequence := s.state.sequence
         previousPersist := h.replayPersistQueue s.key
         stage := .queued }]
    replayPersistQueue := update h.replayPersistQueue s.key (some h.persists.length) }

def emit (draft : FrameDraft P) : Option (PersistHub P) :=
  (h.streams[token]?).bind fun s =>
    if h.isCurrentStream token s = true ∧ s.state.mode.listens draft = true then
      let sent := { s with state := (emitDraft replayBufferSize s.state draft).stream }
      some ({ h with streams := h.streams.set token sent }.persistReplayFrames token sent)
    else none

/-- `cleanupStream`, of an unsubscribe frame or at the start of a subscription. While the sources
of a stream are subscribed no other frame is processed. -/
def cleanupStream (connectionId streamId : String) : Option (PersistHub P) :=
  (h.connections connectionId).bind fun c =>
    if c.terminated = false ∧ c.registering = none then
      some { h with
        connections := update h.connections connectionId
          (some { c with streams := c.streams.delete streamId })
        streams := h.close (c.streams.get streamId).toList }
    else none

def create (connectionId : String) (s : ReplayStream P) : Option (PersistHub P) :=
  (h.connections connectionId).bind fun c =>
    if c.terminated = false ∧ c.registering = none ∧ c.streams.get s.state.streamId = none then
      some { h with
        connections := update h.connections connectionId
          (some { c with registering := some h.streams.length })
        streams := h.streams ++ [s] }
    else none

def register : Option (PersistHub P) :=
  (h.streams[token]?).bind fun s => (h.connections s.connectionId).bind fun c =>
    if c.registering = some token ∧ c.terminated = false then
      some { h with
        connections := update h.connections s.connectionId
          (some { c with streams := c.streams.set s.state.streamId token, registering := none })
        streams := h.streams.set token { s with attached := true } }
    else none

/-- `cleanupDetachedStream`: a source failed, or the connection terminated meanwhile. -/
def discard : Option (PersistHub P) :=
  (h.streams[token]?).bind fun s => (h.connections s.connectionId).bind fun c =>
    if c.registering = some token then
      some { h with
        connections := update h.connections s.connectionId (some { c with registering := none })
        streams := h.close [token] }
    else none

/-- `shutdownConnection`: `cleanupAll`, then `abortReplayPersistence` of the cleaned streams. -/
def shutdownConnection (connectionId : String) : Option (PersistHub P) :=
  (h.connections connectionId).bind fun c =>
    if c.terminated = true then none
    else
      some { h with
        connections := update h.connections connectionId
          (some { c with terminated := true, streams := .empty })
        streams := h.close c.streams.values
        abortedReplayPersistTokens := h.abortedReplayPersistTokens ++ c.streams.values }

def isReady (p : Persist P) : Bool :=
  match p.previousPersist with
  | none => true
  | some previous => (h.persists[previous]?).any fun p => p.stage.done

def setStage (id : Nat) (p : Persist P) (stage : Stage) : PersistHub P :=
  { h with persists := h.persists.set id { p with stage } }

def run (id : Nat) : Option (PersistHub P) :=
  (h.persists[id]?).bind fun p =>
    if p.stage = .queued ∧ h.isReady p = true then
      if p.replayPersistenceToken ∈ h.abortedReplayPersistTokens then
        some (h.setStage id p .settled)
      else some { h.setStage id p .started with stores := h.stores ++ [id] }
    else none

/-- `storeFrames` settles; its failure is reported and the promise is fulfilled all the same. -/
def settle (id : Nat) : Option (PersistHub P) :=
  (h.persists[id]?).bind fun p =>
    if p.stage = .started then some (h.setStage id p .settled) else none

def finalise (id : Nat) : Option (PersistHub P) :=
  (h.persists[id]?).bind fun p =>
    if p.stage = .settled then
      if h.replayPersistQueue p.key = some id then
        some { h.setStage id p .finalised with
          replayPersistQueue := update h.replayPersistQueue p.key none
          abortedReplayPersistTokens :=
            h.abortedReplayPersistTokens.filter fun token => token ≠ p.replayPersistenceToken }
      else some (h.setStage id p .finalised)
    else none

def step : PersistAction P → Option (PersistHub P)
  | .attach connectionId =>
    if (h.connections connectionId).isNone = true then
      some { h with
        connections := update h.connections connectionId (some ⟨false, .empty, none⟩) }
    else none
  | .cleanup connectionId streamId => h.cleanupStream connectionId streamId
  | .create connectionId streamId replaySessionId replayStorageStreamId mode restored =>
    h.create connectionId
      { connectionId, replaySessionId, replayStorageStreamId
        acceptsFrames := true
        attached := false
        state := .restored streamId mode restored }
  | .emit token draft => h.emit replayBufferSize token draft
  | .register token => h.register token
  | .discard token => h.discard token
  | .terminate connectionId => h.shutdownConnection connectionId
  | .run id => h.run id
  | .settle id => h.settle id
  | .finalise id => h.finalise id

end PersistHub

section Chains

variable {persists : List (Persist P)} {queue queue' : String → Option Nat} {id : Nat}
  {p : Persist P}

def EarlierDone (persists : List (Persist P)) (id : Nat) (key : String) : Prop :=
  ∀ (j : Nat) (other : Persist P), j < id → persists[j]? = some other → other.key = key →
    other.stage.done = true

/-- The persists of a key wait for each other in the order in which they were made, and the queue
holds the last one as long as it is not finalised. -/
structure Chained (persists : List (Persist P)) (queue : String → Option Nat) : Prop where
  first : ∀ (id : Nat) (p : Persist P), persists[id]? = some p → p.stage ≠ .queued → EarlierDone persists id p.key
  link : ∀ (id : Nat) (p : Persist P) (previous : Nat), persists[id]? = some p → p.previousPersist = some previous →
    previous < id ∧ (∃ before : Persist P, persists[previous]? = some before ∧ before.key = p.key) ∧
    ∀ (j : Nat) (other : Persist P), previous < j → j < id → persists[j]? = some other →
      other.key ≠ p.key
  free : ∀ (id : Nat) (p : Persist P), persists[id]? = some p → p.previousPersist = none → EarlierDone persists id p.key
  tail : ∀ key id, queue key = some id → ∃ p : Persist P, persists[id]? = some p ∧
    p.key = key ∧ p.stage ≠ .finalised ∧
    ∀ (j : Nat) (other : Persist P), id < j → persists[j]? = some other → other.key ≠ key
  idle : ∀ key, queue key = none → EarlierDone persists persists.length key

theorem Chained.nil : Chained ([] : List (Persist P)) fun _ => none where
  first _ _ h := by simp at h
  link _ _ _ h := by simp at h
  free _ _ h := by simp at h
  tail _ _ h := by cases h
  idle _ _ _ _ hj := absurd hj (Nat.not_lt_zero _)

theorem lt_of_getElem? {α : Type} {l : List α} {i : Nat} {a : α} (h : l[i]? = some a) :
    i < l.length :=
  (List.getElem?_eq_some_iff.mp h).1

theorem getElem?_concat_cases {α : Type} {l : List α} {a b : α} {i : Nat}
    (h : (l ++ [a])[i]? = some b) : l[i]? = some b ∨ i = l.length ∧ b = a := by
  obtain hlt | heq | hgt := Nat.lt_trichotomy i l.length
  · rw [getElem?_append_left hlt] at h
    exact .inl h
  · subst heq
    rw [getElem?_concat_length] at h
    exact .inr ⟨rfl, (some.inj h).symm⟩
  · have := lt_of_getElem? h
    rw [length_append, length_singleton] at this
    omega

theorem getElem?_concat_of {α : Type} {l : List α} {a b : α} {i : Nat} (h : l[i]? = some b) :
    (l ++ [a])[i]? = some b := by
  rw [getElem?_append_left (lt_of_getElem? h), h]

theorem Chained.earlierDone (h : Chained persists queue) (hp : persists[id]? = some p)
    (hready : ∀ previous, p.previousPersist = some previous →
      ∃ before : Persist P, persists[previous]? = some before ∧ before.stage.done = true) :
    EarlierDone persists id p.key := by
  cases hprevious : p.previousPersist with
  | none => exact h.free id p hp hprevious
  | some previous =>
    obtain ⟨-, ⟨before, hbefore, hkey⟩, hbetween⟩ := h.link id p previous hp hprevious
    obtain ⟨before', hbefore', hdone⟩ := hready previous hprevious
    obtain rfl := some.inj (hbefore.symm.trans hbefore')
    intro j other hj hother hsame
    obtain hlt | heq | hgt := Nat.lt_trichotomy j previous
    · have hpast : before.stage ≠ .queued := fun hq => by rw [hq] at hdone; cases hdone
      exact h.first previous before hbefore hpast j other hlt hother (hsame.trans hkey.symm)
    · subst heq
      obtain rfl := some.inj (hbefore.symm.trans hother)
      exact hdone
    · exact absurd hsame (hbetween j other hgt hj hother)

theorem getElem?_setStage {stage : Stage} (hp : persists[id]? = some p) {j : Nat}
    {other : Persist P} (hother : (persists.set id { p with stage })[j]? = some other) :
    ∃ before, persists[j]? = some before ∧ other = { before with stage := other.stage } ∧
      (j = id ∧ before = p ∧ other.stage = stage ∨ j ≠ id ∧ other = before) := by
  by_cases hj : j = id
  · subst hj
    rw [getElem?_set_self (lt_of_getElem? hp)] at hother
    cases hother
    exact ⟨p, hp, rfl, .inl ⟨rfl, rfl, rfl⟩⟩
  · rw [getElem?_set_ne (Ne.symm hj)] at hother
    exact ⟨other, hother, rfl, .inr ⟨hj, rfl⟩⟩

theorem setStage_getElem? (stage : Stage) (hp : persists[id]? = some p) {j : Nat}
    {before : Persist P} (hbefore : persists[j]? = some before) :
    ∃ other, (persists.set id { p with stage })[j]? = some other ∧
      other = { before with stage := other.stage } ∧
      (j = id ∧ before = p ∧ other.stage = stage ∨ j ≠ id ∧ other = before) := by
  by_cases hj : j = id
  · subst hj
    obtain rfl := some.inj (hp.symm.trans hbefore)
    exact ⟨_, getElem?_set_self (lt_of_getElem? hp), rfl, .inl ⟨rfl, rfl, rfl⟩⟩
  · exact ⟨before, by rw [getElem?_set_ne (Ne.symm hj), hbefore], rfl, .inr ⟨hj, rfl⟩⟩

theorem Chained.advance (h : Chained persists queue) (hp : persists[id]? = some p) {stage : Stage}
    (hearlier : EarlierDone persists id p.key) (hdone : p.stage.done = true → stage.done = true)
    (hqueue : ∀ key i, queue' key = some i →
      queue key = some i ∧ (i = id → stage ≠ .finalised)) (hidle : ∀ key, queue' key = none →
      queue key = none ∨ key = p.key ∧ queue key = some id ∧ stage.done = true) :
    Chained (persists.set id { p with stage }) queue' := by
  have hkeep : ∀ {i key}, EarlierDone persists i key →
      EarlierDone (persists.set id { p with stage }) i key := by
    intro i key hall j other hj hother hkey
    obtain ⟨before, hbefore, heq, hcase⟩ := getElem?_setStage hp hother
    have hbeforeDone := hall j before hj hbefore (by rw [← hkey, heq]; rfl)
    obtain ⟨-, rfl, hstage⟩ | ⟨-, rfl⟩ := hcase
    · exact hstage ▸ hdone hbeforeDone
    · exact hbeforeDone
  refine ⟨?_, ?_, ?_, ?_, ?_⟩
  · intro i q hq hpast
    obtain ⟨before, hbefore, heq, hcase⟩ := getElem?_setStage hp hq
    have hkey : q.key = before.key := by rw [heq]; rfl
    rw [hkey]
    obtain ⟨rfl, rfl, -⟩ | ⟨-, rfl⟩ := hcase
    · exact hkeep hearlier
    · exact hkeep (h.first i q hbefore hpast)
  · intro i q previous hq hprevious
    obtain ⟨before, hbefore, heq, -⟩ := getElem?_setStage hp hq
    rw [heq] at hprevious
    obtain ⟨hlt, ⟨linked, hlinked, hkey⟩, hbetween⟩ := h.link i before previous hbefore hprevious
    have hsame : q.key = before.key := by rw [heq]; rfl
    refine ⟨hlt, ?_, ?_⟩
    · obtain ⟨linked', hlinked', heq', -⟩ := setStage_getElem? stage hp hlinked
      exact ⟨linked', hlinked', by rw [hsame, ← hkey, heq']; rfl⟩
    · intro j other hj hji hother
      obtain ⟨before', hbefore', heq', -⟩ := getElem?_setStage hp hother
      have hother' : other.key = before'.key := by rw [heq']; rfl
      rw [hsame, hother']
      exact hbetween j before' hj hji hbefore'
  · intro i q hq hprevious
    obtain ⟨before, hbefore, heq, -⟩ := getElem?_setStage hp hq
    rw [heq] at hprevious
    have hsame : q.key = before.key := by rw [heq]; rfl
    rw [hsame]
    exact hkeep (h.free i before hbefore hprevious)
  · intro key i hi
    obtain ⟨hi, hfinal⟩ := hqueue key i hi
    obtain ⟨q, hq, hkey, hstage, hlater⟩ := h.tail key i hi
    obtain ⟨other, hother, heq, hcase⟩ := setStage_getElem? stage hp hq
    have hother' : other.key = q.key := by rw [heq]; rfl
    refine ⟨other, hother, hother'.trans hkey, ?_, ?_⟩
    · obtain ⟨rfl, -, hnew⟩ | ⟨-, rfl⟩ := hcase
      · exact hnew ▸ hfinal rfl
      · exact hstage
    · intro j later hj hlater'
      obtain ⟨before, hbefore, heq', -⟩ := getElem?_setStage hp hlater'
      have hsame : later.key = before.key := by rw [heq']; rfl
      exact hsame ▸ hlater j before hj hbefore
  · intro key hnone
    rw [length_set]
    obtain hidle | ⟨rfl, hlast, hstage⟩ := hidle key hnone
    · exact hkeep (h.idle key hidle)
    · intro j other hj hother hkey
      obtain ⟨before, hbefore, heq, hcase⟩ := getElem?_setStage hp hother
      obtain ⟨-, -, hnew⟩ | ⟨hne, rfl⟩ := hcase
      · exact hnew ▸ hstage
      · obtain ⟨q, hq, -, -, hlater⟩ := h.tail p.key id hlast
        obtain hlt | rfl | hgt := Nat.lt_trichotomy j id
        · exact hearlier j other hlt hbefore hkey
        · exact absurd rfl hne
        · exact absurd hkey (hlater j other hgt hbefore)

theorem Chained.enqueue (h : Chained persists queue) (hqueued : p.stage = .queued)
    (hprevious : p.previousPersist = queue p.key) :
    Chained (persists ++ [p]) (update queue p.key (some persists.length)) := by
  have hkeep : ∀ {i key}, i ≤ persists.length → EarlierDone persists i key →
      EarlierDone (persists ++ [p]) i key := by
    intro i key hi hall j other hj hother hkey
    obtain hother | ⟨rfl, -⟩ := getElem?_concat_cases hother
    · exact hall j other hj hother hkey
    · omega
  refine ⟨?_, ?_, ?_, ?_, ?_⟩
  · intro i q hq hpast
    obtain hq | ⟨-, rfl⟩ := getElem?_concat_cases hq
    · exact hkeep (lt_of_getElem? hq).le (h.first i q hq hpast)
    · exact absurd hqueued hpast
  · intro i q previous hq hlinked
    obtain hq | ⟨rfl, rfl⟩ := getElem?_concat_cases hq
    · obtain ⟨hlt, ⟨before, hbefore, hkey⟩, hbetween⟩ := h.link i q previous hq hlinked
      refine ⟨hlt, ⟨before, getElem?_concat_of hbefore, hkey⟩, fun j other hj hji hother => ?_⟩
      obtain hother | ⟨rfl, -⟩ := getElem?_concat_cases hother
      · exact hbetween j other hj hji hother
      · exact absurd (lt_of_getElem? hq) (by omega)
    · obtain ⟨before, hbefore, hkey, -, hlater⟩ := h.tail q.key previous (hprevious ▸ hlinked)
      refine ⟨lt_of_getElem? hbefore, ⟨before, getElem?_concat_of hbefore, hkey⟩, fun j other hj hji hother => ?_⟩
      obtain hother | ⟨rfl, -⟩ := getElem?_concat_cases hother
      · exact hlater j other hj hother
      · omega
  · intro i q hq hnone
    obtain hq | ⟨rfl, rfl⟩ := getElem?_concat_cases hq
    · exact hkeep (lt_of_getElem? hq).le (h.free i q hq hnone)
    · exact hkeep (Nat.le_refl _) (h.idle q.key (hprevious ▸ hnone))
  · intro key i hi
    by_cases hkey : key = p.key
    · subst hkey
      rw [update_self] at hi
      cases hi
      refine ⟨p, ?_, rfl, by rw [hqueued]; exact nofun, fun j other hj hother => ?_⟩
      · exact getElem?_concat_length
      · have := lt_of_getElem? hother
        rw [length_append, length_singleton] at this
        omega
    · rw [update_of_ne hkey] at hi
      obtain ⟨q, hq, hqkey, hstage, hlater⟩ := h.tail key i hi
      refine ⟨q, getElem?_concat_of hq, hqkey, hstage, fun j other hj hother => ?_⟩
      obtain hother | ⟨-, rfl⟩ := getElem?_concat_cases hother
      · exact hlater j other hj hother
      · exact fun heq => hkey heq.symm
  · intro key hnone
    by_cases hkey : key = p.key
    · subst hkey
      rw [update_self] at hnone
      cases hnone
    · rw [update_of_ne hkey] at hnone
      intro j other _ hother hsame
      obtain hother | ⟨-, rfl⟩ := getElem?_concat_cases hother
      · exact h.idle key hnone j other (lt_of_getElem? hother) hother hsame
      · exact absurd hsame.symm hkey

end Chains

section Emission

variable (replayBufferSize : Int) {s : StreamState P} {draft : FrameDraft P}

theorem emitDraft_listens (h : s.mode.listens draft = true) :
    (emitDraft replayBufferSize s draft).stream.sequence = s.sequence + 1 ∧
    (emitDraft replayBufferSize s draft).stream.replayFrames =
      trimReplayFrames replayBufferSize (s.replayFrames ++ [⟨s.streamId, s.sequence + 1, draft⟩]) := by
  unfold emitDraft
  rw [if_pos h]
  cases draft <;> exact ⟨rfl, rfl⟩

theorem getLast?_trimReplayFrames (hsize : 0 < replayBufferSize) (frames : List (ReplayFrame P))
    (frame : ReplayFrame P) :
    (trimReplayFrames replayBufferSize (frames ++ [frame])).getLast? = some frame := by
  unfold trimReplayFrames
  rw [if_neg (Int.not_le.mpr hsize), getLast?_drop, if_neg, getLast?_concat]
  rw [length_append, length_singleton]
  omega

end Emission

section Hubs

variable {replayBufferSize : Int} {h h' : PersistHub P} {id : Nat} {p : Persist P}

def Extends (streams streams' : List (ReplayStream P)) : Prop :=
  ∀ (token : Nat) (s : ReplayStream P), streams[token]? = some s →
    ∃ s' : ReplayStream P, streams'[token]? = some s' ∧ s'.key = s.key ∧
      s'.connectionId = s.connectionId ∧ s.state.sequence ≤ s'.state.sequence

structure Sound (replayBufferSize : Int) (h : PersistHub P) : Prop where
  chained : Chained h.persists h.replayPersistQueue
  streamed : ∀ (id : Nat) (p : Persist P), h.persists[id]? = some p →
    ∃ s : ReplayStream P, h.streams[p.replayPersistenceToken]? = some s ∧ s.key = p.key ∧
      s.connectionId = p.connectionId ∧ p.sequence ≤ s.state.sequence
  later : ∀ (i j : Nat) (p q : Persist P), i < j → h.persists[i]? = some p →
    h.persists[j]? = some q → p.replayPersistenceToken = q.replayPersistenceToken →
    p.sequence < q.sequence
  buffered : ∀ p ∈ h.persists, 0 < replayBufferSize →
    p.frames.getLast?.map ReplayFrame.sequence = some p.sequence
  stored : ∀ id ∈ h.stores, ∃ p : Persist P, h.persists[id]? = some p ∧ p.stage ≠ .queued
  ordered : h.stores.Pairwise fun i j => ∀ p q : Persist P, h.persists[i]? = some p →
    h.persists[j]? = some q → p.key = q.key → i < j
  tabled : ∀ (connectionId : String) (c : StreamTable) (streamId : String) (token : Nat),
    h.connections connectionId = some c → c.streams.get streamId = some token →
    ∃ s : ReplayStream P, h.streams[token]? = some s ∧ s.connectionId = connectionId

theorem sound_init : Sound replayBufferSize (PersistHub.init (P := P)) where
  chained := .nil
  streamed _ _ h := by simp [PersistHub.init] at h
  later _ _ _ _ _ h := by simp [PersistHub.init] at h
  buffered _ h := absurd h not_mem_nil
  stored _ h := absurd h not_mem_nil
  ordered := List.Pairwise.nil
  tabled _ _ _ _ h := by cases h

theorem Sound.moved (hs : Sound replayBufferSize h) {streams : List (ReplayStream P)}
    {connections : String → Option StreamTable} {aborted : List Nat}
    (hextends : Extends h.streams streams)
    (htabled : ∀ (connectionId : String) (c : StreamTable) (streamId : String) (token : Nat),
      connections connectionId = some c → c.streams.get streamId = some token →
      ∃ s : ReplayStream P, streams[token]? = some s ∧ s.connectionId = connectionId) :
    Sound replayBufferSize
      { h with connections, streams, abortedReplayPersistTokens := aborted } :=
  { hs with
    streamed id p hp := by
      obtain ⟨s, hstream, hkey, hconnection, hsequence⟩ := hs.streamed id p hp
      obtain ⟨s', hstream', hkey', hconnection', hsequence'⟩ := hextends _ s hstream
      exact ⟨s', hstream', hkey'.trans hkey, hconnection'.trans hconnection,
        hsequence.trans hsequence'⟩
    tabled := htabled }

theorem extends_close (tokens : List Nat) : Extends h.streams (h.close tokens) := by
  intro token s hstream
  unfold PersistHub.close
  rw [getElem?_mapIdx, hstream]
  by_cases hmem : token ∈ tokens
  · exact ⟨{ s with acceptsFrames := false }, by rw [map_some, if_pos hmem], rfl, rfl,
      Nat.le_refl _⟩
  · exact ⟨s, by rw [map_some, if_neg hmem], rfl, rfl, Nat.le_refl _⟩

theorem extends_set {token : Nat} {s t : ReplayStream P} (hstream : h.streams[token]? = some s)
    (hkey : t.key = s.key) (hconnection : t.connectionId = s.connectionId)
    (hsequence : s.state.sequence ≤ t.state.sequence) :
    Extends h.streams (h.streams.set token t) := by
  intro other before hbefore
  by_cases heq : token = other
  · subst heq
    obtain rfl := some.inj (hstream.symm.trans hbefore)
    exact ⟨t, getElem?_set_self (lt_of_getElem? hstream), hkey, hconnection, hsequence⟩
  · exact ⟨before, by rw [getElem?_set_ne heq, hbefore], rfl, rfl, Nat.le_refl _⟩

theorem extends_append (new : ReplayStream P) : Extends h.streams (h.streams ++ [new]) := by
  intro token s hstream
  exact ⟨s, by rw [getElem?_append_left (lt_of_getElem? hstream), hstream], rfl, rfl,
    Nat.le_refl _⟩

theorem Sound.tabled_update (hs : Sound replayBufferSize h) {streams : List (ReplayStream P)}
    (hextends : Extends h.streams streams) {connectionId : String} {c : StreamTable}
    (hc : ∀ streamId token, c.streams.get streamId = some token →
      (∃ before, h.connections connectionId = some before ∧
        before.streams.get streamId = some token) ∨
      ∃ s : ReplayStream P, streams[token]? = some s ∧ s.connectionId = connectionId) :
    ∀ (other : String) (table : StreamTable) (streamId : String) (token : Nat),
      update h.connections connectionId (some c) other = some table →
      table.streams.get streamId = some token →
      ∃ s : ReplayStream P, streams[token]? = some s ∧ s.connectionId = other := by
  intro other table streamId token htable hget
  have hold : ∀ before, h.connections other = some before →
      before.streams.get streamId = some token →
      ∃ s : ReplayStream P, streams[token]? = some s ∧ s.connectionId = other := by
    intro before hbefore hget
    obtain ⟨s, hstream, hconnection⟩ := hs.tabled other before streamId token hbefore hget
    obtain ⟨s', hstream', -, hconnection', -⟩ := hextends _ s hstream
    exact ⟨s', hstream', hconnection'.trans hconnection⟩
  by_cases hother : other = connectionId
  · subst hother
    rw [update_self] at htable
    cases htable
    obtain ⟨before, hbefore, hget'⟩ | hnew := hc streamId token hget
    · exact hold before hbefore hget'
    · exact hnew
  · rw [update_of_ne hother] at htable
    exact hold table htable hget

theorem Sound.staged (hs : Sound replayBufferSize h) (hp : h.persists[id]? = some p) {stage : Stage}
    {queue : String → Option Nat} {aborted stores : List Nat}
    (hchained : Chained (h.persists.set id { p with stage }) queue) (hstage : stage ≠ .queued)
    (hstores : stores = h.stores ∨ stores = h.stores ++ [id] ∧ p.stage = .queued ∧
      stage = .started) : Sound replayBufferSize
      { h with
        persists := h.persists.set id { p with stage }
        replayPersistQueue := queue
        abortedReplayPersistTokens := aborted
        stores := stores } := by
  have hstored : ∀ i ∈ h.stores, ∃ q : Persist P,
      (h.persists.set id { p with stage })[i]? = some q ∧ q.stage ≠ .queued := by
    intro i hi
    obtain ⟨q, hq, hpast⟩ := hs.stored i hi
    obtain ⟨q', hq', -, ⟨-, -, hnew⟩ | ⟨-, rfl⟩⟩ := setStage_getElem? stage hp hq
    · exact ⟨q', hq', hnew ▸ hstage⟩
    · exact ⟨q', hq', hpast⟩
  have hordered : h.stores.Pairwise fun i j => ∀ q r : Persist P,
      (h.persists.set id { p with stage })[i]? = some q →
      (h.persists.set id { p with stage })[j]? = some r → q.key = r.key → i < j := by
    refine hs.ordered.imp fun {i j} hlt q r hq hr hkey => ?_
    obtain ⟨q', hq', heq, -⟩ := getElem?_setStage hp hq
    obtain ⟨r', hr', heq', -⟩ := getElem?_setStage hp hr
    refine hlt q' r' hq' hr' ?_
    rw [heq, heq'] at hkey
    exact hkey
  refine ⟨hchained, ?_, ?_, ?_, ?_, ?_, hs.tabled⟩
  · intro i q hq
    obtain ⟨before, hbefore, heq, -⟩ := getElem?_setStage hp hq
    rw [heq]
    exact hs.streamed i before hbefore
  · intro i j q r hij hq hr htoken
    obtain ⟨q', hq', heq, -⟩ := getElem?_setStage hp hq
    obtain ⟨r', hr', heq', -⟩ := getElem?_setStage hp hr
    rw [heq, heq'] at htoken ⊢
    exact hs.later i j q' r' hij hq' hr' htoken
  · intro q hq hsize
    obtain ⟨i, hi⟩ := mem_iff_getElem?.mp hq
    obtain ⟨before, hbefore, heq, -⟩ := getElem?_setStage hp hi
    rw [heq]
    exact hs.buffered before (mem_of_getElem? hbefore) hsize
  · intro i hi
    obtain rfl | ⟨rfl, -, -⟩ := hstores
    · exact hstored i hi
    · obtain hi | hi := mem_append.mp hi
      · exact hstored i hi
      · obtain rfl := mem_singleton.mp hi
        exact ⟨_, getElem?_set_self (lt_of_getElem? hp), hstage⟩
  · obtain rfl | ⟨rfl, hqueued, rfl⟩ := hstores
    · exact hordered
    · refine pairwise_append.mpr ⟨hordered, pairwise_singleton _ _, ?_⟩
      intro i hi j hj q r hq hr hkey
      obtain rfl := mem_singleton.mp hj
      rw [getElem?_set_self (lt_of_getElem? hp)] at hr
      cases hr
      obtain ⟨before, hbefore, hpast⟩ := hs.stored i hi
      obtain ⟨q', hq', heq, -⟩ := getElem?_setStage hp hq
      obtain rfl := some.inj (hbefore.symm.trans hq')
      rw [heq] at hkey
      -- a later call would have waited for this one
      refine (Nat.lt_or_ge i j).resolve_right fun hge => ?_
      obtain rfl | hgt := Nat.eq_or_lt_of_le hge
      · obtain rfl := some.inj (hp.symm.trans hbefore)
        exact hpast hqueued
      · have hdone := hs.chained.first i before hbefore hpast j p hgt hp hkey.symm
        rw [hqueued] at hdone
        cases hdone

theorem earlierDone_of_past (hs : Sound replayBufferSize h) (hp : h.persists[id]? = some p)
    (hpast : p.stage ≠ .queued) : EarlierDone h.persists id p.key :=
  hs.chained.first id p hp hpast

theorem isReady_spec (hready : h.isReady p = true) (previous : Nat)
    (hprevious : p.previousPersist = some previous) :
    ∃ before : Persist P, h.persists[previous]? = some before ∧ before.stage.done = true := by
  unfold PersistHub.isReady at hready
  rw [hprevious] at hready
  exact (Option.any_eq_true _ _).mp hready

/-- What the steps of a persist leave: what the queue holds stays, if only for the others. -/
inductive Staged (h : PersistHub P) (id : Nat) (p : Persist P) : PersistHub P → Prop
  | skipped (hqueued : p.stage = .queued) (hready : h.isReady p = true)
      (haborted : p.replayPersistenceToken ∈ h.abortedReplayPersistTokens) :
      Staged h id p (h.setStage id p .settled)
  | called (hqueued : p.stage = .queued) (hready : h.isReady p = true)
      (hlive : p.replayPersistenceToken ∉ h.abortedReplayPersistTokens) :
      Staged h id p { h.setStage id p .started with stores := h.stores ++ [id] }
  | settled (hstarted : p.stage = .started) : Staged h id p (h.setStage id p .settled)
  | forgotten (hsettled : p.stage = .settled) (hlast : h.replayPersistQueue p.key = some id) :
      Staged h id p
        { h.setStage id p .finalised with
          replayPersistQueue := update h.replayPersistQueue p.key none
          abortedReplayPersistTokens :=
            h.abortedReplayPersistTokens.filter fun token => token ≠ p.replayPersistenceToken }
  | passed (hsettled : p.stage = .settled) (hother : h.replayPersistQueue p.key ≠ some id) :
      Staged h id p (h.setStage id p .finalised)

theorem run_staged (hrun : h.run id = some h') :
    ∃ p, h.persists[id]? = some p ∧ Staged h id p h' := by
  obtain ⟨p, hp, hrun⟩ := bind_eq_some_iff.mp hrun
  split at hrun
  case isFalse => cases hrun
  case isTrue hturn =>
    split at hrun
    case isTrue haborted =>
      cases hrun
      exact ⟨p, hp, .skipped hturn.1 hturn.2 haborted⟩
    case isFalse hlive =>
      cases hrun
      exact ⟨p, hp, .called hturn.1 hturn.2 hlive⟩

theorem settle_staged (hsettle : h.settle id = some h') :
    ∃ p, h.persists[id]? = some p ∧ Staged h id p h' := by
  obtain ⟨p, hp, hsettle⟩ := bind_eq_some_iff.mp hsettle
  split at hsettle
  case isFalse => cases hsettle
  case isTrue hstarted =>
    cases hsettle
    exact ⟨p, hp, .settled hstarted⟩

theorem finalise_staged (hfinalise : h.finalise id = some h') :
    ∃ p, h.persists[id]? = some p ∧ Staged h id p h' := by
  obtain ⟨p, hp, hfinalise⟩ := bind_eq_some_iff.mp hfinalise
  split at hfinalise
  case isFalse => cases hfinalise
  case isTrue hsettled =>
    split at hfinalise
    case isTrue hlast =>
      cases hfinalise
      exact ⟨p, hp, .forgotten hsettled hlast⟩
    case isFalse hother =>
      cases hfinalise
      exact ⟨p, hp, .passed hsettled hother⟩

theorem Sound.persist_step (hs : Sound replayBufferSize h) (hp : h.persists[id]? = some p)
    (hstaged : Staged h id p h') : Sound replayBufferSize h' := by
  cases hstaged with
  | skipped hqueued hready haborted =>
    have hearlier := hs.chained.earlierDone hp (isReady_spec hready)
    exact hs.staged hp (hs.chained.advance hp hearlier (fun _ => rfl)
      (fun _ _ hi => ⟨hi, fun _ => nofun⟩) fun _ => .inl) nofun (.inl rfl)
  | called hqueued hready hlive =>
    have hearlier := hs.chained.earlierDone hp (isReady_spec hready)
    have hwaits : p.stage.done = true → Stage.started.done = true := by
      rw [hqueued]
      exact Bool.noConfusion
    exact hs.staged hp (hs.chained.advance hp hearlier hwaits
      (fun _ _ hi => ⟨hi, fun _ => nofun⟩) fun _ => .inl) nofun (.inr ⟨rfl, hqueued, rfl⟩)
  | settled hstarted =>
    have hearlier := earlierDone_of_past hs hp (by rw [hstarted]; exact nofun)
    exact hs.staged hp (hs.chained.advance hp hearlier (fun _ => rfl)
      (fun _ _ hi => ⟨hi, fun _ => nofun⟩) fun _ => .inl) nofun (.inl rfl)
  | forgotten hsettled hlast =>
    have hearlier := earlierDone_of_past hs hp (by rw [hsettled]; exact nofun)
    refine hs.staged hp (hs.chained.advance hp hearlier (fun _ => rfl) ?_ ?_) nofun (.inl rfl)
    · intro key i hi
      by_cases hkey : key = p.key
      · rw [hkey, update_self] at hi
        cases hi
      · rw [update_of_ne hkey] at hi
        refine ⟨hi, fun heq => ?_⟩
        obtain ⟨q, hq, hqkey, -⟩ := hs.chained.tail key i hi
        rw [heq] at hq
        obtain rfl := some.inj (hp.symm.trans hq)
        exact absurd hqkey.symm hkey
    · intro key hnone
      by_cases hkey : key = p.key
      · exact .inr ⟨hkey, hkey ▸ hlast, rfl⟩
      · rw [update_of_ne hkey] at hnone
        exact .inl hnone
  | passed hsettled hother =>
    have hearlier := earlierDone_of_past hs hp (by rw [hsettled]; exact nofun)
    refine hs.staged hp (hs.chained.advance hp hearlier (fun _ => rfl) ?_ fun _ => .inl) nofun
      (.inl rfl)
    intro key i hi
    refine ⟨hi, fun heq => ?_⟩
    obtain ⟨q, hq, hqkey, -⟩ := hs.chained.tail key i hi
    rw [heq] at hq
    obtain rfl := some.inj (hp.symm.trans hq)
    exact absurd (hqkey ▸ heq ▸ hi) hother

/-- The emission of a current stream: the stream goes on, and its buffer is queued. -/
structure Emitted (replayBufferSize : Int) (h : PersistHub P) (token : Nat) (draft : FrameDraft P)
    (s : ReplayStream P) (h' : PersistHub P) : Prop where
  stream : h.streams[token]? = some s
  current : h.isCurrentStream token s = true
  listens : s.state.mode.listens draft = true
  result : h' = ({ h with
    streams := h.streams.set token
      { s with state := (emitDraft replayBufferSize s.state draft).stream } }).persistReplayFrames
        token { s with state := (emitDraft replayBufferSize s.state draft).stream }

theorem emit_emitted {token : Nat} {draft : FrameDraft P}
    (hemit : h.emit replayBufferSize token draft = some h') :
    ∃ s, Emitted replayBufferSize h token draft s h' := by
  obtain ⟨s, hstream, hemit⟩ := bind_eq_some_iff.mp hemit
  split at hemit
  case isFalse => cases hemit
  case isTrue hcurrent =>
    exact ⟨s, hstream, hcurrent.1, hcurrent.2, (some.inj hemit).symm⟩

theorem Sound.emitted (hs : Sound replayBufferSize h) {token : Nat} {draft : FrameDraft P}
    {s : ReplayStream P} (he : Emitted replayBufferSize h token draft s h') :
    Sound replayBufferSize h' := by
  obtain ⟨hstream, -, hlistens, rfl⟩ := he
  obtain ⟨hsequence, hframes⟩ := emitDraft_listens replayBufferSize hlistens
  generalize hsent : (emitDraft replayBufferSize s.state draft).stream = sent at hsequence hframes
  have hextends : Extends h.streams (h.streams.set token { s with state := sent }) :=
    extends_set hstream rfl rfl (by rw [hsequence]; exact Nat.le_succ _)
  generalize hs' : { s with state := sent } = sent' at *
  have hfields : sent'.key = s.key ∧ sent'.connectionId = s.connectionId ∧
      sent'.state = sent := by
    subst hs'
    exact ⟨rfl, rfl, rfl⟩
  obtain ⟨hkey, hconnection, rfl⟩ := hfields
  -- the new persist is the last one of its stream
  have hnewer : ∀ (i : Nat) (p : Persist P), h.persists[i]? = some p → p.replayPersistenceToken = token →
      p.sequence < sent'.state.sequence := by
    intro i p hp htoken
    obtain ⟨before, hbefore, -, -, hle⟩ := hs.streamed i p hp
    rw [htoken] at hbefore
    obtain rfl := some.inj (hstream.symm.trans hbefore)
    rw [hsequence]
    exact Nat.lt_succ_of_le hle
  refine ⟨hs.chained.enqueue rfl rfl, ?_, ?_, ?_, ?_, ?_, ?_⟩
  · intro i q hq
    obtain hq | ⟨-, rfl⟩ := getElem?_concat_cases hq
    · obtain ⟨before, hbefore, hbkey, hbconnection, hle⟩ := hs.streamed i q hq
      obtain ⟨after, hafter, hakey, haconnection, hle'⟩ := hextends _ before hbefore
      exact ⟨after, hafter, hakey.trans hbkey, haconnection.trans hbconnection, hle.trans hle'⟩
    · exact ⟨sent', getElem?_set_self (lt_of_getElem? hstream), rfl, rfl, Nat.le_refl _⟩
  · intro i j q r hij hq hr htoken
    obtain hr | ⟨hlast, rfl⟩ := getElem?_concat_cases hr
    · obtain hq | ⟨hlast, -⟩ := getElem?_concat_cases hq
      · exact hs.later i j q r hij hq hr htoken
      · exact absurd (lt_of_getElem? hr) (by omega)
    · obtain hq | ⟨hlast', -⟩ := getElem?_concat_cases hq
      · exact hnewer i q hq htoken
      · exact absurd (hlast'.trans hlast.symm) hij.ne
  · intro q hq hsize
    obtain hq | hq := mem_append.mp hq
    · exact hs.buffered q hq hsize
    · rw [mem_singleton.mp hq]
      dsimp only
      rw [hframes, getLast?_trimReplayFrames replayBufferSize hsize, hsequence]
      rfl
  · intro i hi
    obtain ⟨q, hq, hpast⟩ := hs.stored i hi
    exact ⟨q, getElem?_concat_of hq, hpast⟩
  · refine hs.ordered.imp_of_mem fun {i j} hi hj hlt q r hq hr hkey' => ?_
    obtain ⟨q', hq', -⟩ := hs.stored i hi
    obtain ⟨r', hr', -⟩ := hs.stored j hj
    obtain rfl := some.inj ((getElem?_concat_of hq').symm.trans hq)
    obtain rfl := some.inj ((getElem?_concat_of hr').symm.trans hr)
    exact hlt q' r' hq' hr' hkey'
  · intro other c streamId token' hc hget
    obtain ⟨before, hbefore, hbconnection⟩ := hs.tabled other c streamId token' hc hget
    obtain ⟨after, hafter, -, haconnection, -⟩ := hextends _ before hbefore
    exact ⟨after, hafter, haconnection.trans hbconnection⟩

theorem Sound.shut (hs : Sound replayBufferSize h) {connectionId : String}
    (hshut : h.shutdownConnection connectionId = some h') : Sound replayBufferSize h' := by
  obtain ⟨c, hc, hshut⟩ := bind_eq_some_iff.mp hshut
  split at hshut
  case isTrue => cases hshut
  case isFalse =>
    cases hshut
    have hextends := extends_close (h := h) c.streams.values
    refine hs.moved hextends (hs.tabled_update hextends fun streamId token hget => ?_)
    cases hget

theorem Sound.step (hs : Sound replayBufferSize h) {a : PersistAction P}
    (hstep : h.step replayBufferSize a = some h') : Sound replayBufferSize h' := by
  cases a with
  | attach connectionId =>
    simp only [PersistHub.step] at hstep
    split at hstep
    case isFalse => cases hstep
    case isTrue =>
      cases hstep
      have hsame : Extends h.streams h.streams := fun token s hstream =>
        ⟨s, hstream, rfl, rfl, Nat.le_refl _⟩
      exact hs.moved hsame (hs.tabled_update hsame fun streamId token hget => by cases hget)
  | cleanup connectionId streamId =>
    obtain ⟨c, hc, hclean⟩ := bind_eq_some_iff.mp hstep
    split at hclean
    case isFalse => cases hclean
    case isTrue =>
      cases hclean
      have hextends := extends_close (h := h) (c.streams.get streamId).toList
      refine hs.moved hextends (hs.tabled_update hextends fun other token hget => ?_)
      dsimp only at hget
      rw [OrderedMap.get_delete] at hget
      split at hget
      case isTrue => cases hget
      case isFalse => exact .inl ⟨c, hc, hget⟩
  | create connectionId streamId replaySessionId replayStorageStreamId mode restored =>
    obtain ⟨c, hc, hcreate⟩ := bind_eq_some_iff.mp hstep
    split at hcreate
    case isFalse => cases hcreate
    case isTrue =>
      cases hcreate
      have hextends := extends_append (h := h)
        { connectionId, replaySessionId, replayStorageStreamId
          acceptsFrames := true
          attached := false
          state := .restored streamId mode restored }
      exact hs.moved hextends (hs.tabled_update hextends fun other token hget =>
        .inl ⟨c, hc, hget⟩)
  | emit token draft =>
    obtain ⟨s, he⟩ := emit_emitted hstep
    exact hs.emitted he
  | register token =>
    obtain ⟨s, hstream, hregister⟩ := bind_eq_some_iff.mp hstep
    obtain ⟨c, hc, hregister⟩ := bind_eq_some_iff.mp hregister
    split at hregister
    case isFalse => cases hregister
    case isTrue =>
      cases hregister
      have hextends := extends_set (h := h) (t := { s with attached := true }) hstream rfl rfl
        (Nat.le_refl _)
      refine hs.moved hextends (hs.tabled_update hextends fun other token' hget => ?_)
      dsimp only at hget
      rw [OrderedMap.get_set] at hget
      split at hget
      case isTrue =>
        cases hget
        exact .inr ⟨_, getElem?_set_self (lt_of_getElem? hstream), rfl⟩
      case isFalse => exact .inl ⟨c, hc, hget⟩
  | discard token =>
    obtain ⟨s, hstream, hdiscard⟩ := bind_eq_some_iff.mp hstep
    obtain ⟨c, hc, hdiscard⟩ := bind_eq_some_iff.mp hdiscard
    split at hdiscard
    case isFalse => cases hdiscard
    case isTrue =>
      cases hdiscard
      have hextends := extends_close (h := h) [token]
      exact hs.moved hextends (hs.tabled_update hextends fun other token' hget =>
        .inl ⟨c, hc, hget⟩)
  | terminate connectionId => exact hs.shut hstep
  | run id =>
    obtain ⟨p, hp, hstaged⟩ := run_staged hstep
    exact hs.persist_step hp hstaged
  | settle id =>
    obtain ⟨p, hp, hstaged⟩ := settle_staged hstep
    exact hs.persist_step hp hstaged
  | finalise id =>
    obtain ⟨p, hp, hstaged⟩ := finalise_staged hstep
    exact hs.persist_step hp hstaged

end Hubs

end ActorWeb.Gateway.Persistence
