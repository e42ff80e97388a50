import ActorWeb.TransportNumbering

namespace ActorWeb.TransportSession

open List

open TransportContract TransportCore TransportQuiet TransportOwnership TransportMoves TransportNumbering Trace Transition

/-- A sending node and a receiving node that asks an idempotency provider. -/
structure Session where
  (sender receiver : Core)

def create (sender receiver : Config) : Session where
  sender := TransportCore.create sender
  receiver := TransportCore.create { receiver with idempotencyProvider := true }

inductive SessionAction
  | sender (a : Action)
  | receiver (a : Action)

def claimedBefore (c : Core) (key : String) : Bool :=
  c.log.any fun
    | .claimAnswered _ _ key' false => key' = key
    | _ => false

def answersHonestly (c : Core) : Action → Bool
  | .providerAnswers job answer =>
    match c.jobs job with
    | some (.claiming _ p frame) =>
      match answer with
      | .claimed => !claimedBefore c (idempotencyKey c.config.identity (c.records p).identity frame)
      | .duplicate => claimedBefore c (idempotencyKey c.config.identity (c.records p).identity frame)
      | .error => true
    | _ => true
  | _ => true

def produced (c : Core) : List RuntimeTransportFrame := (sends c.log).map Prod.snd

/-- Links lose, repeat and delay frames, and deliver only frames that the sender produced. -/
def step (s : Session) : SessionAction → Option Session
  | .sender a => (TransportCore.step s.sender a).map fun c => { s with sender := c }
  | .receiver a =>
    if (arriving a).all (· ∈ produced s.sender) && answersHonestly s.receiver a then
      (TransportCore.step s.receiver a).map fun c => { s with receiver := c }
    else none

def ReceivedBefore (pre : List Event) : Event → Prop
  | .duplicateDropped _ _ frame => ∃ j p, .received j p frame ∈ pre
  | _ => True

/-- Two `send` calls never share a message id, and only a frame that was received is a duplicate. -/
def NothingLost (s : Session) : Prop := DistinctIds s.sender.log ∧ Disciplined ReceivedBefore s.receiver.log

def SameRecord (s : Session) : SessionAction → Prop
  | .sender a => TransportNumbering.SameRecord s.sender a
  | .receiver _ => True

section Receiver

def Neutral : Event → Prop
  | .claimAnswered _ _ _ false | .received _ _ _ | .duplicateDropped _ _ _ => False
  | _ => True

structure Calm (c c' : Core) : Prop where
  config : c'.config = c.config
  nextRecord : c'.nextRecord = c.nextRecord
  identity : ∀ p, (c'.records p).identity = (c.records p).identity
  cache : ∀ p, (c'.records p).idempotencyCache = (c.records p).idempotencyCache
  jobs : ∀ j a p f, c'.jobs j = some (.claiming a p f) → c.jobs j = some (.claiming a p f)
  microtasks : ∃ ms, c'.microtasks = c.microtasks ++ ms ∧ ∀ m ∈ ms, ∃ a p, m = .retryRejected a p
  log : ∃ new, c'.log = c.log ++ new ∧ ∀ e ∈ new, Neutral e

namespace Calm

variable {c c' c'' : Core}

theorem refl (c : Core) : Calm c c :=
  ⟨rfl, rfl, fun _ => rfl, fun _ => rfl, fun _ _ _ _ => id, ⟨[], by simp⟩, [], by simp⟩

theorem of_quiet (q : Quiet c c') : Calm c c' where
  config := q.config
  nextRecord := q.nextRecord
  identity := q.identity
  cache := q.cache
  jobs := q.jobs
  microtasks := q.microtasks
  log := by
    obtain ⟨new, hnew, hplain, -⟩ := q.log
    refine ⟨new, hnew, fun e he => ?_⟩
    have hp := hplain e he
    cases e <;> trivial

theorem emit (c : Core) {e : Event} (he : Neutral e) : Calm c (c.emit e) := by
  refine { refl c with log := ⟨[e], rfl, fun e' he' => ?_⟩ }
  rw [mem_singleton.mp he']
  exact he

theorem modifyRecord (c : Core) (p : Nat) {f : Peer → Peer}
    (hidentity : (f (c.records p)).identity = (c.records p).identity)
    (hcache : (f (c.records p)).idempotencyCache = (c.records p).idempotencyCache) :
    Calm c (c.modifyRecord p f) := by
  refine { refl c with identity := fun q => ?_, cache := fun q => ?_ }
  all_goals by_cases hq : q = p
  · rw [hq, Core.modifyRecord_records_self, hidentity]
  · rw [Core.modifyRecord_records_ne c f hq]
  · rw [hq, Core.modifyRecord_records_self, hcache]
  · rw [Core.modifyRecord_records_ne c f hq]

end Calm

def Known (source : RuntimeNodeIdentity) (c : Core) (p : Nat) : Prop :=
  p < c.nextRecord ∧ (c.records p).identity.nodeAddress = source.nodeAddress ∧
    (c.records p).identity.nodeId = source.nodeId

def keyOf (source : RuntimeNodeIdentity) (c : Core) (messageId : String) : String :=
  createRuntimeTransportIdempotencyScope c.config.identity source ++ ":message:" ++ messageId

variable {c : Core} {id : String} {F : RuntimeTransportFrame → Prop} {log : List Event}

theorem idempotencyKey_eq {source : RuntimeNodeIdentity} {p : Nat} (h : Known source c p)
    (frame : RuntimeTransportFrame) :
    idempotencyKey c.config.identity (c.records p).identity frame = keyOf source c frame.messageId := by
  simp only [idempotencyKey, keyOf, createRuntimeTransportIdempotencyScope, h.2.1, h.2.2]

theorem keyOf_inj {source : RuntimeNodeIdentity} {id' : String}
    (h : keyOf source c id = keyOf source c id') : id = id' := (String.append_right_inj _).mp h

def Received (F : RuntimeTransportFrame → Prop) (log : List Event) (id : String) : Prop :=
  ∃ j p f, .received j p f ∈ log ∧ F f ∧ f.messageId = id

def Accepting (ms : List Microtask) (id : String) : Prop :=
  ∃ j a p f source evicted, .claimed j a p f (.accepted source evicted) ∈ ms ∧ f.messageId = id

def Behind (F : RuntimeTransportFrame → Prop) (log : List Event) (pre : List Microtask) : Microtask → Prop
  | .claimed _ _ _ f (.duplicate _ _) => Received F log f.messageId ∨ Accepting pre f.messageId
  | _ => True

def Repeats (F : RuntimeTransportFrame → Prop) (pre : List Event) : Event → Prop
  | .duplicateDropped _ _ f => F f ∧ Received F pre f.messageId
  | _ => True

/-- While the microtasks `running` are being handled, what was claimed is received or about to be. -/
structure Receiving (F : RuntimeTransportFrame → Prop) (source : RuntimeNodeIdentity)
    (running : List Microtask) (c : Core) : Prop where
  provider : c.config.idempotencyProvider = true
  claiming : ∀ j a p f, c.jobs j = some (.claiming a p f) → F f ∧ Known source c p
  resuming : ∀ j a p f outcome, .claimed j a p f outcome ∈ running ++ c.microtasks → F f
  cached : ∀ p id, (c.records p).idempotencyCache.has id = true → claimedBefore c (keyOf source c id) = true
  claimed : ∀ id, claimedBefore c (keyOf source c id) = true →
    Received F c.log id ∨ Accepting (running ++ c.microtasks) id
  waiting : Disciplined (Behind F c.log) (running ++ c.microtasks)
  disciplined : Disciplined (Repeats F) c.log

theorem Received.mono {log' : List Event}
    (h : Received F log id) (hsub : log ⊆ log') : Received F log' id := by
  obtain ⟨j, p, f, hmem, hf⟩ := h
  exact ⟨j, p, f, hsub hmem, hf⟩

theorem Received.imp {F' : RuntimeTransportFrame → Prop}
    (h : Received F log id) (hF : ∀ f, F f → F' f) : Received F' log id := by
  obtain ⟨j, p, f, hmem, hf, hid⟩ := h
  exact ⟨j, p, f, hmem, hF f hf, hid⟩

theorem Accepting.mono {ms ms' : List Microtask} (h : Accepting ms id) (hsub : ms ⊆ ms') :
    Accepting ms' id := by
  obtain ⟨j, a, p, f, source, evicted, hmem, hid⟩ := h
  exact ⟨j, a, p, f, source, evicted, hsub hmem, hid⟩

theorem Behind.mono {log' : List Event} {pre : List Microtask}
    {m : Microtask} (h : Behind F log pre m) (hsub : log ⊆ log') : Behind F log' pre m := by
  cases m with
  | claimed j a p f outcome =>
    cases outcome with
    | duplicate source evicted => exact h.imp_left fun h => h.mono hsub
    | _ => trivial
  | retryRejected a p => trivial

theorem claimedBefore_append (c : Core) {c' : Core} {new : List Event} (hlog : c'.log = c.log ++ new)
    (key : String) : claimedBefore c' key = (claimedBefore c key || new.any fun
      | .claimAnswered _ _ key' false => key' = key
      | _ => false) := by
  rw [claimedBefore, hlog, any_append]
  rfl

theorem claimedBefore_of_neutral {c' : Core} {new : List Event} (hlog : c'.log = c.log ++ new)
    (hnew : ∀ e ∈ new, Neutral e) (key : String) : claimedBefore c' key = claimedBefore c key := by
  rw [claimedBefore_append c hlog, Bool.or_eq_left_iff_imp]
  intro h
  obtain ⟨e, he, hkey⟩ := any_eq_true.mp h
  have hneutral := hnew e he
  cases e with
  | claimAnswered j p key' duplicate =>
    cases duplicate with
    | false => exact hneutral.elim
    | true => cases hkey
  | _ => cases hkey

namespace Receiving

variable {F F' : RuntimeTransportFrame → Prop} {source : RuntimeNodeIdentity} {running : List Microtask}
  {c c' : Core}

theorem create (F : RuntimeTransportFrame → Prop) (source : RuntimeNodeIdentity) (config : Config) :
    Receiving F source [] (TransportCore.create { config with idempotencyProvider := true }) where
  provider := rfl
  claiming _ _ _ _ h := by simp [TransportCore.create] at h
  resuming _ _ _ _ _ h := by simp [TransportCore.create] at h
  cached _ _ h := by simp [TransportCore.create, FrontCache.has] at h
  claimed _ h := by simp [TransportCore.create, claimedBefore] at h
  waiting := disciplined_nil
  disciplined := disciplined_nil

theorem imp (r : Receiving F source running c) (hF : ∀ f, F f → F' f) : Receiving F' source running c where
  provider := r.provider
  claiming j a p f h := (r.claiming j a p f h).imp_left (hF f)
  resuming j a p f outcome h := hF f (r.resuming j a p f outcome h)
  cached := r.cached
  claimed id h := (r.claimed id h).imp_left fun h => h.imp hF
  waiting := r.waiting.imp fun pre m h => by
    cases m with
    | claimed j a p f outcome =>
      cases outcome with
      | duplicate s evicted => exact Or.imp_left (fun h => h.imp hF) h
      | _ => trivial
    | retryRejected a p => trivial
  disciplined := r.disciplined.imp fun pre e h => by
    cases e with
    | duplicateDropped j p f => exact ⟨hF f h.1, h.2.imp hF⟩
    | _ => trivial

theorem of_calm (r : Receiving F source running c) (k : Calm c c') : Receiving F source running c' := by
  obtain ⟨ms, hms, hretry⟩ := k.microtasks
  obtain ⟨new, hnew, hneutral⟩ := k.log
  have hkey (id : String) : keyOf source c' id = keyOf source c id := by rw [keyOf, keyOf, k.config]
  have hclaimed (key : String) : claimedBefore c' key = claimedBefore c key :=
    claimedBefore_of_neutral hnew hneutral key
  have hsub : c.log ⊆ c'.log := hnew ▸ subset_append_left _ _
  have hqueue : running ++ c'.microtasks = running ++ c.microtasks ++ ms := by rw [hms, append_assoc]
  refine
    { provider := by rw [k.config, r.provider]
      claiming := fun j a p f h => ?_
      resuming := fun j a p f outcome h => ?_
      cached := fun p id h => ?_
      claimed := fun id h => ?_
      waiting := ?_
      disciplined := ?_ }
  · obtain ⟨hf, hknown⟩ := r.claiming j a p f (k.jobs j a p f h)
    refine ⟨hf, ?_⟩
    rw [Known, k.nextRecord, k.identity]
    exact hknown
  · rw [hqueue, mem_append] at h
    rcases h with h | h
    · exact r.resuming j a p f outcome h
    · obtain ⟨b, q, hm⟩ := hretry _ h
      cases hm
  · rw [hkey, hclaimed]
    exact r.cached p id (k.cache p ▸ h)
  · rw [hkey, hclaimed] at h
    rw [hqueue]
    exact (r.claimed id h).imp (fun h => h.mono hsub) fun h => h.mono (subset_append_left _ _)
  · rw [hqueue]
    refine (disciplined_append fun more m hm _ => ?_).mpr (r.waiting.imp fun pre m h => h.mono hsub)
    obtain ⟨b, q, rfl⟩ := hretry m hm
    trivial
  · rw [hnew]
    refine (disciplined_append fun more e he _ => ?_).mpr r.disciplined
    have he := hneutral e he
    cases e <;> trivial

theorem of_quiet (r : Receiving F source running c) (q : Quiet c c') : Receiving F source running c' :=
  r.of_calm (.of_quiet q)

variable {p : Nat} {f : RuntimeTransportFrame}

theorem push (r : Receiving F source running c) {j : Nat} (a : String)
    {outcome : ClaimOutcome} (hf : F f)
    (hbehind : Behind F c.log (running ++ c.microtasks) (.claimed j a p f outcome)) :
    Receiving F source running (c.addMicrotask (.claimed j a p f outcome)) := by
  have hqueue : running ++ (c.addMicrotask (.claimed j a p f outcome)).microtasks =
      running ++ c.microtasks ++ [.claimed j a p f outcome] := (append_assoc _ _ _).symm
  refine
    { provider := r.provider
      claiming := r.claiming
      resuming := fun j' a' p' f' outcome' h => ?_
      cached := r.cached
      claimed := fun id h => ?_
      waiting := ?_
      disciplined := r.disciplined }
  · rw [hqueue, mem_append, mem_singleton] at h
    rcases h with h | h
    · exact r.resuming j' a' p' f' outcome' h
    · cases h
      exact hf
  · rw [hqueue]
    exact (r.claimed id h).imp_right fun h => h.mono (subset_append_left _ _)
  · rw [hqueue]
    exact disciplined_concat.mpr ⟨r.waiting, hbehind⟩

theorem register (r : Receiving F source running c) (link : Nat) (identity : RuntimeNodeIdentity) :
    Receiving F source running (addPeer c link identity) where
  provider := r.provider
  claiming j a p f h := by
    obtain ⟨hf, hold, hidentity⟩ := r.claiming j a p f h
    refine ⟨hf, Nat.lt_succ_of_lt hold, ?_⟩
    simp only [addPeer, Function.update_of_ne (Nat.ne_of_lt hold)]
    exact hidentity
  resuming := r.resuming
  cached p id h := by
    by_cases hp : p = c.nextRecord
    · subst hp
      simp [addPeer, FrontCache.has] at h
    · simp only [addPeer, Function.update_of_ne hp] at h
      exact r.cached p id h
  claimed := r.claimed
  waiting := r.waiting
  disciplined := r.disciplined

theorem remember (r : Receiving F source running c) (p : Nat) (id : String)
    (hid : claimedBefore c (keyOf source c id) = true) :
    Receiving F source running (c.modifyRecord p fun r =>
      { r with idempotencyCache := (r.idempotencyCache.remember id).1 }) where
  provider := r.provider
  claiming j a q f h := by
    obtain ⟨hf, hold, haddress, hnode⟩ := r.claiming j a q f h
    have hidentity := (remember_kept c p id).identity q
    exact ⟨hf, hold, by rw [hidentity, haddress], by rw [hidentity, hnode]⟩
  resuming := r.resuming
  cached q id' h := by
    by_cases hq : q = p
    · subst hq
      rw [Core.modifyRecord_records_self] at h
      rcases FrontCache.has_of_remember h with h | rfl
      · exact r.cached q id' h
      · exact hid
    · rw [Core.modifyRecord_records_ne c _ hq] at h
      exact r.cached q id' h
  claimed := r.claimed
  waiting := r.waiting
  disciplined := r.disciplined

theorem ask (r : Receiving F source running c) (j : Nat) (a : String)
    (hf : F f) (hknown : Known source c p) : Receiving F source running (c.setJob j (some (.claiming a p f))) where
  provider := r.provider
  claiming j' a' p' f' h := by
    by_cases hj : j' = j
    · subst hj
      simp only [Core.setJob, Function.update_self, Option.some.injEq, Job.claiming.injEq] at h
      obtain ⟨-, rfl, rfl⟩ := h
      exact ⟨hf, hknown⟩
    · simp only [Core.setJob, Function.update_of_ne hj] at h
      exact r.claiming j' a' p' f' h
  resuming := r.resuming
  cached := r.cached
  claimed := r.claimed
  waiting := r.waiting
  disciplined := r.disciplined

theorem claim (r : Receiving F source running c) (a : String) (hf : F f)
    (hknown : Known source c p) : Receiving F source running (claim c a p f) := by
  have harrived : Receiving F source running { c.emit (.arrived c.nextJob p f) with nextJob := c.nextJob + 1 } :=
    r.of_calm { Calm.emit c (e := .arrived c.nextJob p f) trivial with }
  unfold TransportCore.claim
  simp only
  split
  case isTrue hcached =>
    refine harrived.push a hf ?_
    exact harrived.claimed f.messageId (harrived.cached p f.messageId hcached)
  case isFalse =>
    split
    case isTrue hmemory =>
      have hprovider : c.config.idempotencyProvider = true := r.provider
      simp [Core.emit, hprovider] at hmemory
    case isFalse => exact harrived.ask _ a hf hknown

theorem accept (r : Receiving F source running c) (j : Nat) (a : String)
    (hf : F f) (evicted : List String) :
    Receiving F source running ((c.emit (.claimAnswered j p (keyOf source c f.messageId) false)).addMicrotask
      (.claimed j a p f (.accepted .provider evicted))) := by
  have hsub : c.log ⊆ c.log ++ [.claimAnswered j p (keyOf source c f.messageId) false] :=
    subset_append_left _ _
  have hclaimed (key : String) : claimedBefore ((c.emit (.claimAnswered j p (keyOf source c f.messageId)
      false)).addMicrotask (.claimed j a p f (.accepted .provider evicted))) key =
      (claimedBefore c key || decide (keyOf source c f.messageId = key)) :=
    (claimedBefore_append c rfl key).trans (by simp)
  have hqueue : running ++ (c.microtasks ++ [.claimed j a p f (.accepted .provider evicted)]) =
      running ++ c.microtasks ++ [.claimed j a p f (.accepted .provider evicted)] := (append_assoc _ _ _).symm
  refine
    { provider := r.provider
      claiming := r.claiming
      resuming := fun j' a' p' f' outcome h => ?_
      cached := fun q id h => ?_
      claimed := fun id h => ?_
      waiting := ?_
      disciplined := disciplined_concat.mpr ⟨r.disciplined, trivial⟩ }
  · simp only [Core.addMicrotask, Core.emit, hqueue, mem_append, mem_singleton] at h
    rcases h with h | h
    · exact r.resuming j' a' p' f' outcome (mem_append.mpr h)
    · cases h
      exact hf
  · rw [hclaimed, Bool.or_eq_true]
    exact .inl (r.cached q id h)
  · have h : claimedBefore c (keyOf source c id) = true ∨ keyOf source c f.messageId = keyOf source c id := by
      simpa using (hclaimed (keyOf source c id)).symm.trans h
    simp only [Core.addMicrotask, Core.emit, hqueue]
    rcases h with h | h
    · exact (r.claimed id h).imp (fun h => h.mono hsub) fun h => h.mono (subset_append_left _ _)
    · exact .inr ⟨j, a, p, f, _, _, mem_concat_self, keyOf_inj h⟩
  · simp only [Core.addMicrotask, Core.emit, hqueue]
    exact disciplined_concat.mpr ⟨r.waiting.imp fun pre m h => h.mono hsub, trivial⟩

theorem claimAnswered (r : Receiving F source running c) {j : Nat} (a : String)
    {answer : ClaimAnswer} (hf : F f) (hknown : Known source c p) (hhonest : answer = .duplicate →
      claimedBefore c (idempotencyKey c.config.identity (c.records p).identity f) = true) :
    Receiving F source running (claimAnswered c j a p f answer) := by
  have hkey := idempotencyKey_eq hknown f
  cases answer with
  | claimed =>
    have haccepted := r.accept j a (p := p) hf ((c.records p).idempotencyCache.remember f.messageId).2
    have hremembered := haccepted.remember p f.messageId (by
      refine (claimedBefore_append c rfl _).trans ?_
      simp [keyOf, Core.addMicrotask, Core.emit])
    rw [← hkey] at hremembered
    exact hremembered
  | duplicate =>
    have hclaimed : claimedBefore c (keyOf source c f.messageId) = true := hkey ▸ hhonest rfl
    have hremembered := r.remember p _ hclaimed
    have hanswered : Receiving F source running ((c.modifyRecord p fun r =>
        { r with idempotencyCache := (r.idempotencyCache.remember f.messageId).1 }).emit
        (.claimAnswered j p (idempotencyKey c.config.identity (c.records p).identity f) true)) :=
      hremembered.of_calm (.emit _ trivial)
    refine hanswered.push a hf ?_
    exact (r.claimed f.messageId hclaimed).imp_left fun h => h.mono (subset_append_left _ _)
  | error => exact r.push a hf trivial

theorem pop (r : Receiving F source [] c) {m : Microtask} {rest : List Microtask} (hm : c.microtasks = m :: rest) :
    Receiving F source [m] { c with microtasks := rest } where
  provider := r.provider
  claiming := r.claiming
  resuming j a p f outcome h := r.resuming j a p f outcome (by rw [hm]; exact h)
  cached := r.cached
  claimed id h := by
    have hclaimed := r.claimed id h
    rw [hm] at hclaimed
    exact hclaimed
  waiting := by
    have hwaiting := r.waiting
    rw [hm] at hwaiting
    exact hwaiting
  disciplined := r.disciplined

theorem finish {m : Microtask} (r : Receiving F source [m] c)
    (hm : ∀ j a p f s evicted, m = .claimed j a p f (.accepted s evicted) → Received F c.log f.messageId) :
    Receiving F source [] c := by
  have hdone {pre : List Microtask} {id : String} (h : Accepting (m :: pre) id) :
      Received F c.log id ∨ Accepting pre id := by
    obtain ⟨j, a, p, f, s, evicted, hmem, rfl⟩ := h
    rcases mem_cons.mp hmem with h | h
    · exact .inl (hm j a p f s evicted h.symm)
    · exact .inr ⟨j, a, p, f, s, evicted, h, rfl⟩
  refine
    { provider := r.provider
      claiming := r.claiming
      resuming := fun j a p f outcome h => r.resuming j a p f outcome (mem_cons_of_mem m h)
      cached := r.cached
      claimed := fun id h => (r.claimed id h).elim .inl hdone
      waiting := ?_
      disciplined := r.disciplined }
  refine (disciplined_cons.mp r.waiting).2.imp fun pre m' h => ?_
  cases m' with
  | claimed j a p f outcome =>
    cases outcome with
    | duplicate s evicted => exact h.elim .inl hdone
    | _ => trivial
  | retryRejected a p => trivial

theorem emit (r : Receiving F source running c) {e : Event}
    (hclaimed : ∀ key, claimedBefore (c.emit e) key = claimedBefore c key) (he : Repeats F c.log e) :
    Receiving F source running (c.emit e) where
  provider := r.provider
  claiming := r.claiming
  resuming := r.resuming
  cached q id h := (hclaimed _).trans (r.cached q id h)
  claimed id h := (r.claimed id ((hclaimed _).symm.trans h)).imp_left fun h => h.mono (subset_append_left _ _)
  waiting := r.waiting.imp fun _ _ h => h.mono (subset_append_left _ _)
  disciplined := disciplined_concat.mpr ⟨r.disciplined, he⟩

theorem emitReceived (r : Receiving F source running c) (j p : Nat) (f : RuntimeTransportFrame) :
    Receiving F source running (c.emit (.received j p f)) :=
  r.emit (fun key => (claimedBefore_append c rfl key).trans (Bool.or_false _)) trivial

theorem emitDropped (r : Receiving F source running c) (j p : Nat) (hf : F f)
    (hreceived : Received F c.log f.messageId) : Receiving F source running (c.emit (.duplicateDropped j p f)) :=
  r.emit (fun key => (claimedBefore_append c rfl key).trans (Bool.or_false _)) ⟨hf, hreceived⟩

theorem microtask (r : Receiving F source [] c) (h : TransportCore.step c .microtask = some c') :
    Receiving F source [] c' := by
  obtain ⟨m, rest, hm, h⟩ := microtask_cases h
  have hpopped := r.pop hm
  rcases h with ⟨a, p, rfl, q⟩ | ⟨j, a, p, f, outcome, rfl, rfl⟩
  · refine (hpopped.of_quiet q).finish ?_
    rintro j a' p' f s evicted ⟨⟩
  · have hf : F f := r.resuming j a p f outcome (by simp [hm])
    cases outcome with
    | accepted s evicted =>
      obtain ⟨c₁, c₂, h₁, -, h₂, -, h⟩ := claimResumed_accepted { c with microtasks := rest } j a p f s evicted
      have hreceived := ((hpopped.of_quiet h₁).emitReceived j p f).of_quiet h₂
      rw [h]
      refine (hreceived.of_calm (.emit c₂ (e := .emitted j p f) trivial)).finish ?_
      rintro j' a' p' f' s' evicted' ⟨⟩
      obtain ⟨new, hnew, -⟩ := h₂.log
      exact ⟨j, p, f, by simp [Core.emit, hnew], hf, rfl⟩
    | duplicate s evicted =>
      obtain ⟨c₁, h₁, h₂⟩ := claimResumed_duplicate { c with microtasks := rest } j a p f s evicted
      have hbefore := hpopped.of_quiet h₁
      have hreceived : Received F c₁.log f.messageId := by
        refine (disciplined_cons.mp hbefore.waiting).1.resolve_right ?_
        rintro ⟨j', a', p', f', s', evicted', hmem, -⟩
        cases hmem
      refine ((hbefore.emitDropped j p hf hreceived).of_quiet h₂).finish ?_
      rintro j' a' p' f' s' evicted' ⟨⟩
    | error =>
      refine (hpopped.of_quiet (claimResumed_error _ j a p f)).finish ?_
      rintro j' a' p' f' s' evicted' ⟨⟩

theorem routine {frames : List RuntimeTransportFrame} (r : Receiving F source running c) (g : Registry c)
    (hF : ∀ f ∈ frames, F f) (hsource : ∀ f, F f → f.source = source) (h : Routine frames c c') :
    Receiving F source running c' := by
  cases h with
  | quiet q => exact r.of_quiet q
  | register link identity => exact r.register link identity
  | arrive a p frame hp hmatches hframe =>
    have hf := hF frame hframe
    have haddress := g.address a p hp
    simp only [sourceMatches, hsource frame hf, Bool.and_eq_true, decide_eq_true_eq] at hmatches
    refine r.claim a hf ⟨g.old a p hp, ?_, hmatches.1.2.symm⟩
    rw [haddress, hmatches.1.1]
  | ack a p messageId hp =>
    exact (r.of_calm (.emit c (e := .acked p messageId) trivial)).of_quiet (clearPendingAck_quiet _ a p messageId)

theorem step (r : Receiving F source [] c) (g : Registry c) {a : Action}
    (h : TransportCore.step c a = some c') (hF : ∀ f ∈ arriving a, F f) (hsource : ∀ f, F f → f.source = source)
    (hhonest : answersHonestly c a = true) : Receiving F source [] c' := by
  cases a with
  | send destination message =>
    rcases send_cases h with ⟨-, q⟩ | ⟨p, frame, -, q⟩
    · exact r.of_quiet q
    · have hcounted := r.of_calm (.modifyRecord c p (f := fun r => { r with sequence := r.sequence + 1 }) rfl rfl)
      exact (hcounted.of_calm (.emit _ (e := .numbered p frame) trivial)).of_quiet q
  | sendSettled job ok =>
    rcases sendSettled_cases h with q | ⟨a, p, item, k, c₁, -, -, -, q₁, q₂⟩
    · exact r.of_quiet q
    · have hwatched := (r.of_quiet q₁).of_calm (.modifyRecord c₁ p
        (f := fun r => { r with pendingAcks := r.pendingAcks.set item.frame.messageId k }) rfl rfl)
      exact hwatched.of_quiet q₂
  | providerAnswers job answer =>
    obtain ⟨a, p, f, hjob, rfl⟩ := providerAnswers_cases h
    obtain ⟨hf, hknown⟩ := r.claiming job a p f hjob
    refine (r.of_quiet (dropJob_quiet c job)).claimAnswered a hf hknown ?_
    rintro rfl
    have hduplicate : claimedBefore c (idempotencyKey c.config.identity (c.records p).identity f) = true := by
      simpa only [answersHonestly, hjob] using hhonest
    exact hduplicate
  | microtask => exact r.microtask h
  | timer t =>
    rcases timer_cases h with q | ⟨p, id, c₁, q₁, -, q₂ | q₂⟩
    · exact r.of_quiet q
    · exact ((r.of_quiet q₁).of_calm (.emit c₁ (e := .retryScheduled p id) trivial)).of_quiet q₂
    · exact ((r.of_quiet q₁).of_calm (.emit c₁ (e := .retryExhausted p id) trivial)).of_quiet q₂
  | connect | dialSettled | authSettled | acceptInbound | rejectInbound | disconnect | flushPeer | linkFact
  | linkAlive | linkOpens | clock | stop =>
    have hboth := routines_invariant (I := fun c => Registry c ∧ Receiving F source [] c)
      (fun _ _ i h => ⟨i.1.routine h, i.2.routine i.1 hF hsource h⟩) ⟨g, r⟩ (step_routines (by trivial) h)
    exact hboth.2

end Receiving

end Receiver

section Session

/-- Both nodes keep their invariants, and the receiver handles only what the sender produced. -/
structure Inv (source : RuntimeNodeIdentity) (s : Session) : Prop where
  sender : Registry s.sender
  numbering : Numbering source s.sender
  receiver : Registry s.receiver
  receiving : Receiving (· ∈ produced s.sender) source [] s.receiver

theorem create_inv (sender receiver : Config) : Inv sender.identity (create sender receiver) where
  sender := registry_create sender
  numbering := .create sender
  receiver := registry_create _
  receiving := .create _ _ receiver

theorem produced_source {source : RuntimeNodeIdentity} {c : Core} (n : Numbering source c)
    {f : RuntimeTransportFrame} (h : f ∈ produced c) : f.source = source := by
  obtain ⟨⟨p, f⟩, hmem, rfl⟩ := mem_map.mp h
  rw [(n.sent p f hmem).2.1, ← n.identity]
  rfl

theorem step_inv {source : RuntimeNodeIdentity} {s t : Session} {a : SessionAction} (i : Inv source s)
    (h : step s a = some t) :
    Inv source t ∧ (DistinctIds t.sender.log ↔ DistinctIds s.sender.log ∧ SameRecord s a) := by
  cases a with
  | sender a =>
    obtain ⟨c, hc, rfl⟩ := Option.map_eq_some_iff.mp h
    obtain ⟨hnumbering, hsends, hdistinct⟩ := i.numbering.step i.sender hc
    refine ⟨⟨i.sender.step hc, hnumbering, i.receiver, i.receiving.imp fun f hf => ?_⟩, hdistinct⟩
    exact map_subset Prod.snd hsends hf
  | receiver a =>
    simp only [step, Option.ite_none_right_eq_some, Bool.and_eq_true, all_eq_true, decide_eq_true_eq] at h
    obtain ⟨⟨hframes, hhonest⟩, h⟩ := h
    obtain ⟨c, hc, rfl⟩ := Option.map_eq_some_iff.mp h
    refine ⟨⟨i.sender, i.numbering, i.receiver.step hc, ?_⟩, (and_iff_left trivial).symm⟩
    exact i.receiving.step i.receiver hc hframes (fun f hf => produced_source i.numbering hf) hhonest

theorem receivedBefore_of_repeats {c : Core} (hdistinct : DistinctIds c.log) {pre : List Event} {e : Event}
    (h : Repeats (· ∈ produced c) pre e) : ReceivedBefore pre e := by
  cases e with
  | duplicateDropped j p f =>
    obtain ⟨hf, j', p', f', hreceived, hf', hid⟩ := h
    obtain ⟨⟨q, f⟩, hsent, rfl⟩ := mem_map.mp hf
    obtain ⟨⟨q', f'⟩, hsent', rfl⟩ := mem_map.mp hf'
    have hsame := inj_on_of_nodup_map hdistinct hsent' hsent hid
    cases hsame
    exact ⟨j', p', hreceived⟩
  | _ => trivial

/-- Between two nodes nothing is lost to deduplication in exactly those runs in which all
sends to one address go through one peer record. -/
theorem nothing_lost_iff_same_record (sender receiver : Config) (as : List SessionAction) (s : Session)
    (hrun : exec step (create sender receiver) as = some s) :
    NothingLost s ↔ Guarded step SameRecord (create sender receiver) as := by
  have hinv := exec_invariant (fun _ _ _ i h => (step_inv i h).1) (create_inv sender receiver) hrun
  have hdistinct : DistinctIds s.sender.log ↔ Guarded step SameRecord (create sender receiver) as := by
    have hiff := exec_iff_guarded (Q := fun s : Session => DistinctIds s.sender.log)
      (fun _ _ _ i h => (step_inv i h).1) (fun _ _ _ i h => (step_inv i h).2) (create_inv sender receiver) hrun
    exact hiff.trans (and_iff_right nodup_nil)
  rw [← hdistinct, NothingLost, and_iff_left_iff_imp]
  exact fun h => hinv.receiving.disciplined.imp fun _ _ hrepeats => receivedBefore_of_repeats h hrepeats

def nodeB : Config := { nodeA with identity := identityB }

def frameA (sequence : Nat) (body : String) : RuntimeTransportFrame :=
  createRuntimeTransportFrame nodeA.identity identityB sequence ⟨"user.message", body⟩

def deliver (link sequence : Nat) (body : String) : SessionAction :=
  .receiver (.linkFact link (.payload (.frame (frameA sequence body))))

def firstExchange : List SessionAction :=
  [.sender (.acceptInbound (linkFrom identityB) []), .sender (.send "b" ⟨"user.message", "first"⟩),
    .receiver (.acceptInbound (linkFrom nodeA.identity) []), deliver 0 1 "first",
    .receiver (.providerAnswers 0 .claimed), .receiver .microtask]

theorem firstExchange_loses_nothing :
    ∃ s, exec step (create nodeA nodeB) firstExchange = some s ∧
      (NothingLost s ↔ Guarded step SameRecord (create nodeA nodeB) firstExchange) :=
  ⟨_, rfl, nothing_lost_iff_same_record nodeA nodeB firstExchange _ rfl⟩

/-- After a reconnect the next message takes the id of the first one, and the provider knows it. -/
def reconnectedRun : List SessionAction :=
  firstExchange ++ [.sender (.disconnect "b"), .sender (.acceptInbound (linkFrom identityB) []),
    .sender (.send "b" ⟨"user.message", "second"⟩), .receiver (.acceptInbound (linkFrom nodeA.identity) []),
    deliver 1 1 "second", .receiver (.providerAnswers 2 .duplicate), .receiver .microtask]

instance (log : List Event) : Decidable (DistinctIds log) := inferInstanceAs (Decidable (List.Nodup _))

theorem reconnectedRun_drops_second :
    ∃ s, exec step (create nodeA nodeB) reconnectedRun = some s ∧
      .duplicateDropped 2 1 (frameA 1 "second") ∈ s.receiver.log ∧ ¬ NothingLost s := by
  refine ⟨_, rfl, by decide, fun h => ?_⟩
  exact absurd h.1 (by decide)

end Session

end ActorWeb.TransportSession
