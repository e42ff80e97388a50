import ActorWeb.TransportMoves

namespace ActorWeb.TransportNumbering

open List

open TransportContract TransportCore TransportQuiet TransportOwnership TransportMoves Transition

/-- One entry for each `send` that was given a frame, with the record it went through. -/
def sends (log : List Event) : List (Nat × RuntimeTransportFrame) :=
  log.filterMap fun
    | .numbered p frame => some (p, frame)
    | _ => none

def DistinctIds (log : List Event) : Prop := ((sends log).map (·.2.messageId)).Nodup

/-- All sends to one address go through the record that the first one went through. -/
def SameRecord (c : Core) : Action → Prop
  | .send destination message => ∀ p frame, nextFrame c destination message = some (p, frame) →
      ∀ q f, (q, f) ∈ sends c.log → f.destination.nodeAddress = destination → q = p
  | _ => True

theorem sends_append (log new : List Event) : sends (log ++ new) = sends log ++ sends new :=
  filterMap_append

theorem mem_sends {log : List Event} {p : Nat} {frame : RuntimeTransportFrame} :
    (p, frame) ∈ sends log ↔ .numbered p frame ∈ log := by
  simp only [sends, mem_filterMap]
  constructor
  · rintro ⟨e, he, h⟩
    cases e with
    | numbered q f =>
      cases h
      exact he
    | _ => cases h
  · exact fun h => ⟨_, h, rfl⟩

/-- The records of a node of one identity number their frames from one on. -/
structure Numbering (source : RuntimeNodeIdentity) (c : Core) : Prop where
  identity : c.config.identity = source
  sent : ∀ p f, (p, f) ∈ sends c.log → p < c.nextRecord ∧
    f = createRuntimeTransportFrame c.config.identity (c.records p).identity f.sequence f.message ∧
    1 ≤ f.sequence ∧ f.sequence ≤ (c.records p).sequence
  first : ∀ p, 0 < (c.records p).sequence → ∃ f, (p, f) ∈ sends c.log ∧ f.sequence = 1

structure Unsent (c c' : Core) : Prop where
  config : c'.config = c.config
  nextRecord : c'.nextRecord = c.nextRecord
  identity : ∀ p, (c'.records p).identity = (c.records p).identity
  sequence : ∀ p, (c'.records p).sequence = (c.records p).sequence
  sends : sends c'.log = sends c.log

namespace Unsent

variable {c c' c'' : Core}

theorem refl (c : Core) : Unsent c c := ⟨rfl, rfl, fun _ => rfl, fun _ => rfl, rfl⟩

theorem trans (u : Unsent c c') (u' : Unsent c' c'') : Unsent c c'' :=
  ⟨u'.config.trans u.config, u'.nextRecord.trans u.nextRecord, fun p => (u'.identity p).trans (u.identity p),
    fun p => (u'.sequence p).trans (u.sequence p), u'.sends.trans u.sends⟩

theorem sends_append_of_none {log new : List Event} (h : ∀ e ∈ new, ∀ p f, e ≠ .numbered p f) :
    TransportNumbering.sends (log ++ new) = TransportNumbering.sends log := by
  have hnone : TransportNumbering.sends new = [] := by
    refine filterMap_eq_nil_iff.mpr fun e he => ?_
    cases e with
    | numbered p f => exact absurd rfl (h _ he p f)
    | _ => rfl
  rw [sends_append, hnone, append_nil]

theorem of_quiet (q : Quiet c c') : Unsent c c' where
  config := q.config
  nextRecord := q.nextRecord
  identity := q.identity
  sequence := q.sequence
  sends := by
    obtain ⟨new, hnew, hplain, -⟩ := q.log
    rw [hnew]
    refine sends_append_of_none ?_
    rintro e he p f rfl
    exact hplain _ he

theorem emit (c : Core) {e : Event} (he : ∀ p f, e ≠ .numbered p f) : Unsent c (c.emit e) where
  config := rfl
  nextRecord := rfl
  identity _ := rfl
  sequence _ := rfl
  sends := sends_append_of_none (by simpa using he)

theorem modifyRecord (c : Core) (p : Nat) {f : Peer → Peer}
    (hidentity : (f (c.records p)).identity = (c.records p).identity)
    (hsequence : (f (c.records p)).sequence = (c.records p).sequence) :
    Unsent c (c.modifyRecord p f) := by
  refine ⟨rfl, rfl, fun q => ?_, fun q => ?_, rfl⟩
  all_goals by_cases hq : q = p
  · rw [hq, Core.modifyRecord_records_self, hidentity]
  · rw [Core.modifyRecord_records_ne c f hq]
  · rw [hq, Core.modifyRecord_records_self, hsequence]
  · rw [Core.modifyRecord_records_ne c f hq]

theorem remember (c : Core) (p : Nat) (messageId : String) : Unsent c (c.modifyRecord p fun r =>
    { r with idempotencyCache := (r.idempotencyCache.remember messageId).1 }) :=
  modifyRecord c p rfl rfl

theorem claim (c : Core) (a : String) (p : Nat) (frame : RuntimeTransportFrame) :
    Unsent c (claim c a p frame) := by
  have harrived : Unsent c (c.emit (.arrived c.nextJob p frame)) := emit c (by simp)
  unfold TransportCore.claim
  simp only
  split
  · exact { harrived with }
  · split
    · exact { harrived.trans (remember _ p frame.messageId) with }
    · exact { harrived with }

theorem claimAnswered (c : Core) (j : Nat) (a : String) (p : Nat) (frame : RuntimeTransportFrame)
    (answer : ClaimAnswer) : Unsent c (claimAnswered c j a p frame answer) := by
  have hremembered := remember c p frame.messageId
  cases answer with
  | claimed => exact { hremembered.trans (emit _ (e := .claimAnswered j p _ false) (by simp)) with }
  | duplicate => exact { hremembered.trans (emit _ (e := .claimAnswered j p _ true) (by simp)) with }
  | error => exact { refl c with }

theorem claimResumed (c : Core) (j : Nat) (a : String) (p : Nat) (frame : RuntimeTransportFrame)
    (outcome : ClaimOutcome) : Unsent c (claimResumed c j a p frame outcome) := by
  cases outcome with
  | accepted source evicted =>
    obtain ⟨c₁, c₂, h₁, -, h₂, -, h⟩ := claimResumed_accepted c j a p frame source evicted
    have hreceived : Unsent c₁ (c₁.emit (.received j p frame)) := emit c₁ (by simp)
    rw [h]
    exact (((of_quiet h₁).trans hreceived).trans (of_quiet h₂)).trans (emit c₂ (by simp))
  | duplicate source evicted =>
    obtain ⟨c₁, h₁, h₂⟩ := claimResumed_duplicate c j a p frame source evicted
    have hdropped : Unsent c₁ (c₁.emit (.duplicateDropped j p frame)) := emit c₁ (by simp)
    exact ((of_quiet h₁).trans hdropped).trans (of_quiet h₂)
  | error => exact of_quiet (claimResumed_error c j a p frame)

end Unsent

namespace Numbering

variable {c c' : Core} {source : RuntimeNodeIdentity} {frames : List RuntimeTransportFrame}

theorem create (config : Config) : Numbering config.identity (create config) :=
  ⟨rfl, fun _ _ h => by simp [TransportCore.create, sends] at h, fun _ h => by simp [TransportCore.create] at h⟩

theorem of_unsent (n : Numbering source c) (u : Unsent c c') : Numbering source c' where
  identity := by rw [u.config, n.identity]
  sent p f h := by
    rw [u.config, u.nextRecord, u.identity, u.sequence]
    exact n.sent p f (u.sends ▸ h)
  first p h := by
    rw [u.sends]
    exact n.first p (u.sequence p ▸ h)

theorem register (n : Numbering source c) (link : Nat) (identity : RuntimeNodeIdentity) :
    Numbering source (addPeer c link identity) where
  identity := n.identity
  sent p f h := by
    obtain ⟨hold, hsent⟩ := n.sent p f h
    simp only [addPeer, Function.update_of_ne (Nat.ne_of_lt hold)]
    exact ⟨Nat.lt_succ_of_lt hold, hsent⟩
  first p h := by
    by_cases hp : p = c.nextRecord
    · subst hp
      simp [addPeer] at h
    · simp only [addPeer, Function.update_of_ne hp] at h
      exact n.first p h

theorem routine (n : Numbering source c) (h : Routine frames c c') :
    Numbering source c' ∧ sends c'.log = sends c.log := by
  cases h with
  | quiet q => exact ⟨n.of_unsent (.of_quiet q), (Unsent.of_quiet q).sends⟩
  | register link identity => exact ⟨n.register link identity, rfl⟩
  | arrive a p frame hp hsource hframe =>
    have hclaim := Unsent.claim c a p frame
    exact ⟨n.of_unsent hclaim, hclaim.sends⟩
  | ack a p messageId hp =>
    have hack := (Unsent.emit c (e := .acked p messageId) (by simp)).trans
      (.of_quiet (clearPendingAck_quiet _ a p messageId))
    exact ⟨n.of_unsent hack, hack.sends⟩

theorem routines (n : Numbering source c) (h : Routines frames c c') :
    Numbering source c' ∧ sends c'.log = sends c.log := by
  induction h with
  | refl => exact ⟨n, rfl⟩
  | tail _ hlast ih =>
    obtain ⟨hmiddle, hsends⟩ := ih
    obtain ⟨hend, hsame⟩ := hmiddle.routine hlast
    exact ⟨hend, hsame.trans hsends⟩

theorem fresh_iff (n : Numbering source c) (r : Registry c) (hdistinct : DistinctIds c.log) {destination : String}
    {message : ActorMessage} {p : Nat} {frame : RuntimeTransportFrame}
    (hnext : nextFrame c destination message = some (p, frame)) :
    frame.messageId ∉ (sends c.log).map (·.2.messageId) ↔
      ∀ q f, (q, f) ∈ sends c.log → f.destination.nodeAddress = destination → q = p := by
  obtain ⟨hp, rfl⟩ := nextFrame_eq_some hnext
  have haddress := r.address destination p hp
  constructor
  · intro hfresh q f hf hdestination
    by_contra hne
    obtain ⟨-, hframe, hone, hlast⟩ := n.sent q f hf
    have hqaddress : (c.records q).identity.nodeAddress = destination := by
      rw [hframe] at hdestination
      exact hdestination
    -- the other record has numbered a first frame, so this one cannot have
    obtain ⟨first, hfirst, hfirstOne⟩ := n.first q (Nat.lt_of_lt_of_le hone hlast)
    have hfirstId : first.messageId = createRuntimeTransportMessageId c.config.identity (c.records p).identity 1 := by
      rw [(n.sent q first hfirst).2.1, hfirstOne]
      simp only [createRuntimeTransportFrame, createRuntimeTransportMessageId, hqaddress, haddress]
    rcases Nat.eq_zero_or_pos (c.records p).sequence with hzero | hpos
    · refine hfresh (mem_map.mpr ⟨(q, first), hfirst, ?_⟩)
      simp only [hfirstId, createRuntimeTransportFrame, hzero, Nat.zero_add]
    · obtain ⟨own, hown, hownOne⟩ := n.first p hpos
      have hownId : own.messageId = createRuntimeTransportMessageId c.config.identity (c.records p).identity 1 := by
        rw [(n.sent p own hown).2.1, hownOne]
        rfl
      have hsame := inj_on_of_nodup_map hdistinct hfirst hown (hfirstId.trans hownId.symm)
      exact hne (congrArg Prod.fst hsame)
  · intro hsame hmem
    obtain ⟨⟨q, f⟩, hf, hid⟩ := mem_map.mp hmem
    obtain ⟨-, hframe, -, hlast⟩ := n.sent q f hf
    have hids : createRuntimeTransportMessageId c.config.identity (c.records q).identity f.sequence =
        createRuntimeTransportMessageId c.config.identity (c.records p).identity ((c.records p).sequence + 1) := by
      rw [hframe] at hid
      exact hid
    obtain ⟨hto, hsequence⟩ := messageId_inj hids
    have hdestination : f.destination.nodeAddress = destination := by
      rw [hframe]
      exact hto.trans haddress
    obtain rfl := hsame q f hf hdestination
    omega

theorem number (n : Numbering source c) (r : Registry c) {destination : String} {message : ActorMessage} {p : Nat}
    {frame : RuntimeTransportFrame} (hnext : nextFrame c destination message = some (p, frame)) :
    Numbering source ((c.modifyRecord p fun r => { r with sequence := r.sequence + 1 }).emit (.numbered p frame)) := by
  obtain ⟨hp, rfl⟩ := nextFrame_eq_some hnext
  set frame := createRuntimeTransportFrame c.config.identity (c.records p).identity ((c.records p).sequence + 1)
    message with hframe
  have hsends : sends ((c.modifyRecord p fun r => { r with sequence := r.sequence + 1 }).emit
      (.numbered p frame)).log = sends c.log ++ [(p, frame)] := sends_append c.log [.numbered p frame]
  have hself : (c.modifyRecord p fun r => { r with sequence := r.sequence + 1 }).records p =
      { c.records p with sequence := (c.records p).sequence + 1 } := Core.modifyRecord_records_self c p _
  refine ⟨n.identity, fun q f h => ?_, fun q h => ?_⟩
  · rw [hsends, mem_append, mem_singleton] at h
    rcases h with h | h
    · obtain ⟨hold, hcreated, hone, hlast⟩ := n.sent q f h
      by_cases hq : q = p
      · subst hq
        simp only [Core.emit, hself]
        exact ⟨hold, hcreated, hone, Nat.le_succ_of_le hlast⟩
      · simp only [Core.emit, Core.modifyRecord_records_ne c _ hq]
        exact ⟨hold, hcreated, hone, hlast⟩
    · obtain ⟨rfl, rfl⟩ := Prod.mk.inj h
      simp only [Core.emit, hself]
      exact ⟨r.old destination q hp, rfl, Nat.le_add_left 1 _, Nat.le_refl _⟩
  · simp only [hsends, mem_append, mem_singleton]
    by_cases hq : q = p
    · subst hq
      rcases Nat.eq_zero_or_pos (c.records q).sequence with hzero | hpos
      · exact ⟨frame, .inr rfl, by rw [hframe, hzero]; rfl⟩
      · obtain ⟨f, hf, hone⟩ := n.first q hpos
        exact ⟨f, .inl hf, hone⟩
    · simp only [Core.emit, Core.modifyRecord_records_ne c _ hq] at h
      obtain ⟨f, hf, hone⟩ := n.first q h
      exact ⟨f, .inl hf, hone⟩

theorem step_unsent (n : Numbering source c) {a : Action} (ha : ∀ destination message, a ≠ .send destination message)
    (h : step c a = some c') : Numbering source c' ∧ sends c'.log = sends c.log := by
  have of_unsent (u : Unsent c c') : Numbering source c' ∧ sends c'.log = sends c.log := ⟨n.of_unsent u, u.sends⟩
  cases a with
  | send destination message => exact absurd rfl (ha destination message)
  | sendSettled job ok =>
    rcases sendSettled_cases h with q | ⟨a, p, item, k, c₁, -, -, -, q₁, q₂⟩
    · exact of_unsent (.of_quiet q)
    · exact of_unsent (((Unsent.of_quiet q₁).trans (.modifyRecord c₁ p rfl rfl)).trans (.of_quiet q₂))
  | providerAnswers job answer =>
    obtain ⟨a, p, frame, -, rfl⟩ := providerAnswers_cases h
    exact of_unsent ((Unsent.of_quiet (dropJob_quiet c job)).trans (.claimAnswered _ job a p frame answer))
  | microtask =>
    obtain ⟨m, rest, -, h⟩ := microtask_cases h
    have hpopped : Unsent c { c with microtasks := rest } := { Unsent.refl c with }
    rcases h with ⟨a, p, rfl, q⟩ | ⟨j, a, p, frame, outcome, rfl, rfl⟩
    · exact of_unsent (hpopped.trans (.of_quiet q))
    · exact of_unsent (hpopped.trans (.claimResumed _ j a p frame outcome))
  | timer t =>
    rcases timer_cases h with q | ⟨p, id, c₁, q₁, -, q₂ | q₂⟩
    · exact of_unsent (.of_quiet q)
    · have hretried : Unsent c₁ (c₁.emit (.retryScheduled p id)) := .emit c₁ (by simp)
      exact of_unsent (((Unsent.of_quiet q₁).trans hretried).trans (.of_quiet q₂))
    · have hexhausted : Unsent c₁ (c₁.emit (.retryExhausted p id)) := .emit c₁ (by simp)
      exact of_unsent (((Unsent.of_quiet q₁).trans hexhausted).trans (.of_quiet q₂))
  | connect | dialSettled | authSettled | acceptInbound | rejectInbound | disconnect | flushPeer | linkFact
  | linkAlive | linkOpens | clock | stop => exact n.routines (step_routines (by trivial) h)

theorem step (n : Numbering source c) (r : Registry c) {a : Action} (h : step c a = some c') :
    Numbering source c' ∧ sends c.log ⊆ sends c'.log ∧
      (DistinctIds c'.log ↔ DistinctIds c.log ∧ SameRecord c a) := by
  by_cases ha : ∀ destination message, a ≠ .send destination message
  · obtain ⟨hn, hsends⟩ := n.step_unsent ha h
    have hguard : SameRecord c a := by
      cases a with
      | send destination message => exact absurd rfl (ha destination message)
      | _ => trivial
    rw [DistinctIds, hsends, and_iff_left hguard]
    exact ⟨hn, List.Subset.refl _, Iff.rfl⟩
  · push Not at ha
    obtain ⟨destination, message, rfl⟩ := ha
    rcases send_cases h with ⟨hnext, q⟩ | ⟨p, frame, hnext, q⟩
    · have hguard : SameRecord c (.send destination message) := by
        intro p frame hsome
        rw [hnext] at hsome
        cases hsome
      rw [DistinctIds, (Unsent.of_quiet q).sends, and_iff_left hguard]
      exact ⟨n.of_unsent (.of_quiet q), List.Subset.refl _, Iff.rfl⟩
    · have hsends : sends c'.log = sends c.log ++ [(p, frame)] :=
        (Unsent.of_quiet q).sends.trans (sends_append c.log [.numbered p frame])
      refine ⟨(n.number r hnext).of_unsent (.of_quiet q), hsends ▸ subset_append_left _ _, ?_⟩
      rw [DistinctIds, hsends, map_append, nodup_append]
      constructor
      · rintro ⟨hdistinct, -, hfresh⟩
        refine ⟨hdistinct, fun p' frame' hsome => ?_⟩
        obtain ⟨rfl, rfl⟩ := Prod.mk.inj (Option.some.inj (hnext.symm.trans hsome))
        exact (n.fresh_iff r hdistinct hnext).mp fun hmem => hfresh _ hmem _ (by simp) rfl
      · rintro ⟨hdistinct, hguard⟩
        refine ⟨hdistinct, by simp, fun id hid id' hid' => ?_⟩
        have hfresh := (n.fresh_iff r hdistinct hnext).mpr (hguard p frame hnext)
        rintro rfl
        obtain rfl : id = frame.messageId := by simpa using hid'
        exact hfresh hid

end Numbering

end ActorWeb.TransportNumbering
