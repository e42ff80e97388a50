import ActorWeb.TransportRetries
import ActorWeb.TransportStats
import ActorWeb.SequenceNumbers

/-! The numbers that a record gives out, in the order in which its link gets the frames. -/

namespace ActorWeb.TransportWire

open List TransportContract TransportCore TransportQuiet TransportMoves TransportNumbering
open TransportTicks TransportTransmissions TransportOutbound TransportStats SequenceNumbers

def linked (p : Nat) (log : List Event) : List RuntimeTransportFrame :=
  log.filterMap fun
    | .linkSend q frame => if q = p then some frame else none
    | _ => none

def wire (p : Nat) (c : Core) : List Nat :=
  (linked p c.log).map (·.sequence) ++ (c.records p).outboundQueue.map (·.frame.sequence)

def dropped (p : Nat) (c : Core) : Action → Bool
  | .send destination message =>
    match nextFrame c destination message with
    | some (q, _) => q = p && resolveBackpressure (c.records q).outboundQueue.length
        c.config.outboundQueueLimit = .drop
    | none => false
  | _ => false

theorem linked_append (p : Nat) (log new : List Event) :
    linked p (log ++ new) = linked p log ++ linked p new := filterMap_append

theorem mem_linked {p : Nat} {f : RuntimeTransportFrame} {log : List Event} :
    f ∈ linked p log ↔ .linkSend p f ∈ log := by
  simp only [linked, mem_filterMap]
  constructor
  · rintro ⟨e, he, h⟩
    cases e with
    | linkSend q g =>
      obtain ⟨rfl, rfl⟩ : q = p ∧ g = f := by simpa using h
      exact he
    | _ => cases h
  · exact fun h => ⟨_, h, if_pos rfl⟩

theorem linked_emit (p : Nat) (log : List Event) {e : Event} (he : ∀ f, e ≠ .linkSend p f) :
    linked p (log ++ [e]) = linked p log := by
  rw [linked_append, append_right_eq_self]
  cases e with
  | linkSend q f =>
    refine filterMap_eq_nil_iff.mpr fun e' he' => ?_
    rw [mem_singleton.mp he']
    change (if q = p then some f else none) = none
    rw [if_neg]
    rintro rfl
    exact he f rfl
  | _ => rfl

/-- The numbers of a record leave none out, up to its last while it is registered. -/
structure Gapless (p : Nat) (c : Core) : Prop where
  rising : Rising 0 (wire p c)
  whole : ∀ a, c.peers.get a = some p → highest 0 (wire p c) = (c.records p).sequence
  unborn : c.nextRecord ≤ p → wire p c = []

namespace Gapless

variable {p : Nat} {c c' : Core} {frames : List RuntimeTransportFrame} {config : Config}

theorem create (config : Config) (p : Nat) : Gapless p (create config) where
  rising := rising_nil
  whole _ h := by simp [TransportCore.create] at h
  unborn _ := rfl

theorem of_same (g : Gapless p c) (hwire : wire p c' = wire p c)
    (hsequence : (c'.records p).sequence = (c.records p).sequence)
    (hpeers : ∀ a, c'.peers.get a = some p → c.peers.get a = some p)
    (hnext : c.nextRecord ≤ c'.nextRecord) : Gapless p c' where
  rising := by rw [hwire]; exact g.rising
  whole a ha := by
    rw [hwire, hsequence]
    exact g.whole a (hpeers a ha)
  unborn h := by
    rw [hwire]
    exact g.unborn (hnext.trans h)

theorem wire_eq (hqueue : (c'.records p).outboundQueue = (c.records p).outboundQueue)
    (hlinked : linked p c'.log = linked p c.log) : wire p c' = wire p c := by
  rw [wire, hqueue, hlinked]
  rfl

theorem of_kept (g : Gapless p c) (hwire : wire p c' = wire p c)
    (hsequence : (c'.records p).sequence = (c.records p).sequence) (k : Kept c c') : Gapless p c' :=
  g.of_same hwire hsequence (fun a => k.peers a p) k.nextRecord.ge

theorem emit (g : Gapless p c) {e : Event} (he : ∀ f, e ≠ .linkSend p f) : Gapless p (c.emit e) :=
  g.of_same (wire_eq rfl (linked_emit p c.log he)) rfl (fun _ => id) le_rfl

theorem modifyRecord_same (c : Core) (p q : Nat) {f : Peer → Peer}
    (hqueue : (f (c.records q)).outboundQueue = (c.records q).outboundQueue)
    (hsequence : (f (c.records q)).sequence = (c.records q).sequence) :
    wire p (c.modifyRecord q f) = wire p c ∧
      ((c.modifyRecord q f).records p).sequence = (c.records p).sequence := by
  obtain rfl | hne := eq_or_ne p q
  · exact ⟨wire_eq (by rw [Core.modifyRecord_records_self, hqueue]) rfl,
      by rw [Core.modifyRecord_records_self, hsequence]⟩
  · rw [Core.modifyRecord_records_ne c f hne]
    exact ⟨wire_eq (by rw [Core.modifyRecord_records_ne c f hne]) rfl, rfl⟩

theorem tick (g : Gapless p c) (r : Registry c) (h : Tick c c') : Gapless p c' := by
  have hkept := kept_of_tick h
  cases h with
  | remove a q hq =>
    obtain rfl | hne := eq_or_ne p q
    · have hwire : wire p { c.modifyRecord p fun r => { r with outboundQueue := [] } with
          peers := c.peers.delete a } = (linked p c.log).map (·.sequence) := by
        simp only [wire, Core.modifyRecord_records_self, map_nil, append_nil]
        rfl
      refine ⟨?_, fun b hb => ?_, fun hnext => ?_⟩
      · rw [hwire]
        exact (rising_append.mp g.rising).1
      · -- the record leaves the map with its queue
        have hb' := hkept.peers b p hb
        have heq : b = a := (r.address b p hb').symm.trans (r.address a p hq)
        rw [heq, OrderedMap.get_delete_self] at hb
        cases hb
      · rw [hwire]
        exact (append_eq_nil_iff.mp (g.unborn hnext)).1
    · have hrecord : (c.modifyRecord q fun r => { r with outboundQueue := [] }).records p =
          c.records p := Core.modifyRecord_records_ne c _ hne
      exact g.of_kept (wire_eq (congrArg _ hrecord) rfl) (congrArg _ hrecord) hkept
  | record q f h =>
    obtain ⟨hwire, hsequence⟩ := modifyRecord_same c p q h.outboundQueue h.sequence
    exact g.of_kept hwire hsequence hkept
  | forget q =>
    obtain ⟨hwire, hsequence⟩ := modifyRecord_same c p q
      (f := fun r => { r with pendingAcks := .empty }) rfl rfl
    exact g.of_kept hwire hsequence hkept
  | emit e h =>
    refine g.emit fun f he => ?_
    subst he
    exact h
  | _ => exact g.of_kept rfl rfl hkept

theorem register (g : Gapless p c) (link : Nat) (identity : RuntimeNodeIdentity) :
    Gapless p (addPeer c link identity) := by
  obtain rfl | hne := eq_or_ne p c.nextRecord
  · obtain ⟨hlinked, -⟩ := append_eq_nil_iff.mp (g.unborn le_rfl)
    have hwire : wire c.nextRecord (addPeer c link identity) = [] := by
      rw [wire, append_eq_nil_iff]
      exact ⟨hlinked, by simp [addPeer]⟩
    refine ⟨?_, fun a _ => ?_, fun _ => hwire⟩
    · rw [hwire]
      exact rising_nil
    · rw [hwire]
      simp [addPeer, highest]
  · have hrecord : (addPeer c link identity).records p = c.records p :=
      Function.update_of_ne hne _ _
    refine g.of_same (wire_eq (congrArg _ hrecord) rfl) (congrArg _ hrecord) (fun a ha => ?_)
      (Nat.le_succ _)
    simp only [addPeer, OrderedMap.get_set] at ha
    split at ha
    · exact absurd (Option.some.inj ha).symm hne
    · exact ha

theorem clearPendingAck_log (c : Core) (a : String) (p : Nat) (messageId : String) :
    (clearPendingAck c a p messageId).log = c.log := by
  unfold clearPendingAck
  split
  · rfl
  · rename_i i hget
    cases htimer : (c.pendings i).timer <;> rfl

theorem round (g : Gapless p c) (r : Registry c) (h : Round frames c c') : Gapless p c' := by
  cases h with
  | tick h => exact g.tick r h
  | register link identity => exact g.register link identity
  | arrive a q frame hp hframe =>
    refine g.of_kept (wire_eq ((claim_still c a q frame).queue p) ?_)
      ((Unsent.claim c a q frame).sequence p) (claim_kept c a q frame)
    rw [claim_log]
    exact linked_emit p c.log (by simp)
  | ack a q messageId =>
    have hquiet := clearPendingAck_quiet c a q messageId
    refine g.of_kept (wire_eq ((clearPendingAck_still c a q messageId).queue p) ?_)
      (hquiet.sequence p) hquiet.toKept
    rw [clearPendingAck_log]
  | pop a q item rest hqueue =>
    obtain rfl | hne := eq_or_ne p q
    · refine g.of_same ?_ ?_ (fun _ => id) le_rfl
      · -- the head of the queue goes over to the link
        have hself : ((popped c a p item rest).records p).outboundQueue = rest := by
          simp only [popped, Core.emit, Core.addJob, Core.setJob, Core.modifyRecord_records_self]
        have hlinked : linked p (popped c a p item rest).log = linked p c.log ++ [item.frame] := by
          have hlog : (popped c a p item rest).log = c.log ++ [.linkSend p item.frame] := rfl
          rw [hlog, linked_append]
          simp [linked]
        rw [wire, wire, hself, hlinked, hqueue, map_append, append_assoc]
        rfl
      · simp only [popped, Core.emit, Core.addJob, Core.setJob, Core.modifyRecord_records_self]
    · have hrecord : (popped c a q item rest).records p = c.records p :=
        Function.update_of_ne hne _ _
      refine g.of_same (wire_eq (congrArg _ hrecord) ?_) (congrArg _ hrecord) (fun _ => id) le_rfl
      exact linked_emit p c.log (by simp [Ne.symm hne])

theorem rounds (g : Gapless p c) (r : Registry c) (h : Rounds frames c c') :
    Gapless p c' ∧ Registry c' := by
  induction h with
  | refl => exact ⟨g, r⟩
  | tail _ hlast ih => exact ⟨ih.1.round ih.2 hlast, registry_round ih.2 hlast⟩

theorem pushAgain (g : Gapless p c) {item : OutboundQueueItem}
    (hitem : .linkSend p item.frame ∈ c.log) : Gapless p (pushed c p item) := by
  have hwire : wire p (pushed c p item) = wire p c ++ [item.frame.sequence] := by
    rw [wire, wire, pushed, Core.modifyRecord_records_self, map_append, ← append_assoc]
    rfl
  have hold : item.frame.sequence ≤ highest 0 (wire p c) :=
    mem_le_highest 0 (mem_append_left _ (mem_map_of_mem (mem_linked.mpr hitem)))
  refine ⟨?_, fun a ha => ?_, fun hnext => ?_⟩
  · rw [hwire, rising_concat]
    exact ⟨g.rising, Nat.le_succ_of_le hold⟩
  · rw [hwire, highest_concat, Nat.max_eq_left hold, g.whole a ha, pushed,
      Core.modifyRecord_records_self]
  · rw [g.unborn hnext] at hold
    have hmem := mem_linked.mpr hitem
    rw [map_eq_nil_iff.mp (append_eq_nil_iff.mp (g.unborn hnext)).1] at hmem
    cases hmem

theorem pushNext (g : Gapless p c) (r : Registry c) {destination : String} {message : ActorMessage}
    {frame : RuntimeTransportFrame} (hnext : nextFrame c destination message = some (p, frame)) :
    Gapless p (pushed (numbered c p frame) p ⟨frame, true, none⟩) := by
  obtain ⟨hp, rfl⟩ := nextFrame_eq_some hnext
  set frame := createRuntimeTransportFrame c.config.identity (c.records p).identity
    ((c.records p).sequence + 1) message
  have hself : ((pushed (numbered c p frame) p ⟨frame, true, none⟩).records p).outboundQueue =
      (c.records p).outboundQueue ++ [⟨frame, true, none⟩] := by
    simp only [pushed, numbered, Core.emit, Core.modifyRecord_records_self]
  have hsequence : ((pushed (numbered c p frame) p ⟨frame, true, none⟩).records p).sequence =
      (c.records p).sequence + 1 := by
    simp only [pushed, numbered, Core.emit, Core.modifyRecord_records_self]
  have hlinked : linked p (pushed (numbered c p frame) p ⟨frame, true, none⟩).log =
      linked p c.log := linked_emit p c.log (by simp)
  have hwire : wire p (pushed (numbered c p frame) p ⟨frame, true, none⟩) =
      wire p c ++ [(c.records p).sequence + 1] := by
    rw [wire, wire, hself, hlinked, map_append, ← append_assoc]
    rfl
  have hhighest := g.whole destination hp
  refine ⟨?_, fun a _ => ?_, fun hunborn => ?_⟩
  · rw [hwire, rising_concat, hhighest]
    exact ⟨g.rising, le_rfl⟩
  · rw [hwire, highest_concat, hhighest, hsequence]
    exact Nat.max_eq_right (Nat.le_succ _)
  · exact absurd (r.old destination p hp) (Nat.not_lt.mpr hunborn)

theorem other (g : Gapless p c) {q : Nat} (hne : p ≠ q) (frame : RuntimeTransportFrame) :
    Gapless p (numbered c q frame) := by
  have hrecord : (numbered c q frame).records p = c.records p := Function.update_of_ne hne _ _
  exact g.of_same (wire_eq (congrArg _ hrecord) (linked_emit p c.log (by simp)))
    (congrArg _ hrecord) (fun _ => id) le_rfl

theorem pushOther (g : Gapless p c) {q : Nat} (hne : p ≠ q) (item : OutboundQueueItem) :
    Gapless p (pushed c q item) := by
  have hrecord : (pushed c q item).records p = c.records p := Function.update_of_ne hne _ _
  exact g.of_same (wire_eq (congrArg _ hrecord) rfl) (congrArg _ hrecord) (fun _ => id) le_rfl

theorem registry_numbered (r : Registry c) (q : Nat) (frame : RuntimeTransportFrame) :
    Registry (numbered c q frame) :=
  (r.modifyRecord q rfl).of_kept (emit_kept _ _)

theorem registry_pushed (r : Registry c) (q : Nat) (item : OutboundQueueItem) :
    Registry (pushed c q item) := r.modifyRecord q rfl

theorem send (g : Gapless p c) (r : Registry c) {destination : String} {message : ActorMessage}
    (ha : dropped p c (.send destination message) = false)
    (h : step c (.send destination message) = some c') : Gapless p c' := by
  obtain ⟨-, hrounds⟩ | ⟨q, frame, hnext, ⟨hdrop, hrounds⟩ | ⟨-, hrounds⟩⟩ := send_turn [] h
  · exact (g.rounds r hrounds).1
  · have hne : p ≠ q := by
      rintro rfl
      simp only [dropped, hnext, hdrop, decide_true, Bool.and_self, Bool.true_eq_false] at ha
    exact ((g.other hne frame).rounds (registry_numbered r q frame) hrounds).1
  · have hregistry := registry_pushed (registry_numbered r q frame) q ⟨frame, true, none⟩
    obtain rfl | hne := eq_or_ne p q
    · exact ((g.pushNext r hnext).rounds hregistry hrounds).1
    · exact (((g.other hne frame).pushOther hne _).rounds hregistry hrounds).1

theorem watch (g : Gapless p c) (a : String) (q : Nat) (frame : RuntimeTransportFrame) :
    Gapless p (watched c a q frame) := by
  obtain ⟨hwire, hsequence⟩ := modifyRecord_same c p q
    (f := fun r => { r with pendingAcks := r.pendingAcks.set frame.messageId c.nextPending }) rfl rfl
  exact g.of_same hwire hsequence (fun _ => id) le_rfl

theorem retried_frame (c : Core) (t : Nat) (a : String) (q i : Nat) :
    (retried (c.setTimer t none) a q i).records = c.records ∧
      (retried (c.setTimer t none) a q i).peers = c.peers ∧
      (retried (c.setTimer t none) a q i).nextRecord = c.nextRecord := by
  simp only [retried, armAckRetry, Core.addTimer, Core.setTimer, Core.modifyPending, Core.emit,
    and_self]

theorem timer (g : Gapless p c) (o : Outbound config c) (r : Registry c) {t : Nat}
    (h : step c (.timer t) = some c') : Gapless p c' := by
  obtain hrounds | ⟨a, q, i, ht, -, hfires⟩ := timer_turn [] h
  · exact (g.rounds r hrounds).1
  · obtain ⟨hrecords, hpeers, hnext⟩ := retried_frame c t a q i
    have hlog : (retried (c.setTimer t none) a q i).log =
        c.log ++ [.retryScheduled q (c.pendings i).frame.messageId] := rfl
    have hlinked : linked p (retried (c.setTimer t none) a q i).log = linked p c.log := by
      rw [hlog]
      exact linked_emit p c.log (by simp)
    have hretried : Gapless p (retried (c.setTimer t none) a q i) :=
      g.of_same (wire_eq (by rw [hrecords]) hlinked) (by rw [hrecords])
        (fun b hb => by rwa [hpeers] at hb) hnext.ge
    have hagain : Registry (retried (c.setTimer t none) a q i) := by
      refine ⟨?_, ?_⟩
      · rw [hpeers, hnext]
        exact r.old
      · rw [hpeers, hrecords]
        exact r.address
    obtain hrounds | hrounds | ⟨-, hrounds | hrounds⟩ := hfires
    · have hcleared : Gapless p (c.setTimer t none) := g.of_same rfl rfl (fun _ => id) le_rfl
      have hregistry : Registry (c.setTimer t none) := { r with }
      obtain ⟨hwire, hsequence⟩ := modifyRecord_same (c.setTimer t none) p q (f := fun r =>
        { r with pendingAcks := r.pendingAcks.delete (c.pendings i).frame.messageId }) rfl rfl
      have hgaveUp : Gapless p (gaveUp (c.setTimer t none) q i) :=
        (hcleared.of_same hwire hsequence (fun _ => id) le_rfl).emit (by simp)
      exact (hgaveUp.rounds ((hregistry.modifyRecord q rfl).of_kept (emit_kept _ _)) hrounds).1
    · have harmed : Gapless p (armAckRetry (c.setTimer t none) a q i) :=
        g.of_same rfl rfl (fun _ => id) le_rfl
      have hregistry : Registry (armAckRetry (c.setTimer t none) a q i) := { r with }
      exact (harmed.rounds hregistry hrounds).1
    · exact (hretried.rounds hagain hrounds).1
    · refine (Gapless.rounds ?_ (registry_pushed hagain q _) hrounds).1
      obtain rfl | hne := eq_or_ne p q
      · exact hretried.pushAgain (mem_append_left _ (o.timers t a p i ht).handed)
      · exact hretried.pushOther hne _

theorem step (g : Gapless p c) (o : Outbound config c) (r : Registry c) {a : Action}
    (ha : dropped p c a = false) (h : step c a = some c') : Gapless p c' := by
  cases a with
  | send destination message => exact g.send r ha h
  | timer t => exact g.timer o r h
  | sendSettled job ok =>
    obtain hrounds | ⟨a, q, item, -, -, hrounds⟩ := sendSettled_turn [] h
    · exact (g.rounds r hrounds).1
    · have hsettled : Gapless p (c.setJob job none) := g.of_same rfl rfl (fun _ => id) le_rfl
      have hregistry : Registry (c.setJob job none) := { r with }
      have hwatched : Registry (watched (c.setJob job none) a q item.frame) :=
        { hregistry.modifyRecord q (f := fun r => { r with
            pendingAcks := r.pendingAcks.set item.frame.messageId c.nextPending }) rfl with }
      exact ((hsettled.watch a q item.frame).rounds hwatched hrounds).1
  | providerAnswers job answer =>
    obtain ⟨a, q, frame, -, rfl⟩ := providerAnswers_cases h
    have hsettled : Gapless p (c.setJob job none) := g.of_same rfl rfl (fun _ => id) le_rfl
    refine hsettled.of_kept (wire_eq ((claimAnswered_still _ job a q frame answer).queue p) ?_)
      ((Unsent.claimAnswered _ job a q frame answer).sequence p) (claimAnswered_kept _ _ _ _ _ _)
    cases answer with
    | claimed | duplicate => exact linked_emit p c.log (by simp)
    | error => rfl
  | microtask =>
    simp only [TransportCore.step] at h
    split at h
    case h_1 m rest hm =>
      cases h
      have hpopped : Gapless p { c with microtasks := rest } :=
        g.of_same rfl rfl (fun _ => id) le_rfl
      have hregistry : Registry { c with microtasks := rest } := { r with }
      have hticks : ∀ {u v : Core}, Gapless p u → Registry u → Ticks u v →
          Gapless p v ∧ Registry v := by
        intro u v hu hr huv
        have hrounds : Rounds [] u v := .of_ticks huv
        exact hu.rounds hr hrounds
      cases m with
      | claimed job a q frame outcome =>
        obtain ⟨-, h⟩ | ⟨-, c₁, hbefore, hafter⟩ :=
          claimResumed_ticks { c with microtasks := rest } job a q frame outcome
        · exact (hticks hpopped hregistry h).1
        · obtain ⟨hg, hr⟩ := hticks hpopped hregistry hbefore
          have hreceived : Gapless p (recordFrameReceived c₁ a q frame) := by
            obtain ⟨hwire, hsequence⟩ := modifyRecord_same c₁ p q (f := fun r =>
              { r with lastReceivedSequence := max r.lastReceivedSequence frame.sequence })
              rfl rfl
            unfold recordFrameReceived
            split
            · exact hg.of_same hwire hsequence (fun _ => id) le_rfl
            · exact hg.of_same hwire hsequence (fun _ => id) le_rfl
          exact (hticks hreceived
            (hr.of_kept (recordFrameReceived_quiet c₁ a q frame).toKept) hafter).1
      | retryRejected a q => exact (hticks hpopped hregistry (ticks_closes.of_disconnect _ a)).1
    case h_2 => cases h
  | connect | dialSettled | authSettled | acceptInbound | rejectInbound | disconnect | flushPeer
  | linkFact | linkAlive | linkOpens | clock | stop =>
    exact (g.rounds r (step_rounds (by trivial) h)).1

end Gapless

section Growth

variable {c c' : Core} {frames : List RuntimeTransportFrame}

theorem lesser_grows (l : Lesser c c') : c.log <+: c'.log := by
  obtain ⟨new, hnew, -⟩ := l.log
  rw [hnew]
  exact prefix_append _ _

theorem rounds_grows (h : Rounds frames c c') : c.log <+: c'.log := by
  induction h with
  | refl => exact prefix_rfl
  | tail _ hlast ih =>
    refine ih.trans ?_
    cases hlast with
    | tick h => exact lesser_grows (.of_tick h)
    | register link identity => exact prefix_rfl
    | arrive a q frame hp hframe =>
      rw [claim_log]
      exact prefix_append _ _
    | ack a q messageId =>
      exact (Gapless.clearPendingAck_log _ a q messageId).symm ▸ prefix_rfl
    | pop a q item rest hqueue => exact prefix_append _ _

theorem step_grows {a : Action} (h : step c a = some c') : c.log <+: c'.log := by
  cases a with
  | send destination message =>
    obtain ⟨-, hrounds⟩ | ⟨q, frame, -, ⟨-, hrounds⟩ | ⟨-, hrounds⟩⟩ := send_turn [] h
    · exact rounds_grows hrounds
    · exact (prefix_append _ _).trans (rounds_grows hrounds)
    · exact (prefix_append _ _).trans (rounds_grows hrounds)
  | timer t =>
    obtain hrounds | ⟨a, q, i, -, -, hrounds | hrounds | ⟨-, hrounds | hrounds⟩⟩ := timer_turn [] h
    · exact rounds_grows hrounds
    · exact (prefix_append _ _).trans (rounds_grows hrounds)
    · have hgrows := rounds_grows hrounds
      exact hgrows
    · exact (prefix_append _ _).trans (rounds_grows hrounds)
    · exact (prefix_append _ _).trans (rounds_grows hrounds)
  | sendSettled job ok =>
    obtain hrounds | ⟨a, q, item, -, -, hrounds⟩ := sendSettled_turn [] h
    · exact rounds_grows hrounds
    · have hgrows := rounds_grows hrounds
      exact hgrows
  | providerAnswers job answer =>
    obtain ⟨a, q, frame, -, rfl⟩ := providerAnswers_cases h
    have hgrows := lesser_grows (.claimAnswered (c.setJob job none) job a q frame answer)
    exact hgrows
  | microtask =>
    simp only [TransportCore.step] at h
    split at h
    case h_1 m rest hm =>
      cases h
      cases m with
      | claimed job a q frame outcome =>
        have hgrows := lesser_grows
          (.claimResumed { c with microtasks := rest } job a q frame outcome)
        exact hgrows
      | retryRejected a q =>
        have hgrows := lesser_grows (.of_ticks
          (ticks_closes.of_disconnect { c with microtasks := rest } a))
        exact hgrows
    case h_2 => cases h
  | connect | dialSettled | authSettled | acceptInbound | rejectInbound | disconnect | flushPeer
  | linkFact | linkAlive | linkOpens | clock | stop =>
    exact rounds_grows (step_rounds (by trivial) h)

theorem linked_grows (p : Nat) {log log' : List Event} (h : log <+: log') :
    linked p log <+: linked p log' := by
  obtain ⟨new, rfl⟩ := h
  rw [linked_append]
  exact prefix_append _ _

end Growth

section Runs

open Transition

/-- A frame that a link gets, or that waits for it, is that of a call through the same record, for
the peer under whose address the record is registered, and later calls have greater numbers. -/
theorem frames_of_calls (config : Config) (as : List Action) :
    Along step (fun _ _ c =>
      (∀ p f, .linkSend p f ∈ c.log ∨ f ∈ (c.records p).outboundQueue.map (·.frame) →
        .numbered p f ∈ c.log ∧ f = createRuntimeTransportFrame config.identity
          (c.records p).identity f.sequence f.message) ∧
      (sends c.log).Pairwise (fun a b => a.1 = b.1 → a.2.sequence < b.2.sequence) ∧
      ∀ a p, c.peers.get a = some p → (c.records p).identity.nodeAddress = a)
      (create config) as := by
  refine along_of_invariant (I := fun c => Outbound config c ∧ Registry c)
    (fun _ _ _ h hstep => ⟨h.1.step h.2 hstep, h.2.step hstep⟩) (fun _ _ c h hstep => ?_)
    ⟨.create config, registry_create config⟩ as
  have o := h.1.step h.2 hstep
  refine ⟨fun p f hf => ?_, o.increasing, (h.2.step hstep).address⟩
  have hsent : (p, f) ∈ sends c.log := by
    obtain hf | hf := hf
    · exact o.genuine p f hf
    · obtain ⟨item, hitem, rfl⟩ := mem_map.mp hf
      exact o.queued p item hitem
  exact ⟨mem_sends.mp hsent, o.sameConfig ▸ (o.numbering.sent p f hsent).2.1⟩

/-- In any surroundings, a record whose queue drops no call gives out its numbers without a gap. -/
theorem numbers_without_gaps (config : Config) (p : Nat) (as : List Action) (c : Core)
    (hrun : exec step (create config) as = some c)
    (hguard : Guarded step (fun c a => dropped p c a = false) (create config) as) :
    Rising 0 (wire p c) ∧
      ∀ a, c.peers.get a = some p → highest 0 (wire p c) = (c.records p).sequence := by
  have hsound := guarded_invariant (I := fun c => Gapless p c ∧ Outbound config c ∧ Registry c)
    (fun _ _ _ h hstep hdropped =>
      ⟨h.1.step h.2.1 h.2.2 hdropped hstep, h.2.1.step h.2.2 hstep, h.2.2.step hstep⟩)
    ⟨.create config p, .create config, registry_create config⟩ hguard hrun
  exact ⟨hsound.1.rising, hsound.1.whole⟩

theorem leftoverRun_without_gaps : ∃ c, exec step (create nodeA) leftoverRun.dropLast = some c ∧
    wire 0 c = [1, 2] ∧ Rising 0 (wire 0 c) ∧
      ∀ a, c.peers.get a = some 0 → highest 0 (wire 0 c) = (c.records 0).sequence :=
  ⟨_, rfl, by decide, numbers_without_gaps nodeA 0 leftoverRun.dropLast _ rfl (by decide)⟩

end Runs

end ActorWeb.TransportWire
