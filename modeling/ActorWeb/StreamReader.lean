import ActorWeb.StreamWriter

namespace ActorWeb.StreamReader

open List StreamHost StreamWriter

variable {Payload : Type}

def started (log : List (Event Payload)) : List Payload :=
  log.filterMap fun
    | .chunkStarted _ _ payload => some payload
    | _ => none

def consumed (log : List (Event Payload)) : List Payload :=
  log.filterMap fun
    | .chunkConsumed _ _ payload => some payload
    | _ => none

def CloseStarted (log : List (Event Payload)) : Prop := ∃ i, .closeStarted i ∈ log

def payloadsOf (ms : List (StreamMessage Payload)) : List Payload :=
  ms.filterMap fun
    | .chunk _ _ payload => some payload
    | _ => none

theorem started_append (log new : List (Event Payload)) :
    started (log ++ new) = started log ++ started new := filterMap_append

theorem consumed_append (log new : List (Event Payload)) :
    consumed (log ++ new) = consumed log ++ consumed new := filterMap_append

theorem payloadsOf_append (ms ns : List (StreamMessage Payload)) :
    payloadsOf (ms ++ ns) = payloadsOf ms ++ payloadsOf ns := filterMap_append

theorem payloadsOf_chunks (sid : String) (n : Nat) (ps : List Payload) :
    payloadsOf (chunksFrom sid n ps) = ps := by
  induction ps generalizing n with
  | nil => rfl
  | cons p ps ih =>
    rw [chunksFrom, ← singleton_append, payloadsOf_append, ih]
    rfl

theorem normalize_natCast (n : Nat) : normalizePositiveInteger (some (n : ℚ)) 0 = n := by
  simp only [normalizePositiveInteger, Nat.cast_pos]
  split
  · simp
  · omega

def script (sid : String) (out : List Payload) (done : Bool) : List (StreamMessage Payload) :=
  .open sid :: chunksFrom sid 1 out ++ if done then [.close sid] else []

theorem payloadsOf_script (sid : String) (out : List Payload) (done : Bool) :
    payloadsOf (script sid out done) = out := by
  rw [script, cons_append, ← singleton_append, payloadsOf_append, payloadsOf_append,
    payloadsOf_chunks]
  cases done <;> simp [payloadsOf]

theorem next_in_chunks {sid : String} {m : StreamMessage Payload} {done : Bool} (n : Nat)
    {ps out : List Payload} (h : chunksFrom sid n ps ++ [m] <+:
      chunksFrom sid n out ++ if done then [.close sid] else []) :
    (∃ p, m = .chunk sid (n + ps.length) p) ∨ m = .close sid ∧ ps = out := by
  induction ps generalizing n out with
  | nil =>
    cases out with
    | nil =>
      cases done with
      | false => simp [chunksFrom] at h
      | true => exact .inr ⟨by simpa [chunksFrom] using h, rfl⟩
    | cons q out => exact .inl ⟨q, by simpa [chunksFrom] using h⟩
  | cons p ps ih =>
    cases out with
    | nil => cases done <;> simp [chunksFrom] at h
    | cons q out =>
      simp only [chunksFrom, cons_append, cons_prefix_cons] at h
      obtain ⟨hpq, hrest⟩ := h
      obtain rfl : p = q := by simpa using hpq
      have hadd : n + (p :: ps).length = n + 1 + ps.length := by
        simp only [length_cons]
        omega
      rw [hadd]
      exact (ih (n + 1) hrest).imp_right fun h => ⟨h.1, by rw [h.2]⟩

/-- What may happen at the reading host besides deliveries: no consumer fails
and the host is not stopped. -/
def readerMay : Action Payload → Bool
  | .subscribe _ | .unsubscribe _ | .taskStarts _ | .handlerReturned _ _ | .handlerThrew _
  | .chunkSettled _ none | .callbackSettled _ _ | .sendSettled _ _ => true
  | _ => false

variable (w sid : String)

/-- The replies sent to the writer grant `granted`, `eaten` was consumed. -/
structure Books (log : List (Event Payload)) (granted : Nat) (eaten : List Payload) (ended : Bool) :
    Prop where
  credit : creditSum (sentTo w log) = granted
  consumed : consumed log = eaten
  ended : CloseStarted log → ended = true

/-- How far the reading host has come with the messages it has handled. -/
inductive Phase (h : Host Payload) : List (StreamMessage Payload) → Prop
  | waiting (idle : h.running sid = none) (unmapped : h.incomingStreams.get sid = none)
      (books : Books w h.log 0 [] false) : Phase h []
  | resolving (remaining : List Nat) (busy : h.running sid = some (.resolving w remaining))
      (unmapped : h.incomingStreams.get sid = none) (books : Books w h.log 0 [] false) : Phase h [.open sid]
  | refused (more : List (StreamMessage Payload)) (busy : h.running sid = none ∨ h.running sid = some .sending)
      (unmapped : h.incomingStreams.get sid = none) (books : Books w h.log 0 [] false)
      (quiet : ∀ m ∈ more, m = .close sid) : Phase h (.open sid :: more)
  | receiving (i : Nat) (consumer : Consumer) (ps : List Payload)
      (busy : h.running sid = none ∨ h.running sid = some .sending)
      (mapped : h.incomingStreams.get sid = some i) (state : h.incoming i = ⟨sid, w, consumer, ps.length + 1, false⟩)
      (books : Books w h.log (h.initialCredit + ps.length) ps false) : Phase h (.open sid :: chunksFrom sid 1 ps)
  | consuming (i : Nat) (consumer : Consumer) (ps : List Payload) (p : Payload)
      (busy : h.running sid = some (.consuming i w (ps.length + 1) p))
      (mapped : h.incomingStreams.get sid = some i) (state : h.incoming i = ⟨sid, w, consumer, ps.length + 1, false⟩)
      (books : Books w h.log (h.initialCredit + ps.length) ps false) :
      Phase h (.open sid :: chunksFrom sid 1 (ps ++ [p]))
  | ended (ps : List Payload) (busy : h.running sid = none ∨ ∃ i, h.running sid = some (.closing i))
      (unmapped : h.incomingStreams.get sid = none)
      (books : Books w h.log (h.initialCredit + ps.length) ps true) :
      Phase h (.open sid :: chunksFrom sid 1 ps ++ [.close sid])

def IsReply : StreamMessage Payload → Prop
  | .credit s _ => s = sid
  | .error s code _ => s = sid ∧ code = "stream_not_handled"
  | _ => False

structure Base (h : Host Payload) (seen : List (StreamMessage Payload)) : Prop where
  stopped : h.stopped = false
  outgoing : ∀ s, h.outgoingStreams.get s = none
  others : ∀ s, s ≠ sid → h.running s = none
  replies : ∀ m ∈ sentTo w h.log, IsReply sid m
  faultless : Faultless h.log
  started : started h.log = payloadsOf seen

/-- The invariant of the reading host, which has handled the messages `seen`. -/
structure Reader (h : Host Payload) (seen : List (StreamMessage Payload)) : Prop where
  base : Base w sid h seen
  phase : Phase w sid h seen

variable {w sid}

namespace Books

variable {log : List (Event Payload)} {granted : Nat} {eaten : List Payload} {ended : Bool}

theorem reply (b : Books w log granted eaten ended) (m : StreamMessage Payload) :
    Books w (log ++ [.sendStarted w m]) (granted + creditOf m) eaten ended := by
  refine ⟨?_, ?_, fun ⟨i, hi⟩ => b.ended ⟨i, by simpa using hi⟩⟩
  · rw [sentTo_append, creditSum_append, b.credit]
    simp [sentTo, creditSum]
  · rw [consumed_append, b.consumed]
    simp [StreamReader.consumed]

theorem note (b : Books w log granted eaten ended) {e : Event Payload} (hsent : sentTo w [e] = [])
    (hconsumed : StreamReader.consumed [e] = []) (hclose : ∀ i, e ≠ .closeStarted i) :
    Books w (log ++ [e]) granted eaten ended := by
  refine ⟨?_, ?_, fun ⟨i, hi⟩ => b.ended ⟨i, ?_⟩⟩
  · rw [sentTo_append, hsent, append_nil, b.credit]
  · rw [consumed_append, hconsumed, append_nil, b.consumed]
  · simpa [(hclose i).symm] using hi

theorem consume (b : Books w log granted eaten ended) (i sequence : Nat) (p : Payload) :
    Books w (log ++ [.chunkConsumed i sequence p]) granted (eaten ++ [p]) ended := by
  refine ⟨?_, ?_, fun ⟨i, hi⟩ => b.ended ⟨i, by simpa using hi⟩⟩
  · rw [sentTo_append, creditSum_append, b.credit]
    rfl
  · rw [consumed_append, b.consumed]
    rfl

theorem finish (b : Books w log granted eaten ended) (i : Nat) :
    Books w (log ++ [.closeStarted i]) granted eaten true := by
  refine ⟨?_, ?_, fun _ => rfl⟩
  · rw [sentTo_append, creditSum_append, b.credit]
    rfl
  · rw [consumed_append, b.consumed]
    simp [StreamReader.consumed]

end Books

namespace Base

variable {h : Host Payload} {seen : List (StreamMessage Payload)}

theorem emit (b : Base w sid h seen) {e : Event Payload} (hreply : ∀ m ∈ sentTo w [e], IsReply sid m)
    (hfault : ¬ Misordered e) {more : List (StreamMessage Payload)}
    (hstarted : StreamReader.started [e] = payloadsOf more) : Base w sid (h.emit e) (seen ++ more) :=
  { b with
    replies := fun m hm => by
      simp only [Host.emit, sentTo_append, mem_append] at hm
      exact hm.elim (b.replies m) (hreply m)
    faultless := faultless_append.mpr ⟨b.faultless, by simpa [Faultless] using hfault⟩
    started := by
      simp only [Host.emit]
      rw [started_append, payloadsOf_append, b.started, hstarted] }

theorem note (b : Base w sid h seen) {e : Event Payload} (hreply : ∀ m ∈ sentTo w [e], IsReply sid m)
    (hfault : ¬ Misordered e) (hstarted : StreamReader.started [e] = []) : Base w sid (h.emit e) seen := by
  have hemitted : Base w sid (h.emit e) (seen ++ []) := b.emit hreply hfault hstarted
  simpa using hemitted

theorem skip (b : Base w sid h seen) {m : StreamMessage Payload} (hm : payloadsOf [m] = []) :
    Base w sid h (seen ++ [m]) :=
  { b with started := by rw [payloadsOf_append, hm, append_nil, b.started] }

theorem setHandling (b : Base w sid h seen) (t : Option (Handling Payload)) :
    Base w sid (h.setHandling sid t) seen :=
  { b with others := fun s hs => by simpa [Host.setHandling, hs] using b.others s hs }

theorem replyLast (b : Base w sid h seen) {m : StreamMessage Payload} (hm : IsReply sid m)
    (hfault : ¬ Misordered (.sendStarted w m)) : Base w sid (replyLast h sid w m) seen :=
  (b.note (by simpa [sentTo] using hm) hfault rfl).setHandling _

end Base

namespace Reader

variable {h h' : Host Payload} {seen : List (StreamMessage Payload)}

theorem create (credit : Option ℚ) : Reader w sid (create credit : Host Payload) [] where
  base := ⟨rfl, fun _ => rfl, fun _ _ => rfl, nofun, nofun, rfl⟩
  phase := .waiting rfl rfl ⟨rfl, rfl, fun ⟨_, h⟩ => by cases h⟩

theorem registerIncoming (b : Base w sid h [.open sid]) (hbooks : Books w h.log 0 [] false)
    (consumer : Consumer) : Reader w sid (registerIncoming h w sid consumer) [.open sid] := by
  have hbase : Base w sid ((h.addIncoming sid w consumer).emit (.registered h.nextIncoming)) [.open sid] :=
    Base.note (h := h.addIncoming sid w consumer) { b with } (by simp [sentTo]) id rfl
  refine ⟨hbase.replyLast rfl id, .receiving h.nextIncoming consumer [] (.inr ?_) ?_ ?_ ?_⟩
  · simp [StreamHost.replyLast, grantCredit, Host.setHandling, StreamHost.registerIncoming]
  · exact OrderedMap.get_set_self _ _ _
  · exact Function.update_self _ _ _
  · have hnoted := hbooks.note (e := .registered h.nextIncoming) rfl rfl (by simp)
    have hreplied := hnoted.reply (.credit sid (some (h.initialCredit : ℚ)))
    rw [creditOf, normalize_natCast, Nat.zero_add] at hreplied
    exact hreplied

theorem streamNotHandled (b : Base w sid h [.open sid]) (hbooks : Books w h.log 0 [] false)
    (hmap : h.incomingStreams.get sid = none) :
    Reader w sid (streamNotHandled h w sid) [.open sid] := by
  refine ⟨b.replyLast ⟨rfl, rfl⟩ (by simp [Misordered]), .refused [] (.inr ?_) hmap (hbooks.reply _) nofun⟩
  simp [StreamHost.streamNotHandled, sendStreamError, StreamHost.replyLast, Host.setHandling]

theorem handlerReturned (b : Base w sid h [.open sid]) (hbooks : Books w h.log 0 [] false)
    (hmap : h.incomingStreams.get sid = none) {remaining : List Nat} {consumer : Option Consumer}
    (hstep : handlerReturned h sid w remaining consumer = some h') : Reader w sid h' [.open sid] := by
  unfold StreamHost.handlerReturned at hstep
  split at hstep
  · cases hstep
    exact registerIncoming b hbooks _
  case h_2 next rest =>
    cases hstep
    refine ⟨b.setHandling _, .resolving (next :: rest) ?_ hmap hbooks⟩
    simp [Host.setHandling]
  · cases hstep
    exact streamNotHandled b hbooks hmap
  · cases hstep

variable {consumer : Consumer} {i : Nat} {ps : List Payload}

theorem chunkConsumed (b : Base w sid h seen)
    {p : Payload} (hseen : seen = .open sid :: chunksFrom sid 1 (ps ++ [p]))
    (hmap : h.incomingStreams.get sid = some i) (hstate : h.incoming i = ⟨sid, w, consumer, ps.length + 1, false⟩)
    (hbooks : Books w h.log (h.initialCredit + ps.length) ps false) :
    Reader w sid (chunkSettled h sid i w (ps.length + 1) p none) seen := by
  have hemit : Base w sid (h.emit (.chunkConsumed i (ps.length + 1) p)) seen :=
    b.note (by simp [sentTo]) id rfl
  have hmod : Base w sid ((h.emit (.chunkConsumed i (ps.length + 1) p)).modifyIncoming i fun s =>
      { s with expectedSequence := s.expectedSequence + 1 }) seen := { hemit with }
  subst hseen
  refine ⟨hmod.replyLast rfl id, .receiving i consumer (ps ++ [p]) (.inr ?_) hmap ?_ ?_⟩
  · simp [chunkSettled, grantCredit, StreamHost.replyLast, Host.setHandling]
  · simp [chunkSettled, grantCredit, StreamHost.replyLast, Host.setHandling, Host.send, Host.emit,
      Host.modifyIncoming, hstate]
  · have := (hbooks.consume i (ps.length + 1) p).reply (.credit sid (some ((1 : Nat) : ℚ)))
    rw [creditOf, normalize_natCast, Nat.add_assoc] at this
    simp only [length_append, length_singleton]
    exact this

theorem handleOpen (b : Base w sid h []) (hmap : h.incomingStreams.get sid = none)
    (hbooks : Books w h.log 0 [] false) : Reader w sid (handleOpen h w sid) [.open sid] := by
  have hfree : (h.incomingStreams.has sid || h.outgoingStreams.has sid) = false := by
    simp [OrderedMap.has, hmap, b.outgoing]
  rw [StreamHost.handleOpen, hfree]
  refine ⟨(Base.setHandling (b.skip (m := .open sid) rfl) _), .resolving h.handlers ?_ hmap hbooks⟩
  simp [Host.setHandling]

theorem handleChunk (b : Base w sid h seen)
    (hseen : seen = .open sid :: chunksFrom sid 1 ps) (hmap : h.incomingStreams.get sid = some i)
    (hstate : h.incoming i = ⟨sid, w, consumer, ps.length + 1, false⟩)
    (hbooks : Books w h.log (h.initialCredit + ps.length) ps false) (p : Payload) :
    Reader w sid (handleChunk h w sid (ps.length + 1) p) (seen ++ [.chunk sid (ps.length + 1) p]) := by
  simp only [StreamHost.handleChunk, hmap, hstate, Bool.false_eq_true, if_false, ne_eq, not_true]
  have hemit : Base w sid (h.emit (.chunkStarted i (ps.length + 1) p)) (seen ++ [.chunk sid (ps.length + 1) p]) :=
    b.emit (by simp [sentTo]) id rfl
  subst hseen
  rw [cons_append, ← chunksFrom_concat] at hemit ⊢
  refine ⟨hemit.setHandling _, .consuming i consumer ps p ?_ hmap hstate (hbooks.note rfl rfl (by simp))⟩
  simp [Host.setHandling]

theorem handleClose_unmapped (r : Base w sid h seen) (hmap : h.incomingStreams.get sid = none) :
    handleClose h w sid = h ∧ Base w sid h (seen ++ [.close sid]) :=
  ⟨by simp only [handleClose, hmap], r.skip rfl⟩

theorem handleClose (b : Base w sid h seen)
    (hseen : seen = .open sid :: chunksFrom sid 1 ps) (hmap : h.incomingStreams.get sid = some i)
    (hstate : h.incoming i = ⟨sid, w, consumer, ps.length + 1, false⟩)
    (hbooks : Books w h.log (h.initialCredit + ps.length) ps false) :
    Reader w sid (handleClose h w sid) (seen ++ [.close sid]) := by
  have hgone : Base w sid ((h.modifyIncoming i fun s => { s with closed := true }).deleteIncoming sid)
      (seen ++ [.close sid]) := { b.skip (m := .close sid) rfl with }
  simp only [StreamHost.handleClose, hmap, hstate, ne_eq, not_true, if_false]
  subst hseen
  split
  · refine ⟨Base.setHandling (hgone.note (by simp [sentTo]) id rfl) _, .ended ps (.inr ⟨i, ?_⟩) ?_ (hbooks.finish i)⟩
    · simp [Host.setHandling]
    · exact OrderedMap.get_delete_self _ _
  · refine ⟨hgone.setHandling _, .ended ps (.inr ⟨i, ?_⟩) ?_ ⟨hbooks.credit, hbooks.consumed, fun _ => rfl⟩⟩
    · simp [Host.setHandling]
    · exact OrderedMap.get_delete_self _ _

theorem startTask (r : Reader w sid h seen) (hidle : h.running sid = none) {m : StreamMessage Payload}
    {out : List Payload} {done : Bool} (hnext : seen ++ [m] <+: script sid out done)
    (hcredit : out.length ≤ creditSum (sentTo w h.log)) :
    Reader w sid (startTask h w m) (seen ++ [m]) := by
  obtain ⟨b, phase⟩ := r
  rw [StreamHost.startTask, b.stopped]
  simp only [Bool.false_eq_true, if_false]
  cases phase with
  | waiting _ unmapped books =>
    obtain rfl : m = .open sid := by simpa [script] using hnext
    exact handleOpen b unmapped books
  | resolving remaining busy =>
    rw [hidle] at busy
    cases busy
  | refused more busy unmapped books quiet =>
    obtain rfl : out = [] := eq_nil_of_length_eq_zero (by rw [books.credit] at hcredit; omega)
    have hm : m = .close sid := by
      cases done with
      | false => simp [script, chunksFrom] at hnext
      | true =>
        have hmem : m ∈ [StreamMessage.close sid] :=
          (cons_prefix_cons.mp hnext).2.subset (by simp)
        simpa using hmem
    subst hm
    obtain ⟨heq, hbase⟩ := handleClose_unmapped b unmapped
    refine ⟨by rw [handleStreamMessage, heq]; exact hbase, ?_⟩
    rw [handleStreamMessage, heq]
    exact .refused (more ++ [.close sid]) busy unmapped books (by simpa [or_imp, forall_and] using quiet)
  | receiving i consumer ps busy mapped state books =>
    rcases next_in_chunks 1 (cons_prefix_cons.mp hnext).2 with ⟨p, rfl⟩ | ⟨rfl, -⟩
    · rw [Nat.add_comm 1]
      exact handleChunk b rfl mapped state books p
    · exact handleClose b rfl mapped state books
  | consuming i consumer ps p busy =>
    rw [hidle] at busy
    cases busy
  | ended ps =>
    -- Nothing follows the end of a script.
    have hlist := (cons_prefix_cons.mp hnext).2
    have hshort := (prefix_append _ [m]).trans hlist
    rcases next_in_chunks 1 hshort with ⟨p, hp⟩ | ⟨-, rfl⟩
    · cases hp
    · have hlen := hlist.length_le
      cases done <;> simp [length_append] at hlen

theorem untouched (r : Reader w sid h seen) (q : String → List (String × StreamMessage Payload))
    (handlers : List Nat) : Reader w sid { h with streamMessageQueues := q, handlers := handlers } seen := by
  refine ⟨{ r.base with }, ?_⟩
  cases r.phase with
  | waiting idle unmapped books => exact .waiting idle unmapped books
  | resolving remaining busy unmapped books => exact .resolving remaining busy unmapped books
  | refused more busy unmapped books quiet => exact .refused more busy unmapped books quiet
  | receiving i consumer ps busy mapped state books => exact .receiving i consumer ps busy mapped state books
  | consuming i consumer ps p busy mapped state books =>
    exact .consuming i consumer ps p busy mapped state books
  | ended ps busy unmapped books => exact .ended ps busy unmapped books

theorem running_eq (r : Reader w sid h seen) {s : String} {t : Handling Payload}
    (ht : h.running s = some t) : s = sid := by
  by_contra hs
  rw [r.base.others s hs] at ht
  cases ht

theorem setIdle (r : Reader w sid h seen)
    (ht : h.running sid = some .sending ∨ ∃ i, h.running sid = some (.closing i)) :
    Reader w sid (h.setHandling sid none) seen := by
  have hnone : (h.setHandling sid none).running sid = none := by simp [Host.setHandling]
  obtain ⟨b, phase⟩ := r
  refine ⟨b.setHandling none, ?_⟩
  cases phase with
  | waiting idle => simp [idle] at ht
  | resolving remaining busy => simp [busy] at ht
  | refused more busy unmapped books quiet => exact .refused more (.inl hnone) unmapped books quiet
  | receiving i consumer ps busy mapped state books =>
    exact .receiving i consumer ps (.inl hnone) mapped state books
  | consuming i consumer ps p busy => simp [busy] at ht
  | ended ps busy unmapped books => exact .ended ps (.inl hnone) unmapped books

theorem failed (r : Reader w sid h seen) : Reader w sid (h.emit (.hostError "stream_handler_failed")) seen := by
  have hnote {granted eaten ended} (b : Books w h.log granted eaten ended) :
      Books w (h.emit (.hostError "stream_handler_failed")).log granted eaten ended := b.note rfl rfl nofun
  obtain ⟨b, phase⟩ := r
  refine ⟨b.note nofun (by simp [Misordered]) rfl, ?_⟩
  cases phase with
  | waiting idle unmapped books => exact .waiting idle unmapped (hnote books)
  | resolving remaining busy unmapped books => exact .resolving remaining busy unmapped (hnote books)
  | refused more busy unmapped books quiet => exact .refused more busy unmapped (hnote books) quiet
  | receiving i consumer ps busy mapped state books =>
    exact .receiving i consumer ps busy mapped state (hnote books)
  | consuming i consumer ps p busy mapped state books =>
    exact .consuming i consumer ps p busy mapped state (hnote books)
  | ended ps busy unmapped books => exact .ended ps busy unmapped (hnote books)

theorem settle (r : Reader w sid h seen) (ok : Bool)
    (ht : h.running sid = some .sending ∨ ∃ i, h.running sid = some (.closing i)) :
    Reader w sid ((if ok then h else h.emit (.hostError "stream_handler_failed")).setHandling sid none)
      seen := by
  split
  · exact r.setIdle ht
  · exact r.failed.setIdle ht

theorem resolved (r : Reader w sid h seen) {source : String} {remaining : List Nat}
    (ht : h.running sid = some (.resolving source remaining)) :
    source = w ∧ seen = [.open sid] ∧ h.incomingStreams.get sid = none ∧ Books w h.log 0 [] false := by
  obtain ⟨b, phase⟩ := r
  cases phase with
  | waiting idle => simp [idle] at ht
  | resolving remaining busy unmapped books =>
    rw [busy] at ht
    cases ht
    exact ⟨rfl, rfl, unmapped, books⟩
  | refused more busy | receiving i consumer ps busy =>
    rcases busy with busy | busy <;> simp [busy] at ht
  | consuming i consumer ps p busy => simp [busy] at ht
  | ended ps busy => rcases busy with busy | ⟨i, busy⟩ <;> simp [busy] at ht

theorem chunkSettled (r : Reader w sid h seen) {source : String} {sequence : Nat} {p : Payload}
    (ht : h.running sid = some (.consuming i source sequence p)) :
    Reader w sid (StreamHost.chunkSettled h sid i source sequence p none) seen := by
  obtain ⟨b, phase⟩ := r
  cases phase with
  | waiting idle => simp [idle] at ht
  | resolving remaining busy => simp [busy] at ht
  | refused more busy | receiving i consumer ps busy =>
    rcases busy with busy | busy <;> simp [busy] at ht
  | consuming i consumer ps p busy mapped state books =>
    rw [busy] at ht
    cases ht
    exact chunkConsumed b rfl mapped state books
  | ended ps busy => rcases busy with busy | ⟨i, busy⟩ <;> simp [busy] at ht

theorem not_failing (r : Reader w sid h seen) (i : Nat) (reply : Option (String × String × String)) :
    h.running sid ≠ some (.failing i reply) := by
  intro ht
  obtain ⟨b, phase⟩ := r
  cases phase with
  | waiting idle => simp [idle] at ht
  | resolving remaining busy => simp [busy] at ht
  | refused more busy | receiving i consumer ps busy =>
    rcases busy with busy | busy <;> simp [busy] at ht
  | consuming i consumer ps p busy => simp [busy] at ht
  | ended ps busy => rcases busy with busy | ⟨i, busy⟩ <;> simp [busy] at ht

theorem step (r : Reader w sid h seen) {a : Action Payload} (ha : readerMay a = true)
    (htask : ∀ s, a ≠ .taskStarts s) (hstep : step h a = some h') : Reader w sid h' seen := by
  cases a with
  | subscribe handler | unsubscribe handler =>
    cases hstep
    exact r.untouched h.streamMessageQueues _
  | taskStarts s => exact absurd rfl (htask s)
  | handlerReturned s consumer =>
    simp only [StreamHost.step] at hstep
    split at hstep
    case h_1 source remaining ht =>
      obtain rfl := r.running_eq ht
      obtain ⟨rfl, rfl, hmap, hbooks⟩ := r.resolved ht
      exact handlerReturned r.base hbooks hmap hstep
    case h_2 => cases hstep
  | handlerThrew s =>
    simp only [StreamHost.step] at hstep
    split at hstep
    case h_1 source _ _ ht =>
      cases hstep
      obtain rfl := r.running_eq ht
      obtain ⟨-, rfl, hmap, hbooks⟩ := r.resolved ht
      refine ⟨r.failed.base.setHandling none, .refused [] (.inl ?_) hmap (hbooks.note rfl rfl nofun) nofun⟩
      simp [Host.setHandling]
    case h_2 => cases hstep
  | chunkSettled s failure =>
    cases failure with
    | some failure => cases ha
    | none =>
      simp only [StreamHost.step] at hstep
      split at hstep
      case h_1 i source sequence p ht =>
        cases hstep
        obtain rfl := r.running_eq ht
        exact r.chunkSettled ht
      case h_2 => cases hstep
  | callbackSettled s ok =>
    simp only [StreamHost.step, callbackSettled] at hstep
    split at hstep
    case h_1 ht => exact absurd ht (r.running_eq ht ▸ r.not_failing _ _)
    case h_2 ht => exact absurd ht (r.running_eq ht ▸ r.not_failing _ _)
    case h_3 i ht =>
      cases hstep
      obtain rfl := r.running_eq ht
      exact r.settle ok (.inr ⟨i, ht⟩)
    case h_4 => cases hstep
  | sendSettled s ok =>
    simp only [StreamHost.step] at hstep
    split at hstep
    case h_1 ht =>
      cases hstep
      obtain rfl := r.running_eq ht
      exact r.settle ok (.inl ht)
    case h_2 => cases hstep
  | «open» | openSettled | write | close | error | drainSettled | receive | stop | stopResumes => cases ha

def consumingCount (sid : String) (h : Host Payload) : Nat :=
  match h.running sid with
  | some (.consuming _ _ _ _) => 1
  | _ => 0

theorem balance (r : Reader w sid h seen) :
    creditSum (sentTo w h.log) + consumingCount sid h ≤ h.initialCredit + (payloadsOf seen).length := by
  obtain ⟨b, phase⟩ := r
  have hcons (ps : List Payload) : payloadsOf (.open sid :: chunksFrom sid 1 ps) = ps := payloadsOf_chunks sid 1 ps
  cases phase with
  | waiting idle _ books => simp [consumingCount, idle, books.credit]
  | resolving remaining busy _ books => simp [consumingCount, busy, books.credit]
  | refused more busy _ books => rcases busy with busy | busy <;> simp [consumingCount, busy, books.credit]
  | receiving i consumer ps busy _ _ books =>
    rw [hcons]
    rcases busy with busy | busy <;> simp [consumingCount, busy, books.credit]
  | consuming i consumer ps p busy _ _ books =>
    rw [hcons]
    simp [consumingCount, busy, books.credit, Nat.add_assoc]
  | ended ps busy _ books =>
    rw [payloadsOf_append, hcons]
    rcases busy with busy | ⟨i, busy⟩ <;> simp [consumingCount, busy, books.credit]

theorem ended (r : Reader w sid h seen) (hclose : CloseStarted h.log) {out : List Payload} {done : Bool}
    (hseen : seen <+: script sid out done) : consumed h.log = out ∧ done = true := by
  obtain ⟨b, phase⟩ := r
  cases phase with
  | waiting _ _ books | resolving _ _ _ books | refused _ _ _ books | receiving _ _ _ _ _ _ books
  | consuming _ _ _ _ _ _ _ books => cases books.ended hclose
  | ended ps busy unmapped books =>
    have hlist := (cons_prefix_cons.mp hseen).2
    rcases next_in_chunks 1 hlist with ⟨p, hp⟩ | ⟨-, rfl⟩
    · cases hp
    · refine ⟨books.consumed, ?_⟩
      have hlen := hlist.length_le
      cases done with
      | false => simp at hlen
      | true => rfl

end Reader

end ActorWeb.StreamReader
