import ActorWeb.StreamReader
import ActorWeb.Transition

namespace ActorWeb.StreamPair

open Function List Option StreamHost StreamFrame StreamWriter StreamReader Transition

variable {Payload : Type}

/-- Two hosts joined by a transport that keeps the order of each direction:
the messages in flight are those sent and not among the first delivered. -/
structure Pair (Payload : Type) where
  (writer reader : Host Payload)
  (toReader toWriter : Nat)
  /-- `open` has returned the stream to the user. -/
  handle : Bool

inductive Move (Payload : Type)
  | writer (a : Action Payload)
  | reader (a : Action Payload)
  | deliverToReader
  | deliverToWriter

variable (w r sid : String)

/-- What may happen at the writing host besides deliveries: the stream is opened
once, and only its user writes to it and closes it. -/
def writerMay (p : Pair Payload) : Action Payload → Bool
  | .open destination s => destination = r && s = sid && p.writer.nextOutgoing = 0
  | .write s _ | .close s => s = sid && p.handle
  | .openSettled _ _ | .drainSettled _ _ | .taskStarts _ | .subscribe _ | .unsubscribe _ => true
  | _ => false

def returned : Action Payload → Bool
  | .openSettled _ ok => ok
  | _ => false

def step (p : Pair Payload) : Move Payload → Option (Pair Payload)
  | .writer a =>
    if writerMay r sid p a then
      (StreamHost.step p.writer a).map fun h => { p with writer := h, handle := p.handle || returned a }
    else none
  | .reader a =>
    if readerMay a then (StreamHost.step p.reader a).map fun h => { p with reader := h } else none
  | .deliverToReader =>
    (sentTo r p.writer.log)[p.toReader]?.bind fun m =>
      (StreamHost.step p.reader (.receive w m)).map fun h =>
        { p with reader := h, toReader := p.toReader + 1 }
  | .deliverToWriter =>
    (sentTo w p.reader.log)[p.toWriter]?.bind fun m =>
      (StreamHost.step p.writer (.receive r m)).map fun h =>
        { p with writer := h, toWriter := p.toWriter + 1 }

def init (writerCredit readerCredit : Option ℚ) : Pair Payload :=
  ⟨create writerCredit, create readerCredit, 0, 0, false⟩

def transitToReader (p : Pair Payload) : List (StreamMessage Payload) :=
  (p.reader.streamMessageQueues sid).map Prod.snd ++ (sentTo r p.writer.log).drop p.toReader

def transitToWriter (p : Pair Payload) : List (StreamMessage Payload) :=
  (p.writer.streamMessageQueues sid).map Prod.snd ++ (sentTo w p.reader.log).drop p.toWriter

def unspentCredit (p : Pair Payload) : Nat := (p.writer.outgoing 0).credit

def creditInFlight (p : Pair Payload) : Nat := creditSum (transitToWriter w sid p)

def chunksInFlight (p : Pair Payload) : Nat := (payloadsOf (transitToReader r sid p)).length

def chunksConsuming (p : Pair Payload) : Nat := Reader.consumingCount sid p.reader

def Queued (source : String) (h : Host Payload) : Prop :=
  (∀ e ∈ h.streamMessageQueues sid, e.1 = source) ∧ ∀ s, s ≠ sid → h.streamMessageQueues s = []

structure Inv (p : Pair Payload) : Prop where
  toReader : p.toReader ≤ (sentTo r p.writer.log).length
  toWriter : p.toWriter ≤ (sentTo w p.reader.log).length
  writerQueues : Queued sid r p.writer
  readerQueues : Queued sid w p.reader
  writer : ∃ seen, sentTo w p.reader.log = seen ++ transitToWriter w sid p ∧
    Writer r sid p.writer p.handle (creditSum seen)
  reader : ∃ seen, sentTo r p.writer.log = seen ++ transitToReader r sid p ∧ Reader w sid p.reader seen

variable {w r}

theorem sentTo_prefix {d : String} {log log' : List (Event Payload)} (h : log <+: log') :
    ∃ new, sentTo d log' = sentTo d log ++ new := by
  obtain ⟨new, rfl⟩ := h
  exact ⟨sentTo d new, sentTo_append d log new⟩

variable {h : Host Payload}
variable {source s : String}
variable {m : StreamMessage Payload}
variable {p' : Pair Payload}
variable {a : Action Payload}

theorem writer_sends {p : Pair Payload} (g : Grows p.writer h)
    (hle : p.toReader ≤ (sentTo r p.writer.log).length) :
    ∃ new, sentTo r h.log = sentTo r p.writer.log ++ new ∧
      ∀ b, transitToReader r sid { p with writer := h, handle := b } = transitToReader r sid p ++ new := by
  obtain ⟨new, hnew⟩ := sentTo_prefix (d := r) g.log
  refine ⟨new, hnew, fun b => ?_⟩
  simp only [transitToReader, hnew, drop_append_of_le_length hle, append_assoc]

theorem reader_sends {p : Pair Payload} (g : Grows p.reader h)
    (hle : p.toWriter ≤ (sentTo w p.reader.log).length) :
    ∃ new, sentTo w h.log = sentTo w p.reader.log ++ new ∧
      transitToWriter w sid { p with reader := h } = transitToWriter w sid p ++ new := by
  obtain ⟨new, hnew⟩ := sentTo_prefix (d := w) g.log
  refine ⟨new, hnew, ?_⟩
  simp only [transitToWriter, hnew, drop_append_of_le_length hle, append_assoc]

variable {sid}

theorem init_inv (writerCredit readerCredit : Option ℚ) :
    Inv w r sid (init writerCredit readerCredit : Pair Payload) where
  toReader := Nat.zero_le _
  toWriter := Nat.zero_le _
  writerQueues := ⟨nofun, fun _ _ => rfl⟩
  readerQueues := ⟨nofun, fun _ _ => rfl⟩
  writer := ⟨[], rfl, Writer.create writerCredit⟩
  reader := ⟨[], rfl, Reader.create readerCredit⟩

theorem Inv.writerMoved {p : Pair Payload} (inv : Inv w r sid p) {b : Bool}
    (g : Grows p.writer h) (hw : ∀ credits, Writer r sid p.writer p.handle credits →
      Writer r sid h b credits) : Inv w r sid { p with writer := h, handle := b } := by
  obtain ⟨new, hnew, htransit⟩ := writer_sends sid g inv.toReader
  obtain ⟨seenW, hseenW, writer⟩ := inv.writer
  obtain ⟨seenR, hseenR, reader⟩ := inv.reader
  refine ⟨?_, inv.toWriter, ?_, inv.readerQueues, ⟨seenW, ?_, hw _ writer⟩, ⟨seenR, ?_, reader⟩⟩
  · simp only [hnew, length_append]
    exact inv.toReader.trans (Nat.le_add_right _ _)
  · simpa only [Queued, g.queues] using inv.writerQueues
  · simpa only [transitToWriter, g.queues] using hseenW
  · rw [hnew, hseenR, htransit, append_assoc]

theorem Inv.readerMoved {p : Pair Payload} (inv : Inv w r sid p)
    (g : Grows p.reader h) (hr : ∀ seen, Reader w sid p.reader seen → Reader w sid h seen) :
    Inv w r sid { p with reader := h } := by
  obtain ⟨new, hnew, htransit⟩ := reader_sends sid g inv.toWriter
  obtain ⟨seenW, hseenW, writer⟩ := inv.writer
  obtain ⟨seenR, hseenR, reader⟩ := inv.reader
  refine ⟨inv.toReader, ?_, inv.writerQueues, ?_, ⟨seenW, ?_, writer⟩, ⟨seenR, ?_, hr _ reader⟩⟩
  · simp only [hnew, length_append]
    exact inv.toWriter.trans (Nat.le_add_right _ _)
  · simpa only [Queued, g.queues] using inv.readerQueues
  · rw [hnew, hseenW, htransit, append_assoc]
  · simpa only [transitToReader, g.queues] using hseenR

theorem drop_of_getElem? {α : Type} {l : List α} {n : Nat} {a : α} (h : l[n]? = some a) :
    n < l.length ∧ l.drop n = a :: l.drop (n + 1) := by
  obtain ⟨hlt, rfl⟩ := List.getElem?_eq_some_iff.mp h
  exact ⟨hlt, drop_eq_getElem_cons hlt⟩

theorem receive_eq {h' : Host Payload} (hstep : StreamHost.step h (.receive source m) = some h') :
    h' = h.setQueue m.streamId (h.streamMessageQueues m.streamId ++ [(source, m)]) := by
  simp only [StreamHost.step, ite_none_left_eq_some, Option.some.injEq] at hstep
  exact hstep.2.symm

theorem enqueue_queued (hq : Queued sid source h) (hm : m.streamId = sid) :
    Queued sid source (h.setQueue m.streamId (h.streamMessageQueues m.streamId ++ [(source, m)])) ∧
      ((h.setQueue m.streamId (h.streamMessageQueues m.streamId ++ [(source, m)])).streamMessageQueues
        sid).map Prod.snd = (h.streamMessageQueues sid).map Prod.snd ++ [m] := by
  subst hm
  refine ⟨⟨?_, fun s hs => ?_⟩, by simp [Host.setQueue]⟩
  · intro e he
    simp only [Host.setQueue, update_self, mem_append, mem_singleton] at he
    rcases he with he | rfl
    · exact hq.1 e he
    · rfl
  · simpa only [Host.setQueue, update_of_ne hs] using hq.2 s hs

theorem dequeue_queued {source' : String} (hq : Queued sid source h)
    {rest : List (String × StreamMessage Payload)}
    (hhead : h.streamMessageQueues s = (source', m) :: rest) :
    s = sid ∧ source' = source ∧ Queued sid source (h.setQueue s rest) := by
  have hs : s = sid := by
    by_contra hs
    rw [hq.2 s hs] at hhead
    cases hhead
  subst hs
  refine ⟨rfl, hq.1 _ (hhead ▸ mem_cons_self), fun e he => ?_, fun s' hs' => ?_⟩
  · simp only [Host.setQueue, update_self] at he
    exact hq.1 e (hhead ▸ mem_cons_of_mem _ he)
  · simpa only [Host.setQueue, update_of_ne hs'] using hq.2 s' hs'

theorem scripted {handle : Bool} {credits : Nat} (writer : Writer r sid h handle credits) :
    sentTo r h.log = [] ∨ ∃ out done, sentTo r h.log = script sid out done ∧ out.length ≤ credits ∧
      Flow r sid (h.outgoing 0) h.log credits out done := by
  by_cases h0 : h.nextOutgoing = 0
  · exact .inl (writer.fresh h0).2.2.1
  · obtain ⟨-, -, -, -, out, done, f⟩ := writer.opened h0
    exact .inr ⟨out, done, f.sent, le_of_add_le_right f.credit, f⟩

theorem chunksFrom_streamId {n : Nat} {ps : List Payload}
    (hm : m ∈ chunksFrom sid n ps) : m.streamId = sid := by
  induction ps generalizing n with
  | nil => cases hm
  | cons p ps ih =>
    rcases mem_cons.mp hm with rfl | hm
    · rfl
    · exact ih hm

theorem script_streamId {out : List Payload} {done : Bool}
    (hm : m ∈ script sid out done) : m.streamId = sid := by
  rw [script, cons_append, mem_cons, mem_append] at hm
  rcases hm with rfl | hm | hm
  · rfl
  · exact chunksFrom_streamId hm
  · cases done with
    | false => cases hm
    | true => exact mem_singleton.mp hm ▸ rfl

theorem Inv.deliverToReader {p : Pair Payload} (inv : Inv w r sid p)
    (hstep : step w r sid p .deliverToReader = some p') : Inv w r sid p' := by
  simp only [step, bind_eq_some_iff, map_eq_some_iff] at hstep
  obtain ⟨m, hm, h, hreceive, rfl⟩ := hstep
  obtain rfl := receive_eq hreceive
  obtain ⟨hlt, hdrop⟩ := drop_of_getElem? hm
  obtain ⟨seenW, hseenW, writer⟩ := inv.writer
  obtain ⟨seenR, hseenR, reader⟩ := inv.reader
  have hsid : m.streamId = sid := by
    have hmem := mem_of_getElem? hm
    rcases scripted writer with hnil | ⟨out, done, hscript, -⟩
    · rw [hnil] at hmem
      cases hmem
    · exact script_streamId (hscript ▸ hmem)
  obtain ⟨hqueued, hqueue⟩ := enqueue_queued inv.readerQueues hsid
  refine ⟨hlt, inv.toWriter, inv.writerQueues, hqueued, ⟨seenW, hseenW, writer⟩, ⟨seenR, ?_, ?_⟩⟩
  · refine hseenR.trans (congrArg _ ?_)
    simp only [transitToReader, hqueue, hdrop, append_assoc, singleton_append]
  · exact reader.untouched _ p.reader.handlers

theorem Inv.deliverToWriter {p : Pair Payload} (inv : Inv w r sid p)
    (hstep : step w r sid p .deliverToWriter = some p') : Inv w r sid p' := by
  simp only [step, bind_eq_some_iff, map_eq_some_iff] at hstep
  obtain ⟨m, hm, h, hreceive, rfl⟩ := hstep
  obtain rfl := receive_eq hreceive
  obtain ⟨hlt, hdrop⟩ := drop_of_getElem? hm
  obtain ⟨seenW, hseenW, writer⟩ := inv.writer
  obtain ⟨seenR, hseenR, reader⟩ := inv.reader
  have hsid : m.streamId = sid := by
    have hreply := reader.base.replies m (mem_of_getElem? hm)
    cases m with
    | «open» | chunk | close => exact hreply.elim
    | credit => exact hreply
    | error => exact hreply.1
  obtain ⟨hqueued, hqueue⟩ := enqueue_queued inv.writerQueues hsid
  refine ⟨inv.toReader, hlt, hqueued, inv.readerQueues, ⟨seenW, ?_, { writer with }⟩, ⟨seenR, hseenR, reader⟩⟩
  refine hseenW.trans (congrArg _ ?_)
  simp only [transitToWriter, hqueue, hdrop, append_assoc, singleton_append]

theorem creditSum_le_of_append {ms ns : List (StreamMessage Payload)} :
    creditSum ms ≤ creditSum (ms ++ ns) := by
  rw [creditSum_append]
  exact Nat.le_add_right _ _

theorem Inv.readerStarts {p : Pair Payload} (inv : Inv w r sid p)
    (hstep : StreamHost.step p.reader (.taskStarts s) = some h) : Inv w r sid { p with reader := h } := by
  simp only [StreamHost.step] at hstep
  split at hstep
  case h_2 => cases hstep
  case h_1 source m rest hidle hhead =>
    cases hstep
    obtain ⟨rfl, rfl, hqueued⟩ := dequeue_queued inv.readerQueues hhead
    obtain ⟨seenW, hseenW, writer⟩ := inv.writer
    obtain ⟨seenR, hseenR, reader⟩ := inv.reader
    have hgrows := startTask_grows (p.reader.setQueue s rest) source m
    have htransit : transitToReader r s p =
        m :: (rest.map Prod.snd ++ (sentTo r p.writer.log).drop p.toReader) := by
      simp only [transitToReader, hhead, map_cons, cons_append]
    rcases scripted writer with hnil | ⟨out, done, hscript, hcredit, -⟩
    · rw [hnil, htransit] at hseenR
      simp at hseenR
    · have hnext : seenR ++ [m] <+: script s out done := by
        rw [← hscript, hseenR, htransit]
        exact ⟨_, by rw [append_assoc, singleton_append]⟩
      have hbound : out.length ≤ creditSum (sentTo source p.reader.log) :=
        hcredit.trans (hseenW ▸ creditSum_le_of_append)
      have hreader := (reader.untouched _ p.reader.handlers).startTask (h := p.reader.setQueue s rest)
        hidle hnext hbound
      obtain ⟨new, hnew⟩ := sentTo_prefix (d := source) hgrows.log
      refine ⟨inv.toReader, ?_, inv.writerQueues, ?_, ⟨seenW, ?_, writer⟩, ⟨seenR ++ [m], ?_, hreader⟩⟩
      · rw [hnew, length_append]
        exact inv.toWriter.trans (Nat.le_add_right _ _)
      · simpa only [Queued, hgrows.queues] using hqueued
      · have hmore : transitToWriter source s { p with reader := startTask (p.reader.setQueue s rest) source m } =
            transitToWriter source s p ++ new := by
          have hle : p.toWriter ≤ (sentTo source (p.reader.setQueue s rest).log).length := inv.toWriter
          simp only [transitToWriter, hnew, drop_append_of_le_length hle, append_assoc]
          rfl
        rw [hmore, ← append_assoc, ← hseenW]
        exact hnew
      · refine hseenR.trans ?_
        rw [htransit, transitToReader, hgrows.queues, append_assoc, singleton_append]
        simp only [Host.setQueue, update_self]

theorem Inv.writerStarts {p : Pair Payload} (inv : Inv w r sid p)
    (hstep : StreamHost.step p.writer (.taskStarts s) = some h) : Inv w r sid { p with writer := h } := by
  simp only [StreamHost.step] at hstep
  split at hstep
  case h_2 => cases hstep
  case h_1 source m rest hidle hhead =>
    cases hstep
    obtain ⟨rfl, rfl, hqueued⟩ := dequeue_queued inv.writerQueues hhead
    obtain ⟨seenW, hseenW, writer⟩ := inv.writer
    obtain ⟨seenR, hseenR, reader⟩ := inv.reader
    have hgrows := startTask_grows (p.writer.setQueue s rest) source m
    have htransit : transitToWriter w s p =
        m :: (rest.map Prod.snd ++ (sentTo w p.reader.log).drop p.toWriter) := by
      simp only [transitToWriter, hhead, map_cons, cons_append]
    have hreply : IsReply s m := by
      refine reader.base.replies m ?_
      rw [hseenW, htransit]
      simp
    have hunqueued : Writer source s (p.writer.setQueue s rest) p.handle (creditSum seenW) := { writer with }
    have hwriter : Writer source s (startTask (p.writer.setQueue s rest) source m) p.handle
        (creditSum (seenW ++ [m])) := by
      have hs : (p.writer.setQueue s rest).stopped = false := writer.stopped
      rw [startTask, hs, creditSum_append]
      cases m with
      | «open» | chunk | close => exact hreply.elim
      | credit s' credit =>
        obtain rfl : s' = s := hreply
        simpa [creditSum, creditOf, handleStreamMessage] using hunqueued.handleCredit credit
      | error s' code message =>
        obtain ⟨rfl, -⟩ := hreply
        simpa [creditSum, creditOf, handleStreamMessage] using hunqueued.handleError code
    obtain ⟨new, hnew⟩ := sentTo_prefix (d := source) hgrows.log
    refine ⟨?_, inv.toWriter, ?_, inv.readerQueues, ⟨seenW ++ [m], ?_, hwriter⟩, ⟨seenR, ?_, reader⟩⟩
    · rw [hnew, length_append]
      exact inv.toReader.trans (Nat.le_add_right _ _)
    · simpa only [Queued, hgrows.queues] using hqueued
    · refine hseenW.trans ?_
      rw [htransit, transitToWriter, hgrows.queues, append_assoc, singleton_append]
      simp only [Host.setQueue, update_self]
    · have hmore : transitToReader source s { p with writer := startTask (p.writer.setQueue s rest) source m } =
          transitToReader source s p ++ new := by
        have hle : p.toReader ≤ (sentTo source (p.writer.setQueue s rest).log).length := inv.toReader
        simp only [transitToReader, hnew, drop_append_of_le_length hle, append_assoc]
        rfl
      rw [hmore, ← append_assoc, ← hseenR]
      exact hnew

theorem reader_grows {h' : Host Payload} (ha : readerMay a = true)
    (htask : ∀ s, a ≠ .taskStarts s) (hstep : StreamHost.step h a = some h') : Grows h h' := by
  cases a with
  | subscribe handler | unsubscribe handler =>
    cases hstep
    exact ⟨prefix_rfl, rfl⟩
  | taskStarts s => exact absurd rfl (htask s)
  | handlerReturned s consumer =>
    simp only [StreamHost.step] at hstep
    split at hstep
    · exact handlerReturned_grows hstep
    · cases hstep
  | handlerThrew s =>
    simp only [StreamHost.step] at hstep
    split at hstep
    · cases hstep
      exact (hostError_frame h _).grows.trans (setHandling_grows _ s none)
    · cases hstep
  | chunkSettled s failure =>
    simp only [StreamHost.step] at hstep
    split at hstep
    · cases hstep
      exact chunkSettled_grows h s _ _ _ _ failure
    · cases hstep
  | callbackSettled s ok => exact callbackSettled_grows hstep
  | sendSettled s ok =>
    simp only [StreamHost.step] at hstep
    split at hstep
    · cases hstep
      refine Grows.trans ?_ (setHandling_grows _ s none)
      split
      · exact .refl h
      · exact (hostError_frame h _).grows
    · cases hstep
  | «open» | openSettled | write | close | error | drainSettled | receive | stop | stopResumes => cases ha

theorem Inv.reader_step {p : Pair Payload} (inv : Inv w r sid p)
    (ha : readerMay a = true) (hstep : StreamHost.step p.reader a = some h) :
    Inv w r sid { p with reader := h } := by
  by_cases htask : ∃ s, a = .taskStarts s
  · obtain ⟨s, rfl⟩ := htask
    exact inv.readerStarts hstep
  · replace htask (s) : a ≠ .taskStarts s := fun hs => htask ⟨s, hs⟩
    exact inv.readerMoved (reader_grows ha htask hstep) fun seen hr => hr.step ha htask hstep

theorem Inv.writer_step {p : Pair Payload} (inv : Inv w r sid p)
    (ha : writerMay r sid p a = true) (hstep : StreamHost.step p.writer a = some h) :
    Inv w r sid { p with writer := h, handle := p.handle || returned a } := by
  have same (hreturned : returned a = false) : (p.handle || returned a) = p.handle := by
    rw [hreturned, Bool.or_false]
  cases a with
  | subscribe handler | unsubscribe handler =>
    cases hstep
    rw [same rfl]
    exact inv.writerMoved ⟨prefix_rfl, rfl⟩ fun _ hw => { hw with }
  | «open» destination s =>
    cases hstep
    simp only [writerMay, Bool.and_eq_true, decide_eq_true_eq] at ha
    obtain ⟨⟨rfl, rfl⟩, hfresh⟩ := ha
    rw [same rfl]
    exact inv.writerMoved (open_grows _ _ _) fun _ hw => hw.open_ hfresh
  | openSettled s ok =>
    simp only [StreamHost.step, ite_none_right_eq_some, Option.some.injEq] at hstep
    obtain ⟨hopening, rfl⟩ := hstep
    refine inv.writerMoved (openSettled_frame _ s ok).grows fun _ hw => ?_
    have hs : s = sid := by
      rcases hw.opening with h0 | ⟨h1, -⟩
      · simp [h0] at hopening
      · simpa [h1] using hopening
    exact hs ▸ hw.openSettled (hs ▸ hopening) ok
  | write s payload =>
    cases hstep
    simp only [writerMay, Bool.and_eq_true, decide_eq_true_eq] at ha
    obtain ⟨rfl, hhandle⟩ := ha
    rw [same rfl]
    refine inv.writerMoved ((wrote_frame _ s payload).trans (write_frame _ s payload)).grows fun _ hw => ?_
    rw [hhandle] at hw ⊢
    exact hw.write payload
  | close s =>
    cases hstep
    simp only [writerMay, Bool.and_eq_true, decide_eq_true_eq] at ha
    obtain ⟨rfl, hhandle⟩ := ha
    rw [same rfl]
    refine inv.writerMoved ((closeCalled_frame _ s).trans (closeOutgoing_frame _ s)).grows fun _ hw => ?_
    rw [hhandle] at hw ⊢
    exact hw.close
  | drainSettled i ok =>
    simp only [StreamHost.step, ite_none_right_eq_some, Option.some.injEq] at hstep
    obtain ⟨hdraining, rfl⟩ := hstep
    rw [same rfl]
    exact inv.writerMoved (drainSettled_frame _ i ok).grows fun _ hw => hw.drainSettled hdraining ok
  | taskStarts s =>
    rw [same rfl]
    exact inv.writerStarts hstep
  | error | receive | handlerReturned | handlerThrew | chunkSettled | callbackSettled | sendSettled | stop
  | stopResumes => cases ha

theorem Inv.step {p : Pair Payload} {move : Move Payload} (inv : Inv w r sid p)
    (hstep : step w r sid p move = some p') : Inv w r sid p' := by
  cases move with
  | writer a =>
    simp only [StreamPair.step, ite_none_right_eq_some, map_eq_some_iff] at hstep
    obtain ⟨ha, h, hhost, rfl⟩ := hstep
    exact inv.writer_step ha hhost
  | reader a =>
    simp only [StreamPair.step, ite_none_right_eq_some, map_eq_some_iff] at hstep
    obtain ⟨ha, h, hhost, rfl⟩ := hstep
    exact inv.reader_step ha hhost
  | deliverToReader => exact inv.deliverToReader hstep
  | deliverToWriter => exact inv.deliverToWriter hstep

variable {p : Pair Payload}

theorem Inv.inOrder (inv : Inv w r sid p) : started p.reader.log <+: written sid p.writer.log := by
  obtain ⟨seenW, -, writer⟩ := inv.writer
  obtain ⟨seenR, hseenR, reader⟩ := inv.reader
  rw [reader.base.started]
  rcases scripted writer with hnil | ⟨out, done, hscript, -, f⟩
  · rw [(append_eq_nil_iff.mp (hseenR.symm.trans hnil)).1]
    exact nil_prefix
  · have hout : payloadsOf seenR ++ payloadsOf (transitToReader r sid p) = out := by
      rw [← payloadsOf_append, ← hseenR, hscript, payloadsOf_script]
    exact (prefix_append _ _).trans (hout ▸ (prefix_append _ _).trans f.accepted)

theorem Inv.closed (inv : Inv w r sid p) (hclose : CloseStarted p.reader.log) :
    .closeCalled sid ∈ p.writer.log ∧ consumed p.reader.log = writtenBeforeClose sid p.writer.log := by
  obtain ⟨seenW, -, writer⟩ := inv.writer
  obtain ⟨seenR, hseenR, reader⟩ := inv.reader
  rcases scripted writer with hnil | ⟨out, done, hscript, -, f⟩
  · have hseen : seenR <+: script sid [] false := by
      rw [(append_eq_nil_iff.mp (hseenR.symm.trans hnil)).1]
      exact nil_prefix
    cases (reader.ended hclose hseen).2
  · have hseen : seenR <+: script sid out done := hscript ▸ ⟨_, hseenR.symm⟩
    obtain ⟨hconsumed, rfl⟩ := reader.ended hclose hseen
    exact ⟨f.called rfl, hconsumed.trans (f.finished rfl)⟩

theorem Inv.credit (inv : Inv w r sid p) : unspentCredit p + creditInFlight w sid p +
    chunksInFlight r sid p + chunksConsuming sid p ≤ p.reader.initialCredit := by
  obtain ⟨seenW, hseenW, writer⟩ := inv.writer
  obtain ⟨seenR, hseenR, reader⟩ := inv.reader
  have hbalance := reader.balance
  have hsent : unspentCredit p + (payloadsOf (sentTo r p.writer.log)).length ≤ creditSum seenW := by
    by_cases h0 : p.writer.nextOutgoing = 0
    · obtain ⟨-, -, hnil, hcredit⟩ := writer.fresh h0
      simp [unspentCredit, hcredit, hnil, payloadsOf]
    · obtain ⟨-, -, -, -, out, done, f⟩ := writer.opened h0
      have hpayloads := payloadsOf_script sid out done
      rw [f.sent, ← script, hpayloads]
      exact f.credit
  rw [hseenR, payloadsOf_append, length_append] at hsent
  rw [hseenW, creditSum_append] at hbalance
  simp only [creditInFlight, chunksInFlight, chunksConsuming]
  omega

/-- One stream between two hosts, along every run without stop and without
consumer failure: chunks reach the consumer in the order of the writes, no
ordering error arises, the end comes after every earlier write was consumed,
and the credit in the system never exceeds the initial credit. -/
theorem stream_delivery {writerCredit readerCredit : Option ℚ} {moves : List (Move Payload)}
    (hrun : exec (StreamPair.step w r sid) (init writerCredit readerCredit) moves = some p) :
    started p.reader.log <+: written sid p.writer.log ∧
      (Faultless p.writer.log ∧ Faultless p.reader.log) ∧
      (CloseStarted p.reader.log →
        .closeCalled sid ∈ p.writer.log ∧ consumed p.reader.log = writtenBeforeClose sid p.writer.log) ∧
      unspentCredit p + creditInFlight w sid p + chunksInFlight r sid p + chunksConsuming sid p ≤
        p.reader.initialCredit := by
  have inv : Inv w r sid p := exec_invariant (fun _ _ _ hi hstep => hi.step hstep) (init_inv _ _) hrun
  obtain ⟨seenW, -, writer⟩ := inv.writer
  obtain ⟨seenR, -, reader⟩ := inv.reader
  exact ⟨inv.inOrder, ⟨writer.faultless, reader.base.faultless⟩, inv.closed, inv.credit⟩

def closedRun : List (Move Nat) :=
  [.reader (.subscribe 0), .writer (.open "b" "s"), .writer (.openSettled "s" true),
    .writer (.write "s" 7), .writer (.close "s"), .deliverToReader, .reader (.taskStarts "s"),
    .reader (.handlerReturned "s" (some ⟨true, true⟩)), .reader (.sendSettled "s" true),
    .deliverToWriter, .writer (.taskStarts "s"), .writer (.drainSettled 0 true), .deliverToReader,
    .reader (.taskStarts "s"), .reader (.chunkSettled "s" none), .reader (.sendSettled "s" true),
    .deliverToReader, .reader (.taskStarts "s")]

theorem closedRun_delivery : ∃ p, exec (StreamPair.step "a" "b" "s") (init none none) closedRun = some p ∧
    CloseStarted p.reader.log ∧ started p.reader.log = [7] ∧
      started p.reader.log <+: written "s" p.writer.log ∧
      consumed p.reader.log = writtenBeforeClose "s" p.writer.log :=
  have hrun : exec (StreamPair.step "a" "b" "s") (init none none) closedRun = some _ := rfl
  have hdelivery := stream_delivery hrun
  ⟨_, rfl, ⟨0, by decide⟩, rfl, hdelivery.1, (hdelivery.2.2.1 ⟨0, by decide⟩).2⟩

end ActorWeb.StreamPair
