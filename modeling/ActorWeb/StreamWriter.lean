import ActorWeb.StreamFrame
import Mathlib.Data.List.TakeWhile

namespace ActorWeb.StreamWriter

open Function List StreamHost

variable {Payload : Type}

def sentTo (destination : String) (log : List (Event Payload)) : List (StreamMessage Payload) :=
  log.filterMap fun
    | .sendStarted d m => if d = destination then some m else none
    | _ => none

def written (sid : String) (log : List (Event Payload)) : List Payload :=
  log.filterMap fun
    | .wrote s payload => if s = sid then some payload else none
    | _ => none

def isCloseOf (sid : String) : Event Payload → Bool
  | .closeCalled s => s = sid
  | _ => false

def writtenBeforeClose (sid : String) (log : List (Event Payload)) : List Payload :=
  written sid (log.takeWhile fun e => !isCloseOf sid e)

def chunksFrom (sid : String) : Nat → List Payload → List (StreamMessage Payload)
  | _, [] => []
  | n, payload :: rest => .chunk sid n payload :: chunksFrom sid (n + 1) rest

def creditOf : StreamMessage Payload → Nat
  | .credit _ credit => normalizePositiveInteger credit 0
  | _ => 0

def creditSum (ms : List (StreamMessage Payload)) : Nat := (ms.map creditOf).sum

theorem chunksFrom_append (sid : String) (n : Nat) (ps qs : List Payload) :
    chunksFrom sid n (ps ++ qs) = chunksFrom sid n ps ++ chunksFrom sid (n + ps.length) qs := by
  induction ps generalizing n with
  | nil => rfl
  | cons p ps ih =>
    simp only [cons_append, chunksFrom, ih, length_cons, Nat.add_assoc, Nat.add_comm 1]

theorem chunksFrom_concat (sid : String) (ps : List Payload) (p : Payload) :
    chunksFrom sid 1 (ps ++ [p]) = chunksFrom sid 1 ps ++ [.chunk sid (ps.length + 1) p] := by
  rw [chunksFrom_append, Nat.add_comm 1]
  rfl

theorem sentTo_append (d : String) (log new : List (Event Payload)) :
    sentTo d (log ++ new) = sentTo d log ++ sentTo d new := filterMap_append

theorem written_append (sid : String) (log new : List (Event Payload)) :
    written sid (log ++ new) = written sid log ++ written sid new := filterMap_append

theorem creditSum_append (ms ns : List (StreamMessage Payload)) :
    creditSum (ms ++ ns) = creditSum ms + creditSum ns := by
  simp [creditSum]

theorem closeCalled_not_mem {sid : String} {log : List (Event Payload)} (h : .closeCalled sid ∉ log) :
    ∀ e ∈ log, (!isCloseOf sid e) = true := by
  intro e he
  cases e <;> simp only [isCloseOf, Bool.not_false, Bool.not_eq_true', decide_eq_false_iff_not]
  rintro rfl
  exact h he

theorem writtenBeforeClose_closing {sid : String} {log : List (Event Payload)}
    (h : .closeCalled sid ∉ log) :
    writtenBeforeClose sid (log ++ [.closeCalled sid]) = written sid log := by
  rw [writtenBeforeClose, takeWhile_append_of_pos (closeCalled_not_mem h)]
  simp [isCloseOf]

theorem writtenBeforeClose_append {sid : String} {log : List (Event Payload)} (h : .closeCalled sid ∈ log)
    (new : List (Event Payload)) : writtenBeforeClose sid (log ++ new) = writtenBeforeClose sid log := by
  have hne : (log.takeWhile fun e => !isCloseOf sid e).length ≠ log.length := by
    intro heq
    have hself := ( takeWhile_prefix fun e => !isCloseOf sid e).eq_of_length heq
    have := takeWhile_eq_self_iff.mp hself _ h
    simp [isCloseOf] at this
  rw [writtenBeforeClose, takeWhile_append, if_neg hne, writtenBeforeClose]

variable (r sid : String)

/-- What the writing side of a stream has done with its writes: `out` is what
it has sent, and `done` says that it has announced the end. -/
structure Flow (o : OutgoingStreamState Payload) (log : List (Event Payload)) (credits : Nat)
    (out : List Payload) (done : Bool) : Prop where
  sent : sentTo r log = .open sid :: chunksFrom sid 1 out ++ if done then [.close sid] else []
  sequence : o.nextSequence = out.length + 1
  closed : done = true → o.closed = true
  dropped : o.closed = true → o.pendingWrites = []
  accepted : out ++ o.pendingWrites <+: written sid log
  writing : o.closed = false → o.closeRequested = false →
    out ++ o.pendingWrites = written sid log ∧ .closeCalled sid ∉ log
  closing : o.closed = false → o.closeRequested = true →
    out ++ o.pendingWrites = writtenBeforeClose sid log
  finished : done = true → out = writtenBeforeClose sid log
  requested : o.closeRequested = true → .closeCalled sid ∈ log
  called : done = true → .closeCalled sid ∈ log
  credit : o.credit + out.length ≤ credits

namespace Flow

variable {r sid} {o : OutgoingStreamState Payload} {log : List (Event Payload)} {credits : Nat}
  {out : List Payload} {done : Bool}

theorem flushing (f : Flow r sid o log credits out done) (b : Bool) :
    Flow r sid { o with flushing := b } log credits out done := { f with }

theorem fail (f : Flow r sid o log credits out done) :
    Flow r sid { o with closed := true, pendingWrites := [] } log credits out done where
  sent := f.sent
  sequence := f.sequence
  closed _ := rfl
  dropped _ := rfl
  accepted := by
    rw [append_nil]
    exact (prefix_append _ _).trans f.accepted
  writing h := by cases h
  closing h := by cases h
  finished := f.finished
  requested := f.requested
  called := f.called
  credit := f.credit

theorem send (f : Flow r sid o log credits out done) (hc : o.closed = false) {p : Payload}
    {rest : List Payload} (hp : o.pendingWrites = p :: rest) (hcredit : 0 < o.credit) :
    Flow r sid { o with pendingWrites := rest, nextSequence := o.nextSequence + 1, credit := o.credit - 1 }
      (log ++ [.sendStarted r (.chunk sid o.nextSequence p)]) credits (out ++ [p]) false := by
  have hdone : done = false := by
    cases hd : done with
    | false => rfl
    | true => rw [f.closed hd] at hc; cases hc
  have hlog : written sid (log ++ [.sendStarted r (.chunk sid o.nextSequence p)]) = written sid log := by
    simp [written]
  have happend : out ++ [p] ++ rest = out ++ o.pendingWrites := by
    rw [hp, append_assoc, singleton_append]
  constructor
  · rw [sentTo_append, f.sent, chunksFrom_concat, hdone, f.sequence]
    simp [sentTo]
  · simp [f.sequence]
  · simp
  · simp [hc]
  · rw [hlog, happend]
    exact f.accepted
  · intro _ hr
    obtain ⟨hall, hnot⟩ := f.writing hc hr
    exact ⟨by rw [hlog, happend, hall], by simpa using hnot⟩
  · intro _ hr
    rw [writtenBeforeClose_append (f.requested hr), happend]
    exact f.closing hc hr
  · simp
  · exact fun hr => mem_append_left _ (f.requested hr)
  · simp
  · have hbound := f.credit
    simp only [length_append, length_singleton]
    omega

theorem finish (f : Flow r sid o log credits out done) (hc : o.closed = false)
    (hr : o.closeRequested = true) (hp : o.pendingWrites = []) :
    Flow r sid { o with closed := true } (log ++ [.sendStarted r (.close sid)]) credits out true := by
  have hdone : done = false := by
    cases hd : done with
    | false => rfl
    | true => rw [f.closed hd] at hc; cases hc
  have hcalled := f.requested hr
  constructor
  · rw [sentTo_append, f.sent, hdone]
    simp [sentTo]
  · exact f.sequence
  · exact fun _ => rfl
  · exact fun _ => hp
  · simpa [written] using f.accepted
  · intro h
    cases h
  · intro h
    cases h
  · intro _
    rw [writtenBeforeClose_append hcalled, ← f.closing hc hr, hp, append_nil]
  · exact fun _ => mem_append_left _ hcalled
  · exact fun _ => mem_append_left _ hcalled
  · exact f.credit

theorem reject (f : Flow r sid o log credits out done) (h : o.closed = true ∨ o.closeRequested = true)
    (p : Payload) : Flow r sid o (log ++ [.wrote sid p]) credits out done := by
  constructor
  · rw [sentTo_append, f.sent]
    simp [sentTo]
  · exact f.sequence
  · exact f.closed
  · exact f.dropped
  · rw [written_append]
    exact f.accepted.trans (prefix_append _ _)
  · intro hc hr
    simp [hc, hr] at h
  · intro hc hr
    rw [writtenBeforeClose_append (f.requested hr)]
    exact f.closing hc hr
  · intro hd
    rw [writtenBeforeClose_append (f.called hd)]
    exact f.finished hd
  · exact fun hr => mem_append_left _ (f.requested hr)
  · exact fun hd => mem_append_left _ (f.called hd)
  · exact f.credit

theorem accept (f : Flow r sid o log credits out done) (hc : o.closed = false)
    (hr : o.closeRequested = false) (p : Payload) :
    Flow r sid { o with pendingWrites := o.pendingWrites ++ [p] } (log ++ [.wrote sid p]) credits out
      done := by
  obtain ⟨hall, hnot⟩ := f.writing hc hr
  have hwritten : out ++ (o.pendingWrites ++ [p]) = written sid (log ++ [.wrote sid p]) := by
    rw [written_append, ← hall, append_assoc]
    simp [written]
  constructor
  · rw [sentTo_append, f.sent]
    simp [sentTo]
  · exact f.sequence
  · exact f.closed
  · intro h
    rw [hc] at h
    cases h
  · exact hwritten ▸ prefix_rfl
  · exact fun _ _ => ⟨hwritten, by simpa using hnot⟩
  · intro _ h
    rw [hr] at h
    cases h
  · intro hd
    rw [f.closed hd] at hc
    cases hc
  · intro h
    rw [hr] at h
    cases h
  · exact fun hd => mem_append_left _ (f.called hd)
  · exact f.credit

theorem close (f : Flow r sid o log credits out done) (b : Bool)
    (h : o.closed = false → o.closeRequested = false → b = true) :
    Flow r sid { o with closeRequested := b || o.closeRequested } (log ++ [.closeCalled sid]) credits out
      done := by
  constructor
  · rw [sentTo_append, f.sent]
    simp [sentTo]
  · exact f.sequence
  · exact f.closed
  · exact f.dropped
  · simpa [written] using f.accepted
  · intro hc hr
    simp only [Bool.or_eq_false_iff] at hr
    rw [h hc hr.2] at hr
    cases hr.1
  · intro hc _
    by_cases hr : o.closeRequested = true
    · rw [writtenBeforeClose_append (f.requested hr)]
      exact f.closing hc hr
    · obtain ⟨hall, hnot⟩ := f.writing hc (Bool.eq_false_iff.mpr hr)
      rw [writtenBeforeClose_closing hnot]
      exact hall
  · intro hd
    rw [writtenBeforeClose_append (f.called hd)]
    exact f.finished hd
  · exact fun _ => by simp
  · exact fun _ => by simp
  · exact f.credit

theorem gain (f : Flow r sid o log credits out done) (n : Nat) :
    Flow r sid { o with credit := o.credit + n } log (credits + n) out done :=
  { f with credit := by have := f.credit; simp only; omega }

theorem mono (f : Flow r sid o log credits out done) {more : Nat} (h : credits ≤ more) :
    Flow r sid o log more out done := { f with credit := f.credit.trans h }

end Flow

/-- The event reports one of the two errors that a broken order of chunks causes. -/
def Misordered : Event Payload → Prop
  | .errorStarted _ code | .hostError code | .sendStarted _ (.error _ code _) =>
    code = "sequence_mismatch" ∨ code = "unknown_stream"
  | _ => False

def Faultless (log : List (Event Payload)) : Prop := ∀ e ∈ log, ¬ Misordered e

theorem faultless_append {log new : List (Event Payload)} :
    Faultless (log ++ new) ↔ Faultless log ∧ Faultless new := by
  simp only [Faultless, mem_append, or_imp, forall_and]

def Stage (h : Host Payload) (credits : Nat) : Prop :=
  (h.outgoing 0).streamId = sid ∧ (h.outgoing 0).destination = r ∧
    (h.outgoing 0).closePending = (h.outgoing 0).closeRequested ∧
      ∃ out done, Flow r sid (h.outgoing 0) h.log credits out done

/-- Only the outgoing stream moved on, without new calls by a user who has no `handle` on it. -/
structure Moves (handle : Bool) (h h' : Host Payload) : Prop where
  stopped : h'.stopped = h.stopped
  running : h'.running = h.running
  incomingStreams : h'.incomingStreams = h.incomingStreams
  nextOutgoing : h'.nextOutgoing = h.nextOutgoing
  opening : h'.opening = h.opening
  queues : h'.streamMessageQueues = h.streamMessageQueues
  map : ∀ s i, h'.outgoingStreams.get s = some i → h.outgoingStreams.get s = some i
  kept : (h'.outgoing 0).closed = false →
    (h.outgoing 0).closed = false ∧ h'.outgoingStreams = h.outgoingStreams
  draining : ∀ i, h'.draining i = true → h.draining i = true ∨ i = 0
  log : ∃ new, h'.log = h.log ++ new ∧ Faultless new ∧
    (handle = false → written sid new = [] ∧ .closeCalled sid ∉ new)

variable {r sid} {handle : Bool} {h h' h'' : Host Payload} {credits : Nat}

theorem Moves.refl (h : Host Payload) : Moves sid handle h h :=
  ⟨rfl, rfl, rfl, rfl, rfl, rfl, fun _ _ => id, fun hc => ⟨hc, rfl⟩, fun _ => .inl,
    [], by simp [Faultless, written]⟩

theorem Moves.trans (a : Moves sid handle h h') (b : Moves sid handle h' h'') : Moves sid handle h h'' := by
  obtain ⟨new, hnew, hfault, hquiet⟩ := a.log
  obtain ⟨more, hmore, hfault', hquiet'⟩ := b.log
  refine ⟨b.stopped.trans a.stopped, b.running.trans a.running, b.incomingStreams.trans a.incomingStreams,
    b.nextOutgoing.trans a.nextOutgoing, b.opening.trans a.opening, b.queues.trans a.queues,
    fun s i hi => a.map s i (b.map s i hi), fun hc => ?_, fun i hi => ?_, new ++ more, ?_,
    faultless_append.mpr ⟨hfault, hfault'⟩, fun hh => ?_⟩
  · obtain ⟨hc', hmap⟩ := b.kept hc
    exact ⟨(a.kept hc').1, hmap.trans (a.kept hc').2⟩
  · exact (b.draining i hi).elim (a.draining i) .inr
  · rw [hmore, hnew, append_assoc]
  · rw [written_append, (hquiet hh).1, (hquiet' hh).1, mem_append, not_or]
    exact ⟨rfl, (hquiet hh).2, (hquiet' hh).2⟩

theorem modify_moves (h : Host Payload) {f : OutgoingStreamState Payload → OutgoingStreamState Payload}
    (hf : (f (h.outgoing 0)).closed = (h.outgoing 0).closed) : Moves sid handle h (h.modifyOutgoing 0 f) :=
  { Moves.refl h with kept := fun hc => ⟨by simpa [Host.modifyOutgoing, hf] using hc, rfl⟩ }

theorem emit_moves (h : Host Payload) {e : Event Payload} (hfault : ¬ Misordered e)
    (hquiet : handle = false → written sid [e] = [] ∧ .closeCalled sid ∉ [e]) :
    Moves sid handle h (h.emit e) :=
  { (Moves.refl h : Moves sid handle h h) with
    log := ⟨[e], rfl, by simpa [Faultless] using hfault, hquiet⟩ }

theorem send_moves (h : Host Payload) (m : StreamMessage Payload)
    (hm : ¬ Misordered (.sendStarted r m)) : Moves sid handle h (h.send r m) :=
  emit_moves h hm fun _ => ⟨rfl, by simp⟩

theorem end_moves (h : Host Payload) {f : OutgoingStreamState Payload → OutgoingStreamState Payload}
    (s : String) (hf : (f (h.outgoing 0)).closed = true) :
    Moves sid handle h ((h.modifyOutgoing 0 f).deleteOutgoing s) := by
  refine { Moves.refl h with map := fun s' i hi => ?_, kept := fun hc => ?_ }
  · simp only [Host.deleteOutgoing, Host.modifyOutgoing, OrderedMap.get_delete] at hi
    split at hi
    · cases hi
    · exact hi
  · simp [Host.deleteOutgoing, Host.modifyOutgoing, hf] at hc

theorem setDraining_moves (h : Host Payload) (d : Bool) : Moves sid handle h (h.setDraining 0 d) := by
  refine { (Moves.refl h : Moves sid handle h h) with draining := fun i hi => ?_ }
  by_cases h0 : i = 0
  · exact .inr h0
  · exact .inl (by simpa [Host.setDraining, h0] using hi)

theorem finishCloseIfReady_stage (hs : Stage r sid h credits) :
    Stage r sid (finishCloseIfReady h 0) credits ∧ Moves sid handle h (finishCloseIfReady h 0) := by
  obtain ⟨hsid, hdest, hpend, out, done, f⟩ := hs
  unfold finishCloseIfReady
  split
  case isTrue => exact ⟨⟨hsid, hdest, hpend, out, done, f⟩, .refl h⟩
  case isFalse hready =>
    simp only [Bool.or_eq_true, Bool.not_eq_true', not_or, Bool.not_eq_true, Bool.not_eq_false,
      List.isEmpty_iff] at hready
    obtain ⟨⟨⟨hc, hr⟩, -⟩, hp⟩ := hready
    constructor
    · refine ⟨?_, ?_, ?_, out, true, ?_⟩
      all_goals simp only [Host.send, Host.emit, Host.deleteOutgoing, Host.modifyOutgoing, update_self]
      · exact hsid
      · exact hdest
      · exact hpend
      · simpa only [hsid, hdest] using f.finish hc hr hp
    · exact (end_moves h _ rfl).trans (send_moves _ _ id)

theorem leaveDrain_stage (hs : Stage r sid h credits) :
    Stage r sid (leaveDrain h 0) credits ∧ Moves sid handle h (leaveDrain h 0) := by
  obtain ⟨hsid, hdest, hpend, out, done, f⟩ := hs
  have hstage : Stage r sid (h.modifyOutgoing 0 fun o => { o with flushing := false }) credits := by
    refine ⟨?_, ?_, ?_, out, done, ?_⟩
    all_goals simp only [Host.modifyOutgoing, update_self]
    · exact hsid
    · exact hdest
    · exact hpend
    · exact f.flushing false
  obtain ⟨hfin, hmoves⟩ := finishCloseIfReady_stage hstage
  exact ⟨hfin, (modify_moves h rfl).trans hmoves⟩

theorem drainOutgoing_stage (hs : Stage r sid h credits) :
    Stage r sid (drainOutgoing h 0) credits ∧ Moves sid handle h (drainOutgoing h 0) := by
  unfold drainOutgoing
  split
  case h_1 payload rest hp =>
    split
    case isTrue hready =>
      obtain ⟨hsid, hdest, hpend, out, done, f⟩ := hs
      simp only [Bool.and_eq_true, Bool.not_eq_true', decide_eq_true_eq] at hready
      constructor
      · refine ⟨?_, ?_, ?_, out ++ [payload], false, ?_⟩
        all_goals simp only [Host.send, Host.emit, Host.setDraining, Host.modifyOutgoing, update_self]
        · exact hsid
        · exact hdest
        · exact hpend
        · simpa only [hsid, hdest] using f.send hready.1 hp hready.2
      · exact ((modify_moves h rfl).trans (setDraining_moves _ true)).trans (send_moves _ _ id)
    case isFalse => exact leaveDrain_stage hs
  case h_2 => exact leaveDrain_stage hs

theorem flushOutgoing_stage (hs : Stage r sid h credits) :
    Stage r sid (flushOutgoing h 0) credits ∧ Moves sid handle h (flushOutgoing h 0) := by
  unfold flushOutgoing
  split
  case isTrue => exact ⟨hs, .refl h⟩
  case isFalse =>
    obtain ⟨hsid, hdest, hpend, out, done, f⟩ := hs
    have hstage : Stage r sid (h.modifyOutgoing 0 fun o => { o with flushing := true }) credits := by
      refine ⟨?_, ?_, ?_, out, done, ?_⟩
      all_goals simp only [Host.modifyOutgoing, update_self]
      · exact hsid
      · exact hdest
      · exact hpend
      · exact f.flushing true
    obtain ⟨hfin, hmoves⟩ := drainOutgoing_stage hstage
    exact ⟨hfin, (modify_moves h rfl).trans hmoves⟩

theorem failOutgoingState_stage (hs : Stage r sid h credits) :
    Stage r sid (failOutgoingState h 0) credits ∧ Moves sid handle h (failOutgoingState h 0) := by
  obtain ⟨hsid, hdest, hpend, out, done, f⟩ := hs
  constructor
  · refine ⟨?_, ?_, ?_, out, done, ?_⟩
    all_goals simp only [failOutgoingState, Host.deleteOutgoing, Host.modifyOutgoing, update_self]
    · exact hsid
    · exact hdest
    · exact hpend
    · exact f.fail
  · exact end_moves h _ rfl

theorem drainSettled_stage (hs : Stage r sid h credits) (ok : Bool) :
    Stage r sid (drainSettled h 0 ok) credits ∧ Moves sid handle h (drainSettled h 0 ok) := by
  have hstart : Stage r sid (h.setDraining 0 false) credits := hs
  have hmoves : Moves sid handle h (h.setDraining 0 false) := setDraining_moves h false
  unfold drainSettled
  split
  case isTrue =>
    obtain ⟨hstage, hdrain⟩ := drainOutgoing_stage hstart
    exact ⟨hstage, hmoves.trans hdrain⟩
  case isFalse =>
    obtain ⟨hfailed, hfail⟩ := failOutgoingState_stage hstart
    obtain ⟨hstage, hleave⟩ := leaveDrain_stage hfailed
    exact ⟨hstage, (hmoves.trans hfail).trans hleave⟩

variable (r sid) in
/-- The invariant of the writing host; `handle` says that `open` has returned
the stream, and `credits` is what the credit messages handled so far add up to. -/
structure Writer (h : Host Payload) (handle : Bool) (credits : Nat) : Prop where
  stopped : h.stopped = false
  idle : ∀ s, h.running s = none
  incoming : ∀ s, h.incomingStreams.get s = none
  map : ∀ s i, h.outgoingStreams.get s = some i → s = sid ∧ i = 0 ∧ h.nextOutgoing = 1
  draining : ∀ i, h.draining i = true → i = 0 ∧ h.nextOutgoing = 1
  fresh : h.nextOutgoing = 0 → handle = false ∧ h.opening = [] ∧ sentTo r h.log = [] ∧
    (h.outgoing 0).credit = 0
  opened : h.nextOutgoing ≠ 0 → h.nextOutgoing = 1 ∧ Stage r sid h credits
  unwritten : handle = false → written sid h.log = [] ∧ .closeCalled sid ∉ h.log
  opening : h.opening = [] ∨ h.opening = [sid] ∧ handle = false
  kept : handle = true ∨ h.opening ≠ [] → (h.outgoing 0).closed = false →
    h.outgoingStreams.get sid = some 0
  faultless : Faultless h.log

namespace Writer

theorem moved (w : Writer r sid h handle credits) {more : Nat} (hnext : h.nextOutgoing = 1)
    (hs : Stage r sid h' more) (m : Moves sid handle h h') : Writer r sid h' handle more := by
  obtain ⟨new, hnew, hfault, hquiet⟩ := m.log
  constructor
  · rw [m.stopped, w.stopped]
  · rw [m.running]
    exact w.idle
  · rw [m.incomingStreams]
    exact w.incoming
  · intro s i hi
    rw [m.nextOutgoing]
    exact w.map s i (m.map s i hi)
  · intro i hi
    rw [m.nextOutgoing]
    exact (m.draining i hi).elim (w.draining i) fun h0 => ⟨h0, hnext⟩
  · intro h0
    rw [m.nextOutgoing, hnext] at h0
    cases h0
  · intro _
    exact ⟨m.nextOutgoing.trans hnext, hs⟩
  · intro hh
    obtain ⟨hw, hc⟩ := w.unwritten hh
    rw [hnew, written_append, hw, (hquiet hh).1, mem_append, not_or]
    exact ⟨rfl, hc, (hquiet hh).2⟩
  · rw [m.opening]
    exact w.opening
  · intro hh hc
    obtain ⟨hc', hmap⟩ := m.kept hc
    rw [m.opening] at hh
    rw [hmap]
    exact w.kept hh hc'
  · rw [hnew, faultless_append]
    exact ⟨w.faultless, hfault⟩

theorem create (credit : Option ℚ) : Writer r sid (create credit : Host Payload) false 0 where
  stopped := rfl
  idle _ := rfl
  incoming _ := rfl
  map := nofun
  draining := nofun
  fresh _ := ⟨rfl, rfl, rfl, rfl⟩
  opened h0 := absurd rfl h0
  unwritten _ := ⟨rfl, nofun⟩
  opening := .inl rfl
  kept h0 := by simp [StreamHost.create] at h0
  faultless := nofun

theorem mono (w : Writer r sid h handle credits) {more : Nat} (hle : credits ≤ more) :
    Writer r sid h handle more := by
  refine { w with opened := fun hne => ?_ }
  obtain ⟨hnext, hsid, hdest, hpend, out, done, f⟩ := w.opened hne
  exact ⟨hnext, hsid, hdest, hpend, out, done, f.mono hle⟩

theorem open_ (w : Writer r sid h handle credits) (hfresh : h.nextOutgoing = 0) :
    Writer r sid (StreamHost.open_ h r sid) handle credits := by
  obtain ⟨rfl, hopening, hsent, -⟩ := w.fresh hfresh
  obtain ⟨hwritten, hcalled⟩ := w.unwritten rfl
  have hmap : h.outgoingStreams.get sid = none := by
    refine Option.eq_none_iff_forall_not_mem.mpr fun i hi => ?_
    have := (w.map sid i hi).2.2
    omega
  have henabled : (h.stopped || h.outgoingStreams.has sid || h.incomingStreams.has sid) = false := by
    simp [w.stopped, OrderedMap.has, hmap, w.incoming]
  have hnone (s) : h.outgoingStreams.get s = none := by
    refine Option.eq_none_iff_forall_not_mem.mpr fun i hi => ?_
    have := (w.map s i hi).2.2
    omega
  have hwritten' : written sid (h.log ++ [.sendStarted r (.open sid)]) = [] := by
    rw [written_append, hwritten]
    rfl
  rw [StreamHost.open_, henabled]
  simp only [Bool.false_eq_true, if_false]
  constructor
  case stopped => exact w.stopped
  case idle => exact w.idle
  case incoming => exact w.incoming
  case map =>
    intro s i hi
    simp only [Host.send, Host.emit, Host.addOutgoing, OrderedMap.get_set, hnone, hfresh] at hi ⊢
    split at hi
    case isTrue heq => exact ⟨heq, (Option.some.inj hi).symm, trivial⟩
    case isFalse => cases hi
  case draining =>
    intro i hi
    have := (w.draining i hi).2
    omega
  case fresh =>
    intro h0
    cases h0
  case opened =>
    intro _
    refine ⟨by simp [Host.send, Host.emit, Host.addOutgoing, hfresh], ?_⟩
    simp only [Stage, Host.send, Host.emit, Host.addOutgoing, hfresh, update_self]
    refine ⟨trivial, trivial, trivial, [], false, ?_⟩
    have hsent' : sentTo r (h.log ++ [.sendStarted r (.open sid)]) = [.open sid] := by
      rw [sentTo_append, hsent]
      simp [sentTo]
    constructor <;> simp [hsent', hwritten', hcalled, chunksFrom]
  case unwritten =>
    intro _
    exact ⟨hwritten', by simpa [Host.send, Host.emit, Host.addOutgoing] using hcalled⟩
  case opening => exact .inr ⟨by simp [Host.send, Host.emit, hopening], rfl⟩
  case kept =>
    intro _ _
    simp [Host.send, Host.emit, Host.addOutgoing, hfresh]
  case faultless =>
    refine faultless_append.mpr ⟨w.faultless, ?_⟩
    simp [Faultless, Misordered]

theorem openSettled (w : Writer r sid h handle credits) (hopening : sid ∈ h.opening) (ok : Bool) :
    Writer r sid (StreamHost.openSettled h sid ok) (handle || ok) credits := by
  obtain ⟨hone, rfl⟩ : h.opening = [sid] ∧ handle = false := by
    refine w.opening.resolve_left fun h0 => ?_
    simp [h0] at hopening
  have hnext : h.nextOutgoing ≠ 0 := fun h0 => by simp [(w.fresh h0).2.1] at hopening
  have hstage := w.opened hnext
  have herase : h.opening.erase sid = [] := by simp [hone]
  cases ok with
  | true =>
    constructor
    case fresh => exact fun h0 => absurd h0 hnext
    case unwritten => exact nofun
    case opening => exact .inl herase
    case kept => exact fun _ hc => w.kept (.inr (by simp [hone])) hc
    case opened => exact fun _ => hstage
    case stopped => exact w.stopped
    case idle => exact w.idle
    case incoming => exact w.incoming
    case map => exact w.map
    case draining => exact w.draining
    case faultless => exact w.faultless
  | false =>
    constructor
    case fresh => exact fun h0 => absurd h0 hnext
    case unwritten => exact fun _ => w.unwritten rfl
    case opening => exact .inl herase
    case kept =>
      rintro (hh | hh)
      · cases hh
      · exact absurd herase hh
    case map =>
      intro s i hi
      have hi' : (h.outgoingStreams.delete sid).get s = some i := hi
      rw [OrderedMap.get_delete] at hi'
      split at hi'
      · cases hi'
      · exact w.map s i hi'
    case opened => exact fun _ => hstage
    case stopped => exact w.stopped
    case idle => exact w.idle
    case incoming => exact w.incoming
    case draining => exact w.draining
    case faultless => exact w.faultless

theorem drainSettled (w : Writer r sid h handle credits) {i : Nat} (hi : h.draining i = true) (ok : Bool) :
    Writer r sid (StreamHost.drainSettled h i ok) handle credits := by
  obtain ⟨rfl, hnext⟩ := w.draining i hi
  obtain ⟨hstage, hmoves⟩ := drainSettled_stage (w.opened (by omega)).2 ok
  exact w.moved hnext hstage hmoves

theorem get_or_closed (w : Writer r sid h true credits) :
    h.nextOutgoing = 1 ∧ (h.outgoingStreams.get sid = some 0 ∨
      h.outgoingStreams.get sid = none ∧ (h.outgoing 0).closed = true) := by
  have hnext : h.nextOutgoing ≠ 0 := fun h0 => by cases (w.fresh h0).1
  refine ⟨(w.opened hnext).1, ?_⟩
  cases hg : h.outgoingStreams.get sid with
  | some i => exact .inl (by rw [(w.map sid i hg).2.1])
  | none =>
    refine .inr ⟨rfl, ?_⟩
    by_contra hc
    have := w.kept (.inl rfl) (Bool.eq_false_iff.mpr hc)
    rw [hg] at this
    cases this

theorem write (w : Writer r sid h true credits) (payload : Payload) :
    Writer r sid (StreamHost.write (h.emit (.wrote sid payload)) sid payload) true credits := by
  obtain ⟨hnext, hget⟩ := w.get_or_closed
  obtain ⟨-, hsid, hdest, hpend, out, done, f⟩ := w.opened (by omega)
  have hemit : Moves sid true h (h.emit (.wrote sid payload)) := emit_moves h id nofun
  have hreject (hc : (h.outgoing 0).closed = true ∨ (h.outgoing 0).closeRequested = true) :
      Writer r sid (h.emit (.wrote sid payload)) true credits :=
    w.moved hnext ⟨hsid, hdest, hpend, out, done, f.reject hc payload⟩ hemit
  have hs : (h.emit (.wrote sid payload)).stopped = false := w.stopped
  simp only [StreamHost.write, hs, Bool.false_eq_true, if_false]
  rcases hget with hget | ⟨hget, hclosed⟩
  · replace hget : (h.emit (.wrote sid payload)).outgoingStreams.get sid = some 0 := hget
    simp only [hget]
    split
    case isTrue hc => exact hreject ((Bool.or_eq_true _ _).mp hc)
    case isFalse hc =>
      obtain ⟨hclosed, hrequested⟩ := Bool.or_eq_false_iff.mp (Bool.eq_false_iff.mpr hc)
      have hmod : Stage r sid ((h.emit (.wrote sid payload)).modifyOutgoing 0 fun o =>
          { o with pendingWrites := o.pendingWrites ++ [payload] }) credits := by
        refine ⟨?_, ?_, ?_, out, done, ?_⟩
        all_goals simp only [Host.modifyOutgoing, Host.emit, update_self]
        · exact hsid
        · exact hdest
        · exact hpend
        · exact f.accept hclosed hrequested payload
      obtain ⟨hstage, hflush⟩ := flushOutgoing_stage hmod
      exact w.moved hnext hstage ((hemit.trans (modify_moves _ rfl)).trans hflush)
  · replace hget : (h.emit (.wrote sid payload)).outgoingStreams.get sid = none := hget
    simp only [hget]
    exact hreject (.inl hclosed)

theorem close (w : Writer r sid h true credits) :
    Writer r sid (closeOutgoing (h.emit (.closeCalled sid)) sid) true credits := by
  obtain ⟨hnext, hget⟩ := w.get_or_closed
  obtain ⟨-, hsid, hdest, hpend, out, done, f⟩ := w.opened (by omega)
  have hemit : Moves sid true h (h.emit (.closeCalled sid)) := emit_moves h id nofun
  have hignore (hc : (h.outgoing 0).closed = true ∨ (h.outgoing 0).closeRequested = true) :
      Writer r sid (h.emit (.closeCalled sid)) true credits := by
    refine w.moved hnext ⟨hsid, hdest, hpend, out, done, ?_⟩ hemit
    exact f.close false fun hc' hr' => by simp [hc', hr'] at hc
  have hs : (h.emit (.closeCalled sid)).stopped = false := w.stopped
  simp only [closeOutgoing, hs, Bool.false_eq_true, if_false]
  rcases hget with hget | ⟨hget, hclosed⟩
  · replace hget : (h.emit (.closeCalled sid)).outgoingStreams.get sid = some 0 := hget
    simp only [hget]
    split
    case isTrue hc => exact hignore (hpend ▸ (Bool.or_eq_true _ _).mp hc)
    case isFalse hc =>
      have hmod : Stage r sid ((h.emit (.closeCalled sid)).modifyOutgoing 0 fun o =>
          { o with closeRequested := true, closePending := true }) credits := by
        refine ⟨?_, ?_, ?_, out, done, ?_⟩
        all_goals simp only [Host.modifyOutgoing, Host.emit, update_self]
        · exact hsid
        · exact hdest
        · exact { f.close true fun _ _ => rfl with }
      obtain ⟨hstage, hfinish⟩ := finishCloseIfReady_stage hmod
      exact w.moved hnext hstage ((hemit.trans (modify_moves _ rfl)).trans hfinish)
  · replace hget : (h.emit (.closeCalled sid)).outgoingStreams.get sid = none := hget
    simp only [hget]
    exact hignore (.inl hclosed)

theorem handleCredit (w : Writer r sid h handle credits) (credit : Option ℚ) :
    Writer r sid (StreamHost.handleCredit h r sid credit) handle
      (credits + normalizePositiveInteger credit 0) := by
  unfold StreamHost.handleCredit
  split
  case h_1 => exact w.mono (Nat.le_add_right _ _)
  case h_2 i hi =>
    obtain ⟨-, rfl, hnext⟩ := w.map sid i hi
    obtain ⟨-, hsid, hdest, hpend, out, done, f⟩ := w.opened (by omega)
    rw [hdest]
    split
    · exact w.mono (Nat.le_add_right _ _)
    · have hmod : Stage r sid (h.modifyOutgoing 0 fun o =>
          { o with credit := o.credit + normalizePositiveInteger credit 0 })
          (credits + normalizePositiveInteger credit 0) := by
        refine ⟨?_, ?_, ?_, out, done, ?_⟩
        all_goals simp only [Host.modifyOutgoing, update_self]
        · exact hsid
        · exact hdest
        · exact hpend
        · exact f.gain _
      obtain ⟨hstage, hflush⟩ := flushOutgoing_stage hmod
      simp only [ne_eq, not_true, if_false]
      exact w.moved hnext hstage ((modify_moves h rfl).trans hflush)

theorem handleError (w : Writer r sid h handle credits) (code : String) :
    Writer r sid (StreamHost.handleError h r sid code) handle credits := by
  unfold StreamHost.handleError handleIncomingError handleOutgoingError
  cases hi : h.outgoingStreams.get sid with
  | none => simpa only [w.incoming] using w
  | some i =>
    obtain ⟨-, rfl, hnext⟩ := w.map sid i hi
    have hs := (w.opened (by omega)).2
    obtain ⟨hstage, hfail⟩ : _ ∧ Moves sid handle h _ := failOutgoingState_stage hs
    have w' := w.moved hnext hstage hfail
    simpa only [hs.2.1, if_true, w'.incoming] using w'

end Writer

end ActorWeb.StreamWriter
