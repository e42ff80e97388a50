import ActorWeb.StreamFrame
import ActorWeb.Trace
import ActorWeb.Transition

namespace ActorWeb.StreamDiscipline

open StreamHost StreamFrame Trace Transition

variable {Payload : Type}

def Terminal (i : Nat) : Event Payload → Prop
  | .closeStarted j | .errorStarted j _ => j = i
  | _ => False

def Terminated (log : List (Event Payload)) (i : Nat) : Prop := ∃ e ∈ log, Terminal i e

/-- The callback discipline: one terminal callback per incoming stream, no
chunk after it, and neither sends nor registrations after `stop`. -/
def Allowed (past : List (Event Payload)) : Event Payload → Prop
  | .closeStarted i | .errorStarted i _ | .chunkStarted i _ _ => ¬ Terminated past i
  | .sendStarted _ _ | .registered _ => .stopCalled ∉ past
  | _ => True

def Orderly (h : Host Payload) : Prop := Disciplined Allowed h.log

def continues (o : OutgoingStreamState Payload) : Prop :=
  o.closed = false ∧ if o.pendingWrites = [] then o.closeRequested = true else 0 < o.credit

/-- The action resumes a handler or a drain loop that a call of `stop`
overtook, in a branch that goes on as if the host still ran. -/
def Overtaken (h : Host Payload) : Action Payload → Prop
  | .handlerReturned sid consumer =>
    match h.running sid, consumer with
    | some (.resolving _ (_ :: _ :: _)), none => False
    | _, _ => h.stopped = true
  | .chunkSettled sid failure =>
    match h.running sid, failure with
    | some (.consuming i _ _ _), some _ =>
      (h.incoming i).closed = true ∧ (h.incoming i).consumer.onError = true
    | _, _ => h.stopped = true
  | .callbackSettled sid _ =>
    match h.running sid with
    | some (.failing _ (some _)) => h.stopped = true
    | _ => False
  | .drainSettled i ok => h.stopped = true ∧ ok = true ∧ continues (h.outgoing i)
  | _ => False

structure Inv (h : Host Payload) : Prop where
  stopped_iff : h.stopped = true ↔ .stopCalled ∈ h.log
  outgoing : ∀ sid i, h.outgoingStreams.get sid = some i →
    i < h.nextOutgoing ∧ (h.outgoing i).streamId = sid
  incoming : ∀ sid i, h.incomingStreams.get sid = some i →
    i < h.nextIncoming ∧ (h.incoming i).streamId = sid ∧ (h.incoming i).closed = false
  terminated : ∀ i, Terminated h.log i → i < h.nextIncoming ∧ (h.incoming i).closed = true
  consuming : ∀ sid i source sequence payload,
    h.running sid = some (.consuming i source sequence payload) →
      i < h.nextIncoming ∧ (h.incoming i).streamId = sid ∧
        ((h.incoming i).closed = true → (h.incoming i).consumer.onError = true → Terminated h.log i)
  queued : ∀ sid, ∀ e ∈ h.streamMessageQueues sid, e.2.streamId = sid

def Drained (h : Host Payload) : Prop := h.stopped = true → ∀ sid, h.outgoingStreams.get sid = none

theorem terminated_append {log new : List (Event Payload)} {i : Nat} :
    Terminated (log ++ new) i ↔ Terminated log i ∨ Terminated new i := by
  simp only [Terminated, List.mem_append, or_and_right, exists_or]

theorem create_inv (credit : Option ℚ) : Inv (create credit : Host Payload) where
  stopped_iff := by simp [create]
  outgoing := by simp [create]
  incoming := by simp [create]
  terminated := by simp [create, Terminated]
  consuming := by simp [create]
  queued := by simp [create]

theorem create_orderly (credit : Option ℚ) : Orderly (create credit : Host Payload) :=
  disciplined_nil

theorem emit_orderly {h : Host Payload} {e : Event Payload} :
    Orderly (h.emit e) ↔ Orderly h ∧ Allowed h.log e := disciplined_concat

theorem not_terminal_of_outward {e : Event Payload} {i : Nat} (h : Outward e) : ¬ Terminal i e := by
  cases e <;> simp_all [Outward, Terminal]

theorem not_terminated_of_outward {new : List (Event Payload)} {i : Nat} (h : ∀ e ∈ new, Outward e) :
    ¬ Terminated new i := by
  rintro ⟨e, he, hi⟩
  exact not_terminal_of_outward (h e he) hi

end ActorWeb.StreamDiscipline

namespace ActorWeb.StreamFrame.Frame

open StreamHost StreamDiscipline Trace

variable {Payload : Type}

theorem inv {h h' : Host Payload} (f : Frame h h') (inv : Inv h) : Inv h' := by
  obtain ⟨new, hnew, hout⟩ := f.log
  have hstop : .stopCalled ∉ new := fun hm => hout _ hm
  have hterm (i) : Terminated h'.log i ↔ Terminated h.log i := by
    rw [hnew, terminated_append, or_iff_left (not_terminated_of_outward hout)]
  constructor
  · rw [f.stopped, inv.stopped_iff, hnew, List.mem_append, or_iff_left hstop]
  · intro sid i hi
    rw [f.nextOutgoing, f.outgoing]
    exact inv.outgoing sid i (f.outgoingStreams sid i hi)
  · intro sid i hi
    rw [f.nextIncoming, f.incoming]
    exact inv.incoming sid i (f.incomingStreams sid i hi)
  · intro i hi
    rw [f.nextIncoming, f.incoming]
    exact inv.terminated i ((hterm i).mp hi)
  · intro sid i source sequence payload hr
    rw [f.nextIncoming, f.incoming, hterm]
    exact inv.consuming sid i source sequence payload (f.running _ _ _ _ _ hr)
  · rw [f.queues]
    exact inv.queued

theorem drained {h h' : Host Payload} (f : Frame h h') (hd : Drained h) : Drained h' := by
  intro hs sid
  have hnone := hd (f.stopped ▸ hs) sid
  refine Option.eq_none_iff_forall_not_mem.mpr fun i hi => ?_
  exact absurd (f.outgoingStreams sid i hi) (by simp [hnone])

theorem orderly {h h' : Host Payload} (f : Frame h h') (hs : .stopCalled ∉ h.log) :
    Orderly h' ↔ Orderly h := by
  obtain ⟨new, hnew, hout⟩ := f.log
  rw [Orderly, hnew, Orderly]
  refine disciplined_append fun more e he hmore => ?_
  have hfresh : .stopCalled ∉ h.log ++ more := by
    rw [List.mem_append, not_or]
    exact ⟨hs, fun hm => hout _ (hmore _ hm)⟩
  have hallowed := hout e he
  cases e <;> first | exact hfresh | trivial

end ActorWeb.StreamFrame.Frame

namespace ActorWeb.StreamDiscipline

open StreamHost StreamFrame Trace Transition

variable {Payload : Type}

variable {h h' : Host Payload} {sid : String} {i : Nat} {a : Action Payload}

theorem setQueue_inv (inv : Inv h) (sid : String)
    {q : List (String × StreamMessage Payload)} (hq : ∀ e ∈ q, e.2.streamId = sid) :
    Inv (h.setQueue sid q) := by
  refine { inv with queued := fun sid' e he => ?_ }
  by_cases heq : sid' = sid
  · subst heq
    simp only [Host.setQueue, Function.update_self] at he
    exact hq e he
  · simp only [Host.setQueue, Function.update_of_ne heq] at he
    exact inv.queued sid' e he

theorem not_stopCalled (inv : Inv h) (hs : h.stopped = false) :
    Event.stopCalled ∉ h.log := fun hm => by simp [inv.stopped_iff.mpr hm] at hs

theorem not_terminated_of_get (inv : Inv h)
    (hi : h.incomingStreams.get sid = some i) : ¬ Terminated h.log i := by
  intro ht
  have hclosed := (inv.terminated i ht).2
  rw [(inv.incoming sid i hi).2.2] at hclosed
  cases hclosed

theorem emit_inv (inv : Inv h) {e : Event Payload} (hstop : e ≠ .stopCalled)
    (hterm : ∀ i, ¬ Terminal i e) : Inv (h.emit e) := by
  have hiff (i) : Terminated (h.log ++ [e]) i ↔ Terminated h.log i := by
    rw [terminated_append, or_iff_left]
    rintro ⟨e', he', hi⟩
    exact hterm i (List.mem_singleton.mp he' ▸ hi)
  constructor
  · simpa [Host.emit, hstop.symm] using inv.stopped_iff
  · exact inv.outgoing
  · exact inv.incoming
  · exact fun i hi => inv.terminated i ((hiff i).mp hi)
  · intro sid i source sequence payload hr
    obtain ⟨hlt, hsid, hclosed⟩ := inv.consuming sid i source sequence payload hr
    exact ⟨hlt, hsid, fun hc ho => (hiff i).mpr (hclosed hc ho)⟩
  · exact inv.queued

theorem addOutgoing_inv (inv : Inv h) (sid destination : String) :
    Inv (h.addOutgoing sid destination) := by
  refine { inv with outgoing := fun sid' i hi => ?_ }
  simp only [Host.addOutgoing, OrderedMap.get_set] at hi ⊢
  split at hi
  case isTrue heq =>
    cases hi
    exact ⟨Nat.lt_succ_self _, by simp [heq]⟩
  case isFalse =>
    obtain ⟨hlt, hsid⟩ := inv.outgoing sid' i hi
    refine ⟨Nat.lt_succ_of_lt hlt, ?_⟩
    rw [Function.update_of_ne hlt.ne, hsid]

theorem addIncoming_inv (inv : Inv h) (sid source : String) (consumer : Consumer) :
    Inv (h.addIncoming sid source consumer) := by
  have hold {i} (hlt : i < h.nextIncoming) :
      (h.addIncoming sid source consumer).incoming i = h.incoming i :=
    Function.update_of_ne hlt.ne _ _
  refine { inv with incoming := fun sid' i hi => ?_, terminated := fun i hi => ?_, consuming := ?_ }
  · simp only [Host.addIncoming, OrderedMap.get_set] at hi ⊢
    split at hi
    case isTrue heq =>
      cases hi
      exact ⟨Nat.lt_succ_self _, by simp [heq], by simp⟩
    case isFalse =>
      obtain ⟨hlt, hsid, hclosed⟩ := inv.incoming sid' i hi
      rw [Function.update_of_ne hlt.ne]
      exact ⟨Nat.lt_succ_of_lt hlt, hsid, hclosed⟩
  · obtain ⟨hlt, hclosed⟩ := inv.terminated i hi
    exact ⟨Nat.lt_succ_of_lt hlt, by rw [hold hlt, hclosed]⟩
  · intro sid' i source' sequence payload hr
    obtain ⟨hlt, hsid, hclosed⟩ := inv.consuming sid' i source' sequence payload hr
    rw [hold hlt]
    exact ⟨Nat.lt_succ_of_lt hlt, hsid, hclosed⟩

theorem modifyIncoming_inv (inv : Inv h) (i : Nat) {f : IncomingStreamState → IncomingStreamState}
    (hf : ∀ s, (f s).streamId = s.streamId ∧ (f s).closed = s.closed ∧ (f s).consumer = s.consumer) :
    Inv (h.modifyIncoming i f) := by
  have heq (j) : ((h.modifyIncoming i f).incoming j).streamId = (h.incoming j).streamId ∧
      ((h.modifyIncoming i f).incoming j).closed = (h.incoming j).closed ∧
      ((h.modifyIncoming i f).incoming j).consumer = (h.incoming j).consumer := by
    by_cases hj : j = i
    · subst hj
      simpa only [Host.modifyIncoming, Function.update_self] using hf (h.incoming j)
    · simp only [Host.modifyIncoming, Function.update_of_ne hj, and_self]
  refine { inv with incoming := fun sid j hj => ?_, terminated := fun j hj => ?_, consuming := ?_ }
  · rw [(heq j).1, (heq j).2.1]
    exact inv.incoming sid j hj
  · rw [(heq j).2.1]
    exact inv.terminated j hj
  · intro sid j source sequence payload hr
    rw [(heq j).1, (heq j).2.1, (heq j).2.2]
    exact inv.consuming sid j source sequence payload hr

/-- An incoming stream leaves the map closed, after its terminal callback if it has one. -/
def finish (h : Host Payload) (i : Nat) (callback : List (Event Payload)) : Host Payload :=
  { (h.modifyIncoming i fun s => { s with closed := true }).deleteIncoming (h.incoming i).streamId with
    log := h.log ++ callback }

theorem finish_inv (inv : Inv h) (hi : i < h.nextIncoming)
    {callback : List (Event Payload)} (hcall : ∀ e ∈ callback, Terminal i e ∧ e ≠ .stopCalled)
    (hcons : ∀ sid source sequence payload, h.running sid = some (.consuming i source sequence payload) →
      (h.incoming i).consumer.onError = true → Terminated callback i) :
    Inv (finish h i callback) := by
  have hof {j} (hj : j ≠ i) : (finish h i callback).incoming j = h.incoming j :=
    Function.update_of_ne hj _ _
  have hself : (finish h i callback).incoming i = { h.incoming i with closed := true } :=
    Function.update_self _ _ _
  have hother {j} (hj : j ≠ i) : Terminated (h.log ++ callback) j ↔ Terminated h.log j := by
    rw [terminated_append, or_iff_left]
    rintro ⟨e, he, hterm⟩
    have hi := (hcall e he).1
    cases e <;> simp_all [Terminal]
  refine { inv with stopped_iff := ?_, incoming := ?_, terminated := ?_, consuming := ?_ }
  · have hnot : Event.stopCalled ∉ callback := fun hm => (hcall _ hm).2 rfl
    simpa [finish, Host.modifyIncoming, Host.deleteIncoming, hnot] using inv.stopped_iff
  · intro sid j hj
    have hget : sid ≠ (h.incoming i).streamId ∧ h.incomingStreams.get sid = some j := by
      simpa [finish, Host.deleteIncoming, Host.modifyIncoming, OrderedMap.get_delete] using hj
    obtain ⟨hlt, hsid, hclosed⟩ := inv.incoming sid j hget.2
    have hne : j ≠ i := fun h => hget.1 (h ▸ hsid.symm)
    rw [hof hne]
    exact ⟨hlt, hsid, hclosed⟩
  · intro j hj
    by_cases hne : j = i
    · subst hne
      exact ⟨hi, by rw [hself]⟩
    · rw [hof hne]
      exact inv.terminated j ((hother hne).mp hj)
  · intro sid j source sequence payload hr
    obtain ⟨hlt, hsid, hclosed⟩ := inv.consuming sid j source sequence payload hr
    by_cases hne : j = i
    · subst hne
      rw [hself]
      exact ⟨hlt, hsid, fun _ ho => terminated_append.mpr (.inr (hcons sid source sequence payload hr ho))⟩
    · rw [hof hne]
      exact ⟨hlt, hsid, fun hc ho => (hother hne).mpr (hclosed hc ho)⟩

theorem failIncomingState_eq (h : Host Payload) (i : Nat) (code : String) :
    failIncomingState h i code =
      finish h i (if (h.incoming i).consumer.onError then [.errorStarted i code] else []) := by
  unfold failIncomingState
  split <;> simp [finish, Host.emit, Host.modifyIncoming, Host.deleteIncoming, *]

theorem failIncomingState_inv (inv : Inv h) (hi : i < h.nextIncoming)
    (code : String) : Inv (failIncomingState h i code) := by
  rw [failIncomingState_eq]
  refine finish_inv inv hi ?_ fun _ _ _ _ _ ho => ?_
  · split <;> simp [Terminal]
  · simp [ho, Terminated, Terminal]

theorem failIncomingState_orderly {code : String} : Orderly (failIncomingState h i code) ↔
      Orderly h ∧ ((h.incoming i).consumer.onError = true → ¬ Terminated h.log i) := by
  unfold failIncomingState
  split
  case isTrue ho => simp only [emit_orderly, ho, true_imp_iff, Allowed]; rfl
  case isFalse ho => exact (and_iff_left fun h => absurd h ho).symm

theorem setConsuming_inv (inv : Inv h)
    (hi : h.incomingStreams.get sid = some i) (source : String) (sequence : Nat) (payload : Payload) :
    Inv (h.setHandling sid (some (.consuming i source sequence payload))) := by
  obtain ⟨hlt, hsid, hclosed⟩ := inv.incoming sid i hi
  refine { inv with consuming := fun sid' j source' sequence' payload' hr => ?_ }
  by_cases heq : sid' = sid
  · subst heq
    simp only [Host.setHandling, Function.update_self, Option.some.injEq, Handling.consuming.injEq] at hr
    obtain ⟨rfl, -⟩ := hr
    exact ⟨hlt, hsid, fun hc => by simp [Host.setHandling, hclosed] at hc⟩
  · simp only [Host.setHandling, Function.update_of_ne heq] at hr
    exact inv.consuming sid' j source' sequence' payload' hr

theorem handleChunk_inv (inv : Inv h) (source sid : String) (sequence : Nat)
    (payload : Payload) : Inv (handleChunk h source sid sequence payload) := by
  unfold handleChunk
  split
  case h_1 => exact (replyLast_frame h sid source _).inv inv
  case h_2 i hi =>
    split
    · exact (replyLast_frame h sid source _).inv inv
    · split
      · exact (hostError_frame h _).inv inv
      · split
        · exact (setHandling_frame _ sid (by simp)).inv
            (failIncomingState_inv inv (inv.incoming sid i hi).1 _)
        · exact setConsuming_inv (emit_inv inv (by simp) (by simp [Terminal])) hi source sequence payload

theorem handleChunk_orderly (inv : Inv h) (hs : h.stopped = false)
    (source sid : String) (sequence : Nat) (payload : Payload) :
    Orderly (handleChunk h source sid sequence payload) ↔ Orderly h := by
  have hstop := not_stopCalled inv hs
  unfold handleChunk
  split
  case h_1 => exact (replyLast_frame h sid source _).orderly hstop
  case h_2 i hi =>
    have hterm := not_terminated_of_get inv hi
    split
    · exact (replyLast_frame h sid source _).orderly hstop
    · split
      · exact (hostError_frame h _).orderly hstop
      · split
        · exact failIncomingState_orderly.trans (and_iff_left fun _ => hterm)
        · exact emit_orderly.trans (and_iff_left hterm)

theorem handleClose_eq (h : Host Payload) (source sid : String)
    (hi : h.incomingStreams.get sid = some i) (hsid : (h.incoming i).streamId = sid) :
    handleClose h source sid =
      if (h.incoming i).source ≠ source then h.emit (.hostError "stream_source_mismatch")
      else (finish h i (if (h.incoming i).consumer.onClose then [.closeStarted i] else [])).setHandling sid
        (some (.closing i)) := by
  simp only [handleClose, hi]
  split
  · rfl
  · split <;> simp [finish, Host.emit, Host.modifyIncoming, Host.deleteIncoming, *]

theorem handleClose_inv (inv : Inv h) (source : String)
    (hr : h.running sid = none) : Inv (handleClose h source sid) := by
  cases hi : h.incomingStreams.get sid with
  | none => simpa only [handleClose, hi] using inv
  | some i =>
    obtain ⟨hlt, hsid, -⟩ := inv.incoming sid i hi
    rw [handleClose_eq h source sid hi hsid]
    split
    · exact (hostError_frame h _).inv inv
    · refine (setHandling_frame _ sid (by simp)).inv (finish_inv inv hlt ?_ ?_)
      · split <;> simp [Terminal]
      · intro sid' source' sequence payload hr'
        obtain rfl : sid = sid' := hsid.symm.trans (inv.consuming sid' i _ _ _ hr').2.1
        rw [hr] at hr'
        cases hr'

theorem handleClose_orderly (inv : Inv h) (source sid : String) :
    Orderly (handleClose h source sid) ↔ Orderly h := by
  unfold handleClose
  split
  case h_1 => rfl
  case h_2 i hi =>
    have hterm := not_terminated_of_get inv hi
    split
    · exact emit_orderly.trans (and_iff_left trivial)
    · split
      · exact emit_orderly.trans (and_iff_left hterm)
      · rfl

theorem handleIncomingError_inv (inv : Inv h) (source sid code : String) :
    Inv (handleIncomingError h source sid code) := by
  unfold handleIncomingError
  split
  case h_1 => exact inv
  case h_2 i hi =>
    split
    · exact (setHandling_frame _ sid (by simp)).inv (failIncomingState_inv inv (inv.incoming sid i hi).1 _)
    · exact (hostError_frame h _).inv inv

theorem handleIncomingError_orderly (inv : Inv h) (source sid code : String) :
    Orderly (handleIncomingError h source sid code) ↔ Orderly h := by
  unfold handleIncomingError
  split
  case h_1 => rfl
  case h_2 i hi =>
    split
    · exact failIncomingState_orderly.trans (and_iff_left fun _ => not_terminated_of_get inv hi)
    · exact emit_orderly.trans (and_iff_left trivial)

theorem handleStreamMessage_inv (inv : Inv h) (source : String)
    (m : StreamMessage Payload) (hr : h.running m.streamId = none) :
    Inv (handleStreamMessage h source m) := by
  cases m with
  | «open» sid => exact (handleOpen_frame h source sid).inv inv
  | credit sid credit => exact (handleCredit_frame h source sid credit).inv inv
  | chunk sid sequence payload => exact handleChunk_inv inv source sid sequence payload
  | close sid => exact handleClose_inv inv source hr
  | error sid code message =>
    exact handleIncomingError_inv ((handleOutgoingError_frame h source sid).inv inv) source sid code

theorem handleStreamMessage_orderly (inv : Inv h) (hs : h.stopped = false)
    (source : String) (m : StreamMessage Payload) :
    Orderly (handleStreamMessage h source m) ↔ Orderly h := by
  have hstop := not_stopCalled inv hs
  cases m with
  | «open» sid => exact (handleOpen_frame h source sid).orderly hstop
  | credit sid credit => exact (handleCredit_frame h source sid credit).orderly hstop
  | chunk sid sequence payload => exact handleChunk_orderly inv hs source sid sequence payload
  | close sid => exact handleClose_orderly inv source sid
  | error sid code message =>
    have hout := handleOutgoingError_frame h source sid
    exact (handleIncomingError_orderly (hout.inv inv) source sid code).trans (hout.orderly hstop)

theorem finishCloseIfReady_log (h : Host Payload) (i : Nat) : (finishCloseIfReady h i).log =
      if (h.outgoing i).closed || !(h.outgoing i).closeRequested || (h.outgoing i).flushing ||
          !(h.outgoing i).pendingWrites.isEmpty then h.log
      else h.log ++ [.sendStarted (h.outgoing i).destination (.close (h.outgoing i).streamId)] := by
  unfold finishCloseIfReady
  split <;> rfl

theorem drainOutgoing_log (h : Host Payload) (i : Nat) :
    (¬ continues (h.outgoing i) ∧ (drainOutgoing h i).log = h.log) ∨
      continues (h.outgoing i) ∧ ∃ destination m,
        (drainOutgoing h i).log = h.log ++ [.sendStarted destination m] := by
  unfold drainOutgoing continues
  cases hp : (h.outgoing i).pendingWrites with
  | nil =>
    simp only [leaveDrain, finishCloseIfReady_log, Host.modifyOutgoing, Function.update_self, hp]
    cases (h.outgoing i).closed <;> cases (h.outgoing i).closeRequested <;> simp
  | cons payload rest =>
    simp only [reduceCtorEq, if_false]
    split
    case isTrue hc =>
      simp only [Bool.and_eq_true, Bool.not_eq_true', decide_eq_true_eq] at hc
      exact .inr ⟨hc, _, _, rfl⟩
    case isFalse hc =>
      simp only [Bool.and_eq_true, Bool.not_eq_true', decide_eq_true_eq] at hc
      refine .inl ⟨hc, ?_⟩
      simp [leaveDrain, finishCloseIfReady_log, Host.modifyOutgoing, hp]

theorem drainSettled_orderly (inv : Inv h) (i : Nat) (ok : Bool) : Orderly (drainSettled h i ok) ↔
      Orderly h ∧ ¬ (h.stopped = true ∧ ok = true ∧ continues (h.outgoing i)) := by
  cases hs : h.stopped with
  | false => simpa using (drainSettled_frame h i ok).orderly (not_stopCalled inv hs)
  | true =>
    have hstop := inv.stopped_iff.mp hs
    cases ok with
    | false =>
      have hlog : (drainSettled h i false).log = h.log := by
        simp [drainSettled, leaveDrain, finishCloseIfReady_log, failOutgoingState, Host.setDraining,
          Host.modifyOutgoing, Host.deleteOutgoing]
      simp [Orderly, hlog]
    | true =>
      rcases drainOutgoing_log (h.setDraining i false) i with ⟨hc, hlog⟩ | ⟨hc, destination, m, hlog⟩
      · replace hc : ¬ continues (h.outgoing i) := hc
        simp only [drainSettled, if_true, Orderly, hlog, hc, and_false, not_false_iff, and_true]
        rfl
      · replace hc : continues (h.outgoing i) := hc
        simp only [drainSettled, if_true, Orderly, hlog, hc, and_true, not_true, and_false, iff_false]
        exact fun ho => (disciplined_concat.mp ho).2 hstop

variable (is : List Nat)

theorem foldl_failOutgoing_frame (h : Host Payload) : Frame h (is.foldl failOutgoingState h) := by
  induction is generalizing h with
  | nil => exact .refl h
  | cons i is ih => exact (failOutgoingState_frame h i).trans (ih _)

theorem foldl_failOutgoing_log (h : Host Payload) : (is.foldl failOutgoingState h).log = h.log := by
  induction is generalizing h with
  | nil => rfl
  | cons i is ih => exact ih _

theorem foldl_failOutgoing_get (h : Host Payload)
    (hi : (is.foldl failOutgoingState h).outgoingStreams.get sid = some i) :
    ∀ j ∈ is, (h.outgoing j).streamId ≠ sid := by
  induction is generalizing h with
  | nil => simp
  | cons k is ih =>
    have hframe := failOutgoingState_frame h k
    intro j hj
    rcases List.mem_cons.mp hj with rfl | hj
    · rintro rfl
      have hget := (foldl_failOutgoing_frame is _).outgoingStreams _ i hi
      simp [failOutgoingState, Host.deleteOutgoing] at hget
    · exact hframe.outgoing j ▸ ih _ hi j hj

theorem stopNext_inv (inv : Inv h) : Inv (stopNext h) := by
  unfold stopNext
  split
  case h_1 i _ heq =>
    obtain ⟨sid, hi⟩ := OrderedMap.mem_values_iff.mp (heq ▸ List.mem_cons_self)
    have hfail := failIncomingState_inv inv (inv.incoming sid i hi).1 "stream_host_stopped"
    exact Frame.inv { Frame.refl (failIncomingState h i _) with } hfail
  case h_2 =>
    refine Frame.inv { Frame.refl h with outgoingStreams := ?_, incomingStreams := ?_ } inv
    · exact fun _ _ h => nomatch h
    · exact fun _ _ h => nomatch h

theorem stopNext_orderly (inv : Inv h) : Orderly (stopNext h) ↔ Orderly h := by
  unfold stopNext
  split
  case h_1 i _ heq =>
    obtain ⟨sid, hi⟩ := OrderedMap.mem_values_iff.mp (heq ▸ List.mem_cons_self)
    exact failIncomingState_orderly.trans (and_iff_left fun _ => not_terminated_of_get inv hi)
  case h_2 => rfl

theorem failIncomingState_drained (hd : Drained h) (i : Nat) (code : String) :
    Drained (failIncomingState h i code) := by
  unfold failIncomingState
  split <;> exact hd

theorem stopNext_drained (hd : Drained h) : Drained (stopNext h) := by
  unfold stopNext
  split
  · exact failIncomingState_drained hd _ _
  · exact fun _ _ => rfl

theorem stop_enters (inv : Inv h) :
    let h' := h.outgoingStreams.values.foldl failOutgoingState { h.emit .stopCalled with stopped := true }
    Inv h' ∧ Drained h' := by
  have hemit : Inv { h.emit .stopCalled with stopped := true } := by
    have hiff (i) : Terminated (h.log ++ [.stopCalled]) i ↔ Terminated h.log i := by
      simp [Terminated, Terminal]
    refine ⟨by simp [Host.emit], inv.outgoing, inv.incoming, ?_, ?_, inv.queued⟩
    · exact fun i hi => inv.terminated i ((hiff i).mp hi)
    · intro sid i source sequence payload hr
      obtain ⟨hlt, hsid, hclosed⟩ := inv.consuming sid i source sequence payload hr
      exact ⟨hlt, hsid, fun hc ho => (hiff i).mpr (hclosed hc ho)⟩
  have hframe := foldl_failOutgoing_frame h.outgoingStreams.values
    { h.emit .stopCalled with stopped := true }
  refine ⟨hframe.inv hemit, fun _ sid => Option.eq_none_iff_forall_not_mem.mpr fun i hi => ?_⟩
  have hget : h.outgoingStreams.get sid = some i := hframe.outgoingStreams sid i hi
  exact foldl_failOutgoing_get _ _ hi i (OrderedMap.mem_values_iff.mpr ⟨sid, hget⟩) (inv.outgoing sid i hget).2

theorem handleStreamMessage_stopped (h : Host Payload) (source : String) (m : StreamMessage Payload) :
    (handleStreamMessage h source m).stopped = h.stopped := by
  cases m with
  | «open» sid => exact (handleOpen_frame h source sid).stopped
  | credit sid credit => exact (handleCredit_frame h source sid credit).stopped
  | chunk sid sequence payload =>
    simp only [handleStreamMessage, handleChunk, unknownStream, sendStreamError, replyLast, failIncomingState]
    repeat' split
    all_goals rfl
  | close sid =>
    simp only [handleStreamMessage, handleClose]
    repeat' split
    all_goals rfl
  | error sid code message =>
    refine Eq.trans ?_ (handleOutgoingError_frame h source sid).stopped
    simp only [handleStreamMessage, handleError, handleIncomingError, failIncomingState]
    repeat' split
    all_goals rfl

theorem startTask_inv (inv : Inv h) (hd : Drained h) (source : String)
    (m : StreamMessage Payload) (hr : h.running m.streamId = none) :
    Inv (startTask h source m) ∧ Drained (startTask h source m) := by
  unfold startTask
  split
  case isTrue => exact ⟨inv, hd⟩
  case isFalse hs =>
    refine ⟨handleStreamMessage_inv inv source m hr, fun hs' => ?_⟩
    exact absurd (handleStreamMessage_stopped h source m ▸ hs') hs

theorem startTask_orderly (inv : Inv h) (source : String) (m : StreamMessage Payload) :
    Orderly (startTask h source m) ↔ Orderly h := by
  unfold startTask
  split
  case isTrue => rfl
  case isFalse hs => exact handleStreamMessage_orderly inv (Bool.eq_false_iff.mpr hs) source m

theorem registerIncoming_inv (inv : Inv h) (source sid : String) (consumer : Consumer) :
    Inv (registerIncoming h source sid consumer) :=
  (replyLast_frame _ sid source _).inv
    (emit_inv (addIncoming_inv inv sid source consumer) (by simp) (by simp [Terminal]))

theorem handlerReturned_inv (inv : Inv h) (hd : Drained h) {source : String}
    {remaining : List Nat} {consumer : Option Consumer}
    (hstep : handlerReturned h sid source remaining consumer = some h') : Inv h' ∧ Drained h' := by
  unfold handlerReturned at hstep
  split at hstep
  · cases hstep
    exact ⟨registerIncoming_inv inv source sid _, hd⟩
  · cases hstep
    exact ⟨(setHandling_frame h sid (by simp)).inv inv, hd⟩
  · cases hstep
    exact ⟨(replyLast_frame h sid source _).inv inv, hd⟩
  · cases hstep

theorem step_inv (inv : Inv h) (hd : Drained h)
    (hstep : step h a = some h') : Inv h' ∧ Drained h' := by
  have frame {h'} (f : Frame h h') : Inv h' ∧ Drained h' := ⟨f.inv inv, f.drained hd⟩
  cases a with
  | subscribe handler | unsubscribe handler =>
    cases hstep
    exact frame { Frame.refl h with }
  | «open» destination sid =>
    cases hstep
    unfold open_
    split
    case isTrue => exact ⟨inv, hd⟩
    case isFalse hopen =>
      have hs : h.stopped = false := by
        cases hs : h.stopped <;> simp_all
      refine ⟨(send_frame _ _ _).inv ?_, fun hs' => ?_⟩
      · exact Frame.inv { Frame.refl (h.addOutgoing sid destination) with } (addOutgoing_inv inv sid destination)
      · exact absurd hs' (by simp [Host.send, Host.emit, Host.addOutgoing, hs])
  | openSettled sid ok =>
    simp only [step, Option.ite_none_right_eq_some, Option.some.injEq] at hstep
    obtain ⟨-, rfl⟩ := hstep
    exact frame (openSettled_frame h sid ok)
  | write sid payload =>
    cases hstep
    exact frame ((wrote_frame h sid payload).trans (write_frame _ sid payload))
  | close sid =>
    cases hstep
    exact frame ((closeCalled_frame h sid).trans (closeOutgoing_frame _ sid))
  | error sid code message =>
    cases hstep
    exact frame (errorOutgoing_frame h sid code message)
  | drainSettled i ok =>
    simp only [step, Option.ite_none_right_eq_some, Option.some.injEq] at hstep
    obtain ⟨-, rfl⟩ := hstep
    exact frame (drainSettled_frame h i ok)
  | receive source m =>
    simp only [step, Option.ite_none_left_eq_some, Option.some.injEq] at hstep
    obtain ⟨-, rfl⟩ := hstep
    refine ⟨setQueue_inv inv _ fun e he => ?_, hd⟩
    rcases List.mem_append.mp he with he | he
    · exact inv.queued _ e he
    · rw [List.mem_singleton.mp he]
  | taskStarts sid =>
    simp only [step] at hstep
    split at hstep
    case h_1 source m rest hr hq =>
      cases hstep
      have hm : m.streamId = sid := inv.queued sid (source, m) (by simp [hq])
      have hqueue := setQueue_inv inv sid (q := rest) fun e he => inv.queued sid e (by simp [hq, he])
      exact startTask_inv hqueue hd source m (hm ▸ hr)
    case h_2 => cases hstep
  | handlerReturned sid consumer =>
    simp only [step] at hstep
    split at hstep
    · exact handlerReturned_inv inv hd hstep
    · cases hstep
  | handlerThrew sid =>
    simp only [step] at hstep
    split at hstep
    · cases hstep
      exact frame ((hostError_frame h _).trans (setHandling_frame _ sid (by simp)))
    · cases hstep
  | chunkSettled sid failure =>
    simp only [step] at hstep
    split at hstep
    case h_1 i source sequence payload hr =>
      cases hstep
      cases failure with
      | none =>
        have hemit := (emit_frame h (e := .chunkConsumed i sequence payload) trivial).inv inv
        exact ⟨(replyLast_frame _ sid source _).inv (modifyIncoming_inv hemit i fun _ => ⟨rfl, rfl, rfl⟩), hd⟩
      | some failure =>
        have hlt := (inv.consuming sid i source sequence payload hr).1
        have f := setHandling_frame (failIncomingState h i "consumer_failed") sid
          (t := some (.failing i (some (source, "consumer_failed", failure)))) (by simp)
        exact ⟨f.inv (failIncomingState_inv inv hlt _), f.drained (failIncomingState_drained hd _ _)⟩
    case h_2 => cases hstep
  | callbackSettled sid ok =>
    simp only [step, callbackSettled] at hstep
    split at hstep
    · cases hstep
      exact frame ((errorHandlerSettled_frame h ok).trans (replyLast_frame _ sid _ _))
    · cases hstep
      exact frame ((errorHandlerSettled_frame h ok).trans (setHandling_frame _ sid (by simp)))
    · cases hstep
      refine frame (Frame.trans ?_ (setHandling_frame _ sid (by simp)))
      split
      · exact .refl h
      · exact hostError_frame h _
    · cases hstep
  | sendSettled sid ok =>
    simp only [step] at hstep
    split at hstep
    · cases hstep
      refine frame (Frame.trans ?_ (setHandling_frame _ sid (by simp)))
      split
      · exact .refl h
      · exact hostError_frame h _
    · cases hstep
  | stop =>
    cases hstep
    unfold stop
    split
    · exact ⟨inv, hd⟩
    · obtain ⟨henter, hdrained⟩ := stop_enters inv
      exact ⟨stopNext_inv henter, stopNext_drained hdrained⟩
  | stopResumes ok =>
    simp only [step, Option.ite_none_right_eq_some, Option.some.injEq] at hstep
    obtain ⟨-, rfl⟩ := hstep
    obtain ⟨hsettled, hdrained⟩ := frame (errorHandlerSettled_frame h ok)
    exact ⟨stopNext_inv hsettled, stopNext_drained hdrained⟩

theorem send_orderly (inv : Inv h) (destination : String) (m : StreamMessage Payload) :
    Orderly (h.send destination m) ↔ Orderly h ∧ ¬ h.stopped = true :=
  emit_orderly.trans (and_congr_right fun _ => not_congr inv.stopped_iff.symm)

theorem hostError_orderly {code : String} :
    Orderly (h.emit (.hostError code)) ↔ Orderly h := emit_orderly.trans (and_iff_left trivial)

theorem write_orderly (inv : Inv h) (sid : String) (payload : Payload) :
    Orderly (write h sid payload) ↔ Orderly h := by
  cases hs : h.stopped with
  | true => rw [write, if_pos hs]
  | false => exact (write_frame h sid payload).orderly (not_stopCalled inv hs)

theorem closeOutgoing_orderly (inv : Inv h) (sid : String) :
    Orderly (closeOutgoing h sid) ↔ Orderly h := by
  cases hs : h.stopped with
  | true => rw [closeOutgoing, if_pos hs]
  | false => exact (closeOutgoing_frame h sid).orderly (not_stopCalled inv hs)

theorem errorHandlerSettled_orderly {ok : Bool} :
    Orderly (errorHandlerSettled h ok) ↔ Orderly h := by
  unfold errorHandlerSettled
  split
  · rfl
  · exact hostError_orderly

theorem registerIncoming_orderly (inv : Inv h) (source sid : String) (consumer : Consumer) :
    Orderly (registerIncoming h source sid consumer) ↔ Orderly h ∧ ¬ h.stopped = true := by
  have hregistered := emit_inv (addIncoming_inv inv sid source consumer) (e := .registered h.nextIncoming)
    (by simp) (by simp [Terminal])
  refine (send_orderly hregistered source _).trans ?_
  rw [emit_orderly]
  change (Orderly h ∧ .stopCalled ∉ h.log) ∧ ¬ h.stopped = true ↔ _
  rw [← inv.stopped_iff, and_assoc, and_self]

theorem handlerReturned_orderly (inv : Inv h) {source : String}
    {remaining : List Nat} {consumer : Option Consumer}
    (hr : h.running sid = some (.resolving source remaining))
    (hstep : handlerReturned h sid source remaining consumer = some h') :
    Orderly h' ↔ Orderly h ∧ ¬ Overtaken h (.handlerReturned sid consumer) := by
  unfold handlerReturned at hstep
  split at hstep
  · cases hstep
    simpa only [Overtaken, hr] using registerIncoming_orderly inv source sid _
  · cases hstep
    simp only [Overtaken, hr, not_false_iff, and_true]
    rfl
  case h_3 hnext =>
    cases hstep
    have hlast : Overtaken h (.handlerReturned sid none) ↔ h.stopped = true := by
      rcases remaining with _ | ⟨x, _ | ⟨y, rest⟩⟩
      · simp only [Overtaken, hr]
      · simp only [Overtaken, hr]
      · exact (hnext x y rest rfl).elim
    rw [hlast]
    exact send_orderly inv source _
  · cases hstep

theorem quiet (hlog : Orderly h' ↔ Orderly h)
    (ha : ¬ Overtaken h a) : Orderly h' ↔ Orderly h ∧ ¬ Overtaken h a :=
  hlog.trans (and_iff_left ha).symm

theorem step_orderly (inv : Inv h) (hd : Drained h)
    (hstep : step h a = some h') : Orderly h' ↔ Orderly h ∧ ¬ Overtaken h a := by
  cases a with
  | subscribe handler | unsubscribe handler =>
    cases hstep
    exact quiet Iff.rfl not_false
  | «open» destination sid =>
    cases hstep
    refine quiet ?_ not_false
    unfold open_
    split
    case isTrue => rfl
    case isFalse hopen =>
      have hs : h.stopped = false := by
        cases hs : h.stopped <;> simp_all
      exact emit_orderly.trans (and_iff_left (not_stopCalled (h := h) inv hs))
  | openSettled sid ok =>
    simp only [step, Option.ite_none_right_eq_some, Option.some.injEq] at hstep
    obtain ⟨-, rfl⟩ := hstep
    refine quiet ?_ not_false
    unfold openSettled
    split <;> rfl
  | write sid payload =>
    cases hstep
    exact quiet ((write_orderly ((wrote_frame h sid payload).inv inv) sid payload).trans
      (emit_orderly.trans (and_iff_left trivial))) not_false
  | close sid =>
    cases hstep
    exact quiet ((closeOutgoing_orderly ((closeCalled_frame h sid).inv inv) sid).trans
      (emit_orderly.trans (and_iff_left trivial))) not_false
  | error sid code message =>
    cases hstep
    refine quiet ?_ not_false
    cases hs : h.stopped with
    | true => simp only [errorOutgoing, hd hs sid]
    | false => exact (errorOutgoing_frame h sid code message).orderly (not_stopCalled inv hs)
  | drainSettled i ok =>
    simp only [step, Option.ite_none_right_eq_some, Option.some.injEq] at hstep
    obtain ⟨-, rfl⟩ := hstep
    exact drainSettled_orderly inv i ok
  | receive source m =>
    simp only [step, Option.ite_none_left_eq_some, Option.some.injEq] at hstep
    obtain ⟨-, rfl⟩ := hstep
    exact quiet Iff.rfl not_false
  | taskStarts sid =>
    simp only [step] at hstep
    split at hstep
    case h_1 source m rest hr hq =>
      cases hstep
      have hqueue := setQueue_inv inv sid (q := rest) fun e he => inv.queued sid e (by simp [hq, he])
      exact quiet (startTask_orderly hqueue source m) not_false
    case h_2 => cases hstep
  | handlerReturned sid consumer =>
    simp only [step] at hstep
    split at hstep
    case h_1 hr => exact handlerReturned_orderly inv hr hstep
    case h_2 => cases hstep
  | handlerThrew sid =>
    simp only [step] at hstep
    split at hstep
    · cases hstep
      exact quiet hostError_orderly not_false
    · cases hstep
  | chunkSettled sid failure =>
    simp only [step] at hstep
    split at hstep
    case h_1 i source sequence payload hr =>
      cases hstep
      cases failure with
      | none =>
        have hemit := (emit_frame h (e := .chunkConsumed i sequence payload) trivial).inv inv
        simp only [Overtaken, hr]
        refine (send_orderly (modifyIncoming_inv hemit i fun _ => ⟨rfl, rfl, rfl⟩) source _).trans ?_
        exact and_congr_left' (emit_orderly.trans (and_iff_left trivial))
      | some failure =>
        refine failIncomingState_orderly.trans (and_congr_right fun _ => ?_)
        obtain ⟨-, -, hclosed⟩ := inv.consuming sid i source sequence payload hr
        simp only [Overtaken, hr, not_and]
        exact ⟨fun hnot hc ho => hnot ho (hclosed hc ho),
          fun hnot ho ht => hnot (inv.terminated i ht).2 ho⟩
    case h_2 => cases hstep
  | callbackSettled sid ok =>
    simp only [step, callbackSettled] at hstep
    split at hstep
    case h_1 hr =>
      cases hstep
      simp only [Overtaken, hr]
      have f := errorHandlerSettled_frame h ok
      refine (send_orderly (f.inv inv) _ _).trans ?_
      rw [errorHandlerSettled_orderly, f.stopped]
    case h_2 hr =>
      cases hstep
      exact quiet errorHandlerSettled_orderly (by simp [Overtaken, hr])
    case h_3 hr =>
      cases hstep
      refine quiet ?_ (by simp [Overtaken, hr])
      split
      · rfl
      · exact hostError_orderly
    · cases hstep
  | sendSettled sid ok =>
    simp only [step] at hstep
    split at hstep
    · cases hstep
      refine quiet ?_ not_false
      split
      · rfl
      · exact hostError_orderly
    · cases hstep
  | stop =>
    cases hstep
    refine quiet ?_ not_false
    unfold stop
    split
    · rfl
    · refine (stopNext_orderly (stop_enters inv).1).trans ?_
      rw [Orderly, foldl_failOutgoing_log]
      exact disciplined_concat.trans (and_iff_left trivial)
  | stopResumes ok =>
    simp only [step, Option.ite_none_right_eq_some, Option.some.injEq] at hstep
    obtain ⟨-, rfl⟩ := hstep
    have hsettled := (errorHandlerSettled_frame h ok).inv inv
    exact quiet ((stopNext_orderly hsettled).trans errorHandlerSettled_orderly) not_false

/-- A run of a host keeps the callback discipline exactly if no step resumes
what a call of `stop` overtook. -/
theorem orderly_iff_not_overtaken {credit : Option ℚ} {as : List (Action Payload)} {h : Host Payload}
    (hrun : exec step (create credit) as = some h) :
    Orderly h ↔ Guarded step (fun h a => ¬ Overtaken h a) (create credit) as := by
  have hiff := exec_iff_guarded (I := fun h : Host Payload => Inv h ∧ Drained h) (Q := Orderly)
    (G := fun h a => ¬ Overtaken h a) (fun _ _ _ hi hstep => step_inv hi.1 hi.2 hstep)
    (fun _ _ _ hi hstep => step_orderly hi.1 hi.2 hstep)
    ⟨create_inv credit, fun hs => by simp [create] at hs⟩ hrun
  exact hiff.trans (and_iff_right (create_orderly credit))

def deliveredRun : List (Action Nat) :=
  [.subscribe 0, .receive "b" (.open "s"), .taskStarts "s", .handlerReturned "s" (some ⟨true, true⟩),
    .sendSettled "s" true, .receive "b" (.chunk "s" 1 7), .taskStarts "s", .chunkSettled "s" none, .stop]

theorem deliveredRun_orderly : ∃ h, exec step (create none) deliveredRun = some h ∧ (Orderly h ↔
    Guarded step (fun h a => ¬ Overtaken h a) (create none) deliveredRun) :=
  ⟨_, rfl, orderly_iff_not_overtaken rfl⟩

/-- The consumer is found only after `stop` was called. -/
def lateConsumerRun : List (Action Nat) :=
  [.subscribe 0, .receive "b" (.open "s"), .taskStarts "s", .stop,
    .handlerReturned "s" (some ⟨true, true⟩)]

def lateFailureRun : List (Action Nat) :=
  [.subscribe 0, .receive "b" (.open "s"), .taskStarts "s", .handlerReturned "s" (some ⟨true, true⟩),
    .sendSettled "s" true, .receive "b" (.chunk "s" 1 7), .taskStarts "s", .stop,
    .chunkSettled "s" (some "failed")]

theorem late_runs_disorderly :
    (∃ h, exec step (create none) lateConsumerRun = some h ∧ ¬ Orderly h) ∧
      ∃ h, exec step (create none) lateFailureRun = some h ∧ ¬ Orderly h := by
  refine ⟨⟨_, rfl, fun ho => ?_⟩, ⟨_, rfl, fun ho => ?_⟩⟩
  · exact ho [.stopCalled] (.registered 0) [_] rfl (by simp)
  · exact ho [_, _, _, _, .errorStarted 0 "stream_host_stopped"] (.errorStarted 0 "consumer_failed") [] rfl
      ⟨.errorStarted 0 "stream_host_stopped", by simp, rfl⟩

end ActorWeb.StreamDiscipline
