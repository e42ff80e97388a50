import ActorWeb.StreamHost

namespace ActorWeb.StreamFrame

open List StreamHost

variable {Payload : Type}

def Outward : Event Payload → Prop
  | .wrote _ _ | .closeCalled _ | .sendStarted _ _ | .chunkConsumed _ _ _ | .hostError _ => True
  | _ => False

/-- The incoming side is unchanged and only outward events were logged. -/
structure Frame (h h' : Host Payload) : Prop where
  stopped : h'.stopped = h.stopped
  nextOutgoing : h'.nextOutgoing = h.nextOutgoing
  outgoing : ∀ i, (h'.outgoing i).streamId = (h.outgoing i).streamId
  outgoingStreams : ∀ sid i, h'.outgoingStreams.get sid = some i → h.outgoingStreams.get sid = some i
  incoming : h'.incoming = h.incoming
  nextIncoming : h'.nextIncoming = h.nextIncoming
  incomingStreams : ∀ sid i, h'.incomingStreams.get sid = some i → h.incomingStreams.get sid = some i
  running : ∀ sid i source sequence payload,
    h'.running sid = some (.consuming i source sequence payload) →
      h.running sid = some (.consuming i source sequence payload)
  queues : h'.streamMessageQueues = h.streamMessageQueues
  log : ∃ new, h'.log = h.log ++ new ∧ ∀ e ∈ new, Outward e

theorem Frame.refl (h : Host Payload) : Frame h h :=
  ⟨rfl, rfl, fun _ => rfl, fun _ _ => id, rfl, rfl, fun _ _ => id, fun _ _ _ _ _ => id,
    rfl, [], by simp⟩

theorem Frame.trans {h h' h'' : Host Payload} (a : Frame h h') (b : Frame h' h'') : Frame h h'' := by
  obtain ⟨new, hnew, hout⟩ := a.log
  obtain ⟨more, hmore, hout'⟩ := b.log
  refine ⟨b.stopped.trans a.stopped, b.nextOutgoing.trans a.nextOutgoing,
    fun i => (b.outgoing i).trans (a.outgoing i),
    fun sid i hi => a.outgoingStreams sid i (b.outgoingStreams sid i hi), b.incoming.trans a.incoming,
    b.nextIncoming.trans a.nextIncoming,
    fun sid i hi => a.incomingStreams sid i (b.incomingStreams sid i hi),
    fun sid i source sequence payload hr => a.running _ _ _ _ _ (b.running _ _ _ _ _ hr),
    b.queues.trans a.queues,
    new ++ more, by rw [hmore, hnew, append_assoc], ?_⟩
  intro e he
  exact (mem_append.mp he).elim (hout e) (hout' e)

theorem emit_frame (h : Host Payload) {e : Event Payload} (he : Outward e) : Frame h (h.emit e) :=
  { Frame.refl h with log := ⟨[e], rfl, by simpa using he⟩ }

theorem send_frame (h : Host Payload) (destination : String) (m : StreamMessage Payload) :
    Frame h (h.send destination m) := emit_frame h trivial

theorem wrote_frame (h : Host Payload) (sid : String) (payload : Payload) :
    Frame h (h.emit (.wrote sid payload)) := emit_frame h trivial

theorem closeCalled_frame (h : Host Payload) (sid : String) : Frame h (h.emit (.closeCalled sid)) :=
  emit_frame h trivial

theorem hostError_frame (h : Host Payload) (code : String) : Frame h (h.emit (.hostError code)) :=
  emit_frame h trivial

theorem modifyOutgoing_frame (h : Host Payload) (i : Nat)
    {f : OutgoingStreamState Payload → OutgoingStreamState Payload}
    (hf : ∀ o, (f o).streamId = o.streamId) : Frame h (h.modifyOutgoing i f) := by
  refine { Frame.refl h with outgoing := fun j => ?_ }
  by_cases hj : j = i
  · subst hj
    simp only [Host.modifyOutgoing, Function.update_self, hf]
  · simp only [Host.modifyOutgoing, Function.update_of_ne hj]

theorem deleteOutgoing_frame (h : Host Payload) (sid : String) : Frame h (h.deleteOutgoing sid) := by
  refine { Frame.refl h with outgoingStreams := fun sid' i hi => ?_ }
  rw [Host.deleteOutgoing, OrderedMap.get_delete] at hi
  split at hi
  · cases hi
  · exact hi

theorem setDraining_frame (h : Host Payload) (i : Nat) (d : Bool) : Frame h (h.setDraining i d) :=
  { Frame.refl h with }

theorem setHandling_frame (h : Host Payload) (sid : String) {t : Option (Handling Payload)}
    (ht : ∀ i source sequence payload, t ≠ some (.consuming i source sequence payload)) :
    Frame h (h.setHandling sid t) := by
  refine { Frame.refl h with running := fun sid' i source sequence payload hr => ?_ }
  by_cases hsid : sid' = sid
  · subst hsid
    simp only [Host.setHandling, Function.update_self] at hr
    exact absurd hr (ht _ _ _ _)
  · simpa only [Host.setHandling, Function.update_of_ne hsid] using hr

theorem finishCloseIfReady_frame (h : Host Payload) (i : Nat) : Frame h (finishCloseIfReady h i) := by
  unfold finishCloseIfReady
  split
  · exact .refl h
  · exact ((modifyOutgoing_frame h i fun _ => by rfl).trans (deleteOutgoing_frame _ _)).trans
      (send_frame _ _ _)

theorem leaveDrain_frame (h : Host Payload) (i : Nat) : Frame h (leaveDrain h i) :=
  (modifyOutgoing_frame h i fun _ => by rfl).trans (finishCloseIfReady_frame _ _)

theorem drainOutgoing_frame (h : Host Payload) (i : Nat) : Frame h (drainOutgoing h i) := by
  unfold drainOutgoing
  split
  · split
    · exact ((modifyOutgoing_frame h i fun _ => by rfl).trans (setDraining_frame _ _ _)).trans
        (send_frame _ _ _)
    · exact leaveDrain_frame h i
  · exact leaveDrain_frame h i

theorem flushOutgoing_frame (h : Host Payload) (i : Nat) : Frame h (flushOutgoing h i) := by
  unfold flushOutgoing
  split
  · exact .refl h
  · exact (modifyOutgoing_frame h i fun _ => by rfl).trans (drainOutgoing_frame _ _)

theorem failOutgoingState_frame (h : Host Payload) (i : Nat) : Frame h (failOutgoingState h i) :=
  (modifyOutgoing_frame h i fun _ => by rfl).trans (deleteOutgoing_frame _ _)

theorem drainSettled_frame (h : Host Payload) (i : Nat) (ok : Bool) : Frame h (drainSettled h i ok) := by
  unfold drainSettled
  split
  · exact (setDraining_frame h i false).trans (drainOutgoing_frame _ _)
  · exact ((setDraining_frame h i false).trans (failOutgoingState_frame _ _)).trans (leaveDrain_frame _ _)

theorem write_frame (h : Host Payload) (sid : String) (payload : Payload) :
    Frame h (write h sid payload) := by
  unfold write
  split
  · exact .refl h
  · split
    · exact .refl h
    · split
      · exact .refl h
      · exact (modifyOutgoing_frame h _ fun _ => by rfl).trans (flushOutgoing_frame _ _)

theorem closeOutgoing_frame (h : Host Payload) (sid : String) : Frame h (closeOutgoing h sid) := by
  unfold closeOutgoing
  split
  · exact .refl h
  · split
    · exact .refl h
    · split
      · exact .refl h
      · exact (modifyOutgoing_frame h _ fun _ => by rfl).trans (finishCloseIfReady_frame _ _)

theorem errorOutgoing_frame (h : Host Payload) (sid code message : String) :
    Frame h (errorOutgoing h sid code message) := by
  unfold errorOutgoing
  split
  · exact .refl h
  · split
    · exact .refl h
    · exact ((modifyOutgoing_frame h _ fun _ => by rfl).trans (deleteOutgoing_frame _ _)).trans
        (send_frame _ _ _)

theorem openSettled_frame (h : Host Payload) (sid : String) (ok : Bool) :
    Frame h (openSettled h sid ok) := by
  have herase : Frame h { h with opening := h.opening.erase sid } := { Frame.refl h with }
  unfold openSettled
  split
  · exact herase
  · exact herase.trans (deleteOutgoing_frame _ _)

theorem handleCredit_frame (h : Host Payload) (source sid : String) (credit : Option ℚ) :
    Frame h (handleCredit h source sid credit) := by
  unfold handleCredit
  split
  · exact .refl h
  · split
    · exact .refl h
    · split
      · exact hostError_frame h _
      · exact (modifyOutgoing_frame h _ fun _ => by rfl).trans (flushOutgoing_frame _ _)

theorem handleOutgoingError_frame (h : Host Payload) (source sid : String) :
    Frame h (handleOutgoingError h source sid) := by
  unfold handleOutgoingError
  split
  · exact .refl h
  · split
    · exact failOutgoingState_frame h _
    · exact hostError_frame h _

theorem replyLast_frame (h : Host Payload) (sid destination : String) (m : StreamMessage Payload) :
    Frame h (replyLast h sid destination m) :=
  (send_frame h destination m).trans (setHandling_frame _ _ (by simp))

theorem handleOpen_frame (h : Host Payload) (source sid : String) : Frame h (handleOpen h source sid) := by
  unfold handleOpen
  split
  · exact replyLast_frame h sid source _
  · exact setHandling_frame h sid (by simp)

theorem errorHandlerSettled_frame (h : Host Payload) (ok : Bool) : Frame h (errorHandlerSettled h ok) := by
  unfold errorHandlerSettled
  split
  · exact .refl h
  · exact hostError_frame h _

/-- The log only grows, and the queues of received messages stay as they are. -/
structure Grows (h h' : Host Payload) : Prop where
  log : h.log <+: h'.log
  queues : h'.streamMessageQueues = h.streamMessageQueues

theorem Grows.refl (h : Host Payload) : Grows h h := ⟨prefix_rfl, rfl⟩

theorem Grows.trans {h h' h'' : Host Payload} (a : Grows h h') (b : Grows h' h'') : Grows h h'' :=
  ⟨a.log.trans b.log, b.queues.trans a.queues⟩

variable {h h' : Host Payload}

theorem Frame.grows (f : Frame h h') : Grows h h' := by
  obtain ⟨new, hnew, -⟩ := f.log
  exact ⟨⟨new, hnew.symm⟩, f.queues⟩

theorem failIncomingState_grows (h : Host Payload) (i : Nat) (code : String) :
    Grows h (failIncomingState h i code) := by
  unfold failIncomingState
  split
  · exact ⟨prefix_append _ _, rfl⟩
  · exact ⟨prefix_rfl, rfl⟩

theorem setHandling_grows (h : Host Payload) (sid : String) (t : Option (Handling Payload)) :
    Grows h (h.setHandling sid t) := ⟨prefix_rfl, rfl⟩

theorem handleChunk_grows (h : Host Payload) (source sid : String) (sequence : Nat) (payload : Payload) :
    Grows h (handleChunk h source sid sequence payload) := by
  unfold handleChunk
  split
  · exact (replyLast_frame h sid source _).grows
  · split
    · exact (replyLast_frame h sid source _).grows
    · split
      · exact (hostError_frame h _).grows
      · split
        · exact (failIncomingState_grows h _ _).trans (setHandling_grows _ sid _)
        · exact ⟨prefix_append _ _, rfl⟩

theorem handleClose_grows (h : Host Payload) (source sid : String) : Grows h (handleClose h source sid) := by
  unfold handleClose
  split
  · exact .refl h
  · split
    · exact (hostError_frame h _).grows
    · split
      · exact ⟨prefix_append _ _, rfl⟩
      · exact ⟨prefix_rfl, rfl⟩

theorem handleIncomingError_grows (h : Host Payload) (source sid code : String) :
    Grows h (handleIncomingError h source sid code) := by
  unfold handleIncomingError
  split
  · exact .refl h
  · split
    · exact (failIncomingState_grows h _ _).trans (setHandling_grows _ sid _)
    · exact (hostError_frame h _).grows

theorem startTask_grows (h : Host Payload) (source : String) (m : StreamMessage Payload) :
    Grows h (startTask h source m) := by
  unfold startTask
  split
  · exact .refl h
  · cases m with
    | «open» sid => exact (handleOpen_frame h source sid).grows
    | credit sid credit => exact (handleCredit_frame h source sid credit).grows
    | chunk sid sequence payload => exact handleChunk_grows h source sid sequence payload
    | close sid => exact handleClose_grows h source sid
    | error sid code message =>
      exact (handleOutgoingError_frame h source sid).grows.trans
        (handleIncomingError_grows _ source sid code)

theorem open_grows (h : Host Payload) (destination sid : String) : Grows h (open_ h destination sid) := by
  unfold open_
  split
  · exact .refl h
  · exact ⟨prefix_append _ _, rfl⟩

theorem handlerReturned_grows {sid source : String} {remaining : List Nat}
    {consumer : Option Consumer} (hstep : handlerReturned h sid source remaining consumer = some h') :
    Grows h h' := by
  unfold handlerReturned at hstep
  split at hstep
  · cases hstep
    refine Grows.trans ?_ (replyLast_frame _ sid source _).grows
    exact ⟨prefix_append _ _, rfl⟩
  · cases hstep
    exact setHandling_grows h sid _
  · cases hstep
    exact (replyLast_frame h sid source _).grows
  · cases hstep

theorem chunkSettled_grows (h : Host Payload) (sid : String) (i : Nat) (source : String) (sequence : Nat)
    (payload : Payload) (failure : Option String) :
    Grows h (chunkSettled h sid i source sequence payload failure) := by
  cases failure with
  | none =>
    refine Grows.trans ?_ (replyLast_frame _ sid source _).grows
    exact ⟨prefix_append _ _, rfl⟩
  | some failure => exact (failIncomingState_grows h i _).trans (setHandling_grows _ sid _)

theorem callbackSettled_grows {sid : String} {ok : Bool}
    (hstep : callbackSettled h sid ok = some h') : Grows h h' := by
  unfold callbackSettled at hstep
  split at hstep
  · cases hstep
    exact ((errorHandlerSettled_frame h ok).trans (replyLast_frame _ sid _ _)).grows
  · cases hstep
    exact (errorHandlerSettled_frame h ok).grows.trans (setHandling_grows _ sid _)
  · cases hstep
    refine Grows.trans ?_ (setHandling_grows _ sid _)
    split
    · exact .refl h
    · exact (hostError_frame h _).grows
  · cases hstep

end ActorWeb.StreamFrame
