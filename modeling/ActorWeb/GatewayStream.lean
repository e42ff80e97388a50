import ActorWeb.Numbered

namespace ActorWeb.Gateway

open List Numbered

structure Projection (P : Type) where
  address : String
  value : P
deriving DecidableEq

structure TraceProjection (P : Type) where
  address : String
  (trace fact : Option P)
deriving DecidableEq

/-- `RuntimeGatewayReplayFrameDraft`: a frame before it is numbered. -/
inductive FrameDraft (P : Type)
  | snapshot (projection : Projection P)
  | event (projection : Projection P)
  | transition (transition : P)
  | trace (projection : TraceProjection P)
deriving DecidableEq

structure ReplayFrame (P : Type) where
  streamId : String
  sequence : Nat
  draft : FrameDraft P
deriving DecidableEq

inductive ServerFrame (P : Type)
  | ready (connectionId : String)
  | replay (frame : ReplayFrame P)
  | status (streamId : String) (replaying : Bool)
  | error (streamId : Option String)
  | pong
deriving DecidableEq

inductive Mode
  | full | commandOnly | traceOnly
deriving DecidableEq

def Mode.listens {P : Type} : Mode → FrameDraft P → Bool
  | .full, .trace _ => false
  | .full, _ => true
  | .traceOnly, .trace _ => true
  | .traceOnly, _ => false
  | .commandOnly, _ => false

/-- `fromSequence` of a request: absent, a non-negative integer, or something else. -/
inductive FromSequence
  | absent | invalid | cursor (n : Nat)

structure SourceView (P : Type) where
  snapshot : Projection P
  replaying : Bool

structure StreamState (P : Type) where
  streamId : String
  mode : Mode
  sequence : Nat
  replayFrames : List (ReplayFrame P)
  lastTrace : Option (TraceProjection P)

variable {P : Type}

def trimReplayFrames (replayBufferSize : Int) (frames : List (ReplayFrame P)) :
    List (ReplayFrame P) :=
  if replayBufferSize ≤ 0 then [] else frames.drop (frames.length - replayBufferSize.toNat)

def latestTraceFromFrames (frames : List (ReplayFrame P)) : Option (TraceProjection P) :=
  let projections := frames.filterMap fun frame =>
    match frame.draft with
    | .trace projection => some projection
    | _ => none
  (projections.reverse.find? fun projection => projection.trace.isSome).or projections.getLast?

def StreamState.restored (streamId : String) (mode : Mode) (frames : List (ReplayFrame P)) :
    StreamState P where
  streamId := streamId
  mode := mode
  sequence := (frames.getLast?.map ReplayFrame.sequence).getD 0
  replayFrames := frames
  lastTrace := latestTraceFromFrames frames

/-- What one call does: the stream after it, the frames it sends, and the buffers that it hands to
`persistReplayFrames`. -/
structure Sent (P : Type) where
  stream : StreamState P
  frames : List (ServerFrame P)
  persisted : List (List (ReplayFrame P))

def Sent.between (first last : ServerFrame P) (sent : Sent P) : Sent P :=
  { sent with frames := first :: (sent.frames ++ [last]) }

section Send

variable (replayBufferSize : Int) (s : StreamState P)

def nextSequence : Nat := s.sequence + 1

def rememberReplayFrame (frame : ReplayFrame P) : StreamState P :=
  { s with replayFrames := trimReplayFrames replayBufferSize (s.replayFrames ++ [frame]) }

def sendSequenced (draft : FrameDraft P) : Sent P :=
  let frame : ReplayFrame P := ⟨s.streamId, nextSequence s, draft⟩
  let stream := rememberReplayFrame replayBufferSize { s with sequence := nextSequence s } frame
  { stream, frames := [.replay frame], persisted := [stream.replayFrames] }

def emitDraft (draft : FrameDraft P) : Sent P :=
  if s.mode.listens draft then
    match draft with
    | .trace projection =>
      sendSequenced replayBufferSize { s with lastTrace := some projection } draft
    | _ => sendSequenced replayBufferSize s draft
  else { stream := s, frames := [], persisted := [] }

def emitDrafts : StreamState P → List (FrameDraft P) → Sent P
  | s, [] => { stream := s, frames := [], persisted := [] }
  | s, draft :: drafts =>
    let first := emitDraft replayBufferSize s draft
    let rest := emitDrafts first.stream drafts
    { stream := rest.stream
      frames := first.frames ++ rest.frames
      persisted := first.persisted ++ rest.persisted }

def canReplay (fromSequence : Nat) (frames : List (ReplayFrame P)) : Bool :=
  frames.head?.any (fun frame => frame.sequence = fromSequence) &&
    frames.zipIdx.all fun p => p.1.sequence = fromSequence + p.2

/-- The frame that a stream falls back on when its buffer cannot answer a resync. -/
def sendLatest (view : SourceView P) : Sent P :=
  match s.mode with
  | .traceOnly =>
    match s.lastTrace with
    | some projection => sendSequenced replayBufferSize s (.trace projection)
    | none => { stream := s, frames := [], persisted := [] }
  | _ => sendSequenced replayBufferSize s (.snapshot view.snapshot)

def StreamState.framesFrom (fromSequence : Nat) : List (ReplayFrame P) :=
  s.replayFrames.filter fun frame => fromSequence ≤ frame.sequence

def replayOrSendLatest (view : SourceView P) : FromSequence → Sent P
  | .cursor fromSequence =>
    if canReplay fromSequence (s.framesFrom fromSequence) then
      { stream := s, frames := (s.framesFrom fromSequence).map .replay, persisted := [] }
    else sendLatest replayBufferSize s view
  | _ => sendLatest replayBufferSize s view

def resyncStream (fromSequence : FromSequence) (view : SourceView P) : Sent P :=
  match fromSequence, s.mode with
  | .invalid, _ => { stream := s, frames := [.error (some s.streamId)], persisted := [] }
  | _, .commandOnly =>
    { stream := s
      frames := [.status s.streamId true, .status s.streamId view.replaying]
      persisted := [] }
  | _, _ =>
    (replayOrSendLatest replayBufferSize s view fromSequence).between (.status s.streamId true)
      (.status s.streamId view.replaying)

end Send

section Invariants

/-- A property of streams, of the buffers they keep and of the frames they send, that numbering a
frame keeps. -/
structure StreamInvariant (P : Type) (replayBufferSize : Int) where
  Stream : StreamState P → Prop
  Buffer : Mode → List (ReplayFrame P) → Prop
  Frame : Mode → ServerFrame P → Prop
  empty : ∀ mode, Buffer mode []
  restored : ∀ {mode frames} (streamId), Buffer mode frames → Stream (.restored streamId mode frames)
  traced : ∀ {s} (t), Stream s → Stream { s with lastTrace := t }
  unnumbered : ∀ {mode frame}, (∀ f, frame ≠ .replay f) → Frame mode frame
  replayed : ∀ {s frame}, Stream s → frame ∈ s.replayFrames → Frame s.mode (.replay frame)
  sequenced : ∀ {s draft}, Stream s → s.mode.listens draft = true →
    Stream (sendSequenced replayBufferSize s draft).stream ∧
      Buffer s.mode (sendSequenced replayBufferSize s draft).stream.replayFrames ∧
      Frame s.mode (.replay ⟨s.streamId, nextSequence s, draft⟩)

variable {replayBufferSize : Int} (I : StreamInvariant P replayBufferSize) {s : StreamState P}

/-- A call leaves a stream of the same mode with the property, and what it sends and persists
has it too. -/
structure StreamInvariant.Kept (mode : Mode) (sent : Sent P) : Prop where
  mode_eq : sent.stream.mode = mode
  stream : I.Stream sent.stream
  frames : ∀ frame ∈ sent.frames, I.Frame mode frame
  persisted : ∀ buffer ∈ sent.persisted, I.Buffer mode buffer

namespace StreamInvariant

theorem kept_quiet (h : I.Stream s) : I.Kept s.mode ⟨s, [], []⟩ := ⟨rfl, h, by simp, by simp⟩

theorem kept_sendSequenced (h : I.Stream s) {draft : FrameDraft P}
    (hdraft : s.mode.listens draft = true) :
    I.Kept s.mode (sendSequenced replayBufferSize s draft) := by
  obtain ⟨hstream, hbuffer, hframe⟩ := I.sequenced h hdraft
  refine ⟨rfl, hstream, fun frame hmem => ?_, fun buffer hmem => ?_⟩
  · rw [mem_singleton.mp hmem]
    exact hframe
  · rw [mem_singleton.mp hmem]
    exact hbuffer

theorem kept_emitDraft (h : I.Stream s) (draft : FrameDraft P) :
    I.Kept s.mode (emitDraft replayBufferSize s draft) := by
  unfold emitDraft
  split
  case isFalse => exact I.kept_quiet h
  case isTrue hlistens =>
    cases draft with
    | trace projection => exact I.kept_sendSequenced (I.traced (some projection) h) hlistens
    | snapshot _ | event _ | transition _ => exact I.kept_sendSequenced h hlistens

theorem kept_emitDrafts (h : I.Stream s) (drafts : List (FrameDraft P)) :
    I.Kept s.mode (emitDrafts replayBufferSize s drafts) := by
  induction drafts generalizing s with
  | nil => exact I.kept_quiet h
  | cons draft drafts ih =>
    have hfirst := I.kept_emitDraft h draft
    have hrest := ih hfirst.stream
    rw [hfirst.mode_eq] at hrest
    refine ⟨hrest.mode_eq, hrest.stream, fun frame hframe => ?_, fun buffer hmem => ?_⟩
    · exact (mem_append.mp hframe).elim (hfirst.frames frame) (hrest.frames frame)
    · exact (mem_append.mp hmem).elim (hfirst.persisted buffer) (hrest.persisted buffer)

theorem kept_sendLatest (h : I.Stream s) (hmode : s.mode ≠ .commandOnly) (view : SourceView P) :
    I.Kept s.mode (sendLatest replayBufferSize s view) := by
  have hlistens : ∀ draft, s.mode.listens draft = true →
      I.Kept s.mode (sendSequenced replayBufferSize s draft) := fun _ => I.kept_sendSequenced h
  have hquiet := I.kept_quiet h
  unfold sendLatest
  revert hmode hlistens hquiet
  cases s.mode with
  | commandOnly => exact fun hmode => absurd rfl hmode
  | full => exact fun _ hlistens _ => hlistens _ rfl
  | traceOnly =>
    cases s.lastTrace with
    | none => exact fun _ _ hquiet => hquiet
    | some projection => exact fun _ hlistens _ => hlistens _ rfl

theorem kept_replayOrSendLatest (h : I.Stream s) (hmode : s.mode ≠ .commandOnly)
    (view : SourceView P) (fromSequence : FromSequence) :
    I.Kept s.mode (replayOrSendLatest replayBufferSize s view fromSequence) := by
  unfold replayOrSendLatest
  split
  case h_1 n =>
    split
    case isFalse => exact I.kept_sendLatest h hmode view
    case isTrue =>
      refine ⟨rfl, h, fun frame hframe => ?_, by simp⟩
      obtain ⟨kept, hkept, rfl⟩ := mem_map.mp hframe
      exact I.replayed h (mem_filter.mp hkept).1
  case h_2 => exact I.kept_sendLatest h hmode view

theorem kept_between {mode : Mode} {sent : Sent P} (h : I.Kept mode sent)
    {first last : ServerFrame P} (hfirst : I.Frame mode first) (hlast : I.Frame mode last) :
    I.Kept mode (sent.between first last) := by
  refine ⟨h.mode_eq, h.stream, fun frame hframe => ?_, h.persisted⟩
  obtain rfl | hmem := mem_cons.mp hframe
  · exact hfirst
  · obtain hmem | hmem := mem_append.mp hmem
    · exact h.frames frame hmem
    · rw [mem_singleton.mp hmem]
      exact hlast

theorem kept_resyncStream (h : I.Stream s) (fromSequence : FromSequence) (view : SourceView P) :
    I.Kept s.mode (resyncStream replayBufferSize s fromSequence view) := by
  have hstatus : ∀ replaying, I.Frame s.mode (.status s.streamId replaying) :=
    fun _ => I.unnumbered fun _ h => by cases h
  unfold resyncStream
  split
  case h_1 =>
    refine ⟨rfl, h, fun frame hframe => ?_, by simp⟩
    rw [mem_singleton.mp hframe]
    exact I.unnumbered fun _ h => by cases h
  case h_2 =>
    refine ⟨rfl, h, fun frame hframe => ?_, by simp⟩
    obtain rfl | rfl := mem_pair.mp hframe
    · exact hstatus true
    · exact hstatus view.replaying
  case h_3 hmode =>
    exact I.kept_between (I.kept_replayOrSendLatest h hmode view _) (hstatus true)
      (hstatus view.replaying)

end StreamInvariant

end Invariants

section Buffer

variable {replayBufferSize : Int} {s : StreamState P}

/-- The buffer of a stream is bounded, and its frames are the last ones that the stream numbered. -/
structure Buffered (replayBufferSize : Int) (s : StreamState P) : Prop where
  bounded : s.replayFrames.length ≤ replayBufferSize.toNat
  numbered : EndsAt ReplayFrame.sequence s.replayFrames s.sequence

def NumberedBuffer (replayBufferSize : Int) (frames : List (ReplayFrame P)) : Prop :=
  frames.length ≤ replayBufferSize.toNat ∧ ∃ n, EndsAt ReplayFrame.sequence frames n

theorem trimReplayFrames_length (frames : List (ReplayFrame P)) :
    (trimReplayFrames replayBufferSize frames).length ≤ replayBufferSize.toNat := by
  unfold trimReplayFrames
  split
  case isTrue => exact Nat.zero_le _
  case isFalse => rw [length_drop]; omega

theorem trimReplayFrames_drop (replayBufferSize : Int) (frames : List (ReplayFrame P)) :
    ∃ k, trimReplayFrames replayBufferSize frames = frames.drop k := by
  unfold trimReplayFrames
  split
  case isTrue => exact ⟨frames.length, drop_length.symm⟩
  case isFalse => exact ⟨_, rfl⟩

variable {frames : List (ReplayFrame P)}

theorem trimReplayFrames_subset {frame : ReplayFrame P}
    (h : frame ∈ trimReplayFrames replayBufferSize frames) : frame ∈ frames := by
  obtain ⟨k, hk⟩ := trimReplayFrames_drop replayBufferSize frames
  exact mem_of_mem_drop (hk ▸ h)

theorem numbered_trim {n : Nat} (h : EndsAt ReplayFrame.sequence frames n) :
    EndsAt ReplayFrame.sequence (trimReplayFrames replayBufferSize frames) n := by
  obtain ⟨k, hk⟩ := trimReplayFrames_drop replayBufferSize frames
  rw [hk]
  exact h.drop k

theorem NumberedBuffer.trim (h : NumberedBuffer replayBufferSize frames) :
    NumberedBuffer replayBufferSize (trimReplayFrames replayBufferSize frames) :=
  ⟨trimReplayFrames_length frames, h.2.imp fun _ => numbered_trim⟩

theorem Buffered.sendSequenced (h : Buffered replayBufferSize s) (draft : FrameDraft P) :
    Buffered replayBufferSize (sendSequenced replayBufferSize s draft).stream :=
  ⟨trimReplayFrames_length _, numbered_trim (h.numbered.concat rfl)⟩

theorem NumberedBuffer.restored
    (h : NumberedBuffer replayBufferSize frames) (streamId : String) (mode : Mode) :
    Buffered replayBufferSize (.restored streamId mode frames) := by
  obtain ⟨hlength, n, hnumbered⟩ := h
  refine ⟨hlength, ?_⟩
  simp only [StreamState.restored]
  cases hlast : frames.getLast? with
  | none => rw [getLast?_eq_none_iff.mp hlast]; exact .nil _
  | some frame => rw [Option.map_some, Option.getD_some, hnumbered.getLast? hlast]; exact hnumbered

def bufferedInvariant (P : Type) (replayBufferSize : Int) : StreamInvariant P replayBufferSize where
  Stream s := Buffered replayBufferSize s ∧ (s.mode = .commandOnly → s.replayFrames = [])
  Buffer mode frames := NumberedBuffer replayBufferSize frames ∧ (mode = .commandOnly → frames = [])
  Frame _ _ := True
  empty _ := ⟨⟨Nat.zero_le _, 0, .nil 0⟩, fun _ => rfl⟩
  restored streamId h := ⟨h.1.restored streamId _, h.2⟩
  traced _ h := ⟨⟨h.1.bounded, h.1.numbered⟩, h.2⟩
  unnumbered _ := trivial
  replayed _ _ := trivial
  sequenced {s draft} h hdraft := by
    have hsent := h.1.sendSequenced draft
    have hmode : s.mode ≠ .commandOnly := by
      intro hmode
      rw [hmode] at hdraft
      cases hdraft
    exact ⟨⟨hsent, fun hm => absurd hm hmode⟩, ⟨⟨hsent.bounded, _, hsent.numbered⟩,
      fun hm => absurd hm hmode⟩, trivial⟩

theorem canReplay_of_numbers {m k : Nat} (hk : 0 < k)
    (h : frames.map ReplayFrame.sequence = List.range' m k) : canReplay m frames = true := by
  have hlength : frames.length = k := by simpa using congrArg List.length h
  have hat : ∀ i frame, frames[i]? = some frame → frame.sequence = m + i := by
    intro i frame hi
    have := congrArg (fun l : List Nat => l[i]?) h
    simp only [getElem?_map, hi, Option.map_some] at this
    have hlt := (List.getElem?_eq_some_iff.mp hi).1
    rw [getElem?_range' (by omega), Option.some.injEq] at this
    omega
  rw [canReplay, Bool.and_eq_true]
  constructor
  · cases hhead : frames.head? with
    | none =>
      rw [head?_eq_none_iff.mp hhead] at hlength
      exact absurd hlength (by simpa using Nat.ne_of_lt hk)
    | some frame =>
      have := hat 0 frame (head?_eq_getElem? ▸ hhead)
      simpa using this
  · rw [all_eq_true]
    rintro ⟨frame, i⟩ hmem
    have := hat i frame (by simpa [mem_zipIdx_iff_getElem?] using hmem)
    simpa using this

theorem resyncStream_buffered (h : Buffered replayBufferSize s) {n : Nat}
    (hn : n ∈ s.replayFrames.map ReplayFrame.sequence) (hmode : s.mode ≠ .commandOnly)
    (view : SourceView P) : ∃ frames : List (ReplayFrame P),
      (resyncStream replayBufferSize s (.cursor n) view).stream = s ∧
      (resyncStream replayBufferSize s (.cursor n) view).frames =
        .status s.streamId true :: (frames.map .replay ++ [.status s.streamId view.replaying]) ∧
      frames.map ReplayFrame.sequence = List.range' n (s.sequence + 1 - n) ∧
      frames <:+ s.replayFrames := by
  have hnumbers := h.numbered.filter_numbers hn
  have hbounds := h.numbered.mem.mp hn
  have hcan : canReplay n (s.framesFrom n) = true := canReplay_of_numbers (by omega) hnumbers
  have hreplay : resyncStream replayBufferSize s (.cursor n) view =
      Sent.between (.status s.streamId true) (.status s.streamId view.replaying)
        ⟨s, (s.framesFrom n).map .replay, []⟩ := by
    unfold resyncStream replayOrSendLatest
    cases hm : s.mode with
    | commandOnly => exact absurd hm hmode
    | full | traceOnly => simp only [hcan, if_true]
  refine ⟨s.framesFrom n, by rw [hreplay]; rfl, by rw [hreplay]; rfl, hnumbers, ?_⟩
  · rw [StreamState.framesFrom, h.numbered.filter]
    exact drop_suffix _ _

end Buffer

section Kinds

/-- A frame of a kind that the mode listens for. Frames that are not numbered have no kind. -/
def Mode.sends (mode : Mode) : ServerFrame P → Prop
  | .replay frame => mode.listens frame.draft = true
  | _ => True

def kindsInvariant (P : Type) (replayBufferSize : Int) : StreamInvariant P replayBufferSize where
  Stream s := ∀ frame ∈ s.replayFrames, s.mode.listens frame.draft = true
  Buffer mode frames := ∀ frame ∈ frames, mode.listens frame.draft = true
  Frame mode := mode.sends
  empty _ := forall_mem_nil _
  restored _ h := h
  traced _ h := h
  unnumbered {_ frame} h := by
    cases frame with
    | replay f => exact absurd rfl (h f)
    | ready _ | status _ _ | error _ | pong => exact trivial
  replayed h hmem := h _ hmem
  sequenced {s draft} h hdraft := by
    have hbuffer : ∀ frame ∈ (sendSequenced replayBufferSize s draft).stream.replayFrames,
        s.mode.listens frame.draft = true := by
      intro frame hframe
      obtain hmem | hmem := mem_append.mp (trimReplayFrames_subset hframe)
      · exact h frame hmem
      · rw [mem_singleton.mp hmem]
        exact hdraft
    exact ⟨hbuffer, hbuffer, hdraft⟩

end Kinds

end ActorWeb.Gateway
