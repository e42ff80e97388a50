import ActorWeb.GatewayHub

namespace ActorWeb.Gateway

open List Option Function Transition

variable {Ctx P : Type} {o : HubOptions Ctx}

section Connections

variable (I : StreamInvariant P o.replayBufferSize)

/-- Frames are loaded for streams that may send them, and restored frames have the property. -/
def Activity.Keeps : Activity Ctx P → Prop
  | .loading subscription _ => subscription.mode ≠ .commandOnly
  | .registering subscription _ restored => I.Buffer subscription.mode restored
  | _ => True

/-- The streams of a connection, the frames it has restored and those its streams sent have the
property. -/
structure Connection.Keeps (c : Connection Ctx P) : Prop where
  streams : ∀ streamId s, c.streams.get streamId = some s → I.Stream s.state
  activity : c.activity.Keeps I
  sent : ∀ mode frame, .sent (some mode) frame ∈ c.log → I.Frame mode frame

def JobKeeps (job : PersistJob Ctx P) : Prop := ∃ mode, I.Buffer mode job.frames

structure ConnectionStep.Keeps (s : ConnectionStep Ctx P) : Prop where
  connection : s.connection.Keeps I
  jobs : ∀ job ∈ s.jobs, JobKeeps I job

variable {I} {c : Connection Ctx P}

namespace Connection.Keeps

theorem of_same (h : c.Keeps I) {c' : Connection Ctx P} (hstreams : c'.streams = c.streams)
    (hactivity : c'.activity = c.activity) (hlog : c'.log = c.log) : c'.Keeps I :=
  ⟨hstreams ▸ h.streams, hactivity ▸ h.activity, hlog ▸ h.sent⟩

theorem quiet (h : c.Keeps I) : c.quiet.Keeps I := ⟨h, fun _ hjob => absurd hjob not_mem_nil⟩

theorem append (h : c.Keeps I) {events : List (GatewayEvent Ctx P)}
    (hevents : ∀ mode frame, .sent (some mode) frame ∈ events → I.Frame mode frame) :
    (c.append events).Keeps I :=
  ⟨h.streams, h.activity, fun mode frame hmem =>
    (mem_append.mp hmem).elim (h.sent mode frame) (hevents mode frame)⟩

theorem send (h : c.Keeps I) {mode : Option Mode} {frames : List (ServerFrame P)}
    (hframes : ∀ m, mode = some m → ∀ frame ∈ frames, I.Frame m frame) :
    (c.send mode frames).Keeps I := by
  obtain ⟨events, heq, hevents⟩ := c.send_append mode frames
  rw [heq]
  refine h.append fun m frame hmem => ?_
  obtain ⟨sent, hsent, hsame⟩ := hevents _ hmem
  obtain ⟨hmode, rfl⟩ := GatewayEvent.sent.inj hsame
  exact hframes m hmode.symm frame hsent

theorem sendError (h : c.Keeps I) (streamId : Option String) : (c.sendError streamId).Keeps I :=
  h.send fun _ hmode => by cases hmode

theorem withActivity (h : c.Keeps I) {activity : Activity Ctx P}
    (hactivity : activity.Keeps I) : { c with activity }.Keeps I :=
  ⟨h.streams, hactivity, h.sent⟩

theorem finish (h : c.Keeps I) : c.finish.Keeps I := h.withActivity trivial

theorem cleanupStream (h : c.Keeps I) (streamId : String) : (c.cleanupStream streamId).Keeps I := by
  refine ⟨fun streamId' s hs => ?_, h.activity, h.sent⟩
  rw [Connection.cleanupStream, OrderedMap.get_delete] at hs
  split at hs
  case isTrue => cases hs
  case isFalse => exact h.streams streamId' s hs

variable {s : GatewayStream Ctx P}

variable {streamId : String}

theorem setStream (h : c.Keeps I)
    (hs : I.Stream s.state) : { c with streams := c.streams.set streamId s }.Keeps I := by
  refine ⟨fun streamId' s' hs' => ?_, h.activity, h.sent⟩
  simp only [OrderedMap.get_set] at hs'
  split at hs'
  case isTrue => exact some.inj hs' ▸ hs
  case isFalse => exact h.streams streamId' s' hs'

theorem shutdown (h : c.Keeps I) : c.shutdown.Keeps I := by
  unfold Connection.shutdown
  split
  case isTrue => exact h.quiet
  case isFalse =>
    refine ⟨⟨fun streamId s hs => ?_, h.activity, h.sent⟩, fun _ hjob => ?_⟩
    · simp at hs
    · exact absurd hjob not_mem_nil

theorem jobsOf {mode : Mode} {sent : Sent P} (h : I.Kept mode sent) :
    ∀ job ∈ jobsOf o s sent, JobKeeps I job :=
  fun _ hjob => ⟨mode, h.persisted _ (Connection.mem_jobsOf hjob).1⟩

theorem called (h : c.Keeps I) {sent : Sent P}
    (hsent : I.Kept s.state.mode sent) (frames : List (ServerFrame P))
    (hframes : ∀ frame ∈ frames, frame ∈ sent.frames) :
    ({ c with streams := c.streams.set streamId { s with state := sent.stream } }.send
      (some s.state.mode) frames).Keeps I := by
  refine (h.setStream hsent.stream).send fun m hmode frame hframe => ?_
  cases hmode
  exact hsent.frames frame (hframes frame hframe)

theorem resyncStreamById (h : c.Keeps I) (streamId : String) (fromSequence : FromSequence)
    (view : SourceView P) (cut : Option Nat) :
    (c.resyncStreamById o streamId fromSequence view cut).Keeps I := by
  unfold Connection.resyncStreamById
  split
  case h_1 => exact (h.sendError _).quiet
  case h_2 s hs =>
    have hsent := I.kept_resyncStream (h.streams streamId s hs) fromSequence view
    cases cut with
    | none => exact ⟨h.called hsent _ fun _ hframe => hframe, jobsOf hsent⟩
    | some n =>
      exact ⟨(h.called hsent _ fun _ hframe => mem_of_mem_take hframe).shutdown.connection,
        jobsOf hsent⟩

theorem greet (h : c.Keeps I) (lastConnectionId : Option String) :
    (c.greet o lastConnectionId).Keeps I := by
  refine finish (send ?_ fun _ hmode => ?_)
  · exact h.of_same rfl rfl rfl
  · cases hmode

theorem receiveFrame (h : c.Keeps I) (frame : ClientFrame) (view : SourceView P)
    (cut : Option Nat) : (c.receiveFrame o frame view cut).Keeps I := by
  unfold Connection.receiveFrame
  cases frame with
  | invalid => exact (h.sendError _).quiet
  | hello lastConnectionId =>
    simp only
    split
    · exact quiet (h.withActivity trivial)
    · exact (h.greet lastConnectionId).quiet
  | ping =>
    simp only
    split
    · exact (h.send fun _ hmode => by cases hmode).quiet
    · exact (h.sendError _).quiet
  | unsubscribe streamId =>
    simp only
    split
    · exact (h.cleanupStream streamId).quiet
    · exact (h.sendError _).quiet
  | resync streamId fromSequence =>
    simp only
    split
    · exact h.resyncStreamById streamId fromSequence view cut
    · exact (h.sendError _).quiet
  | command streamId =>
    simp only
    split
    · refine quiet ?_
      unfold beginCommand
      split
      · exact h.sendError _
      · refine h.withActivity ?_
        split <;> exact trivial
    · exact (h.sendError _).quiet
  | subscribe streamId scope mode fromSequence =>
    simp only
    split
    · refine quiet (append (withActivity (cleanupStream ?_ streamId) ?_) fun _ _ hmem => ?_)
      · exact h.of_same rfl rfl rfl
      · exact trivial
      · cases mem_singleton.mp hmem
    · exact (h.sendError _).quiet

theorem verificationEnds (h : c.Keeps I) (lastConnectionId : Option String)
    (result : Verification Ctx) : (c.verificationEnds o lastConnectionId result).Keeps I := by
  cases result with
  | accepted authContext =>
    refine quiet (greet (append ?_ fun _ _ hmem => ?_) _)
    · exact h.of_same rfl rfl rfl
    · cases mem_singleton.mp hmem
  | refused =>
    have hrefused : (c.append [.refused]).Keeps I := h.append fun _ _ hmem => by
      cases mem_singleton.mp hmem
    have hlast := (hrefused.sendError none).shutdown
    exact ⟨hlast.connection.finish, hlast.jobs⟩
  | threw => exact (h.sendError _).finish.quiet

theorem resolutionEnds (h : c.Keeps I) (subscription : Subscription Ctx) (source : Option Source) :
    (c.resolutionEnds o subscription source).Keeps I := by
  unfold Connection.resolutionEnds
  simp only
  split
  case isFalse => exact quiet (h.withActivity trivial)
  case isTrue =>
    cases source with
    | none => exact quiet ((h.sendError _).withActivity trivial)
    | some source =>
      refine (h.withActivity ?_).quiet
      split
      case isTrue hmode => exact hmode.1
      case isFalse => exact I.empty _

theorem registerListeners (h : c.Keeps I) (hs : I.Stream s.state)
    (r : Registration P) : (c.registerListeners o s r).Keeps I := by
  have hmode : (startedState s r).mode = s.state.mode := by
    unfold startedState
    split <;> rfl
  have hstarted : I.Stream (startedState s r) := by
    unfold startedState
    split
    · exact I.traced _ hs
    · exact hs
  have hsent := hmode ▸ I.kept_emitDrafts hstarted r.drafts
  have hsend : (c.send (some s.state.mode)
      (emitDrafts o.replayBufferSize (startedState s r) r.drafts).frames).Keeps I := by
    refine h.send fun m hm => ?_
    cases hm
    exact hsent.frames
  unfold Connection.registerListeners
  cases r.outcome with
  | attached => exact ⟨hsend.setStream hsent.stream, jobsOf hsent⟩
  | failed => exact ⟨hsend.sendError _, jobsOf hsent⟩
  | stale => exact ⟨hsend, jobsOf hsent⟩

theorem register (h : c.Keeps I) {subscription : Subscription Ctx} {source : Source}
    {restored : List (ReplayFrame P)} (hrestored : I.Buffer subscription.mode restored)
    (r : Registration P) : (c.register o subscription source restored r).Keeps I := by
  have hused : I.Buffer subscription.mode (usedReplayFrames restored source) := by
    unfold usedReplayFrames
    split
    · exact hrestored
    · exact I.empty _
  unfold Connection.register
  simp only
  split
  case isFalse => exact quiet (h.withActivity trivial)
  case isTrue =>
    have hstarted : { c.append [.restored subscription.origin source
        (usedReplayFrames restored source)] with
          subscriptions := c.subscriptions + 1
          activity := .subscribed subscription.origin.streamId
            subscription.fromSequence }.Keeps I := by
      have happend : (c.append [.restored subscription.origin source
          (usedReplayFrames restored source)]).Keeps I :=
        h.append fun _ _ hmem => by cases mem_singleton.mp hmem
      exact ⟨happend.streams, trivial, happend.sent⟩
    split
    case isTrue => exact (hstarted.sendError _).quiet
    case isFalse => exact hstarted.registerListeners (I.restored _ hused) r

theorem emit (h : c.Keeps I) {draft : FrameDraft P}
    {step : ConnectionStep Ctx P} (hstep : c.emit o streamId draft = some step) : step.Keeps I := by
  unfold Connection.emit at hstep
  split at hstep
  case h_1 => cases hstep
  case h_2 s hs =>
    cases hstep
    have hsent := I.kept_emitDraft (h.streams streamId s hs) draft
    exact ⟨h.called hsent _ fun _ hframe => hframe, jobsOf hsent⟩

theorem step (h : c.Keeps I) {storage : ReplayStorage P} {action : ConnectionAction Ctx P}
    (hload : ∀ subscription source, c.activity = .loading subscription source →
      subscription.mode ≠ .commandOnly → action = .load true →
      I.Buffer subscription.mode (trimReplayFrames o.replayBufferSize
        (storage c.replaySessionId (replayStorageStreamId o subscription))))
    {step : ConnectionStep Ctx P} (hstep : c.step o storage action = some step) : step.Keeps I := by
  cases action with
  | receive frame =>
    simp only [Connection.step, ite_none_left_eq_some, Option.some.injEq] at hstep
    obtain ⟨-, rfl⟩ := hstep
    unfold ingress
    split
    · exact (h.sendError none).shutdown
    · refine quiet ?_
      exact h.of_same rfl rfl rfl
  | next view cut =>
    simp only [Connection.step] at hstep
    split at hstep
    case h_1 frame rest _ _ _ =>
      cases hstep
      refine receiveFrame ?_ frame view cut
      exact h.of_same rfl rfl rfl
    case h_2 => cases hstep
  | verification result =>
    simp only [Connection.step] at hstep
    split at hstep
    case h_1 => exact some.inj hstep ▸ h.verificationEnds _ _
    case h_2 => cases hstep
  | resolution source =>
    simp only [Connection.step] at hstep
    split at hstep
    case h_1 => exact some.inj hstep ▸ h.resolutionEnds _ _
    case h_2 => cases hstep
  | load succeeds =>
    simp only [Connection.step] at hstep
    split at hstep
    case h_1 subscription source hactivity =>
      cases hstep
      have hmode : subscription.mode ≠ .commandOnly := by
        have := h.activity
        rwa [hactivity] at this
      refine (h.withActivity ?_).quiet
      cases succeeds with
      | true => exact hload subscription source hactivity hmode rfl
      | false => exact I.empty _
    case h_2 => cases hstep
  | register registration =>
    simp only [Connection.step] at hstep
    split at hstep
    case h_1 subscription source restored hactivity =>
      have hrestored := h.activity
      rw [hactivity] at hrestored
      exact some.inj hstep ▸ h.register hrestored _
    case h_2 => cases hstep
  | resume view cut =>
    simp only [Connection.step] at hstep
    split at hstep
    case h_1 => exact some.inj hstep ▸ h.finish.quiet
    case h_2 => exact some.inj hstep ▸ h.finish.resyncStreamById _ _ _ _
    case h_3 => cases hstep
  | principal resolves =>
    simp only [Connection.step] at hstep
    split at hstep
    case h_1 origin _ =>
      cases hstep
      cases resolves with
      | true => exact quiet (h.withActivity trivial)
      | false => exact (h.sendError _).finish.quiet
    case h_2 => cases hstep
  | dispatch authorized =>
    simp only [Connection.step] at hstep
    split at hstep
    case h_1 origin principalContext _ =>
      cases hstep
      cases authorized with
      | true => exact (h.append fun _ _ hmem => by cases mem_singleton.mp hmem).finish.quiet
      | false => exact (h.sendError _).finish.quiet
    case h_2 => cases hstep
  | emit streamId draft => exact h.emit hstep
  | emitStatus streamId replaying =>
    simp only [Connection.step] at hstep
    split at hstep
    case h_1 s hs =>
      cases hstep
      refine (h.send fun m _ frame hframe => ?_).quiet
      rw [mem_singleton.mp hframe]
      exact I.unnumbered fun _ heq => by cases heq
    case h_2 => cases hstep
  | close =>
    simp only [Connection.step, ite_none_left_eq_some, Option.some.injEq] at hstep
    obtain ⟨-, rfl⟩ := hstep
    exact h.shutdown

theorem attached (connectionId : String) (authContext : Ctx) :
    (Connection.attached connectionId authContext : Connection Ctx P).Keeps I where
  streams _ _ hs := absurd hs (by simp [Connection.attached])
  activity := trivial
  sent _ _ hmem := absurd hmem not_mem_nil

end Connection.Keeps

end Connections

section Runs

variable (o)

theorem keeps_step (I : StreamInvariant P o.replayBufferSize) {hub hub' : Hub Ctx P}
    (h : hub.Holds (fun _ c => c.Keeps I) (JobKeeps I)) {a : HubAction Ctx P}
    (hload : ∀ connectionId c subscription source, a = .connection connectionId (.load true) →
      hub.connections connectionId = some c → c.activity = .loading subscription source →
      subscription.mode ≠ .commandOnly →
      I.Buffer subscription.mode (trimReplayFrames o.replayBufferSize
        (hub.storage c.replaySessionId (Connection.replayStorageStreamId o subscription))))
    (hstep : hub.step o a = some hub') : hub'.Holds (fun _ c => c.Keeps I) (JobKeeps I) := by
  refine h.step (fun _ hjob => hjob) (fun id context _ => .attached id context) ?_ hstep
  intro connectionId action c s ha hc hs
  have hkept := (h.connections connectionId c hc).step
    (fun subscription source hactivity hmode haction =>
      hload connectionId c subscription source (haction ▸ ha) hc hactivity hmode) hs
  exact ⟨hkept.connection, hkept.jobs⟩

theorem buffered_run {as : List (HubAction Ctx P)} {hub : Hub Ctx P}
    (h : exec (Hub.step o) .init as = some hub) :
    hub.Holds (fun _ c => c.Keeps (bufferedInvariant P o.replayBufferSize))
      (JobKeeps (bufferedInvariant P o.replayBufferSize)) := by
  have hrun : hub.Holds (fun _ c => c.Keeps (bufferedInvariant P o.replayBufferSize))
      (JobKeeps (bufferedInvariant P o.replayBufferSize)) ∧ hub.Stored := by
    refine exec_invariant (I := fun hub => _ ∧ hub.Stored) ?_ ⟨Hub.holds_init, fun _ _ => .inl rfl⟩ h
    rintro hub a hub' ⟨hholds, hstored⟩ hstep
    refine ⟨keeps_step o _ hholds ?_ hstep, hstored.step hstep⟩
    intro connectionId c subscription source _ _ _ hmode
    have hnumbered : NumberedBuffer o.replayBufferSize (hub.storage c.replaySessionId
        (Connection.replayStorageStreamId o subscription)) := by
      obtain hempty | ⟨job, hjob, -, -, heq⟩ := hstored c.replaySessionId
        (Connection.replayStorageStreamId o subscription)
      · rw [hempty]
        exact ⟨Nat.zero_le _, 0, .nil 0⟩
      · obtain ⟨mode, hbuffer⟩ := hholds.stored job hjob
        exact heq ▸ hbuffer.1
    exact ⟨hnumbered.trim, fun hm => absurd hm hmode⟩
  exact hrun.1

/-- The frames that a connection loads are of the kinds of the mode of the subscription. -/
def Connection.LoadsOwnKinds (storage : ReplayStorage P) (c : Connection Ctx P) : Prop :=
  match c.activity with
  | .loading subscription _ =>
    ∀ frame ∈ storage c.replaySessionId (Connection.replayStorageStreamId o subscription),
      subscription.mode.listens frame.draft = true
  | _ => True

def LoadsOwnKinds (hub : Hub Ctx P) : HubAction Ctx P → Prop
  | .connection connectionId (.load true) =>
    ∀ c ∈ hub.connections connectionId, c.LoadsOwnKinds o hub.storage
  | _ => True

instance (storage : ReplayStorage P) (c : Connection Ctx P) :
    Decidable (c.LoadsOwnKinds o storage) := by
  unfold Connection.LoadsOwnKinds
  split <;> infer_instance

instance (hub : Hub Ctx P) : (a : HubAction Ctx P) → Decidable (LoadsOwnKinds o hub a)
  | .connection connectionId (.load true) =>
    inferInstanceAs (Decidable (∀ c ∈ hub.connections connectionId, c.LoadsOwnKinds o hub.storage))
  | .attach _ _ => .isTrue trivial
  | .startPersist _ => .isTrue trivial
  | .finishPersist _ _ => .isTrue trivial
  | .connection _ (.receive _) => .isTrue trivial
  | .connection _ (.next _ _) => .isTrue trivial
  | .connection _ (.verification _) => .isTrue trivial
  | .connection _ (.resolution _) => .isTrue trivial
  | .connection _ (.load false) => .isTrue trivial
  | .connection _ (.register _) => .isTrue trivial
  | .connection _ (.resume _ _) => .isTrue trivial
  | .connection _ (.principal _) => .isTrue trivial
  | .connection _ (.dispatch _) => .isTrue trivial
  | .connection _ (.emit _ _) => .isTrue trivial
  | .connection _ (.emitStatus _ _) => .isTrue trivial
  | .connection _ .close => .isTrue trivial

theorem kinds_run {as : List (HubAction Ctx P)} {hub : Hub Ctx P}
    (hguard : Guarded (Hub.step o) (LoadsOwnKinds o) .init as)
    (h : exec (Hub.step o) .init as = some hub) :
    hub.Holds (fun _ c => c.Keeps (kindsInvariant P o.replayBufferSize))
      (JobKeeps (kindsInvariant P o.replayBufferSize)) := by
  refine guarded_invariant ?_ Hub.holds_init hguard h
  intro hub a hub' hholds hstep hloads
  refine keeps_step o _ hholds ?_ hstep
  rintro connectionId c subscription source rfl hc hactivity _ frame hframe
  have hown := hloads c hc
  rw [Connection.LoadsOwnKinds, hactivity] at hown
  exact hown frame (trimReplayFrames_subset hframe)

/-- What a stream of a connection has at every time: a bounded buffer of consecutive frames that
ends at its sequence, from which a resync is answered with exactly the frames from its cursor on. -/
structure ReplaysItsBuffer (c : Connection Ctx P) (streamId : String) (s : GatewayStream Ctx P) :
    Prop where
  bounded : s.state.replayFrames.length ≤ o.replayBufferSize.toNat
  consecutive : s.state.replayFrames.map ReplayFrame.sequence =
    List.range' (s.state.sequence + 1 - s.state.replayFrames.length) s.state.replayFrames.length
  resyncs : ∀ fromSequence ∈ s.state.replayFrames.map ReplayFrame.sequence,
    ∀ view : SourceView P, ∃ frames : List (ReplayFrame P),
      frames.map ReplayFrame.sequence =
        List.range' fromSequence (s.state.sequence + 1 - fromSequence) ∧
      (∀ frame ∈ frames, frame ∈ s.state.replayFrames) ∧
      (c.resyncStreamById o streamId (.cursor fromSequence) view none).connection =
        { c with streams := c.streams.set streamId s }.send (some s.state.mode)
          (ServerFrame.status s.state.streamId true ::
            (frames.map ServerFrame.replay ++
              [ServerFrame.status s.state.streamId view.replaying]))

theorem replaysItsBuffer {c : Connection Ctx P} {streamId : String} {s : GatewayStream Ctx P}
    (hs : c.streams.get streamId = some s)
    (h : (bufferedInvariant P o.replayBufferSize).Stream s.state) :
    ReplaysItsBuffer o c streamId s := by
  obtain ⟨hbuffered, hcommand⟩ := h
  refine ⟨hbuffered.bounded, hbuffered.numbered.numbers, fun n hn view => ?_⟩
  have hmode : s.state.mode ≠ .commandOnly := by
    intro hmode
    rw [hcommand hmode] at hn
    exact absurd hn not_mem_nil
  obtain ⟨frames, hstream, hframes, hnumbers, hsuffix⟩ :=
    resyncStream_buffered hbuffered hn hmode view
  refine ⟨frames, hnumbers, fun frame hframe => hsuffix.subset hframe, ?_⟩
  simp only [Connection.resyncStreamById, hs, hframes, hstream]

/-- In every run the streams replay their buffers, and in a run in which streams are loaded with
frames of their own kinds, they send frames of their own kinds only. -/
theorem streams_replay {as : List (HubAction Ctx P)} {hub : Hub Ctx P}
    (h : exec (Hub.step o) .init as = some hub) :
    (∀ connectionId c, hub.connections connectionId = some c →
      ∀ streamId s, c.streams.get streamId = some s → ReplaysItsBuffer o c streamId s) ∧
    (Guarded (Hub.step o) (LoadsOwnKinds o) .init as →
      ∀ connectionId c, hub.connections connectionId = some c →
        ∀ mode frame, .sent (some mode) frame ∈ c.log → mode.sends frame) := by
  constructor
  · intro connectionId c hc streamId s hs
    exact replaysItsBuffer o hs (((buffered_run o h).connections connectionId c hc).streams _ _ hs)
  · intro hguard connectionId c hc
    exact ((kinds_run o hguard h).connections connectionId c hc).sent

def sharedOptions : HubOptions Unit where
  replayBufferSize := 4
  inboundQueueLimit := 64
  replayStorage := true
  auth := false
  commandAdmission := false
  localeLe _ _ := true
  replayOwnerKey _ := none

def sharedScope : Scope := ⟨"k", none⟩

def processed (frame : ClientFrame) : List (HubAction Unit Unit) :=
  [.connection "c" (.receive frame), .connection "c" (.next ⟨⟨"a", ()⟩, false⟩ none)]

/-- A subscription of the one stream, whose source hands over the drafts at once. -/
def subscribed (mode : Mode) (fromSequence : FromSequence) (drafts : List (FrameDraft Unit)) :
    List (HubAction Unit Unit) :=
  processed (.subscribe "s" sharedScope mode fromSequence) ++
    [.connection "c" (.resolution (some ⟨"a", true⟩)), .connection "c" (.load true),
      .connection "c" (.register ⟨none, drafts, .attached⟩),
      .connection "c" (.resume ⟨⟨"a", ()⟩, false⟩ none)]

def sharedKey : String :=
  runtimeGatewayReplayStorageKey "c"
    (runtimeGatewayReplayStorageStreamId sharedOptions.localeLe "s" sharedScope)

/-- A stream is subscribed in full, its snapshot is stored, and then it is subscribed again in the
second mode from the first frame on. -/
def resubscribedRun (second : Mode) : List (HubAction Unit Unit) :=
  [.attach "c" ()] ++ processed (.hello none) ++
    subscribed .full .absent [.snapshot ⟨"a", ()⟩] ++
    [.startPersist sharedKey, .finishPersist sharedKey true] ++
    subscribed second (.cursor 1) []

theorem traceOnly_sends_snapshot : ∃ hub c,
    exec (Hub.step sharedOptions) .init (resubscribedRun .traceOnly) = some hub ∧
    hub.connections "c" = some c ∧
    ¬ ∀ mode frame, .sent (some mode) frame ∈ c.log → mode.sends frame := by
  have hrun : ((exec (Hub.step sharedOptions) .init (resubscribedRun .traceOnly)).bind
      fun hub => hub.connections "c").any (fun c => decide (GatewayEvent.sent (some .traceOnly)
        (.replay ⟨"s", 1, .snapshot ⟨"a", ()⟩⟩) ∈ c.log)) = true := by
    decide +kernel
  obtain ⟨c, hc, hmem⟩ := (Option.any_eq_true _ _).mp hrun
  obtain ⟨hub, hhub, hc⟩ := bind_eq_some_iff.mp hc
  exact ⟨hub, c, hhub, hc, fun hsends =>
    Bool.false_ne_true (hsends _ _ (of_decide_eq_true hmem))⟩

theorem streams_replay_resubscribed : ∃ hub,
    exec (Hub.step sharedOptions) .init (resubscribedRun .full) = some hub ∧
    ∀ connectionId c, hub.connections connectionId = some c →
      ∀ mode frame, .sent (some mode) frame ∈ c.log → mode.sends frame := by
  have hrun : (exec (Hub.step sharedOptions) .init (resubscribedRun .full)).isSome = true := by
    decide +kernel
  obtain ⟨hub, hhub⟩ := isSome_iff_exists.mp hrun
  have hguard : Guarded (Hub.step sharedOptions) (LoadsOwnKinds sharedOptions) .init
      (resubscribedRun .full) := by
    decide +kernel
  exact ⟨hub, hhub, (streams_replay sharedOptions hhub).2 hguard⟩

end Runs

end ActorWeb.Gateway
