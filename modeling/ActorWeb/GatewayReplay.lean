import ActorWeb.GatewayHub

namespace ActorWeb.Gateway

open Option hiding all_eq_true

open List Function Transition Json JsText

variable {Ctx P : Type} (o : HubOptions Ctx)

section Keys

/-- The session and the storage stream id of what an origin subscribed. -/
structure Keyed (replaySessionId replayStorageStreamId : String) (origin : Origin Ctx) : Prop where
  uuid : isUuid origin.connectionId = true
  session : ∃ last, replaySessionId =
    replaySessionIdOf (o.replayOwnerKey origin.authContext) origin.connectionId last
  stream : replayStorageStreamId =
    runtimeGatewayReplayStorageStreamId o.localeLe origin.streamId origin.scope

def PersistJob.Keyed (job : PersistJob Ctx P) : Prop :=
  Gateway.Keyed o job.replaySessionId job.replayStorageStreamId job.origin

def StoredFor (stores : List (PersistJob Ctx P)) (origin : Origin Ctx)
    (frames : List (ReplayFrame P)) : Prop :=
  ∀ frame ∈ frames, ∃ job ∈ stores, frame ∈ job.frames ∧
    Gateway.Keyed o job.replaySessionId job.replayStorageStreamId origin

variable {o} {stores stores' : List (PersistJob Ctx P)}

theorem StoredFor.mono {origin : Origin Ctx} {frames : List (ReplayFrame P)}
    (h : StoredFor o stores origin frames) (hstores : ∀ job ∈ stores, job ∈ stores') :
    StoredFor o stores' origin frames := fun frame hframe =>
  let ⟨job, hjob, hrest⟩ := h frame hframe
  ⟨job, hstores job hjob, hrest⟩

end Keys

section Connections

def Belongs (c : Connection Ctx P) (origin : Origin Ctx) : Prop :=
  c.greeted = true ∧ origin.connectionId = c.connectionId ∧
    origin.authContext = c.authenticatedAuthContext

def Activity.Restores (stores : List (PersistJob Ctx P)) (c : Connection Ctx P) :
    Activity Ctx P → Prop
  | .resolving subscription | .loading subscription _ => Belongs c subscription.origin
  | .registering subscription _ restored =>
    Belongs c subscription.origin ∧ StoredFor o stores subscription.origin restored
  | _ => True

structure Restored (stores : List (PersistJob Ctx P)) (connectionId : String) (origin : Origin Ctx)
    (source : Source) (frames : List (ReplayFrame P)) : Prop where
  own : origin.connectionId = connectionId
  uuid : isUuid connectionId = true
  stored : StoredFor o stores origin frames
  used : restoredReplayFramesMatchSource frames source = true

/-- What a connection restored was stored for it, and its streams have the keys of their origins. -/
structure Connection.Restores (stores : List (PersistJob Ctx P)) (connectionId : String)
    (c : Connection Ctx P) : Prop where
  id_eq : c.connectionId = connectionId
  uuid : isUuid connectionId = true
  session : c.greeted = true → ∃ last, c.replaySessionId =
    replaySessionIdOf (o.replayOwnerKey c.authenticatedAuthContext) c.connectionId last
  activity : c.activity.Restores o stores c
  streams : ∀ streamId s, c.streams.get streamId = some s →
    Keyed o s.replaySessionId s.replayStorageStreamId s.origin
  restored : ∀ origin source frames, .restored origin source frames ∈ c.log →
    Restored o stores connectionId origin source frames

variable {o} {stores stores' : List (PersistJob Ctx P)} {connectionId : String}
variable {c c' : Connection Ctx P}

namespace Connection.Restores

theorem mono (h : c.Restores o stores connectionId) (hstores : ∀ job ∈ stores, job ∈ stores') :
    c.Restores o stores' connectionId := by
  refine ⟨h.id_eq, h.uuid, h.session, ?_, h.streams, fun origin source frames hmem =>
    have hrestored := h.restored origin source frames hmem
    ⟨hrestored.own, hrestored.uuid, hrestored.stored.mono hstores, hrestored.used⟩⟩
  have hactivity := h.activity
  revert hactivity
  cases c.activity with
  | registering subscription source restored => exact fun hr => ⟨hr.1, hr.2.mono hstores⟩
  | resolving _ | loading _ _ => exact id
  | idle | verifying _ | subscribed _ _ | admitting _ | dispatching _ _ => exact fun _ => trivial

variable {subscription : Subscription Ctx} {s : GatewayStream Ctx P}

theorem keyed (h : c.Restores o stores connectionId) (hbelongs : Belongs c subscription.origin) :
    Keyed o c.replaySessionId (Connection.replayStorageStreamId o subscription)
      subscription.origin := by
  obtain ⟨hgreeted, hid, hcontext⟩ := hbelongs
  exact ⟨hid ▸ h.id_eq ▸ h.uuid, by rw [hid, hcontext]; exact h.session hgreeted, rfl⟩

theorem append (h : c.Restores o stores connectionId) {events : List (GatewayEvent Ctx P)}
    (hevents : ∀ origin source frames, .restored origin source frames ∈ events →
      Restored o stores connectionId origin source frames) :
    (c.append events).Restores o stores connectionId := by
  refine ⟨h.id_eq, h.uuid, h.session, h.activity, h.streams, fun origin source frames hmem => ?_⟩
  exact (mem_append.mp hmem).elim (h.restored origin source frames)
    (hevents origin source frames)

theorem send (h : c.Restores o stores connectionId) (mode : Option Mode)
    (frames : List (ServerFrame P)) : (c.send mode frames).Restores o stores connectionId := by
  obtain ⟨events, heq, hevents⟩ := c.send_append mode frames
  rw [heq]
  refine h.append fun origin source frames hmem => ?_
  obtain ⟨frame, -, hsame⟩ := hevents _ hmem
  cases hsame

theorem sendError (h : c.Restores o stores connectionId) (streamId : Option String) :
    (c.sendError streamId).Restores o stores connectionId :=
  h.send none _

theorem withActivity (h : c.Restores o stores connectionId) {activity : Activity Ctx P}
    (hactivity : activity.Restores o stores c) :
    { c with activity }.Restores o stores connectionId := by
  refine ⟨h.id_eq, h.uuid, h.session, ?_, h.streams, h.restored⟩
  revert hactivity
  cases activity <;> exact id

theorem finish (h : c.Restores o stores connectionId) : c.finish.Restores o stores connectionId :=
  h.withActivity trivial

theorem setStream (h : c.Restores o stores connectionId) {streamId : String}
    (hs : Keyed o s.replaySessionId s.replayStorageStreamId s.origin) :
    { c with streams := c.streams.set streamId s }.Restores o stores connectionId := by
  refine ⟨h.id_eq, h.uuid, h.session, h.activity, fun streamId' s' hs' => ?_, h.restored⟩
  rw [OrderedMap.get_set] at hs'
  split at hs'
  case isTrue => exact some.inj hs' ▸ hs
  case isFalse => exact h.streams streamId' s' hs'

theorem cleanupStream (h : c.Restores o stores connectionId) (streamId : String) :
    (c.cleanupStream streamId).Restores o stores connectionId := by
  refine ⟨h.id_eq, h.uuid, h.session, h.activity, fun streamId' s hs => ?_, h.restored⟩
  rw [Connection.cleanupStream, OrderedMap.get_delete] at hs
  split at hs
  case isTrue => cases hs
  case isFalse => exact h.streams streamId' s hs

theorem shutdown (h : c.Restores o stores connectionId) :
    c.shutdown.connection.Restores o stores connectionId := by
  unfold Connection.shutdown
  split
  case isTrue => exact h
  case isFalse =>
    exact ⟨h.id_eq, h.uuid, h.session, h.activity,
      fun _ _ hs => absurd ((OrderedMap.get_empty _).symm.trans hs) (by simp), h.restored⟩

/-- A step of a connection keeps what it restores, and queues jobs with their keys. -/
structure Kept (stores : List (PersistJob Ctx P)) (connectionId : String)
    (s : ConnectionStep Ctx P) : Prop where
  connection : s.connection.Restores o stores connectionId
  jobs : ∀ job ∈ s.jobs, job.Keyed o

theorem quiet (h : c.Restores o stores connectionId) : Kept (o := o) stores connectionId c.quiet :=
  ⟨h, fun _ hjob => absurd hjob not_mem_nil⟩

theorem shutdown_jobs (c : Connection Ctx P) : ∀ job ∈ c.shutdown.jobs, job.Keyed o := by
  have hnone : c.shutdown.jobs = [] := by
    unfold Connection.shutdown
    split <;> rfl
  rw [hnone]
  exact fun _ hjob => absurd hjob not_mem_nil

theorem jobs_keyed {sent : Sent P}
    (hs : Keyed o s.replaySessionId s.replayStorageStreamId s.origin) :
    ∀ job ∈ jobsOf o s sent, job.Keyed o := by
  intro job hjob
  obtain ⟨-, hsession, hstream, horigin⟩ := Connection.mem_jobsOf hjob
  rw [PersistJob.Keyed, hsession, hstream, horigin]
  exact hs

theorem resyncStreamById (h : c.Restores o stores connectionId) (streamId : String)
    (fromSequence : FromSequence) (view : SourceView P) (cut : Option Nat) :
    Kept (o := o) stores connectionId
      (c.resyncStreamById o streamId fromSequence view cut) := by
  unfold Connection.resyncStreamById
  split
  case h_1 => exact (h.sendError _).quiet
  case h_2 s hs =>
    have hkeyed := h.streams streamId s hs
    have hset : { c with streams := c.streams.set streamId { s with
        state := (resyncStream o.replayBufferSize s.state fromSequence view).stream } }.Restores o
          stores connectionId :=
      h.setStream hkeyed
    cases cut with
    | none => exact ⟨hset.send _ _, jobs_keyed hkeyed⟩
    | some n => exact ⟨(hset.send _ _).shutdown, jobs_keyed hkeyed⟩

theorem greet (h : c.Restores o stores connectionId)
    (hactivity : ∀ c' : Connection Ctx P, c.activity.Restores o stores c')
    (lastConnectionId : Option String) :
    (c.greet o lastConnectionId).Restores o stores connectionId := by
  refine finish (send ?_ none _)
  exact ⟨h.id_eq, h.uuid, fun _ => ⟨lastConnectionId, rfl⟩, hactivity _, h.streams, h.restored⟩

theorem receiveFrame (h : c.Restores o stores connectionId) (hidle : c.activity = .idle)
    (frame : ClientFrame) (view : SourceView P) (cut : Option Nat) :
    Kept (o := o) stores connectionId (c.receiveFrame o frame view cut) := by
  unfold Connection.receiveFrame
  cases frame with
  | invalid => exact (h.sendError _).quiet
  | hello lastConnectionId =>
    simp only
    split
    · exact quiet (h.withActivity trivial)
    · exact (h.greet (fun _ => hidle ▸ trivial) _).quiet
  | ping =>
    simp only
    split
    · exact (h.send _ _).quiet
    · exact (h.sendError _).quiet
  | unsubscribe streamId =>
    simp only
    split
    · exact (h.cleanupStream streamId).quiet
    · exact (h.sendError _).quiet
  | resync streamId fromSequence =>
    simp only
    split
    · exact h.resyncStreamById streamId fromSequence view cut
    · exact (h.sendError _).quiet
  | command streamId =>
    simp only
    split
    · refine quiet ?_
      unfold beginCommand
      split
      · exact h.sendError _
      · refine h.withActivity ?_
        split <;> exact trivial
    · exact (h.sendError _).quiet
  | subscribe streamId scope mode fromSequence =>
    simp only
    split
    case isFalse => exact (h.sendError _).quiet
    case isTrue hgreeted =>
      have hgreeted : c.greeted = true := (Bool.and_eq_true_iff.mp hgreeted).1
      have hclean := h.cleanupStream streamId
      refine quiet (append ?_ fun _ _ _ hmem => by cases mem_singleton.mp hmem)
      exact ⟨h.id_eq, h.uuid, h.session, ⟨hgreeted, rfl, rfl⟩, hclean.streams, h.restored⟩

theorem verificationEnds (h : c.Restores o stores connectionId) {lastConnectionId : Option String}
    (hactivity : c.activity = .verifying lastConnectionId) (result : Verification Ctx) :
    Kept (o := o) stores connectionId (c.verificationEnds o lastConnectionId result) := by
  cases result with
  | accepted authContext =>
    have hsession : ∀ c' : Connection Ctx P, c.activity.Restores o stores c' := by
      rw [hactivity]
      exact fun _ => trivial
    refine quiet (finish (send ?_ none _))
    refine ⟨h.id_eq, h.uuid, fun _ => ⟨lastConnectionId, rfl⟩, hsession _, h.streams,
      fun origin source frames hmem => ?_⟩
    obtain hmem | hmem := mem_append.mp hmem
    · exact h.restored origin source frames hmem
    · cases mem_singleton.mp hmem
  | refused =>
    have hrefused : (c.append [.refused]).Restores o stores connectionId :=
      h.append fun _ _ _ hmem => by cases mem_singleton.mp hmem
    exact ⟨(hrefused.sendError none).shutdown.finish, (shutdown_jobs _)⟩
  | threw => exact (h.sendError _).finish.quiet

theorem resolutionEnds (h : c.Restores o stores connectionId)
    (hactivity : c.activity = .resolving subscription) (source : Option Source) :
    Kept (o := o) stores connectionId (c.resolutionEnds o subscription source) := by
  have hbelongs : Belongs c subscription.origin := by
    have hrestores := h.activity
    rwa [hactivity] at hrestores
  unfold Connection.resolutionEnds
  simp only
  split
  case isFalse => exact quiet (h.withActivity trivial)
  case isTrue =>
    cases source with
    | none => exact quiet ((h.sendError _).withActivity trivial)
    | some source =>
      refine quiet (h.withActivity ?_)
      split
      · exact hbelongs
      · exact ⟨hbelongs, fun _ hframe => absurd hframe not_mem_nil⟩

theorem registerListeners (h : c.Restores o stores connectionId)
    (hs : Keyed o s.replaySessionId s.replayStorageStreamId s.origin) (r : Registration P) :
    Kept (o := o) stores connectionId (c.registerListeners o s r) := by
  have hsend := h.send (some s.state.mode)
    (emitDrafts o.replayBufferSize (startedState s r) r.drafts).frames
  unfold Connection.registerListeners
  cases r.outcome with
  | attached => exact ⟨hsend.setStream hs, jobs_keyed hs⟩
  | failed => exact ⟨hsend.sendError _, jobs_keyed hs⟩
  | stale => exact ⟨hsend, jobs_keyed hs⟩

theorem usedReplayFrames_matches (restored : List (ReplayFrame P)) (source : Source) :
    restoredReplayFramesMatchSource (usedReplayFrames restored source) source = true := by
  unfold usedReplayFrames
  split
  case isTrue h => exact h
  case isFalse => rfl

theorem register (h : c.Restores o stores connectionId)
    {source : Source} {restored : List (ReplayFrame P)}
    (hactivity : c.activity = .registering subscription source restored) (r : Registration P) :
    Kept (o := o) stores connectionId (c.register o subscription source restored r) := by
  obtain ⟨hbelongs, hstored⟩ :
      Belongs c subscription.origin ∧ StoredFor o stores subscription.origin restored := by
    have hrestores := h.activity
    rwa [hactivity] at hrestores
  have hused : StoredFor o stores subscription.origin (usedReplayFrames restored source) := by
    unfold usedReplayFrames
    split
    · exact hstored
    · exact fun _ hframe => absurd hframe not_mem_nil
  unfold Connection.register
  simp only
  split
  case isFalse => exact quiet (h.withActivity trivial)
  case isTrue =>
    have happend : (c.append [.restored subscription.origin source
        (usedReplayFrames restored source)]).Restores o stores connectionId := by
      refine h.append fun origin source' frames hmem => ?_
      obtain ⟨rfl, rfl, rfl⟩ := GatewayEvent.restored.inj (mem_singleton.mp hmem)
      exact ⟨hbelongs.2.1.trans h.id_eq, h.uuid, hused, usedReplayFrames_matches restored source'⟩
    have hstarted : ({ c.append [.restored subscription.origin source
        (usedReplayFrames restored source)] with
          subscriptions := c.subscriptions + 1
          activity := .subscribed subscription.origin.streamId
            subscription.fromSequence } : Connection Ctx P).Restores o stores connectionId :=
      ⟨happend.id_eq, happend.uuid, happend.session, trivial, happend.streams, happend.restored⟩
    split
    case isTrue => exact (hstarted.sendError _).quiet
    case isFalse => exact hstarted.registerListeners (h.keyed hbelongs) r

theorem step (h : c.Restores o stores connectionId) {storage : ReplayStorage P}
    (hstorage : ∀ replaySessionId streamId, storage replaySessionId streamId = [] ∨
      ∃ job ∈ stores, job.replaySessionId = replaySessionId ∧
        job.replayStorageStreamId = streamId ∧ storage replaySessionId streamId = job.frames)
    {action : ConnectionAction Ctx P} {step : ConnectionStep Ctx P}
    (hstep : c.step o storage action = some step) : Kept (o := o) stores connectionId step := by
  cases action with
  | receive frame =>
    simp only [Connection.step, ite_none_left_eq_some, some.injEq] at hstep
    obtain ⟨-, rfl⟩ := hstep
    unfold ingress
    split
    · exact ⟨(h.sendError none).shutdown, shutdown_jobs _⟩
    · refine quiet ?_
      exact ⟨h.id_eq, h.uuid, h.session, h.activity, h.streams, h.restored⟩
  | next view cut =>
    simp only [Connection.step] at hstep
    split at hstep
    case h_1 frame rest _ hidle _ =>
      cases hstep
      have hrest : { c with pendingFrames := rest }.Restores o stores connectionId :=
        ⟨h.id_eq, h.uuid, h.session, h.activity, h.streams, h.restored⟩
      exact hrest.receiveFrame hidle frame view cut
    case h_2 => cases hstep
  | verification result =>
    simp only [Connection.step] at hstep
    split at hstep
    case h_1 hactivity => exact some.inj hstep ▸ h.verificationEnds hactivity _
    case h_2 => cases hstep
  | resolution source =>
    simp only [Connection.step] at hstep
    split at hstep
    case h_1 hactivity => exact some.inj hstep ▸ h.resolutionEnds hactivity _
    case h_2 => cases hstep
  | load succeeds =>
    simp only [Connection.step] at hstep
    split at hstep
    case h_1 subscription source hactivity =>
      cases hstep
      have hbelongs : Belongs c subscription.origin := by
        have hrestores := h.activity
        rwa [hactivity] at hrestores
      refine quiet (h.withActivity ⟨hbelongs, fun frame hframe => ?_⟩)
      cases succeeds with
      | false => exact absurd hframe not_mem_nil
      | true =>
        have hmem := trimReplayFrames_subset hframe
        obtain hempty | ⟨job, hjob, hsession, hstream, heq⟩ := hstorage c.replaySessionId
          (Connection.replayStorageStreamId o subscription)
        · rw [hempty] at hmem
          exact absurd hmem not_mem_nil
        · rw [heq] at hmem
          exact ⟨job, hjob, hmem, hsession ▸ hstream ▸ h.keyed hbelongs⟩
    case h_2 => cases hstep
  | register registration =>
    simp only [Connection.step] at hstep
    split at hstep
    case h_1 hactivity => exact some.inj hstep ▸ h.register hactivity _
    case h_2 => cases hstep
  | resume view cut =>
    simp only [Connection.step] at hstep
    split at hstep
    case h_1 => exact some.inj hstep ▸ h.finish.quiet
    case h_2 => exact some.inj hstep ▸ h.finish.resyncStreamById _ _ _ _
    case h_3 => cases hstep
  | principal resolves =>
    simp only [Connection.step] at hstep
    split at hstep
    case h_1 origin _ =>
      cases hstep
      cases resolves with
      | true => exact quiet (h.withActivity trivial)
      | false => exact (h.sendError _).finish.quiet
    case h_2 => cases hstep
  | dispatch authorized =>
    simp only [Connection.step] at hstep
    split at hstep
    case h_1 origin principalContext _ =>
      cases hstep
      cases authorized with
      | true =>
        exact (h.append fun _ _ _ hmem => by
          cases mem_singleton.mp hmem).finish.quiet
      | false => exact (h.sendError _).finish.quiet
    case h_2 => cases hstep
  | emit streamId draft =>
    simp only [Connection.step, Connection.emit] at hstep
    split at hstep
    case h_1 => cases hstep
    case h_2 s hs =>
      cases hstep
      have hkeyed := h.streams streamId s hs
      refine ⟨send (setStream h ?_) _ _, jobs_keyed hkeyed⟩
      exact hkeyed
  | emitStatus streamId replaying =>
    simp only [Connection.step] at hstep
    split at hstep
    case h_1 => exact some.inj hstep ▸ (h.send _ _).quiet
    case h_2 => cases hstep
  | close =>
    simp only [Connection.step, ite_none_left_eq_some, some.injEq] at hstep
    obtain ⟨-, rfl⟩ := hstep
    exact ⟨h.shutdown, shutdown_jobs _⟩

theorem attached (huuid : isUuid connectionId = true) (authContext : Ctx) :
    (Connection.attached connectionId authContext : Connection Ctx P).Restores o stores
      connectionId where
  id_eq := rfl
  uuid := huuid
  session hgreeted := by cases hgreeted
  activity := trivial
  streams _ _ hs := absurd ((OrderedMap.get_empty _).symm.trans hs) (by simp)
  restored _ _ _ hmem := absurd hmem not_mem_nil

end Connection.Restores

end Connections

section Runs

theorem restores_run {as : List (HubAction Ctx P)} {hub : Hub Ctx P}
    (h : exec (Hub.step o) .init as = some hub) :
    hub.Holds (fun id c => c.Restores o hub.stores id) (PersistJob.Keyed o) := by
  have hrun : hub.Holds (fun id c => c.Restores o hub.stores id) (PersistJob.Keyed o) ∧
      hub.Stored := by
    refine exec_invariant (I := fun hub => hub.Holds (fun id c => c.Restores o hub.stores id)
      (PersistJob.Keyed o) ∧ hub.Stored) ?_ ⟨Hub.holds_init, fun _ _ => .inl rfl⟩ h
    rintro hub a hub' ⟨hholds, hstored⟩ hstep
    have hnext : hub'.Holds (fun id c => c.Restores o hub.stores id) (PersistJob.Keyed o) := by
      refine hholds.step (fun _ hjob => hjob) (fun id context huuid => .attached huuid context) ?_
        hstep
      intro connectionId action c s _ hc hs
      have hkept := (hholds.connections connectionId c hc).step hstored hs
      exact ⟨hkept.connection, hkept.jobs⟩
    exact ⟨⟨fun id c hc => (hnext.connections id c hc).mono (Hub.stores_step hstep), hnext.queued,
      hnext.stored⟩, hstored.step hstep⟩
  exact hrun.1

def Unaddressed (frame : ReplayFrame P) : Prop :=
  (replayFrameAddress frame).filter (· ≠ "") = none

theorem lastAddressed_of_match {frames : List (ReplayFrame P)} {source : Source}
    (h : restoredReplayFramesMatchSource frames source = true) (hne : frames ≠ []) :
    ∃ before frame after, frames = before ++ frame :: after ∧
      replayFrameAddress frame = some source.address ∧ ∀ f ∈ after, Unaddressed f := by
  obtain hempty | hlast := Bool.or_eq_true_iff.mp h
  · exact absurd (List.isEmpty_iff.mp hempty) hne
  · rw [decide_eq_true_eq, head?_filterMap, findSome?_eq_some_iff] at hlast
    obtain ⟨after, frame, before, hcut, haddress, hnone⟩ := hlast
    refine ⟨before.reverse, frame, after.reverse, ?_, ?_, ?_⟩
    · rw [← reverse_reverse frames, hcut]
      simp
    · exact (filter_eq_some_iff.mp haddress).1
    · exact fun f hf => hnone f (mem_reverse.mp hf)

theorem plain_of_uuid {connectionId : String} (h : isUuid connectionId = true) :
    ':' ∉ connectionId.toList := by
  intro hmem
  exact absurd (all_eq_true.mp h ':' hmem) (by decide)

variable {hash : String → String}

/-- A restored frame was stored by a stream with the same stream id, the same scope and the same
auth context, and without an owner by the same connection. Restored frames are used only if the
last addressed one has the address of the source. -/
theorem replay_isolated {o : HubOptions Json} (hinjective : Function.Injective hash)
    (hplain : ∀ text, ':' ∉ (hash text).toList)
    (howner : o.replayOwnerKey = stableRuntimeGatewayAuthOwnerKey o.localeLe hash)
    {as : List (HubAction Json P)} {hub : Hub Json P}
    (h : exec (Hub.step o) .init as = some hub) {connectionId : String} {c : Connection Json P}
    (hc : hub.connections connectionId = some c) {origin : Origin Json} {source : Source}
    {frames : List (ReplayFrame P)} (hrestored : .restored origin source frames ∈ c.log) :
    (∀ frame ∈ frames, ∃ job ∈ hub.stores, frame ∈ job.frames ∧
      job.origin.streamId = origin.streamId ∧ job.origin.scope.Same origin.scope ∧
      SameAuthContext job.origin.authContext origin.authContext ∧
      (o.replayOwnerKey origin.authContext = none → job.origin.connectionId = connectionId)) ∧
    (frames ≠ [] → ∃ before frame after, frames = before ++ frame :: after ∧
      replayFrameAddress frame = some source.address ∧ ∀ f ∈ after, Unaddressed f) := by
  have hrun := restores_run o h
  have hr := (hrun.connections connectionId c hc).restored origin source frames hrestored
  refine ⟨fun frame hframe => ?_, lastAddressed_of_match hr.used⟩
  obtain ⟨job, hjob, hmem, hkeyed⟩ := hr.stored frame hframe
  have hown := hrun.stored job hjob
  obtain ⟨last, hsession⟩ := hown.session
  obtain ⟨last', hsession'⟩ := hkeyed.session
  obtain ⟨hstream, hscope⟩ := storageStreamId_injective o.localeLe (hown.stream.symm.trans hkeyed.stream)
  rw [hsession, howner] at hsession'
  obtain ⟨hkey, hid⟩ := replaySession_injective o.localeLe hplain (plain_of_uuid hown.uuid)
    (plain_of_uuid hkeyed.uuid) hsession'
  refine ⟨job, hjob, hmem, hstream, hscope, sameAuthContext_of_owner o.localeLe hinjective hkey,
    fun hnone => ?_⟩
  rw [howner, ← hkey] at hnone
  exact (hid hnone).trans hr.own

/-- A digest for one run: that of `"u"` is the real one, the others only differ from each other. -/
def replayDigest (text : String) : String :=
  if text = "\"u\"" then "oQPRtQwS6Oe06taf1r1kVu9vBDj9_yGgcBmrhGnY0ZM"
  else "x." ++ encodeURIComponent text

theorem replayDigest_injective : Function.Injective replayDigest := by
  have hother : ∀ text, "oQPRtQwS6Oe06taf1r1kVu9vBDj9_yGgcBmrhGnY0ZM" ≠
      "x." ++ encodeURIComponent text := by
    intro text heq
    have hlist := congrArg (fun s => s.toList.head?) heq
    rw [String.toList_append] at hlist
    exact absurd hlist (by simp)
  intro text text' heq
  unfold replayDigest at heq
  split at heq <;> split at heq
  case isTrue.isTrue h h' => exact h.trans h'.symm
  case isTrue.isFalse => exact absurd heq (hother _)
  case isFalse.isTrue => exact absurd heq.symm (hother _)
  case isFalse.isFalse =>
    have hlist := congrArg String.toList heq
    rw [String.toList_append, String.toList_append] at hlist
    exact encodeURIComponent_injective (String.toList_inj.mp (append_cancel_left hlist))

theorem plain_replayDigest (text : String) : ':' ∉ (replayDigest text).toList := by
  unfold replayDigest
  split
  case isTrue => decide
  case isFalse =>
    rw [String.toList_append, mem_append]
    rintro (hmem | hmem)
    · exact absurd hmem (by decide)
    · exact plain_encodeURIComponent text hmem

def replayingOptions : HubOptions Json where
  replayBufferSize := 4
  inboundQueueLimit := 64
  replayStorage := true
  auth := false
  commandAdmission := false
  localeLe a b := a ≤ b
  replayOwnerKey := stableRuntimeGatewayAuthOwnerKey (fun a b => a ≤ b) replayDigest

def received (connectionId : String) (frame : ClientFrame)
    (rest : List (ConnectionAction Json Unit)) : List (HubAction Json Unit) :=
  (.receive frame :: .next ⟨⟨"a", ()⟩, false⟩ none :: rest).map (.connection connectionId)

/-- A stream of `"c"` is stored and restored for `"d"`, which names `"c"` as its last connection. -/
def reconnectionRun : List (HubAction Json Unit) :=
  [.attach "c" (.str "u"), .attach "d" (.str " u ")] ++
    received "c" (.hello none) [] ++
    received "c" (.subscribe "s" ⟨"k", none⟩ .full .absent)
      [.resolution (some ⟨"a", false⟩), .load true, .register ⟨none, [], .attached⟩,
        .resume ⟨⟨"a", ()⟩, false⟩ none, .emit "s" (.event ⟨"a", ()⟩)] ++
    [.startPersist storedKey, .finishPersist storedKey true] ++
    received "d" (.hello (some "c")) [] ++
    received "d" (.subscribe "s" ⟨"k", some (.obj [])⟩ .full .absent)
      [.resolution (some ⟨"a", false⟩), .load true, .register ⟨none, [], .attached⟩]
where
  storedKey : String := runtimeGatewayReplayStorageKey
    (replaySessionIdOf (replayingOptions.replayOwnerKey (.str "u")) "c" none)
    (runtimeGatewayReplayStorageStreamId replayingOptions.localeLe "s" ⟨"k", none⟩)

def reconnected : Origin Json := ⟨"d", .str " u ", "s", ⟨"k", some (.obj [])⟩⟩

def restoredFrames : List (ReplayFrame Unit) := [⟨"s", 1, .event ⟨"a", ()⟩⟩]

theorem replay_isolated_reconnection : ∃ hub c,
    exec (Hub.step replayingOptions) .init reconnectionRun = some hub ∧
      hub.connections "d" = some c ∧
    (∀ frame ∈ restoredFrames, ∃ job ∈ hub.stores, frame ∈ job.frames ∧
      job.origin.streamId = "s" ∧ job.origin.scope.Same reconnected.scope ∧
      SameAuthContext job.origin.authContext (.str " u ") ∧
      (replayingOptions.replayOwnerKey (.str " u ") = none →
        job.origin.connectionId = "d")) ∧
    ∃ before frame after, restoredFrames = before ++ frame :: after ∧
      replayFrameAddress frame = some "a" ∧ ∀ f ∈ after, Unaddressed f := by
  have hlog : (((exec (Hub.step replayingOptions) .init reconnectionRun).bind fun hub =>
      hub.connections "d").map Connection.log).any (fun log =>
        decide (GatewayEvent.restored reconnected ⟨"a", false⟩ restoredFrames ∈ log)) = true := by
    decide +kernel
  obtain ⟨log, hlog, hmem⟩ := (Option.any_eq_true _ _).mp hlog
  obtain ⟨c, hc, rfl⟩ := Option.map_eq_some_iff.mp hlog
  obtain ⟨hub, hhub, hc⟩ := Option.bind_eq_some_iff.mp hc
  obtain ⟨hstored, haddressed⟩ := replay_isolated replayDigest_injective plain_replayDigest rfl hhub
    hc (of_decide_eq_true hmem)
  exact ⟨hub, c, hhub, hc, hstored, haddressed (by decide)⟩

end Runs

end ActorWeb.Gateway
