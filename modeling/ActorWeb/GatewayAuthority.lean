import ActorWeb.GatewayHub

namespace ActorWeb.Gateway

open List Option Function Transition

variable {Ctx P : Type}

section Events

def latestContext (log : List (GatewayEvent Ctx P)) : Option Ctx :=
  (log.filterMap fun e =>
    match e with
    | .verified authContext => some authContext
    | _ => none).getLast?

def GatewayEvent.Quiet : GatewayEvent Ctx P → Prop
  | .sent _ _ | .restored _ _ _ => True
  | _ => False

variable (o : HubOptions Ctx)

/-- What an event needs of the events before it: no verification has been refused, and a scope is
resolved with the latest verified context; a command is admitted, when commands are admitted,
with a principal of the latest verified context, on a stream whose scope was resolved. -/
def Allowed (before : List (GatewayEvent Ctx P)) : GatewayEvent Ctx P → Prop
  | .scopeResolved origin =>
    .refused ∉ before ∧ latestContext before = some origin.authContext
  | .dispatched origin principalContext =>
    .refused ∉ before ∧ (latestContext before).isSome ∧
      principalContext = (if o.commandAdmission then latestContext before else none) ∧
      .scopeResolved origin ∈ before
  | _ => True

inductive Authorized : List (GatewayEvent Ctx P) → Prop
  | nil : Authorized []
  | snoc {log : List (GatewayEvent Ctx P)} {e : GatewayEvent Ctx P} (h : Authorized log)
      (he : Allowed o log e) : Authorized (log ++ [e])

variable {o} {log before after events : List (GatewayEvent Ctx P)} {e : GatewayEvent Ctx P}

theorem Authorized.cut (h : Authorized o log) (hlog : log = before ++ e :: after) :
    Allowed o before e := by
  induction h generalizing after with
  | nil => exact absurd hlog (by simp)
  | @snoc log last hlog' hlast ih =>
    cases after using List.reverseRecOn with
    | nil =>
      obtain ⟨rfl, heq⟩ := append_inj' hlog rfl
      exact (singleton_inj.mp heq) ▸ hlast
    | append_singleton after final _ =>
      rw [← cons_append, ← append_assoc] at hlog
      exact ih (append_inj' hlog rfl).1

theorem latestContext_concat (log : List (GatewayEvent Ctx P)) (authContext : Ctx) :
    latestContext (log ++ [.verified authContext]) = some authContext := by
  simp [latestContext]

theorem latestContext_append (h : ∀ authContext, .verified authContext ∉ events) :
    latestContext (log ++ events) = latestContext log := by
  have hnone : (events.filterMap fun e =>
      match e with
      | .verified authContext => some authContext
      | _ => none) = [] := by
    rw [filterMap_eq_nil_iff]
    intro e he
    cases e with
    | verified authContext => exact absurd he (h authContext)
    | refused | scopeResolved _ | restored _ _ _ | sent _ _ | dispatched _ _ => rfl
  rw [latestContext, filterMap_append, hnone, append_nil]
  rfl

theorem Authorized.quiet (h : Authorized o log) (hevents : ∀ e ∈ events, e.Quiet) :
    Authorized o (log ++ events) := by
  induction events using List.reverseRecOn with
  | nil => rwa [append_nil]
  | append_singleton events e ih =>
    rw [← append_assoc]
    refine .snoc (ih fun e he => hevents e (mem_append_left _ he)) ?_
    have hquiet := hevents e (mem_append_right _ (mem_singleton_self e))
    cases e with
    | sent _ _ | restored _ _ _ => exact trivial
    | verified _ | refused | scopeResolved _ | dispatched _ _ => cases hquiet

end Events

section Connections

variable (o : HubOptions Ctx)

def Activity.Allowed (c : Connection Ctx P) : Activity Ctx P → Prop
  | .resolving subscription | .loading subscription _ | .registering subscription _ _ =>
    .scopeResolved subscription.origin ∈ c.log
  | .admitting origin =>
    o.commandAdmission = true ∧ c.greeted = true ∧ .scopeResolved origin ∈ c.log
  | .dispatching origin principalContext =>
    c.greeted = true ∧ .scopeResolved origin ∈ c.log ∧
      principalContext = if o.commandAdmission then some c.authenticatedAuthContext else none
  | _ => True

structure Connection.Authority (c : Connection Ctx P) : Prop where
  authorized : Authorized o c.log
  context : c.greeted = true → latestContext c.log = some c.authenticatedAuthContext
  refused : .refused ∈ c.log → c.terminated = true ∧ c.activity = .idle
  streams : ∀ streamId s, c.streams.get streamId = some s → .scopeResolved s.origin ∈ c.log
  activity : c.activity.Allowed o c

variable {o} {c c' : Connection Ctx P}

namespace Connection.Authority

theorem quietly (h : c.Authority o) {events : List (GatewayEvent Ctx P)}
    (hevents : ∀ e ∈ events, e.Quiet) (hlog : c'.log = c.log ++ events)
    (hgreeted : c'.greeted = c.greeted)
    (hcontext : c'.authenticatedAuthContext = c.authenticatedAuthContext)
    (hterminated : c.terminated = true → c'.terminated = true)
    (hstreams : ∀ streamId s, c'.streams.get streamId = some s → .scopeResolved s.origin ∈ c.log)
    (hidle : .refused ∈ c.log → c'.activity = .idle)
    (hactivity : c'.activity.Allowed o c') : c'.Authority o := by
  have hverified : ∀ authContext, GatewayEvent.verified authContext ∉ events :=
    fun authContext hmem => hevents _ hmem
  refine ⟨hlog ▸ h.authorized.quiet hevents, fun hg => ?_, fun hrefused => ?_,
    fun streamId s hs => ?_, hactivity⟩
  · rw [hlog, latestContext_append hverified, hcontext]
    exact h.context (hgreeted ▸ hg)
  · rw [hlog] at hrefused
    obtain hmem | hmem := mem_append.mp hrefused
    · exact ⟨hterminated (h.refused hmem).1, hidle hmem⟩
    · exact (hevents _ hmem).elim
  · rw [hlog]
    exact mem_append_left _ (hstreams streamId s hs)

theorem allowed_of_same {a : Activity Ctx P} (h : a.Allowed o c)
    (hlog : ∀ e ∈ c.log, e ∈ c'.log) (hgreeted : c'.greeted = c.greeted)
    (hcontext : c'.authenticatedAuthContext = c.authenticatedAuthContext) : a.Allowed o c' := by
  cases a with
  | idle | verifying _ | subscribed _ _ => exact trivial
  | resolving _ | loading _ _ | registering _ _ _ => exact hlog _ h
  | admitting origin => exact ⟨h.1, hgreeted ▸ h.2.1, hlog _ h.2.2⟩
  | dispatching origin principalContext => exact ⟨hgreeted ▸ h.1, hlog _ h.2.1, hcontext ▸ h.2.2⟩

theorem append (h : c.Authority o) {events : List (GatewayEvent Ctx P)}
    (hevents : ∀ e ∈ events, e.Quiet) : (c.append events).Authority o :=
  h.quietly hevents rfl rfl rfl id h.streams (fun hrefused => (h.refused hrefused).2)
    (allowed_of_same h.activity (fun _ he => mem_append_left _ he) rfl rfl)

theorem send (h : c.Authority o) (mode : Option Mode) (frames : List (ServerFrame P)) :
    (c.send mode frames).Authority o := by
  obtain ⟨events, heq, hevents⟩ := c.send_append mode frames
  rw [heq]
  refine h.append fun e he => ?_
  obtain ⟨frame, -, rfl⟩ := hevents e he
  exact trivial

theorem sendError (h : c.Authority o) (streamId : Option String) :
    (c.sendError streamId).Authority o :=
  h.send none _

theorem withActivity (h : c.Authority o) {activity : Activity Ctx P}
    (hidle : .refused ∈ c.log → activity = .idle) (hactivity : activity.Allowed o c) :
    { c with activity }.Authority o :=
  ⟨h.authorized, h.context, fun hrefused => ⟨(h.refused hrefused).1, hidle hrefused⟩, h.streams,
    hactivity⟩

theorem finish (h : c.Authority o) : c.finish.Authority o := h.withActivity (fun _ => rfl) trivial

theorem withStreams (h : c.Authority o) {streams : OrderedMap String (GatewayStream Ctx P)}
    (hstreams : ∀ streamId s, streams.get streamId = some s → .scopeResolved s.origin ∈ c.log) :
    { c with streams }.Authority o :=
  ⟨h.authorized, h.context, h.refused, hstreams, h.activity⟩

theorem setStream (h : c.Authority o) {streamId : String} {s : GatewayStream Ctx P}
    (hs : .scopeResolved s.origin ∈ c.log) :
    { c with streams := c.streams.set streamId s }.Authority o := by
  refine h.withStreams fun streamId' s' hs' => ?_
  rw [OrderedMap.get_set] at hs'
  split at hs'
  case isTrue => exact some.inj hs' ▸ hs
  case isFalse => exact h.streams streamId' s' hs'

theorem cleanupStream (h : c.Authority o) (streamId : String) :
    (c.cleanupStream streamId).Authority o := by
  refine h.withStreams fun streamId' s hs => ?_
  rw [OrderedMap.get_delete] at hs
  split at hs
  case isTrue => cases hs
  case isFalse => exact h.streams streamId' s hs

theorem shutdown (h : c.Authority o) : c.shutdown.connection.Authority o := by
  unfold Connection.shutdown
  split
  case isTrue => exact h
  case isFalse =>
    exact ⟨h.authorized, h.context, fun hrefused => ⟨rfl, (h.refused hrefused).2⟩,
      fun _ _ hs => by simp at hs, h.activity⟩

theorem resyncStreamById (h : c.Authority o) (streamId : String) (fromSequence : FromSequence)
    (view : SourceView P) (cut : Option Nat) :
    (c.resyncStreamById o streamId fromSequence view cut).connection.Authority o := by
  unfold Connection.resyncStreamById
  split
  case h_1 => exact h.sendError _
  case h_2 s hs =>
    have hset : { c with streams := c.streams.set streamId { s with
        state := (resyncStream o.replayBufferSize s.state fromSequence view).stream } }.Authority o :=
      h.setStream (h.streams streamId s hs)
    cases cut with
    | none => exact hset.send _ _
    | some n => exact (hset.send _ _).shutdown

theorem not_refused (h : c.Authority o) {activity : Activity Ctx P} (hactivity : c.activity = activity)
    (hne : activity ≠ .idle) : .refused ∉ c.log :=
  fun hrefused => hne (hactivity.symm.trans (h.refused hrefused).2)

theorem not_refused_of_live (h : c.Authority o) (hlive : c.terminated = false) : .refused ∉ c.log :=
  fun hrefused => absurd ((h.refused hrefused).1.symm.trans hlive) (by decide)

theorem greet (h : c.Authority o) (hverified : latestContext c.log = some c.authenticatedAuthContext)
    (lastConnectionId : Option String) : (c.greet o lastConnectionId).Authority o := by
  refine finish (send ?_ none _)
  refine ⟨h.authorized, fun _ => hverified, h.refused, h.streams, ?_⟩
  have hactivity := h.activity
  revert hactivity
  cases c.activity with
  | idle | verifying _ | subscribed _ _ => exact fun _ => trivial
  | resolving _ | loading _ _ | registering _ _ _ => exact id
  | admitting origin => exact fun hadmitting => ⟨hadmitting.1, rfl, hadmitting.2.2⟩
  | dispatching origin principalContext => exact fun hdispatching => ⟨rfl, hdispatching.2⟩

theorem refuse (h : c.Authority o) : ({ ((c.append [.refused]).sendError none).shutdown with
    connection := ((c.append [.refused]).sendError none).shutdown.connection.finish } :
      ConnectionStep Ctx P).connection.Authority o := by
  obtain ⟨events, heq, hevents⟩ := (c.append [.refused]).send_append none
    ([.error none] : List (ServerFrame P))
  have hquiet : ∀ e ∈ events, e.Quiet := by
    intro e he
    obtain ⟨frame, -, rfl⟩ := hevents e he
    exact trivial
  have hauthorized : Authorized o (c.log ++ [.refused] ++ events) :=
    (Authorized.snoc (e := .refused) h.authorized trivial).quiet hquiet
  have hcontext : c.greeted = true →
      latestContext (c.log ++ [.refused] ++ events) = some c.authenticatedAuthContext := by
    intro hgreeted
    rw [latestContext_append fun _ hmem => hquiet _ hmem, latestContext_append (by simp)]
    exact h.context hgreeted
  have hstreams : ∀ streamId s, c.streams.get streamId = some s →
      .scopeResolved s.origin ∈ c.log ++ [.refused] ++ events := fun streamId s hs =>
    mem_append_left _ (mem_append_left _ (h.streams streamId s hs))
  simp only [Connection.sendError, heq, Connection.shutdown]
  split
  case isTrue hterminated =>
    exact ⟨hauthorized, hcontext, fun _ => ⟨hterminated, rfl⟩, hstreams, trivial⟩
  case isFalse =>
    exact ⟨hauthorized, hcontext, fun _ => ⟨rfl, rfl⟩,
      fun _ _ hs => absurd ((OrderedMap.get_empty _).symm.trans hs) (by simp), trivial⟩

theorem verificationEnds (h : c.Authority o) {lastConnectionId : Option String}
    (hactivity : c.activity = .verifying lastConnectionId) (result : Verification Ctx) :
    (c.verificationEnds o lastConnectionId result).connection.Authority o := by
  cases result with
  | accepted authContext =>
    have hverified : (({ c with
        authenticatedAuthContext := authContext.getD c.authContext } : Connection Ctx P).append
          [.verified (authContext.getD c.authContext)]).Authority o := by
      refine ⟨.snoc (e := .verified _) h.authorized trivial, fun _ => latestContext_concat _ _,
        fun hrefused => ?_, fun streamId s hs => mem_append_left _ (h.streams streamId s hs),
        ?_⟩
      · obtain hmem | hmem := mem_append.mp hrefused
        · exact absurd hmem (h.not_refused hactivity (by simp))
        · cases mem_singleton.mp hmem
      · change c.activity.Allowed o _
        rw [hactivity]
        exact trivial
    exact hverified.greet (latestContext_concat _ _) _
  | refused => exact h.refuse
  | threw => exact (h.sendError none).finish

theorem receiveFrame (h : c.Authority o) (hauth : o.auth = true) (hlive : c.terminated = false)
    (frame : ClientFrame) (view : SourceView P) (cut : Option Nat) :
    (c.receiveFrame o frame view cut).connection.Authority o := by
  have hnot := h.not_refused_of_live hlive
  unfold Connection.receiveFrame
  cases frame with
  | invalid => exact h.sendError _
  | hello lastConnectionId =>
    simp only [hauth, if_true]
    exact h.withActivity (fun hrefused => absurd hrefused hnot) trivial
  | ping =>
    simp only
    split
    · exact h.send _ _
    · exact h.sendError _
  | unsubscribe streamId =>
    simp only
    split
    · exact h.cleanupStream streamId
    · exact h.sendError _
  | resync streamId fromSequence =>
    simp only
    split
    · exact h.resyncStreamById streamId fromSequence view cut
    · exact h.sendError _
  | command streamId =>
    simp only
    split
    case isFalse => exact h.sendError _
    case isTrue hgreeted =>
      have hgreeted : c.greeted = true := (Bool.and_eq_true_iff.mp hgreeted).1
      change (c.beginCommand o streamId).Authority o
      unfold beginCommand
      split
      case h_1 => exact h.sendError _
      case h_2 s hs =>
        refine h.withActivity (fun hrefused => absurd hrefused hnot) ?_
        have hscope := h.streams streamId s hs
        cases hadmission : o.commandAdmission with
        | true => exact ⟨hadmission, hgreeted, hscope⟩
        | false => exact ⟨hgreeted, hscope, by rw [hadmission]; rfl⟩
  | subscribe streamId scope mode fromSequence =>
    simp only
    split
    case isFalse => exact h.sendError _
    case isTrue hgreeted =>
      have hgreeted : c.greeted = true := (Bool.and_eq_true_iff.mp hgreeted).1
      have hclean := h.cleanupStream streamId
      refine ⟨.snoc h.authorized ⟨hnot, h.context hgreeted⟩, fun _ => ?_, fun hrefused => ?_,
        fun streamId' s hs => mem_append_left _ (hclean.streams streamId' s hs),
        mem_append_right _ (mem_singleton_self _)⟩
      · refine (latestContext_append (by simp)).trans (h.context hgreeted)
      · obtain hmem | hmem := mem_append.mp hrefused
        · exact absurd hmem hnot
        · cases mem_singleton.mp hmem

theorem resolutionEnds (h : c.Authority o) {subscription : Subscription Ctx}
    (hactivity : c.activity = .resolving subscription) (source : Option Source) :
    (c.resolutionEnds o subscription source).connection.Authority o := by
  have hnot := h.not_refused hactivity (by simp)
  have hscope : .scopeResolved subscription.origin ∈ c.log := by
    have hallowed := h.activity
    rwa [hactivity] at hallowed
  unfold Connection.resolutionEnds
  simp only
  split
  case isFalse => exact h.withActivity (fun hrefused => absurd hrefused hnot) trivial
  case isTrue =>
    cases source with
    | none =>
      have herror := h.sendError (some subscription.origin.streamId)
      have hsame := (c.send_activity none [.error (some subscription.origin.streamId)]).trans
        hactivity
      exact herror.withActivity
        (fun hrefused => absurd hrefused (herror.not_refused hsame (by simp))) trivial
    | some source =>
      refine h.withActivity (fun hrefused => absurd hrefused hnot) ?_
      split
      · exact hscope
      · exact hscope

theorem registerListeners (h : c.Authority o) {s : GatewayStream Ctx P}
    (hs : .scopeResolved s.origin ∈ c.log) (r : Registration P) :
    (c.registerListeners o s r).connection.Authority o := by
  have hsend := h.send (some s.state.mode)
    (emitDrafts o.replayBufferSize (startedState s r) r.drafts).frames
  have hmem : .scopeResolved s.origin ∈ (c.send (some s.state.mode)
      (emitDrafts o.replayBufferSize (startedState s r) r.drafts).frames).log := by
    obtain ⟨events, heq, -⟩ := c.send_append (some s.state.mode)
      (emitDrafts o.replayBufferSize (startedState s r) r.drafts).frames
    rw [heq]
    exact mem_append_left _ hs
  unfold Connection.registerListeners
  cases r.outcome with
  | attached => exact hsend.setStream hmem
  | failed => exact hsend.sendError _
  | stale => exact hsend

theorem register (h : c.Authority o) {subscription : Subscription Ctx} {source : Source}
    {restored : List (ReplayFrame P)}
    (hactivity : c.activity = .registering subscription source restored) (r : Registration P) :
    (c.register o subscription source restored r).connection.Authority o := by
  have hnot := h.not_refused hactivity (by simp)
  have hscope : .scopeResolved subscription.origin ∈ c.log := by
    have hallowed := h.activity
    rwa [hactivity] at hallowed
  unfold Connection.register
  simp only
  split
  case isFalse => exact h.withActivity (fun hrefused => absurd hrefused hnot) trivial
  case isTrue =>
    have happend : (c.append [.restored subscription.origin source
        (usedReplayFrames restored source)]).Authority o := by
      refine h.append fun e he => ?_
      rw [mem_singleton.mp he]
      exact trivial
    have hstarted : ({ c.append [.restored subscription.origin source
        (usedReplayFrames restored source)] with
          subscriptions := c.subscriptions + 1
          activity := .subscribed subscription.origin.streamId
            subscription.fromSequence } : Connection Ctx P).Authority o := by
      refine ⟨happend.authorized, happend.context, fun hrefused => ?_, happend.streams, trivial⟩
      exact absurd hrefused (happend.not_refused hactivity (by simp))
    split
    case isTrue => exact hstarted.sendError _
    case isFalse => exact hstarted.registerListeners (mem_append_left _ hscope) r

theorem step (h : c.Authority o) (hauth : o.auth = true) {storage : ReplayStorage P}
    {action : ConnectionAction Ctx P} {step : ConnectionStep Ctx P}
    (hstep : c.step o storage action = some step) : step.connection.Authority o := by
  cases action with
  | receive frame =>
    simp only [Connection.step, ite_none_left_eq_some, Option.some.injEq] at hstep
    obtain ⟨-, rfl⟩ := hstep
    unfold ingress
    split
    · exact (h.sendError none).shutdown
    · exact ⟨h.authorized, h.context, h.refused, h.streams, h.activity⟩
  | next view cut =>
    simp only [Connection.step] at hstep
    split at hstep
    case h_1 frame rest hlive _ _ =>
      cases hstep
      have hrest : { c with pendingFrames := rest }.Authority o :=
        ⟨h.authorized, h.context, h.refused, h.streams, h.activity⟩
      exact hrest.receiveFrame hauth hlive frame view cut
    case h_2 => cases hstep
  | verification result =>
    simp only [Connection.step] at hstep
    split at hstep
    case h_1 hactivity => exact some.inj hstep ▸ h.verificationEnds hactivity _
    case h_2 => cases hstep
  | resolution source =>
    simp only [Connection.step] at hstep
    split at hstep
    case h_1 hactivity => exact some.inj hstep ▸ h.resolutionEnds hactivity _
    case h_2 => cases hstep
  | load succeeds =>
    simp only [Connection.step] at hstep
    split at hstep
    case h_1 subscription source hactivity =>
      cases hstep
      have hallowed := h.activity
      rw [hactivity] at hallowed
      exact h.withActivity
        (fun hrefused => absurd hrefused (h.not_refused hactivity (by simp))) hallowed
    case h_2 => cases hstep
  | register registration =>
    simp only [Connection.step] at hstep
    split at hstep
    case h_1 hactivity => exact some.inj hstep ▸ h.register hactivity _
    case h_2 => cases hstep
  | resume view cut =>
    simp only [Connection.step] at hstep
    split at hstep
    case h_1 => exact some.inj hstep ▸ h.finish
    case h_2 => exact some.inj hstep ▸ h.finish.resyncStreamById _ _ _ _
    case h_3 => cases hstep
  | principal resolves =>
    simp only [Connection.step] at hstep
    split at hstep
    case h_1 origin hactivity =>
      cases hstep
      have hallowed := h.activity
      rw [hactivity] at hallowed
      cases resolves with
      | true =>
        refine h.withActivity
          (fun hrefused => absurd hrefused (h.not_refused hactivity (by simp)))
          ⟨hallowed.2.1, hallowed.2.2, by rw [hallowed.1]; rfl⟩
      | false => exact (h.sendError _).finish
    case h_2 => cases hstep
  | dispatch authorized =>
    simp only [Connection.step] at hstep
    split at hstep
    case h_1 origin principalContext hactivity =>
      cases hstep
      have hnot := h.not_refused hactivity (by simp)
      obtain ⟨hgreeted, hscope, hprincipal⟩ : c.greeted = true ∧ _ ∧ _ := by
        have hallowed := h.activity
        rwa [hactivity] at hallowed
      have hcontext := h.context hgreeted
      cases authorized with
      | true =>
        refine ⟨.snoc h.authorized ⟨hnot, by rw [hcontext]; rfl, by rw [hcontext, hprincipal],
          hscope⟩, fun _ => ?_, fun hrefused => ?_,
          fun streamId s hs => mem_append_left _ (h.streams streamId s hs), trivial⟩
        · exact (latestContext_append (by simp)).trans hcontext
        · obtain hmem | hmem := mem_append.mp hrefused
          · exact absurd hmem hnot
          · cases mem_singleton.mp hmem
      | false => exact (h.sendError _).finish
    case h_2 => cases hstep
  | emit streamId draft =>
    simp only [Connection.step, Connection.emit] at hstep
    split at hstep
    case h_1 => cases hstep
    case h_2 s hs =>
      cases hstep
      refine send (setStream h ?_) _ _
      exact h.streams streamId s hs
  | emitStatus streamId replaying =>
    simp only [Connection.step] at hstep
    split at hstep
    case h_1 => exact some.inj hstep ▸ h.send _ _
    case h_2 => cases hstep
  | close =>
    simp only [Connection.step, ite_none_left_eq_some, Option.some.injEq] at hstep
    obtain ⟨-, rfl⟩ := hstep
    exact h.shutdown

theorem attached (connectionId : String) (authContext : Ctx) :
    (Connection.attached connectionId authContext : Connection Ctx P).Authority o where
  authorized := .nil
  context hgreeted := by cases hgreeted
  refused hrefused := absurd hrefused not_mem_nil
  streams _ _ hs := absurd ((OrderedMap.get_empty _).symm.trans hs) (by simp)
  activity := trivial

end Connection.Authority

end Connections

section Runs

variable (o : HubOptions Ctx)

theorem authority_run (hauth : o.auth = true) {as : List (HubAction Ctx P)} {hub : Hub Ctx P}
    (h : exec (Hub.step o) .init as = some hub) :
    hub.Holds (fun _ c => c.Authority o) (fun _ => True) := by
  refine exec_invariant (fun hub a hub' hholds hstep => ?_) Hub.holds_init h
  refine hholds.step (fun _ _ => trivial) (fun id context _ => .attached id context) ?_ hstep
  intro connectionId action c s _ hc hs
  exact ⟨(hholds.connections connectionId c hc).step hauth hs, fun _ _ => trivial⟩

theorem verified_of_latest {log : List (GatewayEvent Ctx P)} (h : (latestContext log).isSome) :
    ∃ authContext, .verified authContext ∈ log := by
  by_contra hnone
  have hsame : latestContext ([] ++ log) = latestContext [] :=
    latestContext_append fun authContext hmem => hnone ⟨authContext, hmem⟩
  rw [nil_append] at hsame
  rw [hsame] at h
  cases h

/-- On a hub with an auth provider, scopes are resolved and commands dispatched only under the
latest verified context and never after a refused verification. A command that is admitted has a
principal of the latest verified context: that of the stream, when none was verified since its
scope was resolved. -/
theorem commands_authorized (hauth : o.auth = true) {as : List (HubAction Ctx P)} {hub : Hub Ctx P}
    (h : exec (Hub.step o) .init as = some hub) {connectionId : String} {c : Connection Ctx P}
    (hc : hub.connections connectionId = some c) (before after : List (GatewayEvent Ctx P)) :
    (∀ origin, c.log = before ++ .scopeResolved origin :: after →
      .refused ∉ before ∧ latestContext before = some origin.authContext) ∧
    ∀ origin principalContext, c.log = before ++ .dispatched origin principalContext :: after →
      .refused ∉ before ∧ (∃ authContext, .verified authContext ∈ before) ∧
      (o.commandAdmission = true → principalContext = latestContext before ∧
        ∃ resolved since, before = resolved ++ .scopeResolved origin :: since ∧
          ((∀ authContext, .verified authContext ∉ since) →
            principalContext = some origin.authContext)) := by
  have hauthorized := ((authority_run o hauth h).connections connectionId c hc).authorized
  refine ⟨fun origin hlog => hauthorized.cut hlog, fun origin principalContext hlog => ?_⟩
  obtain ⟨hnot, hsome, hprincipal, hscope⟩ := hauthorized.cut hlog
  refine ⟨hnot, verified_of_latest hsome, fun hadmission => ?_⟩
  rw [if_pos hadmission] at hprincipal
  refine ⟨hprincipal, ?_⟩
  obtain ⟨resolved, since, hbefore⟩ := append_of_mem hscope
  refine ⟨resolved, since, hbefore, fun hnone => ?_⟩
  have hallowed : Allowed o resolved (.scopeResolved origin) :=
    hauthorized.cut (by rw [hlog, hbefore, append_assoc]; rfl)
  have hresolved : latestContext resolved = some origin.authContext := hallowed.2
  have hsame : latestContext (resolved ++ .scopeResolved origin :: since) = latestContext resolved :=
    latestContext_append fun authContext hmem => by
      obtain heq | hmem := mem_cons.mp hmem
      · cases heq
      · exact hnone authContext hmem
  rw [hprincipal, hbefore, hsame, hresolved]

def admittingOptions : HubOptions Bool where
  replayBufferSize := 4
  inboundQueueLimit := 64
  replayStorage := false
  auth := true
  commandAdmission := true
  localeLe _ _ := true
  replayOwnerKey _ := none

def admitted (frame : ClientFrame) (rest : List (ConnectionAction Bool Unit)) :
    List (HubAction Bool Unit) :=
  (.receive frame :: .next ⟨⟨"a", ()⟩, false⟩ none :: rest).map (.connection "c")

/-- Two hellos: the stream is subscribed after the first and commanded after the second. -/
def rebindingRun (second : Bool) : List (HubAction Bool Unit) :=
  [.attach "c" false] ++ admitted (.hello none) [.verification (.accepted (some true))] ++
    admitted (.subscribe "s" ⟨"k", none⟩ .full .absent)
      [.resolution (some ⟨"a", false⟩), .register ⟨none, [], .attached⟩,
        .resume ⟨⟨"a", ()⟩, false⟩ none] ++
    admitted (.hello none) [.verification (.accepted (some second))] ++
    admitted (.command "s") [.principal true, .dispatch true]

def streamOrigin : Origin Bool := ⟨"c", true, "s", ⟨"k", none⟩⟩

def rebindingLog (second : Bool) : Option (List (GatewayEvent Bool Unit)) :=
  ((exec (Hub.step admittingOptions) .init (rebindingRun second)).bind fun hub =>
    hub.connections "c").map Connection.log

/-- The command is admitted with a principal of the second context, on a stream of the first. -/
theorem rebound_principal : ∃ hub c, exec (Hub.step admittingOptions) .init (rebindingRun false) =
      some hub ∧ hub.connections "c" = some c ∧
    ¬ ∀ origin principalContext, .dispatched origin principalContext ∈ c.log →
      principalContext = some origin.authContext := by
  have hlog : (rebindingLog false).any
      (fun log => decide (GatewayEvent.dispatched streamOrigin (some false) ∈ log)) = true := by
    decide +kernel
  obtain ⟨log, hlog, hmem⟩ := (Option.any_eq_true _ _).mp hlog
  obtain ⟨c, hc, rfl⟩ := map_eq_some_iff.mp hlog
  obtain ⟨hub, hhub, hc⟩ := bind_eq_some_iff.mp hc
  exact ⟨hub, c, hhub, hc, fun hbound =>
    absurd (hbound _ _ (of_decide_eq_true hmem)) (by decide)⟩

theorem commands_authorized_rebinding : ∃ hub c, exec (Hub.step admittingOptions) .init
      (rebindingRun true) = some hub ∧ hub.connections "c" = some c ∧
    ∃ before after, c.log = before ++ .dispatched streamOrigin (some true) :: after ∧
      .refused ∉ before ∧ some true = latestContext before := by
  have hlog : (rebindingLog true).any
      (fun log => decide (GatewayEvent.dispatched streamOrigin (some true) ∈ log)) = true := by
    decide +kernel
  obtain ⟨log, hlog, hmem⟩ := (Option.any_eq_true _ _).mp hlog
  obtain ⟨c, hc, rfl⟩ := map_eq_some_iff.mp hlog
  obtain ⟨hub, hhub, hc⟩ := bind_eq_some_iff.mp hc
  obtain ⟨before, after, hcut⟩ := append_of_mem (of_decide_eq_true hmem)
  obtain ⟨hnot, -, hprincipal⟩ :=
    (commands_authorized admittingOptions rfl hhub hc before after).2 _ _ hcut
  exact ⟨hub, c, hhub, hc, before, after, hcut, hnot, (hprincipal rfl).1⟩

end Runs

end ActorWeb.Gateway
