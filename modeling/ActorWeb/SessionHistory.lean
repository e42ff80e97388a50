import ActorWeb.NodeSessionActor
import Mathlib.Data.List.Induction

namespace ActorWeb.SessionActor

inductive Accepted (p : Projection) : Command → Projection → Prop
  | createSession (sessionId openedAt : String) (hsession : p.session = none) :
      Accepted p (.createSession sessionId openedAt)
        { session := some { id := sessionId, status := .opened, openedAt, closedAt := none }
          provider := none
          turn := none
          checkpoint := none
          lastFact := some (.sessionCreated sessionId openedAt)
          failure := none }
  | attachProvider (providerId attachedAt : String) (metadata : Option Json)
      (session : SessionProjection) (hsession : p.session = some session)
      (hopened : session.status = .opened) (hturn : hasActiveTurn p = false) :
      Accepted p (.attachProvider providerId attachedAt metadata)
        { clearFailure p with
          provider := some { id := providerId, attachedAt, metadata }
          lastFact := some (.providerAttached session.id providerId attachedAt metadata) }
  | submitTurn (turn : TurnProjection) (session : SessionProjection)
      (provider : ProviderProjection) (hsession : p.session = some session)
      (hopened : session.status = .opened) (hprovider : p.provider = some provider)
      (hturn : hasActiveTurn p = false) (hactive : turn.status = .active) (houtput : turn.output = "")
      (hsequence : turn.sequence = 0) (hcheckpoint : turn.checkpoint = none) :
      Accepted p (.submitTurn turn.id turn.submittedAt turn.input)
        { clearFailure p with
          turn := some turn
          checkpoint := none
          lastFact := some
            (.turnSubmitted session.id provider.id turn.id turn.submittedAt turn.input) }
  | cancelTurn (cancelledAt : String) (reason : Option String) (turn cancelled : TurnProjection)
      (fact : Fact) (hfact : fact.rejects = false) (session : SessionProjection)
      (provider : ProviderProjection) (hsession : p.session = some session)
      (hopened : session.status = .opened) (hprovider : p.provider = some provider)
      (hturn : p.turn = some turn) (hactive : turn.status = .active)
      (hcancelled : cancelled.status = .cancelled) (houtput : cancelled.output = turn.output)
      (hsequence : cancelled.sequence = turn.sequence)
      (hcheckpoint : cancelled.checkpoint = turn.checkpoint) :
      Accepted p (.cancelTurn cancelledAt reason)
        (applyTerminalTurn (clearFailure p) cancelled fact none)
  | closeSession (closedAt : String) (session : SessionProjection)
      (hsession : p.session = some session) (hopened : session.status = .opened)
      (hturn : hasActiveTurn p = false) :
      Accepted p (.closeSession closedAt)
        { clearFailure p with
          session := some { session with status := .closed, closedAt := some closedAt }
          lastFact := some (.sessionClosed session.id closedAt) }
  | observeProviderFact (fact : ObservedProviderFact) (session : SessionProjection)
      (provider : ProviderProjection) (turn : TurnProjection) (hsession : p.session = some session)
      (hopened : session.status = .opened) (hprovider : p.provider = some provider)
      (hturn : p.turn = some turn) (hactive : turn.status = .active)
      (hid : fact.base.turnId = turn.id) (hsequence : turn.sequence < fact.base.sequence) :
      Accepted p (.observeProviderFact fact)
        { p with
          turn := some (fact.applyTo turn)
          checkpoint := fact.base.checkpoint
          lastFact := some (.observed session.id provider.id fact)
          failure := fact.leaves }

section Guards

variable {p : Projection} {command : CommandType} {observedAt : String}

structure Rejection (p p' : Projection) : Prop where
  rejected : p'.rejected = true
  same : p' = { p with lastFact := p'.lastFact, failure := p'.failure }

theorem Rejection.fields {p' : Projection} (h : Rejection p p') :
    p'.session = p.session ∧ p'.provider = p.provider ∧ p'.turn = p.turn ∧
      p'.checkpoint = p.checkpoint := by
  rw [h.same]
  exact ⟨rfl, rfl, rfl, rfl⟩

theorem rejectCommand_rejection (message : String) (details : Option Json) :
    Rejection p (rejectCommand p command observedAt message details) := ⟨rfl, rfl⟩

variable {rejected : Projection}

theorem requireOpenSession_some
    (h : requireOpenSession p command observedAt = some rejected) : Rejection p rejected := by
  unfold requireOpenSession at h
  split at h
  case h_1 =>
    cases h
    exact rejectCommand_rejection _ _
  case h_2 session hsession =>
    split at h
    case isTrue =>
      cases h
      exact rejectCommand_rejection _ _
    case isFalse => cases h

theorem requireOpenSession_none (h : requireOpenSession p command observedAt = none) :
    ∃ session, p.session = some session ∧ session.status = .opened := by
  unfold requireOpenSession at h
  split at h
  case h_1 => cases h
  case h_2 session hsession =>
    split at h
    case isTrue => cases h
    case isFalse hopened => exact ⟨session, hsession, not_not.mp hopened⟩

theorem requireAttachedProvider_some
    (h : requireAttachedProvider p command observedAt = some rejected) : Rejection p rejected := by
  unfold requireAttachedProvider at h
  split at h
  case h_1 =>
    cases h
    exact rejectCommand_rejection _ _
  case h_2 => cases h

theorem requireAttachedProvider_none (h : requireAttachedProvider p command observedAt = none) :
    ∃ provider, p.provider = some provider := by
  unfold requireAttachedProvider at h
  split at h
  case h_1 => cases h
  case h_2 provider hprovider => exact ⟨provider, hprovider⟩

theorem requireActiveTurn_some
    (h : requireActiveTurn p command observedAt = some rejected) : Rejection p rejected := by
  unfold requireActiveTurn at h
  split at h
  case isTrue =>
    cases h
    exact rejectCommand_rejection _ _
  case isFalse => cases h

theorem hasActiveTurn_iff :
    hasActiveTurn p = true ↔ ∃ turn, p.turn = some turn ∧ turn.status = .active := by
  rw [hasActiveTurn, Option.any_eq_true]
  exact exists_congr fun turn => and_congr_right fun _ => decide_eq_true_iff

theorem requireActiveTurn_none (h : requireActiveTurn p command observedAt = none) :
    ∃ turn, p.turn = some turn ∧ turn.status = .active := by
  unfold requireActiveTurn at h
  split at h
  case isTrue => cases h
  case isFalse hactive =>
    refine hasActiveTurn_iff.mp ?_
    cases hcase : hasActiveTurn p with
    | true => rfl
    | false => exact absurd (by rw [hcase]; rfl) hactive

end Guards

section Dispatch

variable (p : Projection)

theorem applyFact_eq (session : SessionProjection) (provider : ProviderProjection)
    (turn : TurnProjection) (fact : ObservedProviderFact) : applyFact p session provider turn fact =
      { p with
        turn := some (fact.applyTo turn)
        checkpoint := fact.base.checkpoint
        lastFact := some (.observed session.id provider.id fact)
        failure := fact.leaves } := by
  cases fact <;> rfl

theorem observeProviderFact_cases (fact : ObservedProviderFact) :
    Rejection p (observeProviderFact p fact) ∨
      Accepted p (.observeProviderFact fact) (observeProviderFact p fact) := by
  unfold observeProviderFact
  split
  case h_1 rejected hguard => exact .inl (requireOpenSession_some hguard)
  case h_2 hopen =>
    obtain ⟨session, hsession, hopened⟩ := requireOpenSession_none hopen
    split
    case h_1 rejected hguard => exact .inl (requireAttachedProvider_some hguard)
    case h_2 hattached =>
      obtain ⟨provider, hprovider⟩ := requireAttachedProvider_none hattached
      split
      case h_1 rejected hguard => exact .inl (requireActiveTurn_some hguard)
      case h_2 hrequired =>
        obtain ⟨turn, hturn, hactive⟩ := requireActiveTurn_none hrequired
        simp only [hsession, hprovider, hturn]
        split
        case isTrue => exact .inl (rejectCommand_rejection _ _)
        case isFalse hid =>
          split
          case isTrue => exact .inl (rejectCommand_rejection _ _)
          case isFalse hsequence =>
            rw [applyFact_eq]
            exact .inr (.observeProviderFact fact session provider turn hsession hopened hprovider
              hturn hactive (not_not.mp hid) (Int.not_le.mp hsequence))

theorem dispatch_cases (command : Command) :
    Rejection p (dispatch p command) ∨ Accepted p command (dispatch p command) := by
  cases command with
  | createSession sessionId openedAt =>
    simp only [dispatch]
    split
    case h_1 => exact .inl (rejectCommand_rejection _ _)
    case h_2 hsession => exact .inr (.createSession sessionId openedAt hsession)
  | attachProvider providerId attachedAt metadata =>
    simp only [dispatch]
    split
    case h_1 rejected hguard => exact .inl (requireOpenSession_some hguard)
    case h_2 hopen =>
      obtain ⟨session, hsession, hopened⟩ := requireOpenSession_none hopen
      split
      case isTrue => exact .inl (rejectCommand_rejection _ _)
      case isFalse hturn =>
        simp only [hsession]
        exact .inr (.attachProvider providerId attachedAt metadata session hsession hopened
          (Bool.eq_false_iff.mpr hturn))
  | submitTurn turnId submittedAt input =>
    simp only [dispatch]
    split
    case h_1 rejected hguard => exact .inl (requireOpenSession_some hguard)
    case h_2 hopen =>
      obtain ⟨session, hsession, hopened⟩ := requireOpenSession_none hopen
      split
      case h_1 rejected hguard => exact .inl (requireAttachedProvider_some hguard)
      case h_2 hattached =>
        obtain ⟨provider, hprovider⟩ := requireAttachedProvider_none hattached
        split
        case isTrue => exact .inl (rejectCommand_rejection _ _)
        case isFalse hturn =>
          simp only [hsession, hprovider]
          refine .inr (.submitTurn
            { id := turnId, status := .active, submittedAt, output := "", sequence := 0
              checkpoint := none, completedAt := none, cancelledAt := none, failedAt := none
              cancelReason := none, failure := none, input } session provider hsession hopened
            hprovider (Bool.eq_false_iff.mpr hturn) rfl rfl rfl rfl)
  | cancelTurn cancelledAt reason =>
    simp only [dispatch]
    split
    case h_1 rejected hguard => exact .inl (requireOpenSession_some hguard)
    case h_2 hopen =>
      obtain ⟨session, hsession, hopened⟩ := requireOpenSession_none hopen
      split
      case h_1 rejected hguard => exact .inl (requireAttachedProvider_some hguard)
      case h_2 hattached =>
        obtain ⟨provider, hprovider⟩ := requireAttachedProvider_none hattached
        split
        case h_1 rejected hguard => exact .inl (requireActiveTurn_some hguard)
        case h_2 hrequired =>
          obtain ⟨turn, hturn, hactive⟩ := requireActiveTurn_none hrequired
          simp only [hsession, hprovider, hturn]
          exact .inr (.cancelTurn cancelledAt reason turn _ _ rfl session provider hsession hopened
            hprovider hturn hactive rfl rfl rfl rfl)
  | closeSession closedAt =>
    simp only [dispatch]
    split
    case h_1 rejected hguard => exact .inl (requireOpenSession_some hguard)
    case h_2 hopen =>
      obtain ⟨session, hsession, hopened⟩ := requireOpenSession_none hopen
      split
      case isTrue => exact .inl (rejectCommand_rejection _ _)
      case isFalse hturn =>
        simp only [hsession]
        exact .inr (.closeSession closedAt session hsession hopened (Bool.eq_false_iff.mpr hturn))
  | observeProviderFact fact => exact observeProviderFact_cases p fact

theorem Accepted.not_rejected {p p' : Projection} {command : Command}
    (h : Accepted p command p') : p'.rejected = false := by
  cases h with
  | cancelTurn _ _ _ _ _ hfact => exact hfact
  | createSession | attachProvider | submitTurn | closeSession | observeProviderFact => rfl

end Dispatch

section Facts

def ObservedProviderFact.delta : ObservedProviderFact → Option String
  | .providerDelta _ delta _ => some delta
  | .turnCompleted _ _ _ | .turnCancelled _ _ _ | .turnFailed _ _ _ => none

def concatenated (facts : List ObservedProviderFact) : String :=
  String.join (facts.filterMap ObservedProviderFact.delta)

theorem concatenated_concat (facts : List ObservedProviderFact) (fact : ObservedProviderFact) :
    concatenated (facts ++ [fact]) = concatenated facts ++ fact.delta.getD "" := by
  rw [concatenated, List.filterMap_append, String.join, List.foldl_append, ← String.join,
    ← concatenated]
  cases fact with
  | providerDelta => rfl
  | turnCompleted | turnCancelled | turnFailed => exact String.append_empty.symm

structure History where
  projection : Projection
  facts : List ObservedProviderFact

def History.next (h : History) (command : Command) : History :=
  let projection := dispatch h.projection command
  { projection
    facts :=
      if projection.rejected then h.facts
      else
        match command with
        | .submitTurn _ _ _ => []
        | .observeProviderFact fact => h.facts ++ [fact]
        | .createSession _ _ | .attachProvider _ _ _ | .cancelTurn _ _ | .closeSession _ => h.facts }

variable (commands : List Command)

def history : History :=
  commands.foldl History.next { projection := createInitialProjection, facts := [] }

/-- The facts accepted since the last `SUBMIT_TURN` that was accepted. -/
def acceptedFacts : List ObservedProviderFact := (history commands).facts

theorem history_projection : (history commands).projection = run commands := by
  have hfold : ∀ (h : History), (commands.foldl History.next h).projection =
      commands.foldl dispatch h.projection := by
    induction commands with
    | nil => exact fun h => rfl
    | cons command commands ih => exact fun h => ih (h.next command)
  exact hfold _

theorem history_concat (command : Command) :
    history (commands ++ [command]) = (history commands).next command := by
  rw [history, List.foldl_concat, history]

structure Consistent (h : History) : Prop where
  created : h.projection.session = none → h.projection.turn = none
  active : hasActiveTurn h.projection = true →
    (∃ session, h.projection.session = some session ∧ session.status = .opened) ∧
      h.projection.provider.isSome = true
  sequences : ∀ turn, h.projection.turn = some turn → ∀ fact ∈ h.facts,
    fact.base.sequence ≤ turn.sequence
  output : ∀ turn, h.projection.turn = some turn → turn.status ≠ .completed →
    turn.output = concatenated h.facts
  completed : ∀ turn, h.projection.turn = some turn → turn.status = .completed →
    ∃ base completedAt, h.facts.getLast? = some (.turnCompleted base completedAt turn.output)
  checkpoint : h.projection.checkpoint = h.projection.turn.bind TurnProjection.checkpoint

theorem Consistent.congr {h h' : History} (hc : Consistent h)
    (hsession : h'.projection.session = h.projection.session)
    (hprovider : h'.projection.provider = h.projection.provider)
    (hturn : h'.projection.turn = h.projection.turn)
    (hcheckpoint : h'.projection.checkpoint = h.projection.checkpoint)
    (hfacts : h'.facts = h.facts) : Consistent h' where
  created := by rw [hsession, hturn]; exact hc.created
  active := by
    rw [hasActiveTurn, hturn, hsession, hprovider]
    exact hc.active
  sequences := by rw [hturn, hfacts]; exact hc.sequences
  output := by rw [hturn, hfacts]; exact hc.output
  completed := by rw [hturn, hfacts]; exact hc.completed
  checkpoint := by rw [hturn, hcheckpoint]; exact hc.checkpoint

theorem Consistent.observe {h : History} (hc : Consistent h) {turn : TurnProjection}
    (hturn : h.projection.turn = some turn) (hactive : turn.status = .active)
    {fact : ObservedProviderFact} (hsequence : turn.sequence < fact.base.sequence)
    {p : Projection} (hsession : p.session = h.projection.session)
    (hprovider : p.provider = h.projection.provider)
    (hnext : p.turn = some (fact.applyTo turn)) (hcheckpoint : p.checkpoint = fact.base.checkpoint) :
    Consistent { projection := p, facts := h.facts ++ [fact] } where
  created hnone := by
    obtain ⟨⟨session, hsome, -⟩, -⟩ := hc.active (hasActiveTurn_iff.mpr ⟨turn, hturn, hactive⟩)
    rw [← hsession] at hsome
    exact absurd (hsome.symm.trans hnone) nofun
  active := by
    rw [hsession, hprovider]
    exact fun _ => hc.active (hasActiveTurn_iff.mpr ⟨turn, hturn, hactive⟩)
  sequences := by
    intro next hsome other hother
    obtain rfl := Option.some.inj (hnext.symm.trans hsome)
    have hsame : (fact.applyTo turn).sequence = fact.base.sequence := by cases fact <;> rfl
    rw [hsame]
    obtain hother | hother := List.mem_append.mp hother
    · exact Int.le_trans (hc.sequences turn hturn other hother) (Int.le_of_lt hsequence)
    · exact Int.le_of_eq (by rw [List.mem_singleton.mp hother])
  output := by
    intro next hsome hstatus
    obtain rfl := Option.some.inj (hnext.symm.trans hsome)
    have hbefore := hc.output turn hturn (by rw [hactive]; decide)
    rw [concatenated_concat, ← hbefore]
    cases fact with
    | providerDelta => rfl
    | turnCompleted => exact absurd rfl hstatus
    | turnCancelled | turnFailed => exact String.append_empty.symm
  completed := by
    intro next hsome hstatus
    obtain rfl := Option.some.inj (hnext.symm.trans hsome)
    cases fact with
    | turnCompleted base completedAt output => exact ⟨base, completedAt, List.getLast?_concat⟩
    | providerDelta base delta observedAt =>
      change turn.status = _ at hstatus
      rw [hactive] at hstatus
      cases hstatus
    | turnCancelled => cases hstatus
    | turnFailed => cases hstatus
  checkpoint := by
    change p.checkpoint = p.turn.bind _
    rw [hnext, hcheckpoint]
    cases fact <;> rfl

theorem hasActiveTurn_eq_false {p : Projection} {turn : TurnProjection} (hturn : p.turn = some turn)
    (h : turn.status ≠ .active) : hasActiveTurn p = false := by
  rw [hasActiveTurn, hturn]
  exact decide_eq_false h

theorem Consistent.next {h : History} (hc : Consistent h) (command : Command) :
    Consistent (h.next command) := by
  obtain hrejection | haccepted := dispatch_cases h.projection command
  · obtain ⟨hsession, hprovider, hturn, hcheckpoint⟩ := hrejection.fields
    exact hc.congr hsession hprovider hturn hcheckpoint (if_pos hrejection.rejected)
  · have hnot := haccepted.not_rejected
    unfold History.next
    simp only [hnot, Bool.false_eq_true, if_false]
    generalize dispatch h.projection command = p at haccepted
    cases haccepted with
    | createSession sessionId openedAt hsession =>
      refine ⟨nofun, fun hactive => ?_, ?_, ?_, ?_, rfl⟩
      · cases hactive
      all_goals rintro turn ⟨⟩
    | attachProvider providerId attachedAt metadata session hsession hopened hturn =>
      refine ⟨hc.created, fun hactive => ?_, hc.sequences, hc.output, hc.completed, hc.checkpoint⟩
      exact absurd hactive (Bool.eq_false_iff.mp hturn)
    | submitTurn turn session provider hsession hopened hprovider hturn hactive houtput hsequence
        hcheckpoint =>
        refine ⟨fun hnone => ?_, fun _ => ⟨⟨session, hsession, hopened⟩, ?_⟩,
          fun _ _ fact hfact => ?_, ?_, ?_, ?_⟩
        · exact absurd (hsession.symm.trans hnone) nofun
        · exact hprovider ▸ rfl
        · cases hfact
        · rintro _ ⟨⟩ -
          exact houtput
        · rintro _ ⟨⟩ hstatus
          rw [hactive] at hstatus
          cases hstatus
        · exact hcheckpoint.symm
    | cancelTurn cancelledAt reason turn cancelled fact hfact session provider hsession hopened
        hprovider hturn hactive hcancelled houtput hsequence hcheckpoint =>
        refine ⟨fun hnone => ?_, fun hnow => ?_, ?_, ?_, ?_, rfl⟩
        · exact absurd (hsession.symm.trans hnone) nofun
        · obtain ⟨_, ⟨⟩, hstatus⟩ := hasActiveTurn_iff.mp hnow
          rw [hcancelled] at hstatus
          cases hstatus
        · rintro _ ⟨⟩
          rw [hsequence]
          exact hc.sequences turn hturn
        · rintro _ ⟨⟩ -
          rw [houtput]
          exact hc.output turn hturn (by rw [hactive]; decide)
        · rintro _ ⟨⟩ hstatus
          rw [hcancelled] at hstatus
          cases hstatus
    | closeSession closedAt session hsession hopened hturn =>
      refine ⟨nofun, fun hactive => ?_, hc.sequences, hc.output, hc.completed, hc.checkpoint⟩
      exact absurd hactive (Bool.eq_false_iff.mp hturn)
    | observeProviderFact fact session provider turn hsession hopened hprovider hturn hactive hid
        hsequence =>
        exact hc.observe hturn hactive hsequence rfl rfl rfl rfl

theorem consistent_history : Consistent (history commands) := by
  induction commands using List.reverseRecOn with
  | nil =>
    refine ⟨fun _ => rfl, fun hactive => ?_, ?_, ?_, ?_, rfl⟩
    · cases hactive
    all_goals rintro turn ⟨⟩
  | append_singleton commands command ih =>
    rw [history_concat]
    exact ih.next command

end Facts

section Laws

inductive SessionAdvance : Option SessionProjection → Option SessionProjection → Prop
  | same (session : Option SessionProjection) : SessionAdvance session session
  | create (session : SessionProjection) (hopened : session.status = .opened) :
      SessionAdvance none (some session)
  | close (session : SessionProjection) (closedAt : String) (hopened : session.status = .opened) :
      SessionAdvance (some session)
        (some { session with status := .closed, closedAt := some closedAt })

/-- What holds of a snapshot `p`, the facts accepted for its turn, and the snapshot `p'` after
one more command. -/
structure Laws (p : Projection) (facts : List ObservedProviderFact) (command : Command)
    (p' : Projection) : Prop where
  rejected : p'.rejected = true → p' = { p with lastFact := p'.lastFact, failure := p'.failure }
  session : SessionAdvance p.session p'.session
  terminal : ∀ turn, p.turn = some turn → turn.status ≠ .active →
    p'.turn = some turn ∨ command.type = .submitTurn ∧ p'.rejected = false
  active : hasActiveTurn p = true →
    (∃ session, p.session = some session ∧ session.status = .opened) ∧
      p.provider.isSome = true ∧ p'.provider = p.provider
  accepted : ∀ fact, command = .observeProviderFact fact → p'.rejected = false →
    ∃ turn, p.turn = some turn ∧ turn.status = .active ∧ fact.base.turnId = turn.id ∧
      ∀ earlier ∈ facts, earlier.base.sequence < fact.base.sequence
  output : ∀ turn, p.turn = some turn → turn.status ≠ .completed →
    turn.output = concatenated facts
  completed : ∀ turn, p.turn = some turn → turn.status = .completed →
    ∃ base completedAt, facts.getLast? = some (.turnCompleted base completedAt turn.output)
  checkpoint : p.checkpoint = p.turn.bind TurnProjection.checkpoint

theorem Laws.of_rejection {h : History} (hc : Consistent h) {command : Command} {p' : Projection}
    (hrejection : Rejection h.projection p') : Laws h.projection h.facts command p' where
  rejected _ := hrejection.same
  session := by
    rw [hrejection.fields.1]
    exact .same _
  terminal turn hturn _ := .inl (hrejection.fields.2.2.1.trans hturn)
  active hactive := ⟨(hc.active hactive).1, (hc.active hactive).2, hrejection.fields.2.1⟩
  accepted fact _ hnot := by
    rw [hrejection.rejected] at hnot
    cases hnot
  output := hc.output
  completed := hc.completed
  checkpoint := hc.checkpoint

theorem Laws.of_accepted {h : History} (hc : Consistent h) {command : Command} {p' : Projection}
    (haccepted : Accepted h.projection command p') : Laws h.projection h.facts command p' where
  rejected hrejected := by
    rw [haccepted.not_rejected] at hrejected
    cases hrejected
  session := by
    cases haccepted with
    | createSession sessionId openedAt hsession =>
      rw [hsession]
      exact .create _ rfl
    | closeSession closedAt session hsession hopened hturn =>
      rw [hsession]
      exact .close session closedAt hopened
    | attachProvider | submitTurn | cancelTurn | observeProviderFact => exact .same _
  terminal turn hturn hstatus := by
    have hnot := hasActiveTurn_eq_false hturn hstatus
    cases haccepted with
    | createSession sessionId openedAt hsession =>
      rw [hc.created hsession] at hturn
      cases hturn
    | attachProvider | closeSession => exact .inl hturn
    | submitTurn => exact .inr ⟨rfl, rfl⟩
    | cancelTurn cancelledAt reason other cancelled fact hfact session provider hsession hopened hprovider hother hactive
    | observeProviderFact fact session provider other hsession hopened hprovider hother hactive =>
      exact absurd (hasActiveTurn_iff.mpr ⟨other, hother, hactive⟩) (Bool.eq_false_iff.mp hnot)
  active hactive := by
    refine ⟨(hc.active hactive).1, (hc.active hactive).2, ?_⟩
    cases haccepted with
    | createSession sessionId openedAt hsession =>
      obtain ⟨⟨session, hsome, -⟩, -⟩ := hc.active hactive
      rw [hsession] at hsome
      cases hsome
    | attachProvider providerId attachedAt metadata session hsession hopened hturn =>
      rw [hturn] at hactive
      cases hactive
    | submitTurn | cancelTurn | closeSession | observeProviderFact => rfl
  accepted fact heq _ := by
    subst heq
    cases haccepted with
    | observeProviderFact _ session provider turn hsession hopened hprovider hturn hactive hid
        hsequence =>
        exact ⟨turn, hturn, hactive, hid, fun earlier hearlier =>
          Int.lt_of_le_of_lt (hc.sequences turn hturn earlier hearlier) hsequence⟩
  output := hc.output
  completed := hc.completed
  checkpoint := hc.checkpoint

/-- The laws of a session actor hold after every history of commands. -/
theorem session_laws (commands : List Command) (command : Command) :
    Laws (run commands) (acceptedFacts commands) command (run (commands ++ [command])) := by
  have hc := consistent_history commands
  have hnext : run (commands ++ [command]) = dispatch (run commands) command :=
    List.foldl_concat _ _ _ _
  rw [hnext, ← history_projection]
  obtain hrejection | haccepted := dispatch_cases (history commands).projection command
  · exact .of_rejection hc hrejection
  · exact .of_accepted hc haccepted

end Laws

end ActorWeb.SessionActor
