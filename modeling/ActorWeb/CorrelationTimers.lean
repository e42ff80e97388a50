import ActorWeb.OrderedMap
import ActorWeb.Transition
import Mathlib.Tactic.Linarith

namespace ActorWeb.Correlation

open OrderedMap List Transition

abbrev Time := ℚ

section Managers

/-- An entry of `pendingRequests`; the promise is known by the number of its registration. -/
structure PendingRequest where
  promise : Nat
  (createdAt timeoutMs : Time)
  timeoutId : Nat
deriving DecidableEq

/-- An armed timer of the `PureXStateTimeoutManager`. Its callback calls `handleTimeout` with the
correlation id. -/
structure Timer where
  correlationId : String
  dueAt : Time

inductive Failure
  | given (message : String)
  | timedOut (correlationId : String) (duration timeoutMs : Time)
  | cleared (correlationId : String)
deriving DecidableEq

def Failure.message (number : Time → String) : Failure → String
  | given message => message
  | timedOut correlationId duration timeoutMs =>
    "Request " ++ correlationId ++ " timed out after " ++ number duration ++
      "ms (configured: " ++ number timeoutMs ++ "ms)"
  | cleared correlationId => "Correlation manager cleared: " ++ correlationId

inductive Settlement (Response : Type)
  | resolved (response : Response)
  | rejected (error : Failure)
deriving DecidableEq

variable {Response : Type}

/-- The manager, with the promises it has settled and the number of those it has registered. -/
structure Manager (Response : Type) where
  pendingRequests : OrderedMap String PendingRequest
  timeouts : OrderedMap Nat Timer
  (idCounter registered : Nat)
  settled : List (Nat × Settlement Response)

namespace Manager

def new : Manager Response := ⟨.empty, .empty, 0, 0, []⟩

variable (m : Manager Response)

def settle (promise : Nat) (settlement : Settlement Response) :
    Manager Response :=
  { m with settled := m.settled ++ [(promise, settlement)] }

def setTimeout (timer : Timer) : Manager Response :=
  { m with timeouts := m.timeouts.set m.idCounter timer, idCounter := m.idCounter + 1 }

def clearTimeout (timeoutId : Nat) : Manager Response :=
  { m with timeouts := m.timeouts.delete timeoutId }

/-- `none` when the id is in use: that call's promise is rejected, and nothing is registered. -/
def registerRequest (now : Time) (correlationId : String) (timeout : Time) :
    Option (Manager Response) :=
  if m.pendingRequests.has correlationId then none
  else
    some
      { m.setTimeout ⟨correlationId, now + timeout⟩ with
        pendingRequests := m.pendingRequests.set correlationId
          ⟨m.registered, now, timeout, m.idCounter⟩
        registered := m.registered + 1 }

def handleResponse (correlationId : String) (response : Response) :
    Manager Response :=
  match m.pendingRequests.get correlationId with
  | none => m
  | some request =>
    { m.clearTimeout request.timeoutId with
      pendingRequests := m.pendingRequests.delete correlationId }.settle request.promise
        (.resolved response)

def handleError (correlationId : String) (error : String) :
    Manager Response :=
  match m.pendingRequests.get correlationId with
  | none => m
  | some request =>
    { m.clearTimeout request.timeoutId with
      pendingRequests := m.pendingRequests.delete correlationId }.settle request.promise
        (.rejected (.given error))

def handleTimeout (now : Time) (correlationId : String) :
    Manager Response :=
  match m.pendingRequests.get correlationId with
  | none => m
  | some request =>
    { m with pendingRequests := m.pendingRequests.delete correlationId }.settle request.promise
      (.rejected (.timedOut correlationId (now - request.createdAt) request.timeoutMs))

def clearAllRequests : Manager Response :=
  { m with
    timeouts := .empty
    pendingRequests := .empty
    settled := m.settled ++ m.pendingRequests.entries.map fun e =>
      (e.2.promise, .rejected (.cleared e.1)) }

def expire (now : Time) (timeoutId : Nat) (timer : Timer) :
    Manager Response :=
  (m.handleTimeout now timer.correlationId).clearTimeout timeoutId

end Manager

end Managers

section Runs

variable {Response : Type}

inductive Action (Response : Type)
  | registerRequest (correlationId : String) (timeout : Time)
  | handleResponse (correlationId : String) (response : Response)
  | handleError (correlationId : String) (error : String)
  | handleTimeout (correlationId : String)
  | clearAllRequests
  | expire (timeoutId : Nat)
  | wait (elapsed : Time)

inductive Event (Response : Type)
  | response (correlationId : String) (response : Response)
  | error (correlationId : String) (message : String)
  | timeout (correlationId : String)
  | expired (correlationId : String)
  | cleared

def Event.names (correlationId : String) : Event Response → Bool
  | response c _ => c = correlationId
  | error c _ => c = correlationId
  | timeout c => c = correlationId
  | expired c => c = correlationId
  | cleared => true

/-- A registered request, with all that happened since its registration and the times at which it
did. -/
structure Request (Response : Type) where
  promise : Nat
  correlationId : String
  (registeredAt timeoutMs : Time)
  since : List (Time × Event Response)

namespace Request

def observe (at' : Time) (event : Event Response) (r : Request Response) : Request Response :=
  { r with since := r.since ++ [(at', event)] }

def first (r : Request Response) : Option (Time × Event Response) :=
  r.since.find? fun e => e.2.names r.correlationId

def settlement (r : Request Response) (at' : Time) : Event Response → Settlement Response
  | .response _ response => .resolved response
  | .error _ message => .rejected (.given message)
  | .timeout _ | .expired _ =>
    .rejected (.timedOut r.correlationId (at' - r.registeredAt) r.timeoutMs)
  | .cleared => .rejected (.cleared r.correlationId)

/-- What the promise is to be settled with: nothing, or what the first event makes of it. -/
def due (r : Request Response) : List (Nat × Settlement Response) :=
  (r.first.map fun e => (r.promise, r.settlement e.1 e.2)).toList

end Request

structure World (Response : Type) where
  manager : Manager Response
  now : Time
  requests : List (Request Response)

namespace World

def start : World Response := ⟨.new, 0, []⟩

def observe (w : World Response) (manager : Manager Response) (event : Event Response) :
    World Response :=
  { w with manager, requests := w.requests.map (Request.observe w.now event) }

/-- An id is registered again only after its request has settled; a timer expires once, at its time
or later. -/
def step (w : World Response) : Action Response → Option (World Response)
  | .registerRequest correlationId timeout =>
    (w.manager.registerRequest w.now correlationId timeout).map fun m =>
      { w with
        manager := m
        requests := w.requests ++ [⟨w.manager.registered, correlationId, w.now, timeout, []⟩] }
  | .handleResponse correlationId response =>
    some (w.observe (w.manager.handleResponse correlationId response)
      (.response correlationId response))
  | .handleError correlationId error =>
    some (w.observe (w.manager.handleError correlationId error) (.error correlationId error))
  | .handleTimeout correlationId =>
    some (w.observe (w.manager.handleTimeout w.now correlationId) (.timeout correlationId))
  | .clearAllRequests => some (w.observe w.manager.clearAllRequests .cleared)
  | .expire timeoutId =>
    (w.manager.timeouts.get timeoutId).bind fun timer =>
      if timer.dueAt ≤ w.now then
        some (w.observe (w.manager.expire w.now timeoutId timer) (.expired timer.correlationId))
      else none
  | .wait elapsed => if 0 ≤ elapsed then some { w with now := w.now + elapsed } else none

end World

end Runs

section Laws

variable {Response : Type}

/-- What is promised in every moment: promises are settled once, by the first event that names
them, they time out only in time, and the armed timers are those of the pending requests. -/
structure Lawful (w : World Response) : Prop where
  settled : ∀ r ∈ w.requests, (w.manager.settled.filter fun e => e.1 = r.promise) = r.due
  elapsed : ∀ r ∈ w.requests, ∀ at' c, r.first = some (at', .expired c) →
    r.registeredAt + r.timeoutMs ≤ at'
  pending : ∀ c p, w.manager.pendingRequests.get c = some p →
    ∃ r ∈ w.requests, r.first = none ∧ r.correlationId = c ∧ r.promise = p.promise ∧
      r.registeredAt = p.createdAt ∧ r.timeoutMs = p.timeoutMs
  waiting : ∀ r ∈ w.requests, r.first = none → ∃ p,
    w.manager.pendingRequests.get r.correlationId = some p ∧ p.promise = r.promise
  armed : ∀ c p, w.manager.pendingRequests.get c = some p →
    w.manager.timeouts.get p.timeoutId = some ⟨c, p.createdAt + p.timeoutMs⟩
  owned : ∀ id timer, w.manager.timeouts.get id = some timer → ∃ p,
    w.manager.pendingRequests.get timer.correlationId = some p ∧ p.timeoutId = id

def NotPending (w : World Response) : Action Response → Prop
  | .handleTimeout correlationId => w.manager.pendingRequests.get correlationId = none
  | .registerRequest _ _ | .handleResponse _ _ | .handleError _ _ | .clearAllRequests | .expire _
  | .wait _ => True

structure Sound (w : World Response) : Prop extends Lawful w where
  numbered : w.requests.map Request.promise = List.range w.manager.registered
  known : ∀ e ∈ w.manager.settled, e.1 < w.manager.registered
  fresh : ∀ id timer, w.manager.timeouts.get id = some timer → id < w.manager.idCounter

theorem sound_start : Sound (World.start : World Response) where
  settled := nofun
  elapsed := nofun
  pending := nofun
  waiting := nofun
  armed := nofun
  owned := nofun
  numbered := rfl
  known := nofun
  fresh := nofun

end Laws

section Requests

variable {Response : Type} {r : Request Response} {at' : Time} {event : Event Response}

theorem observe_first : (r.observe at' event).first =
    r.first.or (if event.names r.correlationId then some (at', event) else none) := by
  simp only [Request.first, Request.observe, find?_append, find?_singleton]

theorem observe_first_of_not_names (h : event.names r.correlationId = false) :
    (r.observe at' event).first = r.first := by
  rw [observe_first, h]
  simp

theorem observe_first_of_some {e : Time × Event Response} (h : r.first = some e) :
    (r.observe at' event).first = some e := by
  rw [observe_first, h, Option.some_or]

theorem observe_first_of_names (hnone : r.first = none) (h : event.names r.correlationId = true) :
    (r.observe at' event).first = some (at', event) := by
  rw [observe_first, hnone, h]
  rfl

theorem observe_due (h : (r.observe at' event).first = r.first) :
    (r.observe at' event).due = r.due := by
  rw [Request.due, h]
  rfl

end Requests

section Steps

variable {Response : Type} {w w' : World Response} {c : String} {p : PendingRequest}
  {event : Event Response}

theorem Sound.ignored (h : Sound w) (hnames : ∀ d, event.names d = true →
    w.manager.pendingRequests.get d = none) : Sound (w.observe w.manager event) := by
  have hsame : ∀ r ∈ w.requests, (r.observe w.now event).first = r.first := by
    intro r hr
    cases hfirst : r.first with
    | some e => exact observe_first_of_some hfirst
    | none =>
      obtain ⟨p, hp, -⟩ := h.waiting r hr hfirst
      rw [← hfirst]
      refine observe_first_of_not_names (Bool.eq_false_iff.mpr fun hn => ?_)
      rw [hnames _ hn] at hp
      cases hp
  refine { settled := ?_, elapsed := ?_, pending := ?_, waiting := ?_, armed := h.armed,
           owned := h.owned, numbered := ?_, known := h.known, fresh := h.fresh }
  · intro r' hr'
    obtain ⟨r, hr, rfl⟩ := mem_map.mp hr'
    rw [observe_due (hsame r hr)]
    exact h.settled r hr
  · intro r' hr' at' d hfirst
    obtain ⟨r, hr, rfl⟩ := mem_map.mp hr'
    exact h.elapsed r hr at' d ((hsame r hr).symm.trans hfirst)
  · intro d p hp
    obtain ⟨r, hr, hfirst, hkept⟩ := h.pending d p hp
    exact ⟨_, mem_map_of_mem hr, (hsame r hr).trans hfirst, hkept⟩
  · intro r' hr' hfirst
    obtain ⟨r, hr, rfl⟩ := mem_map.mp hr'
    exact h.waiting r hr ((hsame r hr).symm.trans hfirst)
  · exact (map_map ..).trans h.numbered

theorem Sound.unique (h : Sound w) {r r' : Request Response} (hr : r ∈ w.requests)
    (hr' : r' ∈ w.requests) (heq : r.promise = r'.promise) : r = r' :=
  inj_on_of_nodup_map (h.numbered ▸ nodup_range) hr hr' heq

theorem Sound.promise_lt (h : Sound w) {r : Request Response} (hr : r ∈ w.requests) :
    r.promise < w.manager.registered := by
  rw [← mem_range, ← h.numbered]
  exact mem_map_of_mem hr

/-- The manager after the pending request of an id is settled and its timer is gone. -/
def Manager.concluded (m : Manager Response) (c : String) (p : PendingRequest)
    (s : Settlement Response) : Manager Response :=
  { m with
    pendingRequests := m.pendingRequests.delete c
    timeouts := m.timeouts.delete p.timeoutId
    settled := m.settled ++ [(p.promise, s)] }

theorem Sound.concluded (h : Sound w) (hp : w.manager.pendingRequests.get c = some p)
    (hnames : ∀ d, event.names d = true ↔ d = c)
    (helapsed : ∀ d, event = .expired d → p.createdAt + p.timeoutMs ≤ w.now)
    {s : Settlement Response} (hs : ∀ r : Request Response, r.correlationId = c →
      r.registeredAt = p.createdAt → r.timeoutMs = p.timeoutMs → r.settlement w.now event = s) :
    Sound (w.observe (w.manager.concluded c p s) event) := by
  obtain ⟨r₀, hr₀, hfirst₀, hid₀, hpromise₀, hat₀, hms₀⟩ := h.pending c p hp
  have hknown : p.promise < w.manager.registered := hpromise₀ ▸ h.promise_lt hr₀
  -- a request that is not settled is named only if it is the pending one
  have hnamed : ∀ r ∈ w.requests, r.first = none → r.correlationId = c → r = r₀ := by
    intro r hr hfirst hid
    obtain ⟨p', hp', hpromise⟩ := h.waiting r hr hfirst
    rw [hid, hp] at hp'
    cases hp'
    exact h.unique hr hr₀ (hpromise.symm.trans hpromise₀.symm)
  have hother : ∀ r ∈ w.requests, r ≠ r₀ → (r.observe w.now event).first = r.first := by
    intro r hr hne
    cases hfirst : r.first with
    | some e => exact observe_first_of_some hfirst
    | none =>
      rw [← hfirst]
      refine observe_first_of_not_names (Bool.eq_false_iff.mpr fun hn => hne ?_)
      exact hnamed r hr hfirst ((hnames _).mp hn)
  have hself : (r₀.observe w.now event).first = some (w.now, event) :=
    observe_first_of_names hfirst₀ ((hnames _).mpr hid₀)
  refine { settled := ?_, elapsed := ?_, pending := ?_, waiting := ?_, armed := ?_, owned := ?_,
           numbered := (map_map ..).trans h.numbered, known := ?_, fresh := ?_ }
  · intro r' hr'
    obtain ⟨r, hr, rfl⟩ := mem_map.mp hr'
    have hold := h.settled r hr
    by_cases hr₀' : r = r₀
    · subst hr₀'
      have hdue : (r.observe w.now event).due = [(r.promise, s)] := by
        rw [Request.due, hself, ← hs r hid₀ hat₀ hms₀]
        rfl
      have hnone : r.due = [] := by
        rw [Request.due, hfirst₀]
        rfl
      rw [hdue]
      change (w.manager.settled ++ [(p.promise, s)]).filter (fun e => e.1 = r.promise) = _
      rw [filter_append, hold, hnone, ← hpromise₀]
      simp
    · rw [observe_due (hother r hr hr₀')]
      have hne : p.promise ≠ r.promise := fun heq =>
        hr₀' (h.unique hr hr₀ (heq.symm.trans hpromise₀.symm))
      change (w.manager.settled ++ [(p.promise, s)]).filter (fun e => e.1 = r.promise) = _
      rw [filter_append, hold]
      simp [hne]
  · intro r' hr' at' d hfirst
    obtain ⟨r, hr, rfl⟩ := mem_map.mp hr'
    by_cases hr₀' : r = r₀
    · subst hr₀'
      obtain ⟨rfl, hevent⟩ := Prod.mk.inj (Option.some.inj (hself.symm.trans hfirst))
      change r.registeredAt + r.timeoutMs ≤ w.now
      rw [hat₀, hms₀]
      exact helapsed d hevent
    · exact h.elapsed r hr at' d ((hother r hr hr₀').symm.trans hfirst)
  · intro d q hq
    change (w.manager.pendingRequests.delete c).get d = some q at hq
    rw [OrderedMap.get_delete] at hq
    split at hq
    case isTrue => cases hq
    case isFalse hdc =>
      obtain ⟨r, hr, hfirst, hid, hkept⟩ := h.pending d q hq
      have hne : r ≠ r₀ := fun heq => hdc (hid.symm.trans (heq ▸ hid₀))
      exact ⟨_, mem_map_of_mem hr, (hother r hr hne).trans hfirst, hid, hkept⟩
  · intro r' hr' hfirst
    obtain ⟨r, hr, rfl⟩ := mem_map.mp hr'
    have hne : r ≠ r₀ := by
      rintro rfl
      rw [hself] at hfirst
      cases hfirst
    have hnone := (hother r hr hne).symm.trans hfirst
    obtain ⟨q, hq, hpromise⟩ := h.waiting r hr hnone
    refine ⟨q, ?_, hpromise⟩
    change (w.manager.pendingRequests.delete c).get r.correlationId = some q
    rw [get_delete_ne _ fun hid => hne (hnamed r hr hnone hid), hq]
  · intro d q hq
    change (w.manager.pendingRequests.delete c).get d = some q at hq
    rw [OrderedMap.get_delete] at hq
    split at hq
    case isTrue => cases hq
    case isFalse hdc =>
      have hq' := h.armed d q hq
      have hne : q.timeoutId ≠ p.timeoutId := by
        intro heq
        rw [heq, h.armed c p hp] at hq'
        exact hdc (congrArg Timer.correlationId (Option.some.inj hq')).symm
      exact (get_delete_ne _ hne).trans hq'
  · intro id timer ht
    change (w.manager.timeouts.delete p.timeoutId).get id = some timer at ht
    rw [OrderedMap.get_delete] at ht
    split at ht
    case isTrue => cases ht
    case isFalse hne =>
      obtain ⟨q, hq, hid⟩ := h.owned id timer ht
      refine ⟨q, ?_, hid⟩
      refine (get_delete_ne _ fun heq => hne ?_).trans hq
      rw [heq, hp] at hq
      rw [← hid, Option.some.inj hq]
  · intro e he
    obtain he | he := mem_append.mp he
    · exact h.known e he
    · rw [mem_singleton.mp he]
      exact hknown
  · intro id timer ht
    change (w.manager.timeouts.delete p.timeoutId).get id = some timer at ht
    rw [OrderedMap.get_delete] at ht
    split at ht
    case isTrue => cases ht
    case isFalse => exact h.fresh id timer ht

theorem Sound.cleared (h : Sound w) : Sound (w.observe w.manager.clearAllRequests .cleared) := by
  have hnone : ∀ r ∈ w.requests, r.first = none →
      (r.observe w.now .cleared).first = some (w.now, .cleared) :=
    fun r _ hfirst => observe_first_of_names hfirst rfl
  have hentry : ∀ e ∈ w.manager.pendingRequests.entries, ∃ r ∈ w.requests, r.first = none ∧
      r.correlationId = e.1 ∧ r.promise = e.2.promise := by
    intro e he
    obtain ⟨r, hr, hfirst, hid, hpromise, -⟩ :=
      h.pending e.1 e.2 (get_eq_some_iff.mpr he)
    exact ⟨r, hr, hfirst, hid, hpromise⟩
  refine { settled := ?_, elapsed := ?_, pending := nofun, waiting := ?_, armed := nofun,
           owned := nofun, numbered := (map_map ..).trans h.numbered, known := ?_,
           fresh := nofun }
  · intro r' hr'
    obtain ⟨r, hr, rfl⟩ := mem_map.mp hr'
    change (w.manager.settled ++ _).filter (fun e => e.1 = r.promise) = _
    rw [filter_append, h.settled r hr, filter_map]
    cases hfirst : r.first with
    | some e =>
      rw [observe_due ((observe_first_of_some hfirst).trans hfirst.symm)]
      have hnil : w.manager.pendingRequests.entries.filter ((fun e : Nat × Settlement Response =>
          decide (e.1 = r.promise)) ∘ fun e => (e.2.promise, .rejected (.cleared e.1))) = [] := by
        refine filter_eq_nil_iff.mpr fun e he heq => ?_
        obtain ⟨r₀, hr₀, hfirst₀, -, hpromise⟩ := hentry e he
        obtain rfl := h.unique hr hr₀ ((of_decide_eq_true heq).symm.trans hpromise.symm)
        rw [hfirst] at hfirst₀
        cases hfirst₀
      rw [hnil, map_nil, append_nil]
    | none =>
      obtain ⟨p, hp, hpromise⟩ := h.waiting r hr hfirst
      have hone : w.manager.pendingRequests.entries.filter ((fun e : Nat × Settlement Response =>
          decide (e.1 = r.promise)) ∘ fun e => (e.2.promise, .rejected (.cleared e.1))) =
          [(r.correlationId, p)] := by
        have hmem := get_eq_some_iff.mp hp
        rw [filter_congr (q := fun e => e = (r.correlationId, p)), filter_eq,
          count_eq_one_of_mem (.of_map _ w.manager.pendingRequests.nodup) hmem]
        · rfl
        · intro e he
          refine decide_eq_decide.mpr ⟨fun heq => ?_, fun heq => heq ▸ hpromise⟩
          obtain ⟨r₀, hr₀, -, hid, hpromise₀⟩ := hentry e he
          obtain rfl := h.unique hr hr₀ (heq.symm.trans hpromise₀.symm)
          have he' := get_eq_some_iff.mpr he
          rw [← hid, hp] at he'
          exact Prod.ext hid.symm (Option.some.inj he').symm
      rw [hone, Request.due, Request.due, hfirst, hnone r hr hfirst]
      simp [hpromise, Request.settlement, Request.observe]
  · intro r' hr' at' d hfirst
    obtain ⟨r, hr, rfl⟩ := mem_map.mp hr'
    cases hold : r.first with
    | some e =>
      rw [observe_first_of_some hold, ← hold] at hfirst
      exact h.elapsed r hr at' d hfirst
    | none =>
      rw [hnone r hr hold] at hfirst
      cases hfirst
  · intro r' hr' hfirst
    obtain ⟨r, hr, rfl⟩ := mem_map.mp hr'
    cases hold : r.first with
    | some e =>
      rw [observe_first_of_some hold] at hfirst
      cases hfirst
    | none =>
      rw [hnone r hr hold] at hfirst
      cases hfirst
  · intro e he
    obtain he | he := mem_append.mp he
    · exact h.known e he
    · obtain ⟨entry, hentry', rfl⟩ := mem_map.mp he
      obtain ⟨r, hr, -, -, hpromise⟩ := hentry entry hentry'
      exact hpromise ▸ h.promise_lt hr

theorem Sound.registered (h : Sound w) {timeout : Time} {m : Manager Response}
    (hm : w.manager.registerRequest w.now c timeout = some m) : Sound { w with
      manager := m
      requests := w.requests ++ [⟨w.manager.registered, c, w.now, timeout, []⟩] } := by
  unfold Manager.registerRequest at hm
  split at hm
  case isTrue => cases hm
  case isFalse hfree =>
    cases hm
    have hnone : w.manager.pendingRequests.get c = none := by
      rwa [OrderedMap.has, Option.not_isSome_iff_eq_none] at hfree
    refine { settled := ?_, elapsed := ?_, pending := ?_, waiting := ?_, armed := ?_, owned := ?_,
             numbered := ?_, known := ?_, fresh := ?_ }
    · intro r hr
      obtain hr | hr := mem_append.mp hr
      · exact h.settled r hr
      · rw [mem_singleton.mp hr]
        refine filter_eq_nil_iff.mpr fun e he heq => ?_
        exact (h.known e he).ne (of_decide_eq_true heq)
    · intro r hr at' d hfirst
      obtain hr | hr := mem_append.mp hr
      · exact h.elapsed r hr at' d hfirst
      · rw [mem_singleton.mp hr] at hfirst
        cases hfirst
    · intro d q hq
      change (w.manager.pendingRequests.set c _).get d = some q at hq
      rw [get_set] at hq
      split at hq
      case isTrue hdc =>
        cases hq
        exact ⟨_, mem_append_right _ mem_cons_self, rfl, hdc.symm, rfl, rfl, rfl⟩
      case isFalse =>
        obtain ⟨r, hr, hrest⟩ := h.pending d q hq
        exact ⟨r, mem_append_left _ hr, hrest⟩
    · intro r hr hfirst
      obtain hr | hr := mem_append.mp hr
      · obtain ⟨q, hq, hpromise⟩ := h.waiting r hr hfirst
        refine ⟨q, ?_, hpromise⟩
        refine (get_set_ne _ _ fun heq => ?_).trans hq
        rw [heq, hnone] at hq
        cases hq
      · rw [mem_singleton.mp hr]
        exact ⟨_, get_set_self .., rfl⟩
    · intro d q hq
      change (w.manager.pendingRequests.set c _).get d = some q at hq
      change (w.manager.timeouts.set w.manager.idCounter _).get q.timeoutId = _
      rw [get_set] at hq
      split at hq
      case isTrue hdc =>
        cases hq
        rw [get_set_self, hdc]
      case isFalse =>
        have hold := h.armed d q hq
        rw [get_set_ne _ _ (h.fresh _ _ hold).ne, hold]
    · intro id timer ht
      change (w.manager.timeouts.set w.manager.idCounter _).get id = some timer at ht
      rw [get_set] at ht
      split at ht
      case isTrue hid =>
        cases ht
        exact ⟨_, get_set_self .., hid.symm⟩
      case isFalse =>
        obtain ⟨q, hq, hid⟩ := h.owned id timer ht
        refine ⟨q, (get_set_ne _ _ fun heq => ?_).trans hq, hid⟩
        rw [heq, hnone] at hq
        cases hq
    · rw [map_append, h.numbered]
      exact (range_succ ..).symm
    · intro e he
      exact Nat.lt_succ_of_lt (h.known e he)
    · intro id timer ht
      change (w.manager.timeouts.set w.manager.idCounter _).get id = some timer at ht
      change id < w.manager.idCounter + 1
      rw [get_set] at ht
      split at ht
      case isTrue hid => omega
      case isFalse => exact Nat.lt_succ_of_lt (h.fresh id timer ht)

theorem Sound.waited (h : Sound w) (now : Time) : Sound { w with now } where
  toLawful := ⟨h.settled, h.elapsed, h.pending, h.waiting, h.armed, h.owned⟩
  numbered := h.numbered
  known := h.known
  fresh := h.fresh

theorem names_response {response : Response} {d : String} :
    (Event.response c response).names d = true ↔ d = c := by
  rw [Event.names, decide_eq_true_eq, eq_comm]

theorem names_error {message d : String} :
    (Event.error c message : Event Response).names d = true ↔ d = c := by
  rw [Event.names, decide_eq_true_eq, eq_comm]

theorem names_timeout {d : String} : (Event.timeout c : Event Response).names d = true ↔ d = c := by
  rw [Event.names, decide_eq_true_eq, eq_comm]

theorem names_expired {d : String} : (Event.expired c : Event Response).names d = true ↔ d = c := by
  rw [Event.names, decide_eq_true_eq, eq_comm]

theorem Sound.step (h : Sound w) {a : Action Response} (hstep : w.step a = some w')
    (hnot : NotPending w a) : Sound w' := by
  cases a with
  | registerRequest c timeout =>
    obtain ⟨m, hm, rfl⟩ := Option.map_eq_some_iff.mp hstep
    exact h.registered hm
  | handleResponse c response =>
    cases hstep
    unfold Manager.handleResponse
    cases hp : w.manager.pendingRequests.get c with
    | none => exact h.ignored fun d hd => names_response.mp hd ▸ hp
    | some p => exact h.concluded hp (fun _ => names_response) nofun fun _ _ _ _ => rfl
  | handleError c error =>
    cases hstep
    unfold Manager.handleError
    cases hp : w.manager.pendingRequests.get c with
    | none => exact h.ignored fun d hd => names_error.mp hd ▸ hp
    | some p => exact h.concluded hp (fun _ => names_error) nofun fun _ _ _ _ => rfl
  | handleTimeout c =>
    cases hstep
    have hp : w.manager.pendingRequests.get c = none := hnot
    unfold Manager.handleTimeout
    rw [hp]
    exact h.ignored fun d hd => names_timeout.mp hd ▸ hp
  | clearAllRequests =>
    cases hstep
    exact h.cleared
  | expire id =>
    obtain ⟨timer, htimer, hfire⟩ := Option.bind_eq_some_iff.mp hstep
    split at hfire
    case isFalse => cases hfire
    case isTrue hdue =>
      cases hfire
      obtain ⟨p, hp, rfl⟩ := h.owned id timer htimer
      have harmed := h.armed _ p hp
      rw [htimer] at harmed
      have hat : timer.dueAt = p.createdAt + p.timeoutMs :=
        congrArg Timer.dueAt (Option.some.inj harmed)
      unfold Manager.expire Manager.handleTimeout
      rw [hp]
      refine h.concluded hp (fun _ => names_expired) (fun _ _ => hat ▸ hdue) fun r hid hr hms => ?_
      rw [Request.settlement, hid, hr, hms]
  | wait elapsed =>
    have hstep : (if 0 ≤ elapsed then some { w with now := w.now + elapsed } else none) = some w' :=
      hstep
    split at hstep
    case isFalse => cases hstep
    case isTrue =>
      cases hstep
      exact h.waited _

theorem not_lawful_of_pending (h : Sound w) (hp : w.manager.pendingRequests.get c = some p)
    (hstep : w.step (.handleTimeout c) = some w') : ¬ Lawful w' := by
  intro hlawful
  cases hstep
  unfold Manager.handleTimeout at hlawful
  rw [hp] at hlawful
  obtain ⟨q, hq, -⟩ := hlawful.owned p.timeoutId _ (h.armed c p hp)
  change (w.manager.pendingRequests.delete c).get c = some q at hq
  rw [get_delete_self] at hq
  cases hq

end Steps

section Interleavings

variable {Response : Type}

theorem Sound.along_iff {w : World Response} (h : Sound w) (as : List (Action Response)) :
    Along World.step (fun _ _ w' => Lawful w') w as ↔ Guarded World.step NotPending w as := by
  induction as generalizing w with
  | nil => exact Iff.rfl
  | cons a as ih =>
    refine forall_congr' fun w' => forall_congr' fun hstep => ?_
    constructor
    · rintro ⟨hlawful, hrest⟩
      have hnot : NotPending w a := by
        cases a with
        | handleTimeout c =>
          refine Option.eq_none_iff_forall_not_mem.mpr fun p hp => ?_
          exact not_lawful_of_pending h hp hstep hlawful
        | registerRequest _ _ | handleResponse _ _ | handleError _ _ | clearAllRequests
        | expire _ | wait _ => trivial
      exact ⟨hnot, (ih (h.step hstep hnot)).mp hrest⟩
    · rintro ⟨hnot, hrest⟩
      have hnext := h.step hstep hnot
      exact ⟨hnext.toLawful, (ih hnext).mpr hrest⟩

/-- Throughout a run every promise is settled once, by the first event that names it, and exactly
the pending requests have timers, if and only if `handleTimeout` is not called for pending ones. -/
theorem settled_once_iff (as : List (Action Response)) :
    Along World.step (fun _ _ w => Lawful w) World.start as ↔
      Guarded World.step NotPending World.start as :=
  sound_start.along_iff as

/-- The timer of a request that was timed out by hand meets the next request with its id. -/
def staleTimer : List (Action Unit) :=
  [.registerRequest "a" 10, .handleTimeout "a", .registerRequest "a" 100, .wait 10, .expire 0]

example : (exec World.step World.start staleTimer).map (fun w => w.manager.settled) =
    some [(0, .rejected (.timedOut "a" 0 10)), (1, .rejected (.timedOut "a" 10 100))] := by
  decide +kernel

theorem stale_timer_armed :
    ¬ Along World.step (fun _ _ w => Lawful w) World.start staleTimer := by
  intro h
  obtain ⟨-, hrest⟩ := h _ rfl
  obtain ⟨hlawful, -⟩ := hrest _ rfl
  obtain ⟨p, hp, -⟩ := hlawful.owned 0 _ rfl
  cases hp

end Interleavings

end ActorWeb.Correlation
