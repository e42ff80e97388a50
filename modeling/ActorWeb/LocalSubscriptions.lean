import ActorWeb.OrderedMap
import ActorWeb.Transition
import Mathlib.Data.Fintype.EquivFin

/-! Subscriptions of local actors to the events of local publishers. -/

namespace ActorWeb.LocalSubscriptions

open OrderedMap

open Option hiding map_map mem_map

open List Transition

abbrev Address := String

abbrev EventType := String

section Registry

structure SubscriberInfo where
  address : Address
  eventTypes : List EventType

structure Behavior where
  (onMessage publishableEvents : Bool)

def detectEmitCapability (behavior : Behavior) : Bool :=
  behavior.onMessage || behavior.publishableEvents

abbrev AutoPublishingRegistry := OrderedMap Address (OrderedMap Address SubscriberInfo)

def analyzeActorBehavior (r : AutoPublishingRegistry) (actorId : Address) (behavior : Behavior) :
    AutoPublishingRegistry :=
  if detectEmitCapability behavior then
    match r.get actorId with
    | some _ => r
    | none => r.set actorId .empty
  else r

def addSubscriber (r : AutoPublishingRegistry) (publisherId subscriberId subscriberAddress : Address)
    (eventTypes : List EventType) : Option AutoPublishingRegistry :=
  (r.get publisherId).map fun subscribers =>
    r.set publisherId (subscribers.set subscriberId ⟨subscriberAddress, eventTypes⟩)

def addSubscribers (r : AutoPublishingRegistry) (publisherId : Address)
    (eventTypes : List EventType) : List Address → AutoPublishingRegistry × Bool
  | [] => (r, true)
  | subscriber :: subscribers =>
    match addSubscriber r publisherId subscriber subscriber eventTypes with
    | none => (r, false)
    | some next => addSubscribers next publisherId eventTypes subscribers

def removeSubscriber (r : AutoPublishingRegistry) (publisherId subscriberId : Address) :
    AutoPublishingRegistry :=
  match r.get publisherId with
  | some subscribers => r.set publisherId (subscribers.delete subscriberId)
  | none => r

/-- The filter lets the event through; an empty one lets all through. -/
def Matches (eventTypes : List EventType) (eventType : EventType) : Prop :=
  eventTypes = [] ∨ eventType ∈ eventTypes

instance (eventTypes : List EventType) (eventType : EventType) :
    Decidable (Matches eventTypes eventType) := inferInstanceAs (Decidable (_ ∨ _))

def getSubscribersForEvent (r : AutoPublishingRegistry) (publisherId : Address)
    (eventType : EventType) : List Address :=
  match r.get publisherId with
  | none => []
  | some subscribers =>
    (subscribers.values.filter fun info => Matches info.eventTypes eventType).map
      SubscriberInfo.address

end Registry

section System

structure ActorSubscribeOptions where
  subscriber : Option Address
  subscribers : Option (List Address)
  events : Option (List EventType)

structure Request where
  publisherId : Address
  subscribers : List Address
  eventTypes : List EventType
deriving DecidableEq

def Request.of (publisher : Address) (options : ActorSubscribeOptions) : Request where
  publisherId := publisher
  subscribers :=
    match options.subscribers with
    | some subscribers => subscribers
    | none => options.subscriber.toList
  eventTypes := options.events.getD []

/-- What an unsubscribe function closes over, and that it was not called. -/
structure Subscription where
  request : Request
  live : Bool
deriving DecidableEq

inductive Completed
  | subscribed (request : Request)
  | unsubscribed (request : Request)

def Completed.request : Completed → Request
  | .subscribed request | .unsubscribed request => request

/-- The calls of `subscribe` that wait for the directory, the subscriptions that were handed
out, and the calls that were completed. -/
structure System where
  actors : OrderedMap Address Behavior
  registry : AutoPublishingRegistry
  pending : List Request
  handles : List Subscription
  completed : List Completed

/-- A call of `subscribe`, the answers of the directory to it, or a call of the unsubscribe
function of a subscription. -/
inductive Action
  | subscribe (publisher : Address) (options : ActorSubscribeOptions)
  | settle (call : Nat) (publisherLocation : Bool) (subscriberLocations : List Bool)
  | unsubscribe (handle : Nat)

def start (actors : OrderedMap Address Behavior) : System where
  actors
  registry := actors.entries.foldl (fun r e => analyzeActorBehavior r e.1 e.2) .empty
  pending := []
  handles := []
  completed := []

def subscribe (s : System) (publisher : Address) (options : ActorSubscribeOptions) : System :=
  { s with
    registry :=
      match s.actors.get publisher with
      | some behavior => analyzeActorBehavior s.registry publisher behavior
      | none => s.registry
    pending := s.pending ++ [Request.of publisher options] }

/-- The part of `subscribe` after the directory has answered; it throws if an answer is missing
or if the publisher is not registered. -/
def settle (s : System) (call : Nat) (request : Request) (publisherLocation : Bool)
    (subscriberLocations : List Bool) : System :=
  let s := { s with pending := s.pending.eraseIdx call }
  if !publisherLocation || subscriberLocations.contains false then s
  else
    match addSubscribers s.registry request.publisherId request.eventTypes request.subscribers with
    | (registry, false) => { s with registry }
    | (registry, true) =>
      { s with
        registry
        handles := s.handles ++ [⟨request, true⟩]
        completed := s.completed ++ [.subscribed request] }

def unsubscribe (s : System) (handle : Nat) (subscription : Subscription) : System :=
  { s with
    registry := subscription.request.subscribers.foldl
      (fun r subscriber => removeSubscriber r subscription.request.publisherId subscriber) s.registry
    handles := s.handles.set handle { subscription with live := false }
    completed := s.completed ++ [.unsubscribed subscription.request] }

def step (s : System) : Action → Option System
  | .subscribe publisher options => some (subscribe s publisher options)
  | .settle call publisherLocation subscriberLocations =>
    (s.pending[call]?).bind fun request =>
      if subscriberLocations.length = request.subscribers.length then
        some (settle s call request publisherLocation subscriberLocations)
      else none
  | .unsubscribe handle => (s.handles[handle]?).map fun subscription => unsubscribe s handle subscription

def emitEventToSubscribers (s : System) (publisher : Address) (eventType : EventType) :
    List Address :=
  getSubscribersForEvent s.registry publisher eventType

end System

section Entries

variable {r next : AutoPublishingRegistry} {p q publisher subscriber : Address}
  {eventTypes : List EventType}

def entry (r : AutoPublishingRegistry) (publisher subscriber : Address) : Option SubscriberInfo :=
  (r.get publisher).bind fun subscribers => subscribers.get subscriber

def Addressed (r : AutoPublishingRegistry) : Prop :=
  ∀ p q info, entry r p q = some info → info.address = q

theorem entry_analyze (actorId : Address) (behavior : Behavior) :
    entry (analyzeActorBehavior r actorId behavior) p q = entry r p q := by
  unfold analyzeActorBehavior
  split
  case isFalse => rfl
  case isTrue =>
    split
    case h_1 => rfl
    case h_2 hnone =>
      by_cases hp : p = actorId
      · subst hp
        simp [entry, hnone]
      · rw [entry, entry, get_set_ne _ _ hp]

theorem entry_add {subscriberAddress : Address}
    (h : addSubscriber r publisher subscriber subscriberAddress eventTypes = some next) :
    entry next p q = if p = publisher ∧ q = subscriber then some ⟨subscriberAddress, eventTypes⟩
      else entry r p q := by
  obtain ⟨subscribers, hget, rfl⟩ := map_eq_some_iff.mp h
  by_cases hp : p = publisher
  · subst hp
    simp only [entry, get_set_self, bind_some, get_set, hget, true_and]
  · rw [if_neg fun hpq => hp hpq.1, entry, entry, get_set_ne _ _ hp]

theorem registered_add {subscriberAddress : Address}
    (h : addSubscriber r publisher subscriber subscriberAddress eventTypes = some next) :
    (next.get publisher).isSome = true := by
  obtain ⟨subscribers, hget, rfl⟩ := map_eq_some_iff.mp h
  rw [get_set_self, isSome_some]

theorem addSubscribers_snd (r : AutoPublishingRegistry) (publisher : Address)
    (eventTypes : List EventType) (subscribers : List Address) :
    (addSubscribers r publisher eventTypes subscribers).2 =
      (subscribers.isEmpty || (r.get publisher).isSome) := by
  induction subscribers generalizing r with
  | nil => rfl
  | cons subscriber subscribers ih =>
    rw [addSubscribers]
    split
    case h_1 hadd =>
      rw [addSubscriber, map_eq_none_iff] at hadd
      rw [hadd]
      rfl
    case h_2 next hadd =>
      rw [ih, registered_add hadd, Bool.or_true]
      obtain ⟨registered, hget, -⟩ := map_eq_some_iff.mp hadd
      rw [hget]
      rfl

theorem addSubscribers_failed {subscribers : List Address}
    (h : addSubscribers r publisher eventTypes subscribers = (next, false)) :
    next = r ∧ r.get publisher = none := by
  have hsnd := addSubscribers_snd r publisher eventTypes subscribers
  rw [h, eq_comm, Bool.or_eq_false_iff, isSome_eq_false_iff, isNone_iff_eq_none] at hsnd
  obtain ⟨hne, hnone⟩ := hsnd
  cases subscribers with
  | nil => cases hne
  | cons subscriber subscribers =>
    rw [addSubscribers, addSubscriber, hnone] at h
    exact ⟨(Prod.mk.inj h).1.symm, hnone⟩

theorem entry_addSubscribers {subscribers : List Address}
    (h : addSubscribers r publisher eventTypes subscribers = (next, true)) :
    entry next p q = if p = publisher ∧ q ∈ subscribers then some ⟨q, eventTypes⟩
      else entry r p q := by
  induction subscribers generalizing r with
  | nil =>
    obtain rfl := (Prod.mk.inj h).1
    simp
  | cons subscriber subscribers ih =>
    rw [addSubscribers] at h
    split at h
    case h_1 => cases (Prod.mk.inj h).2
    case h_2 registry hadd =>
      rw [ih h, entry_add hadd]
      by_cases hp : p = publisher
      · by_cases hq : q = subscriber
        · subst hq
          simp [hp]
        · simp [hp, hq]
      · simp [hp]

theorem entry_remove : entry (removeSubscriber r publisher subscriber) p q =
    if p = publisher ∧ q = subscriber then none else entry r p q := by
  unfold removeSubscriber
  split
  case h_1 subscribers hget =>
    by_cases hp : p = publisher
    · subst hp
      simp only [entry, get_set_self, bind_some, OrderedMap.get_delete, hget,
        true_and]
    · rw [if_neg fun hpq => hp hpq.1, entry, entry, get_set_ne _ _ hp]
  case h_2 hnone =>
    by_cases hp : p = publisher
    · subst hp
      simp [entry, hnone]
    · rw [if_neg fun hpq => hp hpq.1]

theorem entry_removeAll (subscribers : List Address) :
    entry (subscribers.foldl (fun r subscriber => removeSubscriber r publisher subscriber) r) p q =
      if p = publisher ∧ q ∈ subscribers then none else entry r p q := by
  induction subscribers generalizing r with
  | nil => simp
  | cons subscriber subscribers ih =>
    rw [foldl_cons, ih, entry_remove]
    by_cases hp : p = publisher
    · by_cases hq : q = subscriber
      · simp [hp, hq]
      · simp [hp, hq]
    · simp [hp]

theorem mem_getSubscribersForEvent (h : Addressed r) (eventType : EventType) :
    q ∈ getSubscribersForEvent r p eventType ↔
      ∃ info, entry r p q = some info ∧ Matches info.eventTypes eventType := by
  unfold getSubscribersForEvent
  split
  case h_1 hnone => simp [entry, hnone]
  case h_2 subscribers hget =>
    simp only [mem_map, mem_filter, mem_values_iff, decide_eq_true_eq, entry,
      hget, bind_some]
    constructor
    · rintro ⟨info, ⟨⟨k, hk⟩, hmatches⟩, rfl⟩
      obtain rfl : info.address = k := h p k info (by rw [entry, hget, bind_some, hk])
      exact ⟨info, hk, hmatches⟩
    · rintro ⟨info, hk, hmatches⟩
      exact ⟨info, ⟨⟨q, hk⟩, hmatches⟩, h p q info (by rw [entry, hget, bind_some, hk])⟩

theorem getSubscribersForEvent_nodup (h : Addressed r) (eventType : EventType) :
    (getSubscribersForEvent r p eventType).Nodup := by
  unfold getSubscribersForEvent
  split
  case h_1 => exact nodup_nil
  case h_2 subscribers hget =>
    have haddress : subscribers.values.map SubscriberInfo.address = subscribers.keys := by
      rw [OrderedMap.values, OrderedMap.keys, map_map]
      refine map_congr_left fun e he => ?_
      refine h p e.1 e.2 ?_
      rw [entry, hget, bind_some, get_eq_some_iff]
      exact he
    refine (filter_sublist.map SubscriberInfo.address).nodup ?_
    rw [haddress]
    exact subscribers.nodup

end Entries

section Composition

variable {s t : System} {p q : Address}

def Request.Names (request : Request) (p q : Address) : Prop :=
  p = request.publisherId ∧ q ∈ request.subscribers

instance (request : Request) (p q : Address) : Decidable (request.Names p q) :=
  inferInstanceAs (Decidable (_ ∧ _))

variable (completed : List Completed)

/-- The last completed call about the publisher and the subscriber is a subscription that lets
the event through. -/
def LastSubscribed (p q : Address) (eventType : EventType) : Prop :=
  ∃ pre request post, completed = pre ++ .subscribed request :: post ∧ request.Names p q ∧
    Matches request.eventTypes eventType ∧ ∀ c ∈ post, ¬ c.request.Names p q

/-- Events go to the subscribers whose last call was a subscription for them, once to each. -/
structure LastCallDecides (s : System) : Prop where
  emitted : ∀ p q eventType, q ∈ emitEventToSubscribers s p eventType ↔
    LastSubscribed s.completed p q eventType
  once : ∀ p eventType, (emitEventToSubscribers s p eventType).Nodup

def Wanted (s : System) (p q : Address) (eventType : EventType) : Prop :=
  ∃ h ∈ s.handles, h.live = true ∧ h.request.Names p q ∧ Matches h.request.eventTypes eventType

def Composes (s : System) : Prop :=
  ∀ p q eventType, q ∈ emitEventToSubscribers s p eventType ↔ Wanted s p q eventType

def Covers (eventTypes other : List EventType) : Prop :=
  eventTypes = [] ∨ (other ≠ [] ∧ ∀ eventType ∈ other, eventType ∈ eventTypes)

instance (eventTypes other : List EventType) : Decidable (Covers eventTypes other) :=
  inferInstanceAs (Decidable (_ ∨ _))

/-- A subscription covers the live ones of its subscribers to its publisher, and none of them is
left when one is cancelled. -/
def Undisturbed (s : System) : Action → Prop
  | .subscribe _ _ => True
  | .settle call publisherLocation subscriberLocations =>
    ∀ request, s.pending[call]? = some request → publisherLocation = true →
      false ∉ subscriberLocations → (s.registry.get request.publisherId).isSome = true →
        ∀ subscriber ∈ request.subscribers, ∀ h ∈ s.handles, h.live = true →
          h.request.Names request.publisherId subscriber →
            Covers request.eventTypes h.request.eventTypes
  | .unsubscribe handle =>
    ∀ subscription, s.handles[handle]? = some subscription →
      ∀ subscriber ∈ subscription.request.subscribers, ∀ (i : Nat) (h : Subscription),
        s.handles[i]? = some h → i ≠ handle → h.live = true →
          ¬ h.request.Names subscription.request.publisherId subscriber

def lastFilter (p q : Address) (completed : List Completed) : Option (List EventType) :=
  completed.foldl (fun last c =>
    if c.request.Names p q then
      match c with
      | .subscribed request => some request.eventTypes
      | .unsubscribed _ => none
    else last) none

theorem lastFilter_concat (c : Completed) : lastFilter p q (completed ++ [c]) =
      if c.request.Names p q then
        match c with
        | .subscribed request => some request.eventTypes
        | .unsubscribed _ => none
      else lastFilter p q completed := by
  rw [lastFilter, foldl_append]
  rfl

theorem lastFilter_subscribed (request : Request) :
    lastFilter p q (completed ++ [.subscribed request]) =
      if request.Names p q then some request.eventTypes else lastFilter p q completed :=
  lastFilter_concat completed (.subscribed request)

theorem lastFilter_unsubscribed (request : Request) :
    lastFilter p q (completed ++ [.unsubscribed request]) =
      if request.Names p q then none else lastFilter p q completed :=
  lastFilter_concat completed (.unsubscribed request)

theorem lastSubscribed_iff (eventType : EventType) : LastSubscribed completed p q eventType ↔
      ∃ eventTypes, lastFilter p q completed = some eventTypes ∧ Matches eventTypes eventType := by
  induction completed using List.reverseRecOn with
  | nil => simp [LastSubscribed, lastFilter]
  | append_singleton completed c ih =>
    rw [lastFilter_concat]
    split
    case isTrue hnames =>
      constructor
      · rintro ⟨pre, request, post, hsplit, -, hmatches, hpost⟩
        obtain rfl | ⟨post, last, rfl⟩ := eq_nil_or_concat post
        · obtain ⟨-, hc⟩ := append_inj' hsplit rfl
          obtain rfl := (List.cons.inj hc).1
          exact ⟨request.eventTypes, rfl, hmatches⟩
        · rw [concat_eq_append, ← cons_append, ← append_assoc] at hsplit
          obtain ⟨-, hc⟩ := append_inj' hsplit rfl
          obtain rfl := (List.cons.inj hc).1
          exact absurd hnames (hpost c (by simp))
      · rintro ⟨eventTypes, hlast, hmatches⟩
        cases c with
        | unsubscribed request => cases hlast
        | subscribed request =>
          cases hlast
          exact ⟨completed, request, [], rfl, hnames, hmatches, by simp⟩
    case isFalse hnames =>
      rw [← ih]
      constructor
      · rintro ⟨pre, request, post, hsplit, hrequest, hmatches, hpost⟩
        obtain rfl | ⟨post, last, rfl⟩ := eq_nil_or_concat post
        · obtain ⟨-, hc⟩ := append_inj' hsplit rfl
          obtain rfl := (List.cons.inj hc).1
          exact absurd hrequest hnames
        · rw [concat_eq_append, ← cons_append, ← append_assoc] at hsplit
          obtain ⟨hrest, -⟩ := append_inj' hsplit rfl
          exact ⟨pre, request, post, hrest, hrequest, hmatches, fun d hd => hpost d (by simp [hd])⟩
      · rintro ⟨pre, request, post, rfl, hrequest, hmatches, hpost⟩
        refine ⟨pre, request, post ++ [c], by simp, hrequest, hmatches, fun d hd => ?_⟩
        obtain hd | hd := mem_append.mp hd
        · exact hpost d hd
        · rwa [mem_singleton.mp hd]

def Sound (s : System) : Prop :=
  ∀ p q, entry s.registry p q = (lastFilter p q s.completed).map fun eventTypes => ⟨q, eventTypes⟩

theorem Sound.addressed (hs : Sound s) : Addressed s.registry := by
  intro p q info hinfo
  rw [hs p q] at hinfo
  obtain ⟨eventTypes, -, rfl⟩ := map_eq_some_iff.mp hinfo
  rfl

theorem Sound.mem_iff (hs : Sound s) (eventType : EventType) :
    q ∈ emitEventToSubscribers s p eventType ↔
      ∃ eventTypes, lastFilter p q s.completed = some eventTypes ∧ Matches eventTypes eventType := by
  rw [emitEventToSubscribers, mem_getSubscribersForEvent hs.addressed, hs p q]
  simp

theorem Sound.lastCallDecides (hs : Sound s) : LastCallDecides s where
  emitted p q eventType := by rw [hs.mem_iff, lastSubscribed_iff]
  once _ _ := getSubscribersForEvent_nodup hs.addressed _

theorem start_sound (actors : OrderedMap Address Behavior) : Sound (start actors) := by
  have hfold : ∀ (entries : List (Address × Behavior)) (r : AutoPublishingRegistry),
      entry (entries.foldl (fun r e => analyzeActorBehavior r e.1 e.2) r) = entry r := by
    intro entries
    induction entries with
    | nil => exact fun _ => rfl
    | cons e entries ih =>
      intro r
      rw [foldl_cons, ih]
      exact funext fun _ => funext fun _ => entry_analyze e.1 e.2
  intro p q
  rw [start, hfold]
  rfl

theorem entry_subscribe (publisher : Address) (options : ActorSubscribeOptions) :
    entry (subscribe s publisher options).registry p q = entry s.registry p q := by
  unfold subscribe
  dsimp only
  split
  case h_1 behavior _ => exact entry_analyze publisher behavior
  case h_2 => rfl

theorem entry_unsubscribe (handle : Nat) (subscription : Subscription) :
    entry (unsubscribe s handle subscription).registry p q =
      if subscription.request.Names p q then none else entry s.registry p q :=
  entry_removeAll subscription.request.subscribers

def Accepted (s : System) (request : Request) (publisherLocation : Bool)
    (subscriberLocations : List Bool) : Prop :=
  publisherLocation = true ∧ false ∉ subscriberLocations ∧
    (request.subscribers = [] ∨ (s.registry.get request.publisherId).isSome = true)

theorem settle_cases (s : System) (call : Nat) (request : Request) (publisherLocation : Bool)
    (subscriberLocations : List Bool) :
    (¬ Accepted s request publisherLocation subscriberLocations ∧
      settle s call request publisherLocation subscriberLocations =
        { s with pending := s.pending.eraseIdx call }) ∨
    (Accepted s request publisherLocation subscriberLocations ∧
      ∃ registry, (∀ p q, entry registry p q =
          if request.Names p q then some ⟨q, request.eventTypes⟩ else entry s.registry p q) ∧
        settle s call request publisherLocation subscriberLocations =
          { s with
            pending := s.pending.eraseIdx call
            registry
            handles := s.handles ++ [⟨request, true⟩]
            completed := s.completed ++ [.subscribed request] }) := by
  unfold settle
  dsimp only
  split
  case isTrue hrefused =>
    refine .inl ⟨fun h => ?_, rfl⟩
    simp only [Bool.or_eq_true, Bool.not_eq_true', contains_iff_mem] at hrefused
    exact hrefused.elim (fun hp => by simp [h.1] at hp) h.2.1
  case isFalse hfound =>
    simp only [Bool.or_eq_true, Bool.not_eq_true', contains_iff_mem, not_or,
      Bool.not_eq_false] at hfound
    split
    case h_1 registry hadd =>
      obtain ⟨rfl, hnone⟩ := addSubscribers_failed hadd
      refine .inl ⟨fun h => ?_, rfl⟩
      have hsnd := addSubscribers_snd s.registry request.publisherId request.eventTypes
        request.subscribers
      rw [hadd, eq_comm, Bool.or_eq_false_iff] at hsnd
      obtain hempty | hsome := h.2.2
      · simp [hempty] at hsnd
      · rw [hnone] at hsome
        cases hsome
    case h_2 registry hadd =>
      have hsnd := addSubscribers_snd s.registry request.publisherId request.eventTypes
        request.subscribers
      rw [hadd, eq_comm, Bool.or_eq_true, List.isEmpty_iff] at hsnd
      exact .inr ⟨⟨hfound.1, hfound.2, hsnd⟩, registry, fun _ _ => entry_addSubscribers hadd, rfl⟩

theorem step_sound (s : System) (a : Action) (t : System) (hs : Sound s) (h : step s a = some t) :
    Sound t := by
  intro p q
  cases a with
  | subscribe publisher options =>
    cases h
    rw [entry_subscribe]
    exact hs p q
  | settle call publisherLocation subscriberLocations =>
    obtain ⟨request, -, hsettle⟩ := bind_eq_some_iff.mp h
    split at hsettle
    case isFalse => cases hsettle
    case isTrue =>
      cases hsettle
      obtain ⟨-, heq⟩ | ⟨-, registry, hentry, heq⟩ :=
        settle_cases s call request publisherLocation subscriberLocations
      · rw [heq]
        exact hs p q
      · rw [heq]
        dsimp only
        rw [hentry, lastFilter_subscribed, hs p q]
        split <;> rfl
  | unsubscribe handle =>
    obtain ⟨subscription, -, rfl⟩ := map_eq_some_iff.mp h
    rw [entry_unsubscribe, hs p q]
    dsimp only [unsubscribe]
    rw [lastFilter_unsubscribed]
    split <;> rfl

theorem exists_not_mem (eventTypes : List EventType) : ∃ eventType : EventType, eventType ∉ eventTypes := by
  have hinjective : Function.Injective fun n => String.ofList (List.replicate n 'a') := by
    intro m n h
    simpa using congrArg List.length (String.ofList_injective h)
  have := Infinite.of_injective _ hinjective
  obtain ⟨eventType, h⟩ := Infinite.exists_notMem_finset eventTypes.toFinset
  exact ⟨eventType, by simpa using h⟩

theorem covers_iff (eventTypes other : List EventType) :
    Covers eventTypes other ↔ ∀ eventType, Matches other eventType → Matches eventTypes eventType := by
  constructor
  · rintro (rfl | ⟨hne, hsub⟩) eventType hmatches
    · exact .inl rfl
    · exact .inr (hsub eventType (hmatches.resolve_left hne))
  · intro h
    by_cases hempty : eventTypes = []
    · exact .inl hempty
    · refine .inr ⟨?_, fun eventType hmem => (h eventType (.inr hmem)).resolve_left hempty⟩
      rintro rfl
      obtain ⟨eventType, hfresh⟩ := exists_not_mem eventTypes
      exact hfresh ((h eventType (.inl rfl)).resolve_left hempty)

theorem exists_matches (eventTypes : List EventType) : ∃ eventType, Matches eventTypes eventType := by
  cases eventTypes with
  | nil => exact ⟨"", .inl rfl⟩
  | cons eventType _ => exact ⟨eventType, .inr mem_cons_self⟩

theorem emitted_iff_entry (hs : Sound s) (eventType : EventType) :
    q ∈ emitEventToSubscribers s p eventType ↔
      ∃ info, entry s.registry p q = some info ∧ Matches info.eventTypes eventType :=
  mem_getSubscribersForEvent hs.addressed eventType

theorem composes_settled {request : Request} (hs : Sound s) (hQ : Composes s) (ht : Sound t)
    (hentry : ∀ p q, entry t.registry p q =
      if request.Names p q then some ⟨q, request.eventTypes⟩ else entry s.registry p q)
    (hhandles : t.handles = s.handles ++ [⟨request, true⟩]) :
    Composes t ↔ ∀ subscriber ∈ request.subscribers, ∀ h ∈ s.handles, h.live = true →
      h.request.Names request.publisherId subscriber →
        Covers request.eventTypes h.request.eventTypes := by
  have hemitted (p q : Address) (eventType : EventType) (hnames : request.Names p q) :
      q ∈ emitEventToSubscribers t p eventType ↔ Matches request.eventTypes eventType := by
    rw [emitted_iff_entry ht, hentry, if_pos hnames]
    simp
  have hwanted (p q : Address) (eventType : EventType) : Wanted t p q eventType ↔
      Wanted s p q eventType ∨ (request.Names p q ∧ Matches request.eventTypes eventType) := by
    simp only [Wanted, hhandles, mem_append, mem_singleton, or_and_right, exists_or,
      exists_eq_left, true_and]
  constructor
  · intro hcomposes subscriber hsubscriber h hh hlive hnames
    refine (covers_iff _ _).mpr fun eventType hmatches => ?_
    refine (hemitted _ subscriber eventType ⟨rfl, hsubscriber⟩).mp ?_
    exact (hcomposes _ _ _).mpr ((hwanted _ _ _).mpr (.inl ⟨h, hh, hlive, hnames, hmatches⟩))
  · intro hcovers p q eventType
    rw [hwanted]
    by_cases hnames : request.Names p q
    · rw [hemitted p q eventType hnames]
      constructor
      · exact fun hmatches => .inr ⟨hnames, hmatches⟩
      · rintro (⟨h, hh, hlive, hold, hmatches⟩ | ⟨-, hmatches⟩)
        · obtain ⟨rfl, hmem⟩ := hnames
          exact (covers_iff _ _).mp (hcovers q hmem h hh hlive hold) eventType hmatches
        · exact hmatches
    · rw [emitted_iff_entry ht, hentry, if_neg hnames, ← emitted_iff_entry hs, hQ p q eventType]
      exact (or_iff_left fun h => hnames h.1).symm

theorem wanted_unsubscribe {handle : Nat} {subscription : Subscription}
    (hget : s.handles[handle]? = some subscription) (eventType : EventType) :
    Wanted (unsubscribe s handle subscription) p q eventType ↔
      ∃ (i : Nat) (h : Subscription), s.handles[i]? = some h ∧ i ≠ handle ∧ h.live = true ∧
        h.request.Names p q ∧ Matches h.request.eventTypes eventType := by
  have hlt : handle < s.handles.length := (List.getElem?_eq_some_iff.mp hget).1
  simp only [Wanted, unsubscribe, mem_iff_getElem?, getElem?_set, hlt, if_true]
  constructor
  · rintro ⟨h, ⟨i, hi⟩, hlive, hnames, hmatches⟩
    split at hi
    case isTrue heq =>
      cases hi
      cases hlive
    case isFalse hne => exact ⟨i, h, hi, Ne.symm hne, hlive, hnames, hmatches⟩
  · rintro ⟨i, h, hi, hne, hlive, hnames, hmatches⟩
    exact ⟨h, ⟨i, by rw [if_neg (Ne.symm hne), hi]⟩, hlive, hnames, hmatches⟩

theorem composes_unsubscribed {handle : Nat} {subscription : Subscription} (hs : Sound s)
    (hQ : Composes s) (ht : Sound (unsubscribe s handle subscription))
    (hget : s.handles[handle]? = some subscription) : Composes (unsubscribe s handle subscription) ↔
      ∀ subscriber ∈ subscription.request.subscribers, ∀ (i : Nat) (h : Subscription),
        s.handles[i]? = some h → i ≠ handle → h.live = true →
          ¬ h.request.Names subscription.request.publisherId subscriber := by
  have hemitted (p q : Address) (eventType : EventType) (hnames : subscription.request.Names p q) :
      q ∉ emitEventToSubscribers (unsubscribe s handle subscription) p eventType := by
    rw [emitted_iff_entry ht, entry_unsubscribe, if_pos hnames]
    simp
  constructor
  · intro hcomposes subscriber hsubscriber i h hi hne hlive hnames
    obtain ⟨eventType, hmatches⟩ := exists_matches h.request.eventTypes
    refine hemitted _ subscriber eventType ⟨rfl, hsubscriber⟩ ((hcomposes _ _ _).mpr ?_)
    exact (wanted_unsubscribe hget eventType).mpr ⟨i, h, hi, hne, hlive, hnames, hmatches⟩
  · intro hgone p q eventType
    rw [wanted_unsubscribe hget]
    by_cases hnames : subscription.request.Names p q
    · refine iff_of_false (hemitted p q eventType hnames) ?_
      rintro ⟨i, h, hi, hne, hlive, hother, -⟩
      obtain ⟨rfl, hmem⟩ := hnames
      exact hgone q hmem i h hi hne hlive hother
    · rw [emitted_iff_entry ht, entry_unsubscribe, if_neg hnames, ← emitted_iff_entry hs,
        hQ p q eventType, Wanted]
      constructor
      · rintro ⟨h, hh, hlive, hother, hmatches⟩
        obtain ⟨i, hi⟩ := mem_iff_getElem?.mp hh
        refine ⟨i, h, hi, ?_, hlive, hother, hmatches⟩
        rintro rfl
        exact hnames (some.inj (hi.symm.trans hget) ▸ hother)
      · rintro ⟨i, h, hi, -, hlive, hother, hmatches⟩
        exact ⟨h, mem_iff_getElem?.mpr ⟨i, hi⟩, hlive, hother, hmatches⟩

theorem step_composes_iff (s : System) (a : Action) (t : System) (hs : Sound s) (hQ : Composes s)
    (h : step s a = some t) : Composes t ↔ Undisturbed s a := by
  have ht := step_sound s a t hs h
  cases a with
  | subscribe publisher options =>
    cases h
    refine iff_of_true (fun p q eventType => ?_) trivial
    rw [emitted_iff_entry ht, entry_subscribe, ← emitted_iff_entry hs]
    exact hQ p q eventType
  | settle call publisherLocation subscriberLocations =>
    obtain ⟨request, hget, hsettle⟩ := bind_eq_some_iff.mp h
    split at hsettle
    case isFalse => cases hsettle
    case isTrue =>
      cases hsettle
      simp only [Undisturbed, hget, some.injEq, forall_eq']
      obtain ⟨hrefused, heq⟩ | ⟨haccepted, registry, hentry, heq⟩ :=
        settle_cases s call request publisherLocation subscriberLocations
      · rw [heq]
        refine iff_of_true hQ fun hp hl hregistered => ?_
        exact absurd ⟨hp, hl, .inr hregistered⟩ hrefused
      · rw [heq] at ht ⊢
        rw [composes_settled hs hQ ht hentry rfl]
        refine ⟨fun hcovers _ _ _ => hcovers, fun hguard subscriber hsubscriber => ?_⟩
        refine hguard haccepted.1 haccepted.2.1 ?_ subscriber hsubscriber
        exact haccepted.2.2.resolve_left (ne_nil_of_mem hsubscriber)
  | unsubscribe handle =>
    obtain ⟨subscription, hget, rfl⟩ := map_eq_some_iff.mp h
    rw [composes_unsubscribed hs hQ ht hget]
    simp only [Undisturbed, hget, some.injEq, forall_eq']

theorem start_composes (actors : OrderedMap Address Behavior) : Composes (start actors) := by
  intro p q eventType
  rw [emitted_iff_entry (start_sound actors), start_sound actors]
  refine iff_of_false ?_ ?_
  · rintro ⟨info, hinfo, -⟩
    cases hinfo
  · rintro ⟨h, hh, -⟩
    cases hh

/-- In every run the last call about a publisher and a subscriber decides, and subscriptions
compose exactly as long as new ones cover the live ones and none is cancelled beside others. -/
theorem last_call_decides (actors : OrderedMap Address Behavior) (as : List Action) :
    Along step (fun _ _ t => LastCallDecides t) (start actors) as ∧
      (Along step (fun _ _ t => Composes t) (start actors) as ↔
        Guarded step Undisturbed (start actors) as) :=
  ⟨along_of_invariant step_sound
      (fun s a t hs h => (step_sound s a t hs h).lastCallDecides) (start_sound actors) as,
    along_iff_guarded step_sound step_composes_iff (start_sound actors) (start_composes actors) as⟩

def twoActors : OrderedMap Address Behavior :=
  (OrderedMap.empty.set "publisher" ⟨true, false⟩).set "subscriber" ⟨true, false⟩

def overlappingRun : List Action :=
  [.subscribe "publisher" ⟨some "subscriber", none, some ["A"]⟩, .settle 0 true [true],
    .subscribe "publisher" ⟨some "subscriber", none, some ["B"]⟩, .settle 0 true [true]]

theorem overlappingRun_replaces :
    ∃ t, exec step (start twoActors) overlappingRun = some t ∧ ¬ Composes t := by
  have hrun : (exec step (start twoActors) overlappingRun).any (fun t =>
      !(emitEventToSubscribers t "publisher" "A").contains "subscriber" &&
        decide (t.handles[0]? =
          some ⟨⟨"publisher", ["subscriber"], ["A"]⟩, true⟩)) = true := by decide +kernel
  obtain ⟨t, ht, hboth⟩ := (Option.any_eq_true _ _).mp hrun
  simp only [Bool.and_eq_true, Bool.not_eq_true', decide_eq_true_eq] at hboth
  obtain ⟨hdropped, hlive⟩ := hboth
  refine ⟨t, ht, fun hcomposes => ?_⟩
  have hemitted := (hcomposes "publisher" "subscriber" "A").mpr
    ⟨_, mem_of_getElem? hlive, rfl, ⟨rfl, mem_cons_self⟩, .inr mem_cons_self⟩
  rw [← contains_iff_mem, hdropped] at hemitted
  cases hemitted

end Composition

end ActorWeb.LocalSubscriptions
