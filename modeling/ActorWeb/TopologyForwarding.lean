import ActorWeb.TopologySubscriptions

namespace ActorWeb.TopologyPair

open List TopologyEdges Transition Function

variable {Node Path EventType : Type} {s t : TopologyPair Node Path EventType}

theorem foldl_send {α : Type} (frame : α → TopologyFrame Path EventType) (l : List α)
    (s : TopologyPair Node Path EventType) (h : s.connected = true) :
    l.foldl (fun s a => s.sendTransportMessage (frame a)) s =
      { s with link := l.foldl (fun link a => link.send (frame a)) s.link } := by
  induction l generalizing s with
  | nil => rfl
  | cons a l ih =>
    rw [foldl_cons, send_of_connected h, ih { s with link := s.link.send (frame a) } h]
    rfl

theorem foldl_send_disconnected {α : Type} (frame : α → TopologyFrame Path EventType)
    (l : List α) (h : s.connected = false) :
    l.foldl (fun s a => s.sendTransportMessage (frame a)) s = s := by
  induction l with
  | nil => rfl
  | cons a l ih => rw [foldl_cons, send_of_disconnected h, ih]

theorem replay_connected (h : s.connected = true) : s.replayOutboundTopologySubscriptions =
      { s with
        replayed := true
        link := s.outboundIntents.foldl (fun link i =>
          link.send (.subscribe i.publisherPath i.subscriberPath i.events)) s.link } := by
  simp only [replayOutboundTopologySubscriptions, foldl_send _ _ s h, h]

theorem replay_disconnected (h : s.connected = false) :
    s.replayOutboundTopologySubscriptions = { s with replayed := false } := by
  simp only [replayOutboundTopologySubscriptions, foldl_send_disconnected _ _ h, h]

/-- The set objects, the disposers and the live subscriptions belong together. -/
structure Held (s : TopologyPair Node Path EventType) : Prop where
  outbound : s.outboundIntents = s.live
  emptied : ∀ k, s.outbound ≠ some k → s.sets k = []
  captured : ∀ d ∈ s.disposers, d.intent.id ∉ s.disposed → s.outbound = some d.intents
  identity : ∀ i (d : TopologyDisposer Path EventType), s.disposers[i]? = some d → d.intent.id = i
  disposed : ∀ i ∈ s.disposed, i < s.disposers.length

theorem Held.of_eq (h : Held s) (hdisposers : t.disposers = s.disposers)
    (hdisposed : t.disposed = s.disposed) (hsets : t.sets = s.sets)
    (houtbound : t.outbound = s.outbound) : Held t where
  outbound := by
    have hold := h.outbound
    simpa only [outboundIntents, live, hdisposers, hdisposed, hsets, houtbound] using hold
  emptied := by
    rw [hsets, houtbound]
    exact h.emptied
  captured := by
    rw [hdisposers, hdisposed, houtbound]
    exact h.captured
  identity := by
    rw [hdisposers]
    exact h.identity
  disposed := by
    rw [hdisposers, hdisposed]
    exact h.disposed

theorem Held.fresh (h : Held s) : s.disposers.length ∉ s.disposed :=
  fun hm => Nat.lt_irrefl _ (h.disposed _ hm)

theorem subscribe_live (h : Held s) (p q : Path) (events : Option (List EventType)) :
    (s.sendTopologySubscribe p q events).live = s.live ++ [⟨s.disposers.length, p, q, events⟩] := by
  unfold sendTopologySubscribe
  exact live_append (send_disposers _) (send_disposed _) h.fresh

theorem subscribe_set (h : Held s) (p q : Path) (events : Option (List EventType)) :
    ∃ k, s.sets k = s.live ∧ (∀ j, j ≠ k → s.sets j = []) ∧
      (∀ j, s.outbound = some j → j = k) ∧
      (s.sendTopologySubscribe p q events).outbound = some k ∧
      (s.sendTopologySubscribe p q events).sets =
        update s.sets k (s.sets k ++ [⟨s.disposers.length, p, q, events⟩]) ∧
      (s.sendTopologySubscribe p q events).disposers =
        s.disposers ++ [⟨⟨s.disposers.length, p, q, events⟩, k⟩] := by
  have hout := h.outbound
  have hempty := h.emptied
  unfold sendTopologySubscribe
  cases ho : s.outbound with
  | none =>
    simp only [outboundIntents, ho] at hout
    simp only [ho, reduceCtorEq, ne_eq, not_false_eq_true, forall_const] at hempty
    refine ⟨s.nextSet, (hempty _).trans hout, fun j _ => hempty j, fun j hj => ?_, ?_⟩
    · cases hj
    · exact ⟨send_outbound _, send_sets _, send_disposers _⟩
  | some k =>
    simp only [outboundIntents, ho] at hout
    simp only [ho, ne_eq, Option.some.injEq] at hempty
    refine ⟨k, hout, fun j hj => hempty j (Ne.symm hj), fun j hj => (Option.some.inj hj).symm, ?_⟩
    exact ⟨send_outbound _, send_sets _, send_disposers _⟩

theorem subscribe_disposed (p q : Path) (events : Option (List EventType)) :
    (s.sendTopologySubscribe p q events).disposed = s.disposed := by
  unfold sendTopologySubscribe
  exact send_disposed _

theorem subscribe_held (h : Held s) (p q : Path) (events : Option (List EventType)) :
    Held (s.sendTopologySubscribe p q events) := by
  obtain ⟨k, hk, hothers, honly, houtbound, hsets, hdisposers⟩ := subscribe_set h p q events
  have hdisposed := subscribe_disposed (s := s) p q events
  constructor
  case outbound =>
    rw [outboundIntents, houtbound, subscribe_live h, hsets]
    simp only [update_self, hk]
  case emptied =>
    intro j hj
    have hne : j ≠ k := fun h => hj (h ▸ houtbound)
    rw [hsets, update_of_ne hne]
    exact hothers j hne
  case captured =>
    intro d hd hlive
    rw [houtbound]
    rw [hdisposers] at hd
    rw [hdisposed] at hlive
    obtain hd | hd := mem_append.mp hd
    · rw [honly _ (h.captured d hd hlive)]
    · rw [mem_singleton.mp hd]
  case identity =>
    intro i d hd
    rw [hdisposers] at hd
    obtain hlt | hge := Nat.lt_or_ge i s.disposers.length
    · rw [getElem?_append_left hlt] at hd
      exact h.identity i d hd
    · rw [getElem?_append_right hge, getElem?_singleton] at hd
      split at hd
      case isTrue hi =>
        cases hd
        exact Nat.le_antisymm hge (Nat.sub_eq_zero_iff_le.mp hi)
      case isFalse => cases hd
  case disposed =>
    intro i hi
    rw [hdisposed] at hi
    rw [hdisposers, length_append]
    exact Nat.lt_add_right 1 (h.disposed i hi)

/-- A disposal is spared when its subscription is the only one of its pair that is still
live, and, at a call of a disposer that was called before, the set it closes over was
not replaced. -/
structure Sparing (s : TopologyPair Node Path EventType) (d : TopologyDisposer Path EventType) :
    Prop where
  alone : ∀ i ∈ s.live, i.id ≠ d.intent.id →
    ¬(i.publisherPath = d.intent.publisherPath ∧ i.subscriberPath = d.intent.subscriberPath)
  unreplaced : d.intent.id ∈ s.disposed → s.outbound = none ∨ s.outbound = some d.intents

theorem dispose_live (d : TopologyDisposer Path EventType) :
    (s.dispose d).live = s.live.filter fun i => i.id ≠ d.intent.id :=
  live_cons (send_disposers _) (send_disposed _)

variable {d : TopologyDisposer Path EventType}

theorem Held.id_lt (h : Held s) (hd : d ∈ s.disposers) : d.intent.id < s.disposers.length := by
  obtain ⟨i, hi⟩ := mem_iff_getElem?.mp hd
  rw [h.identity i d hi]
  exact (List.getElem?_eq_some_iff.mp hi).1

theorem Held.eq_of_id (h : Held s) (hd : d ∈ s.disposers)
    {i : TopologyIntent Path EventType} (hi : i ∈ s.live) (hid : i.id = d.intent.id) :
    i = d.intent := by
  obtain ⟨hmem, -⟩ := mem_filter.mp hi
  obtain ⟨e, he, rfl⟩ := mem_map.mp hmem
  obtain ⟨j, hj⟩ := mem_iff_getElem?.mp he
  obtain ⟨k, hk⟩ := mem_iff_getElem?.mp hd
  have hjk : j = k := by rw [← h.identity j e hj, ← h.identity k d hk, hid]
  rw [hjk, hk] at hj
  rw [Option.some.inj hj]

theorem dispose_held (h : Held s) (hd : d ∈ s.disposers)
    (hsparing : Sparing s d) : Held (s.dispose d) := by
  have hcurrent : s.outbound = none ∨ s.outbound = some d.intents := by
    by_cases hdead : d.intent.id ∈ s.disposed
    · exact hsparing.unreplaced hdead
    · exact .inr (h.captured d hd hdead)
  have hheld : s.sets d.intents = s.live := by
    rw [← h.outbound, outboundIntents]
    obtain hnone | hsome := hcurrent
    · rw [hnone, h.emptied d.intents (by simp [hnone])]
    · rw [hsome]
  have hlive := dispose_live (s := s) d
  have hsets : (s.dispose d).sets = update s.sets d.intents (s.dispose d).live := by
    rw [hlive, ← hheld]
    exact send_sets _
  have houtbound : (s.dispose d).outbound =
      if (s.dispose d).live.isEmpty then none else s.outbound := by
    rw [hlive, ← hheld]
    exact send_outbound _
  have hdisposers : (s.dispose d).disposers = s.disposers := send_disposers _
  have hdisposed : (s.dispose d).disposed = d.intent.id :: s.disposed := send_disposed _
  -- a live subscription that is left keeps the entry of the map
  have hkept : (s.dispose d).live ≠ [] → (s.dispose d).outbound = some d.intents := by
    intro hne
    rw [houtbound, if_neg (by simpa only [List.isEmpty_iff] using hne)]
    refine hcurrent.resolve_left fun hnone => hne ?_
    have hold := h.outbound
    rw [outboundIntents, hnone] at hold
    rw [hlive, ← hold, filter_nil]
  constructor
  case outbound =>
    by_cases hnil : (s.dispose d).live = []
    · rw [outboundIntents, houtbound, hnil]
      rfl
    · rw [outboundIntents, hkept hnil, hsets]
      exact update_self ..
  case emptied =>
    intro j hj
    rw [hsets]
    by_cases hjd : j = d.intents
    · subst hjd
      rw [update_self]
      exact Classical.byContradiction fun hne => hj (hkept hne)
    · rw [update_of_ne hjd]
      refine h.emptied j fun hsome => ?_
      obtain hnone | hsome' := hcurrent
      · rw [hnone] at hsome
        cases hsome
      · exact hjd (Option.some.inj (hsome.symm.trans hsome'))
  case captured =>
    intro e he hid
    rw [hdisposers] at he
    have hmem : e.intent ∈ (s.dispose d).live :=
      mem_filter.mpr ⟨mem_map_of_mem (hdisposers ▸ he), decide_eq_true hid⟩
    rw [hdisposed] at hid
    rw [hkept (ne_nil_of_mem hmem)]
    have hold := h.captured e he fun hdead => hid (mem_cons_of_mem _ hdead)
    obtain hnone | hsome := hcurrent
    · rw [hnone] at hold
      cases hold
    · rw [← hold, hsome]
  case identity =>
    rw [hdisposers]
    exact h.identity
  case disposed =>
    intro i hi
    rw [hdisposed] at hi
    rw [hdisposers]
    obtain rfl | hi := mem_cons.mp hi
    · exact h.id_lt hd
    · exact h.disposed i hi

variable [DecidableEq Path]

theorem latestFilters_of_eq (hdisposers : t.disposers = s.disposers)
    (hdisposed : t.disposed = s.disposed) (p q : Path) :
    t.latestFilters p q = s.latestFilters p q := by
  simp only [latestFilters, latest, live, hdisposers, hdisposed]

theorem mem_latestFilters {p q : Path} {events : Option (List EventType)} :
    events ∈ s.latestFilters p q ↔ ∃ i, s.latest p q = some i ∧ i.events = events := by
  simp only [latestFilters, mem_map, Option.mem_toList]

variable [DecidableEq Node] {frame : TopologyFrame Path EventType}

/-- The filters that the frames on the way lead to are those of the latest subscriptions,
up to the subscriptions that this connection has not replayed. -/
structure Settled (s : TopologyPair Node Path EventType) : Prop where
  cleared : s.connected = false → ∀ p q, s.arriving p q = []
  arriving : ∀ p q, s.arriving p q = [] ∨ s.arriving p q = s.latestFilters p q
  replayed : s.replayed = true → s.connected = true ∧ ∀ p q, s.arriving p q = s.latestFilters p q

theorem registered_frame (node : Node) (p q : Path) (frame : TopologyFrame Path EventType) :
    (∃ fixed, ∀ filters, registered node p q filters (.frame node frame) = fixed) ∨
      ∀ filters, registered node p q filters (.frame node frame) = filters := by
  cases frame with
  | subscribe publisherPath subscriberPath events =>
    by_cases h : p = publisherPath ∧ q = subscriberPath
    · exact .inl ⟨[events], fun filters => if_pos ⟨rfl, h⟩⟩
    · exact .inr fun filters => if_neg fun hall => h hall.2
  | unsubscribe publisherPath subscriberPath =>
    by_cases h : p = publisherPath ∧ q = subscriberPath
    · exact .inl ⟨[], fun filters => if_pos ⟨rfl, h⟩⟩
    · exact .inr fun filters => if_neg fun hall => h hall.2

theorem Settled.send {u : TopologyPair Node Path EventType} (h : Settled s)
    (harriving : ∀ p q, u.arriving p q = s.arriving p q) (hconnected : u.connected = s.connected)
    (hreplayed : u.replayed = s.replayed) (hlatest : ∀ p q, u.latestFilters p q =
      registered u.subscriberNode p q (s.latestFilters p q) (.frame u.subscriberNode frame)) :
    Settled (u.sendTransportMessage frame) := by
  have hfilters : ∀ p q, (u.sendTransportMessage frame).latestFilters p q =
      registered u.subscriberNode p q (s.latestFilters p q) (.frame u.subscriberNode frame) :=
    fun p q => (latestFilters_of_eq (send_disposers u) (send_disposed u) p q).trans (hlatest p q)
  cases hc : s.connected with
  | false =>
    have hclear := h.cleared hc
    rw [send_of_disconnected (hconnected.trans hc)]
    refine ⟨fun _ p q => (harriving p q).trans (hclear p q), fun p q => .inl ((harriving p q).trans (hclear p q)), fun hr => ?_⟩
    rw [hreplayed] at hr
    exact absurd (h.replayed hr).1 (by simp [hc])
  | true =>
    have hcu : u.connected = true := hconnected.trans hc
    refine ⟨fun hf => ?_, fun p q => ?_, fun hr => ⟨(send_connected u).trans hcu, fun p q => ?_⟩⟩
    · rw [send_connected, hcu] at hf
      cases hf
    · rw [hfilters, arriving_send hcu, harriving]
      obtain ⟨fixed, hfixed⟩ | hleft := registered_frame u.subscriberNode p q frame
      · rw [hfixed, hfixed]
        exact .inr rfl
      · rw [hleft, hleft]
        exact h.arriving p q
    · rw [send_replayed, hreplayed] at hr
      rw [hfilters, arriving_send hcu, harriving, (h.replayed hr).2 p q]

theorem subscribe_settled (h : Held s) (hs : Settled s) (p q : Path)
    (events : Option (List EventType)) : Settled (s.sendTopologySubscribe p q events) := by
  have hlive := subscribe_live h p q events
  have hlatest : ∀ p' q', (s.sendTopologySubscribe p q events).latestFilters p' q' = _ :=
    fun p' q' => latestFilters_append hlive
  unfold sendTopologySubscribe at hlatest ⊢
  refine hs.send (fun _ _ => rfl) rfl rfl fun p' q' => ?_
  rw [← latestFilters_of_eq (send_disposers _) (send_disposed _), hlatest p' q']
  simp only [registered, true_and]

theorem dispose_settled (h : Held s) (hs : Settled s)
    (hd : d ∈ s.disposers) (hsparing : Sparing s d) : Settled (s.dispose d) := by
  have hlatest : ∀ p q, (s.dispose d).latestFilters p q = _ :=
    fun p q => latestFilters_filter (dispose_live d) (fun i hi => h.eq_of_id hd hi) hsparing.alone
  unfold dispose at hlatest ⊢
  refine hs.send (fun _ _ => rfl) rfl rfl fun p q => ?_
  rw [← latestFilters_of_eq (send_disposers _) (send_disposed _), hlatest p q]
  simp only [registered, true_and]

theorem replay_settled (h : Held s) (hs : Settled s) :
    Settled s.replayOutboundTopologySubscriptions := by
  cases hc : s.connected with
  | false =>
    rw [replay_disconnected hc]
    exact ⟨hs.cleared, hs.arriving, nofun⟩
  | true =>
    have harriving : ∀ p q, s.replayOutboundTopologySubscriptions.arriving p q =
        s.latestFilters p q := by
      intro p q
      have hfold : s.replayOutboundTopologySubscriptions.arriving p q =
          (s.live.map fun i => PublisherInput.frame s.subscriberNode
            (.subscribe i.publisherPath i.subscriberPath i.events)).foldl
            (registered s.subscriberNode p q) (s.arriving p q) := by
        rw [replay_connected hc, h.outbound]
        simp only [arriving, Channel.pending_foldl_send, map_append, map_map,
          foldl_append]
        rfl
      rw [hfold, foldl_subscribe]
      split
      case isTrue hnone =>
        have hlatest : s.latestFilters p q = [] := by
          rw [latestFilters, latest, hnone]
          rfl
        obtain hnil | heq := hs.arriving p q
        · rw [hnil, hlatest]
        · exact heq
      case isFalse => rfl
    rw [replay_connected hc] at harriving ⊢
    exact ⟨fun hf => absurd hf (by simp [hc]), fun p q => .inr (harriving p q),
      fun _ => ⟨hc, harriving⟩⟩

theorem Settled.of_arriving (h : Settled s) (hconnected : t.connected = s.connected)
    (hreplayed : t.replayed = s.replayed) (harriving : ∀ p q, t.arriving p q = s.arriving p q)
    (hlatest : ∀ p q, t.latestFilters p q = s.latestFilters p q) : Settled t where
  cleared := by
    exact fun hc p q => (harriving p q).trans (h.cleared (hconnected ▸ hc) p q)
  arriving := by
    intro p q
    rw [harriving, hlatest]
    exact h.arriving p q
  replayed := by
    intro hr
    obtain ⟨hc, heq⟩ := h.replayed (hreplayed ▸ hr)
    exact ⟨hconnected.trans hc, fun p q => by rw [harriving, hlatest, heq]⟩

def Spared (s : TopologyPair Node Path EventType) : Action Node Path EventType → Prop
  | .dispose i => ∀ d, s.disposers[i]? = some d → Sparing s d
  | _ => True

theorem step_kept {a : Action Node Path EventType} (h : Held s ∧ Settled s)
    (ht : step s a = some t) (hspared : Spared s a) : Held t ∧ Settled t := by
  obtain ⟨hheld, hs⟩ := h
  cases a with
  | subscribe p q events =>
    cases ht
    exact ⟨subscribe_held hheld p q events, subscribe_settled hheld hs p q events⟩
  | dispose i =>
    obtain ⟨d, hd, rfl⟩ := Option.map_eq_some_iff.mp ht
    have hmem := mem_of_getElem? hd
    exact ⟨dispose_held hheld hmem (hspared d hd), dispose_settled hheld hs hmem (hspared d hd)⟩
  | connect =>
    simp only [step] at ht
    split at ht
    case isTrue => cases ht
    case isFalse hc =>
      cases ht
      refine ⟨hheld.of_eq rfl rfl rfl rfl, fun hf => ?_, hs.arriving, fun hr => ?_⟩
      · cases hf
      · cases hr
  | disconnect n =>
    simp only [step] at ht
    split at ht
    case isTrue =>
      cases ht
      have hnone := fun p q => arriving_close (s := s) (p := p) (q := q) n
        (filtersFor s.edges s.subscriberNode p q)
      refine ⟨hheld.of_eq rfl rfl rfl rfl, fun _ => hnone, fun p q => .inl (hnone p q),
        fun hr => ?_⟩
      cases hr
    case isFalse => cases ht
  | replay =>
    cases ht
    refine ⟨?_, replay_settled hheld hs⟩
    cases hc : s.connected with
    | false =>
      rw [replay_disconnected hc]
      exact hheld.of_eq rfl rfl rfl rfl
    | true =>
      rw [replay_connected hc]
      exact hheld.of_eq rfl rfl rfl rfl
  | deliver =>
    obtain ⟨⟨input, link⟩, hreceive, rfl⟩ := Option.map_eq_some_iff.mp ht
    exact ⟨hheld.of_eq rfl rfl rfl rfl,
      hs.of_arriving rfl rfl (fun _ _ => arriving_deliver hreceive) fun _ _ => rfl⟩
  | other source frame =>
    simp only [step] at ht
    split at ht
    case isTrue => cases ht
    case isFalse hsource =>
      cases ht
      exact ⟨hheld.of_eq rfl rfl rfl rfl,
        hs.of_arriving rfl rfl (fun _ _ => arriving_other hsource frame) fun _ _ => rfl⟩

theorem start_kept (subscriberNode : Node) :
    Held (start subscriberNode : TopologyPair Node Path EventType) ∧
      Settled (start subscriberNode : TopologyPair Node Path EventType) := by
  refine ⟨⟨rfl, fun _ _ => rfl, ?_, ?_, ?_⟩, fun _ _ _ => rfl, fun _ _ => .inl rfl, ?_⟩
  · intro d hd
    cases hd
  · intro i d hd
    cases hd
  · intro i hi
    cases hi
  · intro hr
    cases hr

theorem Quiescent.filters (hq : Quiescent s) (hs : Settled s) (p q : Path) :
    filtersFor s.edges s.subscriberNode p q = s.latestFilters p q := by
  rw [← (hs.replayed hq.replayed).2 p q, arriving, hq.link]
  rfl

/-- A quiescent publisher node forwards what the latest live subscription of a subscriber
lets through, and a replay sends every live subscription. -/
theorem forwards_latest [DecidableEq EventType] {subscriberNode : Node}
    {as : List (Action Node Path EventType)} (hG : Guarded step Spared (start subscriberNode) as)
    (h : exec step (start subscriberNode) as = some s) :
    (s.Quiescent → ∀ p q eventType, s.Forwards p q eventType ↔
      ∃ i, s.latest p q = some i ∧ passes i.events eventType = true) ∧
    (s.connected = true → s.replayOutboundTopologySubscriptions.link.pending =
      s.link.pending ++ s.live.map fun i =>
        some (.subscribe i.publisherPath i.subscriberPath i.events)) := by
  obtain ⟨hheld, hs⟩ := guarded_invariant (I := fun s => Held s ∧ Settled s)
    (fun _ _ _ => step_kept) (start_kept subscriberNode) hG h
  constructor
  · intro hq p q eventType
    rw [Forwards, mem_match_iff, hq.filters hs]
    constructor
    · rintro ⟨events, hevents, hpass⟩
      obtain ⟨i, hi, rfl⟩ := mem_latestFilters.mp hevents
      exact ⟨i, hi, hpass⟩
    · rintro ⟨i, hi, hpass⟩
      exact ⟨i.events, mem_latestFilters.mpr ⟨i, hi, rfl⟩, hpass⟩
  · intro hc
    rw [replay_connected hc, hheld.outbound, Channel.pending_foldl_send]

/-- A subscription is made before the first connection and disposed on it; another one is
replayed on the second. -/
def sparedRun : List (Action Nat Nat Nat) :=
  [.subscribe 1 2 (some [5]), .connect, .replay, .deliver, .subscribe 1 3 none, .dispose 0,
    .deliver, .disconnect 1, .connect, .deliver, .deliver, .replay, .deliver]

theorem sparedRun_spared : Guarded step Spared (start 7) sparedRun := by
  refine (guarded_cons rfl).mpr ⟨trivial, (guarded_cons rfl).mpr ⟨trivial, ?_⟩⟩
  refine (guarded_cons rfl).mpr ⟨trivial, (guarded_cons rfl).mpr ⟨trivial, ?_⟩⟩
  refine (guarded_cons rfl).mpr ⟨trivial, (guarded_cons rfl).mpr ⟨fun d hd => ?_, ?_⟩⟩
  · cases hd
    exact ⟨by decide, by decide⟩
  · refine (guarded_cons rfl).mpr ⟨trivial, (guarded_cons rfl).mpr ⟨trivial, ?_⟩⟩
    refine (guarded_cons rfl).mpr ⟨trivial, (guarded_cons rfl).mpr ⟨trivial, ?_⟩⟩
    refine (guarded_cons rfl).mpr ⟨trivial, (guarded_cons rfl).mpr ⟨trivial, ?_⟩⟩
    exact (guarded_cons rfl).mpr ⟨trivial, trivial⟩

theorem sparedRun_forwards : ∃ s : TopologyPair Nat Nat Nat,
    exec step (start 7) sparedRun = some s ∧ s.Quiescent ∧
      (s.Forwards 1 3 5 ↔ ∃ i, s.latest 1 3 = some i ∧ passes i.events 5 = true) := by
  refine ⟨_, rfl, ⟨rfl, rfl, rfl⟩, ?_⟩
  exact (forwards_latest sparedRun_spared rfl).1 ⟨rfl, rfl, rfl⟩ 1 3 5

def overlapRun : List (Action Nat Nat Nat) :=
  [.connect, .replay, .subscribe 1 2 (some [5]), .subscribe 1 2 (some [6]), .deliver, .deliver]

/-- The edge of the first subscription is replaced: its events are no longer forwarded. -/
theorem overlapRun_replaces_filter : ∃ s : TopologyPair Nat Nat Nat,
    exec step (start 7) overlapRun = some s ∧ s.Quiescent ∧
      (∃ i ∈ s.live, isBetween 1 2 i = true ∧ passes i.events 5 = true) ∧ ¬s.Forwards 1 2 5 := by
  refine ⟨_, rfl, ⟨rfl, rfl, rfl⟩, ⟨⟨0, 1, 2, some [5]⟩, by decide, rfl, rfl⟩, ?_⟩
  unfold Forwards
  decide

end ActorWeb.TopologyPair
