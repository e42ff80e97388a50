import ActorWeb.RequestResponse

namespace ActorWeb.RequestResponse

open OrderedMap Option

open Transition

section Laws

structure Accounted (m : Manager) : Prop where
  once : ∀ c, (m.counted.filter fun e => e.1 = c).length ≤ 1
  settled : ∀ c o, m.settled.get c = some o ↔ (c, o) ∈ m.counted
  completed : m.requestStats.completed = m.counted.countP fun e => e.2 = .completed
  timeout : m.requestStats.timeout = m.counted.countP fun e => e.2 = .timeout
  error : m.requestStats.error = m.counted.countP fun e => e.2 = .error
  total : m.requestStats.total = m.requestStats.completed + m.requestStats.timeout +
    m.requestStats.error + m.pendingRequests.size
  pending : ∀ c ∈ m.requests, (m.pendingRequests.get c).isSome = !(m.settled.get c).isSome
  unarmed : ∀ c, (m.settled.get c).isSome = true →
    ∀ id t, m.timers.get id = some t → t.correlationId ≠ c

structure Clean (m : Manager) : Prop extends Accounted m where
  noTimeoutId : ∀ c, (m.settled.get c).isSome = true → m.timeoutIds.get c = none

def Manager.delaying (m : Manager) (c : String) : Bool :=
  m.timers.values.any fun t =>
    match t.callback with
    | .retry r _ => r.correlationId = c
    | .timeout _ _ => false

def InAttempt (m : Manager) : Action → Prop
  | .respond c | .fail c => m.delaying c = false
  | .create _ _ _ | .fire _ => True

/-- The timer that fires is not the timeout of a request's last attempt. -/
def NotLast (m : Manager) : Action → Prop
  | .fire id => ∀ r n d, m.timers.get id = some ⟨.timeout r n, d⟩ → r.retries? n = true
  | .create _ _ _ | .respond _ | .fail _ => True

end Laws

section Phases

/-- Where a request is: not made, waiting for an attempt, waiting out a delay, or settled. -/
inductive Phase (m : Manager) (c : String) : Prop
  | fresh (requested : c ∉ m.requests) (pending : m.pendingRequests.get c = none)
      (settled : m.settled.get c = none)
      (unarmed : ∀ id t, m.timers.get id = some t → t.correlationId ≠ c)
  | waiting (r : Request) (n id : Nat) (d : JsNumber) (key : r.correlationId = c)
      (requested : c ∈ m.requests) (pending : (m.pendingRequests.get c).isSome = true)
      (stored : m.timeoutIds.get c = some id) (settled : m.settled.get c = none)
      (armed : m.timers.get id = some ⟨.timeout r n, d⟩)
      (only : ∀ id' t, m.timers.get id' = some t → t.correlationId = c → id' = id)
  | delayed (r : Request) (n id : Nat) (d : JsNumber) (key : r.correlationId = c)
      (requested : c ∈ m.requests) (pending : (m.pendingRequests.get c).isSome = true)
      (stored : m.timeoutIds.get c ≠ some id) (settled : m.settled.get c = none)
      (armed : m.timers.get id = some ⟨.retry r n, d⟩)
      (only : ∀ id' t, m.timers.get id' = some t → t.correlationId = c → id' = id)
  | ended (o : Outcome) (requested : c ∈ m.requests) (pending : m.pendingRequests.get c = none)
      (settled : m.settled.get c = some o)
      (unarmed : ∀ id t, m.timers.get id = some t → t.correlationId ≠ c)

structure SameFor (c : String) (m m' : Manager) : Prop where
  requests : c ∈ m'.requests ↔ c ∈ m.requests
  pending : m'.pendingRequests.get c = m.pendingRequests.get c
  stored : m'.timeoutIds.get c = m.timeoutIds.get c
  settled : m'.settled.get c = m.settled.get c
  timers : ∀ id t, t.correlationId = c → (m'.timers.get id = some t ↔ m.timers.get id = some t)

variable {m m' : Manager} {c : String} {r : Request} {n id : Nat} {d : JsNumber}

theorem Phase.same (h : Phase m c) (hs : SameFor c m m') : Phase m' c := by
  have hunarmed (hn : ∀ id t, m.timers.get id = some t → t.correlationId ≠ c) :
      ∀ id t, m'.timers.get id = some t → t.correlationId ≠ c :=
    fun id t ht hc => hn id t ((hs.timers id t hc).mp ht) hc
  have honly {id : Nat} (ho : ∀ id' t, m.timers.get id' = some t → t.correlationId = c → id' = id) :
      ∀ id' t, m'.timers.get id' = some t → t.correlationId = c → id' = id :=
    fun id' t ht hc => ho id' t ((hs.timers id' t hc).mp ht) hc
  cases h with
  | fresh requested pending settled unarmed =>
    exact .fresh (hs.requests.not.mpr requested) (hs.pending.trans pending)
      (hs.settled.trans settled) (hunarmed unarmed)
  | waiting r n id d key requested pending stored settled armed only =>
    exact .waiting r n id d key (hs.requests.mpr requested) (hs.pending ▸ pending)
      (hs.stored.trans stored) (hs.settled.trans settled)
      ((hs.timers id ⟨.timeout r n, d⟩ key).mpr armed)
      (honly only)
  | delayed r n id d key requested pending stored settled armed only =>
    exact .delayed r n id d key (hs.requests.mpr requested) (hs.pending ▸ pending)
      (hs.stored ▸ stored) (hs.settled.trans settled)
      ((hs.timers id ⟨.retry r n, d⟩ key).mpr armed) (honly only)
  | ended o requested pending settled unarmed =>
    exact .ended o (hs.requests.mpr requested) (hs.pending.trans pending)
      (hs.settled.trans settled) (hunarmed unarmed)

/-- What holds of a manager whose requests were not answered during a delay. -/
structure Sound (m : Manager) : Prop where
  phase : ∀ c, Phase m c
  fresh : ∀ id t, m.timers.get id = some t → id < m.idCounter
  counted : ∀ c, (m.counted.filter fun e => e.1 = c) = (m.settled.get c).toList.map (Prod.mk c)
  completed : m.requestStats.completed = m.counted.countP fun e => e.2 = .completed
  timeout : m.requestStats.timeout = m.counted.countP fun e => e.2 = .timeout
  error : m.requestStats.error = m.counted.countP fun e => e.2 = .error
  total : m.requestStats.total = m.counted.length + m.pendingRequests.size

theorem sound_new : Sound Manager.new where
  phase _ := .fresh List.not_mem_nil rfl rfl fun _ _ h => by cases h
  fresh _ _ h := by cases h
  counted _ := rfl
  completed := rfl
  timeout := rfl
  error := rfl
  total := rfl

theorem length_counted (counted : List (String × Outcome)) :
    counted.length = (counted.countP fun e => e.2 = .completed) +
      (counted.countP fun e => e.2 = .timeout) + counted.countP fun e => e.2 = .error := by
  induction counted with
  | nil => rfl
  | cons e counted ih =>
    obtain ⟨c, o⟩ := e
    cases o with
    | completed | timeout | error => simp only [List.length_cons, List.countP_cons, ih]; simp; omega

theorem Sound.accounted (h : Sound m) : Accounted m where
  once c := by
    rw [h.counted, List.length_map]
    cases m.settled.get c with
    | none => exact Nat.zero_le 1
    | some o => exact le_refl 1
  settled c o := by
    have hmem : (c, o) ∈ m.counted ↔ (c, o) ∈ m.counted.filter fun e => e.1 = c := by
      rw [List.mem_filter]
      simp
    rw [hmem, h.counted]
    simp
  completed := h.completed
  timeout := h.timeout
  error := h.error
  total := by rw [h.total, length_counted, h.completed, h.timeout, h.error]
  pending c hc := by
    cases h.phase c with
    | fresh requested => exact absurd hc requested
    | waiting r n id d _ _ pending _ settled | delayed r n id d _ _ pending _ settled
    | ended o _ pending settled => rw [pending, settled]; rfl
  unarmed c hc := by
    cases h.phase c with
    | fresh _ _ _ unarmed => exact unarmed
    | waiting r n id d _ _ _ _ settled => rw [settled] at hc; cases hc
    | delayed r n id d _ _ _ _ settled => rw [settled] at hc; cases hc
    | ended o _ _ _ unarmed => exact unarmed

theorem Sound.of_new (h : Sound m) (hnew : c ∉ m.requests) :
    m.pendingRequests.get c = none ∧ m.settled.get c = none ∧
      ∀ id t, m.timers.get id = some t → t.correlationId ≠ c := by
  cases h.phase c with
  | fresh _ pending settled unarmed => exact ⟨pending, settled, unarmed⟩
  | waiting _ _ _ _ _ requested | delayed _ _ _ _ _ requested | ended _ requested =>
    exact absurd requested hnew

theorem Sound.of_pending (h : Sound m) {p : Pending} (hp : m.pendingRequests.get c = some p) :
    m.settled.get c = none := by
  cases h.phase c with
  | fresh _ pending => rw [pending] at hp; cases hp
  | waiting _ _ _ _ _ _ _ _ settled => exact settled
  | delayed _ _ _ _ _ _ _ _ settled => exact settled
  | ended _ _ pending => rw [pending] at hp; cases hp

theorem Sound.of_timeout (h : Sound m) (ht : m.timers.get id = some ⟨.timeout r n, d⟩) :
    r.correlationId ∈ m.requests ∧ (m.pendingRequests.get r.correlationId).isSome = true ∧
      m.timeoutIds.get r.correlationId = some id ∧ m.settled.get r.correlationId = none ∧
      ∀ id' t, m.timers.get id' = some t → t.correlationId = r.correlationId → id' = id := by
  cases h.phase r.correlationId with
  | fresh _ _ _ unarmed => exact absurd rfl (unarmed id _ ht)
  | ended o _ _ _ unarmed => exact absurd rfl (unarmed id _ ht)
  | waiting r' n' id' d' _ requested pending stored settled _ only =>
    obtain rfl := only id _ ht rfl
    exact ⟨requested, pending, stored, settled, only⟩
  | delayed r' n' id' d' _ _ _ _ _ armed only =>
    obtain rfl := only id _ ht rfl
    rw [armed] at ht
    cases ht

theorem Sound.of_retry (h : Sound m) (ht : m.timers.get id = some ⟨.retry r n, d⟩) :
    r.correlationId ∈ m.requests ∧ (m.pendingRequests.get r.correlationId).isSome = true ∧
      m.settled.get r.correlationId = none ∧
      ∀ id' t, m.timers.get id' = some t → t.correlationId = r.correlationId → id' = id := by
  cases h.phase r.correlationId with
  | fresh _ _ _ unarmed => exact absurd rfl (unarmed id _ ht)
  | ended o _ _ _ unarmed => exact absurd rfl (unarmed id _ ht)
  | waiting r' n' id' d' _ _ _ _ _ armed only =>
    obtain rfl := only id _ ht rfl
    rw [armed] at ht
    cases ht
  | delayed r' n' id' d' _ requested pending _ settled _ only =>
    obtain rfl := only id _ ht rfl
    exact ⟨requested, pending, settled, only⟩

theorem delaying_iff : m.delaying c = true ↔
    ∃ id r n d, m.timers.get id = some ⟨.retry r n, d⟩ ∧ r.correlationId = c := by
  rw [Manager.delaying, List.any_eq_true]
  constructor
  · rintro ⟨⟨callback, d⟩, ht, hc⟩
    obtain ⟨id, hget⟩ := mem_values_iff.mp ht
    cases callback with
    | timeout r n => cases hc
    | retry r n => exact ⟨id, r, n, d, hget, of_decide_eq_true hc⟩
  · rintro ⟨id, r, n, d, hget, hc⟩
    exact ⟨_, mem_values_iff.mpr ⟨id, hget⟩, decide_eq_true hc⟩

end Phases

section Steps

variable {m m' : Manager} {c : String} {r : Request} {n id : Nat} {d : JsNumber}

theorem only_set {t : Timer}
    (hunarmed : ∀ id t, m.timers.get id = some t → t.correlationId ≠ c) (id' : Nat) (t' : Timer)
    (ht : (m.timers.set m.idCounter t).get id' = some t') (hc : t'.correlationId = c) :
    id' = m.idCounter := by
  by_contra hne
  rw [get_set_ne _ _ hne] at ht
  exact hunarmed id' t' ht hc

theorem only_replaced {new : Timer}
    (honly : ∀ id' t, m.timers.get id' = some t → t.correlationId = c → id' = id) (id' : Nat)
    (t' : Timer) (ht : ((m.timers.set m.idCounter new).delete id).get id' = some t')
    (hc : t'.correlationId = c) : id' = m.idCounter := by
  by_contra hid
  rw [OrderedMap.get_delete] at ht
  split at ht
  case isTrue => cases ht
  case isFalse hold =>
    exact hold (honly id' t' ((get_set_ne _ _ hid).symm.trans ht) hc)

theorem armed_set (hfresh : ∀ id t, m.timers.get id = some t → id < m.idCounter) {new t : Timer}
    (hnew : new.correlationId ≠ c) (id : Nat) (hc : t.correlationId = c) :
    (m.timers.set m.idCounter new).get id = some t ↔ m.timers.get id = some t := by
  by_cases hid : id = m.idCounter
  · subst hid
    rw [get_set_self]
    constructor
    · rintro ⟨⟩
      exact absurd hc hnew
    · exact fun ht => absurd (hfresh _ t ht) (lt_irrefl _)
  · rw [get_set_ne _ _ hid]

theorem armed_delete {timers : OrderedMap Nat Timer} {old t : Timer} {gone : Nat}
    (hgone : timers.get gone = some old) (hold : old.correlationId ≠ c) (id : Nat)
    (hc : t.correlationId = c) : (timers.delete gone).get id = some t ↔ timers.get id = some t := by
  by_cases hid : id = gone
  · subst hid
    rw [get_delete_self, hgone]
    constructor
    · exact fun h => by cases h
    · rintro ⟨⟩
      exact absurd hc hold
  · rw [get_delete_ne _ hid]

theorem fresh_set (hfresh : ∀ id t, m.timers.get id = some t → id < m.idCounter) {new : Timer}
    (id : Nat) (t : Timer) (ht : (m.timers.set m.idCounter new).get id = some t) :
    id < m.idCounter + 1 := by
  rw [get_set] at ht
  split at ht
  case isTrue hid => omega
  case isFalse => exact Nat.lt_succ_of_lt (hfresh id t ht)

theorem fresh_delete {timers : OrderedMap Nat Timer} {bound : Nat}
    (hfresh : ∀ id t, timers.get id = some t → id < bound) {gone : Nat} (id : Nat) (t : Timer)
    (ht : (timers.delete gone).get id = some t) : id < bound := by
  rw [OrderedMap.get_delete] at ht
  split at ht
  · cases ht
  · exact hfresh id t ht

theorem Sound.create (h : Sound m) (hfresh : r.correlationId ∉ m.requests) :
    Sound (m.createRequest r) := by
  obtain ⟨hpending, hsettled, hunarmed⟩ := h.of_new hfresh
  refine { h with phase := fun c => ?_, fresh := fresh_set h.fresh, total := ?_ }
  · by_cases hc : c = r.correlationId
    · subst hc
      refine .waiting r 1 m.idCounter r.timeout rfl ?_ ?_ ?_ hsettled ?_ (only_set hunarmed)
      · exact List.mem_append_right _ List.mem_cons_self
      · exact isSome_iff_exists.mpr ⟨_, get_set_self _ _ _⟩
      · exact get_set_self _ _ _
      · exact get_set_self _ _ _
    · refine (h.phase c).same ⟨?_, ?_, ?_, rfl, ?_⟩
      · simp [Manager.createRequest, Manager.executeRequest, Manager.setTimeout, hc]
      · exact get_set_ne _ _ hc
      · exact get_set_ne _ _ hc
      · exact fun id t ht => armed_set h.fresh (Ne.symm hc) id ht
  · have hsize := size_set m.pendingRequests r.correlationId
      ⟨1, r.retries, r.retryDelay⟩
    rw [hpending] at hsize
    exact (congrArg (· + 1) h.total).trans (congrArg (m.counted.length + ·) hsize).symm

theorem Sound.retry (h : Sound m) (ht : m.timers.get id = some ⟨.retry r n, d⟩) :
    Sound { m.executeRequest r n with timers := (m.executeRequest r n).timers.delete id } := by
  obtain ⟨hrequested, hpending, hsettled, honly⟩ := h.of_retry ht
  have hne : m.idCounter ≠ id := (Nat.ne_of_lt (h.fresh id _ ht)).symm
  refine { h with
    phase := fun c => ?_, fresh := fresh_delete (fresh_set h.fresh), total := ?_ }
  · by_cases hc : c = r.correlationId
    · subst hc
      refine .waiting r n m.idCounter r.timeout rfl hrequested ?_ ?_ hsettled ?_
        (only_replaced honly)
      · exact isSome_iff_exists.mpr ⟨_, get_set_self _ _ _⟩
      · exact get_set_self _ _ _
      · exact (get_delete_ne _ hne).trans (get_set_self _ _ _)
    · refine (h.phase c).same ⟨Iff.rfl, ?_, ?_, rfl, fun id' t' hc' => ?_⟩
      · exact get_set_ne _ _ hc
      · exact get_set_ne _ _ hc
      · have hold : (m.timers.set m.idCounter ⟨.timeout r n, r.timeout⟩).get id =
            some ⟨.retry r n, d⟩ := (get_set_ne _ _ hne.symm).trans ht
        exact (armed_delete hold (Ne.symm hc) id' hc').trans
          (armed_set h.fresh (Ne.symm hc) id' hc')
  · have hsize := size_set m.pendingRequests r.correlationId
      ⟨n, r.retries, r.retryDelay⟩
    rw [if_pos hpending] at hsize
    exact h.total.trans (congrArg (m.counted.length + ·) hsize).symm

theorem Sound.delay (h : Sound m) (ht : m.timers.get id = some ⟨.timeout r n, d⟩)
    (hretries : r.retries? n = true) :
    Sound { m.attemptTimeout r n with timers := (m.attemptTimeout r n).timers.delete id } := by
  obtain ⟨hrequested, hpending, hstored, hsettled, honly⟩ := h.of_timeout ht
  have hne : m.idCounter ≠ id := (Nat.ne_of_lt (h.fresh id _ ht)).symm
  rw [Manager.attemptTimeout, if_pos hretries]
  refine { h with
    phase := fun c => ?_, fresh := fresh_delete (fresh_set h.fresh), total := ?_ }
  · by_cases hc : c = r.correlationId
    · subst hc
      refine .delayed r (n + 1) m.idCounter (calculateRetryDelay r.retryDelay n) rfl hrequested ?_
        ?_ hsettled ?_ (only_replaced honly)
      · exact isSome_iff_exists.mpr ⟨_, get_set_self _ _ _⟩
      · exact fun h => hne (some.inj (hstored.symm.trans h)).symm
      · exact (get_delete_ne _ hne).trans (get_set_self _ _ _)
    · refine (h.phase c).same ⟨Iff.rfl, ?_, rfl, rfl, fun id' t' hc' => ?_⟩
      · exact (get_set_ne _ _ hc).trans (get_delete_ne _ hc)
      · have hold : (m.timers.set m.idCounter
            ⟨.retry r (n + 1), calculateRetryDelay r.retryDelay n⟩).get id =
            some ⟨.timeout r n, d⟩ := (get_set_ne _ _ hne.symm).trans ht
        exact (armed_delete hold (Ne.symm hc) id' hc').trans
          (armed_set h.fresh (Ne.symm hc) id' hc')
  · obtain ⟨p, hp⟩ := isSome_iff_exists.mp hpending
    have hset := size_set (m.pendingRequests.delete r.correlationId) r.correlationId
      ⟨n + 1, r.retries, r.retryDelay⟩
    rw [get_delete_self] at hset
    have hsize := hset.trans (size_delete hp)
    exact h.total.trans (congrArg (m.counted.length + ·) hsize).symm

theorem Sound.settle (h : Sound m) {o : Outcome} {p : Pending} {ids : OrderedMap String Nat}
    (hrequested : c ∈ m.requests) (hpending : m.pendingRequests.get c = some p)
    (hsettled : m.settled.get c = none)
    (harmed : ∃ t, m.timers.get id = some t ∧ t.correlationId = c)
    (honly : ∀ id' t, m.timers.get id' = some t → t.correlationId = c → id' = id)
    (hids : ∀ b, b ≠ c → ids.get b = m.timeoutIds.get b) : Sound { m with
      pendingRequests := m.pendingRequests.delete c, timeoutIds := ids
      timers := m.timers.delete id, requestStats := m.requestStats.count o
      settled := m.settled.set c o, counted := m.counted ++ [(c, o)] } := by
  obtain ⟨old, hold, hc⟩ := harmed
  refine ⟨fun b => ?_, fresh_delete h.fresh, fun b => ?_, ?_, ?_, ?_, ?_⟩
  · by_cases hb : b = c
    · subst hb
      refine .ended o hrequested (get_delete_self _ _) (get_set_self _ _ _) ?_
      intro id' t ht hb
      rw [OrderedMap.get_delete] at ht
      split at ht
      case isTrue => cases ht
      case isFalse hid => exact hid (honly id' t ht hb)
    · exact (h.phase b).same ⟨Iff.rfl, get_delete_ne _ hb, hids b hb,
        get_set_ne _ _ hb, fun id' _ => armed_delete hold (by rw [hc]; exact Ne.symm hb) id'⟩
  · rw [List.filter_append, h.counted]
    by_cases hb : b = c
    · subst hb
      rw [hsettled, get_set_self]
      simp
    · rw [get_set_ne _ _ hb]
      simp [Ne.symm hb]
  · cases o <;> simp [Stats.count, h.completed]
  · cases o <;> simp [Stats.count, h.timeout]
  · cases o <;> simp [Stats.count, h.error]
  · have htotal : (m.requestStats.count o).total = m.requestStats.total := by cases o <;> rfl
    have hsize := size_delete hpending
    change (m.requestStats.count o).total = _
    rw [htotal, h.total, List.length_append, List.length_singleton]
    dsimp only
    omega

theorem has_none (hsettled : m.settled.get c = none) : m.settled.has c = false := by
  rw [OrderedMap.has, hsettled]
  rfl

theorem attemptTimeout_last (hsettled : m.settled.get r.correlationId = none)
    (hretries : r.retries? n = false) :
    { m.attemptTimeout r n with timers := (m.attemptTimeout r n).timers.delete id } =
      { m with
        pendingRequests := m.pendingRequests.delete r.correlationId
        timers := m.timers.delete id, requestStats := m.requestStats.count .timeout
        settled := m.settled.set r.correlationId .timeout
        counted := m.counted ++ [(r.correlationId, .timeout)] } := by
  simp only [Manager.attemptTimeout, hretries, Bool.false_eq_true, if_false, Manager.settle,
    Manager.count, has_none hsettled]

theorem Sound.last (h : Sound m) (ht : m.timers.get id = some ⟨.timeout r n, d⟩)
    (hretries : r.retries? n = false) :
    Sound { m.attemptTimeout r n with timers := (m.attemptTimeout r n).timers.delete id } := by
  obtain ⟨hrequested, hpending, -, hsettled, honly⟩ := h.of_timeout ht
  obtain ⟨p, hp⟩ := isSome_iff_exists.mp hpending
  rw [attemptTimeout_last hsettled hretries]
  exact h.settle hrequested hp hsettled ⟨_, ht, rfl⟩ honly fun _ _ => rfl

theorem handle_none {o : Outcome} (hpending : m.pendingRequests.get c = none) :
    m.handle o c = m := by
  rw [Manager.handle, hpending]

def Manager.cleared (m : Manager) (c : String) : OrderedMap Nat Timer :=
  match m.timeoutIds.get c with
  | some id => m.timers.delete id
  | none => m.timers

theorem handle_pending {o : Outcome} {p : Pending} (hpending : m.pendingRequests.get c = some p)
    (hsettled : m.settled.get c = none) : m.handle o c = { m with
      pendingRequests := m.pendingRequests.delete c, timeoutIds := m.timeoutIds.delete c
      timers := m.cleared c, requestStats := m.requestStats.count o
      settled := m.settled.set c o, counted := m.counted ++ [(c, o)] } := by
  cases hstored : m.timeoutIds.get c with
  | none =>
    simp only [Manager.handle, hpending, hstored, Manager.count, Manager.settle, Manager.cleared,
      has_none hsettled, Bool.false_eq_true, if_false]
  | some id =>
    simp only [Manager.handle, hpending, hstored, Manager.clearTimeout, Manager.count,
      Manager.settle, Manager.cleared, has_none hsettled, Bool.false_eq_true, if_false]

theorem Sound.handle (h : Sound m) (o : Outcome) (hdelay : m.delaying c = false) :
    Sound (m.handle o c) := by
  cases h.phase c with
  | fresh _ pending => rw [handle_none pending]; exact h
  | ended _ _ pending => rw [handle_none pending]; exact h
  | delayed r n id d key _ _ _ _ armed =>
    have hdelaying := delaying_iff.mpr ⟨id, r, n, d, armed, key⟩
    rw [hdelay] at hdelaying
    cases hdelaying
  | waiting r n id d key requested pending stored settled armed only =>
    obtain ⟨p, hp⟩ := isSome_iff_exists.mp pending
    rw [handle_pending hp settled, Manager.cleared, stored]
    exact h.settle requested hp settled ⟨_, armed, key⟩ only fun b hb =>
      get_delete_ne _ hb

theorem Sound.step (h : Sound m) {a : Action} (ha : InAttempt m a) (hstep : m.step a = some m') :
    Sound m' := by
  cases a with
  | create defaults options generated =>
    simp only [Manager.step] at hstep
    split at hstep
    · cases hstep
    case isFalse hfresh =>
      cases hstep
      exact h.create hfresh
  | respond c =>
    cases hstep
    exact h.handle .completed ha
  | fail c =>
    cases hstep
    exact h.handle .error ha
  | fire id =>
    obtain ⟨⟨callback, d⟩, ht, rfl⟩ := map_eq_some_iff.mp hstep
    cases callback with
    | retry r n => exact h.retry ht
    | timeout r n =>
      cases hretries : r.retries? n with
      | true => exact h.delay ht hretries
      | false => exact h.last ht hretries

end Steps

section Exact

variable {m m' : Manager} {c : String} {r : Request} {n id : Nat} {d : JsNumber}

theorem Sound.not_accounted (h : Sound m) (o : Outcome) (hdelay : m.delaying c = true) :
    ¬ Accounted (m.handle o c) := by
  obtain ⟨id, r, n, d, ht, rfl⟩ := delaying_iff.mp hdelay
  cases h.phase r.correlationId with
  | fresh _ _ _ unarmed => exact absurd rfl (unarmed id _ ht)
  | ended _ _ _ _ unarmed => exact absurd rfl (unarmed id _ ht)
  | waiting _ _ _ _ _ _ _ _ _ armed only =>
    obtain rfl := only id _ ht rfl
    rw [armed] at ht
    cases ht
  | delayed r' n' id' d' _ _ pending stored settled armed only =>
    obtain rfl := only id _ ht rfl
    obtain ⟨p, hp⟩ := isSome_iff_exists.mp pending
    have harmed : (m.cleared r.correlationId).get id = some ⟨.retry r n, d⟩ := by
      unfold Manager.cleared
      split
      case h_1 old hold =>
        exact (get_delete_ne _ fun hid => stored (by rw [hold, hid])).trans ht
      case h_2 => exact ht
    rw [handle_pending hp settled]
    intro haccounted
    refine haccounted.unarmed r.correlationId ?_ id _ harmed rfl
    exact isSome_iff_exists.mpr ⟨o, get_set_self _ _ _⟩

theorem inAttempt_of_accounted (h : Sound m) {a : Action} (hstep : m.step a = some m')
    (haccounted : Accounted m') : InAttempt m a := by
  cases a with
  | create => trivial
  | fire id => trivial
  | respond c =>
    cases hstep
    exact Bool.eq_false_iff.mpr fun hdelay => h.not_accounted .completed hdelay haccounted
  | fail c =>
    cases hstep
    exact Bool.eq_false_iff.mpr fun hdelay => h.not_accounted .error hdelay haccounted

theorem notLast_of_clean (h : Sound m) {a : Action} (hstep : m.step a = some m')
    (hclean : Clean m') : NotLast m a := by
  cases a with
  | create => trivial
  | respond c => trivial
  | fail c => trivial
  | fire id =>
    intro r n d ht
    by_contra hlast
    obtain ⟨-, -, hstored, hsettled, -⟩ := h.of_timeout ht
    simp only [Manager.step, ht, map_some, Manager.call,
      attemptTimeout_last hsettled (Bool.eq_false_iff.mpr hlast), Option.some.injEq] at hstep
    subst hstep
    have hgone := hclean.noTimeoutId r.correlationId
      (isSome_iff_exists.mpr ⟨_, get_set_self _ _ _⟩)
    rw [hstored] at hgone
    cases hgone

theorem Clean.step (hclean : Clean m) (h : Sound m) {a : Action} (ha : InAttempt m a)
    (hlast : NotLast m a) (hstep : m.step a = some m') : Clean m' := by
  refine ⟨(h.step ha hstep).accounted, fun c hc => ?_⟩
  have hkeep (b : String) (hb : m.settled.get b = none) (id : Nat) (hc : (m.settled.get c).isSome) :
      (m.timeoutIds.set b id).get c = none := by
    refine (get_set_ne _ _ ?_).trans (hclean.noTimeoutId c hc)
    rintro rfl
    rw [hb] at hc
    cases hc
  have hhandle (o : Outcome) (b : String) (hc : ((m.handle o b).settled.get c).isSome = true) :
      (m.handle o b).timeoutIds.get c = none := by
    cases hp : m.pendingRequests.get b with
    | none =>
      rw [handle_none hp] at hc ⊢
      exact hclean.noTimeoutId c hc
    | some p =>
      rw [handle_pending hp (h.of_pending hp)] at hc ⊢
      by_cases hcb : c = b
      · rw [hcb]
        exact get_delete_self _ _
      · refine (get_delete_ne _ hcb).trans (hclean.noTimeoutId c ?_)
        rwa [show _ = m.settled.get c from get_set_ne _ _ hcb] at hc
  cases a with
  | create defaults options generated =>
    simp only [Manager.step] at hstep
    split at hstep
    · cases hstep
    case isFalse hfresh =>
      cases hstep
      exact hkeep _ (h.of_new hfresh).2.1 _ hc
  | respond b | fail b =>
    cases hstep
    exact hhandle _ b hc
  | fire id =>
    obtain ⟨⟨callback, d⟩, ht, rfl⟩ := map_eq_some_iff.mp hstep
    cases callback with
    | retry r n => exact hkeep _ (h.of_retry ht).2.2.1 _ hc
    | timeout r n =>
      simp only [Manager.call, Manager.attemptTimeout, if_pos (hlast r n d ht)] at hc ⊢
      exact hclean.noTimeoutId c hc

end Exact

theorem accounted_new : Accounted Manager.new := sound_new.accounted

theorem clean_new : Clean Manager.new := ⟨accounted_new, fun _ _ => rfl⟩

/-- In every run the requests are accounted for exactly as long as none is answered in a delay, and
no trace of a settled one is left exactly as long as, besides, no last attempt times out. -/
theorem requests_accounted (actions : List Action) :
    (Along Manager.step (fun _ _ m => Accounted m) Manager.new actions ↔
      Guarded Manager.step InAttempt Manager.new actions) ∧
    (Along Manager.step (fun _ _ m => Clean m) Manager.new actions ↔
      Guarded Manager.step (fun m a => InAttempt m a ∧ NotLast m a) Manager.new actions) := by
  constructor
  · refine along_iff_guarded_of ?_ sound_new accounted_new actions
    intro m a m' h _ hstep
    exact ⟨⟨inAttempt_of_accounted h hstep, fun ha => (h.step ha hstep).accounted⟩,
      fun ha => h.step ha hstep⟩
  · refine along_iff_guarded_of ?_ sound_new clean_new actions
    intro m a m' h hclean hstep
    refine ⟨⟨fun hc => ⟨inAttempt_of_accounted h hstep hc.toAccounted, notLast_of_clean h hstep hc⟩,
      fun ha => hclean.step h ha.1 ha.2 hstep⟩, fun ha => h.step ha.1 hstep⟩

/-- A response in the delay before the second attempt: the attempt is made all the same, and the
request is counted once more when it times out. -/
theorem response_in_delay : ∃ m,
    exec Manager.step Manager.new
      [.create ⟨none, none, none⟩ ⟨some "a", none, some (.finite 2), none⟩ "", .fire 0,
        .respond "a", .fire 1, .fire 2] = some m ∧ ¬ Accounted m := by
  have hrun : (exec Manager.step Manager.new
      [.create ⟨none, none, none⟩ ⟨some "a", none, some (.finite 2), none⟩ "", .fire 0,
        .respond "a", .fire 1, .fire 2]).any (fun m =>
      decide (m.counted = [("a", .completed), ("a", .timeout)])) = true := by decide +kernel
  obtain ⟨m, hm, hcounted⟩ := (any_eq_true _ _).mp hrun
  refine ⟨m, hm, fun haccounted => ?_⟩
  have honce := haccounted.once "a"
  rw [of_decide_eq_true hcounted] at honce
  exact absurd honce (by decide)

end ActorWeb.RequestResponse
