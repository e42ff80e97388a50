import ActorWeb.ProviderSystem

namespace ActorWeb

open Option

open Transition Function NodeProviderActor

namespace ProviderSystem

variable {Actor Slot : Type}

/-- A key is claimed by one task, which performs its effect once, and what was returned for
it is what the journal holds. -/
structure Once (s : ProviderSystem Actor Slot) : Prop where
  fresh : ∀ key, s.journal.entries.get key = none → .performed key ∉ s.history ∧
    ∀ slot task, s.tasks slot = some task → task.phase.key ≠ some key
  unique : ∀ slot slot' task task' key, s.tasks slot = some task → s.tasks slot' = some task' →
    task.phase.key = some key → task'.phase.key = some key → slot = slot'
  waiting : ∀ slot actor key call await,
    s.tasks slot = some ⟨actor, .claimed key call await⟩ → .performed key ∉ s.history
  once : ∀ key, s.history.count (.performed key) ≤ 1
  returned : ∀ key result, .returned key result ∈ s.history →
    ∃ r, s.journal.recordOf key = some r ∧ r.result = result

theorem start_once : Once (start : ProviderSystem Actor Slot) where
  fresh _ _ := ⟨by simp [start], by simp [start]⟩
  unique := by simp [start]
  waiting := by simp [start]
  once := by simp [start]
  returned := by simp [start]

theorem claimEffect_cases (options : NodeProviderActorOptions) (journal : ProviderJournal)
    (call : EffectCall) (await : EffectAwait) :
    (∃ key, journal.entries.get key = none ∧ claimEffect options journal call await =
      (⟨journal.entries.set key ⟨call.kind, none⟩⟩, .claimed key call await, [])) ∨
    ((claimEffect options journal call await).1 = journal ∧
      (claimEffect options journal call await).2.1.key = none ∧
      ∀ e ∈ (claimEffect options journal call await).2.2, ∃ key r,
        e = .returned key r.result ∧ journal.recordOf key = some r) := by
  cases hkey : idempotencyKey options call with
  | none => exact .inr (by simp [claimEffect, hkey, TaskPhase.key])
  | some key =>
    obtain ⟨hnone, hresult, hjournal⟩ | ⟨-, hjournal, hresult | ⟨expected, hresult⟩⟩ :=
      journal.claim_cases key call.kind
    · exact .inl ⟨key, hnone, by simp only [claimEffect, hkey, hresult, hjournal]⟩
    · right
      simp only [claimEffect, hkey, hresult, hjournal]
      cases hrecord : journal.recordOf key with
      | none => simp [TaskPhase.key]
      | some r =>
        exact ⟨rfl, rfl, fun e he => ⟨key, r, List.mem_singleton.mp he, hrecord⟩⟩
    · right
      simp only [claimEffect, hkey, hresult, hjournal]
      simp [TaskPhase.key]

theorem recordEffect_journal (journal : ProviderJournal) (key : String) (call : EffectCall)
    (await : EffectAwait) (outcome : Performed) (clock : NodeProviderActorClock) :
    (recordEffect journal key call await outcome clock).1 =
      (journal.record key call.kind ⟨clock.nowIso, outcome.result call.kind⟩).1 := by
  simp only [recordEffect]
  split <;> rfl

theorem recordEffect_cases (journal : ProviderJournal) (key : String) (call : EffectCall)
    (await : EffectAwait) (outcome : Performed) (clock : NodeProviderActorClock) :
    (recordEffect journal key call await outcome clock).2.1.key = none ∧
      ∀ e ∈ (recordEffect journal key call await outcome clock).2.2, ∃ r,
        e = .returned key r.result ∧
          (recordEffect journal key call await outcome clock).1.recordOf key = some r := by
  obtain ⟨-, hresult, hjournal⟩ |
      ⟨hjournal, hresult | ⟨kept, hkept, hresult⟩ | ⟨expected, hresult⟩⟩ :=
    journal.record_cases key call.kind ⟨clock.nowIso, outcome.result call.kind⟩
  · simp only [recordEffect, hresult, hjournal]
    exact ⟨rfl, by simp [EffectJournal.recordOf]⟩
  · simp only [recordEffect, hresult]
    exact ⟨rfl, by simp⟩
  · simp only [recordEffect, hresult, hjournal]
    exact ⟨rfl, by simpa using ⟨kept, rfl, hkept⟩⟩
  · simp only [recordEffect, hresult]
    exact ⟨rfl, by simp⟩

section Preserved

variable [DecidableEq Slot] {s : ProviderSystem Actor Slot}

theorem Once.put (h : Once s) (actors : Actor → NodeProviderActor) (slot : Slot)
    (task : Option (ProviderTask Actor)) (htask : ∀ x ∈ task, x.phase.key = none)
    {journal : ProviderJournal}
    (hnone : ∀ key, journal.entries.get key = none → s.journal.entries.get key = none)
    (hrecord : ∀ key r, s.journal.recordOf key = some r → journal.recordOf key = some r)
    (events : List EffectEvent)
    (hevents : ∀ e ∈ events, ∃ key r, e = .returned key r.result ∧ journal.recordOf key = some r) :
    Once ⟨journal, actors, update s.tasks slot task, s.history ++ events⟩ := by
  have hold : ∀ other x key, update s.tasks slot task other = some x → x.phase.key = some key →
      s.tasks other = some x := by
    intro other x key hx hkey
    by_cases hother : other = slot
    · subst hother
      rw [update_self] at hx
      rw [htask x hx] at hkey
      cases hkey
    · rwa [update_of_ne hother] at hx
  have hperformed : ∀ key, EffectEvent.performed key ∉ events := by
    intro key hmem
    obtain ⟨_, _, heq, -⟩ := hevents _ hmem
    cases heq
  refine ⟨?_, ?_, ?_, ?_, ?_⟩
  · intro key hget
    obtain ⟨hnot, hclaims⟩ := h.fresh key (hnone key hget)
    refine ⟨by simp [hnot, hperformed], ?_⟩
    exact fun other x hx hkey => hclaims other x (hold other x key hx hkey) hkey
  · intro a b x y key hx hy hxkey hykey
    exact h.unique a b x y key (hold a x key hx hxkey) (hold b y key hy hykey) hxkey hykey
  · intro other actor key call await hx
    have hnot := h.waiting other actor key call await (hold other _ key hx rfl)
    simp [hnot, hperformed]
  · intro key
    rw [List.count_append, List.count_eq_zero_of_not_mem (hperformed key)]
    exact h.once key
  · intro key result hmem
    rw [List.mem_append] at hmem
    obtain hmem | hmem := hmem
    · obtain ⟨r, hr, hresult⟩ := h.returned key result hmem
      exact ⟨r, hrecord key r hr, hresult⟩
    · obtain ⟨_, r, heq, hr⟩ := hevents _ hmem
      cases heq
      exact ⟨r, hr, rfl⟩

theorem Once.claimed (h : Once s) (actors : Actor → NodeProviderActor) (slot : Slot)
    (actor : Actor) {key : String} (hnone : s.journal.entries.get key = none) (call : EffectCall)
    (await : EffectAwait) : Once ⟨⟨s.journal.entries.set key ⟨call.kind, none⟩⟩, actors,
      update s.tasks slot (some ⟨actor, .claimed key call await⟩), s.history⟩ := by
  obtain ⟨hnot, hclaims⟩ := h.fresh key hnone
  have hold : ∀ other x k, update s.tasks slot (some ⟨actor, .claimed key call await⟩) other = some x →
      x.phase.key = some k → (other = slot ∧ k = key) ∨ s.tasks other = some x := by
    intro other x k hx hk
    by_cases hother : other = slot
    · subst hother
      rw [update_self] at hx
      cases hx
      exact .inl ⟨rfl, (some.inj hk).symm⟩
    · exact .inr (by rwa [update_of_ne hother] at hx)
  refine ⟨?_, ?_, ?_, h.once, ?_⟩
  · intro k hget
    have hne : k ≠ key := by
      rintro rfl
      simp at hget
    rw [OrderedMap.get_set_ne _ _ hne] at hget
    obtain ⟨hk, hothers⟩ := h.fresh k hget
    refine ⟨hk, fun other x hx hxk => ?_⟩
    obtain ⟨-, heq⟩ | hx := hold other x k hx hxk
    · exact hne heq
    · exact hothers other x hx hxk
  · intro a b x y k hx hy hxk hyk
    obtain ⟨rfl, rfl⟩ | hx' := hold a x k hx hxk
    · obtain ⟨rfl, -⟩ | hy := hold b y k hy hyk
      · rfl
      · exact absurd hyk (hclaims b y hy)
    · obtain ⟨rfl, rfl⟩ | hy := hold b y k hy hyk
      · exact absurd hxk (hclaims a x hx')
      · exact h.unique a b x y k hx' hy hxk hyk
  · intro other a k c w hx
    obtain ⟨-, rfl⟩ | hx := hold other _ k hx rfl
    · exact hnot
    · exact h.waiting other a k c w hx
  · intro k result hmem
    obtain ⟨r, hr, hresult⟩ := h.returned k result hmem
    have hne : k ≠ key := by
      rintro rfl
      simp [EffectJournal.recordOf, hnone] at hr
    exact ⟨r, by rwa [EffectJournal.recordOf, OrderedMap.get_set_ne _ _ hne], hresult⟩

theorem Once.performing (h : Once s) {slot : Slot} {actor : Actor} {key : String}
    {call : EffectCall} {await : EffectAwait}
    (htask : s.tasks slot = some ⟨actor, .claimed key call await⟩) : Once { s with
      tasks := update s.tasks slot (some ⟨actor, .performing key call await⟩)
      history := s.history ++ [.performed key] } := by
  have hold : ∀ other x k, update s.tasks slot (some ⟨actor, .performing key call await⟩) other =
      some x → x.phase.key = some k → ∃ y, s.tasks other = some y ∧ y.phase.key = some k := by
    intro other x k hx hk
    by_cases hother : other = slot
    · subst hother
      rw [update_self] at hx
      cases hx
      exact ⟨_, htask, hk⟩
    · exact ⟨x, by rwa [update_of_ne hother] at hx, hk⟩
  have hclaimed : s.journal.entries.get key ≠ none :=
    fun hnone => (h.fresh key hnone).2 slot _ htask rfl
  refine ⟨?_, ?_, ?_, ?_, ?_⟩
  · intro k hget
    obtain ⟨hnot, hclaims⟩ := h.fresh k hget
    have hne : k ≠ key := fun heq => hclaimed (heq ▸ hget)
    refine ⟨by simp [hnot, hne], fun other x hx hk => ?_⟩
    obtain ⟨y, hy, hyk⟩ := hold other x k hx hk
    exact hclaims other y hy hyk
  · intro a b x y k hx hy hxk hyk
    obtain ⟨x', hx', hxk'⟩ := hold a x k hx hxk
    obtain ⟨y', hy', hyk'⟩ := hold b y k hy hyk
    exact h.unique a b x' y' k hx' hy' hxk' hyk'
  · intro other a k c w hx
    by_cases hother : other = slot
    · subst hother
      simp only [update_self] at hx
      cases hx
    · simp only [update_of_ne hother] at hx
      have hne : k ≠ key := by
        rintro rfl
        exact hother (h.unique other slot _ _ k hx htask rfl rfl)
      simp [h.waiting other a k c w hx, hne]
  · intro k
    rw [List.count_append]
    by_cases hk : k = key
    · subst hk
      rw [List.count_eq_zero_of_not_mem (h.waiting slot actor k call await htask)]
      simp
    · have hzero : [EffectEvent.performed key].count (.performed k) = 0 := by
        simp [Ne.symm hk]
      rw [hzero]
      exact h.once k
  · intro k result hmem
    exact h.returned k result (by simpa using hmem)

variable [DecidableEq Actor] {t : ProviderSystem Actor Slot}
  {options : Actor → NodeProviderActorOptions}

theorem Once.settle (h : Once s) (slot : Slot) (actor : Actor)
    (r : NodeProviderActor × Option Suspension) : Once (s.settle options slot actor r) := by
  obtain ⟨p, _ | suspension⟩ := r
  · simpa [ProviderSystem.settle] using
      h.put (update s.actors actor p) slot none (by simp) (fun _ hk => hk)
        (fun _ _ hk => hk) [] (by simp)
  · cases suspension with
    | effect call await =>
      simp only [ProviderSystem.settle, journaled]
      obtain ⟨key, hnone, heq⟩ | ⟨hjournal, hkey, hevents⟩ :=
        claimEffect_cases (options actor) s.journal call await
      · rw [heq]
        simpa using h.claimed (update s.actors actor p) slot actor hnone call await
      · rw [hjournal]
        exact h.put (update s.actors actor p) slot _ (by simpa using hkey) (fun _ hk => hk)
          (fun _ _ hk => hk) _ hevents
    | observeExit | tailOutput | captured =>
      simpa [ProviderSystem.settle] using
        h.put (update s.actors actor p) slot (some ⟨actor, .port _⟩)
          (by simp [TaskPhase.key]) (fun _ hk => hk) (fun _ _ hk => hk) [] (by simp)

theorem step_once (h : Once s) {a : Action Actor Slot} (ht : step options s a = some t) : Once t := by
  cases a with
  | dispatch slot actor command clock =>
    simp only [step] at ht
    split at ht
    case h_1 => exact some.inj ht ▸ h.settle slot actor _
    case h_2 => cases ht
  | perform slot =>
    simp only [step] at ht
    split at ht
    case h_1 actor key call await htask => exact some.inj ht ▸ h.performing htask
    case h_2 => cases ht
  | performed slot outcome clock =>
    simp only [step] at ht
    split at ht
    case h_1 actor key call await htask =>
      split at ht
      case isTrue =>
        cases ht
        obtain ⟨hkey, hevents⟩ := recordEffect_cases s.journal key call await outcome clock
        refine h.put s.actors slot _ (by simpa using hkey) ?_ ?_ _ fun e he => ⟨key, hevents e he⟩
        · intro k hget
          rw [recordEffect_journal] at hget
          by_contra hsome
          exact EffectJournal.record_entry_some hsome _ _ _ hget
        · intro k r hr
          rw [recordEffect_journal]
          exact EffectJournal.record_recordOf hr _ _ _
      case isFalse => cases ht
    case h_2 => cases ht
  | resume slot clock =>
    simp only [step] at ht
    split at ht
    case h_1 actor result call await htask =>
      obtain ⟨r, -, rfl⟩ := map_eq_some_iff.mp ht
      exact h.settle slot actor r
    case h_2 => cases ht
  | answer slot answer clock =>
    simp only [step] at ht
    split at ht
    case h_1 actor suspension htask =>
      obtain ⟨r, -, rfl⟩ := map_eq_some_iff.mp ht
      exact h.settle slot actor r
    case h_2 => cases ht
  | reject slot =>
    simp only [step] at ht
    split at ht
    case h_1 =>
      cases ht
      simpa using h.put s.actors slot none (by simp) (fun _ hk => hk)
        (fun _ _ hk => hk) [] (by simp)
    case h_2 => cases ht

theorem step_recordOf {a : Action Actor Slot} (ht : step options s a = some t) {key : String}
    {r : EffectRecord NodeProviderActorEffectResult} (hr : s.journal.recordOf key = some r) :
    t.journal.recordOf key = some r := by
  have hsettle : ∀ slot actor (next : NodeProviderActor × Option Suspension),
      (s.settle options slot actor next).journal.recordOf key = some r := by
    rintro slot actor ⟨p, _ | suspension⟩
    · exact hr
    · cases suspension with
      | effect call await =>
        simp only [ProviderSystem.settle, journaled]
        obtain ⟨k, hnone, heq⟩ | ⟨hjournal, -⟩ :=
          claimEffect_cases (options actor) s.journal call await
        · have hne : key ≠ k := by
            rintro rfl
            simp [EffectJournal.recordOf, hnone] at hr
          rw [heq, EffectJournal.recordOf, OrderedMap.get_set_ne _ _ hne]
          exact hr
        · rw [hjournal]
          exact hr
      | observeExit | tailOutput | captured => exact hr
  cases a with
  | dispatch slot actor command clock =>
    simp only [step] at ht
    split at ht
    case h_1 => exact some.inj ht ▸ hsettle slot actor _
    case h_2 => cases ht
  | perform slot | reject slot =>
    simp only [step] at ht
    split at ht
    case h_1 => exact some.inj ht ▸ hr
    case h_2 => cases ht
  | performed slot outcome clock =>
    simp only [step] at ht
    split at ht
    case h_1 actor k call await htask =>
      split at ht
      case isTrue =>
        cases ht
        simp only [journaled, recordEffect_journal]
        exact EffectJournal.record_recordOf hr _ _ _
      case isFalse => cases ht
    case h_2 => cases ht
  | resume slot clock =>
    simp only [step] at ht
    split at ht
    case h_1 actor result call await htask =>
      obtain ⟨next, -, rfl⟩ := map_eq_some_iff.mp ht
      exact hsettle slot actor next
    case h_2 => cases ht
  | answer slot answer clock =>
    simp only [step] at ht
    split at ht
    case h_1 actor suspension htask =>
      obtain ⟨next, -, rfl⟩ := map_eq_some_iff.mp ht
      exact hsettle slot actor next
    case h_2 => cases ht

theorem exec_once {as : List (Action Actor Slot)} (ht : exec (step options) start as = some t) :
    Once t :=
  exec_invariant (fun _ _ _ hs h => step_once hs h) start_once ht

/-- However the commands of the actors interleave, the effect of a key is performed at most
once, its first record stays and is what is returned for it, and a claim or a record of
another kind leaves the journal as it is. -/
theorem effects_at_most_once {u : ProviderSystem Actor Slot} {as bs : List (Action Actor Slot)}
    (ht : exec (step options) start as = some t) (hu : exec (step options) t bs = some u) :
    (∀ key, u.history.count (.performed key) ≤ 1) ∧
    (∀ key r, t.journal.recordOf key = some r → u.journal.recordOf key = some r) ∧
    (∀ key result result', .returned key result ∈ u.history → .returned key result' ∈ u.history →
      result = result') ∧
    (∀ (journal : ProviderJournal) key kind entry, journal.entries.get key = some entry →
      entry.kind ≠ kind → (journal.claim key kind).1 = journal ∧
        ∀ r, (journal.record key kind r).1 = journal) := by
  have honce : Once u := exec_once (show exec (step options) start (as ++ bs) = some u by
    rw [exec_append, ht]
    exact hu)
  refine ⟨honce.once, ?_, ?_, ?_⟩
  · intro key r hr
    exact exec_invariant (I := fun v => v.journal.recordOf key = some r)
      (fun _ _ _ hs h => step_recordOf h hs) hr hu
  · intro key result result' hmem hmem'
    obtain ⟨r, hr, rfl⟩ := honce.returned key result hmem
    obtain ⟨r', hr', rfl⟩ := honce.returned key result' hmem'
    rw [hr] at hr'
    rw [some.inj hr']
  · intro journal key kind entry hget hkind
    rw [EffectJournal.claim_of_mismatch hget hkind]
    exact ⟨rfl, fun r => by rw [EffectJournal.record_of_mismatch hget hkind]⟩

end Preserved

section Example

open ProviderLoop

def racingRun : List (Action Bool Bool) :=
  [.dispatch false false (.acquireProvider exampleKey exampleKey) exampleClock,
    .dispatch true true (.acquireProvider exampleKey exampleKey) exampleClock,
    .perform false, .resume true exampleClock,
    .performed false (.threw "no such directory") exampleClock]

theorem racingRun_at_most_once : ∃ u : ProviderSystem Bool Bool,
    exec (step fun _ => exampleOptions) start racingRun = some u ∧ u.history ≠ [] ∧
      ∀ key, u.history.count (.performed key) ≤ 1 := by
  have hrun : ((exec (step fun _ => exampleOptions) (start : ProviderSystem Bool Bool)
      racingRun).map fun u => u.history.length) = some 2 := by decide +kernel
  obtain ⟨u, hu, hlength⟩ := map_eq_some_iff.mp hrun
  refine ⟨u, hu, ?_, (effects_at_most_once hu (show exec _ u [] = some u from rfl)).1⟩
  rintro hnil
  rw [hnil] at hlength
  cases hlength

end Example

end ProviderSystem

end ActorWeb
