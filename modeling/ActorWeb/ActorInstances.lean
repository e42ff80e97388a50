import Mathlib.Data.List.Basic
import Mathlib.Logic.Function.Basic

/-! The actor instances of a node: its ref cache, its in-flight spawns and the system's directory. -/

namespace ActorWeb.ActorInstances

open List Option

inductive Phase
  | looking
  | looked (found : Bool)
  | spawning
  | spawned
  | failed
  | resolved
  | rejected

def Phase.holdsRef : Phase → Bool
  | .looked true | .spawned | .resolved => true
  | _ => false

/-- A `spawnPromise`; an address of the node is given by the id that is parsed from it. -/
structure Task where
  id : String
  phase : Phase

/-- `pending` are the cache keys of the calls that started a task and have not settled. -/
structure Node where
  alive : String → Bool
  actors : String → Option String := fun _ => none
  inFlightActors : String → Option Task := fun _ => none
  pending : List String := []

/-- An `instance()` call; `id` is none where resolving its address throws. -/
structure Request where
  actorKey : String
  parameterized : Bool
  id : Option String

def cacheKey (r : Request) (id : String) : String :=
  if r.parameterized then r.actorKey ++ ":" ++ id else r.actorKey

inductive Action
  | call (r : Request)
  | lookup (key : String) (succeeds : Bool)
  | spawn (key : String) (succeeds : Bool)
  | resume (key : String)
  | settle (key : String)
  | stop (id : String)

def setTask (s : Node) (key : String) (task : Task) : Node :=
  { s with inFlightActors := Function.update s.inFlightActors key (some task) }

def spawnActorWebActorInstance (s : Node) (r : Request) : Node :=
  match r.id with
  | none => s
  | some id =>
    if (s.actors (cacheKey r id)).isSome || (s.inFlightActors (cacheKey r id)).isSome then s
    else
      setTask { s with pending := s.pending ++ [cacheKey r id] } (cacheKey r id) ⟨id, .looking⟩

def cache (s : Node) (key id : String) : Node :=
  setTask { s with actors := Function.update s.actors key (some id) } key ⟨id, .resolved⟩

/-- A step of the task under a key, by the phase it is in. -/
def onTask (s : Node) (key : String) (next : Task → Option Node) : Option Node :=
  (s.inFlightActors key).bind next

def step (s : Node) : Action → Option Node
  | .call r => some (spawnActorWebActorInstance s r)
  | .lookup key succeeds => onTask s key fun task =>
    match task.phase with
    | .looking =>
      some (setTask s key ⟨task.id, if succeeds then .looked (s.alive task.id) else .failed⟩)
    | _ => none
  | .spawn key succeeds => onTask s key fun task =>
    match task.phase, succeeds with
    | .spawning, true =>
      some (setTask { s with alive := Function.update s.alive task.id true } key ⟨task.id, .spawned⟩)
    | .spawning, false => some (setTask s key ⟨task.id, .failed⟩)
    | _, _ => none
  | .resume key => onTask s key fun task =>
    match task.phase with
    | .looked true | .spawned => some (cache s key task.id)
    | .looked false => some (setTask s key ⟨task.id, .spawning⟩)
    | .failed => some (setTask s key ⟨task.id, .rejected⟩)
    | _ => none
  | .settle key => onTask s key fun task =>
    match task.phase with
    | .resolved | .rejected =>
      some { s with
        inFlightActors := Function.update s.inFlightActors key none, pending := s.pending.erase key }
    | _ => none
  | .stop id => some { s with alive := Function.update s.alive id false }

def run (alive : String → Bool) (actions : List Action) : Option Node :=
  actions.foldlM step { alive }

/-- What a call finds: nothing, or a ref of its own address that is not stopped. -/
structure Served (s : Node) (key id : String) : Prop where
  cached : ∀ j, s.actors key = some j → j = id ∧ s.alive id
  joined : s.actors key = none → ∀ task, s.inFlightActors key = some task →
    task.id = id ∧ (task.phase.holdsRef → s.alive id)

structure Lawful (s : Node) (a : Action) : Prop where
  served : ∀ r id, a = .call r → r.id = some id → Served s (cacheKey r id) id
  starts : ∀ key task, a = .resume key → s.inFlightActors key = some task →
    task.phase = .looked false → s.alive task.id = false
  single : ∀ k l t u, s.inFlightActors k = some t → s.inFlightActors l = some u →
    t.phase = .spawning → u.phase = .spawning → t.id = u.id → k = l
  emptied : s.pending = [] → ∀ key, s.inFlightActors key = none

/-- A call meets no other address under its cache key, no call for its address in progress under
another key, and no ref that was stopped. -/
def Regular (s : Node) (a : Action) : Prop :=
  ∀ r id, a = .call r → r.id = some id →
    (∀ j, s.actors (cacheKey r id) = some j → j = id ∧ s.alive id) ∧
    ∀ key task, s.inFlightActors key = some task → (key = cacheKey r id ↔ task.id = id) ∧
      (task.id = id → task.phase.holdsRef → s.alive id)

structure Inv (s : Node) : Prop where
  unique : ∀ k l t u, s.inFlightActors k = some t → s.inFlightActors l = some u → t.id = u.id → k = l
  dead : ∀ k t, s.inFlightActors k = some t → t.phase = .looked false ∨ t.phase = .spawning →
    s.alive t.id = false
  pending : ∀ k t, s.inFlightActors k = some t → k ∈ s.pending

section

variable {s t : Node} {a : Action} {key : String} {task : Task}

theorem Inv.lawful (h : Inv s) (ha : Regular s a) : Lawful s a := by
  refine ⟨fun r id hr hid => ?_, fun key task _ ht hphase => h.dead key task ht (.inl hphase),
    fun k l t u ht hu _ _ hid => h.unique k l t u ht hu hid, fun hempty key => ?_⟩
  · obtain ⟨hcached, htasks⟩ := ha r id hr hid
    refine ⟨hcached, fun _ task ht => ?_⟩
    have hown := (htasks _ task ht).1.mp rfl
    exact ⟨hown, (htasks _ task ht).2 hown⟩
  · by_contra hne
    obtain ⟨t, ht⟩ := ne_none_iff_exists'.mp hne
    simpa [hempty] using h.pending key t ht

theorem setTask_cases {k : String} {v : Task} (h : (setTask s key task).inFlightActors k = some v) :
    k = key ∧ v = task ∨ k ≠ key ∧ s.inFlightActors k = some v := by
  by_cases hk : k = key
  · exact .inl ⟨hk, by simpa [setTask, hk] using h.symm⟩
  · exact .inr ⟨hk, by simpa [setTask, hk] using h⟩

theorem Inv.put (h : Inv s) {u : Node} (htasks : u.inFlightActors = s.inFlightActors)
    (hown : ∀ k v, k ≠ key → s.inFlightActors k = some v → v.id ≠ task.id)
    (halive : ∀ id, u.alive id = true → s.alive id = true ∨ id = task.id)
    (hdead : task.phase = .looked false ∨ task.phase = .spawning → u.alive task.id = false)
    (hpending : ∀ k, k ∈ s.pending ∨ k = key → k ∈ u.pending) : Inv (setTask u key task) := by
  constructor
  · intro k l v w hv hw hid
    rcases setTask_cases hv with ⟨rfl, rfl⟩ | ⟨hk, hv'⟩ <;>
      rcases setTask_cases hw with ⟨rfl, rfl⟩ | ⟨hl, hw'⟩
    · rfl
    · exact absurd hid.symm (hown l w hl (htasks ▸ hw'))
    · exact absurd hid (hown k v hk (htasks ▸ hv'))
    · exact h.unique k l v w (htasks ▸ hv') (htasks ▸ hw') hid
  · intro k v hv hphase
    rcases setTask_cases hv with ⟨rfl, rfl⟩ | ⟨hk, hv⟩
    · exact hdead hphase
    · refine Bool.eq_false_iff.mpr fun hlives => ?_
      rcases halive v.id hlives with hs | hid
      · exact absurd hs (Bool.eq_false_iff.mp (h.dead k v (htasks ▸ hv) hphase))
      · exact hown k v hk (htasks ▸ hv) hid
  · intro k v hv
    rcases setTask_cases hv with ⟨rfl, rfl⟩ | ⟨hk, hv⟩
    · exact hpending k (.inr rfl)
    · exact hpending k (.inl (h.pending k v (htasks ▸ hv)))

theorem Inv.advance (h : Inv s) (ht : s.inFlightActors key = some task) {phase : Phase} {u : Node}
    (htasks : u.inFlightActors = s.inFlightActors) (hpending : u.pending = s.pending)
    (halive : ∀ id, u.alive id = true → s.alive id = true ∨ id = task.id)
    (hdead : phase = .looked false ∨ phase = .spawning → u.alive task.id = false) :
    Inv (setTask u key ⟨task.id, phase⟩) := by
  refine h.put htasks (fun k v hk hv hid => hk (h.unique k key v task hv ht hid)) halive hdead
    fun k hk => ?_
  rw [hpending]
  exact hk.elim id fun heq => heq ▸ h.pending key task ht

theorem Inv.next (h : Inv s) (ha : Regular s a) (hstep : step s a = some t) : Inv t := by
  cases a with
  | call r =>
    obtain rfl := some.inj hstep
    unfold spawnActorWebActorInstance
    split
    · exact h
    case h_2 id hid =>
      split
      · exact h
      · have htasks := (ha r id rfl hid).2
        exact h.put rfl (fun k v hk hv heq => hk ((htasks k v hv).1.mpr heq)) (fun _ => .inl)
          (by simp) (by simp)
  | stop id =>
    obtain rfl := some.inj hstep
    refine ⟨h.unique, fun k v hv hphase => ?_, h.pending⟩
    by_cases hid : v.id = id
    · simp [hid]
    · simpa [hid] using h.dead k v hv hphase
  | settle key =>
    obtain ⟨task, ht, hstep⟩ := bind_eq_some_iff.mp hstep
    have hold : ∀ k v, Function.update s.inFlightActors key none k = some v →
        k ≠ key ∧ s.inFlightActors k = some v := by
      intro k v hv
      by_cases hk : k = key
      · simp [hk] at hv
      · exact ⟨hk, by simpa [hk] using hv⟩
    split at hstep
    case h_1 | h_2 =>
      obtain rfl := some.inj hstep
      exact ⟨fun k l v w hv hw => h.unique k l v w (hold k v hv).2 (hold l w hw).2,
        fun k v hv => h.dead k v (hold k v hv).2, fun k v hv =>
          (mem_erase_of_ne (hold k v hv).1).mpr (h.pending k v (hold k v hv).2)⟩
    · cases hstep
  | lookup key succeeds =>
    obtain ⟨task, ht, hstep⟩ := bind_eq_some_iff.mp hstep
    split at hstep
    · obtain rfl := some.inj hstep
      exact h.advance ht rfl rfl (fun _ => .inl) (by cases succeeds <;> simp)
    · cases hstep
  | spawn key succeeds =>
    obtain ⟨task, ht, hstep⟩ := bind_eq_some_iff.mp hstep
    split at hstep
    · obtain rfl := some.inj hstep
      refine h.advance ht rfl rfl (fun id hid => ?_) (by simp)
      by_cases heq : id = task.id
      · exact .inr heq
      · exact .inl (by simpa [heq] using hid)
    · obtain rfl := some.inj hstep
      exact h.advance ht rfl rfl (fun _ => .inl) (by simp)
    · cases hstep
  | resume key =>
    obtain ⟨task, ht, hstep⟩ := bind_eq_some_iff.mp hstep
    split at hstep
    case h_3 hphase =>
      obtain rfl := some.inj hstep
      exact h.advance ht rfl rfl (fun _ => .inl) fun _ => h.dead key task ht (.inl hphase)
    case h_5 => cases hstep
    all_goals
      obtain rfl := some.inj hstep
      exact h.advance ht rfl rfl (fun _ => .inl) (by simp)

theorem Inv.run {actions : List Action} (h : Inv s) (hrun : actions.foldlM step s = some t)
    (hregular : ∀ p a u, p ++ [a] <+: actions → p.foldlM step s = some u → Regular u a) :
    Inv t := by
  induction actions generalizing s with
  | nil => exact some.inj hrun ▸ h
  | cons a actions ih =>
    obtain ⟨u, hstep, hrest⟩ := bind_eq_some_iff.mp hrun
    refine ih (h.next (hregular [] a s ⟨actions, rfl⟩ rfl) hstep) hrest fun p b v hp hv => ?_
    refine hregular (a :: p) b v (prefix_cons_inj a |>.mpr hp) ?_
    exact bind_eq_some_iff.mpr ⟨u, hstep, hv⟩

end

def EachStep (P : Node → Action → Prop) (alive : String → Bool) (actions : List Action) : Prop :=
  ∀ p a u, p ++ [a] <+: actions → run alive p = some u → P u a

def stopAndAsk : List Action :=
  [.call ⟨"worker", true, some "a"⟩, .lookup "worker:a" true, .resume "worker:a", .settle "worker:a",
    .stop "a", .call ⟨"worker", true, some "a"⟩]

end ActorWeb.ActorInstances
