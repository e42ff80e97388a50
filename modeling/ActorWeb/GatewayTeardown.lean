import ActorWeb.GatewayPersist

namespace ActorWeb.Gateway.Persistence

open Option hiding attach

open List Function Transition

section Teardown

variable {replayBufferSize : Int} {h h' : PersistHub P} {id : Nat} {p : Persist P}

def Terminated (h : PersistHub P) (connectionId : String) : Prop :=
  (h.connections connectionId).any StreamTable.terminated = true

def holdsQueue (h : PersistHub P) (token : Nat) : Bool :=
  (h.streams[token]?).any fun s => (h.replayPersistQueue s.key).any fun id =>
    (h.persists[id]?).any fun p => p.replayPersistenceToken = token

/-- A connection is terminated when all its waiting persists are those of subscribed streams, each
of which made the last persist under its key; and no stream persists after one of an aborted token. -/
def Guard (h : PersistHub P) : PersistAction P → Prop
  | .terminate connectionId => ∀ c ∈ h.connections connectionId,
      (∀ p ∈ h.persists, p.stage = .queued → p.connectionId = connectionId →
        p.replayPersistenceToken ∈ c.streams.values) ∧
      ∀ token ∈ c.streams.values, holdsQueue h token = true
  | .emit token _ => ∀ s ∈ h.streams[token]?, ∀ id ∈ h.replayPersistQueue s.key,
      ∀ p ∈ h.persists[id]?, p.replayPersistenceToken ∉ h.abortedReplayPersistTokens
  | _ => True

instance (h : PersistHub P) : (a : PersistAction P) → Decidable (Guard h a)
  | .terminate connectionId => inferInstanceAs (Decidable (∀ c ∈ h.connections connectionId,
      (∀ p ∈ h.persists, p.stage = .queued → p.connectionId = connectionId →
        p.replayPersistenceToken ∈ c.streams.values) ∧
      ∀ token ∈ c.streams.values, holdsQueue h token = true))
  | .emit token _ => inferInstanceAs (Decidable (∀ s ∈ h.streams[token]?,
      ∀ id ∈ h.replayPersistQueue s.key, ∀ p ∈ h.persists[id]?,
        p.replayPersistenceToken ∉ h.abortedReplayPersistTokens))
  | .attach _ => .isTrue trivial
  | .cleanup _ _ => .isTrue trivial
  | .create _ _ _ _ _ _ => .isTrue trivial
  | .register _ => .isTrue trivial
  | .discard _ => .isTrue trivial
  | .run _ => .isTrue trivial
  | .settle _ => .isTrue trivial
  | .finalise _ => .isTrue trivial

/-- What waits for a terminated connection is skipped, and an aborted token will be forgotten: the
queue of its key holds a persist of it. -/
structure Tidy (h : PersistHub P) : Prop where
  skipped : ∀ p ∈ h.persists, p.stage = .queued → Terminated h p.connectionId →
    p.replayPersistenceToken ∈ h.abortedReplayPersistTokens
  held : ∀ token ∈ h.abortedReplayPersistTokens, ∃ (key : String) (id : Nat) (p : Persist P),
    h.replayPersistQueue key = some id ∧ h.persists[id]? = some p ∧
    p.replayPersistenceToken = token

theorem tidy_init : Tidy (PersistHub.init (P := P)) where
  skipped _ h := absurd h not_mem_nil
  held _ h := absurd h not_mem_nil

theorem Tidy.moved (ht : Tidy h) {connectionId : String} {before : Option StreamTable}
    {c : StreamTable} {streams : List (ReplayStream P)}
    (hbefore : h.connections connectionId = before)
    (hterminated : c.terminated = true → before.any StreamTable.terminated = true) : Tidy { h with
      connections := update h.connections connectionId (some c)
      streams := streams } where
  skipped p hp hqueued hended := by
    refine ht.skipped p hp hqueued ?_
    unfold Terminated at hended ⊢
    by_cases hconnection : p.connectionId = connectionId
    · dsimp only at hended
      rw [hconnection, update_self] at hended
      rw [hconnection, hbefore]
      exact hterminated hended
    · dsimp only at hended
      rwa [update_of_ne hconnection] at hended
  held := ht.held

theorem Tidy.shut (ht : Tidy h) {connectionId : String}
    (hshut : h.shutdownConnection connectionId = some h')
    (hg : Guard h (.terminate connectionId)) : Tidy h' := by
  obtain ⟨c, hc, hshut⟩ := bind_eq_some_iff.mp hshut
  obtain ⟨hwaiting, hheld⟩ := hg c hc
  split at hshut
  case isTrue => cases hshut
  case isFalse =>
    cases hshut
    refine ⟨fun p hp hqueued hended => ?_, fun token htoken => ?_⟩
    · by_cases hconnection : p.connectionId = connectionId
      · exact mem_append_right _ (hwaiting p hp hqueued hconnection)
      · refine mem_append_left _ (ht.skipped p hp hqueued ?_)
        unfold Terminated at hended ⊢
        dsimp only at hended
        rwa [update_of_ne hconnection] at hended
    · obtain htoken | htoken := mem_append.mp htoken
      · exact ht.held token htoken
      · have hqueue := hheld token htoken
        obtain ⟨s, -, hqueue⟩ := (Option.any_eq_true _ _).mp hqueue
        obtain ⟨id, hid, hqueue⟩ := (Option.any_eq_true _ _).mp hqueue
        obtain ⟨p, hp, hsame⟩ := (Option.any_eq_true _ _).mp hqueue
        exact ⟨s.key, id, p, hid, hp, of_decide_eq_true hsame⟩

theorem Tidy.emitted (ht : Tidy h) {token : Nat} {draft : FrameDraft P} {s : ReplayStream P}
    (he : Emitted replayBufferSize h token draft s h') (hg : Guard h (.emit token draft)) :
    Tidy h' := by
  obtain ⟨hstream, hcurrent, -, rfl⟩ := he
  refine ⟨fun p hp hqueued hended => ?_, fun token' htoken => ?_⟩
  · obtain hp | hp := mem_append.mp hp
    · exact ht.skipped p hp hqueued hended
    · rw [mem_singleton.mp hp] at hended
      obtain ⟨c, hc, hlive⟩ := (Option.any_eq_true _ _).mp hcurrent
      obtain ⟨c', hc', hended⟩ := (Option.any_eq_true _ _).mp hended
      obtain rfl := some.inj (hc.symm.trans hc')
      rw [hended] at hlive
      cases hlive
  · obtain ⟨key, id, p, hid, hp, hsame⟩ := ht.held token' htoken
    have hkey : key ≠ s.key := by
      rintro rfl
      exact hg s hstream id hid p hp (hsame ▸ htoken)
    refine ⟨key, id, p, ?_, getElem?_concat_of hp, hsame⟩
    exact (update_of_ne hkey _ _).trans hid

theorem queued_of_staged (hp : h.persists[id]? = some p) (stage : Stage) (hstage : stage ≠ .queued)
    {q : Persist P} (hq : q ∈ h.persists.set id { p with stage }) (hqueued : q.stage = .queued) :
    ∃ i, i ≠ id ∧ h.persists[i]? = some q := by
  obtain ⟨i, hi⟩ := mem_iff_getElem?.mp hq
  obtain ⟨before, hbefore, -, ⟨-, -, hnew⟩ | ⟨hne, rfl⟩⟩ := getElem?_setStage hp hi
  · exact absurd (hnew ▸ hqueued) hstage
  · exact ⟨i, hne, hbefore⟩

theorem Tidy.setStage (ht : Tidy h) (hp : h.persists[id]? = some p) (stage : Stage)
    (hstage : stage ≠ .queued) (stores : List Nat) :
    Tidy { h.setStage id p stage with stores := stores } where
  skipped q hq hqueued hended := by
    obtain ⟨i, -, hbefore⟩ := queued_of_staged hp stage hstage hq hqueued
    exact ht.skipped q (mem_of_getElem? hbefore) hqueued hended
  held token htoken := by
    obtain ⟨key, i, q, hi, hq, hsame⟩ := ht.held token htoken
    obtain ⟨q', hq', heq, -⟩ := setStage_getElem? stage hp hq
    refine ⟨key, i, q', hi, hq', ?_⟩
    rw [heq]
    exact hsame

theorem Tidy.staged (hs : Sound replayBufferSize h) (ht : Tidy h) (hp : h.persists[id]? = some p)
    (hstaged : Staged h id p h') : Tidy h' := by
  cases hstaged with
  | skipped | settled => exact ht.setStage hp .settled nofun h.stores
  | called => exact ht.setStage hp .started nofun (h.stores ++ [id])
  | passed => exact ht.setStage hp .finalised nofun h.stores
  | forgotten hsettled hlast =>
    refine ⟨fun q hq hqueued hended => ?_, fun token htoken => ?_⟩
    · obtain ⟨i, hne, hbefore⟩ := queued_of_staged hp .finalised nofun hq hqueued
      refine mem_filter.mpr ⟨ht.skipped q (mem_of_getElem? hbefore) hqueued hended,
        decide_eq_true fun hsame => ?_⟩
      -- a persist of the same stream is older, and settled, or newer than the last of its key
      obtain ⟨s, hstream, hkey, -⟩ := hs.streamed i q hbefore
      obtain ⟨s', hstream', hkey', -⟩ := hs.streamed id p hp
      rw [hsame] at hstream
      obtain rfl := some.inj (hstream.symm.trans hstream')
      obtain hlt | heq | hgt := Nat.lt_trichotomy i id
      · have hdone := hs.chained.first id p hp (by rw [hsettled]; exact nofun) i q hlt hbefore
          (hkey.symm.trans hkey')
        rw [hqueued] at hdone
        cases hdone
      · exact hne heq
      · obtain ⟨-, -, -, -, hlater⟩ := hs.chained.tail p.key id hlast
        exact hlater i q hgt hbefore (hkey.symm.trans hkey')
    · obtain ⟨htoken, hother⟩ := mem_filter.mp htoken
      obtain ⟨key, i, q, hi, hq, hsame⟩ := ht.held token htoken
      have hne : i ≠ id := by
        rintro rfl
        obtain rfl := some.inj (hp.symm.trans hq)
        exact of_decide_eq_true hother hsame.symm
      have hkey : key ≠ p.key := by
        rintro rfl
        exact hne (some.inj (hi.symm.trans hlast))
      obtain ⟨q', hq', heq, -⟩ := setStage_getElem? .finalised hp hq
      refine ⟨key, i, q', (update_of_ne hkey _ _).trans hi, hq', ?_⟩
      rw [heq]
      exact hsame

theorem Tidy.step (hs : Sound replayBufferSize h) (ht : Tidy h) {a : PersistAction P}
    (hstep : h.step replayBufferSize a = some h') (hg : Guard h a) : Tidy h' := by
  cases a with
  | attach connectionId =>
    simp only [PersistHub.step] at hstep
    split at hstep
    case isFalse => cases hstep
    case isTrue =>
      cases hstep
      exact ht.moved rfl fun hended => by cases hended
  | cleanup connectionId streamId =>
    obtain ⟨c, hc, hclean⟩ := bind_eq_some_iff.mp hstep
    split at hclean
    case isFalse => cases hclean
    case isTrue =>
      cases hclean
      exact ht.moved hc id
  | create connectionId streamId replaySessionId replayStorageStreamId mode restored =>
    obtain ⟨c, hc, hcreate⟩ := bind_eq_some_iff.mp hstep
    split at hcreate
    case isFalse => cases hcreate
    case isTrue =>
      cases hcreate
      exact ht.moved hc id
  | emit token draft =>
    obtain ⟨s, he⟩ := emit_emitted hstep
    exact ht.emitted he hg
  | register token =>
    obtain ⟨s, hstream, hregister⟩ := bind_eq_some_iff.mp hstep
    obtain ⟨c, hc, hregister⟩ := bind_eq_some_iff.mp hregister
    split at hregister
    case isFalse => cases hregister
    case isTrue =>
      cases hregister
      exact ht.moved hc id
  | discard token =>
    obtain ⟨s, hstream, hdiscard⟩ := bind_eq_some_iff.mp hstep
    obtain ⟨c, hc, hdiscard⟩ := bind_eq_some_iff.mp hdiscard
    split at hdiscard
    case isFalse => cases hdiscard
    case isTrue =>
      cases hdiscard
      exact ht.moved hc id
  | terminate connectionId => exact ht.shut hstep hg
  | run id =>
    obtain ⟨p, hp, hstaged⟩ := run_staged hstep
    exact ht.staged hs hp hstaged
  | settle id =>
    obtain ⟨p, hp, hstaged⟩ := settle_staged hstep
    exact ht.staged hs hp hstaged
  | finalise id =>
    obtain ⟨p, hp, hstaged⟩ := finalise_staged hstep
    exact ht.staged hs hp hstaged

end Teardown

section Runs

variable {replayBufferSize : Int} {h h' : PersistHub P}

def NoOverlap (h : PersistHub P) : Prop :=
  ∀ (i j : Nat) (p q : Persist P), h.persists[i]? = some p → h.persists[j]? = some q →
    p.stage = .started → q.stage = .started → p.key = q.key → i = j

def LaterBuffers (h : PersistHub P) : Prop :=
  h.stores.Pairwise fun i j => ∀ p q : Persist P, h.persists[i]? = some p →
    h.persists[j]? = some q → p.replayPersistenceToken = q.replayPersistenceToken →
    p.sequence < q.sequence

/-- A step that calls `storeFrames` does so for a connection that is not terminated. -/
def StoresLive (h h' : PersistHub P) : Prop :=
  ∀ (id : Nat) (p : Persist P), h'.stores = h.stores ++ [id] → h.persists[id]? = some p →
    ¬ Terminated h p.connectionId

def Finalised (h : PersistHub P) : Prop := ∀ p ∈ h.persists, p.stage = .finalised

instance (h : PersistHub P) : Decidable (Finalised h) :=
  inferInstanceAs (Decidable (∀ p ∈ h.persists, p.stage = .finalised))

theorem Sound.noOverlap (hs : Sound replayBufferSize h) : NoOverlap h := by
  have hbefore : ∀ (i j : Nat) (p q : Persist P), h.persists[i]? = some p →
      h.persists[j]? = some q → p.stage = .started → q.stage = .started → p.key = q.key →
      ¬ i < j := by
    intro i j p q hp hq hpstarted hqstarted hkey hlt
    have hdone := hs.chained.first j q hq (by rw [hqstarted]; exact nofun) i p hlt hp hkey
    rw [hpstarted] at hdone
    cases hdone
  intro i j p q hp hq hpstarted hqstarted hkey
  have hge := hbefore i j p q hp hq hpstarted hqstarted hkey
  have hle := hbefore j i q p hq hp hqstarted hpstarted hkey.symm
  omega

theorem Sound.laterBuffers (hs : Sound replayBufferSize h) : LaterBuffers h := by
  refine hs.ordered.imp fun {i j} hlt p q hp hq htoken => ?_
  obtain ⟨s, hstream, hkey, -⟩ := hs.streamed i p hp
  obtain ⟨s', hstream', hkey', -⟩ := hs.streamed j q hq
  rw [htoken] at hstream
  obtain rfl := some.inj (hstream.symm.trans hstream')
  exact hs.later i j p q (hlt p q hp hq (hkey.symm.trans hkey')) hp hq htoken

theorem Sound.queue_empty (hs : Sound replayBufferSize h) (hfinal : Finalised h) (key : String) :
    h.replayPersistQueue key = none := by
  cases hqueue : h.replayPersistQueue key with
  | none => rfl
  | some id =>
    obtain ⟨p, hp, -, hstage, -⟩ := hs.chained.tail key id hqueue
    exact absurd (hfinal p (mem_of_getElem? hp)) hstage

theorem Tidy.aborted_empty (hs : Sound replayBufferSize h) (ht : Tidy h) (hfinal : Finalised h) :
    h.abortedReplayPersistTokens = [] := by
  refine eq_nil_iff_forall_not_mem.mpr fun token htoken => ?_
  obtain ⟨key, id, p, hid, -⟩ := ht.held token htoken
  rw [hs.queue_empty hfinal key] at hid
  cases hid

theorem staged_storesLive (ht : Tidy h) {id : Nat} {p : Persist P} (hp : h.persists[id]? = some p)
    (hstaged : Staged h id p h') : StoresLive h h' := by
  intro i q hstores hq hended
  cases hstaged with
  | called hqueued hready hlive =>
    obtain rfl := singleton_inj.mp (append_cancel_left hstores)
    obtain rfl := some.inj (hp.symm.trans hq)
    exact hlive (ht.skipped p (mem_of_getElem? hp) hqueued hended)
  | skipped | settled | forgotten | passed => simp [PersistHub.setStage] at hstores

theorem step_storesLive (ht : Tidy h) {a : PersistAction P}
    (hstep : h.step replayBufferSize a = some h') : StoresLive h h' := by
  have hsame : h'.stores = h.stores → StoresLive h h' := by
    intro heq id p hstores
    rw [heq] at hstores
    simp at hstores
  cases a with
  | attach connectionId =>
    simp only [PersistHub.step] at hstep
    split at hstep
    case isFalse => cases hstep
    case isTrue => exact hsame (some.inj hstep ▸ rfl)
  | cleanup connectionId streamId =>
    obtain ⟨c, -, hclean⟩ := bind_eq_some_iff.mp hstep
    split at hclean
    case isFalse => cases hclean
    case isTrue => exact hsame (some.inj hclean ▸ rfl)
  | create connectionId streamId replaySessionId replayStorageStreamId mode restored =>
    obtain ⟨c, -, hcreate⟩ := bind_eq_some_iff.mp hstep
    split at hcreate
    case isFalse => cases hcreate
    case isTrue => exact hsame (some.inj hcreate ▸ rfl)
  | emit token draft =>
    obtain ⟨s, -, -, -, rfl⟩ := emit_emitted hstep
    exact hsame rfl
  | register token =>
    obtain ⟨s, -, hregister⟩ := bind_eq_some_iff.mp hstep
    obtain ⟨c, -, hregister⟩ := bind_eq_some_iff.mp hregister
    split at hregister
    case isFalse => cases hregister
    case isTrue => exact hsame (some.inj hregister ▸ rfl)
  | discard token =>
    obtain ⟨s, -, hdiscard⟩ := bind_eq_some_iff.mp hstep
    obtain ⟨c, -, hdiscard⟩ := bind_eq_some_iff.mp hdiscard
    split at hdiscard
    case isFalse => cases hdiscard
    case isTrue => exact hsame (some.inj hdiscard ▸ rfl)
  | terminate connectionId =>
    obtain ⟨c, -, hshut⟩ := bind_eq_some_iff.mp hstep
    split at hshut
    case isTrue => cases hshut
    case isFalse => exact hsame (some.inj hshut ▸ rfl)
  | run id =>
    obtain ⟨p, hp, hstaged⟩ := run_staged hstep
    exact staged_storesLive ht hp hstaged
  | settle id =>
    obtain ⟨p, hp, hstaged⟩ := settle_staged hstep
    exact staged_storesLive ht hp hstaged
  | finalise id =>
    obtain ⟨p, hp, hstaged⟩ := finalise_staged hstep
    exact staged_storesLive ht hp hstaged

/-- Calls under one key never overlap, each stores a later buffer of its stream, and the queue
empties. As long as every connection is terminated as `Guard` says, no call is made for a terminated
one, and no aborted token stays behind. -/
theorem replay_persistence (replayBufferSize : Int) {actions : List (PersistAction P)}
    {h : PersistHub P}
    (hrun : exec (PersistHub.step replayBufferSize) PersistHub.init actions = some h) :
    NoOverlap h ∧ LaterBuffers h ∧
    (∀ p ∈ h.persists, 0 < replayBufferSize →
      p.frames.getLast?.map ReplayFrame.sequence = some p.sequence) ∧
    (Finalised h → ∀ key, h.replayPersistQueue key = none) ∧
    (Guarded (PersistHub.step replayBufferSize) Guard PersistHub.init actions →
      Along (PersistHub.step replayBufferSize) (fun h _ h' => StoresLive h h') PersistHub.init
        actions ∧
      (Finalised h → h.abortedReplayPersistTokens = [])) := by
  have hs : Sound replayBufferSize h :=
    exec_invariant (I := Sound replayBufferSize) (fun _ _ _ hs hstep => hs.step hstep) sound_init hrun
  refine ⟨hs.noOverlap, hs.laterBuffers, hs.buffered, hs.queue_empty, fun hG => ⟨?_, fun hfinal => ?_⟩⟩
  · refine along_of_guarded (I := fun h => Sound replayBufferSize h ∧ Tidy h) ?_
      ⟨sound_init, tidy_init⟩ hG
    intro h a h' hI hg hstep
    exact ⟨⟨hI.1.step hstep, hI.2.step hI.1 hstep hg⟩, step_storesLive hI.2 hstep⟩
  · have ht : Sound replayBufferSize h ∧ Tidy h :=
      guarded_invariant (I := fun h => Sound replayBufferSize h ∧ Tidy h)
        (fun _ _ _ hI hstep hg => ⟨hI.1.step hstep, hI.2.step hI.1 hstep hg⟩)
        ⟨sound_init, tidy_init⟩ hG hrun
    exact ht.2.aborted_empty hs hfinal

/-- A stream of a connection, with the first frame in storage and the second one waiting. -/
def storingRun : List (PersistAction Unit) :=
  [.attach "c", .create "c" "s" "session" "stored" .full [], .register 0,
    .emit 0 (.event ⟨"a", ()⟩), .run 0, .emit 0 (.event ⟨"a", ()⟩)]

theorem replay_persistence_skipped : ∃ h : PersistHub Unit,
    exec (PersistHub.step 4) PersistHub.init (storingRun ++
      [.terminate "c", .settle 0, .finalise 0, .run 1, .finalise 1]) = some h ∧
    h.stores = [0] ∧ Finalised h ∧ h.abortedReplayPersistTokens = [] := by
  have hrun : (exec (PersistHub.step 4) PersistHub.init (storingRun ++
      [.terminate "c", .settle 0, .finalise 0, .run 1, .finalise 1])).any (fun h =>
      decide (h.stores = [0] ∧ Finalised h)) = true := by
    decide +kernel
  obtain ⟨h, hh, hstate⟩ := (Option.any_eq_true _ _).mp hrun
  obtain ⟨hstores, hfinal⟩ := of_decide_eq_true hstate
  obtain ⟨-, -, -, -, hguarded⟩ := replay_persistence 4 hh
  exact ⟨h, hh, hstores, hfinal, (hguarded (by decide +kernel)).2 hfinal⟩

/-- The token of a stream that has nothing to store is never forgotten, and the frame that an
unsubscribed stream still has to store is stored after its connection was terminated. -/
theorem termination_leaks :
    (∃ h : PersistHub Unit, exec (PersistHub.step 4) PersistHub.init
        [.attach "c", .create "c" "s" "session" "stored" .full [], .register 0, .terminate "c"] =
          some h ∧ Finalised h ∧ h.abortedReplayPersistTokens = [0]) ∧
    ∃ h h' : PersistHub Unit, exec (PersistHub.step 4) PersistHub.init
        (storingRun ++ [.cleanup "c" "s", .terminate "c", .settle 0, .finalise 0]) = some h ∧
      h.step 4 (.run 1) = some h' ∧ ¬ StoresLive h h' := by
  constructor
  · have hrun : (exec (PersistHub.step (P := Unit) 4) PersistHub.init
        [.attach "c", .create "c" "s" "session" "stored" .full [], .register 0,
          .terminate "c"]).any (fun h => decide (Finalised h ∧
            h.abortedReplayPersistTokens = [0])) = true := by
      decide +kernel
    obtain ⟨h, hh, hstate⟩ := (Option.any_eq_true _ _).mp hrun
    exact ⟨h, hh, of_decide_eq_true hstate⟩
  · have hrun : (exec (PersistHub.step 4) PersistHub.init
        (storingRun ++ [.cleanup "c" "s", .terminate "c", .settle 0, .finalise 0])).any (fun h =>
        (h.step 4 (.run 1)).any fun h' => decide (h'.stores = h.stores ++ [1]) &&
          (h.persists[1]?).any fun p => (h.connections p.connectionId).any StreamTable.terminated) =
          true := by
      decide +kernel
    obtain ⟨h, hh, hnext⟩ := (Option.any_eq_true _ _).mp hrun
    obtain ⟨h', hh', hstate⟩ := (Option.any_eq_true _ _).mp hnext
    obtain ⟨hstores, hended⟩ := Bool.and_eq_true_iff.mp hstate
    obtain ⟨p, hp, hended⟩ := (Option.any_eq_true _ _).mp hended
    exact ⟨h, h', hh, hh', fun hlive => hlive 1 p (of_decide_eq_true hstores) hp hended⟩

end Runs

end ActorWeb.Gateway.Persistence
