import ActorWeb.ActorStops
import ActorWeb.Transition

namespace ActorWeb.ActorSystem

open Option List Supervision ActorLife Transition Function

/-- A user stopped the path while the last restart of it by an invocation waited. -/
def StoppedInBackoff (i : Nat) (p : ActorAddress) (log : List Entry) : Prop :=
  .userStop p ∈ (since (.backoff i p) log).dropWhile fun e => e ≠ .backoffOver i p

def Respawned (i : Nat) (p : ActorAddress) (log : List Entry) : Prop :=
  .respawn i p ∈ since (.backoff i p) log

/-- One terminal event and one `onStop` for each spawn, and no actor back from a user's stop. -/
structure Terminal (s : System) : Prop where
  stops_le : ∀ p, stopsOf p s.log ≤ 1
  onStops_le : ∀ p, onStopsOf p s.log ≤ 1
  stays : ∀ i p, Respawned i p s.log → ¬StoppedInBackoff i p s.log

def Entry.Plain : Entry → Prop
  | .userStop _ | .backoff _ _ | .backoffOver _ _ => False
  | _ => True

theorem Entry.Still.plain {e : Entry} (h : e.Still) : e.Plain := by
  cases e <;> first | exact h | exact trivial

variable {s t u : System} {p q : ActorAddress} {i : Nat} {e : Entry} {es log : List Entry}

theorem since_cons_ne {e e' : Entry} (h : e' ≠ e) (log : List Entry) :
    since e (e' :: log) = e' :: since e log := takeWhile_cons_of_pos (by simpa using h)

def Clear (log : List Entry) : Prop := ∀ i p, ¬StoppedInBackoff i p log

theorem clear_cons (h : Clear log)
    (he : ∀ i p, e = .backoffOver i p → .userStop p ∉ since (.backoff i p) log) :
    Clear (e :: log) := by
  intro i p hm
  unfold StoppedInBackoff at hm
  by_cases hbackoff : e = .backoff i p
  · rw [hbackoff, since_cons_self] at hm
    cases hm
  · rw [since_cons_ne hbackoff, dropWhile_cons] at hm
    split at hm
    case isTrue => exact h i p hm
    case isFalse hover =>
      have hover' : e = .backoffOver i p := by simpa using hover
      refine he i p hover' ((mem_cons.mp hm).resolve_left ?_)
      rw [hover']
      exact nofun

theorem clear_append (h : Clear log) (hes : ∀ e ∈ es, e.Plain) : Clear (es ++ log) := by
  induction es with
  | nil => exact h
  | cons e es ih =>
    refine clear_cons (ih fun e' he' => hes e' (mem_cons_of_mem e he')) ?_
    rintro i p rfl
    exact absurd (hes _ mem_cons_self) id

theorem mem_since_append {e' : Entry} (h : e ∈ since e' (es ++ log)) :
    e ∈ es ∨ e ∈ since e' log := by
  induction es with
  | nil => exact .inr h
  | cons e'' es ih =>
    by_cases he : e'' = e'
    · rw [cons_append, he, since_cons_self] at h
      cases h
    · rw [cons_append, since_cons_ne he] at h
      obtain rfl | h := mem_cons.mp h
      · exact .inl mem_cons_self
      · exact (ih h).imp_left (mem_cons_of_mem e'')

def System.Stopping (s : System) (p : ActorAddress) : Prop :=
  ∃ j ph, s.phase p j = some ph ∧ ph ≠ .spawning

def System.Waiting (s : System) (j : Nat) (r : Restart) : Prop :=
  ∃ v, s.invocations[j]? = some v ∧ v.driver = some (.restarting r .backoff)

/-- Actors are told apart by the behavior objects made at their spawns. -/
structure Fresh (s t : System) : Prop where
  nextBehavior_le : s.nextBehavior ≤ t.nextBehavior
  actors : ∀ p, t.actors p = s.actors p ∨ t.actors p = none ∨
    ∃ b, t.actors p = some b ∧ s.nextBehavior ≤ b.object ∧ b.object < t.nextBehavior

theorem fresh_of_eq (ha : t.actors = s.actors) (hb : t.nextBehavior = s.nextBehavior) : Fresh s t :=
  ⟨Nat.le_of_eq hb.symm, fun p => .inl (congrFun ha p)⟩

theorem Fresh.trans (h : Fresh s t) (h' : Fresh t u) : Fresh s u := by
  refine ⟨h.nextBehavior_le.trans h'.nextBehavior_le, fun p => ?_⟩
  obtain he | hn | ⟨b, hb, hle, hlt⟩ := h'.actors p
  · obtain he' | hn' | ⟨b, hb, hle, hlt⟩ := h.actors p
    · exact .inl (he.trans he')
    · exact .inr (.inl (he.trans hn'))
    · exact .inr (.inr ⟨b, he.trans hb, hle, hlt.trans_le h'.nextBehavior_le⟩)
  · exact .inr (.inl hn)
  · exact .inr (.inr ⟨b, hb, h.nextBehavior_le.trans hle, hlt⟩)

/-- While a restart waits, a user stop of its path is under way or took its actor. -/
structure Waits (s : System) : Prop where
  object_lt : ∀ p b, s.actors p = some b → b.object < s.nextBehavior
  captured_lt : ∀ j r, s.Waiting j r → r.behavior.object < s.nextBehavior
  waits : ∀ j r, s.Waiting j r → .backoffOver j r.address ∉ since (.backoff j r.address) s.log
  gone : ∀ j r, s.Waiting j r → .userStop r.address ∈ since (.backoff j r.address) s.log →
    s.actors r.address ≠ some r.behavior ∨ s.Stopping r.address
  clear : Clear s.log

def Begins (t : System) (j : Nat) (r : Restart) : Prop :=
  r.behavior.object < t.nextBehavior ∧
    .backoffOver j r.address ∉ since (.backoff j r.address) t.log ∧
    .userStop r.address ∉ since (.backoff j r.address) t.log

theorem Waits.step (h : Waits s) (hfresh : Fresh s t) (hlog : t.log = es ++ s.log)
    (hclear : Clear t.log) (hstopping : ∀ p, s.Stopping p → t.Stopping p ∨ t.actors p = none)
    (hwaiting : ∀ j r, t.Waiting j r → Begins t j r ∨
      s.Waiting j r ∧ .backoffOver j r.address ∉ es ∧
        (.userStop r.address ∈ es → t.Stopping r.address)) : Waits t := by
  constructor
  case object_lt =>
    intro p b hb
    obtain he | hn | ⟨b', hb', -, hlt⟩ := hfresh.actors p
    · exact (h.object_lt p b (he ▸ hb)).trans_le hfresh.nextBehavior_le
    · rw [hn] at hb
      cases hb
    · rw [hb'] at hb
      exact some.inj hb ▸ hlt
  case captured_lt =>
    intro j r hr
    obtain hbegins | ⟨hold, -, -⟩ := hwaiting j r hr
    · exact hbegins.1
    · exact (h.captured_lt j r hold).trans_le hfresh.nextBehavior_le
  case waits =>
    intro j r hr
    obtain hbegins | ⟨hold, hnew, -⟩ := hwaiting j r hr
    · exact hbegins.2.1
    · rw [hlog]
      exact fun hm => (mem_since_append hm).elim hnew (h.waits j r hold)
  case gone =>
    intro j r hr hm
    obtain hbegins | ⟨hold, -, hnew⟩ := hwaiting j r hr
    · exact absurd hm hbegins.2.2
    · rw [hlog] at hm
      obtain hm | hm := mem_since_append hm
      · exact .inr (hnew hm)
      · obtain hne | hstop := h.gone j r hold hm
        · left
          obtain he | hn | ⟨b, hb, hle, -⟩ := hfresh.actors r.address
          · rwa [he]
          · rw [hn]
            exact nofun
          · rw [hb]
            intro hrb
            have hlt := h.captured_lt j r hold
            rw [← some.inj hrb] at hlt
            exact absurd hlt (Nat.not_lt_of_le hle)
        · obtain hstop | hn := hstopping _ hstop
          · exact .inr hstop
          · left
            rw [hn]
            exact nofun
  case clear => exact hclear

def Plainly (s t : System) : Prop := ∃ es, t.log = es ++ s.log ∧ ∀ e ∈ es, e.Plain

theorem Plainly.of_eq (h : t.log = s.log) : Plainly s t := ⟨[], h, by simp⟩

theorem Plainly.trans (h : Plainly s t) (h' : Plainly t u) : Plainly s u := by
  obtain ⟨es, hes, hplain⟩ := h
  obtain ⟨es', hes', hplain'⟩ := h'
  refine ⟨es' ++ es, by rw [hes', hes, append_assoc], fun e he => ?_⟩
  exact (mem_append.mp he).elim (hplain' e) (hplain e)

theorem Extends.plainly (h : Extends Entry.Still s t) : Plainly s t :=
  h.log.imp fun _ hes => ⟨hes.1, fun e he => (hes.2 e he).plain⟩

theorem plainly_record (s : System) (h : e.Plain) : Plainly s (s.record e) :=
  ⟨[e], rfl, by simpa using h⟩

theorem plainly_emit (s : System) (e : SystemEvent) (p : ActorAddress) :
    Plainly s (s.emitSystemEvent e p) := by
  unfold System.emitSystemEvent
  split
  · exact plainly_record s trivial
  · exact .of_eq rfl

theorem Extends.fresh {P : Entry → Prop} (h : Extends P s t) : Fresh s t :=
  fresh_of_eq h.actors h.nextBehavior

theorem perform_plainly (s : System) (request : Request) : Plainly s (s.perform request).1 := by
  cases request with
  | await call => exact .of_eq rfl
  | stop p reason => exact plainly_emit s _ p
  | spawn p behavior policy =>
    simp only [System.perform, System.beginSpawn]
    split <;> exact .of_eq rfl
  | deliver p m =>
    simp only [System.perform, System.beginDeliver]
    split
    · exact .of_eq rfl
    · exact plainly_record s trivial

theorem perform_fresh (s : System) (request : Request) : Fresh s (s.perform request).1 := by
  cases request with
  | await call => exact fresh_of_eq rfl rfl
  | stop p reason => exact (emitSystemEvent_extends (P := Entry.Still) (e := .actorStopping) s trivial).fresh
  | spawn p behavior policy =>
    simp only [System.perform, System.beginSpawn]
    split
    case isTrue => exact fresh_of_eq rfl rfl
    case isFalse =>
      refine ⟨Nat.le_succ _, fun q => ?_⟩
      by_cases hq : q = p
      · subst hq
        exact .inr (.inr ⟨_, update_self .., le_rfl, Nat.lt_succ_self _⟩)
      · exact .inl (update_of_ne hq _ _)
  | deliver p m =>
    simp only [System.perform, System.beginDeliver]
    split <;> exact fresh_of_eq rfl rfl

variable {n : Next} {j : Nat} {r : Restart}

theorem settle_fresh (h : Fresh s n.system) (i : Nat) : Fresh s (n.settle i) :=
  (h.trans (perform_fresh n.system n.request)).trans (fresh_of_eq rfl rfl)

theorem invoke_fresh (h : Fresh s t) (request : Request) : Fresh s (t.invoke request) :=
  (h.trans (perform_fresh t request)).trans (fresh_of_eq rfl rfl)

theorem advanceStop_plainly (s : System) (p : ActorAddress) (reason : Option StopReason)
    (stage : StopStage) : Plainly s (s.advanceStop p reason stage).1 := by
  cases stage with
  | stoppingEvent =>
    simp only [System.advanceStop]
    split
    · exact plainly_record s trivial
    · exact (teardown_extends s p).plainly
  | onStop => exact (teardown_extends s p).plainly
  | publish | unregister | stoppedEvent => exact .of_eq rfl
  | broadcast => exact plainly_emit s _ p

theorem forget_fresh (s : System) (p : ActorAddress) : Fresh s (s.forget p) := by
  refine ⟨le_rfl, fun q => ?_⟩
  by_cases hq : q = p
  · subst hq
    exact .inr (.inl (update_self ..))
  · exact .inl (update_of_ne hq _ _)

theorem advanceStop_fresh (s : System) (p : ActorAddress) (reason : Option StopReason)
    (stage : StopStage) : Fresh s (s.advanceStop p reason stage).1 := by
  cases stage with
  | stoppingEvent =>
    simp only [System.advanceStop]
    split
    · exact fresh_of_eq rfl rfl
    · exact (teardown_extends s p).fresh
  | onStop => exact (teardown_extends s p).fresh
  | publish => exact forget_fresh s p
  | unregister | stoppedEvent => exact fresh_of_eq rfl rfl
  | broadcast =>
    simp only [System.advanceStop, System.emitSystemEvent]
    split <;> exact fresh_of_eq rfl rfl

theorem advanceSpawn_plainly (s : System) (p : ActorAddress) (stage : SpawnStage) :
    Plainly s (s.advanceSpawn p stage).1 := by
  cases stage with
  | register | spawnedEvent => exact .of_eq rfl
  | broadcast =>
    exact (startProcessing_extends s p).plainly.trans (plainly_emit (s.startProcessing p) _ p)

theorem advanceSpawn_fresh (s : System) (p : ActorAddress) (stage : SpawnStage) :
    Fresh s (s.advanceSpawn p stage).1 := by
  cases stage with
  | register | spawnedEvent => exact fresh_of_eq rfl rfl
  | broadcast =>
    simp only [System.advanceSpawn, System.emitSystemEvent]
    split <;> exact fresh_of_eq rfl rfl

def Invokes (s t : System) : Prop :=
  ∃ vs, t.invocations = s.invocations ++ vs ∧ ∀ v ∈ vs, v.driver = none

theorem Extends.invokes {P : Entry → Prop} (h : Extends P s t) : Invokes s t :=
  h.invocations.imp fun _ hvs => ⟨hvs.1, fun v hv => (hvs.2 v hv).2⟩

theorem Invokes.of_eq (h : t.invocations = s.invocations) : Invokes s t :=
  ⟨[], by rw [h, append_nil], by simp⟩

theorem Invokes.trans (h : Invokes s t) (h' : t.invocations = u.invocations) : Invokes s u := by
  obtain ⟨vs, hvs, hnone⟩ := h
  exact ⟨vs, h' ▸ hvs, hnone⟩

theorem advanceSpawn_invokes (s : System) (p : ActorAddress) (stage : SpawnStage) :
    Invokes s (s.advanceSpawn p stage).1 := by
  cases stage with
  | register | spawnedEvent => exact .of_eq rfl
  | broadcast =>
    refine .trans (t := s.startProcessing p) ⟨_, rfl, by simp⟩ ?_
    exact (emitSystemEvent_invocations _ _ _).symm

theorem Invokes.waiting (h : Invokes s t) (hr : t.Waiting j r) : s.Waiting j r := by
  obtain ⟨vs, hvs, hnone⟩ := h
  obtain ⟨v, hv, hdriver⟩ := hr
  rw [hvs, getElem?_append] at hv
  split at hv
  case isTrue => exact ⟨v, hv, hdriver⟩
  case isFalse =>
    rw [hnone v (mem_of_getElem? hv)] at hdriver
    cases hdriver

theorem waiting_settle (h : Invokes s n.system) (hr : (n.settle i).Waiting j r) :
    j = i ∧ n.driver = some (.restarting r .backoff) ∨ j ≠ i ∧ s.Waiting j r := by
  obtain ⟨v, hv, hdriver⟩ := hr
  simp only [Next.settle, perform_invocations, getElem?_set] at hv
  by_cases hj : i = j
  · rw [if_pos hj] at hv
    split at hv
    · cases hv
      exact .inl ⟨hj.symm, hdriver⟩
    · cases hv
  · rw [if_neg hj] at hv
    exact .inr ⟨Ne.symm hj, h.waiting ⟨v, hv, hdriver⟩⟩

theorem waiting_invoke {request : Request} (hr : (s.invoke request).Waiting j r) : s.Waiting j r :=
  Invokes.waiting ⟨[⟨_, none, .caller⟩], by rw [System.invoke, perform_invocations], by simp⟩ hr

theorem Waits.plain_step (h : Waits s) (hfresh : Fresh s t) (hlog : Plainly s t)
    (hstopping : ∀ p, s.Stopping p → t.Stopping p ∨ t.actors p = none)
    (hwaiting : ∀ j r, t.Waiting j r → s.Waiting j r) : Waits t := by
  obtain ⟨es, hes, hplain⟩ := hlog
  refine h.step hfresh hes (hes ▸ clear_append h.clear hplain) hstopping fun j r hr => ?_
  refine .inr ⟨hwaiting j r hr, fun hm => hplain _ hm, fun hm => absurd (hplain _ hm) id⟩

theorem life_stopping : (s.life p).Stopping ↔ s.Stopping p := Iff.rfl

theorem stopping_step (hs : (s.life p).Sound) (h : Advances (s.life p) (t.life p))
    (hp : s.Stopping p) : t.Stopping p ∨ t.actors p = none := by
  obtain he | hstep := h
  · exact .inl (life_stopping.mp (he ▸ hp))
  · refine (hs.stopping_step hp hstep).imp_right fun hr => ?_
    exact isSome_eq_false_iff.mp hr |> isNone_iff_eq_none.mp

theorem userStop_waits (hw : Waits s)
    (hstopping : ∀ p, s.Stopping p → ((s.record (.userStop q)).invoke (.stop q none)).Stopping p ∨
      ((s.record (.userStop q)).invoke (.stop q none)).actors p = none) :
    Waits ((s.record (.userStop q)).invoke (.stop q none)) := by
  obtain ⟨es, hes, hplain⟩ := perform_plainly (s.record (.userStop q)) (.stop q none)
  have hlog : ((s.record (.userStop q)).invoke (.stop q none)).log = (es ++ [.userStop q]) ++ s.log := by
    rw [append_assoc]
    exact hes
  refine hw.step ?_ hlog ?_ hstopping ?_
  · have huser : Fresh s (s.record (.userStop q)) := fresh_of_eq rfl rfl
    exact invoke_fresh huser (.stop q none)
  · rw [hlog, append_assoc]
    exact clear_append (clear_cons hw.clear nofun) hplain
  · refine fun j r hr => .inr ⟨waiting_invoke (s := s.record (.userStop q)) hr, ?_, fun hm => ?_⟩
    · exact fun hm => (mem_append.mp hm).elim (hplain _) (by simp)
    · have hq : r.address = q := by
        obtain hm | hm := mem_append.mp hm
        · exact absurd (hplain _ hm) id
        · simpa using hm
      rw [hq]
      refine ⟨s.invocations.length, .starting, ?_, nofun⟩
      change (System.life _ q).phase _ = _
      rw [System.invoke, life_append, perform_invocations]
      exact (Life.put_phase ..).trans ((if_pos rfl).trans (phase_stop_self q none _))

theorem resume_waits (hw : Waits s) (hr : s.Waiting i r)
    (hidle : ∀ j, s.phase r.address j = none) (hactor : s.actors r.address = some r.behavior)
    (hlog : n.system.log = .backoffOver i r.address :: s.log)
    (hext : Extends Entry.Quiet s n.system) (hstage : n.driver = some (.restarting r .stop))
    (hstopping : ∀ p, s.Stopping p → (n.settle i).Stopping p ∨ (n.settle i).actors p = none) :
    Waits (n.settle i) := by
  have hclear : .userStop r.address ∉ since (.backoff i r.address) s.log := by
    intro hm
    obtain hne | ⟨j, ph, hj, -⟩ := hw.gone i r hr hm
    · exact hne hactor
    · rw [hidle j] at hj
      cases hj
  obtain ⟨es, hes, hplain⟩ := perform_plainly n.system n.request
  have hlog' : (n.settle i).log = (es ++ [.backoffOver i r.address]) ++ s.log := by
    rw [append_assoc]
    exact hes.trans (congrArg (es ++ ·) hlog)
  refine hw.step (settle_fresh hext.fresh i) hlog' ?_ hstopping ?_
  · rw [hlog', append_assoc]
    refine clear_append (clear_cons hw.clear fun j p he => ?_) hplain
    obtain ⟨rfl, rfl⟩ := Entry.backoffOver.inj he
    exact hclear
  · intro j r' hr'
    obtain ⟨-, hdriver⟩ | ⟨hj, hold⟩ := waiting_settle hext.invokes hr'
    · rw [hstage] at hdriver
      cases hdriver
    · refine .inr ⟨hold, fun hm => ?_, fun hm => ?_⟩
      · obtain hm | hm := mem_append.mp hm
        · exact hplain _ hm
        · exact hj (Entry.backoffOver.inj (mem_singleton.mp hm)).1
      · obtain hm | hm := mem_append.mp hm
        · exact absurd (hplain _ hm) id
        · cases mem_singleton.mp hm

theorem begin_waits (hw : Waits s) (hdriver : n.driver = some (.restarting r .backoff))
    (hactor : s.actors r.address = some r.behavior)
    (hlog : n.system.log = .backoff i r.address :: s.log) (hext : Extends Entry.Quiet s n.system)
    (hstopping : ∀ p, s.Stopping p → (n.settle i).Stopping p ∨ (n.settle i).actors p = none) :
    Waits (n.settle i) := by
  obtain ⟨es, hes, hplain⟩ := perform_plainly n.system n.request
  have hlog' : (n.settle i).log = es ++ .backoff i r.address :: s.log :=
    hes.trans (congrArg (es ++ ·) hlog)
  have hnew : ∀ e, ¬e.Plain → e ∉ since (.backoff i r.address) (n.settle i).log := by
    intro e he hm
    rw [hlog'] at hm
    obtain hm | hm := mem_since_append hm
    · exact he (hplain e hm)
    · rw [since_cons_self] at hm
      cases hm
  have hfresh := settle_fresh hext.fresh i
  refine hw.step hfresh (hlog'.trans (append_cons es _ s.log)) ?_ hstopping ?_
  · rw [hlog']
    exact clear_append (clear_cons hw.clear nofun) hplain
  · intro j r' hr'
    obtain ⟨rfl, hdriver'⟩ | ⟨-, hold⟩ := waiting_settle hext.invokes hr'
    · left
      rw [hdriver] at hdriver'
      obtain ⟨rfl, -⟩ := Driver.restarting.inj (some.inj hdriver')
      exact ⟨(hw.object_lt _ _ hactor).trans_le hfresh.nextBehavior_le, hnew _ id, hnew _ id⟩
    · refine .inr ⟨hold, fun hm => ?_, fun hm => ?_⟩
      · obtain hm | hm := mem_append.mp hm
        · exact hplain _ hm
        · cases mem_singleton.mp hm
      · obtain hm | hm := mem_append.mp hm
        · exact absurd (hplain _ hm) id
        · cases mem_singleton.mp hm

theorem settle_plain (hw : Waits s) (hfresh : Fresh s n.system)
    (hlog : Plainly s n.system) (hinvokes : Invokes s n.system) (hi : ∀ r,
      n.driver = some (.restarting r .backoff) → s.Waiting i r)
    (hstopping : ∀ p, s.Stopping p → (n.settle i).Stopping p ∨ (n.settle i).actors p = none) :
    Waits (n.settle i) := by
  have hlog' : Plainly s (n.settle i) := hlog.trans (perform_plainly n.system n.request)
  refine hw.plain_step (settle_fresh hfresh i) hlog' hstopping fun j r hr => ?_
  obtain ⟨rfl, hdriver⟩ | ⟨-, hold⟩ := waiting_settle hinvokes hr
  · exact hi r hdriver
  · exact hold

theorem advance_waits {o : Outcome} (hw : Waits s) (hord : Orderly s (.advance i o))
    (h : step s (.advance i o) = some t)
    (hstopping : ∀ p, s.Stopping p → t.Stopping p ∨ t.actors p = none) : Waits t := by
  simp only [step, bind_eq_some_iff, map_eq_some_iff] at h
  obtain ⟨v, hv, n, hn, rfl⟩ := h
  obtain ⟨hadm, -, hrestart⟩ := hord v hv
  by_cases hfine : (∀ q reason stage, v.call ≠ .stop q reason stage) ∧
      ∀ q stage, v.call ≠ .spawn q stage
  · cases next_fine hn hfine.1 hfine.2 with
    | still hstill =>
      exact settle_plain hw hstill.extends_still.fresh hstill.extends_still.plainly
        hstill.extends_still.invokes (fun r hr => absurd hr (hstill.driver r)) hstopping
    | keeps hext hdriver =>
      exact settle_plain hw hext.fresh hext.plainly hext.invokes
        (fun r hr => ⟨v, hv, hdriver ▸ hr⟩) hstopping
    | waits r hdriver hactor hlog hext => exact begin_waits hw hdriver hactor hlog hext hstopping
    | resumes r threw hcall hdriver hstage hlog hext hrequest =>
      have hidle := (hrequest ▸ hadm n hn : s.Admits (.stop r.address _)).2
      exact resume_waits hw ⟨v, hv, hdriver⟩ hidle (hrestart r threw hdriver hcall) hlog hext
        hstage hstopping
  · obtain ⟨call, driver, base⟩ := v
    cases call with
    | stop q reason stage =>
      cases hn
      exact settle_plain hw (advanceStop_fresh s q reason stage)
        (advanceStop_plainly s q reason stage)
        (.of_eq (advanceStop_invocations s q reason stage)) (fun r hr => ⟨_, hv, hr⟩) hstopping
    | spawn q stage =>
      cases hn
      exact settle_plain hw (advanceSpawn_fresh s q stage) (advanceSpawn_plainly s q stage)
        (advanceSpawn_invokes s q stage) (fun r hr => ⟨_, hv, hr⟩) hstopping
    | _ => simp at hfine

theorem orderly_waits {a : Action} (hs : ∀ p, (s.life p).Sound) (hw : Waits s)
    (hord : Orderly s a) (h : step s a = some t) : Waits t := by
  have hstopping : ∀ p, s.Stopping p → t.Stopping p ∨ t.actors p = none :=
    fun p => stopping_step (hs p) (orderly_step hord h)
  cases a with
  | tick | setTestMode | setSystemEventActor | stopSystem =>
    cases h
    exact hw.plain_step (fresh_of_eq rfl rfl) (.of_eq rfl) hstopping fun _ _ hr => hr
  | spawn q behavior policy =>
    cases h
    exact hw.plain_step (invoke_fresh (fresh_of_eq rfl rfl) _)
      (perform_plainly s (.spawn q behavior policy)) hstopping fun _ _ => waiting_invoke
  | stop q =>
    cases h
    exact userStop_waits hw hstopping
  | stopInternal q =>
    simp only [step] at h
    split at h
    case isTrue =>
      cases h
      exact userStop_waits hw hstopping
    case isFalse => cases h
  | enqueueMessage q =>
    cases h
    exact hw.plain_step (fresh_of_eq rfl rfl) (.of_eq rfl) hstopping fun _ _ hr =>
      waiting_invoke (s := { s with given := ⟨s.given.length, q⟩ :: s.given }) hr
  | processNextMessage q =>
    simp only [step] at h
    split at h
    case h_1 => cases h
    case h_2 box m mailbox _ =>
      cases h
      exact hw.plain_step (fresh_of_eq rfl rfl) (.of_eq rfl) hstopping fun _ _ hr =>
        waiting_invoke (s := { s with boxes := s.boxes.set box mailbox }) hr
  | advance i o => exact advance_waits hw hord h hstopping

theorem start_waits (maxActors : Nat) (supervisors : List SupervisorGroupConfig) :
    Waits (start maxActors supervisors) where
  object_lt := fun _ _ h => by cases h
  captured_lt := fun _ _ ⟨_, h, _⟩ => by cases h
  waits := fun _ _ ⟨_, h, _⟩ => by cases h
  gone := fun _ _ ⟨_, h, _⟩ => by cases h
  clear := fun _ _ h => by cases h

/-- In a run whose steps are all orderly, every stop has one terminal event and one
`onStop`, and a restart does not bring back an actor that a user stopped meanwhile. -/
theorem orderly_runs_terminal (maxActors : Nat) (supervisors : List SupervisorGroupConfig)
    (actions : List Action) (hord : Guarded step Orderly (start maxActors supervisors) actions)
    (ht : exec step (start maxActors supervisors) actions = some t) : Terminal t := by
  have hinv : (∀ p, (t.life p).Sound) ∧ Waits t := by
    refine guarded_invariant (I := fun u => (∀ p, (u.life p).Sound) ∧ Waits u) ?_
      ⟨start_sound maxActors supervisors, start_waits maxActors supervisors⟩ hord ht
    exact fun u a v h hstep hord => ⟨orderly_sound h.1 hord hstep, orderly_waits h.1 h.2 hord hstep⟩
  exact ⟨fun p => (hinv.1 p).stops_le, fun p => (hinv.1 p).onStops_le,
    fun j p _ => hinv.2.clear j p⟩

section Runs

def worker : ActorAddress := "actor://n/worker".toList

def systemEvents : ActorAddress := "actor://n/system-event-actor".toList

def spawnRun : List Action :=
  [.spawn systemEvents ⟨false⟩ none, .advance 0 .ok, .advance 0 .ok, .setSystemEventActor systemEvents,
    .spawn worker ⟨true⟩ none, .advance 2 .ok, .advance 2 .ok, .advance 2 .ok]

/-- `system.stop` is called for the worker while its first stop waits for `onStop`. -/
def stopTwiceRun : List Action :=
  spawnRun ++ [.stop worker, .advance 4 .ok, .stop worker, .advance 5 .ok] ++
    List.replicate 4 (.advance 4 .ok) ++ List.replicate 4 (.advance 5 .ok)

def resurrectRun : List Action :=
  spawnRun ++ [.enqueueMessage worker, .advance 4 .ok, .advance 3 .ok, .advance 3 .ok, .advance 3 .ok,
    .advance 3 .threw, .advance 3 .ok, .stop worker] ++ List.replicate 6 (.advance 5 .ok) ++
    [.tick 1000] ++ List.replicate 8 (.advance 3 .ok)

def logOf (run : List Action) : Option (List Entry) := (exec step (start 0 []) run).map System.log

theorem stopTwice_and_resurrect_runs_not_terminal :
    (∃ s, exec step (start 0 []) stopTwiceRun = some s ∧ stopsOf worker s.log = 2 ∧
      onStopsOf worker s.log = 2 ∧ ¬Terminal s) ∧
    ∃ s, exec step (start 0 []) resurrectRun = some s ∧ Respawned 3 worker s.log ∧
      StoppedInBackoff 3 worker s.log ∧ ¬Terminal s := by
  constructor
  · have hrun : (logOf stopTwiceRun).map (fun log => (stopsOf worker log, onStopsOf worker log)) =
        some (2, 2) := by decide +kernel
    obtain ⟨log, hlog, hcounts⟩ := Option.map_eq_some_iff.mp hrun
    obtain ⟨s, hs, rfl⟩ := Option.map_eq_some_iff.mp hlog
    obtain ⟨hstops, honStops⟩ := Prod.mk.inj hcounts
    refine ⟨s, hs, hstops, honStops, fun h => ?_⟩
    have hle := h.stops_le worker
    omega
  · have hrun : (logOf resurrectRun).map (fun log =>
        (since (.backoff 3 worker) log,
          (since (.backoff 3 worker) log).dropWhile fun e => e ≠ .backoffOver 3 worker)) =
        some ([.respawn 3 worker, .event (.actorStopped (some .supervisorRestart)) worker,
            .event .actorStopping worker, .backoffOver 3 worker, .event (.actorStopped none) worker,
            .onStop worker, .event .actorStopping worker, .userStop worker],
          [.backoffOver 3 worker, .event (.actorStopped none) worker, .onStop worker,
            .event .actorStopping worker, .userStop worker]) := by decide +kernel
    obtain ⟨log, hlog, hwindow⟩ := Option.map_eq_some_iff.mp hrun
    obtain ⟨s, hs, rfl⟩ := Option.map_eq_some_iff.mp hlog
    obtain ⟨hsince, hwait⟩ := Prod.mk.inj hwindow
    have hrespawned : Respawned 3 worker s.log := by
      rw [Respawned, hsince]
      exact mem_cons_self
    have hstopped : StoppedInBackoff 3 worker s.log := by
      rw [StoppedInBackoff, hwait]
      simp
    exact ⟨s, hs, hrespawned, hstopped, fun h => h.stays 3 worker hrespawned hstopped⟩

def orderlyRun : List Action :=
  [.spawn worker ⟨true⟩ none, .advance 0 .ok, .advance 0 .ok, .stop worker, .advance 2 .ok]

theorem orderlyRun_terminal :
    ∃ s, exec step (start 0 []) orderlyRun = some s ∧ Terminal s := by
  have hrun : (exec step (start 0 []) orderlyRun).isSome := by decide +kernel
  obtain ⟨s, hs⟩ := Option.isSome_iff_exists.mp hrun
  refine ⟨s, hs, orderly_runs_terminal 0 [] orderlyRun ?_ hs⟩
  have hadvance : ∀ {u : System} {i : Nat} {c : Call}, u.invocations[i]? = some ⟨c, none, .caller⟩ →
      (∀ n, u.next i .ok ⟨c, none, .caller⟩ = some n → u.Admits n.request) →
      (∀ p, c = .spawn p .broadcast → u.Seen p) → Orderly u (.advance i .ok) := by
    intro u i c hu hadm hseen v hv
    obtain rfl := Option.some.inj (hu.symm.trans hv)
    exact ⟨hadm, hseen, fun _ _ hdriver => by cases hdriver⟩
  intro s₁ h₁
  refine ⟨fun _ _ h => (by cases h), fun s₂ h₂ => ?_⟩
  cases h₁
  refine ⟨hadvance (c := .spawn worker .register) rfl ?_ nofun, fun s₃ h₃ => ?_⟩
  · exact fun n hn => Option.some.inj hn ▸ trivial
  cases h₂
  refine ⟨hadvance (c := .spawn worker .broadcast) rfl ?_ fun p _ => .inr ⟨rfl, rfl⟩, fun s₄ h₄ => ?_⟩
  · exact fun n hn => Option.some.inj hn ▸ trivial
  cases h₃
  refine ⟨⟨rfl, fun i => ?_⟩, fun s₅ h₅ => ?_⟩
  · match i with
    | 0 => rfl
    | 1 => rfl
    | i + 2 => rfl
  cases h₄
  refine ⟨hadvance (c := .stop worker none .stoppingEvent) rfl ?_ nofun, trivial⟩
  exact fun n hn => Option.some.inj hn ▸ trivial

end Runs

end ActorWeb.ActorSystem
