import ActorWeb.Transition
import Mathlib.Data.List.Basic

/-! The context storage for environments without `AsyncLocalStorage`, and the
programs of callbacks that run in it. -/

namespace ActorWeb.FallbackContext

open List Transition

variable {T V : Type}

structure Frame (T : Type) where
  id : Nat
  context : T
  deriving DecidableEq

structure Storage (T : Type) where
  current : Option T
  frames : List (Frame T)
  rootPrevious : Option T
  callbackDepth : Nat

def Storage.new : Storage T :=
  { current := none, frames := [], rootPrevious := none, callbackDepth := 0 }

def Storage.getStore (s : Storage T) : Option T := s.current

/-- `runFrame` up to the call of its callback, `none` when it throws. -/
def Storage.enter (s : Storage T) (frame : Frame T) (allowReentry : Bool) : Option (Storage T) :=
  if allowReentry = false ∧ s.callbackDepth = 0 ∧ 0 < s.frames.length then none
  else
    some
      { current := some frame.context
        frames := s.frames ++ [frame]
        rootPrevious := if s.frames.length = 0 then s.current else s.rootPrevious
        callbackDepth := s.callbackDepth + 1 }

def Storage.releaseFrame (s : Storage T) (frameId : Nat) : Storage T :=
  match s.frames.findIdx? fun frame => frame.id = frameId with
  | none => s
  | some frameIndex =>
    let frames := s.frames.eraseIdx frameIndex
    match frames.getLast? with
    | none => { s with frames := frames, current := s.rootPrevious, rootPrevious := none }
    | some frame => { s with frames := frames, current := some frame.context }

inductive Outcome (V : Type) where
  | value (v : V)
  | error (e : V)
  deriving DecidableEq

def Storage.ascend (s : Storage T) : Storage T := { s with callbackDepth := s.callbackDepth - 1 }

def Storage.leave (s : Storage T) (frameId : Nat) : Outcome V → Storage T
  | .value _ => ((s.releaseFrame frameId).ascend).releaseFrame frameId
  | .error _ => s.ascend.releaseFrame frameId

inductive Phase (T V : Type) where
  | queued
  | running (frame : Frame T)
  | finishing (result : Option (Outcome V))
  | settled (result : Option (Outcome V))
  deriving DecidableEq

/-- A call of `runAsync`: `body` is how its callback ended, once it has. -/
structure Job (T V : Type) where
  context : T
  body : Option (Outcome V)
  phase : Phase T V
  deriving DecidableEq

def Job.isSettled (job : Job T V) : Bool :=
  match job.phase with
  | .settled _ => true
  | _ => false

/-- `calls` are the callbacks whose synchronous part runs, the innermost first, and
`suspended` those that returned a promise which has not settled. The jobs stand in
call order, each waiting for the one before it. -/
structure System (T V : Type) where
  storage : Storage T
  (calls suspended : List (Frame T))
  jobs : List (Job T V)
  nextFrame : Nat

def start : System T V :=
  { storage := .new, calls := [], suspended := [], jobs := [], nextFrame := 0 }

inductive Action (T V : Type) where
  | run (context : T)
  | runReentrant (context : T)
  | runAsync (context : T)
  | returns (outcome : Outcome V)
  | suspends
  | settles (frameId : Nat) (outcome : Outcome V)
  | turn (index : Nat)
  | settleJob (index : Nat)

def System.call (s : System T V) (context : T) (allowReentry : Bool) : Option (System T V) :=
  let frame := ⟨s.nextFrame, context⟩
  (s.storage.enter frame allowReentry).map fun storage =>
    { s with storage := storage, calls := frame :: s.calls, nextFrame := s.nextFrame + 1 }

def finish (frame : Frame T) (outcome : Outcome V) (job : Job T V) : Job T V :=
  match job.phase with
  | .running own =>
    if own.id = frame.id then { job with body := some outcome, phase := .finishing (some outcome) }
    else job
  | _ => job

def tailSettled (jobs : List (Job T V)) : Nat → Bool
  | 0 => true
  | index + 1 => (jobs[index]?).any Job.isSettled

def System.turn (s : System T V) (index : Nat) (job : Job T V) : System T V :=
  match s.call job.context false with
  | none => { s with jobs := s.jobs.set index { job with phase := .finishing none } }
  | some t =>
    { t with
      jobs := s.jobs.set index { job with phase := .running ⟨s.nextFrame, job.context⟩ } }

/-- `run` and `runReentrant` are called where their contracts allow it; promises settle and
chained callbacks run when no synchronous part does. -/
def step (s : System T V) : Action T V → Option (System T V)
  | .run context =>
    if s.calls = [] ∧ s.storage.frames ≠ [] then none else s.call context false
  | .runReentrant context => if s.storage.frames = [] then none else s.call context true
  | .runAsync context => some { s with jobs := s.jobs ++ [⟨context, none, .queued⟩] }
  | .returns outcome =>
    match s.calls with
    | [] => none
    | frame :: calls =>
      some
        { s with
          storage := s.storage.leave frame.id outcome
          calls := calls
          jobs := s.jobs.map (finish frame outcome) }
  | .suspends =>
    match s.calls with
    | [] => none
    | frame :: calls =>
      some
        { s with
          storage := s.storage.ascend
          calls := calls
          suspended := s.suspended ++ [frame] }
  | .settles frameId outcome =>
    match s.suspended.find? fun frame => frame.id = frameId with
    | none => none
    | some frame =>
      if s.calls = [] then
        some
          { s with
            storage := s.storage.releaseFrame frame.id
            suspended := s.suspended.filter fun other => other.id ≠ frame.id
            jobs := s.jobs.map (finish frame outcome) }
      else none
  | .turn index =>
    match s.jobs[index]? with
    | none => none
    | some job =>
      match job.phase with
      | .queued =>
        if s.calls = [] ∧ tailSettled s.jobs index then some (s.turn index job) else none
      | _ => none
  | .settleJob index =>
    match s.jobs[index]? with
    | none => none
    | some job =>
      match job.phase with
      | .finishing result =>
        if s.calls = [] then
          some { s with jobs := s.jobs.set index { job with phase := .settled result } }
        else none
      | _ => none

section Storages

variable {s t : Storage T} {frame f g : Frame T} {frames : List (Frame T)} {frameId : Nat}
  {allowReentry : Bool}

/-- The frames stand in the order in which they started, and the current value is the
context of the last one. -/
structure Storage.Tidy (s : Storage T) : Prop where
  sorted : s.frames.Pairwise fun a b => a.id < b.id
  current : s.current = s.frames.getLast?.map Frame.context
  root : s.rootPrevious = none

theorem tidy_new : (Storage.new : Storage T).Tidy := ⟨.nil, rfl, rfl⟩

theorem Storage.enter_eq (h : s.enter frame allowReentry = some t) :
    t.frames = s.frames ++ [frame] ∧ t.current = some frame.context ∧
      t.rootPrevious = (if s.frames.length = 0 then s.current else s.rootPrevious) ∧
      t.callbackDepth = s.callbackDepth + 1 := by
  rw [enter] at h
  split at h
  · cases h
  · cases h
    exact ⟨rfl, rfl, rfl, rfl⟩

theorem Storage.Tidy.enter (hs : s.Tidy) (hnew : ∀ g ∈ s.frames, g.id < frame.id)
    (h : s.enter frame allowReentry = some t) : t.Tidy := by
  obtain ⟨hframes, hcurrent, hroot, -⟩ := enter_eq h
  refine ⟨?_, by rw [hframes, hcurrent, getLast?_concat, Option.map_some], ?_⟩
  · rw [hframes, pairwise_append]
    refine ⟨hs.sorted, pairwise_singleton _ _, fun g hg b hb => ?_⟩
    rw [mem_singleton.mp hb]
    exact hnew g hg
  · rw [hroot, hs.root, hs.current]
    split
    · rename_i hempty
      rw [eq_nil_of_length_eq_zero hempty]
      rfl
    · rfl

theorem releaseFrame_frames :
    (s.releaseFrame frameId).frames = s.frames.eraseP fun frame => frame.id = frameId := by
  rw [eraseP_eq_eraseIdx, Storage.releaseFrame]
  cases s.frames.findIdx? fun frame => decide (frame.id = frameId) with
  | none => rfl
  | some frameIndex =>
    dsimp only
    split <;> rfl

theorem releaseFrame_depth : (s.releaseFrame frameId).callbackDepth = s.callbackDepth := by
  rw [Storage.releaseFrame]
  split
  · rfl
  · dsimp only
    split <;> rfl

theorem Storage.Tidy.releaseFrame (hs : s.Tidy) (frameId : Nat) :
    (s.releaseFrame frameId).Tidy := by
  refine ⟨?_, ?_, ?_⟩
  · rw [releaseFrame_frames]
    exact hs.sorted.sublist eraseP_sublist
  · rw [Storage.releaseFrame]
    split
    · exact hs.current
    · dsimp only
      split
      · rename_i hnone
        rw [hnone, hs.root, Option.map_none]
      · rename_i frame hlast
        rw [hlast, Option.map_some]
  · rw [Storage.releaseFrame]
    split
    · exact hs.root
    · dsimp only
      split
      · rfl
      · exact hs.root

theorem mem_eraseP_iff (h : frames.Pairwise fun a b => a.id < b.id) :
    f ∈ frames.eraseP (fun frame => frame.id = frameId) ↔ f ∈ frames ∧ f.id ≠ frameId := by
  induction frames with
  | nil => simp
  | cons g frames ih =>
    obtain ⟨hg, htail⟩ := pairwise_cons.mp h
    by_cases hid : g.id = frameId
    · have hrest : f ∈ frames → f.id ≠ frameId := fun hf => by
        have := hg f hf
        omega
      simp only [eraseP_cons, hid, decide_true, cond_true, mem_cons]
      constructor
      · exact fun hf => ⟨.inr hf, hrest hf⟩
      · rintro ⟨rfl | hf, hne⟩
        · exact absurd hid hne
        · exact hf
    · simp only [eraseP_cons, hid, decide_false, cond_false, mem_cons, ih htail]
      constructor
      · rintro (rfl | ⟨hf, hne⟩)
        · exact ⟨.inl rfl, hid⟩
        · exact ⟨.inr hf, hne⟩
      · rintro ⟨rfl | hf, hne⟩
        · exact .inl rfl
        · exact .inr ⟨hf, hne⟩

theorem Storage.Tidy.mem_release (hs : s.Tidy) :
    f ∈ (s.releaseFrame frameId).frames ↔ f ∈ s.frames ∧ f.id ≠ frameId := by
  rw [releaseFrame_frames, mem_eraseP_iff hs.sorted]

theorem Storage.Tidy.ascend (hs : s.Tidy) : s.ascend.Tidy := ⟨hs.sorted, hs.current, hs.root⟩

theorem Storage.Tidy.leave (hs : s.Tidy) (frameId : Nat) (outcome : Outcome V) :
    (s.leave frameId outcome).Tidy ∧
      (∀ f, f ∈ (s.leave frameId outcome).frames ↔ f ∈ s.frames ∧ f.id ≠ frameId) ∧
      (s.leave frameId outcome).callbackDepth = s.callbackDepth - 1 := by
  cases outcome with
  | value v =>
    have hfirst := (hs.releaseFrame frameId).ascend
    refine ⟨hfirst.releaseFrame frameId, fun f => ?_, ?_⟩
    · rw [Storage.leave, hfirst.mem_release]
      change f ∈ (s.releaseFrame frameId).frames ∧ f.id ≠ frameId ↔ _
      rw [hs.mem_release, and_assoc, and_self]
    · rw [Storage.leave, releaseFrame_depth]
      change (s.releaseFrame frameId).callbackDepth - 1 = _
      rw [releaseFrame_depth]
  | error e =>
    refine ⟨hs.ascend.releaseFrame frameId, fun f => hs.ascend.mem_release, ?_⟩
    rw [Storage.leave, releaseFrame_depth]
    rfl

theorem Storage.Tidy.getStore (hs : s.Tidy) (hf : f ∈ s.frames)
    (hlast : ∀ g ∈ s.frames, g.id ≤ f.id) : s.getStore = some f.context := by
  obtain hnil | ⟨init, g, hsplit⟩ := s.frames.eq_nil_or_concat
  · rw [hnil] at hf
    cases hf
  · rw [concat_eq_append] at hsplit
    have hsorted := hs.sorted
    rw [hsplit, pairwise_append] at hsorted
    have hfg : f = g := by
      rw [hsplit, mem_append, mem_singleton] at hf
      refine hf.resolve_left fun hinit => ?_
      have hlt := hsorted.2.2 f hinit g mem_cons_self
      have hle := hlast g (by rw [hsplit]; exact mem_concat_self)
      omega
    rw [Storage.getStore, hs.current, hsplit, getLast?_concat, hfg, Option.map_some]

end Storages

section Jobs

variable {jobs : List (Job T V)} {job job' : Job T V} {frames frames' : List (Frame T)}
  {frame : Frame T} {outcome : Outcome V} {index : Nat}

def InTurn (jobs : List (Job T V)) : Prop :=
  ∀ (i j : Nat) (a b : Job T V), i < j → jobs[i]? = some a → jobs[j]? = some b →
    b.phase ≠ .queued → a.isSettled = true

def Kept (frames : List (Frame T)) (job : Job T V) : Prop :=
  match job.phase with
  | .queued => job.body = none
  | .running frame => frame ∈ frames ∧ frame.context = job.context
  | .finishing result => job.body = result
  | .settled result => job.body = result

def Job.refused (job : Job T V) : Bool :=
  match job.phase with
  | .finishing none | .settled none => true
  | _ => false

theorem finish_cases (frame : Frame T) (outcome : Outcome V) (job : Job T V) :
    (finish frame outcome job = job ∧ ∀ own, job.phase = .running own → own.id ≠ frame.id) ∨
      ((∃ own, job.phase = .running own) ∧ finish frame outcome job =
        { job with body := some outcome, phase := .finishing (some outcome) }) := by
  rw [finish]
  split
  · rename_i own hown
    split
    · exact .inr ⟨⟨own, hown⟩, rfl⟩
    · rename_i hid
      exact .inl ⟨rfl, fun other hother => by cases hown.symm.trans hother; exact hid⟩
  · rename_i hno
    exact .inl ⟨rfl, fun own hown => absurd hown (hno own)⟩

theorem isSettled_finish : (finish frame outcome job).isSettled = job.isSettled := by
  obtain ⟨h, -⟩ | ⟨⟨own, hown⟩, h⟩ := finish_cases frame outcome job
  · rw [h]
  · rw [h]
    simp [Job.isSettled, hown]

theorem refused_finish : (finish frame outcome job).refused = job.refused := by
  obtain ⟨h, -⟩ | ⟨⟨own, hown⟩, h⟩ := finish_cases frame outcome job
  · rw [h]
  · rw [h]
    simp [Job.refused, hown]

theorem queued_finish (h : job.phase = .queued) : (finish frame outcome job).phase = .queued := by
  obtain ⟨hsame, -⟩ | ⟨⟨own, hown⟩, -⟩ := finish_cases frame outcome job
  · rw [hsame, h]
  · cases h.symm.trans hown

theorem InTurn.finish (h : InTurn jobs) : InTurn (jobs.map (finish frame outcome)) := by
  intro i j a b hij ha hb hstarted
  rw [getElem?_map] at ha hb
  obtain ⟨c, hc, rfl⟩ := Option.map_eq_some_iff.mp ha
  obtain ⟨d, hd, rfl⟩ := Option.map_eq_some_iff.mp hb
  rw [isSettled_finish]
  exact h i j c d hij hc hd fun hqueued => hstarted (queued_finish hqueued)

theorem InTurn.append (h : InTurn jobs) (hnew : job.phase = .queued) : InTurn (jobs ++ [job]) := by
  intro i j a b hij ha hb hstarted
  have hj : j < jobs.length := by
    by_contra hle
    rw [getElem?_append_right (by omega)] at hb
    have hmem := mem_of_getElem? hb
    rw [mem_singleton.mp hmem] at hstarted
    exact hstarted hnew
  rw [getElem?_append_left hj] at hb
  rw [getElem?_append_left (by omega)] at ha
  exact h i j a b hij ha hb hstarted

theorem InTurn.set (h : InTurn jobs) (hget : jobs[index]? = some job)
    (hopen : job.isSettled = false)
    (hbefore : ∀ i a, i < index → jobs[i]? = some a → a.isSettled = true) (job' : Job T V) :
    InTurn (jobs.set index job') := by
  intro i j a b hij ha hb hstarted
  obtain rfl | hj := eq_or_ne index j
  · rw [getElem?_set_ne (by omega)] at ha
    exact hbefore i a hij ha
  · rw [getElem?_set_ne hj] at hb
    obtain rfl | hi := eq_or_ne index i
    · have hsettled := h _ j job b hij hget hb hstarted
      cases hopen.symm.trans hsettled
    · rw [getElem?_set_ne hi] at ha
      exact h i j a b hij ha hb hstarted

theorem InTurn.before (h : InTurn jobs) (htail : tailSettled jobs index = true) :
    ∀ i a, i < index → jobs[i]? = some a → a.isSettled = true := by
  intro i a hi ha
  cases index with
  | zero => cases hi
  | succ k =>
    obtain ⟨c, hc, hsettled⟩ := (Option.any_eq_true _ _).mp htail
    obtain rfl | hlt := Nat.eq_or_lt_of_le (Nat.le_of_lt_succ hi)
    · rw [← Option.some.inj (hc.symm.trans ha)]
      exact hsettled
    · refine h i k a c hlt ha hc fun hqueued => ?_
      rw [Job.isSettled, hqueued] at hsettled
      cases hsettled

theorem Kept.mono (h : Kept frames job) (hmem : ∀ f ∈ frames, f ∈ frames') : Kept frames' job := by
  rw [Kept] at h ⊢
  split at h
  · exact h
  · exact ⟨hmem _ h.1, h.2⟩
  · exact h
  · exact h

theorem Kept.finish (h : Kept frames job) (hmem : ∀ f, f ∈ frames' ↔ f ∈ frames ∧ f.id ≠ frame.id) :
    Kept frames' (finish frame outcome job) := by
  obtain ⟨hsame, hother⟩ | ⟨-, hend⟩ := finish_cases frame outcome job
  · rw [hsame]
    rw [Kept] at h ⊢
    split at h
    · exact h
    · rename_i own hown
      exact ⟨(hmem own).mpr ⟨h.1, hother own hown⟩, h.2⟩
    · exact h
    · exact h
  · rw [hend]
    rfl

end Jobs

section Steps

variable {s t : System T V} {frame : Frame T} {context : T} {allowReentry : Bool} {index : Nat}
  {job : Job T V} {outcome : Outcome V} {frames frames' : List (Frame T)}

/-- The active frames are those of the callbacks that have not ended. -/
structure Sound (s : System T V) : Prop where
  tidy : s.storage.Tidy
  active : ∀ f, f ∈ s.storage.frames ↔ f ∈ s.calls ∨ f ∈ s.suspended
  distinct : ((s.calls ++ s.suspended).map Frame.id).Nodup
  fresh : ∀ f ∈ s.storage.frames, f.id < s.nextFrame
  depth : s.storage.callbackDepth = s.calls.length
  inTurn : InTurn s.jobs
  kept : ∀ job ∈ s.jobs, Kept s.storage.frames job

theorem sound_start : Sound (start : System T V) :=
  ⟨tidy_new, by simp [start, Storage.new], by simp [start], by simp [start, Storage.new], rfl,
    fun i j a b _ ha _ _ => by simp [start] at ha, by simp [start]⟩

theorem Sound.withJobs (h : Sound s) {jobs : List (Job T V)} (hturn : InTurn jobs)
    (hkept : ∀ job ∈ jobs, Kept s.storage.frames job) : Sound { s with jobs := jobs } :=
  ⟨h.tidy, h.active, h.distinct, h.fresh, h.depth, hturn, hkept⟩

theorem call_eq (h : s.call context allowReentry = some t) :
    ∃ storage, s.storage.enter ⟨s.nextFrame, context⟩ allowReentry = some storage ∧
      t = { s with
        storage := storage
        calls := ⟨s.nextFrame, context⟩ :: s.calls
        nextFrame := s.nextFrame + 1 } := by
  obtain ⟨storage, henter, rfl⟩ := Option.map_eq_some_iff.mp h
  exact ⟨storage, henter, rfl⟩

theorem Sound.call (hs : Sound s) (h : s.call context allowReentry = some t) : Sound t := by
  obtain ⟨storage, henter, rfl⟩ := call_eq h
  obtain ⟨hframes, -, -, hdepth⟩ := Storage.enter_eq henter
  refine ⟨hs.tidy.enter hs.fresh henter, fun f => ?_, ?_, fun f hf => ?_, ?_, hs.inTurn,
    fun job hjob => ?_⟩
  · change f ∈ storage.frames ↔ _
    rw [hframes, mem_append, mem_singleton, hs.active, mem_cons, or_comm, or_assoc]
  · rw [cons_append, map_cons, nodup_cons]
    refine ⟨fun hmem => ?_, hs.distinct⟩
    obtain ⟨f, hf, hid⟩ := mem_map.mp hmem
    have hlt := hs.fresh f ((hs.active f).mpr (mem_append.mp hf))
    change f.id = s.nextFrame at hid
    omega
  · change f ∈ storage.frames at hf
    rw [hframes, mem_append, mem_singleton] at hf
    obtain hold | rfl := hf
    · exact Nat.lt_succ_of_lt (hs.fresh f hold)
    · exact Nat.lt_succ_self _
  · change storage.callbackDepth = _
    rw [hdepth, hs.depth, length_cons]
  · refine (hs.kept job hjob).mono fun f hf => ?_
    change f ∈ storage.frames
    rw [hframes]
    exact mem_append_left _ hf

theorem Sound.release (hs : Sound s) {storage : Storage T} {calls suspended : List (Frame T)}
    (htidy : storage.Tidy) (hmem : ∀ f, f ∈ storage.frames ↔ f ∈ s.storage.frames ∧ f.id ≠ frame.id)
    (hrest : ∀ f, (f ∈ calls ∨ f ∈ suspended) ↔ (f ∈ s.calls ∨ f ∈ s.suspended) ∧ f.id ≠ frame.id)
    (hsub : (calls ++ suspended).Sublist (s.calls ++ s.suspended))
    (hdepth : storage.callbackDepth = calls.length) (outcome : Outcome V) : Sound { s with
      storage := storage
      calls := calls
      suspended := suspended
      jobs := s.jobs.map (finish frame outcome) } := by
  refine ⟨htidy, fun f => ?_, hs.distinct.sublist (hsub.map _), fun f hf => ?_, hdepth,
    hs.inTurn.finish, fun job hjob => ?_⟩
  · rw [hmem, hs.active, hrest]
  · exact hs.fresh f ((hmem f).mp hf).1
  · obtain ⟨old, hold, rfl⟩ := mem_map.mp hjob
    exact (hs.kept old hold).finish hmem

theorem id_ne_of_distinct {f : Frame T} {rest : List (Frame T)}
    (h : ((frame :: rest).map Frame.id).Nodup) (hf : f ∈ rest) : f.id ≠ frame.id := by
  rw [map_cons, nodup_cons] at h
  exact fun hid => h.1 (hid ▸ mem_map_of_mem hf)

theorem Sound.returns (hs : Sound s) {calls : List (Frame T)} (hcalls : s.calls = frame :: calls)
    (outcome : Outcome V) : Sound { s with
      storage := s.storage.leave frame.id outcome
      calls := calls
      jobs := s.jobs.map (finish frame outcome) } := by
  obtain ⟨htidy, hmem, hdepth⟩ := hs.tidy.leave frame.id outcome
  have hdistinct := hs.distinct
  rw [hcalls, cons_append] at hdistinct
  refine hs.release htidy hmem (fun f => ?_) ?_ ?_ outcome
  · rw [hcalls, mem_cons]
    constructor
    · intro hf
      exact ⟨hf.imp .inr id, id_ne_of_distinct hdistinct (mem_append.mpr hf)⟩
    · rintro ⟨(rfl | hf) | hf, hne⟩
      · exact absurd rfl hne
      · exact .inl hf
      · exact .inr hf
  · rw [hcalls]
    exact sublist_cons_self _ _
  · rw [hdepth, hs.depth, hcalls, length_cons, Nat.add_sub_cancel]

theorem Sound.settles (hs : Sound s) (hcalls : s.calls = []) (outcome : Outcome V) : Sound { s with
      storage := s.storage.releaseFrame frame.id
      suspended := s.suspended.filter fun other => other.id ≠ frame.id
      jobs := s.jobs.map (finish frame outcome) } := by
  refine hs.release (hs.tidy.releaseFrame frame.id) (fun f => hs.tidy.mem_release) (fun f => ?_) ?_
    ?_ outcome
  · simp only [hcalls, not_mem_nil, false_or, mem_filter, decide_eq_true_eq]
  · exact filter_sublist.append_left _
  · rw [releaseFrame_depth, hs.depth]

theorem Sound.suspends (hs : Sound s) {calls : List (Frame T)} (hcalls : s.calls = frame :: calls) :
    Sound { s with
      storage := s.storage.ascend
      calls := calls
      suspended := s.suspended ++ [frame] } := by
  refine ⟨hs.tidy.ascend, fun f => ?_, ?_, hs.fresh, ?_, hs.inTurn, hs.kept⟩
  · change f ∈ s.storage.frames ↔ _
    rw [hs.active, hcalls, mem_cons, mem_append, mem_singleton]
    tauto
  · have hperm : (calls ++ (s.suspended ++ [frame])).Perm (s.calls ++ s.suspended) := by
      rw [hcalls, ← append_assoc]
      exact perm_append_singleton frame (calls ++ s.suspended)
    exact (hperm.map Frame.id).nodup_iff.mpr hs.distinct
  · change s.storage.callbackDepth - 1 = calls.length
    rw [hs.depth, hcalls, length_cons, Nat.add_sub_cancel]

theorem turn_cases (s : System T V) (index : Nat) (job : Job T V) :
    (s.call job.context false = none ∧ s.turn index job =
        { s with jobs := s.jobs.set index { job with phase := .finishing none } }) ∨
      ∃ t, s.call job.context false = some t ∧ s.turn index job =
        { t with
          jobs := s.jobs.set index { job with phase := .running ⟨s.nextFrame, job.context⟩ } } := by
  rw [System.turn]
  split
  · rename_i hcall
    exact .inl ⟨hcall, rfl⟩
  · rename_i t hcall
    exact .inr ⟨t, hcall, rfl⟩

theorem Sound.call_none_iff (hs : Sound s) (hcalls : s.calls = []) (context : T) :
    s.call context false = none ↔ s.storage.frames ≠ [] := by
  have hdepth : s.storage.callbackDepth = 0 := by rw [hs.depth, hcalls, length_nil]
  rw [System.call, Option.map_eq_none_iff, Storage.enter, hdepth, ← length_pos_iff]
  split
  · rename_i h
    exact iff_of_true rfl h.2.2
  · rename_i h
    exact iff_of_false nofun fun hpos => h ⟨rfl, rfl, hpos⟩

theorem Kept.set {jobs : List (Job T V)} {job' : Job T V} (h : ∀ job ∈ jobs, Kept frames job)
    (hmem : ∀ f ∈ frames, f ∈ frames') (hnew : Kept frames' job') :
    ∀ job ∈ jobs.set index job', Kept frames' job := by
  intro job hjob
  obtain hold | rfl := mem_or_eq_of_mem_set hjob
  · exact (h job hold).mono hmem
  · exact hnew

theorem Sound.turn (hs : Sound s) (hget : s.jobs[index]? = some job) (hqueued : job.phase = .queued)
    (htail : tailSettled s.jobs index = true) : Sound (s.turn index job) := by
  have hopen : job.isSettled = false := by rw [Job.isSettled, hqueued]
  have hturn := hs.inTurn.set hget hopen (hs.inTurn.before htail)
  have hbody : job.body = none := by
    have hkept := hs.kept job (mem_of_getElem? hget)
    rw [Kept, hqueued] at hkept
    exact hkept
  obtain ⟨-, heq⟩ | ⟨t, hcall, heq⟩ := turn_cases s index job
  · rw [heq]
    exact hs.withJobs (hturn _) (Kept.set hs.kept (fun f hf => hf) hbody)
  · rw [heq]
    obtain ⟨storage, henter, rfl⟩ := call_eq hcall
    have hframes := (Storage.enter_eq henter).1
    refine (hs.call hcall).withJobs (hturn _) (Kept.set hs.kept (fun f hf => ?_) ⟨?_, rfl⟩)
    · change f ∈ storage.frames
      rw [hframes]
      exact mem_append_left _ hf
    · change _ ∈ storage.frames
      rw [hframes]
      exact mem_concat_self

theorem Sound.settleJob (hs : Sound s) (hget : s.jobs[index]? = some job)
    {result : Option (Outcome V)} (hphase : job.phase = .finishing result) :
    Sound { s with jobs := s.jobs.set index { job with phase := .settled result } } := by
  have hopen : job.isSettled = false := by rw [Job.isSettled, hphase]
  have hkept := hs.kept job (mem_of_getElem? hget)
  rw [Kept, hphase] at hkept
  refine hs.withJobs (hs.inTurn.set hget hopen (fun i a hi ha => ?_) _)
    (Kept.set hs.kept (fun f hf => hf) hkept)
  exact hs.inTurn i index a job hi ha hget (by rw [hphase]; nofun)

theorem step_cases {a : Action T V} (h : step s a = some t) :
    (∃ context allowReentry, s.call context allowReentry = some t ∧ ∀ i, a ≠ .turn i) ∨
      (∃ context, a = .runAsync context ∧
        t = { s with jobs := s.jobs ++ [⟨context, none, .queued⟩] }) ∨
      (∃ outcome frame calls, a = .returns outcome ∧ s.calls = frame :: calls ∧
        t = { s with
          storage := s.storage.leave frame.id outcome
          calls := calls
          jobs := s.jobs.map (finish frame outcome) }) ∨
      (∃ frame calls, a = .suspends ∧ s.calls = frame :: calls ∧
        t = { s with
          storage := s.storage.ascend
          calls := calls
          suspended := s.suspended ++ [frame] }) ∨
      (∃ frame outcome, a = .settles frame.id outcome ∧ s.calls = [] ∧
        t = { s with
          storage := s.storage.releaseFrame frame.id
          suspended := s.suspended.filter fun other => other.id ≠ frame.id
          jobs := s.jobs.map (finish frame outcome) }) ∨
      (∃ index job, a = .turn index ∧ s.calls = [] ∧ s.jobs[index]? = some job ∧
        job.phase = .queued ∧ tailSettled s.jobs index = true ∧ t = s.turn index job) ∨
      (∃ index job result, a = .settleJob index ∧ s.calls = [] ∧ s.jobs[index]? = some job ∧
        job.phase = .finishing result ∧
        t = { s with jobs := s.jobs.set index { job with phase := .settled result } }) := by
  cases a with
  | run context =>
    simp only [step] at h
    split at h
    · cases h
    · exact .inl ⟨context, false, h, nofun⟩
  | runReentrant context =>
    simp only [step] at h
    split at h
    · cases h
    · exact .inl ⟨context, true, h, nofun⟩
  | runAsync context => exact .inr (.inl ⟨context, rfl, (Option.some.inj h).symm⟩)
  | returns outcome =>
    simp only [step] at h
    split at h
    · cases h
    · rename_i frame calls hcalls
      exact .inr (.inr (.inl ⟨outcome, frame, calls, rfl, hcalls, (Option.some.inj h).symm⟩))
  | suspends =>
    simp only [step] at h
    split at h
    · cases h
    · rename_i frame calls hcalls
      exact .inr (.inr (.inr (.inl ⟨frame, calls, rfl, hcalls, (Option.some.inj h).symm⟩)))
  | settles frameId outcome =>
    simp only [step] at h
    split at h
    · cases h
    · rename_i frame hfind
      split at h
      · rename_i hcalls
        have hid : frame.id = frameId := by simpa using find?_some hfind
        refine .inr (.inr (.inr (.inr (.inl ⟨frame, outcome, by rw [hid], hcalls, ?_⟩))))
        exact (Option.some.inj h).symm
      · cases h
  | turn index =>
    simp only [step] at h
    split at h
    · cases h
    · rename_i job hget
      split at h
      · rename_i hqueued
        split at h
        · rename_i hready
          exact .inr (.inr (.inr (.inr (.inr (.inl ⟨index, job, rfl, hready.1, hget, hqueued,
            hready.2, (Option.some.inj h).symm⟩)))))
        · cases h
      · cases h
  | settleJob index =>
    simp only [step] at h
    split at h
    · cases h
    · rename_i job hget
      split at h
      · rename_i result hphase
        split at h
        · rename_i hcalls
          exact .inr (.inr (.inr (.inr (.inr (.inr ⟨index, job, result, rfl, hcalls, hget, hphase,
            (Option.some.inj h).symm⟩)))))
        · cases h
      · cases h

theorem step_sound (s : System T V) (a : Action T V) (t : System T V) (hs : Sound s)
    (h : step s a = some t) : Sound t := by
  obtain ⟨context, allowReentry, hcall, -⟩ | ⟨context, -, rfl⟩ |
    ⟨outcome, frame, calls, -, hcalls, rfl⟩ | ⟨frame, calls, -, hcalls, rfl⟩ |
    ⟨frame, outcome, -, hcalls, rfl⟩ | ⟨index, job, -, -, hget, hqueued, htail, rfl⟩ |
    ⟨index, job, result, -, -, hget, hphase, rfl⟩ := step_cases h
  · exact hs.call hcall
  · refine hs.withJobs (hs.inTurn.append rfl) fun job hjob => ?_
    obtain hold | hnew := mem_append.mp hjob
    · exact hs.kept job hold
    · rw [mem_singleton.mp hnew]
      rfl
  · exact hs.returns hcalls outcome
  · exact hs.suspends hcalls
  · exact hs.settles hcalls outcome
  · exact hs.turn hget hqueued htail
  · exact hs.settleJob hget hphase

end Steps

section Isolation

variable {s t : System T V} {jobs : List (Job T V)} {job job' : Job T V} {index : Nat}

/-- What moves a job on: the end of its body, or a callback of the promises that runs as soon
as no synchronous part does. -/
def Due (s : System T V) (index : Nat) (job : Job T V) : Prop :=
  match job.phase with
  | .queued => s.calls = [] → (step s (.turn index)).isSome = true
  | .running frame => frame ∈ s.calls ∨ frame ∈ s.suspended
  | .finishing _ => s.calls = [] → (step s (.settleJob index)).isSome = true
  | .settled _ => False

def Served (s : System T V) : Prop := ∀ job ∈ s.jobs, job.refused = false

structure Isolated (s : System T V) : Prop where
  /-- Bodies do not overlap. -/
  alone : ∀ (i j : Nat) (a b : Job T V) (f g : Frame T), s.jobs[i]? = some a →
    s.jobs[j]? = some b → a.phase = .running f → b.phase = .running g → i = j
  /-- They start in call order. -/
  order : InTurn s.jobs
  /-- A promise settles with the outcome of the body of its call. -/
  outcomes : ∀ job ∈ s.jobs, ∀ result, job.phase = .finishing result ∨ job.phase = .settled result →
    ∃ outcome, result = some outcome ∧ job.body = some outcome
  /-- While a call has not settled, the first such call waits for its own body only. -/
  moves : ∀ (i : Nat) (a : Job T V), s.jobs[i]? = some a → a.isSettled = false →
    ∃ j ≤ i, ∃ b, s.jobs[j]? = some b ∧ Due s j b
  /-- A body runs under the context of its call. -/
  bodies : ∀ job ∈ s.jobs, ∀ frame, job.phase = .running frame →
    frame.context = job.context ∧ (frame ∈ s.calls ∨ frame ∈ s.suspended)
  /-- A callback sees its context while no later one is active. -/
  own : ∀ f, f ∈ s.calls ∨ f ∈ s.suspended → (∀ g, g ∈ s.calls ∨ g ∈ s.suspended → g.id ≤ f.id) →
    s.storage.getStore = some f.context
  /-- The first value comes back. -/
  restored : s.calls = [] → s.suspended = [] →
    s.storage.getStore = (start : System T V).storage.getStore

theorem Sound.due (hs : Sound s) (hget : s.jobs[index]? = some job) (hopen : job.isSettled = false)
    (htail : job.phase = .queued → tailSettled s.jobs index = true) : Due s index job := by
  rw [Due]
  split
  · rename_i hqueued
    intro hcalls
    simp [step, hget, hqueued, hcalls, htail hqueued]
  · rename_i frame hrunning
    have hkept := hs.kept job (mem_of_getElem? hget)
    rw [Kept, hrunning] at hkept
    exact (hs.active frame).mp hkept.1
  · rename_i result hphase
    intro hcalls
    simp [step, hget, hphase, hcalls]
  · rename_i result hphase
    rw [Job.isSettled, hphase] at hopen
    cases hopen

theorem Sound.moves (hs : Sound s) (i : Nat) (a : Job T V) (ha : s.jobs[i]? = some a)
    (hopen : a.isSettled = false) : ∃ j ≤ i, ∃ b, s.jobs[j]? = some b ∧ Due s j b := by
  induction i generalizing a with
  | zero => exact ⟨0, Nat.le_refl _, a, ha, hs.due ha hopen fun _ => rfl⟩
  | succ i ih =>
    by_cases htail : tailSettled s.jobs (i + 1) = true
    · exact ⟨i + 1, Nat.le_refl _, a, ha, hs.due ha hopen fun _ => htail⟩
    · have hlt : i < s.jobs.length := by
        have := (List.getElem?_eq_some_iff.mp ha).1
        omega
      have hprevious : s.jobs[i]? = some s.jobs[i] := getElem?_eq_getElem hlt
      have hunsettled : s.jobs[i].isSettled = false := by
        simpa [tailSettled, hprevious] using htail
      obtain ⟨j, hj, hdue⟩ := ih s.jobs[i] hprevious hunsettled
      exact ⟨j, Nat.le_succ_of_le hj, hdue⟩

theorem Sound.isolated (hs : Sound s) (hserved : Served s) : Isolated s where
  alone := by
    have hbefore : ∀ (i j : Nat) (a b : Job T V) (f g : Frame T), i < j → s.jobs[i]? = some a →
        s.jobs[j]? = some b → a.phase = .running f → b.phase = .running g → False := by
      intro i j a b f g hij ha hb hf hg
      have hsettled := hs.inTurn i j a b hij ha hb (by rw [hg]; nofun)
      rw [Job.isSettled, hf] at hsettled
      cases hsettled
    intro i j a b f g ha hb hf hg
    obtain hlt | heq | hlt := Nat.lt_trichotomy i j
    · exact (hbefore i j a b f g hlt ha hb hf hg).elim
    · exact heq
    · exact (hbefore j i b a g f hlt hb ha hg hf).elim
  order := hs.inTurn
  outcomes := by
    intro job hjob result hphase
    have hkept := hs.kept job hjob
    have hrefused := hserved job hjob
    cases result with
    | none => obtain h | h := hphase <;> simp [Job.refused, h] at hrefused
    | some outcome =>
      refine ⟨outcome, rfl, ?_⟩
      obtain h | h := hphase <;> simpa [Kept, h] using hkept
  moves := hs.moves
  bodies := by
    intro job hjob frame hrunning
    have hkept := hs.kept job hjob
    rw [Kept, hrunning] at hkept
    exact ⟨hkept.2, (hs.active frame).mp hkept.1⟩
  own := fun f hf hlast => hs.tidy.getStore ((hs.active f).mpr hf) fun g hg =>
    hlast g ((hs.active g).mp hg)
  restored := by
    intro hcalls hsuspended
    have hnone : s.storage.frames = [] := by
      refine eq_nil_iff_forall_not_mem.mpr fun f hf => ?_
      rw [hs.active, hcalls, hsuspended] at hf
      simp at hf
    rw [Storage.getStore, hs.tidy.current, hnone]
    rfl

theorem Isolated.served (h : Isolated s) : Served s := by
  intro job hjob
  rw [Job.refused]
  split
  · rename_i hphase
    obtain ⟨outcome, hnone, -⟩ := h.outcomes job hjob none (.inl hphase)
    cases hnone
  · rename_i hphase
    obtain ⟨outcome, hnone, -⟩ := h.outcomes job hjob none (.inr hphase)
    cases hnone
  · rfl

def Free (s : System T V) : Action T V → Prop
  | .turn _ => s.storage.frames = []
  | _ => True

instance [DecidableEq T] (s : System T V) : (a : Action T V) → Decidable (Free s a)
  | .turn _ => inferInstanceAs (Decidable (s.storage.frames = []))
  | .run _ | .runReentrant _ | .runAsync _ | .returns _ | .suspends | .settles _ _
  | .settleJob _ => .isTrue trivial

theorem Served.append (h : Served s) (hnew : job.refused = false) :
    Served { s with jobs := s.jobs ++ [job] } := by
  intro old hold
  obtain hmem | hmem := mem_append.mp hold
  · exact h old hmem
  · rw [mem_singleton.mp hmem]
    exact hnew

theorem refused_set (h : ∀ job ∈ jobs, job.refused = false) (hnew : job.refused = false) :
    ∀ other ∈ jobs.set index job, other.refused = false := by
  intro other hother
  obtain hold | rfl := mem_or_eq_of_mem_set hother
  · exact h other hold
  · exact hnew

theorem served_turn_iff (hs : Sound s) (h : Served s) (hcalls : s.calls = [])
    (hget : s.jobs[index]? = some job) : Served (s.turn index job) ↔ s.storage.frames = [] := by
  obtain ⟨hnone, heq⟩ | ⟨t, hcall, heq⟩ := turn_cases s index job
  · rw [heq]
    refine iff_of_false (fun hserved => ?_) ((hs.call_none_iff hcalls _).mp hnone)
    have hlt := (List.getElem?_eq_some_iff.mp hget).1
    cases hserved _ (mem_set hlt _)
  · rw [heq]
    refine iff_of_true (refused_set h rfl) ?_
    by_contra hne
    cases hcall.symm.trans ((hs.call_none_iff hcalls _).mpr hne)

theorem step_served_iff (hs : Sound s) (hserved : Served s) {a : Action T V}
    (h : step s a = some t) : Served t ↔ Free s a := by
  have hfinish : ∀ (frame : Frame T) (outcome : Outcome V),
      ∀ job ∈ s.jobs.map (finish frame outcome), job.refused = false := by
    intro frame outcome job hjob
    obtain ⟨old, hold, rfl⟩ := mem_map.mp hjob
    rw [refused_finish]
    exact hserved old hold
  obtain ⟨context, allowReentry, hcall, hne⟩ | ⟨context, rfl, rfl⟩ |
    ⟨outcome, frame, calls, rfl, -, rfl⟩ | ⟨frame, calls, rfl, -, rfl⟩ |
    ⟨frame, outcome, rfl, -, rfl⟩ | ⟨index, job, rfl, hcalls, hget, -, -, rfl⟩ |
    ⟨index, job, result, rfl, -, hget, hphase, rfl⟩ := step_cases h
  · obtain ⟨storage, -, rfl⟩ := call_eq hcall
    refine iff_of_true hserved ?_
    cases a with
    | turn i => exact absurd rfl (hne i)
    | _ => trivial
  · exact iff_of_true (hserved.append rfl) trivial
  · exact iff_of_true (hfinish frame outcome) trivial
  · exact iff_of_true hserved trivial
  · exact iff_of_true (hfinish frame outcome) trivial
  · exact served_turn_iff hs hserved hcalls hget
  · refine iff_of_true (refused_set hserved ?_) trivial
    have hrefused := hserved job (mem_of_getElem? hget)
    rw [Job.refused, hphase] at hrefused
    cases result with
    | none => cases hrefused
    | some outcome => rfl

/-- The contexts stay isolated through a whole run exactly when no call of `runAsync` gets
its turn while a frame is still active. -/
theorem isolated_iff_free (as : List (Action T V)) :
    Along step (fun _ _ t => Isolated t) start as ↔ Guarded step Free start as := by
  refine along_iff_guarded step_sound (fun s a t hs hisolated h => ?_) sound_start
    (sound_start.isolated fun job hjob => by simp [start] at hjob) as
  rw [← step_served_iff hs hisolated.served h]
  exact ⟨Isolated.served, (step_sound s a t hs h).isolated⟩

/-- The first body starts reentrant work and ends before it; the second call follows. -/
def lingeringRun : List (Action String Nat) :=
  [.runAsync "actor-a", .turn 0, .runReentrant "actor-b", .suspends, .suspends,
    .settles 0 (.value 1), .settleJob 0, .runAsync "actor-c", .turn 1, .settleJob 1]

theorem lingering_frame_refuses :
    (exec step start lingeringRun).map System.jobs =
        some [⟨"actor-a", some (.value 1), .settled (some (.value 1))⟩,
          ⟨"actor-c", none, .settled none⟩] ∧
      ¬ Along step (fun _ _ t => Isolated t) start lingeringRun := by
  refine ⟨by decide, fun h => ?_⟩
  rw [isolated_iff_free] at h
  revert h
  decide

end Isolation

end ActorWeb.FallbackContext
