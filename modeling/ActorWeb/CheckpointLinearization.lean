import ActorWeb.CheckpointStores
import ActorWeb.Transition

namespace ActorWeb.SessionCheckpoint

open List Function Transition

variable {Ticket : Type}

def Stage.heldTemp (directory : String) : Stage → Option String
  | .truncated next _ _ | .written next _ => some (tempFileOf directory next)
  | _ => none

def Stage.opensTemp (directory : String) : Stage → Option String
  | .storing next _ => some (tempFileOf directory next)
  | _ => none

def Exclusive (directory : String) (s : FileStores Ticket) : FileStores.Action Ticket → Prop
  | .read _ _ _ _ | .write _ _ _ => True
  | .advance ticket =>
    ∀ path ∈ (s.calls ticket).bind fun call => call.stage.opensTemp directory,
      ∀ other, ((s.calls other).bind fun call => call.stage.heldTemp directory) ≠ some path

/-- The sizes and envelopes that the stores are used with: every file within the limit can be
read by every store, and every envelope comes from `createEnvelope`. -/
def Proper (limit : Nat) : FileStores.Action Ticket → Prop
  | .read _ options _ _ => limit ≤ options.maxBytes
  | .write _ options e => limit ≤ options.maxBytes ∧ createEnvelope e = .ok e ∧
      (serialize (FileStores.nextEnvelope options e)).utf8ByteSize ≤ limit
  | .advance _ => True

section Orders

variable (clock : Int) (order : List (Ticket × Operation))

def memoryOf : Memory := (replay clock order).1

def outcomesOf : List (Ticket × Outcome) := (replay clock order).2

variable {order}

theorem memoryOf_concat (ticket : Ticket) (op : Operation) :
    memoryOf clock (order ++ [(ticket, op)]) = ((memoryOf clock order).call clock op).1 := by
  rw [memoryOf, replay_concat, memoryOf]

theorem outcomesOf_concat (ticket : Ticket) (op : Operation) :
    outcomesOf clock (order ++ [(ticket, op)]) =
      outcomesOf clock order ++ [(ticket, ((memoryOf clock order).call clock op).2)] := by
  rw [outcomesOf, replay_concat, outcomesOf, memoryOf]

end Orders

section Invariant

variable (directory : String) (clock : Int) (limit : Nat) (s : FileStores Ticket)
variable (order : List (Ticket × Operation))

structure Writing (ticket : Ticket) (operation : Operation) (next : Envelope) : Prop where
  operation : operation = .write next
  fits : Fits limit next.sessionId next
  unplaced : ticket ∉ order.map Prod.fst
  waits : ticket ∈ s.locks (toSessionFilePath directory next.sessionId)

def Holds (ticket : Ticket) (next : Envelope) : Prop :=
  (s.locks (toSessionFilePath directory next.sessionId)).head? = some ticket

def Replaces (next : Envelope) (previous : Option Envelope) : Prop :=
  (memoryOf clock order).get next.sessionId = previous ∧
    previous.filter (fun e => e.checkpointId = next.checkpointId) = none ∧
    next.expiredAt clock = false

def StageOk (ticket : Ticket) (call : Call) : Prop :=
  match call.stage with
  | .reading options sessionId now =>
    call.operation = .read sessionId now ∧ limit ≤ options.maxBytes ∧
      ticket ∉ order.map Prod.fst
  | .readOpened options sessionId now file =>
    (∀ n, file = some n → s.disk.Settled (toSessionFilePath directory sessionId) n) ∧
      (ticket, .read (readCheckpoint options.maxBytes sessionId (file.map s.disk.texts)
        (now.getD clock))) ∈ outcomesOf clock order
  | .readDone result => (ticket, .read result) ∈ outcomesOf clock order
  | .queued options next =>
    limit ≤ options.maxBytes ∧ Writing directory limit s order ticket call.operation next
  | .locked options next =>
    limit ≤ options.maxBytes ∧ Writing directory limit s order ticket call.operation next ∧
      Holds directory s ticket next
  | .previousOpened options next file =>
    limit ≤ options.maxBytes ∧ Writing directory limit s order ticket call.operation next ∧
      Holds directory s ticket next ∧
      s.disk.links (toSessionFilePath directory next.sessionId) = file
  | .previousRead options next raw =>
    limit ≤ options.maxBytes ∧ Writing directory limit s order ticket call.operation next ∧
      Holds directory s ticket next ∧
      ((memoryOf clock order).get next.sessionId).map serialize = raw
  | .storing next previous =>
    Writing directory limit s order ticket call.operation next ∧ Holds directory s ticket next ∧
      Replaces clock order next previous
  | .truncated next previous file =>
    Writing directory limit s order ticket call.operation next ∧ Holds directory s ticket next ∧
      Replaces clock order next previous ∧
      s.disk.links (tempFileOf directory next) = some file ∧ s.disk.texts file = ""
  | .written next previous =>
    Writing directory limit s order ticket call.operation next ∧ Holds directory s ticket next ∧
      Replaces clock order next previous ∧
      s.disk.read (tempFileOf directory next) = some (serialize next)
  | .removing _ => False
  | .writeDone result => (ticket, .write result) ∈ outcomesOf clock order

/-- The files are those of the in-memory store after the calls that have taken effect. -/
structure Invariant : Prop where
  sound : s.disk.Sound
  once : (order.map Prod.fst).Nodup
  placed {ticket : Ticket} {operation : Operation} : (ticket, operation) ∈ order →
    ∃ call, s.calls ticket = some call ∧ call.operation = operation
  fits {sessionId : String} {e : Envelope} :
    (memoryOf clock order).get sessionId = some e → Fits limit sessionId e
  files (sessionId : String) : s.disk.read (toSessionFilePath directory sessionId) =
    ((memoryOf clock order).get sessionId).map serialize
  lockedOnce (path : String) : (s.locks path).Nodup
  lockers {path : String} {ticket : Ticket} : ticket ∈ s.locks path →
    ∃ call next, s.calls ticket = some call ∧ call.stage.next = some next ∧
      toSessionFilePath directory next.sessionId = path
  temps {ticket other : Ticket} {call otherCall : Call} {path : String} :
    s.calls ticket = some call → s.calls other = some otherCall →
      call.stage.heldTemp directory = some path → otherCall.stage.heldTemp directory = some path →
      ticket = other
  stages {ticket : Ticket} {call : Call} : s.calls ticket = some call →
    StageOk directory clock limit s order ticket call

end Invariant

section Frame

variable {directory : String} {clock : Int} {limit : Nat} {s s' : FileStores Ticket}
variable {order order' : List (Ticket × Operation)}

structure Frame (directory : String) (clock : Int) (s s' : FileStores Ticket)
    (order order' : List (Ticket × Operation)) (ticket : Ticket) (call : Call) : Prop where
  waits {path : String} : ticket ∈ s.locks path → ticket ∈ s'.locks path
  heads {path : String} : (s.locks path).head? = some ticket → (s'.locks path).head? = some ticket
  unplaced : ticket ∉ order.map Prod.fst → ticket ∉ order'.map Prod.fst
  outcomes {c : Ticket × Outcome} : c ∈ outcomesOf clock order → c ∈ outcomesOf clock order'
  memory {next : Envelope} : Holds directory s ticket next →
    (memoryOf clock order').get next.sessionId = (memoryOf clock order).get next.sessionId
  links {next : Envelope} : Holds directory s ticket next →
    s'.disk.links (toSessionFilePath directory next.sessionId) =
      s.disk.links (toSessionFilePath directory next.sessionId)
  settled {sessionId : String} {file : Nat} :
    s.disk.Settled (toSessionFilePath directory sessionId) file →
      s'.disk.Settled (toSessionFilePath directory sessionId) file ∧
        s'.disk.texts file = s.disk.texts file
  temp {path : String} {file : Nat} : call.stage.heldTemp directory = some path →
    s.disk.links path = some file →
      s'.disk.links path = some file ∧ s'.disk.texts file = s.disk.texts file

variable {ticket : Ticket} {call : Call}

theorem Writing.frame {operation : Operation} {next : Envelope}
    (h : Writing directory limit s order ticket operation next)
    (hf : Frame directory clock s s' order order' ticket call) :
    Writing directory limit s' order' ticket operation next :=
  { operation := h.operation
    fits := h.fits
    unplaced := hf.unplaced h.unplaced
    waits := hf.waits h.waits }

theorem Replaces.frame {next : Envelope} {previous : Option Envelope}
    (h : Replaces clock order next previous) (hholds : Holds directory s ticket next)
    (hf : Frame directory clock s s' order order' ticket call) :
    Replaces clock order' next previous :=
  ⟨(hf.memory hholds).trans h.1, h.2⟩

theorem StageOk.frame (h : StageOk directory clock limit s order ticket call)
    (hf : Frame directory clock s s' order order' ticket call) :
    StageOk directory clock limit s' order' ticket call := by
  obtain ⟨operation, stage⟩ := call
  cases stage with
  | reading options sessionId now => exact ⟨h.1, h.2.1, hf.unplaced h.2.2⟩
  | readOpened options sessionId now file =>
    obtain ⟨hsettled, hout⟩ := h
    refine ⟨fun n hn => (hf.settled (hsettled n hn)).1, ?_⟩
    have htext : file.map s'.disk.texts = file.map s.disk.texts := by
      cases file with
      | none => rfl
      | some n => exact congrArg some (hf.settled (hsettled n rfl)).2
    rw [htext]
    exact hf.outcomes hout
  | readDone result => exact hf.outcomes h
  | queued options next => exact ⟨h.1, h.2.frame hf⟩
  | locked options next => exact ⟨h.1, h.2.1.frame hf, hf.heads h.2.2⟩
  | previousOpened options next file =>
    obtain ⟨hlimit, hwriting, hholds, hlinks⟩ := h
    exact ⟨hlimit, hwriting.frame hf, hf.heads hholds, (hf.links hholds).trans hlinks⟩
  | previousRead options next raw =>
    obtain ⟨hlimit, hwriting, hholds, hraw⟩ := h
    refine ⟨hlimit, hwriting.frame hf, hf.heads hholds, ?_⟩
    rw [hf.memory hholds]
    exact hraw
  | storing next previous =>
    obtain ⟨hwriting, hholds, hreplaces⟩ := h
    exact ⟨hwriting.frame hf, hf.heads hholds, hreplaces.frame hholds hf⟩
  | truncated next previous file =>
    obtain ⟨hwriting, hholds, hreplaces, hlinks, htext⟩ := h
    obtain ⟨hlinks', htext'⟩ := hf.temp rfl hlinks
    exact ⟨hwriting.frame hf, hf.heads hholds, hreplaces.frame hholds hf, hlinks',
      htext'.trans htext⟩
  | written next previous =>
    obtain ⟨hwriting, hholds, hreplaces, hread⟩ := h
    obtain ⟨file, hlinks, htext⟩ := Option.map_eq_some_iff.mp hread
    obtain ⟨hlinks', htext'⟩ := hf.temp rfl hlinks
    exact ⟨hwriting.frame hf, hf.heads hholds, hreplaces.frame hholds hf,
      Option.map_eq_some_iff.mpr ⟨file, hlinks', htext'.trans htext⟩⟩
  | removing next => exact h
  | writeDone result => exact hf.outcomes h

end Frame

section Moves

variable {directory : String} {clock : Int} {limit : Nat} {s s' : FileStores Ticket}
variable {order order' : List (Ticket × Operation)} {ticket : Ticket} {call old : Call}

/-- The order after a step of a call: as before, or with the call at its end. -/
inductive Places (order : List (Ticket × Operation)) (ticket : Ticket) (operation : Operation) :
    List (Ticket × Operation) → Prop
  | none : Places order ticket operation order
  | last : ticket ∉ order.map Prod.fst →
      Places order ticket operation (order ++ [(ticket, operation)])

namespace Places

variable {operation : Operation}

theorem once (h : Places order ticket operation order') (hn : (order.map Prod.fst).Nodup) :
    (order'.map Prod.fst).Nodup := by
  cases h with
  | none => exact hn
  | last hfresh =>
    rw [map_append, nodup_append]
    refine ⟨hn, nodup_singleton _, fun a ha b hb => ?_⟩
    rw [mem_singleton.mp hb]
    rintro rfl
    exact hfresh ha

theorem mem (h : Places order ticket operation order') {c : Ticket × Operation} (hc : c ∈ order') :
    c ∈ order ∨ c = (ticket, operation) := by
  cases h with
  | none => exact .inl hc
  | last => exact (mem_append.mp hc).imp_right mem_singleton.mp

theorem unplaced (h : Places order ticket operation order') {other : Ticket} (hne : other ≠ ticket)
    (ho : other ∉ order.map Prod.fst) : other ∉ order'.map Prod.fst := by
  cases h with
  | none => exact ho
  | last =>
    rw [map_append, mem_append]
    exact fun hm => hm.elim ho fun hm => hne (mem_singleton.mp hm)

theorem outcomes (h : Places order ticket operation order') {c : Ticket × Outcome}
    (hc : c ∈ outcomesOf clock order) : c ∈ outcomesOf clock order' := by
  cases h with
  | none => exact hc
  | last =>
    rw [outcomesOf_concat]
    exact mem_append_left _ hc

end Places

theorem outcome_last (clock : Int) (order : List (Ticket × Operation)) (ticket : Ticket)
    (operation : Operation) : (ticket, ((memoryOf clock order).call clock operation).2) ∈
      outcomesOf clock (order ++ [(ticket, operation)]) := by
  rw [outcomesOf_concat]
  exact mem_append_right _ mem_cons_self

theorem Frame.of_disk (operation : Operation) {other : Ticket} {otherCall : Call}
    (hne : other ≠ ticket) (hplaces : Places order ticket operation order')
    (hmemory : memoryOf clock order' = memoryOf clock order) (hdisk : s'.disk = s.disk)
    (hwaits : ∀ path, other ∈ s.locks path → other ∈ s'.locks path)
    (hheads : ∀ path, (s.locks path).head? = some other → (s'.locks path).head? = some other) :
    Frame directory clock s s' order order' other otherCall :=
  { waits := fun {path} => hwaits path
    heads := fun {path} => hheads path
    unplaced := hplaces.unplaced hne
    outcomes := hplaces.outcomes
    memory := fun _ => by rw [hmemory]
    links := fun _ => by rw [hdisk]
    settled := fun hs => by rw [hdisk]; exact ⟨hs, rfl⟩
    temp := fun _ hl => by rw [hdisk]; exact ⟨hl, rfl⟩ }

theorem Invariant.lockers_kept (h : Invariant directory clock limit s order)
    (hfound : s.calls ticket = some old) (hnext : call.stage.next = old.stage.next) (path : String)
    (other : Ticket) (hmem : other ∈ s.locks path) : (other ≠ ticket ∧ other ∈ s.locks path) ∨
      (other = ticket ∧ ∃ next, call.stage.next = some next ∧
        toSessionFilePath directory next.sessionId = path) := by
  by_cases hne : other = ticket
  · subst hne
    obtain ⟨found, next, hfound', hn, hpath⟩ := h.lockers hmem
    obtain rfl := Option.some.inj (hfound.symm.trans hfound')
    exact .inr ⟨rfl, next, hnext.trans hn, hpath⟩
  · exact .inl ⟨hne, hmem⟩

variable [DecidableEq Ticket]

theorem Invariant.moved (h : Invariant directory clock limit s order)
    (hcalls : s'.calls = update s.calls ticket (some call))
    (hold : ∀ old, s.calls ticket = some old → call.operation = old.operation)
    (hplaces : Places order ticket call.operation order') (hsound : s'.disk.Sound)
    (hfits : ∀ sessionId e, (memoryOf clock order').get sessionId = some e → Fits limit sessionId e)
    (hfiles : ∀ sessionId, s'.disk.read (toSessionFilePath directory sessionId) =
      ((memoryOf clock order').get sessionId).map serialize)
    (hlockedOnce : ∀ path, (s'.locks path).Nodup)
    (hlockers : ∀ path other, other ∈ s'.locks path → (other ≠ ticket ∧ other ∈ s.locks path) ∨
      (other = ticket ∧ ∃ next, call.stage.next = some next ∧
        toSessionFilePath directory next.sessionId = path))
    (htemps : ∀ path, call.stage.heldTemp directory = some path → ∀ other otherCall,
      other ≠ ticket → s.calls other = some otherCall →
        otherCall.stage.heldTemp directory ≠ some path)
    (hframe : ∀ other otherCall, other ≠ ticket → s.calls other = some otherCall →
      Frame directory clock s s' order order' other otherCall)
    (hstage : StageOk directory clock limit s' order' ticket call) :
    Invariant directory clock limit s' order' := by
  have hself : s'.calls ticket = some call := by rw [hcalls, update_self]
  have hother : ∀ {other}, other ≠ ticket → s'.calls other = s.calls other := by
    intro other hne
    rw [hcalls, update_of_ne hne]
  refine
    { sound := hsound
      once := hplaces.once h.once
      placed := ?placed
      fits := fun {sessionId e} => hfits sessionId e
      files := hfiles
      lockedOnce := hlockedOnce
      lockers := ?lockers
      temps := ?temps
      stages := ?stages }
  case placed =>
    intro other operation hmem
    obtain hmem | heq := hplaces.mem hmem
    · obtain ⟨found, hfound, hoperation⟩ := h.placed hmem
      by_cases hne : other = ticket
      · subst hne
        exact ⟨call, hself, (hold found hfound).trans hoperation⟩
      · exact ⟨found, (hother hne).trans hfound, hoperation⟩
    · cases heq
      exact ⟨call, hself, rfl⟩
  case lockers =>
    intro path other hmem
    obtain ⟨hne, hmem⟩ | ⟨rfl, next, hnext, hpath⟩ := hlockers path other hmem
    · obtain ⟨found, next, hfound, hnext⟩ := h.lockers hmem
      exact ⟨found, next, (hother hne).trans hfound, hnext⟩
    · exact ⟨call, next, hself, hnext, hpath⟩
  case temps =>
    intro one other oneCall otherCall path hone hotherCall honeTemp hotherTemp
    by_cases hticket : one = ticket <;> by_cases hoticket : other = ticket
    · rw [hticket, hoticket]
    · subst hticket
      obtain rfl := Option.some.inj (hself.symm.trans hone)
      exact absurd hotherTemp
        (htemps path honeTemp other otherCall hoticket ((hother hoticket).symm.trans hotherCall))
    · subst hoticket
      obtain rfl := Option.some.inj (hself.symm.trans hotherCall)
      exact absurd honeTemp
        (htemps path hotherTemp one oneCall hticket ((hother hticket).symm.trans hone))
    · exact h.temps ((hother hticket).symm.trans hone) ((hother hoticket).symm.trans hotherCall)
        honeTemp hotherTemp
  case stages =>
    intro other otherCall hfound
    by_cases hne : other = ticket
    · subst hne
      obtain rfl := Option.some.inj (hself.symm.trans hfound)
      exact hstage
    · have hfound := (hother hne).symm.trans hfound
      exact (h.stages hfound).frame (hframe other otherCall hne hfound)

theorem Invariant.quiet (h : Invariant directory clock limit s order)
    (hfound : s.calls ticket = some old) (hoperation : call.operation = old.operation)
    (hnext : call.stage.next = old.stage.next) (hheld : call.stage.heldTemp directory = none)
    (hplaces : Places order ticket call.operation order')
    (hmemory : memoryOf clock order' = memoryOf clock order)
    (hstage : StageOk directory clock limit (s.setCall ticket call) order' ticket call) :
    Invariant directory clock limit (s.setCall ticket call) order' := by
  refine h.moved rfl ?_ hplaces h.sound ?_ ?_ h.lockedOnce ?_ ?_ ?_ hstage
  · intro found hfound'
    rw [Option.some.inj (hfound'.symm.trans hfound), hoperation]
  · rw [hmemory]
    exact fun sessionId e => h.fits
  · rw [hmemory]
    exact h.files
  · exact h.lockers_kept hfound hnext
  · intro path hpath
    rw [hheld] at hpath
    cases hpath
  · intro other otherCall hne _
    exact .of_disk call.operation hne hplaces hmemory rfl (fun _ hm => hm) (fun _ hm => hm)

end Moves

section Starts

variable {directory : String} {clock : Int} {limit : Nat} {s : FileStores Ticket}
variable {order : List (Ticket × Operation)} {ticket : Ticket}

theorem Invariant.unplaced (h : Invariant directory clock limit s order)
    (hfree : s.calls ticket = none) : ticket ∉ order.map Prod.fst := by
  intro hmem
  obtain ⟨⟨other, operation⟩, hplaced, rfl⟩ := mem_map.mp hmem
  obtain ⟨call, hcall, -⟩ := h.placed hplaced
  exact absurd (hfree.symm.trans hcall) (by simp)

theorem Invariant.unlocked (h : Invariant directory clock limit s order)
    (hfree : s.calls ticket = none) (path : String) : ticket ∉ s.locks path := by
  intro hmem
  obtain ⟨call, next, hcall, -⟩ := h.lockers hmem
  exact absurd (hfree.symm.trans hcall) (by simp)

theorem invariant_start : Invariant directory clock limit (FileStores.start : FileStores Ticket) [] :=
  { sound := Disk.sound_empty
    once := nodup_nil
    placed := fun hmem => absurd hmem not_mem_nil
    fits := by intro sessionId e hget; cases hget
    files := fun _ => rfl
    lockedOnce := fun _ => nodup_nil
    lockers := fun hmem => absurd hmem not_mem_nil
    temps := by intro ticket other call otherCall path hcall; cases hcall
    stages := by intro ticket call hcall; cases hcall }

variable [DecidableEq Ticket]

theorem Invariant.read (h : Invariant directory clock limit s order)
    (hfree : s.calls ticket = none) {options : StoreOptions} (hlimit : limit ≤ options.maxBytes)
    (sessionId : String) (now : Option Int) : Invariant directory clock limit
      (s.setCall ticket ⟨.read sessionId now, .reading options sessionId now⟩) order := by
  refine h.moved rfl ?_ .none h.sound (fun _ _ => h.fits) h.files h.lockedOnce ?_ ?_ ?_ ?_
  · intro old hold
    exact absurd (hfree.symm.trans hold) (by simp)
  · intro path other hmem
    refine .inl ⟨?_, hmem⟩
    rintro rfl
    exact h.unlocked hfree path hmem
  · intro path hpath
    cases hpath
  · intro other otherCall hne _
    exact .of_disk (.read sessionId now) hne .none rfl rfl (fun _ hm => hm) fun _ hm => hm
  · exact ⟨rfl, hlimit, h.unplaced hfree⟩

theorem Invariant.write (h : Invariant directory clock limit s order)
    (hfree : s.calls ticket = none) {options : StoreOptions} (hlimit : limit ≤ options.maxBytes)
    {next : Envelope} (hfits : Fits limit next.sessionId next) : Invariant directory clock limit
      ((s.enqueue (toSessionFilePath directory next.sessionId) ticket).setCall ticket
        ⟨.write next, .queued options next⟩) order := by
  have hlocks : ∀ path other, other ∈ (s.enqueue (toSessionFilePath directory next.sessionId)
      ticket).locks path ↔ other ∈ s.locks path ∨
        (path = toSessionFilePath directory next.sessionId ∧ other = ticket) := by
    intro path other
    by_cases hpath : path = toSessionFilePath directory next.sessionId
    · subst hpath
      simp [FileStores.enqueue]
    · simp [FileStores.enqueue, hpath]
  refine h.moved rfl ?_ .none h.sound (fun _ _ => h.fits) h.files ?_ ?_ ?_ ?_ ?_
  · intro old hold
    exact absurd (hfree.symm.trans hold) (by simp)
  · intro path
    by_cases hpath : path = toSessionFilePath directory next.sessionId
    · subst hpath
      simp only [FileStores.setCall, FileStores.enqueue, update_self]
      rw [nodup_append]
      refine ⟨h.lockedOnce _, nodup_singleton _, fun other hother queued hqueued => ?_⟩
      rw [mem_singleton.mp hqueued]
      rintro rfl
      exact h.unlocked hfree _ hother
    · simp only [FileStores.setCall, FileStores.enqueue, update_of_ne hpath]
      exact h.lockedOnce path
  · intro path other hmem
    obtain hold | ⟨rfl, rfl⟩ := (hlocks path other).mp hmem
    · refine .inl ⟨?_, hold⟩
      rintro rfl
      exact h.unlocked hfree path hold
    · exact .inr ⟨rfl, next, rfl, rfl⟩
  · intro path hpath
    cases hpath
  · intro other otherCall hne _
    refine .of_disk (.write next) hne .none rfl rfl
      (fun path hm => (hlocks path other).mpr (.inl hm)) fun path hhead => ?_
    by_cases hpath : path = toSessionFilePath directory next.sessionId
    · subst hpath
      simp only [FileStores.setCall, FileStores.enqueue, update_self, head?_append, hhead,
        Option.some_or]
    · simp only [FileStores.setCall, FileStores.enqueue, update_of_ne hpath, hhead]
  · refine ⟨hlimit, rfl, hfits, h.unplaced hfree, ?_⟩
    exact (hlocks _ ticket).mpr (.inr ⟨rfl, rfl⟩)

end Starts

section Release

variable {directory : String} {clock : Int} {limit : Nat} {s : FileStores Ticket}
variable {order : List (Ticket × Operation)} {ticket other : Ticket} {call : Call} {next : Envelope}

theorem Holds.release_waits (hholds : Holds directory s ticket next) (hne : other ≠ ticket)
    {path : String} (hmem : other ∈ s.locks path) :
    other ∈ (s.release (toSessionFilePath directory next.sessionId)).locks path := by
  by_cases hpath : path = toSessionFilePath directory next.sessionId
  · subst hpath
    obtain ⟨rest, hrest⟩ := head?_eq_some_iff.mp hholds
    rw [hrest] at hmem
    simp only [FileStores.release, update_self, hrest, tail_cons]
    exact (mem_cons.mp hmem).resolve_left hne
  · simpa only [FileStores.release, update_of_ne hpath] using hmem

theorem Holds.release_heads (hholds : Holds directory s ticket next) (hne : other ≠ ticket)
    {path : String} (hhead : (s.locks path).head? = some other) :
    ((s.release (toSessionFilePath directory next.sessionId)).locks path).head? = some other := by
  have hpath : path ≠ toSessionFilePath directory next.sessionId := by
    rintro rfl
    exact hne (Option.some.inj (hhead.symm.trans hholds))
  simpa only [FileStores.release, update_of_ne hpath] using hhead

theorem Invariant.release_once (h : Invariant directory clock limit s order) (released path : String) :
    ((s.release released).locks path).Nodup := by
  by_cases hpath : path = released
  · subst hpath
    simp only [FileStores.release, update_self]
    exact (h.lockedOnce path).sublist (tail_sublist _)
  · simp only [FileStores.release, update_of_ne hpath]
    exact h.lockedOnce path

theorem Invariant.release_lockers (h : Invariant directory clock limit s order)
    (hfound : s.calls ticket = some call) (hnext : call.stage.next = some next)
    (hholds : Holds directory s ticket next) {path : String}
    (hmem : other ∈ (s.release (toSessionFilePath directory next.sessionId)).locks path) :
    other ≠ ticket ∧ other ∈ s.locks path := by
  by_cases hpath : path = toSessionFilePath directory next.sessionId
  · subst hpath
    obtain ⟨rest, hrest⟩ := head?_eq_some_iff.mp hholds
    have hn := h.lockedOnce (toSessionFilePath directory next.sessionId)
    simp only [FileStores.release, update_self, hrest, tail_cons] at hmem
    rw [hrest] at hn ⊢
    refine ⟨?_, mem_cons_of_mem _ hmem⟩
    rintro rfl
    exact (nodup_cons.mp hn).1 hmem
  · simp only [FileStores.release, update_of_ne hpath] at hmem
    refine ⟨?_, hmem⟩
    rintro rfl
    obtain ⟨found, locked, hfound', hlocked, rfl⟩ := h.lockers hmem
    obtain rfl := Option.some.inj (hfound.symm.trans hfound')
    obtain rfl := Option.some.inj (hnext.symm.trans hlocked)
    exact hpath rfl

variable [DecidableEq Ticket]

theorem Invariant.refused (h : Invariant directory clock limit s order)
    (hfound : s.calls ticket = some call) (hnext : call.stage.next = some next)
    (hwriting : Writing directory limit s order ticket call.operation next)
    (hholds : Holds directory s ticket next) {result : WriteResult}
    (hresult : (memoryOf clock order).write clock next = (memoryOf clock order, result)) :
    Invariant directory clock limit
      ((s.release (toSessionFilePath directory next.sessionId)).setCall ticket
        ⟨call.operation, .writeDone result⟩) (order ++ [(ticket, call.operation)]) := by
  have hcall : (memoryOf clock order).call clock call.operation =
      (memoryOf clock order, .write result) := by
    rw [hwriting.operation, Memory.call, hresult]
  have hmemory : memoryOf clock (order ++ [(ticket, call.operation)]) = memoryOf clock order := by
    rw [memoryOf_concat, hcall]
  refine h.moved rfl ?_ (.last hwriting.unplaced) h.sound ?_ ?_ (h.release_once _) ?_ ?_ ?_ ?_
  · intro old hold
    rw [Option.some.inj (hfound.symm.trans hold)]
  · rw [hmemory]
    exact fun _ _ => h.fits
  · rw [hmemory]
    exact h.files
  · exact fun path other hmem => .inl (h.release_lockers hfound hnext hholds hmem)
  · intro path hpath
    cases hpath
  · intro other otherCall hne _
    exact .of_disk call.operation hne (.last hwriting.unplaced) hmemory rfl (fun _ hm => hholds.release_waits hne hm) (fun _ hh => hholds.release_heads hne hh)
  · have hlast := outcome_last clock order ticket call.operation
    rw [hcall] at hlast
    exact hlast

end Release

section Files

variable {directory : String} {clock : Int} {limit : Nat} {s : FileStores Ticket}
variable {order : List (Ticket × Operation)} {ticket : Ticket} {operation : Operation}
variable {next : Envelope} {previous : Option Envelope}

variable [DecidableEq Ticket]

theorem Invariant.truncated (h : Invariant directory clock limit s order)
    (hfound : s.calls ticket = some ⟨operation, .storing next previous⟩)
    (hfree : ∀ other call, s.calls other = some call →
      call.stage.heldTemp directory ≠ some (tempFileOf directory next)) :
    Invariant directory clock limit
      ({ s with disk := (s.disk.truncate (tempFileOf directory next)).1 }.setCall ticket
        ⟨operation, .truncated next previous (s.disk.truncate (tempFileOf directory next)).2⟩)
      order := by
  obtain ⟨hwriting, hholds, hreplaces⟩ := h.stages hfound
  have hne := fun sessionId => sessionFile_ne_tempFile directory sessionId next
  refine h.moved rfl ?_ .none (h.sound.truncate _) (fun _ _ => h.fits) ?_ h.lockedOnce ?_ ?_ ?_ ?_
  · intro old hold
    rw [← Option.some.inj (hfound.symm.trans hold)]
  · exact fun sessionId => (h.sound.read_truncate (hne sessionId)).trans (h.files sessionId)
  · exact h.lockers_kept hfound rfl
  · intro path hpath other otherCall _ hother
    rw [← Option.some.inj hpath]
    exact hfree other otherCall hother
  · intro other otherCall hticket hother
    exact
      { waits := id
        heads := id
        unplaced := id
        outcomes := id
        memory := fun _ => rfl
        links := fun _ => Disk.truncate_links (hne _)
        settled := fun hs => ⟨hs.truncate (hne _), hs.truncate_text (hne _)⟩
        temp := fun hheld hlinks => h.sound.truncate_held hlinks fun heq =>
          hfree other otherCall hother (heq ▸ hheld) }
  · exact ⟨⟨hwriting.operation, hwriting.fits, hwriting.unplaced, hwriting.waits⟩, hholds, hreplaces,
      Disk.truncate_linked, Disk.truncate_text⟩

theorem Invariant.written {file : Nat} (h : Invariant directory clock limit s order)
    (hfound : s.calls ticket = some ⟨operation, .truncated next previous file⟩) :
    Invariant directory clock limit
      ({ s with disk := s.disk.write file (serialize next) }.setCall ticket
        ⟨operation, .written next previous⟩) order := by
  obtain ⟨hwriting, hholds, hreplaces, hlinked, htext⟩ := h.stages hfound
  have hne := fun sessionId => sessionFile_ne_tempFile directory sessionId next
  have hfree : ∀ other call, other ≠ ticket → s.calls other = some call →
      call.stage.heldTemp directory ≠ some (tempFileOf directory next) := by
    intro other call hticket hother hheld
    exact hticket (h.temps hother hfound hheld rfl)
  refine h.moved rfl ?_ .none (h.sound.write _ _) (fun _ _ => h.fits) ?_ h.lockedOnce ?_ ?_ ?_ ?_
  · intro old hold
    rw [← Option.some.inj (hfound.symm.trans hold)]
  · exact fun sessionId =>
      (h.sound.read_write hlinked (hne sessionId) _).trans (h.files sessionId)
  · exact h.lockers_kept hfound rfl
  · intro path hpath other otherCall hticket hother
    rw [← Option.some.inj hpath]
    exact hfree other otherCall hticket hother
  · intro other otherCall hticket hother
    exact
      { waits := id
        heads := id
        unplaced := id
        outcomes := id
        memory := fun _ => rfl
        links := fun _ => rfl
        settled := fun hs => ⟨hs.write _ _, hs.write_text hlinked (hne _) _⟩
        temp := fun hheld hlinks => h.sound.write_held hlinked hlinks (fun heq =>
          hfree other otherCall hticket hother (heq ▸ hheld)) _ }
  · refine ⟨⟨hwriting.operation, hwriting.fits, hwriting.unplaced, hwriting.waits⟩, hholds, hreplaces,
      Option.map_eq_some_iff.mpr ⟨file, hlinked, ?_⟩⟩
    simp only [FileStores.setCall, Disk.write, update_self, htext, Disk.overwrite_empty]

theorem Invariant.renamed (h : Invariant directory clock limit s order)
    (hfound : s.calls ticket = some ⟨operation, .written next previous⟩) {disk : Disk String}
    (hrename : s.disk.rename (tempFileOf directory next)
      (toSessionFilePath directory next.sessionId) = some disk) : Invariant directory clock limit
      (({ s with disk := disk }.release (toSessionFilePath directory next.sessionId)).setCall ticket
        ⟨operation, .writeDone (writeResult next previous)⟩) (order ++ [(ticket, operation)]) := by
  obtain ⟨hwriting, hholds, ⟨hprevious, hfresh, hexpired⟩, hread⟩ := h.stages hfound
  have hne := fun sessionId => sessionFile_ne_tempFile directory sessionId next
  have hwrite : (memoryOf clock order).call clock operation =
      ((memoryOf clock order).set next.sessionId next, .write (writeResult next previous)) := by
    have hoperation : operation = .write next := hwriting.operation
    rw [hoperation, Memory.call, Memory.write_fresh (hprevious ▸ hfresh), hexpired, hprevious]
    rfl
  have hmemory : memoryOf clock (order ++ [(ticket, operation)]) =
      (memoryOf clock order).set next.sessionId next := by
    rw [memoryOf_concat, hwrite]
  have hplaces : Places order ticket operation (order ++ [(ticket, operation)]) :=
    .last hwriting.unplaced
  refine h.moved rfl ?_ hplaces (h.sound.rename hrename) ?_ ?_ (h.release_once _) ?_ ?_ ?_ ?_
  · intro old hold
    rw [← Option.some.inj (hfound.symm.trans hold)]
  · intro sessionId e
    rw [hmemory, OrderedMap.get_set]
    split
    case isTrue heq =>
      rintro ⟨⟩
      exact heq ▸ hwriting.fits
    case isFalse => exact h.fits
  · intro sessionId
    rw [hmemory, OrderedMap.get_set]
    split
    case isTrue heq =>
      rw [heq]
      exact (Disk.read_rename hrename).trans hread
    case isFalse hsession =>
      rw [← h.files sessionId]
      exact Disk.read_rename_ne hrename (hne sessionId)
        fun heq => hsession (toSessionFilePath_injective heq)
  · exact fun path other hmem => .inl (h.release_lockers hfound rfl hholds hmem)
  · intro path hpath
    cases hpath
  · intro other otherCall hticket hother
    have hsession : ∀ {held : Envelope}, Holds directory s other held →
        held.sessionId ≠ next.sessionId := by
      intro held hheld heq
      rw [Holds, heq] at hheld
      exact hticket (Option.some.inj (hheld.symm.trans hholds))
    exact
      { waits := hholds.release_waits hticket
        heads := hholds.release_heads hticket
        unplaced := hplaces.unplaced hticket
        outcomes := hplaces.outcomes
        memory := fun hheld => by rw [hmemory, OrderedMap.get_set_ne _ _ (hsession hheld)]
        links := fun hheld => Disk.rename_links hrename (hne _) fun heq =>
          hsession hheld (toSessionFilePath_injective heq)
        settled := fun hs =>
          ⟨hs.rename hrename (hne _), congrFun (Disk.rename_texts hrename) _⟩
        temp := fun {path file} hheld hlinks => by
          have hpath : path ≠ tempFileOf directory next := by
            rintro rfl
            exact hticket (h.temps hother hfound hheld rfl)
          have htarget : path ≠ toSessionFilePath directory next.sessionId := by
            obtain ⟨e, rfl⟩ : ∃ e, path = tempFileOf directory e := by
              unfold Stage.heldTemp at hheld
              split at hheld
              case h_1 e _ _ _ => exact ⟨e, (Option.some.inj hheld).symm⟩
              case h_2 e _ _ => exact ⟨e, (Option.some.inj hheld).symm⟩
              case h_3 => cases hheld
            exact (sessionFile_ne_tempFile directory next.sessionId e).symm
          exact ⟨(Disk.rename_links hrename hpath htarget).trans hlinks,
            congrFun (Disk.rename_texts hrename) _⟩ }
  · have hlast := outcome_last clock order ticket operation
    rw [hwrite] at hlast
    exact hlast

end Files

end ActorWeb.SessionCheckpoint
