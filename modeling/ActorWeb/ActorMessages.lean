import ActorWeb.ActorSegments
import ActorWeb.Counting
import ActorWeb.Transition

namespace ActorWeb.ActorSystem

open List Supervision Transition Counting Function

def Entry.about (m : Message) : Entry → Bool
  | .handled _ m' | .filtered m' | .skipped m' | .dropped m' => m' = m
  | _ => false

def Call.holds (m : Message) : Call → Bool
  | .enqueue _ m' | .dequeued _ m' | .deliver _ m' .interceptors | .deliver _ m' .onStart => m' = m
  | _ => false

def Request.holds (m : Message) : Request → Bool
  | .deliver _ m' => m' = m
  | .await c => c.holds m
  | _ => false

def System.queues (s : System) : List Message := s.boxes.flatMap BoundedMailbox.queue

def System.settled (s : System) (m : Message) : Nat :=
  s.log.countP (Entry.about m) + s.deadLetters.count m + s.queues.count m

def System.inHand (s : System) (m : Message) : Nat := s.invocations.countP fun v => v.call.holds m

def one (b : Bool) : Nat := if b then 1 else 0

variable {s t u : System} {p : ActorAddress} {i : Nat} {v : Invocation} {n : Next} {m : Message}

theorem settled_record (s : System) (e : Entry) :
    (s.record e).settled m = s.settled m + one (e.about m) := by
  simp only [System.settled, System.record, countP_cons, System.queues, one]
  omega

theorem Untouched.settled (h : Untouched s t) (m : Message) : t.settled m = s.settled m := by
  obtain ⟨es, hes, hsilent⟩ := h.log
  have hnone : es.countP (Entry.about m) = 0 := by
    rw [countP_eq_zero]
    intro e he
    have hquiet := hsilent e he
    revert hquiet
    cases e <;> simp [Entry.about, Entry.Silent]
  rw [System.settled, System.queues, hes, h.deadLetters, h.boxes, countP_append, hnone,
    Nat.zero_add]
  rfl

variable {box : Nat} {b : BoundedMailbox Message} {o : Outcome}

theorem settled_setBox (m : Message) (b' : BoundedMailbox Message) (hb : s.boxes[box]? = some b) :
    System.settled { s with boxes := s.boxes.set box b' } m + b.queue.count m =
      s.settled m + b'.queue.count m := by
  have hset := count_flatMap_set (f := BoundedMailbox.queue) b' hb m
  simp only [System.settled, System.queues]
  omega

theorem count_cons_one (m m' : Message) (l : List Message) :
    (m' :: l).count m = l.count m + one (decide (m' = m)) := by
  simp [count_cons, one]

theorem settled_dequeue {m' : Message} {b' : BoundedMailbox Message}
    (h : s.boxes[box]?.bind BoundedMailbox.dequeue = some (m', b')) :
    System.settled { s with boxes := s.boxes.set box b' } m + one (decide (m' = m)) =
      s.settled m := by
  obtain ⟨b, hb, hbm⟩ := Option.bind_eq_some_iff.mp h
  have hset := settled_setBox m b' hb
  rw [BoundedMailbox.queue_of_dequeue hbm, count_cons_one] at hset
  omega

theorem settled_deadLetter (s : System) (m m' : Message) :
    System.settled { s with deadLetters := m' :: s.deadLetters } m =
      s.settled m + one (decide (m' = m)) := by
  simp only [System.settled, count_cons_one, System.queues]
  omega

/-- Mailboxes belong to the path they were made for, and handlers handle their own messages. -/
structure Held (owner : Nat → ActorAddress) (s : System) : Prop where
  mailbox : ∀ p box, s.mailboxes p = some box → owner box = p ∧ box < s.boxes.length
  queue : ∀ (box : Nat) b m, s.boxes[box]? = some b → m ∈ b.queue → m.address = owner box
  handled : ∀ p m, .handled p m ∈ s.log → m.address = p

def Call.Addressed : Call → Prop
  | .enqueue p m | .dequeued p m | .deliver p m _ => m.address = p
  | _ => True

def Request.Addressed : Request → Prop
  | .deliver p m => m.address = p
  | .await c => c.Addressed
  | _ => True

def Base.Owned (owner : Nat → ActorAddress) (boxes : Nat) : Base → Prop
  | .processing p box _ => owner box = p ∧ box < boxes
  | _ => True

def Loops (s t : System) : Prop :=
  ∃ vs, t.invocations = s.invocations ++ vs ∧
    ∀ w ∈ vs, w.call = .macrotask ∧ ∃ p, w.base = .scheduled p

structure Next.Moves (owner : Nat → ActorAddress) (s : System) (v : Invocation) (n : Next) :
    Prop where
  given : n.system.given = s.given
  settled : ∀ m, n.system.settled m + one (n.request.holds m) = s.settled m + one (v.call.holds m)
  loops : Loops s n.system
  held : Held owner n.system
  boxes_le : s.boxes.length ≤ n.system.boxes.length
  base : n.base.Owned owner n.system.boxes.length
  request : n.request.Addressed

variable {owner : Nat → ActorAddress}

theorem loops_of_eq (h : t.invocations = s.invocations) : Loops s t :=
  ⟨[], by rw [h, append_nil], by simp⟩

theorem Held.of_eq (h : Held owner s) (hm : t.mailboxes = s.mailboxes) (hb : t.boxes = s.boxes)
    (hlog : ∀ p m, .handled p m ∈ t.log → .handled p m ∈ s.log) : Held owner t where
  mailbox := by
    rw [hm, hb]
    exact h.mailbox
  queue := by
    rw [hb]
    exact h.queue
  handled := fun p m hp => h.handled p m (hlog p m hp)

theorem Untouched.held (h : Untouched s t) (hs : Held owner s) : Held owner t := by
  refine hs.of_eq h.mailboxes h.boxes fun p m hp => ?_
  obtain ⟨es, hes, hsilent⟩ := h.log
  rw [hes] at hp
  exact (mem_append.mp hp).resolve_left fun he => hsilent _ he

theorem held_setBox (h : Held owner s) (box : Nat) (hqueue : ∀ m ∈ b.queue, m.address = owner box) :
    Held owner { s with boxes := s.boxes.set box b } where
  mailbox := by
    simp only [length_set]
    exact h.mailbox
  queue := by
    intro box' b' m hb' hm
    rw [getElem?_set] at hb'
    by_cases he : box = box'
    · rw [if_pos he] at hb'
      split at hb'
      · cases hb'
        exact he ▸ hqueue m hm
      · cases hb'
    · rw [if_neg he] at hb'
      exact h.queue box' b' m hb' hm
  handled := h.handled

theorem held_dequeue (h : Held owner s) {m : Message}
    (hd : s.boxes[box]?.bind BoundedMailbox.dequeue = some (m, b)) :
    Held owner { s with boxes := s.boxes.set box b } ∧ m.address = owner box := by
  obtain ⟨b', hb', hbm⟩ := Option.bind_eq_some_iff.mp hd
  have hqueue := BoundedMailbox.queue_of_dequeue hbm
  have hmem : ∀ m' ∈ m :: b.queue, m'.address = owner box :=
    fun m' hm' => h.queue box b' m' hb' (hqueue ▸ hm')
  exact ⟨held_setBox h box fun m' hm' => hmem m' (mem_cons_of_mem m hm'),
    hmem m mem_cons_self⟩

theorem done_moves (hg : t.given = s.given)
    (hs : ∀ m, t.settled m = s.settled m + one (v.call.holds m)) (hl : Loops s t)
    (hh : Held owner t) (hb : s.boxes.length ≤ t.boxes.length) : t.done.Moves owner s v :=
  ⟨hg, hs, hl, hh, hb, trivial, trivial⟩

theorem supervises_moves {base : Base} (h : n.Supervises s base) (hs : Held owner s)
    (hv : ∀ m, v.call.holds m = false) (hbase : base.Owned owner s.boxes.length) :
    n.Moves owner s v where
  given := h.untouched.given
  settled := by
    intro m
    rw [h.untouched.settled, hv]
    congr 2
    have hsilent := h.silent
    revert hsilent
    cases n.request with
    | await c => cases c <;> simp [Request.holds, Call.holds, Request.Silent]
    | stop | spawn => exact fun _ => rfl
    | deliver => exact False.elim
  loops := loops_of_eq h.untouched.invocations
  held := h.untouched.held hs
  boxes_le := Nat.le_of_eq (congrArg List.length h.untouched.boxes).symm
  base := by
    rw [h.base_eq, h.untouched.boxes]
    exact hbase
  request := by
    have hsilent := h.silent
    revert hsilent
    cases n.request with
    | await c => cases c <;> simp [Request.Addressed, Call.Addressed, Request.Silent]
    | stop | spawn => exact fun _ => trivial
    | deliver => exact False.elim

theorem processBatch_moves (hs : Held owner s) (hv : ∀ m, v.call.holds m = false)
    {processed : Nat} (howner : owner box = p) (hbox : box < s.boxes.length) :
    (s.processBatch p box processed).Moves owner s v := by
  have hactive : (s.setActive p false).done.Moves owner s v :=
    done_moves rfl (fun m => by rw [hv]; rfl) (loops_of_eq rfl) (hs.of_eq rfl rfl fun _ _ => id) le_rfl
  unfold System.processBatch
  split
  case h_1 => exact hactive
  case h_2 m mailbox hdequeue =>
    split
    case isTrue =>
      split
      case isTrue =>
        obtain ⟨hheld, haddress⟩ := held_dequeue hs hdequeue
        refine ⟨rfl, fun m' => ?_, loops_of_eq rfl, hheld, ?_, ⟨howner, ?_⟩, haddress.trans howner⟩
        · rw [hv]
          exact settled_dequeue hdequeue
        · simp only [length_set, le_refl]
        · simpa only [length_set] using hbox
      case isFalse =>
        exact ⟨rfl, fun m' => by rw [hv]; rfl, loops_of_eq rfl, hs, le_rfl, trivial, trivial⟩
    case isFalse => exact hactive

theorem processActorMessages_moves (hs : Held owner s) (hv : ∀ m, v.call.holds m = false) :
    (s.processActorMessages p).Moves owner s v := by
  have hactive : ∀ active, Held owner (s.setActive p active) :=
    fun _ => hs.of_eq rfl rfl fun _ _ => id
  have hdone : (s.setActive p false).done.Moves owner s v :=
    done_moves rfl (fun m => by rw [hv]; rfl) (loops_of_eq rfl) (hactive false) le_rfl
  unfold System.processActorMessages
  split
  case h_1 => exact hdone
  case h_2 box hbox =>
    split
    case isTrue =>
      obtain ⟨howner, hlt⟩ := hs.mailbox p box hbox
      obtain ⟨hg, hset, hl, hh, hb, hbase, hr⟩ :=
        processBatch_moves (hactive true) hv howner hlt
      exact ⟨hg, hset, hl, hh, hb, hbase, hr⟩
    case isFalse => exact hdone

theorem wake_settled (s : System) (p : ActorAddress) (m : Message) :
    (s.wake p).settled m = s.settled m ∧ (s.wake p).given = s.given ∧ Loops s (s.wake p) ∧
      (s.wake p).boxes = s.boxes := by
  unfold System.wake
  split
  · exact ⟨rfl, rfl, ⟨_, rfl, fun w hw => by rw [mem_singleton.mp hw]; exact ⟨rfl, p, rfl⟩⟩, rfl⟩
  · exact ⟨rfl, rfl, loops_of_eq rfl, rfl⟩

theorem wake_held (h : Held owner s) (p : ActorAddress) : Held owner (s.wake p) := by
  unfold System.wake
  split
  · exact h.of_eq rfl rfl fun _ _ => id
  · exact h

theorem deliverInTestMode_moves (hg : t.given = s.given)
    (hs : ∀ m, t.settled m = s.settled m + one (v.call.holds m)) (hl : Loops s t)
    (hh : Held owner t) (hb : s.boxes.length ≤ t.boxes.length) (howner : owner box = p) :
    (t.deliverInTestMode p box).Moves owner s v := by
  unfold System.deliverInTestMode
  split
  case isTrue =>
    split
    case h_1 => exact done_moves hg hs hl hh hb
    case h_2 m mailbox hdequeue =>
      obtain ⟨hheld, haddress⟩ := held_dequeue hh hdequeue
      refine ⟨hg, fun m' => ?_, hl, hheld, ?_, trivial, haddress.trans howner⟩
      · exact (settled_dequeue hdequeue).trans (hs m')
      · simpa only [length_set] using hb
  case isFalse => exact done_moves hg hs hl hh hb

theorem enqueueMessage_moves (hs : Held owner s) (hm : m.address = p)
    (hv : v.call = .enqueue p m) : (s.enqueueMessage p m o).Moves owner s v := by
  have hholds : ∀ m', one (v.call.holds m') = one (decide (m = m')) := fun m' => by rw [hv]; rfl
  have hdead : (s.deadLetter m).Moves owner s v := by
    refine done_moves (t := { s with deadLetters := m :: s.deadLetters }) rfl (fun m' => ?_)
      (loops_of_eq rfl) (hs.of_eq rfl rfl fun _ _ => id) le_rfl
    rw [hholds, settled_deadLetter]
  have hmailbox : (s.enqueueMessage p m .ok).Moves owner s v := by
    simp only [System.enqueueMessage]
    split
    case h_1 => exact hdead
    case h_2 box hbox =>
      split
      case h_1 mailbox henqueue =>
        obtain ⟨b, hb, hbm⟩ := Option.bind_eq_some_iff.mp henqueue
        obtain ⟨howner, -⟩ := hs.mailbox p box hbox
        have hqueue := (BoundedMailbox.enqueue_true hbm).1
        have hheld : Held owner { s with boxes := s.boxes.set box mailbox } := by
          refine held_setBox hs box fun m' hm' => ?_
          rw [hqueue] at hm'
          obtain hm' | hm' := mem_append.mp hm'
          · exact hs.queue box b m' hb hm'
          · rw [mem_singleton.mp hm', hm, howner]
        have hwake := wake_settled { s with boxes := s.boxes.set box mailbox } p
        refine deliverInTestMode_moves (hwake m).2.1 (fun m' => ?_) (hwake m).2.2.1
          (wake_held hheld p) ?_ howner
        · have hset := settled_setBox m' mailbox hb
          rw [hqueue, count_append, count_cons_one, count_nil] at hset
          rw [(hwake m').1, hholds]
          omega
        · rw [(hwake m).2.2.2, length_set]
      case h_2 => exact hdead
  cases o with
  | ok => exact hmailbox
  | threw => exact hmailbox
  | filtered =>
    refine done_moves (t := s.record (.filtered m)) rfl (fun m' => ?_) (loops_of_eq rfl)
      (hs.of_eq rfl rfl fun q m' hmem => ?_) le_rfl
    · rw [hholds, settled_record]
      rfl
    · exact (mem_cons.mp hmem).resolve_left (by simp)
  | missing => exact hdead

theorem resume_moves {threw : Bool} (hs : Held owner s) (hv : ∀ m, v.call.holds m = false)
    (hbase : v.base.Owned owner s.boxes.length) (h : s.resume i threw v.driver v.base = some n) :
    n.Moves owner s v := by
  have hdone : s.done.Moves owner s v :=
    done_moves rfl (fun m => by rw [hv]; rfl) (loops_of_eq rfl) hs le_rfl
  have hbatch : ∀ {p box processed k}, v.base = .processing p box processed →
      (s.processBatch p box k).Moves owner s v := by
    intro p box processed k hb
    rw [hb] at hbase
    exact processBatch_moves hs hv hbase.1 hbase.2
  unfold System.resume at h
  split at h
  case h_1 driver hdriver =>
    cases h
    by_cases hfinishing : driver = .finishing
    · subst hfinishing
      simp only [System.resumeDriver]
      split
      case h_1 p box processed hb => exact hbatch hb
      case h_2 => exact hdone
    · exact supervises_moves (resumeDriver_supervises s i v.base threw hfinishing) hs hv hbase
  case h_2 p box processed hdriver hb =>
    split at h
    · cases h
      exact supervises_moves (applySupervisionStrategy_supervises s i _ p) hs hv (hb ▸ hbase)
    · cases h
      exact hbatch hb
  case h_3 =>
    split at h
    · cases h
      exact supervises_moves (applySupervisionStrategy_supervises s i _ _) hs hv trivial
    · cases h
      exact hdone
  case h_4 => cases h

theorem await_moves {c : Call} (hg : t.given = s.given)
    (hs : ∀ m, t.settled m + one (c.holds m) = s.settled m + one (v.call.holds m))
    (hl : Loops s t) (hh : Held owner t) (hb : s.boxes.length ≤ t.boxes.length)
    (hbase : v.base.Owned owner t.boxes.length) (hc : c.Addressed) :
    (Next.mk t v.driver v.base (.await c)).Moves owner s v :=
  ⟨hg, hs, hl, hh, hb, hbase, hc⟩

theorem advanceDeliver_moves {stage : DeliverStage} (hs : Held owner s)
    (hv : v.call = .deliver p m stage) (hm : m.address = p)
    (hbase : v.base.Owned owner s.boxes.length) :
    (Next.mk (s.advanceDeliver p m stage o).1 v.driver v.base
      (.await (s.advanceDeliver p m stage o).2)).Moves owner s v := by
  have hstay : ∀ c, (∀ m', c.holds m' = v.call.holds m') → c.Addressed →
      (Next.mk s v.driver v.base (.await c)).Moves owner s v := fun c hc ha =>
    await_moves rfl (fun m' => by rw [hc]) (loops_of_eq rfl) hs le_rfl hbase ha
  -- the message leaves the hands of the invocation for an entry of the log
  have hlog : ∀ e c, (∀ m', v.call.holds m' = decide (m = m')) → (∀ m', c.holds m' = false) →
      c.Addressed → (∀ m', e.about m' = decide (m = m')) → (∀ q m', e = .handled q m' → m'.address = q) →
      ∀ st, (Next.mk { s with started := st, log := e :: s.log } v.driver v.base (.await c)).Moves owner s v := by
    intro e c hhold hc ha habout hhandled st
    refine await_moves rfl (fun m' => ?_) (loops_of_eq rfl) ?_ le_rfl hbase ha
    · rw [hc, hhold, ← habout]
      exact settled_record s e
    · refine ⟨hs.mailbox, hs.queue, fun q m' hmem => ?_⟩
      obtain he | hmem := mem_cons.mp hmem
      · exact hhandled q m' he.symm
      · exact hs.handled q m' hmem
  have hhandled : ∀ q m', Entry.handled p m = .handled q m' → m'.address = q := by
    intro q m' he
    obtain ⟨rfl, rfl⟩ := Entry.handled.inj he
    exact hm
  cases stage with
  | interceptors =>
    have hhold : ∀ m', v.call.holds m' = decide (m = m') := fun m' => by rw [hv]; rfl
    have hask : (Next.mk (s.advanceDeliver p m .interceptors .ok).1 v.driver v.base
        (.await (s.advanceDeliver p m .interceptors .ok).2)).Moves owner s v := by
      simp only [System.advanceDeliver]
      split
      · exact hlog (.handled p m) (.deliver p m .handler) hhold (fun _ => rfl) hm (fun _ => rfl) hhandled
          s.started
      · exact hstay _ (fun m' => by rw [hv]; rfl) hm
    cases o with
    | filtered =>
      exact hlog (.filtered m) (.returned false) hhold (fun _ => rfl) trivial (fun _ => rfl) (by simp)
        s.started
    | ok | threw | missing => exact hask
  | onStart =>
    have hhold : ∀ m', v.call.holds m' = decide (m = m') := fun m' => by rw [hv]; rfl
    cases o with
    | threw =>
      exact hlog (.skipped m) (.returned true) hhold (fun _ => rfl) trivial (fun _ => rfl) (by simp)
        s.started
    | ok | filtered | missing =>
      exact hlog (.handled p m) (.deliver p m .handler) hhold (fun _ => rfl) hm (fun _ => rfl) hhandled _
  | handler =>
    cases o <;> exact hstay _ (fun m' => by rw [hv]; rfl) trivial

/-! ### Stops and spawns -/

theorem settled_stopMailbox (s : System) (p : ActorAddress) (m : Message) :
    (s.stopMailbox p).settled m = s.settled m := by
  unfold System.stopMailbox
  split
  case h_1 => rfl
  case h_2 box _ =>
    split
    case h_1 => rfl
    case h_2 mailbox hb =>
      have hset := settled_setBox m mailbox.stop hb
      have hdropped : (mailbox.queue.map Entry.dropped).countP (Entry.about m) =
          mailbox.queue.count m := by
        rw [countP_map, List.count]
        rfl
      simp only [System.settled, System.queues, BoundedMailbox.stop, count_nil,
        countP_append, hdropped] at hset ⊢
      omega

theorem stopMailbox_held (h : Held owner s) (p : ActorAddress) : Held owner (s.stopMailbox p) := by
  unfold System.stopMailbox
  split
  case h_1 => exact h
  case h_2 box _ =>
    split
    case h_1 => exact h
    case h_2 mailbox hb =>
      obtain ⟨hmailbox, hqueue, -⟩ := held_setBox (b := mailbox.stop) h box fun m hm => by
        cases hm
      refine ⟨fun q box' hq => ?_, hqueue, fun q m hm => ?_⟩
      · change update s.mailboxes p none q = some box' at hq
        by_cases hqp : q = p
        · subst hqp
          rw [update_self] at hq
          cases hq
        · rw [update_of_ne hqp] at hq
          exact hmailbox q box' hq
      · refine h.handled q m ((mem_append.mp hm).resolve_left fun hd => ?_)
        obtain ⟨_, -, he⟩ := mem_map.mp hd
        cases he

theorem stopMailbox_rest (s : System) (p : ActorAddress) :
    (s.stopMailbox p).given = s.given ∧ (s.stopMailbox p).boxes.length = s.boxes.length := by
  unfold System.stopMailbox
  split
  case h_1 => exact ⟨rfl, rfl⟩
  case h_2 =>
    split
    case h_1 => exact ⟨rfl, rfl⟩
    case h_2 => exact ⟨rfl, length_set⟩

theorem emit_moves (s : System) (e : SystemEvent) (p : ActorAddress) :
    Untouched s (s.emitSystemEvent e p) := (Untouched.refl s).emit e p

theorem advanceStop_moves {reason : Option StopReason} {stage : StopStage} (hs : Held owner s)
    (hv : v.call = .stop p reason stage) (hbase : v.base.Owned owner s.boxes.length) :
    (Next.mk (s.advanceStop p reason stage).1 v.driver v.base
      (.await (s.advanceStop p reason stage).2)).Moves owner s v := by
  have hhold : ∀ m, v.call.holds m = false := fun m => by rw [hv]; rfl
  have huntouched : ∀ {t : System} {c : Call}, Untouched s t → (∀ m, c.holds m = false) →
      c.Addressed → (Next.mk t v.driver v.base (.await c)).Moves owner s v := by
    intro t c ht hc ha
    refine await_moves ht.given (fun m => by rw [ht.settled, hc, hhold]) (loops_of_eq ht.invocations)
      (ht.held hs) (Nat.le_of_eq (congrArg List.length ht.boxes).symm) ?_ ha
    rwa [ht.boxes]
  have hteardown : ∀ c, (∀ m, c.holds m = false) → c.Addressed →
      (Next.mk (s.teardown p) v.driver v.base (.await c)).Moves owner s v := by
    intro c hc ha
    obtain ⟨hgiven, hlength⟩ := stopMailbox_rest s p
    refine await_moves hgiven (fun m => ?_) (loops_of_eq (teardown_invocations s p))
      ((stopMailbox_held hs p).of_eq rfl rfl fun _ _ => id) (Nat.le_of_eq hlength.symm) ?_ ha
    · rw [hc, hhold]
      exact congrArg (· + one false) (settled_stopMailbox s p m)
    · change v.base.Owned owner (s.stopMailbox p).boxes.length
      rwa [hlength]
  cases stage with
  | stoppingEvent =>
    simp only [System.advanceStop]
    split
    · exact huntouched ((Untouched.refl s).record trivial) (fun _ => rfl) trivial
    · exact hteardown _ (fun _ => rfl) trivial
  | onStop => exact hteardown _ (fun _ => rfl) trivial
  | publish =>
    exact await_moves rfl (fun m => by rw [hhold]; rfl) (loops_of_eq rfl)
      (hs.of_eq rfl rfl fun _ _ => id) le_rfl hbase trivial
  | unregister | stoppedEvent => exact huntouched (.refl s) (fun _ => rfl) trivial
  | broadcast => exact huntouched (emit_moves s _ p) (fun _ => rfl) trivial

theorem startProcessing_held (h : Held owner s) (p : ActorAddress) :
    Held (update owner s.boxes.length p) (s.startProcessing p) where
  mailbox := by
    intro q box hq
    simp only [System.startProcessing, length_append, length_singleton] at hq ⊢
    by_cases hqp : q = p
    · subst hqp
      rw [update_self] at hq
      cases hq
      exact ⟨update_self .., Nat.lt_succ_self _⟩
    · rw [update_of_ne hqp] at hq
      obtain ⟨howner, hlt⟩ := h.mailbox q box hq
      exact ⟨(update_of_ne (Nat.ne_of_lt hlt) _ _).trans howner, Nat.lt_succ_of_lt hlt⟩
  queue := by
    intro box b m hb hm
    simp only [System.startProcessing, getElem?_append] at hb
    split at hb
    case isTrue hlt =>
      rw [update_of_ne (Nat.ne_of_lt hlt)]
      exact h.queue box b m hb hm
    case isFalse =>
      rw [mem_singleton.mp (mem_of_getElem? hb)] at hm
      cases hm
  handled := h.handled

theorem startProcessing_settled (s : System) (p : ActorAddress) (m : Message) :
    (s.startProcessing p).settled m = s.settled m := by
  simp [System.settled, System.queues, System.startProcessing, BoundedMailbox.dropping]

theorem owned_update {boxes : Nat} {base : Base} (h : base.Owned owner boxes) (p : ActorAddress)
    {boxes' : Nat} (hle : boxes ≤ boxes') : base.Owned (update owner boxes p) boxes' := by
  cases base with
  | processing q box processed =>
    exact ⟨(update_of_ne (Nat.ne_of_lt h.2) _ _).trans h.1, h.2.trans_le hle⟩
  | _ => trivial

theorem advanceSpawn_moves {stage : SpawnStage} (hs : Held owner s) (hv : v.call = .spawn p stage)
    (hbase : v.base.Owned owner s.boxes.length) :
    ∃ owner', (∀ (base : Base) boxes, s.boxes.length ≤ boxes → base.Owned owner s.boxes.length →
        base.Owned owner' boxes) ∧
      (Next.mk (s.advanceSpawn p stage).1 v.driver v.base
        (.await (s.advanceSpawn p stage).2)).Moves owner' s v := by
  have hhold : ∀ m, v.call.holds m = false := fun m => by rw [hv]; rfl
  have hmono : ∀ (base : Base) boxes, s.boxes.length ≤ boxes → base.Owned owner s.boxes.length →
      base.Owned owner boxes := by
    intro base boxes hle h
    cases base with
    | processing => exact ⟨h.1, h.2.trans_le hle⟩
    | _ => trivial
  have hstay : ∀ c, (∀ m, c.holds m = false) → c.Addressed →
      (Next.mk s v.driver v.base (.await c)).Moves owner s v := fun c hc ha =>
    await_moves rfl (fun m => by rw [hc, hhold]) (loops_of_eq rfl) hs le_rfl hbase ha
  cases stage with
  | register | spawnedEvent => exact ⟨owner, hmono, hstay _ (fun _ => rfl) trivial⟩
  | broadcast =>
    have hemit := emit_moves (s.startProcessing p) .actorSpawned p
    have hle : s.boxes.length ≤
        ((s.startProcessing p).emitSystemEvent .actorSpawned p).boxes.length := by
      rw [hemit.boxes]
      simp [System.startProcessing]
    refine ⟨update owner s.boxes.length p, fun base boxes hle h => owned_update h p hle, ?_⟩
    refine await_moves hemit.given (fun m => ?_) ?_ (hemit.held (startProcessing_held hs p)) ?_ ?_
      trivial
    · change System.settled _ m + one false = _
      rw [hhold]
      exact congrArg (· + one false) ((hemit.settled m).trans (startProcessing_settled s p m))
    · refine ⟨[⟨.macrotask, none, .scheduled p⟩], hemit.invocations, fun w hw => ?_⟩
      rw [mem_singleton.mp hw]
      exact ⟨rfl, p, rfl⟩
    · exact hle
    · exact owned_update hbase p hle

/-! ### Steps -/

theorem next_moves (hs : Held owner s) (hbase : v.base.Owned owner s.boxes.length)
    (hcall : v.call.Addressed) (hn : s.next i o v = some n) :
    ∃ owner', (∀ (base : Base) boxes, s.boxes.length ≤ boxes → base.Owned owner s.boxes.length →
      base.Owned owner' boxes) ∧ n.Moves owner' s v := by
  have hsame : n.Moves owner s v → ∃ owner', (∀ (base : Base) boxes, s.boxes.length ≤ boxes →
      base.Owned owner s.boxes.length → base.Owned owner' boxes) ∧ n.Moves owner' s v := by
    refine fun h => ⟨owner, fun base boxes hle hb => ?_, h⟩
    cases base with
    | processing => exact ⟨hb.1, hb.2.trans_le hle⟩
    | _ => trivial
  have hwait : ∀ {c : Call}, (∀ m, v.call.holds m = false) → (∀ m, c.holds m = false) →
      c.Addressed → (Next.mk s v.driver v.base (.await c)).Moves owner s v := fun hv hc ha =>
    await_moves rfl (fun m => by rw [hc, hv]) (loops_of_eq rfl) hs le_rfl hbase ha
  obtain ⟨call, driver, base⟩ := v
  cases call with
  | stop p reason stage =>
    cases hn
    exact hsame (advanceStop_moves hs rfl hbase)
  | spawn p stage =>
    cases hn
    exact advanceSpawn_moves hs rfl hbase
  | deliver p m stage =>
    cases hn
    exact hsame (advanceDeliver_moves hs rfl hcall hbase)
  | enqueue p m =>
    cases hn
    exact hsame (enqueueMessage_moves hs hcall rfl)
  | dequeued p m =>
    cases hn
    exact hsame ⟨rfl, fun _ => rfl, loops_of_eq rfl, hs, le_rfl, trivial, hcall⟩
  | timer due =>
    simp only [System.next] at hn
    split at hn
    case isTrue =>
      cases hn
      exact hsame (hwait (fun _ => rfl) (fun _ => rfl) trivial)
    case isFalse => cases hn
  | systemEvent =>
    cases hn
    exact hsame (hwait (fun _ => rfl) (fun _ => rfl) trivial)
  | macrotask =>
    simp only [System.next] at hn
    split at hn
    case h_1 =>
      cases hn
      exact hsame (processActorMessages_moves hs fun _ => rfl)
    case h_2 => cases hn
  | returned threw => exact hsame (resume_moves hs (fun _ => rfl) hbase hn)

theorem perform_moves (hs : Held owner s) {request : Request} (ha : request.Addressed) :
    (s.perform request).1.given = s.given ∧
      (∀ m, (s.perform request).1.settled m + one ((s.perform request).2.holds m) =
        s.settled m + one (request.holds m)) ∧
      Held owner (s.perform request).1 ∧ (s.perform request).1.boxes = s.boxes ∧
      (s.perform request).2.Addressed := by
  cases request with
  | await c => exact ⟨rfl, fun _ => rfl, hs, rfl, ha⟩
  | stop p reason =>
    have hemit := emit_moves s .actorStopping p
    exact ⟨hemit.given, fun m => congrArg (· + one false) (hemit.settled m), hemit.held hs,
      hemit.boxes, trivial⟩
  | spawn p behavior policy =>
    simp only [System.perform, System.beginSpawn]
    split
    · exact ⟨rfl, fun _ => rfl, hs, rfl, trivial⟩
    · exact ⟨rfl, fun _ => rfl, hs.of_eq rfl rfl fun _ _ => id, rfl, trivial⟩
  | deliver p m =>
    simp only [System.perform, System.beginDeliver]
    split
    · exact ⟨rfl, fun _ => rfl, hs, rfl, ha⟩
    · refine ⟨rfl, fun m' => ?_, hs.of_eq rfl rfl fun q m' hm => ?_, rfl, trivial⟩
      · exact settled_record s (.skipped m)
      · exact (mem_cons.mp hm).resolve_left (by simp)

/-- Every message given to `enqueueMessage` is at one place, and in the hands of its actor. -/
structure Conserved (owner : Nat → ActorAddress) (s : System) : Prop where
  held : Held owner s
  bases : ∀ v ∈ s.invocations, v.base.Owned owner s.boxes.length
  calls : ∀ v ∈ s.invocations, v.call.Addressed
  total : ∀ m, s.settled m + s.inHand m = s.given.count m
  number_lt : ∀ m ∈ s.given, m.number < s.given.length
  nodup : s.given.Nodup

theorem inHand_append {vs : List Invocation} (h : t.invocations = s.invocations ++ vs)
    (hvs : ∀ w ∈ vs, w.call = .macrotask) (m : Message) : t.inHand m = s.inHand m := by
  have hnone : vs.countP (fun v => v.call.holds m) = 0 :=
    countP_eq_zero.mpr fun w hw => by rw [hvs w hw]; exact Bool.false_ne_true
  rw [System.inHand, h, countP_append, hnone]
  rfl

theorem advance_conserved (h : Conserved owner s)
    (hstep : step s (.advance i o) = some t) : ∃ owner', Conserved owner' t := by
  simp only [step, Option.bind_eq_some_iff, Option.map_eq_some_iff] at hstep
  obtain ⟨v, hv, n, hn, rfl⟩ := hstep
  have hmem := mem_of_getElem? hv
  obtain ⟨owner', howner, hn'⟩ := next_moves h.held (h.bases v hmem) (h.calls v hmem) hn
  obtain ⟨hgiven, hsettled, hheld, hboxes, hcall⟩ := perform_moves hn'.held hn'.request
  obtain ⟨vs, hvs, hloops⟩ := hn'.loops
  have hold : ∀ w ∈ (n.settle i).invocations,
      w = ⟨(n.system.perform n.request).2, n.driver, n.base⟩ ∨ w ∈ s.invocations ∨ w ∈ vs := by
    intro w hw
    simp only [Next.settle, perform_invocations] at hw
    obtain hw | rfl := mem_or_eq_of_mem_set hw
    · rw [hvs] at hw
      exact .inr (mem_append.mp hw)
    · exact .inl rfl
  refine ⟨owner', hheld.of_eq rfl rfl fun _ _ => id, fun w hw => ?_, fun w hw => ?_, fun m => ?_,
    ?_, ?_⟩
  · change w.base.Owned owner' (n.system.perform n.request).1.boxes.length
    rw [hboxes]
    obtain rfl | hw | hw := hold w hw
    · exact hn'.base
    · exact howner _ _ hn'.boxes_le (h.bases w hw)
    · obtain ⟨-, p, hp⟩ := hloops w hw
      rw [hp]
      trivial
  · obtain rfl | hw | hw := hold w hw
    · exact hcall
    · exact h.calls w hw
    · rw [(hloops w hw).1]
      trivial
  · have hset : (n.settle i).inHand m + one (v.call.holds m) =
        s.inHand m + one ((n.system.perform n.request).2.holds m) := by
      have hv' : n.system.invocations[i]? = some v := by
        rw [hvs, getElem?_append_left (List.getElem?_eq_some_iff.mp hv).1, hv]
      have hsame := inHand_append (t := n.system) hvs (fun w hw => (hloops w hw).1) m
      rw [← hsame]
      have hcount := countP_set_add (p := fun v : Invocation => v.call.holds m)
        (b := ⟨(n.system.perform n.request).2, n.driver, n.base⟩) hv'
      simpa only [System.inHand, Next.settle, perform_invocations, one] using hcount
    have htotal := h.total m
    have hmove := hn'.settled m
    have hbegin := hsettled m
    have hgiven' : (n.settle i).given = s.given := hgiven.trans hn'.given
    have hsettled' : (n.settle i).settled m = (n.system.perform n.request).1.settled m := rfl
    rw [hgiven', hsettled']
    omega
  · change ∀ m ∈ (n.system.perform n.request).1.given, _ < (n.system.perform n.request).1.given.length
    rw [hgiven, hn'.given]
    exact h.number_lt
  · change (n.system.perform n.request).1.given.Nodup
    rw [hgiven, hn'.given]
    exact h.nodup

theorem invoke_conserved {request : Request} (hheld : Held owner u)
    (hbases : ∀ v ∈ u.invocations, v.base.Owned owner u.boxes.length)
    (hcalls : ∀ v ∈ u.invocations, v.call.Addressed) (ha : request.Addressed)
    (htotal : ∀ m, u.settled m + u.inHand m + one (request.holds m) = u.given.count m)
    (hnumber : ∀ m ∈ u.given, m.number < u.given.length) (hnodup : u.given.Nodup) :
    Conserved owner (u.invoke request) := by
  obtain ⟨hgiven, hsettled, hheld', hboxes, hcall⟩ := perform_moves hheld ha
  have hold : ∀ w ∈ (u.invoke request).invocations,
      w = ⟨(u.perform request).2, none, .caller⟩ ∨ w ∈ u.invocations := by
    intro w hw
    simp only [System.invoke, perform_invocations] at hw
    exact (mem_append.mp hw).symm.imp_left mem_singleton.mp
  refine ⟨hheld'.of_eq rfl rfl fun _ _ => id, fun w hw => ?_, fun w hw => ?_, fun m => ?_, ?_, ?_⟩
  · change w.base.Owned owner (u.perform request).1.boxes.length
    rw [hboxes]
    obtain rfl | hw := hold w hw
    · trivial
    · exact hbases w hw
  · obtain rfl | hw := hold w hw
    · exact hcall
    · exact hcalls w hw
  · have hhand : (u.invoke request).inHand m =
        u.inHand m + one ((u.perform request).2.holds m) := by
      simp only [System.inHand, System.invoke, perform_invocations, countP_append,
        countP_singleton, one]
    have hbegin := hsettled m
    have htotal' := htotal m
    have hgiven' : (u.invoke request).given = u.given := hgiven
    have hsettled' : (u.invoke request).settled m = (u.perform request).1.settled m := rfl
    rw [hgiven', hsettled', hhand]
    omega
  · change ∀ m ∈ (u.perform request).1.given, _ < (u.perform request).1.given.length
    rw [hgiven]
    exact hnumber
  · change (u.perform request).1.given.Nodup
    rw [hgiven]
    exact hnodup

theorem step_conserved {a : Action} (h : Conserved owner s) (hstep : step s a = some t) :
    ∃ owner', Conserved owner' t := by
  have huser : ∀ q, Held owner (s.record (.userStop q)) := fun q =>
    h.held.of_eq rfl rfl fun _ _ hm => (mem_cons.mp hm).resolve_left (by simp)
  have hstop : ∀ q, Conserved owner ((s.record (.userStop q)).invoke (.stop q none)) := fun q =>
    invoke_conserved (huser q) h.bases h.calls trivial
      (fun m => by rw [settled_record]; exact h.total m) h.number_lt h.nodup
  cases a with
  | tick | setTestMode | setSystemEventActor | stopSystem =>
    cases hstep
    exact ⟨owner, h.held.of_eq rfl rfl fun _ _ => id, h.bases, h.calls, h.total, h.number_lt, h.nodup⟩
  | spawn p behavior policy =>
    cases hstep
    exact ⟨owner, invoke_conserved h.held h.bases h.calls trivial h.total h.number_lt h.nodup⟩
  | stop p =>
    cases hstep
    exact ⟨owner, hstop p⟩
  | stopInternal p =>
    simp only [step] at hstep
    split at hstep
    case isTrue =>
      cases hstep
      exact ⟨owner, hstop p⟩
    case isFalse => cases hstep
  | enqueueMessage p =>
    cases hstep
    have hfresh : (⟨s.given.length, p⟩ : Message) ∉ s.given :=
      fun hm => Nat.lt_irrefl _ (h.number_lt _ hm)
    refine ⟨owner, invoke_conserved (u := { s with given := ⟨s.given.length, p⟩ :: s.given })
      (h.held.of_eq rfl rfl fun _ _ => id) h.bases h.calls rfl (fun m => ?_) (fun m hm => ?_)
      (nodup_cons.mpr ⟨hfresh, h.nodup⟩)⟩
    · rw [count_cons_one]
      exact congrArg (· + _) (h.total m)
    · obtain rfl | hm := mem_cons.mp hm
      · exact Nat.lt_succ_self _
      · exact Nat.lt_succ_of_lt (h.number_lt m hm)
  | processNextMessage p =>
    simp only [step] at hstep
    split at hstep
    case h_1 => cases hstep
    case h_2 box m mailbox hbox =>
      cases hstep
      obtain ⟨box', hmailbox, hmap⟩ := Option.bind_eq_some_iff.mp hbox
      obtain ⟨⟨m', mailbox'⟩, hdequeue, heq⟩ := Option.map_eq_some_iff.mp hmap
      obtain ⟨rfl, rfl, rfl⟩ : box' = box ∧ m' = m ∧ mailbox' = mailbox := by simpa using heq
      obtain ⟨hheld, haddress⟩ := held_dequeue h.held hdequeue
      refine ⟨owner, invoke_conserved (u := { s with boxes := s.boxes.set box' mailbox' }) hheld
        (fun v hv => ?_) h.calls (haddress.trans (h.held.mailbox p box' hmailbox).1) (fun m => ?_)
        h.number_lt h.nodup⟩
      · simpa only [length_set] using h.bases v hv
      · have htotal := h.total m
        have hset := settled_dequeue (m := m) hdequeue
        have hhand : System.inHand { s with boxes := s.boxes.set box' mailbox' } m = s.inHand m := rfl
        simp only [Request.holds, Call.holds]
        rw [hhand]
        omega
  | advance i o => exact advance_conserved h hstep

theorem start_conserved (maxActors : Nat) (supervisors : List SupervisorGroupConfig)
    (owner : Nat → ActorAddress) : Conserved owner (start maxActors supervisors) where
  held := ⟨fun _ _ h => (by cases h), fun _ _ _ h => (by cases h), fun _ _ h => (by cases h)⟩
  bases := fun _ h => by cases h
  calls := fun _ h => by cases h
  total := fun _ => rfl
  number_lt := fun _ h => by cases h
  nodup := nodup_nil

/-! ### The fate of a message -/

/-- Where a message is once no invocation has it in hand: its handler was invoked, it waits
in the mailbox of its actor, it is in the dead letter queue, it went down with a mailbox
that a stop destroyed, it is left in a mailbox that a second spawn replaced, its delivery
failed short of the handler, or an interceptor filtered it. -/
inductive Fate
  | handled
  | waiting
  | deadLettered
  | dropped
  | abandoned
  | skipped
  | filtered
deriving DecidableEq

def Fate.Holds (s : System) (m : Message) : Fate → Prop
  | .handled => s.log.count (.handled m.address m) = 1
  | .waiting =>
    ∃ box b, s.mailboxes m.address = some box ∧ s.boxes[box]? = some b ∧ m ∈ b.queue
  | .deadLettered => m ∈ s.deadLetters
  | .dropped => .dropped m ∈ s.log
  | .abandoned =>
    ∃ box b, s.mailboxes m.address ≠ some box ∧ s.boxes[box]? = some b ∧ m ∈ b.queue
  | .skipped => .skipped m ∈ s.log
  | .filtered => .filtered m ∈ s.log

def Fate.amount (s : System) (m : Message) : Fate → Nat
  | .handled => s.log.count (.handled m.address m)
  | .waiting | .abandoned => s.queues.count m
  | .deadLettered => s.deadLetters.count m
  | .dropped => s.log.count (.dropped m)
  | .skipped => s.log.count (.skipped m)
  | .filtered => s.log.count (.filtered m)

def AtRest (s : System) : Prop := ∀ v ∈ s.invocations, ∀ m, v.call.holds m = false

theorem countP_about {log : List Entry} (h : ∀ p, .handled p m ∈ log → m.address = p) :
    log.countP (Entry.about m) = log.count (.handled m.address m) + log.count (.filtered m) +
      log.count (.skipped m) + log.count (.dropped m) := by
  induction log with
  | nil => rfl
  | cons e log ih =>
    have hrest := ih fun p hp => h p (mem_cons_of_mem e hp)
    have he : one (e.about m) = one (e = .handled m.address m) + one (e = .filtered m) +
        one (e = .skipped m) + one (e = .dropped m) := by
      cases e with
      | handled p m' =>
        by_cases hm : m' = m
        · subst hm
          simp [Entry.about, one, h p mem_cons_self]
        · simp [Entry.about, one, hm]
      | _ => simp [Entry.about, one]
    simp only [countP_cons, count_cons, beq_iff_eq]
    simp only [one, decide_eq_true_eq] at he
    omega

theorem Fate.one_le_amount {f : Fate} (h : f.Holds s m) : 1 ≤ f.amount s m := by
  have hqueues : ∀ {box : Nat} {b : BoundedMailbox Message}, s.boxes[box]? = some b → m ∈ b.queue →
      1 ≤ s.queues.count m := fun hb hm =>
    count_pos_iff.mpr (mem_flatMap.mpr ⟨_, mem_of_getElem? hb, hm⟩)
  cases f with
  | handled => exact Nat.le_of_eq (show _ = 1 from h).symm
  | waiting | abandoned =>
    obtain ⟨box, b, -, hb, hm⟩ := h
    exact hqueues hb hm
  | deadLettered | dropped | skipped | filtered => exact count_pos_iff.mpr h

theorem Conserved.amounts (h : Conserved owner s) (hrest : AtRest s) (hm : m ∈ s.given) :
    Fate.handled.amount s m + Fate.filtered.amount s m + Fate.skipped.amount s m +
      Fate.dropped.amount s m + Fate.deadLettered.amount s m + Fate.waiting.amount s m = 1 := by
  have htotal := h.total m
  have hhand : s.inHand m = 0 :=
    countP_eq_zero.mpr fun v hv => by rw [hrest v hv m]; exact Bool.false_ne_true
  rw [count_eq_one_of_mem h.nodup hm, hhand, System.settled,
    countP_about fun p hp => h.held.handled p m hp] at htotal
  exact htotal

theorem Conserved.fate_unique (h : Conserved owner s) (hrest : AtRest s) (hm : m ∈ s.given)
    {f g : Fate} (hf : f.Holds s m) (hg : g.Holds s m) : f = g := by
  have hamounts := h.amounts hrest hm
  have hmailbox : ¬(Fate.waiting.Holds s m ∧ Fate.abandoned.Holds s m) := by
    rintro ⟨⟨box, b, hbox, hb, hmb⟩, box', b', hbox', hb', hmb'⟩
    have hqueues : (s.boxes.flatMap BoundedMailbox.queue).count m ≤ 1 := by
      have hle : Fate.waiting.amount s m ≤ 1 := by omega
      exact hle
    obtain rfl := part_unique hb hb' hmb hmb' hqueues
    exact hbox' hbox
  have hf' := Fate.one_le_amount hf
  have hg' := Fate.one_le_amount hg
  have hsame : Fate.abandoned.amount s m = Fate.waiting.amount s m := rfl
  cases f <;> cases g <;>
    first
      | rfl
      | omega
      | exact absurd (And.intro hf hg) hmailbox
      | exact absurd (And.intro hg hf) hmailbox

theorem Conserved.fate_exists (h : Conserved owner s) (hrest : AtRest s) (hm : m ∈ s.given) :
    ∃ f : Fate, f.Holds s m := by
  have hamounts := h.amounts hrest hm
  by_cases hhandled : Fate.handled.amount s m = 1
  · exact ⟨.handled, hhandled⟩
  by_cases hqueues : Fate.waiting.amount s m = 0
  · have hpos : ∀ {α : Type} [DecidableEq α] {a : α} {l : List α}, 0 < l.count a → a ∈ l :=
      count_pos_iff.mp
    by_cases hfiltered : Fate.filtered.amount s m = 0
    · by_cases hskipped : Fate.skipped.amount s m = 0
      · by_cases hdropped : Fate.dropped.amount s m = 0
        · exact ⟨.deadLettered, hpos (show 0 < Fate.deadLettered.amount s m by omega)⟩
        · exact ⟨.dropped, hpos (Nat.pos_of_ne_zero hdropped)⟩
      · exact ⟨.skipped, hpos (Nat.pos_of_ne_zero hskipped)⟩
    · exact ⟨.filtered, hpos (Nat.pos_of_ne_zero hfiltered)⟩
  · have hmem : m ∈ s.queues := count_pos_iff.mp (Nat.pos_of_ne_zero hqueues)
    obtain ⟨b, hb, hmb⟩ := mem_flatMap.mp hmem
    obtain ⟨box, hbox⟩ := mem_iff_getElem?.mp hb
    by_cases hmailbox : s.mailboxes m.address = some box
    · exact ⟨.waiting, box, b, hmailbox, hbox, hmb⟩
    · exact ⟨.abandoned, box, b, hmailbox, hbox, hmb⟩

section Runs

def printer : ActorAddress := "actor://n/printer".toList

def dropRun : List Action :=
  [.spawn printer ⟨false⟩ none, .advance 0 .ok, .advance 0 .ok, .advance 0 .ok,
    .enqueueMessage printer, .advance 2 .ok, .stop printer] ++
    List.replicate 5 (.advance 3 .ok) ++ [.advance 1 .ok]

theorem dropRun_ends : ∃ s, exec step (start 0 []) dropRun = some s ∧
    s.invocations.map (·.call) = List.replicate 4 (.returned false) ∧
    s.given = [⟨0, printer⟩] ∧ s.log.filter (Entry.about ⟨0, printer⟩) = [.dropped ⟨0, printer⟩] ∧
    s.queues = [] ∧ s.deadLetters = [] := by
  have hrun : (exec step (start 0 []) dropRun).map (fun s =>
      (s.invocations.map (·.call), s.given, s.log.filter (Entry.about ⟨0, printer⟩), s.queues,
        s.deadLetters)) =
      some (List.replicate 4 (.returned false), [⟨0, printer⟩], [.dropped ⟨0, printer⟩], [], []) := by
    decide +kernel
  obtain ⟨s, hs, heq⟩ := Option.map_eq_some_iff.mp hrun
  simp only [Prod.mk.injEq] at heq
  exact ⟨s, hs, heq⟩

theorem dropRun_atRest {s : System} (h : s.invocations.map (·.call) = List.replicate 4 (.returned false)) :
    AtRest s := by
  intro v hv m
  have hcall : v.call ∈ List.replicate 4 (Call.returned false) := h ▸ mem_map_of_mem hv
  rw [eq_of_mem_replicate hcall]
  rfl

end Runs

end ActorWeb.ActorSystem
