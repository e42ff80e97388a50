import ActorWeb.AgentLoopSafety

namespace ActorWeb.AgentLoop

open Option hiding map_map

open List SessionCheckpoint

section Memory

def sessionMemory (stored : Option Envelope) : Memory :=
  match stored with
  | none => OrderedMap.empty
  | some e => OrderedMap.empty.set e.sessionId e

def isKept : WriteResult → Bool
  | .stored _ | .replaced _ _ => true
  | .duplicate _ _ | .tooLarge _ _ _ | .expired _ | .rejected _ _ => false

/-- What the loop is given: a message, the answer of its in-memory store, the llm's outcome. -/
inductive Input
  | message (message : Message)
  | store (now : Int) (clock : Except Thrown String)
  | outcome (outcome : LlmOutcome) (clock : Except Thrown String)

variable (options : Options) (registered : List String)

namespace Loop

def answerOf (s : Loop) (now : Int) (clock : Except Thrown String) : Option Action :=
  match s.phase with
  | .reading _ => some (.read (.ok ((sessionMemory s.stored).read now options.sessionId none)) clock)
  | .writing _ e =>
    let result := ((sessionMemory s.stored).write now e).2
    some (.write (.ok result) (isKept result))
  | .idle | .calling _ => none

def input (s : Loop) : Input → Option Loop
  | .message message => s.step options registered (.receive message)
  | .store now clock => (s.answerOf options now clock).bind fun a => s.step options registered a
  | .outcome outcome clock => s.step options registered (.call outcome clock)

def session (s : Loop) (inputs : List Input) : Option Loop :=
  inputs.foldlM (fun s i => s.input options registered i) s

end Loop

end Memory

section Log

def writes (log : List Entry) : List Envelope :=
  log.filterMap fun
    | .wrote e _ | .reconciled e _ => some e
    | .executed _ | .answered _ => none

def executions (log : List Entry) : List Call :=
  log.filterMap fun
    | .executed call => some call
    | .wrote _ _ | .reconciled _ _ | .answered _ => none

def executedSteps (log : List Entry) : List Nat := (executions log).map Call.step

/-- Before the llm is called it has not been called at the same step, and before a tool result is
recorded no other one was recorded for the same tool call at the same step count. -/
def Phase.Fresh (log : List Entry) : Phase → Prop
  | .writing (.intent turn) _ => turn.step ∉ executedSteps log
  | .writing (.waiting _ _ _) e =>
    ∀ other ∈ writes log, other.checkpointId = e.checkpointId → other = e
  | .writing (.receipt _ _ _) _ | .writing (.failure _ _) _ | .writing (.unsettled _ _) _
  | .writing (.reconciled _ _ _) _ | .idle | .reading _ | .calling _ => True

def Loop.Fresh (s : Loop) : Prop := s.phase.Fresh s.log

variable (log : List Entry)

theorem writes_entry (e : Envelope) (kept : Bool) (w : Writing) :
    writes (log ++ [Loop.entry e kept w]) = writes log ++ [e] := by
  cases w <;> simp [writes, Loop.entry]

theorem writes_wrote (e : Envelope) (kept : Bool) :
    writes (log ++ [.wrote e kept]) = writes log ++ [e] := by
  simp [writes]

theorem writes_executed (call : Call) : writes (log ++ [.executed call]) = writes log := by
  simp [writes]

theorem writes_answered (a : Answer) : writes (log ++ [.answered a]) = writes log := by
  simp [writes]

theorem executions_entry (e : Envelope) (kept : Bool) (w : Writing) :
    executions (log ++ [Loop.entry e kept w]) = executions log := by
  cases w <;> simp [executions, Loop.entry]

theorem executions_executed (call : Call) :
    executions (log ++ [.executed call]) = executions log ++ [call] := by
  simp [executions]

theorem executions_answered (a : Answer) : executions (log ++ [.answered a]) = executions log := by
  simp [executions]

end Log

section Store

/-- An envelope of the loop: it has no dates, no continuation and nothing that is left out. -/
structure Plain (options : Options) (e : Envelope) : Prop where
  owner : e.sessionId = options.sessionId
  continuation : e.continuation = none
  expiresAt : e.expiresAt = none
  staleAt : e.staleAt = none
  redactedFields : e.redactedFields = []
  state : ∃ context, e.deterministic = createCheckpointState context

variable {options : Options} {e : Envelope} {stored : Option Envelope}

theorem Plain.classify (h : Plain options e) (now : Int) :
    classifyReadResult e now = .found .present e none := by
  simp [classifyReadResult, due, toDateMs, Envelope.continuationExpiresAt, h.expiresAt, h.staleAt,
    h.continuation, h.redactedFields]

theorem Plain.not_expired (h : Plain options e) (now : Int) : e.expiredAt now = false := by
  simp [Envelope.expiredAt, due, toDateMs, Envelope.continuationExpiresAt, h.expiresAt,
    h.continuation]

theorem sessionMemory_get (hstored : ∀ e, stored = some e → Plain options e) :
    (sessionMemory stored).get options.sessionId = stored := by
  cases stored with
  | none => rfl
  | some e => rw [sessionMemory, ← (hstored e rfl).owner, OrderedMap.get_set_self]

theorem read_stored (hstored : ∀ e, stored = some e → Plain options e) (now : Int) :
    (sessionMemory stored).read now options.sessionId none =
      stored.elim (.missing options.sessionId) fun e => .found .present e none := by
  rw [Memory.read, sessionMemory_get hstored]
  cases stored with
  | none => rfl
  | some e => exact (hstored e rfl).classify _

theorem write_fresh (hstored : ∀ e, stored = some e → Plain options e) (h : Plain options e)
    (hnew : ∀ held, stored = some held → held.checkpointId ≠ e.checkpointId) (now : Int) :
    ((sessionMemory stored).write now e).2 = writeResult e stored := by
  have hget : (sessionMemory stored).get e.sessionId = stored := by
    rw [h.owner]
    exact sessionMemory_get hstored
  rw [Memory.write_fresh, if_neg (by simp [h.not_expired]), hget]
  rw [hget]
  cases stored with
  | none => rfl
  | some held => exact if_neg (by simpa using hnew held rfl)

theorem write_repeated {held : Envelope} (hheld : Plain options held) (h : Plain options e)
    (hid : held.checkpointId = e.checkpointId) (now : Int) :
    ((sessionMemory (some held)).write now e).2 = .duplicate held held := by
  have hget : ((sessionMemory (some held)).get e.sessionId).filter
      (fun p => p.checkpointId = e.checkpointId) = some held := by
    rw [sessionMemory, h.owner, ← hheld.owner, OrderedMap.get_set_self]
    exact if_pos (by simpa using hid)
  rw [Memory.write_duplicate hget]

theorem bootstrap_of_stored (h : Plain options e) (hnot : ¬ Deferring e) {context : AgentContext}
    (hstate : e.deterministic = createCheckpointState context) (initial : AgentContext) (now : Int) :
    bootstrapCheckpoint initial
      (.ok ((sessionMemory (some e)).read now options.sessionId none)) = .ok context := by
  have hstored : ∀ held, some e = some held → Plain options held := by
    rintro _ ⟨⟩
    exact h
  rw [read_stored hstored]
  obtain ⟨heffect, hawaits⟩ := not_or.mp hnot
  have hresumed : deriveRehydration [] (.found .present e none) = .resumed e := by
    simp [deriveRehydration, rehydratePresent, h.continuation, heffect, hawaits]
  simp only [elim_some, bootstrapCheckpoint, hresumed, hstate, readCheckpointState_create]

theorem checkpointEnvelope_plain (context : AgentContext) (input : WriteInput)
    (recordedAt : String) : Plain options (checkpointEnvelope options context input recordedAt) :=
  ⟨rfl, rfl, rfl, rfl, rfl, context, rfl⟩

theorem Plain.reconciled (h : Plain options e) (receipt : ReconciliationReceipt)
    (next : AgentContext) (recordedAt : String) :
    Plain options (reconciledEnvelope e receipt next recordedAt) :=
  ⟨h.owner, h.continuation, h.expiresAt, rfl, h.redactedFields, next, rfl⟩

end Store

section Ledger

def Placed (sessionId : String) (stored : Option Envelope) (ws : List Envelope) (cs : List Call) :
    CheckpointName → Prop
  | .phase n _ => n ∈ cs.map Call.step
  | .toolResult _ _ => True
  | .reconciled n p _ =>
    (∃ base ∈ ws, base.checkpointId = (CheckpointName.phase n p).text sessionId) ∧
      ∀ e, stored = some e → e.checkpointId ≠ (CheckpointName.phase n p).text sessionId

/-- The store holds one of the writes, and the writes and the executions have ids of their own. -/
structure Ledger (options : Options) (stored : Option Envelope) (ws : List Envelope)
    (cs : List Call) : Prop where
  held : ∀ e, stored = some e → e ∈ ws ∧ Plain options e
  named : ∀ e ∈ ws, ∃ name, e.checkpointId = name.text options.sessionId ∧
    Placed options.sessionId stored ws cs name
  distinct : ws.Pairwise fun a b => a.checkpointId = b.checkpointId → a = b
  steps : (cs.map Call.step).Nodup
  attempts : ∀ call ∈ cs,
    call.effectAttemptId = effectAttemptId options.sessionId (toString call.step)

/-- A turn whose llm call is not answered yet has written nothing but its intent. -/
def Turn.Open (options : Options) (ws : List Envelope) (cs : List Call) (t : Turn) : Prop :=
  t.step ∈ cs.map Call.step ∧ ∀ e ∈ ws, ∀ p,
    e.checkpointId = (CheckpointName.phase t.step p).text options.sessionId → p = .intentRecorded

variable {options : Options} {stored : Option Envelope} {ws : List Envelope} {cs : List Call}

variable {name : CheckpointName}

theorem Ledger.wrote (h : Ledger options stored ws cs) {e : Envelope}
    (hplain : Plain options e) (hid : e.checkpointId = name.text options.sessionId)
    (hplaced : Placed options.sessionId (some e) (ws ++ [e]) cs name)
    (hsame : ∀ other ∈ ws, other.checkpointId = e.checkpointId → other = e)
    (hphase : ∀ base ∈ ws, ∀ n p, base.checkpointId = (CheckpointName.phase n p).text options.sessionId →
      e.checkpointId ≠ (CheckpointName.phase n p).text options.sessionId) :
    Ledger options (some e) (ws ++ [e]) cs where
  held := by
    rintro _ ⟨⟩
    exact ⟨mem_append_right _ mem_cons_self, hplain⟩
  named := by
    intro other hother
    obtain hother | hother := mem_append.mp hother
    · obtain ⟨otherName, hotherId, hotherPlaced⟩ := h.named other hother
      refine ⟨otherName, hotherId, ?_⟩
      cases otherName with
      | phase n p => exact hotherPlaced
      | toolResult => trivial
      | reconciled n p r =>
        obtain ⟨⟨base, hbase, hbaseId⟩, -⟩ := hotherPlaced
        refine ⟨⟨base, mem_append_left _ hbase, hbaseId⟩, ?_⟩
        rintro _ ⟨⟩
        exact hphase base hbase n p hbaseId
    · obtain rfl := mem_singleton.mp hother
      exact ⟨name, hid, hplaced⟩
  distinct := by
    refine pairwise_append.mpr ⟨h.distinct, pairwise_singleton _ _, ?_⟩
    intro other hother last hlast heq
    obtain rfl := mem_singleton.mp hlast
    exact hsame other hother heq
  steps := h.steps
  attempts := h.attempts

theorem Ledger.wrote_fresh (h : Ledger options stored ws cs) {e : Envelope}
    (hplain : Plain options e) (hid : e.checkpointId = name.text options.sessionId)
    (hplaced : Placed options.sessionId (some e) (ws ++ [e]) cs name)
    (hfresh : ∀ other ∈ ws, other.checkpointId ≠ e.checkpointId) :
    Ledger options (some e) (ws ++ [e]) cs :=
  h.wrote hplain hid hplaced (fun other hother heq => absurd heq (hfresh other hother))
    fun base hbase _ _ hbaseId heq => hfresh base hbase (hbaseId.trans heq.symm)

theorem Ledger.executed (h : Ledger options stored ws cs) {call : Call}
    (hstep : call.step ∉ cs.map Call.step)
    (hattempt : call.effectAttemptId = effectAttemptId options.sessionId (toString call.step)) :
    Ledger options stored ws (cs ++ [call]) where
  held := h.held
  named := by
    intro e he
    obtain ⟨name, hid, hplaced⟩ := h.named e he
    refine ⟨name, hid, ?_⟩
    cases name with
    | phase n p =>
      change n ∈ (cs ++ [call]).map Call.step
      rw [map_append]
      exact mem_append_left _ hplaced
    | toolResult => trivial
    | reconciled n p r => exact hplaced
  distinct := h.distinct
  steps := by
    rw [map_append, map_singleton]
    exact nodup_append.mpr ⟨h.steps, nodup_singleton _, fun n hn m hm heq => by
      rw [mem_singleton.mp hm] at heq
      exact hstep (heq ▸ hn)⟩
  attempts := by
    intro other hother
    obtain hother | hother := mem_append.mp hother
    · exact h.attempts other hother
    · rw [mem_singleton.mp hother]
      exact hattempt

theorem Ledger.not_phase (h : Ledger options stored ws cs) {n : Nat} {p : EffectPhase}
    (hstep : n ∉ cs.map Call.step) :
    ∀ other ∈ ws, other.checkpointId ≠ (CheckpointName.phase n p).text options.sessionId := by
  intro other hother heq
  obtain ⟨name, hid, hplaced⟩ := h.named other hother
  obtain rfl := CheckpointName.text_injective (hid.symm.trans heq)
  exact hstep hplaced

theorem Ledger.intent (h : Ledger options stored ws cs) {turn : Turn}
    (hstep : turn.step ∉ cs.map Call.step) (registered : List String) (recordedAt : String) :
    Ledger options (some ((Writing.intent turn).envelope options recordedAt))
        (ws ++ [(Writing.intent turn).envelope options recordedAt])
        (cs ++ [turn.call options registered]) ∧
      turn.Open options (ws ++ [(Writing.intent turn).envelope options recordedAt])
        (cs ++ [turn.call options registered]) := by
  have hmem : turn.step ∈ (cs ++ [turn.call options registered]).map Call.step := by
    rw [map_append]
    exact mem_append_right _ mem_cons_self
  have hid : ((Writing.intent turn).envelope options recordedAt).checkpointId =
      (CheckpointName.phase turn.step .intentRecorded).text options.sessionId :=
    (labelled_intent turn).id
  refine ⟨(h.executed hstep rfl).wrote_fresh (checkpointEnvelope_plain _ _ _) hid hmem ?_, hmem, ?_⟩
  · rw [hid]
    exact h.not_phase hstep
  · intro e he p heq
    obtain he | he := mem_append.mp he
    · exact absurd heq (h.not_phase hstep e he)
    · rw [mem_singleton.mp he] at heq
      exact (CheckpointName.phase.inj (CheckpointName.text_injective (hid.symm.trans heq))).2.symm

theorem Ledger.outcome (h : Ledger options stored ws cs) {turn : Turn} (hopen : turn.Open options ws cs)
    {context : AgentContext} {input : WriteInput} {recordedAt : String}
    (hstep : input.step = turn.step) (hkey : input.checkpointKey = none)
    (hphase : input.phase ≠ .intentRecorded) :
    Ledger options (some (checkpointEnvelope options context input recordedAt))
      (ws ++ [checkpointEnvelope options context input recordedAt]) cs := by
  have hid : (checkpointEnvelope options context input recordedAt).checkpointId =
      (CheckpointName.phase input.step input.phase).text options.sessionId :=
    (labelled_phase hkey hphase).id
  refine h.wrote_fresh (checkpointEnvelope_plain _ _ _) hid (hstep ▸ hopen.1) fun other hother heq => ?_
  rw [hid, hstep] at heq
  exact hphase (hopen.2 other hother _ heq)

theorem Ledger.reconciled {base : Envelope} (h : Ledger options (some base) ws cs)
    (hlabelled : Labelled options.sessionId base name)
    (hdefers : Deferring base) (receipt : ReconciliationReceipt) (next : AgentContext)
    (recordedAt : String) : Ledger options (some (reconciledEnvelope base receipt next recordedAt))
      (ws ++ [reconciledEnvelope base receipt next recordedAt]) cs := by
  have hname : ∃ n p, name = .phase n p ∧
      Labelled options.sessionId (reconciledEnvelope base receipt next recordedAt)
        (.reconciled n p receipt.receiptId) := labelled_reconciled hlabelled hdefers receipt next
  obtain ⟨n, p, rfl, hreconciled⟩ := hname
  obtain ⟨hbase, hplain⟩ := h.held base rfl
  refine h.wrote_fresh (hplain.reconciled receipt next recordedAt) hreconciled.id ⟨?_, ?_⟩ ?_
  · exact ⟨base, mem_append_left _ hbase, hlabelled.id⟩
  · rintro _ ⟨⟩ heq
    cases CheckpointName.text_injective (hreconciled.id.symm.trans heq)
  · intro other hother heq
    obtain ⟨otherName, hid, hplaced⟩ := h.named other hother
    obtain rfl := CheckpointName.text_injective (hid.symm.trans (heq.trans hreconciled.id))
    exact hplaced.2 base rfl hlabelled.id

end Ledger

section Sessions

/-- The last answer of the log, when it is `ok`, is what the store holds. -/
def Answered (stored : Option Envelope) (log : List Entry) : Prop :=
  ∀ a, log.getLast? = some (.answered a) → a.reply.ok = true →
    ∃ e, stored = some e ∧ ¬ Deferring e ∧ e.deterministic = createCheckpointState a.context

def Phase.Open (options : Options) (ws : List Envelope) (cs : List Call) : Phase → Prop
  | .calling turn | .writing (.receipt turn _ _) _ | .writing (.failure turn _) _
  | .writing (.unsettled turn _) _ => turn.Open options ws cs
  | .idle | .reading _ | .writing (.waiting _ _ _) _ | .writing (.intent _) _
  | .writing (.reconciled _ _ _) _ => True

structure Numbered (options : Options) (registered : List String) (s : Loop) : Prop where
  sound : Sound options registered s
  ledger : Ledger options s.stored (writes s.log) (executions s.log)
  phase : s.phase.Open options (writes s.log) (executions s.log)
  answered : Answered s.stored s.log

variable {options : Options} {registered : List String} {s : Loop}

theorem Answered.entry {stored : Option Envelope} {log : List Entry} {entry : Entry}
    (h : ∀ a, entry = .answered a → a.reply.ok = true →
      ∃ e, stored = some e ∧ ¬ Deferring e ∧ e.deterministic = createCheckpointState a.context) :
    Answered stored (log ++ [entry]) := by
  intro a hlast
  rw [getLast?_concat] at hlast
  exact h a (some.inj hlast)

variable {a : Answer} {w : Writing} {e : Envelope} {now : Int} {s' : Loop}

theorem Numbered.answer (hsound : Sound options registered s)
    (hledger : Ledger options s.stored (writes s.log) (executions s.log)) (ha : a.reply.ok = true →
      ∃ e, s.stored = some e ∧ ¬ Deferring e ∧ e.deterministic = createCheckpointState a.context) :
    Numbered options registered (s.answer a) where
  sound := Sound.answer hsound.guarded a
  ledger := by
    change Ledger options s.stored (writes (s.log ++ [.answered a]))
      (executions (s.log ++ [.answered a]))
    rw [writes_answered, executions_answered]
    exact hledger
  phase := trivial
  answered := Answered.entry fun b hb hok => by
    obtain rfl := Entry.answered.inj hb
    exact ha hok

theorem Numbered.begin (h : Numbered options registered s)
    (hready : w.Ready options registered s.stored s.log)
    (hopen : ∀ e, (Phase.writing w e).Open options (writes s.log) (executions s.log))
    (clock : Except Thrown String) : Numbered options registered (s.begin options w clock) := by
  have hsound := Sound.begin h.sound.guarded hready clock
  unfold Loop.begin at hsound ⊢
  split at hsound
  case h_1 e _ => exact ⟨hsound, h.ledger, hopen e, h.answered⟩
  case h_2 t _ =>
    refine Numbered.answer h.sound h.ledger fun hok => ?_
    cases w <;> cases hok

theorem afterRead_not_ok {context : AgentContext} {answer : Except Thrown ReadResult}
    {message : Message} (h : afterRead options context answer message = .answer a) :
    a.reply.ok = false := by
  cases message with
  | reconcileAgentSession receipt checkpointState =>
    simp only [afterRead] at h
    split at h
    case h_1 =>
      obtain rfl := Next.answer.inj h
      rfl
    case h_2 => cases h
  | request request =>
    simp only [afterRead] at h
    split at h
    case h_1 =>
      obtain rfl := Next.answer.inj h
      rfl
    case h_2 =>
      cases request with
      | getAgentContext =>
        obtain rfl := Next.answer.inj h
        rfl
      | startAgent => cases h
      | observeToolResult result =>
        simp only [proceed] at h
        split at h
        case isTrue => cases h
        case isFalse => cases h

theorem afterRead_open {context : AgentContext} {answer : Except Thrown ReadResult}
    {message : Message} {ws : List Envelope} {cs : List Call} (e : Envelope)
    (h : afterRead options context answer message = .write w) :
    (Phase.writing w e).Open options ws cs := by
  cases message with
  | reconcileAgentSession receipt checkpointState =>
    simp only [afterRead] at h
    split at h
    case h_1 => cases h
    case h_2 =>
      obtain rfl := Next.write.inj h
      trivial
  | request request =>
    simp only [afterRead] at h
    split at h
    case h_1 => cases h
    case h_2 =>
      cases request with
      | getAgentContext => cases h
      | startAgent =>
        obtain rfl := Next.write.inj h
        trivial
      | observeToolResult result =>
        simp only [proceed] at h
        split at h
        case isTrue =>
          obtain rfl := Next.write.inj h
          trivial
        case isFalse =>
          obtain rfl := Next.write.inj h
          trivial

variable {clock : Except Thrown String}

theorem Numbered.input_writing (h : Numbered options registered s)
    (hphase : s.phase = .writing w e) {cs : List Call}
    (hledger : Ledger options (some e) (writes s.log ++ [e]) cs)
    (hstep : s.input options registered (.store now clock) = some s') :
    ∃ kept, s' = (s.record w e kept).written options registered w ∧
      (s.record w e kept).stored = some e := by
  have hstored : ∀ e, s.stored = some e → Plain options e := fun e he => (h.ledger.held e he).2
  have hplain := (hledger.held e rfl).2
  have hsame : ∀ held, s.stored = some held → held.checkpointId = e.checkpointId → held = e :=
    fun held hheld => (pairwise_append.mp hledger.distinct).2.2 held
      (h.ledger.held held hheld).1 e mem_cons_self
  rw [Loop.input, Loop.answerOf, hphase] at hstep
  simp only [bind_some, Loop.step, hphase] at hstep
  obtain ⟨-, hs⟩ := ite_none_right_eq_some.mp hstep
  have hdone : ∀ result, ((sessionMemory s.stored).write now e).2 = result →
      isCheckpointWriteDurable result = true →
      s' = (s.record w e (isKept result)).written options registered w := by
    intro result hresult hdurable
    rw [hresult, Loop.refusal, if_pos hdurable] at hs
    exact (some.inj hs).symm
  by_cases hid : ∃ held, s.stored = some held ∧ held.checkpointId = e.checkpointId
  · obtain ⟨held, hheld, hid⟩ := hid
    obtain rfl := hsame held hheld hid
    refine ⟨false, hdone (.duplicate held held) ?_ rfl, hheld⟩
    rw [hheld]
    exact write_repeated hplain hplain rfl now
  · have hnew : ∀ held, s.stored = some held → held.checkpointId ≠ e.checkpointId :=
      fun held hheld heq => hid ⟨held, hheld, heq⟩
    have hresult := write_fresh hstored hplain hnew now
    cases hcase : s.stored with
    | none => exact ⟨true, hdone (.stored e) (hresult.trans (by rw [hcase]; rfl)) rfl, rfl⟩
    | some previous =>
      exact ⟨true, hdone (.replaced e previous) (hresult.trans (by rw [hcase]; rfl)) rfl, rfl⟩

theorem Numbered.answered_write (h : Numbered options registered s)
    (hphase : s.phase = .writing w e)
    (hledger : Ledger options (some e) (writes s.log ++ [e]) (executions s.log))
    (hwritten : ∀ t : Loop, t.written options registered w = t.answer a)
    (ha : a.reply.ok = true → ¬ Deferring e ∧ e.deterministic = createCheckpointState a.context)
    (hstep : s.input options registered (.store now clock) = some s') :
    Numbered options registered s' := by
  obtain ⟨kept, rfl, hstored⟩ := h.input_writing hphase hledger hstep
  have hready := h.sound.phase
  rw [hphase] at hready
  rw [hwritten]
  refine ⟨Sound.answer (h.sound.guarded.record hready kept) a, ?_, trivial,
    Answered.entry fun b hb hok => ?_⟩
  · change Ledger options (s.record w e kept).stored
      (writes (s.log ++ [Loop.entry e kept w] ++ [.answered a]))
      (executions (s.log ++ [Loop.entry e kept w] ++ [.answered a]))
    rw [hstored, writes_answered, writes_entry, executions_answered, executions_entry]
    exact hledger
  · obtain rfl := Entry.answered.inj hb
    exact ⟨e, hstored, ha hok⟩

theorem Sound.input (h : Sound options registered s) {i : Input}
    (hstep : s.input options registered i = some s') : Sound options registered s' := by
  cases i with
  | message message =>
    have hreceive : s.step options registered (.receive message) = some s' := hstep
    exact h.step hreceive
  | store now clock =>
    obtain ⟨action, -, hstep⟩ := bind_eq_some_iff.mp hstep
    exact h.step hstep
  | outcome outcome clock =>
    have hcall : s.step options registered (.call outcome clock) = some s' := hstep
    exact h.step hcall

theorem Numbered.write (h : Numbered options registered s)
    (hphase : s.phase = .writing w e) (hfresh : s.Fresh)
    (hstep : s.input options registered (.store now clock) = some s') :
    Numbered options registered s' := by
  have hready := h.sound.phase
  have hopen := h.phase
  rw [Loop.Fresh, hphase] at hfresh
  rw [hphase] at hready hopen
  obtain ⟨⟨recordedAt, rfl⟩, hready⟩ := hready
  cases w with
  | waiting active next result =>
    have hid : ((Writing.waiting active next result).envelope options recordedAt).checkpointId =
        (CheckpointName.toolResult next.steps result.toolCallId).text options.sessionId :=
      (labelled_waiting active next result).id
    have hledger := h.ledger.wrote (checkpointEnvelope_plain _ _ _) hid trivial hfresh
      fun _ _ n p _ heq => by cases CheckpointName.text_injective (hid.symm.trans heq)
    exact h.answered_write hphase hledger (fun _ => rfl)
      (fun _ => ⟨not_deferring_of_receiptRecorded rfl, rfl⟩) hstep
  | intent turn =>
    have hintent := h.ledger.intent hfresh registered recordedAt
    obtain ⟨kept, rfl, hstored⟩ := h.input_writing hphase hintent.1 hstep
    refine ⟨h.sound.input hstep, ?_, ?_, Answered.entry fun a ha => by cases ha⟩
    · change Ledger options (s.record (.intent turn) _ kept).stored
        (writes (s.log ++ [Loop.entry _ kept (.intent turn)] ++
          [.executed (turn.call options registered)]))
        (executions (s.log ++ [Loop.entry _ kept (.intent turn)] ++
          [.executed (turn.call options registered)]))
      rw [hstored, writes_executed, writes_entry, executions_executed, executions_entry]
      exact hintent.1
    · change turn.Open options
        (writes (s.log ++ [Loop.entry _ kept (.intent turn)] ++
          [.executed (turn.call options registered)]))
        (executions (s.log ++ [Loop.entry _ kept (.intent turn)] ++
          [.executed (turn.call options registered)]))
      rw [writes_executed, writes_entry, executions_executed, executions_entry]
      exact hintent.2
  | receipt turn message usage =>
    exact h.answered_write hphase (h.ledger.outcome hopen rfl rfl nofun) (fun _ => rfl)
      (fun _ => ⟨not_deferring_of_receiptRecorded rfl, rfl⟩) hstep
  | failure turn error | unsettled turn error =>
    exact h.answered_write hphase (h.ledger.outcome hopen rfl rfl nofun) (fun _ => rfl) nofun hstep
  | reconciled receipt base next =>
    obtain ⟨hbase, hdefers⟩ := hready
    obtain ⟨name, hlabelled⟩ := h.sound.guarded.labelled base hbase
    have hledger := (hbase ▸ h.ledger).reconciled hlabelled hdefers receipt next recordedAt
    exact h.answered_write hphase hledger (fun _ => rfl)
      (fun _ => ⟨not_deferring_reconciled base receipt next, rfl⟩) hstep

theorem Numbered.input (h : Numbered options registered s) (hfresh : s.Fresh) {i : Input}
    (hstep : s.input options registered i = some s') : Numbered options registered s' := by
  have hsound := h.sound.input hstep
  cases i with
  | message message =>
    obtain ⟨-, hs⟩ := ite_none_right_eq_some.mp hstep
    cases hs
    unfold Loop.receive at hsound ⊢
    split
    case h_1 receipt checkpointState =>
      split
      case isTrue => exact Numbered.answer h.sound h.ledger nofun
      case isFalse => exact ⟨⟨h.sound.guarded, trivial⟩, h.ledger, trivial, h.answered⟩
    case h_2 => exact ⟨⟨h.sound.guarded, trivial⟩, h.ledger, trivial, h.answered⟩
  | outcome outcome clock =>
    have hready := h.sound.phase
    have hopen := h.phase
    simp only [Loop.input, Loop.step] at hstep
    split at hstep
    case h_2 => cases hstep
    case h_1 turn hphase =>
      cases hstep
      rw [hphase] at hready hopen
      refine h.begin (afterCall_ready hready outcome) (fun e => ?_) clock
      cases outcome <;> exact hopen
  | store now clock =>
    cases hphase : s.phase with
    | idle | calling turn =>
      rw [Loop.input, Loop.answerOf, hphase] at hstep
      cases hstep
    | writing w e => exact h.write hphase hfresh hstep
    | reading message =>
      rw [Loop.input, Loop.answerOf, hphase] at hstep
      simp only [bind_some, Loop.step, hphase] at hstep
      obtain ⟨hread, hs⟩ := ite_none_right_eq_some.mp hstep
      cases hs
      unfold Loop.follow
      split
      case h_1 a ha =>
        refine Numbered.answer h.sound h.ledger fun hok => ?_
        rw [afterRead_not_ok ha] at hok
        cases hok
      case h_2 w hw =>
        exact h.begin (afterRead_ready h.sound.guarded hread hw) (fun e => afterRead_open e hw) clock

theorem Numbered.start : Numbered options registered (Loop.start options) where
  sound := Sound.start
  ledger := by
    change Ledger options none [] []
    refine ⟨fun e he => ?_, fun e he => absurd he not_mem_nil, List.Pairwise.nil,
      nodup_nil, fun call hcall => absurd hcall not_mem_nil⟩
    cases he
  phase := trivial
  answered := by rintro a ⟨⟩

def Loop.FreshRun (options : Options) (registered : List String) (s : Loop) : List Input → Prop
  | [] => True
  | i :: rest => s.Fresh ∧
      (s.input options registered i).elim True fun s' => s'.FreshRun options registered rest

theorem Numbered.session {inputs : List Input} :
    ∀ {s s' : Loop}, Numbered options registered s → s.FreshRun options registered inputs →
      s.session options registered inputs = some s' → Numbered options registered s' := by
  induction inputs with
  | nil =>
    rintro s s' h - hrun
    cases hrun
    exact h
  | cons i inputs ih =>
    intro s s' h hfresh hrun
    rw [Loop.session, foldlM_cons] at hrun
    obtain ⟨next, hstep, hrest⟩ := bind_eq_some_iff.mp hrun
    obtain ⟨hnow, hlater⟩ := hfresh
    rw [hstep] at hlater
    exact ih (h.input hnow hstep) hlater hrest

end Sessions

section Histories

instance (log : List Entry) : ∀ phase : Phase, Decidable (phase.Fresh log)
  | .writing (.intent turn) _ => inferInstanceAs (Decidable (turn.step ∉ executedSteps log))
  | .writing (.waiting _ _ _) e => inferInstanceAs
      (Decidable (∀ other ∈ writes log, other.checkpointId = e.checkpointId → other = e))
  | .writing (.receipt _ _ _) _ | .writing (.failure _ _) _ | .writing (.unsettled _ _) _
  | .writing (.reconciled _ _ _) _ | .idle | .reading _ | .calling _ => .isTrue trivial

instance (s : Loop) : Decidable s.Fresh := inferInstanceAs (Decidable (s.phase.Fresh s.log))

def Loop.decideFreshRun (options : Options) (registered : List String) :
    ∀ (s : Loop) (inputs : List Input), Decidable (s.FreshRun options registered inputs)
  | _, [] => .isTrue trivial
  | s, i :: rest =>
    have : Decidable ((s.input options registered i).elim True fun s' =>
        s'.FreshRun options registered rest) :=
      match s.input options registered i with
      | some s' => s'.decideFreshRun options registered rest
      | none => .isTrue trivial
    inferInstanceAs (Decidable (s.Fresh ∧ _))

instance (options : Options) (registered : List String) (s : Loop) (inputs : List Input) :
    Decidable (s.FreshRun options registered inputs) := s.decideFreshRun options registered inputs

def twoTools : LlmMessage :=
  { role := .assistant
    content := ""
    toolCalls := some [⟨"t1", "search", .null⟩, ⟨"t2", "search", .null⟩] }

def startInputs : List Input :=
  [.message (.request (.startAgent "first" none)), .store 0 (.ok noon), .store 0 (.ok noon)]

def askedInputs : List Input :=
  startInputs ++ [.outcome (.ok twoTools none) (.ok noon), .store 0 (.ok noon)]

def searchResult (output : String) : ToolResult := ⟨"t1", "search", true, some (.str output)⟩

def observeInputs (output : String) : List Input :=
  [.message (.request (.observeToolResult (searchResult output))), .store 0 (.ok noon),
    .store 0 (.ok noon)]

def observedAnswer (active : AgentContext) (output : String) : Answer :=
  { context := observeContext sessionOptions active (searchResult output)
    reply := .message .waitingForTool (createObservedToolMessage (searchResult output)) [] none
    emitted := [observedToolEvent (searchResult output)] }

def askedContext : AgentContext := firstTurn.next twoTools

def observedEnvelope (options : Options) (context : AgentContext) (result : ToolResult)
    (recordedAt : String) : Envelope :=
  (Writing.waiting context (observeContext options context result) result).envelope options recordedAt

def Loop.observed (s : Loop) (options : Options) (context : AgentContext) (result : ToolResult)
    (recordedAt : String) (kept : Bool) : Loop :=
  let e := observedEnvelope options context result recordedAt
  { context := observeContext options context result
    phase := .idle
    stored := if kept then some e else s.stored
    log := s.log ++ [.wrote e kept] ++ [.answered
      { context := observeContext options context result
        reply := .message .waitingForTool (createObservedToolMessage result) [] none
        emitted := [observedToolEvent result] }] }

variable {options : Options} {context : AgentContext} {recordedAt : String}

theorem session_observed (registered : List String) {s : Loop} {base : Envelope}
    (result : ToolResult) (recordedAt : String)
    (now : Int) {r : WriteResult} (hphase : s.phase = .idle) (hstored : s.stored = some base)
    (hplain : Plain options base) (hnot : ¬Deferring base)
    (hstate : base.deterministic = createCheckpointState context)
    (hpending : (observeContext options context result).pendingToolCalls ≠ [])
    (hvalid : (observedEnvelope options context result recordedAt).valid = true)
    (hwrite : ((sessionMemory (some base)).write now
      (observedEnvelope options context result recordedAt)).2 = r)
    (hwritable : Loop.writable (some base) (observedEnvelope options context result recordedAt)
      (isKept r) (.ok r) = true) (hdurable : isCheckpointWriteDurable r = true) :
    s.session options registered [.message (.request (.observeToolResult result)),
        .store now (.ok recordedAt), .store now (.ok recordedAt)] =
      some (s.observed options context result recordedAt (isKept r)) := by
  have hread : ∀ e, some base = some e → Plain options e := by
    rintro _ ⟨⟩
    exact hplain
  have hboot := bootstrap_of_stored hplain hnot hstate s.context now
  have hreadable : Loop.readable s.stored
      (.ok ((sessionMemory s.stored).read now options.sessionId none)) = true := by
    rw [hstored, read_stored hread]
    exact decide_eq_true rfl
  obtain ⟨current, phase, stored, log⟩ := s
  obtain rfl : phase = .idle := hphase
  obtain rfl : stored = some base := hstored
  have hcreated := createEnvelope_eq_ok.mpr ⟨hvalid, rfl⟩
  have hafter : afterRead options current
      (.ok ((sessionMemory (some base)).read now options.sessionId none))
      (.request (.observeToolResult result)) =
        .write (.waiting context (observeContext options context result) result) := by
    rw [afterRead, hboot]
    exact if_neg hpending
  rw [observedEnvelope] at *
  simp only [Loop.session, foldlM_cons, foldlM_nil, Loop.input, Loop.step, if_true,
    Loop.receive, bind_eq_bind, bind_some, Loop.answerOf, hreadable, hafter,
    Loop.follow, Loop.begin, Loop.envelopeOf, Except.bind, hcreated, Except.mapError, hwrite,
    hwritable, Loop.refusal, hdurable, Loop.written, Loop.answer, Loop.record, Loop.entry]
  rfl

variable {result : ToolResult}

theorem observedEnvelope_plain : Plain options
    (observedEnvelope options context result recordedAt) :=
  checkpointEnvelope_plain _ _ _

theorem observedEnvelope_settled :
    ¬Deferring (observedEnvelope options context result recordedAt) := by
  rintro (h | h) <;> cases h

theorem observedEnvelope_state :
    (observedEnvelope options context result recordedAt).deterministic =
      createCheckpointState (observeContext options context result) :=
  rfl

theorem session_asked : ((Loop.start sessionOptions).session sessionOptions ["llm"] askedInputs).map
        (fun s => (s.phase, s.stored)) =
      some (.idle, some ((Writing.receipt firstTurn twoTools none).envelope sessionOptions noon)) := by
  rfl

end Histories

end ActorWeb.AgentLoop
