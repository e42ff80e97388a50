import ActorWeb.AgentLoopNames
import ActorWeb.Trace

namespace ActorWeb.AgentLoop

open Option List SessionCheckpoint

section Log

def receiptOf (attemptId : String) (e : Envelope) : Bool :=
  e.effect.any fun effect =>
    effect.phase = .receiptRecorded && effect.effectAttemptId = attemptId

/-- An entry after which an execution of the llm tool is accounted for: a receipt of its attempt
or a reconciliation that the store holds. -/
def settles (call : Call) : Entry → Bool
  | .wrote e kept => kept && receiptOf call.effectAttemptId e
  | .reconciled _ kept => kept
  | .executed _ | .answered _ => false

def account (calls : List Call) : Entry → List Call
  | .executed call => calls ++ [call]
  | entry => calls.filter fun call => !settles call entry

def outstanding (log : List Entry) : List Call := log.foldl account []

theorem outstanding_concat (log : List Entry) (entry : Entry) :
    outstanding (log ++ [entry]) = account (outstanding log) entry := by
  rw [outstanding, foldl_concat, outstanding]

theorem mem_account {call : Call} {log : List Entry} :
    ∀ {calls : List Call}, call ∈ calls → (∀ entry ∈ log, settles call entry = false) →
      call ∈ log.foldl account calls := by
  induction log with
  | nil => exact fun hmem _ => hmem
  | cons entry log ih =>
    intro calls hmem hnone
    have hentry := hnone entry mem_cons_self
    refine ih ?_ fun other hother => hnone other (mem_cons_of_mem _ hother)
    cases entry with
    | executed other => exact mem_append_left _ hmem
    | wrote | reconciled | answered =>
      exact mem_filter.mpr ⟨hmem, by rw [hentry]; rfl⟩

theorem exists_settles {before after : List Entry} {call : Call}
    (h : outstanding (before ++ .executed call :: after) = []) :
    ∃ entry ∈ after, settles call entry = true := by
  by_contra hnone
  have hafter : ∀ entry ∈ after, settles call entry = false := fun entry hentry =>
    Bool.eq_false_iff.mpr fun hsettles => hnone ⟨entry, hentry, hsettles⟩
  have hmem : call ∈ outstanding (before ++ .executed call :: after) := by
    rw [outstanding, foldl_append, foldl_cons]
    exact mem_account (mem_append_right _ mem_cons_self) hafter
  rw [h] at hmem
  cases hmem

theorem outstanding_wrote {log : List Entry} (h : outstanding log = []) (e : Envelope) (kept : Bool) :
    outstanding (log ++ [.wrote e kept]) = [] := by
  rw [outstanding_concat, h]
  rfl

theorem outstanding_answered (log : List Entry) (a : Answer) :
    outstanding (log ++ [.answered a]) = outstanding log := by
  rw [outstanding_concat]
  exact filter_eq_self.mpr fun _ _ => rfl

/-- The envelope records the intent of an execution, with the context that is sent. -/
structure IntentOf (sessionId : String) (call : Call) (e : Envelope) : Prop where
  id : e.checkpointId = checkpointId sessionId call.step EffectPhase.intentRecorded.text
  effect : ∃ effect, e.effect = some effect ∧ effect.phase = .intentRecorded ∧
    effect.effectAttemptId = call.effectAttemptId
  context : ∃ context, e.deterministic = createCheckpointState context ∧
    context.system = call.request.system ∧ context.history = call.request.messages

/-- An execution comes right after its intent, with every earlier one accounted for. -/
def Recorded (sessionId : String) (before : List Entry) : Entry → Prop
  | .executed call =>
    (∃ earlier e, before = earlier ++ [.wrote e true] ∧ IntentOf sessionId call e) ∧
      outstanding before = []
  | .wrote _ _ | .reconciled _ _ | .answered _ => True

end Log

section Envelopes

structure Labelled (sessionId : String) (e : Envelope) (name : CheckpointName) : Prop where
  id : e.checkpointId = name.text sessionId
  phase : Deferring e → ∃ n p, name = .phase n p
  intent : ∀ n, name = .phase n .intentRecorded → Deferring e

variable {options : Options} {recordedAt : String}

theorem checkpointEnvelope_id (context : AgentContext) (input : WriteInput) :
    (checkpointEnvelope options context input recordedAt).checkpointId =
      checkpointId options.sessionId input.step
        (input.checkpointKey.getD input.phase.text) := rfl

theorem reconciledEnvelope_id (base : Envelope) (receipt : ReconciliationReceipt)
    (next : AgentContext) : (reconciledEnvelope base receipt next recordedAt).checkpointId =
      base.checkpointId ++ ":reconciled:" ++ receipt.receiptId := rfl

theorem not_deferring_of_receipt {e : Envelope} (hstatus : e.reconciliation.status = .clear)
    (heffect : ∀ effect, e.effect = some effect → effect.phase = .receiptRecorded) :
    ¬ Deferring e := by
  rintro (h | h)
  · obtain ⟨effect, hsome, hunsettled⟩ := (Option.any_eq_true _ _).mp h
    simp [EffectState.unsettled, heffect effect hsome] at hunsettled
  · cases hsome : e.effect with
    | none => simp [Envelope.awaitsReconciliation, hstatus, hsome] at h
    | some effect => simp [Envelope.awaitsReconciliation, hstatus, hsome, heffect effect hsome] at h

theorem not_deferring_of_receiptRecorded {context : AgentContext} {input : WriteInput}
    (h : input.phase = .receiptRecorded) :
    ¬ Deferring (checkpointEnvelope options context input recordedAt) := by
  refine not_deferring_of_receipt ?_ fun effect heq => ?_
  · simp [checkpointEnvelope, h]
  · cases heq
    exact h

theorem not_deferring_reconciled (base : Envelope) (receipt : ReconciliationReceipt)
    (next : AgentContext) : ¬ Deferring (reconciledEnvelope base receipt next recordedAt) := by
  refine not_deferring_of_receipt rfl fun effect heq => ?_
  obtain ⟨before, -, rfl⟩ := map_eq_some_iff.mp heq
  rfl

theorem deferring_intent (turn : Turn) :
    Deferring ((Writing.intent turn).envelope options recordedAt) := .inl rfl

theorem deferring_unsettled (turn : Turn) (error : AgentError) :
    Deferring ((Writing.unsettled turn error).envelope options recordedAt) := .inr rfl

theorem labelled_waiting (active next : AgentContext) (result : ToolResult) :
    Labelled options.sessionId ((Writing.waiting active next result).envelope options recordedAt)
      (.toolResult next.steps result.toolCallId) where
  id := rfl
  phase h := absurd h (not_deferring_of_receiptRecorded rfl)
  intent n h := by cases h

theorem labelled_intent (turn : Turn) :
    Labelled options.sessionId ((Writing.intent turn).envelope options recordedAt)
      (.phase turn.step .intentRecorded) where
  id := rfl
  phase _ := ⟨_, _, rfl⟩
  intent _ _ := deferring_intent turn

theorem labelled_phase {context : AgentContext} {input : WriteInput}
    (hkey : input.checkpointKey = none) (hphase : input.phase ≠ .intentRecorded) :
    Labelled options.sessionId (checkpointEnvelope options context input recordedAt)
      (.phase input.step input.phase) where
  id := by
    rw [checkpointEnvelope_id, hkey, CheckpointName.text, CheckpointName.head, CheckpointName.rest,
      String.append_empty]
    rfl
  phase _ := ⟨_, _, rfl⟩
  intent n h := absurd (CheckpointName.phase.inj h).2 hphase

theorem labelled_reconciled {base : Envelope} {name : CheckpointName}
    (hbase : Labelled options.sessionId base name) (hdefers : Deferring base)
    (receipt : ReconciliationReceipt) (next : AgentContext) : ∃ n p, name = .phase n p ∧
      Labelled options.sessionId (reconciledEnvelope base receipt next recordedAt)
        (.reconciled n p receipt.receiptId) := by
  obtain ⟨n, p, rfl⟩ := hbase.phase hdefers
  refine ⟨n, p, rfl, ?_, fun h => absurd h (not_deferring_reconciled base receipt next),
    fun m h => by cases h⟩
  rw [reconciledEnvelope_id, hbase.id]
  simp only [CheckpointName.text, CheckpointName.head, CheckpointName.rest, CheckpointName.step,
    checkpointId, String.append_empty, String.append_assoc]

end Envelopes

section Invariant

def Writing.Ready (options : Options) (registered : List String) (stored : Option Envelope)
    (log : List Entry) : Writing → Prop
  | .waiting _ _ _ => outstanding log = []
  | .intent _ => outstanding log = [] ∧ ∀ held, stored = some held → ¬ Deferring held
  | .receipt turn _ _ | .failure turn _ | .unsettled turn _ =>
    outstanding log = [turn.call options registered]
  | .reconciled _ base _ => stored = some base ∧ Deferring base

def Phase.Ready (options : Options) (registered : List String) (stored : Option Envelope)
    (log : List Entry) : Phase → Prop
  | .idle | .reading _ => True
  | .writing w e =>
    (∃ recordedAt, e = w.envelope options recordedAt) ∧ w.Ready options registered stored log
  | .calling turn => outstanding log = [turn.call options registered]

/-- What holds at every await: an execution that is not accounted for keeps the session from
being resumed. -/
structure Guarded (options : Options) (stored : Option Envelope) (log : List Entry) : Prop where
  labelled : ∀ e, stored = some e → ∃ name, Labelled options.sessionId e name
  settled : outstanding log = [] ∨ ∃ e, stored = some e ∧ Deferring e
  recorded : Trace.Disciplined (Recorded options.sessionId) log

structure Sound (options : Options) (registered : List String) (s : Loop) : Prop where
  guarded : Guarded options s.stored s.log
  phase : s.phase.Ready options registered s.stored s.log

variable {options : Options} {registered : List String} {stored : Option Envelope}
variable {log : List Entry}

theorem Guarded.answered (h : Guarded options stored log) (a : Answer) :
    Guarded options stored (log ++ [.answered a]) where
  labelled := h.labelled
  settled := by rw [outstanding_answered]; exact h.settled
  recorded := Trace.disciplined_concat.mpr ⟨h.recorded, trivial⟩

theorem Guarded.keep (h : Guarded options stored log) {e : Envelope} {entry : Entry}
    (hlabelled : ∃ name, Labelled options.sessionId e name)
    (hsettled : outstanding (log ++ [entry]) = [] ∨ Deferring e)
    (hentry : Recorded options.sessionId log entry) :
    Guarded options (some e) (log ++ [entry]) where
  labelled := by
    rintro _ ⟨⟩
    exact hlabelled
  settled := hsettled.imp id fun hdefers => ⟨e, rfl, hdefers⟩
  recorded := Trace.disciplined_concat.mpr ⟨h.recorded, hentry⟩

theorem Guarded.lost (h : Guarded options stored log) (w : Writing) (e : Envelope) :
    Guarded options stored (log ++ [Loop.entry e false w]) := by
  have hsame : outstanding (log ++ [Loop.entry e false w]) = outstanding log := by
    rw [outstanding_concat]
    cases w <;> exact filter_eq_self.mpr fun _ _ => rfl
  have hentry : Recorded options.sessionId log (Loop.entry e false w) := by
    cases w <;> trivial
  exact ⟨h.labelled, by rw [hsame]; exact h.settled, Trace.disciplined_concat.mpr ⟨h.recorded, hentry⟩⟩

theorem outstanding_receipt {turn : Turn} {context : AgentContext} {input : WriteInput}
    {recordedAt : String} (hlog : outstanding log = [turn.call options registered])
    (hstep : input.step = turn.step) (hphase : input.phase = .receiptRecorded)
    (hkey : input.effectKey = none) :
    outstanding (log ++ [.wrote (checkpointEnvelope options context input recordedAt) true]) = [] := by
  rw [outstanding_concat, hlog]
  simp [account, settles, receiptOf, checkpointEnvelope, Turn.call, hstep, hphase, hkey]

theorem Guarded.record {s : Loop} (h : Guarded options s.stored s.log) {w : Writing} {e : Envelope}
    (hready : (Phase.writing w e).Ready options registered s.stored s.log) (kept : Bool) :
    Guarded options (s.record w e kept).stored (s.record w e kept).log := by
  obtain ⟨⟨recordedAt, rfl⟩, hready⟩ := hready
  cases kept with
  | false => exact h.lost w _
  | true =>
    cases w with
    | waiting active next result =>
      exact h.keep ⟨_, labelled_waiting active next result⟩ (.inl (outstanding_wrote hready _ _))
        trivial
    | intent turn => exact h.keep ⟨_, labelled_intent turn⟩ (.inr (deferring_intent turn)) trivial
    | receipt turn message usage | failure turn error =>
      exact h.keep ⟨_, labelled_phase rfl nofun⟩ (.inl (outstanding_receipt hready rfl rfl rfl))
        trivial
    | unsettled turn error =>
      exact h.keep ⟨_, labelled_phase rfl nofun⟩ (.inr (deferring_unsettled turn error)) trivial
    | reconciled receipt base next =>
      obtain ⟨hstored, hdefers⟩ := hready
      obtain ⟨name, hname⟩ := h.labelled base hstored
      obtain ⟨n, p, -, hlabelled⟩ := labelled_reconciled hname hdefers receipt next
      refine h.keep ⟨_, hlabelled⟩ (.inl ?_) trivial
      rw [outstanding_concat]
      exact filter_eq_nil_iff.mpr fun _ _ => Bool.false_ne_true

end Invariant

section Steps

variable {options : Options} {registered : List String} {s : Loop}

theorem Sound.answer (h : Guarded options s.stored s.log) (a : Answer) :
    Sound options registered (s.answer a) :=
  ⟨h.answered a, trivial⟩

variable {w : Writing} {e : Envelope}

theorem envelopeOf_ok {clock : Except Thrown String}
    (h : Loop.envelopeOf options w clock = .ok e) : ∃ recordedAt, e = w.envelope options recordedAt := by
  cases clock with
  | error t => cases h
  | ok recordedAt =>
    refine ⟨recordedAt, ?_⟩
    rw [Loop.envelopeOf, Except.bind] at h
    cases hcreated : createEnvelope (w.envelope options recordedAt) with
    | error message =>
      rw [hcreated] at h
      cases h
    | ok created =>
      rw [hcreated] at h
      cases h
      exact (createEnvelope_eq_ok.mp hcreated).2

theorem Sound.begin (h : Guarded options s.stored s.log)
    (hready : w.Ready options registered s.stored s.log) (clock : Except Thrown String) :
    Sound options registered (s.begin options w clock) := by
  unfold Loop.begin
  split
  case h_1 e he => exact ⟨h, envelopeOf_ok he, hready⟩
  case h_2 t ht => exact Sound.answer h _

variable {answer : Except Thrown ReadResult}

theorem not_deferring_of_bootstrap {context active : AgentContext} {stored : Option Envelope}
    (hread : Loop.readable stored answer = true)
    (h : bootstrapCheckpoint context answer = .ok active) :
    ∀ held, stored = some held → ¬ Deferring held := by
  rintro held rfl
  unfold bootstrapCheckpoint at h
  split at h
  case h_1 => cases h
  case h_2 result =>
    split at h
    case h_1 e hresumed =>
      obtain ⟨⟨fields, rfl⟩, hnot⟩ := deriveRehydration_resumed hresumed
      obtain rfl := some.inj (of_decide_eq_true hread)
      exact hnot
    case h_2 => cases h
    case h_3 detail hmissing =>
      obtain ⟨sessionId, rfl⟩ := deriveRehydration_missing hmissing
      cases hread
    case h_4 => cases h

theorem deferring_of_reconcile {receipt : ReconciliationReceipt} {checkpointState : Option Json}
    {stored : Option Envelope} {base : Envelope}
    {next : AgentContext} (hread : Loop.readable stored answer = true)
    (h : reconcileCheckpoint receipt checkpointState answer = .ok (base, next)) :
    stored = some base ∧ Deferring base := by
  unfold reconcileCheckpoint at h
  split at h
  case h_1 => cases h
  case h_2 result =>
    split at h
    case h_2 => cases h
    case h_1 e reason hdeferred =>
      obtain ⟨⟨fields, rfl⟩, hdefers⟩ := deriveRehydration_deferred hdeferred
      obtain rfl := of_decide_eq_true hread
      have hbase : base = e := by
        split at h
        case h_1 => cases h
        case h_2 =>
          split at h
          case h_1 => exact (Prod.mk.inj (Except.ok.inj h)).1.symm
          case h_2 =>
            split at h
            case h_1 => exact (Prod.mk.inj (Except.ok.inj h)).1.symm
            case h_2 => cases h
      rw [hbase]
      exact ⟨rfl, hdefers⟩

theorem afterRead_ready (h : Guarded options s.stored s.log)
    (hread : Loop.readable s.stored answer = true) {context : AgentContext} {message : Message}
    (hnext : afterRead options context answer message = .write w) :
    w.Ready options registered s.stored s.log := by
  cases message with
  | reconcileAgentSession receipt checkpointState =>
    simp only [afterRead] at hnext
    split at hnext
    case h_1 => cases hnext
    case h_2 base next hok =>
      obtain rfl := Next.write.inj hnext
      exact deferring_of_reconcile hread hok
  | request request =>
    simp only [afterRead] at hnext
    split at hnext
    case h_1 => cases hnext
    case h_2 active hactive =>
      have hnot := not_deferring_of_bootstrap hread hactive
      have hsettled : outstanding s.log = [] := by
        obtain hsettled | ⟨held, hheld, hdefers⟩ := h.settled
        · exact hsettled
        · exact absurd hdefers (hnot held hheld)
      cases request with
      | getAgentContext => cases hnext
      | startAgent prompt system =>
        obtain rfl := Next.write.inj hnext
        exact ⟨hsettled, hnot⟩
      | observeToolResult result =>
        simp only [proceed] at hnext
        split at hnext
        case isTrue =>
          obtain rfl := Next.write.inj hnext
          exact ⟨hsettled, hnot⟩
        case isFalse =>
          obtain rfl := Next.write.inj hnext
          exact hsettled

theorem Sound.follow (h : Guarded options s.stored s.log)
    (hread : Loop.readable s.stored answer = true) (message : Message)
    (clock : Except Thrown String) :
    Sound options registered (s.follow options clock (afterRead options s.context answer message)) := by
  cases hnext : afterRead options s.context answer message with
  | answer a => exact Sound.answer h a
  | write w => exact Sound.begin h (afterRead_ready h hread hnext) clock

theorem not_duplicate_intent {stored : Option Envelope}
    (hlabelled : ∀ held, stored = some held → ∃ name, Labelled options.sessionId held name)
    (hnot : ∀ held, stored = some held → ¬ Deferring held) (turn : Turn) (recordedAt : String) :
    stored.any (fun held =>
      held.checkpointId = ((Writing.intent turn).envelope options recordedAt).checkpointId) = false := by
  refine Bool.eq_false_iff.mpr fun h => ?_
  obtain ⟨held, hheld, hid⟩ := (Option.any_eq_true _ _).mp h
  obtain ⟨name, hname⟩ := hlabelled held hheld
  have htext := hname.id.symm.trans
    ((of_decide_eq_true hid).trans (labelled_intent turn).id)
  obtain rfl := CheckpointName.text_injective htext
  exact hnot held hheld (hname.intent _ rfl)

theorem kept_of_durable {stored : Option Envelope} {kept : Bool}
    {result : WriteResult} (hwrite : Loop.writable stored e kept (.ok result) = true)
    (hdurable : isCheckpointWriteDurable result = true)
    (hnot : stored.any (fun held => held.checkpointId = e.checkpointId) = false) : kept = true := by
  cases result with
  | stored | replaced => exact hwrite
  | duplicate =>
    rw [Loop.writable, hnot, Bool.and_false] at hwrite
    cases hwrite
  | tooLarge | expired | rejected => cases hdurable

theorem Sound.execute (h : Sound options registered s) {turn : Turn}
    (hphase : s.phase = .writing (.intent turn) e) :
    Sound options registered ((s.record (.intent turn) e true).execute options registered turn) := by
  have hready := h.phase
  rw [hphase] at hready
  have hrecord := h.guarded.record hready true
  obtain ⟨⟨recordedAt, rfl⟩, hsettled, -⟩ := hready
  have hbefore := outstanding_wrote hsettled ((Writing.intent turn).envelope options recordedAt) true
  refine ⟨⟨hrecord.labelled, .inr ⟨_, rfl, deferring_intent turn⟩, ?_⟩, ?_⟩
  · refine Trace.disciplined_concat.mpr ⟨hrecord.recorded, ⟨s.log, _, rfl, ?_⟩, hbefore⟩
    exact ⟨rfl, ⟨_, rfl, rfl, rfl⟩, ⟨turn.execution, rfl, rfl, rfl⟩⟩
  · exact (outstanding_concat _ (.executed (turn.call options registered))).trans
      (congrArg (· ++ [turn.call options registered]) hbefore)

theorem Sound.write (h : Sound options registered s)
    (hphase : s.phase = .writing w e) {answer : Except Thrown WriteResult} {kept : Bool}
    (hwrite : Loop.writable s.stored e kept answer = true)
    (hdurable : Loop.refusal w answer = none) :
    Sound options registered ((s.record w e kept).written options registered w) := by
  have hready := h.phase
  rw [hphase] at hready
  have hrecord := h.guarded.record hready kept
  cases w with
  | waiting | receipt | failure | unsettled | reconciled => exact Sound.answer hrecord _
  | intent turn =>
    obtain ⟨⟨recordedAt, he⟩, -, hnot⟩ := hready
    have hkept : kept = true := by
      cases answer with
      | error t => cases hdurable
      | ok result =>
        refine kept_of_durable hwrite ?_ ?_
        · by_contra hfalse
          rw [Loop.refusal, if_neg hfalse] at hdurable
          cases hdurable
        · rw [he]
          exact not_duplicate_intent h.guarded.labelled hnot turn recordedAt
    subst hkept
    exact h.execute hphase

theorem afterCall_ready {turn : Turn} {stored : Option Envelope} {log : List Entry}
    (h : outstanding log = [turn.call options registered]) (outcome : LlmOutcome) :
    (afterCall turn outcome).Ready options registered stored log := by
  cases outcome <;> exact h

theorem Sound.crash (h : Sound options registered s) (kept : Bool) :
    Sound options registered (s.crash options kept) := by
  have hready := h.phase
  unfold Loop.crash
  split
  case h_1 w e hphase =>
    rw [hphase] at hready
    exact ⟨h.guarded.record hready kept, trivial⟩
  case h_2 | h_3 | h_4 => exact ⟨h.guarded, trivial⟩

theorem Sound.step (h : Sound options registered s) {action : Action} {s' : Loop}
    (hstep : s.step options registered action = some s') : Sound options registered s' := by
  have hready := h.phase
  cases action with
  | receive message =>
    obtain ⟨-, hs⟩ := ite_none_right_eq_some.mp hstep
    cases hs
    unfold Loop.receive
    split
    case h_1 receipt checkpointState =>
      split
      case isTrue => exact Sound.answer h.guarded _
      case isFalse => exact ⟨h.guarded, trivial⟩
    case h_2 => exact ⟨h.guarded, trivial⟩
  | read answer clock =>
    simp only [Loop.step] at hstep
    split at hstep
    case h_2 => cases hstep
    case h_1 message hphase =>
      obtain ⟨hread, hs⟩ := ite_none_right_eq_some.mp hstep
      cases hs
      exact Sound.follow h.guarded hread message clock
  | write answer kept =>
    simp only [Loop.step] at hstep
    split at hstep
    case h_2 => cases hstep
    case h_1 w e hphase =>
      obtain ⟨hwrite, hs⟩ := ite_none_right_eq_some.mp hstep
      rw [hphase] at hready
      split at hs
      case h_1 error _ =>
        cases hs
        exact Sound.answer (h.guarded.record hready kept) _
      case h_2 hdurable =>
        cases hs
        exact h.write hphase hwrite hdurable
  | call outcome clock =>
    simp only [Loop.step] at hstep
    split at hstep
    case h_2 => cases hstep
    case h_1 turn hphase =>
      cases hstep
      rw [hphase] at hready
      exact Sound.begin h.guarded (afterCall_ready hready outcome) clock
  | crash kept =>
    cases hstep
    exact h.crash kept

theorem Sound.start : Sound options registered (Loop.start options) :=
  ⟨⟨by rintro e ⟨⟩, .inl rfl, Trace.disciplined_nil⟩, trivial⟩

theorem Sound.exec {actions : List Action} : ∀ {s s' : Loop}, Sound options registered s →
      s.exec options registered actions = some s' → Sound options registered s' := by
  induction actions with
  | nil =>
    rintro s s' h hrun
    cases hrun
    exact h
  | cons action actions ih =>
    intro s s' h hrun
    rw [Loop.exec, foldlM_cons] at hrun
    obtain ⟨next, hstep, hrest⟩ := bind_eq_some_iff.mp hrun
    exact ih (h.step hstep) hrest

end Steps

/-- The llm tool is executed only right after the intent of its step was stored with the context
that is sent, and only when each earlier execution has a stored receipt or reconciliation. -/
theorem executions_recorded {options : Options} {registered : List String} {actions : List Action}
    {s : Loop} (hrun : (Loop.start options).exec options registered actions = some s)
    {before after : List Entry} {call : Call} (hlog : s.log = before ++ .executed call :: after) :
    (∃ earlier e, before = earlier ++ [.wrote e true] ∧ IntentOf options.sessionId call e) ∧
      ∀ earlier other later, before = earlier ++ .executed other :: later →
        ∃ entry ∈ later, settles other entry = true := by
  obtain ⟨hintent, hsettled⟩ :=
    (Sound.exec Sound.start hrun).guarded.recorded before (.executed call) after hlog
  refine ⟨hintent, ?_⟩
  rintro earlier other later rfl
  exact exists_settles hsettled

section Restart

def sessionOptions : Options := { sessionId := "s" }

def noon : String := "2026-01-01T12:00:00.000Z"

def firstTurn : Turn :=
  startTurn sessionOptions (createInitialContext sessionOptions) "first" none

def firstIntent : Envelope := (Writing.intent firstTurn).envelope sessionOptions noon

def notApplied : ReconciliationReceipt := { receiptId := "r", outcome := .effectNotApplied }

def reconciledIntent : Envelope := reconciledEnvelope firstIntent notApplied firstTurn.execution noon

def secondTurn : Turn := startTurn sessionOptions firstTurn.execution "second" none

def restartedRun : List Action :=
  [.receive (.request (.startAgent "first" none)), .read (.ok (.missing "s")) (.ok noon),
    .write (.ok (.stored firstIntent)) true, .crash false,
    .receive (.reconcileAgentSession notApplied none),
    .read (.ok (.found .present firstIntent none)) (.ok noon),
    .write (.ok (.replaced reconciledIntent firstIntent)) true,
    .receive (.request (.startAgent "second" none)),
    .read (.ok (.found .present reconciledIntent none)) (.ok noon),
    .write (.ok (.stored reconciledIntent)) true]

theorem executions_recorded_restarted :
    ∃ s before, (Loop.start sessionOptions).exec sessionOptions ["llm"] restartedRun = some s ∧
      s.log = before ++ [.executed (secondTurn.call sessionOptions ["llm"])] ∧
      .executed (firstTurn.call sessionOptions ["llm"]) ∈ before ∧
      (∃ earlier e, before = earlier ++ [.wrote e true] ∧
        IntentOf "s" (secondTurn.call sessionOptions ["llm"]) e) ∧
      ∀ earlier other later, before = earlier ++ .executed other :: later →
        ∃ entry ∈ later, settles other entry = true := by
  have hend : ((Loop.start sessionOptions).exec sessionOptions ["llm"] restartedRun).any (fun s =>
      decide (s.log.getLast? = some (.executed (secondTurn.call sessionOptions ["llm"])) ∧
        s.log[1]? = some (.executed (firstTurn.call sessionOptions ["llm"])) ∧
        s.log.length = 6)) = true := by
    decide +kernel
  obtain ⟨s, hrun, hlog⟩ := (Option.any_eq_true _ _).mp hend
  obtain ⟨hlast, hfirst, hlength⟩ := of_decide_eq_true hlog
  have hlog := (dropLast_append_getLast? _ hlast).symm
  obtain ⟨hintent, hsettled⟩ := executions_recorded hrun hlog
  refine ⟨s, s.log.dropLast, hrun, hlog, ?_, hintent, hsettled⟩
  refine mem_of_getElem? (i := 1) ?_
  rw [getElem?_dropLast, if_pos (by omega), hfirst]

end Restart

end ActorWeb.AgentLoop
