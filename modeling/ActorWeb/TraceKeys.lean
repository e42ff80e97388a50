import ActorWeb.CodeUnits
import ActorWeb.Keywords

/-! The keys and the trace ids of agent executions. -/

namespace ActorWeb.TraceKeys

open List CodeUnits ActorWeb.Joined ActorWeb.Keywords

def literal (s : String) : JsString := s.toList.map fun c => UInt16.ofNat c.toNat

structure TraceIdempotencyKeyInput where
  (traceId commandId effectId effectAttemptId : JsString)
deriving DecidableEq

/-- An `invalid` result says that it expected a string that is not blank. -/
inductive BrandedStringParseResult
  | valid (value : JsString)
  | invalid (value : JsString)
deriving DecidableEq

def join : List JsString → JsString
  | [] => []
  | [part] => part
  | part :: next :: parts => part ++ literal ":" ++ join (next :: parts)

def createAgentExecutionTraceIdempotencyKey (input : TraceIdempotencyKeyInput) :
    BrandedStringParseResult :=
  if hasNonEmptyString input.traceId = false then .invalid input.traceId
  else if hasNonEmptyString input.commandId = false then .invalid input.commandId
  else if hasNonEmptyString input.effectId = false then .invalid input.effectId
  else if hasNonEmptyString input.effectAttemptId = false then .invalid input.effectAttemptId
  else .valid (join
    [literal "agent-execution", literal "key", literal "trace=" ++ input.traceId,
      literal "command=" ++ input.commandId, literal "effect=" ++ input.effectId,
      literal "attempt=" ++ input.effectAttemptId])

def admissionTraceId (sessionId commandId : JsString) : JsString :=
  literal "trace:" ++ sessionId ++ literal ":" ++ commandId

/-- The ids that a command of an admission may have: they are trimmed, and not empty. -/
def isCommandId (s : JsString) : Bool := trim s = s && s ≠ []

def Blank (u : UInt16) : Prop := isSpace u = true

def colon : UInt16 := UInt16.ofNat ':'.toNat

def commandWord : JsString := literal ":command="

def effectWord : JsString := literal ":effect="

def attemptWord : JsString := literal ":attempt="

theorem not_blank_colon : ¬ Blank colon := by
  rw [Blank]
  decide

theorem commandWord_keyword : Keyword colon commandWord :=
  ⟨literal "command=", by decide, by decide⟩

theorem effectWord_keyword : Keyword colon effectWord := ⟨literal "effect=", by decide, by decide⟩

theorem attemptWord_keyword : Keyword colon attemptWord := ⟨literal "attempt=", by decide, by decide⟩

theorem distinct_of_second {k k' : JsString} (hk : 2 ≤ k.length) (hk' : 2 ≤ k'.length)
    (h : k.take 2 ≠ k'.take 2) : Distinct k k' := by
  intro r r' heq
  have htake := congrArg (List.take 2) heq
  rw [take_append_of_le_length hk, take_append_of_le_length hk'] at htake
  exact h htake

section Keys

def Determines (input : TraceIdempotencyKeyInput) : Prop :=
  ∀ input' key, createAgentExecutionTraceIdempotencyKey input = .valid key →
    createAgentExecutionTraceIdempotencyKey input' = .valid key → input' = input

/-- No id has a name of the key inside that can be taken for the name beside it. -/
def Separated (input : TraceIdempotencyKeyInput) : Prop :=
  Separate Blank commandWord effectWord attemptWord input.traceId input.commandId input.effectId
    input.effectAttemptId

structure Accepted (input : TraceIdempotencyKeyInput) : Prop where
  traceId : hasNonEmptyString input.traceId = true
  commandId : hasNonEmptyString input.commandId = true
  effectId : hasNonEmptyString input.effectId = true
  effectAttemptId : hasNonEmptyString input.effectAttemptId = true

variable {input input' : TraceIdempotencyKeyInput} {key : JsString}

theorem word_iff (s : JsString) : hasNonEmptyString s = true ↔ Word Blank s := by
  rw [hasNonEmptyString, decide_eq_true_eq, length_pos_iff, trim_ne_nil_iff]
  rfl

def keyText (input : TraceIdempotencyKeyInput) : JsString :=
  fourText commandWord effectWord attemptWord input.traceId input.commandId input.effectId
    input.effectAttemptId

theorem key_valid : createAgentExecutionTraceIdempotencyKey input = .valid key ↔
    Accepted input ∧ key = literal "agent-execution:key:trace=" ++ keyText input := by
  have hjoin : join [literal "agent-execution", literal "key", literal "trace=" ++ input.traceId,
      literal "command=" ++ input.commandId, literal "effect=" ++ input.effectId,
      literal "attempt=" ++ input.effectAttemptId] =
        literal "agent-execution:key:trace=" ++ keyText input := by
    have hhead : literal "agent-execution:key:trace=" =
        literal "agent-execution" ++ literal ":" ++ literal "key" ++ literal ":" ++ literal "trace=" := by
      decide
    have hcommand : commandWord = literal ":" ++ literal "command=" := by decide
    have heffect : effectWord = literal ":" ++ literal "effect=" := by decide
    have hattempt : attemptWord = literal ":" ++ literal "attempt=" := by decide
    simp only [join, keyText, fourText, hhead, hcommand, heffect, hattempt, append_assoc]
  unfold createAgentExecutionTraceIdempotencyKey
  rw [hjoin]
  split
  case isTrue h => exact iff_of_false (by simp) fun ha => by simp [ha.1.traceId] at h
  split
  case isTrue h => exact iff_of_false (by simp) fun ha => by simp [ha.1.commandId] at h
  split
  case isTrue h => exact iff_of_false (by simp) fun ha => by simp [ha.1.effectId] at h
  split
  case isTrue h => exact iff_of_false (by simp) fun ha => by simp [ha.1.effectAttemptId] at h
  case isFalse htrace hcommand heffect hattempt =>
    rw [Bool.not_eq_false] at htrace hcommand heffect hattempt
    simp only [BrandedStringParseResult.valid.injEq, eq_comm]
    exact (and_iff_right ⟨htrace, hcommand, heffect, hattempt⟩).symm

theorem determines_iff_unique (h : Accepted input) : Determines input ↔
    Unique Blank commandWord effectWord attemptWord input.traceId input.commandId input.effectId
      input.effectAttemptId := by
  constructor
  · intro hdetermines a b c d ha hb hc hd heq
    have hother : Accepted ⟨a, b, c, d⟩ :=
      ⟨(word_iff a).mpr ha, (word_iff b).mpr hb, (word_iff c).mpr hc, (word_iff d).mpr hd⟩
    have hsame := hdetermines ⟨a, b, c, d⟩ _ (key_valid.mpr ⟨h, rfl⟩)
      (key_valid.mpr ⟨hother, congrArg _ heq.symm⟩)
    subst hsame
    exact ⟨rfl, rfl, rfl, rfl⟩
  · rintro hunique ⟨a, b, c, d⟩ key hkey hkey'
    obtain ⟨-, hkey⟩ := key_valid.mp hkey
    obtain ⟨hother, hkey'⟩ := key_valid.mp hkey'
    obtain ⟨rfl, rfl, rfl, rfl⟩ := hunique a b c d ((word_iff a).mp hother.traceId)
      ((word_iff b).mp hother.commandId) ((word_iff c).mp hother.effectId)
      ((word_iff d).mp hother.effectAttemptId)
      (append_cancel_left (hkey'.symm.trans hkey))
    rfl

theorem determines_iff_separated (h : Accepted input) : Determines input ↔ Separated input := by
  rw [determines_iff_unique h]
  exact unique_iff_separate not_blank_colon commandWord_keyword effectWord_keyword
    attemptWord_keyword (distinct_of_second (by decide) (by decide) (by decide))
    (distinct_of_second (by decide) (by decide) (by decide)) ((word_iff _).mp h.traceId)
    ((word_iff _).mp h.commandId) ((word_iff _).mp h.effectId) ((word_iff _).mp h.effectAttemptId)

end Keys

section TraceIds

variable {sessionId commandId : JsString}

def TraceDetermines (sessionId commandId : JsString) : Prop :=
  ∀ sessionId' commandId', isCommandId commandId' = true →
    admissionTraceId sessionId' commandId' = admissionTraceId sessionId commandId →
    sessionId' = sessionId ∧ commandId' = commandId

structure Apart (sessionId commandId : JsString) : Prop where
  session : ∀ l r, sessionId = l ++ colon :: r → isCommandId (r ++ colon :: commandId) = false
  command : ∀ l r, commandId = l ++ colon :: r → isCommandId r = false

theorem admissionTraceId_eq (sessionId commandId : JsString) :
    admissionTraceId sessionId commandId = literal "trace:" ++ (sessionId ++ colon :: commandId) := by
  rw [admissionTraceId, append_assoc, append_assoc]
  rfl

theorem traceDetermines_iff_apart :
    TraceDetermines sessionId commandId ↔ Apart sessionId commandId := by
  have hshifted (l r : JsString) : l ≠ l ++ colon :: r := fun h => by
    simpa using congrArg List.length h
  simp only [TraceDetermines, admissionTraceId_eq, append_cancel_left_eq]
  constructor
  · intro h
    refine ⟨?_, ?_⟩
    · rintro l r rfl
      refine Bool.eq_false_iff.mpr fun hvalid => ?_
      obtain ⟨he, -⟩ := h l (r ++ colon :: commandId) hvalid (by simp)
      exact hshifted _ _ he
    · rintro l r rfl
      refine Bool.eq_false_iff.mpr fun hvalid => ?_
      obtain ⟨he, -⟩ := h (sessionId ++ colon :: l) r hvalid (by simp)
      exact hshifted _ _ he.symm
  · rintro ⟨hsession, hcommand⟩ sessionId' commandId' hvalid heq
    obtain ⟨rfl, rfl⟩ | ⟨t, rfl, ht⟩ | ⟨t, rfl, ht⟩ := join_cases heq
    · exact ⟨rfl, rfl⟩
    · have hfalse := hsession sessionId' t rfl
      rw [ht] at hvalid
      rw [hvalid] at hfalse
      cases hfalse
    · have hfalse := hcommand t commandId' ht
      rw [hvalid] at hfalse
      cases hfalse

end TraceIds

/-- A key gives back its ids, and a trace id its session and command, exactly if no id holds
what could be taken for the text between the ids. -/
theorem trace_keys_determine (input : TraceIdempotencyKeyInput) (sessionId commandId : JsString)
    (h : Accepted input) :
    (Determines input ↔ Separated input) ∧
      (TraceDetermines sessionId commandId ↔ Apart sessionId commandId) :=
  ⟨determines_iff_separated h, traceDetermines_iff_apart⟩

theorem trace_keys_determine_short :
    (Determines ⟨literal "t", literal "c", literal "e", literal "a"⟩ ↔
        Separated ⟨literal "t", literal "c", literal "e", literal "a"⟩) ∧
      (TraceDetermines (literal "s") (literal "c") ↔ Apart (literal "s") (literal "c")) :=
  trace_keys_determine _ _ _ ⟨by decide, by decide, by decide, by decide⟩

/-- Two effects have one key, and two commands one trace id. -/
theorem keys_collide :
    (∃ input input' key, input ≠ input' ∧
      createAgentExecutionTraceIdempotencyKey input = .valid key ∧
      createAgentExecutionTraceIdempotencyKey input' = .valid key) ∧
    ∃ sessionId commandId sessionId' commandId', isCommandId commandId = true ∧
      isCommandId commandId' = true ∧ (sessionId, commandId) ≠ (sessionId', commandId') ∧
      admissionTraceId sessionId commandId = admissionTraceId sessionId' commandId' := by
  refine ⟨⟨⟨literal "t", literal "c:effect=e", literal "f", literal "a"⟩,
    ⟨literal "t", literal "c", literal "e:effect=f", literal "a"⟩, _, by decide, rfl, by decide⟩, ?_⟩
  exact ⟨literal "s:1", literal "c", literal "s", literal "1:c", by decide, by decide, by decide,
    by decide⟩

end ActorWeb.TraceKeys
