import ActorWeb.AgentLoop

namespace ActorWeb.AgentLoop

open String JsText SessionCheckpoint

inductive CheckpointName
  | phase (step : Nat) (phase : EffectPhase)
  | toolResult (step : Nat) (toolCallId : String)
  | reconciled (step : Nat) (phase : EffectPhase) (receiptId : String)

namespace CheckpointName

def step : CheckpointName → Nat
  | .phase n _ | .toolResult n _ | .reconciled n _ _ => n

def head : CheckpointName → String
  | .phase _ p | .reconciled _ p _ => p.text
  | .toolResult _ _ => "tool_result"

def rest : CheckpointName → String
  | .phase _ _ => ""
  | .toolResult _ toolCallId => ":" ++ toolCallId
  | .reconciled _ _ receiptId => ":reconciled:" ++ receiptId

def text (sessionId : String) (name : CheckpointName) : String :=
  checkpointId sessionId name.step (name.head ++ name.rest)

theorem plain_phase_text (p : EffectPhase) : ':' ∉ p.text.toList := by
  cases p <;> decide

theorem plain_head (name : CheckpointName) : ':' ∉ name.head.toList := by
  cases name with
  | phase n p => exact plain_phase_text p
  | toolResult n toolCallId =>
    change ':' ∉ "tool_result".toList
    decide
  | reconciled n p receiptId => exact plain_phase_text p

theorem phase_text_injective {p q : EffectPhase} (h : p.text = q.text) : p = q := by
  cases p <;> cases q <;> first | rfl | exact absurd h (by decide)

theorem phase_text_ne (p : EffectPhase) : p.text ≠ "tool_result" := by
  cases p <;> decide

theorem split_at_colon {xs xs' ys ys' : List Char} (hys : ys = [] ∨ ∃ t, ys = ':' :: t)
    (hys' : ys' = [] ∨ ∃ t, ys' = ':' :: t) (hxs : ':' ∉ xs) (hxs' : ':' ∉ xs')
    (h : xs ++ ys = xs' ++ ys') : xs = xs' ∧ ys = ys' := by
  obtain rfl | ⟨t, rfl⟩ := hys
  · obtain rfl | ⟨t', rfl⟩ := hys'
    · simpa using h
    · rw [List.append_nil] at h
      exact absurd (h ▸ List.mem_append_right xs' List.mem_cons_self) hxs
  · obtain rfl | ⟨t', rfl⟩ := hys'
    · rw [List.append_nil] at h
      exact absurd (h ▸ List.mem_append_right xs List.mem_cons_self) hxs'
    · obtain ⟨rfl, rfl⟩ := split_at_first h hxs hxs'
      exact ⟨rfl, rfl⟩

theorem rest_colon (name : CheckpointName) :
    name.rest.toList = [] ∨ ∃ t, name.rest.toList = ':' :: t := by
  cases name with
  | phase => exact .inl rfl
  | toolResult n toolCallId => exact .inr ⟨toolCallId.toList, toList_append⟩
  | reconciled n p receiptId =>
    exact .inr ⟨"reconciled:".toList ++ receiptId.toList, toList_append⟩

theorem rest_ne_empty {name : CheckpointName} (h : ∀ n p, name ≠ .phase n p) : name.rest ≠ "" := by
  intro hempty
  cases name with
  | phase n p => exact h n p rfl
  | toolResult n toolCallId | reconciled n p receiptId =>
    have hlist := congrArg String.toList hempty
    rw [rest, toList_append] at hlist
    cases hlist

theorem plain_toString (n : Nat) : ':' ∉ (toString n).toList := by
  rw [Nat.toString_eq_repr, Nat.toList_repr]
  intro hmem
  exact absurd (Nat.isDigit_of_mem_toDigits (by decide) (by decide) hmem) (by decide)

theorem text_parts {sessionId : String} {a b : CheckpointName}
    (h : a.text sessionId = b.text sessionId) :
    a.step = b.step ∧ a.head = b.head ∧ a.rest = b.rest := by
  simp only [text, checkpointId, append_assoc, append_right_inj] at h
  have hlist := congrArg String.toList h
  simp only [toList_append] at hlist
  obtain ⟨hstep, hkey⟩ := split_at_colon (.inr ⟨_, rfl⟩) (.inr ⟨_, rfl⟩) (plain_toString a.step)
    (plain_toString b.step) hlist
  obtain ⟨hhead, hrest⟩ := split_at_colon (rest_colon a) (rest_colon b) (plain_head a)
    (plain_head b) (List.cons.inj hkey).2
  exact ⟨toString_injective (toList_injective hstep), toList_injective hhead,
    toList_injective hrest⟩

theorem text_injective {sessionId : String} {a b : CheckpointName}
    (h : a.text sessionId = b.text sessionId) : a = b := by
  obtain ⟨hstep, hhead, hrest⟩ := text_parts h
  cases a with
  | phase n p =>
    cases b with
    | phase m q => exact congrArg₂ phase hstep (phase_text_injective hhead)
    | toolResult => exact absurd hhead (phase_text_ne p)
    | reconciled => exact absurd hrest.symm (rest_ne_empty nofun)
  | toolResult n id =>
    cases b with
    | phase m q | reconciled m q => exact absurd hhead.symm (phase_text_ne q)
    | toolResult m id' =>
      exact congrArg₂ toolResult hstep ((append_right_inj ":").mp hrest)
  | reconciled n p r =>
    cases b with
    | phase => exact absurd hrest (rest_ne_empty nofun)
    | toolResult => exact absurd hhead (phase_text_ne p)
    | reconciled m q r' =>
      obtain rfl : n = m := hstep
      obtain rfl := phase_text_injective hhead
      rw [(append_right_inj ":reconciled:").mp hrest]

end CheckpointName

section Attempts

theorem effectAttemptId_injective {sessionId key key' : String}
    (h : effectAttemptId sessionId key = effectAttemptId sessionId key') : key = key' := by
  exact (append_right_inj ("effect-attempt:" ++ sessionId ++ ":")).mp h

end Attempts

end ActorWeb.AgentLoop
