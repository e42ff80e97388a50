import ActorWeb.AgentTraces
import Mathlib.Data.List.Infix

/-! What is redacted of the values in execution receipts. -/

namespace ActorWeb.AgentTraces

section Keys

inductive RedactedKind
  | secret | prompt
deriving DecidableEq

def lowerChar (c : Char) : List Char :=
  if c.isUpper then [c.toLower]
  else if c = '\u212a' then ['k']
  else if c = '\u0130' then ['i', '\u0307']
  else [c]

def toLowerCase (s : String) : List Char := s.toList.flatMap lowerChar

def includes (normalized : List Char) (word : String) : Bool := word.toList <:+: normalized

def shouldRedactKey (key : String) : Option RedactedKind :=
  let normalized := toLowerCase key
  if ["token", "authorization", "apikey", "api_key", "secret", "password", "credential"].any
      (includes normalized) then some .secret
  else if includes normalized "prompt" then some .prompt
  else none

def RedactedKind.marker : RedactedKind → Json
  | .secret => .str "[redacted:secret]"
  | .prompt => .str "[redacted:prompt]"

end Keys

section Redact

mutual

def redact : Json → Json
  | .null => .null
  | .bool b => .bool b
  | .num n => .num n
  | .str s => .str s
  | .arr items => .arr (redactItems items)
  | .obj entries => .obj (redactEntries entries)

def redactItems : List Json → List Json
  | [] => []
  | item :: items => redact item :: redactItems items

def redactEntries : List (String × Json) → List (String × Json)
  | [] => []
  | (key, entry) :: entries =>
    if key = "__proto__" then redactEntries entries
    else
      (key, match shouldRedactKey key with
        | none => redact entry
        | some kind => kind.marker) :: redactEntries entries

end

def redactEntry (key : String) (entry : Json) : Json :=
  match shouldRedactKey key with
  | none => redact entry
  | some kind => kind.marker

def redactAgentExecutionValue : Option Json → Json
  | none => .str "undefined"
  | some v => redact v

theorem get_redact {key : String} (hkey : key ≠ "__proto__") (v : Json) :
    (redact v).get key = (v.get key).map (redactEntry key) := by
  cases v with
  | null | bool _ | num _ | str _ | arr _ => rfl
  | obj entries =>
    rw [redact]
    induction entries with
    | nil => rfl
    | cons e entries ih =>
      obtain ⟨name, entry⟩ := e
      rw [redactEntries]
      by_cases hproto : name = "__proto__"
      · rw [if_pos hproto, ih, Json.get_obj_cons, if_neg fun h : name = key => hkey (h ▸ hproto)]
      · rw [if_neg hproto, Json.get_obj_cons, Json.get_obj_cons, ih]
        by_cases hname : name = key
        · subst hname
          rw [if_pos rfl, if_pos rfl]
          rfl
        · rw [if_neg hname, if_neg hname]

mutual

theorem redact_redact : (v : Json) → redact (redact v) = redact v
  | .null => rfl
  | .bool _ => rfl
  | .num _ => rfl
  | .str _ => rfl
  | .arr items => by rw [redact, redact, redactItems_redactItems items]
  | .obj entries => by rw [redact, redact, redactEntries_redactEntries entries]

theorem redactItems_redactItems : (items : List Json) →
    redactItems (redactItems items) = redactItems items
  | [] => rfl
  | item :: items => by
    rw [redactItems, redactItems, redact_redact item, redactItems_redactItems items]

theorem redactEntries_redactEntries : (entries : List (String × Json)) →
    redactEntries (redactEntries entries) = redactEntries entries
  | [] => rfl
  | (key, entry) :: entries => by
    rw [redactEntries]
    by_cases hproto : key = "__proto__"
    · rw [if_pos hproto, redactEntries_redactEntries entries]
    · rw [if_neg hproto, redactEntries, if_neg hproto, redactEntries_redactEntries entries]
      cases hkind : shouldRedactKey key with
      | none => rw [redact_redact entry]
      | some kind => rfl

end

theorem redactAgentExecutionValue_idem (value : Option Json) :
    redactAgentExecutionValue (some (redactAgentExecutionValue value)) =
      redactAgentExecutionValue value := by
  cases value with
  | none => rfl
  | some v => exact redact_redact v

mutual

/-- Under a secret or prompt key only its marker stands, at any depth. -/
def Clean : Json → Prop
  | .null => True
  | .bool _ => True
  | .num _ => True
  | .str _ => True
  | .arr items => CleanItems items
  | .obj entries => CleanEntries entries

def CleanItems : List Json → Prop
  | [] => True
  | item :: items => Clean item ∧ CleanItems items

def CleanEntries : List (String × Json) → Prop
  | [] => True
  | (key, entry) :: entries =>
    (match shouldRedactKey key with
      | none => Clean entry
      | some kind => entry = kind.marker) ∧ CleanEntries entries

end

mutual

theorem clean_redact : (v : Json) → Clean (redact v)
  | .null => trivial
  | .bool _ => trivial
  | .num _ => trivial
  | .str _ => trivial
  | .arr items => by
    rw [redact, Clean]
    exact cleanItems_redact items
  | .obj entries => by
    rw [redact, Clean]
    exact cleanEntries_redact entries

theorem cleanItems_redact : (items : List Json) → CleanItems (redactItems items)
  | [] => by
    rw [redactItems, CleanItems]
    trivial
  | item :: items => by
    rw [redactItems, CleanItems]
    exact ⟨clean_redact item, cleanItems_redact items⟩

theorem cleanEntries_redact : (entries : List (String × Json)) → CleanEntries (redactEntries entries)
  | [] => by
    rw [redactEntries, CleanEntries]
    trivial
  | (key, entry) :: entries => by
    rw [redactEntries]
    by_cases hproto : key = "__proto__"
    · rw [if_pos hproto]
      exact cleanEntries_redact entries
    · rw [if_neg hproto, CleanEntries]
      refine ⟨?_, cleanEntries_redact entries⟩
      cases shouldRedactKey key with
      | none => exact clean_redact entry
      | some kind => rfl

end

end Redact

end ActorWeb.AgentTraces
