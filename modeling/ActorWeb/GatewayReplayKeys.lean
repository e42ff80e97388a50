import ActorWeb.JsonShape
import ActorWeb.JsText

namespace ActorWeb.Gateway

open List JsText Json

structure Scope where
  kind : String
  params : Option Json
deriving DecidableEq

section Canonical

variable (localeLe : String → String → Bool)

def sortEntries (entries : List (String × Json)) : List (String × Json) :=
  entries.insertionSort fun a b => localeLe a.1 b.1 = true

def arrayIndex (key : String) : Option Nat :=
  let cs := key.toList
  let n := Nat.ofDigitChars 10 cs 0
  if cs ≠ [] ∧ cs.all Char.isDigit ∧ (cs.length = 1 ∨ cs.head? ≠ some '0') ∧ n < 4294967295 then
    some n
  else none

/-- `Object.fromEntries`: the properties that are array indices are enumerated first. -/
def fromEntries (entries : List (String × Json)) : Json :=
  let indexed (e : String × Json) : Bool := (arrayIndex e.1).isSome
  .obj ((entries.filter indexed).insertionSort
      (fun a b => (arrayIndex a.1).getD 0 ≤ (arrayIndex b.1).getD 0) ++
    entries.filter fun e => !indexed e)

mutual

/-- The entries are sorted by their keys, so it does not matter that the values come first. -/
def toCanonicalScopeValue : Json → Json
  | .null => .null
  | .bool b => .bool b
  | .num n => .num n
  | .str s => .str s
  | .arr items => .arr (canonicalScopeItems items)
  | .obj entries => fromEntries (sortEntries localeLe (canonicalScopeEntries entries))

def canonicalScopeItems : List Json → List Json
  | [] => []
  | v :: vs => toCanonicalScopeValue v :: canonicalScopeItems vs

def canonicalScopeEntries : List (String × Json) → List (String × Json)
  | [] => []
  | (k, v) :: es => (k, toCanonicalScopeValue v) :: canonicalScopeEntries es

end

def Scope.paramsValue (scope : Scope) : Json := scope.params.getD (.obj [])

def canonicalRuntimeGatewayScope (scope : Scope) : String :=
  stringify 0 (toCanonicalScopeValue localeLe
    (.obj [("kind", .str scope.kind), ("params", scope.paramsValue)]))

def runtimeGatewayReplayStorageStreamId (streamId : String) (scope : Scope) : String :=
  streamId ++ "::" ++ canonicalRuntimeGatewayScope localeLe scope

mutual

def toCanonicalAuthOwnerValue : Json → Option Json
  | .null => none
  | .bool b => some (.bool b)
  | .num n => some (.num n)
  | .str s => if trim s ≠ "" then some (.str (trim s)) else none
  | .arr items =>
    match canonicalAuthItems items with
    | [] => none
    | normalized => some (.arr normalized)
  | .obj entries =>
    match sortEntries localeLe (canonicalAuthEntries entries) with
    | [] => none
    | normalized => some (fromEntries normalized)

def canonicalAuthItems : List Json → List Json
  | [] => []
  | v :: vs => (toCanonicalAuthOwnerValue v).toList ++ canonicalAuthItems vs

def canonicalAuthEntries : List (String × Json) → List (String × Json)
  | [] => []
  | (k, v) :: es =>
    ((toCanonicalAuthOwnerValue v).map fun w => (k, w)).toList ++ canonicalAuthEntries es

end

def stableRuntimeGatewayAuthOwnerKey (hash : String → String) (authContext : Json) :
    Option String :=
  (toCanonicalAuthOwnerValue localeLe authContext).map fun v => "auth:" ++ hash (stringify 0 v)

end Canonical

def runtimeGatewayReplayStorageKey (replaySessionId streamId : String) : String :=
  replaySessionId ++ "::" ++ streamId

def requestedReplaySessionId (connectionId : String) : Option String → String
  | some lastConnectionId => if trim lastConnectionId ≠ "" then trim lastConnectionId else connectionId
  | none => connectionId

def replaySessionIdOf (replayOwnerKey : Option String) (connectionId : String)
    (lastConnectionId : Option String) : String :=
  match replayOwnerKey with
  | some owner => owner ++ "::" ++ requestedReplaySessionId connectionId lastConnectionId
  | none => connectionId

section Scopes

variable (localeLe : String → String → Bool)

/-- The scopes are equal up to the order of keys, where absent params are empty ones. -/
def Scope.Same (a b : Scope) : Prop := a.kind = b.kind ∧ KeyOrder a.paramsValue b.paramsValue

theorem fromEntries_perm (entries : List (String × Json)) :
    ∃ es : List (String × Json), fromEntries entries = .obj es ∧ es.Perm entries := by
  have hsplit := filter_append_perm
    (fun e : String × Json => (arrayIndex e.1).isSome) entries
  have hsort := perm_insertionSort
    (fun a b : String × Json => (arrayIndex a.1).getD 0 ≤ (arrayIndex b.1).getD 0)
    (entries.filter fun e => (arrayIndex e.1).isSome)
  exact ⟨_, rfl, (hsort.append_right _).trans hsplit⟩

theorem keyOrder_sorted (entries : List (String × Json)) :
    KeyOrder (.obj entries) (fromEntries (sortEntries localeLe entries)) := by
  obtain ⟨es, heq, hperm⟩ := fromEntries_perm (sortEntries localeLe entries)
  rw [heq]
  exact .perm (hperm.trans (perm_insertionSort _ _)).symm

mutual

theorem keyOrder_canonicalScope : (v : Json) → KeyOrder v (toCanonicalScopeValue localeLe v)
  | .null => .refl _
  | .bool _ => .refl _
  | .num _ => .refl _
  | .str _ => .refl _
  | .arr items => .arr (keyOrder_canonicalScopeItems items)
  | .obj entries =>
    (KeyOrder.obj (keyOrder_canonicalScopeEntries entries)).trans (keyOrder_sorted localeLe _)

theorem keyOrder_canonicalScopeItems : (vs : List Json) →
    List.Forall₂ KeyOrder vs (canonicalScopeItems localeLe vs)
  | [] => .nil
  | v :: vs => .cons (keyOrder_canonicalScope v) (keyOrder_canonicalScopeItems vs)

theorem keyOrder_canonicalScopeEntries : (es : List (String × Json)) →
    KeyOrder.Entries es (canonicalScopeEntries localeLe es)
  | [] => .nil
  | (_, v) :: es => .cons ⟨rfl, keyOrder_canonicalScope v⟩ (keyOrder_canonicalScopeEntries es)

end

theorem canonicalScope_entries (scope : Scope) : ∃ es : List (String × Json),
      canonicalRuntimeGatewayScope localeLe scope = stringify 0 (.obj es) ∧
      es.Perm [("kind", .str scope.kind),
        ("params", toCanonicalScopeValue localeLe scope.paramsValue)] := by
  obtain ⟨es, heq, hperm⟩ := fromEntries_perm (sortEntries localeLe
    (canonicalScopeEntries localeLe [("kind", .str scope.kind), ("params", scope.paramsValue)]))
  refine ⟨es, ?_, hperm.trans (perm_insertionSort _ _)⟩
  rw [canonicalRuntimeGatewayScope, toCanonicalScopeValue, heq]

theorem opens_canonicalScope (scope : Scope) : ∃ c : Char, (c = 'k' ∨ c = 'p') ∧
    OpensWith c (canonicalRuntimeGatewayScope localeLe scope).toList := by
  obtain ⟨es, heq, hperm⟩ := canonicalScope_entries localeLe scope
  rw [heq, stringify, String.toList_ofList]
  obtain ⟨⟨k, v⟩, e, rfl⟩ := length_eq_two.mp hperm.length_eq
  have hmem := hperm.mem_iff.mp (mem_cons_self .. : (k, v) ∈ [(k, v), e])
  simp only [mem_cons, Prod.mk.injEq, not_mem_nil, or_false] at hmem
  obtain ⟨rfl, -⟩ | ⟨rfl, -⟩ := hmem
  · exact ⟨'k', .inl rfl, _, rfl⟩
  · exact ⟨'p', .inr rfl, _, rfl⟩

theorem scope_same_of_text {a b : Scope}
    (h : canonicalRuntimeGatewayScope localeLe a = canonicalRuntimeGatewayScope localeLe b) :
    a.Same b := by
  obtain ⟨es, hes, hperm⟩ := canonicalScope_entries localeLe a
  obtain ⟨fs, hfs, hperm'⟩ := canonicalScope_entries localeLe b
  rw [hes, hfs] at h
  obtain rfl := Json.obj.inj (stringify_injective h)
  have hsame := hperm.symm.trans hperm'
  have hkind : (Json.str a.kind) = .str b.kind := by
    obtain heq | heq := mem_pair.mp (hsame.mem_iff.mp (mem_cons_self ..))
    · exact congrArg Prod.snd heq
    · exact absurd (congrArg Prod.fst heq) (by simp)
  have hparams : toCanonicalScopeValue localeLe a.paramsValue =
      toCanonicalScopeValue localeLe b.paramsValue := by
    obtain heq | heq := mem_pair.mp
      (hsame.mem_iff.mp (mem_cons_of_mem _ (mem_cons_self ..)))
    · exact absurd (congrArg Prod.fst heq) (by simp)
    · exact congrArg Prod.snd heq
  refine ⟨Json.str.inj hkind, (keyOrder_canonicalScope localeLe a.paramsValue).trans ?_⟩
  rw [hparams]
  exact (keyOrder_canonicalScope localeLe b.paramsValue).symm

theorem storageStreamId_injective {streamId streamId' : String} {a b : Scope}
    (h : runtimeGatewayReplayStorageStreamId localeLe streamId a =
      runtimeGatewayReplayStorageStreamId localeLe streamId' b) :
    streamId = streamId' ∧ a.Same b := by
  have hscans : ∀ scope, Scans (canonicalRuntimeGatewayScope localeLe scope).toList := by
    intro scope
    rw [canonicalRuntimeGatewayScope, stringify, String.toList_ofList]
    exact scans_text 0 _
  have hbare : ∀ {c : Char}, c = 'k' ∨ c = 'p' → bare c = false ∧ c ≠ '"' ∧ c ≠ ':' := by
    rintro c (rfl | rfl) <;> decide
  obtain ⟨c, hc, hopens⟩ := opens_canonicalScope localeLe a
  obtain ⟨d, hd, hopens'⟩ := opens_canonicalScope localeLe b
  have hlists : streamId.toList ++ ':' :: ':' :: (canonicalRuntimeGatewayScope localeLe a).toList =
      streamId'.toList ++ ':' :: ':' :: (canonicalRuntimeGatewayScope localeLe b).toList := by
    have := congrArg String.toList h
    simpa [runtimeGatewayReplayStorageStreamId, String.toList_append] using this
  obtain ⟨hstream, htext⟩ := join_injective (hscans a) (hscans b) hopens hopens' (hbare hc).1
    (hbare hd).1 (hbare hc).2 (hbare hd).2 hlists
  exact ⟨String.toList_inj.mp hstream, scope_same_of_text localeLe (String.toList_inj.mp htext)⟩

end Scopes

section Owners

variable (localeLe : String → String → Bool)

mutual

/-- A value without its null and blank entries, and with its strings trimmed: `none` when nothing
is left. -/
def trimmed : Json → Option Json
  | .null => none
  | .bool b => some (.bool b)
  | .num n => some (.num n)
  | .str s => if trim s ≠ "" then some (.str (trim s)) else none
  | .arr items =>
    match trimmedItems items with
    | [] => none
    | kept => some (.arr kept)
  | .obj entries =>
    match trimmedEntries entries with
    | [] => none
    | kept => some (.obj kept)

def trimmedItems : List Json → List Json
  | [] => []
  | v :: vs => (trimmed v).toList ++ trimmedItems vs

def trimmedEntries : List (String × Json) → List (String × Json)
  | [] => []
  | (k, v) :: es => ((trimmed v).map fun w => (k, w)).toList ++ trimmedEntries es

end

def SameAuthContext (a b : Json) : Prop := Option.Rel KeyOrder (trimmed a) (trimmed b)

mutual

theorem keyOrder_canonicalAuth : (a : Json) →
    Option.Rel KeyOrder (trimmed a) (toCanonicalAuthOwnerValue localeLe a)
  | .null => .none
  | .bool _ => .some (.refl _)
  | .num _ => .some (.refl _)
  | .str s => by
    rw [trimmed, toCanonicalAuthOwnerValue]
    split
    · exact .some (.refl _)
    · exact .none
  | .arr items => by
    have hitems := keyOrder_canonicalAuthItems items
    rw [trimmed, toCanonicalAuthOwnerValue]
    revert hitems
    cases trimmedItems items with
    | nil => intro h; rw [List.forall₂_nil_left_iff.mp h]; exact .none
    | cons v vs =>
      intro h
      obtain ⟨w, ws, hw, hws, heq⟩ := List.forall₂_cons_left_iff.mp h
      rw [heq]
      exact .some (.arr (.cons hw hws))
  | .obj entries => by
    have hentries := keyOrder_canonicalAuthEntries entries
    have hperm : (sortEntries localeLe (canonicalAuthEntries localeLe entries)).Perm
        (canonicalAuthEntries localeLe entries) := perm_insertionSort _ _
    have hsorted := keyOrder_sorted localeLe (canonicalAuthEntries localeLe entries)
    rw [trimmed, toCanonicalAuthOwnerValue]
    revert hentries hperm hsorted
    cases trimmedEntries entries with
    | nil =>
      intro h hperm _
      rw [List.forall₂_nil_left_iff.mp h] at hperm ⊢
      rw [List.perm_nil.mp hperm]
      exact .none
    | cons e es =>
      intro h hperm hsorted
      obtain ⟨f, fs, hf, hfs, heq⟩ := List.forall₂_cons_left_iff.mp h
      rw [heq] at hperm hsorted ⊢
      cases hsort : sortEntries localeLe (f :: fs) with
      | nil => rw [hsort] at hperm; exact absurd (List.nil_perm.mp hperm) (by simp)
      | cons g gs =>
        rw [hsort] at hsorted
        exact .some ((KeyOrder.obj (.cons hf hfs)).trans hsorted)

theorem keyOrder_canonicalAuthItems : (vs : List Json) →
    List.Forall₂ KeyOrder (trimmedItems vs) (canonicalAuthItems localeLe vs)
  | [] => .nil
  | v :: vs => by
    have hv := keyOrder_canonicalAuth v
    have hvs := keyOrder_canonicalAuthItems vs
    rw [trimmedItems, canonicalAuthItems]
    revert hv
    cases trimmed v <;> cases toCanonicalAuthOwnerValue localeLe v <;> intro hv
    · exact hvs
    · cases hv
    · cases hv
    · cases hv with
      | some h => exact .cons h hvs

theorem keyOrder_canonicalAuthEntries : (es : List (String × Json)) →
    KeyOrder.Entries (trimmedEntries es) (canonicalAuthEntries localeLe es)
  | [] => .nil
  | (k, v) :: es => by
    have hv := keyOrder_canonicalAuth v
    have hes := keyOrder_canonicalAuthEntries es
    rw [trimmedEntries, canonicalAuthEntries]
    revert hv
    cases trimmed v <;> cases toCanonicalAuthOwnerValue localeLe v <;> intro hv
    · exact hes
    · cases hv
    · cases hv
    · cases hv with
      | some h => exact .cons ⟨rfl, h⟩ hes

end

variable {hash : String → String}

theorem sameAuthContext_of_owner (hinjective : Function.Injective hash) {a b : Json}
    (h : stableRuntimeGatewayAuthOwnerKey localeLe hash a =
      stableRuntimeGatewayAuthOwnerKey localeLe hash b) : SameAuthContext a b := by
  have hcanonical : toCanonicalAuthOwnerValue localeLe a = toCanonicalAuthOwnerValue localeLe b := by
    refine Option.map_injective (fun v w hvw => ?_) h
    exact stringify_injective (hinjective ((String.append_right_inj _).mp hvw))
  have hka := keyOrder_canonicalAuth localeLe a
  have hkb := keyOrder_canonicalAuth localeLe b
  rw [SameAuthContext]
  rw [hcanonical] at hka
  revert hka hkb
  generalize trimmed a = x
  generalize trimmed b = y
  generalize toCanonicalAuthOwnerValue localeLe b = z
  intro hka hkb
  cases hkb with
  | none => cases hka; exact .none
  | some hy =>
    cases hka with
    | some hx => exact .some (hx.trans hy.symm)

theorem before_colon {cs ds es fs : List Char} (hc : ':' ∉ cs) (hd : ':' ∉ ds)
    (h : cs ++ ':' :: es = ds ++ ':' :: fs) : cs = ds := by
  have htake : ∀ {cs es : List Char}, ':' ∉ cs → (cs ++ ':' :: es).takeWhile (· ≠ ':') = cs := by
    intro cs es hcs
    rw [List.takeWhile_append_of_pos]
    · simp
    · intro c hmem
      simpa using fun heq : c = ':' => hcs (heq ▸ hmem)
  rw [← htake hc, h, htake hd]

variable (hplain : ∀ text, ':' ∉ (hash text).toList)
include hplain

theorem replaySession_injective {a b : Json} {connectionId connectionId' : String}
    {last last' : Option String} (hid : ':' ∉ connectionId.toList)
    (hid' : ':' ∉ connectionId'.toList)
    (h : replaySessionIdOf (stableRuntimeGatewayAuthOwnerKey localeLe hash a) connectionId last =
      replaySessionIdOf (stableRuntimeGatewayAuthOwnerKey localeLe hash b) connectionId' last') :
    stableRuntimeGatewayAuthOwnerKey localeLe hash a =
        stableRuntimeGatewayAuthOwnerKey localeLe hash b ∧
      (stableRuntimeGatewayAuthOwnerKey localeLe hash a = none → connectionId = connectionId') := by
  have hforeign : ∀ (v : Json) (id requested : String), ':' ∉ id.toList →
      "auth:" ++ hash (stringify 0 v) ++ "::" ++ requested ≠ id := by
    rintro v id requested hplainId rfl
    simp [String.toList_append] at hplainId
  unfold stableRuntimeGatewayAuthOwnerKey at h ⊢
  generalize toCanonicalAuthOwnerValue localeLe a = first at h ⊢
  generalize toCanonicalAuthOwnerValue localeLe b = second at h ⊢
  cases first with
  | none =>
    cases second with
    | none => exact ⟨rfl, fun _ => h⟩
    | some w => exact absurd h.symm (hforeign w connectionId _ hid)
  | some v =>
    cases second with
    | none => exact absurd h (hforeign v connectionId' _ hid')
    | some w =>
      have hlists := congrArg String.toList h
      simp only [Option.map_some, replaySessionIdOf, String.toList_append,
        List.append_assoc] at hlists
      have hhash := before_colon (hplain _) (hplain _) (List.append_cancel_left hlists)
      exact ⟨congrArg (fun text => some ("auth:" ++ text)) (String.toList_inj.mp hhash),
        fun hnone => absurd hnone (by simp)⟩

end Owners

end ActorWeb.Gateway
