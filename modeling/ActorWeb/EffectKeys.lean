import ActorWeb.CodeUnits
import ActorWeb.NodeProviderActor

/-! The keys of the provider lifecycle effects. -/

namespace ActorWeb.EffectKeys

open List CodeUnits JsText

structure NodeProviderLifecycleEffectIdempotencyKeyInput where
  kind : NodeProviderLifecycleEffectKind
  (provider operationKey : JsString)
  (activationKey acquisitionKey handle target : Option JsString)

abbrev KeyInput := NodeProviderLifecycleEffectIdempotencyKeyInput

/-- An `invalid` result says that it expected a string that is not blank. -/
inductive BrandedStringParseResult
  | valid (value : String)
  | invalid (value : JsString)
deriving DecidableEq

inductive UriError
  | malformed
deriving DecidableEq

def encodeComponent (value : JsString) : Except UriError String :=
  match encodeURIComponent value with
  | some encoded => .ok encoded
  | none => .error .malformed

def optionalComponent (name : String) (value : Option JsString) : Except UriError (List String) :=
  match value with
  | some (u :: us) => (encodeComponent (u :: us)).map fun encoded => [name ++ encoded]
  | some [] | none => .ok []

def createNodeProviderLifecycleEffectIdempotencyKey (input : KeyInput) :
    Except UriError BrandedStringParseResult :=
  if hasNonEmptyString input.provider = false then .ok (.invalid input.provider)
  else if hasNonEmptyString input.operationKey = false then .ok (.invalid input.operationKey)
  else do
    let provider ← encodeComponent input.provider
    let operation ← encodeComponent input.operationKey
    let activation ← optionalComponent "activation=" input.activationKey
    let acquisition ← optionalComponent "acquisition=" input.acquisitionKey
    let handle ← optionalComponent "handle=" input.handle
    let target ← optionalComponent "target=" input.target
    return .valid (":".intercalate
      (["node-provider-lifecycle-effect", "key", "kind=" ++ input.kind.text,
        "provider=" ++ provider, "operation=" ++ operation] ++
        (activation ++ (acquisition ++ (handle ++ target)))))

def present (value : Option JsString) : Option JsString := value.filter (· ≠ [])

structure SameEffect (input input' : KeyInput) : Prop where
  kind : input.kind = input'.kind
  provider : input.provider = input'.provider
  operationKey : input.operationKey = input'.operationKey
  activationKey : present input.activationKey = present input'.activationKey
  acquisitionKey : present input.acquisitionKey = present input'.acquisitionKey
  handle : present input.handle = present input'.handle
  target : present input.target = present input'.target

structure Encodable (input : KeyInput) : Prop where
  provider : WellFormed input.provider
  operationKey : WellFormed input.operationKey
  activationKey : ∀ value ∈ input.activationKey, WellFormed value
  acquisitionKey : ∀ value ∈ input.acquisitionKey, WellFormed value
  handle : ∀ value ∈ input.handle, WellFormed value
  target : ∀ value ∈ input.target, WellFormed value

section Components

variable {value value' : JsString} {encoded name : String} {o o' : Option JsString}
  {parts : List String}

theorem encodeComponent_eq_ok :
    encodeComponent value = .ok encoded ↔ encodeURIComponent value = some encoded := by
  unfold encodeComponent
  split
  case h_1 v hv => simp [hv]
  case h_2 hv => simp [hv]

theorem encodeComponent_injective (h : encodeComponent value = .ok encoded)
    (h' : encodeComponent value' = .ok encoded) : value = value' :=
  encodeURIComponent_injective (encodeComponent_eq_ok.mp h) (encodeComponent_eq_ok.mp h')

theorem encodeComponent_returns : (∃ encoded, encodeComponent value = .ok encoded) ↔ WellFormed value := by
  simp only [encodeComponent_eq_ok, ← Option.isSome_iff_exists, encodeURIComponent_isSome]

theorem encodeComponent_plain (h : encodeComponent value = .ok encoded) : ':' ∉ encoded.toList := by
  obtain ⟨cs, -, rfl⟩ := Option.map_eq_some_iff.mp (encodeComponent_eq_ok.mp h)
  exact plain_encodeURIComponent _

theorem optionalComponent_eq_ok : optionalComponent name o = .ok parts ↔
    (present o = none ∧ parts = []) ∨ ∃ value encoded, present o = some value ∧
      encodeComponent value = .ok encoded ∧ parts = [name ++ encoded] := by
  unfold optionalComponent
  split
  case h_1 u us =>
    have hpresent : present (some (u :: us)) = some (u :: us) := rfl
    rw [hpresent]
    cases hencoded : encodeComponent (u :: us) with
    | error e => simp [Except.map, hencoded]
    | ok encoded => simp [Except.map, hencoded, eq_comm]
  case h_2 =>
    have hpresent : present (some []) = none := rfl
    simp [hpresent, eq_comm]
  case h_3 =>
    have hpresent : present none = none := rfl
    simp [hpresent, eq_comm]

theorem optionalComponent_returns (name : String) : (∃ parts, optionalComponent name o = .ok parts) ↔
    ∀ value ∈ o, WellFormed value := by
  unfold optionalComponent
  split
  case h_1 u us =>
    simp only [Option.mem_some_iff, forall_eq', ← encodeComponent_returns]
    cases encodeComponent (u :: us) <;> simp [Except.map]
  case h_2 => simpa using (by decide : WellFormed [])
  case h_3 => simp

end Components

section Keys

theorem intercalate_plain_injective : ∀ {xs ys : List String}, xs ≠ [] → ys ≠ [] →
    (∀ s ∈ xs, ':' ∉ s.toList) → (∀ s ∈ ys, ':' ∉ s.toList) →
    ":".intercalate xs = ":".intercalate ys → xs = ys
  | [], _, hne, _, _, _, _ => absurd rfl hne
  | _, [], _, hne, _, _, _ => absurd rfl hne
  | [s], [t], _, _, _, _, h => by
    simp only [String.intercalate_singleton] at h
    rw [h]
  | [s], t :: t' :: ys, _, _, hxs, _, h => by
    rw [String.intercalate_singleton, String.intercalate_cons_of_ne_nil (by simp)] at h
    refine absurd ?_ (hxs s mem_cons_self)
    rw [h]
    simp
  | s :: s' :: xs, [t], _, _, _, hys, h => by
    rw [String.intercalate_singleton, String.intercalate_cons_of_ne_nil (by simp)] at h
    refine absurd ?_ (hys t mem_cons_self)
    rw [← h]
    simp
  | s :: s' :: xs, t :: t' :: ys, _, _, hxs, hys, h => by
    rw [String.intercalate_cons_of_ne_nil (cons_ne_nil s' xs),
      String.intercalate_cons_of_ne_nil (cons_ne_nil t' ys)] at h
    have hchars := congrArg String.toList h
    simp only [String.toList_append, append_assoc] at hchars
    obtain ⟨hst, hrest⟩ := split_at_first hchars (hxs s mem_cons_self)
      (hys t mem_cons_self)
    rw [String.toList_injective hst, intercalate_plain_injective (by simp) (by simp)
      (fun u hu => hxs u (mem_cons_of_mem s hu))
      (fun u hu => hys u (mem_cons_of_mem t hu)) (String.toList_injective hrest)]

def Unnamed (name part : String) : Prop := ∀ value, part ≠ name ++ value

theorem unnamed_of_heads {name other : String} (value : String)
    (hname : 3 ≤ name.toList.length) (hother : 3 ≤ other.toList.length)
    (h : other.toList.take 3 ≠ name.toList.take 3) : Unnamed name (other ++ value) := by
  intro value' heq
  have hchars := congrArg (fun s : String => s.toList.take 3) heq
  simp only [String.toList_append, take_append_of_le_length hname,
    take_append_of_le_length hother] at hchars
  exact h hchars

variable {name : String} {o o' : Option JsString} {parts parts' rest rest' : List String}

theorem optionalComponent_split (h : optionalComponent name o = .ok parts)
    (h' : optionalComponent name o' = .ok parts') (hrest : ∀ s ∈ rest, Unnamed name s)
    (hrest' : ∀ s ∈ rest', Unnamed name s) (heq : parts ++ rest = parts' ++ rest') :
    present o = present o' ∧ rest = rest' := by
  obtain ⟨ho, rfl⟩ | ⟨value, encoded, ho, hencoded, rfl⟩ := optionalComponent_eq_ok.mp h
  · obtain ⟨ho', rfl⟩ | ⟨value', encoded', ho', hencoded', rfl⟩ := optionalComponent_eq_ok.mp h'
    · exact ⟨ho.trans ho'.symm, heq⟩
    · rw [nil_append, singleton_append] at heq
      exact absurd rfl (hrest _ (heq ▸ mem_cons_self) encoded')
  · obtain ⟨ho', rfl⟩ | ⟨value', encoded', ho', hencoded', rfl⟩ := optionalComponent_eq_ok.mp h'
    · rw [nil_append, singleton_append] at heq
      exact absurd rfl (hrest' _ (heq ▸ mem_cons_self) encoded)
    · obtain ⟨hpart, htail⟩ := List.cons.inj heq
      obtain rfl := (String.append_right_inj _).mp hpart
      exact ⟨by rw [ho, ho', encodeComponent_injective hencoded hencoded'], htail⟩

theorem optionalComponent_named (h : optionalComponent name o = .ok parts) :
    ∀ s ∈ parts, ∃ value, s = name ++ value := by
  obtain ⟨-, rfl⟩ | ⟨value, encoded, -, -, rfl⟩ := optionalComponent_eq_ok.mp h
  · simp
  · intro s hs
    exact ⟨encoded, mem_singleton.mp hs⟩

theorem optionalComponent_plain (hname : ':' ∉ name.toList)
    (h : optionalComponent name o = .ok parts) : ∀ s ∈ parts, ':' ∉ s.toList := by
  obtain ⟨-, rfl⟩ | ⟨value, encoded, -, hencoded, rfl⟩ := optionalComponent_eq_ok.mp h
  · simp
  · intro s hs
    rw [mem_singleton.mp hs, String.toList_append, mem_append]
    exact not_or.mpr ⟨hname, encodeComponent_plain hencoded⟩

theorem bind_eq_ok {ε α β : Type} {x : Except ε α} {f : α → Except ε β} {b : β}
    (h : x >>= f = .ok b) : ∃ a, x = .ok a ∧ f a = .ok b := by
  cases x with
  | error e => cases h
  | ok a => exact ⟨a, rfl, h⟩

structure Made (input : KeyInput) (provider operation : String)
    (activation acquisition handle target : List String) : Prop where
  provider : encodeComponent input.provider = .ok provider
  operation : encodeComponent input.operationKey = .ok operation
  activation : optionalComponent "activation=" input.activationKey = .ok activation
  acquisition : optionalComponent "acquisition=" input.acquisitionKey = .ok acquisition
  handle : optionalComponent "handle=" input.handle = .ok handle
  target : optionalComponent "target=" input.target = .ok target

def keyParts (kind : NodeProviderLifecycleEffectKind) (provider operation : String)
    (activation acquisition handle target : List String) : List String :=
  ["node-provider-lifecycle-effect", "key", "kind=" ++ kind.text, "provider=" ++ provider,
    "operation=" ++ operation] ++ (activation ++ (acquisition ++ (handle ++ target)))

variable {input : KeyInput}

theorem made_of_returns {result : BrandedStringParseResult}
    (hprovider : hasNonEmptyString input.provider = true)
    (hoperation : hasNonEmptyString input.operationKey = true)
    (h : createNodeProviderLifecycleEffectIdempotencyKey input = .ok result) :
    ∃ provider operation activation acquisition handle target,
      Made input provider operation activation acquisition handle target ∧
        result = .valid (":".intercalate
          (keyParts input.kind provider operation activation acquisition handle target)) := by
  simp only [createNodeProviderLifecycleEffectIdempotencyKey, hprovider, hoperation,
    Bool.true_eq_false, if_false] at h
  obtain ⟨provider, hp, h⟩ := bind_eq_ok h
  obtain ⟨operation, ho, h⟩ := bind_eq_ok h
  obtain ⟨activation, ha, h⟩ := bind_eq_ok h
  obtain ⟨acquisition, hc, h⟩ := bind_eq_ok h
  obtain ⟨handle, hh, h⟩ := bind_eq_ok h
  obtain ⟨target, ht, h⟩ := bind_eq_ok h
  exact ⟨provider, operation, activation, acquisition, handle, target, ⟨hp, ho, ha, hc, hh, ht⟩,
    (Except.ok.inj h).symm⟩

theorem key_valid {key : String}
    (h : createNodeProviderLifecycleEffectIdempotencyKey input = .ok (.valid key)) :
    ∃ provider operation activation acquisition handle target,
      Made input provider operation activation acquisition handle target ∧
        key = ":".intercalate
          (keyParts input.kind provider operation activation acquisition handle target) := by
  have hnonblank : hasNonEmptyString input.provider = true ∧
      hasNonEmptyString input.operationKey = true := by
    unfold createNodeProviderLifecycleEffectIdempotencyKey at h
    split at h
    case isTrue => cases h
    split at h
    case isTrue => cases h
    case isFalse hprovider hoperation =>
      exact ⟨Bool.not_eq_false _ ▸ hprovider, Bool.not_eq_false _ ▸ hoperation⟩
  obtain ⟨provider, operation, activation, acquisition, handle, target, m, hresult⟩ :=
    made_of_returns hnonblank.1 hnonblank.2 h
  exact ⟨provider, operation, activation, acquisition, handle, target, m,
    BrandedStringParseResult.valid.inj hresult⟩

theorem keyParts_plain {provider operation : String}
    {activation acquisition handle target : List String}
    (m : Made input provider operation activation acquisition handle target) :
    ∀ s ∈ keyParts input.kind provider operation activation acquisition handle target,
      ':' ∉ s.toList := by
  have hnamed (name value : String) (hname : ':' ∉ name.toList) (hvalue : ':' ∉ value.toList) :
      ':' ∉ (name ++ value).toList := by
    rw [String.toList_append, mem_append]
    exact not_or.mpr ⟨hname, hvalue⟩
  intro s hs
  simp only [keyParts, cons_append, nil_append, mem_cons, mem_append] at hs
  rcases hs with rfl | rfl | rfl | rfl | rfl | hs | hs | hs | hs
  · decide
  · decide
  · exact hnamed _ _ (by decide) (by cases input.kind <;> decide)
  · exact hnamed _ _ (by decide) (encodeComponent_plain m.provider)
  · exact hnamed _ _ (by decide) (encodeComponent_plain m.operation)
  · exact optionalComponent_plain (by decide) m.activation s hs
  · exact optionalComponent_plain (by decide) m.acquisition s hs
  · exact optionalComponent_plain (by decide) m.handle s hs
  · exact optionalComponent_plain (by decide) m.target s hs

theorem kind_text_injective {kind kind' : NodeProviderLifecycleEffectKind}
    (h : kind.text = kind'.text) : kind = kind' := by
  cases kind <;> cases kind' <;> first | rfl | exact absurd h (by decide)

theorem same_of_key {input input' : KeyInput} {key : String}
    (h : createNodeProviderLifecycleEffectIdempotencyKey input = .ok (.valid key))
    (h' : createNodeProviderLifecycleEffectIdempotencyKey input' = .ok (.valid key)) :
    SameEffect input input' := by
  obtain ⟨provider, operation, activation, acquisition, handle, target, m, hkey⟩ := key_valid h
  obtain ⟨provider', operation', activation', acquisition', handle', target', m', hkey'⟩ :=
    key_valid h'
  have hparts := intercalate_plain_injective (by simp [keyParts]) (by simp [keyParts])
    (keyParts_plain m) (keyParts_plain m') (hkey.symm.trans hkey')
  simp only [keyParts, cons_append, nil_append, List.cons.injEq, true_and,
    String.append_right_inj] at hparts
  obtain ⟨hkind, rfl, rfl, hoptional⟩ := hparts
  have hother {name other : String} {o : Option JsString} {parts : List String}
      (hparts : optionalComponent other o = .ok parts) (hname : 3 ≤ name.toList.length)
      (hlength : 3 ≤ other.toList.length) (hheads : other.toList.take 3 ≠ name.toList.take 3) :
      ∀ s ∈ parts, Unnamed name s := by
    intro s hs
    obtain ⟨value, rfl⟩ := optionalComponent_named hparts s hs
    exact unnamed_of_heads value hname hlength hheads
  obtain ⟨hactivation, hoptional⟩ := optionalComponent_split m.activation m'.activation
    (forall_mem_append.mpr ⟨hother m.acquisition (by decide) (by decide) (by decide),
      forall_mem_append.mpr ⟨hother m.handle (by decide) (by decide) (by decide),
        hother m.target (by decide) (by decide) (by decide)⟩⟩)
    (forall_mem_append.mpr ⟨hother m'.acquisition (by decide) (by decide) (by decide),
      forall_mem_append.mpr ⟨hother m'.handle (by decide) (by decide) (by decide),
        hother m'.target (by decide) (by decide) (by decide)⟩⟩) hoptional
  obtain ⟨hacquisition, hoptional⟩ := optionalComponent_split m.acquisition m'.acquisition
    (forall_mem_append.mpr ⟨hother m.handle (by decide) (by decide) (by decide),
      hother m.target (by decide) (by decide) (by decide)⟩)
    (forall_mem_append.mpr ⟨hother m'.handle (by decide) (by decide) (by decide),
      hother m'.target (by decide) (by decide) (by decide)⟩) hoptional
  obtain ⟨hhandle, hoptional⟩ := optionalComponent_split m.handle m'.handle
    (hother m.target (by decide) (by decide) (by decide))
    (hother m'.target (by decide) (by decide) (by decide)) hoptional
  have hlast : target ++ [] = target' ++ [] := by rw [hoptional]
  obtain ⟨htarget, -⟩ := optionalComponent_split m.target m'.target (by simp) (by simp) hlast
  exact
    { kind := kind_text_injective hkind
      provider := encodeComponent_injective m.provider m'.provider
      operationKey := encodeComponent_injective m.operation m'.operation
      activationKey := hactivation
      acquisitionKey := hacquisition
      handle := hhandle
      target := htarget }

theorem returns_iff (input : KeyInput) :
    (∃ result, createNodeProviderLifecycleEffectIdempotencyKey input = .ok result) ↔
      (hasNonEmptyString input.provider = true → hasNonEmptyString input.operationKey = true →
        Encodable input) := by
  unfold createNodeProviderLifecycleEffectIdempotencyKey
  split
  case isTrue hblank =>
    refine iff_of_true ⟨_, rfl⟩ fun h => ?_
    rw [hblank] at h
    cases h
  split
  case isTrue hblank =>
    refine iff_of_true ⟨_, rfl⟩ fun _ h => ?_
    rw [hblank] at h
    cases h
  case isFalse hprovider hoperation =>
    rw [Bool.not_eq_false] at hprovider hoperation
    simp only [hprovider, hoperation, forall_const]
    constructor
    · rintro ⟨result, h⟩
      have hreturns : createNodeProviderLifecycleEffectIdempotencyKey input = .ok result := by
        simp only [createNodeProviderLifecycleEffectIdempotencyKey, hprovider, hoperation,
          Bool.true_eq_false, if_false]
        exact h
      obtain ⟨provider, operation, activation, acquisition, handle, target, m, -⟩ :=
        made_of_returns hprovider hoperation hreturns
      exact
        { provider := encodeComponent_returns.mp ⟨_, m.provider⟩
          operationKey := encodeComponent_returns.mp ⟨_, m.operation⟩
          activationKey := (optionalComponent_returns _).mp ⟨_, m.activation⟩
          acquisitionKey := (optionalComponent_returns _).mp ⟨_, m.acquisition⟩
          handle := (optionalComponent_returns _).mp ⟨_, m.handle⟩
          target := (optionalComponent_returns _).mp ⟨_, m.target⟩ }
    · intro h
      obtain ⟨provider, hp⟩ := encodeComponent_returns.mpr h.provider
      obtain ⟨operation, ho⟩ := encodeComponent_returns.mpr h.operationKey
      obtain ⟨activation, ha⟩ := (optionalComponent_returns "activation=").mpr h.activationKey
      obtain ⟨acquisition, hc⟩ := (optionalComponent_returns "acquisition=").mpr h.acquisitionKey
      obtain ⟨handle, hh⟩ := (optionalComponent_returns "handle=").mpr h.handle
      obtain ⟨target, ht⟩ := (optionalComponent_returns "target=").mpr h.target
      rw [hp, ho, ha, hc, hh, ht]
      exact ⟨_, rfl⟩

/-- Keys tell effects apart, and the function throws exactly at a component that holds a lone
surrogate. -/
theorem keys_tell_apart (input : KeyInput) :
    (∀ input' key, createNodeProviderLifecycleEffectIdempotencyKey input = .ok (.valid key) →
      createNodeProviderLifecycleEffectIdempotencyKey input' = .ok (.valid key) →
      SameEffect input input') ∧
    ((∃ result, createNodeProviderLifecycleEffectIdempotencyKey input = .ok result) ↔
      (hasNonEmptyString input.provider = true → hasNonEmptyString input.operationKey = true →
        Encodable input)) :=
  ⟨fun _ _ => same_of_key, returns_iff input⟩

def loneSurrogateInput : KeyInput where
  kind := .filesystemProbe
  provider := [0x70]
  operationKey := [0x6F]
  activationKey := none
  acquisitionKey := none
  handle := none
  target := some [0xD800]

theorem loneSurrogateInput_throws :
    createNodeProviderLifecycleEffectIdempotencyKey loneSurrogateInput = .error .malformed := by
  decide +kernel

end Keys

end ActorWeb.EffectKeys
