import ActorWeb.DiscoveryPatterns
import ActorWeb.ExecutionReceipts
import ActorWeb.OrderedMap
import Mathlib.Data.List.Induction

/-! The discovery service: what it registers, and what it says of it. -/

namespace ActorWeb.ActorDiscovery

open OrderedMap CodeUnits

structure ActorRegistryEntry where
  (name address : JsString)
  isEphemeral : Bool
  metadata : Option Json
  (registeredAt lastSeen : Int)

/-- An entry as a response carries it. -/
structure ResponseEntry where
  (name address : JsString)
  isEphemeral : Bool
  metadata : Option Json
  registeredAt : Int

def ActorRegistryEntry.response (entry : ActorRegistryEntry) : ResponseEntry :=
  ⟨entry.name, entry.address, entry.isEphemeral,
    entry.metadata.filter AgentExecution.JsValue.jsonTruthy, entry.registeredAt⟩

inductive DiscoveryServiceMessage
  | register (name address : JsString) (isEphemeral : Option Bool) (metadata : Option Json)
  | unregister (name : JsString) (address : Option JsString)
  | lookup (name requestor : JsString) (requestId : Option JsString)
  | list (pattern : Option JsString) (requestor : JsString) (requestId : Option JsString)
      (includeEphemeral : Option Bool)

structure DiscoveryServiceContext where
  (wellKnownNames ephemeralPids : OrderedMap JsString ActorRegistryEntry)
  messageCount : Nat
  registrationCount : Int
  lookupCount : Nat

def createInitialDiscoveryServiceContext : DiscoveryServiceContext :=
  ⟨.empty, .empty, 0, 0, 0⟩

/-- What a handler plans: the fields of its domain event and of the response it sends. -/
inductive Plan
  | registered (name address : JsString) (isEphemeral wasNew : Bool) (totalRegistrations : Int)
  | unregistered (name : JsString) (address : Option JsString) (wasRemoved wasEphemeral : Bool)
      (totalRegistrations : Int)
  | lookupResult (name requestor : JsString) (requestId : Option JsString)
      (entry : Option ResponseEntry) (lookupCount : Nat)
  | listResult (pattern requestor : JsString) (requestId : Option JsString)
      (entries : List ResponseEntry)
  | thrown

variable (context : DiscoveryServiceContext)

def handleRegister (name address : JsString) (isEphemeral : Bool) (metadata : Option Json)
    (now : Int) : DiscoveryServiceContext × Plan :=
  let entry := ⟨name, address, isEphemeral, metadata, now, now⟩
  let registry := if isEphemeral then context.ephemeralPids else context.wellKnownNames
  let wasNew := !registry.has name
  let context := if isEphemeral then { context with ephemeralPids := registry.set name entry }
    else { context with wellKnownNames := registry.set name entry }
  let context := { context with
    registrationCount := if wasNew then context.registrationCount + 1 else context.registrationCount }
  (context, .registered name address isEphemeral wasNew context.registrationCount)

/-- An address that is absent or empty is not checked. -/
def addressed (entry : Option ActorRegistryEntry) (address : Option JsString) : Bool :=
  entry.any fun entry => address.all fun address => address = [] || entry.address = address

def handleUnregister (name : JsString) (address : Option JsString) :
    DiscoveryServiceContext × Plan :=
  if addressed (context.wellKnownNames.get name) address then
    let context := { context with
      wellKnownNames := context.wellKnownNames.delete name
      registrationCount := context.registrationCount - 1 }
    (context, .unregistered name address true false context.registrationCount)
  else if addressed (context.ephemeralPids.get name) address then
    let context := { context with
      ephemeralPids := context.ephemeralPids.delete name
      registrationCount := context.registrationCount - 1 }
    (context, .unregistered name address true true context.registrationCount)
  else (context, .unregistered name address false false context.registrationCount)

def handleLookup (name requestor : JsString) (requestId : Option JsString) :
    DiscoveryServiceContext × Plan :=
  let context := { context with lookupCount := context.lookupCount + 1 }
  let entry := (context.wellKnownNames.get name).or (context.ephemeralPids.get name)
  (context, .lookupResult name requestor requestId (entry.map (·.response)) context.lookupCount)

/-- `none` stands for a throw. -/
def findMatchingEntries (engine : Engine) (pattern : JsString) (includeEphemeral : Bool) :
    Option (List ActorRegistryEntry) :=
  let searched := context.wellKnownNames.entries ++
    if includeEphemeral then context.ephemeralPids.entries else []
  (searched.mapM fun e => (matchesPattern engine e.1 pattern).map fun b => (b, e.2)).map fun matches' =>
    (matches'.filter Prod.fst).map Prod.snd

def handleList (engine : Engine) (pattern requestor : JsString) (requestId : Option JsString)
    (includeEphemeral : Bool) : DiscoveryServiceContext × Plan :=
  (context, ((findMatchingEntries context engine pattern includeEphemeral).map
    fun entries => .listResult pattern requestor requestId (entries.map (·.response))).getD .thrown)

/-- The maps are shared with the machine's context, the counters are copies that only the plan sees. -/
def onMessage (engine : Engine) (now : Int) (message : DiscoveryServiceMessage) :
    DiscoveryServiceContext × Plan :=
  let newContext := { context with messageCount := context.messageCount + 1 }
  let (handled, plan) := match message with
    | .register name address isEphemeral metadata =>
      handleRegister newContext name address (isEphemeral.getD false) metadata now
    | .unregister name address => handleUnregister newContext name address
    | .lookup name requestor requestId => handleLookup newContext name requestor requestId
    | .list pattern requestor requestId includeEphemeral =>
      handleList newContext engine (pattern.getD [star]) requestor requestId
        (includeEphemeral.getD false)
  ({ context with wellKnownNames := handled.wellKnownNames, ephemeralPids := handled.ephemeralPids },
    plan)

abbrev History := List (Int × DiscoveryServiceMessage)

def run (engine : Engine) (history : History) : DiscoveryServiceContext :=
  history.foldl (fun context e => (onMessage context engine e.1 e.2).1)
    createInitialDiscoveryServiceContext

/-- What stands registered under a name, well known and ephemeral, after a history that is read
from its end. -/
def standing (name : JsString) : History → Option ActorRegistryEntry × Option ActorRegistryEntry
  | [] => (none, none)
  | (now, message) :: past =>
    let (known, pid) := standing name past
    match message with
    | .register n address isEphemeral metadata =>
      let entry := ⟨n, address, isEphemeral.getD false, metadata, now, now⟩
      if n ≠ name then (known, pid)
      else if isEphemeral.getD false then (known, some entry) else (some entry, pid)
    | .unregister n address =>
      if n ≠ name then (known, pid)
      else if addressed known address then (none, pid)
      else if addressed pid address then (known, none) else (known, pid)
    | _ => (known, pid)

def DiscoveryServiceContext.registrations (context : DiscoveryServiceContext) : Nat :=
  context.wellKnownNames.size + context.ephemeralPids.size

def DiscoveryServiceMessage.counted : DiscoveryServiceMessage → Prop
  | .register _ _ _ _ | .unregister _ _ => True
  | _ => False

def Plan.totalRegistrations : Plan → Option Int
  | .registered _ _ _ _ total | .unregistered _ _ _ _ total => some total
  | _ => none

/-- The event of a message tells the number of entries there are then. -/
def Counted (context : DiscoveryServiceContext) (engine : Engine) (now : Int)
    (message : DiscoveryServiceMessage) : Prop :=
  ∀ total, (onMessage context engine now message).2.totalRegistrations = some total →
    total = ((onMessage context engine now message).1.registrations : Int)

/-- A lookup answers the well-known entry that stands, or else the ephemeral one. -/
def Answered (context : DiscoveryServiceContext) (past : History) (engine : Engine) (now : Int)
    (message : DiscoveryServiceMessage) : Prop :=
  ∀ name requestor requestId, message = .lookup name requestor requestId → ∃ n,
    (onMessage context engine now message).2 = .lookupResult name requestor requestId
      (((standing name past.reverse).1.or (standing name past.reverse).2).map (·.response)) n

section Runs

variable {context : DiscoveryServiceContext} {engine : Engine} {now : Int}
variable {message : DiscoveryServiceMessage} {past : History}

theorem set_counted (m : OrderedMap JsString ActorRegistryEntry) (k : JsString)
    (v : ActorRegistryEntry) (others : Nat) : (if m.has k = false then 1 else 0 : Int) =
      ((m.set k v).size : Int) + others ↔ m.size + others = 0 := by
  rw [size_set, OrderedMap.has]
  cases hk : m.get k with
  | none =>
    simp
    omega
  | some v =>
    have := size_delete hk
    simp
    omega

theorem some_of_addressed {entry : Option ActorRegistryEntry} {address : Option JsString}
    (h : addressed entry address = true) : entry.isSome = true := by
  cases entry with
  | none => cases h
  | some entry => rfl

theorem counted_iff (h : context.registrationCount = 0) :
    Counted context engine now message ↔ (message.counted → context.registrations = 0) := by
  cases message with
  | register name address isEphemeral metadata =>
    simp only [Counted, onMessage, handleRegister, Plan.totalRegistrations, Option.some.injEq,
      forall_eq', DiscoveryServiceMessage.counted, forall_const,
      DiscoveryServiceContext.registrations, h]
    cases isEphemeral.getD false with
    | true => simpa [Int.add_comm, Nat.add_comm] using
        set_counted context.ephemeralPids _ _ context.wellKnownNames.size
    | false => simpa using set_counted context.wellKnownNames _ _ context.ephemeralPids.size
  | unregister name address =>
    simp only [Counted, onMessage, handleUnregister, DiscoveryServiceMessage.counted, forall_const]
    have removed {registry : OrderedMap JsString ActorRegistryEntry}
        (hentry : addressed (registry.get name) address = true) :
        (registry.delete name).size + 1 = registry.size := by
      obtain ⟨v, hv⟩ := Option.isSome_iff_exists.mp (some_of_addressed hentry)
      exact size_delete hv
    split
    case' isFalse => split
    case unregister.isTrue hentry | unregister.isFalse.isTrue hentry =>
      have := removed hentry
      simp only [Plan.totalRegistrations, Option.some.injEq, forall_eq',
        DiscoveryServiceContext.registrations, h]
      omega
    case unregister.isFalse.isFalse =>
      simp only [Plan.totalRegistrations, Option.some.injEq, forall_eq',
        DiscoveryServiceContext.registrations, h]
      omega
  | lookup name requestor requestId =>
    simp [Counted, onMessage, handleLookup, Plan.totalRegistrations,
      DiscoveryServiceMessage.counted]
  | list pattern requestor requestId includeEphemeral =>
    simp only [Counted, onMessage, handleList, DiscoveryServiceMessage.counted, false_imp_iff,
      iff_true]
    cases findMatchingEntries _ engine (pattern.getD [star]) (includeEphemeral.getD false) <;>
      simp [Plan.totalRegistrations]

theorem run_concat (engine : Engine) (past : History) (e : Int × DiscoveryServiceMessage) :
    run engine (past ++ [e]) = (onMessage (run engine past) engine e.1 e.2).1 := by
  rw [run, List.foldl_append]
  rfl

theorem run_standing (engine : Engine) (past : History) (name : JsString) :
    ((run engine past).wellKnownNames.get name, (run engine past).ephemeralPids.get name) =
      standing name past.reverse := by
  induction past using List.reverseRecOn with
  | nil => rfl
  | append_singleton past e ih =>
    obtain ⟨now, message⟩ := e
    rw [run_concat, List.reverse_append, List.reverse_singleton, List.singleton_append, standing, ← ih]
    generalize run engine past = context
    cases message with
    | register n address isEphemeral metadata =>
      by_cases hn : n = name
      · subst hn
        cases he : isEphemeral.getD false <;> simp [onMessage, handleRegister, he]
      · cases he : isEphemeral.getD false <;>
          simp [onMessage, handleRegister, he, hn, get_set_ne _ _ (Ne.symm hn)]
    | unregister n address =>
      simp only [onMessage, handleUnregister]
      by_cases hn : n = name
      · subst hn
        split
        · simp_all
        · split <;> simp_all
      · split
        · simp [get_delete_ne _ (Ne.symm hn)]
        · split <;> simp [get_delete_ne _ (Ne.symm hn)]
    | lookup n requestor requestId => rfl
    | list pattern requestor requestId includeEphemeral => rfl

theorem answered (engine : Engine) (past : History) (now : Int)
    (message : DiscoveryServiceMessage) : Answered (run engine past) past engine now message := by
  rintro name requestor requestId rfl
  refine ⟨(run engine past).lookupCount + 1, ?_⟩
  rw [← run_standing engine past name]
  rfl

theorem run_registrationCount (engine : Engine) (past : History) :
    (run engine past).registrationCount = 0 := by
  induction past using List.reverseRecOn with
  | nil => rfl
  | append_singleton past e ih =>
    rw [run_concat]
    exact ih

end Runs

end ActorWeb.ActorDiscovery
