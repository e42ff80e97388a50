import Mathlib.Tactic.Common

/-! Where a distributed host lets its gateway and its transport listen. -/

namespace ActorWeb.HostExposure

/-- An option that is a boolean or an object with options of its own. -/
inductive Setting (α : Type)
  | flag (value : Bool)
  | object (options : α)

def truthy {α : Type} : Option (Setting α) → Bool
  | none => false
  | some (.flag value) => value
  | some (.object _) => true

structure ListenOptions where
  host : Option String

/-- `P` stands for the providers and stores that a host is given. -/
structure GatewayOptions (P : Type) where
  host : Option String
  (auth commandAdmission : Option P)

structure TransportOptions (P : Type) where
  listen : Option (Setting ListenOptions)
  auth : Option P

structure RuntimeHostDistributedOptions (P : Type) where
  host : Option String
  gateway : Option (Setting (GatewayOptions P))
  transport : Option (Setting (TransportOptions P))
  allowUnsafeExposure : Option Bool

structure RuntimeHostCheckpointOptions (P : Type) where
  store : Option P
  required : Option Bool

structure RuntimeHostOptions (P : Type) where
  node : Option String
  commandAdmission : Option P
  distributed : Option (RuntimeHostDistributedOptions P)
  remote : Option P
  checkpoint : Option (RuntimeHostCheckpointOptions P)

/-- Reading a node finds the inherited names of an object too. -/
structure Topology where
  nodeKeys : List String
  hasNode : String → Bool

variable {P : Type}

def RuntimeHostDistributedOptions.unsafeExposure (options : RuntimeHostDistributedOptions P) : Bool :=
  options.allowUnsafeExposure.getD false

def RuntimeHostOptions.store (options : RuntimeHostOptions P) : Option P :=
  options.checkpoint.bind (·.store)

def isLoopbackHost : Option String → Bool
  | none => true
  | some host => host = "" || host = "127.0.0.1" || host = "::1" || host = "localhost"

def createUnsafeExposureError (surface host : String) : String :=
  "Distributed host rejected: unsafe_exposure_requires_override (" ++ surface ++ " host \"" ++ host ++
    "\" is not loopback-safe. Pass allowUnsafeExposure to bind outside localhost.)"

/-- The host that the gateway options name themselves. -/
def gatewayHost : Option (Setting (GatewayOptions P)) → Option String
  | some (.object gateway) => gateway.host
  | _ => none

def listenHost : Option (Setting ListenOptions) → Option String
  | some (.object listen) => listen.host
  | _ => none

def transportListen : Option (Setting (TransportOptions P)) → Option (Setting ListenOptions)
  | some (.object transport) => transport.listen
  | some (.flag value) => some (.flag value)
  | none => none

def validateDistributedExposure (options : Option (RuntimeHostDistributedOptions P)) : Option String :=
  match options with
  | none => none
  | some options =>
    if options.unsafeExposure then none
    else
      let gatewayHost := (gatewayHost options.gateway).or options.host
      if truthy options.gateway && !isLoopbackHost gatewayHost then
        some (createUnsafeExposureError "gateway" (gatewayHost.getD "0.0.0.0"))
      else
        let transportHost := (listenHost (transportListen options.transport)).or options.host
        if truthy options.transport && !isLoopbackHost transportHost then
          some (createUnsafeExposureError "transport" (transportHost.getD "0.0.0.0"))
        else none

def requiresNonLocalhostGatewayHardening (options : RuntimeHostOptions P) : Option (GatewayOptions P) :=
  match options.distributed with
  | none => none
  | some distributed =>
    if !distributed.unsafeExposure then none
    else
      match distributed.gateway with
      | none | some (.flag false) => none
      | some gateway =>
        let gatewayOptions := match gateway with
          | .flag _ => ⟨none, none, none⟩
          | .object gateway => gateway
        if isLoopbackHost (some ((gatewayOptions.host.or distributed.host).getD "127.0.0.1")) then none
        else some gatewayOptions

def requiresNonLocalhostTransportHardening (options : RuntimeHostOptions P) :
    Option (TransportOptions P) :=
  match options.distributed with
  | none => none
  | some distributed =>
    if !distributed.unsafeExposure then none
    else
      match distributed.transport with
      | none | some (.flag false) => none
      | some transport =>
        let transportOptions := match transport with
          | .flag _ => ⟨none, none⟩
          | .object transport => transport
        let transportHost := ((listenHost transportOptions.listen).or distributed.host).getD "127.0.0.1"
        if isLoopbackHost (some transportHost) then none else some transportOptions

def gatewayRejection (options : RuntimeHostOptions P) (gateway : GatewayOptions P) : Option String :=
  if gateway.auth.isNone then
    some ("Distributed host rejected: missing_gateway_auth " ++
      "(non-localhost gateway exposure requires explicit gateway authentication.)")
  else if gateway.commandAdmission.isNone then
    some ("Distributed host rejected: missing_gateway_admission " ++
      "(non-localhost gateway exposure requires explicit command admission.)")
  else if options.store.isNone then
    some ("Distributed host rejected: missing_checkpoint_store " ++
      "(non-localhost gateway exposure requires an explicit checkpoint store.)")
  else none

def transportRejection (transport : TransportOptions P) : Option String :=
  if transport.auth.isNone then
    some ("Distributed host rejected: missing_transport_auth " ++
      "(non-localhost transport exposure requires explicit transport authentication.)")
  else none

def validateDistributedSecurityRequirements (options : RuntimeHostOptions P) : Option String :=
  ((requiresNonLocalhostGatewayHardening options).bind (gatewayRejection options)).or
    ((requiresNonLocalhostTransportHardening options).bind transportRejection)

def validateCheckpointRequirements (options : RuntimeHostOptions P) : Option String :=
  if (options.checkpoint.bind (·.required)).getD false && options.store.isNone then
    some ("Runtime host rejected: missing_checkpoint_store " ++
      "(checkpoint readiness was required but no checkpoint store is configured.)")
  else none

structure ServeActorWebNodeOptions (P : Type) where
  node : String
  host : Option String
  gateway : Option (Setting (GatewayOptions P))
  transport : Option (Setting (TransportOptions P))

structure GatewayServer (P : Type) where
  host : String
  (auth commandAdmission : Option P)

structure TransportListener (P : Type) where
  host : String
  auth : Option P

/-- What a served node listens with. -/
structure ServedActorWebNode (P : Type) where
  gateway : Option (GatewayServer P)
  listener : Option (TransportListener P)

def normalizeGatewayOptions : Option (Setting (GatewayOptions P)) → Option (GatewayOptions P)
  | none | some (.flag false) => none
  | some (.flag true) => some ⟨none, none, none⟩
  | some (.object gateway) => some gateway

def normalizeTransportOptions : Option (Setting (TransportOptions P)) → Option (TransportOptions P)
  | none | some (.flag false) => none
  | some (.flag true) => some ⟨some (.flag true), none⟩
  | some (.object transport) => some transport

def serveNode (options : ServeActorWebNodeOptions P) : ServedActorWebNode P :=
  let host := options.host.getD "127.0.0.1"
  { gateway := (normalizeGatewayOptions options.gateway).map fun gateway =>
      ⟨gateway.host.getD host, gateway.auth, gateway.commandAdmission⟩
    listener := (normalizeTransportOptions options.transport).bind fun transport =>
      if truthy transport.listen then some ⟨(listenHost transport.listen).getD host, transport.auth⟩
      else none }

inductive RuntimeHost (P : Type)
  | remote (node : String)
  | distributed (node : String) (served : ServedActorWebNode P)
  | inProcess (node : String)

def serveOptions (distributed : RuntimeHostDistributedOptions P) (node : String) :
    ServeActorWebNodeOptions P :=
  ⟨node, distributed.host.filter (· ≠ ""), distributed.gateway, distributed.transport⟩

/-- What a host does once its options are accepted. `fails` is the message of a start that throws. -/
def startHost (fails : Option String) (options : RuntimeHostOptions P) (node : String) :
    Except String (RuntimeHost P) :=
  if options.remote.isSome then .ok (.remote node)
  else
    match fails with
    | some message => .error ("Failed to start runtime: " ++ message)
    | none =>
      match options.distributed with
      | none => .ok (.inProcess node)
      | some distributed => .ok (.distributed node (serveNode (serveOptions distributed node)))

def selectNode (topology : Topology) (options : RuntimeHostOptions P) : Except String String :=
  match topology.nodeKeys with
  | [] => .error "Runtime host rejected: topology must declare at least one node."
  | first :: _ =>
    let spawnNodeKey := options.node.getD first
    if spawnNodeKey ≠ "" ∧ !topology.hasNode spawnNodeKey then
      .error ("Node \"" ++ spawnNodeKey ++ "\" not found in topology. Available nodes: " ++
        ", ".intercalate topology.nodeKeys)
    else .ok spawnNodeKey

/-- The first check that rejects the options. -/
def rejection (options : RuntimeHostOptions P) : Option String :=
  if options.remote.isSome && options.distributed.isSome then
    some ("Runtime host rejected: remote_conflicts_with_distributed " ++
      "(remote hosts cannot also configure distributed hosting options.)")
  else if options.remote.isSome && options.commandAdmission.isSome then
    some ("Runtime host rejected: remote_gateway_owns_admission " ++
      "(remote hosts must configure command admission on the authoritative gateway instead " ++
      "of local host options.)")
  else
    ((validateDistributedExposure options.distributed).or
      (validateDistributedSecurityRequirements options)).or (validateCheckpointRequirements options)

def createRuntimeHost (fails : Option String) (topology : Topology) (options : RuntimeHostOptions P) :
    Except String (RuntimeHost P) :=
  match rejection options with
  | some error => .error error
  | none => (selectNode topology options).bind (startHost fails options)

/-- A server that listens on the host is reached from its own machine only. No host at all is
every interface. -/
def IsLoopback (host : String) : Prop := host ∈ ["127.0.0.1", "::1", "localhost"]

/-- A surface bound to `host` stays on the loopback unless the override is given, and has what
`hardened` asks for where it does not. -/
def Guarded (override : Bool) (host : String) (hardened : Prop) : Prop :=
  (IsLoopback host ∨ override) ∧ (¬ IsLoopback host → hardened)

def Hardened (auth commandAdmission store : Option P) : Prop :=
  auth.isSome ∧ commandAdmission.isSome ∧ store.isSome

/-- What the checks of a host are meant to give. -/
def Secured (options : RuntimeHostOptions P) (served : ServedActorWebNode P) : Prop :=
  ∀ distributed ∈ options.distributed,
    (∀ gateway ∈ served.gateway, Guarded distributed.unsafeExposure gateway.host
      (Hardened gateway.auth gateway.commandAdmission options.store)) ∧
    ∀ listener ∈ served.listener,
      Guarded distributed.unsafeExposure listener.host listener.auth.isSome

/-- A surface with an empty host of its own has the override and its hardening. -/
def Covered (options : RuntimeHostOptions P) : Prop :=
  ∀ distributed ∈ options.distributed,
    (∀ gateway, distributed.gateway = some (.object gateway) → gateway.host = some "" →
      distributed.unsafeExposure ∧
        Hardened gateway.auth gateway.commandAdmission options.store) ∧
    ∀ transport, distributed.transport = some (.object transport) →
      listenHost transport.listen = some "" →
      distributed.unsafeExposure ∧ transport.auth.isSome

theorem isLoopbackHost_getD (host : Option String) :
    isLoopbackHost (some (host.getD "127.0.0.1")) = isLoopbackHost host := by
  cases host <;> rfl

theorem isLoopbackHost_bound {own : Option String} (hown : own ≠ some "") (host : Option String) :
    isLoopbackHost (own.or host) = true ↔
      IsLoopback (own.getD ((host.filter (· ≠ "")).getD "127.0.0.1")) := by
  cases own with
  | some own =>
    have hne : own ≠ "" := fun h => hown (congrArg some h)
    simp [isLoopbackHost, IsLoopback, hne, or_assoc]
  | none =>
    cases host with
    | none => simp [isLoopbackHost, IsLoopback]
    | some host =>
      by_cases h : host = "" <;> simp [isLoopbackHost, IsLoopback, h, Option.filter, or_assoc]

theorem guarded_iff {override : Bool} {own host : Option String} {hardened : Prop}
    (hexposed : override = false → isLoopbackHost (own.or host) = true)
    (hrequired : override = true →
      isLoopbackHost (some ((own.or host).getD "127.0.0.1")) = false → hardened) :
    Guarded override (own.getD ((host.filter (· ≠ "")).getD "127.0.0.1")) hardened ↔
      (own = some "" → override ∧ hardened) := by
  by_cases hown : own = some ""
  · have hempty : ¬ IsLoopback "" := by simp [IsLoopback]
    simp only [hown, Option.getD_some, Guarded, hempty, false_or, not_false_eq_true, forall_const]
  · rw [isLoopbackHost_getD] at hrequired
    have hbound := isLoopbackHost_bound hown host
    refine iff_of_true ⟨?_, fun hopen => ?_⟩ fun h => absurd h hown
    · cases override with
      | false => exact .inl (hbound.mp (hexposed rfl))
      | true => exact .inr rfl
    · have hclosed := Bool.eq_false_iff.mpr (mt hbound.mp hopen)
      cases override with
      | false => exact absurd (hexposed rfl) (by rw [hclosed]; decide)
      | true => exact hrequired rfl hclosed

section Started

variable {fails : Option String} {topology : Topology} {options : RuntimeHostOptions P} {node : String}
  {served : ServedActorWebNode P} {distributed : RuntimeHostDistributedOptions P}

theorem createRuntimeHost_distributed
    (h : createRuntimeHost fails topology options = .ok (.distributed node served)) :
    rejection options = none ∧ ∃ distributed, options.distributed = some distributed ∧
      served = serveNode (serveOptions distributed node) := by
  unfold createRuntimeHost at h
  split at h
  case h_1 => cases h
  case h_2 hrejection =>
    refine ⟨hrejection, ?_⟩
    cases hnode : selectNode topology options with
    | error error => rw [hnode] at h; cases h
    | ok key =>
      rw [hnode] at h
      simp only [Except.bind, startHost] at h
      repeat' split at h
      all_goals cases h
      exact ⟨_, by assumption, rfl⟩

theorem rejection_eq_none (h : rejection options = none) :
    validateDistributedExposure options.distributed = none ∧
      (∀ gateway, requiresNonLocalhostGatewayHardening options = some gateway →
        gatewayRejection options gateway = none) ∧
      ∀ transport, requiresNonLocalhostTransportHardening options = some transport →
        transportRejection transport = none := by
  unfold rejection at h
  split at h
  · cases h
  · split at h
    · cases h
    · simp only [Option.or_eq_none_iff, validateDistributedSecurityRequirements,
        Option.bind_eq_none_iff] at h
      exact ⟨h.1.1, h.1.2.1, h.1.2.2⟩

theorem gatewayRejection_eq_none {gateway : GatewayOptions P}
    (h : gatewayRejection options gateway = none) :
    Hardened gateway.auth gateway.commandAdmission options.store := by
  unfold gatewayRejection at h
  cases hauth : gateway.auth <;> cases hadmission : gateway.commandAdmission <;>
    cases hstore : options.store <;> simp [Hardened, hauth, hadmission, hstore] at h ⊢

theorem validateDistributedExposure_eq_none (h : validateDistributedExposure (some distributed) = none)
    (hoverride : distributed.unsafeExposure = false) : (truthy distributed.gateway = true →
        isLoopbackHost ((gatewayHost distributed.gateway).or distributed.host) = true) ∧
      (truthy distributed.transport = true →
        isLoopbackHost ((listenHost (transportListen distributed.transport)).or distributed.host) =
          true) := by
  simp only [validateDistributedExposure, hoverride, Bool.false_eq_true, if_false] at h
  split at h
  case isTrue => cases h
  case isFalse hgateway =>
    split at h
    case isTrue => cases h
    case isFalse htransport => simpa using And.intro hgateway htransport

theorem gateway_guarded_iff (h : rejection options = none) (hd : options.distributed = some distributed) :
    (∀ gateway ∈ (serveNode (serveOptions distributed node)).gateway,
        Guarded distributed.unsafeExposure gateway.host
          (Hardened gateway.auth gateway.commandAdmission options.store)) ↔
      ∀ gateway, distributed.gateway = some (.object gateway) → gateway.host = some "" →
        distributed.unsafeExposure ∧
          Hardened gateway.auth gateway.commandAdmission options.store := by
  obtain ⟨hexposure, hrequired, -⟩ := rejection_eq_none h
  rw [hd] at hexposure
  cases hgateway : distributed.gateway with
  | none => simp [serveNode, serveOptions, hgateway, normalizeGatewayOptions]
  | some setting =>
    have hguarded : ∀ gateway, normalizeGatewayOptions (some setting) = some gateway →
        (Guarded distributed.unsafeExposure
            (gateway.host.getD ((distributed.host.filter (· ≠ "")).getD "127.0.0.1"))
            (Hardened gateway.auth gateway.commandAdmission options.store) ↔
          (gateway.host = some "" → distributed.unsafeExposure ∧
            Hardened gateway.auth gateway.commandAdmission options.store)) := by
      intro gateway hnormalized
      refine guarded_iff (fun hoverride => ?_) fun hoverride hopen => ?_
      · have hloopback := (validateDistributedExposure_eq_none hexposure hoverride).1
        rw [hgateway] at hloopback
        obtain ⟨_ | _⟩ | _ := setting <;> cases hnormalized <;> exact hloopback rfl
      · refine gatewayRejection_eq_none (hrequired gateway ?_)
        obtain ⟨_ | _⟩ | _ := setting <;> cases hnormalized <;>
          simp only [requiresNonLocalhostGatewayHardening, hd, hoverride, hgateway, Bool.not_true,
            Bool.false_eq_true, if_false] <;>
          exact if_neg (Bool.eq_false_iff.mp hopen)
    obtain ⟨_ | _⟩ | gateway := setting
    · simp [serveNode, serveOptions, hgateway, normalizeGatewayOptions]
    · simpa [serveNode, serveOptions, hgateway, normalizeGatewayOptions] using hguarded _ rfl
    · simpa [serveNode, serveOptions, hgateway, normalizeGatewayOptions] using hguarded _ rfl

theorem transport_guarded_iff (h : rejection options = none)
    (hd : options.distributed = some distributed) :
    (∀ listener ∈ (serveNode (serveOptions distributed node)).listener,
        Guarded distributed.unsafeExposure listener.host listener.auth.isSome) ↔
      ∀ transport, distributed.transport = some (.object transport) →
        listenHost transport.listen = some "" →
          distributed.unsafeExposure ∧ transport.auth.isSome := by
  obtain ⟨hexposure, -, hrequired⟩ := rejection_eq_none h
  rw [hd] at hexposure
  cases htransport : distributed.transport with
  | none => simp [serveNode, serveOptions, htransport, normalizeTransportOptions]
  | some setting =>
    have hguarded : ∀ transport, normalizeTransportOptions (some setting) = some transport →
        (Guarded distributed.unsafeExposure
            ((listenHost transport.listen).getD ((distributed.host.filter (· ≠ "")).getD "127.0.0.1"))
            transport.auth.isSome ↔
          (listenHost transport.listen = some "" →
            distributed.unsafeExposure ∧ transport.auth.isSome)) := by
      intro transport hnormalized
      refine guarded_iff (fun hoverride => ?_) fun hoverride hopen => ?_
      · have hloopback := (validateDistributedExposure_eq_none hexposure hoverride).2
        rw [htransport] at hloopback
        obtain ⟨_ | _⟩ | _ := setting <;> cases hnormalized <;> exact hloopback rfl
      · have hauth : ∀ t : TransportOptions P, transportRejection t = none → t.auth.isSome := by
          intro t ht
          cases hauth : t.auth <;> simp [transportRejection, hauth] at ht ⊢
        refine hauth transport ?_
        obtain ⟨_ | _⟩ | _ := setting <;> cases hnormalized
        · refine hrequired ⟨none, none⟩ ?_
          simp only [requiresNonLocalhostTransportHardening, hd, hoverride, htransport, Bool.not_true,
            Bool.false_eq_true, if_false]
          exact if_neg (Bool.eq_false_iff.mp hopen)
        · refine hrequired _ ?_
          simp only [requiresNonLocalhostTransportHardening, hd, hoverride, htransport, Bool.not_true,
            Bool.false_eq_true, if_false]
          exact if_neg (Bool.eq_false_iff.mp hopen)
    obtain ⟨_ | _⟩ | transport := setting
    · simp [serveNode, serveOptions, htransport, normalizeTransportOptions]
    · simpa [serveNode, serveOptions, htransport, normalizeTransportOptions, truthy, listenHost] using hguarded _ rfl
    · have hlisten : truthy transport.listen = false → listenHost transport.listen ≠ some "" := by
        obtain _ | ⟨_ | _⟩ | _ := transport.listen <;> simp [truthy, listenHost]
      cases hactive : truthy transport.listen with
      | false => simpa [serveNode, serveOptions, htransport, normalizeTransportOptions, hactive] using
          fun hempty => absurd hempty (hlisten hactive)
      | true => simpa [serveNode, serveOptions, htransport, normalizeTransportOptions, hactive] using hguarded _ rfl

/-- A distributed host that starts is exposed as its checks mean it to be exactly if no surface is
given an empty host of its own, or that surface has the override and all that hardens it. -/
theorem secured_iff_covered
    (h : createRuntimeHost fails topology options = .ok (.distributed node served)) :
    Secured options served ↔ Covered options := by
  obtain ⟨hrejection, distributed, hd, rfl⟩ := createRuntimeHost_distributed h
  simp only [Secured, Covered, hd, Option.mem_def, Option.some.injEq, forall_eq']
  exact and_congr (gateway_guarded_iff hrejection hd) (transport_guarded_iff hrejection hd)

end Started

section EmptyHost

def oneNode : Topology := ⟨["app"], fun key => key = "app"⟩

/-- A gateway whose host is the empty string, without the override. -/
def emptyHost : RuntimeHostOptions Unit :=
  ⟨none, none, some ⟨none, some (.object ⟨some "", none, none⟩), none, none⟩, none, none⟩

def exposed : ServedActorWebNode Unit := ⟨some ⟨"", none, none⟩, none⟩

theorem emptyHost_exposed :
    createRuntimeHost none oneNode emptyHost = .ok (.distributed "app" exposed) ∧
      ¬ Secured emptyHost exposed := by
  refine ⟨rfl, fun h => ?_⟩
  obtain ⟨hbound, -⟩ := (h _ rfl).1 _ rfl
  exact absurd hbound (by simp [IsLoopback, RuntimeHostDistributedOptions.unsafeExposure])

theorem emptyHost_iff : createRuntimeHost none oneNode emptyHost = .ok (.distributed "app" exposed) ∧
    (Secured emptyHost exposed ↔ Covered emptyHost) :=
  ⟨rfl, @secured_iff_covered _ none oneNode _ "app" _ rfl⟩

end EmptyHost

end ActorWeb.HostExposure
