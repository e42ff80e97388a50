import ActorWeb.JsNumber
import ActorWeb.Transition

namespace ActorWeb

def JsNumber.truthy : JsNumber → Bool
  | finite q => q ≠ 0
  | infinite _ => true
  | nan => false

namespace CapabilitySecurity

section Proxy

structure Metadata where
  grantedBy : String
  grantedAt : Int
  expiresAt : Option JsNumber

structure Capability where
  (id actorId : String)
  permissions : List String
  metadata : Metadata
  isRevoked : Bool

inductive SecurityError
  | notValid (id : String)
  | permissionDenied (methodName id : String)
  | notFound (id : String)
deriving DecidableEq

structure Question where
  (type method capabilityId : String)

variable (c : Capability)

def matchesPattern (grantedPermission permission : String) : Bool :=
  grantedPermission.toList.getLast? = some '*' &&
    grantedPermission.toList.dropLast.isPrefixOf permission.toList

def Capability.can (permission : String) : Bool :=
  !c.isRevoked && (c.permissions.contains permission || c.permissions.contains "*" ||
    c.permissions.any fun granted => matchesPattern granted permission)

def Capability.isValid (now : Int) : Bool :=
  !c.isRevoked && !c.metadata.expiresAt.any fun e => e.truthy && JsNumber.lt e (.finite now)

def Capability.invoke (now : Int) (method : String) : Except SecurityError Question :=
  if !c.isValid now then .error (.notValid c.id)
  else if !c.can method then .error (.permissionDenied method c.id)
  else .ok { type := "CAPABILITY_INVOKE", method, capabilityId := c.id }

def Capability.revoke : Capability := { c with isRevoked := true }

def Capability.passed (now : Int) : Bool :=
  c.metadata.expiresAt.any fun e => JsNumber.lt e (.finite now)

end Proxy

section Tracking

abbrev Tracking := OrderedMap String (List String)

variable (m : Tracking)

def Tracking.ids (actorId : String) : List String := (m.get actorId).getD []

def Tracking.add (actorId id : String) : Tracking :=
  m.set actorId (if id ∈ m.ids actorId then m.ids actorId else m.ids actorId ++ [id])

/-- The id leaves the first set that has it, and a set that is empty then leaves the map. -/
def Tracking.remove (id : String) : Tracking :=
  match m.entries.find? fun e => id ∈ e.2 with
  | none => m
  | some (actorId, ids) =>
    if (ids.filter (· ≠ id)).isEmpty then m.delete actorId
    else m.set actorId (ids.filter (· ≠ id))

end Tracking

section Registry

structure GrantRequest where
  actorId : String
  permissions : List String
  grantedBy : String
  expiresAt : Option JsNumber

/-- A cleanup between two awaits: what was invalid when it started, and the ids it has yet to
revoke. -/
structure Cleanup where
  (invalid expiredCapabilities : List String)

/-- A registry with the clock and every capability it ever granted, by id; `capabilities` are the
ids that are registered. Besides, what was ever revoked, and how the cleanups ended. -/
structure Registry where
  now : Int
  granted : OrderedMap String Capability
  capabilities : List String
  actorCapabilities : Tracking
  cleanups : OrderedMap Nat Cleanup
  revocations : List String
  finished : List (List String)
  rejected : List SecurityError

def Registry.new (now : Int) : Registry where
  now
  granted := OrderedMap.empty
  capabilities := []
  actorCapabilities := OrderedMap.empty
  cleanups := OrderedMap.empty
  revocations := []
  finished := []
  rejected := []

variable (s : Registry)

variable (id : String)

def Registry.lookup : Option Capability :=
  if id ∈ s.capabilities then s.granted.get id else none

def Registry.grant (request : GrantRequest) (id : String) : Registry :=
  { s with
    granted := s.granted.set id
      { id, actorId := request.actorId, permissions := request.permissions
        metadata :=
          { grantedBy := request.grantedBy, grantedAt := s.now, expiresAt := request.expiresAt }
        isRevoked := false }
    capabilities := s.capabilities ++ [id]
    actorCapabilities := s.actorCapabilities.add request.actorId id }

def Registry.revokeCapability : Registry :=
  match s.granted.get id with
  | none => s
  | some c => { s with granted := s.granted.set id c.revoke, revocations := s.revocations ++ [id] }

def Registry.revoke : Except SecurityError Registry :=
  match s.lookup id with
  | none => .error (.notFound id)
  | some _ =>
    .ok { s.revokeCapability id with
      capabilities := s.capabilities.filter (· ≠ id)
      actorCapabilities := s.actorCapabilities.remove id }

def Registry.isValid : Bool := (s.lookup id).any fun c => c.isValid s.now

def Registry.getCapabilities (actorId : String) : List String :=
  (s.actorCapabilities.ids actorId).filter s.isValid

def Registry.validate : Bool := s.isValid id

def Registry.dead : Bool :=
  s.revocations.contains id || (s.granted.get id).any fun c => c.passed s.now

/-- One iteration of the loop of a cleanup, up to its await, or the end of the cleanup. -/
def Registry.advance (k : Nat) (c : Cleanup) : Registry :=
  match c.expiredCapabilities with
  | [] => { s with cleanups := s.cleanups.delete k, finished := s.finished ++ [c.invalid] }
  | id :: rest =>
    match s.revoke id with
    | .ok t => { t with cleanups := t.cleanups.set k { c with expiredCapabilities := rest } }
    | .error e => { s with cleanups := s.cleanups.delete k, rejected := s.rejected ++ [e] }

def Registry.cleanup (k : Nat) : Registry :=
  s.advance k
    { invalid := s.capabilities.filter s.dead
      expiredCapabilities := s.capabilities.filter fun id => !s.isValid id }

end Registry

section Runs

inductive Action
  | tick (ms : Nat)
  | grant (request : GrantRequest) (id : String)
  | revoke (id : String)
  | revokeCapability (id : String)
  | cleanup (k : Nat)
  | resume (k : Nat)

def Registry.step (s : Registry) : Action → Option Registry
  | .tick ms => some { s with now := s.now + ms }
  | .grant request id => if (s.granted.get id).isSome then none else some (s.grant request id)
  | .revoke id =>
    match s.revoke id with
    | .ok t => some t
    | .error _ => some s
  | .revokeCapability id => some (s.revokeCapability id)
  | .cleanup k => if (s.cleanups.get k).isSome then none else some (s.cleanup k)
  | .resume k => (s.cleanups.get k).map fun c => s.advance k c

end Runs

end CapabilitySecurity

end ActorWeb
