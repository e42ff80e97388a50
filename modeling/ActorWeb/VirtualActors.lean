import ActorWeb.JsNumber
import ActorWeb.Transition

namespace ActorWeb.VirtualActors

section Directory

structure VirtualActorId where
  (type id : String)
  partition : Option String
deriving DecidableEq

structure VirtualActorEntry where
  virtualId : VirtualActorId
  physicalRef : Nat
  node : String
  lastAccessed : Int
  activationCount : Nat
  isActive : Bool

structure LRUCache (V : Type) where
  capacity : JsNumber
  cache : OrderedMap String V
  accessOrder : List String

variable {V : Type}

variable (l : LRUCache V)

variable (key : String)

def LRUCache.touch : LRUCache V :=
  { l with accessOrder := l.accessOrder.filter (· ≠ key) ++ [key] }

def LRUCache.get : Option V × LRUCache V :=
  match l.cache.get key with
  | some value => (some value, l.touch key)
  | none => (none, l)

def LRUCache.victim : Option String :=
  if JsNumber.le l.capacity (.finite l.cache.size) then l.accessOrder.head? else none

def LRUCache.evict : LRUCache V :=
  match l.victim with
  | none => l
  | some lru =>
    { l with
      cache := if lru = "" then l.cache else l.cache.delete lru
      accessOrder := l.accessOrder.tail }

def LRUCache.set (value : V) : LRUCache V :=
  if l.cache.has key then { l.touch key with cache := l.cache.set key value }
  else
    { l.evict with
      cache := l.evict.cache.set key value, accessOrder := l.evict.accessOrder ++ [key] }

def LRUCache.delete : LRUCache V :=
  if l.cache.has key then
    { l with cache := l.cache.delete key, accessOrder := l.accessOrder.filter (· ≠ key) }
  else l

abbrev ActorDirectory := LRUCache VirtualActorEntry

def getKey (v : VirtualActorId) : String :=
  v.type ++ ":" ++ v.id ++
    match v.partition with
    | some p => if p = "" then "" else ":" ++ p
    | none => ""

namespace ActorDirectory

variable (d : ActorDirectory)

def get (now : Int) (v : VirtualActorId) : Option VirtualActorEntry × ActorDirectory :=
  match LRUCache.get d (getKey v) with
  | (some entry, d) =>
    let updatedEntry := { entry with
      lastAccessed := now, activationCount := entry.activationCount + 1 }
    (some updatedEntry, LRUCache.set d (getKey v) updatedEntry)
  | (none, d) => (none, d)

def set (entry : VirtualActorEntry) : ActorDirectory :=
  LRUCache.set (LRUCache.get d (getKey entry.virtualId)).2 (getKey entry.virtualId) entry

def delete (v : VirtualActorId) : ActorDirectory := LRUCache.delete d (getKey v)

def getByNode (nodeId : String) : List VirtualActorEntry :=
  d.cache.values.filter fun e => e.node = nodeId

/-- `now - entry.lastAccessed > maxIdleTime` -/
def idle (maxIdleTime : JsNumber) (now : Int) (e : VirtualActorEntry) : Bool :=
  JsNumber.lt maxIdleTime (.finite (now - e.lastAccessed : Int))

def cleanup (maxIdleTime : JsNumber) (now : Int) : ActorDirectory :=
  (d.cache.values.filter (idle maxIdleTime now)).foldl (fun d e => delete d e.virtualId) d

end ActorDirectory

end Directory

section System

structure Physical where
  virtualId : VirtualActorId
  stopped : Bool
deriving DecidableEq

/-- A system with its clock, the physical actors it created, the deactivations that wait for the
stop of an actor to end, and what `getActor` returned. -/
structure System where
  now : Int
  maxIdleTime : JsNumber
  directory : ActorDirectory
  (machines availableNodes : List String)
  physical : OrderedMap Nat Physical
  nextRef : Nat
  (stopping returned : List (VirtualActorId × Nat))

def System.new (now : Int) (nodeId : String) (cacheSize maxIdleTime : JsNumber) : System where
  now
  maxIdleTime
  directory := { capacity := cacheSize, cache := OrderedMap.empty, accessOrder := [] }
  machines := []
  availableNodes := [nodeId]
  physical := OrderedMap.empty
  nextRef := 0
  stopping := []
  returned := []

variable (s : System)

variable (v : VirtualActorId)

/-- Creates the physical actor on the node that the placement strategy selected, which is `none`
when it threw. -/
def System.activateActor (selectedNode : Option String) : System :=
  if v.type ∈ s.machines then
    match selectedNode with
    | none => s
    | some node =>
      { s with
        physical := s.physical.set s.nextRef { virtualId := v, stopped := false }
        nextRef := s.nextRef + 1
        directory := s.directory.set
          { virtualId := v, physicalRef := s.nextRef, node, lastAccessed := s.now
            activationCount := 1, isActive := true }
        returned := s.returned ++ [(v, s.nextRef)] }
  else s

def System.getActor (selectedNode : Option String) : System :=
  match s.directory.get s.now v with
  | (some entry, directory) =>
    if entry.isActive then
      { s with directory, returned := s.returned ++ [(v, entry.physicalRef)] }
    else { s with directory }.activateActor v selectedNode
  | (none, directory) => { s with directory }.activateActor v selectedNode

def System.stopPhysical (r : Nat) : System :=
  match s.physical.get r with
  | some p => { s with physical := s.physical.set r { p with stopped := true } }
  | none => s

/-- `deactivateActor` up to its await. -/
def System.deactivateActor : System :=
  match s.directory.get s.now v with
  | (some entry, directory) =>
    { { s with directory }.stopPhysical entry.physicalRef with
      stopping := s.stopping ++ [(v, entry.physicalRef)] }
  | (none, directory) => { s with directory }

def System.addNode (nodeId : String) : System :=
  if nodeId ∈ s.availableNodes then s
  else { s with availableNodes := s.availableNodes ++ [nodeId] }

def System.migrateActor (entry : VirtualActorEntry) (targetNode : String) : System :=
  { s with directory := s.directory.set { entry with node := targetNode, lastAccessed := s.now } }

def System.moveActor (entry : VirtualActorEntry) : System :=
  match s.availableNodes with
  | target :: _ => s.migrateActor entry target
  | [] => s.deactivateActor entry.virtualId

def System.removeNode (nodeId : String) : System :=
  (s.directory.getByNode nodeId).foldl System.moveActor
    { s with availableNodes := s.availableNodes.filter (· ≠ nodeId) }

end System

section Runs

inductive Action
  | tick (ms : Nat)
  | registerActorType (actorType : String)
  | getActor (v : VirtualActorId) (selectedNode : Option String)
  | deactivateActor (v : VirtualActorId)
  | stopEnded (i : Nat)
  | addNode (nodeId : String)
  | removeNode (nodeId : String)
  | cleanup

def System.step (s : System) : Action → Option System
  | .tick ms => some { s with now := s.now + ms }
  | .registerActorType actorType => some { s with machines := s.machines ++ [actorType] }
  | .getActor v selectedNode => some (s.getActor v selectedNode)
  | .deactivateActor v => some (s.deactivateActor v)
  | .stopEnded i =>
    s.stopping[i]?.map fun e =>
      { s with directory := s.directory.delete e.1, stopping := s.stopping.eraseIdx i }
  | .addNode nodeId => some (s.addNode nodeId)
  | .removeNode nodeId => some (s.removeNode nodeId)
  | .cleanup => some { s with directory := s.directory.cleanup s.maxIdleTime s.now }

end Runs

end ActorWeb.VirtualActors
