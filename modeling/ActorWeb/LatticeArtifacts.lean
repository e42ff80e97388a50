import ActorWeb.Json
import ActorWeb.JsNumber
import ActorWeb.JsText
import Mathlib.Data.List.Sort

namespace ActorWeb.Lattice

open JsText Json

/-- What the language and its crypto module do with texts: `localeCompare`, and the SHA-256 digest
in hexadecimal digits. -/
structure Texts where
  localeCompare : String → String → Ordering
  sha256 : String → String

def sortBy {α : Type} (compare : α → α → Ordering) (values : List α) : List α :=
  values.insertionSort fun a b => (compare a b).isLE

theorem sortBy_perm {α : Type} (compare : α → α → Ordering) (values : List α) :
    (sortBy compare values).Perm values :=
  List.perm_insertionSort _ _

def charCodes (value : String) : List Nat :=
  value.toList.flatMap fun c =>
    if c.toNat < 65536 then [c.toNat]
    else [55296 + (c.toNat - 65536) / 1024, 56320 + (c.toNat - 65536) % 1024]

structure ArtifactRecord where
  (artifactId type : String)
  key : Option String
  version : Int
  payload : Json
  producer : String
  publishedAt : Int
  contentHash : String
  metadata : Option Json
deriving DecidableEq

/-- An artifact as it is published: what a record says about itself takes the place of what the
store would say. -/
structure ArtifactInput where
  artifactId : Option String
  type : String
  key : Option String
  version : Option Int
  payload : Json
  producer : String
  publishedAt : Int
  contentHash : Option String
  metadata : Option Json

structure ArtifactQuery where
  (typeFilter key : Option String)
  history : Bool

structure ArtifactMatcher where
  type : String
  key : Option String
  fields : Option (List (String × Json))
deriving DecidableEq

inductive DependencyMode
  | once | everyVersion
deriving DecidableEq

structure RegisteredDependency where
  id : Option String
  lattice : String
  requires : List ArtifactMatcher
  (dependencyId actorKey : String)
  mode : DependencyMode
deriving DecidableEq

structure DependencyInput where
  id : Option String
  lattice : String
  requires : List ArtifactMatcher
  dependencyId : Option String
  actorKey : String
  mode : Option DependencyMode

section Stable

variable (t : Texts)

mutual

def stableStringify : Json → String
  | .null => stringify 0 .null
  | .bool value => stringify 0 (.bool value)
  | .num value => stringify 0 (.num value)
  | .str value => stringify 0 (.str value)
  | .arr items => "[" ++ ",".intercalate (stableItems items) ++ "]"
  | .obj entries =>
    "\x7b" ++ ",".intercalate ((sortBy (fun a b => t.localeCompare a.1 b.1)
      (stableEntries entries)).map fun e => stringify 0 (.str e.1) ++ ":" ++ e.2) ++ "\x7d"

def stableItems : List Json → List String
  | [] => []
  | v :: vs => stableStringify v :: stableItems vs

def stableEntries : List (String × Json) → List (String × String)
  | [] => []
  | (k, v) :: es => (k, stableStringify v) :: stableEntries es

end

end Stable

section Artifacts

variable (t : Texts)

def artifactIdentity (type : String) (key : Option String) : String := type ++ ":" ++ key.getD ""

def ArtifactRecord.identity (artifact : ArtifactRecord) : String :=
  artifactIdentity artifact.type artifact.key

def createContentHash (payload : Json) (metadata : Option Json) : String :=
  "sha256:" ++ t.sha256
    (stableStringify t (.obj [("metadata", metadata.getD .null), ("payload", payload)]))

variable (artifacts : List ArtifactRecord)

def getLatestArtifacts : List ArtifactRecord :=
  sortBy (fun left right => t.localeCompare left.identity right.identity)
    (artifacts.foldl (fun latest artifact => latest.set artifact.identity artifact)
      OrderedMap.empty).values

def queryArtifacts (query : ArtifactQuery) :
    List ArtifactRecord :=
  (if query.history then artifacts else getLatestArtifacts t artifacts).filter fun artifact =>
    (match query.typeFilter with
      | some type => type = "" || artifact.type = type
      | none => true) &&
    match query.key with
    | some key => artifact.key = some key
    | none => true

def publishArtifact (artifact : ArtifactInput) :
    Option ArtifactRecord :=
  let identity := artifactIdentity artifact.type artifact.key
  let latest := artifacts.reverse.find? fun candidate => candidate.identity = identity
  let contentHash := artifact.contentHash.getD (createContentHash t artifact.payload artifact.metadata)
  if latest.any fun latest => latest.producer = artifact.producer && latest.contentHash = contentHash
  then none
  else
    let version := (latest.map ArtifactRecord.version).getD 0 + 1
    some
      { artifactId := artifact.artifactId.getD (identity ++ "@" ++ toString version)
        type := artifact.type
        key := artifact.key
        version := artifact.version.getD version
        payload := artifact.payload
        producer := artifact.producer
        publishedAt := artifact.publishedAt
        contentHash
        metadata := artifact.metadata }

end Artifacts

section Dependencies

variable (t : Texts)

def DependencyMode.text : DependencyMode → String
  | once => "once"
  | everyVersion => "everyVersion"

def ArtifactMatcher.toJson (matcher : ArtifactMatcher) : Json :=
  .obj ([("type", .str matcher.type)] ++ (matcher.key.map fun key => ("key", .str key)).toList ++
    (matcher.fields.map fun fields => ("fields", .obj fields)).toList)

def hashText (value : String) : String :=
  let hash := (charCodes value).foldl
    (fun (hash : UInt32) code => (hash ^^^ UInt32.ofNat code) * 16777619) 2166136261
  "d" ++ String.ofList (Nat.toDigits 16 hash.toNat)

def normalizeMatchers (matchers : List ArtifactMatcher) : List ArtifactMatcher :=
  sortBy (fun left right =>
    t.localeCompare (stableStringify t left.toJson) (stableStringify t right.toJson)) matchers

def deriveDependencyId (lattice actorKey : String) (requires : List ArtifactMatcher)
    (mode : DependencyMode) : String :=
  let stableKey := stableStringify t (.obj [("actorKey", .str actorKey), ("lattice", .str lattice),
    ("mode", .str mode.text),
    ("requires", .arr ((normalizeMatchers t requires).map ArtifactMatcher.toJson))])
  "dependency:" ++ lattice ++ ":" ++ actorKey ++ ":" ++ hashText stableKey

def createRegisteredDependency (dependency : DependencyInput) : RegisteredDependency where
  id := dependency.id
  lattice := dependency.lattice
  requires := dependency.requires
  dependencyId := dependency.dependencyId.getD (deriveDependencyId t dependency.lattice
    dependency.actorKey dependency.requires (dependency.mode.getD .once))
  actorKey := dependency.actorKey
  mode := dependency.mode.getD .once

def dependencyKey (dependency : RegisteredDependency) : String :=
  stableStringify t (.obj [("actorKey", .str dependency.actorKey),
    ("dependencyId", .str dependency.dependencyId), ("lattice", .str dependency.lattice),
    ("mode", .str dependency.mode.text),
    ("requires", .arr (dependency.requires.map ArtifactMatcher.toJson))])

/-- The stable text of a property of a payload, `none` for one without a text: it is missing, or
it is a function. The prototypes are objects without entries of their own. -/
def propertyText (payload : Json) (key : String) : Option String :=
  match payload with
  | .obj entries =>
    match entries.find? fun e => e.1 = key with
    | some e => some (stableStringify t e.2)
    | none => if key = "__proto__" then some "{}" else none
  | .arr items =>
    if key = "length" then some (toString items.length)
    else
      match items.zipIdx.find? fun e => toString e.2 = key with
      | some e => some (stableStringify t e.1)
      | none => if key = "__proto__" then some "[]" else none
  | _ => none

def matcherMatchesArtifact (artifact : ArtifactRecord) (matcher : ArtifactMatcher) : Bool :=
  artifact.type = matcher.type &&
  (match matcher.key with
    | some key => artifact.key = some key
    | none => true) &&
  match matcher.fields with
  | none => true
  | some fields =>
    match artifact.payload with
    | .obj _ | .arr _ =>
      fields.all fun e => propertyText t artifact.payload e.1 = some (stableStringify t e.2)
    | _ => false

def compareArtifacts (left right : ArtifactRecord) : Ordering :=
  if left.publishedAt ≠ right.publishedAt then compare right.publishedAt left.publishedAt
  else if left.version ≠ right.version then compare right.version left.version
  else t.localeCompare left.identity right.identity

def selectLatestMatchingArtifact (artifacts : List ArtifactRecord) (matcher : ArtifactMatcher) :
    Option ArtifactRecord :=
  (sortBy (compareArtifacts t)
    (artifacts.filter fun artifact => matcherMatchesArtifact t artifact matcher)).head?

structure DependencySatisfaction where
  artifacts : List ArtifactRecord
  satisfactionKey : String
deriving DecidableEq

def evaluateDependencySatisfaction (artifacts : List ArtifactRecord)
    (dependency : RegisteredDependency) : Option DependencySatisfaction :=
  let matchedArtifacts := dependency.requires.filterMap (selectLatestMatchingArtifact t artifacts)
  if matchedArtifacts.length ≠ dependency.requires.length then none
  else
    some
      { artifacts := matchedArtifacts
        satisfactionKey := "|".intercalate (sortBy t.localeCompare
          (matchedArtifacts.map fun artifact =>
            artifact.identity ++ "@" ++ toString artifact.version)) }

end Dependencies

end ActorWeb.Lattice
