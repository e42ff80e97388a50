import Mathlib.Data.List.Infix
import Mathlib.Data.List.TakeWhile

namespace ActorWeb

open Option List

abbrev ActorAddress := List Char

namespace ActorAddress

instance decidableMem (a : ActorAddress) (l : List ActorAddress) : Decidable (a ∈ l) :=
  List.instDecidableMemOfLawfulBEq a l

inductive Kind
  | actor
  | callback
deriving DecidableEq

def callbackSegment : List Char := "callback/".toList

def Kind.path (kind : Kind) (id : List Char) : List Char :=
  match kind with
  | .callback => callbackSegment ++ id
  | .actor => id

structure Parts where
  id : List Char
  kind : Kind
  node : List Char
deriving DecidableEq

def scheme : List Char := "actor://".toList

def localNode : List Char := "local".toList

def guardianId : List Char := "guardian".toList

def guardianAddress : ActorAddress := "actor://local/guardian".toList

def isLineTerminator (c : Char) : Bool :=
  c = '\n' || c = '\r' || c = '\u2028' || c = '\u2029'

def isCaptured (s : List Char) : Bool := !s.isEmpty && s.all fun c => !isLineTerminator c

def splitNode (s : List Char) : Option (List Char × List Char) :=
  match s.takeWhile (· ≠ '/'), s.dropWhile (· ≠ '/') with
  | [], _ => none
  | _, [] => none
  | c :: node, _ :: path => some (c :: node, path)

def parseSegments (node path : List Char) : Option Parts :=
  if callbackSegment.isPrefixOf path && isCaptured (path.drop callbackSegment.length) then
    some ⟨path.drop callbackSegment.length, .callback, node⟩
  else if isCaptured path then some ⟨path, .actor, node⟩
  else none

def parse (address : ActorAddress) : Option Parts :=
  if scheme.isPrefixOf address then
    (splitNode (address.drop scheme.length)).bind fun s => parseSegments s.1 s.2
  else none

def reservesCallback (id : List Char) : Bool :=
  callbackSegment.isPrefixOf id || id.tails.any fun t => ('/' :: callbackSegment).isPrefixOf t

def invalidNode (node : List Char) : Bool := node.isEmpty || node.contains '/'

def mint (id : List Char) (node : Option (List Char)) (kind : Kind) :
    Except (List Char) ActorAddress :=
  if id.isEmpty then .error "Actor ID must be a non-empty string".toList
  else if node.any invalidNode then
    .error ("Actor node must be a single non-empty path segment without \"/\": ".toList ++
      node.getD [])
  else if kind = .actor ∧ reservesCallback id then
    .error ("Actor id must not contain the reserved \"callback/\" segment: ".toList ++ id)
  else if kind = .actor ∧ id = guardianId then
    .error "Actor id \"guardian\" is reserved for the system root supervisor".toList
  else .ok (scheme ++ node.getD localNode ++ '/' :: kind.path id)

def createActorAddress (id node : List Char) : Except (List Char) ActorAddress :=
  mint id (some node) .actor

def parseActorPath (path : List Char) : Except (List Char) ActorAddress :=
  match parse path with
  | none => .error ("Invalid actor path: ".toList ++ path)
  | some p =>
    if p.kind = .actor ∧ p.id = guardianId then
      if p.node = localNode then .ok guardianAddress
      else .error ("Invalid guardian actor path: ".toList ++ path)
    else mint p.id (some p.node) p.kind

def isLocalAddress (address : ActorAddress) : Option Bool :=
  (parse address).map fun p => p.node = localNode

def getAddressNode (address : ActorAddress) : Option (List Char) :=
  (parse address).map Parts.node

variable {node path : List Char}

theorem takeWhile_node (h : '/' ∉ node) : (node ++ '/' :: path).takeWhile (· ≠ '/') = node := by
  rw [takeWhile_append_of_pos fun c hc => by
    simpa using fun he : c = '/' => h (he ▸ hc)]
  simp

theorem dropWhile_node (h : '/' ∉ node) :
    (node ++ '/' :: path).dropWhile (· ≠ '/') = '/' :: path := by
  rw [dropWhile_append_of_pos fun c hc => by
    simpa using fun he : c = '/' => h (he ▸ hc)]
  simp

theorem splitNode_eq_some_iff {s node path : List Char} :
    splitNode s = some (node, path) ↔ invalidNode node = false ∧ s = node ++ '/' :: path := by
  constructor
  · intro h
    unfold splitNode at h
    split at h
    case h_1 => cases h
    case h_2 => cases h
    case h_3 c node' d path' htake hdrop =>
      obtain ⟨rfl, rfl⟩ := Prod.mk.inj (some.inj h)
      have hs : s = (c :: node') ++ d :: path' := by
        rw [← htake, ← hdrop, takeWhile_append_dropWhile]
      have hd : d = '/' := by
        have := head?_dropWhile_not (fun x => decide (x ≠ '/')) s
        rw [hdrop] at this
        simpa using this
      have hnode : '/' ∉ c :: node' := by
        intro hm
        rw [← htake] at hm
        simpa using mem_takeWhile_imp hm
      exact ⟨by simpa [invalidNode] using hnode, hd ▸ hs⟩
  · rintro ⟨hnode, rfl⟩
    simp only [invalidNode, Bool.or_eq_false_iff, isEmpty_eq_false_iff,
      contains_eq_mem, decide_eq_false_iff_not] at hnode
    obtain ⟨c, node', rfl⟩ := exists_cons_of_ne_nil hnode.1
    rw [splitNode, takeWhile_node hnode.2, dropWhile_node hnode.2]

variable {address : ActorAddress}

theorem parse_eq_some_iff {p : Parts} :
    parse address = some p ↔ ∃ path, invalidNode p.node = false ∧
      address = scheme ++ p.node ++ '/' :: path ∧ parseSegments p.node path = some p := by
  have hnode : ∀ node path, parseSegments node path = some p → p.node = node := by
    intro node path h
    unfold parseSegments at h
    split at h
    · exact (some.inj h) ▸ rfl
    · split at h
      · exact (some.inj h) ▸ rfl
      · cases h
  constructor
  · intro h
    unfold parse at h
    split at h
    case isFalse => cases h
    case isTrue hscheme =>
      obtain ⟨⟨node, path⟩, hsplit, hseg⟩ := bind_eq_some_iff.mp h
      obtain ⟨hvalid, hrest⟩ := splitNode_eq_some_iff.mp hsplit
      obtain ⟨rest, rfl⟩ := isPrefixOf_iff_prefix.mp hscheme
      rw [drop_left] at hrest
      obtain rfl := hnode node path hseg
      exact ⟨path, hvalid, by rw [hrest, append_assoc], hseg⟩
  · rintro ⟨path, hvalid, rfl, hseg⟩
    have hsplit : splitNode (p.node ++ '/' :: path) = some (p.node, path) :=
      splitNode_eq_some_iff.mpr ⟨hvalid, rfl⟩
    rw [parse, if_pos ( isPrefixOf_iff_prefix.mpr ⟨p.node ++ '/' :: path, by simp⟩),
      append_assoc, drop_left, hsplit, bind_some, hseg]

theorem parseSegments_eq_some {p : Parts} (h : parseSegments node path = some p) :
    p.node = node ∧ path = p.kind.path p.id := by
  unfold parseSegments at h
  split at h
  case isTrue hcb =>
    cases h
    obtain ⟨id, rfl⟩ := isPrefixOf_iff_prefix.mp (Bool.and_eq_true_iff.mp hcb).1
    exact ⟨rfl, by simp only [Kind.path, drop_left]⟩
  case isFalse =>
    split at h
    case isTrue =>
      cases h
      exact ⟨rfl, rfl⟩
    case isFalse => cases h

theorem mint_eq_ok {id : List Char} {node : Option (List Char)} {kind : Kind}
    (h : mint id node kind = .ok address) : node.any invalidNode = false ∧
      address = scheme ++ node.getD localNode ++ '/' :: kind.path id := by
  unfold mint at h
  split at h
  case isTrue => cases h
  case isFalse =>
    split at h
    case isTrue => cases h
    case isFalse hnode =>
      split at h
      case isTrue => cases h
      case isFalse =>
        split at h
        case isTrue => cases h
        case isFalse => exact ⟨by simpa using hnode, (Except.ok.inj h).symm⟩

theorem parse_node_of_mint {id node : List Char} {kind : Kind} {p : Parts}
    (hm : mint id (some node) kind = .ok address) (hp : parse address = some p) :
    p.node = node := by
  obtain ⟨path, hvalid, haddress, -⟩ := parse_eq_some_iff.mp hp
  obtain ⟨hnode, hminted⟩ := mint_eq_ok hm
  rw [haddress, getD_some, append_assoc, append_assoc] at hminted
  have hparts : splitNode (p.node ++ '/' :: path) = splitNode (node ++ '/' :: kind.path id) :=
    congrArg splitNode (append_cancel_left hminted)
  rw [splitNode_eq_some_iff.mpr ⟨hvalid, rfl⟩,
    splitNode_eq_some_iff.mpr ⟨by simpa using hnode, rfl⟩] at hparts
  exact (Prod.mk.inj (some.inj hparts)).1

theorem parseActorPath_eq_ok {path : List Char}
    (h : parseActorPath path = .ok address) : address = path := by
  unfold parseActorPath at h
  split at h
  case h_1 => cases h
  case h_2 p hp =>
    obtain ⟨rest, -, hpath, hseg⟩ := parse_eq_some_iff.mp hp
    obtain ⟨-, hrest⟩ := parseSegments_eq_some hseg
    split at h
    case isTrue hg =>
      split at h
      case isFalse => cases h
      case isTrue hlocal =>
        rw [hg.1] at hrest
        cases h
        rw [hpath, hlocal, hrest, hg.2]
        rfl
    case isFalse => rw [(mint_eq_ok h).2, hpath, hrest, getD_some]

end ActorAddress

end ActorWeb
