import ActorWeb.ActorAddress

namespace ActorWeb.ActorAddress

open List

variable {id id' node path : List Char} {kind kind' : Kind} {address : ActorAddress} {c : Char}
  {s : List Char}

def includesCallback (address : List Char) : Bool :=
  address.tails.any fun t => ('/' :: callbackSegment).isPrefixOf t

def callbackName : List Char := "callback".toList

theorem includesCallback_cons (c : Char) (s : List Char) : includesCallback (c :: s) =
      (('/' :: callbackSegment).isPrefixOf (c :: s) || includesCallback s) := by
  rw [includesCallback, tails_cons, any_cons]
  rfl

theorem includesCallback_append (h : '/' ∉ node) (s : List Char) :
    includesCallback (node ++ s) = includesCallback s := by
  induction node with
  | nil => rfl
  | cons c node ih =>
    obtain ⟨hc, hnode⟩ := not_or.mp (mt mem_cons.mpr h)
    have hprefix : ('/' :: callbackSegment).isPrefixOf (c :: (node ++ s)) = false := by
      rw [isPrefixOf_cons_cons, beq_false_of_ne hc, Bool.false_and]
    rw [cons_append, includesCallback_cons, hprefix, Bool.false_or, ih hnode]

theorem includesCallback_path (path : List Char) :
    includesCallback ('/' :: path) = reservesCallback path := by
  rw [includesCallback_cons, isPrefixOf_cons_cons, beq_self_eq_true, Bool.true_and]
  rfl

theorem callbackSegment_isPrefixOf_node (h : '/' ∉ node) (path : List Char) :
    callbackSegment.isPrefixOf (node ++ '/' :: path) = decide (node = callbackName) := by
  have hsegment : callbackSegment = callbackName ++ ['/'] := rfl
  rw [Bool.eq_iff_iff, isPrefixOf_iff_prefix, decide_eq_true_iff]
  constructor
  · rintro ⟨rest, hrest⟩
    rw [hsegment, append_assoc, singleton_append] at hrest
    have htake := congrArg (List.takeWhile (· ≠ '/')) hrest
    rw [takeWhile_node h, takeWhile_node (by decide)] at htake
    exact htake.symm
  · rintro rfl
    exact ⟨path, by rw [hsegment, append_assoc, singleton_append]⟩

theorem includesCallback_address (hnode : invalidNode node = false) (path : List Char) :
    includesCallback (scheme ++ node ++ '/' :: path) =
      (decide (node = callbackName) || reservesCallback path) := by
  simp only [invalidNode, Bool.or_eq_false_iff, contains_eq_mem,
    decide_eq_false_iff_not] at hnode
  have hscheme : scheme = "actor:".toList ++ ['/', '/'] := rfl
  have hslashes : ('/' :: callbackSegment).isPrefixOf ('/' :: '/' :: (node ++ '/' :: path)) =
      false := rfl
  rw [hscheme, append_assoc, append_assoc, includesCallback_append (by decide)]
  change includesCallback ('/' :: '/' :: (node ++ '/' :: path)) = _
  rw [includesCallback_cons, hslashes, Bool.false_or, includesCallback_cons,
    isPrefixOf_cons_cons, beq_self_eq_true, Bool.true_and,
    callbackSegment_isPrefixOf_node hnode.2, includesCallback_append hnode.2,
    includesCallback_path]

structure Accepted (id : List Char) (node : Option (List Char)) (kind : Kind)
    (address : ActorAddress) : Prop where
  id_ne : id ≠ []
  node_valid : invalidNode (node.getD localNode) = false
  unreserved : kind = .actor → reservesCallback id = false
  address_eq : address = scheme ++ node.getD localNode ++ '/' :: kind.path id

theorem accepted_of_mint {node : Option (List Char)} (h : mint id node kind = .ok address) :
    Accepted id node kind address := by
  obtain ⟨hnode, haddress⟩ := mint_eq_ok h
  have hid : id ≠ [] := by
    rintro rfl
    cases h
  refine ⟨hid, ?_, fun hkind => ?_, haddress⟩
  · cases node with
    | none => rfl
    | some node => exact hnode
  · by_contra hreserves
    rw [Bool.not_eq_false] at hreserves
    rw [mint, if_neg (by simpa using hid), if_neg (by simp [hnode]), if_pos ⟨hkind, hreserves⟩] at h
    cases h

theorem path_isCaptured (kind : Kind) (id : List Char) (h : id ≠ []) :
    isCaptured (kind.path id) = isCaptured id := by
  cases kind with
  | actor => rfl
  | callback =>
    have hsegment : callbackSegment.all (fun c => !isLineTerminator c) = true := by decide
    obtain ⟨c, id, rfl⟩ := exists_cons_of_ne_nil h
    simp only [isCaptured, Kind.path, all_append, hsegment, Bool.true_and]
    rfl

theorem Accepted.parse_eq {node : Option (List Char)} (h : Accepted id node kind address) :
    parse address = if isCaptured id then some ⟨id, kind, node.getD localNode⟩ else none := by
  obtain ⟨hid, hnode, hunreserved, rfl⟩ := h
  have hscheme : scheme.isPrefixOf (scheme ++ node.getD localNode ++ '/' :: kind.path id) := by
    rw [append_assoc]
    exact isPrefixOf_iff_prefix.mpr (prefix_append _ _)
  have hsplit : splitNode (node.getD localNode ++ '/' :: kind.path id) =
      some (node.getD localNode, kind.path id) := splitNode_eq_some_iff.mpr ⟨hnode, rfl⟩
  rw [parse, if_pos hscheme, append_assoc, drop_left, hsplit, Option.bind_some]
  have hcaptured := path_isCaptured kind id hid
  cases kind with
  | actor =>
    have hprefix : callbackSegment.isPrefixOf id = false :=
      (Bool.or_eq_false_iff.mp (hunreserved rfl)).1
    simp only [parseSegments, Kind.path, hprefix, Bool.false_and, Bool.false_eq_true, if_false]
    rfl
  | callback =>
    have hprefix : callbackSegment.isPrefixOf (callbackSegment ++ id) :=
      isPrefixOf_iff_prefix.mpr (prefix_append _ _)
    simp only [Kind.path] at hcaptured
    simp only [parseSegments, Kind.path, hprefix, drop_left, Bool.true_and, hcaptured]
    split <;> rfl

theorem Accepted.includes_eq {node : Option (List Char)} (h : Accepted id node kind address) :
    includesCallback address =
      (decide (node.getD localNode = callbackName) || decide (kind = .callback)) := by
  obtain ⟨-, hnode, hunreserved, rfl⟩ := h
  rw [includesCallback_address hnode]
  congr 1
  cases kind with
  | actor => exact hunreserved rfl
  | callback =>
    have hprefix : callbackSegment.isPrefixOf (callbackSegment ++ id) :=
      isPrefixOf_iff_prefix.mpr (prefix_append _ _)
    rw [reservesCallback, Kind.path, hprefix]
    rfl

theorem Accepted.injective {node node' : Option (List Char)} (h : Accepted id node kind address)
    (h' : Accepted id' node' kind' address) :
    id = id' ∧ kind = kind' ∧ node.getD localNode = node'.getD localNode := by
  have hsame := h.address_eq.symm.trans h'.address_eq
  rw [append_assoc, append_assoc] at hsame
  have hsplit := congrArg splitNode (append_cancel_left hsame)
  rw [splitNode_eq_some_iff.mpr ⟨h.node_valid, rfl⟩,
    splitNode_eq_some_iff.mpr ⟨h'.node_valid, rfl⟩] at hsplit
  obtain ⟨hnode, hpath⟩ := Prod.mk.inj (Option.some.inj hsplit)
  have hreserved : ∀ {id id' : List Char}, reservesCallback id = false →
      id ≠ callbackSegment ++ id' := by
    rintro id id' hfree rfl
    have hprefix : callbackSegment.isPrefixOf (callbackSegment ++ id') :=
      isPrefixOf_iff_prefix.mpr (prefix_append _ _)
    rw [reservesCallback, hprefix] at hfree
    cases hfree
  cases kind with
  | actor =>
    cases kind' with
    | actor => exact ⟨hpath, rfl, hnode⟩
    | callback => exact absurd hpath (hreserved (h.unreserved rfl))
  | callback =>
    cases kind' with
    | actor => exact absurd hpath.symm (hreserved (h'.unreserved rfl))
    | callback => exact ⟨append_cancel_left hpath, rfl, hnode⟩

/-- The address parses back to its parts, and the fast path of message delivery finds
the kind that `parse` finds. -/
structure RoundTrips (id : List Char) (node : Option (List Char)) (kind : Kind)
    (address : ActorAddress) : Prop where
  parts : parse address = some ⟨id, kind, node.getD localNode⟩
  fastPath : (parse address).map Parts.kind =
    some (if includesCallback address then .callback else .actor)

/-- Addresses determine their parts. They parse back, and the fast path agrees, exactly
if the id has no line terminator and no actor lives on a node named like the segment. -/
theorem address_codec (id : List Char) (node : Option (List Char)) (kind : Kind)
    (address : ActorAddress) (h : mint id node kind = .ok address) :
    (RoundTrips id node kind address ↔
      (∀ c ∈ id, isLineTerminator c = false) ∧ ¬(kind = .actor ∧ node = some callbackName)) ∧
    ∀ id' node' kind', mint id' node' kind' = .ok address →
      id' = id ∧ kind' = kind ∧ node'.getD localNode = node.getD localNode := by
  have hacc := accepted_of_mint h
  have hcaptured : isCaptured id = true ↔ ∀ c ∈ id, isLineTerminator c = false := by
    simp only [isCaptured, Bool.and_eq_true, all_eq_true, Bool.not_eq_true',
      isEmpty_eq_false_iff, hacc.id_ne, ne_eq, not_false_eq_true, true_and]
  have hname : node.getD localNode = callbackName ↔ node = some callbackName := by
    cases node with
    | none => exact iff_of_false (by decide) nofun
    | some node => exact ⟨congrArg some, Option.some.inj⟩
  refine ⟨⟨fun hround => ?_, fun ⟨hid, hnode⟩ => ?_⟩, fun id' node' kind' h' => ?_⟩
  · obtain ⟨hparts, hfast⟩ := hround
    have hid : isCaptured id = true := by
      by_contra hid
      rw [hacc.parse_eq, if_neg hid] at hparts
      cases hparts
    refine ⟨hcaptured.mp hid, ?_⟩
    rintro ⟨rfl, hnode⟩
    rw [hparts, hacc.includes_eq, decide_eq_true (hname.mpr hnode)] at hfast
    cases hfast
  · have hparts : parse address = some ⟨id, kind, node.getD localNode⟩ := by
      rw [hacc.parse_eq, if_pos (hcaptured.mpr hid)]
    refine ⟨hparts, ?_⟩
    rw [hparts, hacc.includes_eq]
    cases kind with
    | actor =>
      have hne : node.getD localNode ≠ callbackName := fun he => hnode ⟨rfl, hname.mp he⟩
      rw [decide_eq_false hne]
      rfl
    | callback =>
      rw [decide_eq_true rfl, Bool.or_true]
      rfl
  · exact (accepted_of_mint h').injective hacc

theorem address_codec_callback :
    (RoundTrips "call-1".toList (some "node-1".toList) .callback
      "actor://node-1/callback/call-1".toList ↔
        (∀ c ∈ "call-1".toList, isLineTerminator c = false) ∧
          ¬(Kind.callback = .actor ∧ some "node-1".toList = some callbackName)) ∧
      ∀ id' node' kind', mint id' node' kind' = .ok "actor://node-1/callback/call-1".toList →
        id' = "call-1".toList ∧ kind' = .callback ∧ node'.getD localNode = "node-1".toList :=
  address_codec "call-1".toList (some "node-1".toList) .callback _ (by decide +kernel)

/-- An id with a line break does not parse, and every actor on a node named `callback`
looks like a callback to the fast path. -/
theorem lineBreak_and_callbackNode :
    (mint "a\nb".toList none .actor = .ok "actor://local/a\nb".toList ∧
      ¬RoundTrips "a\nb".toList none .actor "actor://local/a\nb".toList) ∧
    mint "worker".toList (some callbackName) .actor = .ok "actor://callback/worker".toList ∧
      ¬RoundTrips "worker".toList (some callbackName) .actor "actor://callback/worker".toList := by
  refine ⟨⟨by decide +kernel, fun h => ?_⟩, by decide +kernel, fun h => ?_⟩
  · have hnone : parse "actor://local/a\nb".toList = none := by decide +kernel
    cases hnone.symm.trans h.parts
  · have hfast : (parse "actor://callback/worker".toList).map Parts.kind ≠
        some (if includesCallback "actor://callback/worker".toList then .callback else .actor) := by
      decide +kernel
    exact hfast h.fastPath

end ActorWeb.ActorAddress
