import ActorWeb.MeshMembership
import ActorWeb.Transition

namespace ActorWeb.Mesh

open OrderedMap List Std Maxima Function Transition

structure MeshDirectoryEntry where
  (address ownerNode : String)
  ownerIncarnation : MeshIncarnation
  (version updatedAt : JsNumber)
  tombstone : Option Bool
  ttl : Option JsNumber
deriving DecidableEq

structure MeshDirectoryState where
  entries : OrderedMap String MeshDirectoryEntry

inductive MeshDirectoryMergeCode
  | accepted | ownerConflict | staleIncarnation | staleVersion | sameEntry

structure MeshDirectoryMergeResult where
  accepted : Bool
  code : MeshDirectoryMergeCode
  state : MeshDirectoryState

def cloneDirectoryEntry (entry : MeshDirectoryEntry) : MeshDirectoryEntry :=
  { entry with tombstone := if entry.tombstone = some true then some true else none }

def acceptDirectoryEntry (state : MeshDirectoryState) (entry : MeshDirectoryEntry)
    (code : MeshDirectoryMergeCode) : MeshDirectoryMergeResult where
  accepted := true
  code := code
  state := ⟨state.entries.set entry.address (cloneDirectoryEntry entry)⟩

variable (js : Conversions)

def applyWithCurrent (state : MeshDirectoryState) (entry current : MeshDirectoryEntry) :
    MeshDirectoryMergeResult :=
  if current.ownerNode ≠ entry.ownerNode then ⟨false, .ownerConflict, state⟩
  else
    match compareMeshIncarnation js entry.ownerIncarnation current.ownerIncarnation with
    | .lt => ⟨false, .staleIncarnation, state⟩
    | .eq =>
      if entry.version.lt current.version then ⟨false, .staleVersion, state⟩
      else if entry.version.same current.version ∧ entry.updatedAt.le current.updatedAt then
        ⟨false, .sameEntry, state⟩
      else acceptDirectoryEntry state entry .accepted
    | .gt => acceptDirectoryEntry state entry .accepted

def applyMeshDirectoryEntry (state : MeshDirectoryState) (entry : MeshDirectoryEntry) :
    MeshDirectoryMergeResult :=
  match state.entries.property entry.address with
  | .missing => acceptDirectoryEntry state entry .accepted
  | .own current => applyWithCurrent js state entry current
  | .inherited => ⟨false, .ownerConflict, state⟩

def mergeMeshDirectoryEntries (state : MeshDirectoryState) (entries : List MeshDirectoryEntry) :
    MeshDirectoryState :=
  entries.foldl (fun next entry => (applyMeshDirectoryEntry js next entry).state) state

def createMeshDirectoryState (entries : List MeshDirectoryEntry) : MeshDirectoryState :=
  mergeMeshDirectoryEntries js ⟨.empty⟩ entries

def resolveMeshDirectoryLocation (state : MeshDirectoryState) (address : String)
    (now : Option JsNumber) : Option String :=
  match state.entries.property address with
  | .own entry =>
    if entry.tombstone = some true then none
    else
      match entry.ttl, now with
      | some ttl, some now => if ttl.le now then none else some entry.ownerNode
      | _, _ => some entry.ownerNode
  | _ => none

def exportMeshDirectoryEntries (state : MeshDirectoryState) : List MeshDirectoryEntry :=
  state.entries.values.map cloneDirectoryEntry

section Gossip

/-- The entries that a node exported, with those that it had learned. -/
structure Export where
  (entries learned : List MeshDirectoryEntry)

/-- The directories of the nodes, with the entries that each of them has learned: directly, or
through an export of a node that had learned them. -/
structure Gossip where
  directory : String → MeshDirectoryState
  learned : String → List MeshDirectoryEntry
  exports : List Export

/-- `receive` takes any export that was made, at any time and as often as it comes. -/
inductive GossipAction
  | apply (node : String) (entry : MeshDirectoryEntry)
  | publish (node : String)
  | receive (node : String) (index : Nat)

namespace Gossip

def init : Gossip where
  directory := fun _ => ⟨.empty⟩
  learned := fun _ => []
  exports := []

variable (g : Gossip)

def applyDirectoryEntry (node : String) (entry : MeshDirectoryEntry) : Gossip :=
  { g with
    directory := update g.directory node (applyMeshDirectoryEntry js (g.directory node) entry).state
    learned := update g.learned node (g.learned node ++ [entry]) }

def exportDirectoryEntries (node : String) : Gossip :=
  { g with
    exports := g.exports ++ [⟨exportMeshDirectoryEntries (g.directory node), g.learned node⟩] }

def mergeDirectoryEntries (node : String) (sent : Export) : Gossip :=
  { g with
    directory :=
      update g.directory node (mergeMeshDirectoryEntries js (g.directory node) sent.entries)
    learned := update g.learned node (g.learned node ++ sent.learned) }

def step : GossipAction → Option Gossip
  | .apply node entry => some (g.applyDirectoryEntry js node entry)
  | .publish node => some (g.exportDirectoryEntries node)
  | .receive node index => (g.exports[index]?).map (g.mergeDirectoryEntries js node)

end Gossip

end Gossip

section Order

variable {js}

def compareDirectoryEntries (js : Conversions) :
    MeshDirectoryEntry → MeshDirectoryEntry → Ordering :=
  compareLex (Ordering.byKey (fun entry => some entry.ownerIncarnation) (compareMeshIncarnation js))
    (compareLex (Ordering.byKey MeshDirectoryEntry.version JsNumber.cmp)
      (Ordering.byKey MeshDirectoryEntry.updatedAt JsNumber.cmp))

instance [TransCmp js.localeCompare] : TransCmp (compareDirectoryEntries js) :=
  inferInstanceAs (TransCmp (compareLex _ (compareLex _ _)))

structure Ordered (entry : MeshDirectoryEntry) : Prop where
  version : entry.version ≠ .nan
  updatedAt : entry.updatedAt ≠ .nan

variable {entry : MeshDirectoryEntry}

theorem Ordered.clone (h : Ordered entry) :
    Ordered (cloneDirectoryEntry entry) := ⟨h.version, h.updatedAt⟩

theorem clone_clone (entry : MeshDirectoryEntry) :
    cloneDirectoryEntry (cloneDirectoryEntry entry) = cloneDirectoryEntry entry := by
  unfold cloneDirectoryEntry
  by_cases h : entry.tombstone = some true
  · simp only [if_pos h, if_true]
  · simp only [if_neg h, reduceCtorEq, if_false]

variable (js) in
theorem applyWithCurrent_cases {entry current : MeshDirectoryEntry} (state : MeshDirectoryState)
    (howner : current.ownerNode = entry.ownerNode) (hentry : Ordered entry)
    (hcurrent : Ordered current) : (compareDirectoryEntries js entry current = .gt ∧
      applyWithCurrent js state entry current = acceptDirectoryEntry state entry .accepted) ∨
    (compareDirectoryEntries js entry current ≠ .gt ∧
      ∃ code, applyWithCurrent js state entry current = ⟨false, code, state⟩) := by
  have hcompare : compareDirectoryEntries js entry current =
      (compareMeshIncarnation js entry.ownerIncarnation current.ownerIncarnation).then
        ((entry.version.cmp current.version).then
          (entry.updatedAt.cmp current.updatedAt)) := rfl
  rw [hcompare, applyWithCurrent, if_neg (not_not.mpr howner)]
  cases compareMeshIncarnation js entry.ownerIncarnation current.ownerIncarnation with
  | lt => exact .inr ⟨Ordering.noConfusion, _, rfl⟩
  | gt => exact .inl ⟨rfl, rfl⟩
  | eq =>
    simp only [Ordering.then]
    cases hversion : entry.version.cmp current.version with
    | lt =>
      have hstale : entry.version.lt current.version = true :=
        decide_eq_true ⟨hentry.version, hcurrent.version, hversion⟩
      rw [if_pos hstale]
      exact .inr ⟨Ordering.noConfusion, _, rfl⟩
    | eq =>
      have hnot : ¬ entry.version.lt current.version = true := fun h => by
        rw [(of_decide_eq_true h).2.2] at hversion
        cases hversion
      have hsame : entry.version.same current.version = true :=
        decide_eq_true ⟨hentry.version, JsNumber.cmp_eq_iff.mp hversion⟩
      rw [if_neg hnot]
      by_cases hle : entry.updatedAt.le current.updatedAt = true
      · rw [if_pos ⟨hsame, hle⟩]
        exact .inr ⟨(of_decide_eq_true hle).2.2, _, rfl⟩
      · rw [if_neg fun h => hle h.2]
        refine .inl ⟨?_, rfl⟩
        by_contra hgt
        exact hle (decide_eq_true ⟨hentry.updatedAt, hcurrent.updatedAt, hgt⟩)
    | gt =>
      have hnot : ¬ entry.version.lt current.version = true := fun h => by
        rw [(of_decide_eq_true h).2.2] at hversion
        cases hversion
      have hother : ¬ entry.version.same current.version = true := fun h => by
        rw [JsNumber.cmp_eq_iff.mpr (of_decide_eq_true h).2] at hversion
        cases hversion
      rw [if_neg hnot, if_neg fun h => hother h.1]
      exact .inl ⟨rfl, rfl⟩

def entriesAt (entries : List MeshDirectoryEntry) (address : String) : List MeshDirectoryEntry :=
  (entries.filter fun entry => entry.address = address).map cloneDirectoryEntry

variable {entries : List MeshDirectoryEntry}

theorem mem_entriesAt {address : String}
    {kept : MeshDirectoryEntry} : kept ∈ entriesAt entries address ↔
      ∃ entry ∈ entries, entry.address = address ∧ cloneDirectoryEntry entry = kept := by
  simp [entriesAt, and_assoc]

/-- The directory has a maximum of the entries of each address that is not an inherited name. -/
def Holds (js : Conversions) (entries : List MeshDirectoryEntry) (state : MeshDirectoryState) :
    Prop :=
  ∀ address, if address ∈ objectPrototype then state.entries.get address = none
    else IsMaximum (compareDirectoryEntries js) (entriesAt entries address)
      (state.entries.get address)

structure Owned (entries : List MeshDirectoryEntry) : Prop where
  ordered : ∀ entry ∈ entries, Ordered entry
  owner : ∀ entry ∈ entries, ∀ other ∈ entries, entry.address = other.address →
    entry.ownerNode = other.ownerNode

variable {others : List MeshDirectoryEntry} {state : MeshDirectoryState}

theorem Owned.mono (h : Owned others) (hsub : ∀ entry ∈ entries, ∃ other ∈ others,
      cloneDirectoryEntry entry = cloneDirectoryEntry other) : Owned entries where
  ordered entry hentry := by
    obtain ⟨other, hother, heq⟩ := hsub entry hentry
    have hordered := (h.ordered other hother).clone
    rw [← heq] at hordered
    exact ⟨hordered.version, hordered.updatedAt⟩
  owner entry hentry entry' hentry' haddress := by
    obtain ⟨other, hother, heq⟩ := hsub entry hentry
    obtain ⟨other', hother', heq'⟩ := hsub entry' hentry'
    have hfields := MeshDirectoryEntry.mk.inj heq
    have hfields' := MeshDirectoryEntry.mk.inj heq'
    rw [hfields.2.1, hfields'.2.1]
    exact h.owner other hother other' hother' (by rw [← hfields.1, ← hfields'.1, haddress])

theorem Owned.subset (h : Owned others)
    (hsub : ∀ entry ∈ entries, entry ∈ others) : Owned entries :=
  h.mono fun entry hentry => ⟨entry, hsub entry hentry, rfl⟩

theorem Holds.kept (h : Holds js entries state) {address : String} {kept : MeshDirectoryEntry}
    (hget : state.entries.get address = some kept) : address ∉ objectPrototype ∧
      IsMaximum (compareDirectoryEntries js) (entriesAt entries address) (some kept) := by
  have hat := h address
  rw [hget] at hat
  split at hat
  case isTrue => cases hat
  case isFalse hinherited => exact ⟨hinherited, hat⟩

theorem holds_empty : Holds js [] ⟨.empty⟩ := by
  intro address
  split
  · rfl
  · rfl

theorem Holds.apply_get (h : Holds js entries state) (howned : Owned (entries ++ [entry]))
    (hinherited : entry.address ∉ objectPrototype) (address : String) :
    (applyMeshDirectoryEntry js state entry).state.entries.get address =
      if address = entry.address then
        keep (compareDirectoryEntries js) (state.entries.get address) (cloneDirectoryEntry entry)
      else state.entries.get address := by
  have haccept : (acceptDirectoryEntry state entry .accepted).state.entries.get address =
      if address = entry.address then some (cloneDirectoryEntry entry)
      else state.entries.get address := get_set _ _ _ _
  cases hget : state.entries.get entry.address with
  | none =>
    rw [applyMeshDirectoryEntry, property_of_get_none hget, if_neg hinherited, haccept]
    by_cases haddress : address = entry.address
    · subst haddress
      rw [if_pos rfl, if_pos rfl, hget, keep]
    · rw [if_neg haddress, if_neg haddress]
  | some current =>
    obtain ⟨other, hother, haddress', heq⟩ := mem_entriesAt.mp (h.kept hget).2.1
    have hmem : other ∈ entries ++ [entry] := mem_append_left _ hother
    have hlast : entry ∈ entries ++ [entry] :=
      mem_append_right _ (mem_singleton_self _)
    have howner : current.ownerNode = entry.ownerNode := by
      rw [← heq]
      exact howned.owner other hmem entry hlast haddress'
    have hordered : Ordered current := heq ▸ (howned.ordered other hmem).clone
    rw [applyMeshDirectoryEntry, property_of_get hget]
    obtain ⟨hgt, hresult⟩ | ⟨hnot, code, hresult⟩ :=
      applyWithCurrent_cases js state howner (howned.ordered entry hlast) hordered
    · simp only [hresult]
      rw [haccept]
      by_cases haddress : address = entry.address
      · subst haddress
        rw [if_pos rfl, if_pos rfl, hget, keep, if_pos]
        exact hgt
      · rw [if_neg haddress, if_neg haddress]
    · simp only [hresult]
      by_cases haddress : address = entry.address
      · subst haddress
        rw [if_pos rfl, hget, keep, if_neg]
        exact hnot
      · rw [if_neg haddress]

variable [TransCmp js.localeCompare]

theorem Holds.apply (h : Holds js entries state) (howned : Owned (entries ++ [entry])) :
    Holds js (entries ++ [entry]) (applyMeshDirectoryEntry js state entry).state := by
  intro address
  have hat := h address
  by_cases hinherited : entry.address ∈ objectPrototype
  · have hsame : (applyMeshDirectoryEntry js state entry).state = state := by
      have hget := h entry.address
      rw [if_pos hinherited] at hget
      rw [applyMeshDirectoryEntry, property_of_get_none hget, if_pos hinherited]
    rw [hsame]
    split at hat
    case isTrue haddress => rwa [if_pos haddress]
    case isFalse haddress =>
      have hne : entry.address ≠ address := fun heq => haddress (heq ▸ hinherited)
      rwa [if_neg haddress, entriesAt, filter_append, filter_singleton,
        decide_eq_false hne, cond_false, append_nil]
  · rw [h.apply_get howned hinherited address]
    by_cases haddress : address = entry.address
    · subst haddress
      rw [if_neg hinherited] at hat ⊢
      rw [if_pos rfl, entriesAt, filter_append, filter_singleton, decide_eq_true rfl,
        map_append]
      exact hat.keep
    · rwa [if_neg haddress, entriesAt, filter_append, filter_singleton,
        decide_eq_false (Ne.symm haddress), cond_false, append_nil]

theorem Holds.merge (h : Holds js entries state) (howned : Owned (entries ++ others)) :
    Holds js (entries ++ others) (mergeMeshDirectoryEntries js state others) := by
  induction others generalizing entries state with
  | nil => rwa [append_nil]
  | cons entry others ih =>
    rw [append_cons] at howned ⊢
    exact ih (h.apply (howned.subset fun _ => mem_append_left _)) howned

theorem Holds.mergeExport {entries entries' : List MeshDirectoryEntry}
    {state' : MeshDirectoryState} (h : Holds js entries state) (h' : Holds js entries' state')
    (howned : Owned (entries ++ entries')) : Holds js (entries ++ entries')
      (mergeMeshDirectoryEntries js state (exportMeshDirectoryEntries state')) := by
  have hexport : ∀ kept ∈ exportMeshDirectoryEntries state', kept.address ∉ objectPrototype ∧
      kept ∈ entriesAt entries' kept.address := by
    intro kept hkept
    obtain ⟨value, hvalue, rfl⟩ := mem_map.mp hkept
    obtain ⟨address, hget⟩ := mem_values_iff.mp hvalue
    obtain ⟨hinherited, hmax⟩ := h'.kept hget
    obtain ⟨entry, hentry, rfl, rfl⟩ := mem_entriesAt.mp hmax.1
    exact ⟨hinherited, mem_entriesAt.mpr ⟨entry, hentry, rfl, (clone_clone entry).symm⟩⟩
  have hmerged := h.merge (howned.mono fun entry hentry => by
    obtain hentry | hentry := mem_append.mp hentry
    · exact ⟨entry, mem_append_left _ hentry, rfl⟩
    · obtain ⟨other, hother, -, heq⟩ := mem_entriesAt.mp (hexport entry hentry).2
      exact ⟨other, mem_append_right _ hother, by rw [← heq, clone_clone]⟩)
  intro address
  have hat := hmerged address
  split at hat
  case isTrue hinherited => rwa [if_pos hinherited]
  case isFalse hinherited =>
    rw [if_neg hinherited]
    rw [entriesAt, filter_append, map_append] at hat ⊢
    refine hat.cofinal (fun kept hkept => ?_) fun kept hkept => ?_
    · obtain ⟨sent, hsent, rfl, rfl⟩ := mem_entriesAt.mp hkept
      obtain ⟨entry, hentry, haddress, heq⟩ := mem_entriesAt.mp (hexport sent hsent).2
      exact mem_entriesAt.mpr ⟨entry, hentry, haddress, by rw [← heq, clone_clone]⟩
    · have hat' := h' address
      rw [if_neg hinherited] at hat'
      cases hget : state'.entries.get address with
      | none =>
        rw [hget] at hat'
        have hnone : entriesAt entries' address = [] := hat'
        exact absurd (hnone ▸ hkept : kept ∈ []) not_mem_nil
      | some top =>
        rw [hget] at hat'
        obtain ⟨entry, hentry, haddress, rfl⟩ := mem_entriesAt.mp hat'.1
        have hsent : cloneDirectoryEntry entry ∈ exportMeshDirectoryEntries state' :=
          mem_map.mpr ⟨_, mem_values_iff.mpr ⟨address, hget⟩, clone_clone entry⟩
        exact ⟨cloneDirectoryEntry entry,
          mem_entriesAt.mpr ⟨_, hsent, haddress, clone_clone entry⟩, hat'.2 kept hkept⟩

end Order

section Runs

variable {js}

/-- What was learned with one owner for each address is what the directories and the exports
hold. -/
structure Gossip.Faithful (js : Conversions) (g : Gossip) : Prop where
  directory : ∀ node, Owned (g.learned node) → Holds js (g.learned node) (g.directory node)
  exports : ∀ sent ∈ g.exports, Owned sent.learned → ∃ state, Holds js sent.learned state ∧
    sent.entries = exportMeshDirectoryEntries state

theorem Gossip.faithful_init : (Gossip.init).Faithful js where
  directory _ _ := holds_empty
  exports _ hsent := absurd hsent not_mem_nil

variable [TransCmp js.localeCompare]

theorem Gossip.Faithful.step {g g' : Gossip} (h : g.Faithful js) {a : GossipAction}
    (hstep : g.step js a = some g') : g'.Faithful js := by
  have hupdate : ∀ {node : String} {state : MeshDirectoryState} {learned : List MeshDirectoryEntry},
      (Owned learned → Holds js learned state) → ∀ node',
        Owned (update g.learned node learned node') →
          Holds js (update g.learned node learned node') (update g.directory node state node') := by
    intro node state learned hholds node'
    by_cases hnode : node' = node
    · subst hnode
      rwa [update_self, update_self]
    · rw [update_of_ne hnode, update_of_ne hnode]
      exact h.directory node'
  cases a with
  | apply node entry =>
    cases hstep
    refine ⟨hupdate fun howned => ?_, h.exports⟩
    exact (h.directory node (howned.subset fun _ => mem_append_left _)).apply howned
  | publish node =>
    cases hstep
    refine ⟨h.directory, fun sent hsent howned => ?_⟩
    obtain hsent | hsent := mem_append.mp hsent
    · exact h.exports sent hsent howned
    · obtain rfl := mem_singleton.mp hsent
      exact ⟨g.directory node, h.directory node howned, rfl⟩
  | receive node index =>
    obtain ⟨sent, hsent, rfl⟩ := Option.map_eq_some_iff.mp hstep
    refine ⟨hupdate fun howned => ?_, h.exports⟩
    obtain ⟨state, hstate, hentries⟩ := h.exports sent (mem_of_getElem? hsent)
      (howned.subset fun _ => mem_append_right _)
    rw [hentries]
    exact (h.directory node (howned.subset fun _ => mem_append_left _)).mergeExport hstate
      howned

/-- Entries that the merge can tell apart, with one owner for each address. -/
structure Mergeable (js : Conversions) (entries : List MeshDirectoryEntry) : Prop where
  owned : Owned entries
  distinct : ∀ entry ∈ entries, ∀ other ∈ entries, entry.address = other.address →
    compareDirectoryEntries js entry other = .eq → entry = other

/-- Two nodes that learned the same mergeable entries resolve every address alike. -/
theorem directories_converge {as : List GossipAction} {g : Gossip}
    (h : exec (Gossip.step js) .init as = some g) {node node' : String}
    (hsame : ∀ entry, entry ∈ g.learned node ↔ entry ∈ g.learned node')
    (hmergeable : Mergeable js (g.learned node)) (address : String) (now : Option JsNumber) :
    resolveMeshDirectoryLocation (g.directory node) address now =
      resolveMeshDirectoryLocation (g.directory node') address now := by
  have hfaithful : g.Faithful js :=
    exec_invariant (fun _ _ _ hg hstep => hg.step hstep) Gossip.faithful_init h
  have hat := hfaithful.directory node hmergeable.owned address
  have hat' := hfaithful.directory node'
    (hmergeable.owned.subset fun entry => (hsame entry).mpr) address
  have hget : (g.directory node).entries.get address = (g.directory node').entries.get address := by
    by_cases hinherited : address ∈ objectPrototype
    · rw [if_pos hinherited] at hat hat'
      rw [hat, hat']
    · rw [if_neg hinherited] at hat hat'
      have hrel := hat.congr hat' fun kept => by simp only [mem_entriesAt, hsame]
      revert hrel hat hat'
      generalize (g.directory node).entries.get address = kept
      generalize (g.directory node').entries.get address = kept'
      rintro hat hat' (heq | _)
      · obtain ⟨entry, hentry, haddress, rfl⟩ := mem_entriesAt.mp hat.1
        obtain ⟨other, hother, haddress', rfl⟩ := mem_entriesAt.mp hat'.1
        rw [hmergeable.distinct entry hentry other ((hsame other).mpr hother)
          (haddress.trans haddress'.symm) heq]
      · rfl
  unfold resolveMeshDirectoryLocation OrderedMap.property
  rw [hget]

def plannerEntry (ownerNode : String) (version : ℚ) : MeshDirectoryEntry where
  address := "actor://planner"
  ownerNode := ownerNode
  ownerIncarnation := .number (.finite 1)
  version := .finite version
  updatedAt := .finite 1
  tombstone := none
  ttl := none

def movedRun : List GossipAction :=
  [.apply "a" (plannerEntry "n" 1), .apply "a" (plannerEntry "m" 2),
    .apply "b" (plannerEntry "m" 2), .apply "b" (plannerEntry "n" 1)]

/-- The first owner of an address is kept, so the two nodes do not converge. -/
theorem moved_diverges : ∃ g, exec (Gossip.step decimal) .init movedRun = some g ∧
    (∀ entry, entry ∈ g.learned "a" ↔ entry ∈ g.learned "b") ∧
    (∀ entry ∈ g.learned "a", ∀ other ∈ g.learned "a",
      entry.address = other.address ∧ entry.ownerNode = other.ownerNode ∧
        entry.ownerIncarnation = other.ownerIncarnation ∧ entry.version = other.version ∧
        entry.updatedAt = other.updatedAt → entry = other) ∧
    resolveMeshDirectoryLocation (g.directory "a") "actor://planner" (some (.finite 1)) ≠
      resolveMeshDirectoryLocation (g.directory "b") "actor://planner" (some (.finite 1)) := by
  have hrun : (exec (Gossip.step decimal) .init movedRun).any (fun g =>
      decide (g.learned "a" = [plannerEntry "n" 1, plannerEntry "m" 2] ∧
        g.learned "b" = [plannerEntry "m" 2, plannerEntry "n" 1] ∧
        resolveMeshDirectoryLocation (g.directory "a") "actor://planner" (some (.finite 1)) ≠
          resolveMeshDirectoryLocation (g.directory "b") "actor://planner"
            (some (.finite 1)))) = true := by
    decide +kernel
  obtain ⟨g, hg, hdecide⟩ := (Option.any_eq_true _ _).mp hrun
  obtain ⟨ha, hb, hresolve⟩ := of_decide_eq_true hdecide
  refine ⟨g, hg, fun entry => ?_, ?_, hresolve⟩
  · rw [ha, hb, mem_pair, mem_pair, or_comm]
  · rw [ha]
    decide +kernel

def renewedRun : List GossipAction :=
  [.apply "a" (plannerEntry "n" 1), .apply "a" (plannerEntry "n" 2), .publish "a",
    .receive "b" 0]

theorem directories_converge_renewed : ∃ g, exec (Gossip.step decimal) .init renewedRun = some g ∧
    ∀ address now, resolveMeshDirectoryLocation (g.directory "a") address now =
      resolveMeshDirectoryLocation (g.directory "b") address now := by
  have hrun : (exec (Gossip.step decimal) .init renewedRun).any (fun g =>
      decide (g.learned "a" = [plannerEntry "n" 1, plannerEntry "n" 2] ∧
        g.learned "b" = [plannerEntry "n" 1, plannerEntry "n" 2])) = true := by
    decide +kernel
  obtain ⟨g, hg, hdecide⟩ := (Option.any_eq_true _ _).mp hrun
  obtain ⟨ha, hb⟩ := of_decide_eq_true hdecide
  have hsame : ∀ entry, entry ∈ g.learned "a" ↔ entry ∈ g.learned "b" := fun entry => by
    rw [ha, hb]
  refine ⟨g, hg, directories_converge hg hsame ⟨⟨fun entry hentry => ?_, ?_⟩, ?_⟩⟩
  · rw [ha] at hentry
    obtain rfl | rfl := mem_pair.mp hentry <;> exact ⟨by decide, by decide⟩
  · rw [ha]
    decide +kernel
  · rw [ha]
    decide +kernel

end Runs

end ActorWeb.Mesh
