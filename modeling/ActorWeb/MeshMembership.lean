import ActorWeb.JsNumber
import ActorWeb.Maxima
import Mathlib.Data.List.Induction

namespace ActorWeb.Mesh

open List Std Maxima

/-- What the language does with numbers and texts: `Number(text)`, `String(value)` and
`localeCompare`. -/
structure Conversions where
  number : String → JsNumber
  string : JsNumber → String
  localeCompare : String → String → Ordering

inductive MeshIncarnation
  | number (value : JsNumber)
  | text (value : String)
deriving DecidableEq

inductive MeshMembershipStatus
  | alive | suspect | dead | left
deriving DecidableEq

structure MeshMembershipRecord where
  nodeAddress : String
  incarnation : MeshIncarnation
  state : MeshMembershipStatus
  seenAt : JsNumber
  metadata : Option (List (String × String))

structure MeshMembershipState where
  records : OrderedMap String MeshMembershipRecord

inductive MeshMembershipMergeCode
  | accepted | staleIncarnation | weakerState | sameRecord

structure MeshMembershipMergeResult where
  accepted : Bool
  code : MeshMembershipMergeCode
  state : MeshMembershipState

def MeshMembershipStatus.rank : MeshMembershipStatus → Nat
  | alive => 0
  | suspect => 1
  | dead => 2
  | left => 3

structure IncarnationOrder where
  numeric : Option ℚ
  text : String

variable (js : Conversions)

/-- The argument is `none` for `undefined`, which a property of an inherited value is. -/
def toIncarnationOrder : Option MeshIncarnation → IncarnationOrder
  | some (.number value) => ⟨value.finite?, js.string value⟩
  | some (.text value) => ⟨(js.number value).finite?, value⟩
  | none => ⟨none, "undefined"⟩

def compareIncarnationOrder (leftOrder rightOrder : IncarnationOrder) : Ordering :=
  match leftOrder.numeric, rightOrder.numeric with
  | some left, some right =>
    match compare left right with
    | .eq => js.localeCompare leftOrder.text rightOrder.text
    | numericOrder => numericOrder
  | some _, none => .lt
  | none, some _ => .gt
  | none, none => js.localeCompare leftOrder.text rightOrder.text

def compareMeshIncarnation (left right : Option MeshIncarnation) : Ordering :=
  compareIncarnationOrder js (toIncarnationOrder js left) (toIncarnationOrder js right)

def cloneMembershipRecord (record : MeshMembershipRecord) : MeshMembershipRecord where
  nodeAddress := record.nodeAddress
  incarnation := record.incarnation
  state := record.state
  seenAt := record.seenAt
  metadata := record.metadata

variable (state : MeshMembershipState)

def acceptMembershipRecord (record : MeshMembershipRecord)
    (code : MeshMembershipMergeCode) : MeshMembershipMergeResult where
  accepted := true
  code := code
  state := ⟨state.records.set record.nodeAddress (cloneMembershipRecord record)⟩

def mergeWithCurrent (record current : MeshMembershipRecord) :
    MeshMembershipMergeResult :=
  match compareMeshIncarnation js record.incarnation current.incarnation with
  | .lt => ⟨false, .staleIncarnation, state⟩
  | .eq =>
    if record.state.rank < current.state.rank then ⟨false, .weakerState, state⟩
    else if record.state.rank = current.state.rank ∧ record.seenAt.le current.seenAt then
      ⟨false, .sameRecord, state⟩
    else acceptMembershipRecord state record .accepted
  | .gt => acceptMembershipRecord state record .accepted

/-- The current record of an inherited name is a value without an incarnation or a state: no rank
is below or equal to its rank. -/
def mergeMeshMembershipRecord (record : MeshMembershipRecord) :
    MeshMembershipMergeResult :=
  match state.records.property record.nodeAddress with
  | .missing => acceptMembershipRecord state record .accepted
  | .own current => mergeWithCurrent js state record current
  | .inherited =>
    match compareMeshIncarnation js record.incarnation none with
    | .lt => ⟨false, .staleIncarnation, state⟩
    | _ => acceptMembershipRecord state record .accepted

def createMeshMembershipState (records : List MeshMembershipRecord) : MeshMembershipState :=
  records.foldl (fun state record => (mergeMeshMembershipRecord js state record).state) ⟨.empty⟩

def isMeshNodeRouteable (nodeAddress : String) : Bool :=
  match state.records.property nodeAddress with
  | .own record => record.state = .alive
  | _ => false

section Order

theorem compareIncarnationOrder_eq : compareIncarnationOrder js =
    compareLex (compareOn fun order => order.numeric.isNone)
      (compareLex (compareOn fun order => order.numeric.getD 0)
        (Ordering.byKey IncarnationOrder.text js.localeCompare)) := by
  funext ⟨left, leftText⟩ ⟨right, rightText⟩
  cases left with
  | some left =>
    cases right with
    | some right =>
      simp only [compareIncarnationOrder, compareLex, compareOn, Ordering.byKey,
        Option.isNone_some, Option.getD_some, compare_self, Ordering.then]
      split <;> simp_all
    | none => rfl
  | none =>
    cases right with
    | some right => rfl
    | none =>
      simp only [compareIncarnationOrder, compareLex, compareOn, Ordering.byKey,
        Option.isNone_none, Option.getD_none, compare_self, Ordering.then]

instance transCmp_incarnation [TransCmp js.localeCompare] :
    TransCmp (compareMeshIncarnation js) := by
  have horder : TransCmp (compareIncarnationOrder js) := by
    rw [compareIncarnationOrder_eq]
    infer_instance
  exact inferInstanceAs
    (TransCmp (Ordering.byKey (toIncarnationOrder js) (compareIncarnationOrder js)))

/-- Records are compared by incarnation, then by the rank of their state, then by `seenAt`. -/
def compareMembershipRecords : MeshMembershipRecord → MeshMembershipRecord → Ordering :=
  compareLex (Ordering.byKey (fun record => some record.incarnation) (compareMeshIncarnation js))
    (compareLex (compareOn fun record => record.state.rank)
      (Ordering.byKey MeshMembershipRecord.seenAt JsNumber.cmp))

instance [TransCmp js.localeCompare] : TransCmp (compareMembershipRecords js) :=
  inferInstanceAs (TransCmp (compareLex _ (compareLex _ _)))

theorem rank_injective {a b : MeshMembershipStatus} (h : a.rank = b.rank) : a = b := by
  cases a <;> cases b <;> first | rfl | exact absurd h (by decide)

theorem compareMembershipRecords_eq {a b : MeshMembershipRecord}
    (h : compareMembershipRecords js a b = .eq) :
    compareMeshIncarnation js a.incarnation b.incarnation = .eq ∧ a.state = b.state ∧
      a.seenAt = b.seenAt := by
  obtain ⟨hincarnation, hrest⟩ := compareLex_eq_eq.mp h
  obtain ⟨hrank, hseen⟩ := compareLex_eq_eq.mp hrest
  exact ⟨hincarnation, rank_injective (Std.compare_eq_iff_eq.mp hrank), JsNumber.cmp_eq_iff.mp hseen⟩

end Order

section Join

variable {js}

/-- A record whose node address is an inherited name, with an incarnation below that of the
inherited value. -/
def Refused (js : Conversions) (record : MeshMembershipRecord) : Prop :=
  record.nodeAddress ∈ objectPrototype ∧
    compareMeshIncarnation js record.incarnation none = .lt

variable (js) in
theorem mergeWithCurrent_cases {record current : MeshMembershipRecord} (state : MeshMembershipState)
    (hseen : record.seenAt ≠ .nan) (hcurrent : current.seenAt ≠ .nan) :
    (compareMembershipRecords js record current = .gt ∧
      mergeWithCurrent js state record current = acceptMembershipRecord state record .accepted) ∨
    (compareMembershipRecords js record current ≠ .gt ∧
      ∃ code, mergeWithCurrent js state record current = ⟨false, code, state⟩) := by
  have hcompare : compareMembershipRecords js record current =
      (compareMeshIncarnation js record.incarnation current.incarnation).then
        ((compare record.state.rank current.state.rank).then
          (record.seenAt.cmp current.seenAt)) := rfl
  rw [hcompare, mergeWithCurrent]
  cases compareMeshIncarnation js record.incarnation current.incarnation with
  | lt => exact .inr ⟨Ordering.noConfusion, _, rfl⟩
  | gt => exact .inl ⟨rfl, rfl⟩
  | eq =>
    simp only [Ordering.then]
    obtain hlt | heq | hgt := Nat.lt_trichotomy record.state.rank current.state.rank
    · rw [if_pos hlt, compare_lt_iff_lt.mpr hlt]
      exact .inr ⟨Ordering.noConfusion, _, rfl⟩
    · rw [if_neg (by omega), heq, compare_self]
      by_cases hle : record.seenAt.le current.seenAt = true
      · rw [if_pos ⟨rfl, hle⟩]
        exact .inr ⟨(of_decide_eq_true hle).2.2, _, rfl⟩
      · rw [if_neg fun h => hle h.2]
        refine .inl ⟨?_, rfl⟩
        by_contra hnot
        exact hle (decide_eq_true ⟨hseen, hcurrent, hnot⟩)
    · rw [if_neg (by omega), if_neg (by omega), compare_gt_iff_gt.mpr hgt]
      exact .inl ⟨rfl, rfl⟩

variable {record : MeshMembershipRecord}

theorem merge_spec {state : MeshMembershipState} (hseen : record.seenAt ≠ .nan)
    (hcurrent : ∀ current, state.records.get record.nodeAddress = some current →
      current.seenAt ≠ .nan) (hrefused : ¬ Refused js record) :
    ((mergeMeshMembershipRecord js state record).accepted ↔
      ∀ current, state.records.get record.nodeAddress = some current →
        compareMembershipRecords js record current = .gt) ∧
    ∀ nodeAddress, (mergeMeshMembershipRecord js state record).state.records.get nodeAddress =
      if nodeAddress = record.nodeAddress then
        keep (compareMembershipRecords js) (state.records.get nodeAddress) record
      else state.records.get nodeAddress := by
  have haccept : ∀ (code : MeshMembershipMergeCode) (nodeAddress : String),
      (acceptMembershipRecord state record code).state.records.get nodeAddress =
        if nodeAddress = record.nodeAddress then some record
        else state.records.get nodeAddress := fun code nodeAddress => OrderedMap.get_set _ _ _ _
  cases hget : state.records.get record.nodeAddress with
  | some current =>
    rw [mergeMeshMembershipRecord, OrderedMap.property_of_get hget]
    obtain ⟨hgt, heq⟩ | ⟨hnot, code, heq⟩ :=
      mergeWithCurrent_cases js state hseen (hcurrent current hget)
    · simp only [heq]
      refine ⟨by simp [acceptMembershipRecord, hgt], fun nodeAddress => ?_⟩
      rw [haccept]
      by_cases haddress : nodeAddress = record.nodeAddress
      · subst haddress
        rw [if_pos rfl, if_pos rfl, hget, keep, if_pos hgt]
      · rw [if_neg haddress, if_neg haddress]
    · simp only [heq]
      refine ⟨by simp [hnot], fun nodeAddress => ?_⟩
      by_cases haddress : nodeAddress = record.nodeAddress
      · subst haddress
        rw [if_pos rfl, hget, keep, if_neg hnot]
      · rw [if_neg haddress]
  | none =>
    have heq : mergeMeshMembershipRecord js state record =
        acceptMembershipRecord state record .accepted := by
      rw [mergeMeshMembershipRecord, OrderedMap.property_of_get_none hget]
      by_cases hinherited : record.nodeAddress ∈ objectPrototype
      · rw [if_pos hinherited]
        cases hcompare : compareMeshIncarnation js record.incarnation none with
        | lt => exact absurd ⟨hinherited, hcompare⟩ hrefused
        | eq | gt => rfl
      · rw [if_neg hinherited]
    rw [heq]
    refine ⟨by simp [acceptMembershipRecord], fun nodeAddress => ?_⟩
    rw [haccept]
    by_cases haddress : nodeAddress = record.nodeAddress
    · subst haddress
      rw [if_pos rfl, if_pos rfl, hget, keep]
    · rw [if_neg haddress, if_neg haddress]

def recordsAt (records : List MeshMembershipRecord) (nodeAddress : String) :
    List MeshMembershipRecord :=
  records.filter fun record => record.nodeAddress = nodeAddress

variable {records : List MeshMembershipRecord}

theorem mem_recordsAt {nodeAddress : String} : record ∈ recordsAt records nodeAddress ↔
      record ∈ records ∧ record.nodeAddress = nodeAddress := by
  simp [recordsAt]

def IsJoin (js : Conversions) (records : List MeshMembershipRecord) (state : MeshMembershipState) :
    Prop :=
  ∀ nodeAddress, IsMaximum (compareMembershipRecords js) (recordsAt records nodeAddress)
    (state.records.get nodeAddress)

variable [TransCmp js.localeCompare]

theorem IsJoin.merge {state : MeshMembershipState} (h : IsJoin js records state)
    (hspec : ∀ nodeAddress,
      (mergeMeshMembershipRecord js state record).state.records.get nodeAddress =
        if nodeAddress = record.nodeAddress then
          keep (compareMembershipRecords js) (state.records.get nodeAddress) record
        else state.records.get nodeAddress) :
    IsJoin js (records ++ [record]) (mergeMeshMembershipRecord js state record).state := by
  intro nodeAddress
  rw [hspec, recordsAt, filter_append]
  by_cases haddress : nodeAddress = record.nodeAddress
  · subst haddress
    rw [if_pos rfl, filter_singleton, decide_eq_true rfl]
    exact (h _).keep
  · rw [if_neg haddress, filter_singleton, decide_eq_false fun heq => haddress heq.symm,
      cond_false, append_nil]
    exact h nodeAddress

theorem isJoin_create (hseen : ∀ record ∈ records, record.seenAt ≠ .nan)
    (hrefused : ∀ record ∈ records, ¬ Refused js record) :
    IsJoin js records (createMeshMembershipState js records) := by
  induction records using List.reverseRecOn with
  | nil => exact fun nodeAddress => rfl
  | append_singleton records record ih =>
    have hjoin := ih (fun other hother => hseen other (mem_append_left _ hother))
      (fun other hother => hrefused other (mem_append_left _ hother))
    have hlast : record ∈ records ++ [record] :=
      mem_append_right _ (mem_singleton_self record)
    have hcurrent : ∀ current,
        (createMeshMembershipState js records).records.get record.nodeAddress = some current →
          current.seenAt ≠ .nan := by
      intro current hget
      have hmax := hjoin record.nodeAddress
      rw [hget] at hmax
      exact hseen current (mem_append_left _ (mem_recordsAt.mp hmax.1).1)
    rw [createMeshMembershipState, foldl_append, foldl_cons, foldl_nil]
    exact hjoin.merge (merge_spec (hseen record hlast) hcurrent (hrefused record hlast)).2

def SameRecord (js : Conversions) (a b : MeshMembershipRecord) : Prop :=
  compareMeshIncarnation js a.incarnation b.incarnation = .eq ∧ a.state = b.state ∧
    a.seenAt = b.seenAt

/-- Merging the records, in any order and with any repetition, gives a maximum for each node
address, and a record is accepted exactly if it raises the maximum of what was merged before. -/
structure MergeIsJoin (js : Conversions) (records : List MeshMembershipRecord) : Prop where
  maximum : ∀ merged : List MeshMembershipRecord, (∀ record, record ∈ merged ↔ record ∈ records) →
    IsJoin js records (createMeshMembershipState js merged)
  same : ∀ merged merged' : List MeshMembershipRecord,
    (∀ record, record ∈ merged ↔ record ∈ records) →
    (∀ record, record ∈ merged' ↔ record ∈ records) → ∀ nodeAddress, Option.Rel (SameRecord js)
      ((createMeshMembershipState js merged).records.get nodeAddress)
      ((createMeshMembershipState js merged').records.get nodeAddress)
  accepted : ∀ merged : List MeshMembershipRecord, (∀ record ∈ merged, record ∈ records) →
    ∀ record ∈ records,
      (mergeMeshMembershipRecord js (createMeshMembershipState js merged) record).accepted ↔
        ∀ other ∈ recordsAt merged record.nodeAddress,
          compareMembershipRecords js record other = .gt

theorem mergeIsJoin_of_not_refused (hseen : ∀ record ∈ records, record.seenAt ≠ .nan)
    (hrefused : ∀ record ∈ records, ¬ Refused js record) : MergeIsJoin js records := by
  have hjoin : ∀ merged : List MeshMembershipRecord, (∀ record ∈ merged, record ∈ records) →
      IsJoin js merged (createMeshMembershipState js merged) := fun merged hsub =>
    isJoin_create (fun record hrecord => hseen record (hsub record hrecord))
      fun record hrecord => hrefused record (hsub record hrecord)
  have hat : ∀ {merged merged' : List MeshMembershipRecord},
      (∀ record, record ∈ merged ↔ record ∈ merged') → ∀ nodeAddress record,
        record ∈ recordsAt merged nodeAddress ↔ record ∈ recordsAt merged' nodeAddress := by
    intro merged merged' hsame nodeAddress record
    rw [mem_recordsAt, mem_recordsAt, hsame]
  refine ⟨fun merged hsame nodeAddress => ?_, fun merged merged' hsame hsame' nodeAddress => ?_,
    fun merged hsub record hrecord => ?_⟩
  · exact (hjoin merged (fun record => (hsame record).mp) nodeAddress).of_same
      (hat hsame nodeAddress)
  · have hrel := (hjoin merged (fun record => (hsame record).mp) nodeAddress).congr
      (hjoin merged' (fun record => (hsame' record).mp) nodeAddress)
      (hat (fun record => (hsame record).trans (hsame' record).symm) nodeAddress)
    revert hrel
    generalize (createMeshMembershipState js merged).records.get nodeAddress = kept
    generalize (createMeshMembershipState js merged').records.get nodeAddress = kept'
    rintro (heq | _)
    · exact .some (compareMembershipRecords_eq js heq)
    · exact .none
  · have hmax := hjoin merged hsub record.nodeAddress
    have hcurrent : ∀ current,
        (createMeshMembershipState js merged).records.get record.nodeAddress = some current →
          current.seenAt ≠ .nan := by
      intro current hget
      rw [hget] at hmax
      exact hseen current (hsub current (mem_recordsAt.mp hmax.1).1)
    rw [(merge_spec (hseen record hrecord) hcurrent (hrefused record hrecord)).1]
    exact hmax.gt_iff

variable (js) in
/-- The merge is a join for the records exactly if none of them is refused. -/
theorem mergeIsJoin_iff {records : List MeshMembershipRecord}
    (hseen : ∀ record ∈ records, record.seenAt ≠ .nan) :
    (TransCmp (fun left right : MeshIncarnation => compareMeshIncarnation js left right) ∧
      MergeIsJoin js records) ↔ ∀ record ∈ records, ¬ Refused js record := by
  refine ⟨fun ⟨_, hjoin⟩ record hrecord hrefused => ?_, fun hrefused =>
    ⟨inferInstanceAs (TransCmp (Ordering.byKey some (compareMeshIncarnation js))),
      mergeIsJoin_of_not_refused hseen hrefused⟩⟩
  have haccepted := (hjoin.accepted [] (fun _ h => absurd h not_mem_nil) record hrecord).mpr
    fun _ h => absurd h not_mem_nil
  have hproperty : (createMeshMembershipState js []).records.property record.nodeAddress =
      .inherited := by
    rw [OrderedMap.property_of_get_none rfl, if_pos hrefused.1]
  rw [mergeMeshMembershipRecord, hproperty] at haccepted
  simp only [hrefused.2] at haccepted
  exact absurd haccepted (by decide)

def decimal : Conversions where
  number text := if text ≠ "" ∧ text.toList.all Char.isDigit then
      .finite (Nat.ofDigitChars 10 text.toList 0 : Nat) else .nan
  string
    | .finite value => toString value.num
    | .infinite negative => if negative then "-Infinity" else "Infinity"
    | .nan => "NaN"
  localeCompare := compare

instance : TransCmp decimal.localeCompare := inferInstanceAs (TransCmp (compare (α := String)))

def aliveRecord (nodeAddress : String) (incarnation : ℚ) : MeshMembershipRecord where
  nodeAddress := nodeAddress
  incarnation := .number (.finite incarnation)
  state := .alive
  seenAt := .finite 1
  metadata := none

/-- A record of a node that is called `constructor` is never accepted. -/
theorem constructor_not_joined : TransCmp decimal.localeCompare ∧
    ¬ MergeIsJoin decimal [aliveRecord "constructor" 1] := by
  refine ⟨inferInstance, fun hjoin => ?_⟩
  have haccepted := (hjoin.accepted [] (fun _ h => absurd h not_mem_nil)
    (aliveRecord "constructor" 1) (mem_singleton_self _)).mpr
    fun _ h => absurd h not_mem_nil
  exact absurd haccepted (by decide +kernel)

theorem mergeIsJoin_restarted :
    MergeIsJoin decimal [aliveRecord "node-b" 2, aliveRecord "node-b" 1] := by
  refine ((mergeIsJoin_iff decimal fun record hrecord => ?_).mpr
    fun record hrecord hrefused => ?_).2
  · obtain rfl | rfl := mem_pair.mp hrecord <;> decide
  · obtain rfl | rfl := mem_pair.mp hrecord <;> exact absurd hrefused.1 (by decide)

end Join

end ActorWeb.Mesh
