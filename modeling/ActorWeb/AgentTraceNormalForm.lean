import ActorWeb.AgentTraces
import Mathlib.Data.List.Nodup

/-! Parsing puts traces into a normal form. -/

namespace ActorWeb.AgentTraces

open List Std

variable {e : Engine}

structure LocaleOrder (e : Engine) : Prop where
  trans : TransCmp e.localeCompare
  eq_of_compare : ∀ s t, e.localeCompare s t = .eq → s = t

section Sorting

variable {receipts : List Json}

theorem transCmp_compareReceipts (h : TransCmp e.localeCompare) : TransCmp (compareReceipts e) := by
  have hid : TransCmp fun left right => e.localeCompare (receiptIdOf left) (receiptIdOf right) :=
    { eq_swap := OrientedCmp.eq_swap
      isLE_trans := TransCmp.isLE_trans }
  exact inferInstanceAs (TransCmp (compareLex
    (compareLex (compareOn sequenceOf) (compareOn (occurredAtOf e)))
    fun left right => e.localeCompare (receiptIdOf left) (receiptIdOf right)))

theorem compareReceipts_trans (h : TransCmp e.localeCompare) (a b c : Json)
    (hab : decide (compareReceipts e a b ≠ .gt) = true)
    (hbc : decide (compareReceipts e b c ≠ .gt) = true) :
    decide (compareReceipts e a c ≠ .gt) = true := by
  have hcmp := transCmp_compareReceipts h
  simp only [decide_eq_true_eq, ne_eq, ← Ordering.isLE_iff_ne_gt] at *
  exact TransCmp.isLE_trans hab hbc

theorem compareReceipts_total (h : TransCmp e.localeCompare) (a b : Json) :
    (decide (compareReceipts e a b ≠ .gt) || decide (compareReceipts e b a ≠ .gt)) = true := by
  have hcmp := transCmp_compareReceipts h
  rw [Bool.or_eq_true, decide_eq_true_eq, decide_eq_true_eq]
  by_contra hboth
  obtain ⟨hab, hba⟩ := not_or.mp hboth
  have hlt := OrientedCmp.gt_iff_lt.mp (not_not.mp hab)
  rw [not_not.mp hba] at hlt
  cases hlt

theorem sorted_pairwise (h : TransCmp e.localeCompare) (receipts : List Json) :
    (sortAgentExecutionReceipts e receipts).Pairwise fun left right =>
      decide (compareReceipts e left right ≠ .gt) = true :=
  pairwise_mergeSort (compareReceipts_trans h) (compareReceipts_total h) receipts

theorem sort_sort (h : TransCmp e.localeCompare) (receipts : List Json) :
    sortAgentExecutionReceipts e (sortAgentExecutionReceipts e receipts) =
      sortAgentExecutionReceipts e receipts :=
  mergeSort_of_pairwise (sorted_pairwise h receipts)

theorem mem_sort {receipt : Json} :
    receipt ∈ sortAgentExecutionReceipts e receipts ↔ receipt ∈ receipts :=
  (mergeSort_perm _ _).mem_iff

theorem sort_perm (h : LocaleOrder e) {receipts' : List Json} (hperm : receipts.Perm receipts')
    (hids : (receipts.map receiptIdOf).Nodup) :
    sortAgentExecutionReceipts e receipts' = sortAgentExecutionReceipts e receipts := by
  have hcmp := transCmp_compareReceipts h.trans
  refine List.Perm.eq_of_pairwise ?_ (sorted_pairwise h.trans receipts')
    (sorted_pairwise h.trans receipts) ?_
  · intro a b ha hb hab hba
    have ha : a ∈ receipts := hperm.mem_iff.mpr (mem_sort.mp ha)
    have hb : b ∈ receipts := mem_sort.mp hb
    simp only [decide_eq_true_eq, ne_eq, ← Ordering.isLE_iff_ne_gt] at hab hba
    have heq : compareReceipts e a b = .eq := OrientedCmp.isLE_antisymm hab hba
    rw [compareReceipts, Ordering.then_eq_eq] at heq
    exact inj_on_of_nodup_map hids ha hb (h.eq_of_compare _ _ heq.2)
  · exact (mergeSort_perm _ _).trans (hperm.symm.trans (mergeSort_perm _ _).symm)

end Sorting

section Created

variable {v : Json}

theorem created_get (e : Engine) (v : Json) (key : String) :
    (createAgentExecutionTrace e v).get key =
      (([("version", some contractVersion), ("schemaVersion", some contractVersion),
        ("traceId", v.get "traceId"), ("actorId", v.get "actorId"),
        ("sessionId", v.get "sessionId"), ("commandId", v.get "commandId"),
        ("intentId", ifTruthy (v.get "intentId")),
        ("principalId", ifTruthy (v.get "principalId")), ("attempt", v.get "attempt"),
        ("revision", v.get "revision"), ("checkpointId", ifTruthy (v.get "checkpointId")),
        ("correlationId", ifTruthy (v.get "correlationId")),
        ("causationId", ifTruthy (v.get "causationId")),
        ("receipts", some (.arr (sortAgentExecutionReceipts e (receiptsOf v)))),
        ("status", deriveTraceStatus (sortAgentExecutionReceipts e (receiptsOf v))),
        ("lastReceipt", (sortAgentExecutionReceipts e (receiptsOf v)).getLast?)] :
          List (String × Option Json)).lookup key).join := by
  rw [createAgentExecutionTrace]
  exact Json.get_object (by simp) key

theorem ifTruthy_idem (value : Option Json) : ifTruthy (ifTruthy value) = ifTruthy value := by
  simp [ifTruthy, Option.filter_filter]

theorem created_get_kept (e : Engine) (v : Json) {key : String}
    (h : key ∈ ["traceId", "actorId", "sessionId", "commandId", "attempt", "revision"]) :
    (createAgentExecutionTrace e v).get key = v.get key := by
  rw [created_get]
  simp only [mem_cons, not_mem_nil, or_false] at h
  obtain rfl | rfl | rfl | rfl | rfl | rfl := h <;> rfl

theorem created_get_truthy (e : Engine) (v : Json) {key : String}
    (h : key ∈ ["intentId", "principalId", "checkpointId", "correlationId", "causationId"]) :
    (createAgentExecutionTrace e v).get key = ifTruthy (v.get key) := by
  rw [created_get]
  simp only [mem_cons, not_mem_nil, or_false] at h
  obtain rfl | rfl | rfl | rfl | rfl := h <;> rfl

theorem created_get_receipts (e : Engine) (v : Json) :
    (createAgentExecutionTrace e v).get "receipts" =
      some (.arr (sortAgentExecutionReceipts e (receiptsOf v))) := by
  rw [created_get]
  rfl

theorem created_receiptsOf (e : Engine) (v : Json) : receiptsOf (createAgentExecutionTrace e v) =
    sortAgentExecutionReceipts e (receiptsOf v) := by
  rw [receiptsOf, created_get_receipts]

theorem created_idem (h : TransCmp e.localeCompare) (v : Json) :
    createAgentExecutionTrace e (createAgentExecutionTrace e v) = createAgentExecutionTrace e v := by
  have hreceipts : sortAgentExecutionReceipts e (receiptsOf (createAgentExecutionTrace e v)) =
      sortAgentExecutionReceipts e (receiptsOf v) := by
    rw [created_receiptsOf, sort_sort h]
  rw [createAgentExecutionTrace, hreceipts]
  simp only [created_get_kept e v, created_get_truthy e v, ifTruthy_idem, mem_cons, true_or,
    or_true]
  rfl

theorem created_identity (e : Engine) (v : Json) :
    traceIdentity (createAgentExecutionTrace e v) = traceIdentity v := by
  simp only [traceIdentity, created_get_kept e v, created_get_truthy e v, ifTruthy_idem,
    mem_cons, true_or, or_true]

def ShapeValid (e : Engine) (v : Json) : Prop := (shapeChecks e v).all Prod.fst = true

instance : Decidable (ShapeValid e v) := inferInstanceAs (Decidable (_ = true))

theorem parse_eq_ok {w : Json} : parseAgentExecutionTrace e v = .ok w ↔ ShapeValid e v ∧
    findTerminalLineageViolation false (sortAgentExecutionReceipts e (receiptsOf v)) = none ∧
      w = createAgentExecutionTrace e v := by
  have hvalid : ShapeValid e v ↔ ((shapeChecks e v).find? fun check => !check.1) = none := by
    simp only [ShapeValid, all_eq_true, find?_eq_none, Bool.not_eq_eq_eq_not, Bool.not_true,
      Bool.not_eq_false]
  rw [hvalid]
  unfold parseAgentExecutionTrace
  cases (shapeChecks e v).find? fun check => !check.1 with
  | some check => simp
  | none =>
    simp only [created_receiptsOf]
    cases findTerminalLineageViolation false (sortAgentExecutionReceipts e (receiptsOf v)) with
    | some receipt => simp
    | none => simp [eq_comm]

theorem ifTruthy_of_valid {value : Option Json}
    (h : (value.isNone || hasNonEmptyString value) = true) : ifTruthy value = value := by
  obtain _ | v := value
  · rfl
  · cases v with
    | str s =>
      have hs : s ≠ "" := by
        rintro rfl
        exact absurd h (by decide)
      simp [ifTruthy, AgentExecution.JsValue.jsonTruthy, hs]
    | null | bool _ | num _ | arr _ | obj _ => simp [hasNonEmptyString] at h

theorem created_shapeValid (h : ShapeValid e v) : ShapeValid e (createAgentExecutionTrace e v) := by
  have hversion : versionOf (createAgentExecutionTrace e v) = some contractVersion := by
    rw [versionOf, created_get]
    rfl
  simp only [ShapeValid, shapeChecks, all_cons, all_nil, Bool.and_eq_true, Bool.and_true] at h ⊢
  obtain ⟨-, -, htrace, hactor, hsession, hcommand, hintent, hprincipal, hattempt, hrevision,
    hcheckpoint, -, hreceipts⟩ := h
  have hvalid : areValidReceipts e (createAgentExecutionTrace e v) = true := by
    rw [areValidReceipts, all_eq_true] at hreceipts ⊢
    rw [created_identity, created_receiptsOf]
    exact fun receipt hreceipt => hreceipts receipt (mem_sort.mp hreceipt)
  simp only [created_get_kept e v, created_get_truthy e v, ifTruthy_of_valid hintent,
    ifTruthy_of_valid hprincipal, ifTruthy_of_valid hcheckpoint, created_get_receipts, hversion,
    mem_cons, true_or, or_true]
  exact ⟨rfl, rfl, htrace, hactor, hsession, hcommand, hintent, hprincipal, hattempt, hrevision,
    hcheckpoint, rfl, hvalid⟩

end Created

section NormalForm

variable {v w : Json}

def Lineage (receipts : List Json) : Prop :=
  receipts.Pairwise fun earlier later =>
    isTerminalReceipt earlier = true → isPostTerminalAllowed later = true

theorem findTerminalLineageViolation_eq_none (terminalSeen : Bool) (receipts : List Json) :
    findTerminalLineageViolation terminalSeen receipts = none ↔
      (terminalSeen = true → ∀ receipt ∈ receipts, isPostTerminalAllowed receipt = true) ∧
        Lineage receipts := by
  induction receipts generalizing terminalSeen with
  | nil => simp [findTerminalLineageViolation, Lineage]
  | cons receipt receipts ih =>
    rw [findTerminalLineageViolation]
    split
    case isTrue hbroken =>
      rw [Bool.and_eq_true, Bool.not_eq_true'] at hbroken
      refine iff_of_false (by simp) fun h => ?_
      have hallowed := h.1 hbroken.1 receipt mem_cons_self
      rw [hbroken.2] at hallowed
      cases hallowed
    case isFalse hkept =>
      have hallowed : terminalSeen = true → isPostTerminalAllowed receipt = true := by
        intro hseen
        simpa [hseen] using hkept
      rw [ih, Lineage, Lineage, pairwise_cons, Bool.or_eq_true]
      constructor
      · rintro ⟨hrest, hlineage⟩
        refine ⟨fun hseen => forall_mem_cons.mpr ⟨hallowed hseen, hrest (.inl hseen)⟩, ?_⟩
        exact ⟨fun later hlater hterminal => hrest (.inr hterminal) later hlater, hlineage⟩
      · rintro ⟨hseen, hfirst, hlineage⟩
        refine ⟨fun h later hlater => ?_, hlineage⟩
        exact h.elim (fun hs => hseen hs later (mem_cons_of_mem _ hlater)) (hfirst later hlater)

/-- A value whose receipts are those of another one in another order. -/
structure Permuted (v v' : Json) : Prop where
  same : ∀ key, key ≠ "receipts" → v'.get key = v.get key
  perm : ∃ receipts receipts', v.get "receipts" = some (.arr receipts) ∧
    v'.get "receipts" = some (.arr receipts') ∧ receipts.Perm receipts'

theorem parse_normal (h : TransCmp e.localeCompare) (hw : parseAgentExecutionTrace e v = .ok w) :
    parseAgentExecutionTrace e w = .ok w := by
  obtain ⟨hshape, hlineage, rfl⟩ := parse_eq_ok.mp hw
  refine parse_eq_ok.mpr ⟨created_shapeValid hshape, ?_, (created_idem h v).symm⟩
  rwa [created_receiptsOf, sort_sort h]

theorem Permuted.receipts {v' : Json} (h : Permuted v v') :
    (receiptsOf v).Perm (receiptsOf v') ∧ isArray (v'.get "receipts") = true ∧ isObject v' = true := by
  obtain ⟨receipts, receipts', hget, hget', hperm⟩ := h.perm
  refine ⟨by rwa [receiptsOf, receiptsOf, hget, hget'], by rw [hget']; rfl, ?_⟩
  cases v' with
  | obj _ | arr _ => rfl
  | null | bool _ | num _ | str _ => cases hget'

theorem created_permuted (horder : LocaleOrder e) {v' : Json} (h : Permuted v v')
    (hids : ((receiptsOf v).map receiptIdOf).Nodup) :
    createAgentExecutionTrace e v' = createAgentExecutionTrace e v := by
  simp only [createAgentExecutionTrace, sort_perm horder h.receipts.1 hids,
    h.same "traceId" (by decide), h.same "actorId" (by decide), h.same "sessionId" (by decide),
    h.same "commandId" (by decide), h.same "intentId" (by decide), h.same "principalId" (by decide),
    h.same "attempt" (by decide), h.same "revision" (by decide), h.same "checkpointId" (by decide),
    h.same "correlationId" (by decide), h.same "causationId" (by decide)]

theorem shapeValid_permuted {v' : Json} (h : Permuted v v') (hshape : ShapeValid e v) :
    ShapeValid e v' := by
  obtain ⟨hperm, harray, hobject⟩ := h.receipts
  have hidentity : traceIdentity v' = traceIdentity v := by
    simp only [traceIdentity, h.same "traceId" (by decide), h.same "actorId" (by decide),
      h.same "sessionId" (by decide), h.same "commandId" (by decide), h.same "intentId" (by decide),
      h.same "principalId" (by decide), h.same "attempt" (by decide), h.same "revision" (by decide),
      h.same "checkpointId" (by decide)]
  have hreceipts : areValidReceipts e v' = areValidReceipts e v := by
    rw [areValidReceipts, areValidReceipts, hidentity, hperm.all_eq]
  have hversion : versionOf v' = versionOf v := by
    rw [versionOf, versionOf, h.same "schemaVersion" (by decide), h.same "version" (by decide)]
  simp only [ShapeValid, shapeChecks, all_cons, all_nil, Bool.and_eq_true, Bool.and_true,
    hversion, hreceipts, h.same "traceId" (by decide), h.same "actorId" (by decide),
    h.same "sessionId" (by decide), h.same "commandId" (by decide), h.same "intentId" (by decide),
    h.same "principalId" (by decide), h.same "attempt" (by decide), h.same "revision" (by decide),
    h.same "checkpointId" (by decide)] at hshape ⊢
  obtain ⟨-, hversion, htrace, hactor, hsession, hcommand, hintent, hprincipal, hattempt, hrevision,
    hcheckpoint, -, hvalid⟩ := hshape
  exact ⟨hobject, hversion, htrace, hactor, hsession, hcommand, hintent, hprincipal, hattempt,
    hrevision, hcheckpoint, harray, hvalid⟩

/-- Accepted traces are in normal form, the order of the receipts does not matter, and a trace of
the right shape is accepted exactly if its lineage is. -/
theorem trace_normal_form (e : Engine) (horder : LocaleOrder e) :
    (∀ v w, parseAgentExecutionTrace e v = .ok w → parseAgentExecutionTrace e w = .ok w ∧
      ∀ gap, (Json.parse (w.stringify gap)).map (parseAgentExecutionTrace e) = some (.ok w)) ∧
    (∀ v v' w, parseAgentExecutionTrace e v = .ok w → Permuted v v' →
      ((receiptsOf v).map receiptIdOf).Nodup → parseAgentExecutionTrace e v' = .ok w) ∧
    ∀ v, ShapeValid e v → ((∃ w, parseAgentExecutionTrace e v = .ok w) ↔
      Lineage (sortAgentExecutionReceipts e (receiptsOf v))) := by
  refine ⟨fun v w hw => ?_, fun v v' w hw h hids => ?_, fun v hshape => ?_⟩
  · have hnormal := parse_normal horder.trans hw
    refine ⟨hnormal, fun gap => ?_⟩
    rw [Json.parse_stringify, Option.map_some, hnormal]
  · obtain ⟨hshape, hlineage, rfl⟩ := parse_eq_ok.mp hw
    refine parse_eq_ok.mpr ⟨shapeValid_permuted h hshape, ?_, (created_permuted horder h hids).symm⟩
    rwa [sort_perm horder h.receipts.1 hids]
  · have hnone := findTerminalLineageViolation_eq_none false
      (sortAgentExecutionReceipts e (receiptsOf v))
    constructor
    · rintro ⟨w, hw⟩
      exact (hnone.mp (parse_eq_ok.mp hw).2.1).2
    · intro hlineage
      exact ⟨_, parse_eq_ok.mpr ⟨hshape, hnone.mpr ⟨fun h => absurd h (by decide), hlineage⟩, rfl⟩⟩

def plainEngine : Engine where
  dateParse := JsText.dateParse
  localeCompare := compare

def resultTrace : Json :=
  .obj [("version", one), ("traceId", .str "trace"), ("actorId", .str "actor"),
    ("sessionId", .str "session"), ("commandId", .str "command"),
    ("receipts", .arr [.obj [("receiptId", .str "receipt"), ("recordId", .str "record"),
      ("traceId", .str "trace"), ("actorId", .str "actor"), ("sessionId", .str "session"),
      ("commandId", .str "command"), ("receiptKind", .str "result"), ("status", .str "succeeded"),
      ("sequence", one), ("occurredAt", .str "2025-01-01T00:00:00.000Z"),
      ("result", .obj [("output", .str "done")])]])]

theorem resultTrace_accepted : ∃ w, parseAgentExecutionTrace plainEngine resultTrace = .ok w := by
  have horder : LocaleOrder plainEngine :=
    { trans := inferInstanceAs (TransCmp (compare : String → String → Ordering))
      eq_of_compare := fun s t h => Std.compare_eq_iff_eq.mp h }
  have hsorted : sortAgentExecutionReceipts plainEngine (receiptsOf resultTrace) =
      receiptsOf resultTrace := mergeSort_singleton _
  refine ((trace_normal_form plainEngine horder).2.2 resultTrace (by decide +kernel)).mpr ?_
  rw [hsorted]
  exact pairwise_singleton _ _

end NormalForm

end ActorWeb.AgentTraces
