import ActorWeb.ToolDelivery
import Mathlib.Data.List.Induction

namespace ActorWeb

open Option

open List hiding le_antisymm le_refl lt_irrefl not_lt

section Truncation

theorem truncate_intCast (n : Int) : truncate (n : ℚ) = n := by
  unfold truncate
  split
  · exact Int.ceil_intCast n
  · exact Int.floor_intCast n

theorem truncate_nonneg {q : ℚ} (h : 0 ≤ q) : truncate q = ⌊q⌋ := if_neg (not_lt.mpr h)

theorem one_le_truncate {q : ℚ} (h : 1 ≤ q) : 1 ≤ truncate q := by
  rw [truncate_nonneg (by linarith)]
  exact Int.le_floor.mpr (by simpa using h)

theorem truncate_below {q : ℚ} (hpos : 0 ≤ q) (h : q < 1) : truncate q = 0 := by
  rw [truncate_nonneg hpos]
  exact Int.floor_eq_zero_iff.mpr ⟨hpos, h⟩

theorem pos_of_truncate_pos {q : ℚ} (h : 0 < truncate q) : 0 < q := by
  by_contra hneg
  have hle : truncate q ≤ 0 := by
    unfold truncate
    split
    case isTrue hlt => exact Int.ceil_le.mpr (by simpa using hlt.le)
    case isFalse hge =>
      have hzero : q = 0 := le_antisymm (not_lt.mp hneg) (not_lt.mp hge)
      rw [hzero, Int.floor_zero]
  omega

end Truncation

namespace ToolDelivery

open JsText

variable {activation : Activation} {attempt ackTimeoutMs maxAttempts : JsNumber} {first : Attempt}

theorem positive_eq_some {n : JsNumber} {q : ℚ} : positive n = some q ↔ n = .finite q ∧ 0 < q := by
  cases n with
  | finite p =>
    simp only [positive, JsNumber.finite?, filter_eq_some_iff, some.injEq,
      decide_eq_true_eq, JsNumber.finite.injEq]
  | infinite negative => simp [positive, JsNumber.finite?]
  | nan => simp [positive, JsNumber.finite?]

theorem createAttempt_ok : createAttempt activation attempt ackTimeoutMs = .ok first ↔
      ∃ a t, attempt = .finite a ∧ 0 < a ∧ ackTimeoutMs = .finite t ∧ 0 < t ∧
        hasNonEmptyString activation.toolName = true ∧
        first = { activation, attempt := truncate a, ackTimeoutMs := truncate t } := by
  unfold createAttempt
  split
  case h_1 a t ha ht =>
    obtain ⟨rfl, hapos⟩ := positive_eq_some.mp ha
    obtain ⟨rfl, htpos⟩ := positive_eq_some.mp ht
    by_cases hname : hasNonEmptyString activation.toolName = true
    · simp [hname, hapos, htpos, eq_comm]
    · simp [hname]
  case h_2 hnone =>
    refine ⟨nofun, ?_⟩
    rintro ⟨a, t, rfl, ha, rfl, ht, -⟩
    exact absurd (positive_eq_some.mpr ⟨rfl, ht⟩)
      (hnone a t (positive_eq_some.mpr ⟨rfl, ha⟩))

section Chain

structure Reading where
  elapsedMs : JsNumber
  acknowledged : Bool

/-- One activation that is emitted again whenever the evaluation says so: the numbers it was
emitted under, the attempts that were over with the reading that ended them, and the attempt that
is waited for. -/
structure Chain where
  emitted : List Int
  expired : List (Attempt × Reading)
  current : Option Attempt

def Chain.start (a : Attempt) : Chain := { emitted := [a.attempt], expired := [], current := some a }

def Chain.next (ackTimeoutMs maxAttempts : JsNumber) (c : Chain) (r : Reading) : Chain :=
  match c.current with
  | none => c
  | some a =>
    match evaluateAckTimeout a r.elapsedMs r.acknowledged maxAttempts with
    | .wait _ _ => c
    | .acked _ => { c with current := none }
    | .failed _ => { c with expired := c.expired ++ [(a, r)], current := none }
    | .reemit command =>
      match createAttempt command.activation (.finite command.attempt) ackTimeoutMs with
      | .error _ => { c with expired := c.expired ++ [(a, r)], current := none }
      | .ok b =>
        { emitted := c.emitted ++ [b.attempt], expired := c.expired ++ [(a, r)],
          current := some b }

def Chain.run (ackTimeoutMs maxAttempts : JsNumber) (first : Attempt) (readings : List Reading) :
    Chain :=
  readings.foldl (Chain.next ackTimeoutMs maxAttempts) (Chain.start first)

def numbers (n : Nat) : List Int := (List.range n).map fun i : Nat => (i : Int) + 1

theorem numbers_succ (n : Nat) : numbers (n + 1) = numbers n ++ [(n : Int) + 1] := by
  rw [numbers, range_succ, map_append, map_singleton, numbers]

/-- The attempts are numbered from one, a limit bounds them, each is waited for, and there is none
after an acknowledgement. -/
structure Bounded (ackTimeoutMs maxAttempts : JsNumber) (first : Attempt)
    (readings : List Reading) : Prop where
  numbered : (Chain.run ackTimeoutMs maxAttempts first readings).emitted =
    numbers (Chain.run ackTimeoutMs maxAttempts first readings).emitted.length
  limited : ∀ q, maxAttempts = .finite q →
    ((Chain.run ackTimeoutMs maxAttempts first readings).emitted.length : Int) ≤ truncate q
  waited : ∀ e ∈ (Chain.run ackTimeoutMs maxAttempts first readings).expired,
    JsNumber.lt (.finite 0) e.2.elapsedMs = true ∧ 0 < e.1.ackTimeoutMs ∧
      e.1.ackTimeoutMs ≤ elapsedOf e.2.elapsedMs
  ended : ∀ before r after, readings = before ++ r :: after → r.acknowledged = true →
    (Chain.run ackTimeoutMs maxAttempts first readings).emitted =
      (Chain.run ackTimeoutMs maxAttempts first before).emitted

variable {c : Chain} {r : Reading} {readings : List Reading}

theorem Chain.next_ended (h : c.current = none) : c.next ackTimeoutMs maxAttempts r = c := by
  rw [Chain.next, h]

theorem Chain.foldl_ended (h : c.current = none) :
    readings.foldl (Chain.next ackTimeoutMs maxAttempts) c = c := by
  induction readings with
  | nil => rfl
  | cons r readings ih => rw [foldl_cons, Chain.next_ended h, ih]

theorem Chain.next_acknowledged (ackTimeoutMs maxAttempts : JsNumber) (c : Chain)
    (h : r.acknowledged = true) : (c.next ackTimeoutMs maxAttempts r).emitted = c.emitted ∧
      (c.next ackTimeoutMs maxAttempts r).current = none := by
  unfold Chain.next
  split
  case h_1 hnone => exact ⟨rfl, hnone⟩
  case h_2 a ha => simp [evaluateAckTimeout, h]

theorem Chain.run_append (before after : List Reading) :
    Chain.run ackTimeoutMs maxAttempts first (before ++ after) =
      after.foldl (Chain.next ackTimeoutMs maxAttempts)
        (Chain.run ackTimeoutMs maxAttempts first before) :=
  foldl_append

/-- What a chain keeps when the numbers of the first attempt are at least one. -/
structure Chain.Sound (activation : Activation) (timeout limit : Int) (c : Chain) : Prop where
  numbered : c.emitted = numbers c.emitted.length
  limited : (c.emitted.length : Int) ≤ limit
  current : ∀ a, c.current = some a →
    a = { activation, attempt := c.emitted.length, ackTimeoutMs := timeout }
  waited : ∀ e ∈ c.expired, e.1.ackTimeoutMs = timeout ∧ timeout ≤ elapsedOf e.2.elapsedMs

variable {timeout limit : Int}

theorem evaluateAckTimeout_cases (a : Attempt) (elapsedMs : JsNumber) (acknowledged : Bool)
    (maxAttempts : JsNumber) :
    (∃ id, evaluateAckTimeout a elapsedMs acknowledged maxAttempts = .acked id) ∨
    (∃ id ms, evaluateAckTimeout a elapsedMs acknowledged maxAttempts = .wait id ms) ∨
    (∃ f, evaluateAckTimeout a elapsedMs acknowledged maxAttempts = .failed f ∧
      a.ackTimeoutMs ≤ elapsedOf elapsedMs) ∨
    (evaluateAckTimeout a elapsedMs acknowledged maxAttempts =
        .reemit { activation := a.activation, attempt := a.attempt + 1 } ∧
      a.ackTimeoutMs ≤ elapsedOf elapsedMs ∧ a.attempt < attemptLimit maxAttempts) := by
  unfold evaluateAckTimeout
  split_ifs with hack hwait hlimit
  · exact .inl ⟨_, rfl⟩
  · exact .inr (.inl ⟨_, _, rfl⟩)
  · exact .inr (.inr (.inl ⟨_, rfl, by omega⟩))
  · exact .inr (.inr (.inr ⟨rfl, by omega, by omega⟩))

theorem Chain.Sound.expire (h : c.Sound activation timeout limit) {a : Attempt}
    (ha : c.current = some a) (hwait : a.ackTimeoutMs ≤ elapsedOf r.elapsedMs) :
    ∀ e ∈ c.expired ++ [(a, r)],
      e.1.ackTimeoutMs = timeout ∧ timeout ≤ elapsedOf e.2.elapsedMs := by
  intro e he
  rcases mem_append.mp he with he | he
  · exact h.waited e he
  · obtain rfl := mem_singleton.mp he
    have htime : a.ackTimeoutMs = timeout := by rw [h.current a ha]
    exact ⟨htime, htime ▸ hwait⟩

theorem Chain.Sound.next (hname : hasNonEmptyString activation.toolName = true) {t : ℚ}
    (ht : 0 < t) (h : c.Sound activation (truncate t) (attemptLimit maxAttempts)) :
    (c.next (.finite t) maxAttempts r).Sound activation (truncate t) (attemptLimit maxAttempts) := by
  cases hc : c.current with
  | none =>
    rw [Chain.next_ended hc]
    exact h
  | some a =>
    unfold Chain.next
    rw [hc]
    rcases evaluateAckTimeout_cases a r.elapsedMs r.acknowledged maxAttempts with
      ⟨id, heval⟩ | ⟨id, ms, heval⟩ | ⟨f, heval, hwait⟩ | ⟨heval, hwait, hlimit⟩
    · simp only [heval]
      exact { h with current := fun b hb => by cases hb }
    · simp only [heval]
      exact h
    · simp only [heval]
      exact { h with
        current := fun b hb => by cases hb
        waited := h.expire hc hwait }
    · -- The command gives the next number, which is positive, so the attempt is accepted.
      have hcur := h.current a hc
      have hpos : (0 : ℚ) < ((a.attempt + 1 : Int) : ℚ) := by
        have : 0 < a.attempt + 1 := by rw [hcur]; positivity
        exact_mod_cast this
      have hactivation : a.activation = activation := by rw [hcur]
      have hok : createAttempt activation (.finite (a.attempt + 1 : Int)) (.finite t) =
          .ok { activation, attempt := a.attempt + 1, ackTimeoutMs := truncate t } :=
        createAttempt_ok.mpr ⟨_, t, rfl, hpos, rfl, ht, hname, by rw [truncate_intCast]⟩
      simp only [heval, hactivation, hok]
      have hnumber : a.attempt = c.emitted.length := by rw [hcur]
      refine ⟨?_, ?_, ?_, h.expire hc hwait⟩
      · rw [length_append, length_singleton, numbers_succ, ← h.numbered, hnumber]
      · simp only [length_append, length_singleton]
        push_cast
        omega
      · rintro b ⟨⟩
        simp [hnumber]

theorem Chain.Sound.run (hname : hasNonEmptyString activation.toolName = true) {t : ℚ}
    (ht : 0 < t) (h : (Chain.start first).Sound activation (truncate t) (attemptLimit maxAttempts))
    (readings : List Reading) :
    (Chain.run (.finite t) maxAttempts first readings).Sound activation (truncate t)
      (attemptLimit maxAttempts) := by
  induction readings using List.reverseRecOn with
  | nil => exact h
  | append_singleton readings r ih =>
    rw [Chain.run_append]
    exact Chain.Sound.next hname ht ih

theorem one_le_attemptLimit (h : JsNumber.le (.finite 1) maxAttempts = true) :
    1 ≤ attemptLimit maxAttempts := by
  cases maxAttempts with
  | finite q =>
    have hq : 1 ≤ q := JsNumber.le_finite.mp h
    rw [attemptLimit, positive_eq_some.mpr ⟨rfl, by linarith⟩]
    exact one_le_truncate hq
  | infinite negative => exact le_refl 1
  | nan => exact le_refl 1

theorem attemptLimit_finite {q : ℚ} (h : 0 < q) : attemptLimit (.finite q) = truncate q := by
  rw [attemptLimit, positive_eq_some.mpr ⟨rfl, h⟩]
  rfl

theorem lt_of_elapsedOf {elapsedMs : JsNumber} (h : 0 < elapsedOf elapsedMs) :
    JsNumber.lt (.finite 0) elapsedMs = true := by
  cases elapsedMs with
  | finite q =>
    have htruncate : 0 < truncate q := by
      rcases lt_max_iff.mp h with h | h
      · exact absurd h (lt_irrefl 0)
      · exact h
    exact JsNumber.lt_finite.mpr (pos_of_truncate_pos htruncate)
  | infinite negative => exact absurd h (lt_irrefl 0)
  | nan => exact absurd h (lt_irrefl 0)

theorem emitted_after_acknowledged (before : List Reading) (r : Reading) (after : List Reading)
    (h : r.acknowledged = true) :
    (Chain.run ackTimeoutMs maxAttempts first (before ++ r :: after)).emitted =
      (Chain.run ackTimeoutMs maxAttempts first before).emitted := by
  obtain ⟨hemitted, hended⟩ := Chain.next_acknowledged ackTimeoutMs maxAttempts
    (Chain.run ackTimeoutMs maxAttempts first before) h
  rw [Chain.run_append, foldl_cons, Chain.foldl_ended hended, hemitted]

theorem bounded_of_one_le (hfirst : createAttempt activation attempt ackTimeoutMs = .ok first)
    (hone : JsNumber.le attempt (.finite 1) = true)
    (hmax : JsNumber.le (.finite 1) maxAttempts = true)
    (hattempt : JsNumber.le (.finite 1) attempt = true)
    (htimeout : JsNumber.le (.finite 1) ackTimeoutMs = true) (readings : List Reading) :
    Bounded ackTimeoutMs maxAttempts first readings := by
  obtain ⟨a, t, rfl, -, rfl, ht, hname, rfl⟩ := createAttempt_ok.mp hfirst
  have ha : a = 1 := le_antisymm (JsNumber.le_finite.mp hone) (JsNumber.le_finite.mp hattempt)
  have htrunc : truncate a = 1 := by rw [ha]; exact truncate_intCast 1
  have hpos : 1 ≤ truncate t := one_le_truncate (JsNumber.le_finite.mp htimeout)
  have hstart : (Chain.start { activation, attempt := truncate a, ackTimeoutMs := truncate t }).Sound
      activation (truncate t) (attemptLimit maxAttempts) := by
    refine ⟨?_, one_le_attemptLimit hmax, ?_, fun e he => absurd he not_mem_nil⟩
    · rw [Chain.start, htrunc]
      rfl
    · rintro b ⟨⟩
      rw [htrunc]
      rfl
  have hsound := Chain.Sound.run hname ht hstart readings
  refine ⟨hsound.numbered, ?_, ?_, ?_⟩
  · rintro q rfl
    have hq : 1 ≤ q := JsNumber.le_finite.mp hmax
    exact le_of_le_of_eq hsound.limited (attemptLimit_finite (by linarith))
  · intro e he
    obtain ⟨htime, hwait⟩ := hsound.waited e he
    exact ⟨lt_of_elapsedOf (by omega), by omega, by omega⟩
  · rintro before r after rfl hr
    exact emitted_after_acknowledged before r after hr

theorem Chain.next_expired (ackTimeoutMs maxAttempts : JsNumber) {a : Attempt}
    (hcur : c.current = some a) (hack : r.acknowledged = false)
    (hwait : a.ackTimeoutMs ≤ elapsedOf r.elapsedMs) :
    (a, r) ∈ (c.next ackTimeoutMs maxAttempts r).expired := by
  have hover : ¬ 0 < max 0 (a.ackTimeoutMs - elapsedOf r.elapsedMs) := by omega
  have hmem : (a, r) ∈ c.expired ++ [(a, r)] := mem_append_right _ mem_cons_self
  simp only [Chain.next, hcur, evaluateAckTimeout, hack, Bool.false_eq_true, if_false, if_neg hover]
  by_cases hlimit : attemptLimit maxAttempts ≤ a.attempt
  · simpa only [if_pos hlimit] using hmem
  · rw [if_neg hlimit]
    dsimp only
    split
    · exact hmem
    · exact hmem

theorem one_le_of_bounded (hfirst : createAttempt activation attempt ackTimeoutMs = .ok first)
    (h : ∀ readings, Bounded ackTimeoutMs maxAttempts first readings) :
    JsNumber.le (.finite 1) attempt = true ∧ JsNumber.le (.finite 1) ackTimeoutMs = true := by
  obtain ⟨a, t, rfl, ha, rfl, ht, hname, rfl⟩ := createAttempt_ok.mp hfirst
  constructor
  · refine JsNumber.le_finite.mpr (not_lt.mp fun hlt => ?_)
    have hnumbered := (h []).numbered
    rw [Chain.run, foldl_nil, Chain.start, truncate_below ha.le hlt] at hnumbered
    have hzero : (0 : Int) = 0 + 1 := (List.cons.inj hnumbered).1
    omega
  · refine JsNumber.le_finite.mpr (not_lt.mp fun hlt => ?_)
    -- The attempt is over at its first look, before any time has passed.
    have hover : truncate t ≤ elapsedOf (.finite 0) := by
      rw [truncate_below ht.le hlt]
      exact le_max_left _ _
    have hend := Chain.next_expired (.finite t) maxAttempts (c := Chain.start
      { activation, attempt := truncate a, ackTimeoutMs := truncate t }) (r := ⟨.finite 0, false⟩)
      rfl rfl hover
    have hlt := ((h [⟨.finite 0, false⟩]).waited _ hend).1
    exact absurd (JsNumber.lt_finite.mp hlt) (lt_irrefl 0)

end Chain

section Claims

def Call.claims (id : String) : Call → Bool
  | .claim input => input.activationId = id
  | .acknowledge _ => false

def Call.input? : Call → Option Activation
  | .claim input => some input
  | .acknowledge _ => none

def Call.ack? : Call → Option Ack
  | .claim _ => none
  | .acknowledge a => some a

def sinceClaim (id : String) (calls : List Call) : List Call :=
  calls.dropWhile fun c => !c.claims id

def claimed? (id : String) (calls : List Call) : Option Activation :=
  (sinceClaim id calls).head?.bind Call.input?

/-- The first acknowledgement after the first claim of an id that has the key and the tool name of
that claim. -/
def acknowledged? (input : Activation) (calls : List Call) : Option Ack :=
  ((sinceClaim input.activationId calls).filterMap Call.ack?).find? fun a => a.activation = input

def Provider.answers (p : Provider) : List Call → List Result
  | [] => []
  | c :: calls => (p.call c).2 :: Provider.answers (p.call c).1 calls

def Result.claims (id : String) : Result → Bool
  | .claimed input => input.activationId = id
  | _ => false

/-- An id is claimed once, the first acknowledgement that matches its claim is the answer to all
that match, and one that does not match is refused without a trace. -/
structure Kept (calls : List Call) : Prop where
  once : ∀ id, ((Provider.answers OrderedMap.empty calls).countP (Result.claims id)) ≤ 1
  matching : ∀ a, claimed? a.activation.activationId calls = some a.activation →
    ((Provider.after calls).call (.acknowledge a)).2 =
        .acked ((acknowledged? a.activation calls).getD a) ∧
      acknowledged? a.activation (calls ++ [.acknowledge a]) =
        some ((acknowledged? a.activation calls).getD a)
  refused : ∀ a input, claimed? a.activation.activationId calls = some input →
    a.activation ≠ input →
    (Provider.after calls).call (.acknowledge a) = (Provider.after calls, .error
      { code := .acknowledgeFailed
        message := "Actor tool delivery ack did not match the claimed activation facts."
        retryable := false
        details := .mismatch input.activationId input.idempotencyKey a.activation.idempotencyKey
          input.toolName a.activation.toolName })

variable {calls : List Call} {id : String} {input : Activation}

theorem after_append (calls : List Call) (c : Call) :
    Provider.after (calls ++ [c]) = ((Provider.after calls).call c).1 := by
  rw [Provider.after, foldl_append]
  rfl

theorem answers_append (p : Provider) (calls : List Call) (c : Call) : p.answers (calls ++ [c]) =
      p.answers calls ++ [((calls.foldl (fun p c => (p.call c).1) p).call c).2] := by
  induction calls generalizing p with
  | nil => rfl
  | cons d calls ih =>
    rw [cons_append, Provider.answers, ih]
    rfl

theorem sinceClaim_append (id : String) (calls : List Call) (c : Call) :
    sinceClaim id (calls ++ [c]) =
      if sinceClaim id calls = [] then (if c.claims id then [c] else [])
      else sinceClaim id calls ++ [c] := by
  rw [sinceClaim, dropWhile_append]
  simp only [List.isEmpty_iff, sinceClaim, dropWhile_cons, dropWhile_nil,
    Bool.not_eq_true']
  by_cases h : c.claims id = true
  · simp [h]
  · simp [h]

theorem sinceClaim_cases (id : String) (calls : List Call) :
    sinceClaim id calls = [] ∧ claimed? id calls = none ∨
    ∃ input rest, sinceClaim id calls = .claim input :: rest ∧ input.activationId = id ∧
      claimed? id calls = some input := by
  cases hsince : sinceClaim id calls with
  | nil => exact .inl ⟨rfl, by rw [claimed?, hsince]; rfl⟩
  | cons c rest =>
    have hclaims : c.claims id = true := by
      have hhead := head?_dropWhile_not (fun c : Call => !c.claims id) calls
      rw [show calls.dropWhile (fun c => !c.claims id) = c :: rest from hsince] at hhead
      simpa using hhead
    cases c with
    | claim input =>
      exact .inr ⟨input, rest, rfl, of_decide_eq_true hclaims, by rw [claimed?, hsince]; rfl⟩
    | acknowledge a => cases hclaims

theorem claimed?_id (h : claimed? id calls = some input) : input.activationId = id := by
  rcases sinceClaim_cases id calls with ⟨-, hnone⟩ | ⟨input', rest, -, hid, hsome⟩
  · rw [hnone] at h
    cases h
  · rw [hsome] at h
    cases h
    exact hid

theorem claimed?_append (id : String) (calls : List Call) (c : Call) : claimed? id (calls ++ [c]) =
      (claimed? id calls).or (if c.claims id then c.input? else none) := by
  rw [claimed?, sinceClaim_append]
  rcases sinceClaim_cases id calls with ⟨hnil, hnone⟩ | ⟨input, rest, hcons, -, hsome⟩
  · rw [if_pos hnil, hnone, none_or]
    split
    · rfl
    · rfl
  · rw [if_neg (by rw [hcons]; exact cons_ne_nil _ _), hcons, hsome, some_or]
    rfl

theorem acknowledged?_append (h : claimed? input.activationId calls = some input) (c : Call) :
    acknowledged? input (calls ++ [c]) =
      (acknowledged? input calls).or (c.ack?.filter fun a => a.activation = input) := by
  rcases sinceClaim_cases input.activationId calls with ⟨-, hnone⟩ | ⟨input', rest, hcons, -, -⟩
  · rw [hnone] at h
    cases h
  · rw [acknowledged?, sinceClaim_append, if_neg (by rw [hcons]; exact cons_ne_nil _ _),
      filterMap_append, find?_append, ← acknowledged?]
    cases c with
    | claim input'' => rfl
    | acknowledge a => simp [Call.ack?, filter_some]

theorem acknowledged?_claim (h : claimed? input.activationId calls = none) :
    acknowledged? input (calls ++ [.claim input]) = none := by
  rcases sinceClaim_cases input.activationId calls with ⟨hnil, -⟩ | ⟨_, _, -, -, hsome⟩
  · rw [acknowledged?, sinceClaim_append, if_pos hnil]
    simp [Call.claims, Call.ack?]
  · rw [hsome] at h
    cases h

theorem claim_get (p : Provider) (input : Activation) (id : String) : (claim p input).1.get id =
      (p.get id).or (if input.activationId = id then some { input, ack := none } else none) := by
  unfold claim
  split
  case h_1 e he =>
    by_cases hid : input.activationId = id
    · rw [← hid, he, some_or]
    · rw [if_neg hid, or_none]
  case h_2 hnone =>
    rw [OrderedMap.get_set]
    by_cases hid : input.activationId = id
    · rw [if_pos hid.symm, if_pos hid, ← hid, hnone, none_or]
    · rw [if_neg (Ne.symm hid), if_neg hid, or_none]

theorem acknowledge_get (p : Provider) (a : Ack) (id : String) :
    (acknowledge p a).1.get id = (p.get id).map fun e =>
      { input := e.input
        ack := e.ack.or <|
          if a.activation.activationId = id ∧ e.matches a = true then some a else none } := by
  by_cases hid : a.activation.activationId = id
  · subst hid
    unfold acknowledge
    split
    case h_1 hnone => rw [hnone, map_none]
    case h_2 e he =>
      by_cases hmatches : e.matches a = true
      · obtain ⟨input, ack⟩ := e
        cases ack with
        | some kept => simp [hmatches, he]
        | none => simp [hmatches, he]
      · simp [hmatches, he]
  · have hsame : (acknowledge p a).1.get id = p.get id := by
      unfold acknowledge
      split
      case h_1 => rfl
      case h_2 e he =>
        split_ifs
        · rfl
        · cases hack : e.ack with
          | some kept => rfl
          | none => exact OrderedMap.get_set_ne p _ (Ne.symm hid)
    simp [hsame, hid]

theorem matches_iff {a : Ack} (kept : Option Ack) :
    (a.activation.activationId = input.activationId ∧
      Entry.matches { input, ack := kept } a = true) ↔ a.activation = input := by
  obtain ⟨⟨id', key, name⟩, output⟩ := a
  cases input
  simp only [Entry.matches, Bool.and_eq_true, decide_eq_true_eq, Activation.mk.injEq]
  tauto

theorem get_after (id : String) (calls : List Call) : (Provider.after calls).get id =
      (claimed? id calls).map fun input => { input, ack := acknowledged? input calls } := by
  induction calls using List.reverseRecOn with
  | nil => rfl
  | append_singleton calls c ih =>
    rw [after_append, claimed?_append]
    cases c with
    | claim input =>
      rw [Provider.call, claim_get, ih]
      cases hclaimed : claimed? id calls with
      | some kept =>
        obtain rfl := claimed?_id hclaimed
        rw [map_some, some_or, some_or, map_some,
          acknowledged?_append hclaimed]
        simp [Call.ack?]
      | none =>
        by_cases hid : input.activationId = id
        · subst hid
          simp [Call.claims, Call.input?, acknowledged?_claim hclaimed]
        · simp [Call.claims, hid]
    | acknowledge a =>
      rw [Provider.call, acknowledge_get, ih]
      cases hclaimed : claimed? id calls with
      | none => rfl
      | some input =>
        obtain rfl := claimed?_id hclaimed
        simp only [map_some, some_or, acknowledged?_append hclaimed, matches_iff,
          Call.ack?, filter_some, decide_eq_true_eq]

theorem count_claims (id : String) (calls : List Call) :
    (Provider.answers OrderedMap.empty calls).countP (Result.claims id) =
      if (claimed? id calls).isSome then 1 else 0 := by
  induction calls using List.reverseRecOn with
  | nil => rfl
  | append_singleton calls c ih =>
    rw [answers_append, countP_append, ih, claimed?_append, ← Provider.after]
    have hheld := get_after id calls
    cases c with
    | acknowledge a =>
      have hanswer : ((Provider.after calls).call (.acknowledge a)).2.claims id = false := by
        simp only [Provider.call, acknowledge]
        split
        · rfl
        · split_ifs
          · rfl
          · split
            · rfl
            · rfl
      simp [hanswer, Call.claims]
    | claim input =>
      by_cases hid : input.activationId = id
      · subst hid
        cases hclaimed : claimed? input.activationId calls with
        | none =>
          rw [hclaimed] at hheld
          simp [Provider.call, claim, hheld, Result.claims, Call.claims, Call.input?]
        | some kept =>
          rw [hclaimed] at hheld
          simp [Provider.call, claim, hheld, Result.claims]
      · have hanswer : ((Provider.after calls).call (.claim input)).2.claims id = false := by
          simp only [Provider.call, claim]
          split
          · rfl
          · exact decide_eq_false hid
        simp [hanswer, Call.claims, hid]

theorem kept (calls : List Call) : Kept calls where
  once id := by
    rw [count_claims]
    split
    · exact le_refl 1
    · exact Nat.zero_le 1
  matching a h := by
    have hheld := get_after a.activation.activationId calls
    rw [h, map_some] at hheld
    have hmatches := ((matches_iff (acknowledged? a.activation calls)).mpr (Eq.refl a.activation)).2
    constructor
    · simp only [Provider.call, acknowledge, hheld, hmatches]
      cases acknowledged? a.activation calls with
      | none => rfl
      | some k => rfl
    · rw [acknowledged?_append h]
      cases acknowledged? a.activation calls with
      | none => simp [Call.ack?]
      | some k => rfl
  refused a input h hne := by
    have hheld := get_after a.activation.activationId calls
    rw [h, map_some] at hheld
    have hmatches : Entry.matches { input, ack := acknowledged? input calls } a = false := by
      refine Bool.eq_false_iff.mpr fun hm => hne ?_
      exact (matches_iff (acknowledged? input calls)).mp ⟨(claimed?_id h).symm, hm⟩
    simp only [Provider.call, acknowledge, hheld, hmatches]
    rfl

end Claims

section Ids

theorem intercalate_injective {x y : String} : ∀ {xs ys : List String},
    (∀ s ∈ xs, ':' ∉ s.toList) → (∀ s ∈ ys, ':' ∉ s.toList) → xs.length = ys.length →
    ":".intercalate (xs ++ [x]) = ":".intercalate (ys ++ [y]) → xs = ys ∧ x = y
  | [], [], _, _, _, h => ⟨rfl, by simpa using h⟩
  | [], _ :: _, _, _, hlength, _ => by cases hlength
  | _ :: _, [], _, _, hlength, _ => by cases hlength
  | s :: xs, t :: ys, hxs, hys, hlength, h => by
      have hne (zs : List String) (z : String) : zs ++ [z] ≠ [] :=
        append_ne_nil_of_right_ne_nil zs (cons_ne_nil z [])
      rw [cons_append, cons_append, String.intercalate_cons_of_ne_nil (hne xs x),
        String.intercalate_cons_of_ne_nil (hne ys y)] at h
      have hchars := congrArg String.toList h
      simp only [String.toList_append, append_assoc] at hchars
      obtain ⟨hst, hrest⟩ := split_at_first hchars (hxs s mem_cons_self)
        (hys t mem_cons_self)
      obtain ⟨rfl, rfl⟩ := intercalate_injective (fun u hu => hxs u (mem_cons_of_mem s hu))
        (fun u hu => hys u (mem_cons_of_mem t hu)) (Nat.succ.inj hlength)
        (String.toList_injective hrest)
      exact ⟨by rw [String.toList_injective hst], rfl⟩

theorem validateIdentityInput_valid {input : IdentityInput} {value v : String}
    (h : validateIdentityInput input value = .valid v) : v = value := by
  unfold validateIdentityInput at h
  split_ifs at h
  exact (ParseResult.valid.inj h).symm

def opening (kind : String) (input : IdentityInput) : List String :=
  ["actor-tool-delivery", kind] ++ identityComponents input

theorem key_valid {input : IdentityInput} {requestId v : String}
    (h : createIdempotencyKey input requestId = .valid v) :
    v = ":".intercalate (opening "key" input ++ ["request=" ++ encodeURIComponent requestId]) := by
  unfold createIdempotencyKey at h
  split at h
  · cases h
  · exact validateIdentityInput_valid h

theorem activationId_valid {input : IdentityInput} {idempotencyKey v : String}
    (h : createActivationId input idempotencyKey = .valid v) :
    v = ":".intercalate (opening "activation" input ++ ["key=" ++ idempotencyKey]) := by
  unfold createActivationId at h
  split at h
  · cases h
  · exact validateIdentityInput_valid h

theorem opening_plain {kind : String} (hkind : ':' ∉ kind.toList) (input : IdentityInput) :
    ∀ s ∈ opening kind input, ':' ∉ s.toList := by
  have hencoded (name value : String) (hname : ':' ∉ name.toList) :
      ':' ∉ (name ++ encodeURIComponent value).toList := by
    rw [String.toList_append, mem_append]
    exact not_or.mpr ⟨hname, plain_encodeURIComponent value⟩
  intro s hs
  simp only [opening, identityComponents, cons_append, nil_append, mem_cons,
    not_mem_nil, or_false] at hs
  rcases hs with rfl | rfl | rfl | rfl | rfl
  · decide
  · exact hkind
  · exact hencoded "node=" _ (by decide)
  · exact hencoded "actor=" _ (by decide)
  · exact hencoded "tool=" _ (by decide)

theorem opening_injective {kind kind' : String} {input input' : IdentityInput}
    (h : opening kind input = opening kind' input') : kind = kind' ∧ input = input' := by
  simp only [opening, identityComponents, cons_append, nil_append, List.cons.injEq,
    true_and, and_true, String.append_right_inj] at h
  obtain ⟨hkind, hnode, hactor, htool⟩ := h
  refine ⟨hkind, ?_⟩
  cases input
  cases input'
  simp only [IdentityInput.mk.injEq]
  exact ⟨encodeURIComponent_injective hactor, encodeURIComponent_injective hnode,
    encodeURIComponent_injective htool⟩

theorem createIdempotencyKey_injective {input input' : IdentityInput}
    {requestId requestId' v : String} (h : createIdempotencyKey input requestId = .valid v)
    (h' : createIdempotencyKey input' requestId' = .valid v) :
    input = input' ∧ requestId = requestId' := by
  obtain ⟨hopening, hrequest⟩ := intercalate_injective (opening_plain (by decide) input)
    (opening_plain (by decide) input') rfl ((key_valid h).symm.trans (key_valid h'))
  exact ⟨(opening_injective hopening).2,
    encodeURIComponent_injective (String.append_right_inj _ |>.mp hrequest)⟩

theorem createActivationId_injective {input input' : IdentityInput} {key key' v : String}
    (h : createActivationId input key = .valid v) (h' : createActivationId input' key' = .valid v) :
    input = input' ∧ key = key' := by
  obtain ⟨hopening, hkey⟩ := intercalate_injective (opening_plain (by decide) input)
    (opening_plain (by decide) input') rfl ((activationId_valid h).symm.trans (activationId_valid h'))
  exact ⟨(opening_injective hopening).2, String.append_right_inj _ |>.mp hkey⟩

theorem createActivationId_ne_key {input input' : IdentityInput} {key requestId v v' : String}
    (h : createActivationId input key = .valid v)
    (h' : createIdempotencyKey input' requestId = .valid v') : v ≠ v' := by
  rintro rfl
  have hkinds := intercalate_injective (opening_plain (by decide) input)
    (opening_plain (by decide) input') rfl ((activationId_valid h).symm.trans (key_valid h'))
  exact absurd (opening_injective hkinds.1).1 (by decide)

end Ids

structure DistinctIds : Prop where
  keys : ∀ input input' requestId requestId' v, createIdempotencyKey input requestId = .valid v →
    createIdempotencyKey input' requestId' = .valid v → input = input' ∧ requestId = requestId'
  activations : ∀ input input' key key' v, createActivationId input key = .valid v →
    createActivationId input' key' = .valid v → input = input' ∧ key = key'
  kinds : ∀ input input' key requestId v v', createActivationId input key = .valid v →
    createIdempotencyKey input' requestId = .valid v' → v ≠ v'

/-- The first attempt is accepted as one or less and keeps to the limits whatever is read of it
exactly when neither number is below one; the provider and the ids keep their laws always. -/
theorem delivery_laws {activation : Activation} {attempt ackTimeoutMs maxAttempts : JsNumber}
    {first : Attempt} (hfirst : createAttempt activation attempt ackTimeoutMs = .ok first)
    (hone : JsNumber.le attempt (.finite 1) = true)
    (hmax : JsNumber.le (.finite 1) maxAttempts = true) :
    ((∀ readings, Bounded ackTimeoutMs maxAttempts first readings) ∧ (∀ calls, Kept calls) ∧
        DistinctIds) ↔
      JsNumber.le (.finite 1) attempt = true ∧ JsNumber.le (.finite 1) ackTimeoutMs = true := by
  have hids : DistinctIds :=
    ⟨fun _ _ _ _ _ => createIdempotencyKey_injective, fun _ _ _ _ _ => createActivationId_injective,
      fun _ _ _ _ _ _ => createActivationId_ne_key⟩
  constructor
  · rintro ⟨hbounded, -, -⟩
    exact one_le_of_bounded hfirst hbounded
  · rintro ⟨hattempt, htimeout⟩
    exact ⟨bounded_of_one_le hfirst hone hmax hattempt htimeout, kept, hids⟩

theorem delivery_laws_once :
    ((∀ readings, Bounded (.finite 1000) (.finite 3)
        { activation := ⟨"a", "k", "search"⟩, attempt := 1, ackTimeoutMs := 1000 } readings) ∧
      (∀ calls, Kept calls) ∧ DistinctIds) ↔
      JsNumber.le (.finite 1) (.finite 1) = true ∧ JsNumber.le (.finite 1) (.finite 1000) = true := by
  have hone : truncate 1 = 1 := truncate_intCast 1
  have htimeout : truncate 1000 = 1000 := truncate_intCast 1000
  have hfirst : createAttempt ⟨"a", "k", "search"⟩ (.finite 1) (.finite 1000) =
      .ok { activation := ⟨"a", "k", "search"⟩, attempt := 1, ackTimeoutMs := 1000 } :=
    createAttempt_ok.mpr ⟨1, 1000, rfl, by norm_num, rfl, by norm_num, by decide,
      by rw [hone, htimeout]⟩
  exact delivery_laws hfirst (JsNumber.le_finite.mpr le_rfl)
    (JsNumber.le_finite.mpr (by norm_num))

/-- Half an attempt is accepted, is the attempt zero, and is emitted once more than the limit. -/
theorem half_attempt : ¬ ∀ (activation : Activation) (attempt ackTimeoutMs maxAttempts : JsNumber)
    (first : Attempt), createAttempt activation attempt ackTimeoutMs = .ok first →
    JsNumber.le attempt (.finite 1) = true → JsNumber.le (.finite 1) maxAttempts = true →
    ∀ readings, Bounded ackTimeoutMs maxAttempts first readings := by
  intro h
  have hhalf : truncate (1 / 2) = 0 := truncate_below (by norm_num) (by norm_num)
  have hone : truncate 1 = 1 := truncate_intCast 1
  have hfirst : createAttempt ⟨"a", "k", "search"⟩ (.finite (1 / 2)) (.finite 1) =
      .ok { activation := ⟨"a", "k", "search"⟩, attempt := 0, ackTimeoutMs := 1 } :=
    createAttempt_ok.mpr ⟨1 / 2, 1, rfl, by norm_num, rfl, by norm_num, by decide,
      by rw [hhalf, hone]⟩
  have hlimited := (h _ _ _ (.finite 1) _ hfirst (JsNumber.le_finite.mpr (by norm_num))
    (JsNumber.le_finite.mpr le_rfl) [⟨.finite 1, false⟩]).limited 1 rfl
  exact absurd hlimited (by decide +kernel)

end ToolDelivery

end ActorWeb
