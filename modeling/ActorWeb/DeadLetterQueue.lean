import Mathlib.Data.List.Induction
import Mathlib.Data.List.Nodup

/-! The dead letter queue, whose retries name a letter by its index while they wait. -/

namespace ActorWeb.DeadLetterQueue

open List Option

structure DeadLetter (M : Type) where
  message : M
  targetActorId : String
  reason : String
  timestamp : Int
  attempts : Nat
  error : Option String

/-- A retry that waits for its `retryFn`: the index it was given and the letter found there. -/
structure Retry where
  index : Nat
  letter : Nat

/-- `letters` are the letter objects ever added, `deadLetters` the queue of them, and `retried` the
letters whose retry resolved true. -/
structure Queue (M : Type) where
  maxSize : Nat
  retentionPeriod : Int
  letters : List (DeadLetter M) := []
  deadLetters : List Nat := []
  retries : List Retry := []
  retried : List Nat := []

inductive Action (M : Type)
  | add (letter : DeadLetter M)
  | remove (index : Int)
  | clear
  | cleanup (now : Int)
  | retry (index : Nat)
  | succeed (i : Nat)
  | fail (i : Nat) (error : String) (now : Int)

variable {M : Type}

def add (q : Queue M) (letter : DeadLetter M) : Queue M :=
  let deadLetters := q.deadLetters ++ [q.letters.length]
  { q with
    letters := q.letters ++ [letter]
    deadLetters := if q.maxSize < deadLetters.length then deadLetters.tail else deadLetters }

/-- `splice(index, 1)`, which counts a negative index from the end. -/
def remove (q : Queue M) (index : Int) : Queue M :=
  let start := if index < 0 then index + q.deadLetters.length else index
  { q with deadLetters := q.deadLetters.eraseIdx start.toNat }

def expired (q : Queue M) (now : Int) (n : Nat) : Bool :=
  (q.letters[n]?).any fun letter => q.retentionPeriod ≤ now - letter.timestamp

def cleanup (q : Queue M) (now : Int) : Queue M :=
  { q with deadLetters := q.deadLetters.filter (!expired q now ·) }

def retry (q : Queue M) (index : Nat) : Queue M :=
  match q.deadLetters[index]? with
  | none => q
  | some letter => { q with retries := q.retries ++ [⟨index, letter⟩] }

def settle (q : Queue M) (i : Nat) (settled : Retry → Queue M → Queue M) : Queue M :=
  match q.retries[i]? with
  | none => q
  | some r => settled r { q with retries := q.retries.eraseIdx i }

def retrySucceeded (r : Retry) (q : Queue M) : Queue M :=
  { remove q r.index with retried := q.retried ++ [r.letter] }

def retryFailed (error : String) (now : Int) (r : Retry) (q : Queue M) : Queue M :=
  { q with letters := q.letters.modify r.letter fun letter =>
      { letter with attempts := letter.attempts + 1, timestamp := now, error := some error } }

def step (q : Queue M) : Action M → Queue M
  | .add letter => add q letter
  | .remove index => remove q index
  | .clear => { q with deadLetters := [] }
  | .cleanup now => cleanup q now
  | .retry index => retry q index
  | .succeed i => settle q i retrySucceeded
  | .fail i error now => settle q i (retryFailed error now)

def run (maxSize : Nat) (retentionPeriod : Int) (actions : List (Action M)) : Queue M :=
  actions.foldl step { maxSize, retentionPeriod }

/-- The retry that succeeds in a step. -/
def succeeded (q : Queue M) : Action M → Option Retry
  | .succeed i => q.retries[i]?
  | _ => none

def Leaves (q : Queue M) (n : Nat) : Action M → Prop
  | .add _ => (q.deadLetters ++ [q.letters.length]).head? = some n
  | .remove _ | .clear => True
  | .cleanup now => expired q now n
  | .retry _ | .fail .. => False
  | .succeed i => (q.retries[i]?).any (·.letter = n)

/-- A letter after a step: only a retry of it that fails changes it. -/
def kept (q : Queue M) (n : Nat) (letter : DeadLetter M) : Action M → DeadLetter M
  | .fail i error now =>
    if (q.retries[i]?).any (·.letter = n) then
      { letter with attempts := letter.attempts + 1, timestamp := now, error := some error }
    else letter
  | _ => letter

/-- What a step may do to the letters that are there. -/
structure StepLaw (q : Queue M) (a : Action M) : Prop where
  leaves : ∀ n ∈ q.deadLetters, n ∉ (step q a).deadLetters → Leaves q n a
  keeps : ∀ (n : Nat) letter, q.letters[n]? = some letter →
    (step q a).letters[n]? = some (kept q n letter a)
  removes : ∀ r, succeeded q a = some r →
    r.letter ∉ (step q a).deadLetters ∧ r.letter ∉ q.retried

/-- As a retry succeeds its letter is still where it was, or it is gone and nothing has come to its
place, and it was not retried before. -/
def Steady (q : Queue M) (a : Action M) : Prop :=
  ∀ r, succeeded q a = some r →
    (q.deadLetters[r.index]? = some r.letter ∨
      q.deadLetters.length ≤ r.index ∧ r.letter ∉ q.deadLetters) ∧ r.letter ∉ q.retried

structure Numbered (q : Queue M) : Prop where
  nodup : q.deadLetters.Nodup
  lt : ∀ n ∈ q.deadLetters, n < q.letters.length

section

variable {q : Queue M} {a : Action M} {r : Retry} {n i : Nat}

theorem Numbered.of_sublist (h : Numbered q) {t : Queue M} (hsub : t.deadLetters.Sublist q.deadLetters)
    (hletters : t.letters.length = q.letters.length) : Numbered t :=
  ⟨h.nodup.sublist hsub, fun n hn => hletters ▸ h.lt n (hsub.subset hn)⟩

theorem remove_natCast (index : Nat) :
    remove q index = { q with deadLetters := q.deadLetters.eraseIdx index } := by
  simp [remove, Int.not_lt.mpr (Int.natCast_nonneg index)]

theorem Numbered.next (h : Numbered q) : Numbered (step q a) := by
  cases a with
  | add letter =>
    have hadded : Numbered { q with
        letters := q.letters ++ [letter], deadLetters := q.deadLetters ++ [q.letters.length] } := by
      refine ⟨nodup_append.mpr ⟨h.nodup, by simp, fun n hn m hm => ?_⟩, fun n hn => ?_⟩
      · rw [mem_singleton.mp hm]
        exact Nat.ne_of_lt (h.lt n hn)
      · rcases mem_append.mp hn with hn | hn
        · exact Nat.lt_of_lt_of_le (h.lt n hn) (by simp)
        · simp [mem_singleton.mp hn]
    refine hadded.of_sublist ?_ (by simp [step, add])
    simp only [step, add]
    split
    · exact tail_sublist _
    · exact Sublist.refl _
  | remove index => exact h.of_sublist (eraseIdx_sublist q.deadLetters _) rfl
  | clear => exact h.of_sublist (nil_sublist _) rfl
  | cleanup now => exact h.of_sublist filter_sublist rfl
  | retry index =>
    simp only [step, retry]
    split
    · exact h
    · exact ⟨h.nodup, h.lt⟩
  | succeed i =>
    simp only [step, settle]
    split
    · exact h
    · exact h.of_sublist (eraseIdx_sublist q.deadLetters _) rfl
  | fail i error now =>
    simp only [step, settle]
    split
    · exact h
    · exact h.of_sublist (Sublist.refl _) (by simp [retryFailed])

theorem stepLaw_of_none (h : succeeded q a = none) : StepLaw q a := by
  cases a with
  | add letter =>
    refine ⟨fun n hn hgone => ?_, fun n l hl =>
      (getElem?_append_left (List.getElem?_eq_some_iff.mp hl).1).trans hl, by simp [h]⟩
    simp only [step, add] at hgone
    split at hgone
    · cases hq : q.deadLetters with
      | nil => simp [hq] at hn
      | cons m rest => grind [Leaves]
    · exact absurd (mem_append_left _ hn) hgone
  | remove index | clear => exact ⟨fun _ _ _ => trivial, fun _ _ hl => hl, by simp [h]⟩
  | cleanup now =>
    refine ⟨fun n hn hgone => ?_, fun _ _ hl => hl, by simp [h]⟩
    simpa [step, cleanup, hn, Leaves] using hgone
  | retry index =>
    have heq : (step q (.retry index)).deadLetters = q.deadLetters ∧
        (step q (.retry index)).letters = q.letters := by
      simp only [step, retry]
      split <;> exact ⟨rfl, rfl⟩
    exact ⟨fun n hn hgone => absurd (heq.1 ▸ hn) hgone, fun _ _ hl => heq.2 ▸ hl, by simp [h]⟩
  | succeed i =>
    have heq : step q (.succeed i) = q := by
      simp only [step, settle, show q.retries[i]? = none from h]
    exact ⟨fun n hn hgone => absurd (by rwa [heq]) hgone, fun n l hl => by rwa [heq], by simp [h]⟩
  | fail i error now =>
    have hqueue : (step q (.fail i error now)).deadLetters = q.deadLetters := by
      simp only [step, settle]
      split <;> rfl
    refine ⟨fun n hn hgone => absurd (hqueue ▸ hn) hgone, fun n l hl => ?_, by simp [h]⟩
    cases hr : q.retries[i]? with
    | none => simp [step, settle, hr, kept, hl]
    | some r =>
      by_cases hn : r.letter = n <;>
        simp [step, settle, hr, kept, retryFailed, hn, hl]

theorem not_mem_eraseIdx_iff {l : List Nat} (hnodup : l.Nodup) (hn : n ∈ l) :
    n ∉ l.eraseIdx i ↔ l[i]? = some n := by
  obtain ⟨j, hj, rfl⟩ := mem_iff_getElem.mp hn
  rw [mem_eraseIdx_iff_getElem?, List.getElem?_eq_some_iff]
  constructor
  · intro hgone
    by_contra hne
    exact hgone ⟨j, fun heq => hne ⟨heq ▸ hj, by simp [heq]⟩, by simp [hj]⟩
  · rintro ⟨hi, heq⟩ ⟨k, hk, hget⟩
    obtain ⟨hk', hget⟩ := List.getElem?_eq_some_iff.mp hget
    exact hk ((hnodup.getElem_inj_iff).mp (hget.trans heq.symm))

theorem stepLaw_iff (h : Numbered q) : StepLaw q a ↔ Steady q a := by
  cases hs : succeeded q a with
  | none => exact iff_of_true (stepLaw_of_none hs) (by simp [Steady, hs])
  | some r =>
    obtain ⟨i, rfl⟩ : ∃ i, a = .succeed i := by cases a <;> simp_all [succeeded]
    have hr : q.retries[i]? = some r := hs
    have hqueue : (step q (.succeed i)).deadLetters = q.deadLetters.eraseIdx r.index := by
      simp [step, settle, hr, retrySucceeded, remove_natCast]
    have hletters : (step q (.succeed i)).letters = q.letters := by
      simp [step, settle, hr, retrySucceeded, remove]
    constructor
    · rintro ⟨hleaves, -, hremoves⟩ r' hs'
      obtain rfl := some.inj (hs.symm.trans hs')
      obtain ⟨hgone, hretried⟩ := hremoves r hs
      refine ⟨?_, hretried⟩
      rcases Nat.lt_or_ge r.index q.deadLetters.length with hlt | hge
      · have hget := getElem?_eq_getElem hlt
        have hleft := hleaves _ (getElem_mem hlt) (by
          rw [hqueue]
          exact (not_mem_eraseIdx_iff h.nodup (getElem_mem hlt)).mpr hget)
        rw [Leaves, hr, any_some, decide_eq_true_eq] at hleft
        exact .inl (hleft ▸ hget)
      · rw [hqueue, eraseIdx_of_length_le hge] at hgone
        exact .inr ⟨hge, hgone⟩
    · intro hsteady
      obtain ⟨hplace, hretried⟩ := hsteady r hs
      refine ⟨fun n hn hgone => ?_, fun n l hl => hletters ▸ hl, fun r' hs' => ?_⟩
      · rw [hqueue, not_mem_eraseIdx_iff h.nodup hn] at hgone
        rcases hplace with hplace | ⟨hge, -⟩
        · simpa [Leaves, hr] using some.inj (hplace.symm.trans hgone)
        · exact absurd (List.getElem?_eq_some_iff.mp hgone).1 (Nat.not_lt.mpr hge)
      · obtain rfl := some.inj (hs.symm.trans hs')
        refine ⟨fun hmem => ?_, hretried⟩
        rw [hqueue] at hmem
        rcases hplace with hplace | ⟨-, hgone⟩
        · exact (not_mem_eraseIdx_iff h.nodup (mem_of_getElem? hplace)).mpr hplace hmem
        · exact hgone (mem_of_mem_eraseIdx hmem)

end

theorem numbered_run (maxSize : Nat) (retentionPeriod : Int) (actions : List (Action M)) :
    Numbered (run maxSize retentionPeriod actions) := by
  induction actions using List.reverseRecOn with
  | nil => exact ⟨nodup_nil, by simp [run]⟩
  | append_singleton actions a ih =>
    rw [run, foldl_append]
    exact ih.next

def exampleLetter : DeadLetter Unit := ⟨(), "actor", "reason", 0, 1, none⟩

end ActorWeb.DeadLetterQueue
