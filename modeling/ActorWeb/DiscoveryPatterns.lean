import ActorWeb.CodeUnits

/-! The patterns by which the discovery service lists names. -/

namespace ActorWeb.ActorDiscovery

open List CodeUnits

def star : UInt16 := 42

def dot : UInt16 := 46

def backslash : UInt16 := 92

variable (u : UInt16)

/-- `^ $ \ . * + ? ( ) [ { |`, which do not stand for themselves in a regular expression. -/
def isSyntaxCharacter : Bool :=
  u ∈ ([94, 36, backslash, dot, star, 43, 63, 40, 41, 91, 123, 124] : List UInt16)

/-- What `.` does not match. -/
def isLineTerminator : Bool := u ∈ ([10, 13, 0x2028, 0x2029] : List UInt16)

inductive Token
  | literal (u : UInt16)
  | anything

/-- The body of an expression in which only escaped dots and `.*` are not literal. -/
def tokens : JsString → Option (List Token)
  | [] => some []
  | u :: [] => if isSyntaxCharacter u then none else some [.literal u]
  | u :: v :: rest =>
    if u = backslash ∧ v = dot then (tokens rest).map (.literal dot :: ·)
    else if u = dot ∧ v = star then (tokens rest).map (.anything :: ·)
    else if isSyntaxCharacter u then none
    else (tokens (v :: rest)).map (.literal u :: ·)

/-- Whether the whole of the name matches. -/
def test : List Token → JsString → Bool
  | [], name => name.isEmpty
  | .literal _ :: _, [] => false
  | .literal u :: rest, v :: name => u = v && test rest name
  | .anything :: rest, name =>
    (List.range (name.length + 1)).any fun n =>
      (name.take n).all (!isLineTerminator ·) && test rest (name.drop n)

/-- A compiled expression, `none` where the constructor throws. -/
abbrev Engine := JsString → Option (JsString → Bool)

/-- `new RegExp` of an anchored source; `engine` stands for the rest of the language of regular
expressions. -/
def regExp (engine : Engine) (body : JsString) : Option (JsString → Bool) :=
  match tokens body with
  | some ts => some (test ts)
  | none => engine body

/-- Dots are escaped, then stars become `.*`. -/
def regexPattern (pattern : JsString) : JsString :=
  (pattern.flatMap fun u => if u = dot then [backslash, dot] else [u]).flatMap fun u =>
    if u = star then [dot, star] else [u]

/-- `none` stands for a throw. -/
def matchesPattern (engine : Engine) (name pattern : JsString) : Option Bool :=
  if pattern = [star] then some true
  else if star ∉ pattern then some (name = pattern)
  else (regExp engine (regexPattern pattern)).map fun regex => regex name

/-- The name is the pattern with every star replaced by a string of allowed characters. -/
inductive Globs (allowed : UInt16 → Prop) : JsString → JsString → Prop
  | nil : Globs allowed [] []
  | keep {u : UInt16} {pattern name : JsString} (hu : u ≠ star) (h : Globs allowed pattern name) :
      Globs allowed (u :: pattern) (u :: name)
  | fill {pattern name : JsString} (s : JsString) (hs : ∀ u ∈ s, allowed u)
      (h : Globs allowed pattern name) : Globs allowed (star :: pattern) (s ++ name)

def IsGlob (pattern name : JsString) : Prop := Globs (fun _ => True) pattern name

/-- The stars stand for strings without line breaks. -/
def IsLineGlob (pattern name : JsString) : Prop :=
  Globs (fun u => isLineTerminator u = false) pattern name

def Plain (pattern : JsString) : Prop :=
  ∀ u ∈ pattern, isSyntaxCharacter u = true → u = dot ∨ u = star

/-- Matching does not throw and decides whether the pattern globs the name. -/
def MatchesGlob (engine : Engine) (name pattern : JsString) : Prop :=
  ∃ selected, matchesPattern engine name pattern = some selected ∧
    (selected = true ↔ IsGlob pattern name)

variable {engine : Engine} {name pattern : JsString} {allowed : UInt16 → Prop}

theorem globs_cons {u : UInt16} : Globs allowed (u :: pattern) name ↔
    if u = star then ∃ n ≤ name.length, (∀ v ∈ name.take n, allowed v) ∧
      Globs allowed pattern (name.drop n)
    else ∃ rest, name = u :: rest ∧ Globs allowed pattern rest := by
  constructor
  · intro h
    cases h with
    | keep hu h => rw [if_neg hu]; exact ⟨_, rfl, h⟩
    | fill s hs h =>
      rw [if_pos rfl]
      exact ⟨s.length, by simp, by simpa using hs, by simpa using h⟩
  · split
    · rintro ⟨n, -, hs, h⟩
      subst_vars
      rw [← take_append_drop n name]
      exact .fill _ hs h
    · rintro ⟨rest, rfl, h⟩
      exact .keep ‹_› h

theorem globs_nil : Globs allowed [] name ↔ name = [] :=
  ⟨fun h => (by cases h; rfl), fun h => (by subst h; exact .nil)⟩

theorem globs_literal (h : star ∉ pattern) : Globs allowed pattern name ↔ name = pattern := by
  induction pattern generalizing name with
  | nil => exact globs_nil
  | cons u pattern ih =>
    rw [mem_cons, not_or] at h
    rw [globs_cons, if_neg (Ne.symm h.1)]
    simp only [ih h.2]
    exact ⟨fun ⟨_, hname, hrest⟩ => hrest ▸ hname, fun h => ⟨_, h, rfl⟩⟩

theorem isGlob_star : IsGlob [star] name := by
  have h : IsGlob [star] (name ++ []) := .fill name (fun _ _ => trivial) .nil
  rwa [append_nil] at h

theorem isGlob_of_isLineGlob (h : IsLineGlob pattern name) : IsGlob pattern name := by
  induction h with
  | nil => exact .nil
  | keep hu _ ih => exact .keep hu ih
  | fill s _ _ ih => exact .fill s (fun _ _ => trivial) ih

def tokenOf : Token := if u = star then .anything else .literal u

theorem regexPattern_cons (pattern : JsString) : regexPattern (u :: pattern) =
    (if u = dot then [backslash, dot] else if u = star then [dot, star] else [u]) ++
      regexPattern pattern := by
  simp only [regexPattern, flatMap_cons, flatMap_append]
  congr 1
  by_cases hdot : u = dot
  · subst hdot
    rfl
  · simp [hdot]

theorem tokens_literal {u : UInt16} (hu : isSyntaxCharacter u = false) (rest : JsString) :
    tokens (u :: rest) = (tokens rest).map (.literal u :: ·) := by
  have hslash : u ≠ backslash := fun h => by simp [h, isSyntaxCharacter] at hu
  have hdot : u ≠ dot := fun h => by simp [h, isSyntaxCharacter] at hu
  cases rest with
  | nil => simp [tokens, hu]
  | cons v rest => simp [tokens, hslash, hdot, hu]

theorem tokens_regexPattern (h : Plain pattern) :
    tokens (regexPattern pattern) = some (pattern.map tokenOf) := by
  induction pattern with
  | nil => rfl
  | cons u pattern ih =>
    have ih := ih fun v hv => h v (mem_cons_of_mem _ hv)
    rw [regexPattern_cons, map_cons]
    by_cases hdot : u = dot
    · subst hdot
      simp [tokens, ih, tokenOf, dot, star]
    by_cases hstar : u = star
    · subst hstar
      simp [tokens, ih, tokenOf, dot, star, backslash]
    · have hu : isSyntaxCharacter u = false := by
        by_contra hu
        exact (h u mem_cons_self (by simpa using hu)).elim hdot hstar
      rw [if_neg hdot, if_neg hstar, singleton_append, tokens_literal hu, ih]
      simp [tokenOf, hstar]

theorem test_tokens : test (pattern.map tokenOf) name = true ↔ IsLineGlob pattern name := by
  induction pattern generalizing name with
  | nil => exact List.isEmpty_iff.trans globs_nil.symm
  | cons u pattern ih =>
    rw [IsLineGlob, globs_cons, map_cons, tokenOf]
    split
    · simp [test, ih, IsLineGlob, Nat.lt_succ_iff]
    · cases name with
      | nil => simp [test]
      | cons v name =>
        rw [test, Bool.and_eq_true, decide_eq_true_iff, ih]
        simp only [List.cons.injEq, and_assoc, exists_eq_left', eq_comm (a := v), exists_and_left]
        rfl

theorem matchesPattern_plain (h : Plain pattern) (hstar : star ∈ pattern) (hne : pattern ≠ [star]) :
    ∃ selected, matchesPattern engine name pattern = some selected ∧
      (selected = true ↔ IsLineGlob pattern name) := by
  rw [matchesPattern, if_neg hne, if_neg (not_not.mpr hstar), regExp, tokens_regexPattern h]
  exact ⟨_, rfl, test_tokens⟩

end ActorWeb.ActorDiscovery
