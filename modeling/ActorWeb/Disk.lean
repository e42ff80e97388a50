import Mathlib.Logic.Function.Basic

namespace ActorWeb

open Option Function

/-- Directory entries that name numbered files, and the text of each file. -/
structure Disk (Path : Type) where
  links : Path → Option Nat
  texts : Nat → String
  fresh : Nat

namespace Disk

variable {Path : Type}

def empty : Disk Path := { links := fun _ => none, texts := fun _ => "", fresh := 0 }

def overwrite (old text : String) : String :=
  String.ofList (text.toList ++ old.toList.drop text.toList.length)

@[simp] theorem overwrite_empty (text : String) : overwrite "" text = text := by
  simp [overwrite]

def read (d : Disk Path) (path : Path) : Option String := (d.links path).map d.texts

def write (d : Disk Path) (file : Nat) (text : String) : Disk Path :=
  { d with texts := update d.texts file (overwrite (d.texts file) text) }

/-- Every file has at most one name, and new files are not named yet. -/
structure Sound (d : Disk Path) : Prop where
  linked_lt {path : Path} {file : Nat} : d.links path = some file → file < d.fresh
  linked_once {path other : Path} {file : Nat} :
    d.links path = some file → d.links other = some file → path = other

structure Settled (d : Disk Path) (path : Path) (file : Nat) : Prop where
  old : file < d.fresh
  only {other : Path} : d.links other = some file → other = path

theorem sound_empty : Sound (empty : Disk Path) :=
  { linked_lt := by intro path file h; cases h
    linked_once := by intro path other file h; cases h }

variable {d : Disk Path} {path other : Path} {file : Nat}

theorem Sound.settled (hd : d.Sound) (h : d.links path = some file) : d.Settled path file :=
  { old := hd.linked_lt h, only := fun ho => hd.linked_once ho h }

section Write

theorem Settled.write_text (h : d.Settled other file) {written : Nat}
    (hlinked : d.links path = some written) (hne : other ≠ path) (text : String) :
    (d.write written text).texts file = d.texts file := by
  refine update_of_ne ?_ _ _
  rintro rfl
  exact hne (h.only hlinked).symm

theorem Settled.write (h : d.Settled other file) (written : Nat) (text : String) :
    (d.write written text).Settled other file :=
  ⟨h.old, h.only⟩

theorem Sound.write_held (hd : d.Sound) {written : Nat} (hlinked : d.links path = some written)
    (h : d.links other = some file) (hne : other ≠ path) (text : String) :
    (d.write written text).links other = some file ∧
      (d.write written text).texts file = d.texts file :=
  ⟨h, (hd.settled h).write_text hlinked hne text⟩

theorem Sound.read_write (hd : d.Sound) {written : Nat} (hlinked : d.links path = some written)
    (hne : other ≠ path) (text : String) : (d.write written text).read other = d.read other := by
  cases h : d.links other with
  | none => simp only [read, write, h, map_none]
  | some file =>
    obtain ⟨hlinks, htext⟩ := hd.write_held hlinked h hne text
    simp only [read, hlinks, h, map_some, htext]

theorem Sound.write (hd : d.Sound) (file : Nat) (text : String) : (d.write file text).Sound :=
  ⟨hd.linked_lt, hd.linked_once⟩

end Write

variable [DecidableEq Path]

def truncate (d : Disk Path) (path : Path) : Disk Path × Nat :=
  match d.links path with
  | some file => ({ d with texts := update d.texts file "" }, file)
  | none =>
    ({ links := update d.links path (some d.fresh), texts := update d.texts d.fresh "",
       fresh := d.fresh + 1 }, d.fresh)

def remove (d : Disk Path) (path : Path) : Disk Path :=
  { d with links := update d.links path none }

/-- The entry takes the place of the one under the new name, and fails when there is none. -/
def rename (d : Disk Path) (path target : Path) : Option (Disk Path) :=
  (d.links path).map fun file =>
    { d with links := update (update d.links path none) target (some file) }

section Truncate

theorem truncate_links (hne : other ≠ path) : (d.truncate path).1.links other = d.links other := by
  unfold truncate
  split
  case h_1 => rfl
  case h_2 => exact update_of_ne hne _ _

theorem truncate_linked : (d.truncate path).1.links path = some (d.truncate path).2 := by
  unfold truncate
  split
  case h_1 file h => exact h
  case h_2 => exact update_self _ _ _

theorem truncate_text : (d.truncate path).1.texts (d.truncate path).2 = "" := by
  unfold truncate
  split <;> exact update_self _ _ _

theorem Settled.truncate_text (h : d.Settled other file) (hne : other ≠ path) :
    (d.truncate path).1.texts file = d.texts file := by
  unfold truncate
  split
  case h_1 linked hlinked =>
    refine update_of_ne ?_ _ _
    rintro rfl
    exact hne (h.only hlinked).symm
  case h_2 => exact update_of_ne (Nat.ne_of_lt h.old) _ _

theorem Settled.truncate (h : d.Settled other file) (hne : other ≠ path) :
    (d.truncate path).1.Settled other file := by
  refine ⟨?_, fun {name} hname => ?_⟩
  · unfold Disk.truncate
    split
    case h_1 => exact h.old
    case h_2 => exact Nat.lt_succ_of_lt h.old
  · by_cases hpath : name = path
    · subst hpath
      unfold Disk.truncate at hname
      split at hname
      case h_1 => exact h.only hname
      case h_2 =>
        simp only [update_self, some.injEq] at hname
        exact absurd hname (Nat.ne_of_gt h.old)
    · exact h.only (truncate_links hpath ▸ hname)

theorem Sound.truncate (hd : d.Sound) (path : Path) : (d.truncate path).1.Sound := by
  unfold Disk.truncate
  split
  case h_1 => exact ⟨hd.linked_lt, hd.linked_once⟩
  case h_2 hfree =>
    -- the new file has no other name
    have hnew : ∀ {name : Path} {file : Nat},
        update d.links path (some d.fresh) name = some file →
          (name = path ∧ file = d.fresh) ∨ (name ≠ path ∧ d.links name = some file) := by
      intro name file h
      by_cases hname : name = path
      · rw [hname, update_self] at h
        exact .inl ⟨hname, (some.inj h).symm⟩
      · rw [update_of_ne hname] at h
        exact .inr ⟨hname, h⟩
    refine ⟨fun {name file} h => ?_, fun {name other file} h ho => ?_⟩
    · obtain ⟨-, rfl⟩ | ⟨-, h⟩ := hnew h
      · exact Nat.lt_succ_self _
      · exact Nat.lt_succ_of_lt (hd.linked_lt h)
    · obtain ⟨rfl, rfl⟩ | ⟨-, h⟩ := hnew h
      · obtain ⟨rfl, -⟩ | ⟨-, ho⟩ := hnew ho
        · rfl
        · exact absurd (hd.linked_lt ho) (Nat.lt_irrefl _)
      · obtain ⟨-, rfl⟩ | ⟨-, ho⟩ := hnew ho
        · exact absurd (hd.linked_lt h) (Nat.lt_irrefl _)
        · exact hd.linked_once h ho

theorem Sound.truncate_held (hd : d.Sound) (h : d.links other = some file) (hne : other ≠ path) :
    (d.truncate path).1.links other = some file ∧
      (d.truncate path).1.texts file = d.texts file :=
  ⟨(truncate_links hne).trans h, (hd.settled h).truncate_text hne⟩

theorem Sound.read_truncate (hd : d.Sound) (hne : other ≠ path) :
    (d.truncate path).1.read other = d.read other := by
  cases h : d.links other with
  | none => simp only [read, truncate_links hne, h, map_none]
  | some file =>
    obtain ⟨hlinks, htext⟩ := hd.truncate_held h hne
    simp only [read, hlinks, h, map_some, htext]

end Truncate

section Rename

variable {d' : Disk Path} {target : Path}

theorem rename_eq_some : d.rename path target = some d' ↔ ∃ file, d.links path = some file ∧
    d' = { d with links := update (update d.links path none) target (some file) } := by
  rw [rename, map_eq_some_iff]
  exact exists_congr fun file => and_congr_right fun _ => eq_comm

theorem rename_texts (h : d.rename path target = some d') : d'.texts = d.texts := by
  obtain ⟨file, -, rfl⟩ := rename_eq_some.mp h
  rfl

theorem rename_links (h : d.rename path target = some d') (hpath : other ≠ path)
    (htarget : other ≠ target) : d'.links other = d.links other := by
  obtain ⟨file, -, rfl⟩ := rename_eq_some.mp h
  simp only [update_of_ne htarget, update_of_ne hpath]

theorem rename_linked (h : d.rename path target = some d') : d'.links target = d.links path := by
  obtain ⟨file, hfile, rfl⟩ := rename_eq_some.mp h
  simp only [update_self, hfile]

theorem read_rename_ne (h : d.rename path target = some d') (hpath : other ≠ path)
    (htarget : other ≠ target) : d'.read other = d.read other := by
  rw [read, read, rename_links h hpath htarget, rename_texts h]

theorem read_rename (h : d.rename path target = some d') : d'.read target = d.read path := by
  rw [read, read, rename_linked h, rename_texts h]

theorem Sound.rename (hd : d.Sound) (h : d.rename path target = some d') : d'.Sound := by
  obtain ⟨file, hfile, rfl⟩ := rename_eq_some.mp h
  have hlinks : ∀ {name : Path} {found : Nat},
      update (update d.links path none) target (some file) name = some found →
        (name = target ∧ found = file) ∨ (name ≠ path ∧ d.links name = some found) := by
    intro name found h
    by_cases htarget : name = target
    · rw [htarget, update_self] at h
      exact .inl ⟨htarget, (some.inj h).symm⟩
    · rw [update_of_ne htarget] at h
      by_cases hpath : name = path
      · rw [hpath, update_self] at h
        cases h
      · rw [update_of_ne hpath] at h
        exact .inr ⟨hpath, h⟩
  refine ⟨fun {name found} hn => ?_, fun {name other found} hn ho => ?_⟩
  · obtain ⟨-, rfl⟩ | ⟨-, hn⟩ := hlinks hn
    · exact hd.linked_lt hfile
    · exact hd.linked_lt hn
  · obtain ⟨rfl, rfl⟩ | ⟨hname, hlinked⟩ := hlinks hn
    · obtain ⟨rfl, -⟩ | ⟨hother, ho⟩ := hlinks ho
      · rfl
      · exact absurd (hd.linked_once ho hfile) hother
    · obtain ⟨rfl, rfl⟩ | ⟨-, ho⟩ := hlinks ho
      · exact absurd (hd.linked_once hlinked hfile) hname
      · exact hd.linked_once hlinked ho

theorem Settled.rename (h : d.Settled other file) (hrename : d.rename path target = some d')
    (hne : other ≠ path) : d'.Settled other file := by
  obtain ⟨moved, hmoved, rfl⟩ := rename_eq_some.mp hrename
  refine ⟨h.old, fun {name} hname => ?_⟩
  by_cases htarget : name = target
  · simp only [htarget, update_self, some.injEq] at hname
    exact absurd (h.only (hname ▸ hmoved)) hne.symm
  · simp only [update_of_ne htarget] at hname
    by_cases hpath : name = path
    · simp only [hpath, update_self, reduceCtorEq] at hname
    · simp only [update_of_ne hpath] at hname
      exact h.only hname

end Rename

end Disk

end ActorWeb
