import Mathlib.Data.List.Chain
import Mathlib.Data.List.Dedup
import Mathlib.Data.List.Perm.Subperm

/-! Breadth-first search with a queue of paths, where reading the neighbours of a node may fail. -/

namespace ActorWeb.BreadthFirst

open List

variable {α : Type}

section Walks

variable {target : α} {queue : List (List α)} {seen : List α}

theorem exists_last {xs : List α} {p : α → Prop} (h : ∃ x ∈ xs, p x) :
    ∃ before x after, xs = before ++ x :: after ∧ p x ∧ ∀ y ∈ after, ¬ p y := by
  induction xs with
  | nil =>
    obtain ⟨x, hx, -⟩ := h
    exact absurd hx not_mem_nil
  | cons y ys ih =>
    by_cases hys : ∃ x ∈ ys, p x
    · obtain ⟨before, x, after, rfl, hx, hafter⟩ := ih hys
      exact ⟨y :: before, x, after, rfl, hx, hafter⟩
    · obtain ⟨x, hx, hp⟩ := h
      obtain rfl | hx := mem_cons.mp hx
      · exact ⟨[], x, ys, rfl, hp, fun z hz hpz => hys ⟨z, hz, hpz⟩⟩
      · exact absurd ⟨x, hx, hp⟩ hys

structure Walk (step : α → α → Prop) (a b : α) (nodes : List α) : Prop where
  chain : List.IsChain step (a :: nodes)
  last : (a :: nodes).getLast? = some b

theorem Walk.suffix {step : α → α → Prop} {a b x : α} {before after : List α}
    (h : Walk step a b (before ++ x :: after)) : Walk step x b after := by
  refine ⟨?_, ?_⟩
  · have hchain := h.chain
    rw [← cons_append] at hchain
    exact hchain.right_of_append
  · have hlast := h.last
    rwa [← cons_append, getLast?_append_cons] at hlast

structure Levelled (queue : List (List α)) : Prop where
  sorted : queue.Pairwise fun p q => p.length ≤ q.length
  near : ∀ p ∈ queue, ∀ q ∈ queue, q.length ≤ p.length + 1

/-- A walk of `length` nodes to the target goes through the end of a queued path, and unseen from
there. -/
def Open (step : α → α → Prop) (target : α) (queue : List (List α)) (seen : List α)
    (length : Nat) : Prop :=
  ∃ path ∈ queue, ∃ node, path.getLast? = some node ∧ ∃ nodes, Walk step node target nodes ∧
    (∀ n ∈ nodes, n ∉ seen) ∧ path.length + nodes.length ≤ length

theorem Levelled.extend {path : List α} (h : Levelled (path :: queue)) (added : List α) :
    Levelled (queue ++ added.map fun n => path ++ [n]) := by
  obtain ⟨hhead, htail⟩ := pairwise_cons.mp h.sorted
  have hadded : ∀ p ∈ added.map fun n => path ++ [n], p.length = path.length + 1 := by
    intro p hp
    obtain ⟨n, -, rfl⟩ := mem_map.mp hp
    simp
  have hnear : ∀ q ∈ queue, q.length ≤ path.length + 1 := fun q hq =>
    h.near path mem_cons_self q (mem_cons_of_mem _ hq)
  have hall : ∀ q ∈ queue ++ added.map fun n => path ++ [n],
      path.length ≤ q.length ∧ q.length ≤ path.length + 1 := by
    intro q hq
    obtain hq | hq := mem_append.mp hq
    · exact ⟨hhead q hq, hnear q hq⟩
    · rw [hadded q hq]
      omega
  refine ⟨pairwise_append.mpr ⟨htail, ?_, fun p hp q hq => ?_⟩, fun p hp q hq => ?_⟩
  · refine List.Pairwise.imp_of_mem (fun hp hq _ => ?_) (pairwise_of_forall fun _ _ => trivial)
    rw [hadded _ hp, hadded _ hq]
  · rw [hadded q hq]
    exact hnear p hp
  · have hp := hall p hp
    have hq := hall q hq
    omega

theorem Open.extend {step : α → α → Prop} {path : List α} {added nodes : List α} {a : α}
    {length : Nat} (hwalk : Walk step a target nodes) (hseen : ∀ n ∈ nodes, n ∉ seen)
    (hadded : ∃ n ∈ nodes, n ∈ added) (hlength : path.length + nodes.length ≤ length) :
    Open step target (queue ++ added.map fun n => path ++ [n]) (added ++ seen) length := by
  obtain ⟨before, x, after, rfl, hx, hafter⟩ := exists_last hadded
  refine ⟨path ++ [x], mem_append_right _ (mem_map_of_mem hx), x,
    getLast?_concat, after, hwalk.suffix, fun n hn hmem => ?_, ?_⟩
  · obtain hmem | hmem := mem_append.mp hmem
    · exact hafter n hn hmem
    · exact hseen n (mem_append_right _ (mem_cons_of_mem _ hn)) hmem
  · rw [length_append, length_cons] at hlength
    rw [length_append, length_singleton]
    omega

end Walks

variable [DecidableEq α]

inductive Outcome (α : Type)
  | found (path : List α)
  | absent
  | failed

def fresh (enters : α → Bool) (seen : List α) : List α → List α
  | [] => []
  | n :: ns =>
    if n ∉ seen ∧ enters n then n :: fresh enters (n :: seen) ns else fresh enters seen ns

/-- The search takes the first path of the queue, and queues its extensions by fresh neighbours.
There is no outcome when it has not ended after the given number of paths. -/
def search (next : α → Option (List α)) (enters : α → Bool) (target : α) :
    Nat → List (List α) → List α → Option (Outcome α)
  | _, [], _ => some .absent
  | 0, _ :: _, _ => none
  | bound + 1, path :: queue, seen =>
    match path.getLast? with
    | none => search next enters target bound queue seen
    | some node =>
      if node = target then some (.found path)
      else
        match next node with
        | none => some .failed
        | some neighbours =>
          search next enters target bound
            (queue ++ (fresh enters seen neighbours).map fun n => path ++ [n])
            (fresh enters seen neighbours ++ seen)

variable {enters : α → Bool} {seen ns : List α}

theorem mem_fresh {n : α} (h : n ∈ fresh enters seen ns) : n ∈ ns ∧ n ∉ seen ∧ enters n = true := by
  induction ns generalizing seen with
  | nil => exact absurd h not_mem_nil
  | cons m ns ih =>
    unfold fresh at h
    split at h
    case isTrue hm =>
      obtain rfl | h := mem_cons.mp h
      · exact ⟨mem_cons_self, hm⟩
      · obtain ⟨hmem, hseen, henters⟩ := ih h
        exact ⟨mem_cons_of_mem _ hmem, fun hn => hseen (mem_cons_of_mem _ hn), henters⟩
    case isFalse =>
      obtain ⟨hmem, hrest⟩ := ih h
      exact ⟨mem_cons_of_mem _ hmem, hrest⟩

theorem fresh_nodup : (fresh enters seen ns).Nodup := by
  induction ns generalizing seen with
  | nil => exact nodup_nil
  | cons m ns ih =>
    unfold fresh
    split
    · exact nodup_cons.mpr ⟨fun h => (mem_fresh h).2.1 mem_cons_self, ih⟩
    · exact ih

theorem mem_fresh_or_seen {n : α} (hn : n ∈ ns) (henters : enters n = true) :
    n ∈ fresh enters seen ns ∨ n ∈ seen := by
  induction ns generalizing seen with
  | nil => exact absurd hn not_mem_nil
  | cons m ns ih =>
    unfold fresh
    split
    case isTrue hm =>
      obtain rfl | hn := mem_cons.mp hn
      · exact .inl mem_cons_self
      · have htail : n ∈ fresh enters (m :: seen) ns ∨ n ∈ m :: seen := ih hn
        obtain h | h := htail
        · exact .inl (mem_cons_of_mem _ h)
        · obtain rfl | h := mem_cons.mp h
          · exact .inl mem_cons_self
          · exact .inr h
    case isFalse hm =>
      obtain rfl | hn := mem_cons.mp hn
      · exact .inr (by_contra fun hseen => hm ⟨hseen, henters⟩)
      · exact ih hn

section Ends

def unseen (nodes seen : List α) : List α := nodes.dedup.filter fun n => n ∉ seen

theorem fresh_unseen {nodes : List α} (hns : ∀ n ∈ ns, n ∈ nodes) :
    (fresh enters seen ns).length + (unseen nodes (fresh enters seen ns ++ seen)).length ≤
      (unseen nodes seen).length := by
  have hnodup : (fresh enters seen ns ++ unseen nodes (fresh enters seen ns ++ seen)).Nodup := by
    refine nodup_append.mpr ⟨fresh_nodup, nodes.nodup_dedup.filter _, ?_⟩
    rintro n hn m hm rfl
    exact of_decide_eq_true (mem_filter.mp hm).2 (mem_append_left _ hn)
  have hsub : fresh enters seen ns ++ unseen nodes (fresh enters seen ns ++ seen) ⊆
      unseen nodes seen := by
    intro n hn
    obtain hn | hn := mem_append.mp hn
    · obtain ⟨hmem, hseen, -⟩ := mem_fresh hn
      exact mem_filter.mpr ⟨mem_dedup.mpr (hns n hmem), decide_eq_true hseen⟩
    · obtain ⟨hmem, hnot⟩ := mem_filter.mp hn
      refine mem_filter.mpr ⟨hmem, decide_eq_true fun hseen => ?_⟩
      exact of_decide_eq_true hnot (mem_append_right _ hseen)
  have hle := (subperm_of_subset hnodup hsub).length_le
  rwa [length_append] at hle

variable {next : α → Option (List α)} {target : α} {queue : List (List α)}

/-- The search ends after at most as many paths as are queued or may still be. -/
theorem search_ends {nodes : List α}
    (hnodes : ∀ node neighbours, next node = some neighbours → ∀ n ∈ neighbours, n ∈ nodes)
    {bound : Nat} (hbound : queue.length + (unseen nodes seen).length ≤ bound) :
    (search next enters target bound queue seen).isSome := by
  induction bound generalizing queue seen with
  | zero =>
    have hnil : queue = [] := length_eq_zero_iff.mp (by omega)
    subst hnil
    rfl
  | succ bound ih =>
    cases queue with
    | nil => rfl
    | cons path queue =>
      rw [length_cons] at hbound
      unfold search
      split
      case h_1 => exact ih (by omega)
      case h_2 node _ =>
        split
        case isTrue => rfl
        case isFalse =>
          split
          case h_1 => rfl
          case h_2 neighbours hnext =>
            refine ih ?_
            have hle : (fresh enters seen neighbours).length +
                (unseen nodes (fresh enters seen neighbours ++ seen)).length ≤
                  (unseen nodes seen).length := fresh_unseen (hnodes node neighbours hnext)
            rw [length_append, length_map]
            omega

end Ends

section Paths

variable {next : α → Option (List α)} {target : α} {queue : List (List α)}

def Edge (next : α → Option (List α)) (enters : α → Bool) (a b : α) : Prop :=
  ∃ neighbours, next a = some neighbours ∧ b ∈ neighbours ∧ enters b = true

/-- What holds of the queued paths and of their extensions along edges holds of the path that is
found, and no neighbours are read where it forbids that. -/
theorem search_invariant {P : List α → Prop}
    (hextend : ∀ path node n, P path → path.getLast? = some node → Edge next enters node n →
      P (path ++ [n])) {bound : Nat} (hqueue : ∀ path ∈ queue, P path) {outcome : Outcome α}
    (h : search next enters target bound queue seen = some outcome) :
    (∀ path, outcome = .found path → P path ∧ path.getLast? = some target) ∧
    (outcome = .failed → ∃ path node, P path ∧ path.getLast? = some node ∧ next node = none) := by
  induction bound generalizing queue seen with
  | zero =>
    cases queue with
    | nil =>
      cases h
      exact ⟨fun _ heq => (by cases heq), fun heq => (by cases heq)⟩
    | cons path queue => cases h
  | succ bound ih =>
    cases queue with
    | nil =>
      cases h
      exact ⟨fun _ heq => (by cases heq), fun heq => (by cases heq)⟩
    | cons path queue =>
      have hpath : P path := hqueue path mem_cons_self
      have hrest : ∀ path ∈ queue, P path := fun p hp => hqueue p (mem_cons_of_mem _ hp)
      unfold search at h
      split at h
      case h_1 => exact ih hrest h
      case h_2 node hlast =>
        split at h
        case isTrue htarget =>
          cases h
          refine ⟨fun found heq => ?_, fun heq => (by cases heq)⟩
          obtain rfl := Outcome.found.inj heq
          exact ⟨hpath, htarget ▸ hlast⟩
        case isFalse =>
          split at h
          case h_1 hnext =>
            cases h
            exact ⟨fun _ heq => (by cases heq), fun _ => ⟨path, node, hpath, hlast, hnext⟩⟩
          case h_2 neighbours hnext =>
            refine ih (fun p hp => ?_) h
            obtain hp | hp := mem_append.mp hp
            · exact hrest p hp
            · obtain ⟨n, hn, rfl⟩ := mem_map.mp hp
              obtain ⟨hmem, -, henters⟩ := mem_fresh hn
              exact hextend path node n hpath hlast ⟨neighbours, hnext, hmem, henters⟩

end Paths

section Shortest

variable {next : α → Option (List α)} {target : α} {queue : List (List α)}

theorem search_shortest {bound length : Nat} (hlevelled : Levelled queue)
    (hopen : Open (Edge next enters) target queue seen length) {outcome : Outcome α}
    (h : search next enters target bound queue seen = some outcome) :
    outcome = .failed ∨ ∃ path, outcome = .found path ∧ path.length ≤ length := by
  induction bound generalizing queue seen with
  | zero =>
    cases queue with
    | nil =>
      obtain ⟨path, hpath, -⟩ := hopen
      exact absurd hpath not_mem_nil
    | cons path queue => cases h
  | succ bound ih =>
    cases queue with
    | nil =>
      obtain ⟨path, hpath, -⟩ := hopen
      exact absurd hpath not_mem_nil
    | cons path queue =>
      obtain ⟨p, hp, a, ha, nodes, hwalk, hseen, hlength⟩ := hopen
      obtain ⟨hhead, htail⟩ := pairwise_cons.mp hlevelled.sorted
      have hle : path.length ≤ p.length := by
        obtain rfl | hp := mem_cons.mp hp
        · exact Nat.le_refl _
        · exact hhead p hp
      unfold search at h
      split at h
      case h_1 hnone =>
        have hp : p ∈ queue := by
          obtain rfl | hp := mem_cons.mp hp
          · rw [hnone] at ha
            cases ha
          · exact hp
        exact ih ⟨htail, fun q hq r hr => hlevelled.near q (mem_cons_of_mem _ hq) r
          (mem_cons_of_mem _ hr)⟩ ⟨p, hp, a, ha, nodes, hwalk, hseen, hlength⟩ h
      case h_2 node hlast =>
        split at h
        case isTrue =>
          cases h
          exact .inr ⟨path, rfl, by omega⟩
        case isFalse htarget =>
          split at h
          case h_1 =>
            cases h
            exact .inl rfl
          case h_2 neighbours hnext =>
            refine ih (hlevelled.extend _) ?_ h
            by_cases hmeets : ∃ n ∈ nodes, n ∈ BreadthFirst.fresh enters seen neighbours
            · exact Open.extend hwalk hseen hmeets (by omega)
            · -- only a path that stays queued can lead on without a fresh node
              have hp : p ∈ queue := by
                obtain rfl | hp := mem_cons.mp hp
                · rw [hlast] at ha
                  cases ha
                  cases nodes with
                  | nil => exact absurd (Option.some.inj hwalk.last) htarget
                  | cons n nodes =>
                    obtain ⟨ns, hns, hn, henters⟩ :=
                      (isChain_cons_cons.mp hwalk.chain).1
                    obtain rfl := Option.some.inj (hnext.symm.trans hns)
                    refine absurd ⟨n, mem_cons_self, ?_⟩ hmeets
                    exact (mem_fresh_or_seen hn henters).resolve_right
                      (hseen n mem_cons_self)
                · exact hp
              refine ⟨p, mem_append_left _ hp, a, ha, nodes, hwalk, fun n hn hmem => ?_,
                hlength⟩
              obtain hmem | hmem := mem_append.mp hmem
              · exact hmeets ⟨n, hn, hmem⟩
              · exact hseen n hn hmem

end Shortest

end ActorWeb.BreadthFirst
