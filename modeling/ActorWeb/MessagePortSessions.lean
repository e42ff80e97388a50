import ActorWeb.MessagePort
import ActorWeb.Transition
import Mathlib.Data.List.Nodup

/-! What two transports tell their subscribers when their calls do not cross. -/

namespace ActorWeb.MessagePort

open List Transition

variable {M : Type}

section Walk

variable {c c' : Bool} {k : Kind M} {ks ks' : List (Kind M)}

/-- A connection opens, carries frames and closes again; `none` when it does not. -/
def walk (c : Bool) : List (Kind M) → Option Bool
  | [] => some c
  | .connect :: ks => if c then none else walk true ks
  | .disconnect :: ks => if c then walk false ks else none
  | .frame _ :: ks => if c then walk true ks else none

def lifecycle : Kind M → Bool
  | .frame _ => false
  | _ => true

def framesOf (ks : List (Kind M)) : List M :=
  ks.filterMap fun
    | .frame m => some m
    | _ => none

theorem walk_append (c : Bool) (ks ks' : List (Kind M)) :
    walk c (ks ++ ks') = (walk c ks).bind fun c' => walk c' ks' := by
  induction ks generalizing c with
  | nil => rfl
  | cons k ks ih =>
    cases k with
    | connect | disconnect | frame m => cases c <;> simp [walk, ih]

theorem walk_concat (h : walk c ks = some c') (k : Kind M) : walk c (ks ++ [k]) = walk c' [k] := by
  rw [walk_append, h, Option.bind_some]

theorem walk_frames (hfree : ∀ k ∈ ks, lifecycle k = false) (hopen : ks = [] ∨ c = true) :
    walk c ks = some c := by
  induction ks with
  | nil => rfl
  | cons k ks ih =>
    obtain rfl : c = true := hopen.resolve_left (cons_ne_nil k ks)
    cases k with
    | frame m => exact ih (fun j hj => hfree j (mem_cons_of_mem _ hj)) (.inr rfl)
    | connect => cases hfree _ mem_cons_self
    | disconnect => cases hfree _ mem_cons_self

theorem walk_frames_eq (hfree : ∀ k ∈ ks, lifecycle k = false) (h : walk c ks = some c') :
    c' = c ∧ (ks = [] ∨ c = true) := by
  cases ks with
  | nil => exact ⟨(Option.some.inj h).symm, .inl rfl⟩
  | cons k ks =>
    have hopen : c = true := by
      cases k with
      | frame m =>
        cases c with
        | true => rfl
        | false => cases h
      | connect => cases hfree _ mem_cons_self
      | disconnect => cases hfree _ mem_cons_self
    have hwalk := walk_frames hfree (.inr hopen)
    exact ⟨Option.some.inj (h.symm.trans hwalk), .inr hopen⟩

theorem framesOf_append (ks ks' : List (Kind M)) :
    framesOf (ks ++ ks') = framesOf ks ++ framesOf ks' :=
  filterMap_append

end Walk

section Views

variable (p : Pair M) (side : Side)

def peer : String := (p.ends side.other).nodeAddress

def conn : Bool := (p.ends side).connections (peer p side)

def kindsFor (address : String) (es : List (Envelope M)) : List (Kind M) :=
  (es.filter fun e => e.destination = address).map Envelope.kind

/-- The envelopes of an end whose calls have not posted them yet, the next one first. -/
def posts (t : Transport M) : List (Envelope M) := t.deliveries.filterMap Delivery.after

def line : List (Kind M) :=
  kindsFor (p.ends side).nodeAddress (p.wire side ++ posts (p.ends side.other))

/-- The deliveries of events about the other end that some subscribers still wait for. -/
def waiting (t : Transport M) (source : String) : List (Delivery M) :=
  t.deliveries.filter fun d => d.event.source = source && !d.remaining.isEmpty

def told (t : Transport M) (source : String) (l : Nat) : List (Kind M) :=
  (t.log.filter fun entry => entry.listener = l && entry.event.source = source).map
    fun entry => entry.event.kind

def history (t : Transport M) (source : String) (l : Nat) : List (Kind M) :=
  told t source l ++
    ((waiting t source).filter fun d => d.remaining.contains l).map fun d => d.event.kind

def sentTo (t : Transport M) (address : String) : List M :=
  (t.sent.filter fun s => s.1 = address).map Prod.snd

end Views

section Deliveries

variable {t : Transport M} {q : String} {event : Event M} {after : Option (Envelope M)}
  {r : Transport M × Option (Envelope M)} {l : Nat} {d : Delivery M}

/-- What the list of deliveries keeps: no subscriber waits twice for one event, and only one
event about the other end is waited for. -/
structure Tidy (t : Transport M) (q : String) : Prop where
  listeners : t.listeners.Nodup
  remaining : ∀ d ∈ t.deliveries, d.remaining.Nodup ∧ ∀ l ∈ d.remaining, l ∈ t.listeners
  single : (waiting t q).length ≤ 1

structure Keeps (t t' : Transport M) : Prop where
  nodeAddress : t'.nodeAddress = t.nodeAddress
  listeners : t'.listeners = t.listeners
  connections : t'.connections = t.connections
  sent : t'.sent = t.sent

theorem told_call (t : Transport M) (l l' : Nat) (event : Event M) (q : String) :
    told (t.call l event) q l' =
      told t q l' ++ if l = l' ∧ event.source = q then [event.kind] else [] := by
  rw [told, Transport.call, filter_append, map_append, told]
  congr 1
  rw [filter_cons, filter_nil]
  by_cases hl : l = l' ∧ event.source = q
  · rw [if_pos hl, if_pos (by simpa using hl)]
    rfl
  · rw [if_neg hl, if_neg (by simpa using hl)]
    rfl

theorem waiting_cons (d : Delivery M) (ds : List (Delivery M)) (t : Transport M) (q : String) :
    waiting { t with deliveries := d :: ds } q =
      (if d.event.source = q ∧ d.remaining ≠ [] then [d] else []) ++
        waiting { t with deliveries := ds } q := by
  rw [waiting, filter_cons]
  by_cases h : d.event.source = q ∧ d.remaining ≠ []
  · rw [if_pos h, if_pos (by simpa using h)]
    rfl
  · rw [if_neg h, if_neg (by simpa using h)]
    rfl

theorem deliver_keeps (t : Transport M) (event : Event M) (after : Option (Envelope M)) :
    Keeps t (t.deliver event after).1 := by
  rw [Transport.deliver]
  split <;> exact ⟨rfl, rfl, rfl, rfl⟩

theorem deliver_posts (t : Transport M) (event : Event M) (after : Option (Envelope M)) :
    (t.deliver event after).2.toList ++ posts (t.deliver event after).1 =
      after.toList ++ posts t := by
  rw [Transport.deliver]
  split
  · rfl
  · cases after <;> rfl

theorem deliver_tidy (h : Tidy t q) (event : Event M) (after : Option (Envelope M))
    (hheard : event.source = q → waiting t q = []) :
    Tidy (t.deliver event after).1 q ∧ ∀ l ∈ t.listeners,
      history (t.deliver event after).1 q l =
        history t q l ++ if event.source = q then [event.kind] else [] := by
  rw [Transport.deliver]
  split
  case h_1 hnone =>
    refine ⟨h, fun l hl => ?_⟩
    rw [hnone] at hl
    cases hl
  case h_2 l₀ ls hlisteners =>
    have hnodup := hlisteners ▸ h.listeners
    obtain ⟨hfresh, hls⟩ := nodup_cons.mp hnodup
    have hold : waiting { t.call l₀ event with deliveries := t.deliveries } q = waiting t q := rfl
    refine ⟨⟨h.listeners, forall_mem_cons.mpr ⟨⟨hls, fun l hl => ?_⟩, h.remaining⟩, ?_⟩,
      fun l hl => ?_⟩
    · exact hlisteners ▸ mem_cons_of_mem l₀ hl
    · rw [waiting_cons, hold]
      by_cases hq : event.source = q
      · rw [hheard hq, append_nil]
        split <;> simp
      · rw [if_neg fun hand => hq hand.1]
        exact h.single
    · rw [history, waiting_cons, hold]
      have htold : told { t.call l₀ event with deliveries := ⟨event, ls, after⟩ :: t.deliveries } q l =
          told (t.call l₀ event) q l := rfl
      rw [htold, told_call, history]
      by_cases hq : event.source = q
      · rw [hheard hq, if_pos hq]
        by_cases hl₀ : l₀ = l
        · subst hl₀
          by_cases hempty : ls = []
          · simp [hq, hempty]
          · simp [hq, hempty, hfresh]
        · have hmem : l ∈ ls := by
            rw [hlisteners] at hl
            exact (mem_cons.mp hl).resolve_left fun he => hl₀ he.symm
          have hempty : ls ≠ [] := ne_nil_of_mem hmem
          simp [hq, hl₀, hmem, hempty]
      · simp [hq]

theorem deliver_log (t : Transport M) (event : Event M) (after : Option (Envelope M)) :
    ∀ entry ∈ (t.deliver event after).1.log, entry ∈ t.log ∨
      entry.event = event ∧ entry.connected = t.connections event.source := by
  rw [Transport.deliver]
  split
  · exact fun entry he => .inl he
  · intro entry he
    obtain he | he := mem_append.mp he
    · exact .inl he
    · rw [mem_singleton.mp he]
      exact .inr ⟨rfl, rfl⟩

theorem advance_cases (hr : t.advance = some r) :
    (∃ d l ls ds, t.deliveries = d :: ds ∧ d.remaining = l :: ls ∧
      r = ({ t.call l d.event with deliveries := ⟨d.event, ls, d.after⟩ :: ds }, none)) ∨
    ∃ d ds, t.deliveries = d :: ds ∧ d.remaining = [] ∧
      r = ({ t with deliveries := ds }, d.after) := by
  rw [Transport.advance] at hr
  split at hr
  case h_1 => cases hr
  case h_2 event l ls after ds hd =>
    exact .inl ⟨⟨event, l :: ls, after⟩, l, ls, ds, hd, rfl, (Option.some.inj hr).symm⟩
  case h_3 event after ds hd =>
    exact .inr ⟨⟨event, [], after⟩, ds, hd, rfl, (Option.some.inj hr).symm⟩

theorem advance_keeps (hr : t.advance = some r) : Keeps t r.1 := by
  obtain ⟨d, l, ls, ds, -, -, rfl⟩ | ⟨d, ds, -, -, rfl⟩ := advance_cases hr
  · exact ⟨rfl, rfl, rfl, rfl⟩
  · exact ⟨rfl, rfl, rfl, rfl⟩

theorem advance_posts (hr : t.advance = some r) : r.2.toList ++ posts r.1 = posts t := by
  obtain ⟨d, l, ls, ds, hds, -, rfl⟩ | ⟨d, ds, hds, -, rfl⟩ := advance_cases hr
  · rw [posts, posts, hds]
    cases hafter : d.after <;> simp [hafter]
  · rw [posts, posts, hds]
    cases hafter : d.after <;> simp [hafter]

theorem advance_tidy (h : Tidy t q) (hr : t.advance = some r) :
    Tidy r.1 q ∧ ∀ l ∈ t.listeners, history r.1 q l = history t q l := by
  obtain ⟨d, l₀, ls, ds, hds, hremaining, rfl⟩ | ⟨d, ds, hds, hremaining, rfl⟩ := advance_cases hr
  · obtain ⟨hnodup, hmem⟩ := h.remaining d (hds ▸ mem_cons_self)
    rw [hremaining] at hnodup hmem
    obtain ⟨hfresh, hls⟩ := nodup_cons.mp hnodup
    have hrest : waiting { t.call l₀ d.event with deliveries := ds } q =
        waiting { t with deliveries := ds } q := rfl
    have hwaiting : waiting t q = (if d.event.source = q then [d] else []) ++
        waiting { t with deliveries := ds } q := by
      have hsplit := waiting_cons d ds t q
      rw [← hds, hremaining] at hsplit
      simpa using hsplit
    have hsingle := h.single
    rw [hwaiting, length_append] at hsingle
    have hnone : d.event.source = q → waiting { t with deliveries := ds } q = [] := by
      intro hq
      rw [if_pos hq, length_singleton] at hsingle
      exact length_eq_zero_iff.mp (by omega)
    refine ⟨⟨h.listeners, ?_, ?_⟩, fun l _ => ?_⟩
    · refine forall_mem_cons.mpr ⟨⟨hls, fun l hl => hmem l (mem_cons_of_mem l₀ hl)⟩, ?_⟩
      exact fun d' hd' => h.remaining d' (hds ▸ mem_cons_of_mem d hd')
    · rw [waiting_cons, hrest]
      by_cases hq : d.event.source = q
      · rw [hnone hq, append_nil]
        split <;> simp
      · rw [if_neg fun hand => hq hand.1]
        exact Nat.le_trans (Nat.le_add_left _ _) hsingle
    · rw [history, waiting_cons, hrest, history, hwaiting]
      have htold : told { t.call l₀ d.event with deliveries := ⟨d.event, ls, d.after⟩ :: ds } q l =
          told (t.call l₀ d.event) q l := rfl
      rw [htold, told_call]
      by_cases hq : d.event.source = q
      · rw [hnone hq]
        by_cases hl₀ : l₀ = l
        · subst hl₀
          by_cases hempty : ls = []
          · simp [hq, hempty, hremaining]
          · simp [hq, hempty, hremaining, hfresh]
        · by_cases hempty : ls = []
          · have hne : l ≠ l₀ := fun he => hl₀ he.symm
            simp [hq, hl₀, hempty, hremaining, hne]
          · have hne : l ≠ l₀ := fun he => hl₀ he.symm
            by_cases hin : l ∈ ls <;> simp [hq, hl₀, hempty, hremaining, hne, hin]
      · simp [hq]
  · have hwaiting : waiting t q = waiting { t with deliveries := ds } q := by
      have hsplit := waiting_cons d ds t q
      rw [← hds, hremaining] at hsplit
      simpa using hsplit
    refine ⟨⟨h.listeners, fun d' hd' => h.remaining d' (hds ▸ mem_cons_of_mem d hd'), ?_⟩,
      fun l _ => ?_⟩
    · exact hwaiting ▸ h.single
    · rw [history, history, hwaiting]
      rfl

theorem advance_log (h : Tidy t q) (hr : t.advance = some r) :
    ∀ entry ∈ r.1.log, entry ∈ t.log ∨ entry.connected = t.connections entry.event.source ∧
      (entry.event.source = q → ∃ l ∈ t.listeners, ∃ ks,
        history t q l = ks ++ [entry.event.kind]) := by
  obtain ⟨d, l, ls, ds, hds, hremaining, rfl⟩ | ⟨d, ds, -, -, rfl⟩ := advance_cases hr
  · intro entry he
    obtain he | he := mem_append.mp he
    · exact .inl he
    · rw [mem_singleton.mp he]
      refine .inr ⟨rfl, fun hq => ⟨l, ?_, told t q l, ?_⟩⟩
      · exact (h.remaining d (hds ▸ mem_cons_self)).2 l (hremaining ▸ mem_cons_self)
      · have hwaiting := waiting_cons d ds t q
        rw [← hds, if_pos ⟨hq, by rw [hremaining]; simp⟩] at hwaiting
        have hsingle := h.single
        have hself : waiting { t with deliveries := t.deliveries } q = waiting t q := rfl
        rw [hself] at hwaiting
        rw [hwaiting, length_append, length_singleton] at hsingle
        have hnone : waiting { t with deliveries := ds } q = [] :=
          length_eq_zero_iff.mp (by omega)
        rw [history, hwaiting, hnone]
        simp [hremaining]
  · exact fun entry he => .inl he

end Deliveries

/-- The calls of an end cross nothing: it connects, disconnects and sends only when no change of
the connection is on its way to it, it disconnects only when nothing is, and it makes no such
call while an earlier one has not posted its envelope. A change of the connection also waits
until every subscriber got the events before it. -/
def Uncrossed (p : Pair M) (a : Side × Action M) : Prop :=
  let t := p.ends a.1
  let free := ∀ k ∈ line p a.1, lifecycle k = false
  let posted := ∀ e ∈ posts t, e.destination ≠ peer p a.1
  let heard := waiting t (peer p a.1) = []
  match a.2 with
  | .connect address =>
    t.target address = peer p a.1 → conn p a.1 = false → free ∧ posted ∧ heard
  | .disconnect address =>
    t.target address = peer p a.1 → conn p a.1 = true → line p a.1 = [] ∧ posted ∧ heard
  | .send destination _ => destination = peer p a.1 → conn p a.1 = true → free ∧ posted
  | _ => True

/-- What holds of one end: every subscriber sees the connection open, carry frames and close,
as the end itself sees it, and gets every frame of the other end once and in order. -/
structure Sound (p : Pair M) (side : Side) : Prop where
  tidy : Tidy (p.ends side) (peer p side)
  after : ∀ e ∈ posts (p.ends side), e.source = (p.ends side).nodeAddress ∧ lifecycle e.kind = true
  sources : ∀ e ∈ p.wire side, e.source = peer p side
  seen : ∀ l ∈ (p.ends side).listeners,
    walk false (history (p.ends side) (peer p side) l) = some (conn p side)
  flagged : ∀ entry ∈ (p.ends side).log, entry.event.source = peer p side →
    ∀ m, entry.event.kind = .frame m → entry.connected = true
  delivered : ∀ l ∈ (p.ends side).listeners,
    framesOf (history (p.ends side) (peer p side) l) ++
      framesOf (kindsFor (p.ends side).nodeAddress (p.wire side)) =
      sentTo (p.ends side.other) (p.ends side).nodeAddress

/-- Every change of the connection is one of this end or has been seen by it. -/
structure Leads (p : Pair M) (side : Side) : Prop where
  free : ∀ k ∈ line p side, lifecycle k = false
  opened : line p side = [] ∨ conn p side = true
  ahead : walk (conn p side.other) (line p side.other) = some (conn p side)

structure Linked (p : Pair M) : Prop where
  sound : ∀ side, Sound p side
  leads : ∃ side, Leads p side

section Put

variable {p p₁ : Pair M} {X : Side} {r : Transport M × Option (Envelope M)}

@[simp] theorem other_other (side : Side) : side.other.other = side := by cases side <;> rfl

theorem other_ne (side : Side) : side.other ≠ side := by cases side <;> decide

theorem eq_or_other (X side : Side) : side = X ∨ side = X.other := by
  cases X <;> cases side <;> decide

@[simp] theorem put_ends_self : (p.put X r).ends X = r.1 := Function.update_self ..

@[simp] theorem put_ends_other : (p.put X r).ends X.other = p.ends X.other :=
  Function.update_of_ne (other_ne X) ..

@[simp] theorem put_wire_self : (p.put X r).wire X = p.wire X :=
  Function.update_of_ne (other_ne X).symm ..

@[simp] theorem put_wire_other :
    (p.put X r).wire X.other = p.wire X.other ++ r.2.toList := Function.update_self ..

@[simp] theorem peer_put_self : peer (p.put X r) X = peer p X := by rw [peer, peer, put_ends_other]

theorem kindsFor_append (address : String) (es es' : List (Envelope M)) :
    kindsFor address (es ++ es') = kindsFor address es ++ kindsFor address es' := by
  rw [kindsFor, filter_append, map_append, kindsFor, kindsFor]

theorem kindsFor_eq_nil {address : String} {es : List (Envelope M)}
    (h : ∀ e ∈ es, e.destination ≠ address) : kindsFor address es = [] := by
  rw [kindsFor, filter_eq_nil_iff.mpr fun e he => by simpa using h e he, map_nil]

@[simp] theorem conn_put_self : conn (p.put X r) X = r.1.connections (peer p X) := by
  rw [conn, put_ends_self, peer_put_self]

theorem conn_put_other (haddress : r.1.nodeAddress = (p.ends X).nodeAddress) :
    conn (p.put X r) X.other = conn p X.other := by
  rw [conn, conn, peer, peer, other_other, put_ends_other, put_ends_self, haddress]

theorem line_put_self (haddress : r.1.nodeAddress = (p.ends X).nodeAddress) :
    line (p.put X r) X = line p X := by
  rw [line, line, put_ends_self, put_ends_other, put_wire_self, haddress]

theorem line_put_other {es : List (Envelope M)}
    (hposts : r.2.toList ++ posts r.1 = es ++ posts (p.ends X))
    (hposted : kindsFor (peer p X) es = [] ∨
      ∀ e ∈ posts (p.ends X), e.destination ≠ peer p X) :
    line (p.put X r) X.other = line p X.other ++ kindsFor (peer p X) es := by
  have hpeer : (p.ends X.other).nodeAddress = peer p X := rfl
  rw [line, line, put_ends_other, put_wire_other, other_other, put_ends_self, append_assoc,
    hposts, kindsFor_append, kindsFor_append, kindsFor_append, hpeer]
  obtain hnone | hposted := hposted
  · rw [hnone, nil_append, append_nil]
  · rw [kindsFor_eq_nil hposted, append_nil, append_nil]

theorem sound_put (hs : ∀ side, Sound p side) (hends : p₁.ends = p.ends)
    (hwire : p₁.wire X.other = p.wire X.other) (hsub : ∀ e ∈ p₁.wire X, e ∈ p.wire X)
    (haddress : r.1.nodeAddress = (p.ends X).nodeAddress)
    (hlisteners : r.1.listeners = (p.ends X).listeners) (htidy : Tidy r.1 (peer p X))
    (hafter : ∀ e ∈ posts r.1, e.source = (p.ends X).nodeAddress ∧ lifecycle e.kind = true)
    (hout : ∀ e ∈ r.2, e.source = (p.ends X).nodeAddress) (hseen : ∀ l ∈ (p.ends X).listeners,
      walk false (history r.1 (peer p X) l) = some (r.1.connections (peer p X)))
    (hflagged : ∀ entry ∈ r.1.log, entry ∈ (p.ends X).log ∨ (entry.event.source = peer p X →
      ∀ m, entry.event.kind = .frame m → entry.connected = true))
    (hdelivered : ∀ l ∈ (p.ends X).listeners, framesOf (history r.1 (peer p X) l) ++
      framesOf (kindsFor (p.ends X).nodeAddress (p₁.wire X)) =
        framesOf (history (p.ends X) (peer p X) l) ++
          framesOf (kindsFor (p.ends X).nodeAddress (p.wire X))) (hsent : sentTo r.1 (peer p X) =
      sentTo (p.ends X) (peer p X) ++ framesOf (kindsFor (peer p X) r.2.toList)) :
    ∀ side, Sound (p₁.put X r) side := by
  have hpeer : peer p₁ X = peer p X := by rw [peer, peer, hends]
  have hpeer' : (p.ends X.other).nodeAddress = peer p X := rfl
  intro side
  obtain rfl | rfl := eq_or_other X side
  · have hold := hs side
    constructor
    · rwa [put_ends_self, peer_put_self, hpeer]
    · rwa [put_ends_self, haddress]
    · rw [put_wire_self, peer_put_self, hpeer]
      exact fun e he => hold.sources e (hsub e he)
    · rw [put_ends_self, peer_put_self, hlisteners, conn_put_self, hpeer]
      exact hseen
    · rw [put_ends_self, peer_put_self, hpeer]
      intro entry he
      obtain he | he := hflagged entry he
      · exact hold.flagged entry he
      · exact he
    · rw [put_ends_self, put_ends_other, put_wire_self, peer_put_self, hlisteners, haddress, hpeer,
        hends]
      exact fun l hl => (hdelivered l hl).trans (hold.delivered l hl)
  · have hold := hs X.other
    have hback : peer (p₁.put X r) X.other = peer p X.other := by
      rw [peer, peer, other_other, put_ends_self, haddress]
    constructor
    · rw [put_ends_other, hback, hends]
      exact hold.tidy
    · rw [put_ends_other, hends]
      exact hold.after
    · rw [put_wire_other, hback, hwire]
      intro e he
      obtain he | he := mem_append.mp he
      · exact hold.sources e he
      · rw [peer, other_other]
        exact hout e (by simpa using he)
    · have hconn : conn (p₁.put X r) X.other = conn p X.other := by
        rw [conn, conn, put_ends_other, hback, hends]
      rw [put_ends_other, hback, hconn, hends]
      exact hold.seen
    · rw [put_ends_other, hback, hends]
      exact hold.flagged
    · rw [put_ends_other, put_wire_other, hback, other_other, put_ends_self, hwire, hends, hpeer',
        hsent]
      intro l hl
      have hdone := hold.delivered l hl
      rw [other_other, hpeer'] at hdone
      rw [kindsFor_append, framesOf_append, ← append_assoc, hdone]

theorem setConnection_self (t : Transport M) (address : String) :
    t.setConnection address (t.connections address) = t := by
  rw [Transport.setConnection, Function.update_eq_self]

theorem connections_setConnection (t : Transport M) (address q : String) (c : Bool) :
    (t.setConnection address c).connections q = if q = address then c else t.connections q :=
  Function.update_apply ..

theorem framesOf_lifecycle {ks : List (Kind M)} (h : ∀ k ∈ ks, lifecycle k = true) :
    framesOf ks = [] := by
  refine filterMap_eq_nil_iff.mpr fun k hk => ?_
  cases k with
  | frame m => cases h _ hk
  | connect => rfl
  | disconnect => rfl

theorem mem_posts_deliver {t : Transport M} {event : Event M} {after : Option (Envelope M)}
    {e : Envelope M} (he : e ∈ (t.deliver event after).2.toList ++ posts (t.deliver event after).1) :
    e ∈ after ∨ e ∈ posts t := by
  rw [deliver_posts] at he
  exact (mem_append.mp he).imp (fun h => by simpa using h) id

theorem sound_deliver (event : Event M) {after : Option (Envelope M)} {c : Bool}
    (hs : ∀ side, Sound p side) (hends : p₁.ends = p.ends)
    (hwire : p₁.wire X.other = p.wire X.other) (hsub : ∀ e ∈ p₁.wire X, e ∈ p.wire X)
    (hafter : ∀ e ∈ after, e.source = (p.ends X).nodeAddress ∧ lifecycle e.kind = true)
    (hheard : event.source = peer p X → waiting (p.ends X) (peer p X) = [])
    (hwalk : event.source = peer p X → walk (conn p X) [event.kind] = some c)
    (hframes : framesOf (if event.source = peer p X then [event.kind] else []) ++
      framesOf (kindsFor (p.ends X).nodeAddress (p₁.wire X)) =
        framesOf (kindsFor (p.ends X).nodeAddress (p.wire X))) :
    ∀ side, Sound (p₁.put X (((p.ends X).setConnection event.source c).deliver event after)) side := by
  have hkeeps := deliver_keeps ((p.ends X).setConnection event.source c) event after
  have hown := hs X
  have hbefore : Tidy ((p.ends X).setConnection event.source c) (peer p X) :=
    ⟨hown.tidy.listeners, hown.tidy.remaining, hown.tidy.single⟩
  obtain ⟨htidy, hhistory⟩ := deliver_tidy hbefore event after hheard
  have hposts : ∀ e ∈ (((p.ends X).setConnection event.source c).deliver event after).2.toList ++
      posts (((p.ends X).setConnection event.source c).deliver event after).1,
      e.source = (p.ends X).nodeAddress ∧ lifecycle e.kind = true := fun e he =>
    (mem_posts_deliver he).elim (hafter e) (hown.after e)
  have hout : ∀ e ∈ (((p.ends X).setConnection event.source c).deliver event after).2.toList,
      e.source = (p.ends X).nodeAddress ∧ lifecycle e.kind = true := fun e he =>
    hposts e (mem_append_left _ he)
  refine sound_put hs hends hwire hsub hkeeps.nodeAddress hkeeps.listeners htidy
    (fun e he => hposts e (mem_append_right _ he)) (fun e he => (hout e (by simpa using he)).1)
    (fun l hl => ?_) (fun entry he => ?_) (fun l hl => ?_) ?_
  · rw [hhistory l hl, hkeeps.connections]
    have hold : history ((p.ends X).setConnection event.source c) (peer p X) l =
        history (p.ends X) (peer p X) l := rfl
    rw [connections_setConnection, hold]
    by_cases hq : event.source = peer p X
    · rw [if_pos hq, walk_concat (hown.seen l hl), hwalk hq, if_pos hq.symm]
    · rw [if_neg hq, append_nil, hown.seen l hl, if_neg fun he => hq he.symm]
      rfl
  · obtain he | ⟨hevent, hconnected⟩ := deliver_log _ event after entry he
    · exact .inl he
    · refine .inr fun hsource m hm => ?_
      rw [hevent] at hsource hm
      have hframe := hwalk hsource
      rw [hm] at hframe
      have hc : c = true := by
        cases hcon : conn p X with
        | true => rw [hcon] at hframe; exact (Option.some.inj hframe).symm
        | false => rw [hcon] at hframe; cases hframe
      rw [hconnected, connections_setConnection, if_pos rfl, hc]
  · rw [hhistory l hl, framesOf_append, append_assoc, hframes]
    rfl
  · rw [sentTo, hkeeps.sent, framesOf_lifecycle]
    · exact (append_nil _).symm
    · intro k hk
      obtain ⟨e, he, rfl⟩ := mem_map.mp hk
      exact (hout e (mem_filter.mp he).1).2

end Put

section Steps

variable {p : Pair M} {X : Side} {k : Kind M} {ks : List (Kind M)} {c : Bool}

theorem Linked.leads_of_free (h : Linked p) (hfree : ∀ k ∈ line p X, lifecycle k = false) :
    Leads p X := by
  obtain ⟨side, hleads⟩ := h.leads
  obtain rfl | rfl := eq_or_other X side
  · exact hleads
  · have hahead := hleads.ahead
    rw [other_other] at hahead
    obtain ⟨hsame, hopened⟩ := walk_frames_eq hfree hahead
    exact ⟨hfree, hopened, by rw [walk_frames hleads.free hleads.opened, hsame]⟩

theorem leads_congr {p' : Pair M} (h : ∃ side, Leads p side)
    (hline : ∀ side, line p' side = line p side) (hconn : ∀ side, conn p' side = conn p side) :
    ∃ side, Leads p' side := by
  obtain ⟨side, hleads⟩ := h
  refine ⟨side, ?_, ?_, ?_⟩
  · rw [hline]
    exact hleads.free
  · rw [hline, hconn]
    exact hleads.opened
  · rw [hline, hconn, hconn]
    exact hleads.ahead

theorem linked_change (h : Linked p) (address : String) (hk : lifecycle k = true)
    (hwalk : walk (!c) [k] = some c) (hconn : address = peer p X → conn p X = !c)
    (hclear : address = peer p X → (∀ k ∈ line p X, lifecycle k = false) ∧
      (line p X = [] ∨ c = true) ∧ (∀ e ∈ posts (p.ends X), e.destination ≠ peer p X) ∧
        waiting (p.ends X) (peer p X) = []) :
    Linked (p.put X (((p.ends X).setConnection address c).deliver ⟨address, k⟩
      (some ⟨k, (p.ends X).nodeAddress, address⟩))) := by
  have hkeeps := deliver_keeps ((p.ends X).setConnection address c) ⟨address, k⟩
    (some ⟨k, (p.ends X).nodeAddress, address⟩)
  have hposts := deliver_posts ((p.ends X).setConnection address c) ⟨address, k⟩
    (some ⟨k, (p.ends X).nodeAddress, address⟩)
  have hnoFrame : framesOf (if address = peer p X then [k] else []) = [] :=
    framesOf_lifecycle fun k' hk' => by
      split at hk'
      · rwa [mem_singleton.mp hk']
      · cases hk'
  refine ⟨sound_deliver ⟨address, k⟩ h.sound rfl rfl (fun _ he => he) (fun e he => ?_)
    (fun hq => (hclear hq).2.2.2) (fun hq => ?_) (by rw [hnoFrame, nil_append]), ?_⟩
  · obtain rfl := Option.mem_some_iff.mp he
    exact ⟨rfl, hk⟩
  · rw [hconn hq]
    exact hwalk
  · by_cases hq : address = peer p X
    · obtain ⟨hfree, hopened, hposted, -⟩ := hclear hq
      refine ⟨X, ?_⟩
      have hconnX : conn (p.put X (((p.ends X).setConnection address c).deliver ⟨address, k⟩
          (some ⟨k, (p.ends X).nodeAddress, address⟩))) X = c := by
        rw [conn_put_self, hkeeps.connections, connections_setConnection, if_pos hq.symm]
      have hahead := (h.leads_of_free hfree).ahead
      constructor
      · rwa [line_put_self hkeeps.nodeAddress]
      · rwa [line_put_self hkeeps.nodeAddress, hconnX]
      · rw [conn_put_other hkeeps.nodeAddress, hconnX, line_put_other hposts (.inr hposted)]
        have hkind : kindsFor (peer p X) [⟨k, (p.ends X).nodeAddress, address⟩] = [k] := by
          simp [kindsFor, hq]
        rw [Option.toList_some, hkind, walk_concat hahead, hconn hq, hwalk]
    · have hnone : kindsFor (peer p X) [⟨k, (p.ends X).nodeAddress, address⟩] = [] :=
        kindsFor_eq_nil fun e he => by rwa [mem_singleton.mp he]
      refine leads_congr h.leads (fun side => ?_) (fun side => ?_)
      · obtain rfl | rfl := eq_or_other X side
        · exact line_put_self hkeeps.nodeAddress
        · rw [line_put_other hposts (.inl hnone), Option.toList_some, hnone, append_nil]
      · obtain rfl | rfl := eq_or_other X side
        · rw [conn_put_self, hkeeps.connections, connections_setConnection,
            if_neg fun he => hq he.symm]
          rfl
        · exact conn_put_other hkeeps.nodeAddress

theorem put_self (p : Pair M) (X : Side) : p.put X (p.ends X, none) = p := by
  rw [Pair.put, Function.update_eq_self, Option.toList_none, append_nil,
    Function.update_eq_self]

theorem linked_connect (h : Linked p) (address : Option String)
    (hu : Uncrossed p (X, .connect address)) : Linked (p.put X ((p.ends X).connect address)) := by
  rw [Transport.connect]
  split
  case isTrue => rwa [put_self]
  case isFalse =>
    split
    case isTrue => rwa [put_self]
    case isFalse hnot =>
      have hconn : (p.ends X).target address = peer p X → conn p X = false := fun hq => by
        rw [conn, ← hq]
        exact eq_false_of_ne_true hnot
      refine linked_change h _ rfl rfl hconn fun hq => ?_
      obtain ⟨hfree, hposted, hheard⟩ := hu hq (hconn hq)
      exact ⟨hfree, .inr rfl, hposted, hheard⟩

theorem linked_disconnect (h : Linked p) (address : Option String)
    (hu : Uncrossed p (X, .disconnect address)) :
    Linked (p.put X ((p.ends X).disconnect address)) := by
  rw [Transport.disconnect]
  split
  case isTrue => rwa [put_self]
  case isFalse hnot =>
    simp only [Bool.or_eq_true, decide_eq_true_eq, not_or, Bool.not_eq_true',
      Bool.not_eq_false] at hnot
    have hconn : (p.ends X).target address = peer p X → conn p X = true := fun hq => by
      rw [conn, ← hq]
      exact hnot.2
    refine linked_change h _ rfl rfl hconn fun hq => ?_
    obtain ⟨hline, hposted, hheard⟩ := hu hq (hconn hq)
    refine ⟨fun k hk => ?_, .inl hline, hposted, hheard⟩
    rw [hline] at hk
    cases hk

theorem linked_send (h : Linked p) (destination : String) (m : M)
    (hu : Uncrossed p (X, .send destination m)) :
    Linked (p.put X ((p.ends X).send destination m)) := by
  have hown := h.sound X
  rw [Transport.send]
  split
  case isTrue => rwa [put_self]
  case isFalse hnot =>
    have hout : kindsFor (peer p X) [⟨.frame m, (p.ends X).nodeAddress, destination⟩] =
        if destination = peer p X then [.frame m] else [] := by
      by_cases hq : destination = peer p X
      · simp [kindsFor, hq]
      · simp [kindsFor, hq]
    refine ⟨sound_put h.sound rfl rfl (fun _ he => he) rfl rfl
      ⟨hown.tidy.listeners, hown.tidy.remaining, hown.tidy.single⟩ hown.after (fun e he => ?_)
      hown.seen (fun _ he => .inl he) (fun _ _ => rfl) ?_, ?_⟩
    · rw [← Option.mem_some_iff.mp he]
    · rw [Option.toList_some, hout, sentTo, filter_append, map_append, sentTo]
      congr 1
      by_cases hq : destination = peer p X
      · simp [hq, framesOf]
      · simp [hq, framesOf]
    · by_cases hq : destination = peer p X
      · have hconn : conn p X = true := by
          rw [conn, ← hq]
          simpa using hnot
        obtain ⟨hfree, hposted⟩ := hu hq hconn
        have hahead := (h.leads_of_free hfree).ahead
        refine ⟨X, ?_, ?_, ?_⟩
        · rwa [line_put_self rfl]
        · rw [conn_put_self]
          exact .inr hconn
        · rw [conn_put_other rfl, conn_put_self, line_put_other rfl (.inr hposted),
            Option.toList_some, hout, if_pos hq, walk_concat hahead, hconn]
          exact congrArg some hconn.symm
      · refine leads_congr h.leads (fun side => ?_) (fun side => ?_)
        · obtain rfl | rfl := eq_or_other X side
          · exact line_put_self rfl
          · rw [line_put_other rfl (.inl (by rw [Option.toList_some, hout, if_neg hq])),
              Option.toList_some, hout, if_neg hq, append_nil]
        · obtain rfl | rfl := eq_or_other X side
          · rw [conn_put_self]
            rfl
          · exact conn_put_other rfl

theorem walk_frame_last {m : M} {c' : Bool} (h : walk c (ks ++ [.frame m]) = some c') :
    c' = true := by
  rw [walk_append] at h
  obtain ⟨c'', -, hlast⟩ := Option.bind_eq_some_iff.mp h
  cases c'' with
  | true => exact (Option.some.inj hlast).symm
  | false => cases hlast

theorem linked_advance (h : Linked p) {r : Transport M × Option (Envelope M)}
    (hr : (p.ends X).advance = some r) : Linked (p.put X r) := by
  have hown := h.sound X
  have hkeeps := advance_keeps hr
  have hposts := advance_posts hr
  obtain ⟨htidy, hhistory⟩ := advance_tidy hown.tidy hr
  have hmem : ∀ e ∈ r.2.toList ++ posts r.1,
      e.source = (p.ends X).nodeAddress ∧ lifecycle e.kind = true := by
    rw [hposts]
    exact hown.after
  refine ⟨sound_put h.sound rfl rfl (fun _ he => he) hkeeps.nodeAddress hkeeps.listeners htidy
    (fun e he => hmem e (mem_append_right _ he))
    (fun e he => (hmem e (mem_append_left _ (by simpa using he))).1) (fun l hl => ?_)
    (fun entry he => ?_) (fun l hl => by rw [hhistory l hl]) ?_, ?_⟩
  · rw [hhistory l hl, hkeeps.connections]
    exact hown.seen l hl
  · obtain he | ⟨hconnected, hlast⟩ := advance_log hown.tidy hr entry he
    · exact .inl he
    · refine .inr fun hq m hm => ?_
      obtain ⟨l, hl, ks, hks⟩ := hlast hq
      have hseen := hown.seen l hl
      rw [hks, hm] at hseen
      rw [hconnected, hq]
      exact walk_frame_last hseen
  · rw [sentTo, hkeeps.sent, framesOf_lifecycle]
    · exact (append_nil _).symm
    · intro k hk
      obtain ⟨e, he, rfl⟩ := mem_map.mp hk
      exact (hmem e (mem_append_left _ (mem_filter.mp he).1)).2
  · have hposts' : r.2.toList ++ posts r.1 = [] ++ posts (p.ends X) := hposts
    refine leads_congr h.leads (fun side => ?_) (fun side => ?_)
    · obtain rfl | rfl := eq_or_other X side
      · exact line_put_self hkeeps.nodeAddress
      · rw [line_put_other hposts' (.inl rfl)]
        exact append_nil _
    · obtain rfl | rfl := eq_or_other X side
      · rw [conn_put_self, hkeeps.connections]
        rfl
      · exact conn_put_other hkeeps.nodeAddress

theorem handleEnvelope_eq (t : Transport M) {e : Envelope M} (hdest : e.destination = t.nodeAddress)
    (hwalk : walk (t.connections e.source) [e.kind] = some c) :
    t.handleEnvelope e = (t.setConnection e.source c).deliver ⟨e.source, e.kind⟩ none := by
  rw [Transport.handleEnvelope, if_neg (not_not.mpr hdest)]
  cases hk : e.kind with
  | connect =>
    rw [hk] at hwalk
    cases hc : t.connections e.source with
    | true => rw [hc] at hwalk; cases hwalk
    | false =>
      rw [hc] at hwalk
      rw [← Option.some.inj hwalk]
  | disconnect =>
    rw [hk] at hwalk
    cases hc : t.connections e.source with
    | true =>
      rw [hc] at hwalk
      rw [← Option.some.inj hwalk]
    | false => rw [hc] at hwalk; cases hwalk
  | frame m =>
    rw [hk] at hwalk
    cases hc : t.connections e.source with
    | true =>
      rw [hc] at hwalk
      have hsame := setConnection_self t e.source
      rw [hc] at hsame
      rw [← Option.some.inj hwalk, hsame]
    | false => rw [hc] at hwalk; cases hwalk

theorem walk_cons {c' : Bool} (h : walk c (k :: ks) = some c') :
    ∃ d, walk c [k] = some d ∧ walk d ks = some c' :=
  Option.bind_eq_some_iff.mp ((walk_append c [k] ks).symm.trans h)

theorem Linked.head_walk (h : Linked p) (hline : line p X = k :: ks) :
    ∃ c, walk (conn p X) [k] = some c := by
  obtain ⟨side, hleads⟩ := h.leads
  obtain rfl | rfl := eq_or_other X side
  · have hopen := hleads.opened.resolve_left (by rw [hline]; exact cons_ne_nil k ks)
    have hframe := hleads.free k (hline ▸ mem_cons_self)
    cases k with
    | frame m => exact ⟨true, by rw [hopen]; rfl⟩
    | connect => cases hframe
    | disconnect => cases hframe
  · have hahead := hleads.ahead
    rw [other_other, hline] at hahead
    obtain ⟨c, hc, -⟩ := walk_cons hahead
    exact ⟨c, hc⟩

theorem leads_after_head {p' : Pair M} (h : ∃ side, Leads p side) (hline : line p X = k :: ks)
    (hc : walk (conn p X) [k] = some c) (hlineX : line p' X = ks) (hconnX : conn p' X = c)
    (hlineY : line p' X.other = line p X.other) (hconnY : conn p' X.other = conn p X.other) :
    ∃ side, Leads p' side := by
  obtain ⟨side, hleads⟩ := h
  obtain rfl | rfl := eq_or_other X side
  · have hopen := hleads.opened.resolve_left (by rw [hline]; exact cons_ne_nil k ks)
    have hfree := hleads.free
    rw [hline] at hfree
    rw [hopen] at hc
    have hframe := hfree k mem_cons_self
    obtain rfl : c = true := by
      cases k with
      | frame m => exact (Option.some.inj hc).symm
      | connect => cases hframe
      | disconnect => cases hframe
    refine ⟨_, ?_, .inr hconnX, ?_⟩
    · rw [hlineX]
      exact fun k' hk' => hfree k' (mem_cons_of_mem k hk')
    · rw [hlineY, hconnY, hconnX, ← hopen]
      exact hleads.ahead
  · have hahead := hleads.ahead
    rw [other_other, hline] at hahead
    obtain ⟨d, hd, hrest⟩ := walk_cons hahead
    obtain rfl : c = d := Option.some.inj (hc.symm.trans hd)
    refine ⟨X.other, ?_, ?_, ?_⟩
    · rw [hlineY]
      exact hleads.free
    · rw [hlineY, hconnY]
      exact hleads.opened
    · rw [other_other, hconnX, hlineX, hconnY]
      exact hrest

theorem linked_receive (h : Linked p) {e : Envelope M} {es : List (Envelope M)}
    (hidle : (p.ends X).deliveries = []) (hwire : p.wire X = e :: es) :
    Linked ({ p with wire := Function.update p.wire X es }.put X
      ((p.ends X).handleEnvelope e)) := by
  have hown := h.sound X
  generalize hp₁ : ({ p with wire := Function.update p.wire X es } : Pair M) = p₁
  have hends : p₁.ends = p.ends := by rw [← hp₁]
  have hX : p₁.wire X = es := by rw [← hp₁]; exact Function.update_self ..
  have hY : p₁.wire X.other = p.wire X.other := by
    rw [← hp₁]
    exact Function.update_of_ne (other_ne X) ..
  have hsub : ∀ e' ∈ p₁.wire X, e' ∈ p.wire X := by
    rw [hX, hwire]
    exact fun e' he' => mem_cons_of_mem e he'
  have hlineX : line p₁ X = kindsFor (p.ends X).nodeAddress (es ++ posts (p.ends X.other)) := by
    rw [line, hends, hX]
  have hlineY : line p₁ X.other = line p X.other := by rw [line, line, hends, hY]
  have hpop : line p X = (if e.destination = (p.ends X).nodeAddress then [e.kind] else []) ++
      line p₁ X := by
    rw [hlineX, line, hwire, cons_append, kindsFor, filter_cons]
    by_cases hdest : e.destination = (p.ends X).nodeAddress
    · rw [if_pos hdest, if_pos (decide_eq_true hdest)]
      rfl
    · rw [if_neg hdest, if_neg (by simpa using hdest)]
      rfl
  have hkinds : kindsFor (p.ends X).nodeAddress (p.wire X) =
      (if e.destination = (p.ends X).nodeAddress then [e.kind] else []) ++
        kindsFor (p.ends X).nodeAddress (p₁.wire X) := by
    rw [hwire, hX, kindsFor, filter_cons]
    by_cases hdest : e.destination = (p.ends X).nodeAddress
    · rw [if_pos hdest, if_pos (decide_eq_true hdest)]
      rfl
    · rw [if_neg hdest, if_neg (by simpa using hdest)]
      rfl
  have hconn : ∀ side, conn p₁ side = conn p side := fun side => by rw [conn, conn, peer, peer, hends]
  by_cases hdest : e.destination = (p.ends X).nodeAddress
  · have hsource : e.source = peer p X := hown.sources e (hwire ▸ mem_cons_self)
    rw [if_pos hdest] at hpop hkinds
    obtain ⟨c, hc⟩ := h.head_walk hpop
    have hconnX : (p.ends X).connections e.source = conn p X := by rw [hsource]; rfl
    rw [handleEnvelope_eq (p.ends X) hdest (hconnX.symm ▸ hc)]
    have hkeeps := deliver_keeps ((p.ends X).setConnection e.source c) ⟨e.source, e.kind⟩ none
    have hposts := deliver_posts ((p.ends X).setConnection e.source c) ⟨e.source, e.kind⟩ none
    have haddress : (((p.ends X).setConnection e.source c).deliver ⟨e.source, e.kind⟩ none).1.nodeAddress =
        (p₁.ends X).nodeAddress := hkeeps.nodeAddress.trans (by rw [hends]; rfl)
    have hposts₁ : (((p.ends X).setConnection e.source c).deliver ⟨e.source, e.kind⟩ none).2.toList ++
        posts (((p.ends X).setConnection e.source c).deliver ⟨e.source, e.kind⟩ none).1 =
          [] ++ posts (p₁.ends X) := hposts.trans (by rw [hends]; rfl)
    refine ⟨sound_deliver ⟨e.source, e.kind⟩ h.sound hends hY hsub nofun (fun _ => ?_) (fun _ => hc)
      ?_, leads_after_head h.leads hpop hc ?_ ?_ ?_ ?_⟩
    · rw [waiting, hidle, filter_nil]
    · rw [if_pos hsource, hkinds, framesOf_append]
    · exact line_put_self haddress
    · rw [conn_put_self, hkeeps.connections, connections_setConnection, peer, hends]
      exact if_pos hsource.symm
    · rw [line_put_other hposts₁ (.inl rfl), hlineY]
      exact append_nil _
    · rw [conn_put_other haddress, hconn]
  · rw [if_neg hdest, nil_append] at hpop hkinds
    have hnoop : (p.ends X).handleEnvelope e = (p.ends X, none) := by
      rw [Transport.handleEnvelope, if_pos hdest]
    have hput : p₁.put X (p.ends X, none) = p₁ := by
      have hself := put_self p₁ X
      rwa [hends] at hself
    rw [hnoop]
    refine ⟨sound_put h.sound hends hY hsub rfl rfl hown.tidy hown.after nofun hown.seen
      (fun _ he => .inl he) (fun l hl => by rw [hkinds]) (append_nil _).symm, ?_⟩
    rw [hput]
    refine leads_congr h.leads (fun side => ?_) hconn
    obtain rfl | rfl := eq_or_other X side
    · exact hpop.symm
    · exact hlineY

theorem linked_step (h : Linked p) {p' : Pair M} {a : Side × Action M} (hu : Uncrossed p a)
    (hstep : step p a = some p') : Linked p' := by
  obtain ⟨X, act⟩ := a
  cases act with
  | connect address => exact Option.some.inj hstep ▸ linked_connect h address hu
  | disconnect address => exact Option.some.inj hstep ▸ linked_disconnect h address hu
  | send destination m => exact Option.some.inj hstep ▸ linked_send h destination m hu
  | receive =>
    simp only [step] at hstep
    split at hstep
    case h_1 e es hidle hwire => exact Option.some.inj hstep ▸ linked_receive h hidle hwire
    case h_2 => cases hstep
  | advance =>
    obtain ⟨r, hr, rfl⟩ := Option.map_eq_some_iff.mp hstep
    exact linked_advance h hr

end Steps

/-- The two ends and their subscribers agree on what went over the port. -/
structure Agrees (p : Pair M) : Prop where
  alternate : ∀ side, ∀ l ∈ (p.ends side).listeners,
    ∃ c, walk false (told (p.ends side) (peer p side) l) = some c
  regarded : ∀ side, ∀ entry ∈ (p.ends side).log, entry.event.source = peer p side →
    ∀ m, entry.event.kind = .frame m → entry.connected = true
  delivered : ∀ side, ∀ l ∈ (p.ends side).listeners,
    framesOf (history (p.ends side) (peer p side) l) ++
      framesOf (kindsFor (p.ends side).nodeAddress (p.wire side)) =
      sentTo (p.ends side.other) (p.ends side).nodeAddress
  settled : line p .left = [] → line p .right = [] → conn p .left = conn p .right

theorem Linked.agrees {p : Pair M} (h : Linked p) : Agrees p where
  alternate := fun side l hl => by
    have hseen := (h.sound side).seen l hl
    rw [history, walk_append] at hseen
    obtain ⟨c, hc, -⟩ := Option.bind_eq_some_iff.mp hseen
    exact ⟨c, hc⟩
  regarded := fun side => (h.sound side).flagged
  delivered := fun side => (h.sound side).delivered
  settled := fun hleft hright => by
    obtain ⟨side, hleads⟩ := h.leads
    have hahead := hleads.ahead
    cases side with
    | left =>
      rw [Side.other, hright] at hahead
      exact (Option.some.inj hahead).symm
    | right =>
      rw [Side.other, hleft] at hahead
      exact Option.some.inj hahead

def joined (a b : String) (toB toA : Option String) (n m : Nat) : Pair M :=
  begin (createMessagePortTransport a toB (List.range n))
    (createMessagePortTransport b toA (List.range m))

theorem joined_linked (a b : String) (toB toA : Option String) (n m : Nat) :
    Linked (joined a b toB toA n m : Pair M) where
  sound := fun side => by
    cases side with
    | left | right =>
      exact ⟨⟨nodup_range, nofun, Nat.zero_le 1⟩, nofun, nofun, fun _ _ => rfl, nofun,
        fun _ _ => rfl⟩
  leads := ⟨.left, nofun, .inl rfl, rfl⟩

/-- In a run whose calls cross nothing the two ends agree in every state. -/
theorem uncrossed_runs_agree {p : Pair M} (a b : String) (toB toA : Option String) (n m : Nat)
    (actions : List (Side × Action M))
    (hguard : Guarded step Uncrossed (joined a b toB toA n m) actions)
    (hrun : exec step (joined a b toB toA n m) actions = some p) : Agrees p := by
  have hlinked : Linked p := guarded_invariant (I := Linked)
    (fun _ _ _ h hstep hu => linked_step h hu hstep) (joined_linked a b toB toA n m) hguard hrun
  exact hlinked.agrees

section Runs

instance [DecidableEq M] (p : Pair M) : (a : Side × Action M) → Decidable (Uncrossed p a)
  | (X, .connect address) => inferInstanceAs (Decidable ((p.ends X).target address = peer p X →
      conn p X = false → (∀ k ∈ line p X, lifecycle k = false) ∧
        (∀ e ∈ posts (p.ends X), e.destination ≠ peer p X) ∧
        waiting (p.ends X) (peer p X) = []))
  | (X, .disconnect address) => inferInstanceAs (Decidable ((p.ends X).target address = peer p X →
      conn p X = true → line p X = [] ∧ (∀ e ∈ posts (p.ends X), e.destination ≠ peer p X) ∧
        waiting (p.ends X) (peer p X) = []))
  | (X, .send destination _) => inferInstanceAs (Decidable (destination = peer p X →
      conn p X = true → (∀ k ∈ line p X, lifecycle k = false) ∧
        ∀ e ∈ posts (p.ends X), e.destination ≠ peer p X))
  | (_, .receive) => inferInstanceAs (Decidable True)
  | (_, .advance) => inferInstanceAs (Decidable True)

def windowAndWorker : Pair String := joined "window" "worker" (some "worker") none 1 1

/-- The window connects and sends, and the worker disconnects when it has seen all. -/
def sessionRun : List (Side × Action String) :=
  [(.left, .connect none), (.left, .advance), (.left, .send "worker" "ping"), (.right, .receive),
    (.right, .advance), (.right, .receive), (.right, .advance),
    (.right, .disconnect (some "window")), (.right, .advance), (.left, .receive), (.left, .advance)]

theorem uncrossed_runs_agree_session :
    ∃ p, exec step windowAndWorker sessionRun = some p ∧ Agrees p := by
  have hrun : (exec step windowAndWorker sessionRun).isSome := by decide +kernel
  obtain ⟨p, hp⟩ := Option.isSome_iff_exists.mp hrun
  have hguard : Guarded step Uncrossed windowAndWorker sessionRun := by decide +kernel
  exact ⟨p, hp, uncrossed_runs_agree "window" "worker" (some "worker") none 1 1 sessionRun hguard hp⟩

def crossingRun : List (Side × Action String) :=
  [(.left, .connect none), (.left, .advance), (.right, .connect (some "window")),
    (.right, .advance), (.left, .receive), (.left, .advance)]

def overtakingRun : List (Side × Action String) :=
  [(.left, .connect none), (.left, .send "worker" "sync"), (.left, .advance), (.right, .receive)]

def divergingRun : List (Side × Action String) :=
  [(.left, .connect none), (.left, .advance), (.right, .receive), (.right, .advance),
    (.right, .disconnect (some "window")), (.right, .advance), (.right, .connect (some "window")),
    (.right, .advance), (.left, .disconnect none), (.left, .advance), (.left, .receive),
    (.left, .advance), (.left, .receive), (.left, .advance), (.right, .receive),
    (.right, .advance)]

/-- Crossing calls repeat a lifecycle message and leave the ends in disagreement, and a frame
overtakes the connection that it belongs to. -/
theorem crossing_calls_disagree :
    (¬∀ actions p, exec step windowAndWorker actions = some p → Agrees p) ∧
    (exec step windowAndWorker crossingRun).map (fun p => told (p.ends .left) "worker" 0) =
      some [.connect, .connect] ∧
    (exec step windowAndWorker overtakingRun).map (fun p => (p.ends .right).log) =
      some [⟨0, ⟨"window", .frame "sync"⟩, false⟩] ∧
    (exec step windowAndWorker divergingRun).map
      (fun p => (line p .left, line p .right, conn p .left, conn p .right)) =
      some ([], [], true, false) := by
  have hcrossing : (exec step windowAndWorker crossingRun).any (fun p =>
      decide (0 ∈ (p.ends .left).listeners ∧
        walk false (told (p.ends .left) (peer p .left) 0) = none)) = true := by
    decide +kernel
  refine ⟨fun h => ?_, by decide +kernel, by decide +kernel, by decide +kernel⟩
  obtain ⟨p, hp, hcheck⟩ := (Option.any_eq_true _ _).mp hcrossing
  obtain ⟨hmem, hnone⟩ := of_decide_eq_true hcheck
  obtain ⟨c, hc⟩ := (h crossingRun p hp).alternate .left 0 hmem
  cases hnone.symm.trans hc

end Runs

end ActorWeb.MessagePort
