import ActorWeb.Trace

/-! One WebSocket link of the browser transport, whose frames are decoded independently. -/

namespace ActorWeb.BrowserLink

open List Trace

/-- The data of a message event. Only a blob, which may be unreadable, is awaited. -/
inductive Data
  | text (s : String)
  | arrayBuffer (bytes : List UInt8)
  | blob (content : Option (List UInt8))

def Data.isBlob : Data → Bool
  | .blob _ => true
  | _ => false

/-- What `parseJson` calls. -/
structure Platform (Payload : Type) where
  jsonParse : String → Option Payload
  textDecode : List UInt8 → String
  null : Payload

variable {Payload : Type}

def parseJson (p : Platform Payload) : Data → Payload
  | .text s => (p.jsonParse s).getD p.null
  | .arrayBuffer bytes => (p.jsonParse (p.textDecode bytes)).getD p.null
  | .blob content => (content.bind fun bytes => p.jsonParse (p.textDecode bytes)).getD p.null

inductive Event (Payload : Type)
  | handed (frame : Nat) (payload : Payload)
  | closed
deriving DecidableEq

structure Link (Payload : Type) where
  /-- The sink is set and the listeners of the socket are in place. -/
  (sink closed socketOpen : Bool)
  arrived : List Data
  decoding : List Nat
  log : List (Event Payload)

def receive : Link Payload := ⟨true, false, true, [], [], []⟩

def onPayload (l : Link Payload) (i : Nat) (payload : Payload) : Link Payload :=
  if l.sink then { l with log := l.log ++ [.handed i payload] } else l

/-- What is not awaited is handed over before the next task runs. -/
def onMessage (p : Platform Payload) (l : Link Payload) (d : Data) : Link Payload :=
  let i := l.arrived.length
  let l := { l with arrived := l.arrived ++ [d] }
  if d.isBlob then { l with decoding := l.decoding ++ [i] } else onPayload l i (parseJson p d)

/-- The text of a blob is there, or cannot be read. -/
def decoded (p : Platform Payload) (l : Link Payload) (i : Nat) : Link Payload :=
  match l.arrived[i]? with
  | some d =>
    if i ∈ l.decoding then onPayload { l with decoding := l.decoding.erase i } i (parseJson p d) else l
  | none => l

def close (l : Link Payload) : Link Payload :=
  if l.closed then l else { l with closed := true, socketOpen := false, log := l.log ++ [.closed] }

inductive Action
  | message (d : Data)
  | decoded (i : Nat)
  | close
  | socketClosed
  | unlisten

def step (p : Platform Payload) (l : Link Payload) : Action → Link Payload
  | .message d => if l.socketOpen && l.sink then onMessage p l d else l
  | .decoded i => decoded p l i
  | .close => close l
  | .socketClosed => { l with socketOpen := false, log := l.log ++ [.closed] }
  | .unlisten => { l with sink := false }

def run (p : Platform Payload) (actions : List Action) : Link Payload := actions.foldl (step p) receive

def frames (actions : List Action) : List Data :=
  actions.filterMap fun
    | .message d => some d
    | _ => none

def handed (log : List (Event Payload)) : List (Payload × Nat) :=
  log.filterMap fun
    | .handed i payload => some (payload, i)
    | .closed => none

def expected (p : Platform Payload) (l : Link Payload) : List (Payload × Nat) :=
  (l.arrived.map (parseJson p)).zipIdx

def Allowed (past : List (Event Payload)) : Event Payload → Prop
  | .handed _ _ => .closed ∉ past
  | .closed => True

/-- Payloads are handed over in the order of their frames, all of them once nothing is being
decoded, and none after the link was closed. -/
structure Faithful (p : Platform Payload) (l : Link Payload) : Prop where
  ordered : handed l.log <+: expected p l
  complete : l.sink = true → l.decoding = [] → handed l.log = expected p l
  silent : Disciplined Allowed l.log

structure Inv (p : Platform Payload) (l : Link Payload) : Prop where
  decoding : l.decoding = []
  handed : handed l.log = expected p l
  silent : Disciplined Allowed l.log
  socketOpen : .closed ∈ l.log → l.socketOpen = false

section Runs

variable {p : Platform Payload} {l : Link Payload}

theorem Inv.faithful (h : Inv p l) : Faithful p l :=
  ⟨h.handed ▸ prefix_refl _, fun _ _ => h.handed, h.silent⟩

theorem Inv.closing (h : Inv p l) (closed : Bool) :
    Inv p { l with closed := closed, socketOpen := false, log := l.log ++ [.closed] } where
  decoding := h.decoding
  handed := by simpa [BrowserLink.handed, expected] using h.handed
  silent := disciplined_concat.mpr ⟨h.silent, trivial⟩
  socketOpen _ := rfl

theorem Inv.onMessage (h : Inv p l) {d : Data} (hd : d.isBlob = false) (hopen : l.socketOpen = true)
    (hsink : l.sink = true) : Inv p (onMessage p l d) := by
  have hfresh : .closed ∉ l.log := fun hm => by simp [h.socketOpen hm] at hopen
  simp only [BrowserLink.onMessage, hd, onPayload, hsink, if_true]
  refine ⟨h.decoding, ?_, disciplined_concat.mpr ⟨h.silent, hfresh⟩, fun hm => ?_⟩
  · have hhanded := h.handed
    simp only [BrowserLink.handed, expected] at hhanded ⊢
    simp [hhanded, zipIdx_append]
  · simp [hfresh] at hm

theorem Inv.step (h : Inv p l) {a : Action} (ha : ∀ d, a = .message d → d.isBlob = false) :
    Inv p (step p l a) := by
  cases a with
  | message d =>
    simp only [BrowserLink.step]
    split
    case isTrue hopen =>
      rw [Bool.and_eq_true] at hopen
      exact h.onMessage (ha d rfl) hopen.1 hopen.2
    case isFalse => exact h
  | decoded i =>
    simp only [BrowserLink.step, decoded, h.decoding, not_mem_nil, if_false]
    split <;> exact h
  | close =>
    simp only [BrowserLink.step, close]
    split
    · exact h
    · exact h.closing true
  | socketClosed => exact h.closing l.closed
  | unlisten => exact ⟨h.decoding, h.handed, h.silent, h.socketOpen⟩

theorem Inv.run {actions : List Action} (h : Inv p l) (hf : ∀ d ∈ frames actions, d.isBlob = false) :
    Inv p (actions.foldl (BrowserLink.step p) l) := by
  induction actions generalizing l with
  | nil => exact h
  | cons a actions ih =>
    refine ih (h.step fun d ha => hf d (by simp [frames, ha])) fun d hd => hf d ?_
    cases a <;> simp_all [frames]

theorem messages_run (p : Platform Payload) (ds : List Data) (hopen : l.socketOpen = true)
    (hsink : l.sink = true) : let l' := (ds.map .message).foldl (step p) l
    l'.socketOpen = true ∧ l'.sink = true ∧ l'.closed = l.closed ∧ l'.arrived = l.arrived ++ ds ∧
      l.decoding ⊆ l'.decoding := by
  induction ds generalizing l with
  | nil => simp [hopen, hsink]
  | cons d ds ih =>
    have hstep : step p l (.message d) = onMessage p l d := by simp [step, hopen, hsink]
    rw [map_cons, foldl_cons, hstep]
    cases hd : d.isBlob with
    | true =>
      have h := ih (l := onMessage p l d) (by simp [onMessage, hd, hopen]) (by simp
        [onMessage, hd, hsink])
      simp only [onMessage, hd, if_true] at h ⊢
      refine ⟨h.1, h.2.1, h.2.2.1, by simpa using h.2.2.2.1, fun i hi => h.2.2.2.2 (by simp [hi])⟩
    | false =>
      have h := ih (l := onMessage p l d) (by simp [onMessage, onPayload, hd, hopen, hsink])
        (by simp [onMessage, onPayload, hd, hsink])
      simp only [onMessage, onPayload, hd, hsink, Bool.false_eq_true, if_false, if_true] at h ⊢
      exact ⟨h.1, h.2.1, h.2.2.1, by simpa using h.2.2.2.1, h.2.2.2.2⟩

theorem decoded_late {i : Nat} {d : Data} (hclosed : l.closed = false) (hsink : l.sink = true)
    (hi : i ∈ l.decoding) (hd : l.arrived[i]? = some d) :
    ¬ Disciplined Allowed (decoded p (close l) i).log := by
  simp only [decoded, close, hclosed, Bool.false_eq_true, if_false, hd, hi, if_true, onPayload, hsink]
  rw [disciplined_concat]
  exact fun h => h.2 (by simp)

theorem late_blob {pre post : List Data} {d : Data} (hd : d.isBlob = true) : ¬ Disciplined Allowed
      (run p ((pre ++ d :: post).map .message ++ [.close, .decoded pre.length])).log := by
  obtain ⟨hopen, hsink, hclosed, harrived, -⟩ := messages_run p pre (l := receive) rfl rfl
  rw [run, map_append, map_cons, foldl_append, foldl_append]
  set before := (pre.map Action.message).foldl (step p) receive with hbefore
  have hnext : step p before (.message d) =
      { before with arrived := pre ++ [d], decoding := before.decoding ++ [pre.length] } := by
    simp [step, hopen, hsink, onMessage, hd, harrived, receive]
  simp only [foldl_cons, foldl_nil, hnext]
  obtain ⟨hopen', hsink', hclosed', harrived', hdecoding⟩ := messages_run p post
    (l := { before with arrived := pre ++ [d], decoding := before.decoding ++ [pre.length] }) hopen hsink
  have hmem := hdecoding (mem_append_right _ (mem_singleton_self pre.length))
  refine decoded_late (hclosed'.trans hclosed) hsink' hmem (d := d) ?_
  simp [harrived']

end Runs

/-- The frames of a link are handed over faithfully on every schedule exactly when no blob is
among them. -/
theorem faithful_iff (p : Platform Payload) (ds : List Data) :
    (∀ actions, frames actions = ds → Faithful p (run p actions)) ↔ ∀ d ∈ ds, d.isBlob = false := by
  constructor
  · intro h d hd
    obtain ⟨pre, post, rfl⟩ := append_of_mem hd
    by_contra hblob
    have hrun := h ((pre ++ d :: post).map .message ++ [.close, .decoded pre.length])
      (by simp [frames])
    exact late_blob (by simpa using hblob) hrun.silent
  · rintro h actions rfl
    have hstart : Inv p (receive : Link Payload) := ⟨rfl, rfl, disciplined_nil, by simp [receive]⟩
    exact (hstart.run h).faithful

/-- A text overtakes a blob that arrived before it. -/
theorem blob_overtaken :
    let p : Platform String := ⟨some, fun _ => "blob", "null"⟩
    (run p [.message (.blob (some [])), .message (.text "text"), .decoded 0]).log =
        [.handed 1 "text", .handed 0 "blob"] ∧
      ¬ Faithful p (run p [.message (.blob (some [])), .message (.text "text"), .decoded 0]) := by
  have hlog : (run (⟨some, fun _ => "blob", "null"⟩ : Platform String)
      [.message (.blob (some [])), .message (.text "text"), .decoded 0]).log =
        [.handed 1 "text", .handed 0 "blob"] := by decide
  refine ⟨hlog, fun h => ?_⟩
  have hordered := h.ordered
  revert hordered
  decide

end ActorWeb.BrowserLink
