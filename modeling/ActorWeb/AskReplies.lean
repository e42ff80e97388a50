import ActorWeb.JsonShape
import ActorWeb.TransportFrames

/-! The way of a reply from the handler back to the caller of `ask`. -/

namespace ActorWeb.AskReplies

open OrderedMap List TransportFrames Json

def replyFields : Json → List (String × Json)
  | .arr items => [("payload", .arr items)]
  | .obj entries => entries
  | v => [("value", v)]

def spread (message : OrderedMap String Json) (fields : List (String × Json)) :
    OrderedMap String Json :=
  fields.foldl (fun acc e => acc.set e.1 e.2) message

def sendResponse (reply : Json) (correlationId messageType : String) (now : JsonNumber) :
    OrderedMap String Json :=
  (((spread (OrderedMap.empty.set "type" (.str messageType)) (replyFields reply)).set
    "_correlationId" (.str correlationId)).set "_timestamp" (.num now)).set "_version"
      (.str "2.0.0")

def envelopeNames : List String := ["type", "_timestamp", "_version", "_correlationId", "_sender"]

def responseData (entries : List (String × Json)) : List (String × Json) :=
  entries.filter fun e => e.1 ∉ envelopeNames

def onlyField (name : String) (entries : List (String × Json)) : Option Json :=
  if entries.length = 1 then (Json.obj entries).get name else none

def unwrap (data : List (String × Json)) : Json :=
  ((onlyField "value" data).or (onlyField "payload" data)).getD (.obj data)

def extractResponse (response : Json) : Json :=
  match response with
  | .obj entries =>
    if (response.get "type").isSome && (response.get "_timestamp").isSome &&
        (response.get "_version").isSome then unwrap (responseData entries)
    else response
  | response => response

def askLocalActor (reply : Json) (correlationId messageType : String) (now : JsonNumber) : Json :=
  extractResponse (.obj (sendResponse reply correlationId messageType now).entries)

def remoteAskResponse (requestId : String) (payload : Json) (now : JsonNumber) : Json :=
  .obj [("type", .str "__runtime.remote.ask.response"), ("requestId", .str requestId),
    ("payload", payload), ("_timestamp", .num now), ("_version", .str "1.0.0")]

def readRemoteAskResponse (response : Json) : Except String (Option Json) :=
  if response.get "type" ≠ some (.str "__runtime.remote.ask.response") then
    .error ("Unexpected remote ask response: " ++ printedField (response.get "type"))
  else .ok (response.get "payload")

/-- What `requestRemoteActorAsk` resolves with when the handler on the other node replies and
the response crosses a transport that writes text. -/
def requestRemoteActorAsk (reply : Json) (correlationId messageType requestId : String)
    (now sentAt : JsonNumber) : Option (Except String (Option Json)) :=
  (Json.parse (Json.stringify 0 (remoteAskResponse requestId
    (askLocalActor reply correlationId messageType now) sentAt))).map readRemoteAskResponse

section Spread

variable {m : OrderedMap String Json} {fields : List (String × Json)} {k : String} {v : Json}

theorem set_entries_fresh (h : k ∉ m.keys) : (m.set k v).entries = m.entries ++ [(k, v)] := by
  rw [OrderedMap.set, dif_neg h]

theorem mem_keys_set {j : String} : j ∈ (m.set k v).keys ↔ j = k ∨ j ∈ m.keys := by
  rw [← not_iff_not, not_or, ← get_eq_none_iff, get_set,
    ← get_eq_none_iff]
  by_cases h : j = k
  · simp [h]
  · simp [h]

theorem responseData_set (h : k ∈ envelopeNames) :
    responseData (m.set k v).entries = responseData m.entries := by
  by_cases hk : k ∈ m.keys
  · rw [OrderedMap.set, dif_pos hk, responseData, responseData, filter_map]
    have hsame : ∀ e ∈ m.entries.filter (fun e => e.1 ∉ envelopeNames),
        (e.1, if e.1 = k then v else e.2) = e := by
      intro e he
      have hne : e.1 ≠ k := fun heq => by
        have hnot := (mem_filter.mp he).2
        simp [heq, h] at hnot
      rw [if_neg hne]
    exact (map_congr_left hsame).trans (map_id _)
  · rw [set_entries_fresh hk, responseData, filter_append]
    simp [h, responseData]

theorem responseData_spread (hnodup : (fields.map Prod.fst).Nodup)
    (hfresh : ∀ e ∈ fields, e.1 ∉ envelopeNames → e.1 ∉ m.keys) :
    responseData (spread m fields).entries = responseData m.entries ++ responseData fields := by
  induction fields generalizing m with
  | nil => exact (append_nil _).symm
  | cons e fields ih =>
    obtain ⟨hnot, hnodup⟩ := nodup_cons.mp hnodup
    have hrest : ∀ f ∈ fields, f.1 ∉ envelopeNames → f.1 ∉ (m.set e.1 e.2).keys := by
      intro f hf hname hmem
      obtain heq | hm := mem_keys_set.mp hmem
      · exact hnot (heq ▸ mem_map_of_mem hf)
      · exact hfresh f (mem_cons_of_mem e hf) hname hm
    have hspread : spread m (e :: fields) = spread (m.set e.1 e.2) fields := rfl
    rw [hspread, ih hnodup hrest]
    by_cases hname : e.1 ∈ envelopeNames
    · rw [responseData_set hname]
      simp [responseData, hname]
    · rw [set_entries_fresh (hfresh e mem_cons_self hname)]
      simp [responseData, hname]

theorem has_spread {name : String} (h : name ∈ m.keys) : name ∈ (spread m fields).keys := by
  induction fields generalizing m with
  | nil => exact h
  | cons e fields ih => exact ih (mem_keys_set.mpr (.inr h))

end Spread

section Answers

variable {reply v w : Json} {entries : List (String × Json)}

variable {name : String}

theorem isSome_get_of_mem {m : OrderedMap String Json} (h : name ∈ m.keys) :
    ((Json.obj m.entries).get name).isSome = true := by
  have hsome : m.get name ≠ none := fun hnone => get_eq_none_iff.mp hnone h
  exact Option.isSome_iff_ne_none.mpr hsome

theorem askLocalActor_eq (hnodup : ((replyFields reply).map Prod.fst).Nodup)
    (correlationId messageType : String) (now : JsonNumber) :
    askLocalActor reply correlationId messageType now =
      unwrap (responseData (replyFields reply)) := by
  have htype : "type" ∈ (OrderedMap.empty.set "type" (Json.str messageType)).keys :=
    mem_keys_set.mpr (.inl rfl)
  have hdata : responseData (sendResponse reply correlationId messageType now).entries =
      responseData (replyFields reply) := by
    rw [sendResponse, responseData_set (by decide), responseData_set (by decide),
      responseData_set (by decide), responseData_spread hnodup, responseData_set (by decide)]
    · rfl
    · intro e _ hname hmem
      obtain heq | hempty := mem_keys_set.mp hmem
      · exact hname (heq ▸ by decide)
      · cases hempty
  rw [askLocalActor, extractResponse, if_pos, hdata]
  rw [isSome_get_of_mem, isSome_get_of_mem, isSome_get_of_mem]
  · rfl
  · exact mem_keys_set.mpr (.inl rfl)
  · exact mem_keys_set.mpr (.inr (mem_keys_set.mpr (.inl rfl)))
  · exact mem_keys_set.mpr (.inr (mem_keys_set.mpr (.inr (mem_keys_set.mpr
      (.inr (has_spread htype))))))

/-- A reply that is not an object with a name of the envelope or a single wrapped property. -/
def Flat (v : Json) : Prop :=
  ∀ entries, v = .obj entries → (∀ e ∈ entries, e.1 ∉ envelopeNames) ∧
    ∀ w, entries ≠ [("value", w)] ∧ entries ≠ [("payload", w)]

theorem onlyField_eq_some (h : onlyField name entries = some w) : entries = [(name, w)] := by
  rw [onlyField] at h
  split at h
  case isTrue hlength =>
    obtain ⟨⟨k, u⟩, rfl⟩ := length_eq_one_iff.mp hlength
    rw [get_cons] at h
    split at h
    case isTrue hk => rw [hk, Option.some.inj h]
    case isFalse => cases h
  case isFalse => cases h

theorem unwrap_cases (entries : List (String × Json)) :
    (∃ w, (entries = [("value", w)] ∨ entries = [("payload", w)]) ∧ unwrap entries = w) ∨
      unwrap entries = .obj entries := by
  rw [unwrap]
  cases hvalue : onlyField "value" entries with
  | some w => exact .inl ⟨w, .inl (onlyField_eq_some hvalue), rfl⟩
  | none =>
    cases hpayload : onlyField "payload" entries with
    | some w => exact .inl ⟨w, .inr (onlyField_eq_some hpayload), rfl⟩
    | none => exact .inr rfl

theorem sizeOf_eq_of_keyOrder (h : KeyOrder v w) : sizeOf v = sizeOf w := by
  induction h with
  | refl v => rfl
  | symm _ ih => exact ih.symm
  | trans _ _ ih ih' => exact ih.trans ih'
  | perm h =>
    have hlist : ∀ {es fs : List (String × Json)}, es.Perm fs → sizeOf es = sizeOf fs := by
      intro es fs h
      induction h with
      | nil => rfl
      | cons x _ ih => simp [ih]
      | swap x y l => simp only [List.cons.sizeOf_spec]; omega
      | trans _ _ ih ih' => exact ih.trans ih'
    simp [hlist h]
  | item us vs _ ih =>
    induction us with
    | nil => simp [ih]
    | cons u us ih' => simpa using ih'
  | entry es k fs _ ih =>
    induction es with
    | nil => simp [ih]
    | cons e es ih' => simpa using ih'

theorem sizeOf_sublist {es fs : List (String × Json)} (h : es.Sublist fs) :
    sizeOf es + fs.length ≤ sizeOf fs + es.length := by
  induction h with
  | slnil => exact le_rfl
  | cons x _ ih | cons_cons x _ ih =>
    simp only [length_cons, List.cons.sizeOf_spec]
    omega

theorem sizeOf_field_lt (h : (name, w) ∈ entries) : sizeOf w < sizeOf (Json.obj entries) := by
  have hmem := sizeOf_lt_of_mem h
  simp only [Prod.mk.sizeOf_spec] at hmem
  simp only [Json.obj.sizeOf_spec]
  omega

theorem responseData_single (h : name ∉ envelopeNames) (w : Json) :
    responseData [(name, w)] = [(name, w)] := by
  simp [responseData, h]

theorem ne_wrapped (hname : name ∉ envelopeNames) : w ≠ .obj (responseData [(name, w)]) := by
  rw [responseData_single hname]
  intro h
  exact absurd (congrArg sizeOf h) (Nat.ne_of_lt (sizeOf_field_lt (mem_singleton_self _)))

theorem sizeOf_unwrap_lt (h : ¬Flat (.obj entries)) :
    sizeOf (unwrap (responseData entries)) < sizeOf (Json.obj entries) := by
  have hsub : (responseData entries).Sublist entries := filter_sublist
  obtain ⟨w, hw, hunwrap⟩ | hunwrap := unwrap_cases (responseData entries)
  · rw [hunwrap]
    obtain hw | hw := hw
    · exact sizeOf_field_lt (hsub.subset (hw ▸ mem_singleton_self _))
    · exact sizeOf_field_lt (hsub.subset (hw ▸ mem_singleton_self _))
  · rw [hunwrap]
    have hne : responseData entries ≠ entries := by
      intro heq
      refine h fun entries' he => ?_
      obtain rfl := Json.obj.inj he
      refine ⟨fun e hmem => ?_, fun w => ⟨?_, ?_⟩⟩
      · rw [← heq] at hmem
        simpa using (mem_filter.mp hmem).2
      · rintro rfl
        exact ne_wrapped (by decide) hunwrap
      · rintro rfl
        exact ne_wrapped (by decide) hunwrap
    have hlength := hsub.length_le
    have hstrict : (responseData entries).length ≠ entries.length :=
      fun he => hne (hsub.eq_of_length he)
    have hsize := sizeOf_sublist hsub
    simp only [Json.obj.sizeOf_spec]
    omega

theorem unwrap_of_flat (h : Flat v) : unwrap (responseData (replyFields v)) = v := by
  have hone : ∀ name : String, name ∉ envelopeNames → replyFields v = [(name, v)] →
      unwrap [(name, v)] = v → unwrap (responseData (replyFields v)) = v := by
    intro name hname hfields hunwrap
    rw [hfields, responseData_single hname, hunwrap]
  cases v with
  | obj entries =>
    obtain ⟨hnames, hsingle⟩ := h entries rfl
    have hdata : responseData entries = entries :=
      filter_eq_self.mpr fun e he => decide_eq_true (hnames e he)
    rw [replyFields, hdata]
    obtain ⟨w, hw | hw, -⟩ | hunwrap := unwrap_cases entries
    · exact absurd hw (hsingle w).1
    · exact absurd hw (hsingle w).2
    · exact hunwrap
  | arr items => exact hone "payload" (by decide) rfl rfl
  | null | bool value | num value | str value => exact hone "value" (by decide) rfl rfl

theorem flat_of_not_obj (h : ∀ entries, v ≠ .obj entries) : Flat v :=
  fun entries he => absurd he (h entries)

end Answers

/-- A value as handlers return it: an object has every key once. -/
structure Reply where
  value : Json
  distinct : ((replyFields value).map Prod.fst).Nodup

/-- What both kinds of `ask` resolve with is equal to the reply, up to the order of keys. -/
structure Returned (reply : Reply) (correlationId messageType requestId : String)
    (now sentAt : JsonNumber) : Prop where
  locally : KeyOrder (askLocalActor reply.value correlationId messageType now) reply.value
  remotely : ∃ v, requestRemoteActorAsk reply.value correlationId messageType requestId now sentAt =
    some (.ok (some v)) ∧ KeyOrder v reply.value

theorem requestRemoteActorAsk_eq (reply : Json) (correlationId messageType requestId : String)
    (now sentAt : JsonNumber) :
    requestRemoteActorAsk reply correlationId messageType requestId now sentAt =
      some (.ok (some (askLocalActor reply correlationId messageType now))) := by
  rw [requestRemoteActorAsk, Json.parse_stringify, Option.map_some, readRemoteAskResponse,
    if_neg (by simp [remoteAskResponse, get_cons])]
  simp [remoteAskResponse, get_cons]

theorem flat_of_returned {reply : Reply} {correlationId messageType requestId : String}
    {now sentAt : JsonNumber}
    (h : Returned reply correlationId messageType requestId now sentAt) : Flat reply.value := by
  by_contra hflat
  obtain ⟨entries, hobj⟩ : ∃ entries, reply.value = .obj entries := by
    by_contra hnone
    exact hflat (flat_of_not_obj fun entries he => hnone ⟨entries, he⟩)
  have hsize := sizeOf_eq_of_keyOrder h.locally
  rw [askLocalActor_eq reply.distinct, hobj, replyFields] at hsize
  exact absurd hsize (Nat.ne_of_lt (sizeOf_unwrap_lt (hobj ▸ hflat)))

/-- An `ask` returns what was replied exactly if the reply is no object with a name of the
envelope and no object whose only property is `value` or `payload`. -/
theorem returned_iff_flat (reply : Reply) (correlationId messageType requestId : String)
    (now sentAt : JsonNumber) :
    Returned reply correlationId messageType requestId now sentAt ↔ Flat reply.value := by
  refine ⟨flat_of_returned, fun hflat => ?_⟩
  have hequal : KeyOrder (askLocalActor reply.value correlationId messageType now)
      reply.value := by
    rw [askLocalActor_eq reply.distinct, unwrap_of_flat hflat]
    exact .refl _
  exact ⟨hequal, _, requestRemoteActorAsk_eq _ _ _ _ _ _, hequal⟩

section Replies

def wrapped : Reply := ⟨.obj [("value", .num (.ofNat 5))], by decide⟩

def circle : Reply :=
  ⟨.obj [("type", .str "circle"), ("radius", .num (.ofNat 2))], by decide⟩

/-- The caller gets the number instead of the object, and an object loses its `type`. -/
theorem wrapped_and_circle_change :
    (askLocalActor wrapped.value "corr-1" "GET" (.ofNat 1) = .num (.ofNat 5) ∧
      ¬Returned wrapped "corr-1" "GET" "req-1" (.ofNat 1) (.ofNat 2)) ∧
    askLocalActor circle.value "corr-1" "GET" (.ofNat 1) = .obj [("radius", .num (.ofNat 2))] ∧
      ¬Returned circle "corr-1" "GET" "req-1" (.ofNat 1) (.ofNat 2) := by
  have hwrapped : ¬Flat wrapped.value := fun h => ((h _ rfl).2 _).1 rfl
  have hcircle : ¬Flat circle.value := fun h => (h _ rfl).1 ("type", .str "circle")
    mem_cons_self (by decide)
  refine ⟨⟨?_, fun h => hwrapped (flat_of_returned h)⟩, ?_, fun h => hcircle (flat_of_returned h)⟩
  · rw [askLocalActor_eq wrapped.distinct]
    rfl
  · rw [askLocalActor_eq circle.distinct]
    rfl

end Replies

end ActorWeb.AskReplies
