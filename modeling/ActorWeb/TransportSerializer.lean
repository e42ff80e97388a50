import ActorWeb.Json

/-! The serializer of the transport: JSON in UTF-8 in base64 in JSON in UTF-8. -/

namespace ActorWeb.TransportSerializer

open List

section Base64

def alphabet : List Char :=
  "ABCDEFGHIJKLMNOPQRSTUVWXYZabcdefghijklmnopqrstuvwxyz0123456789+/".toList

def digitOf (value : Nat) : Char := alphabet.getD value '='

def valueOf (c : Char) : Option Nat := alphabet.idxOf? c

/-- Groups of three bytes become groups of four digits. -/
def sextets : List UInt8 → List Nat
  | [] => []
  | [a] => [a.toNat / 4, a.toNat % 4 * 16]
  | [a, b] => [a.toNat / 4, a.toNat % 4 * 16 + b.toNat / 16, b.toNat % 16 * 4]
  | a :: b :: c :: rest =>
    a.toNat / 4 :: (a.toNat % 4 * 16 + b.toNat / 16) :: (b.toNat % 16 * 4 + c.toNat / 64) ::
      c.toNat % 64 :: sextets rest

def octets : List Nat → Option (List UInt8)
  | [] => some []
  | [_] => none
  | [w, x] => some [.ofNat (w * 4 + x / 16)]
  | [w, x, y] => some [.ofNat (w * 4 + x / 16), .ofNat (x % 16 * 16 + y / 4)]
  | w :: x :: y :: z :: rest =>
    (octets rest).map (.ofNat (w * 4 + x / 16) :: .ofNat (x % 16 * 16 + y / 4) ::
      .ofNat (y % 4 * 64 + z) :: ·)

variable (bytes : List UInt8)

def btoa : List Char :=
  (sextets bytes).map digitOf ++ List.replicate ((3 - bytes.length % 3) % 3) '='

/-- A text of whole groups may end in one or two signs of padding. -/
def dropPadding (text : List Char) : List Char :=
  if text.length % 4 = 0 then
    match text.reverse with
    | '=' :: '=' :: rest => rest.reverse
    | '=' :: rest => rest.reverse
    | _ => text
  else text

def atob (text : List Char) : Option (List UInt8) :=
  ((dropPadding (text.filter fun c => !(Json.space c || c = '\x0c'))).mapM valueOf).bind octets

theorem sextets_lt : ∀ value ∈ sextets bytes, value < 64 := by
  fun_induction sextets bytes with
  | case1 => simp
  | case2 a =>
    have ha := a.toNat_lt
    simp only [mem_cons, not_mem_nil, or_false, forall_eq_or_imp, forall_eq]
    omega
  | case3 a b =>
    have ha := a.toNat_lt
    have hb := b.toNat_lt
    simp only [mem_cons, not_mem_nil, or_false, forall_eq_or_imp, forall_eq]
    omega
  | case4 a b c rest ih =>
    have ha := a.toNat_lt
    have hb := b.toNat_lt
    have hc := c.toNat_lt
    simp only [mem_cons, forall_eq_or_imp]
    exact ⟨by omega, by omega, by omega, by omega, ih⟩

theorem octets_sextets : octets (sextets bytes) = some bytes := by
  have hbyte {n : Nat} (a : UInt8) (h : n = a.toNat) : UInt8.ofNat n = a := by
    rw [h, UInt8.ofNat_toNat]
  fun_induction sextets bytes with
  | case1 => rfl
  | case2 a => rw [octets, hbyte a (by omega)]
  | case3 a b =>
    have hb := b.toNat_lt
    rw [octets, hbyte a (by omega), hbyte b (by omega)]
  | case4 a b c rest ih =>
    have hb := b.toNat_lt
    have hc := c.toNat_lt
    rw [octets, ih, hbyte a (by omega), hbyte b (by omega), hbyte c (by omega)]
    rfl

theorem digit_laws : ∀ value : Fin 64, valueOf (digitOf value) = some value.val ∧
    digitOf value ≠ '=' ∧ !(Json.space (digitOf value) || digitOf value = '\x0c') := by
  decide

theorem mapM_valueOf {values : List Nat} (h : ∀ value ∈ values, value < 64) :
    (values.map digitOf).mapM valueOf = some values := by
  induction values with
  | nil => rfl
  | cons value values ih =>
    have hvalue := (digit_laws ⟨value, h value mem_cons_self⟩).1
    rw [map_cons, mapM_cons, hvalue, ih fun v hv => h v (mem_cons_of_mem _ hv)]
    rfl

theorem sextets_length : ((sextets bytes).length + (3 - bytes.length % 3) % 3) % 4 = 0 := by
  fun_induction sextets bytes with
  | case1 => rfl
  | case2 a => simp
  | case3 a b => simp
  | case4 a b c rest ih =>
    simp only [length_cons] at ih ⊢
    omega

theorem dropPadding_pad {digits : List Char} (hdigits : ∀ c ∈ digits, c ≠ '=') {n : Nat} (hn : n < 3)
    (hlength : (digits.length + n) % 4 = 0) :
    dropPadding (digits ++ List.replicate n '=') = digits := by
  have hlast : ∀ rest, digits.reverse ≠ '=' :: rest := fun rest h =>
    hdigits '=' (mem_reverse.mp (h ▸ mem_cons_self)) rfl
  have hback := reverse_reverse digits
  rw [dropPadding, if_pos (by rw [length_append, length_replicate, hlength]),
    reverse_append, reverse_replicate]
  generalize digits.reverse = last at hlast hback
  obtain rfl | rfl | rfl : n = 0 ∨ n = 1 ∨ n = 2 := by omega
  · rw [replicate_zero, nil_append, append_nil]
    split
    case h_1 rest => exact absurd rfl (hlast _)
    case h_2 rest _ => exact absurd rfl (hlast _)
    case h_3 => rfl
  · change (match '=' :: last with
      | '=' :: '=' :: rest => rest.reverse
      | '=' :: rest => rest.reverse
      | _ => _) = _
    split
    case h_1 rest heq => exact absurd (List.cons.inj heq).2 (hlast _)
    case h_2 rest _ heq => rw [← (List.cons.inj heq).2, hback]
    case h_3 _ hnone => exact absurd rfl (hnone last)
  · exact hback

theorem atob_btoa : atob (btoa bytes) = some bytes := by
  have hlaws : ∀ c ∈ (sextets bytes).map digitOf, c ≠ '=' ∧ !(Json.space c || c = '\x0c') := by
    intro c hc
    obtain ⟨value, hvalue, rfl⟩ := mem_map.mp hc
    exact (digit_laws ⟨value, sextets_lt bytes value hvalue⟩).2
  have hkeep : (btoa bytes).filter (fun c => !(Json.space c || c = '\x0c')) = btoa bytes := by
    refine filter_eq_self.mpr fun c hc => ?_
    obtain hc | hc := mem_append.mp hc
    · exact (hlaws c hc).2
    · rw [eq_of_mem_replicate hc]
      rfl
  rw [atob, hkeep, btoa, dropPadding_pad (fun c hc => (hlaws c hc).1) (Nat.mod_lt _ (by decide))
    (by rw [length_map]; exact sextets_length bytes), mapM_valueOf (sextets_lt bytes)]
  exact octets_sextets bytes

end Base64

section Serializer

/-- How many arguments a call may have, and what a text decoder makes of malformed bytes. -/
structure Engine where
  maxArguments : Nat
  malformed : ByteArray → String

/-- An object with a text as its type. -/
structure ActorMessage where
  fields : List (String × Json)
  type : String
  typed : (Json.obj fields).get "type" = some (.str type)

structure MessageEnvelope where
  format : String
  data : ByteArray
  (source target : String)
  timestamp : JsonNumber

variable (engine : Engine)

def isString : Option Json → Bool
  | some (.str _) => true
  | _ => false

def isNumber : Option Json → Bool
  | some (.num _) => true
  | _ => false

def isValidActorMessage (value : Json) : Bool :=
  isString (value.get "type") && (value.get "payload").isSome && isNumber (value.get "timestamp") &&
    isString (value.get "version")

def textEncoder (text : String) : ByteArray := text.toUTF8

variable (data : ByteArray)

/-- A byte order mark at the start is no part of the text. -/
def textDecoder : String :=
  match String.fromUTF8? data with
  | some text =>
    match text.toList with
    | '\ufeff' :: rest => String.ofList rest
    | _ => text
  | none => engine.malformed data

def encode (message : Json) : ByteArray := textEncoder (Json.stringify 0 message)

def decode : Option Json :=
  (Json.parse (textDecoder engine data)).bind fun parsed =>
    if isValidActorMessage parsed then some parsed else none

def pack (message : ActorMessage) (source target : String) (timestamp : JsonNumber) :
    MessageEnvelope :=
  ⟨"json", encode (.obj message.fields), source, target, timestamp⟩

variable (envelope : MessageEnvelope)

/-- The other format needs a package. -/
def unpack : Option Json :=
  if envelope.format = "json" then decode engine envelope.data else none

/-- The bytes are spread over the arguments of one call. -/
def serializeEnvelope : Option ByteArray :=
  if envelope.data.size ≤ engine.maxArguments then
    some (textEncoder (Json.stringify 0 (.obj [("format", .str envelope.format),
      ("data", .str (String.ofList (btoa envelope.data.data.toList))), ("source", .str envelope.source),
      ("target", .str envelope.target), ("timestamp", .num envelope.timestamp)])))
  else none

/-- An object of a shape that no envelope has is not read. -/
def deserializeEnvelope : Option MessageEnvelope :=
  (Json.parse (textDecoder engine data)).bind fun envelopeData =>
    match envelopeData.get "format", envelopeData.get "data", envelopeData.get "source",
      envelopeData.get "target", envelopeData.get "timestamp" with
    | some (.str format), some (.str text), some (.str source), some (.str target),
        some (.num timestamp) =>
        (atob text.toList).map fun bytes => ⟨format, ⟨⟨bytes⟩⟩, source, target, timestamp⟩
    | _, _, _, _, _ => none

theorem textDecoder_stringify (entries : List (String × Json)) :
    textDecoder engine (textEncoder (Json.stringify 0 (.obj entries))) =
      Json.stringify 0 (.obj entries) := by
  have hbytes (text : String) : String.fromUTF8? text.toUTF8 = some text :=
    dif_pos text.isValidUTF8
  have hopen : ∃ cs, (Json.stringify 0 (.obj entries)).toList = '\x7b' :: cs := by
    rw [Json.stringify, String.toList_ofList]
    cases entries with
    | nil => exact ⟨_, by rw [Json.text]⟩
    | cons e entries => exact ⟨_, by rw [Json.text]⟩
  obtain ⟨cs, hopen⟩ := hopen
  rw [textDecoder, textEncoder, hbytes]
  simp only [hopen]
  split
  case h_1 rest heq => cases heq
  case h_2 => rfl

variable (message : ActorMessage) (source target : String) (timestamp : JsonNumber)

/-- The envelope arrives as it was packed, and the message in it as it was. -/
structure Carries : Prop where
  envelope : (serializeEnvelope engine (pack message source target timestamp)).bind
    (deserializeEnvelope engine) = some (pack message source target timestamp)
  message : ((serializeEnvelope engine (pack message source target timestamp)).bind
    (deserializeEnvelope engine)).bind (unpack engine) = some (.obj message.fields)

theorem deserialize_serialize (hsize : envelope.data.size ≤ engine.maxArguments) :
    (serializeEnvelope engine envelope).bind (deserializeEnvelope engine) = some envelope := by
  rw [serializeEnvelope, if_pos hsize, Option.bind_some, deserializeEnvelope, textDecoder_stringify,
    Json.parse_stringify, Option.bind_some]
  simp [Json.get, atob_btoa]

theorem unpack_pack : unpack engine (pack message source target timestamp) =
    if isValidActorMessage (.obj message.fields) then some (.obj message.fields) else none := by
  rw [unpack, pack, if_pos rfl, decode, encode, textDecoder_stringify, Json.parse_stringify,
    Option.bind_some]

theorem carries_iff : Carries engine message source target timestamp ↔
    ((Json.obj message.fields).get "payload").isSome ∧
      isNumber ((Json.obj message.fields).get "timestamp") ∧
      isString ((Json.obj message.fields).get "version") ∧
      (encode (.obj message.fields)).size ≤ engine.maxArguments := by
  have hvalid : isValidActorMessage (.obj message.fields) ↔
      ((Json.obj message.fields).get "payload").isSome ∧
        isNumber ((Json.obj message.fields).get "timestamp") ∧
        isString ((Json.obj message.fields).get "version") := by
    simp only [isValidActorMessage, message.typed, isString, Bool.true_and, Bool.and_eq_true,
      and_assoc]
  constructor
  · intro h
    have hsize : (encode (.obj message.fields)).size ≤ engine.maxArguments := by
      by_contra hlarge
      have hfail := h.envelope
      change ¬ (pack message source target timestamp).data.size ≤ engine.maxArguments at hlarge
      rw [serializeEnvelope, if_neg hlarge] at hfail
      cases hfail
    have hunpack := h.message
    rw [h.envelope, Option.bind_some, unpack_pack] at hunpack
    split at hunpack
    case isTrue hchecked =>
      obtain ⟨hpayload, htimestamp, hversion⟩ := hvalid.mp hchecked
      exact ⟨hpayload, htimestamp, hversion, hsize⟩
    case isFalse => cases hunpack
  · rintro ⟨hpayload, htimestamp, hversion, hsize⟩
    have henvelope := deserialize_serialize engine (pack message source target timestamp) hsize
    refine ⟨henvelope, ?_⟩
    rw [henvelope, Option.bind_some, unpack_pack, if_pos (hvalid.mpr ⟨hpayload, htimestamp, hversion⟩)]

/-- A message of the least that a message has to have. -/
def bareMessage : ActorMessage := ⟨[("type", .str "PING")], "PING", rfl⟩

theorem bareMessage_refused : ¬ Carries ⟨65536, fun _ => ""⟩ bareMessage "a" "b" (.ofNat 0) := by
  intro h
  have hmessage := h.message
  rw [h.envelope, Option.bind_some, unpack_pack] at hmessage
  cases hmessage

end Serializer

end ActorWeb.TransportSerializer
