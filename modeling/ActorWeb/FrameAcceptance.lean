import ActorWeb.JsonShape
import ActorWeb.TransportFrames

/-! What one side sends is what the other side accepts. -/

namespace ActorWeb.TransportFrames

open JsText TransportContract Json

variable {a b source destination node other : NodeIdentity} {sentAt : NonEmptyString}
  {frame payload : Json} {mismatch text : String}

def Nonblank (s : String) : Prop := trim s ≠ ""

def NodeIdentity.Valid (node : NodeIdentity) : Prop :=
  validateRuntimeNodeIdentity node.json = .ok ()

theorem isNonEmptyString_str (s : String) :
    isNonEmptyString (some (.str s)) = true ↔ Nonblank s := by
  simp only [isNonEmptyString, decide_eq_true_iff, Nonblank]

section IdentityFields

variable (node : NodeIdentity)

@[simp] theorem get_nodeAddress : node.json.get "nodeAddress" = some (.str node.nodeAddress) := by
  simp [NodeIdentity.json, get_cons]

@[simp] theorem get_nodeId : node.json.get "nodeId" = some (.str node.nodeId) := by
  simp [NodeIdentity.json, get_cons]

@[simp] theorem get_incarnation : node.json.get "incarnation" = some (.str node.incarnation) := by
  simp [NodeIdentity.json, get_cons]

theorem get_protocolVersion :
    node.json.get "protocolVersion" = some (.str node.protocolVersion) := by
  simp [NodeIdentity.json, get_cons]

theorem get_capabilities :
    node.json.get "capabilities" = node.capabilities.map fun names => .arr (names.map .str) := by
  cases h : node.capabilities with
  | none => simp [NodeIdentity.json, h, Json.get]
  | some names => simp [NodeIdentity.json, get_cons, h]

end IdentityFields

theorem valid_iff (node : NodeIdentity) :
    node.Valid ↔ (Nonblank node.nodeAddress ∧ Nonblank node.nodeId ∧ Nonblank node.incarnation) ∧
      node.protocolVersion = RUNTIME_TRANSPORT_PROTOCOL_VERSION ∧
      ∀ names, node.capabilities = some names → ∀ name ∈ names, Nonblank name := by
  have hrecord : isRecord node.json = true := rfl
  have hversion : hasProtocolVersion (some (.str node.protocolVersion)) = true ↔
      node.protocolVersion = RUNTIME_TRANSPORT_PROTOCOL_VERSION := by
    simp only [hasProtocolVersion, Option.some.injEq, Json.str.injEq, decide_eq_true_iff]
  have hcapabilities : (node.json.get "capabilities").any (!hasStringArray ·) = false ↔
      ∀ names, node.capabilities = some names → ∀ name ∈ names, Nonblank name := by
    rw [get_capabilities]
    cases node.capabilities with
    | none => simp
    | some names => simp [hasStringArray, isNonEmptyString_str]
  rw [NodeIdentity.Valid, validateRuntimeNodeIdentity, hrecord, get_nodeAddress, get_nodeId,
    get_incarnation, get_protocolVersion, ← hcapabilities, ← hversion, ← isNonEmptyString_str,
    ← isNonEmptyString_str, ← isNonEmptyString_str]
  simp only [Bool.not_true, Bool.false_eq_true, if_false, Bool.or_eq_true, Bool.not_eq_true']
  split_ifs with hnames hprotocol hlist
  · refine iff_of_false nofun fun h => ?_
    rw [h.1.1, h.1.2.1, h.1.2.2] at hnames
    exact absurd hnames (by decide)
  · exact iff_of_false nofun fun h => absurd h.2.1 (by rw [hprotocol]; decide)
  · exact iff_of_false nofun fun h => absurd h.2.2 (by rw [hlist]; decide)
  · simp only [not_or, Bool.not_eq_false] at hnames hprotocol
    exact iff_of_true rfl ⟨⟨hnames.1.1, hnames.1.2, hnames.2⟩, hprotocol, eq_false_of_ne_true hlist⟩

theorem createRuntimeNodeIdentity_valid (h : node.Valid) :
    (createRuntimeNodeIdentity node.toRuntimeNodeIdentity).Valid :=
  (valid_iff _).mpr ⟨((valid_iff node).mp h).1, rfl, nofun⟩

theorem validateParties_ok (hversion : frame.get "protocolVersion" =
      some (.str RUNTIME_TRANSPORT_PROTOCOL_VERSION))
    (hsource : frame.get "source" = some source.json) (hs : source.Valid)
    (hdestination : frame.get "destination" = some destination.json) (hd : destination.Valid)
    (hsame : isSameRuntimeNodeIdentity destination.json node.json = true) :
    validateParties mismatch frame node.json = .ok () := by
  have hfield : ∀ {n : NodeIdentity}, n.Valid → validateIdentityField (some n.json) = .ok () :=
    fun hn => hn
  have hprotocol : hasProtocolVersion (some (.str RUNTIME_TRANSPORT_PROTOCOL_VERSION)) = true := by
    decide
  rw [validateParties, hversion, hsource, hdestination, hfield hs, hfield hd, hprotocol]
  simp only [Option.getD_some, hsame]
  rfl

theorem isSame_created (node : NodeIdentity) :
    isSameRuntimeNodeIdentity (createRuntimeNodeIdentity node.toRuntimeNodeIdentity).json
      node.json = true := by
  simp [isSameRuntimeNodeIdentity, createRuntimeNodeIdentity]

theorem isFrom_created (h : frame.get "source" = some node.json) :
    isFrom (createRuntimeNodeIdentity node.toRuntimeNodeIdentity) frame = true := by
  simp [isFrom, h, createRuntimeNodeIdentity]

theorem createRuntimeTransportMessageId_nonblank (source destination : RuntimeNodeIdentity)
    (n : Nat) : Nonblank (createRuntimeTransportMessageId source destination n) := by
  rw [Nonblank, trim_ne_empty_iff, createRuntimeTransportMessageId_eq]
  exact ⟨':', by simp, by decide⟩

theorem isNonNegativeInteger_ofNat (n : Nat) :
    isNonNegativeInteger (some (.num (.ofNat n))) = true := by
  have hdigits : ∀ c ∈ Nat.toDigits 10 n, c.isDigit = true := fun c hc =>
    Nat.isDigit_of_mem_toDigits (by decide) (by decide) hc
  have hne : ∀ c : Char, c.isDigit = false → c ∉ Nat.toDigits 10 n := fun c hc hmem => by
    rw [hdigits c hmem] at hc
    cases hc
  have hhead : (Nat.toDigits 10 n).head? ≠ some '-' := fun h =>
    hne '-' (by decide) (List.mem_of_head? h)
  simp only [isNonNegativeInteger, isInteger, JsonNumber.ofNat, List.contains_eq_mem,
    hne '.' (by decide), hne 'e' (by decide), decide_false, Bool.or_self, Bool.not_false,
    Bool.or_true, Bool.true_and]
  exact decide_eq_true hhead

theorem received_created {kind : Reception} {validation : Except Rejection Unit}
    (hvalid : validation = .ok ()) (hsource : frame.get "source" = some node.json) :
    received (createRuntimeNodeIdentity node.toRuntimeNodeIdentity) frame validation mismatch kind =
      kind := by
  rw [hvalid, received]
  simp only [isFrom_created hsource, Bool.not_true, Bool.false_eq_true, if_false]

section Frames

variable (a b : NodeIdentity) (sentAt : NonEmptyString) (messageId : String) (n : Nat)
  (message : ActorMessage)

def frameTo : Json :=
  createRuntimeTransportFrame a (createRuntimeNodeIdentity b.toRuntimeNodeIdentity) sentAt
    messageId n message

theorem validate_frameTo (ha : a.Valid) (hb : b.Valid) (hid : Nonblank messageId) :
    validateRuntimeTransportFrame (frameTo a b sentAt messageId n message) b.json =
      if isNonEmptyString (some (.str message.type)) then .ok ()
      else .error ⟨.malformedFrame,
        "Runtime transport frame requires an actor message with a type."⟩ := by
  have hparties : validateParties
      "Runtime transport frame destination does not match the local node."
      (frameTo a b sentAt messageId n message) b.json = .ok () :=
    validateParties_ok (by simp [frameTo, createRuntimeTransportFrame, get_cons])
      (by simp [frameTo, createRuntimeTransportFrame, get_cons]) ha
      (by simp [frameTo, createRuntimeTransportFrame, get_cons])
      (createRuntimeNodeIdentity_valid hb) (isSame_created b)
  have hsequence : (frameTo a b sentAt messageId n message).get "sequence" =
      some (.num (.ofNat n)) := by simp [frameTo, createRuntimeTransportFrame, get_cons]
  have hmessageId : (frameTo a b sentAt messageId n message).get "messageId" =
      some (.str messageId) := by simp [frameTo, createRuntimeTransportFrame, get_cons]
  have hsentAt : (frameTo a b sentAt messageId n message).get "sentAt" =
      some (.str sentAt.value) := by simp [frameTo, createRuntimeTransportFrame, get_cons]
  have hmessage : (frameTo a b sentAt messageId n message).get "message" =
      some (.obj message.fields) := by simp [frameTo, createRuntimeTransportFrame, get_cons]
  have hrecord : isRecord (frameTo a b sentAt messageId n message) = true := rfl
  have hfields : isRecord (.obj message.fields) = true := rfl
  rw [validateRuntimeTransportFrame, hrecord, hparties, hsequence, hmessageId, hsentAt, hmessage,
    isNonNegativeInteger_ofNat, (isNonEmptyString_str _).mpr hid,
    (isNonEmptyString_str _).mpr sentAt.valid, Option.any_some, hfields, Option.bind_some,
    message.typed]
  cases isNonEmptyString (some (Json.str message.type)) <;> rfl

theorem validate_frameTo_iff (ha : a.Valid) (hb : b.Valid) (hid : Nonblank messageId) :
    validateRuntimeTransportFrame (frameTo a b sentAt messageId n message) b.json = .ok () ↔
      Nonblank message.type := by
  rw [validate_frameTo a b sentAt messageId n message ha hb hid, ← isNonEmptyString_str]
  cases isNonEmptyString (some (Json.str message.type)) with
  | true => exact iff_of_true rfl rfl
  | false => exact iff_of_false nofun nofun

theorem frameTo_kind : isHeartbeatFrame (frameTo a b sentAt messageId n message) = false ∧
      isAckFrame (frameTo a b sentAt messageId n message) = false := by
  have htype : (frameTo a b sentAt messageId n message).get "type" = none := by
    simp [frameTo, createRuntimeTransportFrame, Json.get]
  simp [isHeartbeatFrame, isAckFrame, htype]

theorem frameTo_taken (ha : a.Valid) (hb : b.Valid) (hid : Nonblank messageId)
    (htype : Nonblank message.type) :
    validateRuntimeTransportFrame (frameTo a b sentAt messageId n message) b.json = .ok () ∧
      handleInboundPayload b (createRuntimeNodeIdentity a.toRuntimeNodeIdentity)
        (frameTo a b sentAt messageId n message) = .frame := by
  have hvalid := (validate_frameTo_iff a b sentAt messageId n message ha hb hid).mpr htype
  obtain ⟨hheartbeat, hack⟩ := frameTo_kind a b sentAt messageId n message
  refine ⟨hvalid, ?_⟩
  rw [handleInboundPayload, hheartbeat, hack, if_neg (by decide), if_neg (by decide)]
  exact received_created hvalid (by simp [frameTo, createRuntimeTransportFrame, get_cons])

theorem frameTo_dropped (peer : NodeIdentity) (ha : a.Valid) (hb : b.Valid)
    (hid : Nonblank messageId) (htype : ¬Nonblank message.type) :
    handleInboundPayload b peer (frameTo a b sentAt messageId n message) =
      .dropped ⟨.malformedFrame,
        "Runtime transport frame requires an actor message with a type."⟩ := by
  obtain ⟨hheartbeat, hack⟩ := frameTo_kind a b sentAt messageId n message
  rw [handleInboundPayload, hheartbeat, hack,
    validate_frameTo a b sentAt messageId n message ha hb hid,
    if_neg (mt (isNonEmptyString_str _).mp htype)]
  rfl

theorem valid_of_frame {peer : NodeIdentity} {payload : Json}
    (h : handleInboundPayload a peer payload = .frame) :
    validateRuntimeTransportFrame payload a.json = .ok () := by
  have hkind : ∀ {validation : Except Rejection Unit} {mismatch : String} {kind : Reception},
      received peer payload validation mismatch kind = .frame → validation = .ok () ∧
        kind = .frame := by
    intro validation mismatch kind h
    cases validation with
    | error rejection => cases h
    | ok value =>
      rw [received] at h
      split at h
      · cases h
      · exact ⟨rfl, h⟩
  rw [handleInboundPayload] at h
  split_ifs at h
  · cases (hkind h).2
  · cases (hkind h).2
  · exact (hkind h).1

theorem fields_of_valid {payload identity : Json}
    (h : validateRuntimeTransportFrame payload identity = .ok ()) :
    isNonNegativeInteger (payload.get "sequence") = true ∧
      isNonEmptyString (payload.get "messageId") = true := by
  rw [validateRuntimeTransportFrame] at h
  split at h
  · cases h
  · obtain hparties | ⟨u, hparties⟩ : (∃ r, validateParties
        "Runtime transport frame destination does not match the local node." payload identity =
          .error r) ∨ ∃ u, validateParties
        "Runtime transport frame destination does not match the local node." payload identity =
          .ok u := by
      cases validateParties _ payload identity with
      | error r => exact .inl ⟨r, rfl⟩
      | ok u => exact .inr ⟨u, rfl⟩
    · obtain ⟨r, hr⟩ := hparties
      rw [hr] at h
      cases h
    · rw [hparties] at h
      change (if _ then _ else _) = _ at h
      split at h
      · cases h
      · split at h
        · cases h
        · simp_all

theorem heartbeat_taken (ha : a.Valid) (hb : b.Valid) {type : String}
    (htype : type = "runtime.transport.ping" ∨ type = "runtime.transport.pong") :
    validateRuntimeTransportHeartbeatFrame
        (createHeartbeat a (createRuntimeNodeIdentity b.toRuntimeNodeIdentity) sentAt type)
        b.json = .ok () ∧
      handleInboundPayload b (createRuntimeNodeIdentity a.toRuntimeNodeIdentity)
        (createHeartbeat a (createRuntimeNodeIdentity b.toRuntimeNodeIdentity) sentAt type) =
          .heartbeat := by
  generalize hframe :
    createHeartbeat a (createRuntimeNodeIdentity b.toRuntimeNodeIdentity) sentAt type = frame
  have hsource : frame.get "source" = some a.json := by simp [← hframe, createHeartbeat, get_cons]
  have hsentAt : frame.get "sentAt" = some (.str sentAt.value) := by
    simp [← hframe, createHeartbeat, get_cons]
  have hparties : validateParties
      "Runtime transport heartbeat destination does not match the local node." frame b.json =
        .ok () :=
    validateParties_ok (by simp [← hframe, createHeartbeat, get_cons]) hsource ha
      (by simp [← hframe, createHeartbeat, get_cons]) (createRuntimeNodeIdentity_valid hb)
      (isSame_created b)
  have hkind : isHeartbeatFrame frame = true := by
    rw [isHeartbeatFrame, ← hframe, createHeartbeat, get_cons, if_pos rfl]
    obtain rfl | rfl := htype <;> simp
  have hrecord : isRecord frame = true := by rw [← hframe]; rfl
  have hvalid : validateRuntimeTransportHeartbeatFrame frame b.json = .ok () := by
    rw [validateRuntimeTransportHeartbeatFrame, hrecord, hkind, hparties, hsentAt,
      (isNonEmptyString_str _).mpr sentAt.valid]
    rfl
  refine ⟨hvalid, ?_⟩
  rw [handleInboundPayload, hkind, if_pos rfl]
  exact received_created hvalid hsource

theorem ack_taken (ha : a.Valid) (hb : b.Valid) {messageId sequence : Json}
    (hid : isNonEmptyString (some messageId) = true)
    (hn : isNonNegativeInteger (some sequence) = true) :
    validateRuntimeTransportAckFrame (createRuntimeTransportAckFrame b
        (createRuntimeNodeIdentity a.toRuntimeNodeIdentity) sentAt messageId sequence)
        a.json = .ok () ∧
      handleInboundPayload a (createRuntimeNodeIdentity b.toRuntimeNodeIdentity)
        (createRuntimeTransportAckFrame b (createRuntimeNodeIdentity a.toRuntimeNodeIdentity)
          sentAt messageId sequence) = .ack := by
  generalize hframe : createRuntimeTransportAckFrame b
    (createRuntimeNodeIdentity a.toRuntimeNodeIdentity) sentAt messageId sequence = frame
  have hget : ∀ {key : String} {v : Json}, (createRuntimeTransportAckFrame b
      (createRuntimeNodeIdentity a.toRuntimeNodeIdentity) sentAt messageId sequence).get key =
        some v → frame.get key = some v := fun h => hframe ▸ h
  have htype : frame.get "type" = some (.str "runtime.transport.ack") :=
    hget (by simp [createRuntimeTransportAckFrame, get_cons])
  have hsource : frame.get "source" = some b.json :=
    hget (by simp [createRuntimeTransportAckFrame, get_cons])
  have hsentAt : frame.get "sentAt" = some (.str sentAt.value) :=
    hget (by simp [createRuntimeTransportAckFrame, get_cons])
  have hmessageId : frame.get "messageId" = some messageId :=
    hget (by simp [createRuntimeTransportAckFrame, get_cons])
  have hsequence : frame.get "sequence" = some sequence :=
    hget (by simp [createRuntimeTransportAckFrame, get_cons])
  have hparties : validateParties
      "Runtime transport ack destination does not match the local node." frame a.json = .ok () :=
    validateParties_ok (hget (by simp [createRuntimeTransportAckFrame, get_cons])) hsource hb
      (hget (by simp [createRuntimeTransportAckFrame, get_cons]))
      (createRuntimeNodeIdentity_valid ha) (isSame_created a)
  have hack : isAckFrame frame = true := by rw [isAckFrame, htype]; decide
  have hheartbeat : isHeartbeatFrame frame = false := by rw [isHeartbeatFrame, htype]; decide
  have hrecord : isRecord frame = true := by rw [← hframe]; rfl
  have hvalid : validateRuntimeTransportAckFrame frame a.json = .ok () := by
    rw [validateRuntimeTransportAckFrame, hrecord, hack, hparties, hsentAt, hmessageId, hsequence,
      hid, hn, (isNonEmptyString_str _).mpr sentAt.valid]
    rfl
  refine ⟨hvalid, ?_⟩
  rw [handleInboundPayload, hheartbeat, hack, if_neg (by decide), if_pos rfl]
  exact received_created hvalid hsource

end Frames

/-- The text passes the validator of its kind, and the receiver does not drop it. -/
def Taken (receiver sender : NodeIdentity) (validate : Json → Json → Except Rejection Unit)
    (kind : Reception) (text : String) : Prop :=
  ∃ payload, Json.parse text = some payload ∧ validate payload receiver.json = .ok () ∧
    handleInboundPayload receiver (createRuntimeNodeIdentity sender.toRuntimeNodeIdentity) payload =
      kind

theorem taken_stringify {receiver sender : NodeIdentity}
    {validate : Json → Json → Except Rejection Unit} {kind : Reception} {payload : Json}
    (h : validate payload receiver.json = .ok () ∧
      handleInboundPayload receiver (createRuntimeNodeIdentity sender.toRuntimeNodeIdentity)
        payload = kind) : Taken receiver sender validate kind (Json.stringify 0 payload) :=
  ⟨payload, Json.parse_stringify 0 payload, h⟩

def nextText (a b : NodeIdentity) (n : Nat) (sentAt : NonEmptyString) (message : ActorMessage) :
    String :=
  Json.stringify 0 (frameTo a b sentAt (createRuntimeTransportMessageId a.toRuntimeNodeIdentity
    b.toRuntimeNodeIdentity (n + 1)) (n + 1) message)

theorem send_eq_ok {maxFrameBytes n : Nat} {message : ActorMessage}
    (h : send a (createRuntimeNodeIdentity b.toRuntimeNodeIdentity) maxFrameBytes n sentAt message =
      .ok text) : text = nextText a b n sentAt message := by
  rw [send] at h
  split at h
  · cases h
  · exact (Except.ok.inj h).symm

theorem send_eq_text {maxFrameBytes n : Nat} {message : ActorMessage}
    (h : ¬maxFrameBytes < (nextText a b n sentAt message).utf8ByteSize) :
    send a (createRuntimeNodeIdentity b.toRuntimeNodeIdentity) maxFrameBytes n sentAt message =
      .ok (nextText a b n sentAt message) := by
  rw [send]
  exact if_neg h

/-- Two nodes registered with each other take each other's acknowledgements and heartbeats,
and a frame exactly if the type of its message is not blank. -/
theorem sent_taken_iff_typed (a b : NodeIdentity) (ha : a.Valid) (hb : b.Valid) :
    (∀ maxFrameBytes sequence sentAt message text,
      send a (createRuntimeNodeIdentity b.toRuntimeNodeIdentity) maxFrameBytes sequence sentAt
        message = .ok text →
      (Taken b a validateRuntimeTransportFrame .frame text ↔ Nonblank message.type)) ∧
    (∀ payload sentAt,
      handleInboundPayload b (createRuntimeNodeIdentity a.toRuntimeNodeIdentity) payload = .frame →
      Taken a b validateRuntimeTransportAckFrame .ack
        (sendAck b (createRuntimeNodeIdentity a.toRuntimeNodeIdentity) sentAt payload)) ∧
    ∀ sentAt,
      Taken b a validateRuntimeTransportHeartbeatFrame .heartbeat (Json.stringify 0
        (createRuntimeTransportHeartbeatPing a
          (createRuntimeNodeIdentity b.toRuntimeNodeIdentity) sentAt)) ∧
      Taken b a validateRuntimeTransportHeartbeatFrame .heartbeat (Json.stringify 0
        (createRuntimeTransportHeartbeatPong a
          (createRuntimeNodeIdentity b.toRuntimeNodeIdentity) sentAt)) := by
  refine ⟨fun maxFrameBytes n sentAt message text h => ?_, fun payload sentAt h => ?_,
    fun sentAt => ⟨?_, ?_⟩⟩
  · have hid := createRuntimeTransportMessageId_nonblank a.toRuntimeNodeIdentity
      b.toRuntimeNodeIdentity (n + 1)
    rw [send_eq_ok h, nextText]
    constructor
    · rintro ⟨payload, hparse, hok, -⟩
      obtain rfl := Option.some.inj ((Json.parse_stringify 0 _).symm.trans hparse)
      exact (validate_frameTo_iff a b sentAt _ _ message ha hb hid).mp hok
    · exact fun htype => taken_stringify (frameTo_taken a b sentAt _ _ message ha hb hid htype)
  · obtain ⟨hsequence, hid⟩ := fields_of_valid (valid_of_frame b h)
    refine taken_stringify (ack_taken a b sentAt ha hb ?_ ?_)
    · cases hm : payload.get "messageId" with
      | none => rw [hm] at hid; cases hid
      | some v => rwa [hm] at hid
    · cases hm : payload.get "sequence" with
      | none => rw [hm] at hsequence; cases hsequence
      | some v => rwa [hm] at hsequence
  · exact taken_stringify (heartbeat_taken a b sentAt ha hb (.inl rfl))
  · exact taken_stringify (heartbeat_taken a b sentAt ha hb (.inr rfl))

section Nodes

def browser : NodeIdentity :=
  ⟨⟨"browser", "browser-1", "i-1"⟩, RUNTIME_TRANSPORT_PROTOCOL_VERSION, some ["ask"]⟩

def server : NodeIdentity :=
  ⟨⟨"server", "server-1", "i-2"⟩, RUNTIME_TRANSPORT_PROTOCOL_VERSION, none⟩

def noon : NonEmptyString := ⟨"2026-01-01T12:00:00.000Z", by decide +kernel⟩

def untyped : ActorMessage := ⟨[("type", .str " ")], " ", by decide +kernel⟩

theorem sent_taken_iff_typed_browser :
    (∀ maxFrameBytes sequence sentAt message text,
      send browser (createRuntimeNodeIdentity server.toRuntimeNodeIdentity) maxFrameBytes sequence
        sentAt message = .ok text →
      (Taken server browser validateRuntimeTransportFrame .frame text ↔ Nonblank message.type)) ∧
    (∀ payload sentAt,
      handleInboundPayload server (createRuntimeNodeIdentity browser.toRuntimeNodeIdentity)
        payload = .frame →
      Taken browser server validateRuntimeTransportAckFrame .ack
        (sendAck server (createRuntimeNodeIdentity browser.toRuntimeNodeIdentity) sentAt payload)) ∧
    ∀ sentAt,
      Taken server browser validateRuntimeTransportHeartbeatFrame .heartbeat (Json.stringify 0
        (createRuntimeTransportHeartbeatPing browser
          (createRuntimeNodeIdentity server.toRuntimeNodeIdentity) sentAt)) ∧
      Taken server browser validateRuntimeTransportHeartbeatFrame .heartbeat (Json.stringify 0
        (createRuntimeTransportHeartbeatPong browser
          (createRuntimeNodeIdentity server.toRuntimeNodeIdentity) sentAt)) :=
  sent_taken_iff_typed browser server (by rw [NodeIdentity.Valid]; decide +kernel)
    (by rw [NodeIdentity.Valid]; decide +kernel)

/-- The frame of a message of blank type is sent, dropped as malformed, and its peer is
disconnected. -/
theorem untyped_frame_dropped :
    browser.Valid ∧ server.Valid ∧
      ∃ text, send browser (createRuntimeNodeIdentity server.toRuntimeNodeIdentity) 1048576 0 noon
        untyped = .ok text ∧
      (Json.parse text).map (handleInboundPayload server
        (createRuntimeNodeIdentity browser.toRuntimeNodeIdentity)) =
        some (.dropped ⟨.malformedFrame,
          "Runtime transport frame requires an actor message with a type."⟩) := by
  have hbrowser : browser.Valid := by rw [NodeIdentity.Valid]; decide +kernel
  have hserver : server.Valid := by rw [NodeIdentity.Valid]; decide +kernel
  have huntyped : ¬Nonblank untyped.type := by rw [Nonblank]; decide
  have hsize : (nextText browser server 0 noon untyped).utf8ByteSize ≤ 1048576 :=
    Nat.le_trans (Json.stringify_size_le 0 _) (by decide +kernel)
  refine ⟨hbrowser, hserver, _, send_eq_text (Nat.not_lt.mpr hsize), ?_⟩
  rw [nextText, Json.parse_stringify, Option.map_some,
    frameTo_dropped _ _ _ _ _ _ _ hbrowser hserver
      (createRuntimeTransportMessageId_nonblank _ _ _) huntyped]

end Nodes

end ActorWeb.TransportFrames
