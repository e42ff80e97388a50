import ActorWeb.FrameAcceptance
import ActorWeb.Joined

/-! When the keys of claims and the ids of messages give back the parts they are joined from. -/

namespace ActorWeb.IdempotencyKeys

open String JsText TransportContract TransportFrames ActorWeb.Joined

def Blank (c : Char) : Prop := isSpace c = true

theorem nonblank_iff_word (s : String) : Nonblank s ↔ Word Blank s.toList :=
  trim_ne_empty_iff s

theorem not_blank_colon : ¬Blank ':' := by rw [Blank]; decide

def peerWord : List Char := "peer".toList

def messageWord : List Char := "message".toList

theorem word_append_sep (l r : List Char) : Word Blank (l ++ ':' :: r) :=
  word_of_sep not_blank_colon l r

theorem ne_shifted (l r : List Char) : l ≠ l ++ ':' :: r := fun h => by
  simpa using congrArg List.length h

section Claims

variable {A B C D M A' B' C' D' M' : List Char}

def claimText (A B C D M : List Char) : List Char :=
  A ++ ':' :: (B ++ ':' :: (peerWord ++ ':' :: (C ++ ':' :: (D ++ ':' ::
    (messageWord ++ ':' :: M)))))

/-- No colon of a part can be taken for one that the key puts between its parts. -/
structure Separate (A B C D M : List Char) : Prop where
  localAddress : NoWordBefore ':' Blank A
  localId : NoWordAfter ':' Blank B
  peerAddress : NoWordBefore ':' Blank C
  peerId : NoWordAfter ':' Blank D
  messageId : ∀ rest, ¬Holds ':' messageWord M rest

theorem Separate.unique (h : Separate A B C D M) (hA : Word Blank A') (hB : Word Blank B')
    (hC : Word Blank C') (hD : Word Blank D')
    (heq : claimText A B C D M = claimText A' B' C' D' M') :
    A = A' ∧ B = B' ∧ C = C' ∧ D = D' ∧ M = M' := by
  have hpeer : Word Blank peerWord := ⟨'p', by decide, by rw [Blank]; decide⟩
  have hmessage : Word Blank messageWord := ⟨'m', by decide, by rw [Blank]; decide⟩
  obtain ⟨rfl, rfl, hrest⟩ | ⟨l, -, hrest⟩ := pair_before_keyword not_blank_colon
    (by decide : ':' ∉ peerWord) hpeer h.localAddress h.localId hA hB heq
  · obtain ⟨rfl, rfl, rfl⟩ | hagain := pair_before_keyword not_blank_colon
      (by decide : ':' ∉ messageWord) hmessage h.peerAddress h.peerId hC hD hrest
    · exact ⟨rfl, rfl, rfl, rfl, rfl⟩
    · exact absurd hagain (h.messageId _)
  -- the word `peer` comes again: then it stands in the address of the peer
  · have hmoved : C ++ ':' :: (D ++ ':' :: (messageWord ++ ':' :: M)) =
        (l ++ peerWord ++ ':' :: C') ++ ':' :: (D' ++ ':' :: (messageWord ++ ':' :: M')) := by
      rw [hrest, List.append_assoc, List.append_assoc, List.append_assoc, List.cons_append]
    obtain ⟨rfl, -, -⟩ | hagain := pair_before_keyword not_blank_colon
      (by decide : ':' ∉ messageWord) hmessage h.peerAddress h.peerId (word_append_sep _ _) hD hmoved
    · obtain ⟨x, hx, hblank⟩ := hpeer
      exact absurd ⟨x, List.mem_append_right l hx, hblank⟩ (h.peerAddress _ _ rfl)
    · exact absurd hagain (h.messageId _)

def Unique (A B C D M : List Char) : Prop :=
  ∀ A' B' C' D' M', Word Blank A' → Word Blank B' → Word Blank C' → Word Blank D' →
    claimText A' B' C' D' M' = claimText A B C D M →
    A' = A ∧ B' = B ∧ C' = C ∧ D' = D ∧ M' = M

theorem unique_iff_separate (hA : Word Blank A) (hB : Word Blank B) (hC : Word Blank C)
    (hD : Word Blank D) : Unique A B C D M ↔ Separate A B C D M := by
  constructor
  · intro h
    refine ⟨?_, ?_, ?_, ?_, ?_⟩
    · rintro l r rfl hl
      obtain ⟨he, -⟩ := h l (r ++ ':' :: B) C D M hl (word_append_sep _ _) hC hD
        (by simp [claimText])
      exact ne_shifted _ _ he
    · rintro l r rfl hr
      obtain ⟨he, -⟩ := h (A ++ ':' :: l) r C D M (word_append_sep _ _) hr hC hD
        (by simp [claimText])
      exact ne_shifted _ _ he.symm
    · rintro l r rfl hl
      obtain ⟨-, -, he, -⟩ := h A B l (r ++ ':' :: D) M hA hB hl (word_append_sep _ _)
        (by simp [claimText])
      exact ne_shifted _ _ he
    · rintro l r rfl hr
      obtain ⟨-, -, he, -⟩ := h A B (C ++ ':' :: l) r M hA hB (word_append_sep _ _) hr
        (by simp [claimText])
      exact ne_shifted _ _ he.symm
    · rintro rest ⟨l, rfl | ⟨l', rfl⟩, rfl⟩
      · obtain ⟨-, -, -, he, -⟩ := h A B C (D ++ ':' :: messageWord) rest hA hB hC
          (word_append_sep _ _) (by simp [claimText])
        exact ne_shifted _ _ he.symm
      · obtain ⟨-, -, -, he, -⟩ := h A B C (D ++ ':' :: (messageWord ++ ':' :: l')) rest hA hB hC
          (word_append_sep _ _) (by simp [claimText])
        exact ne_shifted _ _ he.symm
  · intro h A' B' C' D' M' hA' hB' hC' hD' heq
    obtain ⟨rfl, rfl, rfl, rfl, rfl⟩ := h.unique hA' hB' hC' hD' heq.symm
    exact ⟨rfl, rfl, rfl, rfl, rfl⟩

end Claims

section MessageIds

variable {A I D : List Char}

def idText (A I D : List Char) : List Char := A ++ ':' :: (I ++ ':' :: D)

/-- No colon of a part can be taken for one that the id puts between its parts. -/
structure Apart (A I D : List Char) : Prop where
  address : NoWordBefore ':' Blank A
  before : NoWordBefore ':' Blank I
  after : NoWordAfter ':' Blank I
  destination : NoWordAfter ':' Blank D

theorem unique_iff_apart (hA : Word Blank A) (hD : Word Blank D) :
    (∀ A' I' D', Word Blank A' → Word Blank I' → Word Blank D' → idText A' I' D' = idText A I D →
      A' = A ∧ I' = I ∧ D' = D) ↔ Apart A I D := by
  constructor
  · intro h
    refine ⟨?_, ?_, ?_, ?_⟩
    · rintro l r rfl hl
      obtain ⟨he, -⟩ := h l (r ++ ':' :: I) D hl (word_append_sep _ _) hD (by simp [idText])
      exact ne_shifted _ _ he
    · rintro l r rfl hl
      obtain ⟨-, he, -⟩ := h A l (r ++ ':' :: D) hA hl (word_append_sep _ _) (by simp [idText])
      exact ne_shifted _ _ he
    · rintro l r rfl hr
      obtain ⟨he, -⟩ := h (A ++ ':' :: l) r D (word_append_sep _ _) hr hD (by simp [idText])
      exact ne_shifted _ _ he.symm
    · rintro l r rfl hr
      obtain ⟨-, he, -⟩ := h A (I ++ ':' :: l) r hA (word_append_sep _ _) hr (by simp [idText])
      exact ne_shifted _ _ he.symm
  · intro h A' I' D' hA' hI' hD' heq
    obtain ⟨rfl, rfl, rfl⟩ := triple_unique not_blank_colon h.address h.before h.after
      h.destination hA' hI' hD' heq.symm
    exact ⟨rfl, rfl, rfl⟩

end MessageIds

section Identities

variable (localNode peerNode source destination : NodeIdentity) (frame : RuntimeTransportFrame)
  (n : Nat)

/-- Every claim of valid identities with this key is for the same nodes and message id. -/
def KeyDetermines : Prop :=
  ∀ (localNode' peerNode' : NodeIdentity) (frame' : RuntimeTransportFrame),
    localNode'.Valid → peerNode'.Valid →
    idempotencyKey localNode'.toRuntimeNodeIdentity peerNode'.toRuntimeNodeIdentity frame' =
      idempotencyKey localNode.toRuntimeNodeIdentity peerNode.toRuntimeNodeIdentity frame →
    localNode'.nodeAddress = localNode.nodeAddress ∧ localNode'.nodeId = localNode.nodeId ∧
      peerNode'.nodeAddress = peerNode.nodeAddress ∧ peerNode'.nodeId = peerNode.nodeId ∧
      frame'.messageId = frame.messageId

/-- Every message id of valid identities that equals this one has the same parts. -/
def IdDetermines : Prop :=
  ∀ (source' destination' : NodeIdentity) (n' : Nat), source'.Valid → destination'.Valid →
    createRuntimeTransportMessageId source'.toRuntimeNodeIdentity
        destination'.toRuntimeNodeIdentity n' =
      createRuntimeTransportMessageId source.toRuntimeNodeIdentity
        destination.toRuntimeNodeIdentity n →
    source'.nodeAddress = source.nodeAddress ∧ source'.incarnation = source.incarnation ∧
      destination'.nodeAddress = destination.nodeAddress ∧ n' = n

theorem idempotencyKey_toList (localNode peerNode : RuntimeNodeIdentity)
    (frame : RuntimeTransportFrame) :
    (idempotencyKey localNode peerNode frame).toList = "runtime-transport:local:".toList ++
      claimText localNode.nodeAddress.toList localNode.nodeId.toList peerNode.nodeAddress.toList
        peerNode.nodeId.toList frame.messageId.toList := by
  have hjoin : idempotencyKey localNode peerNode frame = "runtime-transport" ++ ":" ++ "local" ++
      ":" ++ localNode.nodeAddress ++ ":" ++ localNode.nodeId ++ ":" ++ "peer" ++ ":" ++
      peerNode.nodeAddress ++ ":" ++ peerNode.nodeId ++ ":message:" ++ frame.messageId := rfl
  simp [hjoin, claimText, peerWord, messageWord]

theorem messageId_toList (source destination : RuntimeNodeIdentity) (n : Nat) :
    (createRuntimeTransportMessageId source destination n).toList =
      idText source.nodeAddress.toList source.incarnation.toList destination.nodeAddress.toList ++
        ':' :: Nat.toDigits 10 n := by
  rw [createRuntimeTransportMessageId_eq]
  simp [idText]

def nodeOf (A B I : List Char) : NodeIdentity :=
  createRuntimeNodeIdentity ⟨String.ofList A, String.ofList B, String.ofList I⟩

theorem nodeOf_valid {A B I : List Char} (hA : Word Blank A) (hB : Word Blank B)
    (hI : Word Blank I) : (nodeOf A B I).Valid := by
  refine (valid_iff _).mpr ⟨⟨?_, ?_, ?_⟩, rfl, nofun⟩
  · simpa only [nodeOf, createRuntimeNodeIdentity, nonblank_iff_word, toList_ofList] using hA
  · simpa only [nodeOf, createRuntimeNodeIdentity, nonblank_iff_word, toList_ofList] using hB
  · simpa only [nodeOf, createRuntimeNodeIdentity, nonblank_iff_word, toList_ofList] using hI

theorem valid_words {node : NodeIdentity} (h : node.Valid) :
    Word Blank node.nodeAddress.toList ∧ Word Blank node.nodeId.toList ∧
      Word Blank node.incarnation.toList := by
  obtain ⟨haddress, hid, hincarnation⟩ := ((valid_iff node).mp h).1
  exact ⟨(nonblank_iff_word _).mp haddress, (nonblank_iff_word _).mp hid,
    (nonblank_iff_word _).mp hincarnation⟩

theorem keyDetermines_iff_unique :
    KeyDetermines localNode peerNode frame ↔ Unique localNode.nodeAddress.toList
      localNode.nodeId.toList peerNode.nodeAddress.toList peerNode.nodeId.toList
      frame.messageId.toList := by
  have hzero : Word Blank ['0'] := ⟨'0', by decide, by rw [Blank]; decide⟩
  constructor
  · intro h A B C D M hA hB hC hD heq
    have hkey : idempotencyKey (nodeOf A B ['0']).toRuntimeNodeIdentity
        (nodeOf C D ['0']).toRuntimeNodeIdentity { frame with messageId := String.ofList M } =
        idempotencyKey localNode.toRuntimeNodeIdentity peerNode.toRuntimeNodeIdentity frame := by
      refine toList_inj.mp ?_
      rw [idempotencyKey_toList, idempotencyKey_toList]
      simpa [nodeOf, createRuntimeNodeIdentity] using heq
    obtain ⟨h₁, h₂, h₃, h₄, h₅⟩ := h _ _ _ (nodeOf_valid hA hB hzero) (nodeOf_valid hC hD hzero) hkey
    refine ⟨?_, ?_, ?_, ?_, ?_⟩
    · simpa [nodeOf, createRuntimeNodeIdentity] using congrArg String.toList h₁
    · simpa [nodeOf, createRuntimeNodeIdentity] using congrArg String.toList h₂
    · simpa [nodeOf, createRuntimeNodeIdentity] using congrArg String.toList h₃
    · simpa [nodeOf, createRuntimeNodeIdentity] using congrArg String.toList h₄
    · simpa using congrArg String.toList h₅
  · intro h localNode' peerNode' frame' hl hp hkey
    have heq := congrArg String.toList hkey
    rw [idempotencyKey_toList, idempotencyKey_toList] at heq
    obtain ⟨h₁, h₂, h₃, h₄, h₅⟩ := h _ _ _ _ _ (valid_words hl).1 (valid_words hl).2.1
      (valid_words hp).1 (valid_words hp).2.1 (List.append_cancel_left heq)
    exact ⟨toList_inj.mp h₁, toList_inj.mp h₂, toList_inj.mp h₃,
      toList_inj.mp h₄, toList_inj.mp h₅⟩

theorem digits_split {l l' : List Char} {n n' : Nat}
    (h : l ++ ':' :: Nat.toDigits 10 n = l' ++ ':' :: Nat.toDigits 10 n') : l = l' ∧ n = n' := by
  have hdigits (m : Nat) : ':' ∉ Nat.toDigits 10 m := fun hm => by
    simpa using Nat.isDigit_of_mem_toDigits (by decide) (by decide) hm
  obtain ⟨hstart, hnumber⟩ := JsText.split_at_last h (hdigits n) (hdigits n')
  refine ⟨hstart, ?_⟩
  rw [← Nat.ofDigitChars_ten_toDigits (n := n), hnumber, Nat.ofDigitChars_ten_toDigits]

theorem idDetermines_iff_unique :
    IdDetermines source destination n ↔ ∀ A I D, Word Blank A → Word Blank I → Word Blank D →
      idText A I D = idText source.nodeAddress.toList source.incarnation.toList
        destination.nodeAddress.toList →
      A = source.nodeAddress.toList ∧ I = source.incarnation.toList ∧
        D = destination.nodeAddress.toList := by
  have hzero : Word Blank ['0'] := ⟨'0', by decide, by rw [Blank]; decide⟩
  constructor
  · intro h A I D hA hI hD heq
    have hid : createRuntimeTransportMessageId (nodeOf A ['0'] I).toRuntimeNodeIdentity
        (nodeOf D ['0'] ['0']).toRuntimeNodeIdentity n = createRuntimeTransportMessageId
          source.toRuntimeNodeIdentity destination.toRuntimeNodeIdentity n := by
      refine toList_inj.mp ?_
      rw [messageId_toList, messageId_toList, ← heq]
      simp [nodeOf, createRuntimeNodeIdentity]
    obtain ⟨h₁, h₂, h₃, -⟩ := h _ _ n (nodeOf_valid hA hzero hI) (nodeOf_valid hD hzero hzero) hid
    refine ⟨?_, ?_, ?_⟩
    · simpa [nodeOf, createRuntimeNodeIdentity] using congrArg String.toList h₁
    · simpa [nodeOf, createRuntimeNodeIdentity] using congrArg String.toList h₂
    · simpa [nodeOf, createRuntimeNodeIdentity] using congrArg String.toList h₃
  · intro h source' destination' n' hs hd hid
    have heq := congrArg String.toList hid
    rw [messageId_toList, messageId_toList] at heq
    obtain ⟨htext, hn⟩ := digits_split heq
    obtain ⟨h₁, h₂, h₃⟩ := h _ _ _ (valid_words hs).1 (valid_words hs).2.2 (valid_words hd).1 htext
    exact ⟨toList_inj.mp h₁, toList_inj.mp h₂, toList_inj.mp h₃, hn⟩

/-- A key determines the parts of its claim exactly if no colon of a part can be taken for
one that joins them, and so does a message id. -/
theorem keys_determine_iff_separate (localNode peerNode : NodeIdentity) (hl : localNode.Valid)
    (hp : peerNode.Valid) (frame : RuntimeTransportFrame) (n : Nat) :
    (KeyDetermines localNode peerNode frame ↔ Separate localNode.nodeAddress.toList
      localNode.nodeId.toList peerNode.nodeAddress.toList peerNode.nodeId.toList
      frame.messageId.toList) ∧
    (IdDetermines localNode peerNode n ↔ Apart localNode.nodeAddress.toList
      localNode.incarnation.toList peerNode.nodeAddress.toList) := by
  obtain ⟨hA, hB, -⟩ := valid_words hl
  obtain ⟨hC, hD, -⟩ := valid_words hp
  exact ⟨(keyDetermines_iff_unique localNode peerNode frame).trans (unique_iff_separate hA hB hC hD),
    (idDetermines_iff_unique localNode peerNode n).trans (unique_iff_apart hA hC)⟩

end Identities

section Collisions

def frameOf (messageId : String) : RuntimeTransportFrame :=
  ⟨browser.toRuntimeNodeIdentity, server.toRuntimeNodeIdentity, messageId, 1, ⟨"ask", ""⟩⟩

theorem keys_determine_iff_separate_browser :
    (KeyDetermines browser server (frameOf "m-1") ↔ Separate browser.nodeAddress.toList
      browser.nodeId.toList server.nodeAddress.toList server.nodeId.toList "m-1".toList) ∧
    (IdDetermines browser server 1 ↔ Apart browser.nodeAddress.toList browser.incarnation.toList
      server.nodeAddress.toList) :=
  keys_determine_iff_separate browser server (by rw [NodeIdentity.Valid]; decide +kernel)
    (by rw [NodeIdentity.Valid]; decide +kernel) (frameOf "m-1") 1

def url : NodeIdentity := nodeOf "ws://a".toList "n".toList "i".toList

/-- A node with the same text on both sides of the first joining colon. -/
def scheme : NodeIdentity := nodeOf "ws".toList "//a:n".toList "//a:i".toList

/-- Different valid nodes share a key and a message id. -/
theorem url_collides :
    url.Valid ∧ scheme.Valid ∧ server.Valid ∧ url.nodeAddress ≠ scheme.nodeAddress ∧
      idempotencyKey url.toRuntimeNodeIdentity server.toRuntimeNodeIdentity (frameOf "m-1") =
        idempotencyKey scheme.toRuntimeNodeIdentity server.toRuntimeNodeIdentity (frameOf "m-1") ∧
      createRuntimeTransportMessageId url.toRuntimeNodeIdentity server.toRuntimeNodeIdentity 1 =
        createRuntimeTransportMessageId scheme.toRuntimeNodeIdentity
          server.toRuntimeNodeIdentity 1 := by
  refine ⟨?_, ?_, ?_, ?_, ?_, ?_⟩
  · rw [NodeIdentity.Valid]
    decide +kernel
  · rw [NodeIdentity.Valid]
    decide +kernel
  · rw [NodeIdentity.Valid]
    decide +kernel
  all_goals decide +kernel

end Collisions

end ActorWeb.IdempotencyKeys
