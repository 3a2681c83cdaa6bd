import SessionChat.Codec.Cbor

/-!
# Wire objects of the Welcome path (`crates/session-protocol/src/lib.rs`, `protected_join.rs`)

The opaque transport envelope and the deposit-only local Welcome endpoint. A decoder bounds the
input, reads the fixed field list, rejects trailing bytes and compares with the re-encoding, so
that exactly one byte string denotes each value.
-/

set_option autoImplicit false

namespace SessionChat.Protocol

open Codec

/-- Fail-closed errors of the wire boundary. -/
inductive WireError where
  | wireObjectTooLarge (actual maximum : Nat)
  | ciphertextTooLarge (actual maximum : Nat)
  | unsupportedVersion (value : Nat)
  | unsupportedObjectType (value : Nat)
  | unsupportedTransportProfile (value : Nat)
  | invalidEnvelopeIdLength (actual : Nat)
  | invalidTransportInstanceIdLength (actual : Nat)
  | invalidMailboxIdLength (actual : Nat)
  | invalidDepositCapabilityLength (actual : Nat)
  | zeroTransportInstanceId
  | zeroMailboxId
  | zeroDepositCapability
  | unsupportedSignatureSuite (value : Nat)
  | unsupportedAdmissionMode (value : Nat)
  | unsupportedInvitationUsePolicy (value : Nat)
  | unsupportedInvitationEncryptionSuite (value : Nat)
  | unsupportedJoinRequestSchema (value : Nat)
  | unsupportedApplicationProtocolVersion (value : Nat)
  | invalidInvitationIdLength (actual : Nat)
  | invalidJoinChallengeLength (actual : Nat)
  | invalidSecretCapabilityLength (actual : Nat)
  | invalidVerifyingKeyLength (actual : Nat)
  | invalidInvitationKeyIdLength (actual : Nat)
  | invalidHpkePublicKeyLength (actual : Nat)
  | invalidSignatureLength (actual : Nat)
  | zeroInvitationId
  | zeroJoinChallenge
  | zeroSecretCapability
  | zeroInvitationKeyId
  | zeroHpkePublicKey
  | invalidInvitationTimeRange (issuedAt expiresAt : Nat)
  | invalidVerifyingKey
  | invalidSignature
  | malformed
  | trailingData
  | nonDeterministicEncoding
deriving DecidableEq

/-- `PROTOCOL_VERSION`, `LOCAL_WELCOME_ENDPOINT_VERSION`. -/
def protocolVersion : Nat := 1

def maxWireObjectBytes : Nat := 64 * 1024

def maxEnvelopeCiphertextBytes : Nat := 60 * 1024

def maxLocalWelcomeEndpointBytes : Nat := 128

/-- A decoder in progress: the bytes not yet read, and the first error. -/
abbrev Decoder (α : Type) := StateT (List UInt8) (Except WireError) α

/-- Every reader failure is reported as malformed input. -/
def Decoder.read {α : Type} (reader : Cbor.Reader α) : Decoder α := fun input =>
  match reader.run input with
  | some result => .ok result
  | none => .error .malformed

/-- Fails when the condition holds. -/
def Decoder.refuse (c : Prop) [Decidable c] (error : WireError) : Decoder Unit :=
  if c then throw error else pure ()

def requireArray (fields : Nat) : Decoder Unit := do
  let length ← Decoder.read Cbor.readArray
  Decoder.refuse (length ≠ some fields) .malformed

def requireValue (expected : Nat) (error : Nat → WireError) : Decoder Unit := do
  let actual ← Decoder.read (Cbor.readUnsigned 16)
  Decoder.refuse (actual ≠ expected) (error actual)

def decodeFixed (count : Nat) (lengthError : Nat → WireError) :
    Decoder (BitVec (8 * count)) := do
  let encoded ← Decoder.read Cbor.readBytes
  match toFixed count encoded with
  | some bytes => return bytes
  | none => throw (lengthError encoded.length)

def rejectTrailing : Decoder Unit := do
  Decoder.refuse ((← get) ≠ []) .trailingData

/-! ## Reading back -/

/-- A decoder that consumes exactly the front and returns the value, whatever follows. -/
def Decoder.Reads {α : Type} (decoder : Decoder α) (front : List UInt8) (value : α) : Prop :=
  ∀ rest, decoder (front ++ rest) = .ok (value, rest)

namespace Decoder.Reads

variable {α β : Type} {front back : List UInt8} {value : α}

theorem read {reader : Cbor.Reader α} (h : ∀ rest, reader (front ++ rest) = some (value, rest)) :
    (Decoder.read reader).Reads front value := by
  intro rest
  simp only [Decoder.read, StateT.run, h rest]

variable {decoder : Decoder α}

/-- What follows a decoder is decoded from what follows its bytes. -/
theorem bind {next : α → Decoder β} {result : Except WireError (β × List UInt8)}
    (h : decoder.Reads front value) (hnext : next value back = result) :
    (decoder >>= next) (front ++ back) = result := by
  have hfront := h back
  simp only [Bind.bind, StateT.bind, hfront]
  exact hnext

theorem then_refuse {c : α → Prop} [∀ x, Decidable (c x)] {error : α → WireError}
    (h : decoder.Reads front value) (hc : ¬c value) :
    (decoder >>= fun x => Decoder.refuse (c x) (error x)).Reads front () := by
  intro rest
  refine h.bind ?_
  rw [Decoder.refuse, if_neg hc]
  rfl

end Decoder.Reads

variable {c : Prop} {error : WireError} {input : List UInt8}

/-- A check that passes reads nothing. -/
theorem Decoder.refuse_bind {β : Type} [Decidable c] (hc : ¬c) (next : Unit → Decoder β)
    (input : List UInt8) : (Decoder.refuse c error >>= next) input = next () input := by
  rw [Decoder.refuse, if_neg hc]
  rfl

theorem requireArray_reads {fields : Nat} (h : fields < 2 ^ 64) :
    (requireArray fields).Reads (Cbor.array fields) () :=
  (Decoder.Reads.read (Cbor.readArray_array h)).then_refuse (fun hne => hne rfl)

theorem requireValue_reads {expected : Nat} (error : Nat → WireError) (h : expected < 2 ^ 16) :
    (requireValue expected error).Reads (Cbor.unsigned expected) () :=
  (Decoder.Reads.read (Cbor.readUnsigned_unsigned (by decide) h)).then_refuse
    (fun hne => hne rfl)

theorem readUnsigned_reads {width n : Nat} (hwidth : width ≤ 64) (hn : n < 2 ^ width) :
    (Decoder.read (Cbor.readUnsigned width)).Reads (Cbor.unsigned n) n :=
  Decoder.Reads.read (Cbor.readUnsigned_unsigned hwidth hn)

theorem readBytes_reads {bytes : List UInt8} (h : bytes.length < 2 ^ 64) :
    (Decoder.read Cbor.readBytes).Reads (Cbor.byteString bytes) bytes :=
  Decoder.Reads.read (Cbor.readBytes_byteString h)

theorem decodeFixed_reads {count : Nat} (error : Nat → WireError) (h : count < 2 ^ 64)
    (x : BitVec (8 * count)) :
    (decodeFixed count error).Reads (Cbor.byteString (fixedBytes count x)) x := by
  have hlength : (fixedBytes count x).length < 2 ^ 64 := by simpa using h
  intro rest
  refine (readBytes_reads hlength).bind ?_
  rw [toFixed_fixedBytes]
  rfl

/-! ## What a decoder has read -/

theorem Decoder.bind_eq_ok {α β : Type} {decoder : Decoder α} {next : α → Decoder β}
    {result : β × List UInt8} : (decoder >>= next) input = .ok result ↔
      ∃ value rest, decoder input = .ok (value, rest) ∧ next value rest = .ok result := by
  simp only [bind, StateT.bind, Except.bind]
  cases decoder input with
  | error error => simp
  | ok read => simp [Prod.ext_iff]

theorem Decoder.refuse_eq_ok [Decidable c] {result : Unit × List UInt8} :
    Decoder.refuse c error input = .ok result ↔ ¬c ∧ result = ((), input) := by
  unfold Decoder.refuse
  split_ifs with hc
  · simp [hc, throw, throwThe, MonadExceptOf.throw, StateT.lift, bind, Except.bind]
  · change Except.ok ((), input) = _ ↔ _
    simp [hc, eq_comm]

theorem Decoder.read_eq_ok {α : Type} {reader : Cbor.Reader α} {result : α × List UInt8} :
    Decoder.read reader input = .ok result ↔ reader input = some result := by
  unfold Decoder.read StateT.run
  cases reader input <;> simp

/-! ## The opaque envelope -/

/-- A bounded transport object with uninterpreted contents. -/
structure OpaqueEnvelope where
  envelopeId : BitVec 128
  expiresAtUnixSeconds : Nat
  ciphertext : List UInt8
deriving DecidableEq

namespace OpaqueEnvelope

def new (envelopeId : BitVec 128) (expiresAt : Nat) (ciphertext : List UInt8) :
    Except WireError OpaqueEnvelope :=
  if maxEnvelopeCiphertextBytes < ciphertext.length then
    .error (.ciphertextTooLarge ciphertext.length maxEnvelopeCiphertextBytes)
  else .ok ⟨envelopeId, expiresAt, ciphertext⟩

/-- The field list, before the size limit. -/
def encodeFields (e : OpaqueEnvelope) : List UInt8 :=
  Cbor.array 5 ++ Cbor.unsigned protocolVersion ++ Cbor.unsigned 1 ++
    Cbor.byteString (fixedBytes 16 e.envelopeId) ++
    Cbor.unsigned e.expiresAtUnixSeconds ++ Cbor.byteString e.ciphertext

def encodeCanonical (e : OpaqueEnvelope) : Except WireError (List UInt8) :=
  if maxWireObjectBytes < e.encodeFields.length then
    .error (.wireObjectTooLarge e.encodeFields.length maxWireObjectBytes)
  else .ok e.encodeFields

/-- The fields in wire order, up to the end of the input. -/
def decodeFields : Decoder OpaqueEnvelope := do
  requireArray 5
  requireValue protocolVersion .unsupportedVersion
  requireValue 1 .unsupportedObjectType
  let envelopeId ← decodeFixed 16 .invalidEnvelopeIdLength
  let expiresAt ← Decoder.read (Cbor.readUnsigned 64)
  let ciphertext ← Decoder.read Cbor.readBytes
  Decoder.refuse (maxEnvelopeCiphertextBytes < ciphertext.length)
    (.ciphertextTooLarge ciphertext.length maxEnvelopeCiphertextBytes)
  rejectTrailing
  return ⟨envelopeId, expiresAt, ciphertext⟩

def decodeCanonical (bytes : List UInt8) : Except WireError OpaqueEnvelope := do
  if maxWireObjectBytes < bytes.length then
    throw (.wireObjectTooLarge bytes.length maxWireObjectBytes)
  let envelope ← decodeFields.run' bytes
  if (← envelope.encodeCanonical) ≠ bytes then throw .nonDeterministicEncoding
  return envelope

variable {bytes : List UInt8} {e envelope : OpaqueEnvelope}

/-- The decoder accepts what it has read to the end and what encodes to the same bytes. -/
theorem of_decodeCanonical (h : decodeCanonical bytes = .ok e) :
    (∃ rest, decodeFields bytes = .ok (e, rest)) ∧ e.encodeCanonical = .ok bytes := by
  unfold decodeCanonical at h
  simp only [bind, Except.bind] at h
  split at h
  · cases h
  · split at h
    · cases h
    rename_i decoded hdecoded
    split at h
    · cases h
    rename_i encoded hencoded
    split at h
    · cases h
    · rename_i hsame
      cases h
      refine ⟨?_, hencoded.trans (congrArg _ (not_not.mp hsame))⟩
      change Except.map Prod.fst (decodeFields bytes) = _ at hdecoded
      rcases hfields : decodeFields bytes with error | ⟨read, rest⟩
      · rw [hfields] at hdecoded
        cases hdecoded
      · rw [hfields] at hdecoded
        cases hdecoded
        exact ⟨rest, rfl⟩

/-- What the decoder accepts is the encoding of what it returns. -/
theorem encodeCanonical_of_decodeCanonical (h : decodeCanonical bytes = .ok envelope) :
    envelope.encodeCanonical = .ok bytes :=
  (of_decodeCanonical h).2

theorem length_of_decodeCanonical (h : decodeCanonical bytes = .ok envelope) :
    bytes.length ≤ maxWireObjectBytes := by
  have hencoded := encodeCanonical_of_decodeCanonical h
  unfold encodeCanonical at hencoded
  split_ifs at hencoded with hlarge
  cases hencoded
  exact Nat.not_lt.mp hlarge

/-- What `new` and the field widths of the source guarantee. -/
structure Valid (e : OpaqueEnvelope) : Prop where
  ciphertext : e.ciphertext.length ≤ maxEnvelopeCiphertextBytes
  expiry : e.expiresAtUnixSeconds < 2 ^ 64

theorem valid_of_decodeCanonical (h : decodeCanonical bytes = .ok e) : e.Valid := by
  obtain ⟨⟨rest, hfields⟩, -⟩ := of_decodeCanonical h
  unfold decodeFields at hfields
  simp only [Decoder.bind_eq_ok, Decoder.refuse_eq_ok, Decoder.read_eq_ok] at hfields
  obtain ⟨_, _, -, _, _, -, _, _, -, envelopeId, _, -, expiresAt, _, hexpiry, ciphertext, _, -,
    _, _, ⟨hshort, -⟩, _, _, -, hfields⟩ := hfields
  cases hfields
  exact ⟨Nat.not_lt.mp hshort, Cbor.lt_of_readUnsigned hexpiry⟩

theorem decodeFields_encodeFields (h : e.Valid) : decodeFields e.encodeFields = .ok (e, []) := by
  have hshort : ¬maxEnvelopeCiphertextBytes < e.ciphertext.length := Nat.not_lt.mpr h.ciphertext
  have hlength : e.ciphertext.length < 2 ^ 64 := Nat.lt_of_le_of_lt h.ciphertext (by decide)
  have hwidth : 16 < 2 ^ 64 := by decide
  refine (requireArray_reads (by decide)).bind ?_
  refine (requireValue_reads _ (by decide)).bind ?_
  refine (requireValue_reads _ (by decide)).bind ?_
  refine (decodeFixed_reads _ hwidth e.envelopeId).bind ?_
  refine (readUnsigned_reads (by decide) h.expiry).bind ?_
  rw [← List.append_nil (Cbor.byteString e.ciphertext)]
  refine (readBytes_reads hlength).bind ?_
  rw [Decoder.refuse_bind hshort]
  rfl

/-- Everything around the ciphertext takes at most thirty-two bytes. -/
theorem length_encodeFields_le (h : e.Valid) :
    e.encodeFields.length ≤ e.ciphertext.length + 32 := by
  have hciphertext : Cbor.headLength e.ciphertext.length ≤ 3 :=
    Cbor.headLength_le_of_lt (Nat.lt_of_le_of_lt h.ciphertext (by decide))
  have hexpiry := Cbor.headLength_le e.expiresAtUnixSeconds
  have hfixed : Cbor.headLength 5 + Cbor.headLength protocolVersion + Cbor.headLength 1 +
      (Cbor.headLength 16 + 16) = 20 := rfl
  simp only [encodeFields, Cbor.array, Cbor.unsigned, Cbor.byteString, List.length_append,
    Cbor.length_head, length_fixedBytes]
  omega

theorem encodeCanonical_of_valid (h : e.Valid) : e.encodeCanonical = .ok e.encodeFields := by
  have hlength := length_encodeFields_le h
  have hciphertext := h.ciphertext
  simp only [maxEnvelopeCiphertextBytes] at hciphertext
  rw [encodeCanonical, if_neg]
  simp only [maxWireObjectBytes]
  omega

/-- What the encoder writes is accepted and decodes to the envelope it was written from. -/
theorem decodeCanonical_of_encodeCanonical (hvalid : e.Valid) (h : e.encodeCanonical = .ok bytes) :
    decodeCanonical bytes = .ok e := by
  have hencoded := h
  unfold encodeCanonical at h
  split_ifs at h with hlarge
  cases h
  unfold decodeCanonical
  rw [if_neg hlarge]
  simp [StateT.run', decodeFields_encodeFields hvalid, hencoded, bind, Except.bind, pure,
    Except.pure]

end OpaqueEnvelope

/-! ## The local Welcome endpoint -/

/-- A local response descriptor that carries deposit authority only. -/
structure LocalWelcomeDepositEndpoint where
  transportInstanceId : BitVec 128
  mailboxId : BitVec 128
  depositCapability : BitVec 256
  expiresAtUnixSeconds : Nat
deriving DecidableEq

namespace LocalWelcomeDepositEndpoint

def new (transportInstanceId mailboxId : BitVec 128) (depositCapability : BitVec 256)
    (expiresAt : Nat) : Except WireError LocalWelcomeDepositEndpoint :=
  if transportInstanceId = 0 then .error .zeroTransportInstanceId
  else if mailboxId = 0 then .error .zeroMailboxId
  else .ok ⟨transportInstanceId, mailboxId, depositCapability, expiresAt⟩

def encodeFields (e : LocalWelcomeDepositEndpoint) : List UInt8 :=
  Cbor.array 7 ++ Cbor.unsigned protocolVersion ++ Cbor.unsigned 5 ++ Cbor.unsigned 1 ++
    Cbor.byteString (fixedBytes 16 e.transportInstanceId) ++
    Cbor.byteString (fixedBytes 16 e.mailboxId) ++
    Cbor.byteString (fixedBytes 32 e.depositCapability) ++
    Cbor.unsigned e.expiresAtUnixSeconds

def encodeCanonical (e : LocalWelcomeDepositEndpoint) : Except WireError (List UInt8) :=
  if maxLocalWelcomeEndpointBytes < e.encodeFields.length then
    .error (.wireObjectTooLarge e.encodeFields.length maxLocalWelcomeEndpointBytes)
  else .ok e.encodeFields

def decodeFrom : Decoder LocalWelcomeDepositEndpoint := do
  requireArray 7
  requireValue protocolVersion .unsupportedVersion
  requireValue 5 .unsupportedObjectType
  requireValue 1 .unsupportedTransportProfile
  let transportInstanceId ← decodeFixed 16 .invalidTransportInstanceIdLength
  let mailboxId ← decodeFixed 16 .invalidMailboxIdLength
  let capability ← decodeFixed 32 .invalidDepositCapabilityLength
  let expiresAt ← Decoder.read (Cbor.readUnsigned 64)
  Decoder.refuse (capability = 0) .zeroDepositCapability
  Decoder.refuse (transportInstanceId = 0) .zeroTransportInstanceId
  Decoder.refuse (mailboxId = 0) .zeroMailboxId
  return ⟨transportInstanceId, mailboxId, capability, expiresAt⟩

def decodeCanonical (bytes : List UInt8) : Except WireError LocalWelcomeDepositEndpoint := do
  if maxLocalWelcomeEndpointBytes < bytes.length then
    throw (.wireObjectTooLarge bytes.length maxLocalWelcomeEndpointBytes)
  let endpoint ← (do let e ← decodeFrom; rejectTrailing; return e).run' bytes
  if (← endpoint.encodeCanonical) ≠ bytes then throw .nonDeterministicEncoding
  return endpoint

end LocalWelcomeDepositEndpoint

end SessionChat.Protocol
