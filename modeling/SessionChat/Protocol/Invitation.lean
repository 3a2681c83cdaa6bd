import SessionChat.Protocol.Wire

/-!
# Signed capability invitations (`crates/session-protocol/src/invitation.rs`, ADR 0007)

The two invitation schemas: claims that are valid by construction, the signing input with
its domain separator, the canonical encoding and the decoder that verifies the signature.
Ed25519 is a parameter. Encoding into a growing buffer does not fail, so signing is total.
-/

set_option autoImplicit false

namespace SessionChat.Protocol

open Codec

/-- Ed25519 as the invitations use it; signing is a function of key and message. -/
structure Ed25519 where
  SigningKey : Type
  verifyingKey : SigningKey → BitVec 256
  sign : SigningKey → List UInt8 → BitVec 512
  /-- `VerifyingKey::from_bytes` succeeds. -/
  isVerifyingKey : BitVec 256 → Bool
  verifyStrict : BitVec 256 → List UInt8 → BitVec 512 → Bool

def maxSignedInvitationBytes : Nat := 512

/-- The characters of a domain separator and the final zero byte. -/
def domain (text : String) : List UInt8 :=
  (text.toList.map fun c => UInt8.ofNat c.toNat) ++ [0]

def signedInvitationSignatureDomain : List UInt8 := domain "session-chat/signed-invitation/v1"

def signedInvitationV2SignatureDomain : List UInt8 := domain "session-chat/signed-invitation/v2"

/-! ## Claims -/

abbrev SecretCapability := { bytes : BitVec 256 // bytes ≠ 0 }

def SecretCapability.new (bytes : BitVec 256) : Except WireError SecretCapability :=
  if h : bytes = 0 then .error .zeroSecretCapability else .ok ⟨bytes, h⟩

/-- Fields bound by a version 1 signature. -/
structure CapabilityInvitationClaims where
  invitationId : BitVec 128
  issuedAt : UInt64
  expiresAt : UInt64
  joinChallenge : BitVec 256
  capability : SecretCapability
  invitationId_ne_zero : invitationId ≠ 0
  joinChallenge_ne_zero : joinChallenge ≠ 0
  issuedAt_lt_expiresAt : issuedAt < expiresAt
deriving DecidableEq

def CapabilityInvitationClaims.new (invitationId : BitVec 128) (issuedAt expiresAt : UInt64)
    (joinChallenge : BitVec 256) (capability : SecretCapability) :
    Except WireError CapabilityInvitationClaims :=
  if hid : invitationId = 0 then .error .zeroInvitationId
  else if hchallenge : joinChallenge = 0 then .error .zeroJoinChallenge
  else if htime : issuedAt < expiresAt then
    .ok ⟨invitationId, issuedAt, expiresAt, joinChallenge, capability, hid, hchallenge, htime⟩
  else .error (.invalidInvitationTimeRange issuedAt.toNat expiresAt.toNat)

/-- Fields bound by a version 2 signature. -/
structure CapabilityInvitationV2Claims where
  base : CapabilityInvitationClaims
  invitationKeyId : BitVec 128
  hpkeRecipientPublicKey : BitVec 256
  invitationKeyId_ne_zero : invitationKeyId ≠ 0
  hpkeRecipientPublicKey_ne_zero : hpkeRecipientPublicKey ≠ 0
deriving DecidableEq

def CapabilityInvitationV2Claims.new (base : CapabilityInvitationClaims)
    (invitationKeyId : BitVec 128) (hpkeRecipientPublicKey : BitVec 256) :
    Except WireError CapabilityInvitationV2Claims :=
  if hid : invitationKeyId = 0 then .error .zeroInvitationKeyId
  else if hkey : hpkeRecipientPublicKey = 0 then .error .zeroHpkePublicKey
  else .ok ⟨base, invitationKeyId, hpkeRecipientPublicKey, hid, hkey⟩

/-! ## Version 1 -/

/-- A version 1 invitation with its signature. -/
structure SignedCapabilityInvitation where
  claims : CapabilityInvitationClaims
  inviterVerifyingKey : BitVec 256
  signature : BitVec 512
deriving DecidableEq

/-- `encode_fields`: object type 2, suite, admission mode and use policy 1. -/
def encodeInvitationFields (fieldCount : Nat) (claims : CapabilityInvitationClaims)
    (inviterVerifyingKey : BitVec 256) : List UInt8 :=
  Cbor.array fieldCount ++ Cbor.unsigned protocolVersion ++ Cbor.unsigned 2 ++
    Cbor.unsigned 1 ++ Cbor.byteString (fixedBytes 16 claims.invitationId) ++
    Cbor.unsigned claims.issuedAt.toNat ++ Cbor.unsigned claims.expiresAt.toNat ++
    Cbor.unsigned 1 ++ Cbor.unsigned 1 ++ Cbor.byteString (fixedBytes 32 claims.joinChallenge) ++
    Cbor.byteString (fixedBytes 32 claims.capability.val) ++
    Cbor.byteString (fixedBytes 32 inviterVerifyingKey)

def signingInput (claims : CapabilityInvitationClaims) (inviterVerifyingKey : BitVec 256) :
    List UInt8 :=
  signedInvitationSignatureDomain ++ encodeInvitationFields 11 claims inviterVerifyingKey

namespace SignedCapabilityInvitation

def sign (E : Ed25519) (claims : CapabilityInvitationClaims) (key : E.SigningKey) :
    SignedCapabilityInvitation where
  claims := claims
  inviterVerifyingKey := E.verifyingKey key
  signature := E.sign key (signingInput claims (E.verifyingKey key))

def encodeFields (i : SignedCapabilityInvitation) : List UInt8 :=
  encodeInvitationFields 12 i.claims i.inviterVerifyingKey ++
    Cbor.byteString (fixedBytes 64 i.signature)

def encodeCanonical (i : SignedCapabilityInvitation) : Except WireError (List UInt8) :=
  if maxSignedInvitationBytes < i.encodeFields.length then
    .error (.wireObjectTooLarge i.encodeFields.length maxSignedInvitationBytes)
  else .ok i.encodeFields

/-- The fields in wire order, and the claims they make up. -/
def decodeFields : Decoder SignedCapabilityInvitation := do
  requireArray 12
  requireValue protocolVersion .unsupportedVersion
  requireValue 2 .unsupportedObjectType
  requireValue 1 .unsupportedSignatureSuite
  let invitationId ← decodeFixed 16 .invalidInvitationIdLength
  let issuedAt ← Decoder.read (Cbor.readUnsigned 64)
  let expiresAt ← Decoder.read (Cbor.readUnsigned 64)
  requireValue 1 .unsupportedAdmissionMode
  requireValue 1 .unsupportedInvitationUsePolicy
  let joinChallenge ← decodeFixed 32 .invalidJoinChallengeLength
  let capability ← decodeFixed 32 .invalidSecretCapabilityLength
  let inviterVerifyingKey ← decodeFixed 32 .invalidVerifyingKeyLength
  let signature ← decodeFixed 64 .invalidSignatureLength
  rejectTrailing
  let capability ← SecretCapability.new capability
  let claims ← CapabilityInvitationClaims.new invitationId (.ofNat issuedAt) (.ofNat expiresAt)
    joinChallenge capability
  return ⟨claims, inviterVerifyingKey, signature⟩

def decodeAndVerify (E : Ed25519) (bytes : List UInt8) :
    Except WireError SignedCapabilityInvitation := do
  if maxSignedInvitationBytes < bytes.length then
    throw (.wireObjectTooLarge bytes.length maxSignedInvitationBytes)
  let invitation ← decodeFields.run' bytes
  if (← invitation.encodeCanonical) ≠ bytes then throw .nonDeterministicEncoding
  if E.isVerifyingKey invitation.inviterVerifyingKey = false then throw .invalidVerifyingKey
  if E.verifyStrict invitation.inviterVerifyingKey
      (signingInput invitation.claims invitation.inviterVerifyingKey)
      invitation.signature = false then
    throw .invalidSignature
  return invitation

end SignedCapabilityInvitation

/-! ## Version 2 -/

/-- A version 2 invitation with its signature. -/
structure SignedCapabilityInvitationV2 where
  claims : CapabilityInvitationV2Claims
  inviterVerifyingKey : BitVec 256
  signature : BitVec 512
deriving DecidableEq

/-- `encode_fields_v2`: schema version 2, and 1 for every fixed selection. -/
def encodeInvitationFieldsV2 (fieldCount : Nat) (claims : CapabilityInvitationV2Claims)
    (inviterVerifyingKey : BitVec 256) : List UInt8 :=
  Cbor.array fieldCount ++ Cbor.unsigned 2 ++ Cbor.unsigned 2 ++ Cbor.unsigned 1 ++
    Cbor.unsigned 1 ++ Cbor.unsigned 1 ++ Cbor.unsigned 1 ++ Cbor.unsigned 1 ++
    Cbor.byteString (fixedBytes 16 claims.base.invitationId) ++
    Cbor.unsigned claims.base.issuedAt.toNat ++ Cbor.unsigned claims.base.expiresAt.toNat ++
    Cbor.unsigned 1 ++ Cbor.unsigned 1 ++
    Cbor.byteString (fixedBytes 32 claims.base.joinChallenge) ++
    Cbor.byteString (fixedBytes 32 claims.base.capability.val) ++
    Cbor.byteString (fixedBytes 32 inviterVerifyingKey) ++
    Cbor.byteString (fixedBytes 16 claims.invitationKeyId) ++
    Cbor.byteString (fixedBytes 32 claims.hpkeRecipientPublicKey)

def signingInputV2 (claims : CapabilityInvitationV2Claims) (inviterVerifyingKey : BitVec 256) :
    List UInt8 :=
  signedInvitationV2SignatureDomain ++ encodeInvitationFieldsV2 17 claims inviterVerifyingKey

namespace SignedCapabilityInvitationV2

def sign (E : Ed25519) (claims : CapabilityInvitationV2Claims) (key : E.SigningKey) :
    SignedCapabilityInvitationV2 where
  claims := claims
  inviterVerifyingKey := E.verifyingKey key
  signature := E.sign key (signingInputV2 claims (E.verifyingKey key))

def encodeFields (i : SignedCapabilityInvitationV2) : List UInt8 :=
  encodeInvitationFieldsV2 18 i.claims i.inviterVerifyingKey ++
    Cbor.byteString (fixedBytes 64 i.signature)

def encodeCanonical (i : SignedCapabilityInvitationV2) : Except WireError (List UInt8) :=
  if maxSignedInvitationBytes < i.encodeFields.length then
    .error (.wireObjectTooLarge i.encodeFields.length maxSignedInvitationBytes)
  else .ok i.encodeFields

/-- The fields in wire order, and the claims they make up. -/
def decodeFields : Decoder SignedCapabilityInvitationV2 := do
  requireArray 18
  requireValue 2 .unsupportedVersion
  requireValue 2 .unsupportedObjectType
  requireValue 1 .unsupportedSignatureSuite
  requireValue 1 .unsupportedInvitationEncryptionSuite
  requireValue 1 .unsupportedJoinRequestSchema
  requireValue 1 .unsupportedApplicationProtocolVersion
  requireValue 1 .unsupportedTransportProfile
  let invitationId ← decodeFixed 16 .invalidInvitationIdLength
  let issuedAt ← Decoder.read (Cbor.readUnsigned 64)
  let expiresAt ← Decoder.read (Cbor.readUnsigned 64)
  requireValue 1 .unsupportedAdmissionMode
  requireValue 1 .unsupportedInvitationUsePolicy
  let joinChallenge ← decodeFixed 32 .invalidJoinChallengeLength
  let capability ← decodeFixed 32 .invalidSecretCapabilityLength
  let inviterVerifyingKey ← decodeFixed 32 .invalidVerifyingKeyLength
  let invitationKeyId ← decodeFixed 16 .invalidInvitationKeyIdLength
  let hpkeRecipientPublicKey ← decodeFixed 32 .invalidHpkePublicKeyLength
  let signature ← decodeFixed 64 .invalidSignatureLength
  rejectTrailing
  let capability ← SecretCapability.new capability
  let base ← CapabilityInvitationClaims.new invitationId (.ofNat issuedAt) (.ofNat expiresAt)
    joinChallenge capability
  let claims ← CapabilityInvitationV2Claims.new base invitationKeyId hpkeRecipientPublicKey
  return ⟨claims, inviterVerifyingKey, signature⟩

def decodeAndVerify (E : Ed25519) (bytes : List UInt8) :
    Except WireError SignedCapabilityInvitationV2 := do
  if maxSignedInvitationBytes < bytes.length then
    throw (.wireObjectTooLarge bytes.length maxSignedInvitationBytes)
  let invitation ← decodeFields.run' bytes
  if (← invitation.encodeCanonical) ≠ bytes then throw .nonDeterministicEncoding
  if E.isVerifyingKey invitation.inviterVerifyingKey = false then throw .invalidVerifyingKey
  if E.verifyStrict invitation.inviterVerifyingKey
      (signingInputV2 invitation.claims invitation.inviterVerifyingKey)
      invitation.signature = false then
    throw .invalidSignature
  return invitation

end SignedCapabilityInvitationV2

end SessionChat.Protocol
