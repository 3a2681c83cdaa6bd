import SessionChat.Protocol.Wire

/-!
# The capability join request (`crates/session-protocol/src/protected_join.rs`)

The decrypted request of one joiner: the invitation generation it answers, its own replay
values and validity, the KeyPackage it wants added, and the mailbox for the answer.
-/

set_option autoImplicit false

namespace SessionChat.Protocol

/-- Invitation values repeated inside the protected request. -/
@[ext] structure InvitationJoinBinding where
  invitationId : BitVec 128
  joinChallenge : BitVec 256
  invitationKeyId : BitVec 128
  intendedVerifier : BitVec 256
  invitationId_ne_zero : invitationId ≠ 0
  joinChallenge_ne_zero : joinChallenge ≠ 0
  invitationKeyId_ne_zero : invitationKeyId ≠ 0

instance : DecidableEq InvitationJoinBinding := fun _ _ =>
  decidable_of_iff' _ InvitationJoinBinding.ext_iff

/-- Replay and validity values of one request. -/
@[ext] structure JoinRequestBinding where
  joinRequestId : BitVec 128
  issuedAtUnixSeconds : Nat
  expiresAtUnixSeconds : Nat
  requestNonce : BitVec 256
  joinRequestId_ne_zero : joinRequestId ≠ 0
  requestNonce_ne_zero : requestNonce ≠ 0
  issuedAt_lt_expiresAt : issuedAtUnixSeconds < expiresAtUnixSeconds

instance : DecidableEq JoinRequestBinding := fun _ _ =>
  decidable_of_iff' _ JoinRequestBinding.ext_iff

/-- KeyPackage values that admission compares after validation. -/
@[ext] structure MlsKeyPackageBinding where
  keyPackageReference : BitVec 256
  keyPackage : List UInt8
  credentialIdentity : BitVec 256
  leafSignatureKey : BitVec 256
  keyPackage_ne_nil : keyPackage ≠ []
  credentialIdentity_ne_zero : credentialIdentity ≠ 0
  leafSignatureKey_ne_zero : leafSignatureKey ≠ 0

instance : DecidableEq MlsKeyPackageBinding := fun _ _ =>
  decidable_of_iff' _ MlsKeyPackageBinding.ext_iff

/-- The canonical decrypted request. -/
structure CapabilityJoinRequest where
  invitation : InvitationJoinBinding
  request : JoinRequestBinding
  mls : MlsKeyPackageBinding
  responseEndpoint : LocalWelcomeDepositEndpoint
  responseEndpoint_le_request :
    responseEndpoint.expiresAtUnixSeconds ≤ request.expiresAtUnixSeconds
deriving DecidableEq

end SessionChat.Protocol
