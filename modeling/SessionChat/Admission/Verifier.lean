import SessionChat.Invitation.Registry
import SessionChat.Protocol.JoinRequest

/-!
# Capability admission (`crates/admission-capability/src/lib.rs`, ADR 0009)

The verifier keeps one replay entry for every request it has admitted. A request passes
through one-shot values: verified, awaiting approval, approved, prepared for the MLS
addition, and applied. From the approval on it also owns the reservation of its invitation,
and every way out of the sequence releases or settles both.
-/

set_option autoImplicit false

namespace SessionChat.Admission

open Protocol Invitation

inductive CapabilityAdmissionError where
  | invalidPolicy
  | rejected
  | replay
  | capacityExceeded
  | reservationMismatch
deriving DecidableEq

structure CapabilityAdmissionPolicy where
  maximumRequestLifetimeSeconds : Nat
  maximumFutureSkewSeconds : Nat
  maximumPendingRequests : Nat
  maximumRequestLifetimeSeconds_ne_zero : maximumRequestLifetimeSeconds ≠ 0
  maximumPendingRequests_ne_zero : maximumPendingRequests ≠ 0

def CapabilityAdmissionPolicy.new (maximumRequestLifetimeSeconds maximumFutureSkewSeconds
    maximumPendingRequests : Nat) : Except CapabilityAdmissionError CapabilityAdmissionPolicy :=
  if h : maximumRequestLifetimeSeconds = 0 ∨ maximumPendingRequests = 0 then .error .invalidPolicy
  else .ok ⟨maximumRequestLifetimeSeconds, maximumFutureSkewSeconds, maximumPendingRequests,
    fun hzero => h (.inl hzero), fun hzero => h (.inr hzero)⟩

/-! ## One-shot values -/

/-- A request that HPKE opened, with the signature of the invitation it was opened for. -/
structure OpenedCapabilityJoinRequest where
  request : CapabilityJoinRequest
  invitationSignature : BitVec 512
deriving DecidableEq

structure ValidatedKeyPackage where
  keyPackageReference : BitVec 256
  credentialIdentity : BitVec 256
  leafSignatureKey : BitVec 256
deriving DecidableEq

/-- KeyPackage validation, at a time. -/
abbrev KeyPackageValidator := List UInt8 → Nat → Option ValidatedKeyPackage

structure ReplayGeneration where
  invitationId : BitVec 128
  joinChallenge : BitVec 256
  invitationKeyId : BitVec 128
  intendedVerifier : BitVec 256
deriving DecidableEq

structure ReplayReservation where
  generation : ReplayGeneration
  joinRequestId : BitVec 128
  requestNonce : BitVec 256
  reservationId : Nat
deriving DecidableEq

structure PendingReplay where
  generation : ReplayGeneration
  joinRequestId : BitVec 128
  requestNonce : BitVec 256
  expiresAtUnixSeconds : Nat
  reservationId : Nat
deriving DecidableEq

/-- The test of `reservation_position`. -/
def PendingReplay.IsOf (entry : PendingReplay) (reservation : ReplayReservation) : Prop :=
  entry.reservationId = reservation.reservationId ∧ entry.generation = reservation.generation ∧
    entry.joinRequestId = reservation.joinRequestId ∧
    entry.requestNonce = reservation.requestNonce
deriving Decidable

def PendingReplay.reservation (entry : PendingReplay) : ReplayReservation where
  generation := entry.generation
  joinRequestId := entry.joinRequestId
  requestNonce := entry.requestNonce
  reservationId := entry.reservationId

structure VerifiedCapabilityAdmission where
  opened : OpenedCapabilityJoinRequest
  validated : ValidatedKeyPackage
  reservation : ReplayReservation
deriving DecidableEq

inductive AdmissionMethod where
  | secretCapability
deriving DecidableEq

inductive ApprovalDecision where
  | approve
  | reject
deriving DecidableEq

inductive AdmissionContractError where
  | invalidContext
deriving DecidableEq

structure ApprovalContext where
  method : AdmissionMethod
  invitationId : BitVec 128
  joinRequestId : BitVec 128
  keyPackageReference : BitVec 256
  expiresAtUnixSeconds : Nat
deriving DecidableEq

def ApprovalContext.new (method : AdmissionMethod) (invitationId joinRequestId : BitVec 128)
    (keyPackageReference : BitVec 256) (expiresAtUnixSeconds : Nat) :
    Except AdmissionContractError ApprovalContext :=
  if invitationId = 0 ∨ joinRequestId = 0 ∨ keyPackageReference = 0 ∨ expiresAtUnixSeconds = 0 then
    .error .invalidContext
  else .ok ⟨method, invitationId, joinRequestId, keyPackageReference, expiresAtUnixSeconds⟩

structure PendingCapabilityApproval where
  verified : VerifiedCapabilityAdmission
  invitationReservation : InvitationReservation
  approvalContext : ApprovalContext
deriving DecidableEq

structure ApprovedCapabilityAdmission where
  verified : VerifiedCapabilityAdmission
  invitationReservation : InvitationReservation
deriving DecidableEq

inductive CapabilityApprovalOutcome where
  | approved (admission : ApprovedCapabilityAdmission)
  | rejected

/-- A prepared MLS addition; the addition itself is the group's. -/
structure PreparedApprovedCapabilityAddition where
  replayReservation : ReplayReservation
  invitationReservation : InvitationReservation
  nowUnixSeconds : Nat
  requestExpiresAtUnixSeconds : Nat
  responseEndpoint : LocalWelcomeDepositEndpoint
deriving DecidableEq

structure CommittedCapabilityJoin where
  responseEndpoint : LocalWelcomeDepositEndpoint

structure AppliedCapabilityJoinAwaitingDurability where
  responseEndpoint : LocalWelcomeDepositEndpoint
  replayReservation : ReplayReservation
  invitationReservation : InvitationReservation
  appliedAtUnixSeconds : Nat
deriving DecidableEq

structure DurableCapabilityShadowSettlement where
  replayReservation : ReplayReservation
  invitationReservation : InvitationReservation
  appliedAtUnixSeconds : Nat
deriving DecidableEq

/-! ## The verifier -/

structure CapabilityAdmissionVerifier where
  policy : CapabilityAdmissionPolicy
  pending : List PendingReplay
  nextReservationId : Nat

namespace CapabilityAdmissionVerifier

def new (policy : CapabilityAdmissionPolicy) : CapabilityAdmissionVerifier := ⟨policy, [], 1⟩

variable (self : CapabilityAdmissionVerifier)

def live (now : Nat) : List PendingReplay :=
  self.pending.filter fun entry => decide (now < entry.expiresAtUnixSeconds)

variable (request : CapabilityJoinRequest)

def generationOf : ReplayGeneration where
  invitationId := request.invitation.invitationId
  joinChallenge := request.invitation.joinChallenge
  invitationKeyId := request.invitation.invitationKeyId
  intendedVerifier := request.invitation.intendedVerifier

/-- The entry of a request under a reservation identifier. -/
def entryOf (reservationId : Nat) : PendingReplay where
  generation := generationOf request
  joinRequestId := request.request.joinRequestId
  requestNonce := request.request.requestNonce
  expiresAtUnixSeconds := request.request.expiresAtUnixSeconds
  reservationId := reservationId

def timely (now : Nat) : Prop :=
  let latestIssue := min (now + self.policy.maximumFutureSkewSeconds) u64Max
  request.request.issuedAtUnixSeconds ≤ request.request.expiresAtUnixSeconds ∧
    ¬(latestIssue < request.request.issuedAtUnixSeconds ∨
      request.request.expiresAtUnixSeconds ≤ now ∨
      request.responseEndpoint.expiresAtUnixSeconds ≤ now ∨
      self.policy.maximumRequestLifetimeSeconds <
        request.request.expiresAtUnixSeconds - request.request.issuedAtUnixSeconds)
deriving Decidable

/-- The request names the KeyPackage it carries. -/
def binds (validated : ValidatedKeyPackage) : Prop :=
  request.mls.keyPackageReference = validated.keyPackageReference ∧
    request.mls.credentialIdentity = validated.credentialIdentity ∧
    request.mls.leafSignatureKey = validated.leafSignatureKey
deriving Decidable

/-- A live entry of the same generation has the request's identifier or nonce. -/
def replays (now : Nat) : Prop :=
  ∃ entry ∈ self.pending, now < entry.expiresAtUnixSeconds ∧
    entry.generation = generationOf request ∧
    (entry.joinRequestId = request.request.joinRequestId ∨
      entry.requestNonce = request.request.requestNonce)
deriving Decidable

def verifyAndReserve (validate : KeyPackageValidator) (self : CapabilityAdmissionVerifier)
    (opened : OpenedCapabilityJoinRequest) (now : Nat) :
    Except CapabilityAdmissionError VerifiedCapabilityAdmission × CapabilityAdmissionVerifier :=
  if ¬self.timely opened.request now then (.error .rejected, self)
  else
    match validate opened.request.mls.keyPackage now with
    | none => (.error .rejected, self)
    | some validated =>
        if ¬binds opened.request validated then (.error .rejected, self)
        else if self.replays opened.request now then (.error .replay, self)
        else if self.policy.maximumPendingRequests ≤ (self.live now).length then
          (.error .capacityExceeded, self)
        else if u64Max ≤ self.nextReservationId then (.error .capacityExceeded, self)
        else
          let entry := entryOf opened.request self.nextReservationId
          (.ok ⟨opened, validated, entry.reservation⟩,
            ⟨self.policy, self.live now ++ [entry], self.nextReservationId + 1⟩)

variable (reservation : ReplayReservation)

def reservationPosition : Option Nat :=
  self.pending.findIdx? fun entry => decide (entry.IsOf reservation)

def removeReservation :
    Except CapabilityAdmissionError Unit × CapabilityAdmissionVerifier :=
  match self.reservationPosition reservation with
  | none => (.error .reservationMismatch, self)
  | some position => (.ok (), { self with pending := self.pending.eraseIdx position })

def release (verified : VerifiedCapabilityAdmission) :
    Except CapabilityAdmissionError Unit × CapabilityAdmissionVerifier :=
  self.removeReservation verified.reservation

/-- `self.remove_reservation(..)?; return Err(Rejected)`. -/
def refuse {α : Type} :
    Except CapabilityAdmissionError α × CapabilityAdmissionVerifier :=
  match self.removeReservation reservation with
  | (.error e, self) => (.error e, self)
  | (.ok (), self) => (.error .rejected, self)

/-! ## Approval -/

/-- The request and the HPKE opening are for this invitation. -/
def answers (opened : OpenedCapabilityJoinRequest) (signed : SignedCapabilityInvitationV2) : Prop :=
  opened.request.invitation.invitationId = signed.claims.base.invitationId ∧
    opened.request.invitation.joinChallenge = signed.claims.base.joinChallenge ∧
    opened.request.invitation.invitationKeyId = signed.claims.invitationKeyId ∧
    opened.request.invitation.intendedVerifier = signed.inviterVerifyingKey ∧
    opened.invitationSignature = signed.signature
deriving Decidable

variable (registry : InvitationRegistry)

def reserveV2ForApproval (invitation : SignedCapabilityInvitationV2)
    (verified : VerifiedCapabilityAdmission) (now : Nat) :
    Except CapabilityAdmissionError PendingCapabilityApproval × CapabilityAdmissionVerifier ×
      InvitationRegistry :=
  let request := verified.opened.request
  if self.reservationPosition verified.reservation = none then
    (.error .reservationMismatch, self, registry)
  else if ¬answers verified.opened invitation then
    let answer := self.refuse verified.reservation
    (answer.1, answer.2, registry)
  else
    match ApprovalContext.new .secretCapability request.invitation.invitationId
      request.request.joinRequestId verified.validated.keyPackageReference
      request.request.expiresAtUnixSeconds with
    | .error _ =>
        let answer := self.refuse verified.reservation
        (answer.1, answer.2, registry)
    | .ok approvalContext =>
        match registry.reserveV2AfterAdmission invitation request.request.joinRequestId now with
        | (.error _, registry) =>
            let answer := self.refuse verified.reservation
            (answer.1, answer.2, registry)
        | (.ok reservation, registry) =>
            (.ok ⟨verified, reservation, approvalContext⟩, self, registry)

/-- Both releases, and their joint answer. -/
def releaseBoth (replayReservation : ReplayReservation)
    (invitationReservation : InvitationReservation) (now : Nat) :
    Except CapabilityAdmissionError Unit × CapabilityAdmissionVerifier × InvitationRegistry :=
  let invitationResult := registry.release invitationReservation now
  let replayResult := self.removeReservation replayReservation
  let answer : Except CapabilityAdmissionError Unit :=
    match invitationResult.1, replayResult.1 with
    | .ok (), .ok () => .ok ()
    | _, _ => .error .reservationMismatch
  (answer, replayResult.2, invitationResult.2)

def releasePending (pending : PendingCapabilityApproval) :=
  self.releaseBoth registry pending.verified.reservation pending.invitationReservation

/-- The request, its endpoint and its reservation are still valid. -/
def current (verified : VerifiedCapabilityAdmission) (reservation : InvitationReservation)
    (now : Nat) : Prop :=
  now < verified.opened.request.request.expiresAtUnixSeconds ∧
    now < verified.opened.request.responseEndpoint.expiresAtUnixSeconds ∧
    registry.validateReservation reservation now = .ok ()
deriving Decidable

def decideV2 (pending : PendingCapabilityApproval) (decision : ApprovalDecision) (now : Nat) :
    Except CapabilityAdmissionError CapabilityApprovalOutcome × CapabilityAdmissionVerifier ×
      InvitationRegistry :=
  if self.reservationPosition pending.verified.reservation = none then
    (.error .reservationMismatch, self, (registry.release pending.invitationReservation now).2)
  else
    match decision with
    | .reject =>
        let answer := self.releasePending registry pending now
        (answer.1.map fun _ => .rejected, answer.2)
    | .approve =>
        if ¬current registry pending.verified pending.invitationReservation now then
          (.error .rejected, (self.releasePending registry pending now).2)
        else
          (.ok (.approved ⟨pending.verified, pending.invitationReservation⟩), self, registry)

/-! ## Preparation -/

/-- `prepare_approved_add`; `prepared` says whether the group prepares the addition. -/
def prepareApprovedAdd (approved : ApprovedCapabilityAdmission) (prepared : Bool) (now : Nat) :
    Except CapabilityAdmissionError PreparedApprovedCapabilityAddition ×
      CapabilityAdmissionVerifier × InvitationRegistry :=
  let verified := approved.verified
  if self.reservationPosition verified.reservation = none then
    (.error .reservationMismatch, self, (registry.release approved.invitationReservation now).2)
  else if ¬current registry verified approved.invitationReservation now then
    (.error .rejected, (self.removeReservation verified.reservation).2,
      (registry.release approved.invitationReservation now).2)
  else if prepared then
    (.ok ⟨verified.reservation, approved.invitationReservation, now,
      verified.opened.request.request.expiresAtUnixSeconds,
      verified.opened.request.responseEndpoint⟩, self, registry)
  else
    let answer := self.refuse verified.reservation
    (answer.1, answer.2, (registry.release approved.invitationReservation now).2)

variable (prepared : PreparedApprovedCapabilityAddition)

/-- `Drop` of a prepared addition, at the time it recorded. -/
def dropPrepared :
    CapabilityAdmissionVerifier × InvitationRegistry :=
  ((self.removeReservation prepared.replayReservation).2,
    (registry.release prepared.invitationReservation prepared.nowUnixSeconds).2)

def validateBeforeApply (now : Nat) :
    Except CapabilityAdmissionError Unit :=
  if prepared.requestExpiresAtUnixSeconds ≤ now ∨
      prepared.responseEndpoint.expiresAtUnixSeconds ≤ now then .error .rejected
  else
    match registry.validateReservation prepared.invitationReservation now with
    | .error _ => .error .rejected
    | .ok () => .ok ()

/-- `apply`; `applied` says whether the group applies the addition. A value that leaves with
an error is dropped with the time it was applied at. -/
def apply (applied : Bool) (now : Nat) :
    Except CapabilityAdmissionError CommittedCapabilityJoin × CapabilityAdmissionVerifier ×
      InvitationRegistry :=
  match validateBeforeApply registry prepared now with
  | .error e => (.error e, self.dropPrepared registry { prepared with nowUnixSeconds := now })
  | .ok () =>
      if applied then
        match registry.consumeAfterMembership prepared.invitationReservation now with
        | (.error _, registry) =>
            -- The invitation reservation was taken, so the drop releases the replay entry only.
            (.error .reservationMismatch, (self.removeReservation prepared.replayReservation).2,
              registry)
        | (.ok (), registry) => (.ok ⟨prepared.responseEndpoint⟩, self, registry)
      else (.error .rejected, self.dropPrepared registry { prepared with nowUnixSeconds := now })

def applyAwaitingDurability (applied : Bool) (now : Nat) :
    Except CapabilityAdmissionError AppliedCapabilityJoinAwaitingDurability ×
      CapabilityAdmissionVerifier × InvitationRegistry :=
  match validateBeforeApply registry prepared now with
  | .error e => (.error e, self.dropPrepared registry { prepared with nowUnixSeconds := now })
  | .ok () =>
      if applied then
        (.ok ⟨prepared.responseEndpoint, prepared.replayReservation,
          prepared.invitationReservation, now⟩, self, registry)
      else (.error .rejected, self.dropPrepared registry { prepared with nowUnixSeconds := now })

/-! ## Settlement of durable joins -/

/-- `into_durable_owner_parts`, the part that settles the reservations. -/
def intoDurableOwnerParts (join : AppliedCapabilityJoinAwaitingDurability) :
    DurableCapabilityShadowSettlement :=
  ⟨join.replayReservation, join.invitationReservation, join.appliedAtUnixSeconds⟩

/-- `release_proven_uncommitted`, the same of a join and of its settlement. -/
def releaseProvenUncommitted (registry : InvitationRegistry)
    (settlement : DurableCapabilityShadowSettlement) :
    Except CapabilityAdmissionError Unit × CapabilityAdmissionVerifier × InvitationRegistry :=
  self.releaseBoth registry settlement.replayReservation settlement.invitationReservation
    settlement.appliedAtUnixSeconds

def finalizeCommitted (registry : InvitationRegistry)
    (settlement : DurableCapabilityShadowSettlement) :
    Except CapabilityAdmissionError Unit × InvitationRegistry :=
  let answer := registry.consumeAfterMembership settlement.invitationReservation
    settlement.appliedAtUnixSeconds
  match answer.1 with
  | .ok () => (.ok (), answer.2)
  | .error _ => (.error .reservationMismatch, answer.2)

end CapabilityAdmissionVerifier

end SessionChat.Admission
