import SessionChat.Collections.OrderedMap
import SessionChat.Protocol.Invitation

/-!
# The invitation registry (`crates/session-core/src/lib.rs`, ADR 0008)

The inviter's own record of the invitations it issued, of either schema. Each record is
available, reserved by one join request, or consumed; a reservation is an opaque token that
names the record by identifier, schema and signature. Records leave only when a later
issue finds them expired.
-/

set_option autoImplicit false

namespace SessionChat.Invitation

open Collections Protocol

/-- Errors of validation and of lifecycle transitions. -/
inductive InvitationLifecycleError where
  | protocol (error : WireError)
  | invalidMaximumLifetime
  | invalidCapacity
  | issuedTooFarInFuture (issuedAt latestAllowed : Nat)
  | expired (expiresAt now : Nat)
  | lifetimeExceedsPolicy (actualSeconds maximumSeconds : Nat)
  | duplicateInvitationId
  | capacityExceeded (maximum : Nat)
  | unknownInvitation
  | descriptorMismatch
  | zeroJoinRequestId
  | alreadyReserved
  | alreadyConsumed
  | reservationMismatch
  | notReserved
deriving DecidableEq

/-- Time and memory bounds; `new` is the only way to build one. -/
structure InvitationPolicy where
  maximumLifetimeSeconds : Nat
  maximumFutureSkewSeconds : Nat
  maximumLiveInvitations : Nat
  maximumLifetimeSeconds_ne_zero : maximumLifetimeSeconds ≠ 0
  maximumLiveInvitations_ne_zero : maximumLiveInvitations ≠ 0

def InvitationPolicy.new (maximumLifetimeSeconds maximumFutureSkewSeconds
    maximumLiveInvitations : Nat) : Except InvitationLifecycleError InvitationPolicy :=
  if hlifetime : maximumLifetimeSeconds = 0 then .error .invalidMaximumLifetime
  else if hlive : maximumLiveInvitations = 0 then .error .invalidCapacity
  else .ok ⟨maximumLifetimeSeconds, maximumFutureSkewSeconds, maximumLiveInvitations, hlifetime,
    hlive⟩

/-- The public view of a record's lifecycle. -/
inductive InvitationLifecycle where
  | available
  | reserved
  | consumed
deriving DecidableEq

inductive StoredInvitationLifecycle where
  | available
  | reserved (joinRequestId : BitVec 128)
  | consumed
deriving DecidableEq

def StoredInvitationLifecycle.view : StoredInvitationLifecycle → InvitationLifecycle
  | .available => .available
  | .reserved _ => .reserved
  | .consumed => .consumed

inductive InvitationSchema where
  | v1
  | v2
deriving DecidableEq

/-- What the registry reads of a signed invitation, of either schema. -/
structure Descriptor where
  schema : InvitationSchema
  invitationId : BitVec 128
  issuedAtUnixSeconds : Nat
  expiresAtUnixSeconds : Nat
  inviterVerifyingKey : BitVec 256
  signature : BitVec 512
deriving DecidableEq

def descriptor (i : SignedCapabilityInvitation) : Descriptor where
  schema := .v1
  invitationId := i.claims.invitationId
  issuedAtUnixSeconds := i.claims.issuedAt.toNat
  expiresAtUnixSeconds := i.claims.expiresAt.toNat
  inviterVerifyingKey := i.inviterVerifyingKey
  signature := i.signature

def descriptorV2 (i : SignedCapabilityInvitationV2) : Descriptor where
  schema := .v2
  invitationId := i.claims.base.invitationId
  issuedAtUnixSeconds := i.claims.base.issuedAt.toNat
  expiresAtUnixSeconds := i.claims.base.expiresAt.toNat
  inviterVerifyingKey := i.inviterVerifyingKey
  signature := i.signature

/-- A provider-generated invitation with the private key of its protected requests. -/
structure GeneratedCapabilityInvitationV2 where
  invitation : SignedCapabilityInvitationV2
  privateKey : BitVec 256

/-- Authority to complete or release one reservation. -/
structure InvitationReservation where
  invitationId : BitVec 128
  joinRequestId : BitVec 128
  recordSignature : BitVec 512
  schema : InvitationSchema
deriving DecidableEq

structure InvitationRecord where
  schema : InvitationSchema
  expiresAtUnixSeconds : Nat
  inviterVerifyingKey : BitVec 256
  signature : BitVec 512
  lifecycle : StoredInvitationLifecycle

namespace InvitationRecord

def ofDescriptor (d : Descriptor) : InvitationRecord where
  schema := d.schema
  expiresAtUnixSeconds := d.expiresAtUnixSeconds
  inviterVerifyingKey := d.inviterVerifyingKey
  signature := d.signature
  lifecycle := .available

/-- `matches` and `matches_v2`, which differ in the schema they ask for. -/
def Matches (r : InvitationRecord) (d : Descriptor) : Prop :=
  r.schema = d.schema ∧ r.expiresAtUnixSeconds = d.expiresAtUnixSeconds ∧
    r.inviterVerifyingKey = d.inviterVerifyingKey ∧ r.signature = d.signature
deriving Decidable

def withLifecycle (lifecycle : StoredInvitationLifecycle) (r : InvitationRecord) :
    InvitationRecord :=
  { r with lifecycle := lifecycle }

theorem ofDescriptor_matches (d : Descriptor) : (ofDescriptor d).Matches d :=
  ⟨rfl, rfl, rfl, rfl⟩

end InvitationRecord

def InvitationPolicy.validateTimeValues (policy : InvitationPolicy)
    (issuedAt expiresAt now : Nat) : Except InvitationLifecycleError Unit :=
  let latestAllowed := min (now + policy.maximumFutureSkewSeconds) u64Max
  if latestAllowed < issuedAt then .error (.issuedTooFarInFuture issuedAt latestAllowed)
  else if expiresAt ≤ now then .error (.expired expiresAt now)
  else if policy.maximumLifetimeSeconds < expiresAt - issuedAt then
    .error (.lifetimeExceedsPolicy (expiresAt - issuedAt) policy.maximumLifetimeSeconds)
  else .ok ()

theorem InvitationPolicy.lt_of_validateTimeValues {policy : InvitationPolicy}
    {issuedAt expiresAt now : Nat} (h : policy.validateTimeValues issuedAt expiresAt now = .ok ()) :
    now < expiresAt := by
  unfold validateTimeValues at h
  by_contra hexpired
  simp only [Nat.not_lt.mp hexpired] at h
  split at h <;> cases h

structure InvitationRegistry where
  policy : InvitationPolicy
  records : OrderedMap (BitVec 128) InvitationRecord

namespace InvitationRegistry

def new (policy : InvitationPolicy) : InvitationRegistry := ⟨policy, .empty⟩

variable (self : InvitationRegistry)

def live (now : Nat) : OrderedMap (BitVec 128) InvitationRecord :=
  self.records.retain fun _ r => decide (now < r.expiresAtUnixSeconds)

/-- The expired records make way for the record of a new invitation. -/
def recording (d : Descriptor) (now : Nat) : InvitationRegistry :=
  ⟨self.policy, (self.live now).insert d.invitationId (.ofDescriptor d)⟩

def setLifecycle (invitationId : BitVec 128) (lifecycle : StoredInvitationLifecycle) :
    InvitationRegistry :=
  ⟨self.policy, self.records.modify invitationId (.withLifecycle lifecycle)⟩

/-! ## Issue -/

def insertRecord (d : Descriptor) (now : Nat) :
    Except InvitationLifecycleError Unit × InvitationRegistry :=
  if ∃ r ∈ self.records.get? d.invitationId, now < r.expiresAtUnixSeconds then
    (.error .duplicateInvitationId, self)
  else if self.policy.maximumLiveInvitations ≤ (self.live now).size then
    (.error (.capacityExceeded self.policy.maximumLiveInvitations), self)
  else (.ok (), self.recording d now)

/-- What both issue methods do with the invitation they were given. -/
def enroll (d : Descriptor) (now : Nat) :
    Except InvitationLifecycleError Unit × InvitationRegistry :=
  match self.policy.validateTimeValues d.issuedAtUnixSeconds d.expiresAtUnixSeconds now with
  | .error e => (.error e, self)
  | .ok () => self.insertRecord d now

def issue (E : Ed25519) (self : InvitationRegistry) (claims : CapabilityInvitationClaims)
    (key : E.SigningKey) (now : Nat) :
    Except InvitationLifecycleError SignedCapabilityInvitation × InvitationRegistry :=
  let invitation := SignedCapabilityInvitation.sign E claims key
  let answer := self.enroll (descriptor invitation) now
  (answer.1.map fun _ => invitation, answer.2)

def issueV2 (generated : GeneratedCapabilityInvitationV2) (now : Nat) :
    Except InvitationLifecycleError GeneratedCapabilityInvitationV2 × InvitationRegistry :=
  let answer := self.enroll (descriptorV2 generated.invitation) now
  (answer.1.map fun _ => generated, answer.2)

/-! ## Validation of descriptors -/

def validateDescriptor (E : Ed25519) (self : InvitationRegistry) (encoded : List UInt8)
    (now : Nat) : Except InvitationLifecycleError SignedCapabilityInvitation :=
  match SignedCapabilityInvitation.decodeAndVerify E encoded with
  | .error e => .error (.protocol e)
  | .ok invitation =>
      (self.policy.validateTimeValues invitation.claims.issuedAt.toNat
        invitation.claims.expiresAt.toNat now).map fun _ => invitation

def validateDescriptorV2 (E : Ed25519) (self : InvitationRegistry) (encoded : List UInt8)
    (now : Nat) : Except InvitationLifecycleError SignedCapabilityInvitationV2 :=
  match SignedCapabilityInvitationV2.decodeAndVerify E encoded with
  | .error e => .error (.protocol e)
  | .ok invitation =>
      (self.policy.validateTimeValues invitation.claims.base.issuedAt.toNat
        invitation.claims.base.expiresAt.toNat now).map fun _ => invitation

/-! ## Reservation -/

/-- The two reservation methods, which differ in the schema of the descriptor. -/
def reserveDescriptor (d : Descriptor) (joinRequestId : BitVec 128) (now : Nat) :
    Except InvitationLifecycleError InvitationReservation × InvitationRegistry :=
  if joinRequestId = 0 then (.error .zeroJoinRequestId, self)
  else
    match self.policy.validateTimeValues d.issuedAtUnixSeconds d.expiresAtUnixSeconds now with
    | .error e => (.error e, self)
    | .ok () =>
        match self.records.get? d.invitationId with
        | none => (.error .unknownInvitation, self)
        | some r =>
            if ¬r.Matches d then (.error .descriptorMismatch, self)
            else
              match r.lifecycle with
              | .available =>
                  (.ok ⟨d.invitationId, joinRequestId, r.signature, d.schema⟩,
                    self.setLifecycle d.invitationId (.reserved joinRequestId))
              | .reserved _ => (.error .alreadyReserved, self)
              | .consumed => (.error .alreadyConsumed, self)

def reserveAfterAdmission (invitation : SignedCapabilityInvitation) :=
  self.reserveDescriptor (descriptor invitation)

def reserveV2AfterAdmission (invitation : SignedCapabilityInvitationV2) :=
  self.reserveDescriptor (descriptorV2 invitation)

/-- `validate_reservation`: the token owns the live record it names. -/
def validateReservation (token : InvitationReservation) (now : Nat) :
    Except InvitationLifecycleError Unit :=
  match self.records.get? token.invitationId with
  | none => .error .unknownInvitation
  | some r =>
      if r.expiresAtUnixSeconds ≤ now then .error (.expired r.expiresAtUnixSeconds now)
      else if r.schema ≠ token.schema ∨ r.signature ≠ token.recordSignature then
        .error .reservationMismatch
      else
        match r.lifecycle with
        | .reserved joinRequestId =>
            if joinRequestId = token.joinRequestId then .ok () else .error .reservationMismatch
        | .available => .error .notReserved
        | .consumed => .error .alreadyConsumed

/-- The two settlements, which make the same checks as `validate_reservation` and differ in
the lifecycle they leave. -/
def settle (next : StoredInvitationLifecycle) (self : InvitationRegistry)
    (token : InvitationReservation) (now : Nat) :
    Except InvitationLifecycleError Unit × InvitationRegistry :=
  match self.validateReservation token now with
  | .error e => (.error e, self)
  | .ok () => (.ok (), self.setLifecycle token.invitationId next)

def release := settle .available

def consumeAfterMembership := settle .consumed

def lifecycle (self : InvitationRegistry) (invitationId : BitVec 128) :
    Option InvitationLifecycle :=
  (self.records.get? invitationId).map fun r => r.lifecycle.view

/-! ## What each method does -/

variable {self : InvitationRegistry} {d : Descriptor} {token : InvitationReservation}
  {joinRequestId : BitVec 128} {now : Nat}

/-- An issue is refused, or records an unexpired invitation where none was live. -/
theorem enroll_cases (d : Descriptor) (now : Nat) : (∃ e, self.enroll d now = (.error e, self)) ∨
      (now < d.expiresAtUnixSeconds ∧
        (∀ r, self.records.get? d.invitationId = some r → r.expiresAtUnixSeconds ≤ now) ∧
        (self.live now).size < self.policy.maximumLiveInvitations ∧
        self.enroll d now = (.ok (), self.recording d now)) := by
  unfold enroll
  split
  · next e _ => exact .inl ⟨e, rfl⟩
  · next htime =>
      unfold insertRecord
      split
      · exact .inl ⟨_, rfl⟩
      · next hfree =>
          split
          · exact .inl ⟨_, rfl⟩
          · next hroom =>
              refine .inr ⟨InvitationPolicy.lt_of_validateTimeValues htime, fun r hr => ?_,
                Nat.not_le.mp hroom, rfl⟩
              exact Nat.not_lt.mp fun hlive => hfree ⟨r, hr, hlive⟩

/-- A reservation is refused, or takes the available record of an unexpired descriptor. -/
theorem reserveDescriptor_cases (d : Descriptor) (joinRequestId : BitVec 128) (now : Nat) :
    (∃ e, self.reserveDescriptor d joinRequestId now = (.error e, self)) ∨
      ∃ r, now < d.expiresAtUnixSeconds ∧ self.records.get? d.invitationId = some r ∧
        r.Matches d ∧ r.lifecycle = .available ∧ self.reserveDescriptor d joinRequestId now =
          (.ok ⟨d.invitationId, joinRequestId, d.signature, d.schema⟩,
            self.setLifecycle d.invitationId (.reserved joinRequestId)) := by
  unfold reserveDescriptor
  split
  · exact .inl ⟨_, rfl⟩
  · split
    · next e _ => exact .inl ⟨e, rfl⟩
    · next htime =>
        split
        · exact .inl ⟨_, rfl⟩
        · next r hr =>
            split
            · exact .inl ⟨_, rfl⟩
            · next hmatches =>
                rw [not_not] at hmatches
                split
                · next havailable =>
                    refine .inr ⟨r, InvitationPolicy.lt_of_validateTimeValues htime, hr, hmatches,
                      havailable, ?_⟩
                    rw [hmatches.2.2.2]
                · exact .inl ⟨_, rfl⟩
                · exact .inl ⟨_, rfl⟩

/-- A token owns the live record with its schema, signature and join request. -/
theorem validateReservation_eq_ok : self.validateReservation token now = .ok () ↔
      ∃ r, self.records.get? token.invitationId = some r ∧ now < r.expiresAtUnixSeconds ∧
        r.schema = token.schema ∧ r.signature = token.recordSignature ∧
        r.lifecycle = .reserved token.joinRequestId := by
  unfold validateReservation
  split
  · next hnone => simp [hnone]
  · next r hr =>
      simp only [hr, Option.some.injEq, exists_eq_left']
      split
      · next hexpired => simp [Nat.not_lt.mpr hexpired]
      · next hlive =>
          split
          · next hother => simp only [reduceCtorEq]; tauto
          · next hsame =>
              simp only [not_or, not_not] at hsame
              simp only [Nat.not_le.mp hlive, hsame]
              split
              · next j hreserved => simp [hreserved]
              · next havailable => simp [havailable]
              · next hconsumed => simp [hconsumed]

/-- A settlement is refused, or moves the record that its token owns. -/
theorem settle_cases (next : StoredInvitationLifecycle) (self : InvitationRegistry)
    (token : InvitationReservation) (now : Nat) :
    ((∃ e, self.settle next token now = (.error e, self)) ∧
        self.validateReservation token now ≠ .ok ()) ∨
      (self.validateReservation token now = .ok () ∧
        self.settle next token now = (.ok (), self.setLifecycle token.invitationId next)) := by
  unfold settle
  cases h : self.validateReservation token now with
  | error e => exact .inl ⟨⟨e, rfl⟩, (by simp)⟩
  | ok u => exact .inr ⟨rfl, rfl⟩

/-! ## A refused call leaves the registry as it was -/

variable {e : InvitationLifecycleError}

theorem enroll_refused (h : (self.enroll d now).1 = .error e) : (self.enroll d now).2 = self := by
  obtain ⟨e, hcase⟩ | ⟨-, -, -, hcase⟩ := self.enroll_cases d now
  · rw [hcase]
  · rw [hcase] at h
    cases h

theorem reserveDescriptor_refused (h : (self.reserveDescriptor d joinRequestId now).1 = .error e) :
    (self.reserveDescriptor d joinRequestId now).2 = self := by
  obtain ⟨e, hcase⟩ | ⟨r, -, -, -, -, hcase⟩ := self.reserveDescriptor_cases d joinRequestId now
  · rw [hcase]
  · rw [hcase] at h
    cases h

theorem settle_refused {next : StoredInvitationLifecycle}
    (h : (self.settle next token now).1 = .error e) : (self.settle next token now).2 = self := by
  obtain ⟨⟨e, hcase⟩, -⟩ | ⟨-, hcase⟩ := self.settle_cases next token now
  · rw [hcase]
  · rw [hcase] at h
    cases h

end InvitationRegistry

end SessionChat.Invitation
