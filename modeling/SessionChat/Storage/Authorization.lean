import Mathlib.Data.List.Sort
import SessionChat.Storage.Validation

/-!
# Invitation and admission authorization lifecycle

Source: `crates/storage-sqlcipher/src/authorization.rs`, ADR 0023.

Each transaction body is one `BEGIN IMMEDIATE` transaction of the source: `raise`, `refuse`
and `require` are its early error returns, after which the transaction is rolled back, and a
body that ends is committed. A body that the source commits before it returns an error ends
with that error as its reply. Nothing is assumed about the join protector.
-/

set_option autoImplicit false

namespace SessionChat.Storage

open Relational

/-! ## Invitations, requests and handles -/

/-- The fields of a signed invitation the store reads, and its canonical bytes. -/
structure SignedCapabilityInvitationV2 where
  invitationId : Id16
  signature : Generation
  joinChallenge : Bytes32
  inviterVerifyingKey : Bytes32
  issuedAtUnixSeconds : Nat
  expiresAtUnixSeconds : Nat
  canonical : Bytes
  /-- `CapabilityInvitationClaims::new` rejects the zero identifier. -/
  invitationId_ne_zero : invitationId ≠ 0
  /-- The zero string encodes a point of small order, so it is no Ed25519 signature. -/
  signature_ne_zero : signature ≠ 0
  canonical_pos : 1 ≤ canonical.length
  /-- `MAX_SIGNED_INVITATION_BYTES`. -/
  canonical_le : canonical.length ≤ 512

/-- `StoredInvitationHpkePrivateKey`: the constructor rejects the zero key. -/
abbrev InvitationHpkePrivateKey := { key : Bytes32 // key ≠ 0 }

/-- A complete invitation context of the protector. -/
structure GeneratedCapabilityInvitationV2 where
  invitation : SignedCapabilityInvitationV2
  privateKey : InvitationHpkePrivateKey

/-- The injected cryptographic provider, an arbitrary pair of functions. -/
structure InvitationJoinProtector where
  generateCapabilityInvitation : Nat → Nat → Option GeneratedCapabilityInvitationV2
  restoreCapabilityInvitation :
    Bytes → InvitationHpkePrivateKey → Option GeneratedCapabilityInvitationV2

/-- Exact non-authorizing fields of one verified request; `new` checks them. -/
structure AuthorizationShadowInput where
  invitationId : Id16
  invitationGeneration : Generation
  invitationChallenge : Bytes32
  joinRequestId : Id16
  requestNonce : Bytes32
  intendedVerifier : Bytes32
  keyPackageReference : Bytes32
  credentialIdentity : Bytes32
  leafSignatureKey : Bytes32
  requestFingerprint : Bytes32
  requestIssuedAt : Nat
  requestExpiresAt : Nat
  invitationExpiresAt : Nat
  nonzero : invitationId ≠ 0 ∧ invitationGeneration ≠ 0 ∧ invitationChallenge ≠ 0 ∧
    joinRequestId ≠ 0 ∧ requestNonce ≠ 0 ∧ intendedVerifier ≠ 0 ∧ keyPackageReference ≠ 0 ∧
    credentialIdentity ≠ 0 ∧ leafSignatureKey ≠ 0 ∧ requestFingerprint ≠ 0
  times : requestIssuedAt ≠ 0 ∧ requestIssuedAt < requestExpiresAt ∧
    requestExpiresAt ≤ invitationExpiresAt ∧ invitationExpiresAt ≤ i64Max

/-- Identity of one open scope (the `Arc` every open allocates). -/
abbrev ScopeId := Nat

/-- Open-scope authority for one exact attempt. -/
structure AuthorizationHandle where
  openScope : ScopeId
  storeId : Id16
  attemptId : Id16
  invitationId : Id16
  invitationGeneration : Generation

/-- Authority over one pending attempt. -/
structure PendingAuthorization where
  handle : AuthorizationHandle

/-- Authority over one approved attempt. -/
structure ApprovedAuthorization where
  handle : AuthorizationHandle

/-- Authority to run the membership transaction of one attempt. -/
structure MembershipAuthorization where
  openScope : ScopeId
  storeId : Id16
  attemptId : Id16
  transactionId : Id16
deriving DecidableEq

/-! ## Shared statements -/

/-- `random_nonzero_identifier`: the first nonzero one of four draws. -/
def randomNonzeroIdentifier (draws : Fin 4 → Id16) : Option Id16 :=
  [draws 0, draws 1, draws 2, draws 3].find? fun d => decide (d ≠ 0)

theorem randomNonzeroIdentifier_ne_zero {draws : Fin 4 → Id16} {d : Id16}
    (h : randomNonzeroIdentifier draws = some d) : d ≠ 0 := by
  simpa using List.find?_some h

def storeIdOn : StoreTx Id16 := do
  let rows ← select (·.metadata)
  let row ← require rows.head? .rejected
  refuse (row.storeId = 0) .rejected
  return row.storeId

def storedInvitationPrivateKey (key : Bytes32) : Option InvitationHpkePrivateKey :=
  if h : key ≠ 0 then some ⟨key, h⟩ else none

/-- `SET state = …`. -/
def OpeningRow.withState (s : InvitationOpeningState) (o : OpeningRow) : OpeningRow :=
  { o with state := s }

/-- `SET state = …, hpke_private_key = zeroblob(32)`. -/
def OpeningRow.erased (s : InvitationOpeningState) (o : OpeningRow) : OpeningRow :=
  { o with state := s, hpkePrivateKey := 0 }

/-- `SET state = …`. -/
def AttemptRow.withState (s : AuthorizationState) (a : AttemptRow) : AttemptRow :=
  { a with state := s }

/-- `WHERE invitation_id = ? AND generation = ? AND state = ?`. -/
def OpeningRow.isAt (id : Id16) (generation : Generation) (s : InvitationOpeningState)
    (o : OpeningRow) : Bool :=
  decide (o.invitationId = id ∧ o.generation = generation ∧ o.state = s)

/-- Some retained terminal attempt of the opening has expired with its invitation. -/
def expiredTerminalAttempt (rows : List AttemptRow) (now : Nat) (o : OpeningRow) : Bool :=
  decide (∃ a ∈ rows, o.Owns a ∧ a.invitationExpiresAt ≤ now ∧ a.state.terminal = true)

def compactExpiredAuthorizationState (now : Nat) : StoreTx Unit := do
  let rows ← select (·.attempts)
  let _ ← updateWhere openings
    (fun o => decide (o.state = .reserved ∧ o.expiresAt ≤ now) &&
      expiredTerminalAttempt rows now o)
    (OpeningRow.erased .unusable)
  deleteFrom attempts fun a => decide (a.invitationExpiresAt ≤ now ∧ a.state.terminal = true)
  let _ ← updateWhere openings
    (fun o => decide (o.state = .available ∧ o.expiresAt ≤ now))
    (OpeningRow.erased .unusable)
  deleteFrom openings fun o =>
    decide ((o.state = .unusable ∨ o.state = .consumed) ∧ o.expiresAt ≤ now)

def terminalizeOpeningContext (invitationId : Id16) : StoreTx Unit := do
  let changed ← updateWhere openings
    (fun o => decide (o.invitationId = invitationId ∧ o.state = .available))
    (OpeningRow.erased .unusable)
  refuse (changed ≠ 1) .conflict

def validateAuthorizationHandle (handle : AuthorizationHandle)
    (expected : AuthorizationState) : StoreTx Unit := do
  let storeId ← storeIdOn
  refuse (storeId ≠ handle.storeId) .conflict
  let t ← select id
  refuse (¬∃ a ∈ t.attempts, ∃ o ∈ t.openings, o.Owns a ∧ a.attemptId = handle.attemptId ∧
    a.invitationId = handle.invitationId ∧ a.generation = handle.invitationGeneration ∧
    a.state = expected ∧ o.state = .reserved) .conflict

def authorizationIsExpired (handle : AuthorizationHandle) (now : Nat) : StoreTx Bool := do
  let rows ← select (·.attempts)
  let attempt ← require (rows.find? fun a => decide (a.attemptId = handle.attemptId)) .rejected
  return decide (attempt.requestExpiresAt ≤ now ∨ attempt.invitationExpiresAt ≤ now)

/-- A stored context the protector can restore to the invitation it was issued as. -/
def OpeningRow.usable (protector : InvitationJoinProtector) (now : Nat) (o : OpeningRow) : Bool :=
  decide (now < o.expiresAt) &&
    match (storedInvitationPrivateKey o.hpkePrivateKey).bind
        (protector.restoreCapabilityInvitation o.signedInvitation) with
    | some restored => decide (restored.invitation.invitationId = o.invitationId ∧
        restored.invitation.signature = o.generation ∧
        restored.invitation.expiresAtUnixSeconds = o.expiresAt)
    | none => false

def releaseOpeningContext (protector : InvitationJoinProtector) (invitationId : Id16)
    (generation : Generation) (now : Nat) : StoreTx Unit := do
  let rows ← select (·.openings)
  let opening ← require (rows.find? fun o =>
    decide (o.invitationId = invitationId ∧ o.generation = generation)) .conflict
  refuse (opening.state ≠ .reserved) .conflict
  let changed ← updateWhere openings (OpeningRow.isAt invitationId generation .reserved)
    (if opening.usable protector now then OpeningRow.withState .available
      else OpeningRow.erased .unusable)
  refuse (changed ≠ 1) .conflict

/-- `UPDATE … SET state = next WHERE attempt_id = ? AND state = expected`, one row. -/
def moveAttempt (attemptId : Id16) (expected next : AuthorizationState) : StoreTx Unit := do
  let changed ← updateWhere attempts
    (fun a => decide (a.attemptId = attemptId ∧ a.state = expected))
    (AttemptRow.withState next)
  refuse (changed ≠ 1) .conflict

def abandonExpiredAuthorization (handle : AuthorizationHandle) (expected : AuthorizationState)
    (protector : InvitationJoinProtector) (now : Nat) : StoreTx Unit := do
  moveAttempt handle.attemptId expected .abandoned
  releaseOpeningContext protector handle.invitationId handle.invitationGeneration now

/-! ## Issue and load -/

/-- The transaction of `persist_opening_context`. -/
def persistOpeningContext (policy : AuthorizationPolicy)
    (generated : GeneratedCapabilityInvitationV2) (issuedAt expiresAt now : Nat) :
    StoreTx (Except StoreError Unit) := do
  compactExpiredAuthorizationState now
  let rows ← select (·.openings)
  refuse (policy.maximumLiveInvitations ≤ rows.length) .capacityExceeded
  insertInto openings
    { invitationId := generated.invitation.invitationId
      generation := generated.invitation.signature
      signedInvitation := generated.invitation.canonical
      hpkePrivateKey := generated.privateKey
      issuedAt := issuedAt
      expiresAt := expiresAt
      state := .available }
  return .ok ()

/-- Commits the terminal state and returns `Rejected`. -/
def terminalizeAndReject {α : Type} (invitationId : Id16) : StoreTx (Except StoreError α) := do
  terminalizeOpeningContext invitationId
  return .error .rejected

/-- The transaction of `load_capability_invitation`. -/
def loadCapabilityInvitationTx (protector : InvitationJoinProtector) (invitationId : Id16)
    (now : Nat) : StoreTx (Except StoreError (Option GeneratedCapabilityInvitationV2)) := do
  let rows ← select (·.openings)
  match rows.find? fun o => decide (o.invitationId = invitationId) with
  | none => return .ok none
  | some opening =>
      refuse (opening.state ≠ .available) .rejected
      if opening.expiresAt ≤ now then
        terminalizeAndReject invitationId
      else
        match (storedInvitationPrivateKey opening.hpkePrivateKey).bind
            (protector.restoreCapabilityInvitation opening.signedInvitation) with
        | none => terminalizeAndReject invitationId
        | some restored =>
            if opening.generation = restored.invitation.signature ∧
                restored.invitation.invitationId = invitationId ∧
                opening.issuedAt = restored.invitation.issuedAtUnixSeconds ∧
                opening.expiresAt = restored.invitation.expiresAtUnixSeconds then
              return .ok (some restored)
            else
              terminalizeAndReject invitationId

/-! ## Reserve -/

/-- A retained unexpired request of the generation already used the identifier,
the nonce or the fingerprint. -/
def replayed (rows : List AttemptRow) (input : AuthorizationShadowInput) (now : Nat) : Prop :=
  ∃ a ∈ rows, a.generation = input.invitationGeneration ∧ now < a.invitationExpiresAt ∧
    (a.joinRequestId = input.joinRequestId ∨ a.requestNonce = input.requestNonce ∨
      a.requestFingerprint = input.requestFingerprint)
deriving Decidable

variable (input : AuthorizationShadowInput)

/-- The row `reserve_authorization` inserts. -/
def AuthorizationShadowInput.attemptRow (attemptId : Id16) :
    AttemptRow where
  attemptId := attemptId
  invitationId := input.invitationId
  generation := input.invitationGeneration
  invitationChallenge := input.invitationChallenge
  joinRequestId := input.joinRequestId
  requestNonce := input.requestNonce
  intendedVerifier := input.intendedVerifier
  keyPackageReference := input.keyPackageReference
  credentialIdentity := input.credentialIdentity
  leafSignatureKey := input.leafSignatureKey
  requestFingerprint := input.requestFingerprint
  requestIssuedAt := input.requestIssuedAt
  requestExpiresAt := input.requestExpiresAt
  invitationExpiresAt := input.invitationExpiresAt
  state := .pendingApproval
  transactionId := none

/-- The restored invitation is the one the request names. -/
def AuthorizationShadowInput.Names (invitation : SignedCapabilityInvitationV2) : Prop :=
  invitation.invitationId = input.invitationId ∧
    invitation.signature = input.invitationGeneration ∧
    invitation.joinChallenge = input.invitationChallenge ∧
    invitation.inviterVerifyingKey = input.intendedVerifier ∧
    invitation.expiresAtUnixSeconds = input.invitationExpiresAt
deriving Decidable

/-- The writes of a reservation; the reply is the attempt and the store identity. -/
def insertReservation (draws : Fin 4 → Id16) :
    StoreTx (Except StoreError (Id16 × Id16)) := do
  let attemptId ← require (randomNonzeroIdentifier draws) .rejected
  insertInto attempts (input.attemptRow attemptId)
  let changed ← updateWhere openings
    (OpeningRow.isAt input.invitationId input.invitationGeneration .available)
    (OpeningRow.withState .reserved)
  refuse (changed ≠ 1) .conflict
  let storeId ← storeIdOn
  return .ok (attemptId, storeId)

/-- The transaction of `reserve_authorization`. -/
def reserveAuthorizationTx (policy : AuthorizationPolicy) (protector : InvitationJoinProtector)
    (input : AuthorizationShadowInput) (now : Nat) (draws : Fin 4 → Id16) :
    StoreTx (Except StoreError (Id16 × Id16)) := do
  compactExpiredAuthorizationState now
  let t ← select id
  refuse (replayed t.attempts input now) .replay
  refuse (policy.maximumRetainedAttempts ≤ liveAuthorizationRows t ∨
    policy.maximumRetainedAttempts ≤
      generationAttempts t input.invitationId input.invitationGeneration) .capacityExceeded
  let opening ← require (t.openings.find? fun o =>
    decide (o.invitationId = input.invitationId ∧ o.generation = input.invitationGeneration))
    .conflict
  refuse (opening.expiresAt ≤ now ∨ opening.expiresAt ≠ input.invitationExpiresAt ∨
    opening.state ≠ .available) .conflict
  match (storedInvitationPrivateKey opening.hpkePrivateKey).bind
      (protector.restoreCapabilityInvitation opening.signedInvitation) with
  | none => terminalizeAndReject input.invitationId
  | some restored => do
      refuse (¬input.Names restored.invitation) .conflict
      insertReservation input draws

/-! ## Decisions on a pending or approved attempt -/

/-- `… AND request_expires_at > ? AND invitation_expires_at > ?`. -/
def AttemptRow.unexpired (now : Nat) (a : AttemptRow) : Prop :=
  now < a.requestExpiresAt ∧ now < a.invitationExpiresAt
deriving Decidable

/-- The transaction of `approve_authorization`; the reply says whether the attempt
had expired and was abandoned instead. -/
def approveAuthorizationTx (handle : AuthorizationHandle) (protector : InvitationJoinProtector)
    (now : Nat) : StoreTx (Except StoreError Bool) := do
  validateAuthorizationHandle handle .pendingApproval
  if ← authorizationIsExpired handle now then
    abandonExpiredAuthorization handle .pendingApproval protector now
    return .ok true
  else
    let changed ← updateWhere attempts
      (fun a => decide (a.attemptId = handle.attemptId ∧ a.state = .pendingApproval ∧
        a.unexpired now))
      (AttemptRow.withState .approvedPendingMembership)
    refuse (changed ≠ 1) .conflict
    return .ok false

/-- `SET state = 3, transaction_id = ?`. -/
def AttemptRow.begun (transactionId : Id16) (a : AttemptRow) : AttemptRow :=
  { a with state := .membershipOutcomeUnknown, transactionId := some transactionId }

/-- The transaction of `begin_membership_authorization`, with the same reply. -/
def beginMembershipAuthorizationTx (handle : AuthorizationHandle) (transactionId : Id16)
    (protector : InvitationJoinProtector) (now : Nat) : StoreTx (Except StoreError Bool) := do
  validateAuthorizationHandle handle .approvedPendingMembership
  if ← authorizationIsExpired handle now then
    abandonExpiredAuthorization handle .approvedPendingMembership protector now
    return .ok true
  else
    let changed ← updateWhere attempts
      (fun a => decide (a.attemptId = handle.attemptId ∧ a.state = .approvedPendingMembership ∧
        a.unexpired now))
      (AttemptRow.begun transactionId)
    refuse (changed ≠ 1) .conflict
    return .ok false

/-- The shared transaction of the explicit rejection and the two explicit
abandonments: the attempt leaves `expected` for `next` and frees its invitation. -/
def settleAuthorizationTx (expected next : AuthorizationState) (handle : AuthorizationHandle)
    (protector : InvitationJoinProtector) (now : Nat) : StoreTx (Except StoreError Unit) := do
  validateAuthorizationHandle handle expected
  moveAttempt handle.attemptId expected next
  releaseOpeningContext protector handle.invitationId handle.invitationGeneration now
  return .ok ()

/-- `abandon_pending_authorization`. -/
def abandonPendingAuthorizationTx := settleAuthorizationTx .pendingApproval .abandoned

/-- `reject_authorization`. -/
def rejectAuthorizationTx := settleAuthorizationTx .pendingApproval .rejected

/-- `abandon_approved_authorization`. -/
def abandonApprovedAuthorizationTx := settleAuthorizationTx .approvedPendingMembership .abandoned

/-! ## Recovery -/

/-- `state IN (1, 2)`. -/
def AuthorizationState.preMembership : AuthorizationState → Bool
  | .pendingApproval | .approvedPendingMembership => true
  | _ => false

/-- The loop of `recover_pre_membership_authorizations`. -/
def abandonPreMembership (protector : InvitationJoinProtector) (now : Nat) :
    List AttemptRow → StoreTx Unit
  | [] => return ()
  | a :: rest => do
      let changed ← updateWhere attempts
        (fun b => decide (b.attemptId = a.attemptId) && b.state.preMembership)
        (AttemptRow.withState .abandoned)
      refuse (changed ≠ 1) .conflict
      releaseOpeningContext protector a.invitationId a.generation now
      abandonPreMembership protector now rest

/-- The transaction of `recover_pre_membership_authorizations`. -/
def recoverPreMembershipAuthorizationsTx (live : List Id16)
    (protector : InvitationJoinProtector) (now : Nat) : StoreTx (Except StoreError Nat) := do
  let rows ← select fun t => (t.attempts.filter (·.state.preMembership)).insertionSort
    fun a b => a.attemptId ≤ b.attemptId
  refuse (∃ a ∈ rows, a.attemptId ∈ live) .conflict
  abandonPreMembership protector now rows
  return .ok rows.length

/-- `WHERE attempt_id = ? AND transaction_id = ? AND state = 3`. -/
def AttemptRow.awaits (attemptId transactionId : Id16) (a : AttemptRow) : Bool :=
  decide (a.attemptId = attemptId ∧ a.transactionId = some transactionId ∧
    a.state = .membershipOutcomeUnknown)

/-- The opening context of a recovered attempt: consumed by a result that exists,
released otherwise. -/
def settleOpening (a : AttemptRow) (joined : Bool) (protector : InvitationJoinProtector)
    (now : Nat) : StoreTx Unit :=
  if joined then do
    let changed ← updateWhere openings (OpeningRow.isAt a.invitationId a.generation .reserved)
      (OpeningRow.erased .consumed)
    refuse (changed ≠ 1) .conflict
  else
    releaseOpeningContext protector a.invitationId a.generation now

/-- The resolution of an attempt whose outcome is unknown. -/
def resolveUnknownOutcome (a : AttemptRow) (attemptId transactionId : Id16)
    (joined : Bool) (protector : InvitationJoinProtector) (now : Nat) :
    StoreTx (Except StoreError AuthorizationState) := do
  settleOpening a joined protector now
  let resolved : AuthorizationState := if joined then .committed else .abandoned
  let changed ← updateWhere attempts (AttemptRow.awaits attemptId transactionId)
    (AttemptRow.withState resolved)
  refuse (changed ≠ 1) .conflict
  return .ok resolved

/-- The transaction of `recover_authorization_outcome`. -/
def recoverAuthorizationOutcomeTx (attemptId transactionId : Id16)
    (protector : InvitationJoinProtector) (now : Nat) :
    StoreTx (Except StoreError AuthorizationState) := do
  let t ← select id
  let a ← require (t.attempts.find? fun a =>
    decide (a.attemptId = attemptId ∧ a.transactionId = some transactionId)) .conflict
  let join := t.inviterJoins.find? fun j => decide (j.transactionId = transactionId)
  -- a result under this identifier that belongs to another request
  refuse (∃ j ∈ join, ¬j.ResultOf a) .conflict
  match a.state with
  | .committed => do
      refuse (join = none) .conflict
      refuse ((t.openings.find? fun o => decide (o.Owns a)).map (·.state) ≠ some .consumed)
        .conflict
      return .ok .committed
  | .abandoned => do
      refuse (join ≠ none) .conflict
      return .ok .abandoned
  | .membershipOutcomeUnknown =>
      resolveUnknownOutcome a attemptId transactionId join.isSome protector now
  | .pendingApproval | .approvedPendingMembership | .rejected => raise .conflict

end SessionChat.Storage
