import Mathlib.Algebra.Ring.Nat
import SessionChat.Relational.Transaction

/-!
# Rows, tables and declared constraints of the SQLCipher store

Source: `crates/storage-sqlcipher/src/schema.rs`, ADR 0017.

The data of the encrypted store as `create_schema` declares it. Fixed-width byte strings are
bit vectors, so `zeroblob` is `0` and `ORDER BY` on a blob is the order of the bit vectors.
`INTEGER` columns hold only values checked against `i64::MAX`, and are natural numbers here.

`storeSchema` puts all clauses together; a `Db` is a record of tables on which they hold.
-/

set_option autoImplicit false

namespace SessionChat.Storage

open Relational

abbrev Id16 := BitVec 128

instance Id16.lawfulBEq : LawfulBEq Id16 := inferInstance

/-- Thirty-two-byte keys, digests, nonces and group identifiers. -/
abbrev Bytes32 := BitVec 256

/-- An invitation generation: the sixty-four-byte signature of the invitation. -/
abbrev Generation := BitVec 512

/-- Byte strings of variable length. -/
abbrev Bytes := List UInt8

/-- `i64::MAX as u64`. -/
def i64Max : Nat := 2 ^ 63 - 1

/-! ## Closed state sets -/

/-- Coarse failure from the encrypted storage boundary. -/
inductive StoreError where
  | rejected
  | conflict
  | injectedFailure
  | outcomeUnknown
  | replay
  | capacityExceeded
deriving DecidableEq

/-- Lifecycle of a legacy reservation (states 1 and 2). -/
inductive InvitationState where
  | reserved
  | consumed
deriving DecidableEq

/-- Lifecycle of one durable invitation opening context (states 1 to 4). -/
inductive InvitationOpeningState where
  | available
  | reserved
  | consumed
  | unusable
deriving DecidableEq

/-- Lifecycle of one retained authorization shadow (states 1 to 6). -/
inductive AuthorizationState where
  | pendingApproval
  | approvedPendingMembership
  | membershipOutcomeUnknown
  | committed
  | rejected
  | abandoned
deriving DecidableEq

/-- The attempt still owns its invitation: `state IN (1, 2, 3)`. -/
def AuthorizationState.live : AuthorizationState → Bool
  | .pendingApproval | .approvedPendingMembership | .membershipOutcomeUnknown => true
  | .committed | .rejected | .abandoned => false

/-- `state IN (4, 5, 6)`. -/
def AuthorizationState.terminal : AuthorizationState → Bool
  | .committed | .rejected | .abandoned => true
  | .pendingApproval | .approvedPendingMembership | .membershipOutcomeUnknown => false

theorem AuthorizationState.terminal_eq_not_live (s : AuthorizationState) :
    s.terminal = !s.live := by
  cases s <;> rfl

/-- Lifecycle of one durable Welcome in the outbox (states 1 to 5). -/
inductive WelcomeOutboxState where
  | pending
  | leased
  | delivered
  | attemptsExhausted
  | expired
deriving DecidableEq

/-! ## Rows -/

/-- `storage_metadata`: the singleton row with the store identity and its bounds. -/
structure MetadataRow where
  schemaVersion : Nat
  storeId : Id16
  maximumLiveInvitations : Nat
  maximumLiveAuthorizationAttempts : Nat
  maximumRetainedAttemptsPerGeneration : Nat
  maximumTotalAuthorizationAttempts : Nat

/-- `reservations`. -/
structure ReservationRow where
  invitationId : Id16
  generation : Generation
  joinRequestId : Id16
  expiresAt : Nat
  state : InvitationState
deriving DecidableEq

/-- `authorization_attempts`, without the four version columns whose checks admit
the single value that the one `INSERT` writes. -/
structure AttemptRow where
  attemptId : Id16
  invitationId : Id16
  generation : Generation
  invitationChallenge : Bytes32
  joinRequestId : Id16
  requestNonce : Bytes32
  intendedVerifier : Bytes32
  keyPackageReference : Bytes32
  credentialIdentity : Bytes32
  leafSignatureKey : Bytes32
  requestFingerprint : Bytes32
  requestIssuedAt : Nat
  requestExpiresAt : Nat
  invitationExpiresAt : Nat
  state : AuthorizationState
  transactionId : Option Id16
deriving DecidableEq

/-- `invitation_opening_contexts`. -/
structure OpeningRow where
  invitationId : Id16
  generation : Generation
  signedInvitation : Bytes
  hpkePrivateKey : Bytes32
  issuedAt : Nat
  expiresAt : Nat
  state : InvitationOpeningState
deriving DecidableEq

/-- `inviter_joins`: the committed membership result and its Welcome outbox. -/
structure InviterJoinRow where
  transactionId : Id16
  invitationId : Id16
  generation : Generation
  joinRequestId : Id16
  requestFingerprint : Bytes32
  groupId : Bytes32
  epochBefore : Nat
  epochAfter : Nat
  approvalRecord : Bytes
  welcome : Bytes
  endpoint : Bytes
  outboxExpiresAt : Nat
  outboxState : WelcomeOutboxState
  deliveryAttempts : Nat
  maximumDeliveryAttempts : Nat
  leaseGeneration : Nat
  leaseId : Option Id16
  leaseExpiresAt : Option Nat
deriving DecidableEq

/-- `mls_groups`. -/
structure MlsGroupRow where
  groupId : Bytes
  state : Bytes

/-- `mls_epochs`. -/
structure MlsEpochRow where
  groupId : Bytes
  epochId : Nat
  data : Bytes

/-- `key_packages`. -/
structure KeyPackageRow where
  keyPackageRef : Bytes32
  keyPackage : Bytes
  initKey : Bytes
  leafKey : Bytes
  expiresAt : Nat

/-- `joiner_commits`. -/
structure JoinerCommitRow where
  transactionId : Id16
  groupId : Bytes32
  keyPackageRef : Bytes32
deriving DecidableEq

/-- `mls_client_identity`: at most one row. -/
structure ClientIdentityRow where
  groupId : Bytes32
  identityRecord : Bytes

/-! ## Row constraints, table by table -/

/-- `singleton INTEGER PRIMARY KEY CHECK(singleton = 1)`: any two rows clash. -/
def metadataConstraints : TableConstraints MetadataRow where
  check r := decide (r.schemaVersion = 6 ∧
    (1 ≤ r.maximumLiveInvitations ∧ r.maximumLiveInvitations ≤ 8) ∧
    (1 ≤ r.maximumLiveAuthorizationAttempts ∧ r.maximumLiveAuthorizationAttempts ≤ 8) ∧
    (1 ≤ r.maximumRetainedAttemptsPerGeneration ∧
      r.maximumRetainedAttemptsPerGeneration ≤ 8) ∧
    1 ≤ r.maximumTotalAuthorizationAttempts ∧ r.maximumTotalAuthorizationAttempts ≤ 64)
  clash _ _ := true
  clash_symm := by simp
  clash_self := by simp

def reservationConstraints : TableConstraints ReservationRow where
  check r := decide (0 < r.expiresAt)
  clash a b := decide (a.invitationId = b.invitationId)
  clash_symm := by simp [eq_comm]
  clash_self := by simp

/-- Which states carry a membership transaction identifier. -/
def AuthorizationState.admitsTransaction : AuthorizationState → Option Id16 → Bool
  | .pendingApproval, tx | .approvedPendingMembership, tx | .rejected, tx => tx.isNone
  | .membershipOutcomeUnknown, tx | .committed, tx => tx.isSome
  | .abandoned, _ => true

def attemptConstraints : TableConstraints AttemptRow where
  check a := decide (0 < a.requestIssuedAt ∧ a.requestIssuedAt < a.requestExpiresAt ∧
    a.requestExpiresAt ≤ a.invitationExpiresAt ∧
    a.state.admitsTransaction a.transactionId = true)
  clash a b := decide (a.attemptId = b.attemptId ∨
    (a.transactionId = b.transactionId ∧ a.transactionId.isSome ∧ b.transactionId.isSome) ∨
    (a.generation = b.generation ∧ (a.joinRequestId = b.joinRequestId ∨
      a.requestNonce = b.requestNonce ∨ a.requestFingerprint = b.requestFingerprint)))
  clash_symm a b h := by
    simp only [decide_eq_true_eq] at h ⊢
    rcases h with h | ⟨h, ha, hb⟩ | ⟨hg, h | h | h⟩ <;> simp_all
  clash_self := by simp

def openingConstraints : TableConstraints OpeningRow where
  check o := decide (1 ≤ o.signedInvitation.length ∧ o.signedInvitation.length ≤ 512 ∧
    0 < o.issuedAt ∧ o.issuedAt < o.expiresAt)
  clash a b := decide (a.invitationId = b.invitationId ∨ a.generation = b.generation)
  clash_symm a b h := by
    simp only [decide_eq_true_eq] at h ⊢
    exact h.imp Eq.symm Eq.symm
  clash_self := by simp

/-- The lease columns are set exactly while the Welcome is leased. -/
def WelcomeOutboxState.admitsLease (s : WelcomeOutboxState) (leaseId : Option Id16)
    (leaseExpiresAt : Option Nat) : Bool :=
  if s = .leased then leaseId.isSome && leaseExpiresAt.isSome
  else leaseId.isNone && leaseExpiresAt.isNone

def inviterJoinConstraints : TableConstraints InviterJoinRow where
  check j := decide (j.epochAfter = j.epochBefore + 1 ∧
    (1 ≤ j.approvalRecord.length ∧ j.approvalRecord.length ≤ 4096) ∧
    (1 ≤ j.welcome.length ∧ j.welcome.length ≤ 65536) ∧
    (1 ≤ j.endpoint.length ∧ j.endpoint.length ≤ 4096) ∧
    0 < j.outboxExpiresAt ∧ j.deliveryAttempts ≤ 32 ∧
    (1 ≤ j.maximumDeliveryAttempts ∧ j.maximumDeliveryAttempts ≤ 32) ∧
    (∀ e ∈ j.leaseExpiresAt, 0 < e) ∧
    j.outboxState.admitsLease j.leaseId j.leaseExpiresAt = true ∧
    j.deliveryAttempts ≤ j.maximumDeliveryAttempts ∧
    (j.outboxState ≠ .attemptsExhausted ∨ j.deliveryAttempts = j.maximumDeliveryAttempts))
  clash a b := decide (a.transactionId = b.transactionId ∨
    a.invitationId = b.invitationId ∨ a.joinRequestId = b.joinRequestId)
  clash_symm a b h := by
    simp only [decide_eq_true_eq] at h ⊢
    exact h.imp Eq.symm (Or.imp Eq.symm Eq.symm)
  clash_self := by simp

def mlsGroupConstraints : TableConstraints MlsGroupRow where
  check g := decide ((1 ≤ g.groupId.length ∧ g.groupId.length ≤ 255) ∧
    1 ≤ g.state.length ∧ g.state.length ≤ 2097152)
  clash a b := decide (a.groupId = b.groupId)
  clash_symm := by simp [eq_comm]
  clash_self := by simp

def mlsEpochConstraints : TableConstraints MlsEpochRow where
  check e := decide (1 ≤ e.data.length ∧ e.data.length ≤ 2097152)
  clash a b := decide (a.groupId = b.groupId ∧ a.epochId = b.epochId)
  clash_symm a b h := by
    simp only [decide_eq_true_eq] at h ⊢
    exact h.imp Eq.symm Eq.symm
  clash_self := by simp

def keyPackageConstraints : TableConstraints KeyPackageRow where
  check k := decide ((1 ≤ k.keyPackage.length ∧ k.keyPackage.length ≤ 16384) ∧
    (1 ≤ k.initKey.length ∧ k.initKey.length ≤ 4096) ∧
    (1 ≤ k.leafKey.length ∧ k.leafKey.length ≤ 4096) ∧ 0 < k.expiresAt)
  clash a b := decide (a.keyPackageRef = b.keyPackageRef)
  clash_symm := by simp [eq_comm]
  clash_self := by simp

def joinerCommitConstraints : TableConstraints JoinerCommitRow where
  check _ := true
  clash a b := decide (a.transactionId = b.transactionId ∨ a.groupId = b.groupId ∨
    a.keyPackageRef = b.keyPackageRef)
  clash_symm a b h := by
    simp only [decide_eq_true_eq] at h ⊢
    exact h.imp Eq.symm (Or.imp Eq.symm Eq.symm)
  clash_self := by simp

def clientIdentityConstraints : TableConstraints ClientIdentityRow where
  check r := decide (r.identityRecord.length = 141)
  clash _ _ := true
  clash_symm := by simp
  clash_self := by simp

/-! ## The database -/

/-- All tables of the store, with `PRAGMA user_version`. -/
structure Tables where
  userVersion : Nat
  metadata : List MetadataRow
  reservations : List ReservationRow
  attempts : List AttemptRow
  openings : List OpeningRow
  inviterJoins : List InviterJoinRow
  mlsGroups : List MlsGroupRow
  mlsEpochs : List MlsEpochRow
  keyPackages : List KeyPackageRow
  joinerCommits : List JoinerCommitRow
  clientIdentity : List ClientIdentityRow

/-- Every declared constraint of the version 6 schema. -/
@[mk_iff] structure Tables.Valid (t : Tables) : Prop where
  metadata : metadataConstraints.Hold t.metadata
  reservations : reservationConstraints.Hold t.reservations
  attempts : attemptConstraints.Hold t.attempts
  openings : openingConstraints.Hold t.openings
  inviterJoins : inviterJoinConstraints.Hold t.inviterJoins
  mlsGroups : mlsGroupConstraints.Hold t.mlsGroups
  mlsEpochs : mlsEpochConstraints.Hold t.mlsEpochs
  keyPackages : keyPackageConstraints.Hold t.keyPackages
  joinerCommits : joinerCommitConstraints.Hold t.joinerCommits
  clientIdentity : clientIdentityConstraints.Hold t.clientIdentity
  /-- `authorization_attempts.invitation_id REFERENCES invitation_opening_contexts`. -/
  attempt_reference : ∀ a ∈ t.attempts, ∃ o ∈ t.openings, o.invitationId = a.invitationId
  /-- `inviter_joins.invitation_id REFERENCES reservations`. -/
  join_reference : ∀ j ∈ t.inviterJoins, ∃ r ∈ t.reservations, r.invitationId = j.invitationId
  /-- `mls_epochs.group_id REFERENCES mls_groups`. -/
  epoch_reference : ∀ e ∈ t.mlsEpochs, ∃ g ∈ t.mlsGroups, g.groupId = e.groupId

instance (t : Tables) : Decidable t.Valid :=
  decidable_of_iff' _ t.valid_iff

def storeSchema : Schema Tables where
  Holds := Tables.Valid
  decidable := inferInstance

/-- A database on which every declared constraint holds. -/
abbrev Db := Database storeSchema

/-- The body of one transaction on the store. -/
abbrev StoreTx (α : Type) := Tx storeSchema StoreError α

theorem Db.isValid (db : Db) : db.tables.Valid := db.valid

/-! ## Table access -/

def reservations : TableOf Tables ReservationRow where
  rows := (·.reservations)
  put rows t := { t with reservations := rows }

def attempts : TableOf Tables AttemptRow where
  rows := (·.attempts)
  put rows t := { t with attempts := rows }

def openings : TableOf Tables OpeningRow where
  rows := (·.openings)
  put rows t := { t with openings := rows }

def inviterJoins : TableOf Tables InviterJoinRow where
  rows := (·.inviterJoins)
  put rows t := { t with inviterJoins := rows }

def mlsEpochs : TableOf Tables MlsEpochRow where
  rows := (·.mlsEpochs)
  put rows t := { t with mlsEpochs := rows }

def keyPackages : TableOf Tables KeyPackageRow where
  rows := (·.keyPackages)
  put rows t := { t with keyPackages := rows }

def joinerCommits : TableOf Tables JoinerCommitRow where
  rows := (·.joinerCommits)
  put rows t := { t with joinerCommits := rows }

def clientIdentity : TableOf Tables ClientIdentityRow where
  rows := (·.clientIdentity)
  put rows t := { t with clientIdentity := rows }

end SessionChat.Storage
