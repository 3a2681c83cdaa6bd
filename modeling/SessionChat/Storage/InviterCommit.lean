import SessionChat.Protocol.Wire
import SessionChat.Storage.Authorization

/-!
# The inviter commit path (`crates/storage-sqlcipher/src/transactions.rs`)

`commit_inviter` and what it is built from: the bounds on the staged metadata, the persistence of
the MLS snapshot, and the fault checkpoints of the checked builds. The provider's binding checks
are arbitrary functions carried by the addition.
-/

set_option autoImplicit false

namespace SessionChat.Storage

open Relational Protocol Codec

structure GroupState where
  id : Bytes
  data : Bytes
deriving DecidableEq

structure EpochRecord where
  id : Nat
  data : Bytes
deriving DecidableEq

/-- The storage-facing view of an applied Add. -/
structure CommittedAdditionStorageBinding where
  groupId : Bytes32
  epochBefore : Nat
  epochAfter : Nat
  keyPackageReference : Bytes32
  credentialIdentity : Bytes32
  leafSignatureKey : Bytes32
  welcomeForCurrentProviderWrite :
    GroupState → List EpochRecord → List EpochRecord → Option Bytes
  authorizesCurrentProviderWrite : GroupState → List EpochRecord → List EpochRecord → Bool

/-- Envelope data for a Welcome that is read only during the provider write. -/
structure BoundWelcome where
  envelopeId : Id16
  expiresAt : Nat

/-- Complete inviter-owned metadata for one MLS write. -/
structure InviterJoinTransaction where
  transactionId : Id16
  invitationId : Id16
  invitationGeneration : Generation
  joinRequestId : Id16
  requestFingerprint : Bytes32
  groupId : Bytes32
  epochBefore : Nat
  epochAfter : Nat
  approvalRecord : Bytes
  welcome : Bytes
  boundWelcome : Option BoundWelcome
  endpoint : Bytes
  outboxExpiresAt : Nat

/-- Deterministic persistence faults. -/
inductive PersistenceFault where
  | none
  | beforeCommit
  | afterCommit
deriving DecidableEq

/-- Inviter metadata waiting for the next MLS write. Staging under an
authorization compares the two transaction identifiers, so the equality is part of
the value. -/
structure StagedInviter where
  transaction : InviterJoinTransaction
  authorization : Option MembershipAuthorization
  addition : Option CommittedAdditionStorageBinding
  nowUnixSeconds : Nat
  fault : PersistenceFault
  same_transaction : ∀ auth ∈ authorization, auth.transactionId = transaction.transactionId

/-! ## Fault checkpoints -/

/-- Statement boundaries at which a checked build can stop. -/
inductive Checkpoint where
  | inviterBeforeBegin
  | inviterAfterGroupUpsert
  | inviterAfterEpochInsert
  | inviterAfterEpochUpdate
  | inviterAfterJoinInsert
  | inviterAfterReservationConsumed
  | inviterBeforeCommit
  | inviterAfterCommitReturn
  | joinerBeforeBegin
  | joinerAfterGroupUpsert
  | joinerAfterEpochInsert
  | joinerAfterEpochUpdate
  | joinerAfterCommitInsert
  | joinerBeforeKeyPackageDelete
  | joinerAfterKeyPackageDelete
  | joinerBeforeCommit
  | joinerAfterCommitReturn

/-- Which checkpoints of one persistence path the MLS statements emit. -/
structure Scenario where
  afterGroupUpsert : Checkpoint
  afterEpochInsert : Checkpoint
  afterEpochUpdate : Checkpoint

def Scenario.inviterTransaction : Scenario :=
  ⟨.inviterAfterGroupUpsert, .inviterAfterEpochInsert, .inviterAfterEpochUpdate⟩

def Scenario.joinerTransaction : Scenario :=
  ⟨.joinerAfterGroupUpsert, .joinerAfterEpochInsert, .joinerAfterEpochUpdate⟩

/-- Whether the observer lets the path continue; a build without one always does. -/
abbrev FaultObserver := Checkpoint → Nat → Bool

def emitFaultCheckpoint (observer : Option FaultObserver) (checkpoint : Checkpoint)
    (occurrence : Nat) : StoreTx Unit :=
  refuse (∃ o ∈ observer, o checkpoint occurrence = false) .rejected

/-! ## Bounds -/

/-- `validate_delivery_material`; every failure is `Rejected`. -/
def validateDeliveryMaterial (welcome endpoint : Bytes) (outboxExpiresAt : Nat) : Bool :=
  match OpaqueEnvelope.decodeCanonical welcome,
      LocalWelcomeDepositEndpoint.decodeCanonical endpoint with
  | .ok envelope, .ok endpoint => decide (envelope.envelopeId ≠ 0 ∧
      outboxExpiresAt ≤ envelope.expiresAtUnixSeconds ∧
      envelope.expiresAtUnixSeconds ≤ endpoint.expiresAtUnixSeconds)
  | _, _ => false

/-- `validate_delivery_metadata`; every failure is `Rejected`. -/
def validateDeliveryMetadata (envelopeId : Id16) (welcomeExpiresAt : Nat) (endpoint : Bytes)
    (outboxExpiresAt : Nat) : Bool :=
  match LocalWelcomeDepositEndpoint.decodeCanonical endpoint with
  | .ok endpoint => decide (envelopeId ≠ 0 ∧ outboxExpiresAt ≤ welcomeExpiresAt ∧
      welcomeExpiresAt ≤ endpoint.expiresAtUnixSeconds)
  | .error _ => false

/-- `validate_inviter`; every failure is `Rejected`. -/
def validateInviter (tx : InviterJoinTransaction) (now : Nat) : Bool :=
  decide (tx.transactionId ≠ 0 ∧ tx.invitationId ≠ 0 ∧ tx.invitationGeneration ≠ 0 ∧
    tx.joinRequestId ≠ 0 ∧ tx.requestFingerprint ≠ 0 ∧ tx.groupId ≠ 0 ∧
    tx.epochBefore + 1 = tx.epochAfter ∧ tx.epochAfter ≤ i64Max ∧
    tx.approvalRecord ≠ [] ∧ tx.approvalRecord.length ≤ 4096 ∧ tx.welcome.length ≤ 65536 ∧
    tx.endpoint ≠ [] ∧ tx.endpoint.length ≤ 4096 ∧ now < tx.outboxExpiresAt ∧
    tx.outboxExpiresAt ≤ i64Max ∧ now ≤ i64Max) &&
  match tx.boundWelcome with
  | some bound => decide (tx.welcome = []) &&
      validateDeliveryMetadata bound.envelopeId bound.expiresAt tx.endpoint tx.outboxExpiresAt
  | none => decide (tx.welcome ≠ []) &&
      validateDeliveryMaterial tx.welcome tx.endpoint tx.outboxExpiresAt

/-- `validate_mls_write`; every failure is `Rejected`. -/
def validateMlsWrite (state : GroupState) (inserts updates : List EpochRecord) : Bool :=
  decide (state.id ≠ [] ∧ state.id.length ≤ 255 ∧ state.data ≠ [] ∧
    state.data.length ≤ 2097152 ∧ inserts.length ≤ 64 ∧ updates.length ≤ 64 ∧
    ∀ e ∈ inserts ++ updates, e.id ≤ i64Max ∧ e.data ≠ [] ∧ e.data.length ≤ 2097152)

def checkedAdd (a b : Nat) : Option Nat := if a + b < 2 ^ 64 then some (a + b) else none

/-! ## Persistence of the MLS snapshot -/

/-- The rows after `INSERT … ON CONFLICT(group_id) DO UPDATE SET state`. -/
def upsertGroup (state : GroupState) (rows : List MlsGroupRow) : List MlsGroupRow :=
  if rows.any fun g => decide (g.groupId = state.id) then
    rows.map (patch (fun g => decide (g.groupId = state.id))
      fun g => { g with state := state.data })
  else rows ++ [⟨state.id, state.data⟩]

/-- One `INSERT` for each new epoch. The occurrence is a `u8` that the write bounds
keep far from its maximum. -/
def insertEpochs (groupId : Bytes) (observer : Option FaultObserver) (scenario : Scenario) :
    Nat → List EpochRecord → StoreTx Unit
  | _, [] => return ()
  | occurrence, e :: rest => do
      insertInto mlsEpochs ⟨groupId, e.id, e.data⟩
      emitFaultCheckpoint observer scenario.afterEpochInsert occurrence
      refuse (255 ≤ occurrence) .rejected
      insertEpochs groupId observer scenario (occurrence + 1) rest

/-- The row one epoch update selects. -/
def MlsEpochRow.isAt (groupId : Bytes) (epochId : Nat) (e : MlsEpochRow) : Bool :=
  decide (e.groupId = groupId ∧ e.epochId = epochId)

/-- One `UPDATE` for each rewritten epoch, which must exist. -/
def updateEpochs (groupId : Bytes) (observer : Option FaultObserver) (scenario : Scenario) :
    Nat → List EpochRecord → StoreTx Unit
  | _, [] => return ()
  | occurrence, e :: rest => do
      let changed ← updateWhere mlsEpochs (MlsEpochRow.isAt groupId e.id)
        fun row => { row with data := e.data }
      refuse (changed ≠ 1) .rejected
      emitFaultCheckpoint observer scenario.afterEpochUpdate occurrence
      refuse (255 ≤ occurrence) .rejected
      updateEpochs groupId observer scenario (occurrence + 1) rest

def persistMls (state : GroupState) (inserts updates : List EpochRecord)
    (observer : Option FaultObserver) (scenario : Scenario) : StoreTx Unit := do
  execute fun t => { t with mlsGroups := upsertGroup state t.mlsGroups }
  emitFaultCheckpoint observer scenario.afterGroupUpsert 0
  insertEpochs state.id observer scenario 0 inserts
  updateEpochs state.id observer scenario 0 updates

/-! ## The commit -/

def authorizationMatchesInviter (t : Tables) (auth : MembershipAuthorization)
    (addition : CommittedAdditionStorageBinding) (inviter : InviterJoinTransaction)
    (expected : AuthorizationState) (now : Nat) : Prop :=
  addition.groupId = inviter.groupId ∧ addition.epochBefore = inviter.epochBefore ∧
    addition.epochAfter = inviter.epochAfter ∧
    ∃ a ∈ t.attempts, ∃ o ∈ t.openings, o.Owns a ∧ a.attemptId = auth.attemptId ∧
      a.transactionId = some auth.transactionId ∧ a.invitationId = inviter.invitationId ∧
      a.generation = inviter.invitationGeneration ∧ a.joinRequestId = inviter.joinRequestId ∧
      a.requestFingerprint = inviter.requestFingerprint ∧
      a.keyPackageReference = addition.keyPackageReference ∧
      a.credentialIdentity = addition.credentialIdentity ∧
      a.leafSignatureKey = addition.leafSignatureKey ∧ a.state = expected ∧
      a.unexpired now ∧ o.state = .reserved
deriving Decidable

variable (staged : StagedInviter)

/-- The metadata with its Welcome filled in from the active provider write. -/
def boundTransaction (state : GroupState) (inserts updates : List EpochRecord) :
    Except StoreError InviterJoinTransaction :=
  match staged.addition with
  | some addition =>
      match staged.transaction.boundWelcome with
      | none => .error .rejected
      | some bound =>
          match addition.welcomeForCurrentProviderWrite state inserts updates with
          | none => .error .conflict
          | some welcome =>
              match OpaqueEnvelope.new bound.envelopeId bound.expiresAt welcome >>=
                  OpaqueEnvelope.encodeCanonical with
              | .error _ => .error .rejected
              | .ok envelope =>
                  .ok { staged.transaction with welcome := envelope, boundWelcome := none }
  | none =>
      if staged.transaction.boundWelcome.isSome then .error .rejected
      else .ok staged.transaction

/-- The durable attempt must still authorize the commit; without an authorization
no durable opening may own the invitation. -/
def checkAuthority (commit : InviterJoinTransaction) (now : Nat) :
    StoreTx Unit :=
  match staged.authorization with
  | some auth =>
      match staged.addition with
      | none => raise .rejected
      | some addition => do
          let storeId ← storeIdOn
          let t ← select id
          refuse (storeId ≠ auth.storeId ∨ ¬authorizationMatchesInviter t auth addition commit
            .membershipOutcomeUnknown now) .conflict
  | none => do
      let t ← select id
      refuse (∃ o ∈ t.openings, o.invitationId = commit.invitationId ∧
        o.generation = commit.invitationGeneration) .conflict

/-- The retained result is exactly this transaction over exactly this snapshot. -/
def exactResult (t : Tables) (commit : InviterJoinTransaction) (state : GroupState) : Prop :=
  ∃ j ∈ t.inviterJoins, ∃ g ∈ t.mlsGroups, g.groupId = fixedBytes 32 j.groupId ∧
    j.transactionId = commit.transactionId ∧ j.invitationId = commit.invitationId ∧
    j.generation = commit.invitationGeneration ∧ j.joinRequestId = commit.joinRequestId ∧
    j.requestFingerprint = commit.requestFingerprint ∧ j.groupId = commit.groupId ∧
    j.epochBefore = commit.epochBefore ∧ j.epochAfter = commit.epochAfter ∧
    j.approvalRecord = commit.approvalRecord ∧ j.welcome = commit.welcome ∧
    j.endpoint = commit.endpoint ∧ j.outboxExpiresAt = commit.outboxExpiresAt ∧
    g.state = state.data
deriving Decidable

/-- `WHERE invitation_id = ? AND generation = ? AND join_request_id = ? AND state = 1`. -/
def ReservationRow.awaits (commit : InviterJoinTransaction) (r : ReservationRow) : Bool :=
  decide (r.invitationId = commit.invitationId ∧ r.generation = commit.invitationGeneration ∧
    r.joinRequestId = commit.joinRequestId ∧ r.state = .reserved)

/-- A legacy commit needs its unexpired reservation. -/
def checkReservation (commit : InviterJoinTransaction) (now : Nat) :
    StoreTx Unit := do
  let rows ← select (·.reservations)
  refuse (staged.authorization = none ∧
    ¬∃ r ∈ rows, r.awaits commit = true ∧ now < r.expiresAt) .rejected

/-- An authorized commit brings its own consumed reservation. -/
def insertConsumedReservation (commit : InviterJoinTransaction) :
    StoreTx Unit :=
  match staged.authorization with
  | none => return ()
  | some auth => do
      let rows ← select (·.attempts)
      let attempt ← require
        (rows.find? (AttemptRow.awaits auth.attemptId auth.transactionId)) .rejected
      insertInto reservations
        { invitationId := commit.invitationId
          generation := commit.invitationGeneration
          joinRequestId := commit.joinRequestId
          expiresAt := attempt.invitationExpiresAt
          state := .consumed }

def maximumWelcomeDeliveryAttempts : Nat := 3

/-- The row `commit_inviter` inserts. -/
def InviterJoinTransaction.joinRow (commit : InviterJoinTransaction) : InviterJoinRow where
  transactionId := commit.transactionId
  invitationId := commit.invitationId
  generation := commit.invitationGeneration
  joinRequestId := commit.joinRequestId
  requestFingerprint := commit.requestFingerprint
  groupId := commit.groupId
  epochBefore := commit.epochBefore
  epochAfter := commit.epochAfter
  approvalRecord := commit.approvalRecord
  welcome := commit.welcome
  endpoint := commit.endpoint
  outboxExpiresAt := commit.outboxExpiresAt
  outboxState := .pending
  deliveryAttempts := 0
  maximumDeliveryAttempts := maximumWelcomeDeliveryAttempts
  leaseGeneration := 0
  leaseId := none
  leaseExpiresAt := none

variable (staged : StagedInviter)

/-- The invitation is consumed: through its attempt and opening context, or through
its legacy reservation. -/
def consumeInvitation (commit : InviterJoinTransaction) : StoreTx Unit :=
  match staged.authorization with
  | some auth => do
      let changed ← updateWhere attempts (AttemptRow.awaits auth.attemptId auth.transactionId)
        (AttemptRow.withState .committed)
      refuse (changed ≠ 1) .conflict
      let changed ← updateWhere openings
        (OpeningRow.isAt commit.invitationId commit.invitationGeneration .reserved)
        (OpeningRow.erased .consumed)
      refuse (changed ≠ 1) .conflict
  | none => do
      let changed ← updateWhere reservations (ReservationRow.awaits commit)
        fun r => { r with state := .consumed }
      refuse (changed ≠ 1) .rejected

/-- All writes of the commit, up to the statement `COMMIT`. -/
def commitWrites (commit : InviterJoinTransaction) (state : GroupState)
    (inserts updates : List EpochRecord) (observer : Option FaultObserver) : StoreTx Unit := do
  persistMls state inserts updates observer .inviterTransaction
  insertConsumedReservation staged commit
  insertInto inviterJoins commit.joinRow
  emitFaultCheckpoint observer .inviterAfterJoinInsert 0
  consumeInvitation staged commit
  emitFaultCheckpoint observer .inviterAfterReservationConsumed 0
  emitFaultCheckpoint observer .inviterBeforeCommit 0
  refuse (staged.fault = .beforeCommit) .injectedFailure

/-- What the caller is told after `COMMIT` has returned. -/
def commitReply (observer : Option FaultObserver) :
    Except StoreError Unit :=
  if (∃ o ∈ observer, o .inviterAfterCommitReturn 0 = false) ∨ staged.fault = .afterCommit then
    .error .outcomeUnknown
  else .ok ()

/-- The transaction of `commit_inviter`. A repeated exact commit writes nothing. -/
def commitInviterTx (commit : InviterJoinTransaction) (state : GroupState)
    (inserts updates : List EpochRecord) (elapsed : Nat) (observer : Option FaultObserver) :
    StoreTx (Except StoreError Unit) := do
  let now ← require (checkedAdd staged.nowUnixSeconds elapsed) .rejected
  refuse (validateInviter commit now = false) .rejected
  refuse (∃ addition ∈ staged.addition,
    addition.authorizesCurrentProviderWrite state inserts updates = false) .conflict
  checkAuthority staged commit now
  let t ← select id
  if ∃ j ∈ t.inviterJoins, j.transactionId = commit.transactionId then
    refuse (¬exactResult t commit state) .conflict
    return .ok ()
  else
    checkReservation staged commit now
    commitWrites staged commit state inserts updates observer
    return commitReply staged observer

/-- `commit_inviter`; `busy` says that another connection holds the write lock. -/
def commitInviter (busy : Bool) (staged : StagedInviter) (state : GroupState)
    (inserts updates : List EpochRecord) (elapsed : Nat) (observer : Option FaultObserver)
    (db : Db) : Except StoreError Unit × Db :=
  match boundTransaction staged state inserts updates with
  | .error e => (.error e, db)
  | .ok commit =>
      if state.id ≠ fixedBytes 32 commit.groupId ∨ i64Max < commit.epochAfter then
        (.error .rejected, db)
      else if (∃ o ∈ observer, o .inviterBeforeBegin 0 = false) ∨ busy = true then
        (.error .rejected, db)
      else
        transaction .rejected
          (commitInviterTx staged commit state inserts updates elapsed observer) db

end SessionChat.Storage
