import SessionChat.Storage.Queries
import SessionChat.Transition.Run

/-!
# The store: open scopes over one database file

Source: `crates/storage-sqlcipher/src/lib.rs`, `mls_storage.rs`.

A `Store` is one database file with the scopes that have it open. A scope keeps what the
source keeps behind its mutex: the staged transactions, a joiner transaction waiting for its
KeyPackage deletion, and the attempts whose handles it has given out. Nothing of that
survives a restart.

A public operation takes a scope and the committed database and answers with a reply and their
successors. One that opens a transaction is refused while another connection holds the write
lock, and a scope with a joiner transaction in progress refuses everything but the deletion that
ends it.
-/

set_option autoImplicit false

namespace SessionChat.Storage

open Relational Codec Transition

/-! ## Open scopes -/

/-- Exact joiner transaction expected around the next MLS write. -/
structure JoinerTransaction where
  transactionId : Id16
  groupId : Bytes32
  keyPackageReference : Bytes32

structure StagedJoiner where
  transaction : JoinerTransaction
  fault : PersistenceFault

/-- A joiner write that waits for the deletion of its KeyPackage. `working` is the
database as its open transaction sees it; a write that was already committed has
none open. -/
structure PendingJoiner where
  transaction : JoinerTransaction
  fault : PersistenceFault
  working : Option Db

structure Scope where
  stagedInviter : Option StagedInviter
  stagedJoiner : Option StagedJoiner
  pendingJoiner : Option PendingJoiner
  livePreMembershipAttempts : List Id16
  liveMembershipAttempts : List Id16

/-- A scope as `open_internal` returns it. -/
def Scope.opened : Scope := ⟨none, none, none, [], []⟩

/-- `retain(|attempt| attempt != id)` on the pre-membership attempts. -/
def Scope.dropPreMembership (s : Scope) (attemptId : Id16) : Scope :=
  { s with livePreMembershipAttempts := s.livePreMembershipAttempts.filter (· ≠ attemptId) }

/-- `retain(|attempt| attempt != id)` on the membership attempts. -/
def Scope.dropMembership (s : Scope) (attemptId : Id16) : Scope :=
  { s with liveMembershipAttempts := s.liveMembershipAttempts.filter (· ≠ attemptId) }

/-- Nothing is staged and no joiner transaction is in progress. -/
def Scope.idle (s : Scope) : Bool :=
  s.stagedInviter.isNone && s.stagedJoiner.isNone && s.pendingJoiner.isNone

/-- The handle a method is called on. -/
structure SqlCipherStorage where
  leaseScope : ScopeId
  authorizationPolicy : AuthorizationPolicy
  /-- Another connection holds the write lock. -/
  busy : Bool

/-- The answer of a method: its result, the scope and the committed database. -/
structure Answer (ε α : Type) where
  reply : Except ε α
  scope : Scope
  db : Db

namespace SqlCipherStorage

variable {ε α β : Type} (self : SqlCipherStorage)

/-- A method body under `lock` and `BEGIN IMMEDIATE`. Both report `engine` when they
fail; `done` builds the result and updates the scope after the commit. -/
def perform (engine : ε) (s : Scope) (db : Db) (body : Tx storeSchema ε (Except ε α))
    (done : α → Except ε β × Scope) : Answer ε β :=
  if s.pendingJoiner.isSome ∨ self.busy = true then ⟨.error engine, s, db⟩
  else
    match transaction engine body db with
    | (.ok a, db') => ⟨(done a).1, (done a).2, db'⟩
    | (.error e, db') => ⟨.error e, s, db'⟩

/-! ## Invitations -/

variable (protector : InvitationJoinProtector)

def issueCapabilityInvitation (issuedAt expiresAt now : Nat) (s : Scope) (db : Db) :
    Answer StoreError GeneratedCapabilityInvitationV2 :=
  if issuedAt = 0 ∨ now < issuedAt ∨ expiresAt ≤ now ∨ i64Max < expiresAt ∨ i64Max < now then
    ⟨.error .rejected, s, db⟩
  else
    match protector.generateCapabilityInvitation issuedAt expiresAt with
    | none => ⟨.error .rejected, s, db⟩
    | some generated =>
        self.perform .rejected s db
          (persistOpeningContext self.authorizationPolicy generated issuedAt expiresAt now)
          fun _ => (.ok generated, s)

def loadCapabilityInvitation (invitationId : Id16) (now : Nat) (s : Scope) (db : Db) :
    Answer StoreError (Option GeneratedCapabilityInvitationV2) :=
  if invitationId = 0 ∨ i64Max < now then ⟨.error .rejected, s, db⟩
  else
    self.perform .rejected s db (loadCapabilityInvitationTx protector invitationId now)
      fun restored => (.ok restored, s)

/-! ## Authorization attempts -/

def reserveAuthorization (input : AuthorizationShadowInput) (now : Nat) (draws : Fin 4 → Id16)
    (s : Scope) (db : Db) :
    Answer StoreError PendingAuthorization :=
  if i64Max < now ∨ now < input.requestIssuedAt ∨ input.requestExpiresAt ≤ now ∨
      input.invitationExpiresAt ≤ now ∨ s.pendingJoiner.isSome then
    ⟨.error .rejected, s, db⟩
  else if self.authorizationPolicy.maximumRetainedAttempts ≤
      s.livePreMembershipAttempts.length then
    ⟨.error .capacityExceeded, s, db⟩
  else
    self.perform .rejected s db
      (reserveAuthorizationTx self.authorizationPolicy protector input now draws)
      fun (attemptId, storeId) =>
        (.ok ⟨{ openScope := self.leaseScope
                storeId := storeId
                attemptId := attemptId
                invitationId := input.invitationId
                invitationGeneration := input.invitationGeneration }⟩,
          { s with livePreMembershipAttempts := s.livePreMembershipAttempts ++ [attemptId] })

variable (pending : PendingAuthorization)

def approveAuthorization (protector : InvitationJoinProtector) (now : Nat) (s : Scope) (db : Db) :
    Answer StoreError ApprovedAuthorization :=
  if i64Max < now ∨ self.leaseScope ≠ pending.handle.openScope then ⟨.error .conflict, s, db⟩
  else
    self.perform .rejected s db (approveAuthorizationTx pending.handle protector now)
      fun expired =>
        if expired then (.error .rejected, s.dropPreMembership pending.handle.attemptId)
        else (.ok ⟨pending.handle⟩, s)

def beginMembershipAuthorization (approved : ApprovedAuthorization) (transactionId : Id16)
    (protector : InvitationJoinProtector) (now : Nat) (s : Scope) (db : Db) :
    Answer StoreError MembershipAuthorization :=
  if transactionId = 0 ∨ i64Max < now ∨ self.leaseScope ≠ approved.handle.openScope then
    ⟨.error .conflict, s, db⟩
  else if s.pendingJoiner.isSome then ⟨.error .rejected, s, db⟩
  else if self.authorizationPolicy.maximumRetainedAttempts ≤ s.liveMembershipAttempts.length then
    ⟨.error .capacityExceeded, s, db⟩
  else
    self.perform .rejected s db
      (beginMembershipAuthorizationTx approved.handle transactionId protector now)
      fun expired =>
        let s' := s.dropPreMembership approved.handle.attemptId
        if expired then (.error .rejected, s')
        else
          (.ok { openScope := approved.handle.openScope
                 storeId := approved.handle.storeId
                 attemptId := approved.handle.attemptId
                 transactionId := transactionId },
            { s' with liveMembershipAttempts :=
                s.liveMembershipAttempts ++ [approved.handle.attemptId] })

/-- The shared method of the three explicit settlements. -/
def settle
    (body : AuthorizationHandle → InvitationJoinProtector → Nat → StoreTx (Except StoreError Unit))
    (handle : AuthorizationHandle) (protector : InvitationJoinProtector) (now : Nat) (s : Scope)
    (db : Db) : Answer StoreError Unit :=
  if i64Max < now ∨ self.leaseScope ≠ handle.openScope then ⟨.error .conflict, s, db⟩
  else
    self.perform .rejected s db (body handle protector now)
      fun _ => (.ok (), s.dropPreMembership handle.attemptId)

def abandonPendingAuthorization :=
  self.settle abandonPendingAuthorizationTx pending.handle

def rejectAuthorization :=
  self.settle rejectAuthorizationTx pending.handle

def abandonApprovedAuthorization (approved : ApprovedAuthorization) :=
  self.settle abandonApprovedAuthorizationTx approved.handle

def recoverPreMembershipAuthorizations (protector : InvitationJoinProtector) (now : Nat) (s : Scope)
    (db : Db) : Answer StoreError Nat :=
  if i64Max < now then ⟨.error .rejected, s, db⟩
  else
    self.perform .rejected s db
      (recoverPreMembershipAuthorizationsTx s.livePreMembershipAttempts protector now)
      fun count => (.ok count, s)

def recoverAuthorizationOutcome (attemptId transactionId : Id16)
    (protector : InvitationJoinProtector) (now : Nat) (s : Scope) (db : Db) :
    Answer StoreError AuthorizationState :=
  if attemptId = 0 ∨ transactionId = 0 ∨ i64Max < now ∨ s.pendingJoiner.isSome then
    ⟨.error .rejected, s, db⟩
  else if attemptId ∈ s.liveMembershipAttempts then ⟨.error .conflict, s, db⟩
  else
    self.perform .rejected s db
      (recoverAuthorizationOutcomeTx attemptId transactionId protector now)
      fun state => (.ok state, s)

/-! ## Legacy reservations and staging -/

/-- The single statement of `seed_reservation`: inserts unless a durable opening owns
the invitation, and reports the number of inserted rows. -/
def seedReservationTx (row : ReservationRow) : StoreTx (Except StoreError Unit) := do
  let t ← select id
  refuse (∃ o ∈ t.openings, o.invitationId = row.invitationId ∧ o.generation = row.generation)
    .conflict
  insertInto reservations row
  return .ok ()

def seedReservation (invitationId : Id16) (invitationGeneration : Generation) (joinRequestId : Id16)
    (expiresAt now : Nat) (s : Scope) (db : Db) : Answer StoreError Unit :=
  if invitationId = 0 ∨ invitationGeneration = 0 ∨ joinRequestId = 0 ∨ expiresAt ≤ now ∨
      i64Max < expiresAt then
    ⟨.error .rejected, s, db⟩
  else
    self.perform .rejected s db
      (seedReservationTx
        { invitationId := invitationId
          generation := invitationGeneration
          joinRequestId := joinRequestId
          expiresAt := expiresAt
          state := .reserved })
      fun _ => (.ok (), s)

def stageInviter (_self : SqlCipherStorage) (tx : InviterJoinTransaction) (now : Nat)
    (fault : PersistenceFault) (s : Scope) (db : Db) : Answer StoreError Unit :=
  if validateInviter tx now = false ∨ tx.boundWelcome.isSome ∨ s.pendingJoiner.isSome then
    ⟨.error .rejected, s, db⟩
  else if s.idle = false then ⟨.error .conflict, s, db⟩
  else
    ⟨.ok (),
      { s with
        stagedInviter := some
          { transaction := tx
            authorization := none
            addition := none
            nowUnixSeconds := now
            fault := fault
            same_transaction := by simp } },
      db⟩

def stageBoundInviter (_self : SqlCipherStorage) (addition : CommittedAdditionStorageBinding)
    (tx : InviterJoinTransaction) (now : Nat) (fault : PersistenceFault) (s : Scope) (db : Db) :
    Answer StoreError Unit :=
  if validateInviter tx now = false ∨ tx.boundWelcome.isNone ∨ s.pendingJoiner.isSome then
    ⟨.error .rejected, s, db⟩
  else if s.idle = false then ⟨.error .conflict, s, db⟩
  else
    ⟨.ok (),
      { s with
        stagedInviter := some
          { transaction := tx
            authorization := none
            addition := some addition
            nowUnixSeconds := now
            fault := fault
            same_transaction := by simp } },
      db⟩

/-- The store identity, as `store_id_on` reads it. -/
def storeId? (t : Tables) : Option Id16 :=
  (t.metadata.head?.map (·.storeId)).filter fun id => decide (id ≠ 0)

/-- `stage_authorized_inviter`. A refused staging gives up the scope's claim on the
attempt, so that recovery may resolve it. -/
def stageAuthorizedInviter (auth : MembershipAuthorization)
    (addition : CommittedAdditionStorageBinding) (tx : InviterJoinTransaction) (now : Nat)
    (fault : PersistenceFault) (s : Scope) (db : Db) : Answer StoreError Unit :=
  if self.leaseScope ≠ auth.openScope ∨ tx.boundWelcome.isNone then ⟨.error .conflict, s, db⟩
  else if s.pendingJoiner.isSome then ⟨.error .rejected, s, db⟩
  else if validateInviter tx now = false then
    ⟨.error .rejected, s.dropMembership auth.attemptId, db⟩
  else if h : auth.transactionId = tx.transactionId then
    if s.idle = false then ⟨.error .conflict, s.dropMembership auth.attemptId, db⟩
    else
      match storeId? db.tables with
      | none => ⟨.error .rejected, s, db⟩
      | some storeId =>
          if storeId ≠ auth.storeId ∨ ¬authorizationMatchesInviter db.tables auth addition tx
              .membershipOutcomeUnknown now then
            ⟨.error .conflict, s.dropMembership auth.attemptId, db⟩
          else
            ⟨.ok (),
              { s with
                stagedInviter := some
                  { transaction := tx
                    authorization := some auth
                    addition := some addition
                    nowUnixSeconds := now
                    fault := fault
                    same_transaction := by simpa using h } },
              db⟩
  else ⟨.error .conflict, s.dropMembership auth.attemptId, db⟩

def stageJoiner (_self : SqlCipherStorage) (tx : JoinerTransaction) (fault : PersistenceFault)
    (s : Scope) (db : Db) : Answer StoreError Unit :=
  if s.pendingJoiner.isSome then ⟨.error .rejected, s, db⟩
  else if s.idle = false then ⟨.error .conflict, s, db⟩
  else ⟨.ok (), { s with stagedJoiner := some ⟨tx, fault⟩ }, db⟩

/-! ## The MLS write and the joiner completion -/

/-- The statements `begin_joiner` runs inside the transaction it leaves open. -/
def beginJoinerTx (tx : JoinerTransaction) (state : GroupState)
    (inserts updates : List EpochRecord) (observer : Option FaultObserver) : StoreTx Unit := do
  let t ← select id
  refuse (¬keyPackageExistsOn t tx.keyPackageReference) .rejected
  persistMls state inserts updates observer .joinerTransaction
  insertInto joinerCommits ⟨tx.transactionId, tx.groupId, tx.keyPackageReference⟩
  emitFaultCheckpoint observer .joinerAfterCommitInsert 0

/-- The retained joiner commit is exactly this transaction over this snapshot. -/
def exactJoinerCommit (t : Tables) (tx : JoinerTransaction) (state : GroupState) : Prop :=
  ∃ j ∈ t.joinerCommits, ∃ g ∈ t.mlsGroups, g.groupId = fixedBytes 32 j.groupId ∧
    j.transactionId = tx.transactionId ∧ j.groupId = tx.groupId ∧
    j.keyPackageRef = tx.keyPackageReference ∧ g.state = state.data
deriving Decidable

def beginJoiner (staged : StagedJoiner) (state : GroupState) (inserts updates : List EpochRecord)
    (observer : Option FaultObserver) (db : Db) : Except StoreError PendingJoiner :=
  if state.id ≠ fixedBytes 32 staged.transaction.groupId then .error .rejected
  else if ∃ j ∈ db.tables.joinerCommits, j.transactionId = staged.transaction.transactionId then
    if ¬exactJoinerCommit db.tables staged.transaction state ∨
        keyPackageExistsOn db.tables staged.transaction.keyPackageReference then
      .error .conflict
    else .ok ⟨staged.transaction, staged.fault, none⟩
  else if (∃ o ∈ observer, o .joinerBeforeBegin 0 = false) ∨ self.busy = true then
    .error .rejected
  else
    match (beginJoinerTx staged.transaction state inserts updates observer).run db with
    | .ok (_, working) => .ok ⟨staged.transaction, staged.fault, some working⟩
    | .error failure => .error (failure.report .rejected)

/-- `GroupStateStorage::write`. The staged transaction is taken out of the scope only
after the snapshot has passed its bounds. -/
def write (state : GroupState) (inserts updates : List EpochRecord) (elapsed : Nat)
    (observer : Option FaultObserver) (s : Scope) (db : Db) : Answer StoreError Unit :=
  if validateMlsWrite state inserts updates = false ∨ s.pendingJoiner.isSome then
    ⟨.error .rejected, s, db⟩
  else
    match s.stagedInviter with
    | some staged =>
        let result := commitInviter self.busy staged state inserts updates elapsed observer db
        let s' := { s with stagedInviter := none }
        ⟨result.1,
          match staged.authorization with
          | some auth => s'.dropMembership auth.attemptId
          | none => s',
          result.2⟩
    | none =>
        match s.stagedJoiner with
        | none => ⟨.error .rejected, s, db⟩
        | some staged =>
            match self.beginJoiner staged state inserts updates observer db with
            | .error e => ⟨.error e, { s with stagedJoiner := none }, db⟩
            | .ok pending =>
                ⟨.ok (), { s with stagedJoiner := none, pendingJoiner := some pending }, db⟩

/-- The statements that end an open joiner transaction. -/
def deleteKeyPackageTx (pending : PendingJoiner) (observer : Option FaultObserver) :
    StoreTx (Except StoreError Unit) := do
  emitFaultCheckpoint observer .joinerBeforeKeyPackageDelete 0
  let selected : KeyPackageRow → Bool := fun k =>
    decide (k.keyPackageRef = pending.transaction.keyPackageReference)
  let changed ← select fun t => t.keyPackages.countP selected
  deleteFrom keyPackages selected
  refuse (changed ≠ 1) .rejected
  emitFaultCheckpoint observer .joinerAfterKeyPackageDelete 0
  emitFaultCheckpoint observer .joinerBeforeCommit 0
  refuse (pending.fault = .beforeCommit) .injectedFailure
  return if (∃ o ∈ observer, o .joinerAfterCommitReturn 0 = false) ∨
      pending.fault = .afterCommit then .error .outcomeUnknown else .ok ()

/-- `KeyPackageStorage::delete`: the only method a waiting joiner write admits. -/
def deleteKeyPackage (_self : SqlCipherStorage) (id : Bytes) (observer : Option FaultObserver)
    (s : Scope) (db : Db) : Answer StoreError Unit :=
  if id.length ≠ 32 then ⟨.error .rejected, s, db⟩
  else
    match s.pendingJoiner with
    | none => ⟨.error .rejected, s, db⟩
    | some pending =>
        let s' := { s with pendingJoiner := none }
        if id ≠ fixedBytes 32 pending.transaction.keyPackageReference then
          ⟨.error .rejected, s', db⟩
        else
          match pending.working with
          | none =>
              if keyPackageExistsOn db.tables pending.transaction.keyPackageReference then
                ⟨.error .conflict, s', db⟩
              else ⟨.ok (), s', db⟩
          | some working =>
              match (deleteKeyPackageTx pending observer).run working with
              | .ok (reply, db') => ⟨reply, s', db'⟩
              | .error failure => ⟨.error (failure.report .rejected), s', db⟩

/-- `KeyPackageStorage::insert`. -/
def insertKeyPackage (id : Bytes) (pkg : KeyPackageData) (s : Scope) (db : Db) :
    Answer StoreError Unit :=
  match toFixed 32 id with
  | none => ⟨.error .rejected, s, db⟩
  | some reference =>
      if pkg.keyPackageBytes = [] ∨ 16384 < pkg.keyPackageBytes.length ∨ pkg.initKey = [] ∨
          4096 < pkg.initKey.length ∨ pkg.leafNodeKey = [] ∨ 4096 < pkg.leafNodeKey.length ∨
          pkg.expiration = 0 ∨ i64Max < pkg.expiration then
        ⟨.error .rejected, s, db⟩
      else
        self.perform .rejected s db
          (do insertInto keyPackages
                ⟨reference, pkg.keyPackageBytes, pkg.initKey, pkg.leafNodeKey, pkg.expiration⟩
              return .ok ())
          fun _ => (.ok (), s)

/-- `insert_client_identity`; a session group identifier is never zero. -/
def insertClientIdentity (groupId : { id : Bytes32 // id ≠ 0 }) (encoded : Bytes) (s : Scope)
    (db : Db) : Answer StoreError Unit :=
  self.perform .rejected s db
    (do insertInto clientIdentity ⟨groupId, encoded⟩
        return .ok ())
    fun _ => (.ok (), s)

/-! ## The outbox port -/

def leaseNext (now leaseSeconds : Nat) (draws : Fin 4 → Id16) (s : Scope) (db : Db) :
    Answer OutboxPortError (Option LeasedWelcome) :=
  if i64Max < now ∨ leaseSeconds = 0 ∨ maximumLeaseSeconds < leaseSeconds ∨
      i64Max < now + leaseSeconds then
    ⟨.error .conflict, s, db⟩
  else
    self.perform .internal s db (leaseNextTx self.leaseScope now (now + leaseSeconds) draws)
      fun leased => (.ok leased, s)

def reportAccepted (lease : SqlCipherWelcomeLease) (now : Nat) (s : Scope) (db : Db) :
    Answer OutboxPortError Unit :=
  if i64Max < now ∨ self.leaseScope ≠ lease.openScope then ⟨.error .conflict, s, db⟩
  else self.perform .internal s db (reportAcceptedTx lease now) fun _ => (.ok (), s)

def reportFailed (lease : SqlCipherWelcomeLease) (s : Scope) (db : Db) :
    Answer OutboxPortError Unit :=
  if self.leaseScope ≠ lease.openScope then ⟨.error .conflict, s, db⟩
  else self.perform .internal s db (reportFailedTx lease) fun _ => (.ok (), s)

/-! ## Reads -/

/-- A read, under `lock` and without a transaction: the scope of a waiting joiner write is
refused, any other one sees what is committed. -/
def read (query : Query) (s : Scope) (db : Db) : Answer StoreError Retained :=
  if s.pendingJoiner.isSome then ⟨.error .rejected, s, db⟩ else ⟨query.answer db.tables, s, db⟩

end SqlCipherStorage

/-! ## Calls -/

/-- One public operation on an open scope, with everything it reads from outside:
arguments, clock, random draws, elapsed time and the checked build's observer. -/
inductive Operation where
  | issue (protector : InvitationJoinProtector) (issuedAt expiresAt now : Nat)
  | load (protector : InvitationJoinProtector) (invitationId : Id16) (now : Nat)
  | reserve (protector : InvitationJoinProtector) (input : AuthorizationShadowInput) (now : Nat)
      (draws : Fin 4 → Id16)
  | approve (pending : PendingAuthorization) (protector : InvitationJoinProtector) (now : Nat)
  | beginMembership (approved : ApprovedAuthorization) (transactionId : Id16)
      (protector : InvitationJoinProtector) (now : Nat)
  | abandonPending (pending : PendingAuthorization) (protector : InvitationJoinProtector)
      (now : Nat)
  | reject (pending : PendingAuthorization) (protector : InvitationJoinProtector) (now : Nat)
  | abandonApproved (approved : ApprovedAuthorization) (protector : InvitationJoinProtector)
      (now : Nat)
  | recoverPreMembership (protector : InvitationJoinProtector) (now : Nat)
  | recoverOutcome (attemptId transactionId : Id16) (protector : InvitationJoinProtector)
      (now : Nat)
  | seedReservation (invitationId : Id16) (generation : Generation) (joinRequestId : Id16)
      (expiresAt now : Nat)
  | stageInviter (transaction : InviterJoinTransaction) (now : Nat) (fault : PersistenceFault)
  | stageBoundInviter (addition : CommittedAdditionStorageBinding)
      (transaction : InviterJoinTransaction) (now : Nat) (fault : PersistenceFault)
  | stageAuthorizedInviter (authorization : MembershipAuthorization)
      (addition : CommittedAdditionStorageBinding) (transaction : InviterJoinTransaction)
      (now : Nat) (fault : PersistenceFault)
  | stageJoiner (transaction : JoinerTransaction) (fault : PersistenceFault)
  | write (state : GroupState) (inserts updates : List EpochRecord) (elapsed : Nat)
      (observer : Option FaultObserver)
  | deleteKeyPackage (id : Bytes) (observer : Option FaultObserver)
  | insertKeyPackage (id : Bytes) (pkg : SqlCipherStorage.KeyPackageData)
  | insertClientIdentity (groupId : { id : Bytes32 // id ≠ 0 }) (encoded : Bytes)
  | leaseNext (now leaseSeconds : Nat) (draws : Fin 4 → Id16)
  | reportAccepted (lease : SqlCipherWelcomeLease) (now : Nat)
  | reportFailed (lease : SqlCipherWelcomeLease)
  | read (query : Query)

/-- The result of a call, by the method it came from. -/
inductive Reply where
  /-- The scope named by the call is not open. -/
  | notOpen
  | closed
  | opened (result : Except StoreError ScopeId)
  | issued (result : Except StoreError GeneratedCapabilityInvitationV2)
  | loaded (result : Except StoreError (Option GeneratedCapabilityInvitationV2))
  | pending (result : Except StoreError PendingAuthorization)
  | approved (result : Except StoreError ApprovedAuthorization)
  | membership (result : Except StoreError MembershipAuthorization)
  | recovered (result : Except StoreError Nat)
  | outcome (result : Except StoreError AuthorizationState)
  | unit (result : Except StoreError Unit)
  | leased (result : Except OutboxPortError (Option LeasedWelcome))
  | reported (result : Except OutboxPortError Unit)
  | read (result : Except StoreError Retained)

/-- A method's answer with its result as a `Reply`. -/
structure Outcome where
  reply : Reply
  scope : Scope
  db : Db

def Answer.toOutcome {ε α : Type} (wrap : Except ε α → Reply) (a : Answer ε α) : Outcome :=
  ⟨wrap a.reply, a.scope, a.db⟩

def Operation.run (self : SqlCipherStorage) (s : Scope) (db : Db) : Operation → Outcome
  | .issue protector issuedAt expiresAt now =>
      (self.issueCapabilityInvitation protector issuedAt expiresAt now s db).toOutcome .issued
  | .load protector invitationId now =>
      (self.loadCapabilityInvitation protector invitationId now s db).toOutcome .loaded
  | .reserve protector input now draws =>
      (self.reserveAuthorization protector input now draws s db).toOutcome .pending
  | .approve pending protector now =>
      (self.approveAuthorization pending protector now s db).toOutcome .approved
  | .beginMembership approved transactionId protector now =>
      (self.beginMembershipAuthorization approved transactionId protector now s db).toOutcome
        .membership
  | .abandonPending pending protector now =>
      (self.abandonPendingAuthorization pending protector now s db).toOutcome .unit
  | .reject pending protector now =>
      (self.rejectAuthorization pending protector now s db).toOutcome .unit
  | .abandonApproved approved protector now =>
      (self.abandonApprovedAuthorization approved protector now s db).toOutcome .unit
  | .recoverPreMembership protector now =>
      (self.recoverPreMembershipAuthorizations protector now s db).toOutcome .recovered
  | .recoverOutcome attemptId transactionId protector now =>
      (self.recoverAuthorizationOutcome attemptId transactionId protector now s db).toOutcome
        .outcome
  | .seedReservation invitationId generation joinRequestId expiresAt now =>
      (self.seedReservation invitationId generation joinRequestId expiresAt now s db).toOutcome
        .unit
  | .stageInviter tx now fault => (self.stageInviter tx now fault s db).toOutcome .unit
  | .stageBoundInviter addition tx now fault =>
      (self.stageBoundInviter addition tx now fault s db).toOutcome .unit
  | .stageAuthorizedInviter auth addition tx now fault =>
      (self.stageAuthorizedInviter auth addition tx now fault s db).toOutcome .unit
  | .stageJoiner tx fault => (self.stageJoiner tx fault s db).toOutcome .unit
  | .write state inserts updates elapsed observer =>
      (self.write state inserts updates elapsed observer s db).toOutcome .unit
  | .deleteKeyPackage id observer => (self.deleteKeyPackage id observer s db).toOutcome .unit
  | .insertKeyPackage id pkg => (self.insertKeyPackage id pkg s db).toOutcome .unit
  | .insertClientIdentity groupId encoded =>
      (self.insertClientIdentity groupId encoded s db).toOutcome .unit
  | .leaseNext now leaseSeconds draws =>
      (self.leaseNext now leaseSeconds draws s db).toOutcome .leased
  | .reportAccepted lease now => (self.reportAccepted lease now s db).toOutcome .reported
  | .reportFailed lease => (self.reportFailed lease s db).toOutcome .reported
  | .read query => (SqlCipherStorage.read query s db).toOutcome .read

/-! ## The store -/

/-- One database file and the scopes that have it open. -/
structure Store where
  db : Db
  scopes : ScopeId → Option Scope
  /-- The next scope identity an open allocates. -/
  nextScope : ScopeId
  /-- The scope whose open joiner transaction holds the write lock. -/
  writer : Option ScopeId

/-- What can happen to a store. -/
inductive Call where
  /-- Another scope opens the file, under the policy the store was created with. -/
  | openScope
  /-- The last handle of a scope is dropped. -/
  | closeScope (scope : ScopeId)
  /-- Every process dies; one new scope opens the file. -/
  | restart
  /-- An operation on an open scope. -/
  | perform (scope : ScopeId) (operation : Operation)

/-- The scope has a transaction open. -/
def Scope.holdsWriteLock (s : Scope) : Bool :=
  (s.pendingJoiner.bind (·.working)).isSome

variable (policy : AuthorizationPolicy)

/-- Opens the file; the validator decides whether a scope results. -/
def Store.openScope (s : Store) : Store × Reply :=
  match validateSchemaV6 policy s.db.tables with
  | .error e => (s, .opened (.error e))
  | .ok () =>
      ({ s with
          scopes := Function.update s.scopes s.nextScope (some Scope.opened)
          nextScope := s.nextScope + 1 },
        .opened (.ok s.nextScope))

/-- Drops a scope; SQLite rolls its open transaction back. -/
def Store.closeScope (s : Store) (i : ScopeId) : Store :=
  { s with
    scopes := Function.update s.scopes i none
    writer := if s.writer = some i then none else s.writer }

def Store.crash (s : Store) : Store :=
  { s with scopes := fun _ => none, writer := none }

def Store.handle (s : Store) (i : ScopeId) : SqlCipherStorage where
  leaseScope := i
  authorizationPolicy := policy
  busy := decide (s.writer ≠ none ∧ s.writer ≠ some i)

/-- The store after a method of scope `i` has answered. -/
def Store.settle (s : Store) (i : ScopeId) (o : Outcome) : Store :=
  { s with
    db := o.db
    scopes := Function.update s.scopes i (some o.scope)
    writer := if o.scope.holdsWriteLock then some i
      else if s.writer = some i then none else s.writer }

def Store.step (s : Store) : Call → Store × Reply
  | .openScope => s.openScope policy
  | .closeScope i => (s.closeScope i, .closed)
  | .restart => s.crash.openScope policy
  | .perform i operation =>
      match s.scopes i with
      | none => (s, .notOpen)
      | some scope =>
          let o := operation.run (s.handle policy i) scope s.db
          (s.settle i o, o.reply)

def Store.created (storeId : { id : Id16 // id ≠ 0 }) :
    Store where
  db := createSchema policy storeId
  scopes := Function.update (fun _ => none) 0 (some Scope.opened)
  nextScope := 1
  writer := none

/-- A store and the calls it has answered. -/
abbrev StoreWorld := World Store Call Reply

def StoreWorld.created (storeId : { id : Id16 // id ≠ 0 }) :
    StoreWorld :=
  ⟨Store.created policy storeId, []⟩

end SessionChat.Storage
