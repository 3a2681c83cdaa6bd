import SessionChat.Collections.OrderedMap
import SessionChat.Transport.OutboxPort

/-!
# The in-memory inviter store (`crates/session-inviter-transaction/src/lib.rs`)

The bounded conformance model of the inviter's join transaction: reservations, the atomic commit
with its fault points, and the Welcome outbox of the committed records. A method returns its
result and the store as it leaves it, since some refusals change the store as well.
-/

set_option autoImplicit false

namespace SessionChat.InviterTransaction

open Collections Transport Protocol Storage

/-! ## Limits -/

def hardMaximumTransactions : Nat := 4096

def hardMaximumRetiredReservations : Nat := hardMaximumTransactions

/-- Explicit resource limits. `new` refuses a zero limit and a limit above the hard
maximum, so the bounds are part of the value. -/
structure TransactionPolicy where
  maximumTransactions : Nat
  maximumGroupIdBytes : Nat
  maximumApprovalBytes : Nat
  maximumMlsStateBytes : Nat
  maximumWelcomeBytes : Nat
  maximumEndpointBytes : Nat
  maximumDeliveryAttempts : Nat
  maximumLeaseSeconds : Nat
  positive : 0 < maximumTransactions ∧ 0 < maximumGroupIdBytes ∧ 0 < maximumApprovalBytes ∧
    0 < maximumMlsStateBytes ∧ 0 < maximumWelcomeBytes ∧ 0 < maximumEndpointBytes ∧
    0 < maximumDeliveryAttempts ∧ 0 < maximumLeaseSeconds
  bounded : maximumTransactions ≤ hardMaximumTransactions ∧ maximumGroupIdBytes ≤ 255 ∧
    maximumApprovalBytes ≤ 4096 ∧ maximumMlsStateBytes ≤ 2097152 ∧
    maximumWelcomeBytes ≤ 65536 ∧ maximumEndpointBytes ≤ 4096 ∧
    maximumDeliveryAttempts ≤ 32 ∧ maximumLeaseSeconds ≤ 3600

inductive TransactionError where
  | invalidInput
  | capacityExceeded
  | reservationMismatch
  | conflict
  | expired
  | deliveryUnavailable
  | leaseMismatch
  | attemptsExhausted
  | injectedFailure
  | outcomeUnknown
deriving DecidableEq

/-! ## Records -/

/-- Exact pre-existing reservation that a commit must consume; `new` refuses zero
values. -/
structure ReservedInvitation where
  invitationId : Id16
  invitationGeneration : Generation
  joinRequestId : Id16
  expiresAtUnixSeconds : Nat
  nonzero : invitationId ≠ 0 ∧ invitationGeneration ≠ 0 ∧ joinRequestId ≠ 0 ∧
    expiresAtUnixSeconds ≠ 0

structure ReservationRecord where
  invitationGeneration : Generation
  joinRequestId : Id16
  expiresAtUnixSeconds : Nat
deriving DecidableEq

structure RetiredReservation where
  invitationId : Id16
  invitationGeneration : Generation
deriving DecidableEq

structure JoinContent where
  invitationId : Id16
  invitationGeneration : Generation
  joinRequestId : Id16
  requestFingerprint : Bytes32
  groupId : Bytes
  epochBefore : Nat
  epochAfter : Nat
  approvalRecord : Bytes
  mlsState : Bytes
  welcomeEnvelope : Bytes
  depositEndpoint : Bytes
  outboxExpiresAtUnixSeconds : Nat
deriving DecidableEq

/-- Complete input to one inviter-local atomic commit. -/
structure InviterJoinCommit extends JoinContent where
  transactionId : Id16
deriving DecidableEq

inductive StoredOutboxState where
  | pending
  | leased (leaseSequence expiresAtUnixSeconds : Nat)
  | delivered (leaseSequence : Nat)
  | attemptsExhausted
deriving DecidableEq

/-- Pending, or leased under a lease that has run out. -/
def StoredOutboxState.available (now : Nat) : StoredOutboxState → Bool
  | .pending => true
  | .leased _ expiresAt => decide (expiresAt ≤ now)
  | .delivered _ | .attemptsExhausted => false

structure CommittedRecord extends JoinContent where
  outbox : StoredOutboxState
  deliveryAttempts : Nat
deriving DecidableEq

def CommittedRecord.matches (record : CommittedRecord) (commit : InviterJoinCommit) : Prop :=
  record.toJoinContent = commit.toJoinContent
deriving Decidable

/-- The record after a lease is issued on it. -/
def CommittedRecord.leasedAs (leaseSequence expiresAt : Nat) (record : CommittedRecord) :
    CommittedRecord :=
  { record with
    outbox := .leased leaseSequence expiresAt
    deliveryAttempts := record.deliveryAttempts + 1 }

inductive CommitFault where
  | none
  | afterReservationCheck
  | afterReplayCheck
  | afterApprovalStaging
  | afterMlsStaging
  | afterOutboxStaging
  | afterCommit
deriving DecidableEq

inductive CommitOutcome where
  | committed
  | alreadyCommitted
deriving DecidableEq

/-- The staging faults that follow the replay check. -/
def CommitFault.stopsStaging (fault : CommitFault) : Prop :=
  fault = .afterReplayCheck ∨ fault = .afterApprovalStaging ∨ fault = .afterMlsStaging ∨
    fault = .afterOutboxStaging
deriving Decidable

/-- Opaque authority for reporting one leased delivery result. -/
structure DeliveryLease where
  storeScope : ScopeId
  transactionId : Id16
  leaseSequence : Nat
deriving DecidableEq

structure InMemoryInviterJoinStore where
  policy : TransactionPolicy
  leaseScope : ScopeId
  nextLeaseSequence : Nat
  reservations : OrderedMap Id16 ReservationRecord
  retiredReservations : List RetiredReservation
  commits : OrderedMap Id16 CommittedRecord

def InMemoryInviterJoinStore.new (policy : TransactionPolicy) (leaseScope : ScopeId) :
    InMemoryInviterJoinStore where
  policy := policy
  leaseScope := leaseScope
  nextLeaseSequence := 1
  reservations := .empty
  retiredReservations := []
  commits := .empty

namespace InMemoryInviterJoinStore

/-! ## Reservations -/

variable (m : InMemoryInviterJoinStore)

/-- `retire_reservation`: the oldest entry makes room for the new one. -/
def retireReservation (invitationId : Id16) (reservation : ReservationRecord) :
    InMemoryInviterJoinStore :=
  let kept :=
    if hardMaximumRetiredReservations ≤ m.retiredReservations.length then
      m.retiredReservations.tail
    else m.retiredReservations
  { m with
    retiredReservations := kept ++ [⟨invitationId, reservation.invitationGeneration⟩] }

/-- The order of `(expires_at, invitation_id)`. -/
def expiresBefore (a b : Id16 × ReservationRecord) : Prop :=
  a.2.expiresAtUnixSeconds < b.2.expiresAtUnixSeconds ∨
    (a.2.expiresAtUnixSeconds = b.2.expiresAtUnixSeconds ∧ a.1 ≤ b.1)

instance : DecidableRel expiresBefore := fun _ _ => inferInstanceAs (Decidable (_ ∨ _))

/-- The reservation that has been expired for longest. -/
def oldestExpired (now : Nat) : Option (Id16 × ReservationRecord) :=
  ((m.reservations.entries.filter fun e =>
    decide (e.2.expiresAtUnixSeconds ≤ now)).insertionSort expiresBefore).head?

/-- Takes one reservation out and remembers its generation. -/
def evict (e : Id16 × ReservationRecord) : InMemoryInviterJoinStore :=
  { m with reservations := m.reservations.erase e.1 }.retireReservation e.1 e.2

/-- The last step of `seed_reservation`. -/
def insertReservation (reservation : ReservedInvitation) : InMemoryInviterJoinStore :=
  { m with
    reservations := m.reservations.insert reservation.invitationId
      { invitationGeneration := reservation.invitationGeneration
        joinRequestId := reservation.joinRequestId
        expiresAtUnixSeconds := reservation.expiresAtUnixSeconds } }

def seedReservation (reservation : ReservedInvitation) (now : Nat) :
    Except TransactionError Unit × InMemoryInviterJoinStore :=
  if ∃ e ∈ m.commits.entries, e.2.invitationId = reservation.invitationId then
    (.error .conflict, m)
  else if reservation.expiresAtUnixSeconds ≤ now then (.error .expired, m)
  else if ∃ retired ∈ m.retiredReservations, retired.invitationId = reservation.invitationId ∧
      retired.invitationGeneration = reservation.invitationGeneration then
    (.error .conflict, m)
  else
    match m.reservations.get? reservation.invitationId with
    | some current =>
        if now < current.expiresAtUnixSeconds ∨
            current.invitationGeneration = reservation.invitationGeneration then
          (.error .conflict, m)
        else (.ok (), (m.evict (reservation.invitationId, current)).insertReservation reservation)
    | none =>
        if m.policy.maximumTransactions ≤ m.reservations.size then
          match m.oldestExpired now with
          | none => (.error .capacityExceeded, m)
          | some expired => (.ok (), (m.evict expired).insertReservation reservation)
        else (.ok (), m.insertReservation reservation)

/-! ## The commit -/

variable (commit : InviterJoinCommit)

/-- `validate_commit`; every failure is `InvalidInput`. -/
def validateCommit : Bool :=
  decide (commit.transactionId ≠ 0 ∧ commit.invitationId ≠ 0 ∧
    commit.invitationGeneration ≠ 0 ∧ commit.joinRequestId ≠ 0 ∧
    commit.requestFingerprint ≠ 0 ∧ commit.groupId ≠ [] ∧
    commit.groupId.length ≤ m.policy.maximumGroupIdBytes ∧ commit.approvalRecord ≠ [] ∧
    commit.approvalRecord.length ≤ m.policy.maximumApprovalBytes ∧ commit.mlsState ≠ [] ∧
    commit.mlsState.length ≤ m.policy.maximumMlsStateBytes ∧ commit.welcomeEnvelope ≠ [] ∧
    commit.welcomeEnvelope.length ≤ m.policy.maximumWelcomeBytes ∧
    commit.depositEndpoint ≠ [] ∧
    commit.depositEndpoint.length ≤ m.policy.maximumEndpointBytes ∧
    checkedAdd commit.epochBefore 1 = some commit.epochAfter) &&
  validateDeliveryMaterial commit.welcomeEnvelope commit.depositEndpoint
    commit.outboxExpiresAtUnixSeconds

/-- The replay checks after the reservation has matched. -/
def replayed : Prop :=
  ∃ e ∈ m.commits.entries, (e.2.invitationId = commit.invitationId ∧
    e.2.invitationGeneration = commit.invitationGeneration) ∨
    e.2.joinRequestId = commit.joinRequestId
deriving Decidable

/-- The store with the record installed and the reservation consumed. -/
def install : InMemoryInviterJoinStore :=
  { m with
    reservations := m.reservations.erase commit.invitationId
    commits := m.commits.insert commit.transactionId
      { commit.toJoinContent with
        outbox := .pending
        deliveryAttempts := 0 } }

def commitWithFault (now : Nat) (fault : CommitFault) :
    Except TransactionError CommitOutcome × InMemoryInviterJoinStore :=
  if m.validateCommit commit = false then (.error .invalidInput, m)
  else
    match m.commits.get? commit.transactionId with
    | some record =>
        if record.matches commit then (.ok .alreadyCommitted, m) else (.error .conflict, m)
    | none =>
        if commit.outboxExpiresAtUnixSeconds ≤ now then (.error .expired, m)
        else if m.policy.maximumTransactions ≤ m.commits.size then (.error .capacityExceeded, m)
        else
          match m.reservations.get? commit.invitationId with
          | none => (.error .reservationMismatch, m)
          | some reservation =>
              if reservation.invitationGeneration ≠ commit.invitationGeneration ∨
                  reservation.joinRequestId ≠ commit.joinRequestId then
                (.error .reservationMismatch, m)
              else if reservation.expiresAtUnixSeconds ≤ now then (.error .expired, m)
              else if fault = .afterReservationCheck then (.error .injectedFailure, m)
              else if m.replayed commit then (.error .conflict, m)
              else if fault.stopsStaging then (.error .injectedFailure, m)
              else
                (if fault = .afterCommit then .error .outcomeUnknown else .ok .committed,
                  m.install commit)

/-! ## Deliveries -/

/-- The record is listed by `pending_transaction_ids`. -/
def pending (now : Nat) (record : CommittedRecord) : Bool :=
  decide (now < record.outboxExpiresAtUnixSeconds ∧
    record.deliveryAttempts < m.policy.maximumDeliveryAttempts) && record.outbox.available now

def pendingTransactionIds (now : Nat) : List Id16 :=
  (m.commits.retain fun _ record => m.pending now record).entries.map Prod.fst

/-- The store with another outbox state for one record. -/
def setOutbox (transactionId : Id16) (state : StoredOutboxState) : InMemoryInviterJoinStore :=
  { m with
    commits := m.commits.modify transactionId fun record => { record with outbox := state } }

def leaseDelivery (transactionId : Id16) (now leaseSeconds : Nat) :
    Except TransactionError DeliveryLease × InMemoryInviterJoinStore :=
  if transactionId = 0 ∨ leaseSeconds = 0 ∨ m.policy.maximumLeaseSeconds < leaseSeconds then
    (.error .invalidInput, m)
  else
    match checkedAdd now leaseSeconds, m.commits.get? transactionId with
    | none, _ => (.error .invalidInput, m)
    | some _, none => (.error .deliveryUnavailable, m)
    | some leaseExpiresAt, some record =>
        if record.outboxExpiresAtUnixSeconds ≤ now ∨
            record.outboxExpiresAtUnixSeconds < leaseExpiresAt then
          (.error .expired, m)
        else if record.outbox = .attemptsExhausted then (.error .attemptsExhausted, m)
        else if record.outbox.available now = false then (.error .deliveryUnavailable, m)
        else if m.policy.maximumDeliveryAttempts ≤ record.deliveryAttempts then
          (.error .attemptsExhausted, m.setOutbox transactionId .attemptsExhausted)
        else
          match checkedAdd m.nextLeaseSequence 1 with
          | none => (.error .deliveryUnavailable, m)
          | some next =>
              (.ok ⟨m.leaseScope, transactionId, m.nextLeaseSequence⟩,
                { m with
                  nextLeaseSequence := next
                  commits := m.commits.modify transactionId
                    (CommittedRecord.leasedAs m.nextLeaseSequence leaseExpiresAt) })

variable (lease : DeliveryLease)

/-- `delivery_payload`: the Welcome, the endpoint and the outbox expiry. -/
def deliveryPayload (now : Nat) :
    Except TransactionError (Bytes × Bytes × Nat) :=
  if m.leaseScope ≠ lease.storeScope then .error .leaseMismatch
  else
    match m.commits.get? lease.transactionId with
    | none => .error .leaseMismatch
    | some record =>
        if record.outboxExpiresAtUnixSeconds ≤ now then .error .expired
        else
          match record.outbox with
          | .leased leaseSequence expiresAt =>
              if leaseSequence = lease.leaseSequence ∧ now < expiresAt then
                .ok (record.welcomeEnvelope, record.depositEndpoint,
                  record.outboxExpiresAtUnixSeconds)
              else .error .leaseMismatch
          | .pending | .delivered _ | .attemptsExhausted => .error .leaseMismatch

def failDelivery :
    Except TransactionError Unit × InMemoryInviterJoinStore :=
  if m.leaseScope ≠ lease.storeScope then (.error .leaseMismatch, m)
  else
    match m.commits.get? lease.transactionId with
    | none => (.error .leaseMismatch, m)
    | some record =>
        match record.outbox with
        | .leased leaseSequence _ =>
            if leaseSequence = lease.leaseSequence then
              (.ok (), m.setOutbox lease.transactionId
                (if m.policy.maximumDeliveryAttempts ≤ record.deliveryAttempts then
                  .attemptsExhausted else .pending))
            else (.error .leaseMismatch, m)
        | .pending | .delivered _ | .attemptsExhausted => (.error .leaseMismatch, m)

def completeDelivery (now : Nat) :
    Except TransactionError Unit × InMemoryInviterJoinStore :=
  if m.leaseScope ≠ lease.storeScope then (.error .leaseMismatch, m)
  else
    match m.commits.get? lease.transactionId with
    | none => (.error .leaseMismatch, m)
    | some record =>
        match record.outbox with
        | .leased leaseSequence expiresAt =>
            if leaseSequence = lease.leaseSequence ∧ now < expiresAt ∧
                now < record.outboxExpiresAtUnixSeconds then
              (.ok (), m.setOutbox lease.transactionId (.delivered leaseSequence))
            else (.error .leaseMismatch, m)
        | .delivered leaseSequence =>
            if leaseSequence = lease.leaseSequence then (.ok (), m)
            else (.error .leaseMismatch, m)
        | .pending | .attemptsExhausted => (.error .leaseMismatch, m)

/-! ## The outbox port -/

def mapOutboxPortError : TransactionError → OutboxPortError
  | .deliveryUnavailable | .leaseMismatch | .attemptsExhausted | .expired => .conflict
  | .capacityExceeded => .unavailable
  | .invalidInput | .reservationMismatch | .conflict | .injectedFailure | .outcomeUnknown =>
      .internal

/-- The record has no attempt left and nobody is working on it. -/
def spent (now : Nat) (record : CommittedRecord) : Bool :=
  decide (now < record.outboxExpiresAtUnixSeconds ∧
    m.policy.maximumDeliveryAttempts ≤ record.deliveryAttempts) && record.outbox.available now

/-- One record in the loop of `lease_next`. -/
def exhausted (now : Nat) (record : CommittedRecord) : CommittedRecord :=
  if m.spent now record then { record with outbox := .attemptsExhausted } else record

/-- The loop of `lease_next` over all records. -/
def exhaust (now : Nat) : InMemoryInviterJoinStore :=
  { m with commits := m.commits.mapValues fun _ record => m.exhausted now record }

def leaseNext (now leaseSeconds : Nat) :
    Except OutboxPortError (Option (LeasedWelcome DeliveryLease)) × InMemoryInviterJoinStore :=
  if leaseSeconds = 0 ∨ m.policy.maximumLeaseSeconds < leaseSeconds ∨
      checkedAdd now leaseSeconds = none then
    (.error (mapOutboxPortError .invalidInput), m)
  else
    match ((m.exhaust now).pendingTransactionIds now).head? with
    | none => (.ok none, m.exhaust now)
    | some transactionId =>
        match (m.exhaust now).leaseDelivery transactionId now leaseSeconds with
        | (.error error, m') => (.error (mapOutboxPortError error), m')
        | (.ok lease, m') =>
            match m'.deliveryPayload lease now with
            | .error error => (.error (mapOutboxPortError error), (m'.failDelivery lease).2)
            | .ok (welcome, endpoint, expiresAt) =>
                (.ok (some ⟨lease, welcome, endpoint, expiresAt⟩), m')

def reportAccepted (lease : DeliveryLease) (now : Nat) :
    Except OutboxPortError Unit × InMemoryInviterJoinStore :=
  let (result, m') := m.completeDelivery lease now
  (result.mapError mapOutboxPortError, m')

def reportFailed (lease : DeliveryLease) : Except OutboxPortError Unit × InMemoryInviterJoinStore :=
  let (result, m') := m.failDelivery lease
  (result.mapError mapOutboxPortError, m')

end InMemoryInviterJoinStore

/-! ## A small store -/

def samplePolicy : TransactionPolicy where
  maximumTransactions := 4
  maximumGroupIdBytes := 32
  maximumApprovalBytes := 16
  maximumMlsStateBytes := 16
  maximumWelcomeBytes := 64
  maximumEndpointBytes := 128
  maximumDeliveryAttempts := 3
  maximumLeaseSeconds := 3600
  positive := by decide
  bounded := by decide

/-- One join under one identifier, with its outbox life. -/
def sampleCommit (id : Id16) (outboxExpiresAt : Nat) : InviterJoinCommit where
  transactionId := id
  invitationId := id
  invitationGeneration := 3
  joinRequestId := id
  requestFingerprint := 3
  groupId := Codec.fixedBytes 32 1
  epochBefore := 0
  epochAfter := 1
  approvalRecord := [0]
  mlsState := [0]
  welcomeEnvelope := (OpaqueEnvelope.mk 1 50 [0]).encodeFields
  depositEndpoint := (LocalWelcomeDepositEndpoint.mk 1 1 1 100).encodeFields
  outboxExpiresAtUnixSeconds := outboxExpiresAt

theorem firstId_ne_zero : (1 : Id16) ≠ 0 := by decide

theorem secondId_ne_zero : (2 : Id16) ≠ 0 := by decide

def sampleReservation (id : { id : Id16 // id ≠ 0 }) : ReservedInvitation where
  invitationId := id
  invitationGeneration := 3
  joinRequestId := id
  expiresAtUnixSeconds := 30
  nonzero := ⟨id.2, by decide +kernel, id.2, by decide⟩

end SessionChat.InviterTransaction
