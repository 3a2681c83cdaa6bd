import SessionChat.Storage.InviterCommit

/-!
# The durable Welcome outbox (`crates/storage-sqlcipher/src/outbox.rs`)

Leasing and settlement of committed Welcomes. A lease names the row, the lease generation and the
lease identifier it was issued under, and the store and open scope that issued it; a report is
accepted only while all of them are current. A report of a row whose own lifetime has passed
retires the row.
-/

set_option autoImplicit false

namespace SessionChat.Storage

open Relational

/-- Stable failures of the outbox owner. -/
inductive OutboxPortError where
  | unavailable
  | conflict
  | internal
deriving DecidableEq

def mapOutboxStoreError : StoreError → OutboxPortError
  | .conflict => .conflict
  | .rejected | .injectedFailure | .outcomeUnknown | .replay | .capacityExceeded => .internal

/-- The body of one outbox transaction. -/
abbrev OutboxTx (α : Type) := Tx storeSchema OutboxPortError α

/-- Authority for one exact lease. -/
structure SqlCipherWelcomeLease where
  openScope : ScopeId
  storeId : Id16
  transactionId : Id16
  generation : Nat
  leaseId : Id16
deriving DecidableEq

/-- One lease and the delivery material it covers. -/
structure LeasedWelcome where
  lease : SqlCipherWelcomeLease
  welcomeEnvelope : Bytes
  depositEndpoint : Bytes
  outboxExpiresAtUnixSeconds : Nat

def maximumLeaseSeconds : Nat := 3600

/-- `SET outbox_state = …, lease_id = NULL, lease_expires_at = NULL`. -/
def InviterJoinRow.closed (s : WelcomeOutboxState) (j : InviterJoinRow) : InviterJoinRow :=
  { j with outboxState := s, leaseId := none, leaseExpiresAt := none }

/-- Pending, or leased under a lease that has run out. -/
def InviterJoinRow.Free (now : Nat) (j : InviterJoinRow) : Prop :=
  j.outboxState = .pending ∨
    (j.outboxState = .leased ∧ ∃ e ∈ j.leaseExpiresAt, e ≤ now)
deriving Decidable

/-- The row can be leased until `leaseExpiresAt`. -/
def InviterJoinRow.eligible (now leaseExpiresAt : Nat) (j : InviterJoinRow) : Bool :=
  decide (leaseExpiresAt ≤ j.outboxExpiresAt ∧
    j.deliveryAttempts < j.maximumDeliveryAttempts ∧ j.Free now)

/-- The row after a lease is issued on it. -/
def InviterJoinRow.leasedAs (generation : Nat) (leaseId : Id16) (leaseExpiresAt : Nat)
    (j : InviterJoinRow) : InviterJoinRow :=
  { j with
    outboxState := .leased
    deliveryAttempts := j.deliveryAttempts + 1
    leaseGeneration := generation
    leaseId := some leaseId
    leaseExpiresAt := some leaseExpiresAt }

/-- `WHERE outbox_state IN (1, 2) AND outbox_expires_at <= now`. -/
def InviterJoinRow.late (now : Nat) (j : InviterJoinRow) : Bool :=
  decide ((j.outboxState = .pending ∨ j.outboxState = .leased) ∧ j.outboxExpiresAt ≤ now)

/-- `WHERE delivery_attempts >= maximum_delivery_attempts AND outbox_expires_at > now`,
and the row is free. -/
def InviterJoinRow.spent (now : Nat) (j : InviterJoinRow) : Bool :=
  decide (j.maximumDeliveryAttempts ≤ j.deliveryAttempts ∧ now < j.outboxExpiresAt ∧ j.Free now)

/-- Retires rows whose lifetime has passed, then rows without attempts left. -/
def outboxHousekeeping (now : Nat) : OutboxTx Unit := do
  let _ ← updateWhere inviterJoins (InviterJoinRow.late now) (InviterJoinRow.closed .expired)
  let _ ← updateWhere inviterJoins (InviterJoinRow.spent now)
    (InviterJoinRow.closed .attemptsExhausted)
  return ()

/-- The lease of one selected row. -/
def leaseCandidate (scope : ScopeId) (now leaseExpiresAt : Nat) (draws : Fin 4 → Id16)
    (candidate : InviterJoinRow) : OutboxTx (Except OutboxPortError (Option LeasedWelcome)) := do
  refuse (validateDeliveryMaterial candidate.welcome candidate.endpoint
    candidate.outboxExpiresAt = false) .internal
  refuse (i64Max < candidate.leaseGeneration + 1) .internal
  let leaseId ← require (randomNonzeroIdentifier draws) .internal
  let storeId ← mapError mapOutboxStoreError storeIdOn
  let changed ← updateWhere inviterJoins
    (fun j => decide (j.transactionId = candidate.transactionId ∧
      j.leaseGeneration = candidate.leaseGeneration) && j.eligible now leaseExpiresAt)
    (InviterJoinRow.leasedAs (candidate.leaseGeneration + 1) leaseId leaseExpiresAt)
  refuse (changed ≠ 1) .conflict
  return .ok (some
    { lease :=
        { openScope := scope
          storeId := storeId
          transactionId := candidate.transactionId
          generation := candidate.leaseGeneration + 1
          leaseId := leaseId }
      welcomeEnvelope := candidate.welcome
      depositEndpoint := candidate.endpoint
      outboxExpiresAtUnixSeconds := candidate.outboxExpiresAt })

/-- The transaction of `lease_next`. -/
def leaseNextTx (scope : ScopeId) (now leaseExpiresAt : Nat) (draws : Fin 4 → Id16) :
    OutboxTx (Except OutboxPortError (Option LeasedWelcome)) := do
  outboxHousekeeping now
  let rows ← select fun t => (t.inviterJoins.filter fun j =>
    j.eligible now leaseExpiresAt).insertionSort fun a b => a.transactionId ≤ b.transactionId
  match rows with
  | [] => return .ok none
  | candidate :: _ => leaseCandidate scope now leaseExpiresAt draws candidate

/-- The lease is the row's current one. -/
def InviterJoinRow.heldBy (lease : SqlCipherWelcomeLease) (j : InviterJoinRow) : Prop :=
  j.transactionId = lease.transactionId ∧ j.outboxState = .leased ∧
    j.leaseGeneration = lease.generation ∧ j.leaseId = some lease.leaseId
deriving Decidable

/-- `… AND lease_expires_at > now AND outbox_expires_at > now`. -/
def InviterJoinRow.Timely (now : Nat) (j : InviterJoinRow) : Prop :=
  (∃ e ∈ j.leaseExpiresAt, now < e) ∧ now < j.outboxExpiresAt
deriving Decidable

variable (lease : SqlCipherWelcomeLease)

/-- The row that a report of acceptance delivers. -/
def InviterJoinRow.deliverable (now : Nat) (j : InviterJoinRow) :
    Bool :=
  decide (j.heldBy lease ∧ j.Timely now)

/-- The row that a refused report of acceptance retires. -/
def InviterJoinRow.overdue (now : Nat) (j : InviterJoinRow) :
    Bool :=
  decide (j.heldBy lease ∧ j.outboxExpiresAt ≤ now)

/-- The lease must come from this store. -/
def checkLeaseStore : OutboxTx Unit := do
  let storeId ← mapError mapOutboxStoreError storeIdOn
  refuse (storeId ≠ lease.storeId) .conflict

/-- The transaction of `report_accepted`. A report that is not accepted still
retires its own row when the outbox lifetime has passed. -/
def reportAcceptedTx (now : Nat) :
    OutboxTx (Except OutboxPortError Unit) := do
  checkLeaseStore lease
  let changed ← updateWhere inviterJoins (InviterJoinRow.deliverable lease now)
    (InviterJoinRow.closed .delivered)
  if changed = 1 then
    return .ok ()
  else
    let _ ← updateWhere inviterJoins (InviterJoinRow.overdue lease now)
      (InviterJoinRow.closed .expired)
    return .error .conflict

/-- The row after a failed delivery: pending again, unless no attempt is left. -/
def InviterJoinRow.failed (j : InviterJoinRow) : InviterJoinRow :=
  j.closed (if j.maximumDeliveryAttempts ≤ j.deliveryAttempts then .attemptsExhausted
    else .pending)

/-- The transaction of `report_failed`. -/
def reportFailedTx (lease : SqlCipherWelcomeLease) : OutboxTx (Except OutboxPortError Unit) := do
  checkLeaseStore lease
  let changed ← updateWhere inviterJoins (fun j => decide (j.heldBy lease))
    InviterJoinRow.failed
  refuse (changed ≠ 1) .conflict
  return .ok ()

end SessionChat.Storage
