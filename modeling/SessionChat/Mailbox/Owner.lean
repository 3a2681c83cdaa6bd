import SessionChat.Collections.OrderedMap
import SessionChat.Mailbox.Contract

/-!
# The deterministic receive-state owner (`crates/transport-conformance/src/receive_owner.rs`)

Received items, the checkpoint and the unaccepted acknowledgement survive a
restart; the evidence of the last commit and the live lease do not. A shared
allocation whose address serves as an identity is a number drawn from
`nextIdentity`, so that no two of them are equal.
-/

set_option autoImplicit false

namespace SessionChat.Mailbox

open Collections Storage

/-- The owner reports one uninformative error. -/
structure DeterministicReceiveStateError where
deriving DecidableEq

inductive DeduplicationOutcome where
  | stored
  | duplicate
deriving DecidableEq

/-- What a successful commit returns. -/
structure CommittedReceivePage where
  owner : Nat
  nonce : Nat
  revision : ReceiveCheckpointRevision
  binding : CursorBinding
  outcomes : List DeduplicationOutcome
  acknowledgementIntent : Option BoundedDeliveryIds

/-- Authority to acknowledge the identifiers once and then settle. -/
structure AcknowledgementLease where
  identity : Nat
  binding : CursorBinding
  deliveryIds : BoundedDeliveryIds

inductive PersistedCheckpointPosition where
  | resume (cursor : Bytes)
  | committedPageWithoutCursor
  | explicitResynchronization (reason : ResynchronizationReason)

structure PersistedCheckpoint where
  binding : CursorBinding
  revision : ReceiveCheckpointRevision
  position : PersistedCheckpointPosition

structure CommitEvidence where
  nonce : Nat
  revision : ReceiveCheckpointRevision
  binding : CursorBinding
  deliveryIds : List DeliveryId

structure LeaseEvidence where
  identity : Nat
  binding : CursorBinding
  deliveryIds : List DeliveryId

structure DeterministicReceiveStateOwner where
  owner : Nat
  nextCommitNonce : Nat
  stored : OrderedMap DeliveryId Bytes
  checkpoint : Option PersistedCheckpoint
  recoverable : Option (CursorBinding × BoundedDeliveryIds)
  validCommit : Option CommitEvidence
  leased : Option LeaseEvidence
  nextIdentity : Nat

def copyIds (deliveryIds : BoundedDeliveryIds) :
    Except DeterministicReceiveStateError BoundedDeliveryIds :=
  match BoundedDeliveryIds.new deliveryIds.ids with
  | .ok copied => .ok copied
  | .error _ => .error ⟨⟩

@[simp] theorem copyIds_eq (deliveryIds : BoundedDeliveryIds) :
    copyIds deliveryIds = .ok deliveryIds := by
  simp only [copyIds, BoundedDeliveryIds.new_ids]

namespace DeterministicReceiveStateOwner

def new : DeterministicReceiveStateOwner where
  owner := 0
  nextCommitNonce := 1
  stored := .empty
  checkpoint := none
  recoverable := none
  validCommit := none
  leased := none
  nextIdentity := 1

variable (self : DeterministicReceiveStateOwner)

def restart : DeterministicReceiveStateOwner :=
  { self with
    owner := self.nextIdentity
    nextIdentity := self.nextIdentity + 1
    validCommit := none
    leased := none }

def checkpointMatches (checkpoint : ReceiveCheckpoint) : Bool :=
  match self.checkpoint with
  | none => false
  | some persisted =>
      if persisted.binding ≠ checkpoint.binding ∨ persisted.revision ≠ checkpoint.revision then
        false
      else
        match persisted.position with
        | .resume cursor =>
            match checkpoint.pollCursor with
            | some candidate => candidate.bytes = cursor
            | none => false
        | .committedPageWithoutCursor => checkpoint.isCommittedPageWithoutCursor
        | .explicitResynchronization reason => checkpoint.resynchronizationReason = some reason

/-- `validate_lease` succeeds. -/
def leaseIsValid (lease : AcknowledgementLease) : Bool :=
  match self.leased with
  | none => false
  | some expected =>
      expected.identity = lease.identity ∧ expected.binding = lease.binding ∧
        expected.deliveryIds = lease.deliveryIds.ids

variable (binding : CursorBinding)

/-- The persisted unaccepted acknowledgement has this binding and these identifiers. -/
def intends (ids : List DeliveryId) : Bool :=
  match self.recoverable with
  | none => false
  | some (persistedBinding, persistedIds) => persistedBinding = binding ∧ persistedIds.ids = ids

/-! ## Checkpoints -/

def loadCheckpoint (nowUnixSeconds : Nat) :
    Except DeterministicReceiveStateError (Option ReceiveCheckpoint) :=
  if binding.expiresAtUnixSeconds ≤ nowUnixSeconds then .error ⟨⟩
  else
    match self.checkpoint with
    | none => .ok none
    | some persisted =>
        if persisted.binding ≠ binding then .ok none
        else
          let checkpoint :=
            match persisted.position with
            | .resume cursor =>
                match Cursor.new cursor with
                | .error _ => none
                | .ok cursor =>
                    (ReceiveCheckpoint.resume persisted.binding ⟨cursor, persisted.binding⟩
                      persisted.revision nowUnixSeconds).toOption
            | .committedPageWithoutCursor =>
                (ReceiveCheckpoint.committedPageWithoutCursor persisted.binding
                  persisted.revision nowUnixSeconds).toOption
            | .explicitResynchronization reason =>
                (ReceiveCheckpoint.fromRecordedResynchronization persisted.binding
                  persisted.revision reason nowUnixSeconds).toOption
          match checkpoint with
          | some checkpoint => .ok (some checkpoint)
          | none => .error ⟨⟩

/-- The owner after a recorded resynchronization. -/
def resynchronized (request : ResynchronizationRequest) : DeterministicReceiveStateOwner :=
  { self with
    checkpoint := some ⟨request.expectedCheckpoint.binding, request.successorRevision,
      .explicitResynchronization request.reason⟩ }

def recordResynchronization (request : ResynchronizationRequest) (nowUnixSeconds : Nat) :
    DeterministicReceiveStateOwner × Except DeterministicReceiveStateError ReceiveCheckpoint :=
  if request.expectedCheckpoint.binding.expiresAtUnixSeconds ≤ nowUnixSeconds ∨
      ¬self.checkpointMatches request.expectedCheckpoint ∨ self.recoverable.isSome ∨
      self.leased.isSome then
    (self, .error ⟨⟩)
  else
    match ReceiveCheckpoint.fromRecordedResynchronization request.expectedCheckpoint.binding
        request.successorRevision request.reason nowUnixSeconds with
    | .ok checkpoint => (self.resynchronized request, .ok checkpoint)
    | .error _ => (self.resynchronized request, .error ⟨⟩)

/-! ## Committing a page -/

/-- One pass over the items: a known identifier must carry the stored bytes, the others are
to be added. -/
def deduplicate (stored : OrderedMap DeliveryId Bytes) :
    List ReceivedCanonicalEnvelope → Except DeterministicReceiveStateError
      (List DeduplicationOutcome × List (DeliveryId × Bytes))
  | [] => .ok ([], [])
  | item :: items =>
      match stored.get? item.deliveryId with
      | some bytes =>
          if bytes = item.envelope.bytes then
            match deduplicate stored items with
            | .ok (outcomes, additions) => .ok (.duplicate :: outcomes, additions)
            | .error error => .error error
          else .error ⟨⟩
      | none =>
          match deduplicate stored items with
          | .ok (outcomes, additions) =>
              .ok (.stored :: outcomes, (item.deliveryId, item.envelope.bytes) :: additions)
          | .error error => .error error

def maxStoredItems : Nat := 64

def maxStoredBytes : Nat := 4 * 1024 * 1024

/-- The additions fit into the owner's fixed capacity. -/
def fits (additions : List (DeliveryId × Bytes)) : Bool :=
  self.stored.size + additions.length ≤ maxStoredItems ∧
    (self.stored.sum fun _ bytes => bytes.length) +
      (additions.map fun addition => addition.2.length).sum ≤ maxStoredBytes

def insertAll (stored : OrderedMap DeliveryId Bytes) (additions : List (DeliveryId × Bytes)) :
    OrderedMap DeliveryId Bytes :=
  additions.foldl (fun stored addition => stored.insert addition.1 addition.2) stored

variable (transition : ReceivePageCommit)

def nextPosition : PersistedCheckpointPosition :=
  match transition.nextCursor with
  | none => .committedPageWithoutCursor
  | some cursor => .resume cursor.cursor.bytes

/-- The writes a commit makes before it copies the acknowledgement intent. -/
def withPage (additions : List (DeliveryId × Bytes)) (nextRevision : ReceiveCheckpointRevision) :
    DeterministicReceiveStateOwner :=
  { self with
    stored := insertAll self.stored additions
    nextCommitNonce := self.nextCommitNonce + 1
    checkpoint := some ⟨transition.expectedCheckpoint.binding, nextRevision,
      nextPosition transition⟩ }

/-- The writes it makes after that. -/
def withEvidence (nonce : Nat) (nextRevision : ReceiveCheckpointRevision)
    (intent : Option BoundedDeliveryIds) :
    DeterministicReceiveStateOwner :=
  { self with
    recoverable := intent.map (transition.expectedCheckpoint.binding, ·)
    validCommit := some ⟨nonce, nextRevision, transition.expectedCheckpoint.binding,
      transition.items.map ReceivedCanonicalEnvelope.deliveryId⟩ }

def commitReceivePage (nowUnixSeconds : Nat) :
    DeterministicReceiveStateOwner × Except DeterministicReceiveStateError CommittedReceivePage :=
  if transition.expectedCheckpoint.binding.expiresAtUnixSeconds ≤ nowUnixSeconds ∨
      self.recoverable.isSome ∨ self.leased.isSome ∨
      (self.checkpoint.isSome ∧ ¬self.checkpointMatches transition.expectedCheckpoint) then
    (self, .error ⟨⟩)
  else
    match transition.expectedCheckpoint.revision.successor,
        deduplicate self.stored transition.items with
    | .error _, _ => (self, .error ⟨⟩)
    | .ok _, .error error => (self, .error error)
    | .ok nextRevision, .ok (outcomes, additions) =>
        if ¬self.fits additions ∨ self.nextCommitNonce = u64Max then (self, .error ⟨⟩)
        else
          let committed := self.withPage transition additions nextRevision
          let finished (copied : Option BoundedDeliveryIds) :=
            (committed.withEvidence transition self.nextCommitNonce nextRevision copied,
              Except.ok ⟨self.owner, self.nextCommitNonce, nextRevision,
                transition.expectedCheckpoint.binding, outcomes,
                transition.acknowledgementIntent⟩)
          match transition.acknowledgementIntent with
          | none => finished none
          | some ids =>
              match copyIds ids with
              | .error error => (committed, .error error)
              | .ok copied => finished (some copied)

/-! ## Acknowledgement leases -/

/-- The owner after handing out a lease with a fresh identity. -/
def withLease (ids : BoundedDeliveryIds) :
    DeterministicReceiveStateOwner :=
  { self with
    validCommit := none
    leased := some ⟨self.nextIdentity, binding, ids.ids⟩
    nextIdentity := self.nextIdentity + 1 }

/-- The commit evidence is the one the committed page stands for. -/
def evidenceMatches (committed : CommittedReceivePage) : Bool :=
  match self.validCommit with
  | none => false
  | some evidence =>
      evidence.nonce = committed.nonce ∧ evidence.revision = committed.revision ∧
        evidence.binding = committed.binding ∧
        evidence.deliveryIds =
          (committed.acknowledgementIntent.map BoundedDeliveryIds.ids).getD []

def leaseAcknowledgement (committed : CommittedReceivePage) (nowUnixSeconds : Nat) :
    DeterministicReceiveStateOwner ×
      Except DeterministicReceiveStateError (Option AcknowledgementLease) :=
  if self.owner ≠ committed.owner ∨ committed.binding.expiresAtUnixSeconds ≤ nowUnixSeconds then
    (self, .error ⟨⟩)
  else if ¬self.evidenceMatches committed ∨ self.leased.isSome then (self, .error ⟨⟩)
  else
    -- the evidence is spent here, whatever follows
    match committed.acknowledgementIntent with
    | none => ({ self with validCommit := none }, .ok none)
    | some deliveryIds =>
        if ¬self.intends committed.binding deliveryIds.ids then
          ({ self with validCommit := none }, .error ⟨⟩)
        else
          match copyIds deliveryIds with
          | .error error => ({ self with validCommit := none }, .error error)
          | .ok leaseCopy =>
              (self.withLease committed.binding deliveryIds,
                .ok (some ⟨self.nextIdentity, committed.binding, leaseCopy⟩))

def recoverAcknowledgement (nowUnixSeconds : Nat) :
    DeterministicReceiveStateOwner ×
      Except DeterministicReceiveStateError (Option AcknowledgementLease) :=
  if binding.expiresAtUnixSeconds ≤ nowUnixSeconds ∨ self.leased.isSome then (self, .error ⟨⟩)
  else
    match self.recoverable with
    | none => (self, .ok none)
    | some (persistedBinding, deliveryIds) =>
        if persistedBinding ≠ binding then (self, .ok none)
        else
          match copyIds deliveryIds with
          | .error error => (self, .error error)
          | .ok leaseIds =>
              (self.withLease persistedBinding deliveryIds,
                .ok (some ⟨self.nextIdentity, persistedBinding, leaseIds⟩))

def acceptAcknowledgement (lease : AcknowledgementLease) :
    DeterministicReceiveStateOwner × Except DeterministicReceiveStateError Unit :=
  if ¬self.leaseIsValid lease then (self, .error ⟨⟩)
  else if ¬self.intends lease.binding lease.deliveryIds.ids then (self, .error ⟨⟩)
  else ({ self with validCommit := none, recoverable := none, leased := none }, .ok ())

def releaseAcknowledgement (lease : AcknowledgementLease) :
    DeterministicReceiveStateOwner × Except DeterministicReceiveStateError Unit :=
  if ¬self.leaseIsValid lease then (self, .error ⟨⟩)
  else ({ self with leased := none }, .ok ())

end DeterministicReceiveStateOwner

end SessionChat.Mailbox
