import SessionChat.Mailbox.Provider
import SessionChat.MemoryTransport.Model
import SessionChat.Transition.Run

/-!
# The dispatch interface of the memory transport (`crates/transport-memory/src/lib.rs`)

The generalized operations, which read the clocks at a first and a last checkpoint, and
the calls of both interfaces as one machine.
-/

set_option autoImplicit false

namespace SessionChat.MemoryTransport

open Collections Control Protocol Transition
  Transport Mailbox Mailbox.DeterministicLifecycleProvider
  Storage

def mapMemoryFailure (error : MemoryTransportError) : TransportFailure :=
  match error with
  | .invalidPolicy => failure .misconfigured
  | .capacityExceeded => failure .queueFull
  | .rejected => failure .internal
  | .providerFailure => failure .internal

namespace DeterministicMemoryTransport

variable (digests : MemoryDigests)

/-! ## Deposit -/

variable (self : DeterministicMemoryTransport)

/-- The envelope of a request that the mailbox may accept, and the time it was checked at. -/
def checkDispatchDeposit (endpoint : MemoryDepositEndpoint) (request : DepositRequest)
    (control : DispatchControl) :
    Except TransportFailure (Envelope × Nat) := do
  let observation ← control.first.checkpoint request.budget
  let now := observation.wallNowUnixSeconds
  refuse (self.availability = .unavailable) (failure .unavailable)
  let canonical := request.envelope
  refuse (canonical.expiresAtUnixSeconds ≤ now ∨
    endpoint.expiresAtUnixSeconds < canonical.expiresAtUnixSeconds) (failure .expiredEnvelope)
  let record ← require (self.unlockDeposit digests endpoint) (failure .invalidAuthority)
  refuse (endpoint.expiresAtUnixSeconds ≤ now) (failure .invalidAuthority)
  refuse (∃ accepted ∈ record.accepted.get? canonical.envelopeId,
    accepted.envelopeDigest ≠ digests.envelope canonical.bytes) (failure .idempotencyConflict)
  match h : OpaqueEnvelope.decodeCanonical canonical.bytes with
  | .error _ => throw (failure .corruptRemoteResponse)
  | .ok envelope => return (⟨envelope, OpaqueEnvelope.valid_of_decodeCanonical h⟩, now)

/-- `EnvelopeDelivery::deposit`; the last checkpoint comes after the deposit. -/
def dispatchDeposit (endpoint : MemoryDepositEndpoint) (request : DepositRequest)
    (control : DispatchControl) (draw : Option Id16) :
    DeterministicMemoryTransport × Except TransportFailure DeliveryId :=
  match self.checkDispatchDeposit digests endpoint request control with
  | .error error => (self, .error error)
  | .ok (envelope, now) =>
      match self.deposit digests endpoint envelope now draw with
      | (self, .error error) => (self, .error (mapMemoryFailure error))
      | (self, .ok deliveryId) =>
          match control.last.checkpoint request.budget with
          | .error error => (self, .error error)
          | .ok _ => (self, .ok deliveryId)

/-! ## Poll -/

structure PollProgress where
  items : List ReceivedCanonicalEnvelope
  expiredIds : List DeliveryId
  encodedBytes : Nat

def PollProgress.start : PollProgress := ⟨[], [], 0⟩

variable (progress : PollProgress)

def PollProgress.find (deliveryId : DeliveryId) :
    Option ReceivedCanonicalEnvelope :=
  progress.items.find? fun item => decide (item.deliveryId = deliveryId)

def PollProgress.push (deliveryId : DeliveryId) (canonical : CanonicalEnvelope) : PollProgress :=
  { progress with
    items := progress.items ++ [⟨deliveryId, canonical⟩]
    encodedBytes := progress.encodedBytes + canonical.bytes.length }

/-- The item is added unless it exceeds the byte limit, which ends the loop; a first item that
does not fit is an error. -/
def PollProgress.pushWithin (maxEncodedBytes : Nat) (deliveryId : DeliveryId)
    (canonical : CanonicalEnvelope) :
    Except TransportFailure (Option PollProgress) :=
  if maxEncodedBytes < progress.encodedBytes + canonical.bytes.length then
    if progress.items.isEmpty then .error (failure .envelopeTooLarge) else .ok none
  else .ok (some (progress.push deliveryId canonical))

def canonicalOf (envelope : Envelope) : Except TransportFailure CanonicalEnvelope :=
  orElse (CanonicalEnvelope.fromOpaque envelope.val envelope.property)
    (failure .corruptRemoteResponse)

def collectVisible (record : MemoryMailboxRecord) (now maxEncodedBytes : Nat) :
    List DeliveryId → PollProgress → Except TransportFailure PollProgress
  | [], progress => .ok progress
  | deliveryId :: rest, progress =>
      match record.find deliveryId with
      | none => collectVisible record now maxEncodedBytes rest progress
      | some (_, accepted) =>
          match accepted.envelope with
          | none => collectVisible record now maxEncodedBytes rest progress
          | some envelope =>
              if (progress.find deliveryId).isSome then
                collectVisible record now maxEncodedBytes rest progress
              else if envelope.val.expiresAtUnixSeconds ≤ now then
                collectVisible record now maxEncodedBytes rest
                  { progress with expiredIds := progress.expiredIds ++ [deliveryId] }
              else
                match canonicalOf envelope with
                | .error error => .error error
                | .ok canonical =>
                    match progress.pushWithin maxEncodedBytes deliveryId canonical with
                    | .error error => .error error
                    | .ok none => .ok progress
                    | .ok (some next) => collectVisible record now maxEncodedBytes rest next

def collectStale (mailboxId : Id16) (now maxEnvelopes maxEncodedBytes : Nat) :
    List StaleReplay → PollProgress → Except TransportFailure PollProgress
  | [], progress => .ok progress
  | replay :: rest, progress =>
      if replay.mailboxId ≠ mailboxId then
        collectStale mailboxId now maxEnvelopes maxEncodedBytes rest progress
      else if maxEnvelopes ≤ progress.items.length then .ok progress
      else if replay.envelope.val.expiresAtUnixSeconds ≤ now then
        collectStale mailboxId now maxEnvelopes maxEncodedBytes rest progress
      else
        match canonicalOf replay.envelope with
        | .error error => .error error
        | .ok canonical =>
            match progress.find replay.deliveryId with
            | some existing =>
                if existing.envelope.bytes ≠ canonical.bytes then
                  .error (failure .corruptRemoteResponse)
                else collectStale mailboxId now maxEnvelopes maxEncodedBytes rest progress
            | none =>
                match progress.pushWithin maxEncodedBytes replay.deliveryId canonical with
                | .error error => .error error
                | .ok none => .ok progress
                | .ok (some next) =>
                    collectStale mailboxId now maxEnvelopes maxEncodedBytes rest next

/-- Stale replays are added as far as the visible deliveries left room. -/
def collectReplays (mailboxId : Id16) (now : Nat) (request : PollRequest) (visible : PollProgress) :
    Except TransportFailure PollProgress :=
  if visible.items.length < request.maxEnvelopes then
    collectStale mailboxId now request.maxEnvelopes request.maxEncodedBytes self.staleReplays
      visible
  else .ok visible

/-- The mailbox a poll may read, and the time it was checked at. -/
def checkPoll (authority : MemoryReceiveCapability) (request : PollRequest)
    (control : DispatchControl) :
    Except TransportFailure (MemoryMailboxRecord × Nat) := do
  let observation ← control.first.checkpoint request.budget
  let now := observation.wallNowUnixSeconds
  refuse request.receiveBinding.isSome (failure .authorityScopeMismatch)
  refuse (self.availability = .unavailable) (failure .unavailable)
  let record ← require (self.unlockReceive digests authority) (failure .invalidAuthority)
  refuse (authority.expiresAtUnixSeconds ≤ now) (failure .invalidAuthority)
  refuse request.cursor.isSome (failure .invalidCursor)
  return (record, now)

/-- The armed corruption is one that this poll would return. -/
def CorruptTargetVisible (mailboxId : Id16) (record : MemoryMailboxRecord) : Prop :=
  ∃ target ∈ self.corruptNextPoll, target.mailboxId = mailboxId ∧
    (target.deliveryId ∈ record.visible ∨ self.StaleVisible mailboxId target.deliveryId)
deriving Decidable

/-- The batch of a poll, what it found expired and the later of its two times. -/
def gather (mailboxId : Id16) (record : MemoryMailboxRecord) (now : Nat) (request : PollRequest)
    (control : DispatchControl) :
    Except TransportFailure (ReceiveBatch × List DeliveryId × Nat) := do
  let visible ← collectVisible record now request.maxEncodedBytes
    (record.visible.take request.maxEnvelopes) .start
  let progress ← self.collectReplays mailboxId now request visible
  let last ← control.last.checkpoint request.budget
  let finalNow := max now last.wallNowUnixSeconds
  let kept := progress.items.filter fun item =>
    decide (finalNow < item.envelope.expiresAtUnixSeconds)
  let expired := progress.items.filter fun item =>
    decide (item.envelope.expiresAtUnixSeconds ≤ finalNow)
  let batch ← orElse (ReceiveBatch.new kept none request finalNow) (failure .corruptRemoteResponse)
  return (batch, progress.expiredIds ++ expired.map ReceivedCanonicalEnvelope.deliveryId, finalNow)

/-- What a poll removes: the expired envelopes, their copies and their replays. -/
def sweep (mailboxId : Id16) (record : MemoryMailboxRecord) (expiredIds : List DeliveryId)
    (finalNow : Nat) : DeterministicMemoryTransport :=
  let dropped := expiredIds.foldl MemoryMailboxRecord.dropEnvelope record
  { self.withMailbox mailboxId
      { dropped with
        visible := dropped.visible.filter fun deliveryId =>
          decide (dropped.DeliveryIsLive deliveryId finalNow) } with
    corruptNextPoll := self.corruptNextPoll.filter fun target =>
      decide (target.mailboxId ≠ mailboxId ∨ target.deliveryId ∉ expiredIds)
    staleReplays := self.staleReplays.filter fun replay =>
      decide (replay.mailboxId ≠ mailboxId ∨ finalNow < replay.envelope.val.expiresAtUnixSeconds) }

def poll (authority : MemoryReceiveCapability) (request : PollRequest) (control : DispatchControl) :
    DeterministicMemoryTransport × Except TransportFailure ReceiveBatch :=
  match self.checkPoll digests authority request control with
  | .error error => (self, .error error)
  | .ok (record, now) =>
      if self.CorruptTargetVisible authority.mailboxId record then
        ({ self with corruptNextPoll := none }, .error (failure .corruptRemoteResponse))
      else
        match self.gather authority.mailboxId record now request control with
        | .error error => (self, .error error)
        | .ok (batch, expiredIds, finalNow) =>
            (self.sweep authority.mailboxId record expiredIds finalNow, .ok batch)

/-! ## Acknowledge -/

/-- The mailbox an acknowledgement may change; the right is checked at both times. -/
def checkDispatchAcknowledge (authority : MemoryAcknowledgementCapability)
    (request : AcknowledgementRequest) (control : DispatchControl) :
    Except TransportFailure MemoryMailboxRecord := do
  let observation ← control.first.checkpoint request.budget
  let now := observation.wallNowUnixSeconds
  refuse (self.availability = .unavailable) (failure .unavailable)
  let record ← require (self.unlockAcknowledgement digests authority) (failure .invalidAuthority)
  refuse (authority.expiresAtUnixSeconds ≤ now) (failure .invalidAuthority)
  let last ← control.last.checkpoint request.budget
  refuse (authority.expiresAtUnixSeconds ≤ max now last.wallNowUnixSeconds)
    (failure .invalidAuthority)
  return record

/-- `EnvelopeDelivery::acknowledge`; an armed loss is consumed whether or not the deletion
takes place. -/
def dispatchAcknowledge (authority : MemoryAcknowledgementCapability)
    (request : AcknowledgementRequest) (control : DispatchControl) :
    DeterministicMemoryTransport × Except TransportFailure Unit :=
  match self.checkDispatchAcknowledge digests authority request control with
  | .error error => (self, .error error)
  | .ok record =>
      let disarmed := { self with acknowledgementLoss := none }
      let discarded := disarmed.discard authority.mailboxId record request.deliveryIds.ids
      match self.acknowledgementLoss with
      | some .beforeCommit => (disarmed, .error (failure .unavailable))
      | some .afterCommit => (discarded, .error (failure .unavailable))
      | none => (discarded, .ok ())

end DeterministicMemoryTransport

/-! ## One machine -/

/-- A call of either interface or of the fault controls. -/
inductive MemoryCall where
  | queueAction (action : DeliveryAction)
  | setAvailability (availability : MemoryAvailability)
  | corruptNextPoll (authority : MemoryReceiveCapability) (deliveryId : DeliveryId)
  | replayStale (authority : MemoryReceiveCapability) (deliveryId : DeliveryId)
      (envelope : Envelope)
  | loseNextAcknowledgement (loss : AcknowledgementLoss)
  | createMailbox (expiresAt now : Nat) (draws : DeterministicMemoryTransport.MailboxDraws)
  | releaseHeld (index now : Nat)
  | deposit (endpoint : MemoryDepositEndpoint) (envelope : Envelope) (now : Nat)
      (draw : Option Id16)
  | receive (authority : MemoryReceiveCapability) (now : Nat)
  | acknowledge (authority : MemoryAcknowledgementCapability) (deliveryId : DeliveryId)
      (now : Nat)
  | dispatchDeposit (endpoint : MemoryDepositEndpoint) (request : DepositRequest)
      (control : DispatchControl) (draw : Option Id16)
  | poll (authority : MemoryReceiveCapability) (request : PollRequest)
      (control : DispatchControl)
  | dispatchAcknowledge (authority : MemoryAcknowledgementCapability)
      (request : AcknowledgementRequest) (control : DispatchControl)

inductive MemoryReply where
  | controlled (result : Except MemoryTransportError Unit)
  | created (result : Except MemoryTransportError MemoryMailbox)
  | released (result : Except MemoryTransportError DeliveryId)
  | deposited (result : Except MemoryTransportError DeliveryId)
  | received (result : Except MemoryTransportError (Option (DeliveryId × Envelope)))
  | acknowledged (result : Except MemoryTransportError Unit)
  | dispatchDeposited (result : Except TransportFailure DeliveryId)
  | polled (result : Except TransportFailure ReceiveBatch)
  | dispatchAcknowledged (result : Except TransportFailure Unit)

abbrev MemoryWorld := World DeterministicMemoryTransport MemoryCall MemoryReply

def MemoryReply.opens? : MemoryReply → Option Id16
  | .created (.ok mailbox) => some mailbox.deposit.mailboxId
  | _ => none

/-- The delivery that a call injects as a stale replay. -/
def MemoryCall.replays? : MemoryCall → Option (Id16 × DeliveryId)
  | .replayStale authority deliveryId _ => some (authority.mailboxId, deliveryId)
  | _ => none

namespace DeterministicMemoryTransport

/-- A control that fails leaves the transport as it was. -/
def controlled (self : DeterministicMemoryTransport)
    (result : Except MemoryTransportError DeterministicMemoryTransport) :
    DeterministicMemoryTransport × MemoryReply :=
  match result with
  | .error error => (self, .controlled (.error error))
  | .ok self => (self, .controlled (.ok ()))

def call (digests : MemoryDigests) (self : DeterministicMemoryTransport) :
    MemoryCall → DeterministicMemoryTransport × MemoryReply
  | .queueAction action => self.controlled (self.queueAction action)
  | .setAvailability availability => self.controlled (.ok (self.setAvailability availability))
  | .corruptNextPoll authority deliveryId =>
      self.controlled (self.corruptPoll digests authority deliveryId)
  | .replayStale authority deliveryId envelope =>
      self.controlled (self.replayStale digests authority deliveryId envelope)
  | .loseNextAcknowledgement loss => self.controlled (self.loseNextAcknowledgement loss)
  | .createMailbox expiresAt now draws =>
      (self.createMailbox digests expiresAt now draws).map id .created
  | .releaseHeld index now => (self.releaseHeld index now).map id .released
  | .deposit endpoint envelope now draw =>
      (self.deposit digests endpoint envelope now draw).map id .deposited
  | .receive authority now => (self.receive digests authority now).map id .received
  | .acknowledge authority deliveryId now =>
      (self.acknowledge digests authority deliveryId now).map id .acknowledged
  | .dispatchDeposit endpoint request control draw =>
      (self.dispatchDeposit digests endpoint request control draw).map id .dispatchDeposited
  | .poll authority request control => (self.poll digests authority request control).map id .polled
  | .dispatchAcknowledge authority request control =>
      (self.dispatchAcknowledge digests authority request control).map id .dispatchAcknowledged

end DeterministicMemoryTransport

end SessionChat.MemoryTransport
