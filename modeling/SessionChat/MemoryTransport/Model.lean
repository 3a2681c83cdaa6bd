import SessionChat.Collections.OrderedMap
import SessionChat.Control.Fallible
import SessionChat.Mailbox.Contract

/-!
# The deterministic memory transport (`crates/transport-memory/src/lib.rs`)

Mailboxes that retain several envelopes, with control over each accepted delivery attempt.
An accepted envelope keeps its delivery identifier as long as the mailbox lives; the copies of
a delivery wait in the visible queue of the mailbox or in the held queue of the transport, and
stale replays are a queue of their own. Digests and random draws are parameters.
-/

set_option autoImplicit false

namespace SessionChat.MemoryTransport

open Collections Control Protocol Mailbox
  Storage

def maxMemoryMailboxLifetimeSeconds : Nat := 24 * 60 * 60

def maxMemoryLiveMailboxes : Nat := 64

def maxMemoryEnvelopesPerMailbox : Nat := 64

def maxMemoryDeliveryAttemptsPerEnvelope : Nat := 64

def maxMemoryRetainedCanonicalBytesPerMailbox : Nat := 4 * 1024 * 1024

inductive MemoryTransportError where
  | invalidPolicy
  | rejected
  | capacityExceeded
  | providerFailure
deriving DecidableEq

/-! ## Policy -/

/-- What `MemoryMailboxPolicy::new` checks of its arguments. -/
def PolicyBounds (lifetime mailboxes envelopes attempts : Nat) : Prop :=
  (0 < lifetime ∧ lifetime ≤ maxMemoryMailboxLifetimeSeconds) ∧
    (0 < mailboxes ∧ mailboxes ≤ maxMemoryLiveMailboxes) ∧
    (0 < envelopes ∧ envelopes ≤ maxMemoryEnvelopesPerMailbox) ∧
    (0 < attempts ∧ attempts ≤ maxMemoryDeliveryAttemptsPerEnvelope)
deriving Decidable

/-- Lifetime, storage and retry bounds; the bound on scheduled copies is derived. -/
structure MemoryMailboxPolicy where
  maximumLifetimeSeconds : Nat
  maximumLiveMailboxes : Nat
  maximumEnvelopesPerMailbox : Nat
  maximumDeliveryAttemptsPerEnvelope : Nat
  maximumScheduledDeliveriesPerMailbox : Nat
  bounded : PolicyBounds maximumLifetimeSeconds maximumLiveMailboxes maximumEnvelopesPerMailbox
    maximumDeliveryAttemptsPerEnvelope
  scheduled : maximumScheduledDeliveriesPerMailbox =
    maximumEnvelopesPerMailbox * maximumDeliveryAttemptsPerEnvelope * 2

/-- `MemoryMailboxPolicy::new`; the derived product is far below the machine's range. -/
def MemoryMailboxPolicy.new (lifetime mailboxes envelopes attempts : Nat) :
    Except MemoryTransportError MemoryMailboxPolicy :=
  if h : PolicyBounds lifetime mailboxes envelopes attempts then
    .ok ⟨lifetime, mailboxes, envelopes, attempts, envelopes * attempts * 2, h, rfl⟩
  else .error .invalidPolicy

/-! ## Fault controls -/

/-- What happens to the next accepted delivery attempt. -/
inductive DeliveryAction where
  | deliver
  | drop
  | hold
  | duplicate
deriving DecidableEq

/-- The copies an action schedules. -/
def DeliveryAction.slots : DeliveryAction → Nat
  | .deliver => 1
  | .hold => 1
  | .duplicate => 2
  | .drop => 0

inductive MemoryAvailability where
  | available
  | unavailable
deriving DecidableEq

/-- Whether a lost acknowledgement result is lost before or after the deletion. -/
inductive AcknowledgementLoss where
  | beforeCommit
  | afterCommit
deriving DecidableEq

/-! ## Authorities -/

/-- The fields of a right to one mailbox. -/
structure MemoryAuthority where
  transportInstanceId : Id16
  mailboxId : Id16
  secret : Bytes32
  expiresAtUnixSeconds : Nat

structure MemoryDepositEndpoint extends MemoryAuthority

structure MemoryReceiveCapability extends MemoryAuthority

structure MemoryAcknowledgementCapability extends MemoryAuthority

structure MemoryMailbox where
  deposit : MemoryDepositEndpoint
  receive : MemoryReceiveCapability
  acknowledgement : MemoryAcknowledgementCapability

/-- `domain_digest` at each of its four domains. -/
structure MemoryDigests where
  deposit : Bytes32 → Bytes32
  receive : Bytes32 → Bytes32
  acknowledgement : Bytes32 → Bytes32
  envelope : Bytes → Bytes32

/-! ## State -/

/-- An envelope the source's type can hold. -/
abbrev Envelope : Type := { envelope : OpaqueEnvelope // envelope.Valid }

/-- What a mailbox remembers of an envelope; the envelope itself is dropped when it is
acknowledged or seen after its expiry. -/
structure AcceptedEnvelope where
  envelopeDigest : Bytes32
  encodedLen : Nat
  deliveryId : DeliveryId
  envelope : Option Envelope
  attempts : Nat

namespace AcceptedEnvelope

variable (accepted : AcceptedEnvelope)

def dropped : AcceptedEnvelope :=
  { accepted with envelope := none }

def attemptedAgain : AcceptedEnvelope :=
  { accepted with attempts := accepted.attempts + 1 }

/-- The envelope is retained and has not expired. -/
def LiveAt (now : Nat) : Prop :=
  ∃ envelope ∈ accepted.envelope, now < envelope.val.expiresAtUnixSeconds
deriving Decidable

end AcceptedEnvelope

structure MemoryMailboxRecord where
  expiresAtUnixSeconds : Nat
  depositDigest : Bytes32
  receiveDigest : Bytes32
  acknowledgementDigest : Bytes32
  accepted : OrderedMap Id16 AcceptedEnvelope
  visible : List DeliveryId

structure StaleReplay where
  mailboxId : Id16
  deliveryId : DeliveryId
  envelope : Envelope
  encodedLen : Nat

structure CorruptPollTarget where
  mailboxId : Id16
  deliveryId : DeliveryId

structure DeterministicMemoryTransport where
  policy : MemoryMailboxPolicy
  transportInstanceId : Id16
  mailboxes : OrderedMap Id16 MemoryMailboxRecord
  actions : List DeliveryAction
  held : List (Id16 × DeliveryId)
  staleReplays : List StaleReplay
  availability : MemoryAvailability
  corruptNextPoll : Option CorruptPollTarget
  acknowledgementLoss : Option AcknowledgementLoss

/-- `random_nonzero`; an absent draw is a failure of the provider. -/
def randomNonzero {w : Nat} (draw : Option (BitVec w)) :
    Except MemoryTransportError (Mailbox.NonZero w) :=
  match draw with
  | none => .error .providerFailure
  | some bytes => Mailbox.NonZero.new .providerFailure bytes

namespace MemoryMailboxRecord

variable (record : MemoryMailboxRecord) (deliveryId : DeliveryId)

def find :
    Option (Id16 × AcceptedEnvelope) :=
  record.accepted.find? fun _ accepted => decide (accepted.deliveryId = deliveryId)

/-- The envelope of a delivery is no longer retained. -/
def dropEnvelope : MemoryMailboxRecord :=
  match record.find deliveryId with
  | none => record
  | some (envelopeId, _) =>
      { record with accepted := record.accepted.modify envelopeId AcceptedEnvelope.dropped }

/-- No copy of the delivery remains visible. -/
def withdraw : MemoryMailboxRecord :=
  { record with visible := record.visible.filter fun candidate => decide (candidate ≠ deliveryId) }

def DeliveryIsLive (now : Nat) : Prop :=
  ∃ entry ∈ record.accepted.entries, entry.2.deliveryId = deliveryId ∧ entry.2.LiveAt now
deriving Decidable

def retainedEncodedBytes : Nat :=
  record.accepted.sum fun _ accepted => if accepted.envelope.isSome then accepted.encodedLen else 0

end MemoryMailboxRecord

namespace DeterministicMemoryTransport

/-- An adapter without mailboxes and without faults. -/
def fresh (policy : MemoryMailboxPolicy) (transportInstanceId : Mailbox.NonZero 128) :
    DeterministicMemoryTransport where
  policy := policy
  transportInstanceId := transportInstanceId.val
  mailboxes := .empty
  actions := []
  held := []
  staleReplays := []
  availability := .available
  corruptNextPoll := none
  acknowledgementLoss := none

def new (policy : MemoryMailboxPolicy) (draw : Option Id16) :
    Except MemoryTransportError DeterministicMemoryTransport := do
  return fresh policy (← randomNonzero draw)

variable (digests : MemoryDigests) (self : DeterministicMemoryTransport)

/-- The mailbox of a right whose secret has the stored digest; a right of another transport
or another lifetime opens none. -/
def unlock (authority : MemoryAuthority) (stored : MemoryMailboxRecord → Bytes32)
    (digest : Bytes32 → Bytes32) : Option MemoryMailboxRecord :=
  match self.mailboxes.get? authority.mailboxId with
  | none => none
  | some record =>
      if authority.transportInstanceId = self.transportInstanceId ∧
          record.expiresAtUnixSeconds = authority.expiresAtUnixSeconds ∧
          stored record = digest authority.secret then some record
      else none

variable (endpoint : MemoryDepositEndpoint)

def unlockDeposit : Option MemoryMailboxRecord :=
  self.unlock endpoint.toMemoryAuthority (·.depositDigest) digests.deposit

def unlockReceive (authority : MemoryReceiveCapability) : Option MemoryMailboxRecord :=
  self.unlock authority.toMemoryAuthority (·.receiveDigest) digests.receive

def unlockAcknowledgement (authority : MemoryAcknowledgementCapability) :
    Option MemoryMailboxRecord :=
  self.unlock authority.toMemoryAuthority (·.acknowledgementDigest) digests.acknowledgement

def withMailbox (mailboxId : Id16) (record : MemoryMailboxRecord) : DeterministicMemoryTransport :=
  { self with mailboxes := self.mailboxes.modify mailboxId fun _ => record }

/-! ## Controls of the test harness -/

def queueAction (action : DeliveryAction) :
    Except MemoryTransportError DeterministicMemoryTransport :=
  if self.policy.maximumDeliveryAttemptsPerEnvelope ≤ self.actions.length then
    .error .capacityExceeded
  else .ok { self with actions := self.actions ++ [action] }

def setAvailability (availability : MemoryAvailability) : DeterministicMemoryTransport :=
  { self with availability }

variable (authority : MemoryReceiveCapability)

def faultMailbox :
    Except MemoryTransportError MemoryMailboxRecord :=
  require (self.unlockReceive digests authority) .rejected

/-- A stale replay of the delivery waits for the mailbox. -/
def StaleVisible (mailboxId : Id16) (deliveryId : DeliveryId) : Prop :=
  ∃ replay ∈ self.staleReplays, replay.mailboxId = mailboxId ∧ replay.deliveryId = deliveryId
deriving Decidable

def corruptPoll (deliveryId : DeliveryId) :
    Except MemoryTransportError DeterministicMemoryTransport := do
  refuse self.corruptNextPoll.isSome .capacityExceeded
  let record ← self.faultMailbox digests authority
  refuse (deliveryId ∉ record.visible ∧ ¬self.StaleVisible authority.mailboxId deliveryId)
    .rejected
  return { self with corruptNextPoll := some ⟨authority.mailboxId, deliveryId⟩ }

def retainedReplays (mailboxId : Id16) : List StaleReplay :=
  self.staleReplays.filter fun replay => decide (replay.mailboxId = mailboxId)

def replayStale (deliveryId : DeliveryId) (envelope : Envelope) :
    Except MemoryTransportError DeterministicMemoryTransport := do
  let encoded ← orElse envelope.val.encodeCanonical .rejected
  let record ← self.faultMailbox digests authority
  let (_, accepted) ← require (record.find deliveryId) .rejected
  refuse (accepted.envelopeDigest ≠ digests.envelope encoded) .rejected
  let replays := self.retainedReplays authority.mailboxId
  refuse (self.policy.maximumScheduledDeliveriesPerMailbox ≤ replays.length) .capacityExceeded
  refuse (maxMemoryRetainedCanonicalBytesPerMailbox <
    (replays.map StaleReplay.encodedLen).sum + encoded.length) .capacityExceeded
  return { self with
    staleReplays := self.staleReplays ++
      [⟨authority.mailboxId, deliveryId, envelope, encoded.length⟩] }

def loseNextAcknowledgement (loss : AcknowledgementLoss) :
    Except MemoryTransportError DeterministicMemoryTransport :=
  if self.acknowledgementLoss.isSome then .error .capacityExceeded
  else .ok { self with acknowledgementLoss := some loss }

/-! ## Mailboxes -/

structure MailboxDraws where
  mailboxId : Option Id16
  depositSecret : Option Bytes32
  receiveSecret : Option Bytes32
  acknowledgementSecret : Option Bytes32

def live (now : Nat) : OrderedMap Id16 MemoryMailboxRecord :=
  self.mailboxes.retain fun _ record => decide (now < record.expiresAtUnixSeconds)

/-- The rights and the empty record of a new mailbox. -/
def drawMailbox (expiresAt now : Nat) (draws : MailboxDraws) :
    Except MemoryTransportError (MemoryMailbox × MemoryMailboxRecord) := do
  refuse (expiresAt ≤ now ∨ self.policy.maximumLifetimeSeconds < expiresAt - now) .rejected
  refuse (self.policy.maximumLiveMailboxes ≤ (self.live now).size) .capacityExceeded
  let mailboxId ← randomNonzero draws.mailboxId
  refuse (self.mailboxes.get? mailboxId.val).isSome .providerFailure
  let deposit ← randomNonzero draws.depositSecret
  let receive ← randomNonzero draws.receiveSecret
  let acknowledgement ← randomNonzero draws.acknowledgementSecret
  refuse (deposit = receive ∨ deposit = acknowledgement ∨ receive = acknowledgement)
    .providerFailure
  let authority (secret : Bytes32) : MemoryAuthority :=
    ⟨self.transportInstanceId, mailboxId.val, secret, expiresAt⟩
  return (⟨⟨authority deposit.val⟩, ⟨authority receive.val⟩, ⟨authority acknowledgement.val⟩⟩,
    { expiresAtUnixSeconds := expiresAt
      depositDigest := digests.deposit deposit.val
      receiveDigest := digests.receive receive.val
      acknowledgementDigest := digests.acknowledgement acknowledgement.val
      accepted := .empty
      visible := [] })

/-- A new mailbox takes its place; expired ones are pruned, with everything that waits for
them. -/
def openMailbox (now : Nat) (mailboxId : Id16) (record : MemoryMailboxRecord) :
    DeterministicMemoryTransport :=
  let kept := self.live now
  { self with
    held := self.held.filter fun entry =>
      (kept.get? entry.1).isSome || decide (entry.1 = mailboxId)
    staleReplays := self.staleReplays.filter fun replay => (kept.get? replay.mailboxId).isSome
    corruptNextPoll := self.corruptNextPoll.filter fun target =>
      (kept.get? target.mailboxId).isSome
    mailboxes := kept.insert mailboxId record }

def createMailbox (expiresAt now : Nat) (draws : MailboxDraws) :
    DeterministicMemoryTransport × Except MemoryTransportError MemoryMailbox :=
  match self.drawMailbox digests expiresAt now draws with
  | .error error => (self, .error error)
  | .ok (mailbox, record) => (self.openMailbox now mailbox.deposit.mailboxId record, .ok mailbox)

/-- The held copy at a place of the queue becomes visible. -/
def reveal (index : Nat) (mailboxId : Id16) (record : MemoryMailboxRecord)
      (deliveryId : DeliveryId) : DeterministicMemoryTransport :=
  { self.withMailbox mailboxId { record with visible := record.visible ++ [deliveryId] } with
    held := self.held.eraseIdx index }

/-- `release_held`; the index is a place in the one queue of the transport. -/
def releaseHeld (index now : Nat) :
    DeterministicMemoryTransport × Except MemoryTransportError DeliveryId :=
  match self.held[index]? with
  | none => (self, .error .rejected)
  | some (mailboxId, deliveryId) =>
      match self.mailboxes.get? mailboxId with
      | none => (self, .error .rejected)
      | some record =>
          if record.expiresAtUnixSeconds ≤ now ∨ ¬record.DeliveryIsLive deliveryId now then
            (self, .error .rejected)
          else (self.reveal index mailboxId record deliveryId, .ok deliveryId)

/-! ## Scheduling -/

variable (mailboxId : Id16)

def heldFor : List DeliveryId :=
  (self.held.filter fun entry => decide (entry.1 = mailboxId)).map Prod.snd

def scheduledCount : Nat :=
  ((self.mailboxes.get? mailboxId).map fun record => record.visible.length).getD 0 +
    (self.heldFor mailboxId).length

/-- The capacity test, made before a deposit and again when it is scheduled. -/
def Saturated (action : DeliveryAction) : Prop :=
  self.policy.maximumScheduledDeliveriesPerMailbox <
    self.scheduledCount mailboxId + action.slots
deriving Decidable

/-- `count` copies become visible. -/
def makeVisible (deliveryId : DeliveryId) (count : Nat) :
    Except MemoryTransportError DeterministicMemoryTransport := do
  let record ← require (self.mailboxes.get? mailboxId) .rejected
  return self.withMailbox mailboxId
    { record with visible := record.visible ++ List.replicate count deliveryId }

def schedule (deliveryId : DeliveryId) (action : DeliveryAction) :
    Except MemoryTransportError DeterministicMemoryTransport := do
  refuse (self.Saturated mailboxId action) .capacityExceeded
  match action with
  | .deliver => self.makeVisible mailboxId deliveryId 1
  | .drop => return self
  | .hold => return { self with held := self.held ++ [(mailboxId, deliveryId)] }
  | .duplicate => self.makeVisible mailboxId deliveryId 2

/-! ## Deposit -/

/-- The refusals of a deposit that do not look at the mailbox. -/
def Misdirected (envelope : Envelope) (now : Nat) : Prop :=
  endpoint.transportInstanceId ≠ self.transportInstanceId ∨
    endpoint.expiresAtUnixSeconds ≤ now ∨ envelope.val.expiresAtUnixSeconds ≤ now ∨
    endpoint.expiresAtUnixSeconds < envelope.val.expiresAtUnixSeconds ∨
    envelope.val.envelopeId = 0
deriving Decidable

/-- The action that the next accepted attempt takes. -/
def nextAction : DeliveryAction :=
  self.actions.head?.getD .deliver

/-- How a deposit that passed every check is answered: a delivery already acknowledged is
named again, any other attempt leaves a changed record and is scheduled. -/
inductive DepositDecision where
  | settled (deliveryId : DeliveryId)
  | attempt (record : MemoryMailboxRecord) (deliveryId : DeliveryId)

def decideRepeated (record : MemoryMailboxRecord) (envelopeId : Id16) (accepted : AcceptedEnvelope)
    (envelopeDigest : Bytes32) :
    Except MemoryTransportError DepositDecision := do
  refuse (accepted.envelopeDigest ≠ envelopeDigest) .rejected
  if accepted.envelope = none then return .settled accepted.deliveryId
  refuse (self.policy.maximumDeliveryAttemptsPerEnvelope ≤ accepted.attempts) .capacityExceeded
  return .attempt
    { record with
      accepted := record.accepted.modify envelopeId AcceptedEnvelope.attemptedAgain }
    accepted.deliveryId

def decideFirst (record : MemoryMailboxRecord) (envelope : Envelope) (encoded : Bytes)
    (draw : Option Id16) :
    Except MemoryTransportError DepositDecision := do
  refuse (self.policy.maximumEnvelopesPerMailbox ≤ record.accepted.size) .capacityExceeded
  refuse (maxMemoryRetainedCanonicalBytesPerMailbox <
    record.retainedEncodedBytes + encoded.length) .capacityExceeded
  let deliveryId ← randomNonzero draw
  refuse (record.find deliveryId).isSome .providerFailure
  return .attempt
    { record with
      accepted := record.accepted.insert envelope.val.envelopeId
        { envelopeDigest := digests.envelope encoded
          encodedLen := encoded.length
          deliveryId
          envelope := some envelope
          attempts := 1 } }
    deliveryId

/-- The checks of `deposit`, in order. -/
def decideDeposit (envelope : Envelope) (now : Nat) (draw : Option Id16) :
    Except MemoryTransportError DepositDecision := do
  refuse (self.Misdirected endpoint envelope now) .rejected
  let encoded ← orElse envelope.val.encodeCanonical .rejected
  let record ← require (self.unlockDeposit digests endpoint) .rejected
  -- Capacity is reported only after the secret is verified.
  refuse (self.Saturated endpoint.mailboxId self.nextAction) .capacityExceeded
  match record.accepted.get? envelope.val.envelopeId with
  | some accepted =>
      self.decideRepeated record envelope.val.envelopeId accepted (digests.envelope encoded)
  | none => self.decideFirst digests record envelope encoded draw

/-- The state in which an attempt is scheduled: its action is consumed. -/
def attempted (mailboxId : Id16) (record : MemoryMailboxRecord) : DeterministicMemoryTransport :=
  { self.withMailbox mailboxId record with actions := self.actions.tail }

def deposit (envelope : Envelope) (now : Nat) (draw : Option Id16) :
    DeterministicMemoryTransport × Except MemoryTransportError DeliveryId :=
  match self.decideDeposit digests endpoint envelope now draw with
  | .error error => (self, .error error)
  | .ok (.settled deliveryId) => (self, .ok deliveryId)
  | .ok (.attempt record deliveryId) =>
      let attempted := self.attempted endpoint.mailboxId record
      -- A scheduling failure would leave the attempt behind.
      match attempted.schedule endpoint.mailboxId deliveryId self.nextAction with
      | .error error => (attempted, .error error)
      | .ok scheduled => (scheduled, .ok deliveryId)

/-! ## Receive -/

/-- The loop of `receive`: entries at the front that are unknown, dropped or expired are
removed until a live one is found. Each round removes an entry, so the length of the queue
is enough fuel. -/
def receiveFront (now : Nat) : Nat → MemoryMailboxRecord →
    MemoryMailboxRecord × Option (DeliveryId × Envelope)
  | 0, record => (record, none)
  | fuel + 1, record =>
      match record.visible with
      | [] => (record, none)
      | deliveryId :: rest =>
          match record.find deliveryId with
          | none => receiveFront now fuel { record with visible := rest }
          | some (_, accepted) =>
              match accepted.envelope with
              | none => receiveFront now fuel { record with visible := rest }
              | some envelope =>
                  if envelope.val.expiresAtUnixSeconds ≤ now then
                    receiveFront now fuel ((record.dropEnvelope deliveryId).withdraw deliveryId)
                  else (record, some (deliveryId, envelope))

def receive (authority : MemoryReceiveCapability) (now : Nat) : DeterministicMemoryTransport ×
      Except MemoryTransportError (Option (DeliveryId × Envelope)) :=
  if authority.expiresAtUnixSeconds ≤ now then (self, .error .rejected)
  else
    match self.unlockReceive digests authority with
    | none => (self, .error .rejected)
    | some record =>
        let (read, received) := receiveFront now record.visible.length record
        (self.withMailbox authority.mailboxId read, .ok received)

/-! ## Acknowledge -/

/-- The named deliveries are dropped from the mailbox, and every copy of them that waits for
it, wherever it waits. -/
def discard (mailboxId : Id16) (record : MemoryMailboxRecord) (deliveryIds : List DeliveryId) :
    DeterministicMemoryTransport :=
  { self.withMailbox mailboxId
      (deliveryIds.foldl (fun record id => (record.dropEnvelope id).withdraw id) record) with
    held := self.held.filter fun entry => decide (entry.1 ≠ mailboxId ∨ entry.2 ∉ deliveryIds)
    staleReplays := self.staleReplays.filter fun replay =>
      decide (replay.mailboxId ≠ mailboxId ∨ replay.deliveryId ∉ deliveryIds)
    corruptNextPoll := self.corruptNextPoll.filter fun target =>
      decide (target.mailboxId ≠ mailboxId ∨ target.deliveryId ∉ deliveryIds) }

def acknowledge (authority : MemoryAcknowledgementCapability) (deliveryId : DeliveryId) (now : Nat)
      : DeterministicMemoryTransport × Except MemoryTransportError Unit :=
  if authority.expiresAtUnixSeconds ≤ now then (self, .error .rejected)
  else
    match self.unlockAcknowledgement digests authority with
    | none => (self, .error .rejected)
    | some record =>
        if record.find deliveryId = none then (self, .error .rejected)
        else (self.discard authority.mailboxId record [deliveryId], .ok ())

end DeterministicMemoryTransport

end SessionChat.MemoryTransport
