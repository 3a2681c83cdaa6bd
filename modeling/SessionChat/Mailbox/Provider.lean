import SessionChat.Codec.Cbor
import SessionChat.Control.Fallible
import SessionChat.Mailbox.Lifecycle

/-!
# The deterministic lifecycle provider (`crates/transport-conformance/src/lifecycle_provider.rs`)

An in-memory provider of reusable mailboxes. A mailbox belongs to one generation
and is never removed; `active` holds the current generation of each continuity and
`rotations` the completed rotations, by which an exact retry is answered. All
material is drawn from one byte counter, which a failed operation may have
advanced.
-/

set_option autoImplicit false

namespace SessionChat.Mailbox

open Codec Control Transport Storage

/-- The binding and the four tokens of one generation. -/
structure GenerationMaterial where
  binding : CursorBinding
  deposit : BitVec 256
  receive : BitVec 256
  acknowledgement : BitVec 256
  rotation : BitVec 256
deriving DecidableEq

def GenerationMaterial.token (material : GenerationMaterial) : RightKind → BitVec 256
  | .deposit => material.deposit
  | .receive => material.receive
  | .acknowledgement => material.acknowledgement
  | .rotation => material.rotation

structure RotationRecord where
  rotationId : RotationId
  predecessor : CursorBinding
  mode : RotationMode
  successorExpiresAtUnixSeconds : Nat
  successor : GenerationMaterial

/-- One deposited envelope; its fields are those of a canonical envelope. -/
structure StoredDelivery where
  sequence : Nat
  deliveryId : DeliveryId
  envelopeId : Id16
  canonicalBytes : Bytes
  expiresAtUnixSeconds : Nat
  acknowledged : Bool
  canonical : ∃ envelope : CanonicalEnvelope, envelope.bytes = canonicalBytes ∧
    envelope.envelopeId = envelopeId ∧ envelope.expiresAtUnixSeconds = expiresAtUnixSeconds

structure MailboxState where
  material : GenerationMaterial
  retireAtUnixSeconds : Option Nat
  deliveries : List StoredDelivery

structure DeterministicLifecycleProvider where
  scope : Nat
  contract : LifecycleProviderContract
  nextMaterial : BitVec 8
  nextDeliverySequence : Nat
  mailboxes : List MailboxState
  active : List CursorBinding
  rotations : List RotationRecord

/-- What a control reports at the first and the last checkpoint of one operation. -/
structure DispatchControl where
  first : DispatchReading
  last : DispatchReading

def failure (code : TransportFailureCode) : TransportFailure := ⟨code, .never⟩

def authorities (material : GenerationMaterial) (scope : Nat) : MailboxAuthoritySet where
  binding := material.binding
  deposit := ⟨scope, material.binding, material.deposit⟩
  receive := ⟨scope, material.binding, material.receive⟩
  acknowledgement := ⟨scope, material.binding, material.acknowledgement⟩
  rotation := ⟨scope, material.binding, material.rotation⟩

/-! ## Drawing material -/

/-- A computation on the byte counter; what it has drawn stays drawn when it fails. -/
abbrev Draw (α : Type) := ExceptT TransportFailure (StateM (BitVec 8)) α

def takeMaterial : Draw (BitVec 8) := do
  let material ← get
  if material = 255 then throw (failure .queueFull)
  else
    set (material + 1)
    return material

/-- `map_err` to an internal failure. -/
def orInternal {ε α : Type} : Except ε α → Draw α
  | .ok value => pure value
  | .error _ => throw (failure .internal)

theorem providerStateEpochV1_ne_zero : (1 : BitVec 64) ≠ 0 := by decide

def providerStateEpochV1 : ProviderStateEpoch := ⟨1, providerStateEpochV1_ne_zero⟩

def freshGeneration (contract : LifecycleProviderContract)
    (bindingFingerprint : BindingFingerprint) (continuityId : MailboxContinuityId)
    (generation : MailboxGeneration) (expiresAtUnixSeconds : Nat) : Draw GenerationMaterial := do
  let receiveScope ← takeMaterial
  let receiveScope ← orInternal (ReceiveScopeFingerprint.fromBytes (receiveScope.replicate 32))
  let binding ← orInternal (CursorBinding.new contract.profile bindingFingerprint continuityId
    generation receiveScope contract.cursorSchema providerStateEpochV1 expiresAtUnixSeconds)
  let deposit ← takeMaterial
  let receive ← takeMaterial
  let acknowledgement ← takeMaterial
  let rotation ← takeMaterial
  return ⟨binding, deposit.replicate 32, receive.replicate 32, acknowledgement.replicate 32,
    rotation.replicate 32⟩

/-- The material of a new continuity's first generation. -/
def freshContinuity (contract : LifecycleProviderContract) (request : MailboxIssueRequest) :
    Draw GenerationMaterial := do
  let continuityMaterial ← takeMaterial
  let continuityId ← orInternal
    (MailboxContinuityId.fromProviderBytes (continuityMaterial.replicate 16))
  let generation ← orInternal (MailboxGeneration.new 1)
  freshGeneration contract request.bindingFingerprint continuityId generation
    request.expiresAtUnixSeconds

/-! ## Cursors -/

def cursorScope (binding : CursorBinding) : Bytes :=
  fixedBytes 16 binding.continuityId.val ++ fixedBytes 8 binding.generation.val ++
    fixedBytes 8 binding.providerStateEpoch.val

def decodeCursor (cursor : Option Cursor) (token : Bytes) : Except TransportFailure Nat :=
  match cursor with
  | none => .ok 0
  | some cursor =>
      if cursor.bytes.length ≠ 40 ∨ cursor.bytes.take 32 ≠ token then
        .error (failure .invalidCursor)
      else if ofBigEndian (cursor.bytes.drop 32) = 0 then .error (failure .invalidCursor)
      else .ok (ofBigEndian (cursor.bytes.drop 32))

def deliveryIdBytes (sequence : Nat) : BitVec 128 :=
  0xd1#8 ++ 0#56 ++ BitVec.ofNat 64 sequence

def maxEnvelopesPerGeneration : Nat := 64

namespace DeterministicLifecycleProvider

theorem cursorSchemaV2_ne_zero : (2 : BitVec 16) ≠ 0 := by decide

theorem fastV1_supported : TransportProfileId.fastV1 ≠ .localV1 := by decide

theorem drainSeconds_ne_zero : 300 ≠ 0 := by decide

def new (scope : Nat) : DeterministicLifecycleProvider where
  scope := scope
  contract :=
    ⟨.fastV1, ⟨2, cursorSchemaV2_ne_zero⟩, 300, fastV1_supported, drainSeconds_ne_zero⟩
  nextMaterial := 1
  nextDeliverySequence := 1
  mailboxes := []
  active := []
  rotations := []

/-! ## Issuing -/

variable (self : DeterministicLifecycleProvider)

def withMailbox (material : GenerationMaterial) : DeterministicLifecycleProvider :=
  { self with
    mailboxes := self.mailboxes ++ [⟨material, none, []⟩]
    active := self.active ++ [material.binding] }

/-- The provider with its counter moved. -/
def withMaterial (nextMaterial : BitVec 8) : DeterministicLifecycleProvider :=
  { self with nextMaterial }

variable (expectedContract : LifecycleProviderContract)

def issueNow (request : MailboxIssueRequest) (control : DispatchReading) :
    DeterministicLifecycleProvider × Except TransportFailure MailboxIssueResult :=
  match control.checkpoint request.budget with
  | .error error => (self, .error error)
  | .ok observation =>
      if expectedContract ≠ self.contract ∨
          ¬(self.contract.validateIssueRequest request observation.wallNowUnixSeconds).isOk then
        (self, .error (failure .policyViolation))
      else
        match (freshContinuity self.contract request).run self.nextMaterial with
        | (.error error, nextMaterial) => (self.withMaterial nextMaterial, .error error)
        | (.ok material, nextMaterial) =>
            match MailboxIssueResult.new self.contract request (authorities material self.scope)
                observation.wallNowUnixSeconds with
            | .error _ => (self.withMaterial nextMaterial, .error (failure .internal))
            | .ok result => ((self.withMaterial nextMaterial).withMailbox material, .ok result)

/-! ## Rotating -/

/-- When the predecessor of a rotation at `now` stops being usable. -/
def retirement (mode : RotationMode) (nowUnixSeconds : Nat) : Nat :=
  match mode with
  | .routine drain => drain
  | .compromise => nowUnixSeconds

/-- Retires the first mailbox with this binding. -/
def retire (binding : CursorBinding) (retireAt : Nat) : List MailboxState → List MailboxState
  | [] => []
  | mailbox :: mailboxes =>
      if mailbox.material.binding = binding then
        { mailbox with retireAtUnixSeconds := some retireAt } :: mailboxes
      else mailbox :: retire binding retireAt mailboxes

def withRotation (record : RotationRecord) (activeIndex nowUnixSeconds : Nat) :
    DeterministicLifecycleProvider :=
  { self with
    mailboxes := retire record.predecessor (retirement record.mode nowUnixSeconds)
      self.mailboxes ++ [⟨record.successor, none, []⟩]
    active := self.active.set activeIndex record.successor.binding
    rotations := self.rotations ++ [record] }

/-- The part of a rotation before the retry record is looked up: the checkpoint, the request
and the rotation right. -/
def checkRotation (authority : Capability .rotation) (request : RotationRequest)
    (control : DispatchReading) :
    Except TransportFailure DispatchObservation :=
  match control.checkpoint request.budget with
  | .error error => .error error
  | .ok observation =>
      if expectedContract ≠ self.contract ∨
          ¬(self.contract.validateRotationRequest request observation.wallNowUnixSeconds).isOk then
        .error (failure .policyViolation)
      else if self.scope ≠ authority.scope then .error (failure .policyViolation)
      else
        match self.mailboxes.find? (·.material.binding = request.predecessor) with
        | none => .error (failure .invalidAuthority)
        | some known =>
            if authority.binding ≠ request.predecessor ∨
                known.material.rotation ≠ authority.token then
              .error (failure .invalidAuthority)
            else .ok observation

/-- The answer to a rotation identifier that is already recorded. -/
def retryRotation (record : RotationRecord) (request : RotationRequest) (nowUnixSeconds : Nat) :
    Except TransportFailure MailboxRotationResult :=
  if record.predecessor ≠ request.predecessor ∨ record.mode ≠ request.mode ∨
      record.successorExpiresAtUnixSeconds ≠ request.successorExpiresAtUnixSeconds then
    .error (failure .idempotencyConflict)
  else
    match MailboxRotationResult.new self.contract request
        (authorities record.successor self.scope) nowUnixSeconds with
    | .error _ => .error (failure .internal)
    | .ok result => .ok result

/-- The compare and swap of the active generation. -/
def swapGeneration (request : RotationRequest) (nowUnixSeconds : Nat) :
    DeterministicLifecycleProvider × Except TransportFailure MailboxRotationResult :=
  match self.active.findFinIdx? (·.continuityId = request.predecessor.continuityId) with
  | none => (self, .error (failure .authorityScopeMismatch))
  | some activeIndex =>
      if self.active[activeIndex] ≠ request.predecessor then
        (self, .error (failure .authorityScopeMismatch))
      else
        match (freshGeneration self.contract request.predecessor.bindingFingerprint
            request.predecessor.continuityId request.successorGeneration
            request.successorExpiresAtUnixSeconds).run self.nextMaterial with
        | (.error error, nextMaterial) => (self.withMaterial nextMaterial, .error error)
        | (.ok successor, nextMaterial) =>
            let record : RotationRecord :=
              ⟨request.rotationId, request.predecessor, request.mode,
                request.successorExpiresAtUnixSeconds, successor⟩
            match MailboxRotationResult.new self.contract request
                (authorities successor self.scope) nowUnixSeconds with
            | .error _ => (self.withMaterial nextMaterial, .error (failure .internal))
            | .ok result =>
                ((self.withMaterial nextMaterial).withRotation record activeIndex nowUnixSeconds,
                  .ok result)

def rotateNow (authority : Capability .rotation) (request : RotationRequest)
    (control : DispatchReading) :
    DeterministicLifecycleProvider × Except TransportFailure MailboxRotationResult :=
  match self.checkRotation expectedContract authority request control with
  | .error error => (self, .error error)
  | .ok observation =>
      match self.rotations.find? (·.rotationId = request.rotationId) with
      | some record => (self, self.retryRotation record request observation.wallNowUnixSeconds)
      | none => self.swapGeneration request observation.wallNowUnixSeconds

/-! ## Using a mailbox -/

/-- `mailbox_index`: the mailbox a right stands for, while it is usable. -/
def mailboxIndex {kind : RightKind} (right : Capability kind) (nowUnixSeconds : Nat) :
    Except TransportFailure (Fin self.mailboxes.length) :=
  match self.mailboxes.findFinIdx? (·.material.binding = right.binding) with
  | none => .error (failure .invalidAuthority)
  | some index =>
      let mailbox := self.mailboxes[index]
      if mailbox.material.token kind ≠ right.token ∨
          right.binding.expiresAtUnixSeconds ≤ nowUnixSeconds ∨
          (∃ retireAt ∈ mailbox.retireAtUnixSeconds, retireAt ≤ nowUnixSeconds) then
        .error (failure .invalidAuthority)
      else .ok index

/-- The provider with one mailbox's deliveries changed. -/
def withDeliveries (index : Fin self.mailboxes.length)
    (f : List StoredDelivery → List StoredDelivery) : DeterministicLifecycleProvider :=
  { self with
    mailboxes := self.mailboxes.modify index
      fun mailbox => { mailbox with deliveries := f mailbox.deliveries } }

/-- The checks shared by the three uses of a right, at one checkpoint. The source compares the
scope at the first one only; it does not change in between. -/
def useRight {kind : RightKind} (right : Capability kind) (budget : OperationBudget)
    (reading : DispatchReading) :
    Except TransportFailure (Fin self.mailboxes.length × Nat) := do
  let observation ← reading.checkpoint budget
  refuse (self.scope ≠ right.scope) (failure .policyViolation)
  let index ← self.mailboxIndex right observation.wallNowUnixSeconds
  return (index, observation.wallNowUnixSeconds)

variable (endpoint : Capability .deposit)

/-- The second half of a deposit, which builds the delivery of an envelope not seen before. -/
def freshDelivery (request : DepositRequest) (control : DispatchControl) :
    Except TransportFailure (Fin self.mailboxes.length × StoredDelivery) := do
  let (index, now) ← self.useRight endpoint request.budget control.last
  refuse (request.envelope.expiresAtUnixSeconds ≤ now) (failure .expiredEnvelope)
  refuse (maxEnvelopesPerGeneration ≤ self.mailboxes[index].deliveries.length) (failure .queueFull)
  refuse (self.nextDeliverySequence = u64Max) (failure .queueFull)
  let deliveryId ← NonZero.new (failure .internal) (deliveryIdBytes self.nextDeliverySequence)
  return (index,
    { sequence := self.nextDeliverySequence
      deliveryId
      envelopeId := request.envelope.envelopeId
      canonicalBytes := request.envelope.bytes
      expiresAtUnixSeconds := request.envelope.expiresAtUnixSeconds
      acknowledged := false
      canonical := ⟨request.envelope, rfl, rfl, rfl⟩ })

/-- What a deposit finds before it writes anything. -/
inductive DepositDecision (count : Nat) where
  | existing (deliveryId : DeliveryId)
  | fresh (index : Fin count) (delivery : StoredDelivery)

def decideDeposit (request : DepositRequest) (control : DispatchControl) :
    Except TransportFailure (DepositDecision self.mailboxes.length) := do
  let (index, now) ← self.useRight endpoint request.budget control.first
  refuse (request.envelope.expiresAtUnixSeconds ≤ now) (failure .expiredEnvelope)
  match self.mailboxes[index].deliveries.find? (·.envelopeId = request.envelope.envelopeId) with
  | some existing =>
      refuse (existing.canonicalBytes ≠ request.envelope.bytes) (failure .idempotencyConflict)
      return .existing existing.deliveryId
  | none =>
      let (index, delivery) ← self.freshDelivery endpoint request control
      return .fresh index delivery

def depositNow (request : DepositRequest) (control : DispatchControl) :
    DeterministicLifecycleProvider × Except TransportFailure DeliveryId :=
  match self.decideDeposit endpoint request control with
  | .error error => (self, .error error)
  | .ok (.existing deliveryId) => (self, .ok deliveryId)
  | .ok (.fresh index delivery) =>
      ({ self.withDeliveries index (· ++ [delivery]) with
          nextDeliverySequence := self.nextDeliverySequence + 1 }, .ok delivery.deliveryId)

/-- The loop of a poll over the deliveries it may return. -/
def collect (maxEnvelopes maxEncodedBytes : Nat) : List StoredDelivery →
    List ReceivedCanonicalEnvelope → Nat → Nat →
    Except TransportFailure (List ReceivedCanonicalEnvelope × Nat)
  | [], items, _, lastCursor => .ok (items, lastCursor)
  | delivery :: deliveries, items, encodedBytes, lastCursor =>
      if maxEnvelopes ≤ items.length then .ok (items, lastCursor)
      else if maxEncodedBytes < encodedBytes + delivery.canonicalBytes.length then
        if items = [] then .error (failure .envelopeTooLarge) else .ok (items, lastCursor)
      else
        match CanonicalEnvelope.fromCanonicalBytes delivery.canonicalBytes with
        | .error _ => .error (failure .corruptRemoteResponse)
        | .ok envelope =>
            collect maxEnvelopes maxEncodedBytes deliveries
              (items ++ [⟨delivery.deliveryId, envelope⟩])
              (encodedBytes + delivery.canonicalBytes.length) delivery.sequence

/-- The deliveries a poll after `cursor` may return. -/
def pending (deliveries : List StoredDelivery) (cursor nowUnixSeconds : Nat) :
    List StoredDelivery :=
  deliveries.filter fun delivery =>
    cursor < delivery.sequence ∧ ¬delivery.acknowledged ∧
      nowUnixSeconds < delivery.expiresAtUnixSeconds

def nextCursor (binding : CursorBinding) (lastCursor : Nat) :
    Except TransportFailure (Option Cursor) :=
  if lastCursor ≠ 0 then
    match Cursor.new (cursorScope binding ++ bigEndian 8 lastCursor) with
    | .error _ => .error (failure .internal)
    | .ok cursor => .ok (some cursor)
  else .ok none

/-- The sequence of the newest delivery, or zero. -/
def maximumSequence (deliveries : List StoredDelivery) : Nat :=
  (deliveries.getLast?.map StoredDelivery.sequence).getD 0

def pollNow (authority : Capability .receive) (request : PollRequest) (control : DispatchControl) :
    Except TransportFailure ReceiveBatch := do
  let (index, firstNow) ← self.useRight authority request.budget control.first
  refuse (∃ binding ∈ request.receiveBinding, binding.binding ≠ authority.binding)
    (failure .invalidCursor)
  let requestedCursor ← decodeCursor request.cursor (cursorScope authority.binding)
  refuse (maximumSequence self.mailboxes[index].deliveries < requestedCursor)
    (failure .invalidCursor)
  let (index, lastNow) ← self.useRight authority request.budget control.last
  let now := max firstNow lastNow
  let (items, lastCursor) ← collect request.maxEnvelopes request.maxEncodedBytes
    (pending self.mailboxes[index].deliveries requestedCursor now) [] 0 requestedCursor
  let nextCursor ← nextCursor authority.binding lastCursor
  orElse (ReceiveBatch.new items nextCursor request now) (failure .corruptRemoteResponse)

structure AcknowledgementRequest where
  deliveryIds : BoundedDeliveryIds
  budget : OperationBudget

def markAcknowledged (ids : List DeliveryId) (deliveries : List StoredDelivery) :
    List StoredDelivery :=
  deliveries.map fun delivery =>
    if delivery.deliveryId ∈ ids then { delivery with acknowledged := true } else delivery

/-- The mailbox whose deliveries an acknowledgement may mark. -/
def checkAcknowledgement (authority : Capability .acknowledgement)
    (request : AcknowledgementRequest) (control : DispatchControl) :
    Except TransportFailure (Fin self.mailboxes.length) := do
  let _ ← self.useRight authority request.budget control.first
  let (index, _) ← self.useRight authority request.budget control.last
  refuse (∃ id ∈ request.deliveryIds.ids,
      id ∉ self.mailboxes[index].deliveries.map StoredDelivery.deliveryId)
    (failure .policyViolation)
  return index

def acknowledgeNow (authority : Capability .acknowledgement) (request : AcknowledgementRequest)
    (control : DispatchControl) : DeterministicLifecycleProvider × Except TransportFailure Unit :=
  match self.checkAcknowledgement authority request control with
  | .error error => (self, .error error)
  | .ok index => (self.withDeliveries index (markAcknowledged request.deliveryIds.ids), .ok ())

end DeterministicLifecycleProvider

end SessionChat.Mailbox
