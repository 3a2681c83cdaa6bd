import Mathlib.Data.List.Nodup
import SessionChat.Transport.Contract

/-!
# The cursor-bearing receive contract

Source: `crates/session-transport/src/contract.rs`, `receive_state.rs`, `lifecycle.rs`.

Values exchanged between a reusable mailbox provider and the owner of durable receive state:
bindings of mailbox generations, cursors, bounded polls and batches, the durable checkpoint with
its revision, and the transitions a checkpoint can be presented for. Every value carries what its
fallible constructor checked.
-/

set_option autoImplicit false

namespace SessionChat.Mailbox

open Transport Storage

inductive TransportProfileId where
  | localV1
  | fastV1
  | privateInteractiveV1
  | privateMixnetV1
  | offGridV1
deriving DecidableEq

/-- Construction errors of mailbox lifecycle values. -/
inductive MailboxLifecycleContractError where
  | invalidBindingFingerprint
  | invalidContinuityId
  | invalidGeneration
  | generationExhausted
  | invalidReceiveScope
  | invalidCursorSchema
  | invalidProviderStateEpoch
  | invalidExpiry
  | invalidLifecycleDeclaration
  | unsupportedLifecycleProfile
  | invalidRotationId
  | invalidRotation
  | providerResultMismatch
deriving DecidableEq

/-- Construction errors of receive-state values. -/
inductive ReceiveStateContractError where
  | invalidCheckpointRevision
  | checkpointRevisionExhausted
  | cursorBindingMismatch
  | receivePageBindingMismatch
  | expiredCursorBinding
  | invalidReceivePage
deriving DecidableEq

/-! ## Non-zero identifiers and counters -/

/-- A fixed-width value that is not zero. -/
abbrev NonZero (w : Nat) : Type := { value : BitVec w // value ≠ 0 }

namespace NonZero

variable {w : Nat} {ε : Type}

/-- The shared constructor; each kind of value reports zero with its own error. -/
def new (zero : ε) (value : BitVec w) : Except ε (NonZero w) :=
  if h : value ≠ 0 then .ok ⟨value, h⟩ else .error zero

/-- The shared `successor`: one more, unless the counter is exhausted. -/
def successor (exhausted : ε) (n : NonZero w) : Except ε (NonZero w) :=
  if h : n.val + 1 ≠ 0 then .ok ⟨n.val + 1, h⟩ else .error exhausted

variable {n : NonZero w}

theorem val_of_new {zero : ε} {value : BitVec w} (h : new zero value = .ok n) : n.val = value := by
  unfold new at h
  split_ifs at h
  cases h
  rfl

theorem toNat_successor {exhausted : ε} {n' : NonZero w} (h : n.successor exhausted = .ok n') :
    n'.val.toNat = n.val.toNat + 1 := by
  unfold successor at h
  split_ifs at h with hne
  cases h
  have hsum : (n.val + 1).toNat = (n.val.toNat + 1) % 2 ^ w := by simp [BitVec.toNat_add]
  have hnonzero : (n.val + 1).toNat ≠ 0 := by
    intro hzero
    exact hne (BitVec.eq_of_toNat_eq (by simpa using hzero))
  rw [hsum] at hnonzero
  rw [hsum]
  rcases Nat.lt_or_ge (n.val.toNat + 1) (2 ^ w) with hfits | hfull
  · exact Nat.mod_eq_of_lt hfits
  · rw [show n.val.toNat + 1 = 2 ^ w by omega, Nat.mod_self] at hnonzero
    exact absurd rfl hnonzero

end NonZero

abbrev BindingFingerprint := NonZero 256

def BindingFingerprint.fromBytes :
    BitVec 256 → Except MailboxLifecycleContractError BindingFingerprint :=
  NonZero.new .invalidBindingFingerprint

abbrev MailboxContinuityId := NonZero 128

def MailboxContinuityId.fromProviderBytes :
    BitVec 128 → Except MailboxLifecycleContractError MailboxContinuityId :=
  NonZero.new .invalidContinuityId

abbrev MailboxGeneration := NonZero 64

def MailboxGeneration.new : BitVec 64 → Except MailboxLifecycleContractError MailboxGeneration :=
  NonZero.new .invalidGeneration

def MailboxGeneration.successor :
    MailboxGeneration → Except MailboxLifecycleContractError MailboxGeneration :=
  NonZero.successor .generationExhausted

abbrev ReceiveScopeFingerprint := NonZero 256

def ReceiveScopeFingerprint.fromBytes :
    BitVec 256 → Except MailboxLifecycleContractError ReceiveScopeFingerprint :=
  NonZero.new .invalidReceiveScope

abbrev CursorSchemaVersion := NonZero 16

abbrev ProviderStateEpoch := NonZero 64

abbrev ReceiveCheckpointRevision := NonZero 64

def ReceiveCheckpointRevision.new :
    BitVec 64 → Except ReceiveStateContractError ReceiveCheckpointRevision :=
  NonZero.new .invalidCheckpointRevision

def ReceiveCheckpointRevision.successor :
    ReceiveCheckpointRevision → Except ReceiveStateContractError ReceiveCheckpointRevision :=
  NonZero.successor .checkpointRevisionExhausted

/-! ## Cursors and their binding -/

/-- The exact generation a cursor, a checkpoint or a right belongs to. -/
structure CursorBinding where
  profile : TransportProfileId
  bindingFingerprint : BindingFingerprint
  continuityId : MailboxContinuityId
  generation : MailboxGeneration
  receiveScope : ReceiveScopeFingerprint
  cursorSchema : CursorSchemaVersion
  providerStateEpoch : ProviderStateEpoch
  expiresAtUnixSeconds : Nat
  supported : profile ≠ .localV1
  expires : expiresAtUnixSeconds ≠ 0
deriving DecidableEq

def CursorBinding.new (profile : TransportProfileId) (bindingFingerprint : BindingFingerprint)
    (continuityId : MailboxContinuityId) (generation : MailboxGeneration)
    (receiveScope : ReceiveScopeFingerprint) (cursorSchema : CursorSchemaVersion)
    (providerStateEpoch : ProviderStateEpoch) (expiresAtUnixSeconds : Nat) :
    Except MailboxLifecycleContractError CursorBinding :=
  if hprofile : profile ≠ .localV1 then
    if hexpires : expiresAtUnixSeconds ≠ 0 then
      .ok ⟨profile, bindingFingerprint, continuityId, generation, receiveScope, cursorSchema,
        providerStateEpoch, expiresAtUnixSeconds, hprofile, hexpires⟩
    else .error .invalidExpiry
  else .error .unsupportedLifecycleProfile

theorem CursorBinding.new_ok {profile : TransportProfileId}
    {bindingFingerprint : BindingFingerprint} {continuityId : MailboxContinuityId}
    {generation : MailboxGeneration} {receiveScope : ReceiveScopeFingerprint}
    {cursorSchema : CursorSchemaVersion} {providerStateEpoch : ProviderStateEpoch}
    {expiresAt : Nat} {binding : CursorBinding}
    (h : CursorBinding.new profile bindingFingerprint continuityId generation receiveScope
      cursorSchema providerStateEpoch expiresAt = .ok binding) :
    binding.continuityId = continuityId ∧ binding.generation = generation ∧
      binding.receiveScope = receiveScope := by
  unfold CursorBinding.new at h
  split_ifs at h
  cases h
  exact ⟨rfl, rfl, rfl⟩

def maxCursorBytes : Nat := 256

structure Cursor where
  bytes : Bytes
  bounded : bytes ≠ [] ∧ bytes.length ≤ maxCursorBytes
deriving DecidableEq

def Cursor.new (bytes : Bytes) : Except TransportContractError Cursor :=
  if h : bytes ≠ [] ∧ bytes.length ≤ maxCursorBytes then .ok ⟨bytes, h⟩ else .error .invalidCursor

structure BoundCursor where
  cursor : Cursor
  binding : CursorBinding
deriving DecidableEq

/-! ## Delivery identifiers and received envelopes -/

abbrev DeliveryId := NonZero 128

instance DeliveryId.lawfulBEq : LawfulBEq DeliveryId := inferInstance

def maxAcknowledgementIds : Nat := 64

/-- A non-empty bounded list of distinct delivery identifiers. -/
structure BoundedDeliveryIds where
  ids : List DeliveryId
  bounded : ids ≠ [] ∧ ids.length ≤ maxAcknowledgementIds ∧ ids.Nodup
deriving DecidableEq

def BoundedDeliveryIds.new (ids : List DeliveryId) :
    Except TransportContractError BoundedDeliveryIds :=
  if h : ids ≠ [] ∧ ids.length ≤ maxAcknowledgementIds ∧ ids.Nodup then .ok ⟨ids, h⟩
  else .error .invalidAcknowledgementBatch

@[simp] theorem BoundedDeliveryIds.new_ids (ids : BoundedDeliveryIds) :
    BoundedDeliveryIds.new ids.ids = .ok ids :=
  dif_pos ids.bounded

theorem BoundedDeliveryIds.ids_of_new {ids : List DeliveryId} {bounded : BoundedDeliveryIds}
    (h : BoundedDeliveryIds.new ids = .ok bounded) : bounded.ids = ids := by
  unfold BoundedDeliveryIds.new at h
  split_ifs at h
  cases h
  rfl

structure ReceivedCanonicalEnvelope where
  deliveryId : DeliveryId
  envelope : CanonicalEnvelope

/-! ## Checkpoints -/

inductive ResynchronizationReason where
  | invalidCursor
  | providerStateReset
deriving DecidableEq

inductive ReceiveCheckpointPosition where
  | newGeneration
  | resume (cursor : BoundCursor)
  | committedPageWithoutCursor
  | explicitResynchronization (reason : ResynchronizationReason)
deriving DecidableEq

/-- A point from which a mailbox generation is polled; a cursor belongs to the binding. -/
structure ReceiveCheckpoint where
  binding : CursorBinding
  revision : ReceiveCheckpointRevision
  position : ReceiveCheckpointPosition
  bound : ∀ cursor, position = .resume cursor → cursor.binding = binding

namespace ReceiveCheckpoint

variable (binding : CursorBinding) (revision : ReceiveCheckpointRevision)

/-- The check of the three constructors that take no cursor. -/
def live (position : ReceiveCheckpointPosition)
    (bound : ∀ cursor, position = .resume cursor → cursor.binding = binding)
    (nowUnixSeconds : Nat) :
    Except ReceiveStateContractError ReceiveCheckpoint :=
  if binding.expiresAtUnixSeconds ≤ nowUnixSeconds then .error .expiredCursorBinding
  else .ok ⟨binding, revision, position, bound⟩

def newGeneration (nowUnixSeconds : Nat) :
    Except ReceiveStateContractError ReceiveCheckpoint :=
  live binding revision .newGeneration (by simp) nowUnixSeconds

def fromRecordedResynchronization (reason : ResynchronizationReason) (nowUnixSeconds : Nat) :
    Except ReceiveStateContractError ReceiveCheckpoint :=
  live binding revision (.explicitResynchronization reason) (by simp) nowUnixSeconds

/-- Named in the source `committed_page_without_cursor`. -/
def committedPageWithoutCursor (nowUnixSeconds : Nat) :
    Except ReceiveStateContractError ReceiveCheckpoint :=
  live binding revision .committedPageWithoutCursor (by simp) nowUnixSeconds

def resume (expectedBinding : CursorBinding) (cursor : BoundCursor)
    (revision : ReceiveCheckpointRevision) (nowUnixSeconds : Nat) :
    Except ReceiveStateContractError ReceiveCheckpoint :=
  if h : cursor.binding = expectedBinding then
    live expectedBinding revision (.resume cursor)
      (fun _ heq => by cases heq; exact h) nowUnixSeconds
  else .error .cursorBindingMismatch

variable (self : ReceiveCheckpoint)

def pollCursor : Option Cursor :=
  match self.position with
  | .resume cursor => some cursor.cursor
  | _ => none

def resynchronizationReason : Option ResynchronizationReason :=
  match self.position with
  | .explicitResynchronization reason => some reason
  | _ => none

def isCommittedPageWithoutCursor : Bool :=
  match self.position with
  | .committedPageWithoutCursor => true
  | _ => false

def ensureLive (nowUnixSeconds : Nat) :
    Except ReceiveStateContractError Unit :=
  if self.binding.expiresAtUnixSeconds ≤ nowUnixSeconds then .error .expiredCursorBinding
  else .ok ()

end ReceiveCheckpoint

/-! ## Polls and batches -/

inductive ReceivePollPositionBinding where
  | newGeneration
  | resume (cursor : Bytes)
  | committedPageWithoutCursor
  | explicitResynchronization (reason : ResynchronizationReason)
deriving DecidableEq

/-- The checkpoint a poll was made from, carried through the batch to the commit. -/
structure ReceivePollBinding where
  binding : CursorBinding
  revision : ReceiveCheckpointRevision
  position : ReceivePollPositionBinding
deriving DecidableEq

def ReceivePollBinding.fromCheckpoint (checkpoint : ReceiveCheckpoint) : ReceivePollBinding where
  binding := checkpoint.binding
  revision := checkpoint.revision
  position :=
    match checkpoint.position with
    | .newGeneration => .newGeneration
    | .resume cursor => .resume cursor.cursor.bytes
    | .committedPageWithoutCursor => .committedPageWithoutCursor
    | .explicitResynchronization reason => .explicitResynchronization reason

def maxPollEnvelopes : Nat := 64

def maxPollEncodedBytes : Nat := 4 * 1024 * 1024

structure PollRequest where
  cursor : Option Cursor
  receiveBinding : Option ReceivePollBinding
  maxEnvelopes : Nat
  maxEncodedBytes : Nat
  budget : OperationBudget
  bounded : (0 < maxEnvelopes ∧ maxEnvelopes ≤ maxPollEnvelopes) ∧
    (0 < maxEncodedBytes ∧ maxEncodedBytes ≤ maxPollEncodedBytes) ∧
    maxEncodedBytes ≤ budget.maxNetworkBytes

def PollRequest.new (cursor : Option Cursor) (maxEnvelopes maxEncodedBytes : Nat)
    (budget : OperationBudget) : Except TransportContractError PollRequest :=
  if h : (0 < maxEnvelopes ∧ maxEnvelopes ≤ maxPollEnvelopes) ∧
      (0 < maxEncodedBytes ∧ maxEncodedBytes ≤ maxPollEncodedBytes) ∧
      maxEncodedBytes ≤ budget.maxNetworkBytes then
    .ok ⟨cursor, none, maxEnvelopes, maxEncodedBytes, budget, h⟩
  else .error .invalidPollRequest

def PollRequest.bindReceiveCheckpoint (request : PollRequest)
    (receiveBinding : ReceivePollBinding) : PollRequest :=
  { request with receiveBinding := some receiveBinding }

/-- `poll_request`: a poll that continues from the checkpoint. -/
def ReceiveCheckpoint.pollRequest (self : ReceiveCheckpoint) (maxEnvelopes maxEncodedBytes : Nat)
    (budget : OperationBudget) (nowUnixSeconds : Nat) :
    Except ReceiveStateContractError PollRequest := do
  self.ensureLive nowUnixSeconds
  match PollRequest.new self.pollCursor maxEnvelopes maxEncodedBytes budget with
  | .ok request => .ok (request.bindReceiveCheckpoint (.fromCheckpoint self))
  | .error _ => .error .invalidReceivePage

/-- A page of received envelopes with distinct delivery identifiers. -/
structure ReceiveBatch where
  items : List ReceivedCanonicalEnvelope
  nextCursor : Option Cursor
  receiveBinding : Option ReceivePollBinding
  bounded : items.length ≤ maxPollEnvelopes
  distinct : (items.map ReceivedCanonicalEnvelope.deliveryId).Nodup

/-- The loop over the items: none is expired and their bytes stay within the limit. -/
def ReceiveBatch.checkItems (maxEncodedBytes nowUnixSeconds : Nat) :
    List ReceivedCanonicalEnvelope → Nat → Except TransportContractError Unit
  | [], _ => .ok ()
  | item :: items, encodedBytes =>
      if item.envelope.expiresAtUnixSeconds ≤ nowUnixSeconds then .error .expiredReceivedEnvelope
      else if maxEncodedBytes < encodedBytes + item.envelope.bytes.length then
        .error .invalidReceiveBatch
      else checkItems maxEncodedBytes nowUnixSeconds items
        (encodedBytes + item.envelope.bytes.length)

def ReceiveBatch.new (items : List ReceivedCanonicalEnvelope) (nextCursor : Option Cursor)
    (request : PollRequest) (nowUnixSeconds : Nat) : Except TransportContractError ReceiveBatch :=
  if hlength : items.length ≤ request.maxEnvelopes then
    if hdistinct : (items.map ReceivedCanonicalEnvelope.deliveryId).Nodup then
      match checkItems request.maxEncodedBytes nowUnixSeconds items 0 with
      | .error error => .error error
      | .ok () =>
          .ok ⟨items, nextCursor, request.receiveBinding,
            Nat.le_trans hlength request.bounded.1.2, hdistinct⟩
    else .error .invalidReceiveBatch
  else .error .invalidReceiveBatch

variable {items : List ReceivedCanonicalEnvelope} {request : PollRequest} {now : Nat}

theorem ReceiveBatch.new_ok {next : Option Cursor} {batch : ReceiveBatch}
    (h : ReceiveBatch.new items next request now = .ok batch) :
    batch.items = items ∧ batch.nextCursor = next ∧
      batch.receiveBinding = request.receiveBinding := by
  unfold ReceiveBatch.new at h
  split_ifs at h
  split at h
  · cases h
  · cases h
    exact ⟨rfl, rfl, rfl⟩

theorem ReceiveBatch.checkItems_of_fits {maxEncodedBytes encodedBytes : Nat}
    (hlive : ∀ item ∈ items, now < item.envelope.expiresAtUnixSeconds)
    (hbytes : encodedBytes + (items.map fun item => item.envelope.bytes.length).sum ≤
      maxEncodedBytes) : checkItems maxEncodedBytes now items encodedBytes = .ok () := by
  induction items generalizing encodedBytes with
  | nil => rfl
  | cons item items ih =>
    have hhead := hlive item List.mem_cons_self
    rw [List.map_cons, List.sum_cons] at hbytes
    rw [checkItems, if_neg (by omega), if_neg (by omega)]
    exact ih (fun other hother => hlive other (List.mem_cons_of_mem _ hother)) (by omega)

/-- Distinct unexpired items within the limits make a batch. -/
theorem ReceiveBatch.new_of_fits (next : Option Cursor)
    (hcount : items.length ≤ request.maxEnvelopes)
    (hnodup : (items.map ReceivedCanonicalEnvelope.deliveryId).Nodup)
    (hlive : ∀ item ∈ items, now < item.envelope.expiresAtUnixSeconds)
    (hbytes : (items.map fun item => item.envelope.bytes.length).sum ≤ request.maxEncodedBytes) :
    ∃ batch, ReceiveBatch.new items next request now = .ok batch := by
  unfold ReceiveBatch.new
  rw [dif_pos hcount, dif_pos hnodup, checkItems_of_fits hlive (by omega)]
  exact ⟨_, rfl⟩

/-! ## Transitions presented to the owner -/

/-- A request to forget the cursor; it names the checkpoint it replaces. -/
structure ResynchronizationRequest where
  expectedCheckpoint : ReceiveCheckpoint
  reason : ResynchronizationReason
  successorRevision : ReceiveCheckpointRevision
  successor : expectedCheckpoint.revision.successor = .ok successorRevision

def ResynchronizationRequest.new (expectedCheckpoint : ReceiveCheckpoint)
    (reason : ResynchronizationReason) (nowUnixSeconds : Nat) :
    Except ReceiveStateContractError ResynchronizationRequest := do
  expectedCheckpoint.ensureLive nowUnixSeconds
  match h : expectedCheckpoint.revision.successor with
  | .error error => .error error
  | .ok successorRevision => .ok ⟨expectedCheckpoint, reason, successorRevision, h⟩

/-- A received page to be stored together with the checkpoint that follows it. The identifiers
to acknowledge are those of the items. -/
structure ReceivePageCommit where
  expectedCheckpoint : ReceiveCheckpoint
  items : List ReceivedCanonicalEnvelope
  nextCursor : Option BoundCursor
  acknowledgementIntent : Option BoundedDeliveryIds
  intent : items.map ReceivedCanonicalEnvelope.deliveryId =
    (acknowledgementIntent.map BoundedDeliveryIds.ids).getD []
  bound : ∀ cursor ∈ nextCursor, cursor.binding = expectedCheckpoint.binding

def ReceivePageCommit.new (expectedCheckpoint : ReceiveCheckpoint) (batch : ReceiveBatch) :
    Except ReceiveStateContractError ReceivePageCommit :=
  if batch.receiveBinding ≠ some (.fromCheckpoint expectedCheckpoint) then
    .error .receivePageBindingMismatch
  else
    let nextCursor := batch.nextCursor.map (BoundCursor.mk · expectedCheckpoint.binding)
    have hbound : ∀ cursor ∈ nextCursor, cursor.binding = expectedCheckpoint.binding := by
      simp [nextCursor]
    if hitems : batch.items = [] then
      .ok ⟨expectedCheckpoint, batch.items, nextCursor, none, by simp [hitems], hbound⟩
    else
      match h : BoundedDeliveryIds.new (batch.items.map ReceivedCanonicalEnvelope.deliveryId) with
      | .error _ => .error .invalidReceivePage
      | .ok ids =>
          .ok ⟨expectedCheckpoint, batch.items, nextCursor, some ids,
            (BoundedDeliveryIds.ids_of_new h).symm, hbound⟩

end SessionChat.Mailbox
