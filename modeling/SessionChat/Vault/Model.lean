import SessionChat.Collections.OrderedMap
import SessionChat.Protocol.Wire
import SessionChat.Storage.Data

/-!
# The session vault (`crates/session-storage/src/lib.rs`, ADR 0016)

The deterministic sealed-vault lifecycle with its opaque inbox. A vault is sealed, unlocking,
open for one session, or relocking; attempts and pending imports are values handed out and
taken back. A shared allocation is known by its number, so that `Arc::ptr_eq` compares numbers;
a call that reads the clock twice is given both readings.
-/

set_option autoImplicit false

namespace SessionChat.Vault

open Collections Protocol Storage

def checkedAdd (a b : Nat) : Option Nat := if a + b ≤ u64Max then some (a + b) else none

theorem checkedAdd_eq_some {a b c : Nat} (h : checkedAdd a b = some c) : c = a + b := by
  unfold checkedAdd at h
  split_ifs at h
  exact (Option.some.inj h).symm

inductive VaultError where
  | invalidPolicy
  | rejected
  | reservationMismatch
  | capacityExceeded
  | providerFailure
deriving DecidableEq

/-! ## Identifiers, protection and policy -/

structure SessionId where
  bytes : Bytes32
  nonzero : bytes ≠ 0
deriving DecidableEq

def SessionId.new (bytes : Bytes32) : Except VaultError SessionId :=
  if h : bytes ≠ 0 then .ok ⟨bytes, h⟩ else .error .rejected

structure UnsealedSessionKey where
  bytes : Bytes32
  nonzero : bytes ≠ 0
deriving DecidableEq

def UnsealedSessionKey.fromProviderBytes (bytes : Bytes32) : Except VaultError UnsealedSessionKey :=
  if h : bytes ≠ 0 then .ok ⟨bytes, h⟩ else .error .providerFailure

inductive ProtectionLevel where
  | testOnly
  | encryptedAtRest
  | deviceBound
  | freshUserPresence
deriving DecidableEq

inductive KeyStorageProtection where
  | testOnly
  | applicationWrapped
  | operatingSystem
  | secureHardware
deriving DecidableEq

inductive DeviceBinding where
  | unknown
  | userProfile
  | thisDeviceOnly
deriving DecidableEq

inductive UserPresence where
  | none
  | deviceUnlock
  | freshPrompt
deriving DecidableEq

inductive BackupExposure where
  | unknown
  | mayBackup
  | excluded
deriving DecidableEq

/-- The protection one adapter has demonstrated. -/
structure ProtectorCapabilities where
  keyStorage : KeyStorageProtection
  deviceBinding : DeviceBinding
  userPresence : UserPresence
  backupExposure : BackupExposure
deriving DecidableEq

/-- The level `DeviceBound`, which `FreshUserPresence` includes. -/
def ProtectorCapabilities.bindsDevice (self : ProtectorCapabilities) : Bool :=
  (self.keyStorage = .operatingSystem ∨ self.keyStorage = .secureHardware) ∧
    self.deviceBinding = .thisDeviceOnly ∧ self.backupExposure = .excluded

def ProtectorCapabilities.supports (self : ProtectorCapabilities) : ProtectionLevel → Bool
  | .testOnly => true
  | .encryptedAtRest => self.keyStorage ≠ .testOnly
  | .deviceBound => self.bindsDevice
  | .freshUserPresence => self.bindsDevice ∧ self.userPresence = .freshPrompt

structure VaultPolicy where
  unlockTimeoutSeconds : Nat
  idleTimeoutSeconds : Nat
  minimumProtection : ProtectionLevel
  positive : unlockTimeoutSeconds ≠ 0 ∧ idleTimeoutSeconds ≠ 0

def VaultPolicy.newWithProtection (unlockTimeoutSeconds idleTimeoutSeconds : Nat)
    (minimumProtection : ProtectionLevel) : Except VaultError VaultPolicy :=
  if h : unlockTimeoutSeconds ≠ 0 ∧ idleTimeoutSeconds ≠ 0 then
    .ok ⟨unlockTimeoutSeconds, idleTimeoutSeconds, minimumProtection, h⟩
  else .error .invalidPolicy

def VaultPolicy.new (unlockTimeoutSeconds idleTimeoutSeconds : Nat) :
    Except VaultError VaultPolicy :=
  newWithProtection unlockTimeoutSeconds idleTimeoutSeconds .testOnly

structure OpaqueInboxPolicy where
  maximumLifetimeSeconds : Nat
  maximumEnvelopes : Nat
  maximumTotalEncodedBytes : Nat
  positive : maximumLifetimeSeconds ≠ 0 ∧ maximumEnvelopes ≠ 0 ∧ maximumTotalEncodedBytes ≠ 0

def OpaqueInboxPolicy.new (maximumLifetimeSeconds maximumEnvelopes maximumTotalEncodedBytes : Nat) :
    Except VaultError OpaqueInboxPolicy :=
  if h : maximumLifetimeSeconds ≠ 0 ∧ maximumEnvelopes ≠ 0 ∧ maximumTotalEncodedBytes ≠ 0 then
    .ok ⟨maximumLifetimeSeconds, maximumEnvelopes, maximumTotalEncodedBytes, h⟩
  else .error .invalidPolicy

inductive VaultOperation where
  | decrypt
  | sign
  | admission
  | readReceiveCapability
  | acknowledgeDelivery
  | rotateMailbox
  | mutateMls
deriving DecidableEq

inductive LockEvent where
  | explicit
  | idleTimeout
  | screenLocked
  | sleep
  | logout
  | processExit
deriving DecidableEq

/-! ## Linear tokens -/

/-- Authority to complete one exact unlock generation. -/
structure UnlockAttempt where
  vaultInstance : Nat
  sessionId : SessionId
  generation : Nat
  minimumProtection : ProtectionLevel
deriving DecidableEq

inductive UnlockOutcome where
  | ready (capabilities : ProtectorCapabilities) (key : UnsealedSessionKey)
  | failed (error : VaultError)
deriving DecidableEq

/-- What the provider produced for one exact unlock generation. -/
structure UnlockCompletion where
  vaultInstance : Nat
  sessionId : SessionId
  generation : Nat
  outcome : UnlockOutcome
deriving DecidableEq

/-- Authority to complete one exact relock generation; unlike the other tokens it does not
name the vault it comes from. -/
structure RelockAttempt where
  sessionId : SessionId
  generation : Nat
deriving DecidableEq

structure PendingOpaqueImport where
  vaultInstance : Nat
  sessionId : SessionId
  openGeneration : Nat
  envelopeId : Id16
  insertionGeneration : Nat
  envelope : OpaqueEnvelope
deriving DecidableEq

/-! ## The vault -/

inductive LifecycleState where
  | sealed
  | unlocking (sessionId : SessionId) (generation expiresAtUnixSeconds : Nat)
  | opened (sessionId : SessionId) (generation idleExpiresAtUnixSeconds : Nat)
      (key : UnsealedSessionKey)
  | relocking (sessionId : SessionId) (generation : Nat)
deriving DecidableEq

structure OpaqueInboxRecord where
  encoded : Bytes
  expiresAtUnixSeconds : Nat
  insertionGeneration : Nat

inductive InboxAppendOutcome where
  | stored
  | alreadyStored
deriving DecidableEq

/-- `activeUnlockGeneration` is the atomic that the instance's attempts read. -/
structure SessionVaultModel where
  vaultInstance : Nat
  activeUnlockGeneration : Nat
  policy : VaultPolicy
  inboxPolicy : OpaqueInboxPolicy
  nextGeneration : Nat
  nextInboxGeneration : Nat
  state : LifecycleState
  inbox : OrderedMap Id16 OpaqueInboxRecord
  inboxTotalEncodedBytes : Nat

/-- The clock as one call reads it, at its start and once more later. -/
structure Readings where
  first : Nat
  last : Nat

def maxEncodedOpaqueEnvelopeBytes : Nat := maxEnvelopeCiphertextBytes + 64

namespace SessionVaultModel

def new (vaultInstance : Nat) (policy : VaultPolicy) (inboxPolicy : OpaqueInboxPolicy) :
    SessionVaultModel where
  vaultInstance := vaultInstance
  activeUnlockGeneration := 0
  policy := policy
  inboxPolicy := inboxPolicy
  nextGeneration := 0
  nextInboxGeneration := 0
  state := .sealed
  inbox := .empty
  inboxTotalEncodedBytes := 0

variable (self : SessionVaultModel)

/-- Sealed, with no unlock attempt current. -/
def lock : SessionVaultModel :=
  { self with state := .sealed, activeUnlockGeneration := 0 }

def withState (state : LifecycleState) : SessionVaultModel :=
  { self with state }

def expired (nowUnixSeconds : Nat) : Bool :=
  match self.state with
  | .unlocking _ _ expiresAtUnixSeconds => expiresAtUnixSeconds ≤ nowUnixSeconds
  | .opened _ _ idleExpiresAtUnixSeconds _ => idleExpiresAtUnixSeconds ≤ nowUnixSeconds
  | .sealed | .relocking _ _ => false

def pruneOne (envelopeId : Id16) : SessionVaultModel :=
  match self.inbox.get? envelopeId with
  | none => self
  | some record =>
      { self with
        inbox := self.inbox.erase envelopeId
        -- the subtraction of natural numbers saturates, as the source's does
        inboxTotalEncodedBytes := self.inboxTotalEncodedBytes - record.encoded.length }

variable (nowUnixSeconds : Nat)

def expiredIds : List Id16 :=
  (self.inbox.entries.filter fun entry => entry.2.expiresAtUnixSeconds ≤ nowUnixSeconds).map
    Prod.fst

def pruneExpiredInbox : SessionVaultModel :=
  (self.expiredIds nowUnixSeconds).foldl pruneOne self

def poll : SessionVaultModel :=
  (if self.expired nowUnixSeconds then self.lock else self).pruneExpiredInbox nowUnixSeconds

def nextTransitionGeneration : Except VaultError (SessionVaultModel × Nat) :=
  match checkedAdd self.nextGeneration 1 with
  | none => .error .rejected
  | some generation => .ok ({ self with nextGeneration := generation }, generation)

def unlocking (self : SessionVaultModel) (sessionId : SessionId) (generation expires : Nat) :
    SessionVaultModel :=
  { self with
    state := .unlocking sessionId generation expires
    activeUnlockGeneration := generation }

variable (sessionId : SessionId)

def beginUnlock (clock : Readings) :
    SessionVaultModel × Except VaultError UnlockAttempt :=
  let polled := self.poll clock.first
  match polled.state with
  | .sealed =>
      match polled.nextTransitionGeneration with
      | .error error => (polled, .error error)
      | .ok (drawn, generation) =>
          match checkedAdd clock.last drawn.policy.unlockTimeoutSeconds with
          | none => (drawn, .error .rejected)
          | some expires =>
              (drawn.unlocking sessionId generation expires,
                .ok ⟨drawn.vaultInstance, sessionId, generation, drawn.policy.minimumProtection⟩)
  | _ => (polled, .error .rejected)

/-- The completion is for this vault's current unlock attempt. -/
def Matches (generation : Nat) (completion : UnlockCompletion) : Prop :=
  self.vaultInstance = completion.vaultInstance ∧ sessionId = completion.sessionId ∧
    generation = completion.generation
deriving Decidable

/-- The part of `complete_unlock` after the attempt has been taken: what opens the vault. -/
def acceptOutcome (generation expires : Nat) (outcome : UnlockOutcome) (clock : Readings) :
    Except VaultError LifecycleState :=
  if expires ≤ clock.first then .error .rejected
  else
    match outcome with
    | .failed error => .error error
    | .ready capabilities key =>
        if ¬capabilities.supports self.policy.minimumProtection then .error .providerFailure
        else if expires ≤ clock.last then .error .rejected
        else
          match checkedAdd clock.last self.policy.idleTimeoutSeconds with
          | none => .error .rejected
          | some idleExpires => .ok (.opened sessionId generation idleExpires key)

def completeUnlock (completion : UnlockCompletion) (clock : Readings) :
    SessionVaultModel × Except VaultError Unit :=
  match self.state with
  | .unlocking sessionId generation expires =>
      if ¬self.Matches sessionId generation completion then
        (self, .error .reservationMismatch)
      else
        match self.acceptOutcome sessionId generation expires completion.outcome clock with
        | .error error => (self.lock, .error error)
        | .ok state => (self.lock.withState state, .ok ())
  | _ => (self, .error .reservationMismatch)

/-- The callback runs exactly when the result is `ok`; the operation class is not inspected. -/
def performPrivileged (sessionId : SessionId) (_operation : VaultOperation) (clock : Readings) :
    SessionVaultModel × Except VaultError Unit :=
  let polled := self.poll clock.first
  match polled.state with
  | .opened selected generation _ key =>
      if selected ≠ sessionId then (polled, .error .rejected)
      else
        match checkedAdd clock.last polled.policy.idleTimeoutSeconds with
        | none => (polled, .error .rejected)
        | some refreshed => (polled.withState (.opened selected generation refreshed key), .ok ())
  | _ => (polled, .error .rejected)

def beginRelock (sessionId : SessionId) (nowUnixSeconds : Nat) :
    SessionVaultModel × Except VaultError RelockAttempt :=
  let polled := self.poll nowUnixSeconds
  match polled.state with
  | .opened selected _ _ _ =>
      if selected ≠ sessionId then (polled, .error .rejected)
      else
        match polled.nextTransitionGeneration with
        | .error error => (polled, .error error)
        | .ok (drawn, generation) =>
            (drawn.withState (.relocking sessionId generation), .ok ⟨sessionId, generation⟩)
  | _ => (polled, .error .rejected)

def completeRelock (attempt : RelockAttempt) : SessionVaultModel × Except VaultError Unit :=
  match self.state with
  | .relocking sessionId generation =>
      if sessionId ≠ attempt.sessionId ∨ generation ≠ attempt.generation then
        (self, .error .reservationMismatch)
      else (self.withState .sealed, .ok ())
  | _ => (self, .error .reservationMismatch)

def forceLock (_event : LockEvent) : SessionVaultModel := self.lock

/-! ## The opaque inbox -/

def withEnvelope (envelope : OpaqueEnvelope) (encoded : Bytes) (insertionGeneration total : Nat) :
    SessionVaultModel :=
  { self with
    nextInboxGeneration := insertionGeneration
    inbox := self.inbox.insert envelope.envelopeId
      ⟨encoded, envelope.expiresAtUnixSeconds, insertionGeneration⟩
    inboxTotalEncodedBytes := total }

/-- The envelope an append may store: bounded, canonical, with an identifier and a lifetime
within the policy. -/
def admissible (encoded : Bytes) (nowUnixSeconds : Nat) : Except VaultError OpaqueEnvelope :=
  if encoded = [] ∨ maxEncodedOpaqueEnvelopeBytes < encoded.length then .error .rejected
  else
    match OpaqueEnvelope.decodeCanonical encoded with
    | .error _ => .error .rejected
    | .ok envelope =>
        if envelope.envelopeId = 0 then .error .rejected
        else if envelope.expiresAtUnixSeconds ≤ nowUnixSeconds ∨
            self.inboxPolicy.maximumLifetimeSeconds <
              envelope.expiresAtUnixSeconds - nowUnixSeconds then
          .error .rejected
        else .ok envelope

/-- Stores an envelope under a free identifier. -/
def store (envelope : OpaqueEnvelope) (encoded : Bytes) :
    SessionVaultModel × Except VaultError InboxAppendOutcome :=
  if self.inboxPolicy.maximumEnvelopes ≤ self.inbox.size then (self, .error .capacityExceeded)
  else
    match checkedAdd self.inboxTotalEncodedBytes encoded.length with
    | none => (self, .error .capacityExceeded)
    | some total =>
        if self.inboxPolicy.maximumTotalEncodedBytes < total then
          (self, .error .capacityExceeded)
        else
          match checkedAdd self.nextInboxGeneration 1 with
          | none => (self, .error .capacityExceeded)
          | some generation => (self.withEnvelope envelope encoded generation total, .ok .stored)

def appendOpaque (encoded : Bytes) (clock : Readings) :
    SessionVaultModel × Except VaultError InboxAppendOutcome :=
  let polled := self.poll clock.first
  match polled.admissible encoded clock.last with
  | .error error => (polled, .error error)
  | .ok envelope =>
      match polled.inbox.get? envelope.envelopeId with
      | some existing =>
          (polled, if existing.encoded = encoded then .ok .alreadyStored else .error .rejected)
      | none => polled.store envelope encoded

def beginOpaqueImport (sessionId : SessionId) (nowUnixSeconds : Nat) :
    SessionVaultModel × Except VaultError (Option PendingOpaqueImport) :=
  let polled := self.poll nowUnixSeconds
  match polled.state with
  | .opened selected generation _ _ =>
      if selected ≠ sessionId then (polled, .error .rejected)
      else
        match polled.inbox.entries.head? with
        | none => (polled, .ok none)
        | some (envelopeId, record) =>
            match OpaqueEnvelope.decodeCanonical record.encoded with
            | .error _ => (polled, .error .rejected)
            | .ok envelope =>
                (polled, .ok (some ⟨polled.vaultInstance, sessionId, generation, envelopeId,
                  record.insertionGeneration, envelope⟩))
  | _ => (polled, .error .rejected)

def withoutEnvelope (envelopeId : Id16) (record : OpaqueInboxRecord) : SessionVaultModel :=
  { self with
    inbox := self.inbox.erase envelopeId
    inboxTotalEncodedBytes := self.inboxTotalEncodedBytes - record.encoded.length }

def completeOpaqueImport (pending : PendingOpaqueImport) (clock : Readings) :
    SessionVaultModel × Except VaultError Unit :=
  let polled := self.poll clock.first
  match polled.state with
  | .opened sessionId generation _ _ =>
      if polled.vaultInstance ≠ pending.vaultInstance ∨ sessionId ≠ pending.sessionId ∨
          generation ≠ pending.openGeneration then
        (polled, .error .reservationMismatch)
      else
        match polled.inbox.get? pending.envelopeId with
        | none => (polled, .error .reservationMismatch)
        | some record =>
            if record.insertionGeneration ≠ pending.insertionGeneration ∨
                record.expiresAtUnixSeconds ≤ clock.last ∨
                polled.inboxTotalEncodedBytes < record.encoded.length then
              (polled, .error .reservationMismatch)
            else (polled.withoutEnvelope pending.envelopeId record, .ok ())
  | _ => (polled, .error .reservationMismatch)

end SessionVaultModel

end SessionChat.Vault
