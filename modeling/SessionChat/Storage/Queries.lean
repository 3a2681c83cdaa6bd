import SessionChat.Storage.Outbox

/-!
# The reads of the store (`crates/storage-sqlcipher/src/lib.rs`, `mls_storage.rs`)

Each read method runs one query and checks what it found. They are given here over the tables
that the connection sees. Version and page check of the cipher are facts about the engine, and
come with the call.
-/

set_option autoImplicit false

namespace SessionChat.Storage

open Codec

/-- What `recover_inviter` tells of a committed inviter transaction. -/
structure InviterRecovery where
  epochAfter : Nat
  outboxState : WelcomeOutboxState
  deliveryAttempts : Nat

/-- What `recover_joiner` tells of a committed joiner transaction. -/
structure JoinerRecovery where
  groupId : Bytes32

namespace SqlCipherStorage

/-- One-time KeyPackage secrets as the provider hands them over. -/
structure KeyPackageData where
  keyPackageBytes : Bytes
  initKey : Bytes
  leafNodeKey : Bytes
  expiration : Nat

def keyPackageExistsOn (t : Tables) (reference : Bytes32) : Prop :=
  ∃ k ∈ t.keyPackages, k.keyPackageRef = reference
deriving Decidable

section Reads

variable (t : Tables)

def invitationState (invitationId : Id16) : Option InvitationState :=
  (t.reservations.find? fun r => decide (r.invitationId = invitationId)).map (·.state)

def invitationOpeningState (invitationId : Id16) : Option InvitationOpeningState :=
  (t.openings.find? fun o => decide (o.invitationId = invitationId)).map (·.state)

def authorizationState (attemptId : Id16) : Option AuthorizationState :=
  (t.attempts.find? fun a => decide (a.attemptId = attemptId)).map (·.state)

def recoverInviter (transactionId : Id16) : Except StoreError (Option InviterRecovery) :=
  match t.inviterJoins.find? fun j => decide (j.transactionId = transactionId) with
  | none => .ok none
  | some j =>
      if j.maximumDeliveryAttempts = 0 ∨ 32 < j.maximumDeliveryAttempts ∨
          j.maximumDeliveryAttempts < j.deliveryAttempts then .error .rejected
      else .ok (some ⟨j.epochAfter, j.outboxState, j.deliveryAttempts⟩)

def recoverJoiner (transactionId : Id16) : Option JoinerRecovery :=
  (t.joinerCommits.find? fun j => decide (j.transactionId = transactionId)).map (⟨·.groupId⟩)

def schemaVersion : Except StoreError Nat :=
  match t.metadata with
  | r :: _ => if r.schemaVersion < 2 ^ 32 then .ok r.schemaVersion else .error .rejected
  | [] => .error .rejected

/-- `load_client_identity`; the record of another group is a conflict. -/
def loadClientIdentity (groupId : { id : Bytes32 // id ≠ 0 }) :
    Except StoreError (Option Bytes) :=
  match t.clientIdentity with
  | r :: _ =>
      if r.identityRecord.length ≠ 141 then .error .rejected
      else if r.groupId ≠ groupId then .error .conflict
      else .ok (some r.identityRecord)
  | [] => .ok none

def state (groupId : Bytes) : Option Bytes :=
  (t.mlsGroups.find? fun g => decide (g.groupId = groupId)).map (·.state)

def epoch (groupId : Bytes) (epochId : Nat) : Except StoreError (Option Bytes) :=
  if i64Max < epochId then .error .rejected
  else .ok ((t.mlsEpochs.find? fun e =>
    decide (e.groupId = groupId ∧ e.epochId = epochId)).map (·.data))

def maxEpochId (groupId : Bytes) : Option Nat :=
  ((t.mlsEpochs.filter fun e => decide (e.groupId = groupId)).map (·.epochId)).max?

/-- `KeyPackageStorage::get`. -/
def getKeyPackage (id : Bytes) : Except StoreError (Option KeyPackageData) :=
  match toFixed 32 id with
  | none => .error .rejected
  | some reference =>
      match t.keyPackages.find? fun k => decide (k.keyPackageRef = reference) with
      | none => .ok none
      | some k =>
          if k.keyPackage = [] ∨ 16384 < k.keyPackage.length ∨ k.initKey = [] ∨
              4096 < k.initKey.length ∨ k.leafKey = [] ∨ 4096 < k.leafKey.length ∨
              k.expiresAt = 0 then .error .rejected
          else .ok (some ⟨k.keyPackage, k.initKey, k.leafKey, k.expiresAt⟩)

end Reads

end SqlCipherStorage

inductive Query where
  | invitationState (invitationId : Id16)
  | invitationOpeningState (invitationId : Id16)
  | authorizationState (attemptId : Id16)
  | recoverInviter (transactionId : Id16)
  | recoverJoiner (transactionId : Id16)
  | schemaVersion
  | keyPackageExists (reference : Bytes32)
  | loadClientIdentity (groupId : { id : Bytes32 // id ≠ 0 })
  | state (groupId : Bytes)
  | epoch (groupId : Bytes) (epochId : Nat)
  | maxEpochId (groupId : Bytes)
  | getKeyPackage (id : Bytes)
  | cipherVersion (linked : String)
  | integrityCheck (intact : Bool)

/-- What a read found, by the kind of its result. -/
inductive Retained where
  | reservation (state : Option InvitationState)
  | opening (state : Option InvitationOpeningState)
  | attempt (state : Option AuthorizationState)
  | inviter (recovery : Option InviterRecovery)
  | joiner (recovery : Option JoinerRecovery)
  | number (value : Option Nat)
  | bytes (value : Option Bytes)
  | keyPackage (value : Option SqlCipherStorage.KeyPackageData)
  | text (value : String)
  | flag (value : Bool)

open SqlCipherStorage in
/-- The answer from the tables that the connection sees. -/
def Query.answer (t : Tables) : Query → Except StoreError Retained
  | .invitationState id => .ok (.reservation (SqlCipherStorage.invitationState t id))
  | .invitationOpeningState id => .ok (.opening (SqlCipherStorage.invitationOpeningState t id))
  | .authorizationState id => .ok (.attempt (SqlCipherStorage.authorizationState t id))
  | .recoverInviter id => (SqlCipherStorage.recoverInviter t id).map .inviter
  | .recoverJoiner id => .ok (.joiner (SqlCipherStorage.recoverJoiner t id))
  | .schemaVersion => (SqlCipherStorage.schemaVersion t).map fun version => .number (some version)
  | .keyPackageExists reference => .ok (.flag (keyPackageExistsOn t reference))
  | .loadClientIdentity groupId => (SqlCipherStorage.loadClientIdentity t groupId).map .bytes
  | .state groupId => .ok (.bytes (SqlCipherStorage.state t groupId))
  | .epoch groupId epochId => (SqlCipherStorage.epoch t groupId epochId).map .bytes
  | .maxEpochId groupId => .ok (.number (SqlCipherStorage.maxEpochId t groupId))
  | .getKeyPackage id => (SqlCipherStorage.getKeyPackage t id).map .keyPackage
  | .cipherVersion linked => .ok (.text linked)
  | .integrityCheck intact => .ok (.flag intact)

end SessionChat.Storage
