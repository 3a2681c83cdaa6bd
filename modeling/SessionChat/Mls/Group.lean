import SessionChat.Storage.InviterCommit

/-!
# The MLS group adapter (`crates/session-crypto-mls/src/lib.rs`)

`SessionMlsGroup` and the values it hands out, over an arbitrary MLS provider: a state machine
that builds, applies and clears one pending commit, encrypts and processes messages, and
passes its snapshot to the store. Nothing is assumed about what its operations do to its
state; one that fails may change it too.

The revision counter is shared with applied Adds in the source; a group's counter is named by
the handle that owns it.
-/

set_option autoImplicit false

namespace SessionChat.Mls

open Storage Codec

/-! ## The provider -/

inductive MlsAdapterError where
  | invalidIdentifier
  | inputTooLarge
  | malformedKeyPackage
  | rejectedKeyPackage
  | protocolRejected
  | unexpectedProviderOutput
  | groupFull
deriving DecidableEq

/-- What a provider passes to the store in one write. -/
structure Snapshot where
  state : GroupState
  epochInserts : List EpochRecord
  epochUpdates : List EpochRecord
deriving DecidableEq

/-- A message the provider has built; `none` if it cannot be serialized. -/
structure ProviderMessage where
  bytes : Option Bytes
  welcomeKeyPackageReferences : List Bytes

structure CommitOutput where
  welcomeMessages : List ProviderMessage
  commitMessage : ProviderMessage
  containsUpdatePath : Bool

structure Capabilities where
  protocolVersions : List Nat
  cipherSuites : List Nat
  extensions : List Nat
  proposals : List Nat
  credentials : List Nat

/-- A nonblank leaf of the roster; `identifier` is that of a basic credential. -/
structure Member where
  index : Nat
  identifier : Option Bytes
  signatureKey : Bytes
  extensions : List Nat
  capabilities : Capabilities

inductive CommitEffect where
  | newEpoch
  | removed
  | reInit

/-- `ReceivedMessage`; everything the adapter does not name is `other`. -/
inductive ReceivedMessage where
  | applicationMessage (data authenticatedData : Bytes)
  | commit (effect : CommitEffect)
  | other

structure Provider where
  State : Type
  Message : Type
  decode : Bytes → Option Message
  groupId : State → Bytes
  protocolVersion : State → Nat
  cipherSuite : State → Nat
  currentEpoch : State → Nat
  currentMemberIndex : State → Nat
  members : State → List Member
  /-- `commit_builder().add_member(…).commit_time(…).build()`. -/
  addMember : State → Message → Nat → State × Option CommitOutput
  /-- `commit_builder().remove_member(…).commit_time(…).build()`. -/
  removeMember : State → Nat → Nat → State × Option CommitOutput
  /-- `commit_builder().commit_time(…).build()`. -/
  emptyCommit : State → Nat → State × Option CommitOutput
  applyPendingCommit : State → State × Bool
  clearPendingCommit : State → State
  encryptApplicationMessage : State → Bytes → State × Option ProviderMessage
  processIncomingMessage : State → Message → State × Option ReceivedMessage
  snapshot : State → Snapshot
  /-- The rest of `write_to_storage` once the store has taken the snapshot. -/
  stored : State → State × Bool
  /-- The rest of `write_to_storage` once the store has refused it. -/
  refused : State → State

variable {P : Provider}

/-! ## Bounded messages -/

def maxMlsMessageBytes : Nat := 64 * 1024

def maxApplicationBytes : Nat := 16 * 1024

/-- A Welcome or a wire message within its outer bound. -/
abbrev MlsWireMessage := { bytes : Bytes // bytes.length ≤ maxMlsMessageBytes }

/-- `MlsWireMessage::from_provider` and `WelcomeMessage::from_provider`. -/
def ProviderMessage.bounded (message : ProviderMessage) : Except MlsAdapterError MlsWireMessage :=
  match message.bytes with
  | none => .error .unexpectedProviderOutput
  | some bytes =>
      if h : bytes.length ≤ maxMlsMessageBytes then .ok ⟨bytes, h⟩
      else .error .unexpectedProviderOutput

/-! ## The group -/

structure Group (P : Provider) where
  inner : P.State
  groupId : { id : Bytes32 // id ≠ 0 }
  stateBinding : BitVec 64
  pendingAdditionRevision : Option (BitVec 64)
  inactive : Bool

namespace Group

def mls10 : Nat := 1

/-- `CipherSuite::CURVE25519_AES128`. -/
def cipherSuite : Nat := 1

/-- `BasicCredential::credential_type()`. -/
def basicCredential : Nat := 1

/-- The checks on one member besides the uniqueness of its identity. -/
def memberAllowed (member : Member) : Bool :=
  decide (member.signatureKey.length = 32 ∧ member.extensions = [] ∧
    member.capabilities.protocolVersions = [mls10] ∧
    member.capabilities.cipherSuites = [cipherSuite] ∧ member.capabilities.extensions = [] ∧
    member.capabilities.proposals = [] ∧ member.capabilities.credentials = [basicCredential])

/-- The loop over the roster, with the identities seen so far. -/
def rosterAllowed : List (BitVec 256) → List Member → Bool
  | _, [] => true
  | seen, member :: rest =>
      match member.identifier.bind (toFixed 32) with
      | none => false
      | some identity =>
          decide (identity ≠ 0 ∧ identity ∉ seen) && memberAllowed member &&
            rosterAllowed (identity :: seen) rest

def epoch (g : Group P) : Nat := P.currentEpoch g.inner

def memberCount (g : Group P) : Nat := (P.members g.inner).length

def phaseOneInvariantsHold (g : Group P) : Bool :=
  decide (P.protocolVersion g.inner = mls10 ∧ P.cipherSuite g.inner = cipherSuite ∧
    P.groupId g.inner = fixedBytes 32 g.groupId.1 ∧ 1 ≤ g.memberCount ∧ g.memberCount ≤ 2) &&
  rosterAllowed [] (P.members g.inner)

def fromProvider (inner : P.State) : Except MlsAdapterError (Group P) :=
  match toFixed 32 (P.groupId inner) with
  | none => .error .unexpectedProviderOutput
  | some groupId =>
      if h : groupId ≠ 0 then
        let group : Group P := ⟨inner, ⟨groupId, h⟩, 0, none, false⟩
        if group.phaseOneInvariantsHold then .ok group else .error .unexpectedProviderOutput
      else .error .unexpectedProviderOutput

/-- `invalidate_state_binding`: `fetch_add` wraps around. -/
def invalidateStateBinding (g : Group P) : Group P :=
  { g with stateBinding := g.stateBinding + 1 }

def clearPendingCommit (g : Group P) : Group P :=
  { g with inner := P.clearPendingCommit g.inner }

end Group

/-! ## Preparing a commit -/

structure ValidatedKeyPackage (P : Provider) where
  message : P.Message
  reference : Bytes32
  credentialIdentity : Bytes32
  leafSignatureKey : Bytes32

/-- `PreparedAddition`, `PreparedRemoval` and `PreparedEpochUpdate`. The source keeps
their outputs in options that `apply`, which consumes the value, takes once. -/
inductive Prepared where
  | addition (epochBefore : Nat) (reference credentialIdentity leafSignatureKey : Bytes32)
      (welcome commit : MlsWireMessage)
  | removal (epochBefore : Nat) (commit : MlsWireMessage)
  | epochUpdate (epochBefore memberCountBefore : Nat) (commit : MlsWireMessage)
deriving DecidableEq

namespace Group

/-- The exact Welcome and Commit of a built Add. -/
def additionOutput (output : CommitOutput) (reference : Bytes32) :
    Except MlsAdapterError (MlsWireMessage × MlsWireMessage) :=
  match output.welcomeMessages with
  | [welcome] =>
      if fixedBytes 32 reference ∈ welcome.welcomeKeyPackageReferences then do
        let welcome ← welcome.bounded
        let commit ← output.commitMessage.bounded
        return (welcome, commit)
      else .error .unexpectedProviderOutput
  | _ => .error .unexpectedProviderOutput

variable (g : Group P)

/-- Takes what the provider built: a failed build leaves nothing to clear, and an
output that is not admitted is cleared. -/
def finishPrepare {α : Type} (built : P.State × Option CommitOutput)
    (check : CommitOutput → Except MlsAdapterError α) : Group P × Except MlsAdapterError α :=
  match built with
  | (inner, none) => ({ g with inner := inner }, .error .protocolRejected)
  | (inner, some output) =>
      match check output with
      | .error e => ({ g with inner := inner }.clearPendingCommit, .error e)
      | .ok a => ({ g with inner := inner }, .ok a)

def prepareAdd (validated : ValidatedKeyPackage P) (now : Nat) :
    Group P × Except MlsAdapterError Prepared :=
  let g := g.invalidateStateBinding
  if g.memberCount ≠ 1 then (g, .error .groupFull)
  else if ∃ m ∈ P.members g.inner,
      m.identifier = some (fixedBytes 32 validated.credentialIdentity) then
    (g, .error .rejectedKeyPackage)
  else
    g.finishPrepare (P.addMember g.inner validated.message now) fun output => do
      let (welcome, commit) ← additionOutput output validated.reference
      return .addition g.epoch validated.reference validated.credentialIdentity
        validated.leafSignatureKey welcome commit

def prepareRemovePeer (now : Nat) : Group P × Except MlsAdapterError Prepared :=
  let g := g.invalidateStateBinding
  if g.memberCount ≠ 2 then (g, .error .protocolRejected)
  else
    match (P.members g.inner).find? fun m => decide (m.index ≠ P.currentMemberIndex g.inner) with
    | none => (g, .error .unexpectedProviderOutput)
    | some peer =>
        g.finishPrepare (P.removeMember g.inner peer.index now) fun output => do
          if output.welcomeMessages ≠ [] then .error .unexpectedProviderOutput
          let commit ← output.commitMessage.bounded
          return .removal g.epoch commit

def prepareEpochUpdate (now : Nat) : Group P × Except MlsAdapterError Prepared :=
  let g := g.invalidateStateBinding
  if g.inactive = true ∨ ¬(1 ≤ g.memberCount ∧ g.memberCount ≤ 2) then
    (g, .error .protocolRejected)
  else
    g.finishPrepare (P.emptyCommit g.inner now) fun output => do
      if output.containsUpdatePath = false ∨ output.welcomeMessages ≠ [] then
        .error .unexpectedProviderOutput
      let commit ← output.commitMessage.bounded
      return .epochUpdate g.epoch g.memberCount commit

/-! ## Applying a commit -/

/-- The state of the group after an apply is the one the prepared value expects. -/
def applied (epochBefore memberCount : Nat) : Bool :=
  decide (g.epoch = epochBefore + 1 ∧ g.memberCount = memberCount) && g.phaseOneInvariantsHold

/-- The shared part of the three `apply` methods. A value that was not applied
clears the pending commit when it is dropped. -/
def applyPending (epochBefore memberCount : Nat) :
    Group P × Except MlsAdapterError Unit :=
  match P.applyPendingCommit g.inner with
  | (inner, false) => ({ g with inner := inner }.clearPendingCommit, .error .protocolRejected)
  | (inner, true) =>
      if ({ g with inner := inner } : Group P).applied epochBefore memberCount then
        ({ g with inner := inner }, .ok ())
      else
        ({ g with inner := inner, inactive := true }.clearPendingCommit,
          .error .unexpectedProviderOutput)

/-- `apply_provider`, which reports the revision the Add produced. -/
def applyAddition (epochBefore : Nat) :
    Group P × Except MlsAdapterError (BitVec 64) :=
  match g.applyPending epochBefore 2 with
  | (g, .error e) => (g, .error e)
  | (g, .ok ()) =>
      let g := g.invalidateStateBinding
      (g, .ok g.stateBinding)

/-- `PreparedAddition::apply` of a durable group records the obligation. -/
def applyDurableAddition (epochBefore : Nat) :
    Group P × Except MlsAdapterError (BitVec 64) :=
  match g.applyAddition epochBefore with
  | (g, .error e) => (g, .error e)
  | (g, .ok revision) => ({ g with pendingAdditionRevision := some revision }, .ok revision)

/-! ## Messages -/

inductive IncomingMessage where
  | application (data : Bytes)
  | epochAdvanced
  | removed
deriving DecidableEq

def encryptApplicationMessage (g : Group P) (plaintext : Bytes) :
    Group P × Except MlsAdapterError MlsWireMessage :=
  let g := g.invalidateStateBinding
  if g.inactive = true then (g, .error .protocolRejected)
  else if maxApplicationBytes < plaintext.length then (g, .error .inputTooLarge)
  else
    match P.encryptApplicationMessage g.inner plaintext with
    | (inner, none) => ({ g with inner := inner }, .error .protocolRejected)
    | (inner, some message) => ({ g with inner := inner }, message.bounded)

/-- What the adapter makes of a processed message. -/
def receive (g : Group P) : ReceivedMessage → Group P × Except MlsAdapterError IncomingMessage
  | .applicationMessage data authenticatedData =>
      if maxApplicationBytes < data.length ∨ authenticatedData ≠ [] then
        (g, .error .protocolRejected)
      else (g, .ok (.application data))
  | .commit .newEpoch =>
      if g.phaseOneInvariantsHold then (g, .ok .epochAdvanced)
      else ({ g with inactive := true }, .error .protocolRejected)
  | .commit .removed => ({ g with inactive := true }, .ok .removed)
  | .commit .reInit => (g, .error .protocolRejected)
  | .other => (g, .error .protocolRejected)

def processMessage (g : Group P) (message : MlsWireMessage) :
    Group P × Except MlsAdapterError IncomingMessage :=
  let g := g.invalidateStateBinding
  if g.inactive = true then (g, .error .protocolRejected)
  else
    match P.decode message.1 with
    | none => (g, .error .protocolRejected)
    | some message =>
        match P.processIncomingMessage g.inner message with
        | (inner, none) => ({ g with inner := inner }, .error .protocolRejected)
        | (inner, some received) => ({ g with inner := inner } : Group P).receive received

end Group

end SessionChat.Mls
