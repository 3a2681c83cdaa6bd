import SessionChat.Mls.Group
import SessionChat.Transition.Run
import Mathlib.Logic.Function.Basic

/-!
# Group handles over one store (`crates/session-crypto-mls/src/lib.rs`)

A system of group handles that share a store and the threads of a process. A handle is
exclusively borrowed by a prepared commit, a running storage write and the staging callback of
`stage_and_write_to_storage`. The parts of a method around a callback are separate calls, so
that other calls may fall between them.

Two parts of the state belong to the specification only: the Adds applied on the way to the
state of a handle, and the writes the store has taken.
-/

set_option autoImplicit false

namespace SessionChat.Mls

open Storage Transition

/-- A handle, and with it the revision counter it shares with its applied Adds. -/
abbrev HandleId := Nat

abbrev ThreadId := Nat

/-- An applied Add, and with it its write authority. -/
abbrev AddId := Nat

/-! ## State -/

/-- `TransientStorage` and `DurableStorage`. -/
inductive StorageMode where
  | transient
  | durable
deriving DecidableEq

/-- `AppliedAddition`, the content of a durable `CommittedAddition`. -/
structure AppliedAddition where
  groupId : Bytes32
  epochBefore : Nat
  epochAfter : Nat
  stateBinding : HandleId
  stateRevision : BitVec 64
  writeAuthority : AddId
  reference : Bytes32
  credentialIdentity : Bytes32
  leafSignatureKey : Bytes32
  welcome : MlsWireMessage
  commit : MlsWireMessage
deriving DecidableEq

/-- What currently borrows a handle. -/
inductive Activity where
  | idle
  | prepared (value : Prepared)
  | staging (thread : ThreadId) (addition : AppliedAddition)
  | writing (own : Option (ThreadId × AppliedAddition))
deriving DecidableEq

structure Handle (P : Provider) where
  group : Group P
  mode : StorageMode
  activity : Activity
  /-- The Adds the provider has applied on the way to this state. -/
  adds : List AddId

/-- A write the store has taken; `own` is the Add whose authority it was made under. -/
structure StoreWrite where
  handle : HandleId
  mode : StorageMode
  snapshot : Snapshot
  adds : List AddId
  own : Option AddId

structure System (P : Provider) where
  handles : HandleId → Option (Handle P)
  nextHandle : HandleId
  /-- The applied Adds that were not yet consumed. -/
  additions : AddId → Option AppliedAddition
  nextAdd : AddId
  /-- `CURRENT_PROVIDER_STATE_WRITE` of each thread. -/
  currentWrite : ThreadId → Option AddId
  log : List StoreWrite

variable {P : Provider}

def System.init : System P where
  handles := fun _ => none
  nextHandle := 0
  additions := fun _ => none
  nextAdd := 0
  currentWrite := fun _ => none
  log := []

/-! ## Calls and replies -/

/-- A call on one handle. `staged` is the return of the staging callback and
`stored` that of the store's write. -/
inductive Op (P : Provider) where
  | prepareAdd (validated : ValidatedKeyPackage P) (now : Nat)
  | prepareRemovePeer (now : Nat)
  | prepareEpochUpdate (now : Nat)
  | apply
  | drop
  | encryptApplicationMessage (plaintext : Bytes)
  | processMessage (message : MlsWireMessage)
  | writeToStorage
  | stageAndWriteToStorage (thread : ThreadId) (addition : AddId)
  | staged (result : Except StoreError Unit)
  | stored (accepted : Bool)

/-- `load` opens a durable handle on a state that a write of the log has stored. -/
inductive Call (P : Provider) where
  | create (mode : StorageMode) (inner : P.State)
  | load (entry : Nat) (inner : P.State)
  | on (handle : HandleId) (op : Op P)

/-- `CommittedAdditionPersistenceError`. -/
inductive PersistenceError where
  | staging (error : StoreError)
  | staleSnapshot
  | provider (error : MlsAdapterError)
deriving DecidableEq

/-- `unavailable` is the reply to a call that the caller cannot make. -/
inductive Reply where
  | opened (result : Except MlsAdapterError HandleId)
  | prepared (result : Except MlsAdapterError Unit)
  | committedAddition (result : Except MlsAdapterError AddId)
  | transientAddition (result : Except MlsAdapterError (MlsWireMessage × MlsWireMessage))
  | committed (result : Except MlsAdapterError MlsWireMessage)
  | dropped
  | encrypted (result : Except MlsAdapterError MlsWireMessage)
  | processed (result : Except MlsAdapterError Group.IncomingMessage)
  | storing (snapshot : Snapshot)
  | written (result : Except MlsAdapterError Unit)
  | staging (addition : AddId)
  | persisted (result : Except PersistenceError (MlsWireMessage × MlsWireMessage))
  | unavailable
deriving DecidableEq

namespace System

variable (s : System P)

def setHandle (h : HandleId) (x : Handle P) : System P :=
  { s with handles := Function.update s.handles h (some x) }

/-- A new handle for a state that passes `from_provider`. -/
def openHandle (mode : StorageMode) (inner : P.State) (adds : List AddId) : System P × Reply :=
  match Group.fromProvider inner with
  | .error e => (s, .opened (.error e))
  | .ok group =>
      ({ s.setHandle s.nextHandle ⟨group, mode, .idle, adds⟩ with
          nextHandle := s.nextHandle + 1 }, .opened (.ok s.nextHandle))

/-! ## Prepare, apply and messages -/

/-- A prepared value borrows the handle until it is applied or dropped. -/
def prepare (h : HandleId) (x : Handle P) (result : Group P × Except MlsAdapterError Prepared) :
    System P × Reply :=
  match result with
  | (g, .error e) => (s.setHandle h { x with group := g }, .prepared (.error e))
  | (g, .ok value) =>
      (s.setHandle h { x with group := g, activity := .prepared value }, .prepared (.ok ()))

/-- The Adds of the state after an apply: the provider's word counts, not the
adapter's answer. -/
def addsAfterApply (x : Handle P) : List AddId :=
  if (P.applyPendingCommit x.group.inner).2 then x.adds ++ [s.nextAdd] else x.adds

/-- Ends an apply of an Add that left the group `g`. -/
def endAddition (h : HandleId) (x : Handle P) (g : Group P) : System P :=
  { s.setHandle h { x with group := g, activity := .idle, adds := s.addsAfterApply x } with
      nextAdd := s.nextAdd + 1 }

/-- `PreparedAddition::apply` of a transient group. -/
def applyTransientAddition (h : HandleId) (x : Handle P) (epochBefore : Nat)
    (welcome commit : MlsWireMessage) : System P × Reply :=
  match x.group.applyAddition epochBefore with
  | (g, .error e) => (s.endAddition h x g, .transientAddition (.error e))
  | (g, .ok _) => (s.endAddition h x g, .transientAddition (.ok (welcome, commit)))

/-- `PreparedAddition::apply` of a durable group. -/
def applyDurableAddition (s : System P) (h : HandleId) (x : Handle P) (epochBefore : Nat)
    (reference credentialIdentity leafSignatureKey : Bytes32)
    (welcome commit : MlsWireMessage) : System P × Reply :=
  match x.group.applyDurableAddition epochBefore with
  | (g, .error e) => (s.endAddition h x g, .committedAddition (.error e))
  | (g, .ok revision) =>
      let addition : AppliedAddition :=
        { groupId := g.groupId.1
          epochBefore := epochBefore
          epochAfter := g.epoch
          stateBinding := h
          stateRevision := revision
          writeAuthority := s.nextAdd
          reference := reference
          credentialIdentity := credentialIdentity
          leafSignatureKey := leafSignatureKey
          welcome := welcome
          commit := commit }
      ({ s.endAddition h x g with
          additions := Function.update s.additions s.nextAdd (some addition) },
        .committedAddition (.ok s.nextAdd))

section

variable (h : HandleId)

/-- `PreparedRemoval::apply` and `PreparedEpochUpdate::apply`. -/
def applyCommit (x : Handle P) (epochBefore memberCount : Nat) (commit : MlsWireMessage) :
    System P × Reply :=
  match x.group.applyPending epochBefore memberCount with
  | (g, result) =>
      (s.setHandle h { x with group := g, activity := .idle },
        .committed (result.map fun _ => commit))

def applyPrepared (x : Handle P) : Prepared → System P × Reply
  | .addition epochBefore reference credentialIdentity leafSignatureKey welcome commit =>
      match x.mode with
      | .transient => s.applyTransientAddition h x epochBefore welcome commit
      | .durable =>
          s.applyDurableAddition h x epochBefore reference credentialIdentity leafSignatureKey
            welcome commit
  | .removal epochBefore commit => s.applyCommit h x epochBefore 1 commit
  | .epochUpdate epochBefore memberCountBefore commit =>
      s.applyCommit h x epochBefore memberCountBefore commit

/-! ## Writing -/

/-- `write_transient_state_to_storage` and `write_to_storage` up to the store's write. -/
def beginWrite (x : Handle P) : System P × Reply :=
  if x.mode = .durable ∧ x.group.pendingAdditionRevision ≠ none then
    (s, .written (.error .protocolRejected))
  else
    (s.setHandle h { x with activity := .writing none }, .storing (P.snapshot x.group.inner))

/-- The first check of `stage_and_write_to_storage`. -/
def current (g : Group P) (a : AppliedAddition) : Bool :=
  decide (a.stateBinding = h ∧ a.stateRevision = g.stateBinding ∧
    g.pendingAdditionRevision = some a.stateRevision ∧ a.groupId = g.groupId.1 ∧
    a.epochAfter = g.epoch)

/-- `stage_and_write_to_storage` up to the staging callback; the Add is consumed. -/
def beginStage (x : Handle P) (thread : ThreadId) (addition : AddId) (a : AppliedAddition) :
    System P × Reply :=
  let s := { s with additions := Function.update s.additions addition none }
  if current h x.group a then
    (s.setHandle h { x with activity := .staging thread a }, .staging a.writeAuthority)
  else (s, .persisted (.error .staleSnapshot))

/-- From the return of the staging callback to the store's write. An authority is
activated once, so that only the thread's other writes can stand in its way. -/
def endStage (x : Handle P) (thread : ThreadId) (a : AppliedAddition)
    (result : Except StoreError Unit) : System P × Reply :=
  match result with
  | .error e => (s.setHandle h { x with activity := .idle }, .persisted (.error (.staging e)))
  | .ok () =>
      if a.stateRevision = x.group.stateBinding ∧
          x.group.pendingAdditionRevision = some a.stateRevision then
        if s.currentWrite thread = none then
          ({ s.setHandle h { x with activity := .writing (some (thread, a)) } with
              currentWrite := Function.update s.currentWrite thread (some a.writeAuthority) },
            .storing (P.snapshot x.group.inner))
        else
          (s.setHandle h { x with activity := .idle },
            .persisted (.error (.provider .protocolRejected)))
      else (s.setHandle h { x with activity := .idle }, .persisted (.error .staleSnapshot))

end

/-- The provider's state and answer once the store has answered. -/
def afterStore (inner : P.State) (accepted : Bool) : P.State × Bool :=
  if accepted then P.stored inner else (P.refused inner, false)

section

variable (h : HandleId)
include h

/-- What the store's log gains by its answer. -/
def logged (x : Handle P) (own : Option AddId) (accepted : Bool) : List StoreWrite :=
  if accepted then [⟨h, x.mode, P.snapshot x.group.inner, x.adds, own⟩] else []

/-- The end of an ordinary write. -/
def endWrite (x : Handle P) (accepted : Bool) : System P × Reply :=
  match afterStore x.group.inner accepted with
  | (inner, ok) =>
      ({ s.setHandle h { x with group := { x.group with inner := inner }, activity := .idle } with
          log := s.log ++ logged h x none accepted },
        .written (if ok then .ok () else .error .protocolRejected))

/-- The end of `stage_and_write_to_storage`; the guard releases the thread. -/
def endOwnWrite (x : Handle P) (thread : ThreadId) (a : AppliedAddition) (accepted : Bool) :
    System P × Reply :=
  match afterStore x.group.inner accepted with
  | (inner, ok) =>
      let pending := if ok then none else x.group.pendingAdditionRevision
      let group := { x.group with inner := inner, pendingAdditionRevision := pending }
      ({ s.setHandle h { x with group := group, activity := .idle } with
          currentWrite := Function.update s.currentWrite thread
            (if s.currentWrite thread = some a.writeAuthority then none
              else s.currentWrite thread)
          log := s.log ++ logged h x (some a.writeAuthority) accepted },
        .persisted (if ok then .ok (a.welcome, a.commit)
          else .error (.provider .protocolRejected)))

/-! ## The step function -/

/-- A call on a handle that nothing borrows. -/
def operateIdle (x : Handle P) : Op P → System P × Reply
  | .prepareAdd validated now => s.prepare h x (x.group.prepareAdd validated now)
  | .prepareRemovePeer now => s.prepare h x (x.group.prepareRemovePeer now)
  | .prepareEpochUpdate now => s.prepare h x (x.group.prepareEpochUpdate now)
  | .encryptApplicationMessage plaintext =>
      match x.group.encryptApplicationMessage plaintext with
      | (g, result) => (s.setHandle h { x with group := g }, .encrypted result)
  | .processMessage message =>
      match x.group.processMessage message with
      | (g, result) => (s.setHandle h { x with group := g }, .processed result)
  | .writeToStorage => s.beginWrite h x
  | .stageAndWriteToStorage thread addition =>
      match x.mode, s.additions addition with
      | .durable, some a => s.beginStage h x thread addition a
      | _, _ => (s, .unavailable)
  | _ => (s, .unavailable)

def operate (x : Handle P) (op : Op P) : System P × Reply :=
  match x.activity, op with
  | .idle, op => s.operateIdle h x op
  | .prepared value, .apply => s.applyPrepared h x value
  | .prepared _, .drop =>
      (s.setHandle h { x with group := x.group.clearPendingCommit, activity := .idle }, .dropped)
  | .staging thread a, .staged result => s.endStage h x thread a result
  | .writing none, .stored accepted => s.endWrite h x accepted
  | .writing (some (thread, a)), .stored accepted => s.endOwnWrite h x thread a accepted
  | _, _ => (s, .unavailable)

end

def step : Call P → System P × Reply
  | .create mode inner => s.openHandle mode inner []
  | .load entry inner =>
      match s.log[entry]? with
      | none => (s, .unavailable)
      | some write =>
          match write.mode with
          | .transient => (s, .unavailable)
          | .durable => s.openHandle .durable inner write.adds
  | .on h op =>
      match s.handles h with
      | none => (s, .unavailable)
      | some x => s.operate h x op

end System

abbrev GroupWorld (P : Provider) := World (System P) (Call P) Reply

/-! ## A small provider -/

namespace Sample

/-- An epoch, a roster, the last plaintext sent and the roster of the pending commit. -/
structure State where
  epoch : Nat
  roster : List Member
  last : Bytes
  pending : Option (List Member)

def member (index : Nat) (identity : Bytes32) (extensions : List Nat) : Member where
  index := index
  identifier := some (Codec.fixedBytes 32 identity)
  signatureKey := Codec.fixedBytes 32 identity
  extensions := extensions
  capabilities := ⟨[Group.mls10], [Group.cipherSuite], [], [], [Group.basicCredential]⟩

/-- The KeyPackage `[0]` is that of an allowed peer; any other has an extension. -/
def peer (message : Bytes) : Member :=
  if message = [0] then member 1 2 [] else member 1 2 [9]

def output (welcome : List ProviderMessage) : CommitOutput :=
  ⟨welcome, ⟨some [2], []⟩, true⟩

def applyPendingCommit (st : State) : State × Bool :=
  match st.pending with
  | none => (st, false)
  | some roster => ({ st with epoch := st.epoch + 1, roster := roster, pending := none }, true)

/-- `[1]` removes the local member, `[2]` re-initializes the group, and `[3]` empties the
roster; anything else is application data. -/
def process (st : State) (message : Bytes) : State × Option ReceivedMessage :=
  if message = [1] then (st, some (.commit .removed))
  else if message = [2] then ({ st with epoch := st.epoch + 1 }, some (.commit .reInit))
  else if message = [3] then
    ({ st with epoch := st.epoch + 1, roster := [] }, some (.commit .newEpoch))
  else (st, some (.applicationMessage message []))

def provider : Provider where
  State := State
  Message := Bytes
  decode := some
  groupId _ := Codec.fixedBytes 32 1
  protocolVersion _ := Group.mls10
  cipherSuite _ := Group.cipherSuite
  currentEpoch := State.epoch
  currentMemberIndex _ := 0
  members := State.roster
  addMember st message _ :=
    ({ st with pending := some (st.roster ++ [peer message]) },
      some (output [⟨some [1], [Codec.fixedBytes 32 5]⟩]))
  removeMember st index _ :=
    ({ st with pending := some (st.roster.filter fun m => decide (m.index ≠ index)) },
      some (output []))
  emptyCommit st _ := ({ st with pending := some st.roster }, some (output []))
  applyPendingCommit := applyPendingCommit
  clearPendingCommit st := { st with pending := none }
  encryptApplicationMessage st plaintext :=
    ({ st with last := plaintext }, some ⟨some plaintext, []⟩)
  processIncomingMessage := process
  snapshot st := ⟨⟨Codec.fixedBytes 32 1, st.last⟩, [], []⟩
  stored st := (st, true)
  refused st := st

/-- A group of the local member alone. -/
def solo : provider.State := (⟨0, [member 0 1 []], [], none⟩ : State)

/-- A KeyPackage with the given provider message. -/
def keyPackage (message : Bytes) : ValidatedKeyPackage provider :=
  ⟨message, 5, 2, 3⟩

end Sample

end SessionChat.Mls
