import SessionChat.Mailbox.Contract

/-!
# The mailbox lifecycle contract (`crates/session-transport/src/lifecycle.rs`)

What a reusable mailbox provider declares, the requests to issue a mailbox and to
rotate it to its next generation, and the results, each checked against the
request it answers.
-/

set_option autoImplicit false

namespace SessionChat.Mailbox

open Transport

/-! ## Rights -/

inductive RightKind where
  | deposit
  | receive
  | acknowledgement
  | rotation
deriving DecidableEq

/-- Provider material for one right of one generation. `scope` is the identity of the issuing
provider instance. -/
structure Capability (kind : RightKind) where
  scope : Nat
  binding : CursorBinding
  token : BitVec 256
deriving DecidableEq

structure MailboxAuthoritySet where
  binding : CursorBinding
  deposit : Capability .deposit
  receive : Capability .receive
  acknowledgement : Capability .acknowledgement
  rotation : Capability .rotation

/-! ## Requests -/

structure MailboxIssueRequest where
  profile : TransportProfileId
  bindingFingerprint : BindingFingerprint
  expiresAtUnixSeconds : Nat
  budget : OperationBudget
  supported : profile ≠ .localV1
  expires : expiresAtUnixSeconds ≠ 0

def MailboxIssueRequest.new (profile : TransportProfileId)
    (bindingFingerprint : BindingFingerprint) (expiresAtUnixSeconds : Nat)
    (budget : OperationBudget) : Except MailboxLifecycleContractError MailboxIssueRequest :=
  if hprofile : profile ≠ .localV1 then
    if hexpires : expiresAtUnixSeconds ≠ 0 then
      .ok ⟨profile, bindingFingerprint, expiresAtUnixSeconds, budget, hprofile, hexpires⟩
    else .error .invalidExpiry
  else .error .unsupportedLifecycleProfile

abbrev RotationId := NonZero 128

def RotationId.fromProviderBytes : BitVec 128 → Except MailboxLifecycleContractError RotationId :=
  NonZero.new .invalidRotationId

/-- How long the predecessor may still be drained. -/
inductive RotationMode where
  | routine (drainPredecessorUntilUnixSeconds : Nat)
  | compromise
deriving DecidableEq

/-- A routine drain ends within the predecessor's life and before the successor's end. -/
def RotationMode.Within (predecessorExpiresAt successorExpiresAt : Nat) : RotationMode → Prop
  | .routine drain => drain ≠ 0 ∧ drain ≤ predecessorExpiresAt ∧ drain < successorExpiresAt
  | .compromise => True

instance (predecessorExpiresAt successorExpiresAt : Nat) :
    (mode : RotationMode) → Decidable (mode.Within predecessorExpiresAt successorExpiresAt)
  | .routine drain =>
      inferInstanceAs (Decidable (drain ≠ 0 ∧ drain ≤ predecessorExpiresAt ∧
        drain < successorExpiresAt))
  | .compromise => .isTrue trivial

/-- A compare-and-swap request for the successor of an exact generation. -/
structure RotationRequest where
  rotationId : RotationId
  predecessor : CursorBinding
  successorGeneration : MailboxGeneration
  mode : RotationMode
  successorExpiresAtUnixSeconds : Nat
  budget : OperationBudget
  expires : successorExpiresAtUnixSeconds ≠ 0
  within : mode.Within predecessor.expiresAtUnixSeconds successorExpiresAtUnixSeconds
  successor : MailboxGeneration.successor predecessor.generation = .ok successorGeneration

def RotationRequest.new (rotationId : RotationId) (predecessor : CursorBinding)
    (mode : RotationMode) (successorExpiresAtUnixSeconds : Nat) (budget : OperationBudget) :
    Except MailboxLifecycleContractError RotationRequest :=
  if hexpires : successorExpiresAtUnixSeconds ≠ 0 then
    if hwithin : mode.Within predecessor.expiresAtUnixSeconds successorExpiresAtUnixSeconds then
      match h : MailboxGeneration.successor predecessor.generation with
      | .error error => .error error
      | .ok generation =>
          .ok ⟨rotationId, predecessor, generation, mode, successorExpiresAtUnixSeconds, budget,
            hexpires, hwithin, h⟩
    else .error .invalidRotation
  else .error .invalidRotation

/-! ## The provider's declaration -/

@[ext] structure LifecycleProviderContract where
  profile : TransportProfileId
  cursorSchema : CursorSchemaVersion
  maximumRoutineDrainSeconds : Nat
  supported : profile ≠ .localV1
  drains : maximumRoutineDrainSeconds ≠ 0

instance : DecidableEq LifecycleProviderContract := fun _ _ =>
  decidable_of_iff' _ LifecycleProviderContract.ext_iff

namespace LifecycleProviderContract

def validateRotationRequest (self : LifecycleProviderContract) (request : RotationRequest)
    (nowUnixSeconds : Nat) : Except MailboxLifecycleContractError Unit :=
  if nowUnixSeconds = 0 ∨ request.predecessor.expiresAtUnixSeconds ≤ nowUnixSeconds ∨
      request.successorExpiresAtUnixSeconds ≤ nowUnixSeconds ∨
      request.predecessor.profile ≠ self.profile ∨
      request.predecessor.cursorSchema ≠ self.cursorSchema then
    .error .providerResultMismatch
  else
    match request.mode with
    | .routine drain =>
        if drain ≤ nowUnixSeconds ∨ self.maximumRoutineDrainSeconds < drain - nowUnixSeconds then
          .error .invalidRotation
        else .ok ()
    | .compromise => .ok ()

def validateIssueRequest (self : LifecycleProviderContract) (request : MailboxIssueRequest)
    (nowUnixSeconds : Nat) : Except MailboxLifecycleContractError Unit :=
  if nowUnixSeconds = 0 ∨ request.expiresAtUnixSeconds ≤ nowUnixSeconds ∨
      request.profile ≠ self.profile then
    .error .providerResultMismatch
  else .ok ()

end LifecycleProviderContract

/-! ## Results -/

structure MailboxIssueResult where
  lifecycleContract : LifecycleProviderContract
  authorities : MailboxAuthoritySet

def MailboxIssueResult.new (lifecycleContract : LifecycleProviderContract)
    (request : MailboxIssueRequest) (authorities : MailboxAuthoritySet) (nowUnixSeconds : Nat) :
    Except MailboxLifecycleContractError MailboxIssueResult := do
  lifecycleContract.validateIssueRequest request nowUnixSeconds
  let binding := authorities.binding
  if binding.profile ≠ request.profile ∨
      binding.bindingFingerprint ≠ request.bindingFingerprint ∨
      binding.cursorSchema ≠ lifecycleContract.cursorSchema ∨
      binding.expiresAtUnixSeconds ≠ request.expiresAtUnixSeconds then
    .error .providerResultMismatch
  else .ok ⟨lifecycleContract, authorities⟩

structure MailboxRotationResult where
  lifecycleContract : LifecycleProviderContract
  rotationId : RotationId
  predecessorGeneration : MailboxGeneration
  mode : RotationMode
  authorities : MailboxAuthoritySet

def MailboxRotationResult.new (lifecycleContract : LifecycleProviderContract)
    (request : RotationRequest) (authorities : MailboxAuthoritySet) (nowUnixSeconds : Nat) :
    Except MailboxLifecycleContractError MailboxRotationResult := do
  lifecycleContract.validateRotationRequest request nowUnixSeconds
  let successor := authorities.binding
  let predecessor := request.predecessor
  if successor.profile ≠ lifecycleContract.profile ∨
      successor.bindingFingerprint ≠ predecessor.bindingFingerprint ∨
      successor.continuityId ≠ predecessor.continuityId ∨
      successor.generation ≠ request.successorGeneration ∨
      successor.receiveScope = predecessor.receiveScope ∨
      successor.cursorSchema ≠ predecessor.cursorSchema ∨
      successor.providerStateEpoch ≠ predecessor.providerStateEpoch ∨
      successor.expiresAtUnixSeconds ≠ request.successorExpiresAtUnixSeconds then
    .error .providerResultMismatch
  else
    .ok ⟨lifecycleContract, request.rotationId, predecessor.generation, request.mode, authorities⟩

end SessionChat.Mailbox
