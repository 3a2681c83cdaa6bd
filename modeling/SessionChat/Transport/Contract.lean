import SessionChat.Protocol.Wire
import SessionChat.Storage.Data

/-!
# The transport contract (`crates/session-transport/src/contract.rs`, `dispatch.rs`)

Failures, the work budget of one operation, the clocks an operation reads at its
checkpoints, and the canonical envelope with the request to deposit it.
-/

set_option autoImplicit false

namespace SessionChat.Transport

open Protocol Storage

inductive TransportFailureCode where
  | invalidAuthority
  | authorityScopeMismatch
  | expiredEnvelope
  | envelopeTooLarge
  | idempotencyConflict
  | invalidCursor
  | queueFull
  | rateLimited
  | unavailable
  | deadlineExceeded
  | cancelled
  | corruptRemoteResponse
  | policyViolation
  | misconfigured
  | internal
deriving DecidableEq

/-- Bounded advice; `after` carries a delay in nanoseconds. -/
inductive RetryAdvice where
  | never
  | backoff
  | after (delay : Nat)
deriving DecidableEq

structure TransportFailure where
  code : TransportFailureCode
  retry : RetryAdvice
deriving DecidableEq

/-- The construction errors of the contract's values. -/
inductive TransportContractError where
  | invalidEnvelope
  | invalidOperationBudget
  | invalidCursor
  | invalidPollRequest
  | invalidDepositRequest
  | invalidAcknowledgementBatch
  | invalidReceiveBatch
  | expiredReceivedEnvelope
deriving DecidableEq

/-! ## Budget and checkpoints -/

/-- Finite work authority; instants are nanoseconds. -/
structure OperationBudget where
  deadline : Nat
  maxNetworkBytes : Nat
  maxAttempts : Nat
  positive : 0 < maxNetworkBytes ∧ 0 < maxAttempts

def OperationBudget.new (deadline maxNetworkBytes maxAttempts : Nat) :
    Except TransportContractError OperationBudget :=
  if h : 0 < maxNetworkBytes ∧ 0 < maxAttempts then
    .ok ⟨deadline, maxNetworkBytes, maxAttempts, h⟩
  else .error .invalidOperationBudget

/-- What a control reports when it is asked: cancellation, the monotonic clock, and the wall
clock, which may be unable to produce a time. -/
structure DispatchReading where
  cancelled : Bool
  monotonicNow : Nat
  wallNow : Option Nat

structure DispatchObservation where
  monotonicNow : Nat
  wallNowUnixSeconds : Nat

def DispatchReading.checkpoint (reading : DispatchReading) (budget : OperationBudget) :
    Except TransportFailure DispatchObservation :=
  if reading.cancelled then .error ⟨.cancelled, .never⟩
  else if budget.deadline ≤ reading.monotonicNow then .error ⟨.deadlineExceeded, .never⟩
  else
    match reading.wallNow with
    | none => .error ⟨.internal, .never⟩
    | some wallNow => .ok ⟨reading.monotonicNow, wallNow⟩

/-! ## Canonical envelopes -/

/-- Exact canonical bytes with the fields a transport may see. -/
structure CanonicalEnvelope where
  bytes : Bytes
  envelopeId : Id16
  expiresAtUnixSeconds : Nat
  decoded : ∃ envelope, OpaqueEnvelope.decodeCanonical bytes = .ok envelope ∧
    envelope.envelopeId = envelopeId ∧ envelope.expiresAtUnixSeconds = expiresAtUnixSeconds
  nonzero : envelopeId ≠ 0 ∧ expiresAtUnixSeconds ≠ 0

def CanonicalEnvelope.fromCanonicalBytes (bytes : Bytes) :
    Except TransportContractError CanonicalEnvelope :=
  match h : OpaqueEnvelope.decodeCanonical bytes with
  | .error _ => .error .invalidEnvelope
  | .ok envelope =>
      if hnonzero : envelope.envelopeId ≠ 0 ∧ envelope.expiresAtUnixSeconds ≠ 0 then
        .ok ⟨bytes, envelope.envelopeId, envelope.expiresAtUnixSeconds, ⟨envelope, h, rfl, rfl⟩,
          hnonzero⟩
      else .error .invalidEnvelope

/-- `from_opaque`; the envelope is one the source can hold. -/
def CanonicalEnvelope.fromOpaque (envelope : OpaqueEnvelope) (hvalid : envelope.Valid) :
    Except TransportContractError CanonicalEnvelope :=
  match h : envelope.encodeCanonical with
  | .error _ => .error .invalidEnvelope
  | .ok bytes =>
      if hnonzero : envelope.envelopeId ≠ 0 ∧ envelope.expiresAtUnixSeconds ≠ 0 then
        .ok ⟨bytes, envelope.envelopeId, envelope.expiresAtUnixSeconds,
          ⟨envelope, OpaqueEnvelope.decodeCanonical_of_encodeCanonical hvalid h, rfl, rfl⟩,
          hnonzero⟩
      else .error .invalidEnvelope

theorem CanonicalEnvelope.fromCanonicalBytes_bytes {bytes : Bytes} {c : CanonicalEnvelope}
    (h : fromCanonicalBytes bytes = .ok c) : c.bytes = bytes := by
  unfold fromCanonicalBytes at h
  split at h
  · cases h
  · split_ifs at h
    cases h
    rfl

theorem CanonicalEnvelope.fromCanonicalBytes_self (c : CanonicalEnvelope) :
    fromCanonicalBytes c.bytes = .ok c := by
  obtain ⟨bytes, envelopeId, expiresAt, ⟨envelope, hdecoded, rfl, rfl⟩, hnonzero⟩ := c
  unfold fromCanonicalBytes
  split
  case h_1 herror => exact absurd (hdecoded.symm.trans herror) (by simp)
  case h_2 other hother =>
    obtain rfl : envelope = other := Except.ok.inj (hdecoded.symm.trans hother)
    exact dif_pos hnonzero

theorem CanonicalEnvelope.length_bytes (c : CanonicalEnvelope) :
    c.bytes.length ≤ maxWireObjectBytes := by
  obtain ⟨envelope, hdecoded, -⟩ := c.decoded
  exact OpaqueEnvelope.length_of_decodeCanonical hdecoded

/-- One canonical envelope and the work authority for its deposit. -/
structure DepositRequest where
  envelope : CanonicalEnvelope
  budget : OperationBudget
  within : envelope.bytes.length ≤ budget.maxNetworkBytes

def DepositRequest.new (envelope : CanonicalEnvelope) (budget : OperationBudget) :
    Except TransportContractError DepositRequest :=
  if h : envelope.bytes.length ≤ budget.maxNetworkBytes then .ok ⟨envelope, budget, h⟩
  else .error .invalidDepositRequest

theorem DepositRequest.new_envelope {envelope : CanonicalEnvelope} {budget : OperationBudget}
    {request : DepositRequest} (h : DepositRequest.new envelope budget = .ok request) :
    request.envelope = envelope := by
  unfold DepositRequest.new at h
  split_ifs at h
  cases h
  rfl

end SessionChat.Transport
