import SessionChat.Control.Fallible
import SessionChat.Mailbox.Contract

/-!
# The poll request of the Iroh client (`crates/transport-iroh/src/adapter.rs`)

The client asks the service for no more bytes than its work budget leaves after the protocol
overhead. The limit is a 32-bit number on the wire.
-/

set_option autoImplicit false

namespace SessionChat.Iroh

open Codec Control Mailbox Storage
  Transport

def pollProtocolOverheadBytes : Nat := 4 * 1024

def maxFastBatchCanonicalBytes : Nat := 192 * 1024

def failure (code : TransportFailureCode) : TransportFailure := ⟨code, .never⟩

/-- `operation_ceiling`: `checked_sub`, then `u32::try_from`. -/
def operationCeiling (budget : OperationBudget) : Option Nat :=
  if budget.maxNetworkBytes < pollProtocolOverheadBytes then none
  else if 2 ^ 32 ≤ budget.maxNetworkBytes - pollProtocolOverheadBytes then none
  else some (budget.maxNetworkBytes - pollProtocolOverheadBytes)

/-- The bytes that `encode_poll_request` asks for. -/
def maximumBytes (request : PollRequest) : Except TransportFailure Nat := do
  let ceiling ← require (operationCeiling request.budget) (failure .envelopeTooLarge)
  let maximum := min (min request.maxEncodedBytes ceiling) maxFastBatchCanonicalBytes
  refuse (maximum = 0) (failure .envelopeTooLarge)
  return maximum

def encodePollPayload (cursor : Bytes) (maximumEnvelopes maximumBytes waitSeconds : Nat) : Bytes :=
  Cbor.array 4 ++ Cbor.byteString cursor ++ Cbor.unsigned maximumEnvelopes ++
    Cbor.unsigned maximumBytes ++ Cbor.unsigned waitSeconds

def encodePollRequest (request : PollRequest) (waitSeconds : Nat) :
    Except TransportFailure Bytes := do
  let maximum ← maximumBytes request
  return encodePollPayload ((request.cursor.map Cursor.bytes).getD []) request.maxEnvelopes
    maximum waitSeconds

theorem operationCeiling_eq_some {budget : OperationBudget} {ceiling : Nat} :
    operationCeiling budget = some ceiling ↔
      budget.maxNetworkBytes = pollProtocolOverheadBytes + ceiling ∧ ceiling < 2 ^ 32 := by
  unfold operationCeiling
  split_ifs with hsmall hlarge
  · simp only [false_iff]
    omega
  · simp only [false_iff]
    omega
  · rw [Option.some.injEq]
    omega

/-- A request is encoded when its budget exceeds the overhead by a positive 32-bit number. -/
theorem maximumBytes_eq_ok {request : PollRequest} {maximum : Nat} :
    maximumBytes request = .ok maximum ↔ ∃ ceiling, 0 < ceiling ∧ ceiling < 2 ^ 32 ∧
      request.budget.maxNetworkBytes = pollProtocolOverheadBytes + ceiling ∧
      min (min request.maxEncodedBytes ceiling) maxFastBatchCanonicalBytes = maximum := by
  have hpositive : 0 < request.maxEncodedBytes := request.bounded.2.1.1
  have hbatch : 0 < maxFastBatchCanonicalBytes := by decide
  simp only [maximumBytes, bind_eq_ok, require_eq_ok, refuse_eq_ok, pure_eq_ok,
    operationCeiling_eq_some]
  constructor
  · rintro ⟨ceiling, ⟨hbudget, hfits⟩, -, hzero, rfl⟩
    exact ⟨ceiling, by omega, hfits, hbudget, rfl⟩
  · rintro ⟨ceiling, hceiling, hfits, hbudget, rfl⟩
    exact ⟨ceiling, ⟨hbudget, hfits⟩, (), by omega, rfl⟩

/-- A larger budget serves every poll that a smaller one serves, and asks for as much, exactly
when it does not leave the 32-bit range that the smaller one is in. -/
theorem larger_budget_serves_iff {cursor : Option Cursor} {maxEnvelopes maxEncodedBytes : Nat}
    {b c : OperationBudget} {smaller larger : PollRequest}
    (hsmaller : PollRequest.new cursor maxEnvelopes maxEncodedBytes b = .ok smaller)
    (hlarger : PollRequest.new cursor maxEnvelopes maxEncodedBytes c = .ok larger)
    (hle : b.maxNetworkBytes ≤ c.maxNetworkBytes) (waitSeconds : Nat) :
    (∀ payload, encodePollRequest smaller waitSeconds = .ok payload →
      (∃ payload', encodePollRequest larger waitSeconds = .ok payload') ∧
      ∀ asked asked', maximumBytes smaller = .ok asked → maximumBytes larger = .ok asked' →
        asked ≤ asked') ↔
      b.maxNetworkBytes ≤ pollProtocolOverheadBytes ∨
      pollProtocolOverheadBytes + 2 ^ 32 ≤ b.maxNetworkBytes ∨
      c.maxNetworkBytes < pollProtocolOverheadBytes + 2 ^ 32 := by
  unfold PollRequest.new at hsmaller hlarger
  split_ifs at hsmaller hlarger
  cases hsmaller
  cases hlarger
  simp only [encodePollRequest, bind_eq_ok, maximumBytes_eq_ok]
  constructor
  · intro hserves
    by_contra! hrange
    obtain ⟨ceiling, hceiling⟩ := Nat.exists_eq_add_of_lt hrange.1
    obtain ⟨⟨_, _, ⟨_, -, hfits, hbudget, -⟩, -⟩, -⟩ :=
      hserves _ ⟨_, ⟨ceiling + 1, by omega, by omega, hceiling, rfl⟩, rfl⟩
    omega
  · rintro hrange _ ⟨_, ⟨ceiling, hpositive, hfits, hbudget, rfl⟩, -⟩
    obtain ⟨more, hmore⟩ := Nat.exists_eq_add_of_le hle
    refine ⟨⟨_, _, ⟨ceiling + more, by omega, by omega, by omega, rfl⟩, rfl⟩, ?_⟩
    omega

def sampleBudget (bytes : Nat) : OperationBudget :=
  ⟨1, bytes + 1, 1, Nat.succ_pos bytes, Nat.one_pos⟩

/-- A poll that ten thousand bytes allow and little more than four gibibytes refuse. -/
theorem larger_budget_refused :
    ∃ smaller larger, PollRequest.new none 1 100 (sampleBudget 9999) = .ok smaller ∧
      PollRequest.new none 1 100 (sampleBudget (2 ^ 32 + 4095)) = .ok larger ∧
      (encodePollRequest smaller 0).isOk = true ∧
      encodePollRequest larger 0 = .error (failure .envelopeTooLarge) :=
  ⟨_, _, rfl, rfl, by decide, by decide⟩

theorem larger_budget_serves_iff_sample :
    ∃ smaller larger, PollRequest.new none 1 100 (sampleBudget 9999) = .ok smaller ∧
      PollRequest.new none 1 100 (sampleBudget 99999) = .ok larger ∧
      ∀ payload, encodePollRequest smaller 0 = .ok payload →
        ∃ payload', encodePollRequest larger 0 = .ok payload' := by
  obtain ⟨smaller, hsmaller⟩ : ∃ request,
    PollRequest.new none 1 100 (sampleBudget 9999) = .ok request := ⟨_, rfl⟩
  obtain ⟨larger, hlarger⟩ : ∃ request,
    PollRequest.new none 1 100 (sampleBudget 99999) = .ok request := ⟨_, rfl⟩
  have hserves := (larger_budget_serves_iff hsmaller hlarger (by decide) 0).mpr (by decide)
  exact ⟨smaller, larger, hsmaller, hlarger, fun payload hpayload => (hserves payload hpayload).1⟩

end SessionChat.Iroh
