import SessionChat.Mailbox.Deduplication
import SessionChat.Mailbox.Sequences

/-!
# A provider and an owner driven together

Source: `crates/transport-conformance/src/lifecycle_provider.rs`, `receive_owner.rs`.

The receiver of one mailbox generation polls from a checkpoint the owner loaded, or from the
new-generation checkpoint, commits the pages through the owner and acknowledges only what a lease
names. Deposits, rotations and restarts happen in between, and work may be dropped at any point.
-/

set_option autoImplicit false

namespace SessionChat.Mailbox.Receiving

open Transition Codec Transport Provider

structure System where
  provider : DeterministicLifecycleProvider
  owner : DeterministicReceiveStateOwner

inductive Call where
  | provider (c : Provider.Call)
  | owner (c : Owner.Call)

inductive Reply where
  | provider (reply : Provider.Reply)
  | owner (reply : Owner.Reply)

def step (s : System) : Call → System × Reply
  | .provider c => ({ s with provider := (Provider.call s.provider c).1 },
      .provider (Provider.call s.provider c).2)
  | .owner c => ({ s with owner := (Owner.call s.owner c).1 }, .owner (Owner.call s.owner c).2)

abbrev History := List (Event Call Reply)

abbrev ReceiverWorld := World System Call Reply

/-! ## What the driver holds -/

def Reply.batch? : Reply → Option ReceiveBatch
  | .provider (.polled (.ok batch)) => some batch
  | _ => none

def Reply.loaded? : Reply → Option ReceiveCheckpoint
  | .owner (.loaded (.ok checkpoint)) => checkpoint
  | _ => none

def Reply.lease? : Reply → Option AcknowledgementLease
  | .owner reply => reply.lease?
  | _ => none

def batches (history : History) : List ReceiveBatch :=
  history.filterMap fun event => event.reply.batch?

def loaded (history : History) : List ReceiveCheckpoint :=
  history.filterMap fun event => event.reply.loaded?

def leases (history : History) : List AcknowledgementLease :=
  history.filterMap fun event => event.reply.lease?

def Call.times : Call → List Nat
  | .provider c => c.times
  | .owner _ => []

abbrev times (history : History) : List Nat := readings Call.times history

theorem mem_filterMap_append {α : Type} {f : Event Call Reply → Option α} {history : History}
    {event : Event Call Reply} {a : α} :
    a ∈ (history ++ [event]).filterMap f ↔ a ∈ history.filterMap f ∨ f event = some a := by
  simp [List.mem_filterMap]

variable (binding : CursorBinding)

/-- A checkpoint the receiver of `binding` may poll from. -/
def Available (history : History) (checkpoint : ReceiveCheckpoint) :
    Prop :=
  checkpoint ∈ loaded history ∨
    (checkpoint.binding = binding ∧ checkpoint.position = .newGeneration)

/-- The discipline of the receiver. -/
def Admitted (w : ReceiverWorld) : Call → Prop
  | .provider (.poll _ request _) => ∃ checkpoint maxEnvelopes maxEncodedBytes budget now,
      Available binding w.history checkpoint ∧
      checkpoint.pollRequest maxEnvelopes maxEncodedBytes budget now = .ok request
  | .provider (.acknowledge _ request _) =>
      ∃ lease ∈ leases w.history, request.deliveryIds = lease.deliveryIds
  | .owner (.commit transition _) => ∃ checkpoint batch,
      Available binding w.history checkpoint ∧ batch ∈ batches w.history ∧
      ReceivePageCommit.new checkpoint batch = .ok transition
  | _ => True

abbrev Later : ReceiverWorld → ReceiverWorld → Prop :=
  Leads step (Admitted binding)

def ReceiverRun (scope : Nat) (binding : CursorBinding) (w : ReceiverWorld) : Prop :=
  Later binding ⟨⟨.new scope, .new⟩, []⟩ w

/-! ## Positions -/

/-- The sequence a cursor stands for. -/
def cursorSequence (bytes : Storage.Bytes) : Nat := ofBigEndian (bytes.drop 32)

/-- The sequence after which a poll from this position continues. -/
def sequenceOf : ReceivePollPositionBinding → Nat
  | .resume bytes => cursorSequence bytes
  | _ => 0

def cursorBytes (binding : CursorBinding) (q : Nat) : Storage.Bytes :=
  cursorScope binding ++ bigEndian 8 q

/-- The persisted position stands for the sequence. -/
def StandsFor (binding : CursorBinding) (q : Nat) : PersistedCheckpointPosition → Prop
  | .resume bytes => bytes = cursorBytes binding q ∧ q ≠ 0
  | _ => q = 0

@[simp] theorem length_cursorScope (binding : CursorBinding) :
    (cursorScope binding).length = 32 := by
  simp [cursorScope]

theorem cursorSequence_cursorBytes {binding : CursorBinding} {q : Nat} (hq : q ≤ u64Max) :
    cursorSequence (cursorBytes binding q) = q := by
  have hdrop : (cursorBytes binding q).drop 32 = bigEndian 8 q := by
    rw [cursorBytes, List.drop_left' (length_cursorScope binding)]
  rw [cursorSequence, hdrop, ofBigEndian_bigEndian]
  unfold u64Max at hq
  omega

theorem sequence_of_decodeCursor {checkpoint : ReceiveCheckpoint} {token : List UInt8} {p : Nat}
    (h : decodeCursor checkpoint.pollCursor token = .ok p) :
    p = sequenceOf (ReceivePollBinding.fromCheckpoint checkpoint).position := by
  unfold ReceiveCheckpoint.pollCursor at h
  cases hposition : checkpoint.position with
  | resume cursor =>
    simp only [hposition, decodeCursor] at h
    split_ifs at h
    cases h
    simp only [ReceivePollBinding.fromCheckpoint, hposition]
    rfl
  | _ =>
    simp only [hposition] at h
    cases h
    simp only [ReceivePollBinding.fromCheckpoint, hposition, sequenceOf]

end SessionChat.Mailbox.Receiving
