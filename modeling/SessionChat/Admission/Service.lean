import SessionChat.Invitation.Host
import SessionChat.Admission.Replay

/-!
# One verifier and one registry

Source: `crates/admission-capability/src/lib.rs`, `crates/session-core/src/lib.rs`.

The inviter's side of admission as one system: a verifier, a registry, the one-shot values in the
hands of callers and the joins that were applied. A prepared or applied addition borrows the
verifier and the registry, so no other call is made while it exists.
-/

set_option autoImplicit false

namespace SessionChat.Admission

open Protocol Invitation Transition CapabilityAdmissionVerifier

variable {E : Ed25519}

/-! ## Values in the hands of callers -/

/-- A one-shot value before preparation. -/
inductive Value where
  | verified (admission : VerifiedCapabilityAdmission)
  | pending (approval : PendingCapabilityApproval)
  | approved (admission : ApprovedCapabilityAdmission)
deriving DecidableEq

def VerifiedCapabilityAdmission.entry (v : VerifiedCapabilityAdmission) : PendingReplay where
  generation := v.reservation.generation
  joinRequestId := v.reservation.joinRequestId
  requestNonce := v.reservation.requestNonce
  expiresAtUnixSeconds := v.opened.request.request.expiresAtUnixSeconds
  reservationId := v.reservation.reservationId

def Value.entry : Value → PendingReplay
  | .verified v => v.entry
  | .pending p => p.verified.entry
  | .approved a => a.verified.entry

def Value.token? : Value → Option InvitationReservation
  | .verified _ => none
  | .pending p => some p.invitationReservation
  | .approved a => some a.invitationReservation

structure Join where
  entry : PendingReplay
  invitation : InvitationReservation
deriving DecidableEq

def PreparedApprovedCapabilityAddition.join (p : PreparedApprovedCapabilityAddition) : Join where
  entry :=
    { generation := p.replayReservation.generation
      joinRequestId := p.replayReservation.joinRequestId
      requestNonce := p.replayReservation.requestNonce
      expiresAtUnixSeconds := p.requestExpiresAtUnixSeconds
      reservationId := p.replayReservation.reservationId }
  invitation := p.invitationReservation

/-- The value that borrows verifier and registry, with the join it made. -/
inductive Slot where
  | free
  | prepared (addition : PreparedApprovedCapabilityAddition)
  | applied (value : AppliedCapabilityJoinAwaitingDurability) (join : Join)
  | settling (value : DurableCapabilityShadowSettlement) (join : Join)
deriving DecidableEq

namespace Slot

def prepared? : Slot → Option PreparedApprovedCapabilityAddition
  | .prepared p => some p
  | _ => none

/-- What is left to settle, of either form of an applied join. -/
def settlement? : Slot → Option (DurableCapabilityShadowSettlement × Join)
  | .applied value join => some (intoDurableOwnerParts value, join)
  | .settling value join => some (value, join)
  | _ => none

end Slot

structure Service where
  verifier : CapabilityAdmissionVerifier
  registry : InvitationRegistry
  /-- Tokens of callers that use the registry on its own. -/
  free : List InvitationReservation
  values : List Value
  slot : Slot
  /-- The joins applied and not proven uncommitted. -/
  joined : List Join
  /-- Tokens of applied joins that were dropped without a settlement. -/
  abandoned : List InvitationReservation

/-! ## Calls -/

inductive Call (E : Ed25519) where
  | registry (call : Invitation.Call E)
  | verify (opened : OpenedCapabilityJoinRequest) (now : Nat)
  | releaseVerified (admission : VerifiedCapabilityAdmission)
  | reserve (invitation : SignedCapabilityInvitationV2) (admission : VerifiedCapabilityAdmission)
      (now : Nat)
  | decide (approval : PendingCapabilityApproval) (decision : ApprovalDecision) (now : Nat)
  | prepare (admission : ApprovedCapabilityAdmission) (prepared : Bool) (now : Nat)
  | dropPrepared
  | apply (applied : Bool) (now : Nat)
  | applyAwaitingDurability (applied : Bool) (now : Nat)
  | intoDurableOwnerParts
  | releaseProvenUncommitted
  | finalizeCommitted
  | abandon

inductive Reply where
  | registry (reply : Invitation.Reply)
  | verified (answer : Except CapabilityAdmissionError VerifiedCapabilityAdmission)
  | pending (answer : Except CapabilityAdmissionError PendingCapabilityApproval)
  | decided (answer : Except CapabilityAdmissionError CapabilityApprovalOutcome)
  | prepared (answer : Except CapabilityAdmissionError PreparedApprovedCapabilityAddition)
  /-- The answer of either apply, with the join that the returned value stands for. -/
  | applied (answer : Except CapabilityAdmissionError Join)
  /-- The answer for a join proven uncommitted. -/
  | uncommitted (join : Join) (answer : Except CapabilityAdmissionError Unit)
  | settled (answer : Except CapabilityAdmissionError Unit)
  | done

namespace Service

/-- The value goes into a call that returns another or none. -/
def replace (values : List Value) (old : Value) (new : Option Value) : List Value :=
  new.toList ++ values.erase old

def approvedValue : Except CapabilityAdmissionError CapabilityApprovalOutcome → Option Value
  | .ok (.approved admission) => some (.approved admission)
  | _ => none

/-- The steps of one value through the verifier. -/
def advance (s : Service) (old : Value) (new : Option Value)
    (states : CapabilityAdmissionVerifier × InvitationRegistry) : Service :=
  { s with verifier := states.1, registry := states.2, values := replace s.values old new }

/-- The borrow ends. -/
def settle (s : Service) (states : CapabilityAdmissionVerifier × InvitationRegistry) : Service :=
  { s with verifier := states.1, registry := states.2, slot := .free }

/-- One call; MLS preparation and application succeed or fail as the call says. -/
def call (validate : KeyPackageValidator) (s : Service) : Call E → Service × Reply
  | .registry c =>
      let answer := Host.call ⟨s.registry, s.free⟩ c
      ({ s with registry := answer.1.registry, free := answer.1.tokens }, .registry answer.2)
  | .verify opened now =>
      let answer := s.verifier.verifyAndReserve validate opened now
      ({ s with verifier := answer.2,
                values := (answer.1.toOption.map Value.verified).toList ++ s.values },
        .verified answer.1)
  | .releaseVerified v =>
      let answer := s.verifier.release v
      (s.advance (.verified v) none (answer.2, s.registry), .settled answer.1)
  | .reserve invitation v now =>
      let answer := s.verifier.reserveV2ForApproval s.registry invitation v now
      (s.advance (.verified v) (answer.1.toOption.map Value.pending) answer.2, .pending answer.1)
  | .decide p decision now =>
      let answer := s.verifier.decideV2 s.registry p decision now
      (s.advance (.pending p) (approvedValue answer.1) answer.2, .decided answer.1)
  | .prepare a prepared now =>
      let answer := s.verifier.prepareApprovedAdd s.registry a prepared now
      let slot := match answer.1 with
        | .ok addition => Slot.prepared addition
        | .error _ => s.slot
      ({ s.advance (.approved a) none answer.2 with slot := slot }, .prepared answer.1)
  | .dropPrepared =>
      match s.slot with
      | .prepared p => (s.settle (s.verifier.dropPrepared s.registry p), .done)
      | _ => (s, .done)
  | .apply applied now =>
      match s.slot with
      | .prepared p =>
          match s.verifier.apply s.registry p applied now with
          | (.error e, states) => (s.settle states, .applied (.error e))
          | (.ok _, states) =>
              ({ s.settle states with joined := p.join :: s.joined }, .applied (.ok p.join))
      | _ => (s, .done)
  | .applyAwaitingDurability applied now =>
      match s.slot with
      | .prepared p =>
          match s.verifier.applyAwaitingDurability s.registry p applied now with
          | (.error e, states) => (s.settle states, .applied (.error e))
          | (.ok value, states) =>
              ({ s.settle states with slot := .applied value p.join, joined := p.join :: s.joined },
                .applied (.ok p.join))
      | _ => (s, .done)
  | .intoDurableOwnerParts =>
      match s.slot with
      | .applied value join =>
          ({ s with slot := .settling (intoDurableOwnerParts value) join }, .done)
      | _ => (s, .done)
  | .releaseProvenUncommitted =>
      match s.slot.settlement? with
      | some (settlement, join) =>
          let answer := s.verifier.releaseProvenUncommitted s.registry settlement
          ({ s.settle answer.2 with joined := s.joined.erase join }, .uncommitted join answer.1)
      | none => (s, .done)
  | .finalizeCommitted =>
      match s.slot with
      | .settling settlement _ =>
          let answer := CapabilityAdmissionVerifier.finalizeCommitted s.registry settlement
          (s.settle (s.verifier, answer.2), .settled answer.1)
      | _ => (s, .done)
  | .abandon =>
      match s.slot.settlement? with
      | some (_, join) =>
          ({ s with slot := .free, abandoned := join.invitation :: s.abandoned }, .done)
      | none => (s, .done)

end Service

/-! ## Runs -/

namespace Call

/-- The time the caller passes, if any. -/
def now? : Call E → Option Nat
  | .registry c => some c.now
  | .verify _ now | .reserve _ _ now | .decide _ _ now | .prepare _ _ now | .apply _ now
  | .applyAwaitingDurability _ now => some now
  | _ => none

def offered? : Call E → Option Descriptor
  | .registry c => c.offered?
  | _ => none

/-- The caller owns what it passes, and the borrows allow the call. -/
def Fits (s : Service) : Call E → Prop
  | .registry c => s.slot = .free ∧ ∀ t ∈ c.token?, t ∈ s.free
  | .verify _ _ => s.slot = .free
  | .releaseVerified v | .reserve _ v _ => s.slot = .free ∧ .verified v ∈ s.values
  | .decide p _ _ => s.slot = .free ∧ .pending p ∈ s.values
  | .prepare a _ _ => s.slot = .free ∧ .approved a ∈ s.values
  | .dropPrepared | .apply _ _ | .applyAwaitingDurability _ _ => s.slot.prepared?.isSome
  | .intoDurableOwnerParts | .releaseProvenUncommitted | .finalizeCommitted | .abandon =>
      s.slot.settlement?.isSome

instance (s : Service) : (c : Call E) → Decidable (c.Fits s)
  | .registry _ => inferInstanceAs (Decidable (_ ∧ ∀ t ∈ _, t ∈ s.free))
  | .verify _ _ => inferInstanceAs (Decidable (s.slot = .free))
  | .releaseVerified _ | .reserve _ _ _ | .decide _ _ _ | .prepare _ _ _ =>
      inferInstanceAs (Decidable (_ ∧ _ ∈ s.values))
  | .dropPrepared | .apply _ _ | .applyAwaitingDurability _ _ =>
      inferInstanceAs (Decidable (s.slot.prepared?.isSome = true))
  | .intoDurableOwnerParts | .releaseProvenUncommitted | .finalizeCommitted | .abandon =>
      inferInstanceAs (Decidable (s.slot.settlement?.isSome = true))

end Call

abbrev AdmissionWorld (E : Ed25519) := World Service (Call E) Reply

/-- The invitation that a reply says is now recorded. -/
def Reply.issued? : Reply → Option Descriptor
  | .registry reply => reply.issued?
  | _ => none

def issued (history : List (Event (Call E) Reply)) : List Descriptor :=
  history.filterMap fun e => e.reply.issued?

def Reply.applied? : Reply → Option Join
  | .applied (.ok join) => some join
  | _ => none

def Reply.uncommitted? : Reply → Option Join
  | .uncommitted join _ => some join
  | _ => none

section

variable (history : List (Event (Call E) Reply))

def appliedJoins : List Join :=
  history.filterMap fun e => e.reply.applied?

def uncommittedJoins : List Join :=
  history.filterMap fun e => e.reply.uncommitted?

/-- The time of the last call that was given one. -/
def clock : Nat :=
  history.foldl (fun time e => e.call.now?.getD time) 0

variable (e : Event (Call E) Reply)

@[simp] theorem issued_append :
    issued (history ++ [e]) = issued history ++ e.reply.issued?.toList := by
  cases h : e.reply.issued? <;> simp [issued, h]

@[simp] theorem appliedJoins_append :
    appliedJoins (history ++ [e]) = appliedJoins history ++ e.reply.applied?.toList := by
  cases h : e.reply.applied? <;> simp [appliedJoins, h]

@[simp] theorem uncommittedJoins_append :
    uncommittedJoins (history ++ [e]) =
      uncommittedJoins history ++ e.reply.uncommitted?.toList := by
  cases h : e.reply.uncommitted? <;> simp [uncommittedJoins, h]

@[simp] theorem clock_append : clock (history ++ [e]) = e.call.now?.getD (clock history) := by
  simp [clock]

end

/-- The time does not run back, the call fits the state, and an invitation offered with the
signature of an issued one is that one. -/
@[mk_iff] structure Admitted (w : AdmissionWorld E) (c : Call E) : Prop where
  later : ∀ now ∈ c.now?, clock w.history ≤ now
  fits : c.Fits w.state
  authentic : ∀ d ∈ c.offered?, ∀ d' ∈ issued w.history, d'.signature = d.signature → d' = d

instance (w : AdmissionWorld E) (c : Call E) : Decidable (Admitted w c) :=
  decidable_of_iff' _ (admitted_iff w c)

def fresh (E : Ed25519) (policy : CapabilityAdmissionPolicy) (invitations : InvitationPolicy) :
    AdmissionWorld E :=
  ⟨⟨.new policy, .new invitations, [], [], .free, [], []⟩, []⟩

/-- The world is reached from a new verifier and registry. -/
def AdmissionRun (validate : KeyPackageValidator) (policy : CapabilityAdmissionPolicy)
    (invitations : InvitationPolicy) (w : AdmissionWorld E) : Prop :=
  Leads (Service.call validate) Admitted (fresh E policy invitations) w

end SessionChat.Admission
