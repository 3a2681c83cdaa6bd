import SessionChat.Transition.Run
import SessionChat.Invitation.Registry

/-!
# Calls on one registry (`crates/session-core/src/lib.rs`)

The callers of a registry own the reservation tokens it hands out; a token is moved into the
call that releases or consumes it and is gone afterwards. `Effect` says once what a call can
do, and every invariant is proved from it.
-/

set_option autoImplicit false

namespace SessionChat.Invitation

open Collections Protocol Transition

variable {E : Ed25519}

/-- A registry and the tokens its callers still own. -/
structure Host where
  registry : InvitationRegistry
  tokens : List InvitationReservation

inductive Call (E : Ed25519) where
  | issue (claims : CapabilityInvitationClaims) (key : E.SigningKey) (now : Nat)
  | issueV2 (generated : GeneratedCapabilityInvitationV2) (now : Nat)
  | validateDescriptor (encoded : List UInt8) (now : Nat)
  | validateDescriptorV2 (encoded : List UInt8) (now : Nat)
  | reserve (invitation : SignedCapabilityInvitation) (joinRequestId : BitVec 128) (now : Nat)
  | reserveV2 (invitation : SignedCapabilityInvitationV2) (joinRequestId : BitVec 128) (now : Nat)
  | release (token : InvitationReservation) (now : Nat)
  | consume (token : InvitationReservation) (now : Nat)
  | validateReservation (token : InvitationReservation) (now : Nat)

inductive Reply where
  | issued (answer : Except InvitationLifecycleError SignedCapabilityInvitation)
  | issuedV2 (answer : Except InvitationLifecycleError GeneratedCapabilityInvitationV2)
  | validated (answer : Except InvitationLifecycleError SignedCapabilityInvitation)
  | validatedV2 (answer : Except InvitationLifecycleError SignedCapabilityInvitationV2)
  | reserved (answer : Except InvitationLifecycleError InvitationReservation)
  | settled (answer : Except InvitationLifecycleError Unit)

namespace Call

def now : Call E → Nat
  | .issue _ _ now | .issueV2 _ now | .validateDescriptor _ now | .validateDescriptorV2 _ now
  | .reserve _ _ now | .reserveV2 _ _ now | .release _ now | .consume _ now
  | .validateReservation _ now => now

def token? : Call E → Option InvitationReservation
  | .release token _ | .consume token _ | .validateReservation token _ => some token
  | _ => none

def offered? : Call E → Option Descriptor
  | .issue claims key _ => some (descriptor (SignedCapabilityInvitation.sign E claims key))
  | .issueV2 generated _ => some (descriptorV2 generated.invitation)
  | _ => none

def wanted? : Call E → Option Descriptor
  | .reserve invitation _ _ => some (descriptor invitation)
  | .reserveV2 invitation _ _ => some (descriptorV2 invitation)
  | _ => none

end Call

def Reply.Refused : Reply → Prop
  | .issued answer => ∃ e, answer = .error e
  | .issuedV2 answer => ∃ e, answer = .error e
  | .validated answer => ∃ e, answer = .error e
  | .validatedV2 answer => ∃ e, answer = .error e
  | .reserved answer => ∃ e, answer = .error e
  | .settled answer => ∃ e, answer = .error e

/-- The invitation that a reply says is now recorded. -/
def Reply.issued? : Reply → Option Descriptor
  | .issued (.ok invitation) => some (descriptor invitation)
  | .issuedV2 (.ok generated) => some (descriptorV2 generated.invitation)
  | _ => none

def keptToken : Except InvitationLifecycleError InvitationReservation → List InvitationReservation
  | .ok token => [token]
  | .error _ => []

def Host.call (s : Host) : Call E → Host × Reply
  | .issue claims key now =>
      let answer := s.registry.issue E claims key now
      (⟨answer.2, s.tokens⟩, .issued answer.1)
  | .issueV2 generated now =>
      let answer := s.registry.issueV2 generated now
      (⟨answer.2, s.tokens⟩, .issuedV2 answer.1)
  | .validateDescriptor encoded now => (s, .validated (s.registry.validateDescriptor E encoded now))
  | .validateDescriptorV2 encoded now =>
      (s, .validatedV2 (s.registry.validateDescriptorV2 E encoded now))
  | .reserve invitation joinRequestId now =>
      let answer := s.registry.reserveAfterAdmission invitation joinRequestId now
      (⟨answer.2, keptToken answer.1 ++ s.tokens⟩, .reserved answer.1)
  | .reserveV2 invitation joinRequestId now =>
      let answer := s.registry.reserveV2AfterAdmission invitation joinRequestId now
      (⟨answer.2, keptToken answer.1 ++ s.tokens⟩, .reserved answer.1)
  | .release token now =>
      let answer := s.registry.release token now
      (⟨answer.2, s.tokens.erase token⟩, .settled answer.1)
  | .consume token now =>
      let answer := s.registry.consumeAfterMembership token now
      (⟨answer.2, s.tokens.erase token⟩, .settled answer.1)
  | .validateReservation token now => (s, .settled (s.registry.validateReservation token now))

/-! ## What a run has done -/

def consumed? : Event (Call E) Reply → Option InvitationReservation
  | ⟨.consume token _, .settled (.ok ())⟩ => some token
  | _ => none

section

variable (history : List (Event (Call E) Reply))

def issued : List Descriptor :=
  history.filterMap fun e => e.reply.issued?

def consumed : List InvitationReservation :=
  history.filterMap consumed?

def clock : Nat :=
  (history.getLast?.map fun e => e.call.now).getD 0

variable (e : Event (Call E) Reply)

@[simp] theorem issued_append :
    issued (history ++ [e]) = issued history ++ e.reply.issued?.toList := by
  cases h : e.reply.issued? <;> simp [issued, h]

@[simp] theorem consumed_append :
    consumed (history ++ [e]) = consumed history ++ (consumed? e).toList := by
  cases h : consumed? e <;> simp [consumed, h]

@[simp] theorem clock_append : clock (history ++ [e]) = e.call.now := by
  simp [clock]

end

/-! ## What a call can do -/

/-- The possible outcomes of a call at a time: the invitation it records, the token it
consumes and the host it leaves. -/
inductive Effect (s : Host) (now : Nat) :
    Option Descriptor → Option InvitationReservation → Host → Prop where
  /-- The records stay; a token that owns nothing may have been moved into a refused call. -/
  | idle {tokens : List InvitationReservation} (hsub : tokens.Sublist s.tokens)
      (hlost : ∀ t ∈ s.tokens, t ∉ tokens → s.registry.validateReservation t now ≠ .ok ()) :
      Effect s now none none ⟨s.registry, tokens⟩
  | issue {d : Descriptor} (hlive : now < d.expiresAtUnixSeconds)
      (hfree : ∀ r, s.registry.records.get? d.invitationId = some r → r.expiresAtUnixSeconds ≤ now)
      (hroom : (s.registry.live now).size < s.registry.policy.maximumLiveInvitations) :
      Effect s now (some d) none ⟨s.registry.recording d now, s.tokens⟩
  | reserve {d : Descriptor} {joinRequestId : BitVec 128} {r : InvitationRecord}
      (hlive : now < d.expiresAtUnixSeconds)
      (hr : s.registry.records.get? d.invitationId = some r) (hmatches : r.Matches d)
      (havailable : r.lifecycle = .available) :
      Effect s now none none
        ⟨s.registry.setLifecycle d.invitationId (.reserved joinRequestId),
          ⟨d.invitationId, joinRequestId, d.signature, d.schema⟩ :: s.tokens⟩
  | release {token : InvitationReservation} (htoken : token ∈ s.tokens)
      (howns : s.registry.validateReservation token now = .ok ()) :
      Effect s now none none
        ⟨s.registry.setLifecycle token.invitationId .available, s.tokens.erase token⟩
  | consume {token : InvitationReservation} (htoken : token ∈ s.tokens)
      (howns : s.registry.validateReservation token now = .ok ()) :
      Effect s now none (some token)
        ⟨s.registry.setLifecycle token.invitationId .consumed, s.tokens.erase token⟩

variable {s : Host} {c : Call E}

namespace Effect

variable {now : Nat}

theorem same (s : Host) (now : Nat) : Effect s now none none s :=
  .idle (.refl _) fun _ ht hnot => absurd ht hnot

variable {token : InvitationReservation}

/-- A token that owns nothing is moved into a refused call. -/
theorem lose (h : s.registry.validateReservation token now ≠ .ok ()) :
    Effect s now none none ⟨s.registry, s.tokens.erase token⟩ := by
  refine .idle List.erase_sublist fun t ht hnot => ?_
  have htoken : t = token := by
    by_contra hne
    exact hnot ((List.mem_erase_of_ne hne).mpr ht)
  rw [htoken]
  exact h

theorem ofEnroll (s : Host) (d : Descriptor) (now : Nat) :
    (∃ e, (s.registry.enroll d now).1 = .error e ∧
      Effect s now none none ⟨(s.registry.enroll d now).2, s.tokens⟩) ∨
    ((s.registry.enroll d now).1 = .ok () ∧
      Effect s now (some d) none ⟨(s.registry.enroll d now).2, s.tokens⟩) := by
  obtain ⟨e, h⟩ | ⟨hlive, hfree, hroom, h⟩ := s.registry.enroll_cases d now
  · rw [h]
    exact .inl ⟨e, rfl, .same s now⟩
  · rw [h]
    exact .inr ⟨rfl, .issue hlive hfree hroom⟩

theorem ofReserve (s : Host) (d : Descriptor) (joinRequestId : BitVec 128) (now : Nat) :
    Effect s now none none ⟨(s.registry.reserveDescriptor d joinRequestId now).2,
        keptToken (s.registry.reserveDescriptor d joinRequestId now).1 ++ s.tokens⟩ := by
  obtain ⟨e, h⟩ | ⟨r, hlive, hr, hmatches, havailable, h⟩ :=
    s.registry.reserveDescriptor_cases d joinRequestId now
  · rw [h]
    exact .same s now
  · rw [h]
    exact .reserve hlive hr hmatches havailable

theorem ofRelease (htoken : token ∈ s.tokens) (now : Nat) :
    Effect s now none none ⟨(s.registry.release token now).2, s.tokens.erase token⟩ := by
  unfold InvitationRegistry.release
  obtain ⟨⟨e, h⟩, hnot⟩ | ⟨howns, h⟩ := s.registry.settle_cases .available token now
  · rw [h]
    exact .lose hnot
  · rw [h]
    exact .release htoken howns

/-- The token consumed is known by the answer. -/
theorem ofConsume (htoken : token ∈ s.tokens) (now : Nat) :
    (∃ e, (s.registry.consumeAfterMembership token now).1 = .error e ∧ Effect s now none none
      ⟨(s.registry.consumeAfterMembership token now).2, s.tokens.erase token⟩) ∨
    ((s.registry.consumeAfterMembership token now).1 = .ok () ∧ Effect s now none (some token)
      ⟨(s.registry.consumeAfterMembership token now).2, s.tokens.erase token⟩) := by
  unfold InvitationRegistry.consumeAfterMembership
  obtain ⟨⟨e, h⟩, hnot⟩ | ⟨howns, h⟩ := s.registry.settle_cases .consumed token now
  · rw [h]
    exact .inl ⟨e, rfl, .lose hnot⟩
  · rw [h]
    exact .inr ⟨rfl, .consume htoken howns⟩

/-- Tokens that a call does not see stay. -/
theorem frame {g g' : InvitationRegistry} {l l' : List InvitationReservation}
    {issue? : Option Descriptor} {consume? : Option InvitationReservation}
    (heffect : Effect ⟨g, l⟩ now issue? consume? ⟨g', l'⟩) (rest : List InvitationReservation) :
    Effect ⟨g, l ++ rest⟩ now issue? consume? ⟨g', l' ++ rest⟩ := by
  cases heffect with
  | idle hsub hlost =>
    refine .idle (hsub.append_right rest) fun t ht hnot => ?_
    rw [List.mem_append, not_or] at hnot
    exact hlost t ((List.mem_append.mp ht).resolve_right hnot.2) hnot.1
  | issue hlive hfree hroom => exact .issue hlive hfree hroom
  | reserve hlive hr hmatches havailable => exact .reserve hlive hr hmatches havailable
  | release htoken howns =>
    rw [← List.erase_append_left rest htoken]
    exact .release (List.mem_append_left _ htoken) howns
  | consume htoken howns =>
    rw [← List.erase_append_left rest htoken]
    exact .consume (List.mem_append_left _ htoken) howns

end Effect

/-- Every call whose token is its caller's own has one of the effects. -/
theorem Host.call_effect (s : Host) (c : Call E) (htoken : ∀ t ∈ c.token?, t ∈ s.tokens) :
    Effect s c.now (s.call c).2.issued? (consumed? ⟨c, (s.call c).2⟩) (s.call c).1 := by
  cases c with
  | issue claims key now =>
    simp only [call, InvitationRegistry.issue]
    obtain ⟨e, h, heffect⟩ | ⟨h, heffect⟩ := Effect.ofEnroll s
      (descriptor (SignedCapabilityInvitation.sign E claims key)) now
    · rw [h]
      exact heffect
    · rw [h]
      exact heffect
  | issueV2 generated now =>
    simp only [call, InvitationRegistry.issueV2]
    obtain ⟨e, h, heffect⟩ | ⟨h, heffect⟩ :=
      Effect.ofEnroll s (descriptorV2 generated.invitation) now
    · rw [h]
      exact heffect
    · rw [h]
      exact heffect
  | reserve invitation joinRequestId now =>
    exact .ofReserve s (descriptor invitation) joinRequestId now
  | reserveV2 invitation joinRequestId now =>
    exact .ofReserve s (descriptorV2 invitation) joinRequestId now
  | release token now => exact .ofRelease (htoken token rfl) now
  | consume token now =>
    simp only [call]
    obtain ⟨e, h, heffect⟩ | ⟨h, heffect⟩ := Effect.ofConsume (htoken token rfl) now
    · rw [h]
      exact heffect
    · rw [h]
      exact heffect
  | validateDescriptor encoded now | validateDescriptorV2 encoded now
  | validateReservation token now => exact .same s now

/-- A call that records an invitation was offered it. -/
theorem Host.offered_of_issued {d : Descriptor} (h : (s.call c).2.issued? = some d) :
    c.offered? = some d := by
  cases c with
  | issue claims key now =>
    simp only [call, InvitationRegistry.issue] at h
    cases hanswer : (s.registry.enroll
        (descriptor (SignedCapabilityInvitation.sign E claims key)) now).1 with
    | error e => rw [hanswer] at h; cases h
    | ok u => rw [hanswer] at h; exact h
  | issueV2 generated now =>
    simp only [call, InvitationRegistry.issueV2] at h
    cases hanswer : (s.registry.enroll (descriptorV2 generated.invitation) now).1 with
    | error e => rw [hanswer] at h; cases h
    | ok u => rw [hanswer] at h; exact h
  | validateDescriptor | validateDescriptorV2 | reserve | reserveV2 | release | consume
  | validateReservation => cases h

theorem exceptMap_error {ε α β : Type} {x : Except ε α} {f : α → β} {e : ε}
    (h : x.map f = .error e) : x = .error e := by
  cases x with
  | error e' => exact congrArg _ (Except.error.inj h)
  | ok a => cases h

/-- A call that returns an error leaves the registry as it was. -/
theorem Host.call_refused (s : Host) (c : Call E) (h : (s.call c).2.Refused) :
    (s.call c).1.registry = s.registry := by
  cases c with
  | issue claims key now =>
    obtain ⟨e, h⟩ := h
    exact InvitationRegistry.enroll_refused (exceptMap_error h)
  | issueV2 generated now =>
    obtain ⟨e, h⟩ := h
    exact InvitationRegistry.enroll_refused (exceptMap_error h)
  | reserve invitation joinRequestId now =>
    obtain ⟨e, h⟩ := h
    exact InvitationRegistry.reserveDescriptor_refused h
  | reserveV2 invitation joinRequestId now =>
    obtain ⟨e, h⟩ := h
    exact InvitationRegistry.reserveDescriptor_refused h
  | release token now =>
    obtain ⟨e, h⟩ := h
    exact InvitationRegistry.settle_refused h
  | consume token now =>
    obtain ⟨e, h⟩ := h
    exact InvitationRegistry.settle_refused h
  | validateDescriptor | validateDescriptorV2 | validateReservation => rfl

end SessionChat.Invitation
