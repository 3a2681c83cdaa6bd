import SessionChat.Admission.Service

/-!
# The ways out of an admission (`crates/admission-capability/src/lib.rs`)

Each method either takes its value one stage further, or gives up everything the value owns:
the replay entry, and the invitation reservation from the approval on. The lemmas here say so
for every method, with all of its early returns.
-/

set_option autoImplicit false

namespace SessionChat.Admission

open Protocol Invitation

namespace CapabilityAdmissionVerifier

variable (self : CapabilityAdmissionVerifier) (registry : InvitationRegistry) (now : Nat)

def givenUp (replayReservation : ReplayReservation)
    (invitationReservation : InvitationReservation) :
    CapabilityAdmissionVerifier × InvitationRegistry :=
  ((self.removeReservation replayReservation).2, (registry.release invitationReservation now).2)

theorem reserveV2ForApproval_cases (invitation : SignedCapabilityInvitationV2)
    (verified : VerifiedCapabilityAdmission) :
    (∃ e, self.reserveV2ForApproval registry invitation verified now =
      (.error e, (self.removeReservation verified.reservation).2, registry)) ∨
    ∃ token context, self.reserveV2ForApproval registry invitation verified now =
        (.ok ⟨verified, token, context⟩, self, (registry.reserveDescriptor (descriptorV2 invitation)
            verified.opened.request.request.joinRequestId now).2) ∧
      (registry.reserveDescriptor (descriptorV2 invitation)
        verified.opened.request.request.joinRequestId now).1 = .ok token := by
  obtain ⟨e, hrefuse⟩ := refuse_eq (α := PendingCapabilityApproval) self verified.reservation
  simp only [reserveV2ForApproval]
  split
  · next hnone => exact .inl ⟨_, by rw [removeReservation_of_none hnone]⟩
  · split
    · exact .inl ⟨e, by rw [hrefuse]⟩
    · split
      · exact .inl ⟨e, by rw [hrefuse]⟩
      · next context _ =>
          split
          · next e' registry' hreserve =>
              have hsame :=
                InvitationRegistry.reserveDescriptor_refused (congrArg Prod.fst hreserve)
              rw [InvitationRegistry.reserveV2AfterAdmission] at hreserve
              rw [hreserve] at hsame
              obtain rfl : registry' = registry := hsame
              exact .inl ⟨e, by rw [hrefuse]⟩
          · next token registry' hreserve =>
              rw [InvitationRegistry.reserveV2AfterAdmission] at hreserve
              exact .inr ⟨token, context, by rw [hreserve], by rw [hreserve]⟩

theorem decideV2_cases (pending : PendingCapabilityApproval) (decision : ApprovalDecision) :
    (Service.approvedValue (self.decideV2 registry pending decision now).1 = none ∧
      (self.decideV2 registry pending decision now).2 = self.givenUp registry now
        pending.verified.reservation pending.invitationReservation) ∨
    self.decideV2 registry pending decision now =
      (.ok (.approved ⟨pending.verified, pending.invitationReservation⟩), self, registry) := by
  unfold decideV2
  split
  · next hnone => exact .inl ⟨rfl, by rw [givenUp, removeReservation_of_none hnone]⟩
  · cases decision with
    | reject =>
      simp only
      refine .inl ⟨?_, rfl⟩
      cases (self.releasePending registry pending now).1 <;> rfl
    | approve =>
      simp only
      split
      · exact .inl ⟨rfl, rfl⟩
      · exact .inr rfl

theorem prepareApprovedAdd_cases (approved : ApprovedCapabilityAdmission) (prepared : Bool) :
    (∃ e, self.prepareApprovedAdd registry approved prepared now =
      (.error e, self.givenUp registry now approved.verified.reservation
        approved.invitationReservation)) ∨
    (self.reservationPosition approved.verified.reservation ≠ none ∧
      registry.validateReservation approved.invitationReservation now = .ok () ∧
      self.prepareApprovedAdd registry approved prepared now =
        (.ok ⟨approved.verified.reservation, approved.invitationReservation, now,
          approved.verified.opened.request.request.expiresAtUnixSeconds,
          approved.verified.opened.request.responseEndpoint⟩, self, registry)) := by
  simp only [prepareApprovedAdd]
  split
  · next hnone => exact .inl ⟨_, by rw [givenUp, removeReservation_of_none hnone]⟩
  · next hsome =>
      split
      · exact .inl ⟨_, rfl⟩
      · next hcurrent =>
          split
          · exact .inr ⟨hsome, (not_not.mp hcurrent).2.2, rfl⟩
          · obtain ⟨e, hrefuse⟩ := refuse_eq (α := PreparedApprovedCapabilityAddition) self
              approved.verified.reservation
            exact .inl ⟨e, by rw [hrefuse]; rfl⟩

variable {self registry now} {prepared : PreparedApprovedCapabilityAddition}

theorem validateReservation_of_validateBeforeApply
    (h : validateBeforeApply registry prepared now = .ok ()) :
    registry.validateReservation prepared.invitationReservation now = .ok () := by
  unfold validateBeforeApply at h
  split at h
  · cases h
  · split at h
    · cases h
    · next howns => exact howns

variable {token : InvitationReservation}

/-- After a successful validation the consumption succeeds. -/
theorem consume_of_owns (h : registry.validateReservation token now = .ok ()) :
    (registry.consumeAfterMembership token now).1 = .ok () := by
  obtain ⟨-, hnot⟩ | ⟨-, hcase⟩ := registry.settle_cases .consumed token now
  · exact absurd h hnot
  · rw [InvitationRegistry.consumeAfterMembership, hcase]

theorem release_of_owns (h : registry.validateReservation token now = .ok ()) :
    (registry.release token now).1 = .ok () := by
  obtain ⟨-, hnot⟩ | ⟨-, hcase⟩ := registry.settle_cases .available token now
  · exact absurd h hnot
  · rw [InvitationRegistry.release, hcase]

section

variable (h : validateBeforeApply registry prepared now = .ok ())
include h

/-- An addition that the group applies after a successful validation is a committed join. -/
theorem apply_eq_ok :
    self.apply registry prepared true now = (.ok ⟨prepared.responseEndpoint⟩, self,
      (registry.consumeAfterMembership prepared.invitationReservation now).2) := by
  have hconsume := consume_of_owns (validateReservation_of_validateBeforeApply h)
  simp only [apply, h, if_true]
  split
  · next e registry' hcase =>
      rw [hcase] at hconsume
      cases hconsume
  · next registry' hcase => rw [hcase]

theorem applyAwaitingDurability_eq_ok :
    self.applyAwaitingDurability registry prepared true now =
      (.ok ⟨prepared.responseEndpoint, prepared.replayReservation, prepared.invitationReservation,
        now⟩, self, registry) := by
  simp only [applyAwaitingDurability, h, if_true]

end

theorem finalizeCommitted_states (settlement : DurableCapabilityShadowSettlement) :
    (finalizeCommitted registry settlement).2 = (registry.consumeAfterMembership
      settlement.invitationReservation settlement.appliedAtUnixSeconds).2 := by
  simp only [finalizeCommitted]
  split <;> rfl

variable (self registry now) (prepared)

/-- Both ways to apply a join give it up, with one error, unless it was applied and may be. -/
theorem apply_cases (applied : Bool) :
    (∃ e, self.apply registry prepared applied now = (.error e,
        self.givenUp registry now prepared.replayReservation prepared.invitationReservation) ∧
      self.applyAwaitingDurability registry prepared applied now = (.error e,
        self.givenUp registry now prepared.replayReservation prepared.invitationReservation)) ∨
    (validateBeforeApply registry prepared now = .ok () ∧ applied = true) := by
  cases h : validateBeforeApply registry prepared now with
  | error e => exact .inl ⟨e, by simp only [apply, applyAwaitingDurability, h]; exact ⟨rfl, rfl⟩⟩
  | ok u =>
    cases applied with
    | false =>
      refine .inl ⟨.rejected, ?_⟩
      simp only [apply, applyAwaitingDurability, h]
      exact ⟨rfl, rfl⟩
    | true => exact .inr ⟨rfl, rfl⟩

end CapabilityAdmissionVerifier

end SessionChat.Admission
