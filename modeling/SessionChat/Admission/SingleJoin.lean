import SessionChat.Admission.Steps

/-!
# One join per invitation (`crates/admission-capability/src/lib.rs`)

Along every run of one verifier and one registry, an invitation has at most one join that was
applied and not proven uncommitted, a validated addition can always be settled, and nothing is
left reserved without an owner.
-/

set_option autoImplicit false

namespace SessionChat.Admission

open Collections Protocol Invitation Transition
  CapabilityAdmissionVerifier

variable {E : Ed25519} {validate : KeyPackageValidator} {policy : CapabilityAdmissionPolicy}
  {invitations : InvitationPolicy} {issued : List Descriptor} {clock : Nat} {s : Service}

/-! ## Runs -/

theorem Sound.fresh (E : Ed25519) (policy : CapabilityAdmissionPolicy)
    (invitations : InvitationPolicy) : Sound [] 0 (Admission.fresh E policy invitations).state where
  recorded :=
    { room := Nat.zero_le _
      origin := fun _ _ hr => absurd hr (by rintro ⟨⟩)
      retained := List.forall_mem_nil _
      authentic := List.forall_mem_nil _ }
  owned :=
    { held := List.forall_mem_nil _
      single := List.forall_mem_nil _ }
  backed := fun _ _ _ hr => absurd hr (by rintro ⟨⟩)
  tracked :=
    { below := List.forall_mem_nil _
      distinct := List.nodup_nil
      single := List.nodup_nil
      owned := List.forall_mem_nil _
      kept := List.forall_mem_nil _ }
  joins :=
    { origin := List.forall_mem_nil _
      once := List.forall_mem_nil _
      closed := List.forall_mem_nil _ }
  ready := trivial

variable {w : AdmissionWorld E}

theorem AdmissionRun.sound (h : AdmissionRun validate policy invitations w) :
    Sound (Admission.issued w.history) (Admission.clock w.history) w.state := by
  refine h.invariant (I := fun w => Sound (Admission.issued w.history)
    (Admission.clock w.history) w.state) ?_ (Sound.fresh E policy invitations)
  intro w c hc hw
  have hcall := hw.call validate hc.later hc.fits hc.authentic
  simpa [World.after] using hcall

/-! ## The joins of a run -/

/-- A join that was applied stands or was proven uncommitted. -/
theorem Service.call_accounts (validate : KeyPackageValidator) (h : Sound issued clock s)
    (c : Call E) : (s.joined ++ (s.call validate c).2.applied?.toList).Perm
      ((s.call validate c).1.joined ++ (s.call validate c).2.uncommitted?.toList) := by
  cases c with
  | registry | verify | releaseVerified | reserve | decide | prepare =>
    simp [Service.call, Service.advance, Reply.applied?, Reply.uncommitted?]
  | dropPrepared | intoDurableOwnerParts | finalizeCommitted =>
    cases hslot : s.slot <;>
      simp [Service.call, Service.settle, hslot, Reply.applied?, Reply.uncommitted?]
  | abandon =>
    cases hslot : s.slot.settlement? <;>
      simp [Service.call, hslot, Reply.applied?, Reply.uncommitted?]
  | apply | applyAwaitingDurability =>
    cases hslot : s.slot with
    | prepared p =>
      simp only [Service.call, hslot]
      split
      · simp [Service.settle, Reply.applied?, Reply.uncommitted?]
      · simp [Reply.applied?, Reply.uncommitted?]
    | free | applied | settling => simp [Service.call, hslot, Reply.applied?, Reply.uncommitted?]
  | releaseProvenUncommitted =>
    cases hslot : s.slot.settlement? with
    | none => simp [Service.call, hslot, Reply.applied?, Reply.uncommitted?]
    | some pair =>
      have hjoined := (h.settleable hslot).1.joined
      simpa [Service.call, hslot, Reply.applied?, Reply.uncommitted?] using
        (List.perm_cons_erase hjoined).trans (List.perm_append_singleton _ _).symm

theorem AdmissionRun.accounted (h : AdmissionRun validate policy invitations w) :
    (appliedJoins w.history).Perm (w.state.joined ++ uncommittedJoins w.history) := by
  refine (h.invariant (I := fun w => Sound (Admission.issued w.history)
    (Admission.clock w.history) w.state ∧ (appliedJoins w.history).Perm
      (w.state.joined ++ uncommittedJoins w.history)) ?_
    ⟨Sound.fresh E policy invitations, .refl _⟩).2
  rintro w c hc ⟨hsound, hw⟩
  have hcall := hsound.call validate hc.later hc.fits hc.authentic
  have haccounts := Service.call_accounts validate hsound c
  refine ⟨by simpa [World.after] using hcall, ?_⟩
  simp only [World.after, appliedJoins_append, uncommittedJoins_append]
  rw [List.perm_iff_count] at hw haccounts ⊢
  intro j
  have hbefore := hw j
  have hstep := haccounts j
  simp only [List.count_append] at hbefore hstep ⊢
  omega

/-! ## Guarantees -/

/-- What holds of the inviter's side at one moment of a run. -/
structure SingleJoin (validate : KeyPackageValidator) (w : AdmissionWorld E) : Prop where
  /-- The joins that stand are those applied and not proven uncommitted. -/
  accounted : (appliedJoins w.history).Perm (w.state.joined ++ uncommittedJoins w.history)
  /-- Each issued invitation has at most one of them. -/
  one_join : ∀ d ∈ Admission.issued w.history,
    (w.state.joined.countP fun j => decide (j.invitation.Names d)) ≤ 1
  /-- After a successful validation, an addition that the group applies is a join. -/
  applies : ∀ p now, w.state.slot = .prepared p →
    validateBeforeApply w.state.registry p now = .ok () →
    (w.state.call validate (.apply true now : Call E)).2 = .applied (.ok p.join) ∧
      (w.state.call validate (.applyAwaitingDurability true now : Call E)).2 =
        .applied (.ok p.join)
  /-- An applied join can be proven uncommitted. -/
  releases : ∀ settlement join, w.state.slot.settlement? = some (settlement, join) →
    (w.state.call validate (.releaseProvenUncommitted : Call E)).2 = .uncommitted join (.ok ())
  /-- Its settlement can be finalized. -/
  finalizes : ∀ settlement join, w.state.slot = .settling settlement join →
    (w.state.call validate (.finalizeCommitted : Call E)).2 = .settled (.ok ())
  /-- A reserved record that has not expired has its owner: a pending or approved value, the
  borrowing value, a caller of the registry, or an applied join dropped unsettled. -/
  reserved_owned : ∀ id r j, w.state.registry.records.get? id = some r →
    r.lifecycle = .reserved j → Admission.clock w.history < r.expiresAtUnixSeconds →
    (∃ v ∈ w.state.values, v.token? = some ⟨id, j, r.signature, r.schema⟩) ∨
      ⟨id, j, r.signature, r.schema⟩ ∈ w.state.slot.tokens ∨
      ⟨id, j, r.signature, r.schema⟩ ∈ w.state.free ∨
      ⟨id, j, r.signature, r.schema⟩ ∈ w.state.abandoned
  /-- Every replay entry has its owner: a value, a prepared addition or a join that stands. -/
  entry_owned : ∀ e ∈ w.state.verifier.pending, (∃ v ∈ w.state.values, v.entry = e) ∨
    (∃ p, w.state.slot = .prepared p ∧ p.join.entry = e) ∨ ∃ j ∈ w.state.joined, j.entry = e
  /-- A join that stands keeps its replay entry until its request expires. -/
  entry_kept : ∀ j ∈ w.state.joined, j.entry ∈ w.state.verifier.pending ∨
    j.entry.expiresAtUnixSeconds ≤ Admission.clock w.history

/-- Both releases of an applied join succeed. -/
theorem Settleable.release {settlement : DurableCapabilityShadowSettlement} {join : Join}
    (h : Settleable s clock settlement join) (htracked : Tracked s.verifier (s.values.map
      Value.entry ++ s.joined.map Join.entry) clock) :
    (s.verifier.releaseProvenUncommitted s.registry settlement).1 = .ok () := by
  have howner : join.entry ∈ s.values.map Value.entry ++ s.joined.map Join.entry :=
    List.mem_append_right _ (List.mem_map_of_mem h.joined)
  have hreplay := htracked.remove_ok howner h.entry
  have hinvitation := release_of_owns h.owns
  rw [h.replay] at hreplay
  rw [← h.time] at hinvitation
  simp only [releaseProvenUncommitted, releaseBoth, hreplay, hinvitation]

theorem Service.entry_owned (h : Sound issued clock s) {e : PendingReplay}
    (he : e ∈ s.verifier.pending) : (∃ v ∈ s.values, v.entry = e) ∨
      (∃ p, s.slot = .prepared p ∧ p.join.entry = e) ∨ ∃ j ∈ s.joined, j.entry = e := by
  have howner := h.tracked.owned e he
  rw [Service.owners, List.mem_append, List.mem_append, List.mem_map, List.mem_map] at howner
  rcases howner with hslot | hvalue | hjoined
  · refine .inr (.inl ?_)
    cases hcase : s.slot with
    | prepared p =>
      rw [hcase] at hslot
      exact ⟨p, rfl, (List.mem_singleton.mp hslot).symm⟩
    | free | applied | settling =>
      rw [hcase] at hslot
      cases hslot
  · exact .inl hvalue
  · exact .inr (.inr hjoined)

/-- Every run of one verifier and one registry has the guarantees. -/
theorem one_join_per_invitation (h : AdmissionRun validate policy invitations w) :
    SingleJoin validate w where
  accounted := h.accounted
  one_join := h.sound.joins.once
  applies p now hslot hvalid := by
    constructor
    · simp only [Service.call, hslot, apply_eq_ok hvalid]
    · simp only [Service.call, hslot, applyAwaitingDurability_eq_ok hvalid]
  releases settlement join hslot := by
    obtain ⟨hready, -, -, htracked⟩ := h.sound.settleable hslot
    simp only [Service.call, hslot, hready.release htracked]
  finalizes settlement join hslot := by
    have hready := h.sound.ready
    rw [Service.Ready, hslot] at hready
    have hconsume := consume_of_owns hready.owns
    rw [← hready.time] at hconsume
    simp only [Service.call, hslot, finalizeCommitted, hconsume]
  reserved_owned id r j hr hj hlive := by
    have hmem := (h.sound.backed id r j hr hj).resolve_left (Nat.not_le.mpr hlive)
    simp only [Service.tokens, List.mem_append, List.mem_filterMap] at hmem
    rcases hmem with hslot | hvalue | hfree | habandoned
    · exact .inr (.inl hslot)
    · exact .inl hvalue
    · exact .inr (.inr (.inl hfree))
    · exact .inr (.inr (.inr habandoned))
  entry_owned e he := Service.entry_owned h.sound he
  entry_kept j hj := by
    refine h.sound.tracked.kept j.entry ?_
    simp only [Service.owners, List.mem_append, List.mem_map]
    exact .inr (.inr ⟨j, hj, rfl⟩)

/-! ## A join proven uncommitted and another of the same invitation -/

def sampleScheme : Ed25519 := ⟨Unit, fun _ => 1, fun _ _ => 99, fun _ => true, fun _ _ _ => true⟩

def sampleValidator : KeyPackageValidator := fun _ _ => some ⟨21, 22, 23⟩

def sampleInvitation : SignedCapabilityInvitationV2 where
  claims :=
    { base := ⟨7, 100, 160, 9, ⟨3, by decide⟩, by decide, by decide, by decide⟩
      invitationKeyId := 11
      hpkeRecipientPublicKey := 13
      invitationKeyId_ne_zero := by decide
      hpkeRecipientPublicKey_ne_zero := by decide }
  inviterVerifyingKey := 1
  signature := 99

/-- A request for the sample invitation. -/
def sampleOpened (joinRequestId : { id : BitVec 128 // id ≠ 0 })
    (requestNonce : { nonce : BitVec 256 // nonce ≠ 0 }) : OpenedCapabilityJoinRequest where
  request :=
    { invitation := ⟨7, 9, 11, 1, by decide, by decide, by decide⟩
      request := ⟨joinRequestId, 100, 150, requestNonce, joinRequestId.2, requestNonce.2,
        by decide⟩
      mls := ⟨21, [1], 22, 23, by decide, by decide, by decide⟩
      responseEndpoint := ⟨1, 2, 3, 150⟩
      responseEndpoint_le_request := Nat.le_refl 150 }
  invitationSignature := 99

def sampleVerified (opened : OpenedCapabilityJoinRequest) (reservationId : Nat) :
    VerifiedCapabilityAdmission :=
  ⟨opened, ⟨21, 22, 23⟩, (entryOf opened.request reservationId).reservation⟩

def sampleToken (v : VerifiedCapabilityAdmission) : InvitationReservation :=
  ⟨7, v.opened.request.request.joinRequestId, 99, .v2⟩

/-- One request from its verification to its preparation, from a time on. -/
def sampleAdmission (v : VerifiedCapabilityAdmission) (now : Nat) : List (Call sampleScheme) :=
  [.verify v.opened now, .reserve sampleInvitation v now,
    .decide ⟨v, sampleToken v, ⟨.secretCapability, 7, v.opened.request.request.joinRequestId, 21,
      150⟩⟩ .approve now,
    .prepare ⟨v, sampleToken v⟩ true now]

def firstRequest : VerifiedCapabilityAdmission :=
  sampleVerified (sampleOpened ⟨31, by decide⟩ ⟨41, by decide⟩) 1

def secondRequest : VerifiedCapabilityAdmission :=
  sampleVerified (sampleOpened ⟨32, by decide⟩ ⟨42, by decide⟩) 2

def sampleCalls : List (Call sampleScheme) :=
  [.registry (.issueV2 ⟨sampleInvitation, 5⟩ 100)] ++ sampleAdmission firstRequest 101 ++
    [.applyAwaitingDurability true 102, .releaseProvenUncommitted] ++
    sampleAdmission secondRequest 103 ++ [.apply true 104]

def sampleStart : AdmissionWorld sampleScheme :=
  fresh sampleScheme ⟨60, 5, 4, by decide, by decide⟩ ⟨60, 5, 4, by decide, by decide⟩

theorem one_join_per_invitation_uncommitted :
    AdmissionRun sampleValidator ⟨60, 5, 4, by decide, by decide⟩ ⟨60, 5, 4, by decide, by decide⟩
        (sampleStart.afterAll (Service.call sampleValidator) sampleCalls) ∧
      (appliedJoins (sampleStart.afterAll (Service.call sampleValidator)
        sampleCalls).history).length = 2 ∧ SingleJoin sampleValidator
        (sampleStart.afterAll (Service.call sampleValidator) sampleCalls) := by
  have hrun : AdmissionRun sampleValidator ⟨60, 5, 4, by decide, by decide⟩
      ⟨60, 5, 4, by decide, by decide⟩
      (sampleStart.afterAll (Service.call sampleValidator) sampleCalls) :=
    leads_afterAll (by decide +kernel)
  exact ⟨hrun, by decide +kernel, one_join_per_invitation hrun⟩

/-- A join applied and then proven uncommitted leaves its invitation to another, and its
replay entry is gone before the request expires. -/
theorem uncommitted_join_is_followed :
    ∃ w : AdmissionWorld sampleScheme, ∃ d ∈ Admission.issued w.history,
      AdmissionRun sampleValidator ⟨60, 5, 4, by decide, by decide⟩
        ⟨60, 5, 4, by decide, by decide⟩ w ∧
      ((appliedJoins w.history).countP fun j => decide (j.invitation.Names d)) = 2 ∧
      ∃ j ∈ appliedJoins w.history, j.entry ∉ w.state.verifier.pending ∧
        Admission.clock w.history < j.entry.expiresAtUnixSeconds := by
  refine ⟨sampleStart.afterAll (Service.call sampleValidator) sampleCalls,
    descriptorV2 sampleInvitation, by decide +kernel, leads_afterAll (by decide +kernel),
    by decide +kernel, ?_⟩
  decide +kernel

end SessionChat.Admission
