import SessionChat.Admission.Joins

/-!
# Every call keeps the invariants (`crates/admission-capability/src/lib.rs`)

One lemma for each way a value leaves or goes on, over the values in the hands of callers and
over the value that borrows verifier and registry, and from them one for every call.
-/

set_option autoImplicit false

namespace SessionChat.Admission

open Protocol Invitation Transition CapabilityAdmissionVerifier
  Service

variable {E : Ed25519} {validate : KeyPackageValidator} {issued : List Descriptor}
  {clock now : Nat} {s s' : Service}

theorem Service.ready_of_free (hfree : s.slot = .free) : s.Ready clock := by
  rw [Ready, hfree]
  trivial

theorem Slot.eq_prepared {slot : Slot} (h : slot.prepared?.isSome) : ∃ p, slot = .prepared p := by
  cases slot with
  | prepared p => exact ⟨p, rfl⟩
  | free | applied | settling => cases h

namespace Sound

theorem silent (h : Sound issued clock s) {r : Reply} (hr : r.issued? = none) :
    Sound (issued ++ r.issued?.toList) clock s := by
  rw [hr, Option.toList_none, List.append_nil]
  exact h

variable {l l' : List InvitationReservation} {consume? : Option InvitationReservation}

section

variable (h : Sound issued clock s) (hle : clock ≤ now)
include h hle

theorem of_quiet (hsource : s.tokens.Perm l)
    (heffect : Effect ⟨s.registry, l⟩ now none consume? ⟨s'.registry, l'⟩)
    (htarget : l'.Perm s'.tokens) (htracked : Tracked s'.verifier s'.owners now)
    (hjoins : Joins issued now s'.registry s'.joined s'.awaiting) (hready : s'.Ready now) :
    Sound issued now s' := by
  simpa using h.of_effect hle hsource heffect htarget
    (fun _ hd => absurd hd (Option.not_mem_none _)) htracked (by simpa using hjoins) hready

theorem joins_of_quiet {g : InvitationRegistry}
    (heffect : Effect ⟨s.registry, l⟩ now none consume? ⟨g, l'⟩) :
    Joins issued now g s.joined s.awaiting := by
  simpa using h.joins.effect heffect hle (fun _ hd => absurd hd (Option.not_mem_none _)) h.recorded

theorem later (hfree : s.slot = .free) : Sound issued now s :=
  h.of_quiet hle (.refl _) (.same _ now) (.refl _) (h.tracked.later hle)
    (h.joins_of_quiet hle (.same ⟨s.registry, s.tokens⟩ now)) (ready_of_free hfree)

end

/-! ## Calls on values -/

section

variable (h : Sound issued clock s) (hle : clock ≤ now) (hfree : s.slot = .free)
include h hle hfree

theorem discard {old : Value} (hmem : old ∈ s.values) :
    Sound issued now (s.advance old none ((s.verifier.removeReservation old.entry.reservation).2,
      (old.token?.map fun t => (s.registry.release t now).2).getD s.registry)) := by
  have htracked := (h.tracked.perm (owners_perm (s.verifier, s.registry) hfree
    hmem)).remove.later hle
  have hready : ∀ states, (s.advance old none states).Ready now :=
    fun states => ready_of_free hfree
  cases htoken : old.token? with
  | none =>
    have hperm := tokens_perm (s.verifier, s.registry) hfree hmem
    rw [htoken] at hperm
    exact h.of_quiet hle (.refl _) (.same _ now) hperm htracked
      (h.joins_of_quiet hle (.same ⟨s.registry, s.tokens⟩ now)) (hready _)
  | some t =>
    have hperm := tokens_perm (s.verifier, s.registry) hfree hmem
    rw [htoken] at hperm
    have heffect := Effect.ofRelease (s := ⟨s.registry, s.tokens⟩)
      (hperm.mem_iff.mpr List.mem_cons_self) now
    have herase := hperm.erase t
    rw [Option.toList_some, List.singleton_append, List.erase_cons_head] at herase
    exact h.of_quiet hle (.refl _) heffect herase htracked (h.joins_of_quiet hle heffect)
      (hready _)

theorem verify (opened : OpenedCapabilityJoinRequest) :
    Sound issued now (s.call validate (.verify opened now : Call E)).1 := by
  simp only [Service.call]
  obtain ⟨e, hcase⟩ | ⟨validated, hcase⟩ := verifyAndReserve_cases validate s.verifier opened now
  · rw [hcase]
    exact h.later hle hfree
  · rw [hcase]
    refine h.of_quiet hle (.refl _) (.same _ now) (.refl _) ?_
      (h.joins_of_quiet hle (.same ⟨s.registry, s.tokens⟩ now)) (ready_of_free hfree)
    have hadmit := h.tracked.enroll hle
      (entryOf opened.request s.verifier.nextReservationId) rfl
    simp only [Service.owners, hfree] at hadmit ⊢
    exact hadmit

theorem reserve (invitation : SignedCapabilityInvitationV2) {v : VerifiedCapabilityAdmission}
    (hmem : .verified v ∈ s.values) :
    Sound issued now (s.call validate (.reserve invitation v now : Call E)).1 := by
  simp only [Service.call]
  obtain ⟨e, hcase⟩ | ⟨token, context, hcase, hanswer⟩ :=
    s.verifier.reserveV2ForApproval_cases s.registry now invitation v
  · rw [hcase]
    exact h.discard hle hfree hmem
  · rw [hcase]
    have heffect := Effect.ofReserve ⟨s.registry, s.tokens⟩ (descriptorV2 invitation)
      v.opened.request.request.joinRequestId now
    rw [hanswer] at heffect
    refine h.of_quiet hle (.refl _) heffect ?_ ?_ (h.joins_of_quiet hle heffect)
      (ready_of_free hfree)
    · have hperm := tokens_perm (s.verifier, s.registry) hfree hmem
      have htokens := tokens_advance (s.verifier, s.registry) (.verified v)
        (.pending ⟨v, token, context⟩) hfree
      exact (hperm.cons token).trans (.of_eq htokens.symm)
    · have howners := owners_perm (s.verifier, s.registry) hfree hmem
      have hmoved := owners_advance (s.verifier, s.registry) (.verified v)
        (.pending ⟨v, token, context⟩) hfree
      exact (h.tracked.later hle).perm (howners.trans (.of_eq hmoved.symm))

theorem decide (decision : ApprovalDecision) {p : PendingCapabilityApproval}
    (hmem : .pending p ∈ s.values) :
    Sound issued now (s.call validate (.decide p decision now : Call E)).1 := by
  simp only [Service.call]
  obtain ⟨hnone, hstates⟩ | hcase := s.verifier.decideV2_cases s.registry now p decision
  · rw [hnone, hstates]
    exact h.discard hle hfree hmem
  · rw [hcase]
    refine h.of_quiet hle (.refl _) (.same _ now) ?_ ?_
      (h.joins_of_quiet hle (.same ⟨s.registry, s.tokens⟩ now)) (ready_of_free hfree)
    · have hperm := tokens_perm (s.verifier, s.registry) hfree hmem
      have htokens := tokens_advance (s.verifier, s.registry) (.pending p)
        (.approved ⟨p.verified, p.invitationReservation⟩) hfree
      exact hperm.trans (.of_eq htokens.symm)
    · have howners := owners_perm (s.verifier, s.registry) hfree hmem
      have hmoved := owners_advance (s.verifier, s.registry) (.pending p)
        (.approved ⟨p.verified, p.invitationReservation⟩) hfree
      exact (h.tracked.later hle).perm (howners.trans (.of_eq hmoved.symm))

theorem prepare (prepared : Bool) {a : ApprovedCapabilityAdmission}
    (hmem : .approved a ∈ s.values) :
    Sound issued now (s.call validate (.prepare a prepared now : Call E)).1 := by
  simp only [Service.call]
  obtain ⟨e, hcase⟩ | ⟨hposition, howns, hcase⟩ :=
    s.verifier.prepareApprovedAdd_cases s.registry now a prepared
  · rw [hcase]
    exact h.discard hle hfree hmem
  · rw [hcase]
    have hperm := tokens_perm (s.verifier, s.registry) hfree hmem
    have howners := owners_perm (s.verifier, s.registry) hfree hmem
    refine h.of_quiet hle (.refl _) (.same _ now) ?_ ?_ ?_ ?_
    · simp only [Service.advance, hfree] at hperm ⊢
      exact hperm
    · simp only [Service.owners, Service.advance, hfree] at howners ⊢
      refine (h.tracked.later hle).perm ?_
      simp only [Service.owners, hfree]
      exact howners
    · have hjoins := h.joins_of_quiet hle (.same ⟨s.registry, s.tokens⟩ now)
      simp only [Service.awaiting, hfree] at hjoins
      exact hjoins
    · refine ⟨rfl, howns, ?_⟩
      have howner : Value.entry (.approved a) ∈ s.owners := howners.mem_iff.mpr List.mem_cons_self
      exact not_not.mp fun hnot => hposition ((h.tracked.position_eq_none howner).mpr hnot)

end

/-! ## Calls on the borrowing value -/

section Prepared

variable {p : PreparedApprovedCapabilityAddition}

theorem tokens_of_prepared (hslot : s.slot = .prepared p) : s.tokens = p.invitationReservation ::
      (s.values.filterMap Value.token? ++ (s.free ++ s.abandoned)) := by
  rw [Service.tokens, hslot]
  rfl

section

variable (h : Sound issued clock s) (hle : clock ≤ now) (hslot : s.slot = .prepared p)
include h hle hslot

/-- The invitation of a prepared addition that passed validation has no join. -/
theorem not_joined (howns : s.registry.validateReservation p.invitationReservation now = .ok ())
    {d : Descriptor} (hd : d ∈ issued) (hnames : p.invitationReservation.Names d) :
    ∀ j ∈ s.joined, ¬j.invitation.Names d := by
  intro j hj hjoined
  obtain ⟨d', hd', hnames', r, hr, hmatches, hlive, hreserved⟩ := h.recorded.named_of_owns howns
  obtain rfl := h.recorded.eq_of_names hd hd' hnames hnames'
  rcases h.joins.closed j hj d hd hjoined with hclosed | hawaiting
  · rw [hclosed.lifecycle_eq hle hlive hr] at hreserved
    cases hreserved
  · -- The reservation of an abandoned join and the prepared one name the same record.
    have hone := (h.owned.single d hd r hr hmatches).1
    have habandoned : j.invitation ∈ s.abandoned := by
      rw [Service.awaiting, hslot] at hawaiting
      exact hawaiting
    have hrest : 0 < (s.values.filterMap Value.token? ++ (s.free ++ s.abandoned)).countP
        fun t => Decidable.decide (t.Names d) :=
      List.countP_pos_iff.mpr ⟨j.invitation, by simp [habandoned], decide_eq_true hjoined⟩
    rw [tokens_of_prepared hslot, List.countP_cons, if_pos (decide_eq_true hnames)] at hone
    omega

/-- A prepared addition gives up what it owns. -/
theorem dropped : Sound issued now (s.settle (s.verifier.givenUp s.registry now p.replayReservation
      p.invitationReservation)) := by
  have htoken : p.invitationReservation ∈ s.tokens := by
    rw [tokens_of_prepared hslot]
    exact List.mem_cons_self
  have heffect := Effect.ofRelease (s := ⟨s.registry, s.tokens⟩) htoken now
  have htracked : Tracked s.verifier (p.join.entry ::
      (s.values.map Value.entry ++ s.joined.map Join.entry)) clock := by
    have howners := h.tracked
    rw [Service.owners, hslot] at howners
    exact howners
  refine h.of_quiet hle (.refl _) heffect ?_ (htracked.remove.later hle) ?_
    (ready_of_free rfl)
  · rw [tokens_of_prepared hslot, List.erase_cons_head]
    exact .refl _
  · have hjoins := h.joins_of_quiet hle heffect
    rw [Service.awaiting, hslot] at hjoins
    exact hjoins

theorem owners_of_applied :
    Tracked s.verifier (s.values.map Value.entry ++ (p.join :: s.joined).map Join.entry) now := by
  refine (h.tracked.later hle).perm ?_
  rw [Service.owners, hslot]
  change (p.join.entry :: (s.values.map Value.entry ++ s.joined.map Join.entry)).Perm _
  exact List.perm_middle.symm

section

variable (howns : s.registry.validateReservation p.invitationReservation now = .ok ())
include howns

theorem applied :
    Sound issued now { s.settle (s.verifier,
        (s.registry.consumeAfterMembership p.invitationReservation now).2) with
      joined := p.join :: s.joined } := by
  have htoken : p.invitationReservation ∈ s.tokens := by
    rw [tokens_of_prepared hslot]
    exact List.mem_cons_self
  have hconsume := Effect.ofConsume (s := ⟨s.registry, s.tokens⟩) htoken now
  rw [consume_of_owns howns] at hconsume
  obtain ⟨e, herror, -⟩ | ⟨-, heffect⟩ := hconsume
  · cases herror
  refine h.of_quiet hle (.refl _) heffect ?_ (h.owners_of_applied hle hslot) ?_
    (ready_of_free rfl)
  · rw [tokens_of_prepared hslot, List.erase_cons_head]
    exact .refl _
  · have hjoins := h.joins_of_quiet hle heffect
    rw [Service.awaiting, hslot] at hjoins
    obtain ⟨d, hd, hnames, -⟩ := h.recorded.named_of_owns howns
    refine hjoins.add ⟨d, hd, hnames⟩ (fun d' hd' => h.not_joined hle hslot howns hd') ?_
    intro d' hd' hnames'
    exact .inl (heffect.closed_of_consume h.recorded hd' hnames')

theorem appliedAwaiting (endpoint : LocalWelcomeDepositEndpoint) :
    Sound issued now { s.settle (s.verifier, s.registry) with
      slot := .applied ⟨endpoint, p.replayReservation, p.invitationReservation, now⟩ p.join
      joined := p.join :: s.joined } := by
  have hready := h.ready
  rw [Service.Ready, hslot] at hready
  refine h.of_quiet hle (.refl _) (.same _ now) ?_ (h.owners_of_applied hle hslot) ?_ ?_
  · rw [tokens_of_prepared hslot]
    exact .refl _
  · have hjoins := h.joins_of_quiet hle (.same ⟨s.registry, s.tokens⟩ now)
    rw [Service.awaiting, hslot] at hjoins
    obtain ⟨d, hd, hnames, -⟩ := h.recorded.named_of_owns howns
    refine (hjoins.mono (List.subset_cons_self p.invitationReservation _)).add ⟨d, hd, hnames⟩
      (fun d' hd' => h.not_joined hle hslot howns hd') ?_
    exact fun _ _ _ => .inr List.mem_cons_self
  · exact
      { time := rfl
        owns := howns
        entry := hready.2.2
        replay := rfl
        invitation := rfl
        joined := List.mem_cons_self }

end

end

end Prepared

section Applied

variable {settlement : DurableCapabilityShadowSettlement} {join : Join}

/-- The value that awaits its settlement, in either form. -/
theorem settleable (h : Sound issued clock s)
    (hslot : s.slot.settlement? = some (settlement, join)) : Settleable s clock settlement join ∧
      s.tokens = settlement.invitationReservation ::
        (s.values.filterMap Value.token? ++ (s.free ++ s.abandoned)) ∧
      s.awaiting = settlement.invitationReservation :: s.abandoned ∧
      Tracked s.verifier (s.values.map Value.entry ++ s.joined.map Join.entry) clock := by
  have hready := h.ready
  have htracked := h.tracked
  rw [Service.Ready] at hready
  rw [Service.owners] at htracked
  rw [Service.tokens, Service.awaiting]
  cases hcase : s.slot with
  | free =>
    rw [hcase] at hslot
    cases hslot
  | prepared p =>
    rw [hcase] at hslot
    cases hslot
  | applied value join' =>
    rw [hcase] at hslot hready htracked
    cases hslot
    exact ⟨hready, rfl, rfl, htracked⟩
  | settling value join' =>
    rw [hcase] at hslot hready htracked
    cases hslot
    exact ⟨hready, rfl, rfl, htracked⟩

/-- The settlement takes over what the applied join owns. -/
theorem handedOver (h : Sound issued clock s) {value : AppliedCapabilityJoinAwaitingDurability}
    (hslot : s.slot = .applied value join) :
    Sound issued clock { s with slot := .settling (intoDurableOwnerParts value) join } := by
  have hsettlement : s.slot.settlement? = some (intoDurableOwnerParts value, join) := by
    rw [hslot]
    rfl
  obtain ⟨hready, htokens, hawaiting, htracked⟩ := h.settleable hsettlement
  refine h.of_quiet (Nat.le_refl _) (.refl _) (.same _ clock) (.of_eq htokens) htracked ?_ ?_
  · have hjoins := h.joins
    rw [hawaiting] at hjoins
    exact hjoins
  · exact ⟨hready.time, hready.owns, hready.entry, hready.replay, hready.invitation, hready.joined⟩

section

variable (h : Sound issued clock s) (hslot : s.slot.settlement? = some (settlement, join))
include h hslot

theorem uncommitted :
    Sound issued clock { s.settle (s.verifier.givenUp s.registry settlement.appliedAtUnixSeconds
        settlement.replayReservation settlement.invitationReservation) with
      joined := s.joined.erase join } := by
  obtain ⟨hready, htokens, hawaiting, htracked⟩ := h.settleable hslot
  rw [hready.time, ← hready.replay]
  have heffect := Effect.ofRelease (s := ⟨s.registry, s.tokens⟩)
    (htokens ▸ List.mem_cons_self) clock
  refine h.of_quiet (Nat.le_refl _) (.refl _) heffect ?_ ?_ ?_ (ready_of_free rfl)
  · rw [htokens, List.erase_cons_head]
    exact .refl _
  · have hjoined := (List.perm_cons_erase hready.joined).map Join.entry
    exact (htracked.perm ((hjoined.append_left _).trans List.perm_middle)).remove
  · refine (h.joins_of_quiet (Nat.le_refl _) heffect).remove hready.joined fun a ha => ?_
    rw [hawaiting, ← hready.invitation] at ha
    exact List.mem_cons.mp ha

theorem finalized : Sound issued clock (s.settle (s.verifier, (s.registry.consumeAfterMembership
      settlement.invitationReservation settlement.appliedAtUnixSeconds).2)) := by
  obtain ⟨hready, htokens, hawaiting, htracked⟩ := h.settleable hslot
  rw [hready.time]
  have hconsume := Effect.ofConsume (s := ⟨s.registry, s.tokens⟩)
    (htokens ▸ List.mem_cons_self) clock
  rw [consume_of_owns hready.owns] at hconsume
  obtain ⟨e, herror, -⟩ | ⟨-, heffect⟩ := hconsume
  · cases herror
  refine h.of_quiet (Nat.le_refl _) (.refl _) heffect ?_ htracked ?_
    (ready_of_free rfl)
  · rw [htokens, List.erase_cons_head]
    exact .refl _
  · refine (h.joins_of_quiet (Nat.le_refl _) heffect).settled
      (fun d hd hnames => heffect.closed_of_consume h.recorded hd hnames) fun a ha => ?_
    rw [hawaiting] at ha
    exact List.mem_cons.mp ha

theorem abandoned : Sound issued clock
      { s with slot := .free, abandoned := join.invitation :: s.abandoned } := by
  obtain ⟨hready, htokens, hawaiting, htracked⟩ := h.settleable hslot
  refine h.of_quiet (Nat.le_refl _) (.refl _) (.same _ clock) ?_ htracked ?_
    (ready_of_free rfl)
  · rw [htokens, ← hready.invitation, ← List.append_assoc]
    refine List.perm_middle.symm.trans ?_
    rw [List.append_assoc]
    exact .refl _
  · have hjoins := h.joins
    rw [hawaiting, ← hready.invitation] at hjoins
    exact hjoins

end

end Applied

/-! ## Every call -/

theorem registryCall (h : Sound issued clock s) {c : Invitation.Call E} (hle : clock ≤ c.now)
    (hfree : s.slot = .free) (htoken : ∀ t ∈ c.token?, t ∈ s.free)
    (hauthentic : ∀ d ∈ c.offered?, ∀ d' ∈ issued, d'.signature = d.signature → d' = d) :
    Sound (issued ++ (Host.call ⟨s.registry, s.free⟩ c).2.issued?.toList) c.now
      { s with
        registry := (Host.call ⟨s.registry, s.free⟩ c).1.registry
        free := (Host.call ⟨s.registry, s.free⟩ c).1.tokens } := by
  have heffect := (Host.call_effect ⟨s.registry, s.free⟩ c htoken).frame
    (s.values.filterMap Value.token? ++ s.abandoned)
  have hissue : ∀ d ∈ (Host.call ⟨s.registry, s.free⟩ c).2.issued?, ∀ d' ∈ issued,
      d'.signature = d.signature → d' = d :=
    fun d hd => hauthentic d (Host.offered_of_issued hd)
  -- The callers' own tokens stand behind those of the values.
  have hmove : ∀ free : List InvitationReservation,
      (free ++ (s.values.filterMap Value.token? ++ s.abandoned)).Perm
        (s.values.filterMap Value.token? ++ (free ++ s.abandoned)) := by
    intro free
    rw [← List.append_assoc, ← List.append_assoc]
    exact List.perm_append_comm.append_right _
  refine h.of_effect hle ?_ heffect ?_ hissue (h.tracked.later hle)
    (h.joins.effect heffect hle hissue h.recorded) (ready_of_free hfree)
  · rw [Service.tokens, hfree]
    exact (hmove s.free).symm
  · rw [hfree]
    exact hmove _

theorem call (h : Sound issued clock s) (validate : KeyPackageValidator) {c : Call E}
    (hle : ∀ now ∈ c.now?, clock ≤ now) (hfits : c.Fits s)
    (hauthentic : ∀ d ∈ c.offered?, ∀ d' ∈ issued, d'.signature = d.signature → d' = d) :
    Sound (issued ++ (s.call validate c).2.issued?.toList) (c.now?.getD clock)
      (s.call validate c).1 := by
  cases c with
  | registry c => exact h.registryCall (hle c.now rfl) hfits.1 hfits.2 hauthentic
  | verify opened now => exact (h.verify (hle now rfl) hfits opened).silent rfl
  | releaseVerified v => exact (h.discard (Nat.le_refl _) hfits.1 hfits.2).silent rfl
  | reserve invitation v now =>
    exact (h.reserve (hle now rfl) hfits.1 invitation hfits.2).silent rfl
  | decide p decision now => exact (h.decide (hle now rfl) hfits.1 decision hfits.2).silent rfl
  | prepare a prepared now => exact (h.prepare (hle now rfl) hfits.1 prepared hfits.2).silent rfl
  | dropPrepared =>
    obtain ⟨p, hslot⟩ := Slot.eq_prepared hfits
    have hready := h.ready
    rw [Service.Ready, hslot] at hready
    obtain ⟨rfl, -⟩ := hready
    simp only [Service.call, hslot]
    exact (h.dropped (Nat.le_refl _) hslot).silent rfl
  | apply applied now =>
    obtain ⟨p, hslot⟩ := Slot.eq_prepared hfits
    simp only [Service.call, hslot]
    obtain ⟨e, hcase, -⟩ | ⟨hvalid, rfl⟩ := s.verifier.apply_cases s.registry now p applied
    · rw [hcase]
      exact (h.dropped (hle now rfl) hslot).silent rfl
    · rw [apply_eq_ok hvalid]
      exact (h.applied (hle now rfl) hslot
        (validateReservation_of_validateBeforeApply hvalid)).silent rfl
  | applyAwaitingDurability applied now =>
    obtain ⟨p, hslot⟩ := Slot.eq_prepared hfits
    simp only [Service.call, hslot]
    obtain ⟨e, -, hcase⟩ | ⟨hvalid, rfl⟩ := s.verifier.apply_cases s.registry now p applied
    · rw [hcase]
      exact (h.dropped (hle now rfl) hslot).silent rfl
    · rw [applyAwaitingDurability_eq_ok hvalid]
      exact (h.appliedAwaiting (hle now rfl) hslot
        (validateReservation_of_validateBeforeApply hvalid) _).silent rfl
  | intoDurableOwnerParts =>
    cases hslot : s.slot with
    | applied value join =>
      simp only [Service.call, hslot]
      exact (h.handedOver hslot).silent rfl
    | free | prepared | settling =>
      simp only [Service.call, hslot]
      exact h.silent rfl
  | releaseProvenUncommitted =>
    obtain ⟨⟨settlement, join⟩, hslot⟩ := Option.isSome_iff_exists.mp hfits
    simp only [Service.call, hslot]
    exact (h.uncommitted hslot).silent rfl
  | finalizeCommitted =>
    cases hslot : s.slot with
    | settling settlement join =>
      have hsettlement : s.slot.settlement? = some (settlement, join) := by
        rw [hslot]
        rfl
      have hfinal := h.finalized hsettlement
      simp only [Service.call, hslot, finalizeCommitted_states]
      exact hfinal.silent rfl
    | free | prepared | applied =>
      simp only [Service.call, hslot]
      exact h.silent rfl
  | abandon =>
    obtain ⟨⟨settlement, join⟩, hslot⟩ := Option.isSome_iff_exists.mp hfits
    simp only [Service.call, hslot]
    exact (h.abandoned hslot).silent rfl

end Sound

end SessionChat.Admission
