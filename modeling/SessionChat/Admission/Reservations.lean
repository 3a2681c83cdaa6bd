import SessionChat.Admission.Exits

/-!
# Ownership of replay entries (`crates/admission-capability/src/lib.rs`)

The verifier on its own, under any calls: the values presented to it are arbitrary, every call
may come with another registry, and times may run in any order. An entry stays tied to the
reservation identifier it was made with, which is never given out again.
-/

set_option autoImplicit false

namespace SessionChat.Admission

open Protocol Invitation Transition

variable {v v' : CapabilityAdmissionVerifier} {r : ReplayReservation} {e : PendingReplay}

/-! ## Calls of the verifier -/

/-- The methods that reach the verifier, with the registry they are called with. -/
inductive VerifierCall where
  | verifyAndReserve (opened : OpenedCapabilityJoinRequest) (now : Nat)
  | release (verified : VerifiedCapabilityAdmission)
  | reserveV2ForApproval (registry : InvitationRegistry)
      (invitation : SignedCapabilityInvitationV2) (verified : VerifiedCapabilityAdmission)
      (now : Nat)
  | decideV2 (registry : InvitationRegistry) (pending : PendingCapabilityApproval)
      (decision : ApprovalDecision) (now : Nat)
  | prepareApprovedAdd (registry : InvitationRegistry) (approved : ApprovedCapabilityAdmission)
      (prepared : Bool) (now : Nat)
  | dropPrepared (registry : InvitationRegistry) (prepared : PreparedApprovedCapabilityAddition)
  | apply (registry : InvitationRegistry) (prepared : PreparedApprovedCapabilityAddition)
      (applied : Bool) (now : Nat)
  | applyAwaitingDurability (registry : InvitationRegistry)
      (prepared : PreparedApprovedCapabilityAddition) (applied : Bool) (now : Nat)
  | releaseProvenUncommitted (registry : InvitationRegistry)
      (settlement : DurableCapabilityShadowSettlement)

inductive VerifierReply where
  | verified (answer : Except CapabilityAdmissionError VerifiedCapabilityAdmission)
  | released (answer : Except CapabilityAdmissionError Unit)
  | pending (answer : Except CapabilityAdmissionError PendingCapabilityApproval)
  | decided (answer : Except CapabilityAdmissionError CapabilityApprovalOutcome)
  | prepared (answer : Except CapabilityAdmissionError PreparedApprovedCapabilityAddition)
  | committed (answer : Except CapabilityAdmissionError CommittedCapabilityJoin)
  | applied (answer : Except CapabilityAdmissionError AppliedCapabilityJoinAwaitingDurability)
  | dropped

def CapabilityAdmissionVerifier.call (validate : KeyPackageValidator)
    (self : CapabilityAdmissionVerifier) :
    VerifierCall → CapabilityAdmissionVerifier × VerifierReply
  | .verifyAndReserve opened now =>
      let answer := self.verifyAndReserve validate opened now
      (answer.2, .verified answer.1)
  | .release verified =>
      let answer := self.release verified
      (answer.2, .released answer.1)
  | .reserveV2ForApproval registry invitation verified now =>
      let answer := self.reserveV2ForApproval registry invitation verified now
      (answer.2.1, .pending answer.1)
  | .decideV2 registry pending decision now =>
      let answer := self.decideV2 registry pending decision now
      (answer.2.1, .decided answer.1)
  | .prepareApprovedAdd registry approved prepared now =>
      let answer := self.prepareApprovedAdd registry approved prepared now
      (answer.2.1, .prepared answer.1)
  | .dropPrepared registry prepared => ((self.dropPrepared registry prepared).1, .dropped)
  | .apply registry prepared applied now =>
      let answer := self.apply registry prepared applied now
      (answer.2.1, .committed answer.1)
  | .applyAwaitingDurability registry prepared applied now =>
      let answer := self.applyAwaitingDurability registry prepared applied now
      (answer.2.1, .applied answer.1)
  | .releaseProvenUncommitted registry settlement =>
      let answer := self.releaseProvenUncommitted registry settlement
      (answer.2.1, .released answer.1)

/-- The reservation value that the caller presents. -/
def VerifierCall.reservation? : VerifierCall → Option ReplayReservation
  | .verifyAndReserve _ _ => none
  | .release verified | .reserveV2ForApproval _ _ verified _ => some verified.reservation
  | .decideV2 _ pending _ _ => some pending.verified.reservation
  | .prepareApprovedAdd _ approved _ _ => some approved.verified.reservation
  | .dropPrepared _ prepared | .apply _ prepared _ _ | .applyAwaitingDurability _ prepared _ _ =>
      some prepared.replayReservation
  | .releaseProvenUncommitted _ settlement => some settlement.replayReservation

/-- The error of a call that releases a reservation or takes it through the approval. A
prepared addition holds the borrow of the verifier since its own check. -/
def VerifierReply.refusal? : VerifierReply → Option CapabilityAdmissionError
  | .released (.error error) | .pending (.error error) | .decided (.error error)
  | .prepared (.error error) => some error
  | _ => none

/-- The calls that ask for such an answer. -/
def VerifierCall.Claims : VerifierCall → Prop
  | .release _ | .reserveV2ForApproval _ _ _ _ | .decideV2 _ _ _ _ | .prepareApprovedAdd _ _ _ _
  | .releaseProvenUncommitted _ _ => True
  | _ => False

def VerifierReply.issued? : VerifierReply → Option VerifiedCapabilityAdmission
  | .verified (.ok value) => some value
  | _ => none

def issuedValues (history : List (Event VerifierCall VerifierReply)) :
    List VerifiedCapabilityAdmission :=
  history.filterMap fun event => event.reply.issued?

theorem issuedValues_append (history : List (Event VerifierCall VerifierReply))
    (event : Event VerifierCall VerifierReply) :
    issuedValues (history ++ [event]) = issuedValues history ++ event.reply.issued?.toList := by
  cases h : event.reply.issued? <;> simp [issuedValues, h]

/-! ## What one call does -/

/-- Two entries that a verifier must not hold together. -/
def PendingReplay.Collides (a b : PendingReplay) : Prop :=
  a.generation = b.generation ∧
    (a.joinRequestId = b.joinRequestId ∨ a.requestNonce = b.requestNonce)

/-- A presented reservation removes at most the entry that has exactly its values. -/
theorem removeReservation_eq (v : CapabilityAdmissionVerifier) (r : ReplayReservation) :
    (v.removeReservation r).2 =
      { v with pending := v.pending.eraseP fun e => decide (e.IsOf r) } := by
  unfold CapabilityAdmissionVerifier.removeReservation
  split
  · next hnone =>
      have habsent := List.findIdx?_eq_none_iff.mp hnone
      rw [List.eraseP_of_forall_not]
      intro e he
      simp [habsent e he]
  · next position hsome =>
      rw [CapabilityAdmissionVerifier.reservationPosition] at hsome
      rw [List.eraseP_eq_eraseIdx, hsome]

theorem PendingReplay.isOf_iff : e.IsOf r ↔ e.reservation = r := by
  obtain ⟨generation, joinRequestId, requestNonce, reservationId⟩ := r
  simp only [IsOf, reservation, ReplayReservation.mk.injEq]
  tauto

/-- The outcomes of a call, with what was checked. -/
inductive VerifierEffect (v : CapabilityAdmissionVerifier) (c : VerifierCall) :
    CapabilityAdmissionVerifier → VerifierReply → Prop where
  | kept {reply : VerifierReply} (hreply : reply.issued? = none) : VerifierEffect v c v reply
  | removed {r : ReplayReservation} {reply : VerifierReply} (hreply : reply.issued? = none)
      (hpresented : c.reservation? = some r) : VerifierEffect v c (v.removeReservation r).2 reply
  | admitted {opened : OpenedCapabilityJoinRequest} {now : Nat}
      {value : VerifiedCapabilityAdmission} (entry : PendingReplay)
      (hcall : c = .verifyAndReserve opened now)
      (hseparate : ∀ e ∈ v.live now, ¬e.Collides entry)
      (hroom : (v.live now).length < v.policy.maximumPendingRequests)
      (hid : entry.reservationId = v.nextReservationId)
      (hvalue : value.reservation = entry.reservation) :
      VerifierEffect v c ⟨v.policy, v.live now ++ [entry], v.nextReservationId + 1⟩
        (.verified (.ok value))

namespace CapabilityAdmissionVerifier

/-- An admitted request collides with no live entry, and there was room for it. -/
theorem verifyAndReserve_checked {validate : KeyPackageValidator}
    {opened : OpenedCapabilityJoinRequest} {now : Nat} {value : VerifiedCapabilityAdmission}
    (h : (v.verifyAndReserve validate opened now).1 = .ok value) : ¬v.replays opened.request now ∧
      (v.live now).length < v.policy.maximumPendingRequests := by
  unfold verifyAndReserve at h
  split at h
  · cases h
  · split at h
    · cases h
    · split at h
      · cases h
      · split at h
        · cases h
        · next hreplays =>
            split at h
            · cases h
            · next hroom => exact ⟨hreplays, Nat.not_le.mp hroom⟩

theorem verify_effect (validate : KeyPackageValidator) (opened : OpenedCapabilityJoinRequest)
    (now : Nat) : VerifierEffect v (.verifyAndReserve opened now)
      (v.call validate (.verifyAndReserve opened now)).1
      (v.call validate (.verifyAndReserve opened now)).2 := by
  rcases verifyAndReserve_cases validate v opened now with ⟨error, h⟩ | ⟨validated, h⟩
  · simp only [call, h]
    exact .kept rfl
  · obtain ⟨hreplays, hroom⟩ := verifyAndReserve_checked (congrArg Prod.fst h)
    simp only [call, h]
    refine .admitted _ rfl ?_ hroom rfl rfl
    rintro e he ⟨hgeneration, hsame⟩
    obtain ⟨hmem, hlive⟩ := List.mem_filter.mp he
    exact hreplays ⟨e, hmem, of_decide_eq_true hlive, hgeneration, hsame⟩

theorem call_effect (validate : KeyPackageValidator) (c : VerifierCall) :
    VerifierEffect v c (v.call validate c).1 (v.call validate c).2 := by
  cases c with
  | verifyAndReserve opened now => exact verify_effect validate opened now
  | release verified => exact .removed rfl rfl
  | reserveV2ForApproval registry invitation verified now =>
    rcases reserveV2ForApproval_cases v registry now invitation verified with
      ⟨error, h⟩ | ⟨token, context, h, -⟩
    · simp only [call, h]
      exact .removed rfl rfl
    · simp only [call, h]
      exact .kept rfl
  | decideV2 registry pending decision now =>
    rcases decideV2_cases v registry now pending decision with ⟨-, h⟩ | h
    · simp only [call, h]
      exact .removed rfl rfl
    · simp only [call, h]
      exact .kept rfl
  | prepareApprovedAdd registry approved prepared now =>
    rcases prepareApprovedAdd_cases v registry now approved prepared with ⟨error, h⟩ | ⟨-, -, h⟩
    · simp only [call, h]
      exact .removed rfl rfl
    · simp only [call, h]
      exact .kept rfl
  | dropPrepared registry prepared => exact .removed rfl rfl
  | apply registry prepared applied now =>
    rcases apply_cases v registry now prepared applied with ⟨error, h, -⟩ | ⟨hvalid, rfl⟩
    · simp only [call, h]
      exact .removed rfl rfl
    · simp only [call, apply_eq_ok hvalid]
      exact .kept rfl
  | applyAwaitingDurability registry prepared applied now =>
    rcases apply_cases v registry now prepared applied with ⟨error, -, h⟩ | ⟨hvalid, rfl⟩
    · simp only [call, h]
      exact .removed rfl rfl
    · simp only [call, applyAwaitingDurability_eq_ok hvalid]
      exact .kept rfl
  | releaseProvenUncommitted registry settlement => exact .removed rfl rfl

end CapabilityAdmissionVerifier

namespace VerifierEffect

variable {c : VerifierCall} {reply : VerifierReply}

section

variable (h : VerifierEffect v c v' reply)
include h

/-- An entry leaves by its expiry, or because its own reservation was presented. -/
theorem leaves (he : e ∈ v.pending) (hgone : e ∉ v'.pending) :
    (∃ opened now, c = .verifyAndReserve opened now ∧ e.expiresAtUnixSeconds ≤ now) ∨
      c.reservation? = some e.reservation := by
  cases h with
  | kept => exact absurd he hgone
  | @removed r _ _ hpresented =>
    rw [removeReservation_eq] at hgone
    have hof : e.IsOf r := by
      by_contra hnot
      exact hgone ((List.mem_eraseP_of_neg (by simpa using hnot)).mpr he)
    rw [PendingReplay.isOf_iff.mp hof]
    exact .inr hpresented
  | @admitted opened now _ entry hcall =>
    refine .inl ⟨opened, now, hcall, ?_⟩
    by_contra hlive
    exact hgone (List.mem_append_left _
      (List.mem_filter.mpr ⟨he, decide_eq_true (Nat.not_le.mp hlive)⟩))

/-- Every entry was there before, or is new and has the next identifier. -/
theorem enters (he : e ∈ v'.pending) : e ∈ v.pending ∨ e.reservationId = v.nextReservationId := by
  cases h with
  | kept => exact .inl he
  | removed =>
    rw [removeReservation_eq] at he
    exact .inl (List.mem_of_mem_eraseP he)
  | admitted entry _ _ _ hid =>
    rcases List.mem_append.mp he with hold | hnew
    · exact .inl (List.mem_of_mem_filter hold)
    · exact .inr (List.mem_singleton.mp hnew ▸ hid)

theorem nextReservationId_le : v.nextReservationId ≤ v'.nextReservationId := by
  cases h with
  | kept => exact Nat.le_refl _
  | removed => rw [removeReservation_eq]
  | admitted => exact Nat.le_succ _

end

end VerifierEffect

/-! ## What every run keeps -/

abbrev VerifierWorld := World CapabilityAdmissionVerifier VerifierCall VerifierReply

/-- No two entries collide, and there are no more than the policy allows. -/
structure Separated (v : CapabilityAdmissionVerifier) : Prop where
  apart : v.pending.Pairwise fun a b => ¬a.Collides b
  bounded : v.pending.length ≤ v.policy.maximumPendingRequests

theorem Separated.effect {c : VerifierCall} {reply : VerifierReply} (h : Separated v)
    (heffect : VerifierEffect v c v' reply) : Separated v' := by
  cases heffect with
  | kept => exact h
  | removed =>
    rw [removeReservation_eq]
    exact ⟨h.apart.sublist List.eraseP_sublist,
      Nat.le_trans List.eraseP_sublist.length_le h.bounded⟩
  | @admitted opened now value entry _ hseparate hroom =>
    refine ⟨List.pairwise_append.mpr ⟨h.apart.filter _, List.pairwise_singleton _ _, ?_⟩, ?_⟩
    · intro a ha b hb
      rw [List.mem_singleton] at hb
      exact hb ▸ hseparate a ha
    · simp only [List.length_append]
      exact hroom

/-- The identifiers given out so far, in order, are one, two, and so on. -/
def Numbered (w : VerifierWorld) : Prop :=
  (issuedValues w.history).map (fun value => value.reservation.reservationId) =
      List.range' 1 (w.state.nextReservationId - 1) ∧
    1 ≤ w.state.nextReservationId

variable {w : VerifierWorld}

theorem Numbered.after {validate : KeyPackageValidator} (h : Numbered w) (c : VerifierCall) :
    Numbered (w.after (CapabilityAdmissionVerifier.call validate) c) := by
  obtain ⟨hids, hpos⟩ := h
  have heffect := w.state.call_effect validate c
  simp only [Numbered, World.after, issuedValues_append, List.map_append]
  generalize (w.state.call validate c).1 = v' at heffect ⊢
  generalize (w.state.call validate c).2 = reply at heffect ⊢
  cases heffect with
  | kept hreply => simpa [hreply] using ⟨hids, hpos⟩
  | removed hreply => simpa [hreply, removeReservation_eq] using ⟨hids, hpos⟩
  | admitted entry _ _ _ hid hvalue =>
    refine ⟨?_, Nat.le_succ_of_le hpos⟩
    have hcount : w.state.nextReservationId + 1 - 1 = w.state.nextReservationId - 1 + 1 := by
      omega
    rw [hcount, List.range'_concat]
    simp only [VerifierReply.issued?, Option.toList_some, List.map_cons, hvalue,
      PendingReplay.reservation]
    congr 2
    omega

/-- The reservation has an identifier of the past and no entry. -/
def Spent (v : CapabilityAdmissionVerifier) (r : ReplayReservation) : Prop :=
  r.reservationId < v.nextReservationId ∧ ∀ e ∈ v.pending, e.reservation ≠ r

namespace Spent

variable {c : VerifierCall}

theorem effect {reply : VerifierReply} (h : Spent v r) (heffect : VerifierEffect v c v' reply) :
    Spent v' r := by
  refine ⟨Nat.lt_of_lt_of_le h.1 heffect.nextReservationId_le, ?_⟩
  rintro e he rfl
  rcases heffect.enters he with hold | hnew
  · exact h.2 e hold rfl
  · have hpast : e.reservationId < v.nextReservationId := h.1
    omega

theorem position (h : Spent v r) : v.reservationPosition r = none := by
  rw [CapabilityAdmissionVerifier.reservationPosition, List.findIdx?_eq_none_iff]
  intro e he
  exact decide_eq_false fun hof => h.2 e he (PendingReplay.isOf_iff.mp hof)

/-- No call with a spent reservation changes the verifier. -/
theorem unchanged (h : Spent v r) (validate : KeyPackageValidator)
    (hpresented : c.reservation? = some r) : (v.call validate c).1 = v := by
  have heffect := v.call_effect validate c
  generalize (v.call validate c).1 = v' at heffect ⊢
  generalize (v.call validate c).2 = reply at heffect
  cases heffect with
  | kept => rfl
  | removed _ hpresented' =>
    cases hpresented.symm.trans hpresented'
    exact removeReservation_of_none h.position
  | admitted _ hcall =>
    subst hcall
    cases hpresented

/-- A spent reservation is neither released nor taken through the approval. -/
theorem refused (h : Spent v r) (validate : KeyPackageValidator) (hclaims : c.Claims)
    (hpresented : c.reservation? = some r) :
    (v.call validate c).2.refusal? = some .reservationMismatch := by
  have hposition := h.position
  have hremove : (v.removeReservation r).1 = .error .reservationMismatch := by
    rw [CapabilityAdmissionVerifier.removeReservation, hposition]
  cases c with
  | verifyAndReserve | dropPrepared | apply | applyAwaitingDurability => cases hclaims
  | release verified =>
    cases hpresented
    simp only [CapabilityAdmissionVerifier.call, CapabilityAdmissionVerifier.release, hremove,
      VerifierReply.refusal?]
  | reserveV2ForApproval registry invitation verified now =>
    cases hpresented
    simp only [CapabilityAdmissionVerifier.call,
      CapabilityAdmissionVerifier.reserveV2ForApproval, hposition, if_true,
      VerifierReply.refusal?]
  | decideV2 registry pending decision now =>
    cases hpresented
    simp only [CapabilityAdmissionVerifier.call, CapabilityAdmissionVerifier.decideV2, hposition,
      if_true, VerifierReply.refusal?]
  | prepareApprovedAdd registry approved prepared now =>
    cases hpresented
    simp only [CapabilityAdmissionVerifier.call,
      CapabilityAdmissionVerifier.prepareApprovedAdd, hposition, if_true,
      VerifierReply.refusal?]
  | releaseProvenUncommitted registry settlement =>
    cases hpresented
    simp only [CapabilityAdmissionVerifier.call,
      CapabilityAdmissionVerifier.releaseProvenUncommitted,
      CapabilityAdmissionVerifier.releaseBoth, hremove]
    cases (registry.release settlement.invitationReservation
      settlement.appliedAtUnixSeconds).1 <;> rfl

end Spent

/-! ## The guarantees -/

/-- What holds of the verifier in a world it has reached. -/
structure ReplaySafe (validate : KeyPackageValidator) (w : VerifierWorld) : Prop where
  /-- No two entries of a generation, expired or not, share a request identifier or a nonce. -/
  apart : w.state.pending.Pairwise fun a b => ¬a.Collides b
  bounded : w.state.pending.length ≤ w.state.policy.maximumPendingRequests
  /-- Every admitted request got an identifier of its own. -/
  numbered : ((issuedValues w.history).map fun value => value.reservation.reservationId).Nodup
  refused : ∀ opened now error,
    (w.state.verifyAndReserve validate opened now).1 = .error error →
      (w.state.verifyAndReserve validate opened now).2 = w.state
  removed : ∀ c, ∀ e ∈ w.state.pending, e ∉ (w.state.call validate c).1.pending →
    (∃ opened now, c = .verifyAndReserve opened now ∧ e.expiresAtUnixSeconds ≤ now) ∨
      c.reservation? = some e.reservation
  /-- A returned value without an entry is refused from now on, whatever else is admitted. -/
  spent : ∀ value ∈ issuedValues w.history,
    (∀ e ∈ w.state.pending, e.reservation ≠ value.reservation) →
      ∀ (calls : List VerifierCall) (c : VerifierCall),
        c.reservation? = some value.reservation →
          let later := (w.afterAll (CapabilityAdmissionVerifier.call validate) calls).state
          (later.call validate c).1 = later ∧
            (c.Claims → (later.call validate c).2.refusal? = some .reservationMismatch)

theorem Numbered.below (h : Numbered w) {value : VerifiedCapabilityAdmission}
    (hvalue : value ∈ issuedValues w.history) :
    value.reservation.reservationId < w.state.nextReservationId := by
  have hmem := List.mem_map_of_mem (f := fun value => value.reservation.reservationId) hvalue
  rw [h.1, List.mem_range'_1] at hmem
  omega

/-- Every world that a new verifier reaches is safe. -/
theorem replay_reservations_safe (validate : KeyPackageValidator)
    (policy : CapabilityAdmissionPolicy) (calls : List VerifierCall) :
    ReplaySafe validate (World.afterAll (CapabilityAdmissionVerifier.call validate)
      ⟨.new policy, []⟩ calls) := by
  have hrun : Leads (CapabilityAdmissionVerifier.call validate) (fun _ _ => True)
      ⟨.new policy, []⟩ (World.afterAll (CapabilityAdmissionVerifier.call validate)
        ⟨.new policy, []⟩ calls) :=
    leads_calls _ calls
  generalize World.afterAll (CapabilityAdmissionVerifier.call validate) ⟨.new policy, []⟩ calls = w
    at hrun
  have hseparated : Separated w.state := by
    refine hrun.invariant (I := fun w => Separated w.state) ?_ ⟨.nil, Nat.zero_le _⟩
    intro u c _ hu
    exact hu.effect (u.state.call_effect validate c)
  have hnumbered : Numbered w := by
    refine hrun.invariant (I := Numbered) ?_ ⟨rfl, Nat.le_refl 1⟩
    intro u c _ hu
    exact hu.after c
  constructor
  · exact hseparated.apart
  · exact hseparated.bounded
  · rw [hnumbered.1]
    exact List.nodup_range'
  · intro opened now error herror
    rcases verifyAndReserve_cases validate w.state opened now with ⟨error', h⟩ | ⟨validated, h⟩
    · rw [h]
    · rw [h] at herror
      cases herror
  · intro c e he hgone
    exact (w.state.call_effect validate c).leaves he hgone
  · intro value hvalue habsent later c hpresented
    have hspent : Spent (w.afterAll (CapabilityAdmissionVerifier.call validate) later).state
        value.reservation := by
      refine (leads_calls w later).invariant (I := fun u => Spent u.state value.reservation) ?_
        ⟨hnumbered.below hvalue, habsent⟩
      intro u d _ hu
      exact hu.effect (u.state.call_effect validate d)
    exact ⟨hspent.unchanged validate hpresented,
      fun hclaims => hspent.refused validate hclaims hpresented⟩

end SessionChat.Admission
