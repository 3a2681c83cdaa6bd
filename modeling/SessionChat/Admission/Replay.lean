import Mathlib.Data.List.Nodup
import SessionChat.Admission.Verifier

/-!
# Replay entries and their owners (`crates/admission-capability/src/lib.rs`)

`Tracked` relates the entries of the verifier to the requests that own them: every entry has an
owner, owners have different reservation identifiers, and only the entry of an expired request is
missing.
-/

set_option autoImplicit false

namespace SessionChat.Admission

variable {v : CapabilityAdmissionVerifier} {owners owners' : List PendingReplay}
  {o entry : PendingReplay} {clock now : Nat}

/-- The owners of the entries, each given as the entry it should have. -/
structure Tracked (v : CapabilityAdmissionVerifier) (owners : List PendingReplay) (clock : Nat) :
    Prop where
  below : ∀ o ∈ owners, o.reservationId < v.nextReservationId
  distinct : (owners.map PendingReplay.reservationId).Nodup
  single : v.pending.Nodup
  owned : ∀ entry ∈ v.pending, entry ∈ owners
  kept : ∀ o ∈ owners, o ∈ v.pending ∨ o.expiresAtUnixSeconds ≤ clock

@[simp] theorem PendingReplay.isOf_reservation : entry.IsOf entry.reservation :=
  ⟨rfl, rfl, rfl, rfl⟩

namespace Tracked

section

variable (h : Tracked v owners clock)
include h

theorem perm (hperm : owners.Perm owners') : Tracked v owners' clock where
  below o ho := h.below o (hperm.mem_iff.mpr ho)
  distinct := (hperm.map _).nodup_iff.mp h.distinct
  single := h.single
  owned entry hentry := hperm.mem_iff.mp (h.owned entry hentry)
  kept o ho := h.kept o (hperm.mem_iff.mpr ho)

theorem later (hle : clock ≤ now) : Tracked v owners now where
  below := h.below
  distinct := h.distinct
  single := h.single
  owned := h.owned
  kept o ho := (h.kept o ho).imp_right fun hexpired => hexpired.trans hle

/-- The entry with an owner's reservation is the owner's. -/
theorem eq_of_isOf (ho : o ∈ owners) (hentry : entry ∈ v.pending) (hof : entry.IsOf o.reservation) :
    entry = o :=
  List.inj_on_of_nodup_map h.distinct (h.owned entry hentry) ho hof.1

/-- A new request gets the next identifier. -/
theorem enroll (hle : clock ≤ now) (entry : PendingReplay)
    (hid : entry.reservationId = v.nextReservationId) :
    Tracked ⟨v.policy, v.live now ++ [entry], v.nextReservationId + 1⟩ (entry :: owners) now := by
  have hfresh : entry ∉ owners := by
    intro hmem
    have hbelow := h.below entry hmem
    omega
  constructor
  · intro o ho
    rcases List.mem_cons.mp ho with rfl | ho
    · simp [hid]
    · exact Nat.lt_succ_of_lt (h.below o ho)
  · refine List.nodup_cons.mpr ⟨?_, h.distinct⟩
    intro hmem
    obtain ⟨o, ho, hsame⟩ := List.mem_map.mp hmem
    have hbelow := h.below o ho
    omega
  · refine List.nodup_append.mpr ⟨h.single.filter _, List.nodup_singleton entry, ?_⟩
    rintro a ha b hb rfl
    rw [List.mem_singleton] at hb
    exact hfresh (hb ▸ h.owned a (List.mem_of_mem_filter ha))
  · intro e he
    rcases List.mem_append.mp he with he | he
    · exact List.mem_cons_of_mem _ (h.owned e (List.mem_of_mem_filter he))
    · exact List.mem_singleton.mp he ▸ List.mem_cons_self
  · intro o ho
    rcases List.mem_cons.mp ho with rfl | ho
    · exact .inl (by simp)
    · rcases h.kept o ho with hentry | hexpired
      · rcases Nat.lt_or_ge now o.expiresAtUnixSeconds with hlive | hexpired
        · exact .inl (List.mem_append_left _ (List.mem_filter.mpr ⟨hentry, decide_eq_true hlive⟩))
        · exact .inr hexpired
      · exact .inr (hexpired.trans hle)

end

/-! ## Giving a reservation up -/

/-- The position is found exactly while the owner has its entry. -/
theorem position_eq_none (h : Tracked v owners clock) (ho : o ∈ owners) :
    v.reservationPosition o.reservation = none ↔ o ∉ v.pending := by
  rw [CapabilityAdmissionVerifier.reservationPosition, List.findIdx?_eq_none_iff]
  constructor
  · intro hnone hentry
    simpa using hnone o hentry
  · intro hnot e he
    refine decide_eq_false fun hof => hnot ?_
    exact h.eq_of_isOf ho he hof ▸ he

/-- Removing the first element with a property that one element has removes that one. -/
theorem eraseP_eq_erase {α : Type} [DecidableEq α] {p : α → Bool} {a : α} {l : List α}
    (h : ∀ b ∈ l, p b = true ↔ b = a) : l.eraseP p = l.erase a := by
  induction l with
  | nil => rfl
  | cons b l ih =>
    have htail := ih fun c hc => h c (List.mem_cons_of_mem _ hc)
    by_cases hb : b = a
    · rw [List.eraseP_cons_of_pos ((h b List.mem_cons_self).mpr hb), hb, List.erase_cons_head]
    · have hp : ¬p b = true := fun hp => hb ((h b List.mem_cons_self).mp hp)
      rw [List.eraseP_cons_of_neg hp, htail, List.erase_cons_tail (by simpa using hb)]

theorem pending_remove (h : Tracked v owners clock) (ho : o ∈ owners) :
    (v.removeReservation o.reservation).2.pending = v.pending.erase o ∧
      (v.removeReservation o.reservation).2.nextReservationId = v.nextReservationId := by
  unfold CapabilityAdmissionVerifier.removeReservation
  have hposition := h.position_eq_none ho
  split
  · next hnone =>
      exact ⟨(List.erase_of_not_mem (hposition.mp hnone)).symm, rfl⟩
  · next i hsome =>
      refine ⟨?_, rfl⟩
      have hmine : ∀ e ∈ v.pending, decide (e.IsOf o.reservation) = true ↔ e = o := by
        intro e he
        refine ⟨fun hof => h.eq_of_isOf ho he (of_decide_eq_true hof), ?_⟩
        rintro rfl
        exact decide_eq_true PendingReplay.isOf_reservation
      rw [← eraseP_eq_erase hmine, List.eraseP_eq_eraseIdx]
      rw [CapabilityAdmissionVerifier.reservationPosition] at hsome
      rw [hsome]

theorem remove (h : Tracked v (o :: owners) clock) :
    Tracked (v.removeReservation o.reservation).2 owners clock := by
  obtain ⟨hpending, hnext⟩ := h.pending_remove List.mem_cons_self
  have hdistinct := List.nodup_cons.mp h.distinct
  constructor
  · intro o' ho'
    rw [hnext]
    exact h.below o' (List.mem_cons_of_mem _ ho')
  · exact hdistinct.2
  · rw [hpending]
    exact h.single.erase _
  · intro e he
    rw [hpending, h.single.mem_erase_iff] at he
    exact (List.mem_cons.mp (h.owned e he.2)).resolve_left he.1
  · intro o' ho'
    refine (h.kept o' (List.mem_cons_of_mem _ ho')).imp_left fun hentry => ?_
    rw [hpending, h.single.mem_erase_iff]
    refine ⟨?_, hentry⟩
    rintro rfl
    exact hdistinct.1 (List.mem_map_of_mem ho')

theorem remove_ok (h : Tracked v owners clock) (ho : o ∈ owners) (hentry : o ∈ v.pending) :
    (v.removeReservation o.reservation).1 = .ok () := by
  unfold CapabilityAdmissionVerifier.removeReservation
  split
  · next hnone => exact absurd hentry ((h.position_eq_none ho).mp hnone)
  · rfl

end Tracked

/-! ## The verifier's own steps -/

/-- A request is refused, or gets an entry with the next identifier. -/
theorem verifyAndReserve_cases (validate : KeyPackageValidator) (v : CapabilityAdmissionVerifier)
    (opened : OpenedCapabilityJoinRequest) (now : Nat) :
    (∃ e, v.verifyAndReserve validate opened now = (.error e, v)) ∨
      ∃ validated, v.verifyAndReserve validate opened now = (.ok ⟨opened, validated,
          (CapabilityAdmissionVerifier.entryOf opened.request v.nextReservationId).reservation⟩,
        ⟨v.policy, v.live now ++ [CapabilityAdmissionVerifier.entryOf opened.request
          v.nextReservationId], v.nextReservationId + 1⟩) := by
  unfold CapabilityAdmissionVerifier.verifyAndReserve
  split
  · exact .inl ⟨_, rfl⟩
  · split
    · exact .inl ⟨_, rfl⟩
    · next validated _ =>
        split
        · exact .inl ⟨_, rfl⟩
        · split
          · exact .inl ⟨_, rfl⟩
          · split
            · exact .inl ⟨_, rfl⟩
            · split
              · exact .inl ⟨_, rfl⟩
              · exact .inr ⟨validated, rfl⟩

/-- A refusal removes the reservation and returns an error. -/
theorem refuse_eq {α : Type} (v : CapabilityAdmissionVerifier) (reservation : ReplayReservation) :
    ∃ e, (v.refuse reservation : Except CapabilityAdmissionError α × _) =
      (.error e, (v.removeReservation reservation).2) := by
  unfold CapabilityAdmissionVerifier.refuse
  split
  · next e v' h => exact ⟨e, by rw [h]⟩
  · next v' h => exact ⟨_, by rw [h]⟩

theorem removeReservation_of_none {reservation : ReplayReservation}
    (h : v.reservationPosition reservation = none) : (v.removeReservation reservation).2 = v := by
  rw [CapabilityAdmissionVerifier.removeReservation, h]

end SessionChat.Admission
