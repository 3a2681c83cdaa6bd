import SessionChat.Storage.Coherence

/-!
# What the shared statements do (`crates/storage-sqlcipher/src/authorization.rs`)

One lemma for each building block of the transaction bodies: from the fact that it
ended, the row it selected and the tables it left. Bodies are taken apart with
these lemmas and never unfolded further.
-/

set_option autoImplicit false

namespace SessionChat.Storage

open Relational

variable {policy : AuthorizationPolicy} {db db' : Db}

/-! ## Reading -/

theorem storeIdOn_ok {storeId : Id16} (h : storeIdOn.run db = .ok (storeId, db')) :
    db = db' ∧ ∃ row, db.tables.metadata.head? = some row ∧ row.storeId = storeId ∧
      storeId ≠ 0 := by
  simp only [storeIdOn, run_bind_eq_ok, run_require_eq_ok, run_refuse_eq_ok] at h
  obtain ⟨_, _, ⟨rfl, rfl⟩, row, _, ⟨hrow, rfl⟩, _, _, ⟨hne, rfl⟩, rfl, rfl⟩ := h
  exact ⟨rfl, row, hrow, rfl, hne⟩

variable {handle : AuthorizationHandle} {expected : AuthorizationState} {u : Unit} {now n : Nat}
  {gen : Generation}

theorem validateAuthorizationHandle_ok
    (h : (validateAuthorizationHandle handle expected).run db = .ok (u, db')) :
    db = db' ∧ ∃ a ∈ db.tables.attempts, ∃ o ∈ db.tables.openings, o.Owns a ∧
      a.attemptId = handle.attemptId ∧ a.invitationId = handle.invitationId ∧
      a.generation = handle.invitationGeneration ∧ a.state = expected ∧ o.state = .reserved := by
  simp only [validateAuthorizationHandle, run_bind_eq_ok,
    run_refuse_eq_ok] at h
  obtain ⟨storeId, db₁, hstore, _, _, ⟨_, rfl⟩, _, _, ⟨rfl, rfl⟩, hexact, rfl⟩ := h
  obtain ⟨rfl, -⟩ := storeIdOn_ok hstore
  exact ⟨rfl, not_not.mp hexact⟩

theorem authorizationIsExpired_ok {expired : Bool}
    (h : (authorizationIsExpired handle now).run db = .ok (expired, db')) : db = db' := by
  simp only [authorizationIsExpired, run_bind_eq_ok, run_require_eq_ok] at h
  obtain ⟨_, _, ⟨rfl, rfl⟩, _, _, ⟨_, rfl⟩, _, rfl⟩ := h
  rfl

/-! ## Statements on one opening -/

variable {id : Id16}

theorem opening_clash {a b : OpeningRow} (ha : a.invitationId = id) (hb : b.invitationId = id) :
    openingConstraints.clash a b = true := by
  simp [openingConstraints, ha, hb]

theorem terminalizeOpeningContext_ok {invitationId : Id16}
    (h : (terminalizeOpeningContext invitationId).run db = .ok (u, db')) :
    ∃ o ∈ db.tables.openings, o.invitationId = invitationId ∧ o.state = .available ∧ db'.tables =
        { db.tables with openings := replaceRow o (o.erased .unusable) db.tables.openings } := by
  simp only [terminalizeOpeningContext, run_bind_eq_ok, run_updateWhere_eq_ok,
    run_refuse_eq_ok, not_not] at h
  obtain ⟨_, db₁, ⟨rfl, htables⟩, hone, rfl⟩ := h
  obtain ⟨o, ho, hsel, hreplace⟩ := db.isValid.openings.exists_replace
    (fun a b ha hb => opening_clash (decide_eq_true_iff.mp ha).1 (decide_eq_true_iff.mp hb).1)
    hone (OpeningRow.erased .unusable)
  obtain ⟨hid, hstate⟩ := decide_eq_true_iff.mp hsel
  exact ⟨o, ho, hid, hstate, htables.trans (by simp only [openings] at hreplace ⊢; rw [hreplace])⟩

/-- An `UPDATE` of the opening at an exact key and state that reports one row. -/
theorem updateOpening_ok {s : InvitationOpeningState} {f : OpeningRow → OpeningRow}
    (h : (updateWhere openings (OpeningRow.isAt id gen s) f : StoreTx Nat).run db = .ok (n, db'))
    (hone : n = 1) :
    ∃ o ∈ db.tables.openings, o.invitationId = id ∧ o.generation = gen ∧ o.state = s ∧
      db'.tables = { db.tables with openings := replaceRow o (f o) db.tables.openings } := by
  rw [run_updateWhere_eq_ok] at h
  obtain ⟨rfl, htables⟩ := h
  obtain ⟨o, ho, hsel, hreplace⟩ := db.isValid.openings.exists_replace
    (fun a b ha hb => opening_clash (decide_eq_true_iff.mp ha).1 (decide_eq_true_iff.mp hb).1)
    hone f
  obtain ⟨hid, hgen, hstate⟩ := decide_eq_true_iff.mp hsel
  exact ⟨o, ho, hid, hgen, hstate,
    htables.trans (by simp only [openings] at hreplace ⊢; rw [hreplace])⟩

theorem releaseOpeningContext_ok {protector : InvitationJoinProtector}
    (h : (releaseOpeningContext protector id gen now).run db = .ok (u, db')) :
    ∃ o ∈ db.tables.openings, o.invitationId = id ∧ o.generation = gen ∧ o.state = .reserved ∧
      db'.tables =
        { db.tables with
          openings := replaceRow o
            (if o.usable protector now then o.withState .available else o.erased .unusable)
            db.tables.openings } := by
  simp only [releaseOpeningContext, run_bind_eq_ok, run_require_eq_ok,
    run_refuse_eq_ok, not_not] at h
  obtain ⟨_, _, ⟨rfl, rfl⟩, opening, _, ⟨hfound, rfl⟩, _, _, ⟨_, rfl⟩, n, db₁, hupdate, hone,
    rfl⟩ := h
  obtain ⟨o, ho, hid, hgen, hstate, htables⟩ := updateOpening_ok hupdate hone
  have hsame : opening = o := by
    have hsel := List.find?_some hfound
    refine db.isValid.opening_eq (List.mem_of_find?_eq_some hfound) ho ?_
    exact (decide_eq_true_iff.mp hsel).1.trans hid.symm
  subst hsame
  refine ⟨opening, ho, hid, hgen, hstate, htables.trans ?_⟩
  split <;> rfl

/-! ## Statements on one attempt -/

theorem attempt_clash {a b : AttemptRow} (ha : a.attemptId = id) (hb : b.attemptId = id) :
    attemptConstraints.clash a b = true := by
  simp [attemptConstraints, ha, hb]

/-- An `UPDATE` of one attempt by its identifier that reports one row. -/
theorem updateAttempt_ok {p : AttemptRow → Bool} {f : AttemptRow → AttemptRow}
    (hkey : ∀ a, p a = true → a.attemptId = id)
    (h : (updateWhere attempts p f : StoreTx Nat).run db = .ok (n, db')) (hone : n = 1) :
    ∃ a ∈ db.tables.attempts, p a = true ∧
      db'.tables = { db.tables with attempts := replaceRow a (f a) db.tables.attempts } := by
  rw [run_updateWhere_eq_ok] at h
  obtain ⟨rfl, htables⟩ := h
  obtain ⟨a, ha, hsel, hreplace⟩ := db.isValid.attempts.exists_replace
    (fun a b ha hb => attempt_clash (hkey a ha) (hkey b hb)) hone f
  exact ⟨a, ha, hsel, htables.trans (by simp only [attempts] at hreplace ⊢; rw [hreplace])⟩

theorem moveAttempt_ok {next : AuthorizationState}
    (h : (moveAttempt id expected next).run db = .ok (u, db')) :
    ∃ a ∈ db.tables.attempts, a.attemptId = id ∧ a.state = expected ∧ db'.tables =
        { db.tables with attempts := replaceRow a (a.withState next) db.tables.attempts } := by
  simp only [moveAttempt, run_bind_eq_ok, run_refuse_eq_ok, not_not] at h
  obtain ⟨n, db₁, hupdate, hone, rfl⟩ := h
  obtain ⟨a, ha, hsel, htables⟩ := updateAttempt_ok
    (fun a ha => (decide_eq_true_iff.mp ha).1) hupdate hone
  obtain ⟨hid, hstate⟩ := decide_eq_true_iff.mp hsel
  exact ⟨a, ha, hid, hstate, htables⟩

end SessionChat.Storage
