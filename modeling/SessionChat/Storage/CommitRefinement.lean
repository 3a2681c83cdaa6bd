import SessionChat.Storage.Refinement

/-!
# The commit and the outbox refine chains of effects

Source: `crates/storage-sqlcipher/src/transactions.rs`, `outbox.rs`.

A commit of `commit_inviter` writes the provider's snapshot and then consumes the
invitation: through its attempt when it was staged under an authorization, through
its legacy reservation otherwise. Outbox statements change delivery columns only.
-/

set_option autoImplicit false

namespace SessionChat.Storage

open Relational Protocol Codec

variable {policy : AuthorizationPolicy} {db db' : Db} {N : Admission}

/-! ## The snapshot -/

def insertedEpochs (groupId : Bytes) (inserts : List EpochRecord) (rows : List MlsEpochRow) :
    List MlsEpochRow :=
  rows ++ inserts.map fun e => ⟨groupId, e.id, e.data⟩

/-- The epochs after the updates of one write, in their order. -/
def updatedEpochs (groupId : Bytes) (updates : List EpochRecord) (rows : List MlsEpochRow) :
    List MlsEpochRow :=
  updates.foldl
    (fun rows e => rows.map
      (patch (MlsEpochRow.isAt groupId e.id) fun row => { row with data := e.data })) rows

/-- The tables with the snapshot of one write in them. -/
def Tables.withSnapshot (state : GroupState) (inserts updates : List EpochRecord) (t : Tables) :
    Tables :=
  { t with
    mlsGroups := upsertGroup state t.mlsGroups
    mlsEpochs := updatedEpochs state.id updates (insertedEpochs state.id inserts t.mlsEpochs) }

variable {groupId : Bytes} {observer : Option FaultObserver} {scenario : Scenario}
  {occurrence now : Nat} {inserts updates : List EpochRecord} {u : Unit} {state : GroupState}
  {staged : StagedInviter} {commit : InviterJoinTransaction} {reply : Except StoreError Unit}
  {lease : SqlCipherWelcomeLease}

theorem insertEpochs_ok
    (h : (insertEpochs groupId observer scenario occurrence inserts).run db = .ok (u, db')) :
    db'.tables =
      { db.tables with mlsEpochs := insertedEpochs groupId inserts db.tables.mlsEpochs } := by
  induction inserts generalizing db occurrence with
  | nil =>
    obtain ⟨-, rfl⟩ := run_pure_eq_ok.mp h
    simp [insertedEpochs]
  | cons e rest ih =>
    simp only [insertEpochs, emitFaultCheckpoint, run_bind_eq_ok, run_insertInto_eq_ok,
      run_refuse_eq_ok] at h
    obtain ⟨_, db₁, hinsert, _, _, ⟨-, rfl⟩, _, _, ⟨-, rfl⟩, hrest⟩ := h
    rw [ih hrest, hinsert]
    simp [insertedEpochs, mlsEpochs]

theorem updateEpochs_ok
    (h : (updateEpochs groupId observer scenario occurrence updates).run db = .ok (u, db')) :
    db'.tables =
      { db.tables with mlsEpochs := updatedEpochs groupId updates db.tables.mlsEpochs } := by
  induction updates generalizing db occurrence with
  | nil =>
    obtain ⟨-, rfl⟩ := run_pure_eq_ok.mp h
    simp [updatedEpochs]
  | cons e rest ih =>
    simp only [updateEpochs, emitFaultCheckpoint, run_bind_eq_ok, run_updateWhere_eq_ok,
      run_refuse_eq_ok] at h
    obtain ⟨_, db₁, ⟨-, hupdate⟩, _, _, ⟨-, rfl⟩, _, _, ⟨-, rfl⟩, _, _, ⟨-, rfl⟩, hrest⟩ := h
    rw [ih hrest, hupdate]
    simp [updatedEpochs, mlsEpochs]

theorem persistMls_ok
    (h : (persistMls state inserts updates observer scenario).run db = .ok (u, db')) :
    db'.tables = db.tables.withSnapshot state inserts updates := by
  simp only [persistMls, emitFaultCheckpoint, run_bind_eq_ok, run_execute_eq_ok,
    run_refuse_eq_ok] at h
  obtain ⟨_, db₁, hgroup, _, _, ⟨-, rfl⟩, _, db₂, hinserts, hupdates⟩ := h
  rw [updateEpochs_ok hupdates, insertEpochs_ok hinserts, hgroup]
  rfl

/-- MLS state, KeyPackages and joiner commits are the provider's. -/
theorem provider_effect {groups : List MlsGroupRow} {epochs : List MlsEpochRow}
    {packages : List KeyPackageRow} {joiners : List JoinerCommitRow}
    (h : db'.tables = { db.tables with
      mlsGroups := groups, mlsEpochs := epochs, keyPackages := packages,
      joinerCommits := joiners }) :
    Effect policy N db db' := by
  refine .provider (fun r hr => ?_) ?_
  · rw [h] at hr
    exact .inl hr
  · rw [h]

/-! ## The commit -/

/-- Filling in the Welcome changes nothing else. -/
theorem boundTransaction_ok (h : boundTransaction staged state inserts updates = .ok commit) :
    commit = { staged.transaction with welcome := commit.welcome, boundWelcome := none } := by
  unfold boundTransaction at h
  split at h
  · split at h
    · cases h
    · split at h
      · cases h
      · split at h
        · cases h
        · cases h
          rfl
  · split at h
    · cases h
    · next hnone =>
        cases h
        cases hstaged : staged.transaction with
        | mk => simp_all

theorem boundTransaction_transactionId
    (h : boundTransaction staged state inserts updates = .ok commit) :
    commit.transactionId = staged.transaction.transactionId := by
  rw [boundTransaction_ok h]

theorem InviterJoinTransaction.joinRow_unsent (commit : InviterJoinTransaction) :
    commit.joinRow.Unsent :=
  ⟨rfl, rfl, rfl, rfl⟩

/-- The consumed reservation of an authorized commit. -/
def InviterJoinTransaction.consumedRow (commit : InviterJoinTransaction) (expiresAt : Nat) :
    ReservationRow where
  invitationId := commit.invitationId
  generation := commit.invitationGeneration
  joinRequestId := commit.joinRequestId
  expiresAt := expiresAt
  state := .consumed

/-- An authorized commit: the snapshot takes `db` to `db₁`, and everything the
invitation owns moves in one step. -/
structure AuthorizedCommit (auth : MembershipAuthorization) (commit : InviterJoinTransaction)
    (state : GroupState) (inserts updates : List EpochRecord) (a : AttemptRow) (o : OpeningRow)
    (db db₁ db' : Db) : Prop where
  attempt_mem : a ∈ db.tables.attempts
  opening_mem : o ∈ db.tables.openings
  owns : o.Owns a
  attemptId : a.attemptId = auth.attemptId
  transactionId : a.transactionId = some auth.transactionId
  invitationId : a.invitationId = commit.invitationId
  generation : a.generation = commit.invitationGeneration
  joinRequestId : a.joinRequestId = commit.joinRequestId
  requestFingerprint : a.requestFingerprint = commit.requestFingerprint
  unknown : a.state = .membershipOutcomeUnknown
  snapshot : db₁.tables = db.tables.withSnapshot state inserts updates
  tables : db'.tables =
    { db₁.tables with
      reservations := db₁.tables.reservations ++ [commit.consumedRow a.invitationExpiresAt]
      attempts := replaceRow a (a.withState .committed) db₁.tables.attempts
      openings := replaceRow o (o.erased .consumed) db₁.tables.openings
      inviterJoins := db₁.tables.inviterJoins ++ [commit.joinRow] }

/-- A legacy commit of a reservation that no durable opening owns. -/
structure LegacyCommit (commit : InviterJoinTransaction) (state : GroupState)
    (inserts updates : List EpochRecord) (r : ReservationRow) (db db₁ db' : Db) : Prop where
  free : ∀ o ∈ db.tables.openings,
    ¬(o.invitationId = commit.invitationId ∧ o.generation = commit.invitationGeneration)
  mem : r ∈ db.tables.reservations
  awaits : r.awaits commit = true
  snapshot : db₁.tables = db.tables.withSnapshot state inserts updates
  tables : db'.tables =
    { db₁.tables with
      reservations := replaceRow r { r with state := InvitationState.consumed }
        db₁.tables.reservations
      inviterJoins := db₁.tables.inviterJoins ++ [commit.joinRow] }

section Commit

variable {staged : StagedInviter} {commit : InviterJoinTransaction} {state : GroupState}
  {inserts updates : List EpochRecord} {observer : Option FaultObserver}
  {auth : MembershipAuthorization} {now : Nat} {u : Unit} {a : AttemptRow} {o : OpeningRow}
  {db₁ : Db}

theorem checkAuthority_authorized (hauth : staged.authorization = some auth)
    (h : (checkAuthority staged commit now).run db = .ok (u, db')) :
    db = db' ∧ ∃ addition, staged.addition = some addition ∧
      authorizationMatchesInviter db.tables auth addition commit .membershipOutcomeUnknown now := by
  unfold checkAuthority at h
  simp only [hauth] at h
  split at h
  · simp [run_raise_eq_ok] at h
  · next addition haddition =>
      simp only [run_bind_eq_ok, run_refuse_eq_ok, not_or, not_not] at h
      obtain ⟨storeId, _, hstore, _, _, ⟨rfl, rfl⟩, ⟨-, hmatch⟩, rfl⟩ := h
      obtain ⟨rfl, -⟩ := storeIdOn_ok hstore
      exact ⟨rfl, addition, haddition, hmatch⟩

theorem checkAuthority_legacy (hauth : staged.authorization = none)
    (h : (checkAuthority staged commit now).run db = .ok (u, db')) :
    db = db' ∧ ∀ o ∈ db.tables.openings,
      ¬(o.invitationId = commit.invitationId ∧ o.generation = commit.invitationGeneration) := by
  unfold checkAuthority at h
  simp only [hauth, run_bind_eq_ok, run_refuse_eq_ok] at h
  obtain ⟨_, _, ⟨rfl, rfl⟩, hfree, rfl⟩ := h
  exact ⟨rfl, fun o ho hkey => hfree ⟨o, ho, hkey⟩⟩

theorem insertConsumedReservation_authorized (hauth : staged.authorization = some auth)
    (h : (insertConsumedReservation staged commit).run db = .ok (u, db')) :
    ∃ a ∈ db.tables.attempts, a.awaits auth.attemptId auth.transactionId = true ∧ db'.tables =
        { db.tables with
          reservations := db.tables.reservations ++
            [commit.consumedRow a.invitationExpiresAt] } := by
  unfold insertConsumedReservation at h
  simp only [hauth, run_bind_eq_ok, run_require_eq_ok,
    run_insertInto_eq_ok] at h
  obtain ⟨_, _, ⟨rfl, rfl⟩, a, _, ⟨hfound, rfl⟩, hinsert⟩ := h
  exact ⟨a, List.mem_of_find?_eq_some hfound, List.find?_some hfound, hinsert⟩

theorem consumeInvitation_authorized (hauth : staged.authorization = some auth)
    (h : (consumeInvitation staged commit).run db = .ok (u, db')) :
    ∃ a ∈ db.tables.attempts, a.awaits auth.attemptId auth.transactionId = true ∧
      ∃ o ∈ db.tables.openings, o.invitationId = commit.invitationId ∧
        o.generation = commit.invitationGeneration ∧ db'.tables =
          { db.tables with
            attempts := replaceRow a (a.withState .committed) db.tables.attempts
            openings := replaceRow o (o.erased .consumed) db.tables.openings } := by
  unfold consumeInvitation at h
  simp only [hauth, run_bind_eq_ok, run_refuse_eq_ok, not_not] at h
  obtain ⟨n, db₁, hattempt, _, _, ⟨hone, rfl⟩, m, db₂, hopening, hone', rfl⟩ := h
  obtain ⟨a, ha, hawaits, hmoved⟩ := updateAttempt_ok
    (fun a ha => (of_decide_eq_true ha).1) hattempt hone
  obtain ⟨o, ho, hoid, hogen, -, hconsumed⟩ := updateOpening_ok hopening hone'
  rw [hmoved] at ho hconsumed
  exact ⟨a, ha, hawaits, o, ho, hoid, hogen, hconsumed⟩

theorem consumeInvitation_legacy (hauth : staged.authorization = none)
    (h : (consumeInvitation staged commit).run db = .ok (u, db')) :
    ∃ r ∈ db.tables.reservations, r.awaits commit = true ∧ db'.tables =
        { db.tables with
          reservations := replaceRow r { r with state := InvitationState.consumed }
            db.tables.reservations } := by
  unfold consumeInvitation at h
  simp only [hauth, run_bind_eq_ok, run_updateWhere_eq_ok, run_refuse_eq_ok, not_not] at h
  obtain ⟨n, db₁, ⟨rfl, htables⟩, hone, rfl⟩ := h
  have hclash : ∀ r s : ReservationRow, r.awaits commit = true → s.awaits commit = true →
      reservationConstraints.clash r s = true := by
    intro r s hr hs
    have hrid := (of_decide_eq_true hr).1
    have hsid := (of_decide_eq_true hs).1
    simp [reservationConstraints, hrid, hsid]
  obtain ⟨r, hr, hawaits, hreplace⟩ := db.isValid.reservations.exists_replace hclash hone
    fun r => { r with state := InvitationState.consumed }
  refine ⟨r, hr, hawaits, htables.trans ?_⟩
  simp only [reservations] at hreplace ⊢
  rw [hreplace]

/-- The writes of a commit that was staged under an authorization. -/
theorem commitWrites_authorized (hauth : staged.authorization = some auth)
    (ha : a ∈ db.tables.attempts) (ho : o ∈ db.tables.openings) (hid : a.attemptId = auth.attemptId)
    (hoid : o.invitationId = commit.invitationId)
    (h : (commitWrites staged commit state inserts updates observer).run db = .ok (u, db')) :
    ∃ db₁ : Db, db₁.tables = db.tables.withSnapshot state inserts updates ∧ db'.tables =
        { db₁.tables with
          reservations := db₁.tables.reservations ++ [commit.consumedRow a.invitationExpiresAt]
          attempts := replaceRow a (a.withState .committed) db₁.tables.attempts
          openings := replaceRow o (o.erased .consumed) db₁.tables.openings
          inviterJoins := db₁.tables.inviterJoins ++ [commit.joinRow] } := by
  simp only [commitWrites, emitFaultCheckpoint, run_bind_eq_ok, run_insertInto_eq_ok,
    run_refuse_eq_ok] at h
  obtain ⟨_, db₁, hmls, _, db₂, hreservation, _, db₃, hjoin, _, _, ⟨-, rfl⟩, _, db₄, hconsume,
    _, _, ⟨-, rfl⟩, _, _, ⟨-, rfl⟩, -, rfl⟩ := h
  have hsnapshot := persistMls_ok hmls
  obtain ⟨b, hb, hbawaits, hreserved⟩ := insertConsumedReservation_authorized hauth hreservation
  obtain ⟨c, hc, hcawaits, p, hp, hpid, -, hconsumed⟩ :=
    consumeInvitation_authorized hauth hconsume
  -- the three statements select the attempt and the opening that were matched
  rw [hjoin, hreserved] at hc hp
  have hsame : ∀ x ∈ db₁.tables.attempts,
      x.awaits auth.attemptId auth.transactionId = true → x = a := by
    intro x hx hxawaits
    rw [hsnapshot] at hx
    exact db.isValid.attempt_eq hx ha ((of_decide_eq_true hxawaits).1.trans hid.symm)
  obtain rfl := hsame b hb hbawaits
  obtain rfl := hsame c hc hcawaits
  have hpo : p = o := by
    rw [hsnapshot] at hp
    exact db.isValid.opening_eq hp ho (hpid.trans hoid.symm)
  subst hpo
  refine ⟨db₁, hsnapshot, ?_⟩
  rw [hconsumed, hjoin, hreserved]
  rfl

theorem commitWrites_legacy (hauth : staged.authorization = none)
    (h : (commitWrites staged commit state inserts updates observer).run db = .ok (u, db')) :
    ∃ r ∈ db.tables.reservations, r.awaits commit = true ∧
      ∃ db₁ : Db, db₁.tables = db.tables.withSnapshot state inserts updates ∧ db'.tables =
          { db₁.tables with
            reservations := replaceRow r { r with state := InvitationState.consumed }
              db₁.tables.reservations
            inviterJoins := db₁.tables.inviterJoins ++ [commit.joinRow] } := by
  simp only [commitWrites, insertConsumedReservation, hauth, emitFaultCheckpoint, run_bind_eq_ok,
    run_insertInto_eq_ok, run_refuse_eq_ok] at h
  obtain ⟨_, db₁, hmls, _, _, ⟨-, rfl⟩, _, db₃, hjoin, _, _, ⟨-, rfl⟩, _, db₄, hconsume,
    _, _, ⟨-, rfl⟩, _, _, ⟨-, rfl⟩, -, rfl⟩ := h
  have hsnapshot := persistMls_ok hmls
  obtain ⟨r, hr, hawaits, hconsumed⟩ := consumeInvitation_legacy hauth hconsume
  rw [hjoin] at hr hconsumed
  refine ⟨r, ?_, hawaits, db₁, hsnapshot, hconsumed⟩
  have hr' : r ∈ db₁.tables.reservations := hr
  rw [hsnapshot] at hr'
  exact hr'

/-- A commit that ends found its exact result already there, or wrote everything. -/
theorem commitInviterTx_ok {elapsed : Nat} {reply : Except StoreError Unit}
    (hrun : (commitInviterTx staged commit state inserts updates elapsed observer).run db =
      .ok (reply, db')) : (∃ j ∈ db.tables.inviterJoins, j.transactionId = commit.transactionId ∧
        exactResult db.tables commit state ∧ reply = .ok () ∧ db = db' ∧
        ∀ auth, staged.authorization = some auth → ∃ addition now,
          authorizationMatchesInviter db.tables auth addition commit .membershipOutcomeUnknown
            now) ∨ (reply = commitReply staged observer ∧
        ((∃ auth a o db₁, staged.authorization = some auth ∧
            AuthorizedCommit auth commit state inserts updates a o db db₁ db') ∨
          ∃ r db₁, staged.authorization = none ∧
            LegacyCommit commit state inserts updates r db db₁ db')) := by
  simp only [commitInviterTx, run_bind_eq_ok, run_require_eq_ok, run_refuse_eq_ok] at hrun
  obtain ⟨now, _, ⟨-, rfl⟩, _, _, ⟨-, rfl⟩, _, _, ⟨-, rfl⟩, _, db₁, hcheck, _, _, ⟨rfl, rfl⟩,
    hrun⟩ := hrun
  have hsame : db = db₁ := by
    cases hauth : staged.authorization with
    | none => exact (checkAuthority_legacy hauth hcheck).1
    | some auth => exact (checkAuthority_authorized hauth hcheck).1
  subst hsame
  split at hrun
  · next hexisting =>
      obtain ⟨j, hj, htx⟩ := hexisting
      simp only [run_bind_eq_ok, run_refuse_eq_ok, not_not] at hrun
      obtain ⟨_, _, ⟨hexact, rfl⟩, rfl, rfl⟩ := hrun
      refine .inl ⟨j, hj, htx, hexact, rfl, rfl, ?_⟩
      intro auth hauth
      obtain ⟨-, addition, -, hmatch⟩ := checkAuthority_authorized hauth hcheck
      exact ⟨addition, now, hmatch⟩
  · simp only [checkReservation, run_bind_eq_ok, run_refuse_eq_ok] at hrun
    obtain ⟨_, _, ⟨_, _, ⟨rfl, rfl⟩, -, rfl⟩, _, _, hwrites, rfl, rfl⟩ := hrun
    refine .inr ⟨rfl, ?_⟩
    cases hauth : staged.authorization with
    | none =>
      right
      obtain ⟨-, hfree⟩ := checkAuthority_legacy hauth hcheck
      obtain ⟨r, hr, hawaits, db₁, hsnapshot, htables⟩ := commitWrites_legacy hauth hwrites
      exact ⟨r, db₁, rfl, hfree, hr, hawaits, hsnapshot, htables⟩
    | some auth =>
      left
      obtain ⟨-, addition, -, -, -, -, a, ha, o, ho, howns, hid, htx, hinv, hgen, hjoin,
        hfingerprint, -, -, -, hstate, -⟩ := checkAuthority_authorized hauth hcheck
      obtain ⟨db₁, hsnapshot, htables⟩ :=
        commitWrites_authorized hauth ha ho hid (howns.1.trans hinv) hwrites
      exact ⟨auth, a, o, db₁, rfl, ha, ho, howns, hid, htx, hinv, hgen, hjoin, hfingerprint,
        hstate, hsnapshot, htables⟩

/-- An authorized commit is a snapshot followed by one consumption. -/
theorem AuthorizedCommit.effects (htx : auth.transactionId = commit.transactionId)
    (h : AuthorizedCommit auth commit state inserts updates a o db db₁ db') :
    Effects policy N db db' := by
  refine (Effects.single (provider_effect h.snapshot)).tail ?_
  refine .commit a o commit.joinRow _ ?_ ?_ h.owns ?_ ?_ ?_ rfl
    commit.joinRow_unsent h.tables
  · rw [h.snapshot]
    exact h.attempt_mem
  · rw [h.snapshot]
    exact h.opening_mem
  · rw [h.unknown]
    rfl
  · exact ⟨h.transactionId.trans (congrArg some htx), h.invitationId.symm, h.generation.symm,
      h.joinRequestId.symm, h.requestFingerprint.symm⟩
  · exact ⟨h.invitationId.symm, h.generation.symm, h.joinRequestId.symm⟩

/-- A legacy commit is a snapshot followed by one legacy consumption. -/
theorem LegacyCommit.effects {r : ReservationRow} (hallowed : N.legacyJoin commit.joinRow)
    (h : LegacyCommit commit state inserts updates r db db₁ db') : Effects policy N db db' := by
  refine (Effects.single (provider_effect h.snapshot)).tail ?_
  refine .legacyCommit commit.joinRow r hallowed ?_ commit.joinRow_unsent h.tables
  rw [h.snapshot]
  exact h.free

/-- Under an authorization the exact result cannot be there before the commit: it
would have committed the attempt whose outcome is unknown. -/
theorem not_exactResult_of_match (h : Coherent policy db.tables)
    {addition : CommittedAdditionStorageBinding} (htx : auth.transactionId = commit.transactionId)
    (hmatch : authorizationMatchesInviter db.tables auth addition commit .membershipOutcomeUnknown
      now) : ¬exactResult db.tables commit state := by
  rintro ⟨j, hj, g, hg, -, hjtx, hjinv, hjgen, hjjoin, hjfinger, -⟩
  obtain ⟨-, -, -, a, ha, o, ho, howns, -, hatx, hinv, hgen, hjoin, hfinger, -, -, -, hstate,
    -⟩ := hmatch
  refine not_resultOf_of_uncommitted h ha (by simp [hstate]) hj ⟨?_, ?_, ?_, ?_, ?_⟩
  · rw [hatx, htx, hjtx]
  · rw [hjinv, hinv]
  · rw [hjgen, hgen]
  · rw [hjjoin, hjoin]
  · rw [hjfinger, hfinger]

end Commit

/-! ## A commit that stops never claims an unknown outcome -/

section Stopped

theorem storeIdOn_avoids {failure : Failure StoreError}
    (hne : .raised .rejected ≠ failure) : Avoids failure storeIdOn :=
  .bind (.select _) fun _ => .bind (.require _ hne) fun _ => .bind (.refuse _ hne) fun _ =>
    .pure _

theorem emitFaultCheckpoint_avoids (observer : Option FaultObserver)
    (checkpoint : Checkpoint) (occurrence : Nat) :
    Avoids (.raised .outcomeUnknown) (emitFaultCheckpoint observer checkpoint occurrence) :=
  .refuse _ (by simp)

theorem insertEpochs_avoids (groupId : Bytes) (observer : Option FaultObserver)
    (scenario : Scenario) (occurrence : Nat) (inserts : List EpochRecord) :
    Avoids (.raised .outcomeUnknown)
      (insertEpochs groupId observer scenario occurrence inserts) := by
  induction inserts generalizing occurrence with
  | nil => exact .pure _
  | cons e rest ih =>
    exact .bind (.insertInto (by simp)) fun _ => .bind (emitFaultCheckpoint_avoids _ _ _)
      fun _ => .bind (.refuse _ (by simp)) fun _ => ih _

theorem updateEpochs_avoids (groupId : Bytes) (observer : Option FaultObserver)
    (scenario : Scenario) (occurrence : Nat) (updates : List EpochRecord) :
    Avoids (.raised .outcomeUnknown)
      (updateEpochs groupId observer scenario occurrence updates) := by
  induction updates generalizing occurrence with
  | nil => exact .pure _
  | cons e rest ih =>
    exact .bind (.updateWhere (by simp)) fun _ => .bind (.refuse _ (by simp)) fun _ =>
      .bind (emitFaultCheckpoint_avoids _ _ _) fun _ => .bind (.refuse _ (by simp)) fun _ => ih _

variable (staged : StagedInviter) (commit : InviterJoinTransaction) (state : GroupState)
  (inserts updates : List EpochRecord) (observer : Option FaultObserver)

theorem persistMls_avoids (scenario : Scenario) :
    Avoids (.raised .outcomeUnknown) (persistMls state inserts updates observer scenario) :=
  .bind (.execute (by simp)) fun _ => .bind (emitFaultCheckpoint_avoids _ _ _) fun _ =>
    .bind (insertEpochs_avoids _ _ _ _ _) fun _ => updateEpochs_avoids _ _ _ _ _

theorem checkAuthority_avoids (now : Nat) :
    Avoids (.raised .outcomeUnknown) (checkAuthority staged commit now) := by
  unfold checkAuthority
  split
  · split
    · exact .raise (by simp)
    · exact .bind (storeIdOn_avoids (by simp)) fun _ => .bind (.select _)
        fun _ => .refuse _ (by simp)
  · exact .bind (.select _) fun _ => .refuse _ (by simp)

theorem insertConsumedReservation_avoids :
    Avoids (.raised .outcomeUnknown) (insertConsumedReservation staged commit) := by
  unfold insertConsumedReservation
  split
  · exact .pure _
  · exact .bind (.select _) fun _ => .bind (.require _ (by simp)) fun _ => .insertInto (by simp)

theorem consumeInvitation_avoids :
    Avoids (.raised .outcomeUnknown) (consumeInvitation staged commit) := by
  unfold consumeInvitation
  split
  · exact .bind (.updateWhere (by simp)) fun _ => .bind (.refuse _ (by simp)) fun _ =>
      .bind (.updateWhere (by simp)) fun _ => .refuse _ (by simp)
  · exact .bind (.updateWhere (by simp)) fun _ => .refuse _ (by simp)

theorem commitWrites_avoids :
    Avoids (.raised .outcomeUnknown) (commitWrites staged commit state inserts updates observer) :=
  .bind (persistMls_avoids _ _ _ _ _) fun _ =>
    .bind (insertConsumedReservation_avoids _ _) fun _ => .bind (.insertInto (by simp)) fun _ =>
    .bind (emitFaultCheckpoint_avoids _ _ _) fun _ =>
    .bind (consumeInvitation_avoids _ _) fun _ =>
    .bind (emitFaultCheckpoint_avoids _ _ _) fun _ =>
    .bind (emitFaultCheckpoint_avoids _ _ _) fun _ => .refuse _ (by simp)

theorem commitInviterTx_avoids (elapsed : Nat) : Avoids (.raised .outcomeUnknown)
      (commitInviterTx staged commit state inserts updates elapsed observer) := by
  refine .bind (.require _ (by simp)) fun _ => .bind (.refuse _ (by simp)) fun _ =>
    .bind (.refuse _ (by simp)) fun _ => .bind (checkAuthority_avoids _ _ _) fun _ =>
    .bind (.select _) fun _ => ?_
  split
  · exact .bind (.refuse _ (by simp)) fun _ => .pure _
  · exact .bind (.bind (.select _) fun _ => .refuse _ (by simp)) fun _ =>
      .bind (commitWrites_avoids _ _ _ _ _ _) fun _ => .pure _

theorem boundTransaction_ne_outcomeUnknown :
    boundTransaction staged state inserts updates ≠ .error .outcomeUnknown := by
  unfold boundTransaction
  grind

end Stopped

/-! ## Every write -/

/-- What the write of a staged transaction did: its commit is complete, or nothing
changed. In the second case an authorized caller sees a definite error. -/
theorem commitInviter_cases (h : Coherent policy db.tables) (busy : Bool)
    (staged : StagedInviter) (state : GroupState) (inserts updates : List EpochRecord)
    (elapsed : Nat) (observer : Option FaultObserver) {result : Except StoreError Unit × Db}
    (hresult : commitInviter busy staged state inserts updates elapsed observer db = result) :
    (result.1 = commitReply staged observer ∧
        ∃ commit, boundTransaction staged state inserts updates = .ok commit ∧
          ((∃ auth a o db₁, staged.authorization = some auth ∧
              AuthorizedCommit auth commit state inserts updates a o db db₁ result.2) ∨
            ∃ r db₁, staged.authorization = none ∧
              LegacyCommit commit state inserts updates r db db₁ result.2)) ∨
      (result.2 = db ∧ (staged.authorization = none ∨
        ∃ e, result.1 = .error e ∧ e ≠ .outcomeUnknown)) := by
  subst hresult
  unfold commitInviter
  split
  · next e herr =>
      refine .inr ⟨rfl, .inr ⟨e, rfl, ?_⟩⟩
      rintro rfl
      exact boundTransaction_ne_outcomeUnknown _ _ _ _ herr
  · next commit hbound =>
      split
      · exact .inr ⟨rfl, .inr ⟨_, rfl, (by simp)⟩⟩
      · split
        · exact .inr ⟨rfl, .inr ⟨_, rfl, (by simp)⟩⟩
        · obtain ⟨reply, db', hrun, htx⟩ | ⟨failure, hrun, htx⟩ := transaction_cases
            StoreError.rejected
            (commitInviterTx staged commit state inserts updates elapsed observer) db
          · rw [htx]
            obtain ⟨j, hj, hjtx, hexact, rfl, rfl, hmatch⟩ | ⟨rfl, hwrites⟩ :=
              commitInviterTx_ok hrun
            · refine .inr ⟨rfl, .inl ?_⟩
              by_contra hsome
              obtain ⟨auth, hauth⟩ := Option.ne_none_iff_exists'.mp hsome
              obtain ⟨addition, now, hm⟩ := hmatch auth hauth
              have hsame : auth.transactionId = commit.transactionId :=
                (staged.same_transaction auth hauth).trans
                  (boundTransaction_transactionId hbound).symm
              exact not_exactResult_of_match h hsame hm hexact
            · exact .inl ⟨rfl, commit, hbound, hwrites⟩
          · rw [htx]
            refine .inr ⟨rfl, .inr ⟨_, rfl, ?_⟩⟩
            cases failure with
            | constraint => exact nofun
            | raised e =>
              rintro rfl
              exact commitInviterTx_avoids _ _ _ _ _ _ _ db hrun

/-- Without the write lock nothing is written. -/
theorem commitInviter_busy (staged : StagedInviter) (state : GroupState)
    (inserts updates : List EpochRecord) (elapsed : Nat) (observer : Option FaultObserver)
    (db : Db) : (commitInviter true staged state inserts updates elapsed observer db).2 = db := by
  unfold commitInviter
  split
  · rfl
  · split
    · rfl
    · simp

/-- What the write of a staged transaction may bring in. -/
def StagedInviter.admission (staged : StagedInviter) : Admission :=
  match staged.authorization with
  | none => .ofLegacy staged.transaction
  | some _ => .nothing

theorem commitInviter_effects (h : Coherent policy db.tables) (busy : Bool)
    (staged : StagedInviter) (state : GroupState) (inserts updates : List EpochRecord)
    (elapsed : Nat) (observer : Option FaultObserver) : Effects policy staged.admission db
      (commitInviter busy staged state inserts updates elapsed observer db).2 := by
  obtain ⟨-, commit, hbound, hcommit⟩ | ⟨hsame, -⟩ :=
    commitInviter_cases h busy staged state inserts updates elapsed observer rfl
  · have htx := boundTransaction_transactionId hbound
    obtain ⟨auth, a, o, db₁, hauth, hcommit⟩ | ⟨r, db₁, hauth, hcommit⟩ := hcommit
    · exact hcommit.effects ((staged.same_transaction auth hauth).trans htx.symm)
    · refine hcommit.effects ?_
      simp only [StagedInviter.admission, hauth]
      exact htx
  · rw [hsame]
    exact .refl _

theorem beginJoinerTx_effects {tx : JoinerTransaction}
    (hrun : (SqlCipherStorage.beginJoinerTx tx state inserts updates observer).run db =
      .ok (u, db')) : Effects policy N db db' := by
  simp only [SqlCipherStorage.beginJoinerTx, emitFaultCheckpoint, run_bind_eq_ok,
    run_refuse_eq_ok, run_insertInto_eq_ok] at hrun
  obtain ⟨_, _, ⟨rfl, rfl⟩, _, _, ⟨-, rfl⟩, _, db₁, hmls, _, db₂, hinsert, -, rfl⟩ := hrun
  exact (Effects.single (provider_effect (persistMls_ok hmls))).tail (provider_effect hinsert)

theorem deleteKeyPackageTx_effects {pending : PendingJoiner}
    (hrun : (SqlCipherStorage.deleteKeyPackageTx pending observer).run db = .ok (reply, db')) :
    Effects policy N db db' := by
  simp only [SqlCipherStorage.deleteKeyPackageTx, emitFaultCheckpoint, run_bind_eq_ok,
    run_deleteFrom_eq_ok, run_refuse_eq_ok] at hrun
  obtain ⟨_, _, ⟨-, rfl⟩, _, _, ⟨rfl, rfl⟩, _, db₁, hdelete, _, _, ⟨-, rfl⟩, _, _, ⟨-, rfl⟩, _, _,
    ⟨-, rfl⟩, _, _, ⟨-, rfl⟩, -, rfl⟩ := hrun
  exact .single (provider_effect hdelete)

theorem insertKeyPackage_effects {row : KeyPackageRow}
    (hrun : (do insertInto keyPackages row
                return .ok () : StoreTx (Except StoreError Unit)).run db = .ok (reply, db')) :
    Effects policy N db db' := by
  simp only [run_bind_eq_ok, run_insertInto_eq_ok] at hrun
  obtain ⟨_, db₁, hinsert, -, rfl⟩ := hrun
  exact .single (provider_effect hinsert)

theorem insertClientIdentity_effects {groupId : { id : Bytes32 // id ≠ 0 }} {encoded : Bytes}
    (hrun : (do insertInto clientIdentity ⟨groupId, encoded⟩
                return .ok () : StoreTx (Except StoreError Unit)).run db = .ok (reply, db')) :
    Effects policy N db db' := by
  simp only [run_bind_eq_ok, run_insertInto_eq_ok] at hrun
  obtain ⟨_, db₁, hinsert, -, rfl⟩ := hrun
  refine .single (.provider ?_ ?_)
  · intro r hr
    rw [hinsert] at hr
    obtain hr | hr := List.mem_append.mp hr
    · exact .inl hr
    · exact .inr (by rw [List.mem_singleton.mp hr]; exact groupId.2)
  · rw [hinsert]
    rfl

theorem seedReservationTx_effects {row : ReservationRow}
    (hrun : (SqlCipherStorage.seedReservationTx row).run db = .ok (reply, db')) :
    Effects policy N db db' := by
  simp only [SqlCipherStorage.seedReservationTx, run_bind_eq_ok,
    run_refuse_eq_ok, run_insertInto_eq_ok] at hrun
  obtain ⟨_, _, ⟨rfl, rfl⟩, _, _, ⟨-, rfl⟩, _, db₁, hinsert, -, rfl⟩ := hrun
  exact .single (.seed row hinsert)

/-! ## The outbox -/

theorem updateJoins_effect {p : InviterJoinRow → Bool} {f : InviterJoinRow → InviterJoinRow}
    {n : Nat} (hkeys : KeepsKeys f)
    (hrun : (updateWhere inviterJoins p f : OutboxTx Nat).run db = .ok (n, db')) :
    Effect policy .ofDelivery db db' := by
  obtain ⟨-, htables⟩ := run_updateWhere_eq_ok.mp hrun
  refine .outbox (patch p f) trivial (fun j => ?_) htables
  unfold patch
  split
  · exact hkeys j
  · exact ⟨rfl, rfl, rfl, rfl, rfl⟩

theorem keepsKeys_closed (s : WelcomeOutboxState) : KeepsKeys (InviterJoinRow.closed s) :=
  fun _ => ⟨rfl, rfl, rfl, rfl, rfl⟩

theorem keepsKeys_leasedAs (generation : Nat) (leaseId : Id16) (leaseExpiresAt : Nat) :
    KeepsKeys (InviterJoinRow.leasedAs generation leaseId leaseExpiresAt) :=
  fun _ => ⟨rfl, rfl, rfl, rfl, rfl⟩

theorem mapError_storeIdOn_ok {storeId : Id16}
    (h : (mapError mapOutboxStoreError storeIdOn).run db = .ok (storeId, db')) : db = db' :=
  (storeIdOn_ok (run_mapError_eq_ok.mp h)).1

theorem checkLeaseStore_ok (h : (checkLeaseStore lease).run db = .ok (u, db')) : db = db' := by
  simp only [checkLeaseStore, run_bind_eq_ok, run_refuse_eq_ok] at h
  obtain ⟨_, _, hstore, -, rfl⟩ := h
  exact mapError_storeIdOn_ok hstore

theorem outboxHousekeeping_effects (hrun : (outboxHousekeeping now).run db = .ok (u, db')) :
    Effects policy .ofDelivery db db' := by
  simp only [outboxHousekeeping, run_bind_eq_ok] at hrun
  obtain ⟨_, _, hfirst, _, _, hsecond, -, rfl⟩ := hrun
  exact (Effects.single (updateJoins_effect (keepsKeys_closed _) hfirst)).tail
    (updateJoins_effect (keepsKeys_closed _) hsecond)

theorem leaseNextTx_effects {scope : ScopeId} {leaseExpiresAt : Nat} {draws : Fin 4 → Id16}
    {reply : Except OutboxPortError (Option LeasedWelcome)}
    (hrun : (leaseNextTx scope now leaseExpiresAt draws).run db = .ok (reply, db')) :
    Effects policy .ofDelivery db db' := by
  simp only [leaseNextTx, run_bind_eq_ok, run_select_eq_ok] at hrun
  obtain ⟨_, db₁, hkeeping, rows, _, ⟨-, rfl⟩, hrun⟩ := hrun
  have hfirst : Effects policy .ofDelivery db db₁ := outboxHousekeeping_effects hkeeping
  cases rows with
  | nil =>
    obtain ⟨-, rfl⟩ := run_pure_eq_ok.mp hrun
    exact hfirst
  | cons candidate _ =>
    simp only [leaseCandidate, run_bind_eq_ok, run_refuse_eq_ok, run_require_eq_ok] at hrun
    obtain ⟨_, _, ⟨-, rfl⟩, _, _, ⟨-, rfl⟩, _, _, ⟨-, rfl⟩, _, _, hstore, _, _, hupdate, _, _,
      ⟨-, rfl⟩, -, rfl⟩ := hrun
    obtain rfl := mapError_storeIdOn_ok hstore
    exact hfirst.tail (updateJoins_effect (keepsKeys_leasedAs _ _ _) hupdate)

variable {reply : Except OutboxPortError Unit}

theorem reportAcceptedTx_effects (hrun : (reportAcceptedTx lease now).run db = .ok (reply, db')) :
    Effects policy .ofDelivery db db' := by
  simp only [reportAcceptedTx, run_bind_eq_ok] at hrun
  obtain ⟨_, _, hstore, n, db₁, hupdate, hrun⟩ := hrun
  obtain rfl := checkLeaseStore_ok hstore
  have hfirst : Effects policy .ofDelivery db db₁ :=
    .single (updateJoins_effect (keepsKeys_closed _) hupdate)
  split at hrun
  · obtain ⟨-, rfl⟩ := run_pure_eq_ok.mp hrun
    exact hfirst
  · simp only [run_bind_eq_ok] at hrun
    obtain ⟨_, _, hretire, -, rfl⟩ := hrun
    exact hfirst.tail (updateJoins_effect (keepsKeys_closed _) hretire)

theorem reportFailedTx_effects (hrun : (reportFailedTx lease).run db = .ok (reply, db')) :
    Effects policy .ofDelivery db db' := by
  simp only [reportFailedTx, run_bind_eq_ok, run_refuse_eq_ok] at hrun
  obtain ⟨_, _, hstore, _, _, hupdate, _, _, ⟨-, rfl⟩, -, rfl⟩ := hrun
  obtain rfl := checkLeaseStore_ok hstore
  exact .single (updateJoins_effect (fun j => keepsKeys_closed _ j) hupdate)

end SessionChat.Storage
