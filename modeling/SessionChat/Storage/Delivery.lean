import SessionChat.Storage.Reachable

/-!
# What the outbox transactions do to a row (`crates/storage-sqlcipher/src/outbox.rs`)

The three transactions of the outbox port, row by row: no statement of theirs can
break a declared constraint, each row takes at most one step in a call, and a row
that is delivered, exhausted or expired takes none.
-/

set_option autoImplicit false

namespace SessionChat.Storage

open Relational InviterJoinRow

variable {policy : AuthorizationPolicy} {db db' : Db}

/-! ## Constraints -/

variable {j : InviterJoinRow} {s : WelcomeOutboxState} {leaseExpiresAt now : Nat}
  {p : InviterJoinRow → Bool} {f : InviterJoinRow → InviterJoinRow}
  {reply : Except OutboxPortError Unit} {lease : SqlCipherWelcomeLease}

theorem InviterJoinRow.check_closed (hj : inviterJoinConstraints.check j = true) (hs : s ≠ .leased)
    (hmax : s = .attemptsExhausted → j.deliveryAttempts = j.maximumDeliveryAttempts) :
    inviterJoinConstraints.check (j.closed s) = true := by
  simp only [inviterJoinConstraints, decide_eq_true_eq, InviterJoinRow.closed] at hj ⊢
  obtain ⟨hepoch, happroval, hwelcome, hendpoint, hexpires, hsmall, hlimits, -, -, hle, -⟩ := hj
  refine ⟨hepoch, happroval, hwelcome, hendpoint, hexpires, hsmall, hlimits, (by simp), ?_, hle, ?_⟩
  · simp [WelcomeOutboxState.admitsLease, hs]
  · by_cases h : s = .attemptsExhausted
    · exact .inr (hmax h)
    · exact .inl h

theorem InviterJoinRow.check_leasedAs {generation : Nat} {leaseId : Id16}
    (hj : inviterJoinConstraints.check j = true)
    (hroom : j.deliveryAttempts < j.maximumDeliveryAttempts) (hpos : 0 < leaseExpiresAt) :
    inviterJoinConstraints.check (j.leasedAs generation leaseId leaseExpiresAt) = true := by
  simp only [inviterJoinConstraints, decide_eq_true_eq, InviterJoinRow.leasedAs] at hj ⊢
  obtain ⟨hepoch, happroval, hwelcome, hendpoint, hexpires, hsmall, hlimits, -, -, hle, -⟩ := hj
  refine ⟨hepoch, happroval, hwelcome, hendpoint, hexpires, by omega, hlimits, ?_, ?_, by omega,
    .inl (by simp)⟩
  · simpa using hpos
  · simp [WelcomeOutboxState.admitsLease]

/-- An update of results that keeps their keys and their checks breaks no constraint. -/
theorem Tables.Valid.patchJoins {t : Tables} (h : t.Valid) (hkeys : KeepsKeys f)
    (hcheck : ∀ j, inviterJoinConstraints.check j = true → p j = true →
      inviterJoinConstraints.check (f j) = true) :
    Tables.Valid { t with inviterJoins := t.inviterJoins.map (patch p f) } := by
  have htx := patch_field (·.transactionId) (p := p) fun j => (hkeys j).1
  have hid := patch_field (·.invitationId) (p := p) fun j => (hkeys j).2.1
  have hrequest := patch_field (·.joinRequestId) (p := p) fun j => (hkeys j).2.2.2.1
  refine { h with inviterJoins := h.inviterJoins.map ?_ ?_, join_reference := ?_ }
  · intro j hj
    have hold := h.inviterJoins.1 j hj
    cases hp : p j with
    | false => rwa [patch_neg hp]
    | true =>
      rw [patch_pos hp]
      exact hcheck j hold hp
  · intro j _ k _ hclash
    simp only [inviterJoinConstraints] at hclash ⊢
    rwa [htx, htx, hid, hid, hrequest, hrequest] at hclash
  · intro j' hj'
    obtain ⟨j, hj, rfl⟩ := List.mem_map.mp hj'
    obtain ⟨r, hr, hsame⟩ := h.join_reference j hj
    exact ⟨r, hr, hsame.trans (hid j).symm⟩

theorem updateJoins_avoids (hkeys : KeepsKeys f)
    (hcheck : ∀ j, inviterJoinConstraints.check j = true → p j = true →
      inviterJoinConstraints.check (f j) = true) :
    Avoids .constraint (updateWhere inviterJoins p f : OutboxTx Nat) :=
  .updateWhere fun _ db => (Db.isValid db).patchJoins hkeys hcheck

/-- A row that passes its checks has used no more attempts than it may. -/
theorem InviterJoinRow.attempts_le (hj : inviterJoinConstraints.check j = true) :
    j.deliveryAttempts ≤ j.maximumDeliveryAttempts := by
  simp only [inviterJoinConstraints, decide_eq_true_eq] at hj
  exact hj.2.2.2.2.2.2.2.2.2.1

theorem InviterJoinRow.check_exhausted (hj : inviterJoinConstraints.check j = true)
    (hmax : j.maximumDeliveryAttempts ≤ j.deliveryAttempts) :
    inviterJoinConstraints.check (j.closed .attemptsExhausted) = true :=
  check_closed hj (by simp) fun _ => Nat.le_antisymm (attempts_le hj) hmax

theorem InviterJoinRow.check_failed (hj : inviterJoinConstraints.check j = true) :
    inviterJoinConstraints.check j.failed = true := by
  unfold InviterJoinRow.failed
  split
  · next hmax => exact check_exhausted hj hmax
  · exact check_closed hj (by simp) (by simp)

theorem outboxHousekeeping_avoids (now : Nat) : Avoids .constraint (outboxHousekeeping now) := by
  refine .bind (updateJoins_avoids (keepsKeys_closed _) ?_) fun _ =>
    .bind (updateJoins_avoids (keepsKeys_closed _) ?_) fun _ => .pure _
  · intro j hj _
    exact check_closed hj (by simp) (by simp)
  · intro j hj hspent
    exact check_exhausted hj (of_decide_eq_true hspent).1

theorem checkLeaseStore_avoids (lease : SqlCipherWelcomeLease) :
    Avoids .constraint (checkLeaseStore lease) :=
  .bind (.mapError (storeIdOn_avoids (by simp))) fun _ => .refuse _ (by simp)

theorem leaseNextTx_avoids (scope : ScopeId) (now : Nat) (draws : Fin 4 → Id16)
    (hpos : 0 < leaseExpiresAt) :
    Avoids .constraint (leaseNextTx scope now leaseExpiresAt draws) := by
  refine .bind (outboxHousekeeping_avoids now) fun _ => .bind (.select _) fun rows => ?_
  cases rows with
  | nil => exact .pure _
  | cons candidate _ =>
    refine .bind (.refuse _ (by simp)) fun _ => .bind (.refuse _ (by simp)) fun _ =>
      .bind (.require _ (by simp)) fun _ => .bind (.mapError (storeIdOn_avoids (by simp))) fun _ =>
      .bind (updateJoins_avoids (keepsKeys_leasedAs _ _ _) ?_) fun _ =>
      .bind (.refuse _ (by simp)) fun _ => .pure _
    intro j hj hselected
    rw [Bool.and_eq_true] at hselected
    exact check_leasedAs hj (of_decide_eq_true hselected.2).2.1 hpos

theorem reportAcceptedTx_avoids (lease : SqlCipherWelcomeLease) (now : Nat) :
    Avoids .constraint (reportAcceptedTx lease now) := by
  refine .bind (checkLeaseStore_avoids lease) fun _ =>
    .bind (updateJoins_avoids (keepsKeys_closed _) ?_) fun changed => ?_
  · intro j hj _
    exact check_closed hj (by simp) (by simp)
  · split
    · exact .pure _
    · refine .bind (updateJoins_avoids (keepsKeys_closed _) ?_) fun _ => .pure _
      intro j hj _
      exact check_closed hj (by simp) (by simp)

theorem reportFailedTx_avoids (lease : SqlCipherWelcomeLease) :
    Avoids .constraint (reportFailedTx lease) := by
  refine .bind (checkLeaseStore_avoids lease) fun _ =>
    .bind (updateJoins_avoids (fun j => keepsKeys_closed _ j) ?_) fun _ =>
    .bind (.refuse _ (by simp)) fun _ => .pure _
  exact fun j hj _ => check_failed hj

/-! ## Rows -/

/-- The Welcome still waits for delivery. -/
def InviterJoinRow.Open (j : InviterJoinRow) : Prop :=
  j.outboxState = .pending ∨ j.outboxState = .leased

theorem InviterJoinRow.Free.open (h : j.Free now) : j.Open :=
  h.imp id And.left

theorem InviterJoinRow.not_free_closed (hpending : s ≠ .pending) (hleased : s ≠ .leased) :
    ¬(j.closed s).Free now := by
  rintro (h | ⟨h, -⟩)
  · exact hpending h
  · exact hleased h

/-- What housekeeping makes of a row. -/
def Retired (j j' : InviterJoinRow) : Prop :=
  j' = j ∨ (j.Open ∧ (j' = j.closed .expired ∨ j' = j.closed .attemptsExhausted))

/-- A row that housekeeping leaves leasable was left alone. -/
theorem Retired.eq_of_free {j' : InviterJoinRow} (h : Retired j j') (hfree : j'.Free now) :
    j' = j := by
  obtain rfl | ⟨-, rfl | rfl⟩ := h
  · rfl
  · exact absurd hfree (not_free_closed (by simp) (by simp))
  · exact absurd hfree (not_free_closed (by simp) (by simp))

def InviterJoinRow.kept (now : Nat) (j : InviterJoinRow) : InviterJoinRow :=
  patch (InviterJoinRow.spent now) (InviterJoinRow.closed .attemptsExhausted)
    (patch (InviterJoinRow.late now) (InviterJoinRow.closed .expired) j)

theorem InviterJoinRow.kept_of_late (h : j.late now = true) : j.kept now = j.closed .expired := by
  have hkept : (j.closed .expired).spent now = false := by
    rw [InviterJoinRow.spent, decide_eq_false_iff_not]
    exact fun h => absurd h.2.2 (not_free_closed (by simp) (by simp))
  rw [InviterJoinRow.kept, patch_pos h, patch_neg hkept]

theorem InviterJoinRow.kept_of_spent (h : j.late now = false) (hspent : j.spent now = true) :
    j.kept now = j.closed .attemptsExhausted := by
  rw [InviterJoinRow.kept, patch_neg h, patch_pos hspent]

theorem InviterJoinRow.kept_of_open (h : j.late now = false) (hspent : j.spent now = false) :
    j.kept now = j := by
  rw [InviterJoinRow.kept, patch_neg h, patch_neg hspent]

theorem InviterJoinRow.retired_kept (now : Nat) (j : InviterJoinRow) : Retired j (j.kept now) := by
  cases hlate : j.late now with
  | true => exact .inr ⟨(of_decide_eq_true hlate).1, .inl (kept_of_late hlate)⟩
  | false =>
    cases hspent : j.spent now with
    | true => exact .inr ⟨(of_decide_eq_true hspent).2.2.open, .inr (kept_of_spent hlate hspent)⟩
    | false => exact .inl (kept_of_open hlate hspent)

/-- Housekeeping always commits. -/
theorem outboxHousekeeping_run (now : Nat) (db : Db) :
    ∃ db₁, (outboxHousekeeping now).run db = .ok ((), db₁) ∧ db₁.tables =
      { db.tables with
        inviterJoins := db.tables.inviterJoins.map (InviterJoinRow.kept now) } := by
  have hretired := db.isValid.patchJoins (p := InviterJoinRow.late now)
    (keepsKeys_closed .expired) fun j hj _ => check_closed hj (by simp) (by simp)
  let retired : Db := ⟨_, hretired⟩
  have hexhausted := (Db.isValid retired).patchJoins (p := InviterJoinRow.spent now)
    (keepsKeys_closed .attemptsExhausted) fun j hj hspent =>
      check_exhausted hj (of_decide_eq_true hspent).1
  refine ⟨⟨_, hexhausted⟩, ?_, ?_⟩
  · simp only [outboxHousekeeping, run_bind_eq_ok, run_pure_eq_ok, run_updateWhere_eq_ok]
    exact ⟨_, retired, ⟨rfl, rfl⟩, _, _, ⟨rfl, rfl⟩, trivial, rfl⟩
  · simp only [retired, List.map_map]
    rfl

theorem outboxHousekeeping_ok {u : Unit} (hrun : (outboxHousekeeping now).run db = .ok (u, db')) :
    db'.tables = { db.tables with
      inviterJoins := db.tables.inviterJoins.map (InviterJoinRow.kept now) } := by
  obtain ⟨db₁, hkeeping, htables⟩ := outboxHousekeeping_run now db
  rw [hkeeping] at hrun
  cases hrun
  exact htables

/-- What a lease call makes of a row: housekeeping, or the lease it returns. -/
inductive Leasing (reply : Except OutboxPortError (Option LeasedWelcome)) (j : InviterJoinRow) :
    InviterJoinRow → Prop where
  | retired (j' : InviterJoinRow) (h : Retired j j') : Leasing reply j j'
  | leased (welcome : LeasedWelcome) (leaseId : Id16) (leaseExpiresAt : Nat)
      (hreply : reply = .ok (some welcome)) (hopen : j.Open) :
      Leasing reply j (j.leasedAs (j.leaseGeneration + 1) leaseId leaseExpiresAt)

theorem leaseNextTx_ok {scope : ScopeId} {draws : Fin 4 → Id16}
    {reply : Except OutboxPortError (Option LeasedWelcome)}
    (hrun : (leaseNextTx scope now leaseExpiresAt draws).run db = .ok (reply, db')) :
    ∃ f, db'.tables = { db.tables with inviterJoins := db.tables.inviterJoins.map f } ∧
      (∀ j, Leasing reply j (f j)) ∧
      ∀ welcome, reply = .ok (some welcome) → ∃ j ∈ db.tables.inviterJoins,
        welcome.lease.openScope = scope ∧ welcome.lease.transactionId = j.transactionId ∧
        welcome.lease.generation = j.leaseGeneration + 1 ∧
        f j = j.leasedAs (j.leaseGeneration + 1) welcome.lease.leaseId leaseExpiresAt := by
  simp only [leaseNextTx, run_bind_eq_ok, run_select_eq_ok] at hrun
  obtain ⟨_, db₁, hkeeping, rows, _, ⟨-, rfl⟩, hrun⟩ := hrun
  have hkept := outboxHousekeeping_ok hkeeping
  have hretired := InviterJoinRow.retired_kept now
  cases rows with
  | nil =>
    obtain ⟨rfl, rfl⟩ := run_pure_eq_ok.mp hrun
    exact ⟨InviterJoinRow.kept now, hkept, fun j => .retired _ (hretired j), (by simp)⟩
  | cons candidate _ =>
    simp only [leaseCandidate, run_bind_eq_ok, run_refuse_eq_ok, run_require_eq_ok,
      run_updateWhere_eq_ok, not_not] at hrun
    obtain ⟨_, _, ⟨-, rfl⟩, _, _, ⟨-, rfl⟩, leaseId, _, ⟨-, rfl⟩, storeId, _, hstore, _, _,
      ⟨hcount, hleased⟩, _, _, ⟨hone, rfl⟩, rfl, rfl⟩ := hrun
    obtain rfl := mapError_storeIdOn_ok hstore
    let chosen : InviterJoinRow → Bool := fun j => decide
      (j.transactionId = candidate.transactionId ∧
        j.leaseGeneration = candidate.leaseGeneration) && j.eligible now leaseExpiresAt
    let lease := patch chosen
      (InviterJoinRow.leasedAs (candidate.leaseGeneration + 1) leaseId leaseExpiresAt)
    have hchosen : ∀ j, chosen j = true → j.transactionId = candidate.transactionId ∧
        j.leaseGeneration = candidate.leaseGeneration ∧ j.Free now := by
      intro j hj
      simp only [chosen, Bool.and_eq_true] at hj
      obtain ⟨hkey, hfree⟩ := hj
      exact ⟨(of_decide_eq_true hkey).1, (of_decide_eq_true hkey).2,
        (of_decide_eq_true hfree).2.2⟩
    -- a chosen row was left alone by housekeeping
    have hrow : ∀ j, chosen (kept now j) = true → kept now j = j := fun j hj =>
      (hretired j).eq_of_free (hchosen _ hj).2.2
    refine ⟨lease ∘ kept now, ?_, ?_, ?_⟩
    · rw [hleased, hkept]
      simp only [inviterJoins, List.map_map]
      rfl
    · intro j
      cases hj : chosen (j.kept now) with
      | false =>
        have hsame : (lease ∘ kept now) j = j.kept now := patch_neg hj
        rw [hsame]
        exact .retired _ (hretired j)
      | true =>
        have hleasedAs : (lease ∘ kept now) j =
            (j.kept now).leasedAs (candidate.leaseGeneration + 1) leaseId leaseExpiresAt :=
          patch_pos hj
        rw [hleasedAs, hrow j hj]
        rw [hrow j hj] at hj
        obtain ⟨-, hgen, hfree⟩ := hchosen j hj
        rw [← hgen]
        exact .leased _ leaseId leaseExpiresAt rfl hfree.open
    · rintro welcome ⟨⟩
      obtain ⟨j', hj', hselected⟩ := exists_of_countP_eq_one (hcount.symm.trans hone)
      rw [hkept] at hj'
      obtain ⟨j, hj, rfl⟩ := List.mem_map.mp hj'
      have hleasedAs : (lease ∘ kept now) j =
          (j.kept now).leasedAs (candidate.leaseGeneration + 1) leaseId leaseExpiresAt :=
        patch_pos hselected
      have hsame := hrow j hselected
      rw [hsame] at hselected hleasedAs
      obtain ⟨htx, hgen, -⟩ := hchosen j hselected
      refine ⟨j, hj, rfl, htx.symm, ?_, ?_⟩
      · rw [hgen]
      · rw [hleasedAs, hgen]

/-- Two rows under one lease clash. -/
theorem InviterJoinRow.heldBy.clash {k : InviterJoinRow} (hj : j.heldBy lease)
      (hk : k.heldBy lease) : inviterJoinConstraints.clash j k = true := by
  simp [inviterJoinConstraints, hj.1, hk.1]

/-- A report of acceptance delivers the row of its lease, or is refused; refused, it may
still retire that row. -/
theorem reportAcceptedTx_ok (hrun : (reportAcceptedTx lease now).run db = .ok (reply, db')) :
    (reply = .ok () ∧ ∃ j ∈ db.tables.inviterJoins, j.heldBy lease ∧ j.Timely now ∧
        db'.tables = { db.tables with
          inviterJoins := replaceRow j (j.closed .delivered) db.tables.inviterJoins }) ∨
      (reply = .error .conflict ∧ (db'.tables = db.tables ∨
        ∃ j ∈ db.tables.inviterJoins, j.heldBy lease ∧ db'.tables = { db.tables with
          inviterJoins := replaceRow j (j.closed .expired) db.tables.inviterJoins })) := by
  simp only [reportAcceptedTx, run_bind_eq_ok, run_updateWhere_eq_ok] at hrun
  obtain ⟨_, _, hstore, n, db₁, ⟨rfl, hdelivered⟩, hrun⟩ := hrun
  obtain rfl := checkLeaseStore_ok hstore
  obtain ⟨hnone, hsame⟩ | ⟨hone, j, hj, hselected, hreplaced⟩ :=
    db.isValid.inviterJoins.update_cases (p := InviterJoinRow.deliverable lease now)
      (fun j k hj hk => (of_decide_eq_true hj).1.clash (of_decide_eq_true hk).1)
      (InviterJoinRow.closed .delivered)
  · right
    simp only [inviterJoins, hsame] at hdelivered
    have hzero : (inviterJoins.rows db.tables).countP
        (InviterJoinRow.deliverable lease now) ≠ 1 := by
      simp only [inviterJoins, hnone]
      simp
    simp only [if_neg hzero, run_bind_eq_ok, run_updateWhere_eq_ok] at hrun
    obtain ⟨_, _, ⟨-, hexpired⟩, rfl, rfl⟩ := hrun
    refine ⟨rfl, ?_⟩
    rw [hdelivered] at hexpired
    obtain ⟨-, hkept⟩ | ⟨-, j, hj, hselected, hreplaced⟩ :=
      db.isValid.inviterJoins.update_cases
        (p := InviterJoinRow.overdue lease now)
        (fun j k hj hk => (of_decide_eq_true hj).1.clash (of_decide_eq_true hk).1)
        (InviterJoinRow.closed .expired)
    · simp only [inviterJoins, hkept] at hexpired
      exact .inl hexpired
    · simp only [inviterJoins, hreplaced] at hexpired
      exact .inr ⟨j, hj, (of_decide_eq_true hselected).1, hexpired⟩
  · left
    simp only [inviterJoins, hreplaced] at hdelivered
    have hchanged : (inviterJoins.rows db.tables).countP
        (InviterJoinRow.deliverable lease now) = 1 := hone
    simp only [if_pos hchanged] at hrun
    obtain ⟨rfl, rfl⟩ := hrun
    obtain ⟨hheld, htimely⟩ := of_decide_eq_true hselected
    exact ⟨rfl, j, hj, hheld, htimely, hdelivered⟩

/-- A report of failure releases the row of its lease, or is rolled back. -/
theorem reportFailedTx_ok (hrun : (reportFailedTx lease).run db = .ok (reply, db')) :
    reply = .ok () ∧ ∃ j ∈ db.tables.inviterJoins, j.heldBy lease ∧ db'.tables =
      { db.tables with inviterJoins := replaceRow j j.failed db.tables.inviterJoins } := by
  simp only [reportFailedTx, run_bind_eq_ok, run_updateWhere_eq_ok, run_refuse_eq_ok,
    not_not] at hrun
  obtain ⟨_, _, hstore, _, db₁, ⟨rfl, hfailed⟩, _, _, ⟨hone, rfl⟩, rfl, rfl⟩ := hrun
  obtain rfl := checkLeaseStore_ok hstore
  obtain ⟨j, hj, hselected, hreplaced⟩ := db.isValid.inviterJoins.exists_replace
    (fun j k hj hk => (of_decide_eq_true hj).clash (of_decide_eq_true hk)) hone
    InviterJoinRow.failed
  refine ⟨rfl, j, hj, of_decide_eq_true hselected, hfailed.trans ?_⟩
  simp only [inviterJoins] at hreplaced ⊢
  rw [hreplaced]

end SessionChat.Storage
