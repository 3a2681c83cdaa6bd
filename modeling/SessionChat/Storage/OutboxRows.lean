import SessionChat.Collections.OrderedMap
import SessionChat.Storage.Delivery

/-!
# The outbox port, exactly (`crates/storage-sqlcipher/src/outbox.rs`)

What each method of the outbox port answers and makes of the rows, on a scope that can run a
transaction: housekeeping, the lease of the eligible row with the least transaction identifier,
and the two reports as functions on the row of their lease.
-/

set_option autoImplicit false

namespace SessionChat.Storage

open Relational Collections InviterJoinRow SqlCipherStorage

variable {db : Db} {now leaseExpiresAt : Nat} {j k : InviterJoinRow}

/-! ## Rows by transaction -/

def Tables.joinAt (t : Tables) (id : Id16) : Option InviterJoinRow :=
  t.inviterJoins.find? fun j => decide (j.transactionId = id)

theorem joinAt_eq_some {id : Id16} :
    db.tables.joinAt id = some j ↔ j ∈ db.tables.inviterJoins ∧ j.transactionId = id := by
  constructor
  · intro h
    exact ⟨List.mem_of_find?_eq_some h, by simpa using List.find?_some h⟩
  · rintro ⟨hj, rfl⟩
    refine db.isValid.inviterJoins.find?_eq_some ?_ hj (by simp)
    intro a b ha hb
    rw [decide_eq_true_eq] at ha hb
    simp [inviterJoinConstraints, ha, hb]

/-- Two rows of one transaction are the same row. -/
theorem join_eq_of_transactionId (hj : j ∈ db.tables.inviterJoins)
    (hk : k ∈ db.tables.inviterJoins) (hid : j.transactionId = k.transactionId) : j = k :=
  db.isValid.inviterJoins.eq_of_clash hj hk (by simp [inviterJoinConstraints, hid])

/-- Rewriting rows without moving them between transactions. -/
theorem joinAt_map {t t' : Tables} {f : InviterJoinRow → InviterJoinRow}
    (heq : t' = { t with inviterJoins := t.inviterJoins.map f })
    (hid : ∀ j, (f j).transactionId = j.transactionId) (id : Id16) :
    t'.joinAt id = (t.joinAt id).map f := by
  subst heq
  simp only [Tables.joinAt, List.find?_map, Function.comp_def, hid]

/-! ## Housekeeping -/

theorem InviterJoinRow.kept_transactionId (now : Nat) (j : InviterJoinRow) :
    (j.kept now).transactionId = j.transactionId := by
  unfold InviterJoinRow.kept
  rw [patch_field InviterJoinRow.transactionId (f := InviterJoinRow.closed _) fun _ => rfl,
    patch_field InviterJoinRow.transactionId (f := InviterJoinRow.closed _) fun _ => rfl]

theorem InviterJoinRow.kept_of_eligible (hnow : now < leaseExpiresAt)
    (h : j.eligible now leaseExpiresAt = true) : j.kept now = j := by
  obtain ⟨hfits, hroom, -⟩ := of_decide_eq_true h
  refine kept_of_open (decide_eq_false ?_) (decide_eq_false ?_)
  · omega
  · omega

theorem InviterJoinRow.eligible_kept (hnow : now < leaseExpiresAt) :
    (j.kept now).eligible now leaseExpiresAt = j.eligible now leaseExpiresAt := by
  have hclosed : ∀ s : WelcomeOutboxState, s ≠ .pending → s ≠ .leased →
      (j.closed s).eligible now leaseExpiresAt = false := by
    intro s hpending hleased
    rw [InviterJoinRow.eligible, decide_eq_false_iff_not]
    exact fun h => absurd h.2.2 (not_free_closed hpending hleased)
  cases heligible : j.eligible now leaseExpiresAt with
  | true => rw [kept_of_eligible hnow heligible, heligible]
  | false =>
    cases hlate : j.late now with
    | true =>
      rw [kept_of_late hlate]
      exact hclosed _ (by simp) (by simp)
    | false =>
      cases hspent : j.spent now with
      | true =>
        rw [kept_of_spent hlate hspent]
        exact hclosed _ (by simp) (by simp)
      | false => rw [kept_of_open hlate hspent, heligible]

theorem filter_eligible_kept (rows : List InviterJoinRow) (hnow : now < leaseExpiresAt) :
    (rows.map (InviterJoinRow.kept now)).filter (fun j => j.eligible now leaseExpiresAt) =
      rows.filter fun j => j.eligible now leaseExpiresAt := by
  rw [List.filter_map]
  simp only [Function.comp_def, eligible_kept hnow]
  refine (List.map_congr_left ?_).trans (List.map_id _)
  intro j hj
  exact kept_of_eligible hnow (List.mem_filter.mp hj).2

/-! ## The lease -/

/-- The eligible row that `ORDER BY transaction_id LIMIT 1` selects. -/
structure Tables.Selects (t : Tables) (now leaseExpiresAt : Nat) (j : InviterJoinRow) : Prop where
  mem : j ∈ t.inviterJoins
  eligible : j.eligible now leaseExpiresAt = true
  least : ∀ k ∈ t.inviterJoins, k.eligible now leaseExpiresAt = true →
    j.transactionId ≤ k.transactionId

def Tables.selection (t : Tables) (now leaseExpiresAt : Nat) : List InviterJoinRow :=
  (t.inviterJoins.filter fun j => j.eligible now leaseExpiresAt).insertionSort
    fun a b => a.transactionId ≤ b.transactionId

theorem mem_selection {t : Tables} : k ∈ t.selection now leaseExpiresAt ↔
    k ∈ t.inviterJoins ∧ k.eligible now leaseExpiresAt = true := by
  rw [Tables.selection, List.mem_insertionSort, List.mem_filter]

/-- The head of the sorted selection has the least transaction identifier. -/
theorem selects_of_head {t : Tables} {rest : List InviterJoinRow}
    (h : t.selection now leaseExpiresAt = j :: rest) : t.Selects now leaseExpiresAt j := by
  have hsorted : (j :: rest).Pairwise fun a b => a.transactionId ≤ b.transactionId := by
    rw [← h]
    exact List.pairwise_insertionSort _ _
  obtain ⟨hj, heligible⟩ := mem_selection.mp (h ▸ List.mem_cons_self : j ∈ t.selection _ _)
  refine ⟨hj, heligible, ?_⟩
  intro k hk hke
  obtain rfl | hk := List.mem_cons.mp (h ▸ mem_selection.mpr ⟨hk, hke⟩)
  · exact le_refl _
  · exact (List.pairwise_cons.mp hsorted).1 k hk

/-- Either some row is selected or none is eligible. -/
theorem selects_or_none (t : Tables) (now leaseExpiresAt : Nat) :
    (∃ j rest, t.selection now leaseExpiresAt = j :: rest ∧ t.Selects now leaseExpiresAt j) ∨
      ∀ j ∈ t.inviterJoins, j.eligible now leaseExpiresAt = false := by
  cases h : t.selection now leaseExpiresAt with
  | nil =>
    refine .inr fun j hj => ?_
    by_contra heligible
    have hmem := mem_selection.mpr ⟨hj, by simpa using heligible⟩
    rw [h] at hmem
    cases hmem
  | cons j rest => exact .inl ⟨j, rest, rfl, selects_of_head h⟩

def InviterJoinRow.welcomeUnder (scope : ScopeId) (storeId leaseId : Id16) (j : InviterJoinRow) :
    LeasedWelcome where
  lease :=
    { openScope := scope
      storeId := storeId
      transactionId := j.transactionId
      generation := j.leaseGeneration + 1
      leaseId := leaseId }
  welcomeEnvelope := j.welcome
  depositEndpoint := j.endpoint
  outboxExpiresAtUnixSeconds := j.outboxExpiresAt

/-- The row's delivery material validates and its next generation is representable. -/
structure InviterJoinRow.Sendable (j : InviterJoinRow) : Prop where
  material : validateDeliveryMaterial j.welcome j.endpoint j.outboxExpiresAt = true
  generation : j.leaseGeneration + 1 ≤ i64Max

theorem storeIdOn_run_of_storeId? {storeId : Id16} (h : storeId? db.tables = some storeId) :
    storeIdOn.run db = .ok (storeId, db) := by
  obtain ⟨hrow, hne⟩ := Option.filter_eq_some_iff.mp h
  obtain ⟨row, hhead, rfl⟩ := Option.map_eq_some_iff.mp hrow
  simp only [storeIdOn, run_bind_eq_ok, run_select_eq_ok, run_require_eq_ok, run_refuse_eq_ok,
    run_pure_eq_ok]
  exact ⟨_, db, ⟨rfl, rfl⟩, row, db, ⟨hhead, rfl⟩, (), db, ⟨of_decide_eq_true hne, rfl⟩, rfl, rfl⟩

section Lease

variable {scope : ScopeId} {draws : Fin 4 → Id16} {leaseId storeId : Id16}

theorem leaseCandidate_run (scope : ScopeId) (hdraw : randomNonzeroIdentifier draws = some leaseId)
    (hstore : storeId? db.tables = some storeId) (hpos : 0 < leaseExpiresAt)
    (hj : j ∈ db.tables.inviterJoins) (heligible : j.eligible now leaseExpiresAt = true)
    (hsend : j.Sendable) : ∃ db', (leaseCandidate scope now leaseExpiresAt draws j).run db =
        .ok (.ok (some (j.welcomeUnder scope storeId leaseId)), db') ∧
      db'.tables = { db.tables with
        inviterJoins := replaceRow j
          (j.leasedAs (j.leaseGeneration + 1) leaseId leaseExpiresAt) db.tables.inviterJoins } := by
  let chosen : InviterJoinRow → Bool := fun k => decide (k.transactionId = j.transactionId ∧
    k.leaseGeneration = j.leaseGeneration) && k.eligible now leaseExpiresAt
  have hkey : ∀ a b, chosen a = true → chosen b = true →
      inviterJoinConstraints.clash a b = true := by
    intro a b ha hb
    simp only [chosen, Bool.and_eq_true, decide_eq_true_eq] at ha hb
    simp [inviterJoinConstraints, ha.1.1, hb.1.1]
  have hchosen : chosen j = true := by simp [chosen, heligible]
  have hvalid := db.isValid.patchJoins (p := chosen)
    (keepsKeys_leasedAs (j.leaseGeneration + 1) leaseId leaseExpiresAt) fun k hk hsel =>
      check_leasedAs hk
        (of_decide_eq_true (Bool.and_eq_true_iff.mp hsel).2).2.1 hpos
  have hstoreRun := run_mapError_eq_ok (f := mapOutboxStoreError).mpr
    (storeIdOn_run_of_storeId? hstore)
  refine ⟨⟨_, hvalid⟩, ?_, ?_⟩
  · simp only [leaseCandidate, run_bind_eq_ok, run_refuse_eq_ok, run_require_eq_ok,
      run_pure_eq_ok, run_updateWhere_eq_ok, not_not]
    exact ⟨(), db, ⟨by simp [hsend.material], rfl⟩, (), db,
      ⟨by have := hsend.generation; omega, rfl⟩,
      leaseId, db, ⟨hdraw, rfl⟩, storeId, db, hstoreRun, _, _, ⟨rfl, rfl⟩, (), _,
      ⟨db.isValid.inviterJoins.countP_eq_one hkey hj hchosen, rfl⟩, rfl, rfl⟩
  · simp only [map_patch_eq_replaceRow (db.isValid.inviterJoins.selects hkey hj hchosen)]

/-- With no eligible row, `lease_next` only keeps house. -/
theorem leaseNextTx_run_none (scope : ScopeId) (draws : Fin 4 → Id16) (hnow : now < leaseExpiresAt)
    (hnone : ∀ j ∈ db.tables.inviterJoins, j.eligible now leaseExpiresAt = false) :
    ∃ db', (leaseNextTx scope now leaseExpiresAt draws).run db = .ok (.ok none, db') ∧
      db'.tables = { db.tables with
        inviterJoins := db.tables.inviterJoins.map (InviterJoinRow.kept now) } := by
  obtain ⟨db₁, hrun, htables⟩ := outboxHousekeeping_run now db
  have hempty : (db.tables.inviterJoins.filter fun j => j.eligible now leaseExpiresAt) = [] :=
    List.filter_eq_nil_iff.mpr fun j hj => by simp [hnone j hj]
  refine ⟨db₁, ?_, htables⟩
  simp only [leaseNextTx, run_bind_eq_ok, run_select_eq_ok]
  refine ⟨(), db₁, hrun, [], db₁, ⟨?_, rfl⟩, run_pure_eq_ok.mpr ⟨rfl, rfl⟩⟩
  simp only [htables, filter_eligible_kept _ hnow, hempty, List.insertionSort_nil]

/-- A row after the call that leased `j`. -/
def InviterJoinRow.afterLease (now leaseExpiresAt : Nat) (leaseId : Id16) (j k : InviterJoinRow) :
    InviterJoinRow :=
  if k.transactionId = j.transactionId then
    k.leasedAs (k.leaseGeneration + 1) leaseId leaseExpiresAt
  else k.kept now

/-- The selected row is leased. -/
theorem leaseNextTx_run_some (scope : ScopeId)
    (hdraw : randomNonzeroIdentifier draws = some leaseId)
    (hstore : storeId? db.tables = some storeId) (hnow : now < leaseExpiresAt)
    (hj : db.tables.Selects now leaseExpiresAt j) (hsend : j.Sendable) :
    ∃ db', (leaseNextTx scope now leaseExpiresAt draws).run db =
        .ok (.ok (some (j.welcomeUnder scope storeId leaseId)), db') ∧
      db'.tables = { db.tables with
        inviterJoins := db.tables.inviterJoins.map (j.afterLease now leaseExpiresAt leaseId) } := by
  obtain ⟨db₁, hrun, htables⟩ := outboxHousekeeping_run now db
  obtain ⟨candidate, rest, hsorted, hcandidate⟩ | hnone :=
    selects_or_none db.tables now leaseExpiresAt
  · obtain rfl : candidate = j := join_eq_of_transactionId hcandidate.mem hj.mem
      (le_antisymm (hcandidate.least j hj.mem hj.eligible)
        (hj.least candidate hcandidate.mem hcandidate.eligible))
    have hmem : candidate ∈ db₁.tables.inviterJoins := by
      rw [htables, ← kept_of_eligible hnow hj.eligible]
      exact List.mem_map_of_mem hj.mem
    obtain ⟨db₂, hlease, hleased⟩ := leaseCandidate_run scope hdraw (by rw [htables]; exact hstore)
      (by omega) hmem hj.eligible hsend
    refine ⟨db₂, ?_, ?_⟩
    · simp only [leaseNextTx, run_bind_eq_ok, run_select_eq_ok]
      refine ⟨(), db₁, hrun, candidate :: rest, db₁, ⟨?_, rfl⟩, hlease⟩
      simp only [htables, filter_eligible_kept _ hnow]
      exact hsorted.symm
    · rw [hleased, htables]
      simp only [replaceRow, List.map_map]
      congr 1
      refine List.map_congr_left fun k hk => ?_
      by_cases hid : k.transactionId = candidate.transactionId
      · obtain rfl := join_eq_of_transactionId hk hj.mem hid
        simp [InviterJoinRow.afterLease, kept_of_eligible hnow hj.eligible]
      · have hne : k.kept now ≠ candidate := fun h =>
          hid (by rw [← h, kept_transactionId])
        simp [InviterJoinRow.afterLease, hid, hne]
  · have := hnone j hj.mem
    rw [hj.eligible] at this
    cases this

end Lease

/-! ## The reports -/

section Reports

variable {lease : SqlCipherWelcomeLease}

theorem checkLeaseStore_run (hstore : storeId? db.tables = some lease.storeId) :
    (checkLeaseStore lease).run db = .ok ((), db) := by
  have hrun := run_mapError_eq_ok (f := mapOutboxStoreError).mpr
    (storeIdOn_run_of_storeId? hstore)
  simp only [checkLeaseStore, run_bind_eq_ok, run_refuse_eq_ok, not_not]
  exact ⟨_, db, hrun, rfl, rfl⟩

def InviterJoinRow.afterAccepted (lease : SqlCipherWelcomeLease) (now : Nat) (j : InviterJoinRow) :
    InviterJoinRow :=
  patch (InviterJoinRow.overdue lease now) (InviterJoinRow.closed .expired)
    (patch (InviterJoinRow.deliverable lease now) (InviterJoinRow.closed .delivered) j)

theorem InviterJoinRow.afterAccepted_of_deliverable (h : j.deliverable lease now = true) :
    j.afterAccepted lease now = j.closed .delivered := by
  have hover : (j.closed .delivered).overdue lease now = false := by
    rw [InviterJoinRow.overdue, decide_eq_false_iff_not]
    rintro ⟨⟨-, hleased, -⟩, -⟩
    cases hleased
  rw [InviterJoinRow.afterAccepted, patch_pos h, patch_neg hover]

theorem InviterJoinRow.afterAccepted_of_overdue (h : j.deliverable lease now = false)
    (hover : j.overdue lease now = true) : j.afterAccepted lease now = j.closed .expired := by
  rw [InviterJoinRow.afterAccepted, patch_neg h, patch_pos hover]

theorem InviterJoinRow.afterAccepted_of_neither (h : j.deliverable lease now = false)
    (hover : j.overdue lease now = false) : j.afterAccepted lease now = j := by
  rw [InviterJoinRow.afterAccepted, patch_neg h, patch_neg hover]

theorem reportAcceptedTx_run (hstore : storeId? db.tables = some lease.storeId) (now : Nat) :
    ∃ reply db', (reportAcceptedTx lease now).run db = .ok (reply, db') ∧
      (reply = .ok () ↔ ∃ j ∈ db.tables.inviterJoins, j.deliverable lease now = true) ∧
      db'.tables = { db.tables with
        inviterJoins := db.tables.inviterJoins.map (InviterJoinRow.afterAccepted lease now) } := by
  have hkey : ∀ a b : InviterJoinRow, a.deliverable lease now = true →
      b.deliverable lease now = true → inviterJoinConstraints.clash a b = true :=
    fun a b ha hb => (of_decide_eq_true ha).1.clash (of_decide_eq_true hb).1
  have hdelivered := db.isValid.patchJoins (p := InviterJoinRow.deliverable lease now)
    (keepsKeys_closed .delivered) fun j hj _ => check_closed hj (by simp) (by simp)
  let delivered : Db := ⟨_, hdelivered⟩
  have hexpired := (Db.isValid delivered).patchJoins (p := InviterJoinRow.overdue lease now)
    (keepsKeys_closed .expired) fun j hj _ => check_closed hj (by simp) (by simp)
  by_cases hsome : ∃ j ∈ db.tables.inviterJoins, j.deliverable lease now = true
  · obtain ⟨j, hj, hdel⟩ := hsome
    have hone : db.tables.inviterJoins.countP (InviterJoinRow.deliverable lease now) = 1 :=
      db.isValid.inviterJoins.countP_eq_one hkey hj hdel
    refine ⟨.ok (), delivered, ?_, iff_of_true rfl ⟨j, hj, hdel⟩, ?_⟩
    · simp only [reportAcceptedTx, run_bind_eq_ok, run_updateWhere_eq_ok]
      refine ⟨(), db, checkLeaseStore_run hstore, 1, delivered, ⟨hone.symm, rfl⟩, ?_⟩
      exact run_pure_eq_ok.mpr ⟨rfl, rfl⟩
    · -- only the delivered row is held by the lease, so no row is left to expire
      simp only [delivered]
      congr 1
      refine List.map_congr_left fun k hk => ?_
      cases hkd : k.deliverable lease now with
      | true => rw [afterAccepted_of_deliverable hkd, patch_pos hkd]
      | false =>
        have hover : k.overdue lease now = false := by
          rw [InviterJoinRow.overdue, decide_eq_false_iff_not]
          rintro ⟨hheld, hlate⟩
          obtain rfl := db.isValid.inviterJoins.eq_of_clash hk hj
            (hheld.clash (of_decide_eq_true hdel).1)
          rw [hdel] at hkd
          cases hkd
        rw [afterAccepted_of_neither hkd hover, patch_neg hkd]
  · have hzero : db.tables.inviterJoins.countP (InviterJoinRow.deliverable lease now) = 0 := by
      rw [List.countP_eq_zero]
      exact fun j hj hdel => hsome ⟨j, hj, hdel⟩
    refine ⟨.error .conflict, ⟨_, hexpired⟩, ?_, iff_of_false (by simp) hsome, ?_⟩
    · simp only [reportAcceptedTx, run_bind_eq_ok, run_updateWhere_eq_ok]
      refine ⟨(), db, checkLeaseStore_run hstore, 0, delivered, ⟨hzero.symm, rfl⟩, ?_⟩
      rw [if_neg (by omega)]
      simp only [run_bind_eq_ok, run_updateWhere_eq_ok, run_pure_eq_ok]
      exact ⟨_, _, ⟨rfl, rfl⟩, trivial, rfl⟩
    · simp only [delivered, List.map_map]
      rfl

def InviterJoinRow.afterFailed (lease : SqlCipherWelcomeLease) (j : InviterJoinRow) :
    InviterJoinRow :=
  patch (fun j => decide (j.heldBy lease)) InviterJoinRow.failed j

/-- A report of failure of a lease that some row is under. -/
theorem reportFailedTx_run (hstore : storeId? db.tables = some lease.storeId)
    (hj : j ∈ db.tables.inviterJoins) (hheld : j.heldBy lease) :
    ∃ db', (reportFailedTx lease).run db = .ok (.ok (), db') ∧
      db'.tables = { db.tables with
        inviterJoins := db.tables.inviterJoins.map (InviterJoinRow.afterFailed lease) } := by
  have hkey : ∀ a b : InviterJoinRow, decide (a.heldBy lease) = true →
      decide (b.heldBy lease) = true → inviterJoinConstraints.clash a b = true :=
    fun a b ha hb => (of_decide_eq_true ha).clash (of_decide_eq_true hb)
  have hone : db.tables.inviterJoins.countP (fun j => decide (j.heldBy lease)) = 1 :=
    db.isValid.inviterJoins.countP_eq_one hkey hj (decide_eq_true hheld)
  have hfailed := db.isValid.patchJoins (p := fun j => decide (j.heldBy lease))
    (f := InviterJoinRow.failed) (fun j => keepsKeys_closed _ j) fun _ hj _ => check_failed hj
  refine ⟨⟨_, hfailed⟩, ?_, rfl⟩
  simp only [reportFailedTx, run_bind_eq_ok, run_updateWhere_eq_ok, run_refuse_eq_ok,
    run_pure_eq_ok, not_not]
  exact ⟨(), db, checkLeaseStore_run hstore, 1, _, ⟨hone.symm, rfl⟩, (), _, ⟨rfl, rfl⟩, trivial,
    rfl⟩

end Reports

/-! ## The methods -/

/-- The scope can run a transaction. -/
structure SqlCipherStorage.Ready (handle : SqlCipherStorage) (s : Scope) : Prop where
  free : s.pendingJoiner = none
  idle : handle.busy = false

namespace SqlCipherStorage

variable {handle : SqlCipherStorage} {s : Scope} {lease : SqlCipherWelcomeLease}

theorem perform_of_run {ε α β : Type} {engine : ε} {body : Tx storeSchema ε (Except ε α)}
    {done : α → Except ε β × Scope} (h : handle.Ready s) {a : α} {db' : Db}
    (hrun : body.run db = .ok (.ok a, db')) :
    handle.perform engine s db body done = ⟨(done a).1, (done a).2, db'⟩ := by
  simp [perform, h.free, h.idle, transaction_of_run hrun]

theorem perform_of_refusal {ε α β : Type} {engine e : ε} {body : Tx storeSchema ε (Except ε α)}
    {done : α → Except ε β × Scope} (h : handle.Ready s) {db' : Db}
    (hrun : body.run db = .ok (.error e, db')) :
    handle.perform engine s db body done = ⟨.error e, s, db'⟩ := by
  simp [perform, h.free, h.idle, transaction_of_run hrun]

/-- The request passes the checks before the transaction. -/
def leasable (now leaseSeconds : Nat) : Prop :=
  leaseSeconds ≠ 0 ∧ leaseSeconds ≤ maximumLeaseSeconds ∧ now + leaseSeconds ≤ i64Max

theorem leaseNext_of_not_leasable (handle : SqlCipherStorage) (s : Scope) (db : Db)
    {leaseSeconds : Nat} (draws : Fin 4 → Id16) (h : ¬leasable now leaseSeconds) :
    handle.leaseNext now leaseSeconds draws s db = ⟨.error .conflict, s, db⟩ := by
  rw [leaseNext, if_pos]
  unfold leasable at h
  omega

theorem leaseNext_of_leasable (handle : SqlCipherStorage) (s : Scope) (db : Db)
    {leaseSeconds : Nat} (draws : Fin 4 → Id16) (h : leasable now leaseSeconds) :
    handle.leaseNext now leaseSeconds draws s db = handle.perform .internal s db
        (leaseNextTx handle.leaseScope now (now + leaseSeconds) draws)
        fun leased => (.ok leased, s) := by
  rw [leaseNext, if_neg]
  unfold leasable at h
  omega

section

variable (h : handle.Ready s) (hscope : lease.openScope = handle.leaseScope)
  (hstore : storeId? db.tables = some lease.storeId)
include h hscope hstore

/-- A report of acceptance by the scope that issued the lease. -/
theorem reportAccepted_eq (hnow : now ≤ i64Max) :
    ((handle.reportAccepted lease now s db).reply = .ok () ↔
        ∃ j ∈ db.tables.inviterJoins, j.deliverable lease now = true) ∧
      (handle.reportAccepted lease now s db).scope = s ∧
      (handle.reportAccepted lease now s db).db.tables = { db.tables with
        inviterJoins := db.tables.inviterJoins.map (InviterJoinRow.afterAccepted lease now) } := by
  have hguard : ¬(i64Max < now ∨ handle.leaseScope ≠ lease.openScope) := by
    rw [not_or, not_not]
    exact ⟨by omega, hscope.symm⟩
  obtain ⟨reply, db', hrun, hiff, htables⟩ := reportAcceptedTx_run hstore now
  rw [reportAccepted, if_neg hguard]
  cases reply with
  | ok u =>
    rw [perform_of_run h hrun]
    exact ⟨hiff, rfl, htables⟩
  | error e =>
    rw [perform_of_refusal h hrun]
    have hnone : ¬∃ j ∈ db.tables.inviterJoins, j.deliverable lease now = true := by
      intro hsome
      have hok := hiff.mpr hsome
      cases hok
    exact ⟨iff_of_false (by simp) hnone, rfl, htables⟩

theorem reportFailed_eq : ((handle.reportFailed lease s db).reply = .ok () ↔
        ∃ j ∈ db.tables.inviterJoins, j.heldBy lease) ∧ (handle.reportFailed lease s db).scope = s ∧
      (handle.reportFailed lease s db).db.tables = { db.tables with
        inviterJoins := db.tables.inviterJoins.map (InviterJoinRow.afterFailed lease) } := by
  rw [reportFailed, if_neg (not_not.mpr hscope.symm)]
  by_cases hsome : ∃ j ∈ db.tables.inviterJoins, j.heldBy lease
  · obtain ⟨j, hj, hheld⟩ := hsome
    obtain ⟨db', hrun, htables⟩ := reportFailedTx_run hstore hj hheld
    rw [perform_of_run h hrun]
    exact ⟨iff_of_true rfl ⟨j, hj, hheld⟩, rfl, htables⟩
  · have hsame : db.tables.inviterJoins.map (InviterJoinRow.afterFailed lease) =
        db.tables.inviterJoins :=
      map_patch_of_none fun j hj => decide_eq_false fun hheld => hsome ⟨j, hj, hheld⟩
    have hnone : ∀ reply db', (reportFailedTx lease).run db ≠ .ok (reply, db') := by
      intro reply db' hrun
      obtain ⟨-, j, hj, hheld, -⟩ := reportFailedTx_ok hrun
      exact hsome ⟨j, hj, hheld⟩
    obtain ⟨hdb, hs, e, hreply⟩ | ⟨-, -, ⟨a, hrun, -⟩ | ⟨e, hrun, -⟩⟩ :=
      perform_cases handle .internal s db (reportFailedTx lease) fun _ => (.ok (), s)
    · rw [hdb, hs, hreply, hsame]
      exact ⟨iff_of_false (by simp) hsome, rfl, rfl⟩
    · exact absurd hrun (hnone _ _)
    · exact absurd hrun (hnone _ _)

end

end SqlCipherStorage

end SessionChat.Storage
