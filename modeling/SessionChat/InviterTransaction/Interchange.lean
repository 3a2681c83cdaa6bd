import SessionChat.InviterTransaction.Conformance

/-!
# The two outboxes under one schedule

Source: `crates/session-inviter-transaction/src/lib.rs`, `crates/storage-sqlcipher/src/outbox.rs`.

`Outboxes` runs the in-memory store and the durable store under one schedule of port calls with a
clock that never goes back. A lease can be reported once, on both sides together. `Related` is
the invariant of every run in which the two stores choose the same Welcome.
-/

set_option autoImplicit false

namespace SessionChat.InviterTransaction

open Collections Transport Transition InMemoryInviterJoinStore Storage SqlCipherStorage

/-! ## The machine -/

/-- Both stores, the clock, and the leases that are given out and not yet reported. -/
structure Outboxes where
  memory : InMemoryInviterJoinStore
  scope : Scope
  db : Db
  clock : Nat
  outstanding : List Held

inductive PortCall where
  | leaseNext (leaseSeconds : Nat) (draws : Fin 4 → Id16)
  | reportAccepted (held : Held)
  | reportFailed (held : Held)

structure TimedCall where
  now : Nat
  call : PortCall

inductive PortReply where
  | leased (memory : Except OutboxPortError (Option (LeasedWelcome DeliveryLease)))
      (sql : Except OutboxPortError (Option Storage.LeasedWelcome))
  | reported (memory sql : Except OutboxPortError Unit)

def bothLeased? (expiresAt : Nat) : Except OutboxPortError (Option (LeasedWelcome DeliveryLease)) →
      Except OutboxPortError (Option Storage.LeasedWelcome) → Option Held
  | .ok (some memory), .ok (some sql) => some ⟨memory.lease, sql.lease, expiresAt⟩
  | _, _ => none

def Outboxes.step (handle : SqlCipherStorage) (p : Outboxes) (c : TimedCall) :
    Outboxes × PortReply :=
  match c.call with
  | .leaseNext leaseSeconds draws =>
      let memory := p.memory.leaseNext c.now leaseSeconds
      let sql := handle.leaseNext c.now leaseSeconds draws p.scope p.db
      ({ memory := memory.2
         scope := sql.scope
         db := sql.db
         clock := c.now
         outstanding :=
          (bothLeased? (c.now + leaseSeconds) memory.1 sql.reply).toList ++ p.outstanding },
        .leased memory.1 sql.reply)
  | .reportAccepted held =>
      let memory := p.memory.reportAccepted held.memory c.now
      let sql := handle.reportAccepted held.sql c.now p.scope p.db
      ({ memory := memory.2
         scope := sql.scope
         db := sql.db
         clock := c.now
         outstanding := p.outstanding.filter (· ≠ held) },
        .reported memory.1 sql.reply)
  | .reportFailed held =>
      let memory := p.memory.reportFailed held.memory
      let sql := handle.reportFailed held.sql p.scope p.db
      ({ memory := memory.2
         scope := sql.scope
         db := sql.db
         clock := c.now
         outstanding := p.outstanding.filter (· ≠ held) },
        .reported memory.1 sql.reply)

/-- The call may be made: the clock does not go back, a report presents a lease that is
still out, and the engine's random source does not draw four zero identifiers in a row. -/
def Outboxes.Scheduled (p : Outboxes) (c : TimedCall) : Prop :=
  p.clock ≤ c.now ∧
    match c.call with
    | .leaseNext _ draws => (randomNonzeroIdentifier draws).isSome = true
    | .reportAccepted held | .reportFailed held => held ∈ p.outstanding

/-- The outbox life of the transaction lasts as long as the lease. -/
def InMemoryInviterJoinStore.Fits (m : InMemoryInviterJoinStore) (leaseExpiresAt : Nat)
    (id : Id16) : Prop :=
  ∃ r ∈ m.commits.get? id, leaseExpiresAt ≤ r.outboxExpiresAtUnixSeconds
deriving Decidable

/-- If some pending Welcome bears the requested lease, the first one does. -/
def InMemoryInviterJoinStore.HeadFits (m : InMemoryInviterJoinStore) (now leaseSeconds : Nat) :
    Prop :=
  leaseSeconds ≤ m.policy.maximumLeaseSeconds →
    (∃ id ∈ m.pendingTransactionIds now, m.Fits (now + leaseSeconds) id) →
    ∃ id ∈ (m.pendingTransactionIds now).head?, m.Fits (now + leaseSeconds) id

/-- The condition on a call: a lease request finds a first pending Welcome that bears it,
if any does. -/
def Outboxes.HeadFits (p : Outboxes) (c : TimedCall) : Prop :=
  match c.call with
  | .leaseNext leaseSeconds _ => p.memory.HeadFits c.now leaseSeconds
  | .reportAccepted _ | .reportFailed _ => True

/-! ## Agreement -/

/-- The transaction, Welcome, endpoint and outbox expiry that the in-memory store leased. -/
def memoryDelivery? : Except OutboxPortError (Option (LeasedWelcome DeliveryLease)) →
      Option (Id16 × Bytes × Bytes × Nat)
  | .ok (some w) => some (w.lease.transactionId, w.material)
  | .ok none | .error _ => none

/-- The transaction, Welcome, endpoint and outbox expiry that the durable store leased. -/
def sqlDelivery? : Except OutboxPortError (Option Storage.LeasedWelcome) →
    Option (Id16 × Bytes × Bytes × Nat)
  | .ok (some w) => some (w.lease.transactionId, w.welcomeEnvelope, w.depositEndpoint,
      w.outboxExpiresAtUnixSeconds)
  | .ok none | .error _ => none

/-- Both have leased the same Welcome or none; both have taken the report or neither. -/
def PortReply.Agrees : PortReply → Prop
  | .leased memory sql => memoryDelivery? memory = sqlDelivery? sql
  | .reported memory sql => memory.isOk = sql.isOk

/-- The stores agree at every lease request, and at every report of a lease that has not
ended. -/
def Outboxes.AgreesAt (handle : SqlCipherStorage) (p : Outboxes) (c : TimedCall) : Prop :=
  match c.call with
  | .leaseNext _ _ => (p.step handle c).2.Agrees
  | .reportAccepted held | .reportFailed held => c.now < held.expiresAt → (p.step handle c).2.Agrees

/-! ## The invariant -/

variable {handle : SqlCipherStorage} {storeId : Id16} {p p' : Outboxes} {now : Nat}

/-- The lease was issued by these two stores. -/
structure Held.Issued (handle : SqlCipherStorage) (storeId : Id16) (m : InMemoryInviterJoinStore)
    (h : Held) : Prop where
  memoryScope : h.memory.storeScope = m.leaseScope
  sqlScope : h.sql.openScope = handle.leaseScope
  store : h.sql.storeId = storeId
  transaction : h.sql.transactionId = h.memory.transactionId
  sequence : h.memory.leaseSequence < m.nextLeaseSequence

/-- The stores hold the same transactions, record by record and row by row, and track the
same leases. -/
structure Related (handle : SqlCipherStorage) (storeId : Id16) (p : Outboxes) : Prop where
  ready : handle.Ready p.scope
  store : storeId? p.db.tables = some storeId
  limit : p.memory.policy.maximumLeaseSeconds = maximumLeaseSeconds
  size : p.memory.commits.size ≤ hardMaximumTransactions
  sequence : p.memory.nextLeaseSequence = 1 + p.memory.attemptsUsed
  rows : ∀ id, Option.Rel (Alike p.memory.policy p.clock) (p.memory.commits.get? id)
    (p.db.tables.joinAt id)
  leases : ∀ h ∈ p.outstanding, h.Issued handle storeId p.memory ∧
    ∃ r j, p.memory.commits.get? h.memory.transactionId = some r ∧
      p.db.tables.joinAt h.memory.transactionId = some j ∧ h.Tracked p.clock r j
  distinct : ∀ a ∈ p.outstanding, ∀ b ∈ p.outstanding,
    a.memory.leaseSequence = b.memory.leaseSequence → a = b

namespace Related

section

variable (h : Related handle storeId p)
include h

theorem row_of_record {id : Id16} {r : CommittedRecord} (hr : p.memory.commits.get? id = some r) :
    ∃ j ∈ p.db.tables.inviterJoins, j.transactionId = id ∧ p.db.tables.joinAt id = some j ∧
      Alike p.memory.policy p.clock r j := by
  have hrel := h.rows id
  rw [hr] at hrel
  generalize hj : p.db.tables.joinAt id = row at hrel
  cases hrel with
  | @some _ j halike =>
    obtain ⟨hmem, hid⟩ := joinAt_eq_some.mp hj
    exact ⟨j, hmem, hid, rfl, halike⟩

theorem record_of_row {j : InviterJoinRow} (hj : j ∈ p.db.tables.inviterJoins) :
    ∃ r, p.memory.commits.get? j.transactionId = some r ∧
      Alike p.memory.policy p.clock r j := by
  have hrel := h.rows j.transactionId
  rw [joinAt_eq_some.mpr ⟨hj, rfl⟩] at hrel
  generalize hr : p.memory.commits.get? j.transactionId = record at hrel
  cases hrel with
  | @some r _ halike => exact ⟨r, rfl, halike⟩

/-- The sequence numbers never run out. -/
theorem sequence_lt : p.memory.nextLeaseSequence + 1 < 2 ^ 64 := by
  have hused : p.memory.attemptsUsed ≤ p.memory.commits.size * 32 := by
    refine OrderedMap.sum_le_size_mul fun id r hr => ?_
    obtain ⟨j, hj, -, -, halike⟩ := h.row_of_record hr
    have hle := Storage.InviterJoinRow.attempts_le (p.db.isValid.inviterJoins.1 j hj)
    have hmax := p.memory.policy.bounded.2.2.2.2.2.2.1
    rw [halike.attempts]
    exact hle.trans (halike.maximum.trans_le hmax)
  have hsize := h.size
  have hsequence := h.sequence
  simp only [hardMaximumTransactions] at hsize
  omega

end

end Related

/-! ## A lease request -/

/-- The condition in terms of the first pending record. -/
theorem headFits_iff {m : InMemoryInviterJoinStore} {leaseSeconds : Nat} :
    m.HeadFits now leaseSeconds ↔ (leaseSeconds ≤ m.policy.maximumLeaseSeconds →
        (∃ id r, m.commits.get? id = some r ∧ m.pending now r = true ∧
          now + leaseSeconds ≤ r.outboxExpiresAtUnixSeconds) →
        ∃ e ∈ m.nextPending now, now + leaseSeconds ≤ e.2.outboxExpiresAtUnixSeconds) := by
  refine imp_congr_right fun _ => imp_congr ?_ ?_
  · simp only [mem_pendingTransactionIds]
    constructor
    · rintro ⟨id, ⟨r, hr, hpending⟩, r', hr', hfits⟩
      rw [hr] at hr'
      cases hr'
      exact ⟨id, r, hr, hpending, hfits⟩
    · rintro ⟨id, r, hr, hpending, hfits⟩
      exact ⟨id, ⟨r, hr, hpending⟩, r, hr, hfits⟩
  · rw [InMemoryInviterJoinStore.head?_pendingTransactionIds]
    cases hnext : m.nextPending now with
    | none => simp
    | some e =>
      obtain ⟨hr, -⟩ := nextPending_eq_some hnext
      simp [InMemoryInviterJoinStore.Fits, hr]

/-- What a lease request comes to on the two sides. -/
inductive LeaseOutcome (handle : SqlCipherStorage) (storeId : Id16) (p : Outboxes)
    (now leaseSeconds : Nat) (draws : Fin 4 → Id16) : Prop where
  /-- Neither leases; each side may have kept house. -/
  | quiet (result : Except OutboxPortError (Option (LeasedWelcome DeliveryLease)))
      (m : InMemoryInviterJoinStore)
      (answer : Except OutboxPortError (Option Storage.LeasedWelcome))
      (db : Db) (hmemory : p.memory.leaseNext now leaseSeconds = (result, m))
      (hsql : handle.leaseNext now leaseSeconds draws p.scope p.db = ⟨answer, p.scope, db⟩)
      (hresult : memoryDelivery? result = none) (hanswer : sqlDelivery? answer = none)
      (hm : m = p.memory ∨ m = p.memory.exhaust now)
      (hdb : db.tables = p.db.tables ∨ db.tables = { p.db.tables with
        inviterJoins := p.db.tables.inviterJoins.map (InviterJoinRow.kept now) })
      (hfits : p.memory.HeadFits now leaseSeconds)
  /-- Both lease the same Welcome. -/
  | leased (id leaseId : Id16) (r : CommittedRecord) (j : InviterJoinRow) (db : Db)
      (hr : p.memory.commits.get? id = some r) (hpending : p.memory.pending now r = true)
      (hj : p.db.tables.joinAt id = some j) (hlife : now + leaseSeconds ≤ j.outboxExpiresAt)
      (hpos : 0 < leaseSeconds)
      (hmemory : p.memory.leaseNext now leaseSeconds =
        (.ok (some ⟨⟨p.memory.leaseScope, id, p.memory.nextLeaseSequence⟩, r.welcomeEnvelope,
          r.depositEndpoint, r.outboxExpiresAtUnixSeconds⟩),
          p.memory.afterLease id now leaseSeconds))
      (hsql : handle.leaseNext now leaseSeconds draws p.scope p.db =
        ⟨.ok (some (j.welcomeUnder handle.leaseScope storeId leaseId)), p.scope, db⟩)
      (hdb : db.tables = { p.db.tables with
        inviterJoins := p.db.tables.inviterJoins.map
          (j.afterLease now (now + leaseSeconds) leaseId) })
      (hfits : p.memory.HeadFits now leaseSeconds)
  /-- The durable store leases a Welcome and the in-memory store does not get past its
  first pending one. -/
  | blocked (result : Except OutboxPortError (Option (LeasedWelcome DeliveryLease)))
      (m : InMemoryInviterJoinStore) (w : Storage.LeasedWelcome) (db : Db)
      (hmemory : p.memory.leaseNext now leaseSeconds = (result, m))
      (hsql : handle.leaseNext now leaseSeconds draws p.scope p.db =
        ⟨.ok (some w), p.scope, db⟩)
      (hresult : memoryDelivery? result = none)
      (hfits : ¬p.memory.HeadFits now leaseSeconds)

namespace Related

variable {leaseSeconds : Nat} {draws : Fin 4 → Id16} {leaseId : Id16} {j : InviterJoinRow}

section

variable (h : Related handle storeId p)
include h

/-- A row as the durable store needs it for a lease. -/
theorem sendable (hj : j ∈ p.db.tables.inviterJoins) : j.Sendable := by
  obtain ⟨r, -, halike⟩ := h.record_of_row hj
  refine ⟨halike.material, ?_⟩
  have hle := Storage.InviterJoinRow.attempts_le (p.db.isValid.inviterJoins.1 j hj)
  have hmax := p.memory.policy.bounded.2.2.2.2.2.2.1
  rw [halike.generation, i64Max]
  have := halike.maximum
  omega

theorem lease_of_not_leasable (hguard : ¬SqlCipherStorage.leasable now leaseSeconds) :
    LeaseOutcome handle storeId p now leaseSeconds draws := by
  have hsql := leaseNext_of_not_leasable handle p.scope p.db draws hguard
  by_cases hleasable : p.memory.leasable now leaseSeconds
  · -- the request would outlive every row
    have hshort : ∀ id r, p.memory.commits.get? id = some r →
        r.outboxExpiresAtUnixSeconds < now + leaseSeconds := by
      intro id r hr
      obtain ⟨j, -, -, -, halike⟩ := h.row_of_record hr
      have hlarge : ¬now + leaseSeconds ≤ i64Max :=
        fun hsmall => hguard ⟨hleasable.1, h.limit ▸ hleasable.2.1, hsmall⟩
      have := halike.representable
      have := halike.expires
      omega
    have hfits : p.memory.HeadFits now leaseSeconds := by
      refine headFits_iff.mpr fun _ => ?_
      rintro ⟨id, r, hr, -, hfits⟩
      have := hshort id r hr
      omega
    cases hnext : p.memory.nextPending now with
    | none =>
      exact .quiet _ _ _ _ (leaseNext_none hleasable hnext) hsql rfl rfl
        (.inr rfl) (.inl rfl) hfits
    | some e =>
      obtain ⟨id, r⟩ := e
      obtain ⟨hr, -, -⟩ := nextPending_eq_some hnext
      obtain ⟨j, -, hid, -, halike⟩ := h.row_of_record hr
      exact .quiet _ _ _ _ (leaseNext_blocked hleasable
        (hid ▸ halike.transactionId) hnext (hshort id r hr)) hsql rfl rfl (.inr rfl) (.inl rfl)
        hfits
  · refine .quiet _ _ _ _ (leaseNext_of_not_leasable hleasable) hsql rfl
      rfl (.inl rfl) (.inl rfl) (headFits_iff.mpr fun hmax => ?_)
    -- a request the in-memory store refuses within its limit is one for no time at all
    rintro ⟨id, r, hr, hpending, hfits⟩
    cases hnext : p.memory.nextPending now with
    | none =>
      rw [nextPending_eq_none.mp hnext id r hr] at hpending
      cases hpending
    | some e =>
      obtain ⟨hr', hpending', -⟩ := nextPending_eq_some hnext
      obtain ⟨j, -, -, -, halike⟩ := h.row_of_record hr
      have hzero : leaseSeconds = 0 := by
        by_contra hpos
        refine hleasable ⟨hpos, hmax, ?_⟩
        have hrepresentable := halike.representable
        have hexpires := halike.expires
        simp only [i64Max] at hrepresentable
        omega
      simp only [InMemoryInviterJoinStore.pending, Bool.and_eq_true, decide_eq_true_eq]
        at hpending'
      exact ⟨e, rfl, by omega⟩

/-- A row is eligible exactly if its record is pending and bears the lease. -/
theorem eligible_row (hclock : p.clock ≤ now) (hj : j ∈ p.db.tables.inviterJoins)
    {leaseExpiresAt : Nat} (hnow : now < leaseExpiresAt)
    (heligible : j.eligible now leaseExpiresAt = true) :
    ∃ r, p.memory.commits.get? j.transactionId = some r ∧ p.memory.pending now r = true ∧
      leaseExpiresAt ≤ r.outboxExpiresAtUnixSeconds := by
  obtain ⟨r, hr, halike⟩ := h.record_of_row hj
  obtain ⟨hpending, hfits⟩ := (halike.eligible_iff hclock hnow).mp heligible
  exact ⟨r, hr, hpending, hfits⟩

theorem lease_of_leasable (hclock : p.clock ≤ now)
    (hguard : SqlCipherStorage.leasable now leaseSeconds)
    (hdraw : randomNonzeroIdentifier draws = some leaseId) :
    LeaseOutcome handle storeId p now leaseSeconds draws := by
  obtain ⟨hpos, hmax, hsmall⟩ := id hguard
  have hnow : now < now + leaseSeconds := by omega
  have hleasable : p.memory.leasable now leaseSeconds :=
    ⟨hpos, h.limit ▸ hmax, by simp only [i64Max] at hsmall; omega⟩
  have hperform := leaseNext_of_leasable handle p.scope p.db draws hguard
  cases hnext : p.memory.nextPending now with
  | none =>
    have hnone : ∀ j ∈ p.db.tables.inviterJoins,
        j.eligible now (now + leaseSeconds) = false := by
      intro j hj
      by_contra heligible
      obtain ⟨r, hr, hpending, -⟩ := h.eligible_row hclock hj hnow (by simpa using heligible)
      rw [nextPending_eq_none.mp hnext _ r hr] at hpending
      cases hpending
    obtain ⟨db', hrun, htables⟩ := leaseNextTx_run_none handle.leaseScope draws hnow
      hnone
    refine .quiet _ _ _ _ (leaseNext_none hleasable hnext)
      (hperform.trans (perform_of_run h.ready hrun)) rfl rfl (.inr rfl)
      (.inr htables) (headFits_iff.mpr fun _ => ?_)
    rintro ⟨id, r, hr, hpending, -⟩
    rw [nextPending_eq_none.mp hnext id r hr] at hpending
    cases hpending
  | some e =>
    obtain ⟨id, r⟩ := e
    obtain ⟨hr, hpending, hleast⟩ := nextPending_eq_some hnext
    obtain ⟨j, hj, hid, hat, halike⟩ := h.row_of_record hr
    have hne : id ≠ 0 := hid ▸ halike.transactionId
    by_cases hfits : now + leaseSeconds ≤ r.outboxExpiresAtUnixSeconds
    · -- the first pending Welcome is the least eligible row
      have hselects : p.db.tables.Selects now (now + leaseSeconds) j := by
        refine ⟨hj, (halike.eligible_iff hclock hnow).mpr ⟨hpending, hfits⟩, ?_⟩
        intro k hk heligible
        obtain ⟨r', hr', hpending', -⟩ := h.eligible_row hclock hk hnow heligible
        exact hid ▸ hleast _ r' hr' hpending'
      obtain ⟨db', hrun, htables⟩ := leaseNextTx_run_some handle.leaseScope
        hdraw h.store hnow hselects (h.sendable hj)
      exact .leased id leaseId r j db' hr hpending hat (halike.expires ▸ hfits) (by omega)
        (leaseNext_leased hleasable hne hnext hfits h.sequence_lt)
        (hperform.trans (perform_of_run h.ready hrun)) htables
        (headFits_iff.mpr fun _ _ => ⟨_, hnext, hfits⟩)
    · have hblocked := leaseNext_blocked hleasable hne hnext
        (Nat.not_le.mp hfits)
      obtain ⟨k, -, -, hk⟩ | hnone :=
        selects_or_none p.db.tables now (now + leaseSeconds)
      · obtain ⟨db', hrun, -⟩ := leaseNextTx_run_some handle.leaseScope
          hdraw h.store hnow hk (h.sendable hk.mem)
        refine .blocked _ _ _ _ hblocked
          (hperform.trans (perform_of_run h.ready hrun)) rfl fun hhead => ?_
        obtain ⟨r', hr', hpending', hfits'⟩ := h.eligible_row hclock hk.mem hnow hk.eligible
        obtain ⟨e, he, hefits⟩ := headFits_iff.mp hhead (h.limit ▸ hmax)
          ⟨_, r', hr', hpending', hfits'⟩
        rw [hnext] at he
        cases he
        exact hfits hefits
      · obtain ⟨db', hrun, htables⟩ := leaseNextTx_run_none handle.leaseScope draws
          hnow hnone
        refine .quiet _ _ _ _ hblocked
          (hperform.trans (perform_of_run h.ready hrun)) rfl rfl (.inr rfl)
          (.inr htables) (headFits_iff.mpr fun _ => ?_)
        rintro ⟨id', r', hr', hpending', hfits'⟩
        obtain ⟨k, hk, -, -, halike'⟩ := h.row_of_record hr'
        have := hnone k hk
        rw [(halike'.eligible_iff hclock hnow).mpr ⟨hpending', hfits'⟩] at this
        cases this

theorem lease_cases (leaseSeconds : Nat) (hclock : p.clock ≤ now)
    (hdraw : (randomNonzeroIdentifier draws).isSome = true) :
    LeaseOutcome handle storeId p now leaseSeconds draws := by
  by_cases hguard : SqlCipherStorage.leasable now leaseSeconds
  · obtain ⟨leaseId, hleaseId⟩ := Option.isSome_iff_exists.mp hdraw
    exact h.lease_of_leasable hclock hguard hleaseId
  · exact h.lease_of_not_leasable hguard

end

end Related

/-! ## The invariant along a run -/

namespace Related

variable {m : InMemoryInviterJoinStore} {db : Db} {outstanding : List Held}
  {f : Id16 → CommittedRecord → CommittedRecord} {g : InviterJoinRow → InviterJoinRow}

/-- A step that rewrites records and rows one by one. -/
theorem advance (h : Related handle storeId p) (hpolicy : m.policy = p.memory.policy)
    (hscope : m.leaseScope = p.memory.leaseScope) (hsize : m.commits.size = p.memory.commits.size)
    (hsequence : m.nextLeaseSequence = 1 + m.attemptsUsed)
    (hmono : p.memory.nextLeaseSequence ≤ m.nextLeaseSequence)
    (hget : ∀ id, m.commits.get? id = (p.memory.commits.get? id).map (f id))
    (hdb : db.tables = { p.db.tables with inviterJoins := p.db.tables.inviterJoins.map g })
    (hg : ∀ j, (g j).transactionId = j.transactionId)
    (hrows : ∀ id r j, p.memory.commits.get? id = some r → p.db.tables.joinAt id = some j →
      Alike p.memory.policy p.clock r j → Alike p.memory.policy now (f id r) (g j))
    (hsubset : outstanding ⊆ p.outstanding) (htracked : ∀ held ∈ outstanding, ∀ r j,
      p.memory.commits.get? held.memory.transactionId = some r →
      p.db.tables.joinAt held.memory.transactionId = some j → held.Tracked p.clock r j →
      held.Tracked now (f held.memory.transactionId r) (g j)) :
    Related handle storeId ⟨m, p.scope, db, now, outstanding⟩ where
  ready := h.ready
  store := by
    simp only [hdb]
    exact h.store
  limit := hpolicy ▸ h.limit
  size := hsize ▸ h.size
  sequence := hsequence
  rows := by
    intro id
    have hrel := h.rows id
    simp only [hget, joinAt_map hdb hg, hpolicy]
    generalize hr : p.memory.commits.get? id = record at hrel ⊢
    generalize hj : p.db.tables.joinAt id = row at hrel ⊢
    cases hrel with
    | none => exact .none
    | some halike => exact .some (hrows id _ _ hr hj halike)
  leases := by
    intro held hheld
    obtain ⟨hissued, r, j, hr, hj, htrack⟩ := h.leases held (hsubset hheld)
    refine ⟨⟨hissued.memoryScope.trans hscope.symm, hissued.sqlScope, hissued.store,
      hissued.transaction, hissued.sequence.trans_le hmono⟩, f _ r, g j, ?_, ?_,
      htracked held hheld r j hr hj htrack⟩
    · rw [hget, hr, Option.map_some]
    · rw [joinAt_map hdb hg, hj, Option.map_some]
  distinct := by
    intro a ha b hb hsame
    exact h.distinct a (hsubset ha) b (hsubset hb) hsame

variable {held : Held} {r : CommittedRecord} {j : InviterJoinRow} {c : TimedCall}

/-- A lease that both stores have just issued is tracked from now on. -/
theorem issue (h : Related handle storeId p) (hissued : held.Issued handle storeId p.memory)
    (hfresh : ∀ a ∈ p.outstanding, a.memory.leaseSequence < held.memory.leaseSequence)
    (hr : p.memory.commits.get? held.memory.transactionId = some r)
    (hj : p.db.tables.joinAt held.memory.transactionId = some j)
    (htracked : held.Tracked p.clock r j) :
    Related handle storeId { p with outstanding := held :: p.outstanding } where
  ready := h.ready
  store := h.store
  limit := h.limit
  size := h.size
  sequence := h.sequence
  rows := h.rows
  leases := by
    intro a ha
    obtain rfl | ha := List.mem_cons.mp ha
    · exact ⟨hissued, r, j, hr, hj, htracked⟩
    · exact h.leases a ha
  distinct := by
    intro a ha b hb hsame
    obtain rfl | ha' := List.mem_cons.mp ha <;> obtain rfl | hb' := List.mem_cons.mp hb
    · rfl
    · have := hfresh b hb'
      omega
    · have := hfresh a ha'
      omega
    · exact h.distinct a ha' b hb' hsame

theorem check_joinAt {id : Id16} (hj : p.db.tables.joinAt id = some j) :
    Storage.inviterJoinConstraints.check j = true :=
  p.db.isValid.inviterJoins.1 j (joinAt_eq_some.mp hj).1

section

variable (h : Related handle storeId p) (hclock : p.clock ≤ now)
include h hclock

theorem quiet (hm : m = p.memory ∨ m = p.memory.exhaust now)
    (hdb : db.tables = p.db.tables ∨ db.tables =
      { p.db.tables with inviterJoins := p.db.tables.inviterJoins.map (InviterJoinRow.kept now) }) :
    Related handle storeId ⟨m, p.scope, db, now, p.outstanding⟩ := by
  obtain ⟨f, hf, hget, hpolicy, hscope, hnext, hused, hsize⟩ : ∃ f : CommittedRecord →
      CommittedRecord, (∀ r, f r = r ∨ f r = p.memory.exhausted now r) ∧
      (∀ id, m.commits.get? id = (p.memory.commits.get? id).map f) ∧
      m.policy = p.memory.policy ∧ m.leaseScope = p.memory.leaseScope ∧
      m.nextLeaseSequence = p.memory.nextLeaseSequence ∧
      m.attemptsUsed = p.memory.attemptsUsed ∧ m.commits.size = p.memory.commits.size := by
    obtain rfl | rfl := hm
    · exact ⟨id, fun r => .inl rfl, fun _ => Option.map_id.symm ▸ rfl, rfl, rfl, rfl, rfl, rfl⟩
    · exact ⟨p.memory.exhausted now, fun r => .inr rfl,
        fun _ => InMemoryInviterJoinStore.get?_exhaust, rfl, rfl, rfl,
        attemptsUsed_exhaust _ _, OrderedMap.size_mapValues _ _⟩
  obtain ⟨g, hg, htables, hid⟩ : ∃ g : InviterJoinRow → InviterJoinRow,
      (∀ j, g j = j ∨ g j = j.kept now) ∧ db.tables = { p.db.tables with
        inviterJoins := p.db.tables.inviterJoins.map g } ∧
      ∀ j, (g j).transactionId = j.transactionId := by
    obtain hdb | hdb := hdb
    · exact ⟨id, fun j => .inl rfl, by rw [hdb, List.map_id], fun _ => rfl⟩
    · exact ⟨InviterJoinRow.kept now, fun j => .inr rfl, hdb,
        InviterJoinRow.kept_transactionId now⟩
  refine h.advance (f := fun _ => f) (g := g) hpolicy hscope hsize ?_ hnext.ge hget htables hid
    ?_ (List.Subset.refl _) ?_
  · rw [hnext, hused]
    exact h.sequence
  · intro id r j _ hj halike
    exact halike.housekept hclock (check_joinAt hj) (hf r) (hg j)
  · intro held _ r j _ _ htracked
    exact htracked.housekept hclock (hf r) (hg j)

/-- Both stores lease the same Welcome. -/
theorem leased {leaseSeconds : Nat} {id leaseId : Id16} (hr : p.memory.commits.get? id = some r)
    (hpending : p.memory.pending now r = true) (hj : p.db.tables.joinAt id = some j)
    (hlife : now + leaseSeconds ≤ j.outboxExpiresAt)
    (hdb : db.tables = { p.db.tables with
      inviterJoins := p.db.tables.inviterJoins.map
        (j.afterLease now (now + leaseSeconds) leaseId) }) :
    Related handle storeId
      { memory := p.memory.afterLease id now leaseSeconds
        scope := p.scope
        db := db
        clock := now
        outstanding :=
          { memory := ⟨p.memory.leaseScope, id, p.memory.nextLeaseSequence⟩
            sql := (j.welcomeUnder handle.leaseScope storeId leaseId).lease
            expiresAt := now + leaseSeconds } :: p.outstanding } := by
  obtain ⟨hmem, hid⟩ := joinAt_eq_some.mp hj
  have havailable : r.outbox.available now = true :=
    (Bool.and_eq_true_iff.mp hpending).2
  let leaseRecord := CommittedRecord.leasedAs p.memory.nextLeaseSequence (now + leaseSeconds)
  let f : Id16 → CommittedRecord → CommittedRecord := fun id' r' =>
    if id' = id then leaseRecord (p.memory.exhausted now r') else p.memory.exhausted now r'
  have hget : ∀ id', (p.memory.afterLease id now leaseSeconds).commits.get? id' =
      (p.memory.commits.get? id').map (f id') := by
    intro id'
    simp only [InMemoryInviterJoinStore.afterLease, OrderedMap.modify, OrderedMap.get?_mapValues,
      InMemoryInviterJoinStore.get?_exhaust, Option.map_map]
    congr 1
  have hkeep : ∀ k : InviterJoinRow,
      (j.afterLease now (now + leaseSeconds) leaseId k).transactionId = k.transactionId := by
    intro k
    unfold InviterJoinRow.afterLease
    split
    · rfl
    · exact k.kept_transactionId now
  -- the leased record and row, and all others
  have hself : ∀ r' j', p.memory.commits.get? id = some r' → p.db.tables.joinAt id = some j' →
      f id r' = leaseRecord r ∧ j.afterLease now (now + leaseSeconds) leaseId j' =
        j.leasedAs (j.leaseGeneration + 1) leaseId (now + leaseSeconds) := by
    intro r' j' hr' hj'
    rw [hr] at hr'
    rw [hj] at hj'
    cases hr'
    cases hj'
    simp only [f, if_true, exhausted_of_pending hpending,
      InviterJoinRow.afterLease]
    trivial
  have hother : ∀ id' r' j', id' ≠ id → p.db.tables.joinAt id' = some j' →
      f id' r' = p.memory.exhausted now r' ∧
        j.afterLease now (now + leaseSeconds) leaseId j' = j'.kept now := by
    intro id' r' j' hne hj'
    have hne' : j'.transactionId ≠ j.transactionId := by
      rw [(joinAt_eq_some.mp hj').2, hid]
      exact hne
    exact ⟨if_neg hne, if_neg hne'⟩
  have hadvanced : Related handle storeId
      ⟨p.memory.afterLease id now leaseSeconds, p.scope, db, now, p.outstanding⟩ := by
    refine h.advance (f := f) rfl rfl ?_ ?_ (Nat.le_succ _) hget hdb hkeep ?_
      (List.Subset.refl _) ?_
    · exact (OrderedMap.size_modify _ _ _).trans (OrderedMap.size_mapValues _ _)
    · rw [attemptsUsed_afterLease hr, ← Nat.add_assoc, ← h.sequence]
      rfl
    · intro id' r' j' hr' hj' halike
      by_cases hid' : id' = id
      · subst hid'
        obtain ⟨hf, hg⟩ := hself r' j' hr' hj'
        rw [hr] at hr'
        rw [hj] at hj'
        cases hr'
        cases hj'
        rw [hf, hg]
        exact halike.leased _ leaseId hlife
      · obtain ⟨hf, hg⟩ := hother id' r' j' hid' hj'
        rw [hf, hg]
        exact halike.housekept hclock (check_joinAt hj') (.inr rfl) (.inr rfl)
    · intro held hheld r' j' hr' hj' htracked
      by_cases hid' : held.memory.transactionId = id
      · rw [hid'] at hr' hj' ⊢
        obtain ⟨hf, hg⟩ := hself r' j' hr' hj'
        rw [hr] at hr'
        rw [hj] at hj'
        cases hr'
        cases hj'
        rw [hf, hg]
        exact htracked.superseded hclock havailable (h.leases held hheld).1.sequence leaseId
      · obtain ⟨hf, hg⟩ := hother _ r' j' hid' hj'
        rw [hf, hg]
        exact htracked.housekept hclock (.inr rfl) (.inr rfl)
  obtain ⟨hfself, hgself⟩ := hself r j hr hj
  refine hadvanced.issue (r := leaseRecord r)
    (j := j.leasedAs (j.leaseGeneration + 1) leaseId (now + leaseSeconds)) ?_ ?_ ?_ ?_ ?_
  · exact ⟨rfl, rfl, rfl, hid, Nat.lt_succ_self _⟩
  · intro a ha
    exact (h.leases a ha).1.sequence
  · rw [hget id, hr, Option.map_some, hfself]
  · rw [joinAt_map hdb hkeep id, hj, Option.map_some, hgself]
  · refine ⟨Nat.le_refl _, ?_, fun _ => ⟨rfl, rfl, rfl, hlife⟩⟩
    rintro q e ⟨⟩ -
    exact iff_of_true rfl ⟨rfl, rfl, rfl, rfl⟩

section

variable (hheld : held ∈ p.outstanding)
include hheld

/-- Both stores take the report of a lease that is out. -/
theorem reported {f : CommittedRecord → CommittedRecord}
    (hreports : Reports p.memory.policy now held f g)
    (hm : m = p.memory.update held.memory.transactionId f)
    (hdb : db.tables = { p.db.tables with inviterJoins := p.db.tables.inviterJoins.map g }) :
    Related handle storeId ⟨m, p.scope, db, now, p.outstanding.filter (· ≠ held)⟩ := by
  obtain ⟨hissued, r₀, j₀, hr₀, hj₀, htracked₀⟩ := h.leases held hheld
  let f' : Id16 → CommittedRecord → CommittedRecord := fun id r =>
    if id = held.memory.transactionId then f r else r
  have hself : ∀ r, f' held.memory.transactionId r = f r := fun r => if_pos rfl
  have hother : ∀ id r j, id ≠ held.memory.transactionId → p.db.tables.joinAt id = some j →
      f' id r = r ∧ g j = j := by
    intro id r j hne hj
    refine ⟨if_neg hne, hreports.not_held j fun hheldBy => hne ?_⟩
    rw [← (joinAt_eq_some.mp hj).2, hheldBy.1, hissued.transaction]
  subst hm
  refine h.advance (f := f') (g := g) rfl rfl (OrderedMap.size_modify _ _ _) ?_ le_rfl
    (fun id => InMemoryInviterJoinStore.get?_update id) hdb
    (fun j => (hreports.closes j).transactionId) ?_ (List.filter_subset_self _) ?_
  · rw [attemptsUsed_update fun r => (hreports.settles r).deliveryAttempts]
    exact h.sequence
  · intro id r j hr hj halike
    by_cases hid : id = held.memory.transactionId
    · subst hid
      rw [hr₀] at hr
      rw [hj₀] at hj
      cases hr
      cases hj
      rw [hself]
      exact halike.reported hclock htracked₀ hreports
    · obtain ⟨hf, hg⟩ := hother id r j hid hj
      rw [hf, hg]
      exact halike.mono hclock
  · intro other hmem r j hr hj htracked
    obtain ⟨hother', hne⟩ := List.mem_filter.mp hmem
    have hsequence : other.memory.leaseSequence ≠ held.memory.leaseSequence :=
      fun hsame => of_decide_eq_true hne (h.distinct other hother' held hheld hsame)
    by_cases hid : other.memory.transactionId = held.memory.transactionId
    · rw [hid] at hr hj ⊢
      rw [hr₀] at hr
      rw [hj₀] at hj
      cases hr
      cases hj
      rw [hself]
      exact htracked.reported hclock htracked₀ hreports hsequence
    · obtain ⟨hf, hg⟩ := hother _ r j hid hj
      rw [hf, hg]
      exact htracked.step hclock (.inl rfl) (.inl rfl) fun _ => ⟨rfl, rfl⟩

theorem reportAccepted : Related handle storeId (p.step handle ⟨now, .reportAccepted held⟩).1 := by
  obtain ⟨hissued, -⟩ := h.leases held hheld
  have hm : (p.memory.reportAccepted held.memory now).2 = p.memory.update
      held.memory.transactionId (InMemoryInviterJoinStore.afterAccepted held.memory now) :=
    completeDelivery_store hissued.memoryScope
  by_cases hsmall : now ≤ i64Max
  · obtain ⟨-, hscope, hdb⟩ := reportAccepted_eq h.ready hissued.sqlScope
      (hissued.store ▸ h.store) hsmall
    have hkept := h.reported hclock hheld
      (reports_accepted p.memory.policy now held (.inl rfl)) hm hdb
    simp only [Outboxes.step, hscope]
    exact hkept
  · have hanswer : handle.reportAccepted held.sql now p.scope p.db =
        ⟨.error .conflict, p.scope, p.db⟩ := by
      rw [SqlCipherStorage.reportAccepted, if_pos (.inl (by omega))]
    have hkept := h.reported (g := id) hclock hheld
      (reports_accepted p.memory.policy now held (.inr ⟨by omega, rfl⟩)) hm
      (show p.db.tables = _ by rw [List.map_id])
    simp only [Outboxes.step, hanswer]
    exact hkept

theorem reportFailed : Related handle storeId (p.step handle ⟨now, .reportFailed held⟩).1 := by
  obtain ⟨hissued, -⟩ := h.leases held hheld
  have hm : (p.memory.reportFailed held.memory).2 = p.memory.update
      held.memory.transactionId (p.memory.afterFailed held.memory) :=
    failDelivery_store hissued.memoryScope
  obtain ⟨-, hscope, hdb⟩ := reportFailed_eq h.ready
    hissued.sqlScope (hissued.store ▸ h.store)
  have hkept := h.reported hclock hheld (reports_failed p.memory now held) hm hdb
  simp only [Outboxes.step, hscope]
  exact hkept

end

end

/-- A scheduled call that meets the condition keeps the stores related. -/
theorem step (h : Related handle storeId p) (hscheduled : p.Scheduled c) (hfits : p.HeadFits c) :
    Related handle storeId (p.step handle c).1 := by
  obtain ⟨now, call⟩ := c
  obtain ⟨hclock, hcall⟩ := hscheduled
  cases call with
  | leaseNext leaseSeconds draws =>
    obtain ⟨result, m, answer, db, hmemory, hsql, hresult, -, hm, hdb, -⟩ | ⟨id, leaseId, r, j,
      db, hr, hpending, hj, hlife, -, hmemory, hsql, hdb, -⟩ | ⟨-, -, -, -, -, -, -, hblocked⟩ :=
      h.lease_cases leaseSeconds hclock hcall
    · have hnone : bothLeased? (now + leaseSeconds) result answer = none := by
        obtain _ | _ | w := result
        · rfl
        · rfl
        · cases hresult
      simp only [Outboxes.step, hmemory, hsql, hnone]
      exact h.quiet hclock hm hdb
    · simp only [Outboxes.step, hmemory, hsql]
      exact h.leased hclock hr hpending hj hlife hdb
    · exact absurd hfits hblocked
  | reportAccepted held => exact h.reportAccepted hclock hcall
  | reportFailed held => exact h.reportFailed hclock hcall

/-- A lease that has not ended is the one that record and row are under. -/
theorem current (h : Related handle storeId p) (hclock : p.clock ≤ now)
    (hheld : held ∈ p.outstanding) (hnow : now < held.expiresAt) :
    ∃ r j, p.memory.commits.get? held.memory.transactionId = some r ∧
      r.outbox = .leased held.memory.leaseSequence held.expiresAt ∧
      now < r.outboxExpiresAtUnixSeconds ∧ j ∈ p.db.tables.inviterJoins ∧ j.heldBy held.sql ∧
      j.Timely now ∧ now ≤ i64Max := by
  obtain ⟨-, r, j, hr, hj, htracked⟩ := h.leases held hheld
  obtain ⟨hleased, hsame⟩ := htracked.current (by omega)
  obtain ⟨j', hmem, -, hj', halike⟩ := h.row_of_record hr
  rw [hj] at hj'
  cases hj'
  have hheldBy := (htracked.same _ _ hleased hsame).mp rfl
  rw [hleased] at hsame
  obtain ⟨-, hexpires, hlife⟩ := hsame
  have hrepresentable := halike.representable
  refine ⟨r, j, hr, hleased, ?_, hmem, hheldBy, ⟨⟨_, hexpires, hnow⟩, ?_⟩, ?_⟩
  · rw [halike.expires]
    omega
  · omega
  · omega

/-- On related stores the next call is agreed on exactly if it meets the condition. -/
theorem agreesAt_iff (h : Related handle storeId p) (hscheduled : p.Scheduled c) :
    p.AgreesAt handle c ↔ p.HeadFits c := by
  obtain ⟨now, call⟩ := c
  obtain ⟨hclock, hcall⟩ := hscheduled
  cases call with
  | leaseNext leaseSeconds draws =>
    simp only [Outboxes.AgreesAt, Outboxes.step, PortReply.Agrees]
    obtain ⟨result, m, answer, db, hmemory, hsql, hresult, hanswer, -, -, hfits⟩ | ⟨id, leaseId,
      r, j, db, hr, -, hj, -, -, hmemory, hsql, -, hfits⟩ | ⟨result, m, w, db, hmemory, hsql,
      hresult, hblocked⟩ := h.lease_cases leaseSeconds hclock hcall
    · rw [hmemory, hsql, hresult, hanswer]
      exact iff_of_true rfl hfits
    · obtain ⟨j', -, hid, hj', halike⟩ := h.row_of_record hr
      rw [hj] at hj'
      cases hj'
      rw [hmemory, hsql]
      refine iff_of_true ?_ hfits
      simp only [memoryDelivery?, sqlDelivery?, LeasedWelcome.material,
        InviterJoinRow.welcomeUnder, hid, halike.welcome, halike.endpoint, halike.expires]
    · rw [hmemory, hsql, hresult]
      exact iff_of_false (by rintro ⟨⟩) hblocked
  | reportAccepted held =>
    refine iff_of_true ?_ trivial
    intro hnow
    obtain ⟨hissued, -⟩ := h.leases held hcall
    obtain ⟨r, j, hr, hleased, hlife, hj, hheldBy, htimely, hsmall⟩ := h.current hclock hcall hnow
    have hmemory := completeDelivery_of_current hissued.memoryScope hr
      hleased hnow hlife
    have hsql := (reportAccepted_eq h.ready hissued.sqlScope
      (hissued.store ▸ h.store) hsmall).1.mpr ⟨j, hj, decide_eq_true ⟨hheldBy, htimely⟩⟩
    simp only [Outboxes.step, InMemoryInviterJoinStore.reportAccepted, hmemory,
      hsql]
    rfl
  | reportFailed held =>
    refine iff_of_true ?_ trivial
    intro hnow
    obtain ⟨hissued, -⟩ := h.leases held hcall
    obtain ⟨r, j, hr, hleased, -, hj, hheldBy, -, -⟩ := h.current hclock hcall hnow
    have hmemory := failDelivery_of_current hissued.memoryScope hr hleased
    have hsql := (reportFailed_eq h.ready hissued.sqlScope
      (hissued.store ▸ h.store)).1.mpr ⟨j, hj, hheldBy⟩
    simp only [Outboxes.step, InMemoryInviterJoinStore.reportFailed, hmemory,
      hsql]
    rfl

end Related

end SessionChat.InviterTransaction
