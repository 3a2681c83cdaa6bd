import SessionChat.InviterTransaction.Interchange
import SessionChat.Storage.Reopen

/-!
# Whether the two outboxes can stand for each other

Source: `crates/session-inviter-transaction/src/lib.rs`, `crates/storage-sqlcipher/src/outbox.rs`.

From the same committed transactions the two stores agree on every call of a schedule, as long as
the first pending Welcome in memory bears each requested lease that some pending Welcome bears.
When it does not, the durable store leases another one and the in-memory store refuses the call.
-/

set_option autoImplicit false

namespace SessionChat.InviterTransaction

open Collections Transport Transition Protocol
  Storage Storage.SqlCipherStorage

variable {handle : SqlCipherStorage} {storeId : Id16} {p : Outboxes} {now : Nat}

/-! ## Every set of committed transactions -/

/-- A record and a row just after their commit. -/
structure JustCommitted (policy : TransactionPolicy) (r : CommittedRecord) (j : InviterJoinRow) :
    Prop extends SameDelivery policy r j where
  record : r.outbox = .pending
  unsent : r.deliveryAttempts = 0
  row : j.outboxState = .pending

/-- Both stores have committed the same transactions and leased none of them, under the
same maximum of attempts and the same lease limit. -/
structure CommittedAlike (handle : SqlCipherStorage) (storeId : Id16) (p : Outboxes) : Prop where
  ready : handle.Ready p.scope
  store : storeId? p.db.tables = some storeId
  limit : p.memory.policy.maximumLeaseSeconds = maximumLeaseSeconds
  size : p.memory.commits.size ≤ p.memory.policy.maximumTransactions
  sequence : p.memory.nextLeaseSequence = 1
  rows : ∀ id, Option.Rel (JustCommitted p.memory.policy) (p.memory.commits.get? id)
    (p.db.tables.joinAt id)
  outstanding : p.outstanding = []

theorem CommittedAlike.related (h : CommittedAlike handle storeId p) :
    Related handle storeId p where
  ready := h.ready
  store := h.store
  limit := h.limit
  size := h.size.trans p.memory.policy.bounded.1
  sequence := by
    have hnone : p.memory.attemptsUsed ≤ p.memory.commits.size * 0 := by
      refine OrderedMap.sum_le_size_mul fun id r hr => ?_
      have hrel := h.rows id
      rw [hr] at hrel
      generalize p.db.tables.joinAt id = row at hrel
      cases hrel with
      | some hcommitted => exact hcommitted.unsent.le
    have := h.sequence
    omega
  rows := by
    intro id
    have hrel := h.rows id
    generalize p.memory.commits.get? id = record at hrel ⊢
    generalize p.db.tables.joinAt id = row at hrel ⊢
    cases hrel with
    | none => exact .none
    | some hcommitted =>
      refine .some ⟨hcommitted.toSameDelivery, .inl ?_⟩
      rw [hcommitted.record]
      exact hcommitted.row
  leases := by simp [h.outstanding]
  distinct := by simp [h.outstanding]

/-- Two new stores have committed the same transactions, namely none. -/
theorem CommittedAlike.created {policy : TransactionPolicy}
    (hlimit : policy.maximumLeaseSeconds = maximumLeaseSeconds)
    (authorization : Storage.AuthorizationPolicy) (id : { id : Id16 // id ≠ 0 })
    (leaseScope : Storage.ScopeId) (hidle : handle.busy = false) :
    CommittedAlike handle id
      { memory := .new policy leaseScope
        scope := .opened
        db := Storage.createSchema authorization id
        clock := 0
        outstanding := [] } where
  ready := ⟨rfl, hidle⟩
  store := Option.filter_eq_some_iff.mpr ⟨rfl, decide_eq_true id.2⟩
  limit := hlimit
  size := Nat.zero_le _
  sequence := rfl
  rows := fun _ => .none
  outstanding := rfl

theorem InMemoryInviterJoinStore.seedReservation_keeps (m : InMemoryInviterJoinStore)
    (reservation : ReservedInvitation) (now : Nat) :
    (m.seedReservation reservation now).2.policy = m.policy ∧
      (m.seedReservation reservation now).2.nextLeaseSequence = m.nextLeaseSequence ∧
      (m.seedReservation reservation now).2.commits = m.commits := by
  unfold seedReservation
  repeat' split
  all_goals exact ⟨rfl, rfl, rfl⟩

theorem CommittedAlike.seed (h : CommittedAlike handle storeId p)
    (reservation : ReservedInvitation) (now : Nat) : CommittedAlike handle storeId
      { p with memory := (p.memory.seedReservation reservation now).2 } := by
  obtain ⟨hpolicy, hsequence, hcommits⟩ := p.memory.seedReservation_keeps reservation now
  exact
    { ready := h.ready
      store := h.store
      limit := hpolicy ▸ h.limit
      size := by
        simp only [hcommits, hpolicy]
        exact h.size
      sequence := hsequence.trans h.sequence
      rows := by
        simp only [hcommits, hpolicy]
        exact h.rows
      outstanding := h.outstanding }

/-- What a successful commit has checked and done. -/
theorem InMemoryInviterJoinStore.commitWithFault_committed {m : InMemoryInviterJoinStore}
    {commit : InviterJoinCommit} {fault : CommitFault}
    (h : (m.commitWithFault commit now fault).1 = .ok .committed) :
    m.validateCommit commit = true ∧ m.commits.get? commit.transactionId = none ∧
      m.commits.size < m.policy.maximumTransactions ∧
      (m.commitWithFault commit now fault).2 = m.install commit := by
  unfold commitWithFault at h ⊢
  split at h
  · cases h
  next hvalid =>
  split at h
  · split at h <;> cases h
  next hget =>
  split at h
  · cases h
  split at h
  · cases h
  next hlife hroom =>
  split at h
  · cases h
  rw [if_neg hvalid, hget]
  simp only [if_neg hlife, if_neg hroom]
  refine ⟨by simpa using hvalid, trivial, Nat.not_le.mp hroom, ?_⟩
  split at h
  · cases h
  next hmatch =>
  split at h
  · cases h
  next hcurrent =>
  split at h
  · cases h
  next hcheck =>
  split at h
  · cases h
  next hreplay =>
  split at h
  · cases h
  next hstaging =>
  simp only [if_neg hmatch, if_neg hcurrent, if_neg hcheck, if_neg hreplay, if_neg hstaging]

/-- The same transaction committed by both stores. -/
theorem CommittedAlike.commit (h : CommittedAlike handle storeId p)
    (commit : InviterJoinCommit) (tx : Storage.InviterJoinTransaction) {fault : CommitFault}
    {db : Db} (hmemory : (p.memory.commitWithFault commit now fault).1 = .ok .committed)
    (hstore : storeId? db.tables = storeId? p.db.tables)
    (hjoins : db.tables.inviterJoins = p.db.tables.inviterJoins ++ [tx.joinRow]) (hmaximum :
      p.memory.policy.maximumDeliveryAttempts = Storage.maximumWelcomeDeliveryAttempts)
    (hid : tx.transactionId = commit.transactionId) (hwelcome : tx.welcome = commit.welcomeEnvelope)
    (hendpoint : tx.endpoint = commit.depositEndpoint)
    (hexpires : tx.outboxExpiresAt = commit.outboxExpiresAtUnixSeconds)
    (hsmall : tx.outboxExpiresAt ≤ i64Max) :
    CommittedAlike handle storeId { p with memory := p.memory.install commit, db := db } := by
  obtain ⟨hvalid, hfresh, hroom, -⟩ :=
    InMemoryInviterJoinStore.commitWithFault_committed hmemory
  obtain ⟨hnonzero, hmaterial⟩ := Bool.and_eq_true_iff.mp hvalid
  have habsent : p.db.tables.joinAt commit.transactionId = none := by
    have hrel := h.rows commit.transactionId
    rw [hfresh] at hrel
    generalize p.db.tables.joinAt commit.transactionId = row at hrel ⊢
    cases hrel
    rfl
  refine
    { ready := h.ready
      store := hstore.trans h.store
      limit := h.limit
      size := ?_
      sequence := h.sequence
      rows := ?_
      outstanding := h.outstanding }
  · have hsize := OrderedMap.sum_insert p.memory.commits
      ({ commit.toJoinContent with outbox := .pending, deliveryAttempts := 0 } : CommittedRecord)
      hfresh fun _ _ => 1
    rw [← OrderedMap.size_eq_sum, ← OrderedMap.size_eq_sum] at hsize
    exact hsize.trans_le ((Nat.add_comm _ _).trans_le hroom)
  · intro id
    have hat : db.tables.joinAt id = (p.db.tables.joinAt id).or
        (if tx.transactionId = id then some tx.joinRow else none) := by
      rw [Storage.Tables.joinAt, hjoins]
      simp [Storage.Tables.joinAt, Storage.InviterJoinTransaction.joinRow]
    by_cases hself : id = commit.transactionId
    · subst hself
      rw [hat, habsent, if_pos hid]
      simp only [InMemoryInviterJoinStore.install, OrderedMap.get?_insert_self]
      refine .some ⟨⟨?_, hwelcome.symm, hendpoint.symm, hexpires.symm, rfl, rfl, hmaximum.symm, ?_,
        hsmall⟩, rfl, rfl, rfl⟩
      · exact hid.trans_ne (of_decide_eq_true hnonzero).1
      · simp only [Storage.InviterJoinTransaction.joinRow, hwelcome, hendpoint, hexpires]
        exact hmaterial
    · rw [hat, if_neg fun heq => hself (heq.symm.trans hid), Option.or_none]
      simp only [InMemoryInviterJoinStore.install, OrderedMap.get?_insert_of_ne _ _ hself]
      exact h.rows id

/-- The runs above keep the two stores the same, record by record and lease by lease. -/
theorem outboxes_stay_related (hcommitted : CommittedAlike handle storeId p)
    {w : World Outboxes TimedCall PortReply}
    (hrun : Leads (Outboxes.step handle) (fun w c => w.state.Scheduled c ∧ w.state.HeadFits c)
      ⟨p, []⟩ w) : Related handle storeId w.state :=
  hrun.invariant (I := fun w => Related handle storeId w.state)
    (fun _ _ hc h => h.step hc.1 hc.2) hcommitted.related

/-! ## A short-lived Welcome before a long-lived one -/

/-- A join under one identifier, with its outbox life. -/
def sampleTransaction (id : Id16) (outboxExpiresAt : Nat) : Storage.InviterJoinTransaction :=
  { Storage.legacyTransaction id with
    invitationId := id
    joinRequestId := id
    outboxExpiresAt := outboxExpiresAt }

/-- Seed, stage and write one join in scope zero of the durable store. -/
def sampleCalls (id : Id16) (outboxExpiresAt : Nat) : List Storage.Call :=
  [.perform 0 (.seedReservation id 3 id 30 7),
   .perform 0 (.stageInviter (sampleTransaction id outboxExpiresAt) 8 .none),
   .perform 0 (.write ⟨Codec.fixedBytes 32 1, [0]⟩ [] [] 0 none)]

def sampleDb (calls : List Storage.Call) : Db :=
  (Storage.sampleStore.afterAll (Storage.Store.step .phaseOne) calls).state.db

def sampleHandle : SqlCipherStorage := ⟨0, .phaseOne, false⟩

/-- Two new stores with both invitations reserved in memory. -/
def seeded : Outboxes where
  memory := (((InMemoryInviterJoinStore.new samplePolicy 5).seedReservation
    (sampleReservation ⟨1, firstId_ne_zero⟩) 7).2.seedReservation
    (sampleReservation ⟨2, secondId_ne_zero⟩) 7).2
  scope := .opened
  db := Storage.createSchema .phaseOne 7
  clock := 0
  outstanding := []

/-- Transaction one, whose outbox life ends at twenty, is committed. -/
def oneCommitted : Outboxes :=
  { seeded with
    memory := seeded.memory.install (sampleCommit 1 20)
    db := sampleDb (sampleCalls 1 20) }

/-- Transaction two, whose outbox life ends at forty, is committed as well. -/
def bothCommitted : Outboxes :=
  { oneCommitted with
    memory := oneCommitted.memory.install (sampleCommit 2 40)
    db := sampleDb (sampleCalls 1 20 ++ sampleCalls 2 40) }

theorem bothCommitted_alike : CommittedAlike sampleHandle 7 bothCommitted := by
  have hcreated : CommittedAlike sampleHandle 7
      ⟨.new samplePolicy 5, .opened, Storage.createSchema .phaseOne 7, 0, []⟩ :=
    .created rfl .phaseOne ⟨7, by decide⟩ 5 rfl
  have hseeded : CommittedAlike sampleHandle 7 seeded :=
    (hcreated.seed (sampleReservation ⟨1, firstId_ne_zero⟩) 7).seed
      (sampleReservation ⟨2, secondId_ne_zero⟩) 7
  have hfirst : (seeded.memory.commitWithFault (sampleCommit 1 20) 8 .none).1 = .ok .committed := by
    decide +kernel
  have hsecond : (oneCommitted.memory.commitWithFault (sampleCommit 2 40) 8 .none).1 =
      .ok .committed := by decide +kernel
  have hone : CommittedAlike sampleHandle 7 oneCommitted :=
    hseeded.commit (sampleCommit 1 20) (sampleTransaction 1 20)
      hfirst (by decide +kernel) (by decide +kernel) (by decide +kernel) rfl rfl rfl rfl (by decide)
  exact hone.commit (sampleCommit 2 40) (sampleTransaction 2 40)
    hsecond (by decide +kernel) (by decide +kernel) (by decide +kernel) rfl rfl rfl rfl (by decide)

theorem outboxes_stay_related_leased :
    Related sampleHandle 7 (World.afterAll (Outboxes.step sampleHandle) ⟨bothCommitted, []⟩
      [⟨10, .leaseNext 5 fun _ => 6⟩]).state := by
  refine outboxes_stay_related bothCommitted_alike ?_
  refine leads_afterAll ⟨⟨⟨by decide, by decide +kernel⟩, fun _ _ => ⟨1, rfl, ?_⟩⟩, trivial⟩
  have hfits : bothCommitted.memory.Fits 15 1 := by decide +kernel
  exact hfits

end SessionChat.InviterTransaction
