import SessionChat.InviterTransaction.Store

/-!
# The in-memory outbox, record by record (`crates/session-inviter-transaction/src/lib.rs`)

What the port calls of the in-memory store answer and make of the records. The store
leases the first pending record in the order of the identifiers; when that record's
outbox life is shorter than the lease, it refuses the call.
-/

set_option autoImplicit false

namespace SessionChat.InviterTransaction

open Collections Transport Storage

variable {m : InMemoryInviterJoinStore} {now leaseSeconds : Nat} {id : Id16}
  {r : CommittedRecord} {lease : DeliveryLease}

theorem checkedAdd_of_lt {a b : Nat} (h : a + b < 2 ^ 64) : checkedAdd a b = some (a + b) :=
  if_pos h

namespace InMemoryInviterJoinStore

/-! ## Housekeeping -/

theorem exhausted_of_spent (h : m.spent now r = true) :
    m.exhausted now r = { r with outbox := .attemptsExhausted } :=
  if_pos h

theorem exhausted_of_not_spent (h : m.spent now r = false) : m.exhausted now r = r :=
  if_neg (by simp [h])

theorem exhausted_of_pending (h : m.pending now r = true) : m.exhausted now r = r := by
  refine exhausted_of_not_spent ?_
  simp only [pending, Bool.and_eq_true, decide_eq_true_eq] at h
  have : ¬m.policy.maximumDeliveryAttempts ≤ r.deliveryAttempts := by omega
  simp [spent, this]

theorem pending_exhausted : m.pending now (m.exhausted now r) = m.pending now r := by
  cases hspent : m.spent now r with
  | false => rw [exhausted_of_not_spent hspent]
  | true =>
    rw [exhausted_of_spent hspent]
    simp only [spent, Bool.and_eq_true, decide_eq_true_eq] at hspent
    have : ¬r.deliveryAttempts < m.policy.maximumDeliveryAttempts := by omega
    simp [pending, this]

theorem get?_exhaust : (m.exhaust now).commits.get? id =
    (m.commits.get? id).map (m.exhausted now) :=
  OrderedMap.get?_mapValues _ _ _

/-- The first pending record, in the order of the identifiers. -/
def nextPending (m : InMemoryInviterJoinStore) (now : Nat) : Option (Id16 × CommittedRecord) :=
  m.commits.find? fun _ record => m.pending now record

theorem head?_pendingTransactionIds :
    (m.pendingTransactionIds now).head? = (m.nextPending now).map Prod.fst := by
  rw [pendingTransactionIds, List.head?_map, OrderedMap.head?_retain]
  rfl

theorem mem_pendingTransactionIds : id ∈ m.pendingTransactionIds now ↔
      ∃ r, m.commits.get? id = some r ∧ m.pending now r = true := by
  simp only [pendingTransactionIds, List.mem_map, Prod.exists, exists_and_right, exists_eq_right,
    OrderedMap.mem_entries, OrderedMap.get?_retain, Option.filter_eq_some_iff]

theorem nextPending_exhaust : ((m.exhaust now).nextPending now).map Prod.fst =
    (m.nextPending now).map Prod.fst := by
  have hfind : (m.exhaust now).nextPending now =
      (m.commits.find? fun _ r => m.pending now (m.exhausted now r)).map
        fun e => (e.1, m.exhausted now e.2) :=
    OrderedMap.find?_mapValues m.commits (fun _ r => m.exhausted now r) fun _ r => m.pending now r
  rw [hfind]
  simp only [pending_exhausted, Option.map_map]
  rfl

theorem nextPending_eq_some (h : m.nextPending now = some (id, r)) :
    m.commits.get? id = some r ∧ m.pending now r = true ∧
      ∀ id' r', m.commits.get? id' = some r' → m.pending now r' = true → id ≤ id' :=
  OrderedMap.find?_eq_some h

theorem nextPending_eq_none :
    m.nextPending now = none ↔ ∀ id r, m.commits.get? id = some r → m.pending now r = false :=
  OrderedMap.find?_eq_none

/-! ## The lease -/

/-- The request passes the checks of `lease_next`. -/
def leasable (m : InMemoryInviterJoinStore) (now leaseSeconds : Nat) : Prop :=
  leaseSeconds ≠ 0 ∧ leaseSeconds ≤ m.policy.maximumLeaseSeconds ∧ now + leaseSeconds < 2 ^ 64

theorem leaseNext_of_not_leasable (h : ¬m.leasable now leaseSeconds) :
    m.leaseNext now leaseSeconds = (.error .internal, m) := by
  rw [leaseNext, if_pos]
  · rfl
  · simp only [leasable, checkedAdd, ite_eq_right_iff] at h ⊢
    omega

section

variable (h : m.leasable now leaseSeconds)
include h

theorem leaseNext_of_leasable : m.leaseNext now leaseSeconds =
      match (m.nextPending now).map Prod.fst with
      | none => (.ok none, m.exhaust now)
      | some id =>
          match (m.exhaust now).leaseDelivery id now leaseSeconds with
          | (.error error, m') => (.error (mapOutboxPortError error), m')
          | (.ok lease, m') =>
              match m'.deliveryPayload lease now with
              | .error error => (.error (mapOutboxPortError error), (m'.failDelivery lease).2)
              | .ok (welcome, endpoint, expiresAt) =>
                  (.ok (some ⟨lease, welcome, endpoint, expiresAt⟩), m') := by
  obtain ⟨hpos, hmax, hadd⟩ := h
  have hbounds : ¬(leaseSeconds = 0 ∨ m.policy.maximumLeaseSeconds < leaseSeconds ∨
      checkedAdd now leaseSeconds = none) := by
    rw [checkedAdd_of_lt hadd]
    simp only [reduceCtorEq, or_false, not_or]
    exact ⟨hpos, by omega⟩
  have hhead : ((m.exhaust now).pendingTransactionIds now).head? =
      (m.nextPending now).map Prod.fst := by
    rw [head?_pendingTransactionIds, nextPending_exhaust]
  exact (if_neg hbounds).trans (hhead ▸ rfl)

theorem leaseNext_none (hnone : m.nextPending now = none) :
    m.leaseNext now leaseSeconds = (.ok none, m.exhaust now) := by
  rw [leaseNext_of_leasable h, hnone]
  rfl

/-- The checks of `lease_delivery` on the record that `lease_next` selects. -/
theorem leaseDelivery_of_pending (hid : id ≠ 0) (hr : m.commits.get? id = some r)
    (hpending : m.pending now r = true) : (m.exhaust now).leaseDelivery id now leaseSeconds =
      if r.outboxExpiresAtUnixSeconds < now + leaseSeconds then (.error .expired, m.exhaust now)
      else
        match checkedAdd m.nextLeaseSequence 1 with
        | none => (.error .deliveryUnavailable, m.exhaust now)
        | some next => (.ok ⟨m.leaseScope, id, m.nextLeaseSequence⟩,
              { m.exhaust now with
                nextLeaseSequence := next
                commits := (m.exhaust now).commits.modify id
                  (CommittedRecord.leasedAs m.nextLeaseSequence (now + leaseSeconds)) }) := by
  obtain ⟨hpos, hmax, hadd⟩ := h
  have hget : (m.exhaust now).commits.get? id = some r := by
    rw [get?_exhaust, hr, Option.map_some, exhausted_of_pending hpending]
  simp only [pending, Bool.and_eq_true, decide_eq_true_eq] at hpending
  obtain ⟨⟨hlife, hroom⟩, havailable⟩ := hpending
  have hguard : ¬(id = 0 ∨ leaseSeconds = 0 ∨
      (m.exhaust now).policy.maximumLeaseSeconds < leaseSeconds) := by
    simp only [exhaust, not_or]
    exact ⟨hid, hpos, by omega⟩
  have hopen : r.outbox ≠ .attemptsExhausted := by
    intro heq
    simp [heq, StoredOutboxState.available] at havailable
  have hleft : ¬(m.exhaust now).policy.maximumDeliveryAttempts ≤ r.deliveryAttempts := by
    simp only [exhaust]
    omega
  rw [leaseDelivery, if_neg hguard, checkedAdd_of_lt hadd, hget]
  simp only [havailable, hopen, if_neg hleft,
    Nat.not_le.mpr hlife, false_or]
  rfl

theorem leaseNext_blocked (hid : id ≠ 0) (hnext : m.nextPending now = some (id, r))
    (hshort : r.outboxExpiresAtUnixSeconds < now + leaseSeconds) :
    m.leaseNext now leaseSeconds = (.error .conflict, m.exhaust now) := by
  obtain ⟨hr, hpending, -⟩ := nextPending_eq_some hnext
  rw [leaseNext_of_leasable h, hnext]
  simp only [Option.map_some, leaseDelivery_of_pending h hid hr hpending, if_pos hshort]
  rfl

end

def afterLease (m : InMemoryInviterJoinStore) (id : Id16) (now leaseSeconds : Nat) :
    InMemoryInviterJoinStore :=
  { m.exhaust now with
    nextLeaseSequence := m.nextLeaseSequence + 1
    commits := (m.exhaust now).commits.modify id
      (CommittedRecord.leasedAs m.nextLeaseSequence (now + leaseSeconds)) }

theorem leaseNext_leased (h : m.leasable now leaseSeconds) (hid : id ≠ 0)
    (hnext : m.nextPending now = some (id, r))
    (hfits : now + leaseSeconds ≤ r.outboxExpiresAtUnixSeconds)
    (hroom : m.nextLeaseSequence + 1 < 2 ^ 64) : m.leaseNext now leaseSeconds = (.ok (some
        { lease := ⟨m.leaseScope, id, m.nextLeaseSequence⟩
          welcomeEnvelope := r.welcomeEnvelope
          depositEndpoint := r.depositEndpoint
          outboxExpiresAtUnixSeconds := r.outboxExpiresAtUnixSeconds }),
        m.afterLease id now leaseSeconds) := by
  obtain ⟨hr, hpending, -⟩ := nextPending_eq_some hnext
  have hget : (m.afterLease id now leaseSeconds).commits.get? id =
      some (r.leasedAs m.nextLeaseSequence (now + leaseSeconds)) := by
    rw [afterLease, OrderedMap.get?_modify_self, get?_exhaust, hr, Option.map_some,
      exhausted_of_pending hpending]
    rfl
  have hpos : 0 < leaseSeconds := Nat.pos_of_ne_zero h.1
  have hpayload : (m.afterLease id now leaseSeconds).deliveryPayload
      ⟨m.leaseScope, id, m.nextLeaseSequence⟩ now =
        .ok (r.welcomeEnvelope, r.depositEndpoint, r.outboxExpiresAtUnixSeconds) := by
    have hlife : ¬r.outboxExpiresAtUnixSeconds ≤ now := by omega
    have hscope : (m.afterLease id now leaseSeconds).leaseScope = m.leaseScope := rfl
    simp [deliveryPayload, hget, hscope, CommittedRecord.leasedAs, hlife, hpos]
  rw [leaseNext_of_leasable h, hnext]
  simp only [Option.map_some, leaseDelivery_of_pending h hid hr hpending,
    if_neg (Nat.not_lt.mpr hfits), checkedAdd_of_lt hroom]
  change (match (m.afterLease id now leaseSeconds).deliveryPayload _ now with
    | .error error => _
    | .ok (welcome, endpoint, expiresAt) => _) = _
  rw [hpayload]
  rfl

/-! ## The attempts used -/

/-- All delivery attempts of the store. -/
def attemptsUsed (m : InMemoryInviterJoinStore) : Nat :=
  m.commits.sum fun _ r => r.deliveryAttempts

theorem attemptsUsed_exhaust (m : InMemoryInviterJoinStore) (now : Nat) :
    (m.exhaust now).attemptsUsed = m.attemptsUsed := by
  unfold attemptsUsed exhaust
  rw [OrderedMap.sum_mapValues]
  refine OrderedMap.sum_congr fun _ r _ => ?_
  unfold exhausted
  split <;> rfl

theorem attemptsUsed_afterLease (hr : m.commits.get? id = some r) :
    (m.afterLease id now leaseSeconds).attemptsUsed = m.attemptsUsed + 1 := by
  have hget : (m.exhaust now).commits.get? id = some (m.exhausted now r) := by
    rw [get?_exhaust, hr, Option.map_some]
  have hsum := OrderedMap.sum_modify hget
    (CommittedRecord.leasedAs m.nextLeaseSequence (now + leaseSeconds))
    fun _ r => r.deliveryAttempts
  have hexhaust := attemptsUsed_exhaust m now
  simp only [attemptsUsed, afterLease, CommittedRecord.leasedAs] at hsum hexhaust ⊢
  omega

/-! ## The reports -/

/-- A record after a report of acceptance under its identifier. -/
def afterAccepted (lease : DeliveryLease) (now : Nat) (r : CommittedRecord) : CommittedRecord :=
  match r.outbox with
  | .leased leaseSequence expiresAt =>
      if leaseSequence = lease.leaseSequence ∧ now < expiresAt ∧
          now < r.outboxExpiresAtUnixSeconds then
        { r with outbox := .delivered leaseSequence }
      else r
  | .pending | .delivered _ | .attemptsExhausted => r

/-- A record after a report of failure under its identifier. -/
def afterFailed (m : InMemoryInviterJoinStore) (lease : DeliveryLease) (r : CommittedRecord) :
    CommittedRecord :=
  match r.outbox with
  | .leased leaseSequence _ =>
      if leaseSequence = lease.leaseSequence then
        { r with
          outbox := if m.policy.maximumDeliveryAttempts ≤ r.deliveryAttempts then
            .attemptsExhausted else .pending }
      else r
  | .pending | .delivered _ | .attemptsExhausted => r

/-- Rewrites the record of one transaction. -/
def update (m : InMemoryInviterJoinStore) (id : Id16) (f : CommittedRecord → CommittedRecord) :
    InMemoryInviterJoinStore :=
  { m with commits := m.commits.modify id f }

variable {f : CommittedRecord → CommittedRecord} {expiresAt : Nat}

theorem update_of_missing (hget : m.commits.get? id = none) : m.update id f = m := by
  rw [update, OrderedMap.modify_eq_self fun r hr => by simp [hget] at hr]

theorem update_congr {g : CommittedRecord → CommittedRecord} (hget : m.commits.get? id = some r)
    (h : f r = g r) : m.update id f = m.update id g := by
  rw [update, update, OrderedMap.modify_congr fun r' hr' => ?_]
  rw [hget] at hr'
  cases hr'
  exact h

theorem update_eq_self (hget : m.commits.get? id = some r) (h : f r = r) : m.update id f = m := by
  rw [update, OrderedMap.modify_eq_self fun r' hr' => ?_]
  rw [hget] at hr'
  cases hr'
  exact h

theorem get?_update (id' : Id16) : (m.update id f).commits.get? id' =
      (m.commits.get? id').map fun r => if id' = id then f r else r :=
  OrderedMap.get?_mapValues _ _ _

theorem attemptsUsed_update (h : ∀ r, (f r).deliveryAttempts = r.deliveryAttempts) :
    (m.update id f).attemptsUsed = m.attemptsUsed := by
  unfold attemptsUsed update OrderedMap.modify
  rw [OrderedMap.sum_mapValues]
  refine OrderedMap.sum_congr fun _ r _ => ?_
  split
  · exact h r
  · rfl

theorem completeDelivery_store (hscope : lease.storeScope = m.leaseScope) :
    (m.completeDelivery lease now).2 = m.update lease.transactionId (afterAccepted lease now) := by
  rw [completeDelivery, if_neg (not_not.mpr hscope.symm)]
  cases hget : m.commits.get? lease.transactionId with
  | none => exact (update_of_missing hget).symm
  | some r =>
    have hkept : afterAccepted lease now r = r →
        m = m.update lease.transactionId (afterAccepted lease now) :=
      fun h => (update_eq_self hget h).symm
    simp only
    split
    · next leaseSequence expiresAt houtbox =>
        split
        · next htimely =>
            refine update_congr hget ?_
            simp only [afterAccepted, houtbox, if_pos htimely]
        · next htimely => exact hkept (by simp only [afterAccepted, houtbox, if_neg htimely])
    · next leaseSequence houtbox =>
        have hsame := hkept (by simp only [afterAccepted, houtbox])
        split <;> exact hsame
    · next houtbox => exact hkept (by simp only [afterAccepted, houtbox])
    · next houtbox => exact hkept (by simp only [afterAccepted, houtbox])

theorem failDelivery_store (hscope : lease.storeScope = m.leaseScope) :
    (m.failDelivery lease).2 = m.update lease.transactionId (m.afterFailed lease) := by
  rw [failDelivery, if_neg (not_not.mpr hscope.symm)]
  cases hget : m.commits.get? lease.transactionId with
  | none => exact (update_of_missing hget).symm
  | some r =>
    have hkept : m.afterFailed lease r = r →
        m = m.update lease.transactionId (m.afterFailed lease) :=
      fun h => (update_eq_self hget h).symm
    simp only
    split
    · next leaseSequence expiresAt houtbox =>
        split
        · next hseq =>
            refine update_congr hget ?_
            simp only [afterFailed, houtbox, if_pos hseq]
        · next hseq => exact hkept (by simp only [afterFailed, houtbox, if_neg hseq])
    · next houtbox => exact hkept (by simp only [afterFailed, houtbox])
    · next houtbox => exact hkept (by simp only [afterFailed, houtbox])
    · next houtbox => exact hkept (by simp only [afterFailed, houtbox])

section

variable (hscope : lease.storeScope = m.leaseScope)
  (hget : m.commits.get? lease.transactionId = some r)
  (houtbox : r.outbox = .leased lease.leaseSequence expiresAt)
include hscope hget houtbox

/-- The current lease of a record is accepted. -/
theorem completeDelivery_of_current (hnow : now < expiresAt)
    (hlife : now < r.outboxExpiresAtUnixSeconds) : (m.completeDelivery lease now).1 = .ok () := by
  simp [completeDelivery, hscope, hget, houtbox, hnow, hlife]

theorem failDelivery_of_current : (m.failDelivery lease).1 = .ok () := by
  simp [failDelivery, hscope, hget, houtbox]

end

end InMemoryInviterJoinStore

end SessionChat.InviterTransaction
