import SessionChat.InviterTransaction.Outbox
import SessionChat.Transition.Run

/-!
# Calls on the in-memory store (`crates/session-inviter-transaction/src/lib.rs`)

Any caller may seed, commit with any fault, lease, fail, complete and lease the next
Welcome, with any times and leases. `Effect` says once what a call can do to the
store, with the checks it has made.
-/

set_option autoImplicit false

namespace SessionChat.InviterTransaction

open Collections Transport InMemoryInviterJoinStore Storage

inductive Call where
  | seed (reservation : ReservedInvitation) (now : Nat)
  | commit (commit : InviterJoinCommit) (now : Nat) (fault : CommitFault)
  | lease (transactionId : Id16) (now leaseSeconds : Nat)
  | fail (lease : DeliveryLease)
  | complete (lease : DeliveryLease) (now : Nat)
  | leaseNext (now leaseSeconds : Nat)

inductive Reply where
  | seeded (result : Except TransactionError Unit)
  | committed (result : Except TransactionError CommitOutcome)
  | leased (result : Except TransactionError DeliveryLease)
  | failed (result : Except TransactionError Unit)
  | completed (result : Except TransactionError Unit)
  | leasedNext (result : Except OutboxPortError (Option (LeasedWelcome DeliveryLease)))

def call (m : InMemoryInviterJoinStore) : Call → InMemoryInviterJoinStore × Reply
  | .seed reservation now => ((m.seedReservation reservation now).2,
      .seeded (m.seedReservation reservation now).1)
  | .commit commit now fault => ((m.commitWithFault commit now fault).2,
      .committed (m.commitWithFault commit now fault).1)
  | .lease transactionId now leaseSeconds =>
      ((m.leaseDelivery transactionId now leaseSeconds).2,
        .leased (m.leaseDelivery transactionId now leaseSeconds).1)
  | .fail lease => ((m.failDelivery lease).2, .failed (m.failDelivery lease).1)
  | .complete lease now => ((m.completeDelivery lease now).2,
      .completed (m.completeDelivery lease now).1)
  | .leaseNext now leaseSeconds => ((m.leaseNext now leaseSeconds).2,
      .leasedNext (m.leaseNext now leaseSeconds).1)

def Reply.lease? : Reply → Option DeliveryLease
  | .leased (.ok lease) => some lease
  | .leasedNext (.ok (some welcome)) => some welcome.lease
  | _ => none

/-- The commit took place, whether or not its response was lost. -/
def Reply.Installed : Reply → Prop
  | .committed (.ok .committed) | .committed (.error .outcomeUnknown) => True
  | _ => False

instance : DecidablePred Reply.Installed
  | .committed (.ok .committed) | .committed (.error .outcomeUnknown) => .isTrue trivial
  | .committed (.ok .alreadyCommitted) | .committed (.error .invalidInput)
  | .committed (.error .capacityExceeded) | .committed (.error .reservationMismatch)
  | .committed (.error .conflict) | .committed (.error .expired)
  | .committed (.error .deliveryUnavailable) | .committed (.error .leaseMismatch)
  | .committed (.error .attemptsExhausted) | .committed (.error .injectedFailure)
  | .seeded _ | .leased _ | .failed _ | .completed _ | .leasedNext _ => .isFalse id

/-- The call failed, and not with an unknown outcome. -/
def Reply.Refused : Reply → Prop
  | .seeded (.error _) | .leased (.error _) | .failed (.error _) | .completed (.error _)
  | .leasedNext (.error _) => True
  | .committed (.error error) => error ≠ .outcomeUnknown
  | _ => False

/-! ## What a call can do -/

/-- The time a call is made at, if it reads one. -/
def Call.clock : Call → Option Nat
  | .seed _ now | .commit _ now _ | .lease _ now _ | .complete _ now | .leaseNext now _ => some now
  | .fail _ => none

/-- The record is the same, or it was available, has no attempt left and is marked so. -/
def Settled (policy : TransactionPolicy) (clock : Option Nat) (r r' : CommittedRecord) : Prop :=
  r' = r ∨ (policy.maximumDeliveryAttempts ≤ r.deliveryAttempts ∧
    (∃ now ∈ clock, r.outbox.available now = true) ∧ r' = { r with outbox := .attemptsExhausted })

def mapped (m : InMemoryInviterJoinStore) (g : Id16 → CommittedRecord → CommittedRecord) :
    InMemoryInviterJoinStore :=
  { m with commits := m.commits.mapValues g }

/-- Nothing happens but that available records without an attempt left may be marked. -/
def Exhausts (clock : Option Nat) (m m' : InMemoryInviterJoinStore) : Prop :=
  ∃ g, (∀ id r, Settled m.policy clock r (g id r)) ∧ m' = mapped m g

/-- The reservation takes a free place, or that of an expired one. -/
structure Seeds (m : InMemoryInviterJoinStore) (reservation : ReservedInvitation) (now : Nat)
    (m' : InMemoryInviterJoinStore) : Prop where
  uncommitted : ∀ id r, m.commits.get? id = some r → r.invitationId ≠ reservation.invitationId
  place : (m.reservations.size < m.policy.maximumTransactions ∧
      m.reservations.get? reservation.invitationId = none ∧
      m' = m.insertReservation reservation) ∨
    ∃ expired, m.reservations.get? expired.1 = some expired.2 ∧
      expired.2.expiresAtUnixSeconds ≤ now ∧
      m' = (m.evict expired).insertReservation reservation

/-- What a commit that takes place has checked. -/
structure Installs (m : InMemoryInviterJoinStore) (commit : InviterJoinCommit) : Prop where
  valid : m.validateCommit commit = true
  fresh : m.commits.get? commit.transactionId = none
  room : m.commits.size < m.policy.maximumTransactions
  reserved : ∃ reservation, m.reservations.get? commit.invitationId = some reservation
  first : ¬m.replayed commit

/-- A lease is issued under the next sequence. -/
structure Issues (m : InMemoryInviterJoinStore) (lease : DeliveryLease) (now : Nat)
    (m' : InMemoryInviterJoinStore) : Prop where
  scope : lease.storeScope = m.leaseScope
  sequence : lease.leaseSequence = m.nextLeaseSequence
  record : ∃ r, m.commits.get? lease.transactionId = some r ∧
    r.deliveryAttempts < m.policy.maximumDeliveryAttempts ∧ r.outbox.available now = true ∧
    now < r.outboxExpiresAtUnixSeconds
  after : ∃ expiresAt, now < expiresAt ∧ m' = { m with
    nextLeaseSequence := m.nextLeaseSequence + 1
    commits := m.commits.modify lease.transactionId
      (CommittedRecord.leasedAs m.nextLeaseSequence expiresAt) }

def Current (m : InMemoryInviterJoinStore) (lease : DeliveryLease) : Prop :=
  lease.storeScope = m.leaseScope ∧ ∃ r expiresAt,
    m.commits.get? lease.transactionId = some r ∧ r.outbox = .leased lease.leaseSequence expiresAt

/-- What one call can do, with the checks it has made. -/
inductive Effect (m : InMemoryInviterJoinStore) :
    Call → Reply → InMemoryInviterJoinStore → Prop where
  | kept {c : Call} {reply : Reply} {m' : InMemoryInviterJoinStore}
      (hexhausts : Exhausts c.clock m m') (hlease : reply.lease? = none)
      (hinstalled : ¬reply.Installed) : Effect m c reply m'
  | seeded {reservation : ReservedInvitation} {now : Nat} {m' : InMemoryInviterJoinStore}
      (hseeds : Seeds m reservation now m') :
      Effect m (.seed reservation now) (.seeded (.ok ())) m'
  | installed {commit : InviterJoinCommit} {now : Nat} {fault : CommitFault} {reply : Reply}
      (hinstalls : Installs m commit) (hreply : reply.Installed) (hnone : reply.lease? = none) :
      Effect m (.commit commit now fault) reply (m.install commit)
  | issued {c : Call} {reply : Reply} {lease : DeliveryLease} {now : Nat}
      {m₁ m' : InMemoryInviterJoinStore} (hexhausts : Exhausts c.clock m m₁)
      (hissues : Issues m₁ lease now m') (hlease : reply.lease? = some lease)
      (hok : ¬reply.Refused) (hinstalled : ¬reply.Installed) : Effect m c reply m'
  | reported {c : Call} {reply : Reply} {lease : DeliveryLease} {state : StoredOutboxState}
      (hcall : c = .fail lease ∨ ∃ now, c = .complete lease now) (hcurrent : Current m lease)
      (hstate : ∀ q e, state ≠ .leased q e) (hlease : reply.lease? = none)
      (hok : ¬reply.Refused) (hinstalled : ¬reply.Installed) :
      Effect m c reply (m.setOutbox lease.transactionId state)

/-! ## Marking records without an attempt left -/

variable {m m' m'' : InMemoryInviterJoinStore} {clock : Option Nat}

theorem mapped_id (m : InMemoryInviterJoinStore) : mapped m (fun _ r => r) = m := by
  have hsame : m.commits.mapValues (fun _ r => r) = m.commits := by
    simp [OrderedMap.mapValues]
  rw [mapped, hsame]

theorem Exhausts.refl (m : InMemoryInviterJoinStore) : Exhausts clock m m :=
  ⟨fun _ r => r, fun _ _ => .inl rfl, (mapped_id m).symm⟩

theorem Exhausts.trans (h : Exhausts clock m m') (h' : Exhausts clock m' m'') :
    Exhausts clock m m'' := by
  obtain ⟨g, hg, rfl⟩ := h
  obtain ⟨g', hg', rfl⟩ := h'
  refine ⟨fun id r => g' id (g id r), ?_, ?_⟩
  · intro id r
    dsimp only
    rcases hg id r with heq | ⟨hspent, havailable, heq⟩
    · rw [heq]
      exact hg' id r
    · rw [heq]
      rcases hg' id { r with outbox := .attemptsExhausted } with heq' | ⟨-, -, heq'⟩
      · exact .inr ⟨hspent, havailable, heq'⟩
      · exact .inr ⟨hspent, havailable, heq'⟩
  · simp only [mapped, OrderedMap.mapValues, List.map_map]
    rfl

theorem exhausts_exhaust (m : InMemoryInviterJoinStore) (now : Nat) :
    Exhausts (some now) m (m.exhaust now) := by
  refine ⟨fun _ r => m.exhausted now r, ?_, rfl⟩
  intro _ r
  rcases hspent : m.spent now r with _ | _
  · exact .inl (exhausted_of_not_spent hspent)
  · have hmarked := exhausted_of_spent hspent
    simp only [spent, Bool.and_eq_true, decide_eq_true_eq] at hspent
    exact .inr ⟨hspent.1.2, ⟨now, rfl, hspent.2⟩, hmarked⟩

theorem exhausts_setOutbox {id : Id16} {r : CommittedRecord} {now : Nat}
    (hget : m.commits.get? id = some r)
    (hspent : m.policy.maximumDeliveryAttempts ≤ r.deliveryAttempts)
    (havailable : r.outbox.available now = true) :
    Exhausts (some now) m (m.setOutbox id .attemptsExhausted) := by
  refine ⟨fun id' r' => if id' = id ∧ r' = r then { r' with outbox := .attemptsExhausted } else r',
    ?_, ?_⟩
  · intro id' r'
    dsimp only
    split_ifs with heq
    · obtain ⟨rfl, rfl⟩ := heq
      exact .inr ⟨hspent, ⟨now, rfl, havailable⟩, rfl⟩
    · exact .inl rfl
  · have hsame : m.commits.modify id (fun r => { r with outbox := .attemptsExhausted }) =
        m.commits.mapValues fun id' r' =>
          if id' = id ∧ r' = r then { r' with outbox := .attemptsExhausted } else r' := by
      refine OrderedMap.mapValues_congr ?_
      intro id' r' hget'
      by_cases hid : id' = id
      · subst hid
        cases hget.symm.trans hget'
        simp
      · simp [hid]
    rw [setOutbox, mapped, hsame]

/-! ## The effect of each call -/

variable (m : InMemoryInviterJoinStore)

theorem seed_effect (reservation : ReservedInvitation) (now : Nat) :
    Effect m (.seed reservation now) (call m (.seed reservation now)).2
      (call m (.seed reservation now)).1 := by
  have hrefused : ∀ error, Effect m (.seed reservation now) (.seeded (.error error)) m :=
    fun _ => .kept (.refl m) rfl id
  simp only [call, seedReservation]
  split
  · exact hrefused _
  next huncommitted =>
  have hfree : ∀ id r, m.commits.get? id = some r → r.invitationId ≠ reservation.invitationId :=
    fun id r hget heq => huncommitted ⟨(id, r), OrderedMap.mem_entries.mpr hget, heq⟩
  split
  · exact hrefused _
  split
  · exact hrefused _
  split
  next current hcurrent =>
    split
    · exact hrefused _
    next hlive =>
      refine .seeded ⟨hfree, .inr ⟨(reservation.invitationId, current), hcurrent, ?_, rfl⟩⟩
      exact Nat.not_lt.mp (not_or.mp hlive).1
  next hnone =>
    split
    next hfull =>
      split
      · exact hrefused _
      next expired hexpired =>
        have hmem : expired ∈ m.reservations.entries.filter fun e =>
            decide (e.2.expiresAtUnixSeconds ≤ now) :=
          (List.perm_insertionSort expiresBefore _).mem_iff.mp (List.mem_of_head? hexpired)
        obtain ⟨hentry, hpast⟩ := List.mem_filter.mp hmem
        exact .seeded ⟨hfree, .inr ⟨expired, OrderedMap.mem_entries.mp hentry,
          of_decide_eq_true hpast, rfl⟩⟩
    next hroom => exact .seeded ⟨hfree, .inl ⟨Nat.not_le.mp hroom, hnone, rfl⟩⟩

theorem commit_effect (commit : InviterJoinCommit) (now : Nat) (fault : CommitFault) :
    Effect m (.commit commit now fault)
      (call m (.commit commit now fault)).2 (call m (.commit commit now fault)).1 := by
  have hrefused : ∀ error, error ≠ .outcomeUnknown →
      Effect m (.commit commit now fault) (.committed (.error error)) m := by
    intro error hknown
    refine .kept (.refl m) rfl ?_
    cases error <;> first | exact id | exact absurd rfl hknown
  simp only [call, commitWithFault]
  split
  · exact hrefused _ (by simp)
  next hvalid =>
  split
  · split
    · exact .kept (.refl m) rfl id
    · exact hrefused _ (by simp)
  next hfresh =>
  split
  · exact hrefused _ (by simp)
  split
  · exact hrefused _ (by simp)
  next hroom =>
  split
  · exact hrefused _ (by simp)
  next reservation hreservation =>
  split
  · exact hrefused _ (by simp)
  split
  · exact hrefused _ (by simp)
  split
  · exact hrefused _ (by simp)
  split
  · exact hrefused _ (by simp)
  next hfirst =>
  split
  · exact hrefused _ (by simp)
  have hinstalls : Installs m commit :=
    ⟨by simpa using hvalid, hfresh, Nat.not_le.mp hroom, ⟨reservation, hreservation⟩, hfirst⟩
  split
  · exact .installed hinstalls trivial rfl
  · exact .installed hinstalls trivial rfl

/-- What `lease_delivery` can do. -/
theorem leaseDelivery_cases (id : Id16) (now leaseSeconds : Nat) :
    (∃ error m', m.leaseDelivery id now leaseSeconds = (.error error, m') ∧
      Exhausts (some now) m m') ∨
      ∃ lease m', m.leaseDelivery id now leaseSeconds = (.ok lease, m') ∧
        Issues m lease now m' := by
  have hrefused : ∀ error, (∃ error' m', ((.error error : Except TransactionError DeliveryLease),
      m) = (.error error', m') ∧ Exhausts (some now) m m') := fun error => ⟨error, m, rfl, .refl m⟩
  unfold leaseDelivery
  split
  · exact .inl (hrefused _)
  next hinput =>
  split
  · exact .inl (hrefused _)
  · exact .inl (hrefused _)
  next leaseExpiresAt record hexpires hrecord =>
  split
  · exact .inl (hrefused _)
  next hlife =>
  split
  · exact .inl (hrefused _)
  split
  · exact .inl (hrefused _)
  next havailable =>
  split
  next hspent =>
    exact .inl ⟨_, _, rfl, exhausts_setOutbox hrecord hspent (by simpa using havailable)⟩
  next hleft =>
  split
  · exact .inl (hrefused _)
  next next hnext =>
  have hlease : leaseExpiresAt = now + leaseSeconds := by
    unfold checkedAdd at hexpires
    split_ifs at hexpires
    exact (Option.some.inj hexpires).symm
  obtain rfl : m.nextLeaseSequence + 1 = next := by
    unfold checkedAdd at hnext
    split_ifs at hnext
    exact Option.some.inj hnext
  simp only [not_or] at hinput hlife
  refine .inr ⟨_, _, rfl, rfl, rfl, ⟨record, hrecord, Nat.not_le.mp hleft, ?_, ?_⟩,
    leaseExpiresAt, ?_, rfl⟩
  · simpa using havailable
  · exact Nat.not_le.mp hlife.1
  · omega

/-- The payload of a lease just issued is there. -/
theorem Issues.payload {lease : DeliveryLease} {now : Nat} (h : Issues m lease now m') :
    ∃ payload, m'.deliveryPayload lease now = .ok payload := by
  obtain ⟨expiresAt, hexpires, rfl⟩ := h.after
  obtain ⟨r, hget, -, -, hlife⟩ := h.record
  unfold deliveryPayload
  simp only [h.scope, OrderedMap.get?_modify_self, hget, Option.map_some,
    CommittedRecord.leasedAs, h.sequence]
  rw [if_neg (by simp), if_neg (Nat.not_le.mpr hlife), if_pos ⟨trivial, hexpires⟩]
  exact ⟨_, rfl⟩

variable (m : InMemoryInviterJoinStore)

theorem lease_effect (transactionId : Id16) (now leaseSeconds : Nat) :
    Effect m (.lease transactionId now leaseSeconds)
      (call m (.lease transactionId now leaseSeconds)).2
      (call m (.lease transactionId now leaseSeconds)).1 := by
  simp only [call]
  obtain ⟨error, m', heq, hexhausts⟩ | ⟨lease, m', heq, hissues⟩ :=
    leaseDelivery_cases m transactionId now leaseSeconds
  · rw [heq]
    exact .kept hexhausts rfl id
  · rw [heq]
    exact .issued (.refl m) hissues rfl id id

theorem leaseNext_effect (now leaseSeconds : Nat) :
    Effect m (.leaseNext now leaseSeconds) (call m (.leaseNext now leaseSeconds)).2
      (call m (.leaseNext now leaseSeconds)).1 := by
  have hexhaust := exhausts_exhaust m now
  simp only [call, leaseNext]
  split
  · exact .kept (.refl m) rfl id
  split
  · exact .kept hexhaust rfl id
  next transactionId hhead =>
  obtain ⟨error, m', heq, hexhausts⟩ | ⟨lease, m', heq, hissues⟩ :=
    leaseDelivery_cases (m.exhaust now) transactionId now leaseSeconds
  · simp only [heq]
    exact .kept (hexhaust.trans hexhausts) rfl id
  · obtain ⟨payload, hpayload⟩ := hissues.payload
    simp only [heq, hpayload]
    exact .issued hexhaust hissues rfl id id

theorem fail_effect (lease : DeliveryLease) :
    Effect m (.fail lease) (call m (.fail lease)).2 (call m (.fail lease)).1 := by
  have hrefused : ∀ error, Effect m (.fail lease) (.failed (.error error)) m :=
    fun _ => .kept (.refl m) rfl id
  simp only [call, failDelivery]
  split
  · exact hrefused _
  next hscope =>
  split
  · exact hrefused _
  next record hrecord =>
  split
  next sequence expiresAt houtbox =>
    split
    next hsequence =>
      refine .reported (.inl rfl) ⟨(not_not.mp hscope).symm, record, expiresAt, hrecord, ?_⟩ ?_
        rfl id id
      · rw [houtbox, hsequence]
      · split_ifs <;> simp
    · exact hrefused _
  all_goals exact hrefused _

theorem complete_effect (lease : DeliveryLease) (now : Nat) :
    Effect m (.complete lease now) (call m (.complete lease now)).2
      (call m (.complete lease now)).1 := by
  have hkept : ∀ result, Effect m (.complete lease now) (.completed result) m :=
    fun _ => .kept (.refl m) rfl id
  simp only [call, completeDelivery]
  split
  · exact hkept _
  next hscope =>
  split
  · exact hkept _
  next record hrecord =>
  split
  next sequence expiresAt houtbox =>
    split
    next hlive =>
      refine .reported (.inr ⟨now, rfl⟩) ⟨(not_not.mp hscope).symm, record, expiresAt, hrecord, ?_⟩
        (by simp) rfl id id
      rw [houtbox, hlive.1]
    · exact hkept _
  next sequence houtbox => split <;> exact hkept _
  all_goals exact hkept _

theorem call_effect (c : Call) : Effect m c (call m c).2 (call m c).1 := by
  cases c with
  | seed reservation now => exact seed_effect m reservation now
  | commit commit now fault => exact commit_effect m commit now fault
  | lease id now leaseSeconds => exact lease_effect m id now leaseSeconds
  | fail lease => exact fail_effect m lease
  | complete lease now => exact complete_effect m lease now
  | leaseNext now leaseSeconds => exact leaseNext_effect m now leaseSeconds

end SessionChat.InviterTransaction
