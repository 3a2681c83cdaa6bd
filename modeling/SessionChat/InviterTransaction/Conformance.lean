import SessionChat.InviterTransaction.Outbox
import SessionChat.Storage.OutboxRows
import SessionChat.Transition.Run

/-!
# The two outboxes side by side

Source: `crates/session-inviter-transaction/src/lib.rs`, `crates/storage-sqlcipher/src/outbox.rs`.

The in-memory conformance store and the durable store under one schedule of port calls. A
record and a row are `Alike` when they hold the same delivery and are in the same state or
both out of reach: past their outbox life, or without an attempt left and a running lease.
Every call keeps them alike as long as both stores choose the same Welcome.
-/

set_option autoImplicit false

namespace SessionChat.InviterTransaction

open Collections Transport Transition Storage
  Storage.SqlCipherStorage

variable {policy : TransactionPolicy} {m : InMemoryInviterJoinStore} {clock now : Nat}
  {r r' : CommittedRecord} {j j' : InviterJoinRow}

/-! ## A record and its row -/

/-- The record and the row hold the same delivery, under the same bounds. -/
structure SameDelivery (policy : TransactionPolicy) (r : CommittedRecord) (j : InviterJoinRow) :
    Prop where
  transactionId : j.transactionId ≠ 0
  welcome : r.welcomeEnvelope = j.welcome
  endpoint : r.depositEndpoint = j.endpoint
  expires : r.outboxExpiresAtUnixSeconds = j.outboxExpiresAt
  attempts : r.deliveryAttempts = j.deliveryAttempts
  generation : j.leaseGeneration = j.deliveryAttempts
  maximum : j.maximumDeliveryAttempts = policy.maximumDeliveryAttempts
  material : validateDeliveryMaterial j.welcome j.endpoint j.outboxExpiresAt = true
  representable : j.outboxExpiresAt ≤ i64Max

/-- Both are pending, under a lease that ends at the same time, or delivered. -/
def SameState : StoredOutboxState → InviterJoinRow → Prop
  | .pending, j => j.outboxState = .pending
  | .leased _ expiresAt, j => j.outboxState = .leased ∧ j.leaseExpiresAt = some expiresAt ∧
      expiresAt ≤ j.outboxExpiresAt
  | .delivered _, j => j.outboxState = .delivered
  | .attemptsExhausted, _ => False

/-- Neither can be leased any more, and no lease on either is running. -/
def Over (policy : TransactionPolicy) (clock : Nat) (r : CommittedRecord) (j : InviterJoinRow) :
    Prop :=
  j.outboxExpiresAt ≤ clock ∨
    (policy.maximumDeliveryAttempts ≤ j.deliveryAttempts ∧
      (∀ q e, r.outbox = .leased q e → e ≤ clock) ∧ ∀ e ∈ j.leaseExpiresAt, e ≤ clock)

structure Alike (policy : TransactionPolicy) (clock : Nat) (r : CommittedRecord)
    (j : InviterJoinRow) : Prop extends SameDelivery policy r j where
  state : SameState r.outbox j ∨ Over policy clock r j

/-- The record is as before or has left its lease. -/
def Settles (r r' : CommittedRecord) : Prop :=
  r' = r ∨ ∃ s, (∀ q e, s ≠ .leased q e) ∧ r' = { r with outbox := s }

/-- The row is as before or has left its lease. -/
def Closes (j j' : InviterJoinRow) : Prop :=
  j' = j ∨ ∃ s, s ≠ .leased ∧ j' = j.closed s

theorem Settles.deliveryAttempts (h : Settles r r') :
    r'.deliveryAttempts = r.deliveryAttempts := by
  obtain rfl | ⟨s, -, rfl⟩ := h <;> rfl

theorem Closes.transactionId (h : Closes j j') : j'.transactionId = j.transactionId := by
  obtain rfl | ⟨s, -, rfl⟩ := h <;> rfl

theorem SameDelivery.step (h : SameDelivery policy r j) (hr : Settles r r') (hj : Closes j j') :
    SameDelivery policy r' j' := by
  obtain ⟨h₁, h₂, h₃, h₄, h₅, h₆, h₇, h₈, h₉⟩ := h
  obtain rfl | ⟨s, -, rfl⟩ := hr <;> obtain rfl | ⟨t, -, rfl⟩ := hj <;>
    exact ⟨h₁, h₂, h₃, h₄, h₅, h₆, h₇, h₈, h₉⟩

theorem Over.step (h : Over policy clock r j) (hnow : clock ≤ now) (hr : Settles r r')
    (hj : Closes j j') : Over policy now r' j' := by
  obtain hlate | ⟨hspent, hr₀, hj₀⟩ := h
  · left
    obtain rfl | ⟨t, -, rfl⟩ := hj <;> exact hlate.trans hnow
  · refine .inr ⟨?_, ?_, ?_⟩
    · obtain rfl | ⟨t, -, rfl⟩ := hj <;> exact hspent
    · intro q e hleased
      obtain rfl | ⟨s, hs, rfl⟩ := hr
      · exact (hr₀ q e hleased).trans hnow
      · exact absurd hleased (hs q e)
    · intro e he
      obtain rfl | ⟨t, -, rfl⟩ := hj
      · exact (hj₀ e he).trans hnow
      · cases he

theorem Alike.of_over (h : Alike policy clock r j) (hover : Over policy now r j)
    (hr : Settles r r') (hj : Closes j j') : Alike policy now r' j' :=
  ⟨h.toSameDelivery.step hr hj, .inr (hover.step le_rfl hr hj)⟩

theorem Over.mono (h : Over policy clock r j) (hnow : clock ≤ now) : Over policy now r j :=
  h.step hnow (.inl rfl) (.inl rfl)

theorem Alike.mono (h : Alike policy clock r j) (hnow : clock ≤ now) : Alike policy now r j :=
  ⟨h.toSameDelivery, h.state.imp_right fun hover => hover.mono hnow⟩

theorem SameState.available_iff {s : StoredOutboxState} (h : SameState s j) :
    s.available now = true ↔ j.Free now := by
  cases s with
  | pending =>
    have hpending : j.outboxState = .pending := h
    simp [StoredOutboxState.available, InviterJoinRow.Free, hpending]
  | leased q e =>
    obtain ⟨hleased, hexpires, -⟩ : j.outboxState = .leased ∧ j.leaseExpiresAt = some e ∧ _ := h
    simp [StoredOutboxState.available, InviterJoinRow.Free, hleased, hexpires]
  | delivered q =>
    have hdelivered : j.outboxState = .delivered := h
    simp [StoredOutboxState.available, InviterJoinRow.Free, hdelivered]
  | attemptsExhausted => exact h.elim

/-- What is pending in memory could be leased in the durable store for some time. -/
theorem Alike.pending_iff (h : Alike m.policy clock r j) (hnow : clock ≤ now) :
    m.pending now r = true ↔ now < j.outboxExpiresAt ∧
      j.deliveryAttempts < j.maximumDeliveryAttempts ∧ j.Free now := by
  simp only [InMemoryInviterJoinStore.pending, Bool.and_eq_true, decide_eq_true_eq, h.expires,
    h.attempts, h.maximum, and_assoc]
  refine and_congr_right fun hlife => and_congr_right fun hroom => ?_
  obtain hsame | hlate | ⟨hspent, -⟩ := h.state
  · exact hsame.available_iff
  · omega
  · omega

variable {leaseExpiresAt q e : Nat}

theorem Alike.eligible_iff (h : Alike m.policy clock r j) (hclock : clock ≤ now)
    (hnow : now < leaseExpiresAt) : j.eligible now leaseExpiresAt = true ↔
      m.pending now r = true ∧ leaseExpiresAt ≤ r.outboxExpiresAtUnixSeconds := by
  rw [h.pending_iff hclock, InviterJoinRow.eligible, decide_eq_true_eq, h.expires]
  constructor
  · rintro ⟨hfits, hroom, hfree⟩
    exact ⟨⟨by omega, hroom, hfree⟩, hfits⟩
  · rintro ⟨⟨-, hroom, hfree⟩, hfits⟩
    exact ⟨hfits, hroom, hfree⟩

/-! ## What the calls make of a record and its row -/

theorem settles_exhausted : Settles r (m.exhausted now r) := by
  unfold InMemoryInviterJoinStore.exhausted
  split
  · exact .inr ⟨.attemptsExhausted, (by simp), rfl⟩
  · exact .inl rfl

theorem closes_kept : Closes j (j.kept now) := by
  cases hlate : j.late now with
  | true => exact .inr ⟨.expired, (by simp), InviterJoinRow.kept_of_late hlate⟩
  | false =>
    cases hspent : j.spent now with
    | true => exact .inr ⟨.attemptsExhausted, (by simp), InviterJoinRow.kept_of_spent hlate hspent⟩
    | false => exact .inl (InviterJoinRow.kept_of_open hlate hspent)

/-- A record without attempts that nobody works on is out of reach. -/
theorem SameState.over_of_spent (hsame : SameState r.outbox j)
    (hspent : policy.maximumDeliveryAttempts ≤ j.deliveryAttempts)
    (hvalid : Storage.inviterJoinConstraints.check j = true) (hfree : j.Free now) :
    Over policy now r j := by
  refine .inr ⟨hspent, ?_, ?_⟩
  · intro q e hleased
    have := hsame.available_iff.mpr hfree
    simpa [hleased, StoredOutboxState.available] using this
  · intro e he
    obtain hpending | ⟨-, e', he', hle⟩ := hfree
    · simp only [Storage.inviterJoinConstraints, decide_eq_true_eq] at hvalid
      have hlease := hvalid.2.2.2.2.2.2.2.2.1
      simp [Storage.WelcomeOutboxState.admitsLease, hpending] at hlease
      simp [hlease.2] at he
    · obtain rfl := Option.mem_unique he he'
      exact hle

theorem SameState.kept_of_running (h : SameState (.leased q e) j) (hnow : now < e) :
    j.kept now = j := by
  obtain ⟨hleased, hexpires, hlife⟩ : j.outboxState = .leased ∧ j.leaseExpiresAt = some e ∧
    e ≤ j.outboxExpiresAt := h
  refine InviterJoinRow.kept_of_open (decide_eq_false ?_) (decide_eq_false ?_)
  · omega
  · rintro ⟨-, -, hpending | ⟨-, e', he', hle⟩⟩
    · rw [hleased] at hpending
      cases hpending
    · rw [hexpires] at he'
      cases he'
      omega

theorem exhausted_of_running (h : r.outbox = .leased q e) (hnow : now < e) :
    m.exhausted now r = r := by
  refine InMemoryInviterJoinStore.exhausted_of_not_spent ?_
  have : ¬e ≤ now := by omega
  simp [InMemoryInviterJoinStore.spent, h, StoredOutboxState.available, this]

theorem Alike.housekept (h : Alike m.policy clock r j) (hclock : clock ≤ now)
    (hvalid : Storage.inviterJoinConstraints.check j = true)
    (hr : r' = r ∨ r' = m.exhausted now r) (hj : j' = j ∨ j' = j.kept now) :
    Alike m.policy now r' j' := by
  have hsettles : Settles r r' := by
    obtain rfl | rfl := hr
    · exact .inl rfl
    · exact settles_exhausted
  have hcloses : Closes j j' := by
    obtain rfl | rfl := hj
    · exact .inl rfl
    · exact closes_kept
  by_cases hlate : j.outboxExpiresAt ≤ now
  · exact h.of_over (.inl hlate) hsettles hcloses
  obtain hsame | hover := h.state
  · by_cases hspent : m.policy.maximumDeliveryAttempts ≤ j.deliveryAttempts ∧ j.Free now
    · exact h.of_over (hsame.over_of_spent hspent.1 hvalid hspent.2) hsettles hcloses
    · -- nothing to retire on either side
      have hkept : j.kept now = j := by
        refine InviterJoinRow.kept_of_open (decide_eq_false ?_) (decide_eq_false ?_)
        · exact fun h => hlate h.2
        · rintro ⟨hmax, -, hfree⟩
          exact hspent ⟨h.maximum ▸ hmax, hfree⟩
      have hexhausted : m.exhausted now r = r := by
        refine InMemoryInviterJoinStore.exhausted_of_not_spent ?_
        rw [InMemoryInviterJoinStore.spent, Bool.and_eq_false_iff, decide_eq_false_iff_not]
        by_contra hboth
        rw [not_or, not_not, Bool.not_eq_false] at hboth
        exact hspent ⟨h.attempts ▸ hboth.1.2, hsame.available_iff.mp hboth.2⟩
      rw [hexhausted, or_self] at hr
      rw [hkept, or_self] at hj
      subst hr hj
      exact h.mono hclock
  · exact h.of_over (hover.mono hclock) hsettles hcloses

/-- The same lease, issued on the record and on the row. -/
theorem Alike.leased (h : Alike m.policy clock r j) (sequence : Nat) (leaseId : Id16)
    (hfits : leaseExpiresAt ≤ j.outboxExpiresAt) :
    Alike m.policy now (r.leasedAs sequence leaseExpiresAt)
      (j.leasedAs (j.leaseGeneration + 1) leaseId leaseExpiresAt) where
  transactionId := h.transactionId
  welcome := h.welcome
  endpoint := h.endpoint
  expires := h.expires
  attempts := congrArg (· + 1) h.attempts
  generation := congrArg (· + 1) h.generation
  maximum := h.maximum
  material := h.material
  representable := h.representable
  state := .inl ⟨rfl, rfl, hfits⟩

/-! ## Leases -/

/-- One lease as both stores have issued it. -/
structure Held where
  memory : DeliveryLease
  sql : SqlCipherWelcomeLease
  expiresAt : Nat
deriving DecidableEq

/-- What both stores know of a lease given out on a record and its row. -/
structure Held.Tracked (clock : Nat) (h : Held) (r : CommittedRecord) (j : InviterJoinRow) :
    Prop where
  generation : h.sql.generation ≤ j.leaseGeneration
  /-- The two stores agree on whether it is the lease that the Welcome is under. -/
  same : ∀ q e, r.outbox = .leased q e → SameState r.outbox j →
    (q = h.memory.leaseSequence ↔ j.heldBy h.sql)
  /-- Until it ends, it is. -/
  current : clock < h.expiresAt →
    r.outbox = .leased h.memory.leaseSequence h.expiresAt ∧ SameState r.outbox j

variable {h : Held}

theorem Closes.leaseGeneration (hj : Closes j j') : j'.leaseGeneration = j.leaseGeneration := by
  obtain rfl | ⟨s, -, rfl⟩ := hj <;> rfl

/-- A record that has settled is not leased, so it still is the one from before. -/
theorem Settles.eq_of_leased (hr : Settles r r') (hleased : r'.outbox = .leased q e) : r' = r := by
  obtain rfl | ⟨s, hs, rfl⟩ := hr
  · rfl
  · exact absurd hleased (hs q e)

theorem Closes.eq_of_leased (hj : Closes j j') (hleased : j'.outboxState = .leased) : j' = j := by
  obtain rfl | ⟨s, hs, rfl⟩ := hj
  · rfl
  · exact absurd hleased hs

section

variable (h' : h.Tracked clock r j) (hclock : clock ≤ now)
include h' hclock

/-- A lease stays tracked when record and row at most settle, and do not while it runs. -/
theorem Held.Tracked.step (hr : Settles r r') (hj : Closes j j')
    (hrunning : now < h.expiresAt → r' = r ∧ j' = j) : h.Tracked now r' j' where
  generation := hj.leaseGeneration ▸ h'.generation
  same := by
    intro q e hleased hsame
    rw [hleased] at hsame
    obtain rfl := hj.eq_of_leased hsame.1
    obtain rfl := hr.eq_of_leased hleased
    exact h'.same q e hleased (hleased ▸ hsame)
  current := by
    intro hnow
    obtain ⟨rfl, rfl⟩ := hrunning hnow
    exact h'.current (by omega)

theorem Held.Tracked.housekept (hr : r' = r ∨ r' = m.exhausted now r)
    (hj : j' = j ∨ j' = j.kept now) : h.Tracked now r' j' := by
  refine h'.step hclock ?_ ?_ ?_
  · obtain rfl | rfl := hr
    · exact .inl rfl
    · exact settles_exhausted
  · obtain rfl | rfl := hj
    · exact .inl rfl
    · exact closes_kept
  · intro hnow
    obtain ⟨hleased, hsame⟩ := h'.current (by omega)
    rw [hleased] at hsame
    rw [exhausted_of_running hleased hnow, or_self] at hr
    rw [hsame.kept_of_running hnow, or_self] at hj
    exact ⟨hr, hj⟩

/-- A new lease on the record and the row ends every earlier one. -/
theorem Held.Tracked.superseded (havailable : r.outbox.available now = true) {sequence : Nat}
    (hsequence : h.memory.leaseSequence < sequence) (leaseId : Id16) :
    h.Tracked now (r.leasedAs sequence leaseExpiresAt)
      (j.leasedAs (j.leaseGeneration + 1) leaseId leaseExpiresAt) where
  generation := h'.generation.trans (Nat.le_succ _)
  same := by
    rintro q e ⟨⟩ -
    refine iff_of_false (by omega) ?_
    rintro ⟨-, -, hgeneration, -⟩
    have := h'.generation
    simp only [InviterJoinRow.leasedAs] at hgeneration
    omega
  current := by
    intro hnow
    obtain ⟨hleased, -⟩ := h'.current (by omega)
    rw [hleased, StoredOutboxState.available, decide_eq_true_eq] at havailable
    omega

end

/-! ## Reports -/

/-- A report of the lease on both sides: it moves the record and the row that are under
the lease, and then both to the same state, or out of reach. -/
structure Reports (policy : TransactionPolicy) (now : Nat) (h : Held)
    (f : CommittedRecord → CommittedRecord) (g : InviterJoinRow → InviterJoinRow) : Prop where
  settles : ∀ r, Settles r (f r)
  closes : ∀ j, Closes j (g j)
  other : ∀ r, (∀ e, r.outbox ≠ .leased h.memory.leaseSequence e) → f r = r
  not_held : ∀ j, ¬j.heldBy h.sql → g j = j
  held : ∀ r j e, SameDelivery policy r j → r.outbox = .leased h.memory.leaseSequence e →
    SameState r.outbox j → j.heldBy h.sql → now < j.outboxExpiresAt →
    SameState (f r).outbox (g j) ∨ Over policy now (f r) (g j)

variable {f : CommittedRecord → CommittedRecord} {g : InviterJoinRow → InviterJoinRow}

theorem Alike.reported (ha : Alike policy clock r j) (hclock : clock ≤ now)
    (h' : h.Tracked clock r j) (hreports : Reports policy now h f g) :
    Alike policy now (f r) (g j) := by
  by_cases hlate : j.outboxExpiresAt ≤ now
  · exact ha.of_over (.inl hlate) (hreports.settles r) (hreports.closes j)
  obtain hsame | hover := ha.state
  · refine ⟨ha.toSameDelivery.step (hreports.settles r) (hreports.closes j), ?_⟩
    by_cases hmine : ∃ e, r.outbox = .leased h.memory.leaseSequence e
    · obtain ⟨e, hleased⟩ := hmine
      exact hreports.held r j e ha.toSameDelivery hleased hsame
        ((h'.same _ e hleased hsame).mp rfl) (by omega)
    · have hnot : ¬j.heldBy h.sql := by
        intro hheld
        cases hleased : r.outbox with
        | leased q e =>
          have hq := (h'.same q e hleased hsame).mpr hheld
          exact hmine ⟨e, hq ▸ hleased⟩
        | pending | delivered | attemptsExhausted =>
          rw [hleased] at hsame
          have hstate := hheld.2.1
          simp [SameState, hstate] at hsame
      rw [hreports.other r fun e he => hmine ⟨e, he⟩, hreports.not_held j hnot]
      exact .inl hsame
  · exact ha.of_over (hover.mono hclock) (hreports.settles r) (hreports.closes j)

/-- Another lease is still tracked after the report. -/
theorem Held.Tracked.reported {h₀ : Held} (h' : h.Tracked clock r j) (hclock : clock ≤ now)
    (h₀' : h₀.Tracked clock r j) (hreports : Reports policy now h₀ f g)
    (hne : h.memory.leaseSequence ≠ h₀.memory.leaseSequence) : h.Tracked now (f r) (g j) := by
  refine h'.step hclock (hreports.settles r) (hreports.closes j) fun hnow => ?_
  obtain ⟨hleased, hsame⟩ := h'.current (by omega)
  refine ⟨hreports.other r fun e he => ?_, hreports.not_held j fun hheld => ?_⟩
  · rw [hleased] at he
    exact hne (StoredOutboxState.leased.inj he).1
  · exact hne ((h₀'.same _ _ hleased hsame).mpr hheld)

theorem reports_accepted (policy : TransactionPolicy) (now : Nat) (h : Held)
    (hg : g = InviterJoinRow.afterAccepted h.sql now ∨ i64Max < now ∧ g = id) :
    Reports policy now h (InMemoryInviterJoinStore.afterAccepted h.memory now) g where
  settles r := by
    unfold InMemoryInviterJoinStore.afterAccepted
    split
    · split
      · exact .inr ⟨.delivered _, (by simp), rfl⟩
      · exact .inl rfl
    all_goals exact .inl rfl
  closes j := by
    obtain rfl | ⟨-, rfl⟩ := hg
    · cases hdeliverable : j.deliverable h.sql now with
      | true => exact .inr ⟨.delivered, (by simp), j.afterAccepted_of_deliverable hdeliverable⟩
      | false =>
        cases hoverdue : j.overdue h.sql now with
        | true => exact .inr ⟨.expired, (by simp), j.afterAccepted_of_overdue hdeliverable hoverdue⟩
        | false => exact .inl (j.afterAccepted_of_neither hdeliverable hoverdue)
    · exact .inl rfl
  other r hother := by
    unfold InMemoryInviterJoinStore.afterAccepted
    split
    · next q e hleased =>
        refine if_neg fun hq => ?_
        exact hother e (hq.1 ▸ hleased)
    all_goals rfl
  not_held j hnot := by
    obtain rfl | ⟨-, rfl⟩ := hg
    · exact j.afterAccepted_of_neither (decide_eq_false fun h => hnot h.1)
        (decide_eq_false fun h => hnot h.1)
    · rfl
  held r j e hdelivery hleased hsame hheld hlife := by
    obtain rfl | ⟨hlarge, rfl⟩ := hg
    · left
      have hsame' := hsame
      rw [hleased] at hsame'
      obtain ⟨-, hexpires, -⟩ := hsame'
      by_cases hnow : now < e
      · have hdeliverable : j.deliverable h.sql now = true :=
          decide_eq_true ⟨hheld, ⟨e, hexpires, hnow⟩, hlife⟩
        rw [j.afterAccepted_of_deliverable hdeliverable]
        simp [InMemoryInviterJoinStore.afterAccepted, hleased, hnow, hdelivery.expires, hlife,
          SameState, InviterJoinRow.closed]
      · have hdeliverable : j.deliverable h.sql now = false := by
          refine decide_eq_false ?_
          rintro ⟨-, ⟨e', he', hlt⟩, -⟩
          rw [hexpires] at he'
          cases he'
          exact hnow hlt
        rw [j.afterAccepted_of_neither hdeliverable (decide_eq_false fun h => by omega)]
        simpa [InMemoryInviterJoinStore.afterAccepted, hleased, hnow] using hsame
    · have := hdelivery.representable
      omega

theorem reports_failed (m : InMemoryInviterJoinStore) (now : Nat) (h : Held) :
    Reports m.policy now h (m.afterFailed h.memory) (InviterJoinRow.afterFailed h.sql) where
  settles r := by
    unfold InMemoryInviterJoinStore.afterFailed
    split
    · split
      · refine .inr ⟨_, ?_, rfl⟩
        split <;> simp
      · exact .inl rfl
    all_goals exact .inl rfl
  closes j := by
    unfold InviterJoinRow.afterFailed Relational.patch
    split
    · refine .inr ⟨_, ?_, rfl⟩
      split <;> simp
    · exact .inl rfl
  other r hother := by
    unfold InMemoryInviterJoinStore.afterFailed
    split
    · next q e hleased =>
        refine if_neg fun hq => ?_
        exact hother e (hq ▸ hleased)
    all_goals rfl
  not_held j hnot := Relational.patch_neg (decide_eq_false hnot)
  held r j e hdelivery hleased hsame hheld hlife := by
    have hrow : j.afterFailed h.sql = j.failed := Relational.patch_pos (decide_eq_true hheld)
    have hrecord : m.afterFailed h.memory r = { r with
        outbox := if m.policy.maximumDeliveryAttempts ≤ r.deliveryAttempts then
          .attemptsExhausted else .pending } := by
      simp [InMemoryInviterJoinStore.afterFailed, hleased]
    rw [hrow, hrecord]
    by_cases hspent : m.policy.maximumDeliveryAttempts ≤ j.deliveryAttempts
    · rw [if_pos (hdelivery.attempts ▸ hspent)]
      refine .inr (.inr ⟨hspent, ?_, ?_⟩)
      · intro q e hleased'
        cases hleased'
      · intro e he
        cases he
    · rw [if_neg (hdelivery.attempts ▸ hspent)]
      simp [SameState, InviterJoinRow.failed, InviterJoinRow.closed, hdelivery.maximum, hspent]

end SessionChat.InviterTransaction
