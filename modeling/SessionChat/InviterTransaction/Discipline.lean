import SessionChat.InviterTransaction.Calls

/-!
# The discipline of the in-memory store (`crates/session-inviter-transaction/src/lib.rs`)

What holds along every run of calls on the reference store: its bounds, single use of invitations
and join requests, lease sequences, and what a repeated commit reports.
-/

set_option autoImplicit false

namespace SessionChat.InviterTransaction

open Collections Transition InMemoryInviterJoinStore
open Storage (Id16 ScopeId)

variable {m m' m'' : InMemoryInviterJoinStore}

/-! ## Contents -/

/-- What is committed under an identifier, without its delivery. -/
def content (m : InMemoryInviterJoinStore) (transactionId : Id16) : Option JoinContent :=
  (m.commits.get? transactionId).map CommittedRecord.toJoinContent

variable {r r' : CommittedRecord} {policy : TransactionPolicy} {now : Nat} {clock : Option Nat}
  {c : JoinContent} {reservation : ReservedInvitation} {commit : InviterJoinCommit}

theorem content_of_get? {id : Id16} (hget : m.commits.get? id = some r) :
    content m id = some r.toJoinContent := by
  rw [content, hget]
  rfl

theorem content_install (m : InMemoryInviterJoinStore) (commit : InviterJoinCommit) (id : Id16) :
    content (m.install commit) id =
      if id = commit.transactionId then some commit.toJoinContent else content m id := by
  simp only [content, install, OrderedMap.get?_insert]
  split_ifs <;> rfl

/-- No record has more attempts than the policy allows. -/
def AttemptsBounded (m : InMemoryInviterJoinStore) : Prop :=
  ∀ id r, m.commits.get? id = some r → r.deliveryAttempts ≤ m.policy.maximumDeliveryAttempts

/-- Deliveries may have moved on; nothing else has. -/
structure Redelivers (m m' : InMemoryInviterJoinStore) : Prop where
  policy : m'.policy = m.policy
  reservations : m'.reservations = m.reservations
  size : m'.commits.size = m.commits.size
  content : content m' = content m
  attempts : AttemptsBounded m → AttemptsBounded m'

theorem Redelivers.trans (h : Redelivers m m') (h' : Redelivers m' m'') : Redelivers m m'' where
  policy := h'.policy.trans h.policy
  reservations := h'.reservations.trans h.reservations
  size := h'.size.trans h.size
  content := h'.content.trans h.content
  attempts hbounded := h'.attempts (h.attempts hbounded)

/-- Rewriting records without touching what they commit. -/
theorem redelivers_mapped {g : Id16 → CommittedRecord → CommittedRecord}
    (hcontent : ∀ id r, (g id r).toJoinContent = r.toJoinContent)
    (hattempts : ∀ id r, m.commits.get? id = some r →
      r.deliveryAttempts ≤ m.policy.maximumDeliveryAttempts →
      (g id r).deliveryAttempts ≤ m.policy.maximumDeliveryAttempts) :
    Redelivers m (mapped m g) where
  policy := rfl
  reservations := rfl
  size := OrderedMap.size_mapValues _ _
  content := by
    funext id
    simp only [InviterTransaction.content, mapped, OrderedMap.get?_mapValues, Option.map_map,
      Function.comp_def, hcontent]
  attempts hbounded id r hget := by
    simp only [mapped, OrderedMap.get?_mapValues] at hget
    obtain ⟨r', hget', rfl⟩ := Option.map_eq_some_iff.mp hget
    exact hattempts id r' hget' (hbounded id r' hget')

theorem Settled.content (h : Settled policy clock r r') : r'.toJoinContent = r.toJoinContent := by
  rcases h with rfl | ⟨-, -, rfl⟩ <;> rfl

theorem Settled.attempts (h : Settled policy clock r r') :
    r'.deliveryAttempts = r.deliveryAttempts := by
  rcases h with rfl | ⟨-, -, rfl⟩ <;> rfl

theorem Exhausts.redelivers (h : Exhausts clock m m') : Redelivers m m' := by
  obtain ⟨g, hg, rfl⟩ := h
  refine redelivers_mapped (fun id r => (hg id r).content) ?_
  intro id r _ hle
  rw [(hg id r).attempts]
  exact hle

theorem redelivers_setOutbox (m : InMemoryInviterJoinStore) (id : Id16)
    (state : StoredOutboxState) : Redelivers m (m.setOutbox id state) := by
  refine redelivers_mapped (g := fun id' r => if id' = id then { r with outbox := state } else r)
    ?_ ?_
  · intro id' r
    split_ifs <;> rfl
  · intro id' r _ hle
    split_ifs <;> exact hle

theorem Issues.redelivers {lease : DeliveryLease} (h : Issues m lease now m') :
    Redelivers m m' := by
  obtain ⟨expiresAt, -, rfl⟩ := h.after
  obtain ⟨record, hrecord, hleft, -⟩ := h.record
  have hrewrites : Redelivers m (mapped m fun id r => if id = lease.transactionId then
      CommittedRecord.leasedAs m.nextLeaseSequence expiresAt r else r) := by
    refine redelivers_mapped ?_ ?_
    · intro id r
      split_ifs <;> rfl
    · intro id r hget hle
      split_ifs with hid
      · subst hid
        cases hrecord.symm.trans hget
        exact hleft
      · exact hle
  exact ⟨rfl, rfl, hrewrites.size, hrewrites.content, hrewrites.attempts⟩

/-- A call seeds a reservation, installs a commit, or moves deliveries on. -/
theorem Effect.outline {c : Call} {reply : Reply} (h : Effect m c reply m') :
    Redelivers m m' ∨ (∃ reservation now, Seeds m reservation now m') ∨
      ∃ commit, Installs m commit ∧ m' = m.install commit := by
  cases h with
  | kept hexhausts => exact .inl hexhausts.redelivers
  | seeded hseeds => exact .inr (.inl ⟨_, _, hseeds⟩)
  | installed hinstalls => exact .inr (.inr ⟨_, hinstalls, rfl⟩)
  | issued hexhausts hissues => exact .inl (hexhausts.redelivers.trans hissues.redelivers)
  | reported => exact .inl (redelivers_setOutbox _ _ _)

/-! ## The invariant of the store -/

/-- The bounds, and single use of what is committed. -/
structure Sound (m : InMemoryInviterJoinStore) : Prop where
  reservations : m.reservations.size ≤ m.policy.maximumTransactions
  commits : m.commits.size ≤ m.policy.maximumTransactions
  apart : ∀ id c, content m id = some c → m.reservations.get? c.invitationId = none
  invitation : ∀ id id' c c', content m id = some c → content m id' = some c' →
    c.invitationId = c'.invitationId → id = id'
  request : ∀ id id' c c', content m id = some c → content m id' = some c' →
    c.joinRequestId = c'.joinRequestId → id = id'
  valid : ∀ id c, content m id = some c → m.validateCommit ⟨c, id⟩ = true
  attempts : AttemptsBounded m

theorem content_new (policy : TransactionPolicy) (scope : ScopeId) (id : Id16) (c : JoinContent) :
    content (.new policy scope) id ≠ some c := by
  simp [content, InMemoryInviterJoinStore.new]

theorem sound_new (policy : TransactionPolicy) (scope : ScopeId) : Sound (.new policy scope) where
  reservations := Nat.zero_le _
  commits := Nat.zero_le _
  apart id c hc := absurd hc (content_new policy scope id c)
  invitation id _ c _ hc := absurd hc (content_new policy scope id c)
  request id _ c _ hc := absurd hc (content_new policy scope id c)
  valid id c hc := absurd hc (content_new policy scope id c)
  attempts id _ hget := absurd (content_of_get? hget) (content_new policy scope id _)

theorem validateCommit_of_policy (h : m'.policy = m.policy) (commit : InviterJoinCommit) :
    m'.validateCommit commit = m.validateCommit commit := by
  simp only [validateCommit, h]

theorem Sound.redelivers (hm : Sound m) (h : Redelivers m m') : Sound m' where
  reservations := by
    rw [h.reservations, h.policy]
    exact hm.reservations
  commits := by
    rw [h.size, h.policy]
    exact hm.commits
  apart := by
    rw [h.content, h.reservations]
    exact hm.apart
  invitation := by
    rw [h.content]
    exact hm.invitation
  request := by
    rw [h.content]
    exact hm.request
  valid := by
    simp only [h.content, validateCommit_of_policy h.policy]
    exact hm.valid
  attempts := h.attempts hm.attempts

@[simp] theorem reservations_evict (m : InMemoryInviterJoinStore)
    (e : Id16 × ReservationRecord) : (m.evict e).reservations = m.reservations.erase e.1 := rfl

/-- Only the reservations change, by at most the new one, and they stay in their bound. -/
theorem Seeds.frame (h : Seeds m reservation now m') :
    m'.policy = m.policy ∧ m'.commits = m.commits ∧
      (∀ id, id ≠ reservation.invitationId → m.reservations.get? id = none →
        m'.reservations.get? id = none) ∧ (m.reservations.size ≤ m.policy.maximumTransactions →
        m'.reservations.size ≤ m.policy.maximumTransactions) := by
  rcases h.place with ⟨hroom, -, rfl⟩ | ⟨expired, hexpired, -, rfl⟩
  · refine ⟨rfl, rfl, ?_, ?_⟩
    · intro id hne hnone
      simpa [insertReservation, hne] using hnone
    · intro _
      exact (OrderedMap.size_insert_le _ _ _).trans hroom
  · refine ⟨rfl, rfl, ?_, ?_⟩
    · intro id hne hnone
      simp only [insertReservation, reservations_evict, ne_eq, hne, not_false_eq_true,
        OrderedMap.get?_insert_of_ne]
      by_cases hid : id = expired.1
      · rw [hid, OrderedMap.get?_erase_self]
      · rw [OrderedMap.get?_erase_of_ne _ hid, hnone]
    · have herase := OrderedMap.sum_erase hexpired fun _ _ => 1
      rw [← OrderedMap.size_eq_sum, ← OrderedMap.size_eq_sum] at herase
      have hinsert := OrderedMap.size_insert_le (m.reservations.erase expired.1)
        reservation.invitationId { invitationGeneration := reservation.invitationGeneration
                                   joinRequestId := reservation.joinRequestId
                                   expiresAtUnixSeconds := reservation.expiresAtUnixSeconds }
      simp only [insertReservation, reservations_evict]
      omega

theorem Sound.seeds (hm : Sound m) (h : Seeds m reservation now m') : Sound m' := by
  obtain ⟨hpolicy, hcommits, hreservations, hsize⟩ := h.frame
  have hcontent : content m' = content m := by
    funext id
    rw [content, hcommits, content]
  refine ⟨?_, ?_, ?_, ?_, ?_, ?_, ?_⟩
  · rw [hpolicy]
    exact hsize hm.reservations
  · rw [hcommits, hpolicy]
    exact hm.commits
  · intro id c hc
    rw [hcontent] at hc
    obtain ⟨r, hget, rfl⟩ := Option.map_eq_some_iff.mp hc
    exact hreservations _ (h.uncommitted id r hget) (hm.apart id _ hc)
  · rw [hcontent]
    exact hm.invitation
  · rw [hcontent]
    exact hm.request
  · simp only [hcontent, validateCommit_of_policy hpolicy]
    exact hm.valid
  · intro id r hget
    rw [hcommits] at hget
    rw [hpolicy]
    exact hm.attempts id r hget

/-- A commit that takes place is the only one for its invitation and its join request. -/
theorem Installs.alone (h : Installs m commit) (hm : Sound m) {id : Id16}
    (hc : content m id = some c) :
    c.invitationId ≠ commit.invitationId ∧ c.joinRequestId ≠ commit.joinRequestId := by
  obtain ⟨r, hget, rfl⟩ := Option.map_eq_some_iff.mp hc
  obtain ⟨reservation, hreservation⟩ := h.reserved
  refine ⟨?_, ?_⟩
  · intro heq
    have hnone := hm.apart id _ hc
    rw [heq, hreservation] at hnone
    cases hnone
  · intro heq
    exact h.first ⟨(id, r), OrderedMap.mem_entries.mpr hget, .inr heq⟩

/-- A field that tells the new commit from all others still identifies the record. -/
theorem Installs.identifies {field : JoinContent → Id16}
    (hnew : ∀ id c, content m id = some c → field c ≠ field commit.toJoinContent)
    (hold : ∀ id id' c c', content m id = some c → content m id' = some c' → field c = field c' →
      id = id') : ∀ id id' c c', content (m.install commit) id = some c →
      content (m.install commit) id' = some c' → field c = field c' → id = id' := by
  intro id id' c c' hc hc' hfield
  rw [content_install] at hc hc'
  split_ifs at hc hc' with hid hid' hid'
  · exact hid.trans hid'.symm
  · cases hc
    exact absurd hfield.symm (hnew id' c' hc')
  · cases hc'
    exact absurd hfield (hnew id c hc)
  · exact hold id id' c c' hc hc' hfield

theorem Sound.installs (hm : Sound m) (h : Installs m commit) : Sound (m.install commit) where
  reservations := (OrderedMap.size_retain_le _ _).trans hm.reservations
  commits := (OrderedMap.size_insert_le _ _ _).trans h.room
  apart id c hc := by
    rw [content_install] at hc
    split_ifs at hc with hid
    · cases hc
      exact OrderedMap.get?_erase_self _ _
    · exact (OrderedMap.get?_erase_of_ne _ (h.alone hm hc).1).trans (hm.apart id c hc)
  invitation := Installs.identifies (fun _ _ hc => (h.alone hm hc).1) hm.invitation
  request := Installs.identifies (fun _ _ hc => (h.alone hm hc).2) hm.request
  valid id c hc := by
    rw [content_install] at hc
    split_ifs at hc with hid
    · cases hc
      rw [hid]
      exact h.valid
    · exact hm.valid id c hc
  attempts id r hget := by
    simp only [install, OrderedMap.get?_insert] at hget
    split_ifs at hget with hid
    · cases hget
      exact Nat.zero_le _
    · exact hm.attempts id r hget

theorem Sound.call (hm : Sound m) (c : Call) : Sound (call m c).1 := by
  rcases (call_effect m c).outline with h | ⟨reservation, now, h⟩ | ⟨commit, h, heq⟩
  · exact hm.redelivers h
  · exact hm.seeds h
  · rw [heq]
    exact hm.installs h

/-! ## One call -/

/-- Nothing committed is dropped or altered. -/
theorem content_call {id : Id16} (hc : content m id = some c) (k : Call) :
    content (call m k).1 id = some c := by
  rcases (call_effect m k).outline with h | ⟨reservation, now, h⟩ | ⟨commit, h, heq⟩
  · rw [h.content, hc]
  · rw [content, h.frame.2.1]
    exact hc
  · rw [heq, content_install, if_neg ?_, hc]
    rintro rfl
    rw [content, h.fresh] at hc
    cases hc

theorem policy_call (m : InMemoryInviterJoinStore) (k : Call) : (call m k).1.policy = m.policy := by
  rcases (call_effect m k).outline with h | ⟨reservation, now, h⟩ | ⟨commit, h, heq⟩
  · exact h.policy
  · exact h.frame.1
  · rw [heq]
    rfl

/-- A commit under a committed identifier changes nothing; it reports the commit that took
place, if that is the one repeated. -/
theorem commit_committed (hm : Sound m) (commit : InviterJoinCommit)
    (hc : content m commit.transactionId = some c) (now : Nat) (fault : CommitFault) :
    call m (.commit commit now fault) = (m, .committed (
      if c = commit.toJoinContent then .ok .alreadyCommitted
      else if m.validateCommit commit then .error .conflict else .error .invalidInput)) := by
  obtain ⟨r, hget, rfl⟩ := Option.map_eq_some_iff.mp hc
  simp only [call, commitWithFault, hget, CommittedRecord.matches]
  by_cases hsame : r.toJoinContent = commit.toJoinContent
  · have hvalid : m.validateCommit commit = true := by
      have := hm.valid _ _ hc
      rw [hsame] at this
      exact this
    simp [hsame, hvalid]
  · rcases hvalid : m.validateCommit commit with _ | _ <;> simp [hsame]

/-- Under a new identifier a commit takes place or is refused without a trace. -/
theorem commit_fresh (hc : content m commit.transactionId =
      none) (now : Nat) (fault : CommitFault) : ((call m (.commit commit now fault)).2.Installed ∧
        (call m (.commit commit now fault)).1 = m.install commit) ∨
      ((call m (.commit commit now fault)).2.Refused ∧
        (call m (.commit commit now fault)).1 = m) := by
  have hget : m.commits.get? commit.transactionId = none := Option.map_eq_none_iff.mp hc
  simp only [call, commitWithFault, hget]
  split
  · exact .inr ⟨(by rintro ⟨⟩), rfl⟩
  split
  · exact .inr ⟨(by rintro ⟨⟩), rfl⟩
  split
  · exact .inr ⟨(by rintro ⟨⟩), rfl⟩
  split
  · exact .inr ⟨(by rintro ⟨⟩), rfl⟩
  split
  · exact .inr ⟨(by rintro ⟨⟩), rfl⟩
  split
  · exact .inr ⟨(by rintro ⟨⟩), rfl⟩
  split
  · exact .inr ⟨(by rintro ⟨⟩), rfl⟩
  split
  · exact .inr ⟨(by rintro ⟨⟩), rfl⟩
  split
  · exact .inr ⟨(by rintro ⟨⟩), rfl⟩
  split
  · exact .inl ⟨trivial, rfl⟩
  · exact .inl ⟨trivial, rfl⟩

/-- Once its injected failure is gone, a commit that replays nothing takes place. -/
theorem commit_after_failure {fault : CommitFault}
    (hfailed : (call m (.commit commit now fault)).2 = .committed (.error .injectedFailure))
    (hfirst : ¬m.replayed commit) :
    call m (.commit commit now .none) = (m.install commit, .committed (.ok .committed)) := by
  simp only [call, commitWithFault] at hfailed ⊢
  split at hfailed
  · cases hfailed
  next hvalid =>
  rw [if_neg hvalid]
  split at hfailed
  · split at hfailed <;> cases hfailed
  split at hfailed
  · cases hfailed
  next hlive =>
  rw [if_neg hlive]
  split at hfailed
  · cases hfailed
  next hroom =>
  rw [if_neg hroom]
  split at hfailed
  · cases hfailed
  split at hfailed
  · cases hfailed
  next hmatches =>
  rw [if_neg hmatches]
  split at hfailed
  · cases hfailed
  next hunexpired =>
  rw [if_neg hunexpired, if_neg (by simp), if_neg hfirst, if_neg (by decide), if_neg (by simp)]

end SessionChat.InviterTransaction
