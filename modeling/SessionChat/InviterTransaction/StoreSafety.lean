import SessionChat.InviterTransaction.Discipline

/-!
# Every run of the in-memory store (`crates/session-inviter-transaction/src/lib.rs`)

The invariant of the store along a run, together with what the calls so far have
reported: the commits that took place and the leases handed out.
-/

set_option autoImplicit false

namespace SessionChat.InviterTransaction

open Collections Transition InMemoryInviterJoinStore Storage

abbrev StoreWorld := World InMemoryInviterJoinStore Call Reply

/-- Any calls, with any times and leases, on a new store. -/
def StoreRun (policy : TransactionPolicy) (scope : ScopeId) (w : StoreWorld) : Prop :=
  Leads call (fun _ _ => True) ⟨.new policy scope, []⟩ w

variable {m m' : InMemoryInviterJoinStore} {w : StoreWorld}

/-! ## What the calls have reported -/

def installed : Event Call Reply → Option InviterJoinCommit
  | ⟨.commit commit _ _, reply⟩ => if reply.Installed then some commit else none
  | _ => none

def installs (history : List (Event Call Reply)) : List InviterJoinCommit :=
  history.filterMap installed

def leases (history : List (Event Call Reply)) : List DeliveryLease :=
  history.filterMap fun event => event.reply.lease?

/-- The commit has taken place, in this call or before it. -/
def Reply.Settles (reply : Reply) : Prop :=
  reply.Installed ∨ reply = .committed (.ok .alreadyCommitted)

variable {commit : InviterJoinCommit} {now : Nat} {fault : CommitFault} {reply : Reply} {c : Call}
  {policy : TransactionPolicy} {r : CommittedRecord}

theorem settles_of_installed {event : Event Call Reply} (h : installed event = some commit) :
    ∃ now fault reply, event = ⟨.commit commit now fault, reply⟩ ∧ reply.Installed := by
  obtain ⟨c, reply⟩ := event
  cases c with
  | commit commit' now fault =>
    simp only [installed] at h
    split_ifs at h with hreply
    cases h
    exact ⟨now, fault, reply, rfl, hreply⟩
  | _ => cases h

/-- A commit takes place only under the checks of the store. -/
theorem Effect.installs (h : Effect m (.commit commit now fault) reply m')
    (hreply : reply.Installed) : Installs m commit ∧ m' = m.install commit := by
  cases h with
  | kept _ _ hnot => exact absurd hreply hnot
  | installed hinstalls => exact ⟨hinstalls, rfl⟩
  | issued _ _ _ _ hnot => exact absurd hreply hnot
  | reported hcall => rcases hcall with hcall | ⟨_, hcall⟩ <;> cases hcall

/-- A lease takes the next sequence; otherwise the counter stands still. -/
theorem Effect.sequence (h : Effect m c reply m') :
    (reply.lease? = none ∧ m'.nextLeaseSequence = m.nextLeaseSequence) ∨
      ∃ lease, reply.lease? = some lease ∧ lease.leaseSequence = m.nextLeaseSequence ∧
        m'.nextLeaseSequence = m.nextLeaseSequence + 1 := by
  cases h with
  | kept hexhausts hlease =>
    obtain ⟨g, -, rfl⟩ := hexhausts
    exact .inl ⟨hlease, rfl⟩
  | seeded hseeds =>
    rcases hseeds.place with ⟨-, -, rfl⟩ | ⟨expired, -, -, rfl⟩ <;> exact .inl ⟨rfl, rfl⟩
  | installed _ _ hnone => exact .inl ⟨hnone, rfl⟩
  | issued hexhausts hissues hlease =>
    obtain ⟨g, -, rfl⟩ := hexhausts
    obtain ⟨expiresAt, -, rfl⟩ := hissues.after
    exact .inr ⟨_, hlease, hissues.sequence, rfl⟩
  | reported _ _ _ hlease => exact .inl ⟨hlease, rfl⟩

theorem content_of_settles (hm : Sound m)
      (hsettles : (call m (.commit commit now fault)).2.Settles) :
    content (call m (.commit commit now fault)).1 commit.transactionId =
      some commit.toJoinContent := by
  rcases hc : content m commit.transactionId with _ | c
  · rcases commit_fresh hc now fault with ⟨-, hstate⟩ | ⟨hrefused, -⟩
    · rw [hstate, content_install, if_pos rfl]
    · generalize (call m (.commit commit now fault)).2 = reply at hsettles hrefused
      rcases hsettles with hinstalled | rfl
      · rcases reply with _ | (error | outcome) | _ | _ | _ | _ <;> try exact hinstalled.elim
        · cases error <;> first | exact hinstalled.elim | exact absurd rfl hrefused
        · exact hrefused.elim
      · exact hrefused.elim
  · rw [commit_committed hm commit hc] at hsettles ⊢
    split_ifs at hsettles with hsame hvalid
    · rw [hc, hsame]
    · rcases hsettles with hfalse | hfalse
      · exact hfalse.elim
      · cases hfalse
    · rcases hsettles with hfalse | hfalse
      · exact hfalse.elim
      · cases hfalse

/-! ## The invariant along a run -/

/-- The store is sound, holds every settled commit, and has never reissued a lease. -/
structure Recorded (policy : TransactionPolicy) (w : StoreWorld) : Prop where
  policy : w.state.policy = policy
  sound : Sound w.state
  settled : ∀ commit now fault reply, ⟨.commit commit now fault, reply⟩ ∈ w.history →
    reply.Settles → content w.state commit.transactionId = some commit.toJoinContent
  once : ((installs w.history).map InviterJoinCommit.transactionId).Nodup
  increasing : ((leases w.history).map DeliveryLease.leaseSequence).Pairwise (· < ·)
  below : ∀ lease ∈ leases w.history, lease.leaseSequence < w.state.nextLeaseSequence

theorem recorded_new (policy : TransactionPolicy) (scope : ScopeId) :
    Recorded policy ⟨.new policy scope, []⟩ where
  policy := rfl
  sound := sound_new policy scope
  settled _ _ _ _ hmem := absurd hmem List.not_mem_nil
  once := .nil
  increasing := .nil
  below _ hmem := absurd hmem List.not_mem_nil

section

variable (h : Recorded policy w)
include h

theorem Recorded.content_installs (hmem : commit ∈ installs w.history) :
    content w.state commit.transactionId = some commit.toJoinContent := by
  obtain ⟨event, hevent, hinstalled⟩ := List.mem_filterMap.mp hmem
  obtain ⟨now, fault, reply, rfl, hreply⟩ := settles_of_installed hinstalled
  exact h.settled commit now fault reply hevent (.inl hreply)

theorem Recorded.once_after (c : Call) :
    ((installs (w.after call c).history).map InviterJoinCommit.transactionId).Nodup := by
  simp only [World.after, installs, List.filterMap_append, List.map_append]
  rcases hinstalled : installed ⟨c, (call w.state c).2⟩ with _ | commit
  · simp only [List.filterMap_cons, hinstalled, List.filterMap_nil, List.map_nil, List.append_nil]
    exact h.once
  · obtain ⟨now, fault, reply, heq, hreply⟩ := settles_of_installed hinstalled
    cases heq
    have hfresh := ((call_effect w.state _).installs hreply).1.fresh
    simp only [List.filterMap_cons, hinstalled]
    refine List.nodup_append.mpr ⟨h.once, List.nodup_singleton _, ?_⟩
    rintro id hid _ (_ | ⟨_, ⟨⟩⟩) rfl
    obtain ⟨other, hother, hsame⟩ := List.mem_map.mp hid
    have hcontent := h.content_installs hother
    rw [hsame, content, hfresh] at hcontent
    cases hcontent

theorem Recorded.leases_after (c : Call) :
    ((leases (w.after call c).history).map DeliveryLease.leaseSequence).Pairwise (· < ·) ∧
      ∀ lease ∈ leases (w.after call c).history,
        lease.leaseSequence < (w.after call c).state.nextLeaseSequence := by
  simp only [World.after, leases, List.filterMap_append, List.map_append]
  rcases (call_effect w.state c).sequence with ⟨hnone, hsame⟩ | ⟨lease, hlease, hnext, hafter⟩
  · simp only [List.filterMap_cons, hnone, List.filterMap_nil, List.map_nil, List.append_nil, hsame]
    exact ⟨h.increasing, h.below⟩
  · simp only [List.filterMap_cons, hlease, hafter]
    refine ⟨List.pairwise_append.mpr ⟨h.increasing, List.pairwise_singleton _ _, ?_⟩, ?_⟩
    · intro q hq _ hlast
      obtain ⟨earlier, hearlier, rfl⟩ := List.mem_map.mp hq
      rw [List.mem_singleton.mp hlast, hnext]
      exact h.below earlier hearlier
    · intro other hother
      rcases List.mem_append.mp hother with hold | hnew
      · exact Nat.lt_succ_of_lt (h.below other hold)
      · rw [List.mem_singleton.mp hnew, hnext]
        exact Nat.lt_succ_self _

theorem Recorded.after (c : Call) : Recorded policy (w.after call c) where
  policy := (policy_call w.state c).trans h.policy
  sound := h.sound.call c
  settled commit now fault reply hmem hsettles := by
    rcases List.mem_append.mp hmem with hold | hnew
    · exact content_call (h.settled commit now fault reply hold hsettles) c
    · cases List.mem_singleton.mp hnew
      exact content_of_settles h.sound hsettles
  once := h.once_after c
  increasing := (h.leases_after c).1
  below := (h.leases_after c).2

end

theorem StoreRun.recorded {scope : ScopeId} (hrun : StoreRun policy scope w) : Recorded policy w :=
  hrun.invariant (fun _ c _ h => h.after c) (recorded_new policy scope)

/-- A field that identifies a record occurs once among the commits that took place. -/
theorem Recorded.nodup_field (h : Recorded policy w) {field : JoinContent → Id16}
    (hfield : ∀ id id' c c', content w.state id = some c → content w.state id' = some c' →
      field c = field c' → id = id') :
    ((installs w.history).map fun commit => field commit.toJoinContent).Nodup := by
  have hpair := List.pairwise_map.mp h.once
  refine List.pairwise_map.mpr (hpair.imp_of_mem ?_)
  intro commit other hcommit hother hne hsame
  exact hne (hfield _ _ _ _ (h.content_installs hcommit) (h.content_installs hother) hsame)

/-! ## Deliveries and errors -/

/-- What may happen to the outbox state of one record in a call. -/
inductive OutboxMove (m : InMemoryInviterJoinStore) (c : Call) (reply : Reply) (id : Id16)
    (r : CommittedRecord) : StoredOutboxState → Prop where
  | same : OutboxMove m c reply id r r.outbox
  /-- A Welcome that is pending, or leased under a lease that has run out, is given up. -/
  | exhausted (hspent : m.policy.maximumDeliveryAttempts ≤ r.deliveryAttempts)
      (havailable : ∃ now ∈ c.clock, r.outbox.available now = true) :
      OutboxMove m c reply id r .attemptsExhausted
  | leased {lease : DeliveryLease} {expiresAt : Nat} (hlease : reply.lease? = some lease)
      (hid : lease.transactionId = id) (hnext : lease.leaseSequence = m.nextLeaseSequence) :
      OutboxMove m c reply id r (.leased lease.leaseSequence expiresAt)
  | reported {lease : DeliveryLease} {state : StoredOutboxState}
      (hcall : c = .fail lease ∨ ∃ now, c = .complete lease now) (hid : lease.transactionId = id)
      (hcurrent : Current m lease) : OutboxMove m c reply id r state

theorem Settled.outboxMove {id : Id16} {r' : CommittedRecord}
    (h : Settled m.policy c.clock r r') : OutboxMove m c reply id r r'.outbox := by
  rcases h with rfl | ⟨hspent, havailable, rfl⟩
  · exact .same
  · exact .exhausted hspent havailable

/-- Records are never dropped, and only the current lease reports on one. -/
theorem Effect.outboxMove (h : Effect m c reply m') {id : Id16} (hget : m.commits.get? id =
      some r) : ∃ r', m'.commits.get? id = some r' ∧ OutboxMove m c reply id r r'.outbox := by
  cases h with
  | kept hexhausts =>
    obtain ⟨g, hg, rfl⟩ := hexhausts
    refine ⟨g id r, ?_, (hg id r).outboxMove⟩
    rw [mapped, OrderedMap.get?_mapValues, hget]
    rfl
  | seeded hseeds => exact ⟨r, by rw [hseeds.frame.2.1, hget], .same⟩
  | @installed commit _ _ _ hinstalls _ _ =>
    refine ⟨r, ?_, .same⟩
    have hne : id ≠ commit.transactionId := by
      rintro rfl
      have hnone := hinstalls.fresh.symm.trans hget
      cases hnone
    rw [install, OrderedMap.get?_insert_of_ne _ _ hne, hget]
  | @issued _ _ lease _ _ _ hexhausts hissues hlease _ _ =>
    obtain ⟨g, hg, rfl⟩ := hexhausts
    obtain ⟨expiresAt, -, rfl⟩ := hissues.after
    by_cases hid : id = lease.transactionId
    · subst hid
      refine ⟨(g lease.transactionId r).leasedAs m.nextLeaseSequence expiresAt, ?_, ?_⟩
      · simp only [mapped, OrderedMap.get?_modify_self, OrderedMap.get?_mapValues, hget,
          Option.map_some]
      · rw [show m.nextLeaseSequence = lease.leaseSequence from
          hissues.sequence.symm]
        exact .leased hlease rfl hissues.sequence
    · refine ⟨g id r, ?_, (hg id r).outboxMove⟩
      simp only [mapped, OrderedMap.get?_modify_of_ne _ _ hid, OrderedMap.get?_mapValues, hget,
        Option.map_some]
  | @reported _ _ lease state hcall hcurrent _ _ _ _ =>
    by_cases hid : id = lease.transactionId
    · subst hid
      refine ⟨{ r with outbox := state }, ?_, .reported hcall rfl hcurrent⟩
      rw [setOutbox, OrderedMap.get?_modify_self, hget]
      rfl
    · exact ⟨r, by rw [setOutbox, OrderedMap.get?_modify_of_ne _ _ hid, hget], .same⟩

/-- An error other than an unknown outcome only marks records without an attempt left. -/
theorem Effect.refused (h : Effect m c reply m') (hrefused : reply.Refused) :
    Exhausts c.clock m m' := by
  cases h with
  | kept hexhausts => exact hexhausts
  | seeded => exact hrefused.elim
  | installed _ hreply =>
    rcases reply with _ | (error | outcome) | _ | _ | _ | _ <;> try exact hreply.elim
    · cases error <;> first | exact hreply.elim | exact absurd rfl hrefused
    · exact hrefused.elim
  | issued _ _ _ hok => exact absurd hrefused hok
  | reported _ _ _ _ hok => exact absurd hrefused hok

/-! ## The guarantees -/

/-- What holds in every state a run reaches. -/
structure Disciplined (policy : TransactionPolicy) (w : StoreWorld) : Prop where
  reservations : w.state.reservations.size ≤ policy.maximumTransactions
  commits : w.state.commits.size ≤ policy.maximumTransactions
  /-- No invitation is both reserved and committed. -/
  apart : ∀ id r, w.state.commits.get? id = some r →
    w.state.reservations.get? r.invitationId = none
  /-- Each invitation, and each join request, is committed once over the whole run, and is
  that of one record. -/
  invitation_once : ((installs w.history).map fun commit => commit.invitationId).Nodup ∧
    ∀ id id' r r', w.state.commits.get? id = some r → w.state.commits.get? id' = some r' →
      r.invitationId = r'.invitationId → id = id'
  request_once : ((installs w.history).map fun commit => commit.joinRequestId).Nodup ∧
    ∀ id id' r r', w.state.commits.get? id = some r → w.state.commits.get? id' = some r' →
      r.joinRequestId = r'.joinRequestId → id = id'
  attempts : ∀ id r, w.state.commits.get? id = some r →
    r.deliveryAttempts ≤ policy.maximumDeliveryAttempts
  leases_once : ((leases w.history).map DeliveryLease.leaseSequence).Nodup
  /-- A record's outbox state is changed by a report under its current lease; otherwise it
  is leased anew, under the next sequence, or marked as exhausted. -/
  outbox : ∀ c id r, w.state.commits.get? id = some r →
    ∃ r', (call w.state c).1.commits.get? id = some r' ∧
      OutboxMove w.state c (call w.state c).2 id r r'.outbox
  errors : ∀ c, (call w.state c).2.Refused → Exhausts c.clock w.state (call w.state c).1
  /-- A commit takes place once over the whole run. -/
  commit_once : ((installs w.history).map InviterJoinCommit.transactionId).Nodup
  /-- Once it has taken place, or its outcome was unknown, every repeat says so. -/
  repeat_settled : ∀ commit now fault reply, ⟨.commit commit now fault, reply⟩ ∈ w.history →
    reply.Settles → ∀ now' fault', call w.state (.commit commit now' fault') =
      (w.state, .committed (.ok .alreadyCommitted))
  /-- Any commit reports one that has taken place, takes place, or is refused and changes
  nothing. -/
  repeat_other : ∀ commit now fault,
    call w.state (.commit commit now fault) = (w.state, .committed (.ok .alreadyCommitted)) ∨
      ((call w.state (.commit commit now fault)).2.Installed ∧
        (call w.state (.commit commit now fault)).1 = w.state.install commit) ∨
      ((call w.state (.commit commit now fault)).2.Refused ∧
        (call w.state (.commit commit now fault)).1 = w.state)
  /-- After an injected failure a commit that replays nothing takes place when repeated. -/
  repeat_failed : ∀ commit now fault,
    (call w.state (.commit commit now fault)).2 = .committed (.error .injectedFailure) →
    ¬w.state.replayed commit → call w.state (.commit commit now .none) =
      (w.state.install commit, .committed (.ok .committed))
  /-- Another payload under a committed identifier is a conflict, if it is valid at all, and
  changes nothing. -/
  other_payload : ∀ commit now fault reply, ⟨.commit commit now fault, reply⟩ ∈ w.history →
    reply.Settles → ∀ other, other.transactionId = commit.transactionId →
    other.toJoinContent ≠ commit.toJoinContent → ∀ now' fault',
      call w.state (.commit other now' fault') = (w.state, .committed (.error
        (if w.state.validateCommit other then .conflict else .invalidInput)))

theorem commit_cases (hm : Sound m) (commit : InviterJoinCommit) (now : Nat) (fault : CommitFault) :
    call m (.commit commit now fault) = (m, .committed (.ok .alreadyCommitted)) ∨
      ((call m (.commit commit now fault)).2.Installed ∧
        (call m (.commit commit now fault)).1 = m.install commit) ∨
      ((call m (.commit commit now fault)).2.Refused ∧
        (call m (.commit commit now fault)).1 = m) := by
  rcases hc : content m commit.transactionId with _ | c
  · exact .inr (commit_fresh hc now fault)
  · rw [commit_committed hm commit hc]
    by_cases hsame : c = commit.toJoinContent
    · rw [if_pos hsame]
      exact .inl rfl
    · refine .inr (.inr ⟨?_, rfl⟩)
      split_ifs
      · rintro ⟨⟩
      · rintro ⟨⟩

theorem disciplined_of_run {policy : TransactionPolicy} {scope : ScopeId}
    (hrun : StoreRun policy scope w) : Disciplined policy w := by
  have h := hrun.recorded
  have hm := h.sound
  constructor
  case reservations => exact h.policy ▸ hm.reservations
  case commits => exact h.policy ▸ hm.commits
  case apart => exact fun id r hget => hm.apart id _ (content_of_get? hget)
  case invitation_once =>
    exact ⟨h.nodup_field hm.invitation, fun id id' _ _ hget hget' =>
      hm.invitation id id' _ _ (content_of_get? hget) (content_of_get? hget')⟩
  case request_once =>
    exact ⟨h.nodup_field hm.request, fun id id' _ _ hget hget' =>
      hm.request id id' _ _ (content_of_get? hget) (content_of_get? hget')⟩
  case attempts => exact fun id r hget => h.policy ▸ hm.attempts id r hget
  case leases_once => exact h.increasing.imp Nat.ne_of_lt
  case outbox => exact fun c id r hget => (call_effect w.state c).outboxMove hget
  case errors => exact fun c hrefused => (call_effect w.state c).refused hrefused
  case commit_once => exact h.once
  case repeat_settled =>
    intro commit now fault reply hmem hsettles now' fault'
    rw [commit_committed hm commit (h.settled commit now fault reply hmem hsettles), if_pos rfl]
  case repeat_other => exact commit_cases hm
  case repeat_failed => exact fun _ _ _ hfailed hfirst => commit_after_failure hfailed hfirst
  case other_payload =>
    intro commit now fault reply hmem hsettles other hid hother now' fault'
    have hcontent := h.settled commit now fault reply hmem hsettles
    rw [← hid] at hcontent
    rw [commit_committed hm other hcontent, if_neg (Ne.symm hother)]
    split_ifs <;> rfl

/-! ## A commit whose response is lost -/

/-- One commit fails at a staging step, is repeated and loses its response; its Welcome is
then leased, reported as failed, leased again and delivered. -/
def sampleRun : StoreWorld :=
  World.afterAll call ⟨.new samplePolicy 5, []⟩
    [.seed (sampleReservation ⟨1, firstId_ne_zero⟩) 7,
      .commit (sampleCommit 1 20) 8 .afterOutboxStaging, .commit (sampleCommit 1 20) 8 .afterCommit,
      .lease 1 9 5, .fail ⟨5, 1, 1⟩, .leaseNext 10 5, .complete ⟨5, 1, 2⟩ 11]

theorem disciplined_sampleRun : installs sampleRun.history = [sampleCommit 1 20] ∧
      (leases sampleRun.history).map DeliveryLease.leaseSequence = [1, 2] ∧
      sampleRun.state.commits.entries.map (fun entry => entry.2.outbox) = [.delivered 2] ∧
      Disciplined samplePolicy sampleRun := by
  refine ⟨by decide +kernel, by decide +kernel, by decide +kernel, ?_⟩
  exact disciplined_of_run (leads_calls _ _)

/-- A commit without a reservation fails again when it is repeated, and an invalid payload
under a committed identifier is an invalid input before it is a conflict. -/
theorem repeated_commit_refused : (∃ commit now, StoreRun samplePolicy 5
        (World.after call ⟨.new samplePolicy 5, []⟩ (.commit commit now .none)) ∧
      ¬(call (World.after call ⟨.new samplePolicy 5, []⟩ (.commit commit now .none)).state
        (.commit commit now .none)).2.Settles) ∧
    ∃ w, StoreRun samplePolicy 5 w ∧ ∃ commit ∈ installs w.history, ∃ other,
      other.transactionId = commit.transactionId ∧ other.toJoinContent ≠ commit.toJoinContent ∧
      (call w.state (.commit other 12 .none)).2 = .committed (.error .invalidInput) := by
  refine ⟨⟨sampleCommit 1 20, 8, leads_calls _ [_], ?_⟩, sampleRun, leads_calls _ _,
    sampleCommit 1 20, by decide +kernel, { sampleCommit 1 20 with epochAfter := 5 }, rfl,
    by decide +kernel, ?_⟩
  · have hrefused : (((InMemoryInviterJoinStore.new samplePolicy 5).commitWithFault
        (sampleCommit 1 20) 8 .none).2.commitWithFault (sampleCommit 1 20) 8 .none).1 =
        .error .reservationMismatch := by decide +kernel
    simp only [World.after, call, hrefused]
    rintro (hfalse | hfalse)
    · exact hfalse
    · cases hfalse
  · have hinvalid : (sampleRun.state.commitWithFault { sampleCommit 1 20 with epochAfter := 5 } 12
        .none).1 = .error .invalidInput := by decide +kernel
    simp only [call, hinvalid]

end SessionChat.InviterTransaction
