import SessionChat.Mailbox.OwnerCalls

/-!
# The discipline of the receive-state owner (`crates/transport-conformance/src/receive_owner.rs`)

Over every run of an owner: the checkpoint moves by compare and swap and its
revision grows, the one live lease is the unaccepted intent, the intent survives
restarts until it is accepted, and commit evidence serves once and only in the
scope that issued it.
-/

set_option autoImplicit false

namespace SessionChat.Mailbox.Owner

open Transition DeterministicReceiveStateOwner

/-- A run of one owner, callers and arguments being arbitrary. -/
abbrev OwnerWorld := World DeterministicReceiveStateOwner Call Reply

def start : OwnerWorld := ⟨.new, []⟩

def OwnerRun (w : OwnerWorld) : Prop := Leads call (fun _ _ => True) start w

section

variable (history : List (Event Call Reply))

def pages : List CommittedReceivePage :=
  history.filterMap fun event => event.reply.page?

def leases : List AcknowledgementLease :=
  history.filterMap fun event => event.reply.lease?

@[simp] theorem pages_append (event : Event Call Reply) :
    pages (history ++ [event]) = pages history ++ event.reply.page?.toList := by
  rcases h : event.reply.page? with _ | page <;> simp [pages, h]

@[simp] theorem leases_append (event : Event Call Reply) :
    leases (history ++ [event]) = leases history ++ event.reply.lease?.toList := by
  rcases h : event.reply.lease? with _ | lease <;> simp [leases, h]

end

/-! ## The invariant -/

/-- The live lease, the evidence and the identities agree with what was returned. -/
structure Tracked (s : DeterministicReceiveStateOwner) (history : List (Event Call Reply)) :
    Prop where
  scope : s.owner < s.nextIdentity
  leased : ∀ lease ∈ s.leased, ∃ ids : BoundedDeliveryIds,
    s.recoverable = some (lease.binding, ids) ∧ ids.ids = lease.deliveryIds
  allocated : ∀ lease ∈ leases history, lease.identity < s.nextIdentity
  distinct : ((leases history).map AcknowledgementLease.identity).Nodup
  owners : ∀ page ∈ pages history, page.owner < s.nextIdentity
  issued : ∀ e ∈ s.validCommit, ∃ page ∈ pages history, page.owner = s.owner ∧ evidence page = e
  fresh : ∀ e ∈ s.validCommit, e.nonce < s.nextCommitNonce

variable {s : DeterministicReceiveStateOwner} {history : List (Event Call Reply)}

@[simp] theorem nextIdentity_afterCommit (transition : ReceivePageCommit)
    (nextRevision : ReceiveCheckpointRevision)
    (additions : List (DeliveryId × Storage.Bytes)) :
    (afterCommit s transition nextRevision additions).nextIdentity = s.nextIdentity :=
  rfl

@[simp] theorem nextIdentity_withLease (binding : CursorBinding) (ids : BoundedDeliveryIds) :
    (s.withLease binding ids).nextIdentity = s.nextIdentity + 1 :=
  rfl

@[simp] theorem nextIdentity_restart : s.restart.nextIdentity = s.nextIdentity + 1 :=
  rfl

theorem Tracked.init : Tracked .new [] where
  scope := Nat.zero_lt_one
  leased := nofun
  allocated := nofun
  distinct := .nil
  owners := nofun
  issued := nofun
  fresh := nofun

variable {s' : DeterministicReceiveStateOwner} {c : Call} {reply : Reply}
  {transition : ReceivePageCommit} {now owner nonce : Nat} {binding : CursorBinding}
  {ids : BoundedDeliveryIds} {page : CommittedReceivePage} {result : Option AcknowledgementLease}
  {lease : AcknowledgementLease} {w' : OwnerWorld}

section

variable (h : Tracked s history)
include h

/-- A reply that tells of no page and no lease leaves the invariant to the state alone. -/
theorem Tracked.unchanged (hpage : reply.page? = none) (hlease : reply.lease? = none)
    (howner : s'.owner = s.owner) (hidentity : s'.nextIdentity = s.nextIdentity)
    (hnonce : s'.nextCommitNonce = s.nextCommitNonce)
    (hleased : ∀ lease ∈ s'.leased, ∃ ids : BoundedDeliveryIds, s'.recoverable =
      some (lease.binding, ids) ∧ ids.ids = lease.deliveryIds)
    (hcommit : ∀ e ∈ s'.validCommit, e ∈ s.validCommit) : Tracked s' (history ++ [⟨c, reply⟩]) where
  scope := by rw [howner, hidentity]; exact h.scope
  leased := hleased
  allocated := by simpa [hlease, hidentity] using h.allocated
  distinct := by simpa [hlease] using h.distinct
  owners := by simpa [hpage, hidentity] using h.owners
  issued := by simpa [hpage, howner] using fun e he => h.issued e (hcommit e he)
  fresh := by rw [hnonce]; exact fun e he => h.fresh e (hcommit e he)

theorem Tracked.committed {nextRevision : ReceiveCheckpointRevision}
    {outcomes : List DeduplicationOutcome}
    {additions : List (DeliveryId × Storage.Bytes)}
    (hcommits : Commits s transition now nextRevision outcomes additions) :
    Tracked (afterCommit s transition nextRevision additions)
      (history ++ [⟨c, .committed (.ok (committedPage s transition nextRevision outcomes))⟩]) where
  scope := h.scope
  leased := by
    intro lease hlease
    have hnone : (afterCommit s transition nextRevision additions).leased = none :=
      hcommits.unleased
    rw [hnone] at hlease
    exact absurd hlease (Option.not_mem_none _)
  allocated := by simpa [Reply.lease?] using h.allocated
  distinct := by simpa [Reply.lease?] using h.distinct
  owners := by
    intro page hpage
    simp only [pages_append, Reply.page?, Option.toList_some, List.mem_append,
      List.mem_singleton] at hpage
    rcases hpage with hpage | rfl
    · exact h.owners page hpage
    · exact h.scope
  issued := by
    intro e he
    refine ⟨committedPage s transition nextRevision outcomes, by simp [Reply.page?], rfl, ?_⟩
    obtain rfl := Option.some.inj he
    simp only [evidence, committedPage, transition.intent]
  fresh := by
    intro e he
    obtain rfl := Option.some.inj he
    exact Nat.lt_succ_self _

theorem Tracked.leasing (hrecoverable : s.recoverable = some (binding, ids)) :
    Tracked (s.withLease binding ids)
      (history ++ [⟨c, .leased (.ok (some ⟨s.nextIdentity, binding, ids⟩))⟩]) where
  scope := Nat.lt_succ_of_lt h.scope
  leased := by
    intro lease hlease
    obtain rfl := Option.some.inj hlease
    exact ⟨ids, hrecoverable, rfl⟩
  allocated := by
    intro lease hlease
    simp only [leases_append, Reply.lease?, Option.toList_some, List.mem_append,
      List.mem_singleton] at hlease
    rcases hlease with hlease | rfl
    · exact Nat.lt_succ_of_lt (h.allocated lease hlease)
    · exact Nat.lt_succ_self _
  distinct := by
    simp only [leases_append, List.map_append]
    refine List.nodup_append.mpr ⟨h.distinct, List.nodup_singleton _, ?_⟩
    intro identity hmem other hother
    obtain ⟨lease, hlease, rfl⟩ := List.mem_map.mp hmem
    rw [List.mem_singleton.mp hother]
    exact Nat.ne_of_lt (h.allocated lease hlease)
  owners := by
    simpa [Reply.page?] using fun page hpage => Nat.lt_succ_of_lt (h.owners page hpage)
  issued := nofun
  fresh := nofun

theorem Tracked.restarted : Tracked s.restart (history ++ [⟨c, .restarted⟩]) where
  scope := Nat.lt_succ_self _
  leased := nofun
  allocated := by
    simpa [Reply.lease?] using fun lease hlease => Nat.lt_succ_of_lt (h.allocated lease hlease)
  distinct := by simpa [Reply.lease?] using h.distinct
  owners := by
    simpa [Reply.page?] using fun page hpage => Nat.lt_succ_of_lt (h.owners page hpage)
  issued := nofun
  fresh := nofun

end

theorem Effect.tracked (heffect : Effect s c reply s') (h : Tracked s history) :
    Tracked s' (history ++ [⟨c, reply⟩]) := by
  cases heffect with
  | quiet hquiet => exact h.unchanged hquiet.page hquiet.lease rfl rfl rfl h.leased fun _ => id
  | resynchronized => exact h.unchanged rfl rfl rfl rfl rfl h.leased fun _ => id
  | committed hcommits => exact h.committed hcommits
  | spent => exact h.unchanged rfl rfl rfl rfl rfl h.leased nofun
  | lost => exact h.unchanged rfl rfl rfl rfl rfl h.leased nofun
  | leased howner hevidence hrecoverable => exact h.leasing hrecoverable
  | recovered hrecoverable => exact h.leasing hrecoverable
  | accepted => exact h.unchanged rfl rfl rfl rfl rfl nofun nofun
  | released => exact h.unchanged rfl rfl rfl rfl rfl nofun fun _ => id
  | restarted => exact h.restarted

theorem OwnerRun.tracked {w : OwnerWorld} (h : OwnerRun w) : Tracked w.state w.history :=
  h.invariant (I := fun w => Tracked w.state w.history)
    (fun w c _ hw => (call_effect w.state c).tracked hw) Tracked.init

/-! ## What one call does to the durable state -/

structure SameDurable (s s' : DeterministicReceiveStateOwner) : Prop where
  checkpoint : s'.checkpoint = s.checkpoint
  stored : s'.stored = s.stored
  recoverable : s'.recoverable = s.recoverable

/-- The checkpoint that a call supplies for comparison with the persisted one. -/
def Call.supplied? : Call → Option ReceiveCheckpoint
  | .resynchronize request _ => some request.expectedCheckpoint
  | .commit transition _ => some transition.expectedCheckpoint
  | _ => none

/-- The checkpoint of `s'` is newer than the one of `s` and than the one supplied. -/
def Advances (s : DeterministicReceiveStateOwner) (c : Call)
    (s' : DeterministicReceiveStateOwner) : Prop :=
  ∃ next, s'.checkpoint = some next ∧
    (∀ persisted ∈ s.checkpoint, persisted.revision.val.toNat < next.revision.val.toNat) ∧
    ∀ supplied ∈ c.supplied?, supplied.revision.val.toNat < next.revision.val.toNat

section

variable {s' : DeterministicReceiveStateOwner} {c : Call} {reply : Reply}

theorem Effect.durable_of_failed (h : Effect s c reply s') (hfailed : reply.Failed) :
    SameDurable s s' := by
  cases h with
  | quiet | lost => exact ⟨rfl, rfl, rfl⟩
  | restarted => exact hfailed.elim
  | _ => cases hfailed

theorem revision_of_persisted? {checkpoint : ReceiveCheckpoint} {persisted : PersistedCheckpoint}
    (h : checkpoint.persisted? = some persisted) : persisted.revision = checkpoint.revision := by
  unfold ReceiveCheckpoint.persisted? at h
  split at h <;> cases h <;> rfl

section

variable (h : Effect s c reply s')
include h

theorem Effect.advances (hadvanced : reply.Advanced) : Advances s c s' := by
  cases h with
  | quiet hquiet => exact absurd hadvanced hquiet.still
  | @resynchronized request now checkpoint persisted hsettled hunleased hpersisted hexpected =>
    have hgrows := Nat.lt_of_succ_le (NonZero.toNat_successor request.successor).ge
    refine ⟨_, rfl, ?_, ?_⟩
    · intro persisted' hmem
      obtain rfl : persisted = persisted' := Option.some.inj (hpersisted.symm.trans hmem)
      rw [revision_of_persisted? hexpected]
      exact hgrows
    · intro supplied hsupplied
      obtain rfl := Option.some.inj hsupplied
      exact hgrows
  | @committed transition now nextRevision outcomes additions hcommits =>
    have hgrows := Nat.lt_of_succ_le (NonZero.toNat_successor hcommits.successor).ge
    refine ⟨_, rfl, ?_, ?_⟩
    · intro persisted hmem
      have hexpected : transition.expectedCheckpoint.persisted? = some persisted := by
        rcases hcommits.expected with hnone | hsame
        · rw [hnone] at hmem
          exact absurd hmem (Option.not_mem_none _)
        · rw [← hsame]
          exact hmem
      rw [revision_of_persisted? hexpected]
      exact hgrows
    · intro supplied hsupplied
      obtain rfl := Option.some.inj hsupplied
      exact hgrows
  | _ => exact hadvanced.elim

theorem Effect.checkpoint_of_not_advanced (hstill : ¬reply.Advanced) :
    s'.checkpoint = s.checkpoint := by
  cases h with
  | resynchronized | committed => exact absurd trivial hstill
  | _ => rfl

/-- Only an acceptance retires the intent; a commit waits for it. -/
theorem Effect.intent_kept (hreply : reply ≠ .accepted (.ok ()))
    {intent : CursorBinding × BoundedDeliveryIds} (hintent : s.recoverable = some intent) :
    s'.recoverable = some intent := by
  cases h with
  | committed hcommits => exact absurd (hcommits.settled.symm.trans hintent) (by simp)
  | accepted => exact absurd rfl hreply
  | _ => exact hintent

/-- Only a commit makes an intent. -/
theorem Effect.settled_kept (hreply : reply.page? = none) (hsettled : s.recoverable = none) :
    s'.recoverable = none := by
  cases h with
  | committed => cases hreply
  | accepted => rfl
  | _ => exact hsettled

end

end

/-! ## Recovery -/

theorem recover_after_restart (hintent : s.recoverable = some (binding, ids))
    (hlive : now < binding.expiresAtUnixSeconds) : (call s.restart (.recover binding now)).2 =
      .leased (.ok (some ⟨s.restart.nextIdentity, binding, ids⟩)) := by
  have hrestarted : s.restart.recoverable = some (binding, ids) := hintent
  have hunleased : s.restart.leased = none := rfl
  simp only [call, recoverAcknowledgement, hrestarted, hunleased, Nat.not_le.mpr hlive, copyIds_eq,
    Option.isSome_none, or_self, Bool.false_eq_true, ne_eq, not_true_eq_false, if_false]

theorem no_lease_of_settled (hsettled : s.recoverable = none) (binding : CursorBinding)
    (now : Nat) : (call s (.recover binding now)).2.lease? = none := by
  simp only [call, recoverAcknowledgement, hsettled]
  split_ifs <;> rfl

/-! ## Commit evidence -/

/-- A lease call that succeeds presents the evidence of the last commit and uses it up. -/
theorem lease_succeeds (h : (call s (.lease page now)).2 = .leased (.ok result)) :
    s.owner = page.owner ∧ s.validCommit = some (evidence page) ∧
      (call s (.lease page now)).1.validCommit = none := by
  simp only [call, leaseAcknowledgement] at h ⊢
  split_ifs at h ⊢ with hscope hevidence
  · cases h
  · cases h
  · refine ⟨not_not.mp (not_or.mp hscope).1,
      evidenceMatches_iff.mp (not_not.mp (not_or.mp hevidence).1), ?_⟩
    rcases page.acknowledgementIntent with _ | ids
    · rfl
    · simp only [copyIds_eq]
      split_ifs <;> rfl

/-- Scopes, nonces and identities only go forward. -/
structure Forward (s s' : DeterministicReceiveStateOwner) : Prop where
  scope : s'.owner = s.owner ∨ s'.owner = s.nextIdentity
  identity : s.nextIdentity ≤ s'.nextIdentity
  nonce : s.nextCommitNonce ≤ s'.nextCommitNonce
  evidence : ∀ e ∈ s'.validCommit,
    (e ∈ s.validCommit ∧ s'.owner = s.owner) ∨ e.nonce = s.nextCommitNonce

theorem Effect.forward (h : Effect s c reply s') : Forward s s' := by
  cases h with
  | quiet | resynchronized | released =>
    exact ⟨.inl rfl, Nat.le_refl _, Nat.le_refl _, fun e he => .inl ⟨he, rfl⟩⟩
  | committed =>
    refine ⟨.inl rfl, Nat.le_refl _, Nat.le_succ _, ?_⟩
    intro e he
    obtain rfl := Option.some.inj he
    exact .inr rfl
  | spent | lost | accepted => exact ⟨.inl rfl, Nat.le_refl _, Nat.le_refl _, nofun⟩
  | leased | recovered => exact ⟨.inl rfl, Nat.le_succ _, Nat.le_refl _, nofun⟩
  | restarted => exact ⟨.inr rfl, Nat.le_succ _, Nat.le_refl _, nofun⟩

/-- The evidence with this scope and nonce can no longer be presented. -/
structure Used (owner nonce : Nat) (s : DeterministicReceiveStateOwner) : Prop where
  scope : owner < s.nextIdentity
  drawn : nonce < s.nextCommitNonce
  gone : s.owner = owner → ∀ e ∈ s.validCommit, e.nonce ≠ nonce

theorem Used.forward (h : Used owner nonce s) (hforward : Forward s s') : Used owner nonce s' where
  scope := Nat.lt_of_lt_of_le h.scope hforward.identity
  drawn := Nat.lt_of_lt_of_le h.drawn hforward.nonce
  gone := by
    intro howner e he
    rcases hforward.evidence e he with ⟨hmem, hsame⟩ | hnew
    · exact h.gone (hsame.symm.trans howner) e hmem
    · rw [hnew]
      exact Nat.ne_of_gt h.drawn

structure Ended (owner : Nat) (s : DeterministicReceiveStateOwner) : Prop where
  scope : owner < s.nextIdentity
  other : s.owner ≠ owner

theorem Ended.forward (h : Ended owner s) (hforward : Forward s s') : Ended owner s' where
  scope := Nat.lt_of_lt_of_le h.scope hforward.identity
  other := by
    rcases hforward.scope with hsame | hfresh
    · rw [hsame]
      exact h.other
    · rw [hfresh]
      exact Nat.ne_of_gt h.scope

/-! ## The discipline -/

/-- A later world of the same run. -/
abbrev Later : OwnerWorld → OwnerWorld → Prop := Leads call fun _ _ => True

/-- A later world, no acknowledgement having been accepted on the way. -/
abbrev LaterUnaccepted : OwnerWorld → OwnerWorld → Prop :=
  Leads call fun w c => (call w.state c).2 ≠ .accepted (.ok ())

/-- A later world, no page having been committed on the way. -/
abbrev LaterUncommitted : OwnerWorld → OwnerWorld → Prop :=
  Leads call fun w c => (call w.state c).2.page? = none

structure Disciplined (w : OwnerWorld) : Prop where
  /-- A commit supplies the persisted checkpoint, or none is persisted yet. -/
  commit_expected : ∀ transition now page,
    (call w.state (.commit transition now)).2 = .committed (.ok page) →
    w.state.checkpoint = none ∨ w.state.checkpoint = transition.expectedCheckpoint.persisted?
  /-- A resynchronization supplies the persisted checkpoint. -/
  resynchronize_expected : ∀ request now checkpoint,
    (call w.state (.resynchronize request now)).2 = .resynchronized (.ok checkpoint) →
    ∃ persisted, w.state.checkpoint = some persisted ∧
      request.expectedCheckpoint.persisted? = some persisted
  /-- Both move the checkpoint to a revision above the persisted and the supplied one, and
  nothing else moves it. -/
  revision_grows : ∀ c, (call w.state c).2.Advanced → Advances w.state c (call w.state c).1
  checkpoint_kept : ∀ c, ¬(call w.state c).2.Advanced →
    (call w.state c).1.checkpoint = w.state.checkpoint
  /-- Of the leases handed out at most one is live, and it is for the unaccepted intent. -/
  one_lease : (leases w.history).countP (w.state.leaseIsValid ·) ≤ 1
  lease_is_intent : ∀ lease, w.state.leaseIsValid lease →
    w.state.recoverable = some (lease.binding, lease.deliveryIds)
  /-- Until it is accepted, the intent is recovered after any restart. -/
  intent_recoverable : ∀ binding ids, w.state.recoverable = some (binding, ids) →
    ∀ w', LaterUnaccepted w w' → ∀ now < binding.expiresAtUnixSeconds,
    ∃ identity, (call w'.state.restart (.recover binding now)).2 =
      .leased (.ok (some ⟨identity, binding, ids⟩))
  /-- Afterwards nothing is recovered, with or without a restart, until another commit. -/
  accepted_gone : ∀ lease, (call w.state (.accept lease)).2 = .accepted (.ok ()) →
    ∀ w', LaterUncommitted (w.after call (.accept lease)) w' → ∀ binding now,
    (call w'.state (.recover binding now)).2.lease? = none ∧
      (call w'.state.restart (.recover binding now)).2.lease? = none
  /-- Evidence that is accepted was issued by a commit of the present scope. -/
  evidence_issued : ∀ page now result,
    (call w.state (.lease page now)).2 = .leased (.ok result) →
    page.owner = w.state.owner ∧
      ∃ issued ∈ pages w.history, issued.owner = w.state.owner ∧ evidence issued = evidence page
  /-- It is never accepted again, and none is accepted after a restart. -/
  evidence_once : ∀ page now result,
    (call w.state (.lease page now)).2 = .leased (.ok result) →
    ∀ w', Later (w.after call (.lease page now)) w' → ∀ page' now' result',
    page'.owner = page.owner → page'.nonce = page.nonce →
    (call w'.state (.lease page' now')).2 ≠ .leased (.ok result')
  evidence_scoped : ∀ page ∈ pages w.history, ∀ w', Later (w.after call .restart) w' →
    ∀ now result, (call w'.state (.lease page now)).2 ≠ .leased (.ok result)
  /-- A failed call changes nothing durable. -/
  failure_durable : ∀ c, (call w.state c).2.Failed → SameDurable w.state (call w.state c).1

variable {w : OwnerWorld}

theorem Tracked.one_lease (h : Tracked s history) :
    (leases history).countP (s.leaseIsValid ·) ≤ 1 := by
  rcases hleased : s.leased with _ | ⟨identity, binding, ids⟩
  · have hnone : (leases history).countP (s.leaseIsValid ·) = 0 :=
      List.countP_eq_zero.mpr fun lease _ => by simp [leaseIsValid, hleased]
    omega
  · calc (leases history).countP (s.leaseIsValid ·)
        ≤ (leases history).countP (fun lease => lease.identity == identity) := by
          refine List.countP_mono_left fun lease _ hvalid => ?_
          have hsome := leaseIsValid_iff.mp hvalid
          rw [hleased] at hsome
          cases hsome
          exact beq_self_eq_true _
      _ = ((leases history).map AcknowledgementLease.identity).count identity := by
          rw [List.count, List.countP_map]
          rfl
      _ ≤ 1 := List.nodup_iff_count_le_one.mp h.distinct identity

theorem Tracked.lease_is_intent (h : Tracked s history) (hvalid : s.leaseIsValid lease) :
    s.recoverable = some (lease.binding, lease.deliveryIds) := by
  obtain ⟨ids, hrecoverable, hids⟩ := h.leased _ (leaseIsValid_iff.mp hvalid)
  obtain ⟨ids, hbounded⟩ := ids
  obtain rfl : ids = lease.deliveryIds.ids := hids
  exact hrecoverable

theorem settled_of_accepted (h : (call s (.accept lease)).2 = .accepted (.ok ())) :
    (call s (.accept lease)).1.recoverable = none := by
  have heffect := call_effect s (.accept lease)
  rw [h] at heffect
  generalize (call s (.accept lease)).1 = s' at heffect
  cases heffect with
  | quiet hquiet => exact absurd rfl hquiet.unaccepted
  | accepted => rfl

theorem Tracked.used (h : Tracked s history)
    (hlease : (call s (.lease page now)).2 = .leased (.ok result)) :
    Used page.owner page.nonce (call s (.lease page now)).1 := by
  obtain ⟨howner, hevidence, hspent⟩ := lease_succeeds hlease
  have hforward := (call_effect s (.lease page now)).forward
  refine ⟨?_, ?_, ?_⟩
  · rw [← howner]
    exact Nat.lt_of_lt_of_le h.scope hforward.identity
  · exact Nat.lt_of_lt_of_le (h.fresh _ hevidence) hforward.nonce
  · rw [hspent]
    exact fun _ => (by simp)

theorem owner_disciplined (h : OwnerRun w) : Disciplined w where
  commit_expected transition now _ hok := by
    obtain herror | ⟨_, _, _, hcommits, _⟩ := commit_cases w.state transition now
    · simp only [call, herror] at hok
      cases hok
    · exact hcommits.expected
  resynchronize_expected request now _ hok := by
    have heffect := call_effect w.state (.resynchronize request now)
    rw [hok] at heffect
    generalize (call w.state (.resynchronize request now)).1 = s' at heffect
    cases heffect with
    | quiet hquiet => exact absurd trivial hquiet.still
    | resynchronized _ _ hpersisted hexpected => exact ⟨_, hpersisted, hexpected⟩
  revision_grows c hadvanced := (call_effect w.state c).advances hadvanced
  checkpoint_kept c hstill := (call_effect w.state c).checkpoint_of_not_advanced hstill
  one_lease := h.tracked.one_lease
  lease_is_intent _ hvalid := h.tracked.lease_is_intent hvalid
  intent_recoverable binding ids hintent w' hlater now hlive := by
    have hkept : w'.state.recoverable = some (binding, ids) :=
      hlater.invariant (I := fun v => v.state.recoverable = some (binding, ids))
        (fun v c hc hv => (call_effect v.state c).intent_kept hc hv) hintent
    exact ⟨_, recover_after_restart hkept hlive⟩
  accepted_gone lease hok w' hlater binding now := by
    have hsettled : w'.state.recoverable = none :=
      hlater.invariant (I := fun v => v.state.recoverable = none)
        (fun v c hc hv => (call_effect v.state c).settled_kept hc hv) (settled_of_accepted hok)
    have hrestarted : w'.state.restart.recoverable = none := hsettled
    exact ⟨no_lease_of_settled hsettled binding now, no_lease_of_settled hrestarted binding now⟩
  evidence_issued page now result hok := by
    obtain ⟨howner, hevidence, -⟩ := lease_succeeds hok
    exact ⟨howner.symm, h.tracked.issued _ hevidence⟩
  evidence_once page now result hok w' hlater page' now' result' howner hnonce hagain := by
    have hused : Used page.owner page.nonce w'.state :=
      hlater.invariant (I := fun v => Used page.owner page.nonce v.state)
        (fun v c _ hv => hv.forward (call_effect v.state c).forward) (h.tracked.used hok)
    obtain ⟨hscope, hevidence, -⟩ := lease_succeeds hagain
    exact hused.gone (hscope.trans howner) _ hevidence hnonce
  evidence_scoped page hpage w' hlater now result hok := by
    have hended : Ended page.owner (w.after call .restart).state :=
      ⟨Nat.lt_succ_of_lt (h.tracked.owners page hpage),
        Nat.ne_of_gt (h.tracked.owners page hpage)⟩
    have hlast : Ended page.owner w'.state :=
      hlater.invariant (I := fun v => Ended page.owner v.state)
        (fun v c _ hv => hv.forward (call_effect v.state c).forward) hended
    exact hlast.other (lease_succeeds hok).1
  failure_durable c hfailed := (call_effect w.state c).durable_of_failed hfailed

/-! ## An owner that has not committed yet -/

def sampleBinding : CursorBinding where
  profile := .fastV1
  bindingFingerprint := ⟨1, by decide⟩
  continuityId := ⟨1, by decide⟩
  generation := ⟨1, by decide⟩
  receiveScope := ⟨1, by decide⟩
  cursorSchema := ⟨2, by decide⟩
  providerStateEpoch := ⟨1, by decide⟩
  expiresAtUnixSeconds := 100
  supported := by decide
  expires := by decide

def sampleCheckpoint : ReceiveCheckpoint :=
  ⟨sampleBinding, ⟨1, by decide⟩, .newGeneration, (by simp)⟩

def sampleItem : ReceivedCanonicalEnvelope where
  deliveryId := ⟨1, by decide⟩
  envelope :=
    { bytes := (Protocol.OpaqueEnvelope.mk 1 50 [0]).encodeFields
      envelopeId := 1
      expiresAtUnixSeconds := 50
      decoded := ⟨⟨1, 50, [0]⟩, by decide +kernel, rfl, rfl⟩
      nonzero := by decide }

/-- The first page of the generation, with one item. -/
def samplePage : ReceivePageCommit where
  expectedCheckpoint := sampleCheckpoint
  items := [sampleItem]
  nextCursor := none
  acknowledgementIntent := some ⟨[⟨1, by decide⟩], by decide⟩
  intent := rfl
  bound := by simp

/-- A commit is accepted although no persisted checkpoint equals the one it supplies. -/
theorem first_commit_expects_nothing : ¬∀ w, OwnerRun w → ∀ transition now page,
      (call w.state (.commit transition now)).2 = .committed (.ok page) →
      ∃ persisted, w.state.checkpoint = some persisted ∧
        transition.expectedCheckpoint.persisted? = some persisted := by
  intro h
  obtain ⟨nextRevision, hsuccessor⟩ :
      ∃ nextRevision, (call start.state (.commit samplePage 10)).2 =
        .committed (.ok (committedPage .new samplePage nextRevision [.stored])) :=
    ⟨⟨2, by decide⟩, by rfl⟩
  obtain ⟨persisted, hnone, -⟩ := h start (.refl _) samplePage 10 _ hsuccessor
  cases hnone

/-- After the page is committed and the process restarts, its identifiers are leased again. -/
theorem owner_disciplined_restarted :
    let w := start.afterAll call [.commit samplePage 10, .restart, .recover sampleBinding 11]
    (leases w.history).length = 1 ∧ Disciplined w := by
  exact ⟨by decide +kernel, owner_disciplined (leads_calls _ _)⟩

end SessionChat.Mailbox.Owner
