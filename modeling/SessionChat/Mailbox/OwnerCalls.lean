import SessionChat.Transition.Run
import SessionChat.Mailbox.Owner

/-!
# Calls on one receive-state owner (`crates/transport-conformance/src/receive_owner.rs`)

Any caller may present any checkpoint, page, evidence, lease and time. `Effect`
says once what a call can do to the owner; every invariant is proved from it.
-/

set_option autoImplicit false

namespace SessionChat.Mailbox.Owner

open Transition

inductive Call where
  | load (binding : CursorBinding) (now : Nat)
  | resynchronize (request : ResynchronizationRequest) (now : Nat)
  | commit (transition : ReceivePageCommit) (now : Nat)
  | lease (committed : CommittedReceivePage) (now : Nat)
  | recover (binding : CursorBinding) (now : Nat)
  | accept (lease : AcknowledgementLease)
  | release (lease : AcknowledgementLease)
  | restart

inductive Reply where
  | loaded (result : Except DeterministicReceiveStateError (Option ReceiveCheckpoint))
  | resynchronized (result : Except DeterministicReceiveStateError ReceiveCheckpoint)
  | committed (result : Except DeterministicReceiveStateError CommittedReceivePage)
  | leased (result : Except DeterministicReceiveStateError (Option AcknowledgementLease))
  | accepted (result : Except DeterministicReceiveStateError Unit)
  | released (result : Except DeterministicReceiveStateError Unit)
  | restarted

def Reply.Failed : Reply → Prop
  | .loaded r => r = .error ⟨⟩
  | .resynchronized r => r = .error ⟨⟩
  | .committed r => r = .error ⟨⟩
  | .leased r => r = .error ⟨⟩
  | .accepted r => r = .error ⟨⟩
  | .released r => r = .error ⟨⟩
  | .restarted => False

def Reply.page? : Reply → Option CommittedReceivePage
  | .committed (.ok page) => some page
  | _ => none

def Reply.lease? : Reply → Option AcknowledgementLease
  | .leased (.ok (some lease)) => some lease
  | _ => none

/-- The call moved the checkpoint. -/
def Reply.Advanced : Reply → Prop
  | .resynchronized (.ok _) | .committed (.ok _) => True
  | _ => False

def call (self : DeterministicReceiveStateOwner) : Call → DeterministicReceiveStateOwner × Reply
  | .load binding now => (self, .loaded (self.loadCheckpoint binding now))
  | .resynchronize request now =>
      let (next, result) := self.recordResynchronization request now
      (next, .resynchronized result)
  | .commit transition now =>
      let (next, result) := self.commitReceivePage transition now
      (next, .committed result)
  | .lease committed now =>
      let (next, result) := self.leaseAcknowledgement committed now
      (next, .leased result)
  | .recover binding now =>
      let (next, result) := self.recoverAcknowledgement binding now
      (next, .leased result)
  | .accept lease =>
      let (next, result) := self.acceptAcknowledgement lease
      (next, .accepted result)
  | .release lease =>
      let (next, result) := self.releaseAcknowledgement lease
      (next, .released result)
  | .restart => (self.restart, .restarted)

/-! ## The checks of each operation -/

end Owner

/-- The persisted form of a checkpoint; a new generation has none. -/
def ReceiveCheckpoint.persisted? (checkpoint : ReceiveCheckpoint) : Option PersistedCheckpoint :=
  match checkpoint.position with
  | .newGeneration => none
  | .resume cursor => some ⟨checkpoint.binding, checkpoint.revision, .resume cursor.cursor.bytes⟩
  | .committedPageWithoutCursor =>
      some ⟨checkpoint.binding, checkpoint.revision, .committedPageWithoutCursor⟩
  | .explicitResynchronization reason =>
      some ⟨checkpoint.binding, checkpoint.revision, .explicitResynchronization reason⟩

namespace DeterministicReceiveStateOwner

variable {self : DeterministicReceiveStateOwner}

theorem checkpointMatches_iff {checkpoint : ReceiveCheckpoint} :
    self.checkpointMatches checkpoint = true ↔
      ∃ persisted, self.checkpoint = some persisted ∧ checkpoint.persisted? = some persisted := by
  obtain ⟨binding, revision, position, bound⟩ := checkpoint
  rcases hpersisted : self.checkpoint with _ | ⟨binding', revision', position'⟩
  · simp [checkpointMatches, hpersisted]
  · cases position <;> cases position' <;>
      simp [checkpointMatches, hpersisted, ReceiveCheckpoint.persisted?,
        ReceiveCheckpoint.pollCursor, ReceiveCheckpoint.isCommittedPageWithoutCursor,
        ReceiveCheckpoint.resynchronizationReason, and_assoc, eq_comm (a := binding),
        eq_comm (a := revision)]

theorem leaseIsValid_iff {lease : AcknowledgementLease} : self.leaseIsValid lease = true ↔
      self.leased = some ⟨lease.identity, lease.binding, lease.deliveryIds.ids⟩ := by
  rcases hleased : self.leased with _ | ⟨identity, binding, ids⟩ <;>
    simp [leaseIsValid, hleased]

theorem intends_iff {binding : CursorBinding} {ids : BoundedDeliveryIds} :
    self.intends binding ids.ids = true ↔ self.recoverable = some (binding, ids) := by
  obtain ⟨ids, hids⟩ := ids
  rcases hrecoverable : self.recoverable with _ | ⟨binding', ⟨ids', hids'⟩⟩ <;>
    simp [intends, hrecoverable]

theorem evidenceMatches_iff {committed : CommittedReceivePage} :
    self.evidenceMatches committed = true ↔
      self.validCommit = some ⟨committed.nonce, committed.revision, committed.binding,
        (committed.acknowledgementIntent.map BoundedDeliveryIds.ids).getD []⟩ := by
  rcases hcommit : self.validCommit with _ | ⟨nonce, revision, binding, ids⟩ <;>
    simp [evidenceMatches, hcommit]

end DeterministicReceiveStateOwner

namespace Owner

open DeterministicReceiveStateOwner

/-- What a commit that succeeds has checked. -/
structure Commits (owner : DeterministicReceiveStateOwner) (transition : ReceivePageCommit)
    (now : Nat) (nextRevision : ReceiveCheckpointRevision) (outcomes : List DeduplicationOutcome)
    (additions : List (DeliveryId × Storage.Bytes)) : Prop where
  live : now < transition.expectedCheckpoint.binding.expiresAtUnixSeconds
  settled : owner.recoverable = none
  unleased : owner.leased = none
  expected : owner.checkpoint = none ∨ owner.checkpoint = transition.expectedCheckpoint.persisted?
  successor : transition.expectedCheckpoint.revision.successor = .ok nextRevision
  deduplicated : deduplicate owner.stored transition.items = .ok (outcomes, additions)
  fits : owner.fits additions
  nonce : owner.nextCommitNonce ≠ u64Max

variable (self : DeterministicReceiveStateOwner) (transition : ReceivePageCommit)

def afterCommit (nextRevision : ReceiveCheckpointRevision)
    (additions : List (DeliveryId × Storage.Bytes)) : DeterministicReceiveStateOwner :=
  (self.withPage transition additions nextRevision).withEvidence transition self.nextCommitNonce
    nextRevision transition.acknowledgementIntent

def committedPage (nextRevision : ReceiveCheckpointRevision)
    (outcomes : List DeduplicationOutcome) :
    CommittedReceivePage :=
  ⟨self.owner, self.nextCommitNonce, nextRevision, transition.expectedCheckpoint.binding,
    outcomes, transition.acknowledgementIntent⟩

theorem commit_cases (now : Nat) :
    self.commitReceivePage transition now = (self, .error ⟨⟩) ∨ ∃ nextRevision outcomes additions,
        Commits self transition now nextRevision outcomes additions ∧
        self.commitReceivePage transition now = (afterCommit self transition nextRevision additions,
            .ok (committedPage self transition nextRevision outcomes)) := by
  by_cases hrefused : transition.expectedCheckpoint.binding.expiresAtUnixSeconds ≤ now ∨
      self.recoverable.isSome ∨ self.leased.isSome ∨
      (self.checkpoint.isSome ∧ ¬self.checkpointMatches transition.expectedCheckpoint)
  · exact .inl (if_pos hrefused)
  rw [show self.commitReceivePage transition now = _ from if_neg hrefused]
  obtain ⟨hlive, hsettled, hunleased, hmatches⟩ : now < _ ∧ self.recoverable = none ∧
      self.leased = none ∧ _ := by
    simpa only [not_or, Nat.not_le, Option.not_isSome_iff_eq_none] using hrefused
  have hexpected : self.checkpoint = none ∨
      self.checkpoint = transition.expectedCheckpoint.persisted? := by
    rcases hcheckpoint : self.checkpoint with _ | persisted
    · exact .inl rfl
    · rw [hcheckpoint] at hmatches
      simp only [Option.isSome_some, true_and, not_not] at hmatches
      obtain ⟨persisted', hsome, hpersisted⟩ := checkpointMatches_iff.mp hmatches
      rw [hcheckpoint] at hsome
      exact .inr (hsome.trans hpersisted.symm)
  split
  case h_1 => exact .inl rfl
  case h_2 => exact .inl rfl
  case h_3 nextRevision outcomes additions hsuccessor hdeduplicated =>
    split_ifs with hfull
    · exact .inl rfl
    · obtain ⟨hfits, hnonce⟩ := not_or.mp hfull
      refine .inr ⟨nextRevision, outcomes, additions, ⟨hlive, hsettled, hunleased, hexpected,
        hsuccessor, hdeduplicated, not_not.mp hfits, hnonce⟩, ?_⟩
      simp only [afterCommit, committedPage]
      split
      case h_1 hintent => rw [hintent]
      case h_2 ids hintent =>
        rw [hintent, copyIds_eq]

def spent : DeterministicReceiveStateOwner :=
  { self with validCommit := none }

def afterAccept : DeterministicReceiveStateOwner :=
  { self with validCommit := none, recoverable := none, leased := none }

def afterRelease : DeterministicReceiveStateOwner :=
  { self with leased := none }

def evidence (committed : CommittedReceivePage) : CommitEvidence :=
  ⟨committed.nonce, committed.revision, committed.binding,
    (committed.acknowledgementIntent.map BoundedDeliveryIds.ids).getD []⟩

/-- The reply tells of no change. -/
structure Reply.Quiet (reply : Reply) : Prop where
  page : reply.page? = none
  lease : reply.lease? = none
  still : ¬reply.Advanced
  unaccepted : reply ≠ .accepted (.ok ())

/-- What one call can do, with the checks it has made. -/
inductive Effect (self : DeterministicReceiveStateOwner) :
    Call → Reply → DeterministicReceiveStateOwner → Prop where
  | quiet {c : Call} {reply : Reply} (hquiet : reply.Quiet) : Effect self c reply self
  | resynchronized {request : ResynchronizationRequest} {now : Nat}
      {checkpoint : ReceiveCheckpoint} {persisted : PersistedCheckpoint}
      (hsettled : self.recoverable = none) (hunleased : self.leased = none)
      (hpersisted : self.checkpoint = some persisted)
      (hexpected : request.expectedCheckpoint.persisted? = some persisted) :
      Effect self (.resynchronize request now) (.resynchronized (.ok checkpoint))
        (self.resynchronized request)
  | committed {transition : ReceivePageCommit} {now : Nat}
      {nextRevision : ReceiveCheckpointRevision} {outcomes : List DeduplicationOutcome}
      {additions : List (DeliveryId × Storage.Bytes)}
      (hcommits : Commits self transition now nextRevision outcomes additions) :
      Effect self (.commit transition now)
        (.committed (.ok (committedPage self transition nextRevision outcomes)))
        (afterCommit self transition nextRevision additions)
  | spent {page : CommittedReceivePage} {now : Nat}
      (howner : self.owner = page.owner) (hevidence : self.validCommit = some (evidence page))
      (hintent : page.acknowledgementIntent = none) :
      Effect self (.lease page now) (.leased (.ok none)) (spent self)
  | lost {page : CommittedReceivePage} {now : Nat} {ids : BoundedDeliveryIds}
      (hevidence : self.validCommit = some (evidence page))
      (hintent : page.acknowledgementIntent = some ids)
      (hlost : self.recoverable ≠ some (page.binding, ids)) :
      Effect self (.lease page now) (.leased (.error ⟨⟩)) (spent self)
  | leased {page : CommittedReceivePage} {now : Nat} {ids : BoundedDeliveryIds}
      (howner : self.owner = page.owner) (hevidence : self.validCommit = some (evidence page))
      (hrecoverable : self.recoverable = some (page.binding, ids)) :
      Effect self (.lease page now)
        (.leased (.ok (some ⟨self.nextIdentity, page.binding, ids⟩)))
        (self.withLease page.binding ids)
  | recovered {binding : CursorBinding} {now : Nat} {ids : BoundedDeliveryIds}
      (hrecoverable : self.recoverable = some (binding, ids)) :
      Effect self (.recover binding now)
        (.leased (.ok (some ⟨self.nextIdentity, binding, ids⟩))) (self.withLease binding ids)
  | accepted {lease : AcknowledgementLease} :
      Effect self (.accept lease) (.accepted (.ok ())) (afterAccept self)
  | released {lease : AcknowledgementLease} :
      Effect self (.release lease) (.released (.ok ())) (afterRelease self)
  | restarted : Effect self .restart .restarted self.restart

theorem Reply.quiet_loaded
    (result : Except DeterministicReceiveStateError (Option ReceiveCheckpoint)) :
    (Reply.loaded result).Quiet :=
  ⟨rfl, rfl, id, (by simp)⟩

theorem Reply.quiet_of_failed {reply : Reply} (h : reply.Failed) : reply.Quiet := by
  cases reply <;> simp only [Reply.Failed] at h <;> subst h <;> exact ⟨rfl, rfl, id, (by simp)⟩

theorem resynchronize_effect (request : ResynchronizationRequest) (now : Nat) :
    Effect self (.resynchronize request now) (call self (.resynchronize request now)).2
      (call self (.resynchronize request now)).1 := by
  simp only [call, recordResynchronization]
  split_ifs with hrefused
  · exact .quiet (Reply.quiet_of_failed rfl)
  · simp only [not_or, Nat.not_le, not_not, Option.not_isSome_iff_eq_none] at hrefused
    obtain ⟨hlive, hmatches, hsettled, hunleased⟩ := hrefused
    obtain ⟨persisted, hpersisted, hexpected⟩ := checkpointMatches_iff.mp hmatches
    simp only [ReceiveCheckpoint.fromRecordedResynchronization, ReceiveCheckpoint.live,
      if_neg (Nat.not_le.mpr hlive)]
    exact .resynchronized hsettled hunleased hpersisted hexpected

theorem commit_effect (transition : ReceivePageCommit) (now : Nat) :
    Effect self (.commit transition now) (call self (.commit transition now)).2
      (call self (.commit transition now)).1 := by
  simp only [call]
  obtain herror | ⟨nextRevision, outcomes, additions, hcommits, hok⟩ :=
    commit_cases self transition now
  · rw [herror]
    exact .quiet (Reply.quiet_of_failed rfl)
  · rw [hok]
    exact .committed hcommits

theorem lease_effect (page : CommittedReceivePage) (now : Nat) :
    Effect self (.lease page now) (call self (.lease page now)).2
      (call self (.lease page now)).1 := by
  simp only [call, leaseAcknowledgement]
  split_ifs with hscope hevidence
  · exact .quiet (Reply.quiet_of_failed rfl)
  · exact .quiet (Reply.quiet_of_failed rfl)
  · have howner : self.owner = page.owner := not_not.mp (not_or.mp hscope).1
    have hmatches := evidenceMatches_iff.mp (not_not.mp (not_or.mp hevidence).1)
    rcases hintent : page.acknowledgementIntent with _ | ids
    · exact .spent howner hmatches hintent
    · simp only [copyIds_eq]
      split_ifs with hintends
      · exact .leased howner hmatches (intends_iff.mp hintends)
      · exact .lost hmatches hintent fun h => hintends (intends_iff.mpr h)

theorem recover_effect (binding : CursorBinding) (now : Nat) :
    Effect self (.recover binding now) (call self (.recover binding now)).2
      (call self (.recover binding now)).1 := by
  simp only [call, recoverAcknowledgement]
  split_ifs with hrefused
  · exact .quiet (Reply.quiet_of_failed rfl)
  · rcases hrecoverable : self.recoverable with _ | ⟨persistedBinding, ids⟩
    · exact .quiet ⟨rfl, rfl, id, (by simp)⟩
    · simp only [copyIds_eq]
      split_ifs with hforeign
      · exact .quiet ⟨rfl, rfl, id, (by simp)⟩
      · obtain rfl : persistedBinding = binding := not_not.mp hforeign
        exact .recovered hrecoverable

theorem call_effect (c : Call) : Effect self c (call self c).2 (call self c).1 := by
  cases c with
  | load binding now => exact .quiet (Reply.quiet_loaded _)
  | resynchronize request now => exact resynchronize_effect self request now
  | commit transition now => exact commit_effect self transition now
  | lease page now => exact lease_effect self page now
  | recover binding now => exact recover_effect self binding now
  | accept lease =>
    simp only [call, acceptAcknowledgement]
    split_ifs
    · exact .accepted
    · exact .quiet (Reply.quiet_of_failed rfl)
    · exact .quiet (Reply.quiet_of_failed rfl)
  | release lease =>
    simp only [call, releaseAcknowledgement]
    split_ifs
    · exact .released
    · exact .quiet (Reply.quiet_of_failed rfl)
  | restart => exact .restarted

end Owner

end SessionChat.Mailbox
