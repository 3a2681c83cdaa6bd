import SessionChat.Mailbox.Returning

/-!
# Persist before acknowledge

Source: `crates/transport-conformance/src/lifecycle_provider.rs`, `receive_owner.rs`.

What holds of the provider and the owner together at every moment of a run: what is
acknowledged is stored with the same bytes, nothing is stored twice, and what is
neither acknowledged nor stored is returned by the next poll.
-/

set_option autoImplicit false

namespace SessionChat.Mailbox.Receiving

open Collections Transition Codec Transport Provider

variable {b : CursorBinding}

/-! ## Stored once -/

/-- The identifiers a commit reported as newly stored. -/
def newIds : Event Call Reply → List DeliveryId
  | ⟨.owner (.commit transition _), .owner (.committed (.ok page))⟩ =>
      Owner.newlyStored (transition.items.map ReceivedCanonicalEnvelope.deliveryId) page.outcomes
  | _ => []

/-- The identifiers stored so far, once for each time they were stored. -/
def storedIds (history : History) : List DeliveryId := history.flatMap newIds

/-- The report of stored identifiers has no repetition and agrees with the owner. -/
structure StoredOnce (O : DeterministicReceiveStateOwner) (history : History) : Prop where
  nodup : (storedIds history).Nodup
  stored : ∀ id ∈ storedIds history, Stored O id

theorem StoredOnce.quiet {O O' : DeterministicReceiveStateOwner} {h : History}
    (honce : StoredOnce O h) (hstored : O'.stored = O.stored) {event : Event Call Reply}
    (hnone : newIds event = []) : StoredOnce O' (h ++ [event]) := by
  have hids : storedIds (h ++ [event]) = storedIds h := by
    simp [storedIds, hnone]
  refine ⟨by rw [hids]; exact honce.nodup, ?_⟩
  intro id hid
  rw [hids] at hid
  simp only [Stored, hstored]
  exact honce.stored id hid

theorem StoredOnce.owner {O : DeterministicReceiveStateOwner} {h : History}
    (honce : StoredOnce O h) (c : Owner.Call) :
    StoredOnce (Owner.call O c).1 (h ++ [⟨.owner c, .owner (Owner.call O c).2⟩]) := by
  have heffect := Owner.call_effect O c
  generalize (Owner.call O c).2 = reply at heffect ⊢
  generalize (Owner.call O c).1 = O' at heffect ⊢
  cases heffect with
  | quiet hquiet =>
    refine honce.quiet rfl ?_
    have hpage := hquiet.page
    cases c <;> try rfl
    cases reply <;> try rfl
    rename_i result
    cases result
    · rfl
    · cases hpage
  | @committed transition now nextRevision outcomes additions hcommits =>
    have hdedup := Owner.deduplicate_ok hcommits.deduplicated
    have hnodup := nodup_items transition
    have hids : storedIds (h ++ [⟨.owner (.commit transition now), .owner (.committed
        (.ok (Owner.committedPage O transition nextRevision outcomes)))⟩]) =
        storedIds h ++ additions.map Prod.fst := by
      rw [hdedup.ids]
      simp [storedIds, newIds, Owner.committedPage]
    constructor
    · rw [hids]
      refine List.nodup_append.mpr ⟨honce.nodup, hnodup.sublist hdedup.sublist, ?_⟩
      rintro id hold _ hnew rfl
      obtain ⟨bytes, hget⟩ := honce.stored id hold
      obtain ⟨addition, haddition, rfl⟩ := List.mem_map.mp hnew
      exact absurd ((hdedup.absent addition haddition).symm.trans hget) (by simp)
    · intro id hid
      rw [hids] at hid
      rcases List.mem_append.mp hid with hold | hnew
      · obtain ⟨bytes, hget⟩ := honce.stored id hold
        exact ⟨bytes, hdedup.kept hget⟩
      · obtain ⟨addition, haddition, rfl⟩ := List.mem_map.mp hnew
        exact ⟨addition.2, Owner.get?_insertAll_of_mem (hnodup.sublist hdedup.sublist) haddition⟩
  | _ => refine honce.quiet ?_ ?_ <;> rfl

theorem ReceiverRun.storedOnce {scope : Nat} {w : ReceiverWorld} (hrun : ReceiverRun scope b w) :
    StoredOnce w.state.owner w.history := by
  refine hrun.invariant (I := fun w => StoredOnce w.state.owner w.history) ?_
    ⟨.nil, List.forall_mem_nil _⟩
  intro v c _ honce
  cases c with
  | provider c => exact honce.quiet rfl rfl
  | owner c => exact honce.owner c

/-! ## The guarantees -/

/-- What holds of provider and owner together in a world a run has reached. -/
structure PersistsFirst (b : CursorBinding) (w : ReceiverWorld) : Prop where
  acknowledged_stored : ∀ binding d, Holds w.state.provider binding d → d.acknowledged →
    w.state.owner.stored.get? d.deliveryId = some d.canonicalBytes
  /-- What the owner stores is a delivery of the provider, and no other with its identifier. -/
  stored_exact : ∀ id bytes, w.state.owner.stored.get? id = some bytes →
    ∃ binding d, Holds w.state.provider binding d ∧ d.deliveryId = id ∧ d.canonicalBytes = bytes ∧
      ∀ binding' d', Holds w.state.provider binding' d' → d'.deliveryId = id → d' = d
  stored_once : (storedIds w.history).Nodup
  stored_kept : ∀ w', Later b w w' → ∀ id bytes,
    w.state.owner.stored.get? id = some bytes → w'.state.owner.stored.get? id = some bytes
  /-- A delivery of the mailbox that has not expired is stored or in the next page, while the
  mailbox can be polled. -/
  still_returned : ∀ m ∈ w.state.provider.mailboxes, m.material.binding = b →
    ∀ d ∈ m.deliveries, ¬d.acknowledged → (∀ t ∈ times w.history, t < d.expiresAtUnixSeconds) →
    ∀ reading budget now, Provider.Open m budget reading now → now < d.expiresAtUnixSeconds →
    maxPollEncodedBytes ≤ budget.maxNetworkBytes →
    w.state.owner.stored.get? d.deliveryId = some d.canonicalBytes ∨
      Returned b w reading budget d

variable {P : DeterministicLifecycleProvider} {O : DeterministicReceiveStateOwner} {h : History}

theorem Coupled.stored_bytes (hcoupled : Coupled b P O h) {binding : CursorBinding}
    {d : StoredDelivery} (hd : Holds P binding d) (hstored : Stored O d.deliveryId) :
    O.stored.get? d.deliveryId = some d.canonicalBytes := by
  obtain ⟨bytes, hget⟩ := hstored
  obtain ⟨binding', d', hd', hid, hbytes⟩ := hcoupled.storedKnown _ _ hget
  obtain ⟨-, rfl⟩ := hcoupled.sequenced.unique hd' hd hid
  rw [hget, hbytes]

theorem persists_first {scope : Nat} {w : ReceiverWorld} (hrun : ReceiverRun scope b w) :
    PersistsFirst b w where
  acknowledged_stored binding d hd hacknowledged :=
    hrun.coupled.stored_bytes hd (hrun.coupled.acknowledgedStored binding d hd hacknowledged)
  stored_exact id bytes hget := by
    obtain ⟨binding, d, hd, hid, hbytes⟩ := hrun.coupled.storedKnown id bytes hget
    refine ⟨binding, d, hd, hid, hbytes, ?_⟩
    intro binding' d' hd' hid'
    exact (hrun.coupled.sequenced.unique hd' hd (hid'.trans hid.symm)).2
  stored_once := hrun.storedOnce.nodup
  stored_kept _ hlater id bytes hget := by
    refine hlater.invariant (I := fun v => v.state.owner.stored.get? id = some bytes) ?_ hget
    intro v c _ hv
    cases c with
    | provider c => exact hv
    | owner c =>
      have heffect := Owner.call_effect v.state.owner c
      simp only [World.after, step]
      generalize (Owner.call v.state.owner c).2 = reply at heffect
      generalize (Owner.call v.state.owner c).1 = O' at heffect ⊢
      cases heffect with
      | committed hcommits => exact (Owner.deduplicate_ok hcommits.deduplicated).kept hv
      | _ => exact hv
  still_returned m hm hbinding d hd hunacknowledged hunexpired reading budget now hopen hnow
      hbudget := by
    by_cases hstored : Stored w.state.owner d.deliveryId
    · exact .inl (hrun.coupled.stored_bytes ⟨m, hm, rfl, hd⟩ hstored)
    · refine .inr (hrun.coupled.returned hm hbinding hd hunacknowledged hstored ?_ hopen hnow
        hbudget)
      rintro ⟨t, ht, hle⟩
      exact absurd (hunexpired t ht) (Nat.not_lt.mpr hle)

/-! ## A page that is stored and then acknowledged -/

open Provider (sampleIssue sampleGeneration sampleBudget sampleReading)

def sampleControl : DispatchControl := ⟨sampleReading 11, sampleReading 11⟩

def sampleEnvelope : CanonicalEnvelope where
  bytes := (Protocol.OpaqueEnvelope.mk 1 500 [0]).encodeFields
  envelopeId := 1
  expiresAtUnixSeconds := 500
  decoded := ⟨⟨1, 500, [0]⟩, by decide +kernel, rfl, rfl⟩
  nonzero := by decide

def sampleDeposit : Provider.Call :=
  .deposit ⟨0, sampleGeneration, filled 32 3⟩ ⟨sampleEnvelope, sampleBudget, by decide +kernel⟩
    sampleControl

theorem sampleFirst_bound (cursor : BoundCursor)
    (h : ReceiveCheckpointPosition.newGeneration = .resume cursor) :
    cursor.binding = sampleGeneration := by
  cases h

/-- Where the receiver of a new generation starts. -/
def sampleFirst : ReceiveCheckpoint :=
  ⟨sampleGeneration, ⟨1, providerStateEpochV1_ne_zero⟩, .newGeneration, sampleFirst_bound⟩

def sampleRequest : PollRequest where
  cursor := none
  receiveBinding := some (.fromCheckpoint sampleFirst)
  maxEnvelopes := 1
  maxEncodedBytes := 1024
  budget := sampleBudget
  bounded := by decide

def samplePolled : ReceiverWorld :=
  World.afterAll step ⟨⟨.new 0, .new⟩, []⟩ [.provider sampleIssue, .provider sampleDeposit,
    .provider (.poll ⟨0, sampleGeneration, filled 32 4⟩ sampleRequest sampleControl)]

def sampleBatch : ReceiveBatch := (batches samplePolled.history).get ⟨0, by decide +kernel⟩

theorem eq_ok_get {ε α : Type} {x : Except ε α} (h : x.toOption.isSome) :
    x = .ok (x.toOption.get h) := by
  cases x with
  | error error => cases h
  | ok value => rfl

theorem sampleBatch_commits : (ReceivePageCommit.new sampleFirst sampleBatch).toOption.isSome := by
  decide +kernel

def sampleCommit : ReceivePageCommit :=
  (ReceivePageCommit.new sampleFirst sampleBatch).toOption.get sampleBatch_commits

def sampleLeased : ReceiverWorld :=
  samplePolled.afterAll step [.owner (.commit sampleCommit 12), .owner .restart,
    .owner (.recover sampleGeneration 13)]

def sampleLease : AcknowledgementLease := (leases sampleLeased.history).get ⟨0, by decide +kernel⟩

def sampleAcknowledgement : Provider.Call :=
  .acknowledge ⟨0, sampleGeneration, filled 32 5⟩ ⟨sampleLease.deliveryIds, sampleBudget⟩
    sampleControl

theorem samplePolled_run : ReceiverRun 0 sampleGeneration samplePolled := by
  refine leads_afterAll ⟨trivial, trivial, ?_, trivial⟩
  refine ⟨sampleFirst, 1, 1024, sampleBudget, 11, .inr ⟨rfl, rfl⟩, ?_⟩
  rfl

theorem sampleLeased_run : ReceiverRun 0 sampleGeneration sampleLeased := by
  refine samplePolled_run.trans (leads_afterAll ⟨?_, trivial, trivial, trivial⟩)
  exact ⟨sampleFirst, sampleBatch, .inr ⟨rfl, rfl⟩, List.get_mem _ _, eq_ok_get _⟩

/-- The page is committed, the owner restarts, and the recovered lease is acknowledged. -/
theorem persists_first_acknowledged :
    let w := sampleLeased.after step (.provider sampleAcknowledgement)
    w.state.provider.mailboxes.map (fun m => m.deliveries.map StoredDelivery.acknowledged) =
      [[true]] ∧ PersistsFirst sampleGeneration w := by
  intro w
  refine ⟨by decide +kernel, ?_⟩
  have hrun : ReceiverRun 0 sampleGeneration w :=
    sampleLeased_run.tail ⟨sampleLease, List.get_mem _ _, rfl⟩
  exact persists_first hrun

end SessionChat.Mailbox.Receiving
