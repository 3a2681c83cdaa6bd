import SessionChat.InviterTransaction.Agreement
import SessionChat.Transport.Delivery

/-!
# End-to-end delivery of a Welcome (`crates/session-transport/src/coordinator.rs`, `lib.rs`)

For every owner that keeps to the lease discipline, every run of passes delivers a Welcome
only by giving exactly its bytes to the mailbox of its endpoint. The in-memory inviter
store is such an owner.
-/

set_option autoImplicit false

/-! ## The in-memory owner -/

namespace SessionChat.InviterTransaction

open Collections Transport Storage

def CommittedRecord.material (r : CommittedRecord) : Bytes × Bytes × Nat :=
  (r.welcomeEnvelope, r.depositEndpoint, r.outboxExpiresAtUnixSeconds)

def CommittedRecord.Delivered (r : CommittedRecord) : Prop :=
  ∃ leaseSequence, r.outbox = .delivered leaseSequence

/-- The record keeps its material, and is delivered only if it was. -/
structure CommittedRecord.FollowedBy (r r' : CommittedRecord) : Prop where
  material : r'.material = r.material
  delivered : r'.Delivered → r.Delivered

theorem CommittedRecord.FollowedBy.refl (r : CommittedRecord) : r.FollowedBy r :=
  ⟨rfl, id⟩

theorem CommittedRecord.FollowedBy.trans {r r' r'' : CommittedRecord} (h : r.FollowedBy r')
    (h' : r'.FollowedBy r'') : r.FollowedBy r'' :=
  ⟨h'.material.trans h.material, h.delivered ∘ h'.delivered⟩

/-- A record that is put into a state other than delivered. -/
theorem CommittedRecord.followedBy_of_outbox {r r' : CommittedRecord}
    (hmaterial : r'.material = r.material)
    (houtbox : ∀ leaseSequence, r'.outbox ≠ .delivered leaseSequence) : r.FollowedBy r' :=
  ⟨hmaterial, fun ⟨leaseSequence, h⟩ => absurd h (houtbox leaseSequence)⟩

namespace InMemoryInviterJoinStore

variable {m m' m'' : InMemoryInviterJoinStore} {id : Id16} {lease : DeliveryLease}
  {now leaseSeconds : Nat}

/-- The same records, each followed by what has become of it. -/
def FollowedBy (m m' : InMemoryInviterJoinStore) : Prop :=
  ∃ f : Id16 → CommittedRecord → CommittedRecord,
    (∀ id (r : CommittedRecord), r.FollowedBy (f id r)) ∧
    ∀ id, m'.commits.get? id = (m.commits.get? id).map (f id)

namespace FollowedBy

theorem refl (m : InMemoryInviterJoinStore) : m.FollowedBy m :=
  ⟨fun _ r => r, fun _ r => .refl r, fun _ => by simp⟩

theorem trans (h : m.FollowedBy m') (h' : m'.FollowedBy m'') : m.FollowedBy m'' := by
  obtain ⟨f, hf, hget⟩ := h
  obtain ⟨f', hf', hget'⟩ := h'
  refine ⟨fun id r => f' id (f id r), fun id r => (hf id r).trans (hf' id _), fun id => ?_⟩
  rw [hget', hget, Option.map_map]
  rfl

theorem of_modify {g : CommittedRecord → CommittedRecord}
    (hg : ∀ r : CommittedRecord, r.FollowedBy (g r))
    (hcommits : m'.commits = m.commits.modify id g) : m.FollowedBy m' := by
  refine ⟨fun id' r => if id' = id then g r else r, fun id' r => ?_, fun id' => ?_⟩
  · by_cases hid : id' = id
    · simpa only [if_pos hid] using hg r
    · simpa only [if_neg hid] using .refl r
  · rw [hcommits, OrderedMap.modify, OrderedMap.get?_mapValues]

theorem setOutbox {state : StoredOutboxState}
    (hstate : ∀ leaseSequence, state ≠ .delivered leaseSequence) :
    m.FollowedBy (m.setOutbox id state) :=
  of_modify (g := fun record => { record with outbox := state })
    (fun _ => CommittedRecord.followedBy_of_outbox rfl hstate) rfl

theorem exhaust : m.FollowedBy (m.exhaust now) := by
  refine ⟨fun _ => m.exhausted now, fun _ r => ?_, fun _ => get?_exhaust⟩
  show r.FollowedBy (m.exhausted now r)
  cases hspent : m.spent now r with
  | false =>
    rw [exhausted_of_not_spent hspent]
    exact .refl r
  | true =>
    rw [exhausted_of_spent hspent]
    exact CommittedRecord.followedBy_of_outbox rfl (by simp)

theorem leaseDelivery (m : InMemoryInviterJoinStore) (id : Id16) (now leaseSeconds : Nat) :
    m.FollowedBy (m.leaseDelivery id now leaseSeconds).2 := by
  unfold InMemoryInviterJoinStore.leaseDelivery
  split_ifs
  · exact refl m
  split
  · exact refl m
  · exact refl m
  split_ifs
  · exact refl m
  · exact refl m
  · exact refl m
  · exact setOutbox (by simp)
  split
  · exact refl m
  · exact of_modify (g := CommittedRecord.leasedAs m.nextLeaseSequence _)
      (fun _ => CommittedRecord.followedBy_of_outbox rfl nofun) rfl

theorem failDelivery (m : InMemoryInviterJoinStore) (lease : DeliveryLease) :
    m.FollowedBy (m.failDelivery lease).2 := by
  unfold InMemoryInviterJoinStore.failDelivery
  split_ifs
  · exact refl m
  split
  · exact refl m
  split
  · split_ifs
    · exact setOutbox (by simp)
    · exact setOutbox (by simp)
    · exact refl m
  · exact refl m
  · exact refl m
  · exact refl m

theorem material (h : m.FollowedBy m') (id : Id16) :
    (m'.commits.get? id).map CommittedRecord.material =
      (m.commits.get? id).map CommittedRecord.material := by
  obtain ⟨f, hf, hget⟩ := h
  rw [hget, Option.map_map]
  exact Option.map_congr fun r _ => (hf id r).material

theorem delivered (h : m.FollowedBy m') {id : Id16} {r' : CommittedRecord}
    (hr' : m'.commits.get? id = some r') (hdelivered : r'.Delivered) :
    ∃ r, m.commits.get? id = some r ∧ r.Delivered := by
  obtain ⟨f, hf, hget⟩ := h
  obtain ⟨r, hr, rfl⟩ := Option.map_eq_some_iff.mp ((hget id).symm.trans hr')
  exact ⟨r, hr, (hf id r).delivered hdelivered⟩

end FollowedBy

theorem leaseNext_followedBy (m : InMemoryInviterJoinStore) (now leaseSeconds : Nat) :
    m.FollowedBy (m.leaseNext now leaseSeconds).2 := by
  unfold leaseNext
  split_ifs
  · exact .refl m
  split
  · exact .exhaust
  rename_i transactionId _
  have hlease := FollowedBy.leaseDelivery (m.exhaust now) transactionId now leaseSeconds
  rcases hanswer : (m.exhaust now).leaseDelivery transactionId now leaseSeconds with
    ⟨e | lease, m'⟩
  · rw [hanswer] at hlease
    exact FollowedBy.exhaust.trans hlease
  · rw [hanswer] at hlease
    simp only
    split
    · exact (FollowedBy.exhaust.trans hlease).trans (.failDelivery m' lease)
    · exact FollowedBy.exhaust.trans hlease

/-- A lease hands out the material of its record. -/
theorem leaseNext_material {work : LeasedWelcome DeliveryLease}
    (h : m.leaseNext now leaseSeconds = (.ok (some work), m')) :
    (m.commits.get? work.lease.transactionId).map CommittedRecord.material =
      some work.material := by
  have hfollowed := m.leaseNext_followedBy now leaseSeconds
  rw [h] at hfollowed
  rw [← hfollowed.material]
  unfold leaseNext at h
  split_ifs at h
  · cases h
  split at h
  · cases h
  split at h
  · cases h
  split at h
  · cases h
  · rename_i hpayload
    cases h
    unfold deliveryPayload at hpayload
    split_ifs at hpayload
    split at hpayload
    · cases hpayload
    · next hrecord =>
        rw [hrecord]
        split_ifs at hpayload
        split at hpayload
        · split_ifs at hpayload
          cases hpayload
          rfl
        all_goals cases hpayload

/-- A report of acceptance delivers at most the record of its lease. -/
theorem completeDelivery_material (m : InMemoryInviterJoinStore) (lease : DeliveryLease)
    (now : Nat) (id : Id16) :
    ((m.completeDelivery lease now).2.commits.get? id).map CommittedRecord.material =
      (m.commits.get? id).map CommittedRecord.material := by
  by_cases hscope : lease.storeScope = m.leaseScope
  · rw [completeDelivery_store hscope, get?_update, Option.map_map]
    refine Option.map_congr fun r _ => ?_
    simp only [Function.comp_apply]
    split_ifs
    · unfold afterAccepted
      split
      · split_ifs <;> rfl
      · rfl
      · rfl
      · rfl
    · rfl
  · rw [completeDelivery, if_pos (Ne.symm hscope)]

theorem completeDelivery_delivered {r' : CommittedRecord}
    (hr' : (m.completeDelivery lease now).2.commits.get? id = some r') (hdelivered : r'.Delivered) :
    (∃ r, m.commits.get? id = some r ∧ r.Delivered) ∨ id = lease.transactionId := by
  by_cases hid : id = lease.transactionId
  · exact .inr hid
  by_cases hscope : lease.storeScope = m.leaseScope
  · rw [completeDelivery_store hscope, get?_update] at hr'
    obtain ⟨r, hr, rfl⟩ := Option.map_eq_some_iff.mp hr'
    rw [if_neg hid] at hdelivered
    exact .inl ⟨r, hr, hdelivered⟩
  · rw [completeDelivery, if_pos (Ne.symm hscope)] at hr'
    exact .inl ⟨r', hr', hdelivered⟩

def outboxPort : WelcomeOutboxPort InMemoryInviterJoinStore DeliveryLease where
  leaseNext := leaseNext
  reportAccepted := reportAccepted
  reportFailed := reportFailed

/-- The store keeps to the lease discipline, with the transactions as rows. -/
def leaseDiscipline : LeaseDiscipline outboxPort Id16 where
  row := DeliveryLease.transactionId
  material m id := (m.commits.get? id).map CommittedRecord.material
  delivered m id := ∃ r, m.commits.get? id = some r ∧ r.Delivered
  leaseNext_material m now seconds id := (m.leaseNext_followedBy now seconds).material id
  leaseNext_delivered m now seconds id := by
    rintro ⟨r', hr', hdelivered⟩
    exact (m.leaseNext_followedBy now seconds).delivered hr' hdelivered
  leased m now seconds work m' h := leaseNext_material h
  reportFailed_material m lease id := (FollowedBy.failDelivery m lease).material id
  reportFailed_delivered m lease id := by
    rintro ⟨r', hr', hdelivered⟩
    exact (FollowedBy.failDelivery m lease).delivered hr' hdelivered
  reportAccepted_material m lease now id := m.completeDelivery_material lease now id
  reportAccepted_delivered m lease now id := by
    rintro ⟨r', hr', hdelivered⟩
    exact completeDelivery_delivered hr' hdelivered

end InMemoryInviterJoinStore

end SessionChat.InviterTransaction

/-! ## Delivery -/

namespace SessionChat.Transport

open Transition Collections Protocol
open InviterTransaction
open Storage (Id16 Bytes)

section EndToEnd

variable {σ L ρ : Type} {port : WelcomeOutboxPort σ L}

/-- No two different Welcomes among the deposits have one digest. -/
def CollisionFree (digests : MailboxDigests) (deposits : List Deposit) : Prop :=
  ∀ d ∈ deposits, ∀ d' ∈ deposits,
    digests.envelope d.envelope = digests.envelope d'.envelope → d.envelope = d'.envelope

/-- The mailbox has accepted these bytes and no others, and what it still retains is their
envelope. -/
structure AcceptedExactly (w : DeliveryWorld σ L) (mailboxId : Id16) (bytes : Bytes) : Prop where
  accepted : ∃ d ∈ depositsOf w.history, d.endpoint.mailboxId = mailboxId ∧
    d.envelope = bytes ∧ ∃ id, d.result = .ok id
  only : ∀ d ∈ depositsOf w.history, d.endpoint.mailboxId = mailboxId →
    ∀ id, d.result = .ok id → d.envelope = bytes
  retained : ∀ record a e, w.state.transport.mailboxes.get? mailboxId = some record →
    record.accepted = some a → a.envelope = some e → e.encodeCanonical = .ok bytes

variable {digests : MailboxDigests}

/-- An accepted deposit fixes what its mailbox has accepted. -/
theorem acceptedExactly_of_deposit {D : LeaseDiscipline port ρ} {w : DeliveryWorld σ L}
    (h : Accounted D digests w) (hcollision : CollisionFree digests (depositsOf w.history))
    {d : Deposit} {id : DeliveryId} (hd : d ∈ depositsOf w.history) (hid : d.result = .ok id) :
    AcceptedExactly w d.endpoint.mailboxId d.envelope := by
  have honly : ∀ d' ∈ depositsOf w.history, d'.endpoint.mailboxId = d.endpoint.mailboxId →
      ∀ id', d'.result = .ok id' → d'.envelope = d.envelope := by
    intro d' hd' hm id' hid'
    exact hcollision d' hd' d hd (h.mailboxes.agree d' hd' d hd id' id hid' hid hm).2
  refine ⟨⟨d, hd, rfl, rfl, id, hid⟩, honly, ?_⟩
  intro record a e hrecord ha he
  obtain ⟨d', hd', hm, ⟨id', hid'⟩, hencoded⟩ := h.mailboxes.retained _ record a e hrecord ha he
  rw [hencoded, honly d' hd' hm id' hid']

/-- In every run of passes, with any clocks, deadlines, cancellations and drops, interleaved
with the receiver's and the owner's own calls: each pass makes at most one deposit and
settles its lease exactly once or leaves it for one of the two reasons; every row that the
owner has recorded as delivered was accepted, byte for byte, by the mailbox of its endpoint;
and a mailbox accepts one envelope under one delivery identifier. -/
theorem welcome_delivery_end_to_end (D : LeaseDiscipline port ρ) {s : DeliverySystem σ}
    {w : DeliveryWorld σ L} (hdelivered : ∀ r, ¬D.delivered s.store r)
    (hempty : ∀ m record, s.transport.mailboxes.get? m = some record → record.accepted = none)
    (hrun : Leads (deliveryStep port digests) (Admitted D) ⟨s, []⟩ w)
    (hcollision : CollisionFree digests (depositsOf w.history)) :
    (∀ e ∈ w.history, ∀ policy control, e.call = .pass policy control →
      ∃ record, e.reply = some record ∧ record.Disciplined control) ∧
    (∀ r, D.delivered w.state.store r → ∃ welcome encoded expiresAt endpoint,
      D.material w.state.store r = some (welcome, encoded, expiresAt) ∧
      LocalWelcomeDepositEndpoint.decodeCanonical encoded = .ok endpoint ∧
      AcceptedExactly w endpoint.mailboxId welcome) ∧
    ∀ d ∈ depositsOf w.history, ∀ d' ∈ depositsOf w.history, ∀ id id',
      d.result = .ok id → d'.result = .ok id' →
      d.endpoint.mailboxId = d'.endpoint.mailboxId → d.envelope = d'.envelope ∧ id = id' := by
  have haccounted := Accounted.run hdelivered hempty hrun
  refine ⟨haccounted.passes, ?_, ?_⟩
  · intro r hr
    obtain ⟨encoded, expiresAt, d, hd, id, hmaterial, hendpoint, hid⟩ := haccounted.owner r hr
    exact ⟨d.envelope, encoded, expiresAt, d.endpoint, hmaterial, hendpoint,
      acceptedExactly_of_deposit haccounted hcollision hd hid⟩
  · intro d hd d' hd' id id' hid hid' hm
    obtain ⟨hsame, hdigest⟩ := haccounted.mailboxes.agree d hd d' hd' id id' hid hid' hm
    exact ⟨hcollision d hd d' hd' hdigest, hsame⟩

end EndToEnd

/-! ## A deposit that took effect before it was cancelled -/

/-- Digests that tell the sample values apart. -/
def sampleDigests : MailboxDigests where
  capability secret := secret
  envelope bytes := BitVec.ofNat 256 bytes.length

def sampleCoordinator : CoordinatorPolicy where
  operationTimeout := 1000000000
  leaseSeconds := 5
  maximumNetworkBytes := 64
  positive := by decide
  bounded := by decide

/-- One committed Welcome, and the empty mailbox of its endpoint. -/
def sampleSystem : DeliverySystem InMemoryInviterJoinStore where
  store := (InMemoryInviterJoinStore.new samplePolicy 5).install (sampleCommit 1 40)
  transport :=
    { policy := ⟨100, 1, by decide⟩
      transportInstanceId := 1
      mailboxes := OrderedMap.empty.insert 1 ⟨100, 1, 2, 3, none⟩ }

/-- A pass at ten whose adapter sees a cancellation after its deposit, or does not. -/
def samplePass (cancelled : Bool) : DeliveryCall InMemoryInviterJoinStore :=
  let steady : DispatchReading := ⟨false, 0, some 10⟩
  .pass sampleCoordinator
    { monotonicNow := 0
      latestInstant := 2000000000
      beforeLease := steady
      beforeDeposit := steady
      adapterEntry := steady
      adapterExit := { steady with cancelled }
      completedAt := some 11
      draw := some 9
      dropped := none }

theorem sampleSystem_undelivered :
    ∀ id, ¬InMemoryInviterJoinStore.leaseDiscipline.delivered sampleSystem.store id := by
  rintro id ⟨r, hr, leaseSequence, hdelivered⟩
  have hcommits : sampleSystem.store.commits.get? id = some r := hr
  rw [sampleSystem, InMemoryInviterJoinStore.install, OrderedMap.get?_insert] at hcommits
  split_ifs at hcommits
  · cases hcommits
    cases hdelivered
  · cases hcommits

theorem sampleSystem_empty (m : Id16) (record : LocalMailboxRecord)
    (hrecord : sampleSystem.transport.mailboxes.get? m = some record) : record.accepted = none := by
  rw [sampleSystem, OrderedMap.get?_insert] at hrecord
  split_ifs at hrecord
  · cases hrecord
    rfl
  · cases hrecord

/-- The first pass is cancelled after its deposit and reports a failure; the second finds
the envelope in the mailbox, and the Welcome is delivered. -/
theorem welcome_delivery_end_to_end_retried :
    let w := World.afterAll (deliveryStep InMemoryInviterJoinStore.outboxPort sampleDigests)
      ⟨sampleSystem, []⟩ [samplePass true, samplePass false]
    InMemoryInviterJoinStore.leaseDiscipline.delivered w.state.store 1 ∧
      (depositsOf w.history).length = 2 ∧
      AcceptedExactly w 1 (sampleCommit 1 40).welcomeEnvelope := by
  intro w
  have hstored : ((w.state.store.commits.get? 1).map fun r => (r.material, r.outbox)) =
      some (((sampleCommit 1 40).welcomeEnvelope, (sampleCommit 1 40).depositEndpoint, 40),
        .delivered 2) := by decide +kernel
  obtain ⟨r, hr, hrow⟩ := Option.map_eq_some_iff.mp hstored
  have hdelivered : InMemoryInviterJoinStore.leaseDiscipline.delivered w.state.store 1 :=
    ⟨r, hr, 2, (Prod.mk.inj hrow).2⟩
  have hdeposits : (depositsOf w.history).map (·.envelope) =
      [(sampleCommit 1 40).welcomeEnvelope, (sampleCommit 1 40).welcomeEnvelope] := by
    decide +kernel
  have hendpoint : LocalWelcomeDepositEndpoint.decodeCanonical
      (sampleCommit 1 40).depositEndpoint = .ok ⟨1, 1, 1, 100⟩ := by
    decide +kernel
  have hsame : ∀ d ∈ depositsOf w.history, d.envelope = (sampleCommit 1 40).welcomeEnvelope := by
    intro d hd
    have hmem : d.envelope ∈ (depositsOf w.history).map (·.envelope) := List.mem_map_of_mem hd
    simpa [hdeposits] using hmem
  have hcollision : CollisionFree sampleDigests (depositsOf w.history) :=
    fun d hd d' hd' _ => (hsame d hd).trans (hsame d' hd').symm
  refine ⟨hdelivered, by simpa using congrArg List.length hdeposits, ?_⟩
  have hrun : Leads (deliveryStep InMemoryInviterJoinStore.outboxPort sampleDigests)
      (Admitted InMemoryInviterJoinStore.leaseDiscipline) ⟨sampleSystem, []⟩ w :=
    leads_afterAll ⟨trivial, trivial, trivial⟩
  obtain ⟨-, hrows, -⟩ := welcome_delivery_end_to_end InMemoryInviterJoinStore.leaseDiscipline
    sampleSystem_undelivered sampleSystem_empty hrun hcollision
  obtain ⟨welcome, encoded, expiresAt, endpoint, hmaterial, hdecoded, haccepted⟩ :=
    hrows 1 hdelivered
  have hmaterial' : InMemoryInviterJoinStore.leaseDiscipline.material w.state.store 1 =
      some ((sampleCommit 1 40).welcomeEnvelope, (sampleCommit 1 40).depositEndpoint, 40) :=
    Option.map_eq_some_iff.mpr ⟨r, hr, (Prod.mk.inj hrow).1⟩
  cases Option.some.inj (hmaterial.symm.trans hmaterial')
  cases hendpoint.symm.trans hdecoded
  exact haccepted

end SessionChat.Transport
