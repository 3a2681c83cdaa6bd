import SessionChat.MemoryTransport.Copies

/-!
# Entries over whole runs (`crates/transport-memory/src/lib.rs`)

The count holds in every state a run reaches. While a mailbox lives, an entry keeps its
delivery identifier and its digest; once its envelope is gone and no copy of it is scheduled,
both stay so.
-/

set_option autoImplicit false

namespace SessionChat.MemoryTransport

open Collections Transition Mailbox Storage

/-! ## One step -/

/-- An entry later on: what was gone is still gone. -/
structure AcceptedEnvelope.Kept (before after : AcceptedEnvelope) : Prop where
  envelopeDigest : after.envelopeDigest = before.envelopeDigest
  deliveryId : after.deliveryId = before.deliveryId
  gone : before.envelope = none → after.envelope = none

namespace Holdings

variable {digests : MemoryDigests} {policy : MemoryMailboxPolicy} {before after : Holdings}
  {envelopeId : Id16} {accepted : AcceptedEnvelope}

theorem Step.kept (h : Step digests policy before after)
    (hget : before.accepted.get? envelopeId = some accepted) :
    ∃ accepted', after.accepted.get? envelopeId = some accepted' ∧ accepted.Kept accepted' := by
  cases h with
  | narrowed haccepted _ =>
    obtain ⟨accepted', hget', hsame⟩ := haccepted.same_after hget
    refine ⟨accepted', hget', hsame.envelopeDigest, hsame.deliveryId, fun hgone => ?_⟩
    rcases hsame.envelope with henvelope | henvelope
    · rw [henvelope, hgone]
    · exact henvelope
  | @again id entry count copies _ _ _ _ _ =>
    by_cases hid : envelopeId = id
    · subst hid
      exact ⟨accepted.attemptedAgain, by simp [hget], rfl, rfl, fun hgone => hgone⟩
    · exact ⟨accepted, by simp [hid, hget], rfl, rfl, fun hgone => hgone⟩
  | first hfresh _ _ _ _ _ _ =>
    refine ⟨accepted, ?_, rfl, rfl, fun hgone => hgone⟩
    rw [OrderedMap.get?_insert_of_ne _ _ ?_]
    · exact hget
    · rintro rfl
      cases hfresh.symm.trans hget

/-- No attempt is made for an entry whose envelope is gone, and no other entry has its
identifier. -/
theorem Step.no_copies (h : Step digests policy before after) (hcounted : Counted policy before)
    (hget : before.accepted.get? envelopeId = some accepted) (hgone : accepted.envelope = none)
    (hnone : accepted.deliveryId ∉ before.copies) : accepted.deliveryId ∉ after.copies := by
  intro hmem
  cases h with
  | narrowed _ hcopies => exact hnone (hcopies.subset hmem)
  | again hentry hretained _ _ hcopies =>
    rcases List.mem_append.mp (hcopies.subset hmem) with hmem | hmem
    · exact hnone hmem
    · have hid := hcounted.distinct hget hentry (List.eq_of_mem_replicate hmem)
      subst hid
      cases hget.symm.trans hentry
      exact hretained hgone
  | first _ _ _ _ hunused _ hcopies =>
    rcases List.mem_append.mp (hcopies.subset hmem) with hmem | hmem
    · exact hnone hmem
    · exact hunused _ _ hget (List.eq_of_mem_replicate hmem)

end Holdings

/-! ## Runs -/

namespace DeterministicMemoryTransport

variable {digests : MemoryDigests} {s s' : DeterministicMemoryTransport}
  {A : MemoryWorld → MemoryCall → Prop} {w w' : MemoryWorld}
  {mailboxId envelopeId : Id16} {digest : Bytes32} {deliveryId : DeliveryId}

def Counted (s : DeterministicMemoryTransport) : Prop :=
  ∀ mailboxId, (s.holdings mailboxId).Counted s.policy

theorem counted_fresh (policy : MemoryMailboxPolicy) (id : Mailbox.NonZero 128) :
    (fresh policy id).Counted :=
  fun _ => .empty policy

theorem Effect.counted {c : MemoryCall} {reply : MemoryReply} (h : Effect digests s c reply s')
    (hcounted : s.Counted) : s'.Counted := by
  intro mailboxId
  rw [h.policy]
  rcases h.step mailboxId with ⟨-, hempty⟩ | hstep
  · rw [hempty]
    exact .empty _
  · exact (hcounted mailboxId).step hstep

theorem counted_of_leads (h : Leads (call digests) A w w') (hw : w.state.Counted) :
    w'.state.Counted :=
  h.invariant (I := fun w => w.state.Counted)
    (fun v c _ hv => (call_effect v.state c).counted hv) hw

/-- Every state that calls on a new transport reach is counted. -/
theorem counted_of_calls (digests : MemoryDigests) (policy : MemoryMailboxPolicy)
    (id : Mailbox.NonZero 128) (cs : List MemoryCall) :
    ((World.mk (fresh policy id) []).afterAll (call digests) cs).state.Counted :=
  counted_of_leads (w := World.mk (fresh policy id) []) (leads_calls _ cs)
    (counted_fresh policy id)

theorem Counted.copies_of_absent (hcounted : s.Counted)
    (habsent : s.mailboxes.get? mailboxId = none) : (s.holdings mailboxId).copies = [] := by
  refine List.eq_nil_iff_forall_not_mem.mpr fun d hd => ?_
  obtain ⟨id, a, hget, -⟩ := (hcounted mailboxId).known d hd
  rw [holdings_of_absent habsent] at hget
  simp at hget

/-- The call opens no new mailbox under the identifier. -/
def Continues (digests : MemoryDigests) (mailboxId : Id16) (w : MemoryWorld) (c : MemoryCall) :
    Prop :=
  (call digests w.state c).2.opens? ≠ some mailboxId
deriving Decidable

/-- A mailbox that is still there has been through a step. -/
theorem step_of_continues {c : MemoryCall} (hcontinues : Continues digests mailboxId w c)
    {record' : MemoryMailboxRecord}
    (hget' : (w.after (call digests) c).state.mailboxes.get? mailboxId = some record') :
    ∃ record, w.state.mailboxes.get? mailboxId = some record ∧
      Holdings.Step digests w.state.policy (w.state.holdings mailboxId)
        ((w.after (call digests) c).state.holdings mailboxId) := by
  have heffect : Effect digests w.state c _ _ := call_effect w.state c
  rcases hget : w.state.mailboxes.get? mailboxId with _ | record
  · cases hget'.symm.trans (heffect.absent hget hcontinues)
  · refine ⟨record, rfl, ?_⟩
    rcases heffect.step mailboxId with ⟨habsent, -⟩ | hstep
    · cases hget'.symm.trans habsent
    · exact hstep

/-- While the mailbox lives, the entry of the envelope has this digest and identifier. -/
def Remembers (s : DeterministicMemoryTransport) (mailboxId envelopeId : Id16)
    (digest : Bytes32) (deliveryId : DeliveryId) : Prop :=
  ∀ record, s.mailboxes.get? mailboxId = some record →
    ∃ accepted, record.accepted.get? envelopeId = some accepted ∧
      accepted.envelopeDigest = digest ∧ accepted.deliveryId = deliveryId

theorem remembers_of_leads (h : Leads (call digests) (Continues digests mailboxId) w w')
    (hw : w.state.Remembers mailboxId envelopeId digest deliveryId) :
    w'.state.Remembers mailboxId envelopeId digest deliveryId := by
  refine h.invariant
    (I := fun w => w.state.Remembers mailboxId envelopeId digest deliveryId) ?_ hw
  intro v c hc hv record' hget'
  obtain ⟨record, hget, hstep⟩ := step_of_continues hc hget'
  obtain ⟨accepted, hentry, rfl, rfl⟩ := hv record hget
  rw [holdings_of_get? hget, holdings_of_get? hget'] at hstep
  obtain ⟨accepted', hentry', hkept⟩ := hstep.kept hentry
  exact ⟨accepted', hentry', hkept.envelopeDigest, hkept.deliveryId⟩

/-- While the mailbox lives, the envelope of the delivery is gone and no copy of it waits. -/
def Settled (s : DeterministicMemoryTransport) (mailboxId envelopeId : Id16)
    (deliveryId : DeliveryId) : Prop :=
  ∀ record, s.mailboxes.get? mailboxId = some record →
    (∃ accepted, record.accepted.get? envelopeId = some accepted ∧
      accepted.deliveryId = deliveryId ∧ accepted.envelope = none) ∧
    deliveryId ∉ record.visible ++ s.heldFor mailboxId

theorem settled_of_leads (h : Leads (call digests) (Continues digests mailboxId) w w')
    (hcounted : w.state.Counted) (hw : w.state.Settled mailboxId envelopeId deliveryId) :
    w'.state.Settled mailboxId envelopeId deliveryId := by
  refine (h.invariant
    (I := fun w => w.state.Counted ∧ w.state.Settled mailboxId envelopeId deliveryId)
    ?_ ⟨hcounted, hw⟩).2
  rintro v c hc ⟨hcount, hv⟩
  refine ⟨(call_effect v.state c).counted hcount, fun record' hget' => ?_⟩
  obtain ⟨record, hget, hstep⟩ := step_of_continues hc hget'
  obtain ⟨⟨accepted, hentry, rfl, hgone⟩, hnone⟩ := hv record hget
  have hholdings := hcount mailboxId
  rw [holdings_of_get? hget] at hstep hholdings
  rw [holdings_of_get? hget'] at hstep
  obtain ⟨accepted', hentry', hkept⟩ := hstep.kept hentry
  exact ⟨⟨accepted', hentry', hkept.deliveryId, hkept.gone hgone⟩,
    hstep.no_copies hholdings hentry hgone hnone⟩

end DeterministicMemoryTransport

end SessionChat.MemoryTransport
