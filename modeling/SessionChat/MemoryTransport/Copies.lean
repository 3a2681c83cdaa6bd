import Mathlib.Data.List.Count
import Mathlib.Data.List.Perm.Subperm
import SessionChat.MemoryTransport.Effect

/-!
# The copies of a mailbox (`crates/transport-memory/src/lib.rs`)

One mailbox on its own is its entries and the copies of deliveries scheduled for it, visible
or held. Every call takes the holdings of every mailbox through one of four steps, and the
steps keep a count: an entry has at most two copies for each attempt. The bound on scheduled
copies therefore never bites before the bounds on entries and attempts do.
-/

set_option autoImplicit false

namespace SessionChat.MemoryTransport

open Collections Transition Mailbox Storage

/-- The entries of a mailbox and every copy scheduled for it. -/
structure Holdings where
  accepted : OrderedMap Id16 AcceptedEnvelope
  copies : List DeliveryId

def Holdings.empty : Holdings := ⟨.empty, []⟩

/-- The holdings of a mailbox; a mailbox that does not exist holds nothing of its own. -/
def DeterministicMemoryTransport.holdings (s : DeterministicMemoryTransport)
    (mailboxId : Id16) : Holdings :=
  match s.mailboxes.get? mailboxId with
  | none => ⟨.empty, s.heldFor mailboxId⟩
  | some record => ⟨record.accepted, record.visible ++ s.heldFor mailboxId⟩

namespace Holdings

/-- What a call may do to one mailbox that it does not prune. -/
inductive Step (digests : MemoryDigests) (policy : MemoryMailboxPolicy) (before : Holdings) :
    Holdings → Prop
  | narrowed {after : Holdings} (haccepted : Forgets before.accepted after.accepted)
      (hcopies : after.copies.Subperm before.copies) : Step digests policy before after
  | again {envelopeId : Id16} {accepted : AcceptedEnvelope} {count : Nat}
      {copies : List DeliveryId} (hget : before.accepted.get? envelopeId = some accepted)
      (hretained : accepted.envelope ≠ none)
      (hleft : accepted.attempts < policy.maximumDeliveryAttemptsPerEnvelope)
      (hcount : count ≤ 2)
      (hcopies : copies.Perm (before.copies ++ List.replicate count accepted.deliveryId)) :
      Step digests policy before
        ⟨before.accepted.modify envelopeId AcceptedEnvelope.attemptedAgain, copies⟩
  | first {envelope : Envelope} {encoded : Bytes} {deliveryId : DeliveryId} {count : Nat}
      {copies : List DeliveryId}
      (hfresh : before.accepted.get? envelope.val.envelopeId = none)
      (hencoded : envelope.val.encodeCanonical = .ok encoded)
      (hnonzero : envelope.val.envelopeId ≠ 0)
      (hroom : before.accepted.size < policy.maximumEnvelopesPerMailbox)
      (hunused : ∀ envelopeId accepted, before.accepted.get? envelopeId = some accepted →
        accepted.deliveryId ≠ deliveryId)
      (hcount : count ≤ 2)
      (hcopies : copies.Perm (before.copies ++ List.replicate count deliveryId)) :
      Step digests policy before
        ⟨before.accepted.insert envelope.val.envelopeId
          (.first digests envelope encoded deliveryId), copies⟩

theorem Step.refl {digests : MemoryDigests} {policy : MemoryMailboxPolicy} (h : Holdings) :
    Step digests policy h h :=
  .narrowed (.refl _) (List.Subperm.refl _)

end Holdings

/-! ## Every call takes a step in every mailbox -/

namespace DeterministicMemoryTransport

variable {digests : MemoryDigests} {s s' : DeterministicMemoryTransport} {mailboxId : Id16}
  {record : MemoryMailboxRecord} {index : Nat} {deliveryId : DeliveryId} {c : MemoryCall}
  {reply : MemoryReply}

theorem holdings_of_get? (h : s.mailboxes.get? mailboxId = some record) :
    s.holdings mailboxId = ⟨record.accepted, record.visible ++ s.heldFor mailboxId⟩ := by
  simp [holdings, h]

theorem holdings_of_absent (h : s.mailboxes.get? mailboxId = none) :
    s.holdings mailboxId = ⟨.empty, s.heldFor mailboxId⟩ := by
  simp [holdings, h]

theorem length_copies (s : DeterministicMemoryTransport) (mailboxId : Id16) :
    (s.holdings mailboxId).copies.length = s.scheduledCount mailboxId := by
  rcases hget : s.mailboxes.get? mailboxId with _ | record
  · simp [holdings_of_absent hget, scheduledCount, hget]
  · simp [holdings_of_get? hget, scheduledCount, hget]

theorem heldFor_sublist (h : s'.held.Sublist s.held) (mailboxId : Id16) :
    (s'.heldFor mailboxId).Sublist (s.heldFor mailboxId) :=
  (h.filter _).map _

theorem Narrows.step (h : s.Narrows s') (mailboxId : Id16) :
    Holdings.Step digests s.policy (s.holdings mailboxId) (s'.holdings mailboxId) := by
  have hheld := heldFor_sublist h.held mailboxId
  have hmailbox := h.mailbox mailboxId
  rcases hget : s.mailboxes.get? mailboxId with _ | record
  · rw [hget] at hmailbox
    rcases hget' : s'.mailboxes.get? mailboxId with _ | record'
    · rw [holdings_of_absent hget, holdings_of_absent hget']
      exact .narrowed (.refl _) hheld.subperm
    · rw [hget'] at hmailbox
      cases hmailbox
  · rw [hget] at hmailbox
    rcases hget' : s'.mailboxes.get? mailboxId with _ | record'
    · rw [hget'] at hmailbox
      cases hmailbox
    · rw [hget'] at hmailbox
      obtain ⟨hrecord⟩ := hmailbox
      rw [holdings_of_get? hget, holdings_of_get? hget']
      exact .narrowed hrecord.accepted (hrecord.visible.append hheld).subperm

/-- A held copy that is moved is one copy less among those held for its mailbox. -/
theorem perm_heldFor_reveal (hheld : s.held[index]? = some (mailboxId, deliveryId))
    (record : MemoryMailboxRecord) (other : Id16) : (s.heldFor other).Perm
      ((if mailboxId = other then [deliveryId] else []) ++
        (s.reveal index mailboxId record deliveryId).heldFor other) := by
  obtain ⟨hindex, hentry⟩ := List.getElem?_eq_some_iff.mp hheld
  have hperm : s.held.Perm ((mailboxId, deliveryId) :: s.held.eraseIdx index) := by
    rw [← hentry]
    exact (List.getElem_cons_eraseIdx_perm hindex).symm
  have hfor := (hperm.filter fun entry => decide (entry.1 = other)).map Prod.snd
  by_cases hother : mailboxId = other
  · simpa [heldFor, reveal, hother] using hfor
  · simpa [heldFor, reveal, hother] using hfor

theorem step_reveal (hheld : s.held[index]? = some (mailboxId, deliveryId))
    (hget : s.mailboxes.get? mailboxId = some record) (other : Id16) :
    Holdings.Step digests s.policy (s.holdings other)
      ((s.reveal index mailboxId record deliveryId).holdings other) := by
  have hperm := perm_heldFor_reveal hheld record other
  by_cases hother : other = mailboxId
  · subst hother
    have hget' : (s.reveal index other record deliveryId).mailboxes.get? other =
        some { record with visible := record.visible ++ [deliveryId] } :=
      get?_withMailbox_self hget
    rw [holdings_of_get? hget, holdings_of_get? hget']
    refine .narrowed (.refl _) (List.Perm.subperm ?_)
    rw [if_pos rfl] at hperm
    rw [List.append_assoc]
    exact (hperm.append_left record.visible).symm
  · have hget' : (s.reveal index mailboxId record deliveryId).mailboxes.get? other =
        s.mailboxes.get? other := get?_withMailbox_of_ne _ hother
    rw [if_neg (Ne.symm hother)] at hperm
    rcases hrecord : s.mailboxes.get? other with _ | record'
    · rw [holdings_of_absent hrecord, holdings_of_absent (hget'.trans hrecord)]
      exact .narrowed (.refl _) hperm.symm.subperm
    · rw [holdings_of_get? hrecord, holdings_of_get? (hget'.trans hrecord)]
      exact .narrowed (.refl _) (hperm.symm.append_left record'.visible).subperm

theorem step_openMailbox {now : Nat} (hfresh : s.mailboxes.get? mailboxId = none)
    (haccepted : record.accepted = .empty) (hvisible : record.visible = []) (other : Id16) :
    ((s.openMailbox now mailboxId record).mailboxes.get? other = none ∧
        (s.openMailbox now mailboxId record).holdings other = .empty) ∨
      Holdings.Step digests s.policy (s.holdings other)
        ((s.openMailbox now mailboxId record).holdings other) := by
  have hheld : ((s.openMailbox now mailboxId record).heldFor other).Sublist (s.heldFor other) :=
    heldFor_sublist List.filter_sublist other
  by_cases hother : other = mailboxId
  · subst hother
    have hget : (s.openMailbox now other record).mailboxes.get? other = some record :=
      OrderedMap.get?_insert_self _ _ _
    rw [holdings_of_absent hfresh, holdings_of_get? hget, haccepted, hvisible]
    exact .inr (.narrowed (.refl _) hheld.subperm)
  · have hget : (s.openMailbox now mailboxId record).mailboxes.get? other =
        (s.live now).get? other :=
      OrderedMap.get?_insert_of_ne _ _ hother
    rcases hkept : (s.live now).get? other with _ | kept
    · -- The mailbox is gone, and what was held for it was pruned with it.
      have hnone : (s.openMailbox now mailboxId record).heldFor other = [] := by
        refine List.map_eq_nil_iff.mpr (List.filter_eq_nil_iff.mpr fun entry hentry => ?_)
        have hkeeps := (List.mem_filter.mp hentry).2
        intro hentry_other
        rw [of_decide_eq_true hentry_other, hkept] at hkeeps
        simp [hother] at hkeeps
      refine .inl ⟨hget.trans hkept, ?_⟩
      rw [holdings_of_absent (hget.trans hkept), hnone]
      rfl
    · have hrecord : s.mailboxes.get? other = some kept := by
        rw [live, OrderedMap.get?_retain] at hkept
        exact (Option.filter_eq_some_iff.mp hkept).1
      rw [holdings_of_get? hrecord, holdings_of_get? (hget.trans hkept)]
      exact .inr (.narrowed (.refl _) (hheld.append_left kept.visible).subperm)

/-- The copies of a scheduled attempt are added to those of its own mailbox only. -/
theorem heldFor_scheduled (s : DeterministicMemoryTransport) (mailboxId : Id16)
    (record : MemoryMailboxRecord) (deliveryId : DeliveryId) (action : DeliveryAction)
    (other : Id16) :
    (s.scheduled mailboxId record deliveryId action).heldFor other = s.heldFor other ++
        if mailboxId = other then List.replicate action.heldSlots deliveryId else [] := by
  by_cases hother : mailboxId = other
  · simp [heldFor, scheduled, hother]
  · simp [heldFor, scheduled, hother]

theorem step_scheduled {before : MemoryMailboxRecord} {action : DeliveryAction}
    (hget : s.mailboxes.get? mailboxId = some before)
    (hattempt : Attempt digests s.policy before record deliveryId) (other : Id16) :
    Holdings.Step digests s.policy (s.holdings other)
      ((s.scheduled mailboxId record deliveryId action).holdings other) := by
  have hheld := heldFor_scheduled s mailboxId record deliveryId action other
  by_cases hother : other = mailboxId
  · subst hother
    have hget' : (s.scheduled other record deliveryId action).mailboxes.get? other =
        some { record with
          visible := record.visible ++ List.replicate action.visibleSlots deliveryId } :=
      get?_withMailbox_self hget
    have hcopies : (record.visible ++ List.replicate action.visibleSlots deliveryId ++
        (s.scheduled other record deliveryId action).heldFor other).Perm
        (before.visible ++ s.heldFor other ++ List.replicate action.slots deliveryId) := by
      rw [hheld, hattempt.visible, action.slots_eq, ← List.replicate_append_replicate]
      simp only [List.append_assoc]
      refine List.Perm.append_left _ ?_
      rw [← List.append_assoc, ← List.append_assoc]
      exact List.Perm.append_right _ List.perm_append_comm
    rw [holdings_of_get? hget, holdings_of_get? hget']
    cases hattempt with
    | again hentry hretained hleft => exact .again hentry hretained hleft action.slots_le hcopies
    | first hfresh hencoded hnonzero hroom hunused =>
      exact .first hfresh hencoded hnonzero hroom
        (fun _ _ hentry => MemoryMailboxRecord.find_eq_none hunused hentry) action.slots_le hcopies
  · have hget' : (s.scheduled mailboxId record deliveryId action).mailboxes.get? other =
        s.mailboxes.get? other := get?_withMailbox_of_ne _ hother
    rw [if_neg (Ne.symm hother), List.append_nil] at hheld
    rw [holdings, holdings, hget', hheld]
    exact .refl _

section

variable (h : Effect digests s c reply s')
include h

/-- A call prunes a mailbox, with every copy that waits for it, or takes it through a step. -/
theorem Effect.step (other : Id16) :
    (s'.mailboxes.get? other = none ∧ s'.holdings other = .empty) ∨
      Holdings.Step digests s.policy (s.holdings other) (s'.holdings other) := by
  cases h with
  | narrowed h => exact .inr (h.step other)
  | replayed => exact .inr (.refl _)
  | created hfresh haccepted hvisible => exact step_openMailbox hfresh haccepted hvisible other
  | released hheld hget _ => exact .inr (step_reveal hheld hget other)
  | attempted hget hattempt => exact .inr (step_scheduled hget hattempt other)

theorem Effect.policy : s'.policy = s.policy := by
  cases h with
  | narrowed h => exact h.policy
  | replayed | created _ _ _ | released _ _ _ | attempted _ _ => rfl

/-- A mailbox that does not exist comes to exist only by being created. -/
theorem Effect.absent {other : Id16} (hbefore : s.mailboxes.get? other = none)
    (hopened : reply.opens? ≠ some other) : s'.mailboxes.get? other = none := by
  cases h with
  | narrowed h =>
    have hmailbox := h.mailbox other
    rw [hbefore] at hmailbox
    rcases hafter : s'.mailboxes.get? other with _ | record
    · rfl
    · rw [hafter] at hmailbox
      cases hmailbox
  | replayed => exact hbefore
  | created hfresh _ _ =>
    have hother : other ≠ _ := fun heq => hopened (congrArg some heq.symm)
    refine (OrderedMap.get?_insert_of_ne _ _ hother).trans ?_
    rw [live, OrderedMap.get?_retain, hbefore]
    rfl
  | released hheld hget _ =>
    have hother : other ≠ _ := fun heq => by
      rw [heq, hget] at hbefore
      cases hbefore
    exact (get?_withMailbox_of_ne _ hother).trans hbefore
  | attempted hget _ =>
    have hother : other ≠ _ := fun heq => by
      rw [heq, hget] at hbefore
      cases hbefore
    exact (get?_withMailbox_of_ne _ hother).trans hbefore

end

end DeterministicMemoryTransport

/-! ## The count -/

/-- An entry whose envelope may have been forgotten is the same in every other respect. -/
structure AcceptedEnvelope.Same (before after : AcceptedEnvelope) : Prop where
  envelopeDigest : after.envelopeDigest = before.envelopeDigest
  encodedLen : after.encodedLen = before.encodedLen
  deliveryId : after.deliveryId = before.deliveryId
  attempts : after.attempts = before.attempts
  envelope : after.envelope = before.envelope ∨ after.envelope = none

variable {before after : OrderedMap Id16 AcceptedEnvelope} {envelopeId : Id16}

theorem Forgets.same (h : Forgets before after) {accepted : AcceptedEnvelope}
    (hget : after.get? envelopeId = some accepted) :
    ∃ entry, before.get? envelopeId = some entry ∧ entry.Same accepted := by
  rcases h.get envelopeId with hsame | hdropped
  · exact ⟨accepted, hsame.symm.trans hget, ⟨rfl, rfl, rfl, rfl, .inl rfl⟩⟩
  · obtain ⟨entry, hentry, rfl⟩ := Option.map_eq_some_iff.mp (hdropped.symm.trans hget)
    exact ⟨entry, hentry, ⟨rfl, rfl, rfl, rfl, .inr rfl⟩⟩

theorem Forgets.same_after (h : Forgets before after) {entry : AcceptedEnvelope}
    (hget : before.get? envelopeId = some entry) :
    ∃ accepted, after.get? envelopeId = some accepted ∧ entry.Same accepted := by
  rcases h.get envelopeId with hsame | hdropped
  · exact ⟨entry, hsame.trans hget, ⟨rfl, rfl, rfl, rfl, .inl rfl⟩⟩
  · refine ⟨entry.dropped, hdropped.trans ?_, ⟨rfl, rfl, rfl, rfl, .inr rfl⟩⟩
    rw [hget]
    rfl

namespace Holdings

variable {digests : MemoryDigests} {policy : MemoryMailboxPolicy} {before after h : Holdings}

/-- Identifiers are distinct, every copy is a copy of an entry, and an entry has at most two
copies for each of its attempts. -/
structure Counted (policy : MemoryMailboxPolicy) (h : Holdings) : Prop where
  size : h.accepted.size ≤ policy.maximumEnvelopesPerMailbox
  distinct : ∀ {id id' : Id16} {a a' : AcceptedEnvelope}, h.accepted.get? id = some a →
    h.accepted.get? id' = some a' → a.deliveryId = a'.deliveryId → id = id'
  known : ∀ d ∈ h.copies, ∃ id a, h.accepted.get? id = some a ∧ a.deliveryId = d
  copies : ∀ {id : Id16} {a : AcceptedEnvelope}, h.accepted.get? id = some a →
    h.copies.count a.deliveryId ≤ 2 * a.attempts
  attempts : ∀ {id : Id16} {a : AcceptedEnvelope}, h.accepted.get? id = some a →
    a.attempts ≤ policy.maximumDeliveryAttemptsPerEnvelope

theorem Counted.empty (policy : MemoryMailboxPolicy) : Counted policy .empty where
  size := Nat.zero_le _
  distinct hget := by simp [Holdings.empty] at hget
  known d hd := by simp [Holdings.empty] at hd
  copies hget := by simp [Holdings.empty] at hget
  attempts hget := by simp [Holdings.empty] at hget

theorem Counted.narrowed (hbefore : Counted policy before)
    (haccepted : Forgets before.accepted after.accepted)
    (hcopies : after.copies.Subperm before.copies) : Counted policy after where
  size := haccepted.size.le.trans hbefore.size
  distinct hget hget' heq := by
    obtain ⟨entry, hentry, hsame⟩ := haccepted.same hget
    obtain ⟨entry', hentry', hsame'⟩ := haccepted.same hget'
    exact hbefore.distinct hentry hentry'
      (hsame.deliveryId.symm.trans (heq.trans hsame'.deliveryId))
  known d hd := by
    obtain ⟨id, entry, hentry, rfl⟩ := hbefore.known d (hcopies.subset hd)
    obtain ⟨accepted, hget, hsame⟩ := haccepted.same_after hentry
    exact ⟨id, accepted, hget, hsame.deliveryId⟩
  copies hget := by
    obtain ⟨entry, hentry, hsame⟩ := haccepted.same hget
    rw [hsame.deliveryId, hsame.attempts]
    exact (hcopies.count_le _).trans (hbefore.copies hentry)
  attempts hget := by
    obtain ⟨entry, hentry, hsame⟩ := haccepted.same hget
    rw [hsame.attempts]
    exact hbefore.attempts hentry

variable {copies : List DeliveryId} {count : Nat} {envelopeId : Id16} {accepted : AcceptedEnvelope}

theorem count_added {copies' : List DeliveryId} {d : DeliveryId}
    (h : copies'.Perm (copies ++ List.replicate count d)) (d' : DeliveryId) :
    copies'.count d' = copies.count d' + if d = d' then count else 0 := by
  rw [h.count_eq, List.count_append, List.count_replicate]
  simp only [beq_iff_eq]

section

variable (hbefore : Counted policy before)
include hbefore

/-- Once more for an entry: its copies and its allowance grow together. -/
theorem Counted.again (hget : before.accepted.get? envelopeId = some accepted)
    (hleft : accepted.attempts < policy.maximumDeliveryAttemptsPerEnvelope) (hcount : count ≤ 2)
    (hcopies : copies.Perm (before.copies ++ List.replicate count accepted.deliveryId)) :
    Counted policy ⟨before.accepted.modify envelopeId AcceptedEnvelope.attemptedAgain, copies⟩ := by
  -- An entry afterwards is the one attempted again, or one from before.
  have hentries : ∀ {id : Id16} {a : AcceptedEnvelope},
      (before.accepted.modify envelopeId AcceptedEnvelope.attemptedAgain).get? id = some a →
      (id = envelopeId ∧ a = accepted.attemptedAgain) ∨
        (id ≠ envelopeId ∧ before.accepted.get? id = some a) := by
    intro id a ha
    by_cases hid : id = envelopeId
    · subst hid
      rw [OrderedMap.get?_modify_self, hget] at ha
      exact .inl ⟨rfl, (Option.some.inj ha).symm⟩
    · rw [OrderedMap.get?_modify_of_ne _ _ hid] at ha
      exact .inr ⟨hid, ha⟩
  have hid_of : ∀ {id : Id16} {a : AcceptedEnvelope},
      (before.accepted.modify envelopeId AcceptedEnvelope.attemptedAgain).get? id = some a →
      ∃ b, before.accepted.get? id = some b ∧ b.deliveryId = a.deliveryId := by
    intro id a ha
    rcases hentries ha with ⟨rfl, rfl⟩ | ⟨_, ha⟩
    · exact ⟨accepted, hget, rfl⟩
    · exact ⟨a, ha, rfl⟩
  refine ⟨(OrderedMap.size_modify _ _ _).le.trans hbefore.size, ?_, ?_, ?_, ?_⟩
  · intro id id' a a' ha ha' heq
    obtain ⟨b, hb, hba⟩ := hid_of ha
    obtain ⟨b', hb', hba'⟩ := hid_of ha'
    exact hbefore.distinct hb hb' (hba.trans (heq.trans hba'.symm))
  · intro d hd
    have hknown : ∃ id b, before.accepted.get? id = some b ∧ b.deliveryId = d := by
      rcases List.mem_append.mp (hcopies.subset hd) with hd | hd
      · exact hbefore.known d hd
      · exact ⟨envelopeId, accepted, hget, (List.eq_of_mem_replicate hd).symm⟩
    obtain ⟨id, b, hb, rfl⟩ := hknown
    by_cases hid : id = envelopeId
    · subst hid
      cases hget.symm.trans hb
      exact ⟨id, accepted.attemptedAgain, by simp [hget], rfl⟩
    · exact ⟨id, b, by simp [hid, hb], rfl⟩
  · intro id a ha
    rcases hentries ha with ⟨rfl, rfl⟩ | ⟨hid, ha⟩
    · have hcopied := hbefore.copies hget
      rw [count_added hcopies, AcceptedEnvelope.attemptedAgain]
      simp only [if_true]
      omega
    · have hne : accepted.deliveryId ≠ a.deliveryId := fun heq =>
        hid (hbefore.distinct ha hget heq.symm)
      rw [count_added hcopies, if_neg hne]
      exact hbefore.copies ha
  · intro id a ha
    rcases hentries ha with ⟨rfl, rfl⟩ | ⟨_, ha⟩
    · exact hleft
    · exact hbefore.attempts ha

/-- A new entry has an identifier no copy has yet. -/
theorem Counted.first (hfresh : before.accepted.get? envelopeId = none)
    (hroom : before.accepted.size < policy.maximumEnvelopesPerMailbox)
    (hunused : ∀ id a, before.accepted.get? id = some a → a.deliveryId ≠ accepted.deliveryId)
    (hattempts : accepted.attempts = 1) (hcount : count ≤ 2)
    (hcopies : copies.Perm (before.copies ++ List.replicate count accepted.deliveryId)) :
    Counted policy ⟨before.accepted.insert envelopeId accepted, copies⟩ := by
  have hentries : ∀ {id : Id16} {a : AcceptedEnvelope},
      (before.accepted.insert envelopeId accepted).get? id = some a →
      (id = envelopeId ∧ a = accepted) ∨ before.accepted.get? id = some a := by
    intro id a ha
    rw [OrderedMap.get?_insert] at ha
    split_ifs at ha with hid
    · exact .inl ⟨hid, (Option.some.inj ha).symm⟩
    · exact .inr ha
  have hnone : before.copies.count accepted.deliveryId = 0 := by
    refine List.count_eq_zero.mpr fun hmem => ?_
    obtain ⟨id, a, ha, heq⟩ := hbefore.known _ hmem
    exact hunused id a ha heq
  refine ⟨(OrderedMap.size_insert_le _ _ _).trans hroom, ?_, ?_, ?_, ?_⟩
  · intro id id' a a' ha ha' heq
    rcases hentries ha with ⟨rfl, rfl⟩ | hold <;> rcases hentries ha' with ⟨rfl, rfl⟩ | hold'
    · rfl
    · exact absurd heq.symm (hunused id' a' hold')
    · exact absurd heq (hunused id a hold)
    · exact hbefore.distinct hold hold' heq
  · intro d hd
    rcases List.mem_append.mp (hcopies.subset hd) with hd | hd
    · obtain ⟨id, a, ha, hdelivery⟩ := hbefore.known d hd
      have hid : id ≠ envelopeId := by
        rintro rfl
        cases hfresh.symm.trans ha
      exact ⟨id, a, by simp [hid, ha], hdelivery⟩
    · exact ⟨envelopeId, accepted, by simp, (List.eq_of_mem_replicate hd).symm⟩
  · intro id a ha
    rcases hentries ha with ⟨rfl, rfl⟩ | ha
    · rw [count_added hcopies, if_pos rfl]
      omega
    · rw [count_added hcopies, if_neg (Ne.symm (hunused id a ha))]
      exact hbefore.copies ha
  · intro id a ha
    rcases hentries ha with ⟨rfl, rfl⟩ | ha
    · rw [hattempts]
      exact policy.bounded.2.2.2.1
    · exact hbefore.attempts ha

theorem Counted.step (hstep : Step digests policy before after) : Counted policy after := by
  cases hstep with
  | narrowed haccepted hcopies => exact hbefore.narrowed haccepted hcopies
  | again hget _ hleft hcount hcopies => exact hbefore.again hget hleft hcount hcopies
  | first hfresh _ _ hroom hunused hcount hcopies =>
    exact hbefore.first hfresh hroom hunused rfl hcount hcopies

end

/-! ## Room for one more attempt -/

/-- The copies of one entry on their own, and those of all others at their largest. -/
theorem Counted.length_le (hcounted : Counted policy h)
    (hget : h.accepted.get? envelopeId = some accepted) :
    h.copies.length ≤ h.copies.count accepted.deliveryId + (policy.maximumEnvelopesPerMailbox - 1) *
        (2 * policy.maximumDeliveryAttemptsPerEnvelope) := by
  have hsum := OrderedMap.length_le_sum_count hcounted.known
  rw [OrderedMap.sum_erase hget] at hsum
  have hothers : ((h.accepted.erase envelopeId).sum fun _ a => h.copies.count a.deliveryId) ≤
      (h.accepted.erase envelopeId).size * (2 * policy.maximumDeliveryAttemptsPerEnvelope) := by
    refine OrderedMap.sum_le_size_mul fun id a ha => ?_
    have hid : id ≠ envelopeId := by
      rintro rfl
      simp at ha
    rw [OrderedMap.get?_erase_of_ne _ hid] at ha
    exact (hcounted.copies ha).trans (Nat.mul_le_mul_left 2 (hcounted.attempts ha))
  have hsize : (h.accepted.erase envelopeId).size ≤ policy.maximumEnvelopesPerMailbox - 1 := by
    have herase := OrderedMap.size_erase hget
    have hbound := hcounted.size
    omega
  have hmul := Nat.mul_le_mul_right (2 * policy.maximumDeliveryAttemptsPerEnvelope) hsize
  omega

theorem scheduled_eq (policy : MemoryMailboxPolicy) : policy.maximumScheduledDeliveriesPerMailbox =
      (policy.maximumEnvelopesPerMailbox - 1) * (2 * policy.maximumDeliveryAttemptsPerEnvelope) +
        2 * policy.maximumDeliveryAttemptsPerEnvelope := by
  have hpositive : 0 < policy.maximumEnvelopesPerMailbox := policy.bounded.2.2.1.1
  obtain ⟨n, hn⟩ : ∃ n, policy.maximumEnvelopesPerMailbox = n + 1 := ⟨_, (Nat.succ_pred_eq_of_pos
    hpositive).symm⟩
  rw [policy.scheduled, hn, Nat.add_sub_cancel]
  ring

section

variable (hcounted : Counted policy h) (hget : h.accepted.get? envelopeId = some accepted)
include hcounted hget

/-- An entry with an attempt left has room for it. -/
theorem Counted.room_again (hleft : accepted.attempts < policy.maximumDeliveryAttemptsPerEnvelope) :
    h.copies.length + 2 ≤ policy.maximumScheduledDeliveriesPerMailbox := by
  have hlength := hcounted.length_le hget
  have hcopies := hcounted.copies hget
  rw [scheduled_eq]
  omega

theorem Counted.room_gone (hgone : accepted.deliveryId ∉ h.copies) :
    h.copies.length + 2 ≤ policy.maximumScheduledDeliveriesPerMailbox := by
  have hlength := hcounted.length_le hget
  have hpositive : 0 < policy.maximumDeliveryAttemptsPerEnvelope := policy.bounded.2.2.2.1
  rw [List.count_eq_zero.mpr hgone] at hlength
  rw [scheduled_eq]
  omega

end

/-- A mailbox that is not full of entries has room for another. -/
theorem Counted.room_first (hcounted : Counted policy h)
    (hroom : h.accepted.size < policy.maximumEnvelopesPerMailbox) :
    h.copies.length + 2 ≤ policy.maximumScheduledDeliveriesPerMailbox := by
  have hsum := OrderedMap.length_le_sum_count hcounted.known
  have hall : (h.accepted.sum fun _ a => h.copies.count a.deliveryId) ≤
      h.accepted.size * (2 * policy.maximumDeliveryAttemptsPerEnvelope) :=
    OrderedMap.sum_le_size_mul fun id a ha =>
      (hcounted.copies ha).trans (Nat.mul_le_mul_left 2 (hcounted.attempts ha))
  have hsize : h.accepted.size ≤ policy.maximumEnvelopesPerMailbox - 1 := by omega
  have hmul := Nat.mul_le_mul_right (2 * policy.maximumDeliveryAttemptsPerEnvelope) hsize
  have hpositive : 0 < policy.maximumDeliveryAttemptsPerEnvelope := policy.bounded.2.2.2.1
  rw [scheduled_eq]
  omega

end Holdings

end SessionChat.MemoryTransport
