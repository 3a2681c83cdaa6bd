import SessionChat.MemoryTransport.Entries

/-!
# Acknowledged deliveries (`crates/transport-memory/src/lib.rs`)

An acknowledgement deletes the envelope of a delivery and every copy of it, in the visible
queue, in the held queue and among the stale replays. None of them comes back while the
mailbox lives, unless a stale replay of the delivery is injected again.
-/

set_option autoImplicit false

namespace SessionChat.MemoryTransport

open Collections Control Transition Transport
  Mailbox Mailbox.DeterministicLifecycleProvider Storage

/-! ## What an acknowledgement deletes -/

namespace MemoryMailboxRecord

variable {record record' : MemoryMailboxRecord} {deliveryId : DeliveryId}

/-- No two entries have the same delivery identifier. -/
def Distinct (record : MemoryMailboxRecord) : Prop :=
  ∀ {id id' : Id16} {a a' : AcceptedEnvelope}, record.accepted.get? id = some a →
    record.accepted.get? id' = some a' → a.deliveryId = a'.deliveryId → id = id'

def Gone (record : MemoryMailboxRecord) (deliveryId : DeliveryId) : Prop :=
  ∀ {id : Id16} {a : AcceptedEnvelope}, record.accepted.get? id = some a →
    a.deliveryId = deliveryId → a.envelope = none

theorem Narrows.distinct (h : record.Narrows record') (hdistinct : record.Distinct) :
    record'.Distinct := by
  intro id id' a a' ha ha' heq
  obtain ⟨entry, hentry, hsame⟩ := h.accepted.same ha
  obtain ⟨entry', hentry', hsame'⟩ := h.accepted.same ha'
  exact hdistinct hentry hentry' (hsame.deliveryId.symm.trans (heq.trans hsame'.deliveryId))

theorem Narrows.gone (h : record.Narrows record') (hgone : record.Gone deliveryId) :
    record'.Gone deliveryId := by
  intro id a ha hid
  obtain ⟨entry, hentry, hsame⟩ := h.accepted.same ha
  rcases hsame.envelope with henvelope | henvelope
  · rw [henvelope]
    exact hgone hentry (hsame.deliveryId.symm.trans hid)
  · exact henvelope

theorem gone_dropEnvelope (hdistinct : record.Distinct) (deliveryId : DeliveryId) :
    (record.dropEnvelope deliveryId).Gone deliveryId := by
  intro id a ha hid
  unfold dropEnvelope at ha
  split at ha
  · rename_i hfind
    exact absurd hid (find_eq_none hfind ha)
  · rename_i found entry hfind
    obtain ⟨hentry, hdelivery⟩ := find_eq_some hfind
    by_cases hfound : id = found
    · subst hfound
      rw [OrderedMap.get?_modify_self, hentry] at ha
      cases ha
      rfl
    · rw [OrderedMap.get?_modify_of_ne _ _ hfound] at ha
      exact absurd (hdistinct ha hentry (hid.trans hdelivery.symm)) hfound

/-- Every delivery the loop names is deleted, whatever the other rounds do. -/
theorem foldl_discard (hdistinct : record.Distinct) {deliveryIds : List DeliveryId}
    (hmem : deliveryId ∈ deliveryIds) :
    (deliveryIds.foldl (fun record id => (record.dropEnvelope id).withdraw id) record).Gone
        deliveryId ∧ deliveryId ∉
        (deliveryIds.foldl (fun record id => (record.dropEnvelope id).withdraw id)
          record).visible := by
  induction deliveryIds generalizing record with
  | nil => cases hmem
  | cons id ids ih =>
    have hfirst := Narrows.discardOne record id
    rcases List.mem_cons.mp hmem with rfl | hmem
    · have hrest := Narrows.foldl Narrows.discardOne
        ((record.dropEnvelope deliveryId).withdraw deliveryId) ids
      refine ⟨hrest.gone (gone_dropEnvelope hdistinct deliveryId), fun hvisible => ?_⟩
      simpa [withdraw] using hrest.visible.subset hvisible
    · exact ih (hfirst.distinct hdistinct) hmem

end MemoryMailboxRecord

namespace DeterministicMemoryTransport

variable {digests : MemoryDigests} {s s' : DeterministicMemoryTransport} {c : MemoryCall}
  {w w' : MemoryWorld} {mailboxId envelopeId : Id16} {deliveryId : DeliveryId}

/-- The call acknowledges the delivery, by either interface; a result lost after the commit
is recognised by the loss that it has consumed. -/
def Acknowledges (digests : MemoryDigests) (s : DeterministicMemoryTransport) (c : MemoryCall)
    (mailboxId : Id16) (deliveryId : DeliveryId) : Prop :=
  match c with
  | .acknowledge authority id now =>
      authority.mailboxId = mailboxId ∧ id = deliveryId ∧
        (s.acknowledge digests authority id now).2 = .ok ()
  | .dispatchAcknowledge authority request control =>
      authority.mailboxId = mailboxId ∧ deliveryId ∈ request.deliveryIds.ids ∧
        ((s.dispatchAcknowledge digests authority request control).2 = .ok () ∨
          s.acknowledgementLoss = some .afterCommit ∧
            (s.dispatchAcknowledge digests authority request control).1.acknowledgementLoss = none)
  | _ => False

/-- Both interfaces come down to the same deletion. -/
theorem discard_of_acknowledges (h : Acknowledges digests s c mailboxId deliveryId) :
    ∃ (loss : Option AcknowledgementLoss) (record : MemoryMailboxRecord) (ids : List DeliveryId),
      s.mailboxes.get? mailboxId = some record ∧ deliveryId ∈ ids ∧ (call digests s c).1 =
        { s with acknowledgementLoss := loss }.discard mailboxId record ids := by
  cases c with
  | acknowledge authority id now =>
    obtain ⟨rfl, rfl, hok⟩ := h
    unfold acknowledge at hok
    split_ifs at hok with hexpired
    split at hok
    · cases hok
    · rename_i record hunlock
      split_ifs at hok with hunknown
      refine ⟨s.acknowledgementLoss, record, [id], (unlock_eq_some.mp hunlock).1,
        List.mem_singleton_self _, ?_⟩
      simp [call, acknowledge, hexpired, hunlock, hunknown]
  | dispatchAcknowledge authority request control =>
    obtain ⟨rfl, hmem, hcommit⟩ := h
    rcases hcheck : s.checkDispatchAcknowledge digests authority request control with
      error | record
    · have hrefused : s.dispatchAcknowledge digests authority request control =
          (s, .error error) := by
        simp only [dispatchAcknowledge, hcheck]
      rw [hrefused] at hcommit
      rcases hcommit with hok | ⟨harmed, hconsumed⟩
      · cases hok
      · cases harmed.symm.trans hconsumed
    · refine ⟨none, record, request.deliveryIds.ids,
        (unlock_eq_some.mp (of_checkDispatchAcknowledge hcheck)).1, hmem, ?_⟩
      simp only [call, Prod.map_fst, id_eq]
      rcases hloss : s.acknowledgementLoss with _ | _ | _
      · simp only [dispatchAcknowledge, hcheck, hloss]
      · -- The result was lost before the commit, so this is no acknowledgement.
        simp [dispatchAcknowledge, hcheck, hloss] at hcommit
      · simp only [dispatchAcknowledge, hcheck, hloss]
  | _ => exact h.elim

theorem continues_of_acknowledges (h : Acknowledges digests w.state c mailboxId deliveryId)
    {other : Id16} : Continues digests other w c := by
  intro hopens
  cases c with
  | acknowledge | dispatchAcknowledge => cases hopens
  | _ => exact h.elim

variable {accepted : AcceptedEnvelope}

/-- A copy of the delivery waits in neither queue, and its envelope is gone. -/
theorem settled_of_acknowledges (hcounted : s.Counted)
    (h : Acknowledges digests s c mailboxId deliveryId)
    (hentry : (s.holdings mailboxId).accepted.get? envelopeId = some accepted)
    (hid : accepted.deliveryId = deliveryId) :
    (call digests s c).1.Settled mailboxId envelopeId deliveryId := by
  obtain ⟨loss, record, ids, hget, hmem, hcall⟩ := discard_of_acknowledges h
  have hholdings := hcounted mailboxId
  rw [holdings_of_get? hget] at hholdings hentry
  have hdistinct : record.Distinct := fun ha ha' heq => hholdings.distinct ha ha' heq
  obtain ⟨hgone, hwithdrawn⟩ := MemoryMailboxRecord.foldl_discard hdistinct hmem
  have hnarrows := MemoryMailboxRecord.Narrows.foldl .discardOne record ids
  intro record' hget'
  rw [hcall] at hget' ⊢
  cases (get?_withMailbox_self hget).symm.trans hget'
  obtain ⟨accepted', hentry', hsame⟩ := hnarrows.accepted.same_after hentry
  have hid' := hsame.deliveryId.trans hid
  refine ⟨⟨accepted', hentry', hid', hgone hentry' hid'⟩, fun hcopy => ?_⟩
  rcases List.mem_append.mp hcopy with hvisible | hheld
  · exact hwithdrawn hvisible
  · simp [heldFor, discard, hmem] at hheld

/-! ## What the two read interfaces can return -/

variable {now maxEncodedBytes : Nat} {record : MemoryMailboxRecord}
  {progress progress' : PollProgress} {item : ReceivedCanonicalEnvelope}

theorem mem_visible_of_receiveFront {fuel : Nat} {envelope : Envelope}
    (h : (receiveFront now fuel record).2 = some (deliveryId, envelope)) :
    deliveryId ∈ record.visible := by
  induction fuel generalizing record with
  | zero => cases h
  | succ fuel ih =>
    unfold receiveFront at h
    split at h
    · cases h
    · rename_i front rest hvisible
      have hrest : ∀ d ∈ rest, d ∈ record.visible := fun d hd => by
        rw [hvisible]
        exact List.mem_cons_of_mem front hd
      split at h
      · exact hrest _ (ih h)
      · split at h
        · exact hrest _ (ih h)
        · split_ifs at h
          · have hnarrows := MemoryMailboxRecord.Narrows.discardOne record front
            exact hnarrows.visible.subset (ih h)
          · cases h
            rw [hvisible]
            exact List.mem_cons_self

theorem PollProgress.mem_of_pushWithin {next : PollProgress} {canonical : CanonicalEnvelope}
    (h : progress.pushWithin maxEncodedBytes deliveryId canonical = .ok (some next))
    (hitem : item ∈ next.items) : item ∈ progress.items ∨ item.deliveryId = deliveryId := by
  unfold pushWithin at h
  split_ifs at h
  · cases h
  · cases h
    rcases List.mem_append.mp hitem with hold | hnew
    · exact .inl hold
    · cases List.mem_singleton.mp hnew
      exact .inr rfl

theorem mem_of_collectVisible {ids : List DeliveryId}
    (h : collectVisible record now maxEncodedBytes ids progress = .ok progress')
    (hitem : item ∈ progress'.items) : item ∈ progress.items ∨ item.deliveryId ∈ ids := by
  induction ids generalizing progress with
  | nil =>
    cases h
    exact .inl hitem
  | cons front rest ih =>
    have hskip : collectVisible record now maxEncodedBytes rest progress = .ok progress' →
        item ∈ progress.items ∨ item.deliveryId ∈ front :: rest := fun hcollect =>
      (ih hcollect).imp_right (List.mem_cons_of_mem front)
    unfold collectVisible at h
    split at h
    · exact hskip h
    · split at h
      · exact hskip h
      · split_ifs at h
        · exact hskip h
        · exact (ih h).imp_right (List.mem_cons_of_mem front)
        · split at h
          · cases h
          · split at h
            · cases h
            · cases h
              exact .inl hitem
            · rename_i next hpush
              rcases ih h with hpushed | hrest
              · rcases PollProgress.mem_of_pushWithin hpush hpushed with hold | hnew
                · exact .inl hold
                · exact .inr (hnew ▸ List.mem_cons_self)
              · exact .inr (List.mem_cons_of_mem front hrest)

theorem mem_of_collectStale {maxEnvelopes : Nat} {replays : List StaleReplay}
    (h : collectStale mailboxId now maxEnvelopes maxEncodedBytes replays progress = .ok progress')
    (hitem : item ∈ progress'.items) : item ∈ progress.items ∨
      ∃ replay ∈ replays, replay.mailboxId = mailboxId ∧ replay.deliveryId = item.deliveryId := by
  induction replays generalizing progress with
  | nil =>
    cases h
    exact .inl hitem
  | cons front rest ih =>
    have hskip : collectStale mailboxId now maxEnvelopes maxEncodedBytes rest progress =
        .ok progress' → item ∈ progress.items ∨ ∃ replay ∈ front :: rest,
          replay.mailboxId = mailboxId ∧ replay.deliveryId = item.deliveryId := by
      intro hcollect
      refine (ih hcollect).imp_right ?_
      rintro ⟨replay, hreplay, hmatch⟩
      exact ⟨replay, List.mem_cons_of_mem front hreplay, hmatch⟩
    unfold collectStale at h
    split_ifs at h with hother
    · exact hskip h
    · cases h
      exact .inl hitem
    · exact hskip h
    · split at h
      · cases h
      · split at h
        · split_ifs at h
          exact hskip h
        · split at h
          · cases h
          · cases h
            exact .inl hitem
          · rename_i next hpush
            rcases ih h with hpushed | ⟨replay, hreplay, hmatch⟩
            · rcases PollProgress.mem_of_pushWithin hpush hpushed with hold | hnew
              · exact .inl hold
              · exact .inr ⟨front, List.mem_cons_self, not_not.mp hother, hnew.symm⟩
            · exact .inr ⟨replay, List.mem_cons_of_mem front hreplay, hmatch⟩

/-- A poll returns only deliveries that are visible or that a stale replay waits for. -/
theorem mem_of_gather {finalNow : Nat} {request : PollRequest} {control : DispatchControl}
    {batch : ReceiveBatch} {expiredIds : List DeliveryId}
    (h : s.gather mailboxId record now request control = .ok (batch, expiredIds, finalNow))
    (hitem : item ∈ batch.items) :
    item.deliveryId ∈ record.visible ∨ s.StaleVisible mailboxId item.deliveryId := by
  obtain ⟨visible, hvisible, h⟩ := bind_eq_ok.mp h
  obtain ⟨progress, hprogress, h⟩ := bind_eq_ok.mp h
  obtain ⟨last, -, h⟩ := bind_eq_ok.mp h
  obtain ⟨made, hmade, h⟩ := bind_eq_ok.mp h
  cases h
  have hitems := (ReceiveBatch.new_ok (orElse_eq_ok.mp hmade)).1
  rw [hitems] at hitem
  have hcollected : item ∈ progress.items := (List.mem_filter.mp hitem).1
  have hfrom : item ∈ visible.items ∨ s.StaleVisible mailboxId item.deliveryId := by
    unfold collectReplays at hprogress
    split_ifs at hprogress
    · exact mem_of_collectStale hprogress hcollected
    · cases hprogress
      exact .inl hcollected
  refine hfrom.imp_left fun hmem => ?_
  rcases mem_of_collectVisible hvisible hmem with hstart | htaken
  · cases hstart
  · exact List.mem_of_mem_take htaken

/-! ## A sample run -/

def sampleDigests : MemoryDigests := ⟨id, id, id, fun _ => 0⟩

theorem samplePolicy_bounds : PolicyBounds 300 1 2 2 := by decide

def samplePolicy : MemoryMailboxPolicy := ⟨300, 1, 2, 2, 8, samplePolicy_bounds, rfl⟩

theorem sampleInstance_ne_zero : (9 : Id16) ≠ 0 := by decide

def sampleInstance : Mailbox.NonZero 128 := ⟨9, sampleInstance_ne_zero⟩

theorem sampleDelivery_ne_zero : (5 : Id16) ≠ 0 := by decide

def sampleDelivery : DeliveryId := ⟨5, sampleDelivery_ne_zero⟩

theorem sampleEnvelope_valid : (Protocol.OpaqueEnvelope.mk 7 150 []).Valid :=
  ⟨by decide, by decide⟩

def sampleEnvelope : Envelope := ⟨⟨7, 150, []⟩, sampleEnvelope_valid⟩

def sampleAuthority (secret : BitVec 256) : MemoryAuthority := ⟨9, 1, secret, 200⟩

/-- A mailbox with two visible copies of one delivery, and an acknowledgement whose result will
be lost. -/
def sampleCalls : List MemoryCall :=
  [.createMailbox 200 100 ⟨some 1, some 11, some 12, some 13⟩, .queueAction .duplicate,
    .deposit ⟨sampleAuthority 11⟩ sampleEnvelope 110 (some 5),
    .loseNextAcknowledgement .afterCommit]

def sampleWorld : MemoryWorld :=
  (World.mk (fresh samplePolicy sampleInstance) []).afterAll (call sampleDigests) sampleCalls

theorem sampleBudget_positive : 0 < 1000 ∧ 0 < 1 := by decide

def sampleBudget : OperationBudget := ⟨1000, 1000, 1, sampleBudget_positive⟩

def sampleControl : DispatchControl := ⟨⟨false, 1, some 120⟩, ⟨false, 2, some 121⟩⟩

theorem sampleIds_bounded : [sampleDelivery] ≠ [] ∧
    [sampleDelivery].length ≤ Mailbox.maxAcknowledgementIds ∧ [sampleDelivery].Nodup := by
  decide

def sampleAcknowledgement : MemoryCall :=
  .dispatchAcknowledge ⟨sampleAuthority 13⟩ ⟨⟨[sampleDelivery], sampleIds_bounded⟩, sampleBudget⟩
    sampleControl

/-! ## Gone for good -/

/-- The call neither opens another mailbox under the identifier nor injects a stale replay of
the delivery. -/
def Undisturbed (digests : MemoryDigests) (mailboxId : Id16) (deliveryId : DeliveryId)
    (w : MemoryWorld) (c : MemoryCall) : Prop :=
  Continues digests mailboxId w c ∧ c.replays? ≠ some (mailboxId, deliveryId)
deriving Decidable

theorem Effect.staleVisible {reply : MemoryReply} (h : Effect digests s c reply s')
    (hstale : s'.StaleVisible mailboxId deliveryId) :
    s.StaleVisible mailboxId deliveryId ∨ c.replays? = some (mailboxId, deliveryId) := by
  obtain ⟨replay, hreplay, rfl, rfl⟩ := hstale
  cases h with
  | narrowed h => exact .inl ⟨replay, h.staleReplays.subset hreplay, rfl, rfl⟩
  | replayed =>
    rcases List.mem_append.mp hreplay with hold | hnew
    · exact .inl ⟨replay, hold, rfl, rfl⟩
    · cases List.mem_singleton.mp hnew
      exact .inr rfl
  | created _ _ _ => exact .inl ⟨replay, List.mem_of_mem_filter hreplay, rfl, rfl⟩
  | released _ _ _ | attempted _ _ => exact .inl ⟨replay, hreplay, rfl, rfl⟩

theorem not_staleVisible_of_acknowledges (h : Acknowledges digests s c mailboxId deliveryId) :
    ¬(call digests s c).1.StaleVisible mailboxId deliveryId := by
  obtain ⟨loss, record, ids, -, hmem, hcall⟩ := discard_of_acknowledges h
  rw [hcall]
  rintro ⟨replay, hreplay, rfl, rfl⟩
  simp [discard, hmem] at hreplay

theorem not_staleVisible_of_leads
    (h : Leads (call digests) (Undisturbed digests mailboxId deliveryId) w w')
    (hw : ¬w.state.StaleVisible mailboxId deliveryId) :
    ¬w'.state.StaleVisible mailboxId deliveryId := by
  refine h.invariant (I := fun w => ¬w.state.StaleVisible mailboxId deliveryId) ?_ hw
  intro v c hc hv hstale
  rcases (call_effect v.state c).staleVisible hstale with hbefore | hreplays
  · exact hv hbefore
  · exact hc.2 hreplays

/-- Neither interface returns the delivery, no copy of it is held, and the entry of its
envelope stays without the envelope. -/
structure NeverAgain (digests : MemoryDigests) (s : DeterministicMemoryTransport)
    (mailboxId envelopeId : Id16) (deliveryId : DeliveryId) : Prop where
  received : ∀ authority now envelope, authority.mailboxId = mailboxId →
    (s.receive digests authority now).2 ≠ .ok (some (deliveryId, envelope))
  polled : ∀ authority request control batch, authority.mailboxId = mailboxId →
    (s.poll digests authority request control).2 = .ok batch →
    deliveryId ∉ batch.items.map ReceivedCanonicalEnvelope.deliveryId
  released : ∀ index : Nat, s.held[index]? ≠ some (mailboxId, deliveryId)
  stored : ∀ record, s.mailboxes.get? mailboxId = some record →
    ∃ accepted, record.accepted.get? envelopeId = some accepted ∧
      accepted.deliveryId = deliveryId ∧ accepted.envelope = none
  unnamed : ∀ record id accepted, s.mailboxes.get? mailboxId = some record →
    record.accepted.get? id = some accepted → accepted.deliveryId = deliveryId → id = envelopeId

theorem neverAgain_of_settled (hcounted : s.Counted)
    (hsettled : s.Settled mailboxId envelopeId deliveryId)
    (hstale : ¬s.StaleVisible mailboxId deliveryId) :
    NeverAgain digests s mailboxId envelopeId deliveryId where
  received authority now envelope hmailbox hreceived := by
    unfold receive at hreceived
    split_ifs at hreceived
    split at hreceived
    · cases hreceived
    · rename_i record hunlock
      have hget := (unlock_eq_some.mp hunlock).1
      rw [hmailbox] at hget
      have hvisible := mem_visible_of_receiveFront (Except.ok.inj hreceived)
      exact (hsettled record hget).2 (List.mem_append_left _ hvisible)
  polled authority request control batch hmailbox hpolled hmem := by
    unfold poll at hpolled
    split at hpolled
    · cases hpolled
    · rename_i record now hcheck
      have hget := (unlock_eq_some.mp (of_checkPoll hcheck).1).1
      rw [hmailbox] at hget
      split_ifs at hpolled
      split at hpolled
      · cases hpolled
      · rename_i hgather
        cases hpolled
        obtain ⟨item, hitem, rfl⟩ := List.mem_map.mp hmem
        rcases mem_of_gather hgather hitem with hvisible | hreplayed
        · exact (hsettled record hget).2 (List.mem_append_left _ hvisible)
        · rw [hmailbox] at hreplayed
          exact hstale hreplayed
  released index hheld := by
    have hfor : deliveryId ∈ s.heldFor mailboxId :=
      List.mem_map.mpr ⟨_, List.mem_filter.mpr ⟨List.mem_of_getElem? hheld, by simp⟩, rfl⟩
    rcases hget : s.mailboxes.get? mailboxId with _ | record
    · have hcopies := hcounted.copies_of_absent hget
      rw [holdings_of_absent hget] at hcopies
      exact List.ne_nil_of_mem hfor hcopies
    · exact (hsettled record hget).2 (List.mem_append_right _ hfor)
  stored record hget := (hsettled record hget).1
  unnamed record id accepted hget hentry hid := by
    obtain ⟨⟨settled, hsettledEntry, hsame, -⟩, -⟩ := hsettled record hget
    have hholdings := hcounted mailboxId
    rw [holdings_of_get? hget] at hholdings
    exact hholdings.distinct hentry hsettledEntry (hid.trans hsame.symm)

/-- Whatever calls have been made before and whatever undisturbed calls follow, an
acknowledged delivery is not seen again. -/
theorem acknowledged_never_again (policy : MemoryMailboxPolicy) (id : Mailbox.NonZero 128)
    (before : List MemoryCall)
    (hw : (World.mk (fresh policy id) []).afterAll (call digests) before = w)
    (hacknowledges : Acknowledges digests w.state c mailboxId deliveryId)
    (hentry : (w.state.holdings mailboxId).accepted.get? envelopeId = some accepted)
    (hid : accepted.deliveryId = deliveryId)
    (hlater : Leads (call digests) (Undisturbed digests mailboxId deliveryId)
      (w.after (call digests) c) w') :
    NeverAgain digests w'.state mailboxId envelopeId deliveryId := by
  have hcounted : w.state.Counted := hw ▸ counted_of_calls digests policy id before
  have hafter : (w.after (call digests) c).state.Counted :=
    (call_effect w.state c).counted hcounted
  have hsettled := settled_of_leads (hlater.mono fun _ _ h => h.1) hafter
    (settled_of_acknowledges hcounted hacknowledges hentry hid)
  exact neverAgain_of_settled (counted_of_leads hlater hafter) hsettled
    (not_staleVisible_of_leads hlater (not_staleVisible_of_acknowledges hacknowledges))

theorem acknowledged_never_again_sample : NeverAgain sampleDigests
      ((sampleWorld.after (call sampleDigests) sampleAcknowledgement).afterAll (call sampleDigests)
        [.deposit ⟨sampleAuthority 11⟩ sampleEnvelope 130 (some 6),
          .receive ⟨sampleAuthority 12⟩ 130]).state 1 7 sampleDelivery := by
  have hentry : (sampleWorld.state.holdings 1).accepted.get? 7 =
      some (.first sampleDigests sampleEnvelope sampleEnvelope.val.encodeFields sampleDelivery) :=
    rfl
  exact acknowledged_never_again samplePolicy sampleInstance sampleCalls rfl
    (c := sampleAcknowledgement) ⟨rfl, List.mem_singleton_self _, .inr ⟨rfl, rfl⟩⟩ hentry rfl
    (leads_afterAll (by decide +kernel))

end DeterministicMemoryTransport

end SessionChat.MemoryTransport
