import SessionChat.MemoryTransport.Dispatch

/-!
# What a call does to the memory transport (`crates/transport-memory/src/lib.rs`)

A call removes retained envelopes and copies and nothing else, or it does one of four
further things: it adds a stale replay, opens a mailbox, moves a held copy to the visible
queue, or counts and schedules one delivery attempt.
-/

set_option autoImplicit false

namespace SessionChat.MemoryTransport

open Collections Control Protocol Mailbox
  Mailbox.DeterministicLifecycleProvider Transport Storage

/-! ## Forgotten envelopes -/

/-- Some envelopes are no longer retained; nothing else about the entries differs. -/
structure Forgets (before after : OrderedMap Id16 AcceptedEnvelope) : Prop where
  size : after.size = before.size
  get : ∀ envelopeId, after.get? envelopeId = before.get? envelopeId ∨
    after.get? envelopeId = (before.get? envelopeId).map AcceptedEnvelope.dropped

namespace Forgets

variable {a b c : OrderedMap Id16 AcceptedEnvelope}

theorem refl (a : OrderedMap Id16 AcceptedEnvelope) : Forgets a a :=
  ⟨rfl, fun _ => .inl rfl⟩

theorem trans (h : Forgets a b) (h' : Forgets b c) : Forgets a c := by
  refine ⟨h'.size.trans h.size, fun envelopeId => ?_⟩
  rcases h.get envelopeId with hab | hab <;> rcases h'.get envelopeId with hbc | hbc
  · exact .inl (hbc.trans hab)
  · exact .inr (by rw [hbc, hab])
  · exact .inr (hbc.trans hab)
  · refine .inr ?_
    rw [hbc, hab, Option.map_map]
    rfl

theorem modify (a : OrderedMap Id16 AcceptedEnvelope) (envelopeId : Id16) :
    Forgets a (a.modify envelopeId AcceptedEnvelope.dropped) := by
  refine ⟨OrderedMap.size_modify _ _ _, fun id => ?_⟩
  by_cases hid : id = envelopeId
  · subst hid
    exact .inr (OrderedMap.get?_modify_self _ _ _)
  · exact .inl (OrderedMap.get?_modify_of_ne _ _ hid)

end Forgets

namespace MemoryMailboxRecord

variable {record : MemoryMailboxRecord} {deliveryId : DeliveryId}

theorem find_eq_some {entry : Id16 × AcceptedEnvelope} (h : record.find deliveryId = some entry) :
    record.accepted.get? entry.1 = some entry.2 ∧ entry.2.deliveryId = deliveryId := by
  obtain ⟨hget, hid, -⟩ := OrderedMap.find?_eq_some h
  exact ⟨hget, of_decide_eq_true hid⟩

theorem find_eq_none (h : record.find deliveryId = none) {envelopeId : Id16}
    {accepted : AcceptedEnvelope} (hget : record.accepted.get? envelopeId = some accepted) :
    accepted.deliveryId ≠ deliveryId :=
  of_decide_eq_false (OrderedMap.find?_eq_none.mp h envelopeId accepted hget)

/-- Only retained envelopes and visible copies are removed. -/
structure Narrows (before after : MemoryMailboxRecord) : Prop where
  accepted : Forgets before.accepted after.accepted
  visible : after.visible.Sublist before.visible

namespace Narrows

variable {a b c : MemoryMailboxRecord}

theorem refl (a : MemoryMailboxRecord) : Narrows a a :=
  ⟨.refl _, List.Sublist.refl _⟩

theorem trans (h : Narrows a b) (h' : Narrows b c) : Narrows a c :=
  ⟨h.accepted.trans h'.accepted, h'.visible.trans h.visible⟩

variable (a : MemoryMailboxRecord)

theorem dropEnvelope (deliveryId : DeliveryId) : Narrows a (a.dropEnvelope deliveryId) := by
  unfold MemoryMailboxRecord.dropEnvelope
  split
  · exact refl a
  · exact ⟨.modify _ _, List.Sublist.refl _⟩

theorem withVisible {visible : List DeliveryId} (h : visible.Sublist a.visible) :
    Narrows a { a with visible } :=
  ⟨.refl _, h⟩

theorem discardOne (deliveryId : DeliveryId) :
    Narrows a ((a.dropEnvelope deliveryId).withdraw deliveryId) :=
  (dropEnvelope a deliveryId).trans (withVisible _ List.filter_sublist)

/-- What every round of a loop does, the loop does. -/
theorem foldl {f : MemoryMailboxRecord → DeliveryId → MemoryMailboxRecord}
    (hstep : ∀ record id, Narrows record (f record id)) (a : MemoryMailboxRecord)
    (ids : List DeliveryId) : Narrows a (ids.foldl f a) := by
  induction ids generalizing a with
  | nil => exact refl a
  | cons id ids ih => exact (hstep a id).trans (ih (f a id))

theorem receiveFront (now fuel : Nat) (a : MemoryMailboxRecord) :
    Narrows a (DeterministicMemoryTransport.receiveFront now fuel a).1 := by
  induction fuel generalizing a with
  | zero => exact refl a
  | succ fuel ih =>
    unfold DeterministicMemoryTransport.receiveFront
    split
    · exact refl a
    · rename_i deliveryId rest hvisible
      have hrest : Narrows a { a with visible := rest } := by
        refine withVisible a ?_
        rw [hvisible]
        exact List.sublist_cons_self _ _
      split
      · exact hrest.trans (ih _)
      · split
        · exact hrest.trans (ih _)
        · split_ifs
          · exact (discardOne a deliveryId).trans (ih _)
          · exact refl a

end Narrows

end MemoryMailboxRecord

namespace DeterministicMemoryTransport

variable {digests : MemoryDigests} {s s' : DeterministicMemoryTransport}

/-- Only retained envelopes, copies and replays are removed. -/
structure Narrows (s s' : DeterministicMemoryTransport) : Prop where
  policy : s'.policy = s.policy
  transportInstanceId : s'.transportInstanceId = s.transportInstanceId
  mailbox : ∀ mailboxId, Option.Rel MemoryMailboxRecord.Narrows (s.mailboxes.get? mailboxId)
    (s'.mailboxes.get? mailboxId)
  held : s'.held.Sublist s.held
  staleReplays : s'.staleReplays.Sublist s.staleReplays

/-! ## Lookups -/

variable {record record' : MemoryMailboxRecord} {mailboxId : Id16}

theorem unlock_eq_some {authority : MemoryAuthority} {stored : MemoryMailboxRecord → Bytes32}
    {digest : Bytes32 → Bytes32} : s.unlock authority stored digest = some record ↔
      s.mailboxes.get? authority.mailboxId = some record ∧
        authority.transportInstanceId = s.transportInstanceId ∧
        record.expiresAtUnixSeconds = authority.expiresAtUnixSeconds ∧
        stored record = digest authority.secret := by
  unfold unlock
  split
  · rename_i hget
    simp [hget]
  · rename_i found hget
    constructor
    · intro h
      split_ifs at h with hright
      cases h
      exact ⟨hget, hright⟩
    · rintro ⟨hsame, hright⟩
      cases hget.symm.trans hsame
      exact if_pos hright

theorem get?_withMailbox_self (h : s.mailboxes.get? mailboxId = some record) :
    (s.withMailbox mailboxId record').mailboxes.get? mailboxId = some record' := by
  simp [withMailbox, h]

theorem get?_withMailbox_of_ne {other : Id16} (record' : MemoryMailboxRecord)
    (hne : other ≠ mailboxId) :
    (s.withMailbox mailboxId record').mailboxes.get? other = s.mailboxes.get? other := by
  simp [withMailbox, hne]

/-! ## Removals -/

theorem rel_refl (s : DeterministicMemoryTransport) (mailboxId : Id16) :
    Option.Rel MemoryMailboxRecord.Narrows (s.mailboxes.get? mailboxId)
      (s.mailboxes.get? mailboxId) := by
  rcases s.mailboxes.get? mailboxId with _ | record
  · exact .none
  · exact .some (.refl record)

theorem rel_withMailbox (hget : s.mailboxes.get? mailboxId = some record)
    (h : record.Narrows record') (other : Id16) :
    Option.Rel MemoryMailboxRecord.Narrows (s.mailboxes.get? other)
      ((s.withMailbox mailboxId record').mailboxes.get? other) := by
  by_cases hother : other = mailboxId
  · subst hother
    rw [hget, get?_withMailbox_self hget]
    exact .some h
  · rw [get?_withMailbox_of_ne record' hother]
    exact rel_refl s other

theorem Narrows.refl (s : DeterministicMemoryTransport) : Narrows s s :=
  ⟨rfl, rfl, rel_refl s, List.Sublist.refl _, List.Sublist.refl _⟩

/-- The controls that select faults touch no mailbox and no queue of copies. -/
theorem Narrows.controls (s : DeterministicMemoryTransport) (actions : List DeliveryAction)
    (availability : MemoryAvailability) (corruptNextPoll : Option CorruptPollTarget)
    (acknowledgementLoss : Option AcknowledgementLoss) :
    Narrows s { s with actions, availability, corruptNextPoll, acknowledgementLoss } :=
  ⟨rfl, rfl, rel_refl s, List.Sublist.refl _, List.Sublist.refl _⟩

theorem Narrows.receive (s : DeterministicMemoryTransport) (authority : MemoryReceiveCapability)
    (now : Nat) : Narrows s (s.receive digests authority now).1 := by
  unfold DeterministicMemoryTransport.receive
  split_ifs
  · exact refl s
  · split
    · exact refl s
    · rename_i record hunlock
      have hget := (unlock_eq_some.mp hunlock).1
      exact ⟨rfl, rfl, rel_withMailbox hget (.receiveFront now _ record), List.Sublist.refl _,
        List.Sublist.refl _⟩

theorem Narrows.discard (hget : s.mailboxes.get? mailboxId = some record)
    (deliveryIds : List DeliveryId) : Narrows s (s.discard mailboxId record deliveryIds) :=
  ⟨rfl, rfl, rel_withMailbox hget (.foldl .discardOne record deliveryIds), List.filter_sublist,
    List.filter_sublist⟩

theorem Narrows.sweep (hget : s.mailboxes.get? mailboxId = some record)
    (expiredIds : List DeliveryId) (finalNow : Nat) :
    Narrows s (s.sweep mailboxId record expiredIds finalNow) := by
  have hdropped := MemoryMailboxRecord.Narrows.foldl .dropEnvelope record expiredIds
  exact ⟨rfl, rfl, rel_withMailbox hget (hdropped.trans (.withVisible _ List.filter_sublist)),
    List.Sublist.refl _, List.filter_sublist⟩

end DeterministicMemoryTransport

/-! ## Delivery attempts -/

def DeliveryAction.visibleSlots : DeliveryAction → Nat
  | .deliver => 1
  | .duplicate => 2
  | .drop => 0
  | .hold => 0

def DeliveryAction.heldSlots : DeliveryAction → Nat
  | .hold => 1
  | .deliver => 0
  | .duplicate => 0
  | .drop => 0

theorem DeliveryAction.slots_eq (action : DeliveryAction) :
    action.slots = action.visibleSlots + action.heldSlots := by
  cases action <;> rfl

theorem DeliveryAction.slots_le (action : DeliveryAction) : action.slots ≤ 2 := by
  cases action <;> decide

/-- The entry of an envelope deposited for the first time. -/
def AcceptedEnvelope.first (digests : MemoryDigests) (envelope : Envelope) (encoded : Bytes)
    (deliveryId : DeliveryId) : AcceptedEnvelope where
  envelopeDigest := digests.envelope encoded
  encodedLen := encoded.length
  deliveryId := deliveryId
  envelope := some envelope
  attempts := 1

/-- What counting one delivery attempt does to a mailbox. -/
inductive Attempt (digests : MemoryDigests) (policy : MemoryMailboxPolicy)
    (before : MemoryMailboxRecord) : MemoryMailboxRecord → DeliveryId → Prop
  | again {envelopeId : Id16} {accepted : AcceptedEnvelope}
      (hget : before.accepted.get? envelopeId = some accepted)
      (hretained : accepted.envelope ≠ none)
      (hleft : accepted.attempts < policy.maximumDeliveryAttemptsPerEnvelope) :
      Attempt digests policy before
        { before with
          accepted := before.accepted.modify envelopeId AcceptedEnvelope.attemptedAgain }
        accepted.deliveryId
  | first {envelope : Envelope} {encoded : Bytes} {deliveryId : DeliveryId}
      (hfresh : before.accepted.get? envelope.val.envelopeId = none)
      (hencoded : envelope.val.encodeCanonical = .ok encoded)
      (hnonzero : envelope.val.envelopeId ≠ 0)
      (hroom : before.accepted.size < policy.maximumEnvelopesPerMailbox)
      (hunused : before.find deliveryId = none) :
      Attempt digests policy before
        { before with
          accepted := before.accepted.insert envelope.val.envelopeId
            (.first digests envelope encoded deliveryId) }
        deliveryId

theorem Attempt.visible {digests : MemoryDigests} {policy : MemoryMailboxPolicy}
    {before after : MemoryMailboxRecord} {deliveryId : DeliveryId}
    (h : Attempt digests policy before after deliveryId) : after.visible = before.visible := by
  cases h <;> rfl

namespace DeterministicMemoryTransport

variable {digests : MemoryDigests} {s s' : DeterministicMemoryTransport}
  {endpoint : MemoryDepositEndpoint} {envelope : Envelope} {now : Nat} {draw : Option Id16}

/-- A decision to make an attempt, or to name a delivery whose envelope is gone. -/
inductive Decides (digests : MemoryDigests) (s : DeterministicMemoryTransport)
    (record : MemoryMailboxRecord) (envelope : Envelope) (encoded : Bytes) :
    DepositDecision → Prop
  | settled {accepted : AcceptedEnvelope}
      (hget : record.accepted.get? envelope.val.envelopeId = some accepted)
      (hdigest : accepted.envelopeDigest = digests.envelope encoded)
      (hgone : accepted.envelope = none) :
      Decides digests s record envelope encoded (.settled accepted.deliveryId)
  | again {accepted : AcceptedEnvelope}
      (hget : record.accepted.get? envelope.val.envelopeId = some accepted)
      (hdigest : accepted.envelopeDigest = digests.envelope encoded)
      (hretained : accepted.envelope ≠ none)
      (hleft : accepted.attempts < s.policy.maximumDeliveryAttemptsPerEnvelope) :
      Decides digests s record envelope encoded
        (.attempt { record with
          accepted := record.accepted.modify envelope.val.envelopeId
            AcceptedEnvelope.attemptedAgain } accepted.deliveryId)
  | first {deliveryId : DeliveryId}
      (hfresh : record.accepted.get? envelope.val.envelopeId = none)
      (hroom : record.accepted.size < s.policy.maximumEnvelopesPerMailbox)
      (hbytes : record.retainedEncodedBytes + encoded.length ≤
        maxMemoryRetainedCanonicalBytesPerMailbox)
      (hunused : record.find deliveryId = none) :
      Decides digests s record envelope encoded
        (.attempt { record with
          accepted := record.accepted.insert envelope.val.envelopeId
            (.first digests envelope encoded deliveryId) } deliveryId)

variable {record : MemoryMailboxRecord} {encoded : Bytes} {decision : DepositDecision}
  {mailboxId : Id16} {deliveryId : DeliveryId} {control : DispatchControl}

theorem of_decideDeposit (h : s.decideDeposit digests endpoint envelope now draw = .ok decision) :
    ∃ encoded record, ¬s.Misdirected endpoint envelope now ∧
      envelope.val.encodeCanonical = .ok encoded ∧ s.unlockDeposit digests endpoint = some record ∧
      ¬s.Saturated endpoint.mailboxId s.nextAction ∧
      Decides digests s record envelope encoded decision := by
  obtain ⟨_, hdirected, h⟩ := bind_eq_ok.mp h
  obtain ⟨encoded, hencoded, h⟩ := bind_eq_ok.mp h
  obtain ⟨record, hunlock, h⟩ := bind_eq_ok.mp h
  obtain ⟨_, hroom, h⟩ := bind_eq_ok.mp h
  refine ⟨encoded, record, refuse_eq_ok.mp hdirected, orElse_eq_ok.mp hencoded,
    require_eq_ok.mp hunlock, refuse_eq_ok.mp hroom, ?_⟩
  split at h
  · rename_i accepted hget
    obtain ⟨_, hdigest, h⟩ := bind_eq_ok.mp h
    have hdigest := not_not.mp (refuse_eq_ok.mp hdigest)
    split_ifs at h with hgone
    · cases h
      exact .settled hget hdigest hgone
    · obtain ⟨_, hleft, h⟩ := bind_eq_ok.mp h
      cases h
      exact .again hget hdigest hgone (Nat.not_le.mp (refuse_eq_ok.mp hleft))
  · rename_i hfresh
    obtain ⟨_, hroom, h⟩ := bind_eq_ok.mp h
    obtain ⟨_, hbytes, h⟩ := bind_eq_ok.mp h
    obtain ⟨deliveryId, -, h⟩ := bind_eq_ok.mp h
    obtain ⟨_, hunused, h⟩ := bind_eq_ok.mp h
    cases h
    exact .first hfresh (Nat.not_le.mp (refuse_eq_ok.mp hroom))
      (Nat.not_lt.mp (refuse_eq_ok.mp hbytes)) (by simpa using refuse_eq_ok.mp hunused)

/-- An attempt was counted and its copies are scheduled. -/
def scheduled (s : DeterministicMemoryTransport) (mailboxId : Id16)
    (record : MemoryMailboxRecord) (deliveryId : DeliveryId) (action : DeliveryAction) :
    DeterministicMemoryTransport :=
  { s.withMailbox mailboxId
      { record with
        visible := record.visible ++ List.replicate action.visibleSlots deliveryId } with
    actions := s.actions.tail
    held := s.held ++ List.replicate action.heldSlots (mailboxId, deliveryId) }

theorem scheduledCount_of_get? (hget : s.mailboxes.get? mailboxId = some record) :
    s.scheduledCount mailboxId = record.visible.length + (s.heldFor mailboxId).length := by
  simp [scheduledCount, hget]

/-- The second capacity test passes where the first one did: counting the attempt schedules
nothing. -/
theorem schedule_attempted {before : MemoryMailboxRecord} {action : DeliveryAction}
    (hget : s.mailboxes.get? mailboxId = some before) (hvisible : record.visible = before.visible)
    (hroom : ¬s.Saturated mailboxId action) :
    (s.attempted mailboxId record).schedule mailboxId deliveryId action =
      .ok (s.scheduled mailboxId record deliveryId action) := by
  have hrecord : (s.attempted mailboxId record).mailboxes.get? mailboxId = some record :=
    get?_withMailbox_self hget
  have hcount : (s.attempted mailboxId record).scheduledCount mailboxId =
      s.scheduledCount mailboxId := by
    rw [scheduledCount_of_get? hrecord, scheduledCount_of_get? hget, hvisible]
    rfl
  have hroom' : ¬(s.attempted mailboxId record).Saturated mailboxId action := by
    rw [Saturated, hcount]
    exact hroom
  unfold schedule
  rw [refuse, if_neg hroom']
  cases action with
  | deliver | duplicate =>
    show makeVisible _ mailboxId deliveryId _ = _
    rw [makeVisible, hrecord]
    simp [require, bind, Except.bind, pure, Except.pure, scheduled, attempted, withMailbox,
      DeliveryAction.visibleSlots, DeliveryAction.heldSlots, OrderedMap.modify_modify,
      Function.comp_def]
  | drop | hold =>
    simp [scheduled, attempted, withMailbox, DeliveryAction.visibleSlots,
      DeliveryAction.heldSlots, bind, Except.bind, pure, Except.pure]

theorem deposit_of_attempt
    (h : s.decideDeposit digests endpoint envelope now draw = .ok (.attempt record deliveryId)) :
    ∃ before, s.mailboxes.get? endpoint.mailboxId = some before ∧
      Attempt digests s.policy before record deliveryId ∧
      s.deposit digests endpoint envelope now draw =
        (s.scheduled endpoint.mailboxId record deliveryId s.nextAction, .ok deliveryId) := by
  obtain ⟨encoded, before, hdirected, hencoded, hunlock, hroom, hdecides⟩ := of_decideDeposit h
  have hget := (unlock_eq_some.mp hunlock).1
  have hattempt : Attempt digests s.policy before record deliveryId := by
    cases hdecides with
    | again hget _ hretained hleft => exact .again hget hretained hleft
    | first hfresh hfits _ hunused =>
      have hnonzero : envelope.val.envelopeId ≠ 0 := by
        intro hzero
        exact hdirected (.inr (.inr (.inr (.inr hzero))))
      exact .first hfresh hencoded hnonzero hfits hunused
  refine ⟨before, hget, hattempt, ?_⟩
  simp only [deposit, h, schedule_attempted hget hattempt.visible hroom]

theorem deposit_of_settled
    (h : s.decideDeposit digests endpoint envelope now draw = .ok (.settled deliveryId)) :
    s.deposit digests endpoint envelope now draw = (s, .ok deliveryId) := by
  simp only [deposit, h]

theorem deposit_of_refused {error : MemoryTransportError}
    (h : s.decideDeposit digests endpoint envelope now draw = .error error) :
    s.deposit digests endpoint envelope now draw = (s, .error error) := by
  simp only [deposit, h]

/-! ## Every call -/

theorem of_checkPoll {authority : MemoryReceiveCapability} {request : PollRequest}
    (h : s.checkPoll digests authority request control = .ok (record, now)) :
    s.unlockReceive digests authority = some record ∧ now < authority.expiresAtUnixSeconds := by
  obtain ⟨observation, -, h⟩ := bind_eq_ok.mp h
  obtain ⟨_, -, h⟩ := bind_eq_ok.mp h
  obtain ⟨_, -, h⟩ := bind_eq_ok.mp h
  obtain ⟨found, hunlock, h⟩ := bind_eq_ok.mp h
  obtain ⟨_, hlive, h⟩ := bind_eq_ok.mp h
  obtain ⟨_, -, h⟩ := bind_eq_ok.mp h
  cases h
  exact ⟨require_eq_ok.mp hunlock, Nat.not_le.mp (refuse_eq_ok.mp hlive)⟩

theorem of_checkDispatchAcknowledge {authority : MemoryAcknowledgementCapability}
    {request : AcknowledgementRequest}
    (h : s.checkDispatchAcknowledge digests authority request control = .ok record) :
    s.unlockAcknowledgement digests authority = some record := by
  obtain ⟨observation, -, h⟩ := bind_eq_ok.mp h
  obtain ⟨_, -, h⟩ := bind_eq_ok.mp h
  obtain ⟨found, hunlock, h⟩ := bind_eq_ok.mp h
  obtain ⟨_, -, h⟩ := bind_eq_ok.mp h
  obtain ⟨_, -, h⟩ := bind_eq_ok.mp h
  obtain ⟨_, -, h⟩ := bind_eq_ok.mp h
  cases h
  exact require_eq_ok.mp hunlock

inductive Effect (digests : MemoryDigests) (s : DeterministicMemoryTransport) :
    MemoryCall → MemoryReply → DeterministicMemoryTransport → Prop
  | narrowed {c : MemoryCall} {reply : MemoryReply} {s' : DeterministicMemoryTransport}
      (h : s.Narrows s') : Effect digests s c reply s'
  | replayed {authority : MemoryReceiveCapability} {deliveryId : DeliveryId}
      {envelope : Envelope} {reply : MemoryReply} (encodedLen : Nat) :
      Effect digests s (.replayStale authority deliveryId envelope) reply
        { s with
          staleReplays := s.staleReplays ++
            [⟨authority.mailboxId, deliveryId, envelope, encodedLen⟩] }
  | created {c : MemoryCall} {mailbox : MemoryMailbox} {record : MemoryMailboxRecord} {now : Nat}
      (hfresh : s.mailboxes.get? mailbox.deposit.mailboxId = none)
      (haccepted : record.accepted = .empty) (hvisible : record.visible = []) :
      Effect digests s c (.created (.ok mailbox))
        (s.openMailbox now mailbox.deposit.mailboxId record)
  | released {c : MemoryCall} {reply : MemoryReply} {index now : Nat} {mailboxId : Id16}
      {deliveryId : DeliveryId} {record : MemoryMailboxRecord}
      (hheld : s.held[index]? = some (mailboxId, deliveryId))
      (hget : s.mailboxes.get? mailboxId = some record)
      (hlive : record.DeliveryIsLive deliveryId now) :
      Effect digests s c reply (s.reveal index mailboxId record deliveryId)
  | attempted {c : MemoryCall} {reply : MemoryReply} {mailboxId : Id16}
      {before record : MemoryMailboxRecord} {deliveryId : DeliveryId} {action : DeliveryAction}
      (hget : s.mailboxes.get? mailboxId = some before)
      (hattempt : Attempt digests s.policy before record deliveryId) :
      Effect digests s c reply (s.scheduled mailboxId record deliveryId action)

namespace Effect

theorem refl (c : MemoryCall) (reply : MemoryReply) : Effect digests s c reply s :=
  .narrowed (.refl s)

theorem controlled {c : MemoryCall}
    {result : Except MemoryTransportError DeterministicMemoryTransport}
    (h : ∀ s', result = .ok s' → Effect digests s c (.controlled (.ok ())) s') :
    Effect digests s c (s.controlled result).2 (s.controlled result).1 := by
  unfold DeterministicMemoryTransport.controlled
  split
  · exact refl _ _
  · exact h _ rfl

theorem deposit (c : MemoryCall) (reply : MemoryReply) :
    Effect digests s c reply (s.deposit digests endpoint envelope now draw).1 := by
  rcases hdecide : s.decideDeposit digests endpoint envelope now draw with error | decision
  · rw [deposit_of_refused hdecide]
    exact refl c reply
  · cases decision with
    | settled deliveryId =>
      rw [deposit_of_settled hdecide]
      exact refl c reply
    | attempt record deliveryId =>
      obtain ⟨before, hget, hattempt, hdeposit⟩ := deposit_of_attempt hdecide
      rw [hdeposit]
      exact .attempted hget hattempt

theorem dispatchDeposit (c : MemoryCall) (reply : MemoryReply) (request : DepositRequest)
    (control : DispatchControl) :
    Effect digests s c reply (s.dispatchDeposit digests endpoint request control draw).1 := by
  unfold DeterministicMemoryTransport.dispatchDeposit
  split
  · exact refl c reply
  · rename_i envelope now _
    have heffect : Effect digests s c reply
        (s.deposit digests endpoint envelope now draw).1 := deposit c reply
    split
    · rename_i hdeposit
      rw [hdeposit] at heffect
      exact heffect
    · rename_i hdeposit
      rw [hdeposit] at heffect
      split <;> exact heffect

theorem replayStale (authority : MemoryReceiveCapability) (deliveryId : DeliveryId)
    (envelope : Envelope) {reply : MemoryReply}
    (h : s.replayStale digests authority deliveryId envelope = .ok s') :
    Effect digests s (.replayStale authority deliveryId envelope) reply s' := by
  obtain ⟨encoded, -, h⟩ := bind_eq_ok.mp h
  obtain ⟨record, -, h⟩ := bind_eq_ok.mp h
  obtain ⟨⟨_, accepted⟩, -, h⟩ := bind_eq_ok.mp h
  obtain ⟨_, -, h⟩ := bind_eq_ok.mp h
  obtain ⟨_, -, h⟩ := bind_eq_ok.mp h
  obtain ⟨_, -, h⟩ := bind_eq_ok.mp h
  cases h
  exact .replayed encoded.length

variable (c : MemoryCall)

theorem createMailbox (expiresAt now : Nat) (draws : MailboxDraws) :
    Effect digests s c (.created (s.createMailbox digests expiresAt now draws).2)
      (s.createMailbox digests expiresAt now draws).1 := by
  unfold DeterministicMemoryTransport.createMailbox
  split
  · exact refl c _
  · rename_i mailbox record hdraw
    obtain ⟨_, -, hdraw⟩ := bind_eq_ok.mp hdraw
    obtain ⟨_, -, hdraw⟩ := bind_eq_ok.mp hdraw
    obtain ⟨mailboxId, -, hdraw⟩ := bind_eq_ok.mp hdraw
    obtain ⟨_, hfresh, hdraw⟩ := bind_eq_ok.mp hdraw
    obtain ⟨_, -, hdraw⟩ := bind_eq_ok.mp hdraw
    obtain ⟨_, -, hdraw⟩ := bind_eq_ok.mp hdraw
    obtain ⟨_, -, hdraw⟩ := bind_eq_ok.mp hdraw
    obtain ⟨_, -, hdraw⟩ := bind_eq_ok.mp hdraw
    cases hdraw
    exact .created (by simpa using refuse_eq_ok.mp hfresh) rfl rfl

variable (reply : MemoryReply)

theorem releaseHeld (index now : Nat) : Effect digests s c reply (s.releaseHeld index now).1 := by
  unfold DeterministicMemoryTransport.releaseHeld
  split
  · exact refl c reply
  · rename_i mailboxId deliveryId hheld
    split
    · exact refl c reply
    · rename_i record hget
      split_ifs with hrefused
      · exact refl c reply
      · exact .released hheld hget (not_not.mp (not_or.mp hrefused).2)

theorem poll (authority : MemoryReceiveCapability) (request : PollRequest)
    (control : DispatchControl) :
    Effect digests s c reply (s.poll digests authority request control).1 := by
  unfold DeterministicMemoryTransport.poll
  split
  · exact refl c reply
  · rename_i record now hcheck
    have hget : s.mailboxes.get? authority.mailboxId = some record := by
      obtain ⟨hunlock, -⟩ := of_checkPoll hcheck
      exact (unlock_eq_some.mp hunlock).1
    split_ifs
    · exact .narrowed (.controls s _ _ _ _)
    · split
      · exact refl c reply
      · exact .narrowed (.sweep hget _ _)

theorem acknowledge (authority : MemoryAcknowledgementCapability) (deliveryId : DeliveryId)
    (now : Nat) : Effect digests s c reply (s.acknowledge digests authority deliveryId now).1 := by
  unfold DeterministicMemoryTransport.acknowledge
  split_ifs
  · exact refl c reply
  · split
    · exact refl c reply
    · rename_i record hunlock
      split_ifs
      · exact refl c reply
      · exact .narrowed (.discard (unlock_eq_some.mp hunlock).1 _)

theorem dispatchAcknowledge (authority : MemoryAcknowledgementCapability)
    (request : AcknowledgementRequest) (control : DispatchControl) :
    Effect digests s c reply (s.dispatchAcknowledge digests authority request control).1 := by
  unfold DeterministicMemoryTransport.dispatchAcknowledge
  split
  · exact refl c reply
  · rename_i record hcheck
    have hget := (unlock_eq_some.mp (of_checkDispatchAcknowledge hcheck)).1
    have hdiscard := Narrows.discard hget request.deliveryIds.ids
    split
    · exact .narrowed (.controls s _ _ _ _)
    · exact .narrowed ⟨rfl, rfl, hdiscard.mailbox, hdiscard.held, hdiscard.staleReplays⟩
    · exact .narrowed ⟨rfl, rfl, hdiscard.mailbox, hdiscard.held, hdiscard.staleReplays⟩

end Effect

theorem call_effect (s : DeterministicMemoryTransport) (c : MemoryCall) :
    Effect digests s c (call digests s c).2 (call digests s c).1 := by
  cases c with
  | queueAction action =>
    refine .controlled fun s' h => ?_
    unfold DeterministicMemoryTransport.queueAction at h
    split_ifs at h
    cases h
    exact .narrowed (.controls s _ _ _ _)
  | setAvailability availability => exact .narrowed (.controls s _ _ _ _)
  | corruptNextPoll authority deliveryId =>
    refine .controlled fun s' h => ?_
    obtain ⟨_, -, h⟩ := bind_eq_ok.mp h
    obtain ⟨_, -, h⟩ := bind_eq_ok.mp h
    obtain ⟨_, -, h⟩ := bind_eq_ok.mp h
    cases h
    exact .narrowed (.controls s _ _ _ _)
  | replayStale authority deliveryId envelope =>
    exact .controlled fun s' h => .replayStale authority deliveryId envelope h
  | loseNextAcknowledgement loss =>
    refine .controlled fun s' h => ?_
    unfold DeterministicMemoryTransport.loseNextAcknowledgement at h
    split_ifs at h
    cases h
    exact .narrowed (.controls s _ _ _ _)
  | createMailbox expiresAt now draws => exact .createMailbox _ expiresAt now draws
  | releaseHeld index now => exact .releaseHeld _ _ index now
  | deposit endpoint envelope now draw => exact .deposit _ _
  | receive authority now => exact .narrowed (.receive s authority now)
  | acknowledge authority deliveryId now => exact .acknowledge _ _ authority deliveryId now
  | dispatchDeposit endpoint request control draw => exact .dispatchDeposit _ _ request control
  | poll authority request control => exact .poll _ _ authority request control
  | dispatchAcknowledge authority request control =>
    exact .dispatchAcknowledge _ _ authority request control

end DeterministicMemoryTransport

end SessionChat.MemoryTransport
