import SessionChat.MemoryTransport.Acknowledged

/-!
# Deposits (`crates/transport-memory/src/lib.rs`)

A deposit is all or nothing, the bound on scheduled copies never refuses what the other
bounds allow, and repeating the deposit of an acknowledged envelope names its delivery
without a new copy.
-/

set_option autoImplicit false

namespace SessionChat.MemoryTransport

open Collections Control Protocol Transition
  Mailbox Storage

namespace DeterministicMemoryTransport

variable {digests : MemoryDigests} {s : DeterministicMemoryTransport} {c : MemoryCall}
  {w : MemoryWorld} {endpoint : MemoryDepositEndpoint} {envelope : Envelope} {now : Nat}
  {draw : Option Id16}
  {mailboxId : Id16} {encoded : Bytes} {deliveryId : DeliveryId} {record : MemoryMailboxRecord}

/-! ## All or nothing -/

variable {error : MemoryTransportError} {request : Transport.DepositRequest}
  {control : Mailbox.DispatchControl}

theorem deposit_unchanged_of_error
    (h : (s.deposit digests endpoint envelope now draw).2 = .error error) :
    (s.deposit digests endpoint envelope now draw).1 = s := by
  rcases hdecide : s.decideDeposit digests endpoint envelope now draw with refused | decision
  · rw [deposit_of_refused hdecide]
  · cases decision with
    | settled id => rw [deposit_of_settled hdecide]
    | attempt record id =>
      obtain ⟨before, -, -, hdeposit⟩ := deposit_of_attempt hdecide
      rw [hdeposit] at h
      cases h

theorem dispatchDeposit_unchanged_of_error {error : Transport.TransportFailure}
    (h : (s.dispatchDeposit digests endpoint request control draw).2 = .error error) :
    (s.dispatchDeposit digests endpoint request control draw).1 = s ∨
      control.last.checkpoint request.budget = .error error := by
  rcases hcheck : s.checkDispatchDeposit digests endpoint request control with
    refused | ⟨envelope, now⟩
  · exact .inl (by simp only [dispatchDeposit, hcheck])
  · rcases hdeposit : s.deposit digests endpoint envelope now draw with ⟨after, refused | id⟩
    · have hunchanged := deposit_unchanged_of_error (congrArg Prod.snd hdeposit)
      rw [hdeposit] at hunchanged
      refine .inl ?_
      simp only [dispatchDeposit, hcheck, hdeposit]
      exact hunchanged
    · rcases hlast : control.last.checkpoint request.budget with late | observation
      · simp only [dispatchDeposit, hcheck, hdeposit, hlast] at h
        exact .inr (congrArg Except.error (Except.error.inj h))
      · simp [dispatchDeposit, hcheck, hdeposit, hlast] at h

/-! ## The scheduling bound -/

/-- The bounds on attempts, entries and retained bytes allow the deposit. -/
def BoundsAllow (s : DeterministicMemoryTransport) (record : MemoryMailboxRecord)
    (envelope : Envelope) (encoded : Bytes) : Prop :=
  match record.accepted.get? envelope.val.envelopeId with
  | some accepted => accepted.attempts < s.policy.maximumDeliveryAttemptsPerEnvelope
  | none => record.accepted.size < s.policy.maximumEnvelopesPerMailbox ∧
      record.retainedEncodedBytes + encoded.length ≤ maxMemoryRetainedCanonicalBytesPerMailbox

/-- Two free places are enough for any action. -/
theorem not_saturated_of_room (action : DeliveryAction)
    (hroom : (s.holdings mailboxId).copies.length + 2 ≤
      s.policy.maximumScheduledDeliveriesPerMailbox) : ¬s.Saturated mailboxId action := by
  have hslots := action.slots_le
  rw [length_copies] at hroom
  unfold Saturated
  omega

theorem not_saturated_of_allowed (hcounted : s.Counted)
    (hget : s.mailboxes.get? mailboxId = some record)
    (hallow : s.BoundsAllow record envelope encoded) (action : DeliveryAction) :
    ¬s.Saturated mailboxId action := by
  have hholdings := hcounted mailboxId
  have hof := holdings_of_get? hget
  refine not_saturated_of_room action ?_
  rw [hof] at hholdings ⊢
  unfold BoundsAllow at hallow
  split at hallow
  · rename_i accepted hentry
    exact hholdings.room_again hentry hallow
  · exact hholdings.room_first hallow.1

theorem randomNonzero_eq_error {w : Nat} {draw : Option (BitVec w)}
    (h : randomNonzero draw = .error error) : error = .providerFailure := by
  unfold randomNonzero at h
  split at h
  · exact (Except.error.inj h).symm
  · unfold Mailbox.NonZero.new at h
    split_ifs at h
    exact (Except.error.inj h).symm

theorem decideRepeated_within {accepted : AcceptedEnvelope} {digest : BitVec 256}
    {envelopeId : Id16} (hleft : accepted.attempts < s.policy.maximumDeliveryAttemptsPerEnvelope) :
    s.decideRepeated record envelopeId accepted digest ≠ .error .capacityExceeded := by
  intro h
  rcases bind_eq_error.mp h with h | ⟨_, -, h⟩
  · cases (refuse_eq_error.mp h).2
  · split_ifs at h
    · cases h
    · rcases bind_eq_error.mp h with h | ⟨_, -, h⟩
      · exact Nat.not_le.mpr hleft (refuse_eq_error.mp h).1
      · cases h

theorem decideFirst_within (hsize : record.accepted.size < s.policy.maximumEnvelopesPerMailbox)
    (hbytes : record.retainedEncodedBytes + encoded.length ≤
      maxMemoryRetainedCanonicalBytesPerMailbox) :
    s.decideFirst digests record envelope encoded draw ≠ .error .capacityExceeded := by
  intro h
  rcases bind_eq_error.mp h with h | ⟨_, -, h⟩
  · exact Nat.not_le.mpr hsize (refuse_eq_error.mp h).1
  rcases bind_eq_error.mp h with h | ⟨_, -, h⟩
  · exact Nat.not_lt.mpr hbytes (refuse_eq_error.mp h).1
  rcases bind_eq_error.mp h with h | ⟨_, -, h⟩
  · cases randomNonzero_eq_error h
  rcases bind_eq_error.mp h with h | ⟨_, -, h⟩
  · cases (refuse_eq_error.mp h).2
  · cases h

/-- A deposit within the other bounds is not refused for lack of capacity. -/
theorem deposit_within_bounds (hcounted : s.Counted)
    (hencoded : envelope.val.encodeCanonical = .ok encoded)
    (hget : s.mailboxes.get? endpoint.mailboxId = some record)
    (hallow : s.BoundsAllow record envelope encoded) :
    (s.deposit digests endpoint envelope now draw).2 ≠ .error .capacityExceeded := by
  intro hcapacity
  have hrefused : s.decideDeposit digests endpoint envelope now draw =
      .error .capacityExceeded := by
    rcases hdecide : s.decideDeposit digests endpoint envelope now draw with refused | decision
    · rw [deposit_of_refused hdecide] at hcapacity
      rw [Except.error.inj hcapacity]
    · cases decision with
      | settled id =>
        rw [deposit_of_settled hdecide] at hcapacity
        cases hcapacity
      | attempt record id =>
        obtain ⟨before, -, -, hdeposit⟩ := deposit_of_attempt hdecide
        rw [hdeposit] at hcapacity
        cases hcapacity
  rcases bind_eq_error.mp hrefused with h | ⟨_, -, h⟩
  · cases (refuse_eq_error.mp h).2
  rcases bind_eq_error.mp h with h | ⟨encoded', hencoded', h⟩
  · cases orElse_eq_error h
  cases hencoded.symm.trans (orElse_eq_ok.mp hencoded')
  rcases bind_eq_error.mp h with h | ⟨record', hunlock, h⟩
  · cases (require_eq_error.mp h).2
  cases hget.symm.trans (unlock_eq_some.mp (require_eq_ok.mp hunlock)).1
  rcases bind_eq_error.mp h with h | ⟨_, -, h⟩
  · exact not_saturated_of_allowed hcounted hget hallow _ (refuse_eq_error.mp h).1
  unfold BoundsAllow at hallow
  split at h
  · rename_i accepted hentry
    rw [hentry] at hallow
    exact decideRepeated_within hallow h
  · rename_i hfresh
    rw [hfresh] at hallow
    exact decideFirst_within hallow.1 hallow.2 h

/-! ## Repeating an acknowledged deposit -/

/-- The call deposits the canonical bytes, by either interface, under the delivery. A
dispatched deposit counts also when the checkpoint that follows it fails. -/
def Deposits (digests : MemoryDigests) (s : DeterministicMemoryTransport) (c : MemoryCall)
    (mailboxId : Id16) (bytes : Bytes) (deliveryId : DeliveryId) : Prop :=
  match c with
  | .deposit endpoint envelope now draw =>
      endpoint.mailboxId = mailboxId ∧ envelope.val.encodeCanonical = .ok bytes ∧
        (s.deposit digests endpoint envelope now draw).2 = .ok deliveryId
  | .dispatchDeposit endpoint request control draw =>
      endpoint.mailboxId = mailboxId ∧ request.envelope.bytes = bytes ∧
        ∃ envelope now, s.checkDispatchDeposit digests endpoint request control =
            .ok (envelope, now) ∧ (s.deposit digests endpoint envelope now draw).2 = .ok deliveryId
  | _ => False

/-- The endpoint opens the mailbox, and the envelope may be deposited at this time. -/
structure MayDeposit (digests : MemoryDigests) (s : DeterministicMemoryTransport)
    (endpoint : MemoryDepositEndpoint) (envelope : Envelope) (now : Nat) : Prop where
  directed : ¬s.Misdirected endpoint envelope now
  unlocked : (s.unlockDeposit digests endpoint).isSome

theorem remembers_of_deposit (hencoded : envelope.val.encodeCanonical = .ok encoded)
    (h : (s.deposit digests endpoint envelope now draw).2 = .ok deliveryId) :
    (s.deposit digests endpoint envelope now draw).1.Remembers endpoint.mailboxId
      envelope.val.envelopeId (digests.envelope encoded) deliveryId := by
  rcases hdecide : s.decideDeposit digests endpoint envelope now draw with refused | decision
  · rw [deposit_of_refused hdecide] at h
    cases h
  · obtain ⟨encoded', before, -, hencoded', hunlock, -, hdecides⟩ := of_decideDeposit hdecide
    cases hencoded.symm.trans hencoded'
    have hbefore := (unlock_eq_some.mp hunlock).1
    intro record hget
    cases hdecides with
    | @settled accepted hentry hdigest _ =>
      rw [deposit_of_settled hdecide] at h hget
      cases h
      cases hbefore.symm.trans hget
      exact ⟨accepted, hentry, hdigest, rfl⟩
    | @again accepted hentry hdigest _ _ =>
      obtain ⟨_, -, -, hdeposit⟩ := deposit_of_attempt hdecide
      rw [hdeposit] at h hget
      cases h
      cases (get?_withMailbox_self hbefore).symm.trans hget
      exact ⟨accepted.attemptedAgain, by simp [hentry], hdigest, rfl⟩
    | first _ _ _ _ =>
      obtain ⟨_, -, -, hdeposit⟩ := deposit_of_attempt hdecide
      rw [hdeposit] at h hget
      cases h
      cases (get?_withMailbox_self hbefore).symm.trans hget
      exact ⟨_, OrderedMap.get?_insert_self _ _ _, rfl, rfl⟩

theorem decoded_of_checkDispatchDeposit
    (h : s.checkDispatchDeposit digests endpoint request control = .ok (envelope, now)) :
    OpaqueEnvelope.decodeCanonical request.envelope.bytes = .ok envelope.val := by
  obtain ⟨_, -, h⟩ := bind_eq_ok.mp h
  obtain ⟨_, -, h⟩ := bind_eq_ok.mp h
  obtain ⟨_, -, h⟩ := bind_eq_ok.mp h
  obtain ⟨_, -, h⟩ := bind_eq_ok.mp h
  obtain ⟨_, -, h⟩ := bind_eq_ok.mp h
  obtain ⟨_, -, h⟩ := bind_eq_ok.mp h
  split at h
  · cases h
  · rename_i decoded hdecoded
    cases h
    exact hdecoded

/-- The last checkpoint decides the answer only. -/
theorem dispatchDeposit_state
    (hcheck : s.checkDispatchDeposit digests endpoint request control = .ok (envelope, now))
    (hok : (s.deposit digests endpoint envelope now draw).2 = .ok deliveryId) :
    (s.dispatchDeposit digests endpoint request control draw).1 =
      (s.deposit digests endpoint envelope now draw).1 := by
  rcases hdeposit : s.deposit digests endpoint envelope now draw with ⟨after, error | id⟩
  · rw [hdeposit] at hok
    cases hok
  · rcases hlast : control.last.checkpoint request.budget with late | observation
    all_goals simp only [dispatchDeposit, hcheck, hdeposit, hlast]

/-- Either way of depositing leaves an entry that the same bytes will meet again. -/
theorem remembers_of_deposits (hdeposits : Deposits digests s c mailboxId encoded deliveryId)
    (hencoded : envelope.val.encodeCanonical = .ok encoded) :
    (call digests s c).1.Remembers mailboxId envelope.val.envelopeId (digests.envelope encoded)
      deliveryId := by
  have hdecoded := OpaqueEnvelope.decodeCanonical_of_encodeCanonical envelope.property hencoded
  cases c with
  | deposit endpoint first now draw =>
    obtain ⟨rfl, hfirst, hok⟩ := hdeposits
    have hsame := OpaqueEnvelope.decodeCanonical_of_encodeCanonical first.property hfirst
    have henvelope := Except.ok.inj (hdecoded.symm.trans hsame)
    rw [henvelope]
    exact remembers_of_deposit hfirst hok
  | dispatchDeposit endpoint request control draw =>
    obtain ⟨rfl, rfl, first, now, hcheck, hok⟩ := hdeposits
    have hsame := decoded_of_checkDispatchDeposit hcheck
    have henvelope := Except.ok.inj (hdecoded.symm.trans hsame)
    have hfirst : first.val.encodeCanonical = .ok request.envelope.bytes := henvelope ▸ hencoded
    have hcall : (call digests s (.dispatchDeposit endpoint request control draw)).1 =
        (s.deposit digests endpoint first now draw).1 := dispatchDeposit_state hcheck hok
    rw [hcall, henvelope]
    exact remembers_of_deposit hfirst hok
  | _ => exact hdeposits.elim

/-- The entry is found without its envelope, so nothing is scheduled. -/
theorem deposit_settled (hmay : s.MayDeposit digests endpoint envelope now)
    (hencoded : envelope.val.encodeCanonical = .ok encoded)
    (hroom : ¬s.Saturated endpoint.mailboxId s.nextAction)
    (hentry : ∀ record, s.mailboxes.get? endpoint.mailboxId = some record →
      ∃ accepted, record.accepted.get? envelope.val.envelopeId = some accepted ∧
        accepted.envelopeDigest = digests.envelope encoded ∧
        accepted.deliveryId = deliveryId ∧ accepted.envelope = none) :
    s.deposit digests endpoint envelope now draw = (s, .ok deliveryId) := by
  obtain ⟨record, hunlock⟩ := Option.isSome_iff_exists.mp hmay.unlocked
  obtain ⟨accepted, hget, hdigest, rfl, hgone⟩ := hentry record (unlock_eq_some.mp hunlock).1
  refine deposit_of_settled ?_
  unfold decideDeposit
  simp only [bind_eq_ok, refuse_eq_ok, orElse_eq_ok, require_eq_ok]
  refine ⟨(), hmay.directed, encoded, hencoded, record, hunlock, (), hroom, ?_⟩
  simp only [hget, decideRepeated, bind_eq_ok, refuse_eq_ok]
  refine ⟨(), not_not.mpr hdigest, ?_⟩
  rw [if_pos hgone]
  rfl

/-! ## Every history -/

/-- What holds of deposits after any calls. -/
structure DepositSafe (digests : MemoryDigests) (w : MemoryWorld) : Prop where
  /-- An error changes nothing. -/
  atomic : ∀ endpoint envelope now draw error,
    (w.state.deposit digests endpoint envelope now draw).2 = .error error →
    (w.state.deposit digests endpoint envelope now draw).1 = w.state
  /-- The same holds of a dispatched deposit, unless the error is that of the checkpoint which
  follows the deposit. -/
  dispatchAtomic : ∀ endpoint request control draw error,
    (w.state.dispatchDeposit digests endpoint request control draw).2 = .error error →
    (w.state.dispatchDeposit digests endpoint request control draw).1 = w.state ∨
      control.last.checkpoint request.budget = .error error
  /-- Neither of the two scheduling tests refuses what the other bounds allow, so that capacity
  is not what such a deposit is refused for. -/
  unhindered : ∀ endpoint envelope now draw encoded record,
    envelope.val.encodeCanonical = .ok encoded →
    w.state.mailboxes.get? endpoint.mailboxId = some record →
    w.state.BoundsAllow record envelope encoded →
    ¬w.state.Saturated endpoint.mailboxId w.state.nextAction ∧
      (w.state.deposit digests endpoint envelope now draw).2 ≠ .error .capacityExceeded
  /-- A deposit that was accepted in this state and then acknowledged can be repeated, at any
  time the envelope and the endpoint allow; it is named again and nothing changes. -/
  repeatable : ∀ {c acknowledgement : MemoryCall} {mailboxId : Id16} {bytes : Bytes}
    {deliveryId : DeliveryId} {w₂ w₃ : MemoryWorld},
    Deposits digests w.state c mailboxId bytes deliveryId →
    Leads (call digests) (Continues digests mailboxId) (w.after (call digests) c) w₂ →
    Acknowledges digests w₂.state acknowledgement mailboxId deliveryId →
    Leads (call digests) (Continues digests mailboxId)
      (w₂.after (call digests) acknowledgement) w₃ →
    ∀ endpoint envelope now draw, endpoint.mailboxId = mailboxId →
      envelope.val.encodeCanonical = .ok bytes →
      w₃.state.MayDeposit digests endpoint envelope now →
      w₃.state.deposit digests endpoint envelope now draw = (w₃.state, .ok deliveryId)

theorem repeatable_of_counted (hcounted : w.state.Counted) {acknowledgement : MemoryCall}
    {w₂ w₃ : MemoryWorld}
    (hdeposits : Deposits digests w.state c mailboxId encoded deliveryId)
    (hbetween : Leads (call digests) (Continues digests mailboxId) (w.after (call digests) c) w₂)
    (hacknowledges : Acknowledges digests w₂.state acknowledgement mailboxId deliveryId)
    (hlater : Leads (call digests) (Continues digests mailboxId)
      (w₂.after (call digests) acknowledgement) w₃) (hmailbox : endpoint.mailboxId = mailboxId)
    (hencoded : envelope.val.encodeCanonical = .ok encoded)
    (hmay : w₃.state.MayDeposit digests endpoint envelope now) :
    w₃.state.deposit digests endpoint envelope now draw = (w₃.state, .ok deliveryId) := by
  subst hmailbox
  have hremembers₂ := remembers_of_leads hbetween (remembers_of_deposits hdeposits hencoded)
  obtain ⟨_, record₂, _, hget₂, -, -⟩ := discard_of_acknowledges hacknowledges
  obtain ⟨accepted, hentry, -, hid⟩ := hremembers₂ record₂ hget₂
  have hcounted₂ : w₂.state.Counted :=
    counted_of_leads hbetween ((call_effect w.state c).counted hcounted)
  have hafter : (w₂.after (call digests) acknowledgement).state.Counted :=
    (call_effect w₂.state acknowledgement).counted hcounted₂
  have hsettled : w₃.state.Settled endpoint.mailboxId envelope.val.envelopeId deliveryId := by
    refine settled_of_leads hlater hafter (settled_of_acknowledges hcounted₂ hacknowledges ?_ hid)
    rw [holdings_of_get? hget₂]
    exact hentry
  have hremembers := remembers_of_leads
    (((Leads.refl w₂).tail (continues_of_acknowledges hacknowledges)).trans hlater) hremembers₂
  refine deposit_settled hmay hencoded ?_ fun record hget => ?_
  · obtain ⟨record, hunlock⟩ := Option.isSome_iff_exists.mp hmay.unlocked
    have hget := (unlock_eq_some.mp hunlock).1
    obtain ⟨⟨settled, hsettledEntry, rfl, -⟩, hnone⟩ := hsettled record hget
    have hholdings := counted_of_leads hlater hafter endpoint.mailboxId
    refine not_saturated_of_room _ ?_
    rw [holdings_of_get? hget] at hholdings ⊢
    exact hholdings.room_gone hsettledEntry hnone
  · obtain ⟨⟨settled, hsettledEntry, hsame, hgone⟩, -⟩ := hsettled record hget
    obtain ⟨remembered, hrememberedEntry, hdigest, -⟩ := hremembers record hget
    cases hsettledEntry.symm.trans hrememberedEntry
    exact ⟨settled, hsettledEntry, hdigest, hsame, hgone⟩

/-- Deposits are safe after any calls, at any times and with any queue of actions. -/
theorem deposit_safe (digests : MemoryDigests) (policy : MemoryMailboxPolicy)
    (id : Mailbox.NonZero 128) (cs : List MemoryCall) :
    DepositSafe digests ((World.mk (fresh policy id) []).afterAll (call digests) cs) where
  atomic _ _ _ _ _ h := deposit_unchanged_of_error h
  dispatchAtomic _ _ _ _ _ h := dispatchDeposit_unchanged_of_error h
  unhindered _ _ _ _ _ _ hencoded hget hallow :=
    ⟨not_saturated_of_allowed (counted_of_calls digests policy id cs) hget hallow _,
      deposit_within_bounds (counted_of_calls digests policy id cs) hencoded hget hallow⟩
  repeatable hdeposits hbetween hacknowledges hlater _ _ _ _ hmailbox hencoded hmay :=
    repeatable_of_counted (counted_of_calls digests policy id cs) hdeposits hbetween hacknowledges
      hlater hmailbox hencoded hmay

/-- After any calls the copies of a mailbox, visible and held, fit its schedule. -/
theorem copies_fit_schedule (digests : MemoryDigests) (policy : MemoryMailboxPolicy)
    (id : Mailbox.NonZero 128) (cs : List MemoryCall) (mailboxId : Id16) :
    let s := ((World.mk (fresh policy id) []).afterAll (call digests) cs).state
    (s.holdings mailboxId).copies.length ≤ s.policy.maximumScheduledDeliveriesPerMailbox := by
  intro s
  have hcounted := counted_of_calls digests policy id cs mailboxId
  calc (s.holdings mailboxId).copies.length
    _ ≤ (s.holdings mailboxId).accepted.size * (2 * s.policy.maximumDeliveryAttemptsPerEnvelope) :=
        (OrderedMap.length_le_sum_count hcounted.known).trans (OrderedMap.sum_le_size_mul
          fun _ _ ha => (hcounted.copies ha).trans (Nat.mul_le_mul_left 2 (hcounted.attempts ha)))
    _ ≤ s.policy.maximumEnvelopesPerMailbox * (2 * s.policy.maximumDeliveryAttemptsPerEnvelope) :=
        Nat.mul_le_mul_right _ hcounted.size
    _ = s.policy.maximumScheduledDeliveriesPerMailbox := by rw [s.policy.scheduled]; ring

end DeterministicMemoryTransport

end SessionChat.MemoryTransport
