import SessionChat.Mailbox.ProviderCalls

/-!
# Using a mailbox (`crates/transport-conformance/src/lifecycle_provider.rs`)

What a deposit, a poll and an acknowledgement have checked when they succeed, and
what they return.
-/

set_option autoImplicit false

namespace SessionChat.Mailbox.Provider

open Transport Codec Control DeterministicLifecycleProvider

variable {s : DeterministicLifecycleProvider} {reading : DispatchReading} {budget : OperationBudget}
  {kind : RightKind} {right : Capability kind} {now : Nat} {index : Fin s.mailboxes.length}
  {endpoint : Capability .deposit} {request : DepositRequest} {control : DispatchControl}

theorem checkpoint_ok {observation : DispatchObservation}
    (h : reading.checkpoint budget = .ok observation) :
    reading.wallNow = some observation.wallNowUnixSeconds := by
  unfold DispatchReading.checkpoint at h
  split_ifs at h
  rcases hwall : reading.wallNow with _ | wallNow <;> rw [hwall] at h <;> cases h
  rfl

/-- What `use_right` has checked. -/
structure Usable (s : DeterministicLifecycleProvider) {kind : RightKind}
    (right : Capability kind) (reading : DispatchReading) (index : Fin s.mailboxes.length)
    (now : Nat) : Prop where
  time : reading.wallNow = some now
  scope : s.scope = right.scope
  binding : (s.mailboxes.get index).material.binding = right.binding
  token : (s.mailboxes.get index).material.token kind = right.token
  live : now < right.binding.expiresAtUnixSeconds
  unretired : ∀ retireAt ∈ (s.mailboxes.get index).retireAtUnixSeconds, now < retireAt

theorem mailboxIndex_ok (h : s.mailboxIndex right now = .ok index) :
    (s.mailboxes.get index).material.binding = right.binding ∧
      (s.mailboxes.get index).material.token kind = right.token ∧
      now < right.binding.expiresAtUnixSeconds ∧
      ∀ retireAt ∈ (s.mailboxes.get index).retireAtUnixSeconds, now < retireAt := by
  unfold mailboxIndex at h
  split at h
  · cases h
  case h_2 found hfound =>
    simp only at h
    split_ifs at h with hrefused
    cases h
    obtain ⟨htoken, hlive, hretired⟩ : _ ∧ _ ∧ _ := by
      simpa only [not_or, Nat.not_le, not_exists, not_and, not_not] using hrefused
    have hbinding := (List.findFinIdx?_eq_some_iff.mp hfound).1
    exact ⟨of_decide_eq_true hbinding, htoken, hlive, hretired⟩

theorem useRight_ok (h : s.useRight right budget reading = .ok (index, now)) :
    Usable s right reading index now := by
  simp only [useRight, bind_eq_ok, refuse_eq_ok, not_not] at h
  obtain ⟨observation, hcheckpoint, -, hscope, found, hfound, rfl, rfl⟩ := h
  obtain ⟨hbinding, htoken, hlive, hunretired⟩ := mailboxIndex_ok hfound
  exact ⟨checkpoint_ok hcheckpoint, hscope, hbinding, htoken, hlive, hunretired⟩

/-! ## Deposits -/

/-- What a deposit that is about to be stored has checked. -/
structure Deposits (s : DeterministicLifecycleProvider) (endpoint : Capability .deposit)
    (request : DepositRequest) (control : DispatchControl) (index : Fin s.mailboxes.length)
    (delivery : StoredDelivery) : Prop where
  first : ∃ index now, Usable s endpoint control.first index now
  last : ∃ now, Usable s endpoint control.last index now
  room : (s.mailboxes.get index).deliveries.length < maxEnvelopesPerGeneration
  sequence : delivery.sequence = s.nextDeliverySequence
  unexhausted : s.nextDeliverySequence ≠ u64Max
  deliveryId : delivery.deliveryId.val = deliveryIdBytes s.nextDeliverySequence
  bytes : delivery.canonicalBytes = request.envelope.bytes
  unacknowledged : delivery.acknowledged = false

theorem decideDeposit_fresh {delivery : StoredDelivery}
    (h : s.decideDeposit endpoint request control = .ok (.fresh index delivery)) :
    Deposits s endpoint request control index delivery := by
  simp only [decideDeposit, bind_eq_ok] at h
  obtain ⟨⟨first, firstNow⟩, hfirst, -, -, h⟩ := h
  split at h
  · simp only [bind_eq_ok, pure_eq_ok, reduceCtorEq, and_false, exists_false] at h
  · simp only [freshDelivery, bind_eq_ok, refuse_eq_ok] at h
    obtain ⟨⟨found, stored⟩, ⟨⟨last, lastNow⟩, hlast, -, -, -, hroom, -, hsequence, deliveryId,
      hdeliveryId, hstored⟩, hdecision⟩ := h
    cases hstored
    cases hdecision
    exact ⟨⟨first, firstNow, useRight_ok hfirst⟩, ⟨lastNow, useRight_ok hlast⟩,
      Nat.not_le.mp hroom, rfl, hsequence, NonZero.val_of_new hdeliveryId, rfl, rfl⟩

theorem decideDeposit_existing {deliveryId : DeliveryId}
    (h : s.decideDeposit endpoint request control = .ok (.existing deliveryId)) :
    ∃ index now, Usable s endpoint control.first index now ∧
      ∃ delivery ∈ (s.mailboxes.get index).deliveries, delivery.deliveryId = deliveryId := by
  simp only [decideDeposit, bind_eq_ok] at h
  obtain ⟨⟨first, firstNow⟩, hfirst, -, -, h⟩ := h
  split at h
  case h_1 existing hexisting =>
    simp only [bind_eq_ok] at h
    obtain ⟨-, -, hdecision⟩ := h
    cases hdecision
    exact ⟨first, firstNow, useRight_ok hfirst, existing, List.mem_of_find?_eq_some hexisting, rfl⟩
  case h_2 =>
    simp only [bind_eq_ok, pure_eq_ok, reduceCtorEq, and_false, exists_false] at h

/-! ## Polls -/

/-- What a successful poll has read. -/
structure Polls (s : DeterministicLifecycleProvider) (authority : Capability .receive)
    (request : PollRequest) (control : DispatchControl) (batch : ReceiveBatch)
    (index : Fin s.mailboxes.length) (requestedCursor lastCursor now : Nat) : Prop where
  first : ∃ index now, Usable s authority control.first index now ∧
    requestedCursor ≤ maximumSequence (s.mailboxes.get index).deliveries
  last : ∃ now, Usable s authority control.last index now
  time : (∃ t ∈ control.first.wallNow, t ≤ now) ∧
    (control.first.wallNow = some now ∨ control.last.wallNow = some now)
  bound : ∀ binding ∈ request.receiveBinding, binding.binding = authority.binding
  cursor : decodeCursor request.cursor (cursorScope authority.binding) = .ok requestedCursor
  collected : collect request.maxEnvelopes request.maxEncodedBytes
    (pending (s.mailboxes.get index).deliveries requestedCursor now) [] 0 requestedCursor =
      .ok (batch.items, lastCursor)
  next : nextCursor authority.binding lastCursor = .ok batch.nextCursor
  receiveBinding : batch.receiveBinding = request.receiveBinding

def Received (delivery : StoredDelivery) (item : ReceivedCanonicalEnvelope) : Prop :=
  item.deliveryId = delivery.deliveryId ∧ item.envelope.bytes = delivery.canonicalBytes

/-- A first part of the deliveries is added to the items, and the cursor follows the last one
taken. -/
def Takes (deliveries : List StoredDelivery) (items out : List ReceivedCanonicalEnvelope)
    (lastCursor lastCursor' : Nat) : Prop :=
  ∃ taken added, taken <+: deliveries ∧ List.Forall₂ Received taken added ∧ out = items ++ added ∧
    lastCursor' = (taken.getLast?.map StoredDelivery.sequence).getD lastCursor

theorem Takes.none (deliveries : List StoredDelivery) (items : List ReceivedCanonicalEnvelope)
    (lastCursor : Nat) : Takes deliveries items items lastCursor lastCursor :=
  ⟨[], [], List.nil_prefix, .nil, (List.append_nil _).symm, rfl⟩

theorem collect_ok {maxEnvelopes maxEncodedBytes : Nat} {deliveries : List StoredDelivery}
    {items out : List ReceivedCanonicalEnvelope} {encodedBytes lastCursor lastCursor' : Nat}
    (h : collect maxEnvelopes maxEncodedBytes deliveries items encodedBytes lastCursor =
      .ok (out, lastCursor')) : Takes deliveries items out lastCursor lastCursor' := by
  induction deliveries generalizing items encodedBytes lastCursor with
  | nil =>
    cases h
    exact .none _ _ _
  | cons delivery deliveries ih =>
    simp only [collect] at h
    split_ifs at h with hfull hlarge
    · cases h
      exact .none _ _ _
    · cases h
      exact .none _ _ _
    · split at h
      · cases h
      case h_2 envelope henvelope =>
        obtain ⟨taken, added, htaken, hreceived, hout, hlast⟩ := ih h
        refine ⟨delivery :: taken, ⟨delivery.deliveryId, envelope⟩ :: added,
          List.cons_prefix_cons.mpr ⟨rfl, htaken⟩,
          .cons ⟨rfl, CanonicalEnvelope.fromCanonicalBytes_bytes henvelope⟩ hreceived, ?_, ?_⟩
        · rw [hout, List.append_assoc]
          rfl
        · rw [hlast, List.getLast?_cons]
          cases taken.getLast? <;> rfl

theorem pollNow_ok {authority : Capability .receive} {request : PollRequest} {batch : ReceiveBatch}
    (h : s.pollNow authority request control = .ok batch) : ∃ index requestedCursor lastCursor now,
      Polls s authority request control batch index requestedCursor lastCursor now := by
  simp only [pollNow, bind_eq_ok, refuse_eq_ok, orElse_eq_ok] at h
  obtain ⟨⟨first, firstNow⟩, hfirst, -, hbound, requestedCursor, hcursor, -, hrange,
    ⟨last, lastNow⟩, hlast, ⟨items, lastCursor⟩, hcollect, next, hnext, hbatch⟩ := h
  obtain ⟨hitems, hcursors, hreceive⟩ := ReceiveBatch.new_ok hbatch
  have husable := useRight_ok hfirst
  refine ⟨last, requestedCursor, lastCursor, max firstNow lastNow,
    ⟨first, firstNow, husable, Nat.not_lt.mp hrange⟩, ⟨lastNow, useRight_ok hlast⟩,
    ⟨⟨firstNow, husable.time, Nat.le_max_left _ _⟩, ?_⟩, ?_, hcursor, ?_, ?_, hreceive⟩
  · rcases Nat.le_total firstNow lastNow with hle | hle
    · rw [Nat.max_eq_right hle]
      exact .inr (useRight_ok hlast).time
    · rw [Nat.max_eq_left hle]
      exact .inl husable.time
  · intro binding hbinding
    by_contra hne
    exact hbound ⟨binding, hbinding, hne⟩
  · rw [hitems]
    exact hcollect
  · rw [hcursors]
    exact hnext

/-! ## Acknowledgements -/

theorem checkAcknowledgement_ok {authority : Capability .acknowledgement}
    {request : AcknowledgementRequest}
    (h : s.checkAcknowledgement authority request control = .ok index) :
    (∃ index now, Usable s authority control.first index now) ∧
      (∃ now, Usable s authority control.last index now) ∧ ∀ id ∈ request.deliveryIds.ids,
        id ∈ (s.mailboxes.get index).deliveries.map StoredDelivery.deliveryId := by
  simp only [checkAcknowledgement, bind_eq_ok, refuse_eq_ok, pure_eq_ok] at h
  obtain ⟨⟨first, firstNow⟩, hfirst, ⟨last, lastNow⟩, hlast, -, hknown, rfl⟩ := h
  refine ⟨⟨first, firstNow, useRight_ok hfirst⟩, ⟨lastNow, useRight_ok hlast⟩, ?_⟩
  intro id hid
  by_contra hmissing
  exact hknown ⟨id, hid, hmissing⟩

end SessionChat.Mailbox.Provider
