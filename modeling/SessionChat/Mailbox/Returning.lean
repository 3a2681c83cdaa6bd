import SessionChat.Mailbox.Coupling

/-!
# What a poll returns (`crates/transport-conformance/src/lifecycle_provider.rs`)

A mailbox holds at most 64 envelopes of at most 64 KiB each, so one poll with the
largest limits returns everything after its cursor that is neither acknowledged nor
expired.
-/

set_option autoImplicit false

namespace SessionChat.Mailbox.Provider

open Transport Codec Control DeterministicLifecycleProvider
  Protocol

variable {s : DeterministicLifecycleProvider}

/-- The item is the delivery, with its expiry. -/
def Delivered (d : StoredDelivery) (item : ReceivedCanonicalEnvelope) : Prop :=
  Received d item ∧ item.envelope.expiresAtUnixSeconds = d.expiresAtUnixSeconds

variable {deliveries : List StoredDelivery} {m : MailboxState}
  {items : List ReceivedCanonicalEnvelope} {request : PollRequest} {now time : Nat}
  {budget : OperationBudget} {reading : DispatchReading}

/-- The loop ends with a page that passes the checks of `ReceiveBatch.new`, and takes everything
if the limits allow it. -/
def Fills (maxEnvelopes maxEncodedBytes now : Nat) (deliveries : List StoredDelivery)
    (items : List ReceivedCanonicalEnvelope) (encodedBytes lastCursor : Nat) : Prop :=
  ∃ taken added last,
    collect maxEnvelopes maxEncodedBytes deliveries items encodedBytes lastCursor =
      .ok (items ++ added, last) ∧
    taken <+: deliveries ∧ List.Forall₂ Delivered taken added ∧
    (items ++ added).length ≤ maxEnvelopes ∧
    ReceiveBatch.checkItems maxEncodedBytes now added encodedBytes = .ok () ∧
    (items.length + deliveries.length ≤ maxEnvelopes →
      encodedBytes + deliveries.length * maxWireObjectBytes ≤ maxEncodedBytes → taken = deliveries)

section

variable {maxEnvelopes maxEncodedBytes : Nat}

theorem Fills.stop {encodedBytes lastCursor : Nat}
    (hcollect : collect maxEnvelopes maxEncodedBytes deliveries items encodedBytes lastCursor =
      .ok (items, lastCursor)) (hcount : items.length ≤ maxEnvelopes)
    (hall : items.length + deliveries.length ≤ maxEnvelopes →
      encodedBytes + deliveries.length * maxWireObjectBytes ≤ maxEncodedBytes → [] = deliveries) :
    Fills maxEnvelopes maxEncodedBytes now deliveries items encodedBytes lastCursor := by
  refine ⟨[], [], lastCursor, ?_, List.nil_prefix, .nil, ?_, rfl, hall⟩
  · rw [hcollect, List.append_nil]
  · rwa [List.append_nil]

theorem collect_fills (hfit : ∀ d ∈ deliveries, d.canonicalBytes.length ≤ maxEncodedBytes)
    (hlive : ∀ d ∈ deliveries, now < d.expiresAtUnixSeconds)
    (items : List ReceivedCanonicalEnvelope) (encodedBytes lastCursor : Nat)
    (hcount : items.length ≤ maxEnvelopes) (hempty : items = [] → encodedBytes = 0) :
    Fills maxEnvelopes maxEncodedBytes now deliveries items encodedBytes lastCursor := by
  induction deliveries generalizing items encodedBytes lastCursor with
  | nil => exact .stop rfl hcount fun _ _ => rfl
  | cons d deliveries ih =>
    obtain ⟨envelope, henvelope, -, hexpires⟩ := d.canonical
    have hwire := envelope.length_bytes
    have hdecoded := envelope.fromCanonicalBytes_self
    rw [henvelope] at hwire hdecoded
    by_cases hfull : maxEnvelopes ≤ items.length
    · refine .stop (by rw [collect, if_pos hfull]) hcount fun hroom => ?_
      rw [List.length_cons] at hroom
      omega
    by_cases hlarge : maxEncodedBytes < encodedBytes + d.canonicalBytes.length
    · -- The first envelope of a page fits by itself, so the page has one already.
      have hitems : items ≠ [] := by
        intro hnil
        have hzero := hempty hnil
        have hd := hfit d List.mem_cons_self
        omega
      refine .stop ?_ hcount fun _ hbytes => ?_
      · rw [collect, if_neg hfull, if_pos hlarge, if_neg hitems]
      · rw [List.length_cons, Nat.add_mul] at hbytes
        omega
    obtain ⟨taken, added, last, hcollect, htaken, hdelivered, hlength, hchecked, hall⟩ :=
      ih (fun e he => hfit e (List.mem_cons_of_mem _ he))
        (fun e he => hlive e (List.mem_cons_of_mem _ he)) (items ++ [⟨d.deliveryId, envelope⟩])
        (encodedBytes + d.canonicalBytes.length) d.sequence
        (by rw [List.length_append, List.length_singleton]; omega) (by simp)
    refine ⟨d :: taken, ⟨d.deliveryId, envelope⟩ :: added, last, ?_,
      List.cons_prefix_cons.mpr ⟨rfl, htaken⟩, .cons ⟨⟨rfl, henvelope⟩, hexpires⟩ hdelivered,
      ?_, ?_, fun hroom hbytes => ?_⟩
    · rw [collect, if_neg hfull, if_neg hlarge]
      simp only [hdecoded]
      rw [hcollect, List.append_assoc, List.singleton_append]
    · rwa [List.append_assoc] at hlength
    · have hd := hlive d List.mem_cons_self
      rw [ReceiveBatch.checkItems, if_neg (by rw [hexpires]; omega),
        if_neg (by rw [henvelope]; exact hlarge), henvelope]
      exact hchecked
    · rw [List.length_cons] at hroom hbytes
      rw [Nat.add_mul] at hbytes
      rw [hall (by rw [List.length_append, List.length_singleton]; omega) (by omega)]

end

/-- The limits let a whole mailbox through. -/
structure Roomy (request : PollRequest) : Prop where
  envelopes : request.maxEnvelopes = maxPollEnvelopes
  bytes : request.maxEncodedBytes = maxPollEncodedBytes

theorem nodup_deliveryIds (h : Sequenced s) (hm : m ∈ s.mailboxes)
    (hsub : deliveries.Sublist m.deliveries) :
    (deliveries.map StoredDelivery.deliveryId).Nodup := by
  have hsorted := h.sorted m hm
  rw [List.pairwise_map] at hsorted
  refine List.pairwise_map.mpr (List.Pairwise.sublist hsub ?_)
  refine hsorted.imp_of_mem ?_
  intro a b ha hb hlt heq
  have hboundB := h.bounded _ b ⟨m, hm, rfl, hb⟩
  have hnext := h.next
  have hnames : deliveryIdBytes a.sequence = deliveryIdBytes b.sequence := by
    rw [← h.named _ a ⟨m, hm, rfl, ha⟩, ← h.named _ b ⟨m, hm, rfl, hb⟩, heq]
  have hsame := deliveryIdBytes_injective (by omega) (by omega) hnames
  omega

theorem map_deliveryId_of_received (h : List.Forall₂ Received deliveries items) :
    items.map ReceivedCanonicalEnvelope.deliveryId = deliveries.map StoredDelivery.deliveryId := by
  induction h with
  | nil => rfl
  | cons hhead _ ih => rw [List.map_cons, List.map_cons, ih, hhead.1]

/-! ## A poll that succeeds -/

/-- The mailbox can be polled at the time the reading reports. -/
structure Open (mailbox : MailboxState) (budget : OperationBudget) (reading : DispatchReading)
    (now : Nat) : Prop where
  checkpoint : ∃ observation, reading.checkpoint budget = .ok observation ∧
    observation.wallNowUnixSeconds = now
  live : now < mailbox.material.binding.expiresAtUnixSeconds
  unretired : ∀ retireAt ∈ mailbox.retireAtUnixSeconds, now < retireAt

section

variable (hordered : (directory s).Ordered time) (hm : m ∈ s.mailboxes)
  (hopen : Open m budget reading now)
include hordered hm hopen

theorem mailboxIndex_of_open : ∃ index : Fin s.mailboxes.length, s.mailboxes.get index = m ∧
      s.mailboxIndex (authorities m.material s.scope).receive now = .ok index := by
  unfold mailboxIndex
  split
  case h_1 hnone =>
    rw [List.findFinIdx?_eq_none_iff] at hnone
    exact absurd (decide_eq_true rfl) (hnone m hm)
  case h_2 index hfound =>
    have hsame : (s.mailboxes.get index).material.binding = m.material.binding :=
      of_decide_eq_true (List.findFinIdx?_eq_some_iff.mp hfound).1
    have hindex : s.mailboxes.get index = m :=
      mailbox_unique hordered (List.getElem_mem _) hm hsame
    refine ⟨index, hindex, if_neg ?_⟩
    have hread : s.mailboxes[index] = m := hindex
    simp only [hread]
    rintro (htoken | hexpired | ⟨retireAt, hretire, hle⟩)
    · exact htoken rfl
    · exact absurd hopen.live (Nat.not_lt.mpr hexpired)
    · exact absurd (hopen.unretired retireAt hretire) (Nat.not_lt.mpr hle)

theorem useRight_of_open : ∃ index : Fin s.mailboxes.length, s.mailboxes.get index = m ∧
      s.useRight (authorities m.material s.scope).receive budget reading = .ok (index, now) := by
  obtain ⟨index, hindex, hfound⟩ := mailboxIndex_of_open hordered hm hopen
  obtain ⟨observation, hcheckpoint, rfl⟩ := hopen.checkpoint
  refine ⟨index, hindex, ?_⟩
  simp only [useRight, bind_eq_ok, refuse_eq_ok]
  exact ⟨observation, hcheckpoint, (), not_not.mpr rfl, index, hfound, rfl⟩

end

theorem nextCursor_ok (binding : CursorBinding) (last : Nat) :
    ∃ next, nextCursor binding last = .ok next := by
  unfold nextCursor
  split_ifs
  · exact ⟨_, rfl⟩
  · exact ⟨none, rfl⟩

section

variable {p : Nat} (hordered : (directory s).Ordered time) (hsequenced : Sequenced s)
  (hm : m ∈ s.mailboxes)
  (hbound : ∀ binding ∈ request.receiveBinding, binding.binding = m.material.binding)
  (hcursor : decodeCursor request.cursor (cursorScope m.material.binding) = .ok p)
  (hrange : p ≤ maximumSequence m.deliveries)
include hordered hsequenced hm hbound hcursor hrange

/-- A poll of an open mailbox succeeds when its byte limit covers every stored envelope, and
returns the first pending ones, or all of them if its limits are the largest. -/
theorem pollNow_succeeds {firstNow lastNow : Nat} (control : DispatchControl)
    (hfirst : Open m request.budget control.first firstNow)
    (hlast : Open m request.budget control.last lastNow)
    (hfit : ∀ d ∈ m.deliveries, d.canonicalBytes.length ≤ request.maxEncodedBytes) :
    ∃ batch taken, s.pollNow (authorities m.material s.scope).receive request control =
        .ok batch ∧ List.Forall₂ Received taken batch.items ∧
      (Roomy request → taken = pending m.deliveries p (max firstNow lastNow)) := by
  obtain ⟨first, hfirstIndex, hfirstUse⟩ := useRight_of_open hordered hm hfirst
  obtain ⟨last, hlastIndex, hlastUse⟩ := useRight_of_open hordered hm hlast
  have hsub : (pending m.deliveries p (max firstNow lastNow)).Sublist m.deliveries :=
    List.filter_sublist
  have hfills : Fills request.maxEnvelopes request.maxEncodedBytes (max firstNow lastNow)
      (pending m.deliveries p (max firstNow lastNow)) [] 0 p :=
    collect_fills (fun d hd => hfit d (hsub.subset hd))
      (fun d hd => (of_decide_eq_true (List.mem_filter.mp hd).2).2.2) [] 0 p (Nat.zero_le _)
      (fun _ => rfl)
  obtain ⟨taken, items, reached, hcollect, htaken, hdelivered, hlength, hchecked, hall⟩ := hfills
  rw [List.nil_append] at hcollect hlength
  obtain ⟨next, hnext⟩ := nextCursor_ok m.material.binding reached
  have hreceived := hdelivered.imp fun _ _ hboth => hboth.1
  have hnodup : (items.map ReceivedCanonicalEnvelope.deliveryId).Nodup := by
    rw [map_deliveryId_of_received hreceived]
    exact nodup_deliveryIds hsequenced hm (htaken.sublist.trans hsub)
  have hbatch : ∃ batch, ReceiveBatch.new items next request (max firstNow lastNow) =
      .ok batch := by
    unfold ReceiveBatch.new
    rw [dif_pos hlength, dif_pos hnodup, hchecked]
    exact ⟨_, rfl⟩
  obtain ⟨batch, hbatch⟩ := hbatch
  refine ⟨batch, taken, ?_, by rwa [(ReceiveBatch.new_ok hbatch).1], ?_⟩
  · have hfirstRead : s.mailboxes[first] = m := hfirstIndex
    have hlastRead : s.mailboxes[last] = m := hlastIndex
    simp only [pollNow, bind_eq_ok, refuse_eq_ok, orElse_eq_ok]
    refine ⟨(first, firstNow), hfirstUse, (), ?_, p, hcursor, (), ?_, (last, lastNow), hlastUse,
      (items, reached), ?_, next, hnext, hbatch⟩
    · rintro ⟨binding, hbinding, hne⟩
      exact hne (hbound binding hbinding)
    · rw [hfirstRead]
      exact Nat.not_lt.mpr hrange
    · rw [hlastRead]
      exact hcollect
  · intro hroomy
    have hroom := Nat.le_trans hsub.length_le (hsequenced.room m hm)
    unfold maxEnvelopesPerGeneration at hroom
    refine hall ?_ ?_
    · rw [hroomy.envelopes, List.length_nil, Nat.zero_add]
      exact hroom
    · rw [hroomy.bytes]
      unfold maxWireObjectBytes maxPollEncodedBytes
      omega

/-- A poll of an open mailbox with the largest limits returns what is pending after its cursor. -/
theorem pollNow_returns (hopen : Open m request.budget reading now) (hroomy : Roomy request)
    {d : StoredDelivery} (hd : d ∈ pending m.deliveries p now) :
    ∃ batch item, s.pollNow (authorities m.material s.scope).receive request ⟨reading, reading⟩ =
      .ok batch ∧ item ∈ batch.items ∧ Received d item := by
  have hfit : ∀ d ∈ m.deliveries, d.canonicalBytes.length ≤ request.maxEncodedBytes := by
    intro d _
    obtain ⟨envelope, henvelope, -⟩ := d.canonical
    rw [← henvelope, hroomy.bytes]
    exact Nat.le_trans envelope.length_bytes (by decide)
  obtain ⟨batch, taken, hpoll, hreceived, hall⟩ := pollNow_succeeds hordered hsequenced hm hbound
    hcursor hrange ⟨reading, reading⟩ hopen hopen hfit
  rw [hall hroomy, Nat.max_self] at hreceived
  obtain ⟨item, hitem, hsame⟩ := mem_of_forall₂_received hreceived hd
  exact ⟨batch, item, hpoll, hitem, hsame⟩

end

end SessionChat.Mailbox.Provider

namespace SessionChat.Mailbox.Receiving

open Transition Codec Transport
open Provider (Holds Sequenced Received)
open DeterministicLifecycleProvider (maximumSequence pending)

variable {b : CursorBinding} {P : DeterministicLifecycleProvider}
  {O : DeterministicReceiveStateOwner} {h : History}

/-! ## Polling from the persisted position -/

/-- A poll from the checkpoint continues after the sequence. -/
def ContinuesAfter (b : CursorBinding) (checkpoint : ReceiveCheckpoint) (q : Nat) : Prop :=
  checkpoint.binding = b ∧ decodeCursor checkpoint.pollCursor (cursorScope b) = .ok q

variable {q now : Nat} {m : MailboxState} {d : StoredDelivery} {budget : OperationBudget}
  {w : ReceiverWorld}

theorem decodeCursor_cursorBytes {cursor : Cursor} (hbytes : cursor.bytes = cursorBytes b q)
    (hzero : q ≠ 0) (hmax : q ≤ u64Max) :
    decodeCursor (some cursor) (cursorScope b) = .ok q := by
  have hlength : cursor.bytes.length = 40 := by
    rw [hbytes]
    simp [cursorBytes]
  have htake : cursor.bytes.take 32 = cursorScope b := by
    rw [hbytes, cursorBytes, List.take_left' (length_cursorScope b)]
  have hsequence : ofBigEndian (cursor.bytes.drop 32) = q := by
    rw [hbytes]
    exact cursorSequence_cursorBytes hmax
  unfold decodeCursor
  simp only [hlength, htake, hsequence]
  rw [if_neg (by simp), if_neg hzero]

theorem loadCheckpoint_continues {persisted : PersistedCheckpoint}
    (hpersisted : O.checkpoint = some persisted) (hposition : Position b P O h persisted q)
    (hmax : q ≤ u64Max) (hlive : now < b.expiresAtUnixSeconds) :
    ∃ checkpoint, O.loadCheckpoint b now = .ok (some checkpoint) ∧
      ContinuesAfter b checkpoint q := by
  obtain ⟨binding, revision, position⟩ := persisted
  obtain rfl : binding = b := hposition.binding
  have hstands := hposition.standsFor
  unfold DeterministicReceiveStateOwner.loadCheckpoint
  simp only [hpersisted, ne_eq]
  cases position with
  | resume bytes =>
    obtain ⟨rfl, hzero⟩ : bytes = cursorBytes binding q ∧ q ≠ 0 := hstands
    simp only [ReceiveCheckpoint.resume, ReceiveCheckpoint.live, if_neg (Nat.not_le.mpr hlive)]
    exact ⟨_, rfl, rfl, decodeCursor_cursorBytes rfl hzero hmax⟩
  | committedPageWithoutCursor =>
    obtain rfl : q = 0 := hstands
    simp only [ReceiveCheckpoint.committedPageWithoutCursor, ReceiveCheckpoint.live,
      if_neg (Nat.not_le.mpr hlive)]
    exact ⟨_, rfl, rfl, rfl⟩
  | explicitResynchronization reason =>
    obtain rfl : q = 0 := hstands
    simp only [ReceiveCheckpoint.fromRecordedResynchronization, ReceiveCheckpoint.live,
      if_neg (Nat.not_le.mpr hlive)]
    exact ⟨_, rfl, rfl, rfl⟩

/-- The next poll continues from a position that leaves nothing unsettled behind. -/
theorem Coupled.continues (hcoupled : Coupled b P O h) (hlive : now < b.expiresAtUnixSeconds) :
    ∃ checkpoint q, (O.loadCheckpoint b now = .ok (some checkpoint) ∨
        checkpoint.position = .newGeneration) ∧ ContinuesAfter b checkpoint q ∧ Reached P b q ∧
      ∀ d, Holds P b d → d.sequence ≤ q →
        d.acknowledged ∨ Stored O d.deliveryId ∨ ExpiredBy h d := by
  rcases hpersisted : O.checkpoint with _ | persisted
  · refine ⟨⟨b, ⟨1, by decide⟩, .newGeneration, (by simp)⟩, 0, .inr rfl, ⟨rfl, rfl⟩, .inl rfl, ?_⟩
    intro d hd hle
    have hpositive := (hcoupled.sequenced.bounded _ _ hd).1
    omega
  · obtain ⟨q, hposition⟩ := hcoupled.position persisted hpersisted
    have hmax : q ≤ u64Max := by
      have hnext := hcoupled.sequenced.next
      rcases hposition.reached with rfl | ⟨d, hd, hle⟩
      · exact Nat.zero_le _
      · have hlt := (hcoupled.sequenced.bounded _ _ hd).2
        omega
    obtain ⟨checkpoint, hload, hcontinues⟩ :=
      loadCheckpoint_continues hpersisted hposition hmax hlive
    exact ⟨checkpoint, q, .inl hload, hcontinues, hposition.reached, hposition.behind⟩

theorem sequence_le_maximum (hsequenced : Sequenced P) (hm : m ∈ P.mailboxes)
    (hd : d ∈ m.deliveries) : d.sequence ≤ maximumSequence m.deliveries := by
  have hsorted := hsequenced.sorted m hm
  obtain ⟨front, last, hsplit⟩ := List.eq_nil_or_concat m.deliveries |>.resolve_left
    (List.ne_nil_of_mem hd)
  rw [List.concat_eq_append] at hsplit
  rw [hsplit] at hd hsorted ⊢
  have hmaximum : maximumSequence (front ++ [last]) = last.sequence := by
    simp [maximumSequence]
  rw [hmaximum]
  rcases List.mem_append.mp hd with hfront | hlast
  · rw [List.map_append] at hsorted
    exact Nat.le_of_lt ((List.pairwise_append.mp hsorted).2.2 _ (List.mem_map_of_mem hfront) _
      (List.mem_map_of_mem (List.mem_singleton_self last)))
  · rw [List.mem_singleton.mp hlast]

/-- Polling can go on so that the next page, read at this time, has the delivery in it. -/
def Returned (b : CursorBinding) (w : ReceiverWorld) (reading : DispatchReading)
    (budget : OperationBudget) (d : StoredDelivery) : Prop :=
  ∃ v authority request batch item, Later b w v ∧ v.state = w.state ∧ request.budget = budget ∧
    Admitted b v (.provider (.poll authority request ⟨reading, reading⟩)) ∧
    v.state.provider.pollNow authority request ⟨reading, reading⟩ = .ok batch ∧
    item ∈ batch.items ∧ Received d item

theorem pollRequest_roomy (checkpoint : ReceiveCheckpoint)
    (hlive : now < checkpoint.binding.expiresAtUnixSeconds)
    (hbudget : maxPollEncodedBytes ≤ budget.maxNetworkBytes) :
    ∃ request, checkpoint.pollRequest maxPollEnvelopes maxPollEncodedBytes budget now =
      .ok request ∧ Provider.Roomy request ∧ request.budget = budget ∧
      request.receiveBinding = some (.fromCheckpoint checkpoint) ∧
      request.cursor = checkpoint.pollCursor := by
  have hbounded : (0 < maxPollEnvelopes ∧ maxPollEnvelopes ≤ maxPollEnvelopes) ∧
      (0 < maxPollEncodedBytes ∧ maxPollEncodedBytes ≤ maxPollEncodedBytes) ∧
      maxPollEncodedBytes ≤ budget.maxNetworkBytes :=
    ⟨⟨by decide, Nat.le_refl _⟩, ⟨by decide, Nat.le_refl _⟩, hbudget⟩
  unfold ReceiveCheckpoint.pollRequest ReceiveCheckpoint.ensureLive PollRequest.new
  rw [if_neg (Nat.not_le.mpr hlive), dif_pos hbounded]
  exact ⟨_, rfl, ⟨rfl, rfl⟩, rfl, rfl, rfl⟩

/-- The checkpoint is at hand after a load that changes nothing. -/
theorem exists_available {checkpoint : ReceiveCheckpoint} (hbinding : checkpoint.binding = b)
    (hsource : w.state.owner.loadCheckpoint b now = .ok (some checkpoint) ∨ checkpoint.position =
      .newGeneration) :
    ∃ v, Later b w v ∧ v.state = w.state ∧ Available b v.history checkpoint := by
  rcases hsource with hload | hnew
  · refine ⟨w.after step (.owner (.load b now)), (Leads.refl w).tail trivial, rfl, .inl ?_⟩
    refine mem_filterMap_append.mpr (.inr ?_)
    simp only [step, Owner.call, hload, Reply.loaded?]
  · exact ⟨w, .refl w, rfl, .inr ⟨hbinding, hnew⟩⟩

theorem Coupled.returned (hcoupled : Coupled b w.state.provider w.state.owner w.history)
    (hm : m ∈ w.state.provider.mailboxes) (hbinding : m.material.binding = b)
    (hd : d ∈ m.deliveries) (hunacknowledged : ¬d.acknowledged)
    (hunstored : ¬Stored w.state.owner d.deliveryId) (hunexpired : ¬ExpiredBy w.history d)
    {reading : DispatchReading} (hopen : Provider.Open m budget reading now)
    (hnow : now < d.expiresAtUnixSeconds) (hbudget : maxPollEncodedBytes ≤ budget.maxNetworkBytes) :
    Returned b w reading budget d := by
  subst hbinding
  have hheld : Holds w.state.provider m.material.binding d := ⟨m, hm, rfl, hd⟩
  obtain ⟨checkpoint, q, hsource, ⟨hbound, hcursor⟩, hreached, hbehind⟩ :=
    hcoupled.continues hopen.live
  obtain ⟨v, hlater, hstate, havailable⟩ := exists_available hbound hsource
  obtain ⟨request, hrequest, hroomy, rfl, hreceive, hposition⟩ :=
    pollRequest_roomy checkpoint (by rw [hbound]; exact hopen.live) hbudget
  obtain ⟨time, hordered⟩ := hcoupled.ordered
  have hafter : q < d.sequence := by
    by_contra hle
    rcases hbehind d hheld (Nat.not_lt.mp hle) with hacknowledged | hstored | hexpired
    · exact hunacknowledged hacknowledged
    · exact hunstored hstored
    · exact hunexpired hexpired
  have hrange : q ≤ maximumSequence m.deliveries :=
    Nat.le_trans (Nat.le_of_lt hafter) (sequence_le_maximum hcoupled.sequenced hm hd)
  have hpending : d ∈ pending m.deliveries q now :=
    List.mem_filter.mpr ⟨hd, by simp [hafter, hunacknowledged, hnow]⟩
  obtain ⟨batch, item, hpoll, hitem, hreceived⟩ :=
    Provider.pollNow_returns hordered hcoupled.sequenced hm
      (by
        intro binding hmem
        rw [hreceive] at hmem
        rw [← Option.some.inj hmem]
        exact hbound)
      (by rw [hposition]; exact hcursor) hrange hopen hroomy hpending
  exact ⟨v, _, request, batch, item, hlater, hstate, rfl,
    ⟨checkpoint, _, _, _, _, havailable, hrequest⟩, by rw [hstate]; exact hpoll, hitem, hreceived⟩

end SessionChat.Mailbox.Receiving
