import SessionChat.Mailbox.Receiving

/-!
# The coupling of provider and owner

Source: `crates/transport-conformance/src/lifecycle_provider.rs`, `receive_owner.rs`.

The invariant that relates cursor positions at the provider to the checkpoint, the
stored items and the unaccepted acknowledgement at the owner. Provider calls and
owner calls keep it separately.
-/

set_option autoImplicit false

namespace SessionChat.Mailbox.Receiving

open Collections Transition Codec Transport Provider
  DeterministicLifecycleProvider

variable {b : CursorBinding} {P P' : DeterministicLifecycleProvider}
  {O O' : DeterministicReceiveStateOwner} {h h' : History}

def Stored (O : DeterministicReceiveStateOwner) (id : DeliveryId) : Prop :=
  ∃ bytes, O.stored.get? id = some bytes

/-- The delivery was expired at a time the provider has read. -/
def ExpiredBy (h : History) (d : StoredDelivery) : Prop :=
  ∃ t ∈ times h, d.expiresAtUnixSeconds ≤ t

/-- The mailbox has come at least as far as the sequence. -/
def Reached (P : DeterministicLifecycleProvider) (b : CursorBinding) (q : Nat) : Prop :=
  q = 0 ∨ ∃ d, Holds P b d ∧ q ≤ d.sequence

/-- The next cursor of a page stands for the sequence. -/
def NextIs (b : CursorBinding) (q : Nat) : Option Cursor → Prop
  | none => q = 0
  | some cursor => cursor.bytes = cursorBytes b q ∧ q ≠ 0

/-- A page polled from this mailbox: what lies between its cursors is in it, or need not be. -/
structure Page (b : CursorBinding) (P : DeterministicLifecycleProvider) (h : History)
    (batch : ReceiveBatch) (origin : ReceivePollBinding) (q : Nat) : Prop where
  known : ∀ item ∈ batch.items, ∃ binding d, Holds P binding d ∧ Received d item
  made : batch.receiveBinding = some origin
  binding : origin.binding = b
  next : NextIs b q batch.nextCursor
  reached : Reached P b q
  between : ∀ d, Holds P b d → sequenceOf origin.position < d.sequence → d.sequence ≤ q →
    d.acknowledged ∨ (∃ item ∈ batch.items, item.deliveryId = d.deliveryId) ∨ ExpiredBy h d

/-- The persisted position leaves nothing behind that is neither stored nor settled. -/
structure Position (b : CursorBinding) (P : DeterministicLifecycleProvider)
    (O : DeterministicReceiveStateOwner) (h : History) (persisted : PersistedCheckpoint)
    (q : Nat) : Prop where
  binding : persisted.binding = b
  standsFor : StandsFor b q persisted.position
  reached : Reached P b q
  behind : ∀ d, Holds P b d → d.sequence ≤ q →
    d.acknowledged ∨ Stored O d.deliveryId ∨ ExpiredBy h d

structure Coupled (b : CursorBinding) (P : DeterministicLifecycleProvider)
    (O : DeterministicReceiveStateOwner) (h : History) : Prop where
  ordered : ∃ time, (Provider.directory P).Ordered time
  sequenced : Sequenced P
  storedKnown : ∀ id bytes, O.stored.get? id = some bytes →
    ∃ binding d, Holds P binding d ∧ d.deliveryId = id ∧ d.canonicalBytes = bytes
  acknowledgedStored : ∀ binding d, Holds P binding d → d.acknowledged → Stored O d.deliveryId
  intentStored : ∀ intent ∈ O.recoverable, ∀ id ∈ intent.2.ids, Stored O id
  leasesStored : ∀ lease ∈ leases h, ∀ id ∈ lease.deliveryIds.ids, Stored O id
  loadedBound : ∀ checkpoint ∈ loaded h, checkpoint.binding = b ∧ O.checkpoint ≠ none
  pages : ∀ batch ∈ batches h, ∃ origin q, Page b P h batch origin q
  position : ∀ persisted ∈ O.checkpoint, ∃ q, Position b P O h persisted q

theorem Coupled.init (scope : Nat) : Coupled b (.new scope) .new [] where
  ordered := ⟨0, Provider.ordered_new scope⟩
  sequenced := .new scope
  storedKnown _ _ hget := absurd hget (by rintro ⟨⟩)
  acknowledgedStored _ _ hholds := absurd hholds.choose_spec.1 List.not_mem_nil
  intentStored _ hintent := absurd hintent (Option.not_mem_none _)
  leasesStored _ hlease := absurd hlease List.not_mem_nil
  loadedBound _ hloaded := absurd hloaded List.not_mem_nil
  pages _ hbatch := absurd hbatch List.not_mem_nil
  position _ hpersisted := absurd hpersisted (Option.not_mem_none _)

/-! ## Provider calls -/

section

variable {c : Provider.Call} {reply : Provider.Reply} {q now p time : Nat} {d' d : StoredDelivery}
  {batch : ReceiveBatch} {checkpoint : ReceiveCheckpoint} {request : PollRequest}
  {index : Fin P.mailboxes.length} {authority : Capability .receive} {control : DispatchControl}

theorem Reached.effect (hreached : Reached P b q) (heffect : Provider.Effect P c reply P') :
    Reached P' b q := by
  rcases hreached with rfl | ⟨d, hd, hle⟩
  · exact .inl rfl
  · obtain ⟨d', hd', hmarks⟩ := heffect.holds_forth hd
    exact .inr ⟨d', hd', by rw [hmarks.sequence]; exact hle⟩

/-- Up to a reached sequence a call adds no delivery. -/
theorem holds_of_reached (hsequenced : Sequenced P) (hreached : Reached P b q)
    (heffect : Provider.Effect P c reply P') (hd' : Holds P' b d') (hle : d'.sequence ≤ q) :
    ∃ d, Holds P b d ∧ Marks c.acknowledges d d' := by
  rcases heffect.holds_back hd' with hold | ⟨_, _, _, _, -, -, hdeposits, -⟩
  · exact hold
  · rw [hdeposits.sequence] at hle
    have hnext := hsequenced.next
    rcases hreached with rfl | ⟨d, hd, hq⟩
    · omega
    · have hlt := (hsequenced.bounded _ _ hd).2
      omega

theorem ExpiredBy.mono (hexpired : ExpiredBy h d)
    (hsame : d'.expiresAtUnixSeconds = d.expiresAtUnixSeconds) (hsub : times h ⊆ times h') :
    ExpiredBy h' d' := by
  obtain ⟨t, ht, hle⟩ := hexpired
  exact ⟨t, hsub ht, by rw [hsame]; exact hle⟩

theorem Page.effect {origin : ReceivePollBinding} (hpage : Page b P h batch origin q)
    (hsequenced : Sequenced P) (heffect : Provider.Effect P c reply P') (hsub : times h ⊆ times h')
      : Page b P' h' batch origin q where
  known item hitem := by
    obtain ⟨binding, d, hd, hreceived⟩ := hpage.known item hitem
    obtain ⟨d', hd', hmarks⟩ := heffect.holds_forth hd
    exact ⟨binding, d', hd', by rw [hmarks.deliveryId]; exact hreceived.1,
      by rw [hmarks.canonicalBytes]; exact hreceived.2⟩
  made := hpage.made
  binding := hpage.binding
  next := hpage.next
  reached := hpage.reached.effect heffect
  between d' hd' hafter hle := by
    obtain ⟨d, hd, hmarks⟩ := holds_of_reached hsequenced hpage.reached heffect hd' hle
    rw [hmarks.sequence] at hafter hle
    rcases hpage.between d hd hafter hle with hacknowledged | hitem | hexpired
    · exact .inl (hmarks.of_acknowledged hacknowledged)
    · exact .inr (.inl (by rw [hmarks.deliveryId]; exact hitem))
    · exact .inr (.inr (hexpired.mono hmarks.expiresAt hsub))

theorem Position.effect {persisted : PersistedCheckpoint} (hposition : Position b P O h persisted q)
    (hsequenced : Sequenced P) (heffect : Provider.Effect P c reply P') (hsub : times h ⊆ times h')
      : Position b P' O h' persisted q where
  binding := hposition.binding
  standsFor := hposition.standsFor
  reached := hposition.reached.effect heffect
  behind d' hd' hle := by
    obtain ⟨d, hd, hmarks⟩ := holds_of_reached hsequenced hposition.reached heffect hd' hle
    rw [hmarks.sequence] at hle
    rcases hposition.behind d hd hle with hacknowledged | hstored | hexpired
    · exact .inl (hmarks.of_acknowledged hacknowledged)
    · exact .inr (.inl (by rw [hmarks.deliveryId]; exact hstored))
    · exact .inr (.inr (hexpired.mono hmarks.expiresAt hsub))

theorem pollRequest_ok {maxEnvelopes maxEncodedBytes : Nat} {budget : OperationBudget}
    (hok : checkpoint.pollRequest maxEnvelopes maxEncodedBytes budget now = .ok request) :
    request.cursor = checkpoint.pollCursor ∧
      request.receiveBinding = some (.fromCheckpoint checkpoint) := by
  simp only [ReceiveCheckpoint.pollRequest, Control.bind_eq_ok] at hok
  obtain ⟨-, -, hrest⟩ := hok
  split at hrest
  case h_1 built hnew =>
    cases hrest
    unfold PollRequest.new at hnew
    split_ifs at hnew
    cases hnew
    exact ⟨rfl, rfl⟩
  case h_2 => cases hrest

theorem le_maximumSequence {deliveries : List StoredDelivery} (hle : p ≤
      maximumSequence deliveries) : p = 0 ∨ ∃ d ∈ deliveries, p ≤ d.sequence := by
  unfold maximumSequence at hle
  rcases hlast : deliveries.getLast? with _ | d <;> rw [hlast] at hle
  · exact .inl (Nat.le_zero.mp hle)
  · exact .inr ⟨d, List.mem_of_getLast? hlast, hle⟩

theorem nextIs_of_nextCursor {next : Option Cursor}
    (hnext : DeterministicLifecycleProvider.nextCursor b q = .ok next) : NextIs b q next := by
  unfold DeterministicLifecycleProvider.nextCursor at hnext
  split_ifs at hnext with hq
  · split at hnext
    · cases hnext
    case h_2 cursor hcursor =>
      cases hnext
      cases hcursor
      exact ⟨rfl, hq⟩
  · cases hnext
    exact not_not.mp hq

/-- A mailbox used under a binding holds what the binding's mailbox holds. -/
theorem mem_of_usable (hordered : (Provider.directory P).Ordered time) {kind : RightKind}
    {right : Capability kind} {reading : DispatchReading}
    (husable : Provider.Usable P right reading index now) :
    Holds P right.binding d ↔ d ∈ (P.mailboxes.get index).deliveries := by
  constructor
  · rintro ⟨mailbox, hmailbox, hbinding, hmem⟩
    have hsame : P.mailboxes.get index = mailbox :=
      Provider.mailbox_unique hordered (List.getElem_mem _) hmailbox
        (husable.binding.trans hbinding.symm)
    rw [hsame]
    exact hmem
  · intro hmem
    exact ⟨_, List.getElem_mem _, husable.binding, hmem⟩

/-- The cursor of a page is a sequence the mailbox has come to. -/
theorem reached_of_polls (hordered : (Provider.directory P).Ordered time)
    (hpolls : Provider.Polls P authority request control batch index p q now) :
    Reached P authority.binding q := by
  rcases hpolls.reached with rfl | ⟨d, hd, rfl⟩
  · obtain ⟨first, firstNow, hfirst, hrange⟩ := hpolls.first
    refine (le_maximumSequence hrange).imp_right ?_
    rintro ⟨d, hd, hle⟩
    exact ⟨d, (mem_of_usable hordered hfirst).mpr hd, hle⟩
  · obtain ⟨lastNow, husable⟩ := hpolls.last
    exact .inr ⟨d, (mem_of_usable hordered husable).mpr hd, Nat.le_refl _⟩

theorem page_of_poll (hsequenced : Sequenced P) (hordered : (Provider.directory P).Ordered time)
    (hpoll : P.pollNow authority request control = .ok batch)
    (hcursor : request.cursor = checkpoint.pollCursor)
    (hreceive : request.receiveBinding = some (.fromCheckpoint checkpoint))
    (hbinding : checkpoint.binding = b)
    (htimes : ∀ t ∈ (Provider.Call.poll authority request control).times, t ∈ times h) :
    ∃ origin q, Page b P h batch origin q := by
  obtain ⟨index, p, q, now, hpolls⟩ := Provider.pollNow_ok hpoll
  obtain ⟨lastNow, husable⟩ := hpolls.last
  have hauthority : authority.binding = b := by
    rw [← hpolls.bound _ hreceive]
    exact hbinding
  have hdecoded := hpolls.cursor
  rw [hcursor] at hdecoded
  have hp := sequence_of_decodeCursor hdecoded
  have hmem : ∀ {d}, Holds P b d ↔ d ∈ (P.mailboxes.get index).deliveries := by
    rw [← hauthority]
    exact mem_of_usable hordered husable
  have hreached : Reached P b q := by
    rw [← hauthority]
    exact reached_of_polls hordered hpolls
  refine ⟨.fromCheckpoint checkpoint, q, ?_, hpolls.receiveBinding.trans hreceive, hbinding, ?_,
    hreached, ?_⟩
  · intro item hitem
    obtain ⟨mailbox, hmailbox, -, hitems⟩ := Provider.polled_from_mailbox hpoll
    obtain ⟨d, hd, hreceived⟩ := hitems item hitem
    exact ⟨_, d, ⟨mailbox, hmailbox, rfl, hd⟩, hreceived⟩
  · rw [← hauthority]
    exact nextIs_of_nextCursor hpolls.next
  · intro d hd hafter hle
    rw [← hp] at hafter
    rcases hpolls.covers hsequenced (hmem.mp hd) hafter hle with
      hacknowledged | ⟨item, hitem, hreceived⟩ | hexpired
    · exact .inl hacknowledged
    · exact .inr (.inl ⟨item, hitem, hreceived.1⟩)
    · refine .inr (.inr ⟨now, htimes now ?_, hexpired⟩)
      simp only [Provider.Call.times, List.mem_append, Option.mem_toList]
      exact hpolls.time.2

theorem Coupled.provider {w : ReceiverWorld} (hcoupled : Coupled b P O w.history)
    (hadmitted : Admitted b w (.provider c)) : Coupled b (Provider.call P c).1 O
      (w.history ++ [⟨.provider c, .provider (Provider.call P c).2⟩]) := by
  have heffect := Provider.call_effect P c
  have hsub : times w.history ⊆
      times (w.history ++ [⟨.provider c, .provider (Provider.call P c).2⟩]) := by
    simp only [readings, List.flatMap_append]
    exact List.subset_append_left _ _
  obtain ⟨time, hordered⟩ := hcoupled.ordered
  refine ⟨⟨_, heffect.ordered hordered⟩, hcoupled.sequenced.effect hordered heffect, ?_, ?_,
    hcoupled.intentStored, ?_, ?_, ?_, ?_⟩
  · intro id bytes hget
    obtain ⟨binding, d, hd, rfl, rfl⟩ := hcoupled.storedKnown id bytes hget
    obtain ⟨d', hd', hmarks⟩ := heffect.holds_forth hd
    exact ⟨binding, d', hd', hmarks.deliveryId, hmarks.canonicalBytes⟩
  · intro binding d' hd' hacknowledged
    rcases heffect.holds_back hd' with ⟨d, hd, hmarks⟩ | ⟨_, _, _, _, -, -, hdeposits, -⟩
    · rw [hmarks.deliveryId]
      rcases hmarks.acknowledged hacknowledged with hold | hnamed
      · exact hcoupled.acknowledgedStored binding d hd hold
      · cases c with
        | acknowledge authority request control =>
          obtain ⟨lease, hlease, hids⟩ := hadmitted
          refine hcoupled.leasesStored lease hlease _ ?_
          rw [← hids]
          exact hnamed
        | _ => exact absurd hnamed List.not_mem_nil
    · rw [hdeposits.unacknowledged] at hacknowledged
      exact absurd hacknowledged Bool.false_ne_true
  · intro lease hlease
    rcases mem_filterMap_append.mp hlease with hold | hnew
    · exact hcoupled.leasesStored lease hold
    · cases hnew
  · intro checkpoint hloaded
    rcases mem_filterMap_append.mp hloaded with hold | hnew
    · exact hcoupled.loadedBound checkpoint hold
    · cases hnew
  · intro batch hbatch
    rcases mem_filterMap_append.mp hbatch with hold | hnew
    · obtain ⟨origin, q, hpage⟩ := hcoupled.pages batch hold
      exact ⟨origin, q, hpage.effect hcoupled.sequenced heffect hsub⟩
    · cases c with
      | poll authority request control =>
        obtain ⟨checkpoint, _, _, _, _, havailable, hrequest⟩ := hadmitted
        obtain ⟨hcursor, hreceive⟩ := pollRequest_ok hrequest
        have hpoll : P.pollNow authority request control = .ok batch := by
          simp only [Provider.call, Reply.batch?] at hnew
          split at hnew
          · simp_all
          · cases hnew
        have hbinding : checkpoint.binding = b := by
          rcases havailable with hloaded | ⟨hbinding, -⟩
          · exact (hcoupled.loadedBound checkpoint hloaded).1
          · exact hbinding
        refine page_of_poll hcoupled.sequenced hordered hpoll hcursor hreceive hbinding ?_
        intro t ht
        simp only [readings, List.flatMap_append, List.mem_append]
        exact .inr (by simpa [Call.times] using ht)
      | _ => simp [Provider.call, Reply.batch?] at hnew
  · intro persisted hpersisted
    obtain ⟨q, hposition⟩ := hcoupled.position persisted hpersisted
    exact ⟨q, hposition.effect hcoupled.sequenced heffect hsub⟩

end

/-! ## Owner calls -/

variable {checkpoint : ReceiveCheckpoint} {w : ReceiverWorld} {binding : CursorBinding}

theorem loadCheckpoint_ok {now : Nat}
    (hload : O.loadCheckpoint binding now = .ok (some checkpoint)) :
    ∃ persisted, O.checkpoint = some persisted ∧ checkpoint.persisted? = some persisted ∧
      checkpoint.binding = persisted.binding := by
  unfold DeterministicReceiveStateOwner.loadCheckpoint at hload
  split_ifs at hload with hexpired
  rcases hpersisted : O.checkpoint with _ | ⟨persistedBinding, revision, position⟩ <;>
    simp only [hpersisted] at hload
  · cases hload
  · split_ifs at hload with hforeign
    · cases hload
    · obtain rfl : persistedBinding = binding := not_not.mp hforeign
      cases position with
      | resume bytes =>
        rcases hcursor : Cursor.new bytes with error | cursor <;> simp only [hcursor] at hload
        · cases hload
        · have hbytes : cursor.bytes = bytes := by
            unfold Cursor.new at hcursor
            split_ifs at hcursor
            cases hcursor
            rfl
          simp only [ReceiveCheckpoint.resume, ReceiveCheckpoint.live, if_neg hexpired] at hload
          cases hload
          exact ⟨_, rfl, by simp only [ReceiveCheckpoint.persisted?, hbytes], rfl⟩
      | committedPageWithoutCursor =>
        simp only [ReceiveCheckpoint.committedPageWithoutCursor, ReceiveCheckpoint.live,
          if_neg hexpired] at hload
        cases hload
        exact ⟨_, rfl, rfl, rfl⟩
      | explicitResynchronization reason =>
        simp only [ReceiveCheckpoint.fromRecordedResynchronization, ReceiveCheckpoint.live,
          if_neg hexpired] at hload
        cases hload
        exact ⟨_, rfl, rfl, rfl⟩

theorem loadCheckpoint_of_loaded? {c : Owner.Call}
    (hloaded : (Reply.owner (Owner.call O c).2).loaded? = some checkpoint) :
    ∃ binding now, O.loadCheckpoint binding now = .ok (some checkpoint) := by
  cases c with
  | load binding now =>
    refine ⟨binding, now, ?_⟩
    simp only [Owner.call] at hloaded
    rcases hresult : O.loadCheckpoint binding now with error | found <;> rw [hresult] at hloaded
    · cases hloaded
    · rw [show found = some checkpoint from hloaded]
  | _ => simp [Owner.call, Reply.loaded?] at hloaded

section

variable {c : Owner.Call} {reply : Owner.Reply}

/-- An owner call that stores nothing and keeps the checkpoint. -/
theorem Coupled.frame (hcoupled : Coupled b P O h) (hstored : O'.stored = O.stored)
    (hcheckpoint : O'.checkpoint = O.checkpoint)
    (hintent : ∀ intent ∈ O'.recoverable, intent ∈ O.recoverable)
    (hlease : ∀ lease ∈ reply.lease?, ∀ id ∈ lease.deliveryIds.ids, Stored O id)
    (hloaded : ∀ checkpoint ∈ (Reply.owner reply).loaded?,
      checkpoint.binding = b ∧ O.checkpoint ≠ none) :
    Coupled b P O' (h ++ [⟨.owner c, .owner reply⟩]) := by
  have htimes : times (h ++ [⟨.owner c, .owner reply⟩]) = times h := by
    simp [readings, Call.times]
  have hstoredIff : ∀ id, Stored O' id ↔ Stored O id := fun id => by simp only [Stored, hstored]
  have hexpired : ∀ d, ExpiredBy (h ++ [⟨.owner c, .owner reply⟩]) d ↔ ExpiredBy h d :=
    fun d => by simp only [ExpiredBy, htimes]
  refine ⟨hcoupled.ordered, hcoupled.sequenced, by rw [hstored]; exact hcoupled.storedKnown, ?_,
    ?_, ?_, ?_, ?_, ?_⟩
  · simpa only [hstoredIff] using hcoupled.acknowledgedStored
  · simp only [hstoredIff]
    exact fun intent hmem => hcoupled.intentStored intent (hintent intent hmem)
  · intro lease hmem
    simp only [hstoredIff]
    rcases mem_filterMap_append.mp hmem with hold | hnew
    · exact hcoupled.leasesStored lease hold
    · exact hlease lease hnew
  · intro checkpoint hmem
    rw [hcheckpoint]
    rcases mem_filterMap_append.mp hmem with hold | hnew
    · exact hcoupled.loadedBound checkpoint hold
    · exact hloaded checkpoint hnew
  · intro batch hmem
    rcases mem_filterMap_append.mp hmem with hold | hnew
    · obtain ⟨origin, q, hpage⟩ := hcoupled.pages batch hold
      refine ⟨origin, q, hpage.known, hpage.made, hpage.binding, hpage.next, hpage.reached, ?_⟩
      simpa only [hexpired] using hpage.between
    · cases hnew
  · rw [hcheckpoint]
    intro persisted hpersisted
    obtain ⟨q, hposition⟩ := hcoupled.position persisted hpersisted
    refine ⟨q, hposition.binding, hposition.standsFor, hposition.reached, ?_⟩
    simpa only [hexpired, hstoredIff] using hposition.behind

variable {checkpoint : ReceiveCheckpoint} {persisted : PersistedCheckpoint} {batch : ReceiveBatch}
  {transition : ReceivePageCommit} {q : Nat}

theorem binding_of_persisted? (hpersisted : checkpoint.persisted? = some persisted) :
    checkpoint.binding = persisted.binding := by
  unfold ReceiveCheckpoint.persisted? at hpersisted
  split at hpersisted <;> cases hpersisted <;> rfl

theorem Coupled.loaded_of_call (hcoupled : Coupled b P O h) (checkpoint : ReceiveCheckpoint)
    (hloaded : checkpoint ∈ (Reply.owner (Owner.call O c).2).loaded?) :
    checkpoint.binding = b ∧ O.checkpoint ≠ none := by
  obtain ⟨binding, now, hload⟩ := loadCheckpoint_of_loaded? hloaded
  obtain ⟨persisted, hsome, -, hbinding⟩ := loadCheckpoint_ok hload
  obtain ⟨q, hposition⟩ := hcoupled.position persisted hsome
  exact ⟨hbinding.trans hposition.binding, by rw [hsome]; simp⟩

theorem pageCommit_ok (hnew : ReceivePageCommit.new checkpoint batch = .ok transition) :
    batch.receiveBinding = some (.fromCheckpoint checkpoint) ∧
      transition.expectedCheckpoint = checkpoint ∧ transition.items = batch.items ∧
      transition.nextCursor = batch.nextCursor.map (BoundCursor.mk · checkpoint.binding) := by
  unfold ReceivePageCommit.new at hnew
  split at hnew
  · cases hnew
  case isFalse hbinding =>
    dsimp only at hnew
    split at hnew
    · cases hnew
      exact ⟨not_not.mp hbinding, rfl, rfl, rfl⟩
    · split at hnew
      · cases hnew
      · cases hnew
        exact ⟨not_not.mp hbinding, rfl, rfl, rfl⟩

theorem nodup_items (transition : ReceivePageCommit) :
    (transition.items.map ReceivedCanonicalEnvelope.deliveryId).Nodup := by
  rw [transition.intent]
  rcases transition.acknowledgementIntent with _ | ids
  · exact .nil
  · exact ids.bounded.2.2

/-- The position a page is polled from is the one persisted when it is committed. -/
theorem sequenceOf_expected (hsequenced : Sequenced P) (hposition : Position b P O h persisted q)
    (hexpected : checkpoint.persisted? = some persisted) :
    sequenceOf (ReceivePollBinding.fromCheckpoint checkpoint).position = q := by
  have hq : q ≤ u64Max := by
    have hnext := hsequenced.next
    rcases hposition.reached with rfl | ⟨d, hd, hle⟩
    · omega
    · have hlt := (hsequenced.bounded _ _ hd).2
      omega
  have hstands := hposition.standsFor
  unfold ReceiveCheckpoint.persisted? at hexpected
  cases hkind : checkpoint.position with
  | newGeneration => simp only [hkind, reduceCtorEq] at hexpected
  | resume cursor =>
    simp only [hkind] at hexpected
    cases hexpected
    obtain ⟨hbytes, -⟩ := hstands
    simp only [ReceivePollBinding.fromCheckpoint, hkind, sequenceOf]
    rw [hbytes, cursorSequence_cursorBytes hq]
  | committedPageWithoutCursor =>
    simp only [hkind] at hexpected
    cases hexpected
    simpa only [ReceivePollBinding.fromCheckpoint, hkind, sequenceOf] using hstands.symm
  | explicitResynchronization reason =>
    simp only [hkind] at hexpected
    cases hexpected
    simpa only [ReceivePollBinding.fromCheckpoint, hkind, sequenceOf] using hstands.symm

theorem standsFor_nextPosition {next : Option Cursor}
    (hnext : transition.nextCursor = next.map (BoundCursor.mk · binding)) (hq : NextIs b q next) :
    StandsFor b q (DeterministicReceiveStateOwner.nextPosition transition) := by
  unfold DeterministicReceiveStateOwner.nextPosition
  rw [hnext]
  cases next with
  | none => exact hq
  | some cursor => exact hq

section

variable (hcoupled : Coupled b P O h)
include hcoupled

/-- Up to the cursor of a page, everything is settled once the page is committed. -/
theorem Coupled.behind_commit (hpage : Page b P h batch (.fromCheckpoint checkpoint) q)
    (havailable : Available b h checkpoint)
    (hexpected : O.checkpoint = none ∨ O.checkpoint = checkpoint.persisted?)
    (hkept : ∀ id, Stored O id → Stored O' id)
    (hitems : ∀ item ∈ batch.items, Stored O' item.deliveryId) {d : StoredDelivery}
    (hd : Holds P b d) (hle : d.sequence ≤ q) :
    d.acknowledged ∨ Stored O' d.deliveryId ∨ ExpiredBy h d := by
  by_cases hafter : sequenceOf (ReceivePollBinding.fromCheckpoint checkpoint).position < d.sequence
  · rcases hpage.between d hd hafter hle with hacknowledged | ⟨item, hitem, heq⟩ | hexpired
    · exact .inl hacknowledged
    · exact .inr (.inl (heq ▸ hitems item hitem))
    · exact .inr (.inr hexpired)
  · rcases hpersisted : O.checkpoint with _ | persisted
    · -- nothing is persisted yet, so the page was polled from the start of the generation
      have hzero : sequenceOf (ReceivePollBinding.fromCheckpoint checkpoint).position = 0 := by
        rcases havailable with hloaded | ⟨-, hposition⟩
        · exact absurd hpersisted (hcoupled.loadedBound checkpoint hloaded).2
        · simp only [ReceivePollBinding.fromCheckpoint, hposition, sequenceOf]
      have hpositive := (hcoupled.sequenced.bounded _ _ hd).1
      omega
    · have hsame : checkpoint.persisted? = some persisted := by
        rcases hexpected with hnone | hsome
        · exact absurd (hnone.symm.trans hpersisted) (by simp)
        · exact hsome.symm.trans hpersisted
      obtain ⟨p, hposition⟩ := hcoupled.position persisted hpersisted
      rw [sequenceOf_expected hcoupled.sequenced hposition hsame] at hafter
      exact (hposition.behind d hd (Nat.not_lt.mp hafter)).imp_right (.imp_left (hkept _))

theorem Coupled.committed {now : Nat} {nextRevision : ReceiveCheckpointRevision}
    {outcomes : List DeduplicationOutcome} {additions : List (DeliveryId × Storage.Bytes)}
    (havailable : Available b h checkpoint) (hbatch : batch ∈ batches h)
    (hnew : ReceivePageCommit.new checkpoint batch = .ok transition)
    (hcommits : Owner.Commits O transition now nextRevision outcomes additions)
    (hlease : reply.lease? = none) (hloaded : (Reply.owner reply).loaded? = none) :
    Coupled b P (Owner.afterCommit O transition nextRevision additions)
      (h ++ [⟨.owner c, .owner reply⟩]) := by
  obtain ⟨hreceive, hcheckpoint, hitems, hcursor⟩ := pageCommit_ok hnew
  obtain ⟨origin, q, hpage⟩ := hcoupled.pages batch hbatch
  obtain rfl : ReceivePollBinding.fromCheckpoint checkpoint = origin :=
    Option.some.inj (hreceive.symm.trans hpage.made)
  have hdedup := Owner.deduplicate_ok hcommits.deduplicated
  have hnodup := nodup_items transition
  have hkept : ∀ id, Stored O id →
      Stored (Owner.afterCommit O transition nextRevision additions) id :=
    fun id ⟨bytes, hget⟩ => ⟨bytes, hdedup.kept hget⟩
  have hstores : ∀ item ∈ transition.items,
      Stored (Owner.afterCommit O transition nextRevision additions) item.deliveryId :=
    fun item hitem => ⟨_, hdedup.stores hnodup hitem⟩
  have htimes : times (h ++ [⟨.owner c, .owner reply⟩]) = times h := by
    simp [readings, Call.times]
  refine ⟨hcoupled.ordered, hcoupled.sequenced, ?_, ?_, ?_, ?_, ?_, ?_, ?_⟩
  · intro id bytes hget
    rcases hdedup.back hnodup hget with hold | ⟨item, hitem, rfl, rfl⟩
    · exact hcoupled.storedKnown id bytes hold
    · rw [hitems] at hitem
      obtain ⟨binding, d, hd, hreceived⟩ := hpage.known item hitem
      exact ⟨binding, d, hd, hreceived.1.symm, hreceived.2.symm⟩
  · exact fun binding d hd hacknowledged =>
      hkept _ (hcoupled.acknowledgedStored binding d hd hacknowledged)
  · intro intent hintent id hid
    obtain ⟨ids, hids, rfl⟩ := Option.map_eq_some_iff.mp hintent
    have hmem : id ∈ transition.items.map ReceivedCanonicalEnvelope.deliveryId := by
      rw [transition.intent, hids]
      exact hid
    obtain ⟨item, hitem, rfl⟩ := List.mem_map.mp hmem
    exact hstores item hitem
  · intro lease hmem id hid
    rcases mem_filterMap_append.mp hmem with hold | hnone
    · exact hkept id (hcoupled.leasesStored lease hold id hid)
    · exact absurd (hlease.symm.trans hnone) (by simp)
  · intro other hmem
    rcases mem_filterMap_append.mp hmem with hold | hnone
    · exact ⟨(hcoupled.loadedBound other hold).1, (by rintro ⟨⟩)⟩
    · exact absurd (hloaded.symm.trans hnone) (by simp)
  · intro other hmem
    rcases mem_filterMap_append.mp hmem with hold | hnone
    · obtain ⟨origin, q, hother⟩ := hcoupled.pages other hold
      refine ⟨origin, q, hother.known, hother.made, hother.binding, hother.next, hother.reached, ?_⟩
      simpa only [ExpiredBy, htimes] using hother.between
    · cases hnone
  · intro persisted hpersisted
    obtain rfl := Option.some.inj hpersisted
    refine ⟨q, ?_, standsFor_nextPosition hcursor hpage.next, hpage.reached, ?_⟩
    · rw [hcheckpoint]
      exact hpage.binding
    · intro d hd hle
      simp only [ExpiredBy, htimes]
      refine hcoupled.behind_commit hpage havailable ?_ hkept ?_ hd hle
      · rw [← hcheckpoint]
        exact hcommits.expected
      · rw [← hitems]
        exact hstores

theorem Coupled.resynchronized {request : ResynchronizationRequest}
    (hpersisted : O.checkpoint = some persisted)
    (hexpected : request.expectedCheckpoint.persisted? = some persisted)
    (hlease : reply.lease? = none) (hloaded : (Reply.owner reply).loaded? = none) :
    Coupled b P (O.resynchronized request) (h ++ [⟨.owner c, .owner reply⟩]) := by
  have hframe : Coupled b P O (h ++ [⟨.owner c, .owner reply⟩]) := by
    refine hcoupled.frame rfl rfl (fun _ => id) ?_ ?_
    · rw [hlease]
      exact fun _ hmem => absurd hmem (Option.not_mem_none _)
    · rw [hloaded]
      exact fun _ hmem => absurd hmem (Option.not_mem_none _)
  refine ⟨hframe.ordered, hframe.sequenced, hframe.storedKnown, hframe.acknowledgedStored,
    hframe.intentStored, hframe.leasesStored, ?_, hframe.pages, ?_⟩
  · exact fun checkpoint hmem => ⟨(hframe.loadedBound checkpoint hmem).1, (by rintro ⟨⟩)⟩
  · intro next hnext
    obtain rfl := Option.some.inj hnext
    obtain ⟨q, hposition⟩ := hcoupled.position persisted hpersisted
    refine ⟨0, (binding_of_persisted? hexpected).trans hposition.binding, rfl, .inl rfl, ?_⟩
    intro d hd hle
    have hpositive := (hcoupled.sequenced.bounded _ _ hd).1
    omega

end

theorem Coupled.owner {w : ReceiverWorld} (hcoupled : Coupled b P O w.history)
    (hadmitted : Admitted b w (.owner c)) :
    Coupled b P (Owner.call O c).1 (w.history ++ [⟨.owner c, .owner (Owner.call O c).2⟩]) := by
  have hloaded := fun checkpoint =>
    hcoupled.loaded_of_call (c := c) checkpoint
  have heffect := Owner.call_effect O c
  generalize (Owner.call O c).2 = reply at heffect hloaded ⊢
  generalize (Owner.call O c).1 = O' at heffect ⊢
  have hnone : reply.lease? = none →
      ∀ lease ∈ reply.lease?, ∀ id ∈ lease.deliveryIds.ids, Stored O id := by
    intro heq lease hmem
    rw [heq] at hmem
    exact absurd hmem (Option.not_mem_none _)
  cases heffect with
  | quiet hquiet => exact hcoupled.frame rfl rfl (fun _ => id) (hnone hquiet.lease) hloaded
  | resynchronized _ _ hpersisted hexpected =>
    exact hcoupled.resynchronized hpersisted hexpected rfl rfl
  | committed hcommits =>
    obtain ⟨checkpoint, batch, havailable, hbatch, hnew⟩ := hadmitted
    exact hcoupled.committed havailable hbatch hnew hcommits rfl rfl
  | spent | lost => exact hcoupled.frame rfl rfl (fun _ => id) (hnone rfl) hloaded
  | leased _ _ hrecoverable | recovered hrecoverable =>
    refine hcoupled.frame rfl rfl (fun _ => id) ?_ hloaded
    intro lease hmem id hid
    obtain rfl := Option.some.inj hmem
    exact hcoupled.intentStored _ hrecoverable id hid
  | accepted =>
    refine hcoupled.frame rfl rfl ?_ (hnone rfl) hloaded
    exact fun _ hmem => absurd hmem (Option.not_mem_none _)
  | released | restarted => exact hcoupled.frame rfl rfl (fun _ => id) (hnone rfl) hloaded

end

theorem ReceiverRun.coupled {scope : Nat} (hrun : ReceiverRun scope b w) :
    Coupled b w.state.provider w.state.owner w.history := by
  refine hrun.invariant (I := fun w => Coupled b w.state.provider w.state.owner w.history) ?_
    (.init scope)
  rintro v (c | c) hadmitted hcoupled
  · exact hcoupled.provider hadmitted
  · exact hcoupled.owner hadmitted

end SessionChat.Mailbox.Receiving
