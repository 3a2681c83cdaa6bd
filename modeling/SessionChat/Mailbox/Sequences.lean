import SessionChat.Mailbox.Generations

/-!
# Deliveries and their sequence (`crates/transport-conformance/src/lifecycle_provider.rs`)

Every delivery of a provider has its own sequence number, from which its identifier
is made. Deposits append with the next number, acknowledgements only set a mark,
and no other call touches a delivery.
-/

set_option autoImplicit false

namespace SessionChat.Mailbox.Provider

open Transport Codec DeterministicLifecycleProvider

/-- The mailbox of the binding holds the delivery. -/
def Holds (s : DeterministicLifecycleProvider) (binding : CursorBinding)
    (delivery : StoredDelivery) : Prop :=
  ∃ mailbox ∈ s.mailboxes, mailbox.material.binding = binding ∧ delivery ∈ mailbox.deliveries

/-- The delivery is the same, or was marked because its identifier is named. -/
def Marks (ids : List DeliveryId) (d d' : StoredDelivery) : Prop :=
  d' = d ∨ d.deliveryId ∈ ids ∧ d' = { d with acknowledged := true }

namespace Marks

variable {ids : List DeliveryId} {d d' : StoredDelivery}

section

variable (h : Marks ids d d')
include h

theorem sequence : d'.sequence = d.sequence := by
  rcases h with rfl | ⟨-, rfl⟩ <;> rfl

theorem deliveryId : d'.deliveryId = d.deliveryId := by
  rcases h with rfl | ⟨-, rfl⟩ <;> rfl

theorem canonicalBytes : d'.canonicalBytes = d.canonicalBytes := by
  rcases h with rfl | ⟨-, rfl⟩ <;> rfl

theorem expiresAt : d'.expiresAtUnixSeconds = d.expiresAtUnixSeconds := by
  rcases h with rfl | ⟨-, rfl⟩ <;> rfl

theorem acknowledged (hd : d'.acknowledged) : d.acknowledged ∨ d.deliveryId ∈ ids := by
  rcases h with rfl | ⟨hid, -⟩
  · exact .inl hd
  · exact .inr hid

theorem of_acknowledged (hd : d.acknowledged) : d'.acknowledged := by
  rcases h with rfl | ⟨-, rfl⟩
  · exact hd
  · rfl

end

end Marks

variable {s s' : DeterministicLifecycleProvider} {c : Call} {reply : Reply}

/-! ## What a call does to the deliveries -/

def Call.acknowledges : Call → List DeliveryId
  | .acknowledge _ request _ => request.deliveryIds.ids
  | _ => []

/-- How the deliveries of one mailbox change in a call. -/
inductive Change (s s' : DeterministicLifecycleProvider) :
    Call → MailboxState → List StoredDelivery → Prop where
  | kept {c : Call} {mailbox : MailboxState} : Change s s' c mailbox mailbox.deliveries
  | appended {endpoint : Capability .deposit} {request : DepositRequest}
      {control : DispatchControl} {index : Fin s.mailboxes.length} {delivery : StoredDelivery}
      (hdeposits : Deposits s endpoint request control index delivery)
      (hnext : s'.nextDeliverySequence = s.nextDeliverySequence + 1) :
      Change s s' (.deposit endpoint request control) (s.mailboxes.get index)
        ((s.mailboxes.get index).deliveries ++ [delivery])
  | marked {authority : Capability .acknowledgement} {request : AcknowledgementRequest}
      {control : DispatchControl} {mailbox : MailboxState} :
      Change s s' (.acknowledge authority request control) mailbox
        (markAcknowledged request.deliveryIds.ids mailbox.deliveries)

variable {binding : CursorBinding} {retireAt : Nat} {mailboxes : List MailboxState}
  {m' m : MailboxState} {deliveries : List StoredDelivery} {d' d : StoredDelivery}

theorem mem_retire (h : m' ∈ retire binding retireAt mailboxes) :
    ∃ m ∈ mailboxes, m'.material = m.material ∧ m'.deliveries = m.deliveries := by
  induction mailboxes with
  | nil => exact absurd h List.not_mem_nil
  | cons mailbox mailboxes ih =>
    simp only [retire] at h
    split_ifs at h
    · rcases List.mem_cons.mp h with rfl | hmem
      · exact ⟨mailbox, List.mem_cons_self, rfl, rfl⟩
      · exact ⟨m', List.mem_cons_of_mem _ hmem, rfl, rfl⟩
    · rcases List.mem_cons.mp h with rfl | hmem
      · exact ⟨m', List.mem_cons_self, rfl, rfl⟩
      · obtain ⟨m, hm, heq⟩ := ih hmem
        exact ⟨m, List.mem_cons_of_mem _ hm, heq⟩

theorem exists_mem_retire (h : m ∈ mailboxes) : ∃ m' ∈ retire binding retireAt mailboxes,
      m'.material = m.material ∧ m'.deliveries = m.deliveries := by
  induction mailboxes with
  | nil => exact absurd h List.not_mem_nil
  | cons mailbox mailboxes ih =>
    simp only [retire]
    rcases List.mem_cons.mp h with rfl | hmem
    · split_ifs
      · exact ⟨_, List.mem_cons_self, rfl, rfl⟩
      · exact ⟨_, List.mem_cons_self, rfl, rfl⟩
    · split_ifs
      · exact ⟨m, List.mem_cons_of_mem _ hmem, rfl, rfl⟩
      · obtain ⟨m', hm', heq⟩ := ih hmem
        exact ⟨m', List.mem_cons_of_mem _ hm', heq⟩

theorem mem_withDeliveries {index : Fin s.mailboxes.length}
    {f : List StoredDelivery → List StoredDelivery} (h : m' ∈ (s.withDeliveries index f).mailboxes)
      :
    m' ∈ s.mailboxes ∨ m' = { (s.mailboxes.get index) with
      deliveries := f (s.mailboxes.get index).deliveries } := by
  obtain ⟨i, hi⟩ := List.mem_iff_getElem?.mp h
  simp only [withDeliveries, List.getElem?_modify] at hi
  split_ifs at hi with hindex
  · subst hindex
    rw [List.getElem?_eq_getElem index.isLt] at hi
    exact .inr (Option.some.inj hi).symm
  · rw [Option.map_eq_map, Option.map_id'] at hi
    exact .inl (List.mem_of_getElem? hi)

theorem exists_mem_withDeliveries (index : Fin s.mailboxes.length)
    (f : List StoredDelivery → List StoredDelivery) (h : m ∈ s.mailboxes) :
    m ∈ (s.withDeliveries index f).mailboxes ∨
      (m = (s.mailboxes.get index) ∧ { m with deliveries := f m.deliveries } ∈
        (s.withDeliveries index f).mailboxes) := by
  obtain ⟨i, hi⟩ := List.mem_iff_getElem?.mp h
  by_cases hindex : index.val = i
  · subst hindex
    rw [List.getElem?_eq_getElem index.isLt] at hi
    obtain rfl : s.mailboxes.get index = m := Option.some.inj hi
    refine .inr ⟨rfl, List.mem_iff_getElem?.mpr ⟨index, ?_⟩⟩
    simp only [withDeliveries, List.getElem?_modify, List.getElem?_eq_getElem index.isLt]
    rfl
  · refine .inl (List.mem_iff_getElem?.mpr ⟨i, ?_⟩)
    simp only [withDeliveries, List.getElem?_modify, if_neg hindex, hi]
    rfl

theorem Effect.mailbox_back (h : Effect s c reply s') (hm' : m' ∈ s'.mailboxes) :
    m'.deliveries = [] ∨ ∃ m ∈ s.mailboxes,
      m'.material = m.material ∧ Change s s' c m m'.deliveries := by
  cases h with
  | same | drawn => exact .inr ⟨m', hm', rfl, .kept⟩
  | issued =>
    rcases List.mem_append.mp hm' with hold | hnew
    · exact .inr ⟨m', hold, rfl, .kept⟩
    · exact .inl (by rw [List.mem_singleton.mp hnew])
  | rotated =>
    rcases List.mem_append.mp hm' with hold | hnew
    · obtain ⟨m, hm, hmaterial, hdeliveries⟩ := mem_retire hold
      exact .inr ⟨m, hm, hmaterial, hdeliveries ▸ .kept⟩
    · exact .inl (by rw [List.mem_singleton.mp hnew])
  | @deposited endpoint request control index delivery hdecide =>
    have hdeposits := decideDeposit_fresh hdecide
    rcases mem_withDeliveries (s := s) (f := (· ++ [delivery])) hm' with hold | rfl
    · exact .inr ⟨m', hold, rfl, .kept⟩
    · exact .inr ⟨(s.mailboxes.get index), List.getElem_mem _, rfl, .appended hdeposits rfl⟩
  | @acknowledged authority request control index hcheck =>
    rcases mem_withDeliveries hm' with hold | rfl
    · exact .inr ⟨m', hold, rfl, .kept⟩
    · exact .inr ⟨(s.mailboxes.get index), List.getElem_mem _, rfl, .marked⟩

theorem Effect.mailbox_forth (h : Effect s c reply s') (hm : m ∈ s.mailboxes) : ∃ m' ∈ s'.mailboxes,
      m'.material = m.material ∧ Change s s' c m m'.deliveries := by
  cases h with
  | same | drawn => exact ⟨m, hm, rfl, .kept⟩
  | issued => exact ⟨m, List.mem_append_left _ hm, rfl, .kept⟩
  | rotated =>
    obtain ⟨m', hm', hmaterial, hdeliveries⟩ := exists_mem_retire hm
    exact ⟨m', List.mem_append_left _ hm', hmaterial, hdeliveries ▸ .kept⟩
  | @deposited endpoint request control index delivery hdecide =>
    have hdeposits := decideDeposit_fresh hdecide
    rcases exists_mem_withDeliveries index (· ++ [delivery]) hm with
      hold | ⟨rfl, hnew⟩
    · exact ⟨m, hold, rfl, .kept⟩
    · exact ⟨_, hnew, rfl, .appended hdeposits rfl⟩
  | @acknowledged authority request control index hcheck =>
    rcases exists_mem_withDeliveries index (markAcknowledged request.deliveryIds.ids) hm
      with hold | ⟨rfl, hnew⟩
    · exact ⟨m, hold, rfl, .kept⟩
    · exact ⟨_, hnew, rfl, .marked⟩

theorem marks_of_mem_marked {ids : List DeliveryId} (h : d' ∈ markAcknowledged ids deliveries) :
    ∃ d ∈ deliveries, Marks ids d d' := by
  obtain ⟨d, hd, rfl⟩ := List.mem_map.mp h
  split_ifs with hid
  · exact ⟨d, hd, .inr ⟨hid, rfl⟩⟩
  · exact ⟨d, hd, .inl rfl⟩

theorem exists_mem_marked (ids : List DeliveryId) (h : d ∈ deliveries) :
    ∃ d' ∈ markAcknowledged ids deliveries, Marks ids d d' := by
  refine ⟨_, List.mem_map_of_mem h, ?_⟩
  split_ifs with hid
  · exact .inr ⟨hid, rfl⟩
  · exact .inl rfl

/-- A delivery held afterwards was held before, or is the one just deposited. -/
theorem Effect.holds_back (h : Effect s c reply s') (hd' : Holds s' binding d') :
    (∃ d, Holds s binding d ∧ Marks c.acknowledges d d') ∨
      ∃ endpoint request control index, c = .deposit endpoint request control ∧
        binding = endpoint.binding ∧ Deposits s endpoint request control index d' ∧
        s'.nextDeliverySequence = s.nextDeliverySequence + 1 := by
  obtain ⟨m', hm', rfl, hmem⟩ := hd'
  rcases h.mailbox_back hm' with hnil | ⟨m, hm, hmaterial, hchange⟩
  · rw [hnil] at hmem
    exact absurd hmem List.not_mem_nil
  · rw [hmaterial]
    generalize m'.deliveries = deliveries at hmem hchange
    cases hchange with
    | kept => exact .inl ⟨d', ⟨m, hm, rfl, hmem⟩, .inl rfl⟩
    | @appended endpoint request control index delivery hdeposits hnext =>
      rcases List.mem_append.mp hmem with hold | hnew
      · exact .inl ⟨d', ⟨_, hm, rfl, hold⟩, .inl rfl⟩
      · rw [List.mem_singleton.mp hnew]
        obtain ⟨now, husable⟩ := hdeposits.last
        exact .inr ⟨endpoint, request, control, index, rfl, husable.binding, hdeposits, hnext⟩
    | marked =>
      obtain ⟨d, hd, hmarks⟩ := marks_of_mem_marked hmem
      exact .inl ⟨d, ⟨m, hm, rfl, hd⟩, hmarks⟩

theorem Effect.holds_forth (h : Effect s c reply s') (hd : Holds s binding d) :
    ∃ d', Holds s' binding d' ∧ Marks c.acknowledges d d' := by
  obtain ⟨m, hm, rfl, hmem⟩ := hd
  obtain ⟨m', hm', hmaterial, hchange⟩ := h.mailbox_forth hm
  have hheld : ∀ d' ∈ m'.deliveries, Holds s' m.material.binding d' :=
    fun d' hd' => ⟨m', hm', by rw [hmaterial], hd'⟩
  generalize m'.deliveries = deliveries at hheld hchange
  cases hchange with
  | kept => exact ⟨d, hheld d hmem, .inl rfl⟩
  | appended => exact ⟨d, hheld d (List.mem_append_left _ hmem), .inl rfl⟩
  | @marked authority request control =>
    obtain ⟨d', hd', hmarks⟩ := exists_mem_marked request.deliveryIds.ids hmem
    exact ⟨d', hheld d' hd', hmarks⟩

/-! ## The order of sequences -/

/-- Sequences grow within a mailbox, differ between mailboxes and stay below the counter. -/
structure Sequenced (s : DeterministicLifecycleProvider) : Prop where
  sorted : ∀ m ∈ s.mailboxes, (m.deliveries.map StoredDelivery.sequence).Pairwise (· < ·)
  room : ∀ m ∈ s.mailboxes, m.deliveries.length ≤ maxEnvelopesPerGeneration
  bounded : ∀ binding d, Holds s binding d → 1 ≤ d.sequence ∧ d.sequence < s.nextDeliverySequence
  named : ∀ binding d, Holds s binding d → d.deliveryId.val = deliveryIdBytes d.sequence
  apart : ∀ m ∈ s.mailboxes, ∀ m' ∈ s.mailboxes, ∀ d ∈ m.deliveries, ∀ d' ∈ m'.deliveries,
    d.sequence = d'.sequence → m = m'
  next : 1 ≤ s.nextDeliverySequence ∧ s.nextDeliverySequence ≤ u64Max

theorem Effect.next_cases (h : Effect s c reply s') :
    s'.nextDeliverySequence = s.nextDeliverySequence ∨
      (s'.nextDeliverySequence = s.nextDeliverySequence + 1 ∧
        s.nextDeliverySequence ≠ u64Max) := by
  cases h with
  | deposited hdecide => exact .inr ⟨rfl, (decideDeposit_fresh hdecide).unexhausted⟩
  | _ => exact .inl rfl

theorem Sequenced.new (scope : Nat) : Sequenced (.new scope) where
  sorted _ h := absurd h List.not_mem_nil
  room _ h := absurd h List.not_mem_nil
  bounded _ _ h := absurd h.choose_spec.1 List.not_mem_nil
  named _ _ h := absurd h.choose_spec.1 List.not_mem_nil
  apart _ h := absurd h List.not_mem_nil
  next := ⟨Nat.le_refl _, show 1 ≤ u64Max by decide⟩

theorem map_sequence_marked (ids : List DeliveryId) (deliveries : List StoredDelivery) :
    (markAcknowledged ids deliveries).map StoredDelivery.sequence =
      deliveries.map StoredDelivery.sequence := by
  simp only [markAcknowledged, List.map_map]
  refine List.map_congr_left fun d _ => ?_
  simp only [Function.comp_apply]
  split_ifs <;> rfl

theorem Sequenced.change_sorted (h : Sequenced s) (hm : m ∈ s.mailboxes)
    (hchange : Change s s' c m deliveries) :
    (deliveries.map StoredDelivery.sequence).Pairwise (· < ·) ∧
      deliveries.length ≤ maxEnvelopesPerGeneration := by
  cases hchange with
  | kept => exact ⟨h.sorted m hm, h.room m hm⟩
  | @appended endpoint request control index delivery hdeposits hnext =>
    have hroom := hdeposits.room
    refine ⟨?_, by rw [List.length_append, List.length_singleton]; omega⟩
    rw [List.map_append]
    refine List.pairwise_append.mpr ⟨h.sorted _ hm, List.pairwise_singleton _ _, ?_⟩
    intro q hq q' hq'
    obtain ⟨d, hd, rfl⟩ := List.mem_map.mp hq
    rw [List.map_singleton, List.mem_singleton] at hq'
    rw [hq', hdeposits.sequence]
    exact (h.bounded _ d ⟨_, hm, rfl, hd⟩).2
  | marked =>
    rw [map_sequence_marked]
    exact ⟨h.sorted m hm, by rw [markAcknowledged, List.length_map]; exact h.room m hm⟩

theorem Sequenced.effect {time : Nat} (h : Sequenced s) (hordered : (directory s).Ordered time)
    (heffect : Effect s c reply s') : Sequenced s' := by
  have hmailbox : ∀ m' ∈ s'.mailboxes,
      (m'.deliveries.map StoredDelivery.sequence).Pairwise (· < ·) ∧
        m'.deliveries.length ≤ maxEnvelopesPerGeneration := by
    intro m' hm'
    rcases heffect.mailbox_back hm' with hnil | ⟨m, hm, -, hchange⟩
    · rw [hnil]
      exact ⟨.nil, by decide⟩
    · exact h.change_sorted hm hchange
  have hnext := h.next
  have hcases := heffect.next_cases
  refine ⟨fun m' hm' => (hmailbox m' hm').1, fun m' hm' => (hmailbox m' hm').2, ?_, ?_, ?_,
    by omega⟩
  · intro binding d' hd'
    rcases heffect.holds_back hd' with ⟨d, hd, hmarks⟩ | ⟨_, _, _, _, -, -, hdeposits, hmoved⟩
    · have hbounded := h.bounded binding d hd
      rw [hmarks.sequence]
      omega
    · rw [hdeposits.sequence]
      omega
  · intro binding d' hd'
    rcases heffect.holds_back hd' with ⟨d, hd, hmarks⟩ | ⟨_, _, _, _, -, -, hdeposits, -⟩
    · rw [hmarks.deliveryId, hmarks.sequence]
      exact h.named binding d hd
    · rw [hdeposits.sequence]
      exact hdeposits.deliveryId
  · intro m hm m' hm' d hd d' hd' heq
    refine mailbox_unique (heffect.ordered hordered) hm hm' ?_
    rcases heffect.holds_back ⟨m, hm, rfl, hd⟩ with
        ⟨e, he, hmarks⟩ | ⟨_, _, _, _, hcall, hbinding, hdeposits, -⟩ <;>
      rcases heffect.holds_back ⟨m', hm', rfl, hd'⟩ with
        ⟨e', he', hmarks'⟩ | ⟨_, _, _, _, hcall', hbinding', hdeposits', -⟩
    · obtain ⟨n, hn, hbinding, hmem⟩ := he
      obtain ⟨n', hn', hbinding', hmem'⟩ := he'
      rw [hmarks.sequence, hmarks'.sequence] at heq
      rw [← hbinding, ← hbinding', h.apart n hn n' hn' e hmem e' hmem' heq]
    · have hlt := (h.bounded _ e he).2
      rw [hmarks.sequence, hdeposits'.sequence] at heq
      omega
    · have hlt := (h.bounded _ e' he').2
      rw [hdeposits.sequence, hmarks'.sequence] at heq
      omega
    · rw [hcall] at hcall'
      cases hcall'
      rw [hbinding, hbinding']

/-- The identifier of a delivery determines it. -/
theorem deliveryIdBytes_injective {q q' : Nat} (hq : q ≤ u64Max) (hq' : q' ≤ u64Max)
    (h : deliveryIdBytes q = deliveryIdBytes q') : q = q' := by
  have hlow : BitVec.ofNat 64 q = BitVec.ofNat 64 q' := by
    refine BitVec.eq_of_getLsbD_eq fun i hi => ?_
    have hbit := congrArg (·.getLsbD i) h
    simpa only [deliveryIdBytes, BitVec.getLsbD_append, hi, if_true] using hbit
  have hnat := congrArg BitVec.toNat hlow
  unfold u64Max at hq hq'
  rwa [BitVec.toNat_ofNat, BitVec.toNat_ofNat, Nat.mod_eq_of_lt (by omega),
    Nat.mod_eq_of_lt (by omega)] at hnat

theorem Sequenced.unique (h : Sequenced s) {binding' : CursorBinding} (hd : Holds s binding d)
    (hd' : Holds s binding' d') (heq : d.deliveryId = d'.deliveryId) :
    binding = binding' ∧ d = d' := by
  have hsequence : d.sequence = d'.sequence := by
    have hle := (h.bounded _ _ hd).2
    have hle' := (h.bounded _ _ hd').2
    have hnext := h.next
    refine deliveryIdBytes_injective (by omega) (by omega) ?_
    rw [← h.named _ _ hd, ← h.named _ _ hd', heq]
  obtain ⟨m, hm, rfl, hmem⟩ := hd
  obtain ⟨m', hm', rfl, hmem'⟩ := hd'
  obtain rfl := h.apart m hm m' hm' d hmem d' hmem' hsequence
  refine ⟨rfl, ?_⟩
  have hnodup : (m.deliveries.map StoredDelivery.sequence).Nodup :=
    (h.sorted m hm).imp fun hlt => Nat.ne_of_lt hlt
  exact List.inj_on_of_nodup_map hnodup hmem hmem' hsequence

/-! ## What a poll passes over -/

theorem mem_of_forall₂_received {items : List ReceivedCanonicalEnvelope}
    (h : List.Forall₂ Received deliveries items) (hd : d ∈ deliveries) :
    ∃ item ∈ items, Received d item := by
  induction h with
  | nil => exact absurd hd List.not_mem_nil
  | cons hhead _ ih =>
    rcases List.mem_cons.mp hd with rfl | hmem
    · exact ⟨_, List.mem_cons_self, hhead⟩
    · obtain ⟨item, hitem, hreceived⟩ := ih hmem
      exact ⟨item, List.mem_cons_of_mem _ hitem, hreceived⟩

/-- In a list sorted by sequence, what is not beyond the last of a first part belongs to it. -/
theorem mem_prefix_of_le {taken : List StoredDelivery} (htaken : taken <+: deliveries)
    (hsorted : (deliveries.map StoredDelivery.sequence).Pairwise (· < ·)) {last : StoredDelivery}
    (hd : d ∈ deliveries) (hlast : taken.getLast? = some last) (hle : d.sequence ≤ last.sequence) :
    d ∈ taken := by
  obtain ⟨rest, rfl⟩ := htaken
  rcases List.mem_append.mp hd with hmem | hmem
  · exact hmem
  · rw [List.map_append] at hsorted
    have hlt := (List.pairwise_append.mp hsorted).2.2 last.sequence
      (List.mem_map_of_mem (List.mem_of_getLast? hlast)) d.sequence (List.mem_map_of_mem hmem)
    omega

section

variable {authority : Capability .receive} {request : PollRequest} {control : DispatchControl}
  {batch : ReceiveBatch} {index : Fin s.mailboxes.length} {p q now : Nat}

/-- A delivery between the two cursors was returned, unless it is acknowledged or expired. -/
theorem Polls.covers (h : Polls s authority request control batch index p q now)
    (hsequenced : Sequenced s) {d : StoredDelivery} (hd : d ∈ (s.mailboxes.get index).deliveries)
    (hafter : p < d.sequence) (hle : d.sequence ≤ q) :
    d.acknowledged ∨ (∃ item ∈ batch.items, Received d item) ∨ d.expiresAtUnixSeconds ≤ now := by
  obtain ⟨taken, added, htaken, hreceived, hitems, hlast⟩ := collect_ok h.collected
  by_cases hacknowledged : d.acknowledged
  · exact .inl hacknowledged
  by_cases hexpired : d.expiresAtUnixSeconds ≤ now
  · exact .inr (.inr hexpired)
  refine .inr (.inl ?_)
  have hpending : d ∈ pending (s.mailboxes.get index).deliveries p now :=
    List.mem_filter.mpr ⟨hd, by simp [hafter, hacknowledged, Nat.not_le.mp hexpired]⟩
  have hsorted : ((pending (s.mailboxes.get index).deliveries p now).map
      StoredDelivery.sequence).Pairwise (· < ·) :=
    (hsequenced.sorted _ (List.getElem_mem _)).sublist (List.filter_sublist.map _)
  rcases hget : taken.getLast? with _ | last
  · rw [hget] at hlast
    simp only [Option.map_none, Option.getD_none] at hlast
    omega
  · rw [hget] at hlast
    simp only [Option.map_some, Option.getD_some] at hlast
    rw [hitems]
    exact mem_of_forall₂_received hreceived
      (mem_prefix_of_le htaken hsorted hpending hget (by omega))

/-- The new cursor is the old one or the sequence of a delivery. -/
theorem Polls.reached (h : Polls s authority request control batch index p q now) :
    q = p ∨ ∃ d ∈ (s.mailboxes.get index).deliveries, d.sequence = q := by
  obtain ⟨taken, added, htaken, -, -, hlast⟩ := collect_ok h.collected
  rcases hget : taken.getLast? with _ | last <;> rw [hget] at hlast
  · exact .inl hlast
  · refine .inr ⟨last, ?_, hlast.symm⟩
    exact (List.mem_filter.mp (htaken.subset (List.mem_of_getLast? hget))).1

end

/-- Any calls, at any times, keep the deliveries of a provider apart and within their bounds. -/
theorem deliveries_sequenced (scope : Nat) (calls : List Call) :
    Sequenced (Transition.World.afterAll call ⟨.new scope, []⟩ calls).state := by
  refine ((Transition.leads_calls _ calls).invariant (I := fun w => Sequenced w.state ∧
    (directory w.state).Ordered (clock w.history)) ?_ ⟨.new scope, ordered_new scope⟩).1
  rintro w c - ⟨hsequenced, hordered⟩
  exact ⟨hsequenced.effect hordered (call_effect w.state c), ordered_after c hordered⟩

end SessionChat.Mailbox.Provider
