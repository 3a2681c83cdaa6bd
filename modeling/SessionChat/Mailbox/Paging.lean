import Mathlib.Data.List.Sort
import SessionChat.Mailbox.PersistFirst

/-!
# Paging through a mailbox (`crates/transport-conformance/src/lifecycle_provider.rs`)

A receiver polls one generation, starting without a cursor and always continuing with the cursor
of its last page, while anyone else makes any calls on the provider. The pages together are the
deliveries of the mailbox in the order of their deposit, each at most once.
-/

set_option autoImplicit false

namespace SessionChat.Mailbox.Provider

open Transport Codec Control DeterministicLifecycleProvider

variable {s : DeterministicLifecycleProvider}

variable {p time : Nat} {m : MailboxState}

/-- A page of a poll that allows any envelope is not empty while there is one to deliver. -/
theorem collect_ne_nil {maxEnvelopes maxEncodedBytes q : Nat} {deliveries : List StoredDelivery}
    (hpositive : 0 < maxEnvelopes) (hne : deliveries ≠ []) :
    collect maxEnvelopes maxEncodedBytes deliveries [] 0 p ≠ .ok ([], q) := by
  intro h
  obtain ⟨d, rest, rfl⟩ := List.exists_cons_of_ne_nil hne
  have hroom : ¬maxEnvelopes ≤ ([] : List ReceivedCanonicalEnvelope).length :=
    Nat.not_le.mpr hpositive
  rw [collect] at h
  split_ifs at h with hlarge hnil
  · exact hnil rfl
  split at h
  · cases h
  · obtain ⟨taken, added, -, -, hout, -⟩ := collect_ok h
    exact absurd hout.symm (by simp)

/-! ## Cursors of other generations -/

theorem cursorScope_injective {a b : CursorBinding} (h : cursorScope a = cursorScope b) :
    a.continuityId = b.continuityId ∧ a.generation = b.generation := by
  unfold cursorScope at h
  rw [List.append_assoc, List.append_assoc] at h
  obtain ⟨hcontinuity, hrest⟩ := List.append_inj h (by simp)
  obtain ⟨hgeneration, -⟩ := List.append_inj hrest (by simp)
  exact ⟨Subtype.ext (fixedBytes_injective hcontinuity),
    Subtype.ext (fixedBytes_injective hgeneration)⟩

/-- Two generations of one provider have different cursor scopes. -/
theorem cursorScope_ne (hordered : (directory s).Ordered time) {m' : MailboxState}
    (hm : m ∈ s.mailboxes) (hm' : m' ∈ s.mailboxes)
      (hne : m.material.binding ≠ m'.material.binding) :
    cursorScope m.material.binding ≠ cursorScope m'.material.binding := by
  have hmem : ∀ m ∈ s.mailboxes, m.material ∈ (directory s).materials := fun m hm => by
    rw [materials_directory]
    exact List.mem_map_of_mem hm
  have hapart : ∀ a ∈ (directory s).materials, ∀ b ∈ (directory s).materials, a ≠ b →
      a.binding.continuityId = b.binding.continuityId →
        a.binding.generation ≠ b.binding.generation := by
    have hsymm : Std.Symm fun a b : GenerationMaterial =>
        a.binding.continuityId = b.binding.continuityId →
          a.binding.generation ≠ b.binding.generation :=
      ⟨fun a b hab hsame heq => hab hsame.symm heq.symm⟩
    have hpairs : (directory s).materials.Pairwise fun a b =>
        a.binding.continuityId = b.binding.continuityId →
          a.binding.generation ≠ b.binding.generation := by
      refine hordered.generations.imp fun {a b} hgrows hsame heq => ?_
      have hlt := hgrows hsame
      rw [Directory.generationOf, heq] at hlt
      exact absurd hlt (Nat.lt_irrefl _)
    intro a ha b hb hab
    exact hpairs.forall ha hb hab
  intro hscope
  obtain ⟨hcontinuity, hgeneration⟩ := cursorScope_injective hscope
  have hmaterial : m.material ≠ m'.material := fun heq => hne (by rw [heq])
  exact hapart _ (hmem m hm) _ (hmem m' hm') hmaterial hcontinuity hgeneration

/-- A poll accepts a cursor of its own generation only. -/
theorem scope_of_decodeCursor {cursor : Cursor} {token : List UInt8}
    (h : decodeCursor (some cursor) token = .ok p) : cursor.bytes.take 32 = token := by
  unfold decodeCursor at h
  simp only at h
  split_ifs at h with hscope
  exact not_not.mp (not_or.mp hscope).2

end SessionChat.Mailbox.Provider

namespace SessionChat.Mailbox.Paging

open Transition Transport
open DeterministicLifecycleProvider
open Provider (Holds Sequenced Received Polls)
open Receiving (NextIs Reached)

/-! ## A receiver -/

/-- A provider and the cursor of the receiver's last page. -/
structure Reader where
  provider : DeterministicLifecycleProvider
  cursor : Option Cursor

inductive Call where
  | provider (c : Provider.Call)
  /-- A poll of the receiver. -/
  | poll (authority : Capability .receive) (request : PollRequest) (control : DispatchControl)

inductive Reply where
  | provider (reply : Provider.Reply)
  | polled (result : Except TransportFailure ReceiveBatch)

def step (r : Reader) : Call → Reader × Reply
  | .provider c =>
      let answer := Provider.call r.provider c
      ({ r with provider := answer.1 }, .provider answer.2)
  | .poll authority request control =>
      match r.provider.pollNow authority request control with
      | .error error => (r, .polled (.error error))
      | .ok batch => ({ r with cursor := batch.nextCursor }, .polled (.ok batch))

abbrev ReaderWorld := World Reader Call Reply

/-- The receiver polls one generation, from the cursor of its last page. -/
def Admitted (b : CursorBinding) (w : ReaderWorld) : Call → Prop
  | .provider _ => True
  | .poll authority request _ => authority.binding = b ∧ request.cursor = w.state.cursor

/-- A new provider and a receiver without a cursor. -/
def start (scope : Nat) : ReaderWorld := ⟨⟨.new scope, none⟩, []⟩

def ReaderRun (scope : Nat) (b : CursorBinding) (w : ReaderWorld) : Prop :=
  Leads step (Admitted b) (start scope) w

def Reply.items : Reply → List ReceivedCanonicalEnvelope
  | .polled (.ok batch) => batch.items
  | _ => []

/-- Everything the receiver has received, in order. -/
def received (history : List (Event Call Reply)) : List ReceivedCanonicalEnvelope :=
  history.flatMap fun event => event.reply.items

theorem received_append (history : List (Event Call Reply)) (event : Event Call Reply) :
    received (history ++ [event]) = received history ++ event.reply.items := by
  simp [received]

/-! ## Deliveries that were passed over -/

/-- At a time that the poll read, the delivery was acknowledged or had expired. -/
def Unavailable (control : DispatchControl) (d : StoredDelivery) : Prop :=
  d.acknowledged ∨ ∃ t, (control.first.wallNow = some t ∨ control.last.wallNow = some t) ∧
    d.expiresAtUnixSeconds ≤ t

/-- An earlier poll of the receiver moved its cursor past the delivery while it was
unavailable. -/
def PassedOver (scope : Nat) (b : CursorBinding) (w : ReaderWorld) (d : StoredDelivery) : Prop :=
  ∃ u authority request control, ReaderRun scope b u ∧
    Admitted b u (.poll authority request control) ∧
    Leads step (Admitted b) (u.after step (.poll authority request control)) w ∧
    ∃ d', Holds u.state.provider b d' ∧ d'.deliveryId = d.deliveryId ∧ Unavailable control d' ∧
      ∃ p q, decodeCursor u.state.cursor (cursorScope b) = .ok p ∧ p < d'.sequence ∧
        d'.sequence ≤ q ∧ decodeCursor (u.after step (.poll authority request control)).state.cursor
          (cursorScope b) = .ok q

variable {c : Call} {d d' : StoredDelivery} {P : DeterministicLifecycleProvider}
  {authority : Capability .receive} {request : PollRequest} {control : DispatchControl}
  {batch : ReceiveBatch} {time : Nat}

theorem PassedOver.after {scope : Nat} {b : CursorBinding} {w : ReaderWorld}
    (h : PassedOver scope b w d) (hadmitted : Admitted b w c) (hsame : d'.deliveryId =
      d.deliveryId) : PassedOver scope b (w.after step c) d' := by
  obtain ⟨u, authority, request, control, hrun, hpoll, hlater, e, he, hid, hrest⟩ := h
  exact ⟨u, authority, request, control, hrun, hpoll, hlater.tail hadmitted, e, he,
    hid.trans hsame.symm, hrest⟩

/-! ## The position of the receiver -/

/-- The item is the delivery of the generation with this sequence number. -/
def Names (P : DeterministicLifecycleProvider) (b : CursorBinding) (q : Nat)
    (item : ReceivedCanonicalEnvelope) : Prop :=
  ∃ d, Holds P b d ∧ d.sequence = q ∧ Received d item

section

variable {P : DeterministicLifecycleProvider} {b : CursorBinding} {sequences : List Nat}
  {items : List ReceivedCanonicalEnvelope}

theorem ids_of_names (hsequenced : Sequenced P) (h : List.Forall₂ (Names P b) sequences items) :
    items.map (fun item => item.deliveryId.val) = sequences.map deliveryIdBytes := by
  induction h with
  | nil => rfl
  | cons hhead _ ih =>
    obtain ⟨d, hd, rfl, hreceived⟩ := hhead
    rw [List.map_cons, List.map_cons, ih, hreceived.1, hsequenced.named _ d hd]

theorem held_of_names (h : List.Forall₂ (Names P b) sequences items) :
    (∀ q ∈ sequences, ∃ d, Holds P b d ∧ d.sequence = q) ∧
      ∀ item ∈ items, ∃ d, Holds P b d ∧ Received d item := by
  induction h with
  | nil => exact ⟨List.forall_mem_nil _, List.forall_mem_nil _⟩
  | cons hhead _ ih =>
    obtain ⟨d, hd, hsequence, hreceived⟩ := hhead
    exact ⟨List.forall_mem_cons.mpr ⟨⟨d, hd, hsequence⟩, ih.1⟩,
      List.forall_mem_cons.mpr ⟨⟨d, hd, hreceived⟩, ih.2⟩⟩

end

/-- The cursor stands for `p`; all up to it is received or was passed over. -/
structure Position (scope : Nat) (b : CursorBinding) (w : ReaderWorld) (p : Nat) : Prop where
  cursor : NextIs b p w.state.cursor
  reached : Reached w.state.provider b p
  /-- What was received has growing sequence numbers. -/
  order : ∃ sequences, sequences.Pairwise (· < ·) ∧ (∀ q ∈ sequences, q ≤ p) ∧
    List.Forall₂ (Names w.state.provider b) sequences (received w.history)
  behind : ∀ d, Holds w.state.provider b d → d.sequence ≤ p →
    (∃ item ∈ received w.history, Received d item) ∨ PassedOver scope b w d

structure Reading (scope : Nat) (b : CursorBinding) (w : ReaderWorld) : Prop where
  run : ReaderRun scope b w
  ordered : ∃ time, (Provider.directory w.state.provider).Ordered time
  sequenced : Sequenced w.state.provider
  position : ∃ p, Position scope b w p

variable {scope : Nat} {b : CursorBinding} {w : ReaderWorld} {p q : Nat}

theorem Reading.init (scope : Nat) (b : CursorBinding) : Reading scope b (start scope) where
  run := .refl _
  ordered := ⟨0, Provider.ordered_new scope⟩
  sequenced := .new scope
  position := by
    refine ⟨0, rfl, .inl rfl, ⟨[], .nil, List.forall_mem_nil _, .nil⟩, ?_⟩
    rintro d ⟨mailbox, hmailbox, -⟩
    exact absurd hmailbox List.not_mem_nil

/-- The position is below the counter of sequences. -/
theorem reached_le_u64Max (hsequenced : Sequenced P) (hreached : Reached P b p) :
    p ≤ u64Max := by
  rcases hreached with rfl | ⟨d, hd, hle⟩
  · exact Nat.zero_le _
  · have hlt := (hsequenced.bounded _ _ hd).2
    have hnext := hsequenced.next
    omega

theorem decodeCursor_of_nextIs {cursor : Option Cursor} (hnext : NextIs b p cursor)
    (hmax : p ≤ u64Max) : decodeCursor cursor (cursorScope b) = .ok p := by
  cases cursor with
  | none =>
    obtain rfl : p = 0 := hnext
    rfl
  | some cursor => exact Receiving.decodeCursor_cursorBytes hnext.1 hnext.2 hmax

theorem received_of_marks {ids : List DeliveryId} {item : ReceivedCanonicalEnvelope}
    (hmarks : Provider.Marks ids d d') (h : Received d item) : Received d' item :=
  ⟨h.1.trans hmarks.deliveryId.symm, h.2.trans hmarks.canonicalBytes.symm⟩

/-- A call on the provider leaves the position and what is behind it. -/
theorem Position.provider (h : Position scope b w p) (hsequenced : Sequenced w.state.provider)
    (c : Provider.Call) : Position scope b (w.after step (.provider c)) p := by
  have heffect := Provider.call_effect w.state.provider c
  have hreceived : received (w.after step (.provider c)).history = received w.history := by
    simp [World.after, received_append, step, Reply.items]
  obtain ⟨sequences, hsorted, hbelow, hall⟩ := h.order
  refine ⟨h.cursor, h.reached.effect heffect, ⟨sequences, hsorted, hbelow, ?_⟩, ?_⟩
  · rw [hreceived]
    refine hall.imp ?_
    rintro q item ⟨d, hd, hsequence, hitem⟩
    obtain ⟨d', hd', hmarks⟩ := heffect.holds_forth hd
    exact ⟨d', hd', hmarks.sequence.trans hsequence, received_of_marks hmarks hitem⟩
  · rw [hreceived]
    intro d' hd' hle
    obtain ⟨d, hd, hmarks⟩ := Receiving.holds_of_reached hsequenced h.reached heffect hd' hle
    rw [hmarks.sequence] at hle
    rcases h.behind d hd hle with ⟨item, hitem, hreceives⟩ | hpassed
    · exact .inl ⟨item, hitem, received_of_marks hmarks hreceives⟩
    · exact .inr (hpassed.after (c := .provider c) trivial hmarks.deliveryId)

/-! ## A page -/

section

variable {P : DeterministicLifecycleProvider} {authority : Capability .receive}
  {request : PollRequest} {control : DispatchControl} {batch : ReceiveBatch}

/-- A page continues after the cursor of the request, in order, and its own cursor stands for
the last delivery it has looked at. -/
structure PageAfter (P : DeterministicLifecycleProvider) (b : CursorBinding)
    (control : DispatchControl) (batch : ReceiveBatch) (p q : Nat) : Prop where
  next : NextIs b q batch.nextCursor
  forward : p ≤ q
  reached : Reached P b q
  order : ∃ sequences, sequences.Pairwise (· < ·) ∧ (∀ q' ∈ sequences, p < q' ∧ q' ≤ q) ∧
    List.Forall₂ (Names P b) sequences batch.items
  between : ∀ d, Holds P b d → p < d.sequence → d.sequence ≤ q →
    (∃ item ∈ batch.items, Received d item) ∨ Unavailable control d
  empty : batch.items = [] → ∀ d, Holds P b d → p < d.sequence → Unavailable control d

variable {now : Nat}

theorem unavailable_of_expired {index : Fin P.mailboxes.length}
    (hpolls : Polls P authority request control batch index p q now) {d : StoredDelivery}
    (h : d.expiresAtUnixSeconds ≤ now) : Unavailable control d :=
  .inr ⟨now, hpolls.time.2, h⟩

/-- The deliveries of a page, in order, with the sequence of the last one. -/
theorem sequences_of_taken {deliveries taken : List StoredDelivery}
    (hsorted : (deliveries.map StoredDelivery.sequence).Pairwise (· < ·))
    (htaken : taken <+: pending deliveries p now)
    (hlast : q = (taken.getLast?.map StoredDelivery.sequence).getD p) :
    p ≤ q ∧ (taken.map StoredDelivery.sequence).Pairwise (· < ·) ∧
      ∀ d ∈ taken, d ∈ deliveries ∧ p < d.sequence ∧ d.sequence ≤ q := by
  have hsub : taken.Sublist deliveries := htaken.sublist.trans List.filter_sublist
  have hafter : ∀ d ∈ taken, p < d.sequence := fun d hd =>
    (of_decide_eq_true (List.mem_filter.mp (htaken.subset hd)).2).1
  have hincreasing : (taken.map StoredDelivery.sequence).Pairwise (· < ·) :=
    hsorted.sublist (hsub.map _)
  have hbelow : ∀ d ∈ taken, d.sequence ≤ q := by
    intro d hd
    rcases hget : taken.getLast? with _ | last
    · rw [List.getLast?_eq_none_iff.mp hget] at hd
      exact absurd hd List.not_mem_nil
    · rw [hget] at hlast
      obtain ⟨front, rfl⟩ := List.getLast?_eq_some_iff.mp hget
      rw [List.map_append] at hincreasing
      rcases List.mem_append.mp hd with hfront | hend
      · have hlt := (List.pairwise_append.mp hincreasing).2.2 _ (List.mem_map_of_mem hfront) _
          (List.mem_map_of_mem (List.mem_singleton_self last))
        rw [hlast]
        exact Nat.le_of_lt hlt
      · rw [hlast, List.mem_singleton.mp hend]
        exact Nat.le_refl _
  refine ⟨?_, hincreasing, ?_⟩
  · rcases hget : taken.getLast? with _ | last <;> rw [hget] at hlast
    · exact Nat.le_of_eq hlast.symm
    · rw [hlast]
      exact Nat.le_of_lt (hafter last (List.mem_of_getLast? hget))
  · exact fun d hd => ⟨hsub.subset hd, hafter d hd, hbelow d hd⟩

theorem pageAfter_of_poll (hsequenced : Sequenced P) {time : Nat}
    (hordered : (Provider.directory P).Ordered time) (hbinding : authority.binding = b)
    (hpoll : P.pollNow authority request control = .ok batch)
    (hcursor : decodeCursor request.cursor (cursorScope b) = .ok p) :
    ∃ q, PageAfter P b control batch p q := by
  subst hbinding
  obtain ⟨index, p', q, now, hpolls⟩ := Provider.pollNow_ok hpoll
  obtain rfl : p' = p := Except.ok.inj (hpolls.cursor.symm.trans hcursor)
  obtain ⟨lastNow, husable⟩ := hpolls.last
  have hmem : ∀ {d}, Holds P authority.binding d ↔ d ∈ (P.mailboxes.get index).deliveries :=
    Receiving.mem_of_usable hordered husable
  obtain ⟨taken, added, htaken, hreceived, hitems, hlast⟩ := Provider.collect_ok hpolls.collected
  rw [List.nil_append] at hitems
  rw [← hitems] at hreceived
  obtain ⟨hforward, hincreasing, hwithin⟩ := sequences_of_taken
    (hsequenced.sorted _ (List.getElem_mem _)) htaken hlast
  refine ⟨q, Receiving.nextIs_of_nextCursor hpolls.next, hforward,
    Receiving.reached_of_polls hordered hpolls, ⟨_, hincreasing, ?_, ?_⟩, ?_, ?_⟩
  · intro q' hq'
    obtain ⟨d, hd, rfl⟩ := List.mem_map.mp hq'
    exact (hwithin d hd).2
  · rw [List.forall₂_map_left_iff]
    refine ((List.forall₂_and_left taken batch.items).mpr
      ⟨fun d hd => (hwithin d hd).1, hreceived⟩).imp ?_
    rintro d item ⟨hd, hitem⟩
    exact ⟨d, hmem.mpr hd, rfl, hitem⟩
  · intro d hd hafter hle
    rcases hpolls.covers hsequenced (hmem.mp hd) hafter hle with
      hacknowledged | hitem | hexpired
    · exact .inr (.inl hacknowledged)
    · exact .inl hitem
    · exact .inr (unavailable_of_expired hpolls hexpired)
  · intro hempty d hd hafter
    by_contra havailable
    have hpending : d ∈ pending (P.mailboxes.get index).deliveries p' now := by
      refine List.mem_filter.mpr ⟨hmem.mp hd, decide_eq_true ⟨hafter, ?_, ?_⟩⟩
      · exact fun hacknowledged => havailable (.inl hacknowledged)
      · by_contra hexpired
        exact havailable (unavailable_of_expired hpolls (Nat.not_lt.mp hexpired))
    exact Provider.collect_ne_nil request.bounded.1.1 (List.ne_nil_of_mem hpending)
      (hempty ▸ hpolls.collected)

end

/-- A poll of the receiver moves its position to the end of the page. -/
theorem Reading.poll (h : Reading scope b w)
    (hadmitted : Admitted b w (.poll authority request control))
    (hpoll : w.state.provider.pollNow authority request control = .ok batch) :
    Reading scope b (w.after step (.poll authority request control)) := by
  obtain ⟨time, hordered⟩ := h.ordered
  obtain ⟨p, hposition⟩ := h.position
  obtain ⟨hbinding, hcursor⟩ := hadmitted
  have hbefore := decodeCursor_of_nextIs hposition.cursor
    (reached_le_u64Max h.sequenced hposition.reached)
  obtain ⟨q, hpage⟩ := pageAfter_of_poll h.sequenced hordered hbinding hpoll
    (hcursor ▸ hbefore)
  have hstep : step w.state (.poll authority request control) =
      ({ w.state with cursor := batch.nextCursor }, .polled (.ok batch)) := by
    simp only [step, hpoll]
  have hstate : (w.after step (.poll authority request control)).state =
      { w.state with cursor := batch.nextCursor } := by
    rw [World.after, hstep]
  have hreceived : received (w.after step (.poll authority request control)).history =
      received w.history ++ batch.items := by
    rw [World.after, received_append, hstep]
    rfl
  have hafter := decodeCursor_of_nextIs hpage.next
    (reached_le_u64Max h.sequenced hpage.reached)
  obtain ⟨sequences, hsorted, hbelow, hall⟩ := hposition.order
  obtain ⟨sequences', hsorted', hwithin, hall'⟩ := hpage.order
  refine ⟨h.run.tail ⟨hbinding, hcursor⟩, ⟨time, by rw [hstate]; exact hordered⟩,
    by rw [hstate]; exact h.sequenced, q, ?_, ?_, ⟨sequences ++ sequences', ?_, ?_, ?_⟩, ?_⟩
  · rw [hstate]
    exact hpage.next
  · rw [hstate]
    exact hpage.reached
  · refine List.pairwise_append.mpr ⟨hsorted, hsorted', ?_⟩
    intro s hs s' hs'
    exact Nat.lt_of_le_of_lt (hbelow s hs) (hwithin s' hs').1
  · intro s hs
    rcases List.mem_append.mp hs with hold | hnew
    · exact Nat.le_trans (hbelow s hold) hpage.forward
    · exact (hwithin s hnew).2
  · rw [hreceived, hstate]
    exact List.rel_append hall hall'
  · rw [hreceived, hstate]
    intro d hd hle
    rcases Nat.lt_or_ge p d.sequence with hnew | hold
    · rcases hpage.between d hd hnew hle with ⟨item, hitem, hreceives⟩ | hunavailable
      · exact .inl ⟨item, List.mem_append_right _ hitem, hreceives⟩
      · refine .inr ⟨w, authority, request, control, h.run, ⟨hbinding, hcursor⟩, .refl _, d, hd,
          rfl, hunavailable, p, q, hbefore, hnew, hle, ?_⟩
        rw [hstate]
        exact hafter
    · rcases hposition.behind d hd hold with ⟨item, hitem, hreceives⟩ | hpassed
      · exact .inl ⟨item, List.mem_append_left _ hitem, hreceives⟩
      · exact .inr (hpassed.after ⟨hbinding, hcursor⟩ rfl)

theorem Reading.after (h : Reading scope b w) (hadmitted : Admitted b w c) :
    Reading scope b (w.after step c) := by
  obtain ⟨time, hordered⟩ := h.ordered
  obtain ⟨p, hposition⟩ := h.position
  cases c with
  | provider c =>
    have heffect := Provider.call_effect w.state.provider c
    exact ⟨h.run.tail hadmitted, ⟨_, heffect.ordered hordered⟩,
      h.sequenced.effect hordered heffect, p, hposition.provider h.sequenced c⟩
  | poll authority request control =>
    rcases hpoll : w.state.provider.pollNow authority request control with error | batch
    · -- A failed poll changes neither the provider nor the cursor.
      have hstep : step w.state (.poll authority request control) =
          (w.state, .polled (.error error)) := by
        simp only [step, hpoll]
      have hstate : (w.after step (.poll authority request control)).state = w.state := by
        rw [World.after, hstep]
      have hreceived : received (w.after step (.poll authority request control)).history =
          received w.history := by
        rw [World.after, received_append, hstep]
        exact List.append_nil _
      refine ⟨h.run.tail hadmitted, ⟨time, hstate ▸ hordered⟩, hstate ▸ h.sequenced, p,
        hstate ▸ hposition.cursor, hstate ▸ hposition.reached, ?_, ?_⟩
      · rw [hstate, hreceived]
        exact hposition.order
      · rw [hstate, hreceived]
        intro d hd hle
        exact (hposition.behind d hd hle).imp_right fun hpassed => hpassed.after hadmitted rfl
    · exact h.poll hadmitted hpoll

theorem ReaderRun.reading (h : ReaderRun scope b w) : Reading scope b w := by
  refine h.invariant (I := Reading scope b) ?_ (.init scope b)
  intro u c hadmitted hu
  exact hu.after hadmitted

/-! ## The guarantees -/

/-- What holds of a receiver that has paged through a generation. -/
structure Paged (scope : Nat) (b : CursorBinding) (w : ReaderWorld) : Prop where
  /-- The received identifiers stand in the order of their deposit, each at most once. -/
  in_order : ∀ m ∈ w.state.provider.mailboxes, m.material.binding = b →
    ((received w.history).map fun item => item.deliveryId.val).Sublist
        (m.deliveries.map fun d => d.deliveryId.val) ∧
      (m.deliveries.map fun d => d.deliveryId.val).Nodup
  exact_bytes : ∀ item ∈ received w.history, ∃ d, Holds w.state.provider b d ∧ Received d item
  /-- At a poll that returns nothing, every delivery was received, or was unavailable when an
  earlier poll passed it or is unavailable at this one. -/
  complete : ∀ authority request control batch, Admitted b w (.poll authority request control) →
    w.state.provider.pollNow authority request control = .ok batch → batch.items = [] →
    ∀ d, Holds w.state.provider b d → (∃ item ∈ received w.history, Received d item) ∨
      PassedOver scope b w d ∨ Unavailable control d
  /-- A poll of the open mailbox succeeds if its byte limit covers every stored envelope. -/
  succeeds : ∀ m ∈ w.state.provider.mailboxes, m.material.binding = b →
    ∀ request control firstNow lastNow, request.cursor = w.state.cursor →
    (∀ d ∈ m.deliveries, d.canonicalBytes.length ≤ request.maxEncodedBytes) →
    (∀ binding ∈ request.receiveBinding, binding.binding = b) →
    Provider.Open m request.budget control.first firstNow →
    Provider.Open m request.budget control.last lastNow →
    ∃ batch, w.state.provider.pollNow (authorities m.material w.state.provider.scope).receive
      request control = .ok batch
  /-- No other generation ever accepts a cursor of this one. -/
  foreign : ∀ authority request control batch cursor,
    w.state.provider.pollNow authority request control = .ok batch →
    batch.nextCursor = some cursor → ∀ w', Leads step (Admitted b) w w' →
    ∀ authority' request' control', authority'.binding ≠ authority.binding →
    request'.cursor = some cursor →
    ∃ error, w'.state.provider.pollNow authority' request' control' = .error error

theorem Position.sublist (h : Position scope b w p) (hsequenced : Sequenced w.state.provider)
    (hordered : (Provider.directory w.state.provider).Ordered time) {m : MailboxState}
    (hm : m ∈ w.state.provider.mailboxes) (hbinding : m.material.binding = b) :
    ((received w.history).map fun item => item.deliveryId.val).Sublist
      (m.deliveries.map fun d => d.deliveryId.val) := by
  obtain ⟨sequences, hsorted, -, hall⟩ := h.order
  have hdeliveries : (m.deliveries.map fun d => d.deliveryId.val) =
      (m.deliveries.map StoredDelivery.sequence).map deliveryIdBytes := by
    rw [List.map_map]
    exact List.map_congr_left fun d hd => hsequenced.named b d ⟨m, hm, hbinding, hd⟩
  have hsubset : sequences ⊆ m.deliveries.map StoredDelivery.sequence := by
    intro q hq
    obtain ⟨d, ⟨m', hm', hbinding', hd⟩, rfl⟩ := (held_of_names hall).1 q hq
    obtain rfl : m = m' :=
      Provider.mailbox_unique hordered hm hm' (hbinding.trans hbinding'.symm)
    exact List.mem_map_of_mem hd
  have hsub : sequences.Sublist (m.deliveries.map StoredDelivery.sequence) :=
    List.sublist_of_subperm_of_pairwise (List.subperm_of_subset hsorted.nodup hsubset) hsorted
      (hsequenced.sorted m hm)
  rw [ids_of_names hsequenced hall, hdeliveries]
  exact hsub.map _

/-- A cursor that a poll of one generation returned is refused by every other. -/
theorem foreign_cursor_refused {P' : DeterministicLifecycleProvider}
    (hordered : (Provider.directory P').Ordered time)
    (hkept : P.mailboxes.map MailboxState.material <+: P'.mailboxes.map MailboxState.material)
    {authority' : Capability .receive} {request' : PollRequest} {control' : DispatchControl}
    {cursor : Cursor} (hpoll : P.pollNow authority request control = .ok batch)
    (hcursor : batch.nextCursor = some cursor) (hne : authority'.binding ≠ authority.binding)
    (hrequest : request'.cursor = some cursor) :
    ∃ error, P'.pollNow authority' request' control' = .error error := by
  rcases hresult : P'.pollNow authority' request' control' with error | batch'
  · exact ⟨error, rfl⟩
  exfalso
  obtain ⟨index, p, q, now, hpolls⟩ := Provider.pollNow_ok hpoll
  obtain ⟨index', p', q', now', hpolls'⟩ := Provider.pollNow_ok hresult
  obtain ⟨lastNow, husable⟩ := hpolls.last
  obtain ⟨lastNow', husable'⟩ := hpolls'.last
  have hnext := Receiving.nextIs_of_nextCursor hpolls.next
  rw [hcursor] at hnext
  have hown : cursor.bytes.take 32 = cursorScope authority.binding := by
    rw [hnext.1, Receiving.cursorBytes, List.take_left' (Receiving.length_cursorScope _)]
  have hdecoded := hpolls'.cursor
  rw [hrequest] at hdecoded
  have hforeign := Provider.scope_of_decodeCursor hdecoded
  have hmaterial : (P.mailboxes.get index).material ∈ P'.mailboxes.map MailboxState.material :=
    hkept.subset (List.mem_map_of_mem (List.getElem_mem _))
  obtain ⟨m, hm, hsame⟩ := List.mem_map.mp hmaterial
  refine Provider.cursorScope_ne hordered (List.getElem_mem index'.isLt) hm ?_ ?_
  · rw [hsame]
    exact fun heq => hne (husable'.binding.symm.trans (heq.trans husable.binding))
  · have hleft : cursorScope (P'.mailboxes.get index').material.binding =
        cursorScope authority'.binding := by rw [husable'.binding]
    have hright : cursorScope m.material.binding = cursorScope authority.binding := by
      rw [hsame, husable.binding]
    exact hleft.trans (hforeign.symm.trans (hown.trans hright.symm))

theorem materials_of_leads {w' : ReaderWorld} (h : Leads step (Admitted b) w w') :
    w.state.provider.mailboxes.map MailboxState.material <+:
      w'.state.provider.mailboxes.map MailboxState.material := by
  refine h.invariant (I := fun v => w.state.provider.mailboxes.map MailboxState.material <+:
    v.state.provider.mailboxes.map MailboxState.material) ?_ (List.prefix_refl _)
  intro v c _ hv
  cases c with
  | provider c => exact hv.trans (Provider.extends_call v.state.provider c).materials
  | poll authority request control =>
    simp only [World.after, step]
    split <;> exact hv

theorem pages_complete (h : ReaderRun scope b w) : Paged scope b w := by
  have hreading := h.reading
  obtain ⟨time, hordered⟩ := hreading.ordered
  obtain ⟨p, hposition⟩ := hreading.position
  have hdecoded := decodeCursor_of_nextIs hposition.cursor
    (reached_le_u64Max hreading.sequenced hposition.reached)
  constructor
  · intro m hm hbinding
    refine ⟨hposition.sublist hreading.sequenced hordered hm hbinding, ?_⟩
    have hnodup := Provider.nodup_deliveryIds hreading.sequenced hm (List.Sublist.refl _)
    have hvalues := hnodup.map Subtype.val_injective
    rwa [List.map_map] at hvalues
  · obtain ⟨sequences, -, -, hall⟩ := hposition.order
    exact (held_of_names hall).2
  · rintro authority request control batch ⟨hbinding, hcursor⟩ hpoll hempty d hd
    obtain ⟨q, hpage⟩ := pageAfter_of_poll hreading.sequenced hordered hbinding hpoll
      (hcursor ▸ hdecoded)
    rcases Nat.lt_or_ge p d.sequence with hafter | hbehind
    · exact .inr (.inr (hpage.empty hempty d hd hafter))
    · exact (hposition.behind d hd hbehind).imp_right .inl
  · rintro m hm rfl request control firstNow lastNow hcursor hfit hbound hfirst hlast
    have hrange : p ≤ maximumSequence m.deliveries := by
      rcases hposition.reached with rfl | ⟨d, ⟨m', hm', hbinding, hd⟩, hle⟩
      · exact Nat.zero_le _
      · obtain rfl : m = m' := Provider.mailbox_unique hordered hm hm' hbinding.symm
        exact Nat.le_trans hle (Receiving.sequence_le_maximum hreading.sequenced hm hd)
    obtain ⟨batch, _, hbatch, -⟩ := Provider.pollNow_succeeds hordered hreading.sequenced hm hbound
      (hcursor ▸ hdecoded) hrange control hfirst hlast hfit
    exact ⟨batch, hbatch⟩
  · intro authority request control batch cursor hpoll hcursor w' hlater authority' request'
      control' hne hrequest
    have hlaterReading := ReaderRun.reading (Leads.trans h hlater)
    obtain ⟨time', hordered'⟩ := hlaterReading.ordered
    exact foreign_cursor_refused hordered' (materials_of_leads hlater) hpoll hcursor hne hrequest

/-! ## A receiver that pages to the end -/

/-- An envelope beside the first one. -/
def secondEnvelope : CanonicalEnvelope where
  bytes := (Protocol.OpaqueEnvelope.mk 2 500 [0]).encodeFields
  envelopeId := 2
  expiresAtUnixSeconds := 500
  decoded := ⟨⟨2, 500, [0]⟩, by decide +kernel, rfl, rfl⟩
  nonzero := by decide

/-- A poll of one envelope from the receiver's cursor. -/
def samplePoll (w : ReaderWorld) : Call :=
  .poll ⟨0, Provider.sampleGeneration, filled 32 4⟩
    { Receiving.sampleRequest with cursor := w.state.cursor, receiveBinding := none }
    Receiving.sampleControl

/-- A mailbox is issued, two envelopes are deposited and some pages polled. -/
def samplePages : Nat → ReaderWorld
  | 0 => (start 0).afterAll step [.provider Provider.sampleIssue,
      .provider Receiving.sampleDeposit, .provider (.deposit
        ⟨0, Provider.sampleGeneration, filled 32 3⟩
        ⟨secondEnvelope, Provider.sampleBudget, by decide +kernel⟩ Receiving.sampleControl)]
  | n + 1 => (samplePages n).after step (samplePoll (samplePages n))

theorem samplePages_run (n : Nat) : ReaderRun 0 Provider.sampleGeneration (samplePages n) := by
  induction n with
  | zero => exact leads_afterAll ⟨trivial, trivial, trivial, trivial⟩
  | succ n ih => exact ih.tail ⟨rfl, rfl⟩

def Reply.size? : Reply → Option Nat
  | .polled (.ok batch) => some batch.items.length
  | _ => none

/-- Two full pages and an empty one. -/
theorem pages_complete_sample :
    (samplePages 3).history.filterMap (fun event => event.reply.size?) = [1, 1, 0] ∧
      ((received (samplePages 3).history).map fun item => item.envelope.envelopeId) = [1, 2] ∧
      Paged 0 Provider.sampleGeneration (samplePages 3) :=
  ⟨by decide +kernel, by decide +kernel, pages_complete (samplePages_run 3)⟩

end SessionChat.Mailbox.Paging
