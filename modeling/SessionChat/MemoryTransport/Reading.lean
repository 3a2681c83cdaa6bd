import SessionChat.Collections.FirstOccurrences
import SessionChat.MemoryTransport.Acknowledged

/-!
# The two read interfaces (`crates/transport-memory/src/lib.rs`)

`receive` walks the visible queue to the first live delivery. `poll` looks at no more entries
of the queue than it may return deliveries, so that an expired entry or a second copy uses up
a place; the two agree exactly when that costs nothing.
-/

set_option autoImplicit false

namespace SessionChat.MemoryTransport

open Collections Control Protocol Transition
  Transport MemoryMailboxRecord Mailbox Storage

/-! ## Stored envelopes -/

/-- Every retained envelope has a canonical form, of the recorded length. -/
def Holdings.Stored (h : Holdings) : Prop :=
  ∀ id a envelope, h.accepted.get? id = some a → a.envelope = some envelope →
    ∃ encoded, envelope.val.encodeCanonical = .ok encoded ∧ encoded.length = a.encodedLen ∧
      envelope.val.envelopeId ≠ 0

theorem Holdings.Stored.step {digests : MemoryDigests} {policy : MemoryMailboxPolicy}
    {before after : Holdings} (hstored : before.Stored)
    (hstep : Step digests policy before after) : after.Stored := by
  intro id a envelope hget henvelope
  cases hstep with
  | narrowed haccepted _ =>
    obtain ⟨entry, hentry, hsame⟩ := haccepted.same hget
    rcases hsame.envelope with hkept | hdropped
    · obtain ⟨encoded, hencoded, hlength, hnonzero⟩ :=
        hstored id entry envelope hentry (hkept.symm.trans henvelope)
      exact ⟨encoded, hencoded, hlength.trans hsame.encodedLen.symm, hnonzero⟩
    · cases hdropped.symm.trans henvelope
  | @again envelopeId entry _ _ hentry _ _ _ _ =>
    by_cases hid : id = envelopeId
    · subst hid
      rw [OrderedMap.get?_modify_self, hentry] at hget
      cases hget
      exact hstored id entry envelope hentry henvelope
    · rw [OrderedMap.get?_modify_of_ne _ _ hid] at hget
      exact hstored id a envelope hget henvelope
  | @first deposited encoded _ _ _ _ hencoded hnonzero _ _ _ _ =>
    rw [OrderedMap.get?_insert] at hget
    split_ifs at hget
    · cases hget
      cases henvelope
      exact ⟨encoded, hencoded, rfl, hnonzero⟩
    · exact hstored id a envelope hget henvelope

namespace DeterministicMemoryTransport

variable {digests : MemoryDigests} {s : DeterministicMemoryTransport} {w : MemoryWorld}

theorem stored_of_calls (digests : MemoryDigests) (policy : MemoryMailboxPolicy)
    (id : Mailbox.NonZero 128) (cs : List MemoryCall) (mailboxId : Id16) :
    (((World.mk (fresh policy id) []).afterAll (call digests) cs).state.holdings
      mailboxId).Stored := by
  have hrun : Leads (call digests) (fun _ _ => True) (World.mk (fresh policy id) [])
      ((World.mk (fresh policy id) []).afterAll (call digests) cs) := leads_calls _ cs
  refine hrun.invariant (I := fun w => (w.state.holdings mailboxId).Stored) ?_ ?_
  · intro v c _ hv
    have heffect : Effect digests v.state c _ _ := call_effect v.state c
    rcases heffect.step mailboxId with ⟨-, hempty⟩ | hstep
    · change ((call digests v.state c).1.holdings mailboxId).Stored
      rw [hempty]
      intro id a envelope hget
      simp [Holdings.empty] at hget
    · exact hv.step hstep
  · intro id a envelope hget
    simp [holdings, fresh] at hget

end DeterministicMemoryTransport

variable {envelope : Envelope}

/-- A stored envelope that can still expire has a canonical form. -/
theorem canonicalOf_eq_ok {encoded : List UInt8}
    (hencoded : envelope.val.encodeCanonical = .ok encoded) (hnonzero : envelope.val.envelopeId ≠ 0)
    (hexpires : envelope.val.expiresAtUnixSeconds ≠ 0) :
    ∃ canonical, DeterministicMemoryTransport.canonicalOf envelope = .ok canonical ∧
      canonical.bytes = encoded := by
  unfold DeterministicMemoryTransport.canonicalOf
  unfold CanonicalEnvelope.fromOpaque
  split
  · rename_i herror
    cases hencoded.symm.trans herror
  · rename_i bytes hbytes
    cases hencoded.symm.trans hbytes
    rw [dif_pos ⟨hnonzero, hexpires⟩]
    exact ⟨_, rfl, rfl⟩

theorem of_canonicalOf {canonical : CanonicalEnvelope}
    (h : DeterministicMemoryTransport.canonicalOf envelope = .ok canonical) :
    envelope.val.encodeCanonical = .ok canonical.bytes ∧
      canonical.expiresAtUnixSeconds = envelope.val.expiresAtUnixSeconds := by
  have hmade := orElse_eq_ok.mp h
  unfold CanonicalEnvelope.fromOpaque at hmade
  split at hmade
  · cases hmade
  · rename_i bytes hbytes
    split_ifs at hmade
    cases hmade
    exact ⟨hbytes, rfl⟩

/-! ## Live deliveries -/

namespace MemoryMailboxRecord

variable {record : MemoryMailboxRecord} {deliveryId other : DeliveryId} {now : Nat}

/-- The retained envelope of a delivery, unless it has expired. -/
def liveEnvelope (record : MemoryMailboxRecord) (now : Nat) (deliveryId : DeliveryId) :
    Option Envelope :=
  ((record.find deliveryId).bind fun entry => entry.2.envelope).filter fun envelope =>
    decide (now < envelope.val.expiresAtUnixSeconds)

theorem liveEnvelope_eq_some {envelope : Envelope} :
    record.liveEnvelope now deliveryId = some envelope ↔
      ∃ entry, record.find deliveryId = some entry ∧ entry.2.envelope = some envelope ∧
        now < envelope.val.expiresAtUnixSeconds := by
  simp only [liveEnvelope, Option.filter_eq_some_iff, Option.bind_eq_some_iff, decide_eq_true_eq]
  constructor
  · rintro ⟨⟨entry, hfind, henvelope⟩, hlive⟩
    exact ⟨entry, hfind, henvelope, hlive⟩
  · rintro ⟨entry, hfind, henvelope, hlive⟩
    exact ⟨⟨entry, hfind, henvelope⟩, hlive⟩

theorem deliveryIsLive_iff (hdistinct : record.Distinct) : record.DeliveryIsLive deliveryId now ↔
      ∃ envelope, record.liveEnvelope now deliveryId = some envelope := by
  simp only [liveEnvelope_eq_some]
  constructor
  · rintro ⟨⟨id, accepted⟩, hentry, hid, envelope, henvelope, hlive⟩
    have hget := OrderedMap.mem_entries.mp hentry
    rcases hfind : record.find deliveryId with _ | found
    · exact absurd hid (find_eq_none hfind hget)
    · obtain ⟨hfound, hfoundId⟩ := find_eq_some hfind
      have hsame := hdistinct hget hfound (hid.trans hfoundId.symm)
      rw [← hsame, hget] at hfound
      exact ⟨envelope, found, rfl, (Option.some.inj hfound) ▸ henvelope, hlive⟩
  · rintro ⟨envelope, entry, hfind, henvelope, hlive⟩
    obtain ⟨hget, hid⟩ := find_eq_some hfind
    exact ⟨entry, OrderedMap.mem_entries.mpr hget, hid, envelope, henvelope, hlive⟩

/-- Dropping the envelope of one delivery leaves the others as they are. -/
theorem find_dropEnvelope (hne : other ≠ deliveryId) :
    (record.dropEnvelope deliveryId).find other = record.find other := by
  unfold dropEnvelope
  split
  · rfl
  · rename_i envelopeId accepted hfind
    obtain ⟨hget, hid⟩ := find_eq_some hfind
    have hnames : (fun (id : Id16) (a : AcceptedEnvelope) =>
        decide ((if id = envelopeId then a.dropped else a).deliveryId = other)) =
        fun _ a => decide (a.deliveryId = other) := by
      funext id a
      split_ifs <;> rfl
    have hfound : record.find other =
        (record.find other).map fun e => (e.1, if e.1 = envelopeId then e.2.dropped else e.2) := by
      rcases hother : record.find other with _ | entry
      · rfl
      · obtain ⟨hentry, hentryId⟩ := find_eq_some hother
        have hkey : entry.1 ≠ envelopeId := by
          intro hkey
          rw [hkey, hget] at hentry
          rw [← Option.some.inj hentry, hid] at hentryId
          exact hne hentryId.symm
        simp [hkey]
    rw [find, OrderedMap.modify, OrderedMap.find?_mapValues, hnames]
    exact hfound.symm

theorem liveEnvelope_discard (hne : other ≠ deliveryId) :
    ((record.dropEnvelope deliveryId).withdraw deliveryId).liveEnvelope now other =
      record.liveEnvelope now other := by
  have hfind : ((record.dropEnvelope deliveryId).withdraw deliveryId).find other =
      record.find other := find_dropEnvelope hne
  rw [liveEnvelope, liveEnvelope, hfind]

theorem visible_dropEnvelope (record : MemoryMailboxRecord) (deliveryId : DeliveryId) :
    (record.dropEnvelope deliveryId).visible = record.visible := by
  unfold dropEnvelope
  split <;> rfl

end MemoryMailboxRecord

/-! ## Receive -/

namespace DeterministicMemoryTransport

variable {digests : MemoryDigests} {s : DeterministicMemoryTransport} {record : MemoryMailboxRecord}
  {now maxEnvelopes : Nat} {deliveryId : DeliveryId} {item : ReceivedCanonicalEnvelope}

/-- Copies of a delivery that is not live do not matter to the search. -/
theorem findSome?_withdraw {f g : DeliveryId → Option (DeliveryId × Envelope)}
    (hnone : f deliveryId = none) (hsame : ∀ other, other ≠ deliveryId → g other = f other)
    (ids : List DeliveryId) :
    (ids.filter fun candidate => decide (candidate ≠ deliveryId)).findSome? g =
      ids.findSome? f := by
  induction ids with
  | nil => rfl
  | cons id ids ih =>
    by_cases hid : id = deliveryId
    · subst hid
      rw [List.filter_cons_of_neg (by simp), List.findSome?_cons, hnone]
      exact ih
    · rw [List.filter_cons_of_pos (by simpa using hid), List.findSome?_cons,
        List.findSome?_cons, hsame id hid, ih]

/-- The loop finds the first live delivery of the queue. -/
theorem receiveFront_eq {fuel : Nat} (hdistinct : record.Distinct)
    (hfuel : record.visible.length ≤ fuel) : (receiveFront now fuel record).2 =
      record.visible.findSome? fun id => (record.liveEnvelope now id).map (Prod.mk id) := by
  induction fuel generalizing record with
  | zero =>
    rw [List.eq_nil_of_length_eq_zero (Nat.le_zero.mp hfuel)]
    rfl
  | succ fuel ih =>
    rcases hvisible : record.visible with _ | ⟨front, rest⟩
    · simp [receiveFront, hvisible]
    · rw [hvisible, List.length_cons] at hfuel
      have hskip : record.liveEnvelope now front = none →
          (receiveFront now fuel { record with visible := rest }).2 =
            (front :: rest).findSome? fun id => (record.liveEnvelope now id).map (Prod.mk id) := by
        intro hnone
        have hrest : ({ record with visible := rest } : MemoryMailboxRecord).Distinct := hdistinct
        rw [ih hrest (Nat.le_of_succ_le_succ hfuel), List.findSome?_cons, hnone]
        rfl
      unfold receiveFront
      simp only [hvisible]
      rcases hfind : record.find front with _ | ⟨id, accepted⟩
      · exact hskip (by simp [MemoryMailboxRecord.liveEnvelope, hfind])
      · rcases henvelope : accepted.envelope with _ | envelope
        · simp only [henvelope]
          exact hskip (by simp [MemoryMailboxRecord.liveEnvelope, hfind, henvelope])
        · simp only [henvelope]
          split_ifs with hexpired
          · have hnone : record.liveEnvelope now front = none := by
              simp [MemoryMailboxRecord.liveEnvelope, hfind, henvelope, hexpired]
            have hnarrows := MemoryMailboxRecord.Narrows.discardOne record front
            have hvisible' : ((record.dropEnvelope front).withdraw front).visible =
                (front :: rest).filter fun candidate => decide (candidate ≠ front) := by
              rw [← hvisible, ← record.visible_dropEnvelope front]
              rfl
            have hshort := List.length_filter_le (fun candidate => decide (candidate ≠ front)) rest
            rw [ih (hnarrows.distinct hdistinct), hvisible']
            · refine findSome?_withdraw (by simp [hnone]) (fun other hne => ?_) _
              rw [liveEnvelope_discard hne]
            · rw [hvisible', List.filter_cons_of_neg (by simp)]
              omega
          · have hlive : record.liveEnvelope now front = some envelope :=
              liveEnvelope_eq_some.mpr
                ⟨(id, accepted), hfind, henvelope, Nat.not_le.mp hexpired⟩
            rw [List.findSome?_cons, hlive]
            rfl

theorem receive_eq {authority : MemoryReceiveCapability} (hdistinct : record.Distinct)
    (hunlock : s.unlockReceive digests authority = some record)
    (hunexpired : now < authority.expiresAtUnixSeconds) : (s.receive digests authority now).2 = .ok
      (record.visible.findSome? fun id => (record.liveEnvelope now id).map (Prod.mk id)) := by
  simp only [receive, if_neg (Nat.not_le.mpr hunexpired), hunlock]
  exact congrArg Except.ok (receiveFront_eq hdistinct (Nat.le_refl _))

/-! ## Poll -/

def isLive (record : MemoryMailboxRecord) (now : Nat) (deliveryId : DeliveryId) : Bool :=
  decide (record.DeliveryIsLive deliveryId now)

def weight (record : MemoryMailboxRecord) (deliveryId : DeliveryId) : Nat :=
  ((record.find deliveryId).map fun entry => entry.2.encodedLen).getD 0

/-- The item is the canonical form of a live delivery. -/
def Returns (record : MemoryMailboxRecord) (now : Nat) (item : ReceivedCanonicalEnvelope) : Prop :=
  ∃ envelope, record.liveEnvelope now item.deliveryId = some envelope ∧
    canonicalOf envelope = .ok item.envelope

/-- What the loop has gathered from the entries it has looked at. -/
structure Gathered (record : MemoryMailboxRecord) (now : Nat) (progress : PollProgress)
    (done : List DeliveryId) : Prop where
  ids : progress.items.map ReceivedCanonicalEnvelope.deliveryId =
    distinctWhere (isLive record now) done
  items : ∀ item ∈ progress.items, Returns record now item
  bytes : progress.encodedBytes = ((distinctWhere (isLive record now) done).map (weight record)).sum

/-- What the mailbox guarantees to the loop. -/
structure Readable (record : MemoryMailboxRecord) (maxEncodedBytes : Nat) : Prop where
  distinct : record.Distinct
  stored : ∀ id a envelope, record.accepted.get? id = some a → a.envelope = some envelope →
    ∃ encoded, envelope.val.encodeCanonical = .ok encoded ∧ encoded.length = a.encodedLen ∧
      envelope.val.envelopeId ≠ 0
  covered : record.retainedEncodedBytes ≤ maxEncodedBytes

variable {maxEncodedBytes : Nat} {progress : PollProgress} {done : List DeliveryId}

/-- The limit covers any set of live deliveries. -/
theorem weight_le (hreadable : Readable record maxEncodedBytes) (now : Nat)
    (done : List DeliveryId) :
    ((distinctWhere (isLive record now) done).map (weight record)).sum ≤ maxEncodedBytes := by
  have hborne : ∀ d ∈ distinctWhere (isLive record now) done, ∃ id a,
      record.accepted.get? id = some a ∧ a.deliveryId = d ∧
        weight record d ≤ if a.envelope.isSome then a.encodedLen else 0 := by
    intro d hd
    obtain ⟨envelope, hlive⟩ := (deliveryIsLive_iff hreadable.distinct).mp
      (of_decide_eq_true (mem_distinctWhere.mp hd).2)
    obtain ⟨entry, hfind, henvelope, -⟩ := liveEnvelope_eq_some.mp hlive
    obtain ⟨hget, hid⟩ := find_eq_some hfind
    exact ⟨entry.1, entry.2, hget, hid, by simp [weight, hfind, henvelope]⟩
  exact Nat.le_trans (OrderedMap.sum_map_le_sum (nodup_distinctWhere _ _) hborne)
    hreadable.covered

/-- An entry that is not live, or whose delivery has been seen, changes nothing. -/
theorem Gathered.skip (h : Gathered record now progress done)
    (hskip : isLive record now deliveryId = true →
      deliveryId ∈ progress.items.map ReceivedCanonicalEnvelope.deliveryId)
    (expiredIds : List DeliveryId) :
    Gathered record now { progress with expiredIds } (done ++ [deliveryId]) := by
  have hsame : distinctWhere (isLive record now) (done ++ [deliveryId]) =
      distinctWhere (isLive record now) done := by
    rw [distinctWhere_concat, if_neg, List.append_nil]
    rintro ⟨hlive, hnew⟩
    exact hnew (h.ids ▸ hskip hlive)
  exact ⟨h.ids.trans hsame.symm, h.items, hsame ▸ h.bytes⟩

/-- A live delivery seen for the first time is returned, and it fits. -/
theorem Gathered.push (h : Gathered record now progress done)
    (hreadable : Readable record maxEncodedBytes) {envelope : Envelope}
    (hlive : record.liveEnvelope now deliveryId = some envelope)
    (hnew : deliveryId ∉ progress.items.map ReceivedCanonicalEnvelope.deliveryId) :
    ∃ canonical, canonicalOf envelope = .ok canonical ∧
      progress.pushWithin maxEncodedBytes deliveryId canonical =
        .ok (some (progress.push deliveryId canonical)) ∧
      Gathered record now (progress.push deliveryId canonical) (done ++ [deliveryId]) := by
  obtain ⟨entry, hfind, henvelope, hunexpired⟩ :=
    liveEnvelope_eq_some.mp hlive
  obtain ⟨hget, -⟩ := find_eq_some hfind
  obtain ⟨encoded, hencoded, hlength, hnonzero⟩ := hreadable.stored _ _ _ hget henvelope
  obtain ⟨canonical, hcanonical, hbytes⟩ :=
    canonicalOf_eq_ok hencoded hnonzero (Nat.ne_of_gt (Nat.zero_lt_of_lt hunexpired))
  have hisLive : isLive record now deliveryId = true :=
    decide_eq_true ((deliveryIsLive_iff hreadable.distinct).mpr ⟨_, hlive⟩)
  have hconcat : distinctWhere (isLive record now) (done ++ [deliveryId]) =
      distinctWhere (isLive record now) done ++ [deliveryId] := by
    rw [distinctWhere_concat, if_pos ⟨hisLive, h.ids ▸ hnew⟩]
  have hweight : weight record deliveryId = canonical.bytes.length := by
    simp [weight, hfind, hbytes, hlength]
  have hsum : progress.encodedBytes + canonical.bytes.length =
      ((distinctWhere (isLive record now) (done ++ [deliveryId])).map (weight record)).sum := by
    rw [hconcat, h.bytes]
    simp [hweight]
  have hfits := weight_le hreadable now (done ++ [deliveryId])
  refine ⟨canonical, hcanonical, ?_, ?_, ?_, hsum⟩
  · rw [PollProgress.pushWithin, if_neg (by omega)]
  · rw [hconcat, ← h.ids]
    simp [PollProgress.push]
  · intro item hitem
    rcases List.mem_append.mp hitem with hold | hnew
    · exact h.items item hold
    · cases List.mem_singleton.mp hnew
      exact ⟨envelope, hlive, hcanonical⟩

theorem PollProgress.find_isSome : (progress.find deliveryId).isSome ↔
      deliveryId ∈ progress.items.map ReceivedCanonicalEnvelope.deliveryId := by
  simp [PollProgress.find]

/-- The loop over the visible queue returns the distinct live deliveries among the entries it
looks at. -/
theorem collectVisible_eq (hreadable : Readable record maxEncodedBytes) {ids : List DeliveryId}
    (h : Gathered record now progress done) :
    ∃ progress', collectVisible record now maxEncodedBytes ids progress = .ok progress' ∧
      Gathered record now progress' (done ++ ids) := by
  induction ids generalizing progress done with
  | nil => exact ⟨progress, rfl, by rwa [List.append_nil]⟩
  | cons front rest ih =>
    have hlive_iff : record.DeliveryIsLive front now ↔ _ :=
      deliveryIsLive_iff hreadable.distinct
    have happend : done ++ front :: rest = done ++ [front] ++ rest := by simp
    rw [happend]
    unfold collectVisible
    rcases hfind : record.find front with _ | ⟨id, accepted⟩
    · refine ih (h.skip (fun hlive => ?_) progress.expiredIds)
      obtain ⟨envelope, hlive⟩ := hlive_iff.mp (of_decide_eq_true hlive)
      simp [MemoryMailboxRecord.liveEnvelope, hfind] at hlive
    · rcases henvelope : accepted.envelope with _ | envelope
      · simp only [henvelope]
        refine ih (h.skip (fun hlive => ?_) progress.expiredIds)
        obtain ⟨envelope, hlive⟩ := hlive_iff.mp (of_decide_eq_true hlive)
        simp [MemoryMailboxRecord.liveEnvelope, hfind, henvelope] at hlive
      · simp only [henvelope]
        split_ifs with hseen hexpired
        · exact ih (h.skip (fun _ => PollProgress.find_isSome.mp hseen) progress.expiredIds)
        · refine ih (h.skip (fun hlive => ?_) (progress.expiredIds ++ [front]))
          obtain ⟨other, hlive⟩ := hlive_iff.mp (of_decide_eq_true hlive)
          obtain ⟨entry, hentry, hother, hunexpired⟩ :=
            liveEnvelope_eq_some.mp hlive
          cases hfind.symm.trans hentry
          cases henvelope.symm.trans hother
          omega
        · have hlive : record.liveEnvelope now front = some envelope :=
            liveEnvelope_eq_some.mpr
              ⟨(id, accepted), hfind, henvelope, Nat.not_le.mp hexpired⟩
          obtain ⟨canonical, hcanonical, hpush, hgathered⟩ :=
            h.push hreadable hlive (mt PollProgress.find_isSome.mpr hseen)
          simp only [hcanonical, hpush]
          exact ih hgathered

theorem Returns.length (hreadable : Readable record maxEncodedBytes) (h : Returns record now item) :
    item.envelope.bytes.length = weight record item.deliveryId := by
  obtain ⟨envelope, hlive, hcanonical⟩ := h
  obtain ⟨entry, hfind, henvelope, -⟩ := liveEnvelope_eq_some.mp hlive
  obtain ⟨encoded, hencoded, hlength, -⟩ :=
    hreadable.stored _ _ _ (find_eq_some hfind).1 henvelope
  cases hencoded.symm.trans (of_canonicalOf hcanonical).1
  simp [weight, hfind, hlength]

theorem Returns.unexpired (h : Returns record now item) :
    now < item.envelope.expiresAtUnixSeconds := by
  obtain ⟨envelope, hlive, hcanonical⟩ := h
  obtain ⟨entry, -, -, hunexpired⟩ := liveEnvelope_eq_some.mp hlive
  rwa [(of_canonicalOf hcanonical).2]

theorem collectStale_of_none {mailboxId : Id16} {replays : List StaleReplay}
    (h : ∀ replay ∈ replays, replay.mailboxId ≠ mailboxId) :
    collectStale mailboxId now maxEnvelopes maxEncodedBytes replays progress = .ok progress := by
  induction replays with
  | nil => rfl
  | cons replay replays ih =>
    rw [collectStale, if_pos (h replay List.mem_cons_self)]
    exact ih fun other hother => h other (List.mem_cons_of_mem replay hother)

/-- A poll that may read the mailbox, with no fault armed for it, one time at both checkpoints
and a byte limit that covers every envelope. -/
structure PollsAt (digests : MemoryDigests) (s : DeterministicMemoryTransport)
    (authority : MemoryReceiveCapability) (request : PollRequest) (control : DispatchControl)
    (record : MemoryMailboxRecord) (now : Nat) : Prop where
  checked : s.checkPoll digests authority request control = .ok (record, now)
  last : ∃ observation, control.last.checkpoint request.budget = .ok observation ∧
    observation.wallNowUnixSeconds = now
  uncorrupted : ∀ target ∈ s.corruptNextPoll, target.mailboxId ≠ authority.mailboxId
  unreplayed : ∀ replay ∈ s.staleReplays, replay.mailboxId ≠ authority.mailboxId
  covered : record.retainedEncodedBytes ≤ request.maxEncodedBytes

variable {authority : MemoryReceiveCapability} {request : PollRequest} {control : DispatchControl}

/-- The poll returns the distinct live deliveries among the first entries of the queue. -/
theorem poll_eq (hpolls : PollsAt digests s authority request control record now)
    (hreadable : Readable record request.maxEncodedBytes) :
    ∃ batch, (s.poll digests authority request control).2 = .ok batch ∧
      batch.items.map ReceivedCanonicalEnvelope.deliveryId =
        distinctWhere (isLive record now) (record.visible.take request.maxEnvelopes) ∧
      ∀ item ∈ batch.items, Returns record now item := by
  have hstart : Gathered record now .start [] := ⟨rfl, by simp [PollProgress.start], rfl⟩
  obtain ⟨progress, hvisible, hgathered⟩ : ∃ progress,
      collectVisible record now request.maxEncodedBytes
        (record.visible.take request.maxEnvelopes) .start = .ok progress ∧
      Gathered record now progress (record.visible.take request.maxEnvelopes) :=
    collectVisible_eq hreadable hstart
  have hreplays : s.collectReplays authority.mailboxId now request progress = .ok progress := by
    unfold collectReplays
    split_ifs
    · exact collectStale_of_none hpolls.unreplayed
    · rfl
  have hkept : (progress.items.filter fun item =>
      decide (now < item.envelope.expiresAtUnixSeconds)) = progress.items :=
    List.filter_eq_self.mpr fun item hitem =>
      decide_eq_true (hgathered.items item hitem).unexpired
  have hcount : progress.items.length ≤ request.maxEnvelopes := by
    have hlength := congrArg List.length hgathered.ids
    rw [List.length_map] at hlength
    rw [hlength]
    exact Nat.le_trans (distinctWhere_sublist _ _).length_le (List.length_take_le _ _)
  have hbytes : (progress.items.map fun item => item.envelope.bytes.length).sum ≤
      request.maxEncodedBytes := by
    have hlengths : (progress.items.map fun item => item.envelope.bytes.length) =
        (progress.items.map ReceivedCanonicalEnvelope.deliveryId).map (weight record) := by
      rw [List.map_map]
      exact List.map_congr_left fun item hitem => (hgathered.items item hitem).length hreadable
    rw [hlengths, hgathered.ids]
    exact weight_le hreadable now _
  obtain ⟨batch, hbatch⟩ := ReceiveBatch.new_of_fits none hcount
    (hgathered.ids ▸ nodup_distinctWhere _ _)
    (fun item hitem => (hgathered.items item hitem).unexpired) hbytes
  obtain ⟨observation, hlast, hsame⟩ := hpolls.last
  have hgather : s.gather authority.mailboxId record now request control =
      .ok (batch, progress.expiredIds ++ (progress.items.filter fun item =>
        decide (item.envelope.expiresAtUnixSeconds ≤ now)).map
          ReceivedCanonicalEnvelope.deliveryId, now) := by
    simp only [gather, bind_eq_ok, orElse_eq_ok]
    refine ⟨progress, hvisible, progress, hreplays, observation, hlast, batch, ?_, ?_⟩
    · rw [hsame, Nat.max_self, hkept]
      exact hbatch
    · rw [hsame, Nat.max_self]
      rfl
  have hclean : ¬s.CorruptTargetVisible authority.mailboxId record := by
    rintro ⟨target, htarget, hmailbox, -⟩
    exact hpolls.uncorrupted target htarget hmailbox
  refine ⟨batch, ?_, ?_, ?_⟩
  · simp only [poll, hpolls.checked, if_neg hclean, hgather]
  · rw [(ReceiveBatch.new_ok hbatch).1]
    exact hgathered.ids
  · rw [(ReceiveBatch.new_ok hbatch).1]
    exact hgathered.items

/-! ## Agreement -/

/-- The poll returns exactly the first distinct live deliveries of the queue, in order; so it is
empty only when `receive` returns nothing, and its first item is the one `receive` returns. -/
structure ReadsAgree (record : MemoryMailboxRecord) (now maxEnvelopes : Nat)
    (batch : ReceiveBatch) (received : Option (DeliveryId × Envelope)) : Prop where
  exact : batch.items.map ReceivedCanonicalEnvelope.deliveryId =
    (distinctWhere (isLive record now) record.visible).take maxEnvelopes
  empty : batch.items = [] → received = none
  first : ∀ item ∈ batch.items.head?, ∃ envelope,
    received = some (item.deliveryId, envelope) ∧ canonicalOf envelope = .ok item.envelope

/-- Every live delivery behind the entries the poll looks at is among them as well, or no entry
it looks at is wasted on an expired delivery or a second copy. -/
def Unobstructed (record : MemoryMailboxRecord) (now maxEnvelopes : Nat) : Prop :=
  (∀ d ∈ record.visible.drop maxEnvelopes, record.DeliveryIsLive d now →
      d ∈ record.visible.take maxEnvelopes) ∨
    (record.visible.take maxEnvelopes).Nodup ∧
      ∀ d ∈ record.visible.take maxEnvelopes, record.DeliveryIsLive d now

theorem unobstructed_iff (maxEnvelopes : Nat) : Unobstructed record now maxEnvelopes ↔
      distinctWhere (isLive record now) (record.visible.take maxEnvelopes) =
        (distinctWhere (isLive record now) record.visible).take maxEnvelopes := by
  rw [distinctWhere_take_iff]
  simp only [Unobstructed, isLive, decide_eq_true_eq]

/-- The search of `receive` in terms of the queue. -/
theorem received_eq (hdistinct : record.Distinct) (ids : List DeliveryId) :
    (ids.findSome? fun id => (record.liveEnvelope now id).map (Prod.mk id)) =
      (ids.find? (isLive record now)).bind fun id =>
        (record.liveEnvelope now id).map (Prod.mk id) := by
  induction ids with
  | nil => rfl
  | cons id ids ih =>
    have hiff : record.DeliveryIsLive id now ↔ _ :=
      deliveryIsLive_iff hdistinct
    rcases hlive : record.liveEnvelope now id with _ | envelope
    · have hdead : isLive record now id = false := by
        refine decide_eq_false fun halive => ?_
        obtain ⟨envelope, hsome⟩ := hiff.mp halive
        cases hlive.symm.trans hsome
      rw [List.findSome?_cons, hlive, List.find?_cons_of_neg (by simp [hdead])]
      exact ih
    · have halive : isLive record now id = true := decide_eq_true (hiff.mpr ⟨envelope, hlive⟩)
      rw [List.find?_cons_of_pos halive]
      simp [hlive]

/-- In every state that calls reach, the two interfaces agree exactly when the entries that the
poll looks at are unobstructed. -/
theorem reads_agree_iff (policy : MemoryMailboxPolicy) (id : Mailbox.NonZero 128)
    (cs : List MemoryCall)
    (hreached : ((World.mk (fresh policy id) []).afterAll (call digests) cs).state = s)
    (hpolls : PollsAt digests s authority request control record now) :
    ∃ batch received, (s.poll digests authority request control).2 = .ok batch ∧
      (s.receive digests authority now).2 = .ok received ∧
      (ReadsAgree record now request.maxEnvelopes batch received ↔
        Unobstructed record now request.maxEnvelopes) := by
  obtain ⟨hunlock, hunexpired⟩ := of_checkPoll hpolls.checked
  have hget := (unlock_eq_some.mp hunlock).1
  have hholdings : (s.holdings authority.mailboxId).Counted s.policy :=
    hreached ▸ counted_of_calls digests policy id cs authority.mailboxId
  have hstored : (s.holdings authority.mailboxId).Stored :=
    hreached ▸ stored_of_calls digests policy id cs authority.mailboxId
  rw [holdings_of_get? hget] at hholdings hstored
  have hdistinct : record.Distinct := fun ha ha' heq => hholdings.distinct ha ha' heq
  obtain ⟨batch, hbatch, hids, hitems⟩ := poll_eq hpolls ⟨hdistinct, hstored, hpolls.covered⟩
  refine ⟨batch, _, hbatch, receive_eq hdistinct hunlock hunexpired, ?_⟩
  rw [unobstructed_iff, ← hids]
  constructor
  · intro hagree
    exact hagree.exact
  · intro hexact
    have hhead : batch.items.head?.map ReceivedCanonicalEnvelope.deliveryId =
        record.visible.find? (isLive record now) := by
      rw [← List.head?_map, hexact, List.head?_take, if_neg (Nat.ne_of_gt request.bounded.1.1),
        head?_distinctWhere]
    refine ⟨hexact, fun hempty => ?_, fun item hitem => ?_⟩
    · rw [hempty] at hhead
      rw [received_eq hdistinct, ← hhead]
      rfl
    · obtain ⟨envelope, hlive, hcanonical⟩ := hitems item (List.mem_of_mem_head? hitem)
      rw [Option.mem_def.mp hitem] at hhead
      refine ⟨envelope, ?_, hcanonical⟩
      rw [received_eq hdistinct, ← hhead]
      simp [hlive]

/-! ## An expired entry in front of a live one -/

theorem sampleLater_valid : (OpaqueEnvelope.mk 8 190 []).Valid :=
  ⟨by decide, by decide⟩

def sampleLater : Envelope := ⟨⟨8, 190, []⟩, sampleLater_valid⟩

/-- Two deposits, of which the first has expired when the mailbox is read at time 160. -/
def sampleQueued : List MemoryCall :=
  [.createMailbox 200 100 ⟨some 1, some 11, some 12, some 13⟩,
    .deposit ⟨sampleAuthority 11⟩ sampleEnvelope 110 (some 5),
    .deposit ⟨sampleAuthority 11⟩ sampleLater 110 (some 6)]

def sampleMailboxes : DeterministicMemoryTransport :=
  ((World.mk (fresh samplePolicy sampleInstance) []).afterAll (call sampleDigests)
    sampleQueued).state

def sampleRecord : MemoryMailboxRecord :=
  ((sampleMailboxes.unlockReceive sampleDigests ⟨sampleAuthority 12⟩).getD
    ⟨0, 0, 0, 0, .empty, []⟩)

theorem samplePoll_bounded (h : 0 < maxEnvelopes ∧ maxEnvelopes ≤ 2) :
    (0 < maxEnvelopes ∧ maxEnvelopes ≤ Mailbox.maxPollEnvelopes) ∧
      (0 < 1000 ∧ 1000 ≤ Mailbox.maxPollEncodedBytes) ∧ 1000 ≤ sampleBudget.maxNetworkBytes :=
  ⟨⟨h.1, Nat.le_trans h.2 (by decide)⟩, by decide, by decide⟩

def samplePoll (maxEnvelopes : Nat) (h : 0 < maxEnvelopes ∧ maxEnvelopes ≤ 2) : PollRequest :=
  ⟨none, none, maxEnvelopes, 1000, sampleBudget, samplePoll_bounded h⟩

def sampleClock : DispatchControl := ⟨⟨false, 1, some 160⟩, ⟨false, 2, some 160⟩⟩

theorem sample_polls (maxEnvelopes : Nat) (h : 0 < maxEnvelopes ∧ maxEnvelopes ≤ 2) :
    PollsAt sampleDigests sampleMailboxes ⟨sampleAuthority 12⟩ (samplePoll maxEnvelopes h)
      sampleClock sampleRecord 160 := by
  have hcorrupt : sampleMailboxes.corruptNextPoll = none := rfl
  have hreplays : sampleMailboxes.staleReplays = [] := rfl
  refine ⟨rfl, ⟨⟨2, 160⟩, rfl, rfl⟩, ?_, ?_, ?_⟩
  · simp [hcorrupt]
  · simp [hreplays]
  · show sampleRecord.retainedEncodedBytes ≤ 1000
    decide +kernel

theorem reads_agree_iff_sample : ∃ batch received,
      (sampleMailboxes.poll sampleDigests ⟨sampleAuthority 12⟩ (samplePoll 2 (by decide))
        sampleClock).2 = .ok batch ∧
      (sampleMailboxes.receive sampleDigests ⟨sampleAuthority 12⟩ 160).2 = .ok received ∧
      (ReadsAgree sampleRecord 160 2 batch received ↔ Unobstructed sampleRecord 160 2) :=
  reads_agree_iff samplePolicy sampleInstance sampleQueued rfl (sample_polls 2 (by decide))

/-- With room for one envelope the poll looks at the expired entry only and returns nothing, and
`receive` at the same time returns the delivery behind it. -/
theorem poll_hides_live_delivery :
    PollsAt sampleDigests sampleMailboxes ⟨sampleAuthority 12⟩ (samplePoll 1 (by decide))
        sampleClock sampleRecord 160 ∧ ∃ batch received,
        (sampleMailboxes.poll sampleDigests ⟨sampleAuthority 12⟩ (samplePoll 1 (by decide))
          sampleClock).2 = .ok batch ∧ batch.items = [] ∧
        (sampleMailboxes.receive sampleDigests ⟨sampleAuthority 12⟩ 160).2 = .ok (some received) ∧
        received.2 = sampleLater ∧ ¬ReadsAgree sampleRecord 160 1 batch (some received) := by
  refine ⟨sample_polls 1 (by decide), _, _, rfl, rfl, rfl, rfl, fun hagree => ?_⟩
  exact Option.some_ne_none _ (hagree.empty rfl)

end DeterministicMemoryTransport

end SessionChat.MemoryTransport
