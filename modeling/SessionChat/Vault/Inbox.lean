import SessionChat.Vault.Calls

/-!
# The opaque inbox (`crates/session-storage/src/lib.rs`)

What polling and the other calls do to the retained envelopes: the byte total stays
the sum over them, and an envelope leaves only by expiry or by its own import.
-/

set_option autoImplicit false

namespace SessionChat.Vault

open Collections Protocol SessionVaultModel Storage OpaqueEnvelope

/-! ## Pruning -/

variable {v v' : SessionVaultModel} {c : Call} {reply : Reply}

def encodedSum (inbox : OrderedMap Id16 OpaqueInboxRecord) : Nat :=
  inbox.sum fun _ record => record.encoded.length

/-- The total is the sum of the retained lengths, and both bounds of the policy hold. -/
structure Accounted (v : SessionVaultModel) : Prop where
  total : v.inboxTotalEncodedBytes = encodedSum v.inbox
  count : v.inbox.size ≤ v.inboxPolicy.maximumEnvelopes
  bytes : v.inboxTotalEncodedBytes ≤ v.inboxPolicy.maximumTotalEncodedBytes

theorem get?_pruneOne (v : SessionVaultModel) (k id : Id16) :
    (v.pruneOne k).inbox.get? id = if id = k then none else v.inbox.get? id := by
  unfold pruneOne
  rcases hget : v.inbox.get? k with _ | record
  · split_ifs with heq
    · rw [heq, hget]
    · rfl
  · split_ifs with heq
    · rw [heq]
      exact v.inbox.get?_erase_self k
    · exact v.inbox.get?_erase_of_ne heq

theorem get?_pruneAll (v : SessionVaultModel) (ids : List Id16) (id : Id16) :
    (ids.foldl pruneOne v).inbox.get? id = if id ∈ ids then none else v.inbox.get? id := by
  induction ids generalizing v with
  | nil => simp
  | cons k ids ih =>
    rw [List.foldl_cons, ih, get?_pruneOne]
    by_cases hk : id = k <;> by_cases hmem : id ∈ ids <;> simp [hk]

variable {now : Nat} {record : OpaqueInboxRecord} {id : Id16}

theorem mem_expiredIds :
    id ∈ v.expiredIds now ↔ ∃ record, v.inbox.get? id = some record ∧
      record.expiresAtUnixSeconds ≤ now := by
  constructor
  · intro h
    obtain ⟨⟨key, record⟩, hmem, rfl⟩ := List.mem_map.mp h
    obtain ⟨hentry, hexpired⟩ := List.mem_filter.mp hmem
    exact ⟨record, OrderedMap.mem_entries.mp hentry, of_decide_eq_true hexpired⟩
  · rintro ⟨record, hget, hexpired⟩
    refine List.mem_map.mpr ⟨(id, record), List.mem_filter.mpr ⟨?_, ?_⟩, rfl⟩
    · exact OrderedMap.mem_entries.mpr hget
    · exact decide_eq_true hexpired

/-- Polling keeps exactly the records that have not expired. -/
theorem get?_poll : (v.poll now).inbox.get? id = some record ↔
      v.inbox.get? id = some record ∧ now < record.expiresAtUnixSeconds := by
  have hsame : (if v.expired now then v.lock else v).inbox = v.inbox := by
    split_ifs <;> rfl
  rw [poll, pruneExpiredInbox, get?_pruneAll]
  simp only [mem_expiredIds, hsame]
  constructor
  · intro h
    split_ifs at h with hexpired
    refine ⟨h, Nat.not_le.mp fun hle => hexpired ⟨record, h, hle⟩⟩
  · rintro ⟨hget, hlive⟩
    rw [if_neg, hget]
    rintro ⟨record', hget', hle⟩
    cases hget.symm.trans hget'
    omega

section

variable (h : Accounted v)
include h

theorem Accounted.pruneOne (k : Id16) : Accounted (v.pruneOne k) := by
  unfold SessionVaultModel.pruneOne
  rcases hget : v.inbox.get? k with _ | record
  · exact h
  · have hsum : encodedSum v.inbox = record.encoded.length + encodedSum (v.inbox.erase k) :=
      OrderedMap.sum_erase hget _
    have htotal := h.total
    have hbytes := h.bytes
    refine ⟨?_, ?_, ?_⟩
    · show v.inboxTotalEncodedBytes - record.encoded.length = encodedSum (v.inbox.erase k)
      omega
    · exact Nat.le_trans (OrderedMap.size_retain_le _ _) h.count
    · exact Nat.le_trans (Nat.sub_le _ _) hbytes

theorem Accounted.pruneAll (ids : List Id16) :
    Accounted (ids.foldl SessionVaultModel.pruneOne v) := by
  induction ids generalizing v with
  | nil => exact h
  | cons k ids ih => exact ih (h.pruneOne k)

theorem Accounted.poll (now : Nat) : Accounted (v.poll now) := by
  unfold SessionVaultModel.poll
  split_ifs
  · exact Accounted.pruneAll (v := v.lock) ⟨h.total, h.count, h.bytes⟩ _
  · exact h.pruneAll _

theorem Accounted.polled (c : Call) : Accounted (c.polled v) := by
  unfold Call.polled
  cases c.pollsAt with
  | none => exact h
  | some now => exact h.poll now

end

/-! ## What a call does to the inbox -/

theorem Effect.accounted (heffect : Effect v c reply v') (h : Accounted v) : Accounted v' := by
  cases heffect with
  | kept => exact h.polled c
  | @drawn sessionId clock => exact ⟨(h.poll _).total, (h.poll _).count, (h.poll _).bytes⟩
  | @begun sessionId clock => exact ⟨(h.poll _).total, (h.poll _).count, (h.poll _).bytes⟩
  | taken | opened | relocked | locked => exact ⟨h.total, h.count, h.bytes⟩
  | refreshed | relocking => exact ⟨(h.poll _).total, (h.poll _).count, (h.poll _).bytes⟩
  | @stored encoded clock envelope hstores =>
    have hpolled := h.poll clock.first
    refine ⟨?_, ?_, hstores.bytes⟩
    · have hsum : encodedSum ((v.poll clock.first).inbox.insert envelope.envelopeId
          ⟨encoded, envelope.expiresAtUnixSeconds, v.nextInboxGeneration + 1⟩) =
          encoded.length + encodedSum (v.poll clock.first).inbox :=
        OrderedMap.sum_insert _ _ hstores.free _
      have htotal := hpolled.total
      refine Eq.trans ?_ hsum.symm
      show (v.poll clock.first).inboxTotalEncodedBytes + encoded.length = _
      omega
    · exact Nat.le_trans (OrderedMap.size_insert_le _ _ _) hstores.count
  | @imported pending clock record himports =>
    have hpruned := (h.poll clock.first).pruneOne pending.envelopeId
    unfold SessionVaultModel.pruneOne at hpruned
    rw [himports.retained] at hpruned
    exact ⟨hpruned.total, hpruned.count, hpruned.bytes⟩

/-- A record found after a call was there before, or has just been stored. -/
theorem Effect.retained_back (heffect : Effect v c reply v')
    (hget : v'.inbox.get? id = some record) :
    v.inbox.get? id = some record ∨ ∃ encoded clock envelope,
      c = .appendOpaque encoded clock ∧ Stores (v.poll clock.first) encoded clock.last envelope ∧
      id = envelope.envelopeId ∧
      record = ⟨encoded, envelope.expiresAtUnixSeconds, v.nextInboxGeneration + 1⟩ ∧
      v'.nextInboxGeneration = v.nextInboxGeneration + 1 := by
  have hpolled : (c.polled v).inbox.get? id = some record → v.inbox.get? id = some record := by
    unfold Call.polled
    cases c.pollsAt with
    | none => exact fun h => h
    | some now => exact fun h => (get?_poll.mp h).1
  cases heffect with
  | kept => exact .inl (hpolled hget)
  | @stored encoded clock envelope hstores =>
    by_cases heq : id = envelope.envelopeId
    · rw [heq] at hget
      cases (OrderedMap.get?_insert_self _ _ _).symm.trans hget
      exact .inr ⟨encoded, clock, envelope, rfl, hstores, heq, rfl, rfl⟩
    · exact .inl (hpolled ((OrderedMap.get?_insert_of_ne _ _ heq).symm.trans hget))
  | @imported pending clock old himports =>
    by_cases heq : id = pending.envelopeId
    · rw [heq] at hget
      exact absurd ((OrderedMap.get?_erase_self _ _).symm.trans hget) (by simp)
    · exact .inl (hpolled ((OrderedMap.get?_erase_of_ne _ heq).symm.trans hget))
  | drawn | begun | refreshed | relocking => exact .inl (hpolled hget)
  | taken | opened | relocked | locked => exact .inl hget

/-- The token removes this very insertion. -/
structure Removes (v : SessionVaultModel) (pending : PendingOpaqueImport) (id : Id16)
    (record : OpaqueInboxRecord) : Prop where
  vaultInstance : pending.vaultInstance = v.vaultInstance
  envelopeId : pending.envelopeId = id
  insertion : pending.insertionGeneration = record.insertionGeneration
  opened : ∃ idle key, v.state = .opened pending.sessionId pending.openGeneration idle key

theorem opened_of_poll {s : SessionId} {g idle : Nat} {key : UnsealedSessionKey}
    (h : (v.poll now).state = .opened s g idle key) : v.state = .opened s g idle key := by
  rw [poll_state] at h
  split_ifs at h
  exact h

/-- A record that is gone after a call has expired at a time it read, or was imported by it. -/
theorem Effect.retained_forth (heffect : Effect v c reply v')
    (hget : v.inbox.get? id = some record) :
    v'.inbox.get? id = some record ∨ (∃ t ∈ c.times, record.expiresAtUnixSeconds ≤ t) ∨
      ∃ pending clock, c = .completeOpaqueImport pending clock ∧ reply = .imported (.ok ()) ∧
        Removes v pending id record := by
  have hpolled : (c.polled v).inbox.get? id = some record ∨
      ∃ t ∈ c.times, record.expiresAtUnixSeconds ≤ t := by
    unfold Call.polled
    cases hpolls : c.pollsAt with
    | none => exact .inl hget
    | some now =>
      by_cases hlive : now < record.expiresAtUnixSeconds
      · exact .inl (get?_poll.mpr ⟨hget, hlive⟩)
      · exact .inr ⟨now, Call.pollsAt_mem_times hpolls, Nat.not_lt.mp hlive⟩
  rcases hpolled with hkept | hexpired
  swap
  · exact .inr (.inl hexpired)
  cases heffect with
  | kept => exact .inl hkept
  | @stored encoded clock envelope hstores =>
    refine .inl ((OrderedMap.get?_insert_of_ne _ _ ?_).trans hkept)
    rintro rfl
    exact absurd (hstores.free.symm.trans hkept) (by simp)
  | @imported pending clock old himports =>
    by_cases heq : id = pending.envelopeId
    · rw [heq] at hkept
      obtain rfl : old = record := Option.some.inj (himports.retained.symm.trans hkept)
      obtain ⟨idle, key, hopened⟩ := himports.opened
      refine .inr (.inr ⟨pending, clock, rfl, rfl, ?_, heq.symm, himports.insertion.symm,
        idle, key, opened_of_poll hopened⟩)
      rw [← himports.vaultInstance, poll_vaultInstance]
    · exact .inl ((OrderedMap.get?_erase_of_ne _ heq).trans hkept)
  | drawn | begun | refreshed | relocking => exact .inl hkept
  | taken | opened | relocked | locked => exact .inl hget

theorem Effect.inbox_frame (heffect : Effect v c reply v') :
    v'.vaultInstance = v.vaultInstance ∧ v'.inboxPolicy = v.inboxPolicy ∧
      v.nextInboxGeneration ≤ v'.nextInboxGeneration := by
  have hpolled : (c.polled v).vaultInstance = v.vaultInstance ∧
      (c.polled v).inboxPolicy = v.inboxPolicy ∧
      (c.polled v).nextInboxGeneration = v.nextInboxGeneration := by
    unfold Call.polled
    cases c.pollsAt <;> simp
  cases heffect with
  | kept => exact ⟨hpolled.1, hpolled.2.1, Nat.le_of_eq hpolled.2.2.symm⟩
  | taken | opened | relocked | locked => exact ⟨rfl, rfl, Nat.le_refl _⟩
  | stored => exact ⟨hpolled.1, hpolled.2.1, Nat.le_succ _⟩
  | drawn | begun | refreshed | relocking | imported =>
    exact ⟨hpolled.1, hpolled.2.1, Nat.le_of_eq hpolled.2.2.symm⟩

/-! ## The encoded size of an envelope -/

/-- `append_opaque` without its check of the encoded size, on the bytes of an envelope. -/
def SessionVaultModel.appendUnsized (v : SessionVaultModel) (envelope : OpaqueEnvelope)
    (encoded : Bytes) (clock : Readings) :
    SessionVaultModel × Except VaultError InboxAppendOutcome :=
  let polled := v.poll clock.first
  if envelope.envelopeId = 0 ∨ envelope.expiresAtUnixSeconds ≤ clock.last ∨
      polled.inboxPolicy.maximumLifetimeSeconds < envelope.expiresAtUnixSeconds - clock.last then
    (polled, .error .rejected)
  else
    match polled.inbox.get? envelope.envelopeId with
    | some existing =>
        (polled, if existing.encoded = encoded then .ok .alreadyStored else .error .rejected)
    | none => polled.store envelope encoded

/-- What `new` accepts for an expiry of 64 bits. -/
def Constructed (e : OpaqueEnvelope) : Prop :=
  ∃ id expiresAt ciphertext, expiresAt < 2 ^ 64 ∧ OpaqueEnvelope.new id expiresAt ciphertext = .ok e

theorem constructed_iff {e : OpaqueEnvelope} : Constructed e ↔ e.Valid := by
  constructor
  · rintro ⟨id, expiresAt, ciphertext, hexpiry, hnew⟩
    unfold OpaqueEnvelope.new at hnew
    split_ifs at hnew with hlarge
    cases hnew
    exact ⟨Nat.not_lt.mp hlarge, hexpiry⟩
  · intro h
    exact ⟨_, _, _, h.expiry, if_neg (Nat.not_lt.mpr h.ciphertext)⟩

theorem appendOpaque_of_decoded {e : OpaqueEnvelope} {bytes : Bytes}
    (hdecoded : decodeCanonical bytes = .ok e)
    (hsize : bytes ≠ [] ∧ bytes.length ≤ maxEncodedOpaqueEnvelopeBytes) (clock : Readings) :
    v.appendOpaque bytes clock = v.appendUnsized e bytes clock := by
  have hguard : ¬(bytes = [] ∨ maxEncodedOpaqueEnvelopeBytes < bytes.length) :=
    not_or.mpr ⟨hsize.1, Nat.not_lt.mpr hsize.2⟩
  simp only [appendOpaque, appendUnsized, admissible, hdecoded]
  by_cases hid : e.envelopeId = 0
  · simp [hid]
  · simp only [hid, if_false, false_or]
    split_ifs <;> rfl

/-- An envelope that `new` accepts encodes within the wire limit and decodes to itself, with
less than the overhead that the inbox allows, and nothing else decodes; so an append looks at
its size only when it looks at the retained total. -/
theorem opaque_envelope_fits :
    (∀ e, Constructed e → ∃ bytes, e.encodeCanonical = .ok bytes ∧
      bytes.length ≤ maxWireObjectBytes ∧ decodeCanonical bytes = .ok e ∧
      bytes.length + maxEnvelopeCiphertextBytes <
        e.ciphertext.length + maxEncodedOpaqueEnvelopeBytes ∧
      ∀ (v : SessionVaultModel) clock, v.appendOpaque bytes clock = v.appendUnsized e bytes clock) ∧
    ∀ bytes e, decodeCanonical bytes = .ok e ↔ Constructed e ∧ e.encodeCanonical = .ok bytes := by
  refine ⟨fun e hconstructed => ?_, fun bytes e => ⟨fun h => ?_, fun ⟨hconstructed, h⟩ => ?_⟩⟩
  · have hvalid := constructed_iff.mp hconstructed
    have hencoded := encodeCanonical_of_valid hvalid
    have hdecoded := decodeCanonical_of_encodeCanonical hvalid hencoded
    have hlength := length_encodeFields_le hvalid
    have hciphertext := hvalid.ciphertext
    refine ⟨_, hencoded, length_of_decodeCanonical hdecoded, hdecoded, ?_, fun v clock => ?_⟩
    · simp only [maxEncodedOpaqueEnvelopeBytes]
      omega
    · refine appendOpaque_of_decoded hdecoded ⟨?_, ?_⟩ clock
      · simp [encodeFields, Codec.Cbor.array, Codec.Cbor.head]
      · simp only [maxEncodedOpaqueEnvelopeBytes]
        omega
  · exact ⟨constructed_iff.mpr (valid_of_decodeCanonical h), encodeCanonical_of_decodeCanonical h⟩
  · exact decodeCanonical_of_encodeCanonical (constructed_iff.mp hconstructed) h

end SessionChat.Vault
