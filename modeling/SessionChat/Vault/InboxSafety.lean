import SessionChat.Vault.Inbox

/-!
# The opaque inbox over whole runs (`crates/session-storage/src/lib.rs`)

Every call on a vault, in every lifecycle state, with any completions and relock
attempts; a pending import that names this vault is one it handed out. An insertion
that has left the inbox does not come back, so its token removes nothing.
-/

set_option autoImplicit false

namespace SessionChat.Vault

open Collections Transition Protocol Storage

def Reply.pending? : Reply → Option PendingOpaqueImport
  | .importing (.ok pending) => pending
  | _ => none

namespace Inbox

abbrev InboxWorld := World SessionVaultModel Call Reply

def imports (history : List (Event Call Reply)) : List PendingOpaqueImport :=
  history.filterMap fun event => event.reply.pending?

/-- An import token that names this vault is its own. -/
def Held (w : InboxWorld) : Call → Prop
  | .completeOpaqueImport pending _ =>
      pending.vaultInstance = w.state.vaultInstance → pending ∈ imports w.history
  | _ => True

instance (w : InboxWorld) : (c : Call) → Decidable (Held w c)
  | .completeOpaqueImport _ _ => inferInstanceAs (Decidable (_ → _))
  | .beginUnlock _ _ | .completeUnlock _ _ | .performPrivileged _ _ _ | .beginRelock _ _
  | .completeRelock _ | .forceLock _ | .poll _ | .appendOpaque _ _ | .beginOpaqueImport _ _ =>
      .isTrue trivial

abbrev Admitted : InboxWorld → Call → Prop := Timely Call.times Held

abbrev Later : InboxWorld → InboxWorld → Prop := Leads call Admitted

def InboxRun (vaultInstance : Nat) (policy : VaultPolicy) (inboxPolicy : OpaqueInboxPolicy)
    (w : InboxWorld) : Prop :=
  Later ⟨.new vaultInstance policy inboxPolicy, []⟩ w

/-! ## The invariant -/

/-- A retained record is a bounded canonical envelope under its own identifier, whose lifetime
was within the policy at a time already read. -/
structure WellFormed (v : SessionVaultModel) (read : List Nat) (id : Id16)
    (record : OpaqueInboxRecord) : Prop where
  bounded : record.encoded ≠ [] ∧ record.encoded.length ≤ maxEncodedOpaqueEnvelopeBytes
  decodes : ∃ envelope, OpaqueEnvelope.decodeCanonical record.encoded = .ok envelope ∧
    envelope.envelopeId = id ∧ envelope.expiresAtUnixSeconds = record.expiresAtUnixSeconds
  nonzero : id ≠ 0
  lifetime : ∃ t ∈ read,
    record.expiresAtUnixSeconds ≤ t + v.inboxPolicy.maximumLifetimeSeconds
  inserted : record.insertionGeneration ≤ v.nextInboxGeneration

structure Sound (w : InboxWorld) : Prop where
  accounted : Accounted w.state
  wellFormed : ∀ id record, w.state.inbox.get? id = some record →
    WellFormed w.state (readings Call.times w.history) id record
  issued : ∀ pending ∈ imports w.history,
    pending.vaultInstance = w.state.vaultInstance ∧
      pending.insertionGeneration ≤ w.state.nextInboxGeneration

variable {v : SessionVaultModel} {w w' : InboxWorld} {encoded : Bytes} {now generation : Nat}
  {envelope : OpaqueEnvelope} {pending : PendingOpaqueImport} {record : OpaqueInboxRecord}
  {clock : Readings}

theorem admissible_ok : v.admissible encoded now = .ok envelope ↔
      (encoded ≠ [] ∧ encoded.length ≤ maxEncodedOpaqueEnvelopeBytes) ∧
      OpaqueEnvelope.decodeCanonical encoded = .ok envelope ∧ envelope.envelopeId ≠ 0 ∧
      now < envelope.expiresAtUnixSeconds ∧
      envelope.expiresAtUnixSeconds ≤ now + v.inboxPolicy.maximumLifetimeSeconds := by
  unfold SessionVaultModel.admissible
  split_ifs with hbounds
  · refine ⟨(by simp), fun ⟨hbounded, _⟩ => ?_⟩
    rcases hbounds with hempty | hlong
    · exact absurd hempty hbounded.1
    · omega
  · rw [not_or, Nat.not_lt] at hbounds
    rcases hdecode : OpaqueEnvelope.decodeCanonical encoded with error | decoded
    · simp
    · simp only [Except.ok.injEq]
      split_ifs with hzero hlife
      · simp only [false_iff, not_and]
        rintro - rfl hnonzero
        exact absurd hzero hnonzero
      · simp only [false_iff, not_and]
        rintro - rfl -
        omega
      · simp only [Except.ok.injEq]
        constructor
        · rintro rfl
          exact ⟨hbounds, rfl, hzero, by omega, by omega⟩
        · exact fun ⟨_, heq, _⟩ => heq

theorem beginOpaqueImport_ok {sessionId : SessionId}
    (h : (call v (.beginOpaqueImport sessionId now)).2.pending? = some pending) :
    pending.vaultInstance = v.vaultInstance ∧ ∃ record,
      v.inbox.get? pending.envelopeId = some record ∧
      pending.insertionGeneration = record.insertionGeneration := by
  simp only [call, SessionVaultModel.beginOpaqueImport] at h
  split at h
  · split_ifs at h
    · cases h
    · split at h
      · cases h
      case h_2 envelopeId record hhead =>
        split at h
        · cases h
        · cases h
          have hentry := List.mem_of_head? hhead
          exact ⟨SessionVaultModel.poll_vaultInstance _ _, record,
            (get?_poll.mp (Collections.OrderedMap.mem_entries.mp hentry)).1, rfl⟩
  · cases h

theorem pending?_of_call {c : Call} (h : (call v c).2.pending? = some pending) : ∃ sessionId now,
      c = .beginOpaqueImport sessionId now := by
  cases c with
  | beginOpaqueImport sessionId now => exact ⟨sessionId, now, rfl⟩
  | _ => cases h

variable {id : Id16}

theorem WellFormed.mono {v' : SessionVaultModel} {read read' : List Nat}
    (h : WellFormed v read id record) (hpolicy : v'.inboxPolicy = v.inboxPolicy)
    (hnext : v.nextInboxGeneration ≤ v'.nextInboxGeneration) (hread : read ⊆ read') :
    WellFormed v' read' id record where
  bounded := h.bounded
  decodes := h.decodes
  nonzero := h.nonzero
  lifetime := by
    obtain ⟨t, ht, hle⟩ := h.lifetime
    exact ⟨t, hread ht, by rw [hpolicy]; exact hle⟩
  inserted := Nat.le_trans h.inserted hnext

theorem Sound.after (h : Sound w) (c : Call) : Sound (w.after call c) := by
  have heffect := call_effect w.state c
  obtain ⟨hinstance, hpolicy, hnext⟩ := heffect.inbox_frame
  refine ⟨heffect.accounted h.accounted, ?_, ?_⟩
  · intro id record hget
    rw [readings_after]
    rcases heffect.retained_back hget with hold |
      ⟨encoded, clock, envelope, rfl, hstores, rfl, rfl, hgeneration⟩
    · exact (h.wellFormed id record hold).mono hpolicy hnext (List.subset_append_left _ _)
    · obtain ⟨hbounded, hdecodes, hnonzero, -, hlifetime⟩ := admissible_ok.mp hstores.fits
      refine ⟨hbounded, ⟨envelope, hdecodes, rfl, rfl⟩, hnonzero, ?_, Nat.le_of_eq hgeneration.symm⟩
      refine ⟨clock.last, List.mem_append_right _ (List.mem_cons_of_mem _ List.mem_cons_self), ?_⟩
      show envelope.expiresAtUnixSeconds ≤ clock.last +
        (call w.state (.appendOpaque encoded clock)).1.inboxPolicy.maximumLifetimeSeconds
      rw [hpolicy]
      simpa using hlifetime
  · intro pending hmem
    have hsplit : pending ∈ imports w.history ∨ (call w.state c).2.pending? = some pending := by
      simpa [imports, World.after] using hmem
    rcases hsplit with hold | hnew
    · obtain ⟨hown, hle⟩ := h.issued pending hold
      exact ⟨hown.trans hinstance.symm, Nat.le_trans hle hnext⟩
    · obtain ⟨sessionId, now, rfl⟩ := pending?_of_call hnew
      obtain ⟨hown, record, hget, hinsertion⟩ := beginOpaqueImport_ok hnew
      refine ⟨hown.trans hinstance.symm, ?_⟩
      rw [hinsertion]
      exact Nat.le_trans (h.wellFormed _ record hget).inserted hnext

variable {inboxPolicy : OpaqueInboxPolicy}

theorem InboxRun.sound {vaultInstance : Nat} {policy : VaultPolicy}
    (hrun : InboxRun vaultInstance policy inboxPolicy w) : Sound w := by
  refine hrun.invariant (fun _ c _ hw => hw.after c) ⟨⟨rfl, Nat.zero_le _, Nat.zero_le _⟩, ?_, ?_⟩
  · exact fun _ _ hget => absurd hget (by rintro ⟨⟩)
  · exact List.forall_mem_nil _

/-! ## Insertions that have left -/

/-- The insertion is not in the inbox, and its number has been used. -/
structure Gone (id : Id16) (generation : Nat) (v : SessionVaultModel) : Prop where
  used : generation ≤ v.nextInboxGeneration
  absent : ∀ record, v.inbox.get? id = some record → record.insertionGeneration ≠ generation

theorem Gone.call (h : Gone id generation v) (c : Call) :
    Gone id generation (Vault.call v c).1 := by
  have heffect := call_effect v c
  refine ⟨Nat.le_trans h.used heffect.inbox_frame.2.2, ?_⟩
  intro record hget
  rcases heffect.retained_back hget with hold | ⟨_, _, _, -, -, -, rfl, -⟩
  · exact h.absent record hold
  · have hused := h.used
    show v.nextInboxGeneration + 1 ≠ generation
    omega

theorem Gone.later (h : Gone id generation w.state) (hlater : Later w w') :
    Gone id generation w'.state :=
  hlater.invariant (I := fun u => Gone id generation u.state) (fun _ c _ hu => hu.call c) h

theorem Gone.refuses (h : Gone pending.envelopeId pending.insertionGeneration v) (clock : Readings)
      : Vault.call v (.completeOpaqueImport pending clock) =
      (v.poll clock.first, .imported (.error .reservationMismatch)) := by
  simp only [Vault.call, SessionVaultModel.completeOpaqueImport]
  cases hstate : (v.poll clock.first).state with
  | opened sessionId generation idle key =>
    simp only
    split_ifs
    · rfl
    · rcases hget : (v.poll clock.first).inbox.get? pending.envelopeId with _ | record
      · rfl
      · simp only
        rw [if_pos (.inl (h.absent record (get?_poll.mp hget).1))]
        rfl
  | _ => rfl

/-! ## Appending under a retained identifier -/

theorem Sound.append_repeated (h : Sound w) (hget : w.state.inbox.get? id = some record)
    (hadmitted : Admitted w (.appendOpaque record.encoded clock))
    (hlive : clock.last < record.expiresAtUnixSeconds) :
    call w.state (.appendOpaque record.encoded clock) =
      (w.state.poll clock.first, .appended (.ok .alreadyStored)) := by
  have hformed := h.wellFormed id record hget
  obtain ⟨envelope, hdecodes, rfl, hexpires⟩ := hformed.decodes
  have hordered : clock.first ≤ clock.last := by
    simpa [Call.times] using hadmitted.ordered
  have hfits : (w.state.poll clock.first).admissible record.encoded clock.last = .ok envelope := by
    obtain ⟨t, ht, hle⟩ := hformed.lifetime
    have hlast := hadmitted.clock t ht clock.last (List.mem_cons_of_mem _ List.mem_cons_self)
    refine admissible_ok.mpr ⟨hformed.bounded, hdecodes, hformed.nonzero, ?_, ?_⟩
    · rw [hexpires]
      exact hlive
    · rw [SessionVaultModel.poll_inboxPolicy]
      omega
  have hretained : (w.state.poll clock.first).inbox.get? envelope.envelopeId = some record :=
    get?_poll.mpr ⟨hget, Nat.lt_of_le_of_lt hordered hlive⟩
  simp only [call, SessionVaultModel.appendOpaque, hfits, hretained]
  rfl

theorem append_conflict (hget : v.inbox.get? id = some record)
    (hlive : clock.first < record.expiresAtUnixSeconds)
    (hdecodes : OpaqueEnvelope.decodeCanonical encoded = .ok envelope)
    (hid : envelope.envelopeId = id) (hother : encoded ≠ record.encoded) :
    call v (.appendOpaque encoded clock) = (v.poll clock.first, .appended (.error .rejected)) := by
  have hretained : (v.poll clock.first).inbox.get? envelope.envelopeId = some record := by
    rw [hid]
    exact get?_poll.mpr ⟨hget, hlive⟩
  simp only [call, SessionVaultModel.appendOpaque]
  rcases hfits : (v.poll clock.first).admissible encoded clock.last with error | found
  · have herror : error = .rejected := by
      unfold SessionVaultModel.admissible at hfits
      rw [hdecodes] at hfits
      dsimp only at hfits
      split_ifs at hfits <;> cases hfits <;> rfl
    rw [herror]
    rfl
  · obtain ⟨-, hfound, -⟩ := admissible_ok.mp hfits
    cases hdecodes.symm.trans hfound
    simp only [hretained]
    rw [if_neg fun heq => hother heq.symm]
    rfl

/-! ## The guarantees -/

structure InboxSafe (w : InboxWorld) : Prop where
  accounted : Accounted w.state
  /-- No subtraction from the total can saturate. -/
  unsaturated : ∀ id record, w.state.inbox.get? id = some record →
    record.encoded.length ≤ w.state.inboxTotalEncodedBytes
  /-- An envelope leaves by expiry, or by a token for this insertion in the open generation. -/
  removed_only : ∀ c id record, w.state.inbox.get? id = some record →
    (call w.state c).1.inbox.get? id ≠ some record →
    (∃ t ∈ c.times, record.expiresAtUnixSeconds ≤ t) ∨
      ∃ pending clock, c = .completeOpaqueImport pending clock ∧
        (call w.state c).2 = .imported (.ok ()) ∧ Removes w.state pending id record
  /-- The same bytes again do no more than a poll. -/
  append_repeated : ∀ id record clock, w.state.inbox.get? id = some record →
    Admitted w (.appendOpaque record.encoded clock) → clock.last < record.expiresAtUnixSeconds →
    call w.state (.appendOpaque record.encoded clock) =
      (w.state.poll clock.first, .appended (.ok .alreadyStored))
  /-- Other bytes under a retained identifier are refused. -/
  append_conflict : ∀ id record encoded clock envelope,
    w.state.inbox.get? id = some record → clock.first < record.expiresAtUnixSeconds →
    OpaqueEnvelope.decodeCanonical encoded = .ok envelope → envelope.envelopeId = id →
    encoded ≠ record.encoded → call w.state (.appendOpaque encoded clock) =
      (w.state.poll clock.first, .appended (.error .rejected))
  /-- Once its insertion has left, a token removes nothing, whatever is stored under the
  identifier later. -/
  stale_token : ∀ pending ∈ imports w.history,
    (∀ record, w.state.inbox.get? pending.envelopeId = some record →
      record.insertionGeneration ≠ pending.insertionGeneration) →
    ∀ w', Later w w' → ∀ clock, call w'.state (.completeOpaqueImport pending clock) =
      (w'.state.poll clock.first, .imported (.error .reservationMismatch))

theorem inbox_safe {vaultInstance : Nat} {policy : VaultPolicy}
    (hrun : InboxRun vaultInstance policy inboxPolicy w) :
    InboxSafe w where
  accounted := hrun.sound.accounted
  unsaturated id record hget := by
    have hsum : encodedSum w.state.inbox = _ := Collections.OrderedMap.sum_erase hget _
    rw [hrun.sound.accounted.total, hsum]
    exact Nat.le_add_right _ _
  removed_only c _ _ hget hgone :=
    ((call_effect w.state c).retained_forth hget).resolve_left hgone
  append_repeated _ _ _ hget hadmitted hlive := hrun.sound.append_repeated hget hadmitted hlive
  append_conflict _ _ _ _ _ hget hlive hdecodes hid hother :=
    append_conflict hget hlive hdecodes hid hother
  stale_token pending hpending hgone _ hlater clock :=
    (Gone.later ⟨(hrun.sound.issued pending hpending).2, hgone⟩ hlater).refuses clock

/-- An open vault never refuses to import: whatever it retains decodes. -/
theorem import_begins {vaultInstance idle : Nat} {policy : VaultPolicy} {sessionId : SessionId}
    {key : UnsealedSessionKey} (hrun : InboxRun vaultInstance policy inboxPolicy w)
    (hopen : (w.state.poll now).state = .opened sessionId generation idle key) :
    ∃ pending, (w.state.beginOpaqueImport sessionId now).2 = .ok pending ∧
      (pending = none ↔ (w.state.poll now).inbox.entries = []) := by
  simp only [SessionVaultModel.beginOpaqueImport, hopen]
  rcases hentries : (w.state.poll now).inbox.entries with _ | ⟨⟨id, record⟩, rest⟩
  · simp
  · have hget : (w.state.poll now).inbox.get? id = some record :=
      OrderedMap.mem_entries.mp (by simp [hentries])
    obtain ⟨_, hdecodes, -⟩ := (hrun.sound.wellFormed id record (get?_poll.mp hget).1).decodes
    simp [hdecodes]

/-! ## An envelope imported after its reinsertion -/

def sampleEnvelope (expiresAt : Nat) : Bytes := (OpaqueEnvelope.mk 1 expiresAt [0]).encodeFields

def sampleOpening : UnlockCompletion where
  vaultInstance := 7
  sessionId := sampleSession
  generation := 1
  outcome := .ready sampleCapabilities sampleKey

/-- A token is taken for one insertion, which expires and is stored again. -/
def sampleReinserted : InboxWorld :=
  World.afterAll call ⟨.new 7 samplePolicy sampleInboxPolicy, []⟩
    [.appendOpaque (sampleEnvelope 15) ⟨0, 0⟩, .beginUnlock sampleSession ⟨1, 1⟩,
      .completeUnlock sampleOpening ⟨2, 2⟩, .beginOpaqueImport sampleSession 3,
      .appendOpaque (sampleEnvelope 50) ⟨16, 16⟩]

theorem inbox_safe_reinserted :
    (imports sampleReinserted.history).map PendingOpaqueImport.insertionGeneration = [1] ∧
      sampleReinserted.state.inbox.entries.map (fun entry => entry.2.insertionGeneration) = [2] ∧
      InboxSafe sampleReinserted := by
  refine ⟨by decide +kernel, by decide +kernel, ?_⟩
  have hrun : InboxRun 7 samplePolicy sampleInboxPolicy sampleReinserted :=
    leads_afterAll (by decide +kernel)
  exact inbox_safe hrun

theorem import_begins_reinserted :
    (sampleReinserted.state.poll 17).inbox.entries ≠ [] ∧ ∃ pending,
      (sampleReinserted.state.beginOpaqueImport sampleSession 17).2 = .ok pending ∧
        (pending = none ↔ (sampleReinserted.state.poll 17).inbox.entries = []) := by
  have hrun : InboxRun 7 samplePolicy sampleInboxPolicy sampleReinserted :=
    leads_afterAll (by decide +kernel)
  exact ⟨by decide +kernel, import_begins hrun rfl⟩

end Inbox

end SessionChat.Vault
