import SessionChat.Transition.Timed
import SessionChat.Vault.Model

/-!
# Calls on one vault (`crates/session-storage/src/lib.rs`)

Any caller may present any token, envelope and time. Most calls poll the vault
first; `Effect` says once what a call can do to the polled vault, with the checks it
has made.
-/

set_option autoImplicit false

namespace SessionChat.Vault

open Collections Protocol Transition Storage

inductive Call where
  | beginUnlock (sessionId : SessionId) (clock : Readings)
  | completeUnlock (completion : UnlockCompletion) (clock : Readings)
  | performPrivileged (sessionId : SessionId) (operation : VaultOperation) (clock : Readings)
  | beginRelock (sessionId : SessionId) (now : Nat)
  | completeRelock (attempt : RelockAttempt)
  | forceLock (event : LockEvent)
  | poll (now : Nat)
  | appendOpaque (encoded : Bytes) (clock : Readings)
  | beginOpaqueImport (sessionId : SessionId) (now : Nat)
  | completeOpaqueImport (pending : PendingOpaqueImport) (clock : Readings)

inductive Reply where
  | begun (result : Except VaultError UnlockAttempt)
  | completed (result : Except VaultError Unit)
  | performed (result : Except VaultError Unit)
  | relocking (result : Except VaultError RelockAttempt)
  | relocked (result : Except VaultError Unit)
  | locked
  | polled
  | appended (result : Except VaultError InboxAppendOutcome)
  | importing (result : Except VaultError (Option PendingOpaqueImport))
  | imported (result : Except VaultError Unit)
deriving DecidableEq

def call (self : SessionVaultModel) : Call → SessionVaultModel × Reply
  | .beginUnlock sessionId clock => (self.beginUnlock sessionId clock).map id .begun
  | .completeUnlock completion clock => (self.completeUnlock completion clock).map id .completed
  | .performPrivileged sessionId operation clock =>
      (self.performPrivileged sessionId operation clock).map id .performed
  | .beginRelock sessionId now => (self.beginRelock sessionId now).map id .relocking
  | .completeRelock attempt => (self.completeRelock attempt).map id .relocked
  | .forceLock event => (self.forceLock event, .locked)
  | .poll now => (self.poll now, .polled)
  | .appendOpaque encoded clock => (self.appendOpaque encoded clock).map id .appended
  | .beginOpaqueImport sessionId now => (self.beginOpaqueImport sessionId now).map id .importing
  | .completeOpaqueImport pending clock =>
      (self.completeOpaqueImport pending clock).map id .imported

def Call.times : Call → List Nat
  | .beginUnlock _ clock | .completeUnlock _ clock | .performPrivileged _ _ clock
  | .appendOpaque _ clock | .completeOpaqueImport _ clock => [clock.first, clock.last]
  | .beginRelock _ now | .poll now | .beginOpaqueImport _ now => [now]
  | .completeRelock _ | .forceLock _ => []

/-- The time at which a call polls, if it does. -/
def Call.pollsAt : Call → Option Nat
  | .beginUnlock _ clock | .performPrivileged _ _ clock | .appendOpaque _ clock
  | .completeOpaqueImport _ clock => some clock.first
  | .beginRelock _ now | .poll now | .beginOpaqueImport _ now => some now
  | .completeUnlock _ _ | .completeRelock _ | .forceLock _ => none

/-- The vault as the call finds it after polling. -/
def Call.polled (c : Call) (v : SessionVaultModel) : SessionVaultModel :=
  match c.pollsAt with
  | some now => v.poll now
  | none => v

theorem Call.pollsAt_mem_times {c : Call} {now : Nat} (h : c.pollsAt = some now) :
    now ∈ c.times := by
  cases c <;> simp_all [Call.pollsAt, Call.times]

/-- The reply tells of no change to the polled vault. -/
def Reply.Quiet : Reply → Prop
  | .begun (.ok _) | .completed (.ok _) | .performed (.ok _) | .relocking (.ok _)
  | .relocked (.ok _) | .locked | .appended (.ok .stored) | .imported (.ok _) => False
  | _ => True

def drawn (v : SessionVaultModel) : SessionVaultModel :=
  { v with nextGeneration := v.nextGeneration + 1 }

/-- What has been checked when a completion opens the vault. -/
structure Opens (v : SessionVaultModel) (completion : UnlockCompletion) (clock : Readings)
    (sessionId : SessionId) (generation : Nat) (key : UnsealedSessionKey) : Prop where
  pending : ∃ expires, v.state = .unlocking sessionId generation expires ∧
    clock.first < expires ∧ clock.last < expires
  current : v.Matches sessionId generation completion
  ready : ∃ capabilities, completion.outcome = .ready capabilities key ∧
    capabilities.supports v.policy.minimumProtection

/-- What has been checked when an envelope is stored. -/
structure Stores (v : SessionVaultModel) (encoded : Bytes) (now : Nat)
    (envelope : OpaqueEnvelope) : Prop where
  fits : v.admissible encoded now = .ok envelope
  free : v.inbox.get? envelope.envelopeId = none
  count : v.inbox.size < v.inboxPolicy.maximumEnvelopes
  bytes : v.inboxTotalEncodedBytes + encoded.length ≤ v.inboxPolicy.maximumTotalEncodedBytes

/-- What has been checked when an imported envelope is removed. -/
structure Imports (v : SessionVaultModel) (pending : PendingOpaqueImport)
    (record : OpaqueInboxRecord) : Prop where
  opened : ∃ idle key, v.state = .opened pending.sessionId pending.openGeneration idle key
  vaultInstance : v.vaultInstance = pending.vaultInstance
  retained : v.inbox.get? pending.envelopeId = some record
  insertion : record.insertionGeneration = pending.insertionGeneration

/-- What one call can do, with the checks it has made. -/
inductive Effect (v : SessionVaultModel) : Call → Reply → SessionVaultModel → Prop where
  | kept {c : Call} {reply : Reply} (hquiet : reply.Quiet) : Effect v c reply (c.polled v)
  | drawn {sessionId : SessionId} {clock : Readings}
      (hsealed : (v.poll clock.first).state = .sealed) :
      Effect v (.beginUnlock sessionId clock) (.begun (.error .rejected))
        (drawn (v.poll clock.first))
  | begun {sessionId : SessionId} {clock : Readings} {expires : Nat}
      (hsealed : (v.poll clock.first).state = .sealed) :
      Effect v (.beginUnlock sessionId clock)
        (.begun (.ok ⟨v.vaultInstance, sessionId, v.nextGeneration + 1,
          v.policy.minimumProtection⟩))
        ((drawn (v.poll clock.first)).unlocking sessionId (v.nextGeneration + 1) expires)
  | taken {completion : UnlockCompletion} {clock : Readings} {sessionId : SessionId}
      {generation expires : Nat} {error : VaultError}
      (hpending : v.state = .unlocking sessionId generation expires)
      (hmatches : v.Matches sessionId generation completion) :
      Effect v (.completeUnlock completion clock) (.completed (.error error)) v.lock
  | opened {completion : UnlockCompletion} {clock : Readings} {sessionId : SessionId}
      {generation idle : Nat} {key : UnsealedSessionKey}
      (hopens : Opens v completion clock sessionId generation key) :
      Effect v (.completeUnlock completion clock) (.completed (.ok ()))
        (v.lock.withState (.opened sessionId generation idle key))
  | refreshed {sessionId : SessionId} {operation : VaultOperation} {clock : Readings}
      {generation idle idle' : Nat} {key : UnsealedSessionKey}
      (hopened : (v.poll clock.first).state = .opened sessionId generation idle key) :
      Effect v (.performPrivileged sessionId operation clock) (.performed (.ok ()))
        ((v.poll clock.first).withState (.opened sessionId generation idle' key))
  | relocking {sessionId : SessionId} {now generation idle : Nat} {key : UnsealedSessionKey}
      (hopened : (v.poll now).state = .opened sessionId generation idle key) :
      Effect v (.beginRelock sessionId now)
        (.relocking (.ok ⟨sessionId, v.nextGeneration + 1⟩))
        ((drawn (v.poll now)).withState (.relocking sessionId (v.nextGeneration + 1)))
  | relocked {attempt : RelockAttempt}
      (hrelocking : v.state = .relocking attempt.sessionId attempt.generation) :
      Effect v (.completeRelock attempt) (.relocked (.ok ())) (v.withState .sealed)
  | locked {event : LockEvent} : Effect v (.forceLock event) .locked v.lock
  | stored {encoded : Bytes} {clock : Readings} {envelope : OpaqueEnvelope}
      (hstores : Stores (v.poll clock.first) encoded clock.last envelope) :
      Effect v (.appendOpaque encoded clock) (.appended (.ok .stored))
        ((v.poll clock.first).withEnvelope envelope encoded (v.nextInboxGeneration + 1)
          ((v.poll clock.first).inboxTotalEncodedBytes + encoded.length))
  | imported {pending : PendingOpaqueImport} {clock : Readings} {record : OpaqueInboxRecord}
      (himports : Imports (v.poll clock.first) pending record) :
      Effect v (.completeOpaqueImport pending clock) (.imported (.ok ()))
        ((v.poll clock.first).withoutEnvelope pending.envelopeId record)

/-! ## Polling changes the lifecycle state and the inbox only -/

namespace SessionVaultModel

variable (v : SessionVaultModel)

def withInbox (inbox : OrderedMap Id16 OpaqueInboxRecord) (total : Nat) : SessionVaultModel :=
  { v with inbox, inboxTotalEncodedBytes := total }

theorem prune_eq (ids : List Id16) :
    ∃ inbox total, ids.foldl pruneOne v = v.withInbox inbox total := by
  induction ids generalizing v with
  | nil => exact ⟨v.inbox, v.inboxTotalEncodedBytes, rfl⟩
  | cons id ids ih =>
    obtain ⟨inbox, total, hrest⟩ := ih (v.pruneOne id)
    refine ⟨inbox, total, ?_⟩
    rw [List.foldl_cons, hrest]
    unfold pruneOne
    cases v.inbox.get? id <;> rfl

variable (now : Nat)

theorem poll_eq : ∃ inbox total, v.poll now =
      (if v.expired now then v.lock else v).withInbox inbox total :=
  prune_eq _ _

theorem poll_state : (v.poll now).state = if v.expired now then .sealed else v.state := by
  obtain ⟨inbox, total, heq⟩ := v.poll_eq now
  rw [heq]
  split_ifs <;> rfl

@[simp] theorem poll_vaultInstance : (v.poll now).vaultInstance = v.vaultInstance := by
  obtain ⟨inbox, total, heq⟩ := v.poll_eq now
  rw [heq]
  split_ifs <;> rfl

@[simp] theorem poll_nextGeneration : (v.poll now).nextGeneration = v.nextGeneration := by
  obtain ⟨inbox, total, heq⟩ := v.poll_eq now
  rw [heq]
  split_ifs <;> rfl

@[simp] theorem poll_nextInboxGeneration :
    (v.poll now).nextInboxGeneration = v.nextInboxGeneration := by
  obtain ⟨inbox, total, heq⟩ := v.poll_eq now
  rw [heq]
  split_ifs <;> rfl

@[simp] theorem poll_policy : (v.poll now).policy = v.policy := by
  obtain ⟨inbox, total, heq⟩ := v.poll_eq now
  rw [heq]
  split_ifs <;> rfl

@[simp] theorem poll_inboxPolicy : (v.poll now).inboxPolicy = v.inboxPolicy := by
  obtain ⟨inbox, total, heq⟩ := v.poll_eq now
  rw [heq]
  split_ifs <;> rfl

theorem poll_active : (v.poll now).activeUnlockGeneration =
    if v.expired now then 0 else v.activeUnlockGeneration := by
  obtain ⟨inbox, total, heq⟩ := v.poll_eq now
  rw [heq]
  split_ifs <;> rfl

theorem nextTransitionGeneration_ok {v drawn : SessionVaultModel} {generation : Nat}
    (h : v.nextTransitionGeneration = .ok (drawn, generation)) :
    drawn = Vault.drawn v ∧ generation = v.nextGeneration + 1 := by
  unfold nextTransitionGeneration at h
  rcases hadd : checkedAdd v.nextGeneration 1 with _ | next <;> rw [hadd] at h <;> cases h
  rw [checkedAdd_eq_some hadd]
  exact ⟨rfl, rfl⟩

end SessionVaultModel

/-! ## The effect of each call -/

variable (v : SessionVaultModel)

theorem beginUnlock_effect (sessionId : SessionId) (clock : Readings) :
    Effect v (.beginUnlock sessionId clock) (call v (.beginUnlock sessionId clock)).2
      (call v (.beginUnlock sessionId clock)).1 := by
  have hrefused : ∀ error, Effect v (.beginUnlock sessionId clock) (.begun (.error error))
      (v.poll clock.first) := fun _ => .kept trivial
  simp only [call, SessionVaultModel.beginUnlock]
  cases hstate : (v.poll clock.first).state with
  | «sealed» =>
    rcases hdraw : (v.poll clock.first).nextTransitionGeneration with error | ⟨next, generation⟩
    · exact hrefused error
    · obtain ⟨rfl, rfl⟩ := SessionVaultModel.nextTransitionGeneration_ok hdraw
      simp only
      split
      · exact .drawn hstate
      case h_2 expires hexpires =>
        have hbegun := @Effect.begun v sessionId clock expires hstate
        simpa [drawn] using hbegun
  | _ => exact hrefused _

theorem acceptOutcome_ok {v : SessionVaultModel} {sessionId : SessionId}
    {generation expires : Nat} {outcome : UnlockOutcome} {clock : Readings} {state : LifecycleState}
    (h : v.acceptOutcome sessionId generation expires outcome clock = .ok state) :
    clock.first < expires ∧ clock.last < expires ∧ ∃ capabilities key idle,
      outcome = .ready capabilities key ∧ capabilities.supports v.policy.minimumProtection ∧
      state = .opened sessionId generation idle key := by
  unfold SessionVaultModel.acceptOutcome at h
  split at h
  · cases h
  case isFalse hfirst =>
    cases outcome with
    | failed error => cases h
    | ready capabilities key =>
      simp only at h
      split_ifs at h with hsupports hlast
      rcases hidle : checkedAdd clock.last v.policy.idleTimeoutSeconds with _ | idle <;>
        rw [hidle] at h <;> cases h
      exact ⟨Nat.not_le.mp hfirst, Nat.not_le.mp hlast, capabilities, key, idle, rfl,
        hsupports, rfl⟩

theorem completeUnlock_effect (completion : UnlockCompletion) (clock : Readings) :
    Effect v (.completeUnlock completion clock) (call v (.completeUnlock completion clock)).2
      (call v (.completeUnlock completion clock)).1 := by
  have hrefused : Effect v (.completeUnlock completion clock)
      (.completed (.error .reservationMismatch)) v := .kept trivial
  simp only [call, SessionVaultModel.completeUnlock]
  cases hstate : v.state with
  | unlocking sessionId generation expires =>
    simp only
    split_ifs with hmatches
    · rcases haccept : v.acceptOutcome sessionId generation expires completion.outcome clock
      · exact .taken hstate hmatches
      · obtain ⟨hfirst, hlast, capabilities, key, idle, houtcome, hsupports, rfl⟩ :=
          acceptOutcome_ok haccept
        exact .opened ⟨⟨expires, hstate, hfirst, hlast⟩, hmatches, capabilities, houtcome,
          hsupports⟩
    · exact hrefused
  | _ => exact hrefused

theorem performPrivileged_effect (sessionId : SessionId) (operation : VaultOperation)
    (clock : Readings) : Effect v (.performPrivileged sessionId operation clock)
      (call v (.performPrivileged sessionId operation clock)).2
      (call v (.performPrivileged sessionId operation clock)).1 := by
  have hrefused : Effect v (.performPrivileged sessionId operation clock)
      (.performed (.error .rejected)) (v.poll clock.first) := .kept trivial
  simp only [call, SessionVaultModel.performPrivileged]
  cases hstate : (v.poll clock.first).state with
  | opened selected generation idle key =>
    simp only
    split_ifs with hselected
    · exact hrefused
    · obtain rfl : selected = sessionId := not_not.mp hselected
      split
      · exact hrefused
      · exact .refreshed hstate
  | _ => exact hrefused

theorem beginRelock_effect (sessionId : SessionId) (now : Nat) :
    Effect v (.beginRelock sessionId now) (call v (.beginRelock sessionId now)).2
      (call v (.beginRelock sessionId now)).1 := by
  have hrefused : ∀ error, Effect v (.beginRelock sessionId now) (.relocking (.error error))
      (v.poll now) := fun _ => .kept trivial
  simp only [call, SessionVaultModel.beginRelock]
  cases hstate : (v.poll now).state with
  | opened selected generation idle key =>
    simp only
    split_ifs with hselected
    · exact hrefused _
    · obtain rfl : selected = sessionId := not_not.mp hselected
      rcases hdraw : (v.poll now).nextTransitionGeneration with error | ⟨next, drawnGeneration⟩
      · exact hrefused error
      · obtain ⟨rfl, rfl⟩ := SessionVaultModel.nextTransitionGeneration_ok hdraw
        have hrelocking := Effect.relocking (v := v) hstate
        simpa using hrelocking
  | _ => exact hrefused _

theorem completeRelock_effect (attempt : RelockAttempt) :
    Effect v (.completeRelock attempt) (call v (.completeRelock attempt)).2
      (call v (.completeRelock attempt)).1 := by
  have hrefused : Effect v (.completeRelock attempt)
      (.relocked (.error .reservationMismatch)) v := .kept trivial
  simp only [call, SessionVaultModel.completeRelock]
  cases hstate : v.state with
  | relocking sessionId generation =>
    simp only
    split_ifs with hmismatch
    · exact hrefused
    · obtain ⟨hsession, hgeneration⟩ := not_or.mp hmismatch
      refine .relocked ?_
      rw [hstate, not_not.mp hsession, not_not.mp hgeneration]
  | _ => exact hrefused

theorem appendOpaque_effect (encoded : Bytes) (clock : Readings) :
    Effect v (.appendOpaque encoded clock) (call v (.appendOpaque encoded clock)).2
      (call v (.appendOpaque encoded clock)).1 := by
  have hrefused : ∀ error, Effect v (.appendOpaque encoded clock) (.appended (.error error))
      (v.poll clock.first) := fun _ => .kept trivial
  simp only [call, SessionVaultModel.appendOpaque]
  rcases hfits : (v.poll clock.first).admissible encoded clock.last with error | envelope
  · exact hrefused error
  · simp only
    rcases hexisting : (v.poll clock.first).inbox.get? envelope.envelopeId with _ | existing
    · simp only [SessionVaultModel.store]
      split_ifs with hcount
      · exact hrefused _
      · rcases htotal : checkedAdd (v.poll clock.first).inboxTotalEncodedBytes encoded.length
        · exact hrefused _
        · simp only
          split_ifs with hlarge
          · exact hrefused _
          · rcases hnext : checkedAdd (v.poll clock.first).nextInboxGeneration 1 with _ | next
            · exact hrefused _
            · rw [checkedAdd_eq_some htotal] at hlarge ⊢
              rw [checkedAdd_eq_some hnext, SessionVaultModel.poll_nextInboxGeneration]
              exact .stored ⟨hfits, hexisting, Nat.not_le.mp hcount, Nat.not_lt.mp hlarge⟩
    · simp only
      split_ifs
      · exact .kept trivial
      · exact hrefused _

theorem beginOpaqueImport_effect (sessionId : SessionId) (now : Nat) :
    Effect v (.beginOpaqueImport sessionId now) (call v (.beginOpaqueImport sessionId now)).2
      (call v (.beginOpaqueImport sessionId now)).1 := by
  have hkept : ∀ result, Effect v (.beginOpaqueImport sessionId now) (.importing result)
      (v.poll now) := fun _ => .kept trivial
  simp only [call, SessionVaultModel.beginOpaqueImport]
  split
  · split_ifs
    · exact hkept _
    · split
      · exact hkept _
      · split <;> exact hkept _
  · exact hkept _

theorem completeOpaqueImport_effect (pending : PendingOpaqueImport) (clock : Readings) :
    Effect v (.completeOpaqueImport pending clock) (call v (.completeOpaqueImport pending clock)).2
      (call v (.completeOpaqueImport pending clock)).1 := by
  have hrefused : Effect v (.completeOpaqueImport pending clock)
      (.imported (.error .reservationMismatch)) (v.poll clock.first) := .kept trivial
  simp only [call, SessionVaultModel.completeOpaqueImport]
  cases hstate : (v.poll clock.first).state with
  | opened sessionId generation idle key =>
    simp only
    split_ifs with hforeign
    · exact hrefused
    · simp only [not_or, not_not] at hforeign
      obtain ⟨hinstance, rfl, rfl⟩ := hforeign
      rcases hrecord : (v.poll clock.first).inbox.get? pending.envelopeId with _ | record
      · exact hrefused
      · simp only
        split_ifs with hstale
        · exact hrefused
        · exact .imported ⟨⟨idle, key, hstate⟩, hinstance, hrecord,
            not_not.mp (not_or.mp hstale).1⟩
  | _ => exact hrefused

theorem call_effect (c : Call) : Effect v c (call v c).2 (call v c).1 := by
  cases c with
  | beginUnlock sessionId clock => exact beginUnlock_effect v sessionId clock
  | completeUnlock completion clock => exact completeUnlock_effect v completion clock
  | performPrivileged sessionId operation clock =>
    exact performPrivileged_effect v sessionId operation clock
  | beginRelock sessionId now => exact beginRelock_effect v sessionId now
  | completeRelock attempt => exact completeRelock_effect v attempt
  | forceLock event => exact .locked
  | poll now => exact .kept trivial
  | appendOpaque encoded clock => exact appendOpaque_effect v encoded clock
  | beginOpaqueImport sessionId now => exact beginOpaqueImport_effect v sessionId now
  | completeOpaqueImport pending clock => exact completeOpaqueImport_effect v pending clock

/-! ## Values for concrete runs -/

theorem sampleSession_ne_zero : (1 : Storage.Bytes32) ≠ 0 := by decide

def sampleSession : SessionId := ⟨1, sampleSession_ne_zero⟩

def samplePolicy : VaultPolicy := ⟨10, 20, .testOnly, by decide⟩

def sampleInboxPolicy : OpaqueInboxPolicy := ⟨100, 2, 1000, by decide⟩

def sampleCapabilities : ProtectorCapabilities := ⟨.testOnly, .unknown, .none, .unknown⟩

def sampleKey : UnsealedSessionKey := ⟨1, sampleSession_ne_zero⟩

end SessionChat.Vault
