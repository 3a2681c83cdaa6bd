import SessionChat.Vault.InboxSafety

/-!
# The idle deadline of privileged work (`crates/session-storage/src/lib.rs`)

`perform_privileged` reads the clock twice: once to apply the deadlines, and once more to
refresh the idle deadline. Only the first reading is compared with the deadline, while
`complete_unlock` compares both of its readings.
-/

set_option autoImplicit false

namespace SessionChat.Vault

open Transition

variable {v : SessionVaultModel} {sessionId : SessionId} {operation : VaultOperation}
  {clock : Readings}

/-- The callback runs only while the idle deadline stored before the call is later than
every time the call reads. -/
def IdleProtected (v : SessionVaultModel) (sessionId : SessionId) (operation : VaultOperation)
    (clock : Readings) : Prop :=
  (v.performPrivileged sessionId operation clock).2 = .ok () →
    ∃ selected generation idle key, v.state = .opened selected generation idle key ∧
      ∀ t ∈ (Call.performPrivileged sessionId operation clock).times, t < idle

/-- The idle deadline of the open session falls between the two readings, and the new
deadline can be stored. -/
def Straddles (v : SessionVaultModel) (sessionId : SessionId) (clock : Readings) : Prop :=
  ∃ generation idle key, v.state = .opened sessionId generation idle key ∧
    clock.first < idle ∧ idle ≤ clock.last ∧
    clock.last + v.policy.idleTimeoutSeconds ≤ u64Max

/-- Polling keeps an open session exactly when its deadline has not been reached. -/
theorem poll_opened_iff {now : Nat} {generation idle : Nat} {key : UnsealedSessionKey} :
    (v.poll now).state = .opened sessionId generation idle key ↔
      v.state = .opened sessionId generation idle key ∧ now < idle := by
  rw [SessionVaultModel.poll_state]
  constructor
  · intro h
    split_ifs at h with hexpired
    refine ⟨h, ?_⟩
    simp only [SessionVaultModel.expired, h, decide_eq_true_eq] at hexpired
    exact Nat.not_le.mp hexpired
  · rintro ⟨hstate, hlive⟩
    have hexpired : ¬v.expired now = true := by
      simp only [SessionVaultModel.expired, hstate, decide_eq_true_eq]
      exact Nat.not_le.mpr hlive
    rw [if_neg hexpired, hstate]

/-- The callback runs exactly when the selected session is open at the first reading and
the refreshed deadline is representable. -/
theorem performPrivileged_ok_iff : (v.performPrivileged sessionId operation clock).2 = .ok () ↔
      ∃ generation idle key, v.state = .opened sessionId generation idle key ∧
        clock.first < idle ∧ clock.last + v.policy.idleTimeoutSeconds ≤ u64Max := by
  unfold SessionVaultModel.performPrivileged
  rcases hstate : (v.poll clock.first).state with _ | _ | ⟨selected, generation, idle, key⟩ | _
  case opened =>
    obtain ⟨hopened, hlive⟩ := poll_opened_iff.mp hstate
    simp only [hstate, checkedAdd]
    by_cases hother : selected = sessionId
    · subst hother
      by_cases hroom : clock.last + v.policy.idleTimeoutSeconds ≤ u64Max
      · simp [hroom, hopened, hlive]
      · simp [hroom]
    · simp [hother, hopened]
  all_goals
    constructor
    · intro hok
      simp [hstate] at hok
    · rintro ⟨generation, idle, key, hopened, hlive, -⟩
      have hpolled := poll_opened_iff.mpr ⟨hopened, hlive⟩
      cases hstate.symm.trans hpolled

/-- Idle protection fails exactly when the deadline passes between the two readings. -/
theorem idle_protected_iff (v : SessionVaultModel) (sessionId : SessionId)
    (operation : VaultOperation) (clock : Readings) :
    IdleProtected v sessionId operation clock ↔ ¬Straddles v sessionId clock := by
  unfold IdleProtected
  rw [performPrivileged_ok_iff]
  constructor
  · rintro hprotected ⟨generation, idle, key, hopened, hlive, hpast, hroom⟩
    obtain ⟨selected, generation', idle', key', hopened', hbefore⟩ :=
      hprotected ⟨generation, idle, key, hopened, hlive, hroom⟩
    cases hopened.symm.trans hopened'
    have hlast : clock.last < idle := hbefore clock.last (by simp [Call.times])
    omega
  · rintro hnot ⟨generation, idle, key, hopened, hlive, hroom⟩
    refine ⟨sessionId, generation, idle, key, hopened, ?_⟩
    have hlast : clock.last < idle := by
      by_contra hpast
      exact hnot ⟨generation, idle, key, hopened, hlive, Nat.not_lt.mp hpast, hroom⟩
    simp only [Call.times, List.mem_cons, List.not_mem_nil, or_false]
    rintro t (rfl | rfl)
    · exact hlive
    · exact hlast

/-! ## A deadline between two readings -/

/-- A vault opened at two, whose idle deadline is twenty-two. -/
def sampleIdle : Inbox.InboxWorld :=
  World.afterAll call ⟨.new 7 samplePolicy sampleInboxPolicy, []⟩
    [.beginUnlock sampleSession ⟨1, 1⟩, .completeUnlock Inbox.sampleOpening ⟨2, 2⟩]

/-- The work runs although the clock has reached the deadline before it starts. -/
theorem runs_past_idle_deadline : Inbox.InboxRun 7 samplePolicy sampleInboxPolicy sampleIdle ∧
      Inbox.Admitted sampleIdle (.performPrivileged sampleSession .decrypt ⟨21, 22⟩) ∧
      sampleIdle.state.state = .opened sampleSession 1 22 sampleKey ∧
      (sampleIdle.state.performPrivileged sampleSession .decrypt ⟨21, 22⟩).2 = .ok () ∧
      ¬IdleProtected sampleIdle.state sampleSession .decrypt ⟨21, 22⟩ := by
  have hopened : sampleIdle.state.state = .opened sampleSession 1 22 sampleKey := by
    decide +kernel
  have hok : (sampleIdle.state.performPrivileged sampleSession .decrypt ⟨21, 22⟩).2 = .ok () := by
    decide +kernel
  refine ⟨leads_afterAll (by decide +kernel), by decide +kernel, hopened, hok, ?_⟩
  intro hprotected
  obtain ⟨selected, generation, idle, key, hstate, hbefore⟩ := hprotected hok
  cases hopened.symm.trans hstate
  have hlast : 22 < 22 := hbefore 22 (by simp [Call.times])
  omega

end SessionChat.Vault
