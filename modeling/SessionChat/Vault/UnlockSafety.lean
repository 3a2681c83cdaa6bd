import SessionChat.Vault.Lifecycle

/-!
# Only the current completion opens the vault (`crates/session-storage/src/lib.rs`)

What holds in every run of a vault and its preparations: a key is held only after
the completion of the pending attempt was accepted in time, an ended attempt stays
ended, and work starts only for an attempt that was current when it checked.
-/

set_option autoImplicit false

namespace SessionChat.Vault

open Transition

variable {C : Type} {w w' : VaultWorld C}

/-! ## Ended attempts -/

/-- No attempt up to this generation can open the vault any more: it is not pending, or its
deadline has been read. -/
structure Ended (generation : Nat) (w : VaultWorld C) : Prop where
  past : generation ≤ w.state.vault.nextGeneration
  timedOut : ∀ s g e, w.state.vault.state = .unlocking s g e → g ≤ generation →
    ∃ t ∈ readings Act.times w.history, e ≤ t

variable {generation g index : Nat} {completion : UnlockCompletion} {clock : Readings} {c : Call}
  {v : SessionVaultModel} {s : SessionId} {p p' : Preparation C}

section

variable (h : Ended generation w)
include h

theorem Ended.vault (c : Call) : Ended generation (w.after step (.vault c)) := by
  have heffect := call_effect w.state.vault c
  refine ⟨Nat.le_trans h.past heffect.frame.2.2, ?_⟩
  intro s g e hstate hle
  rw [readings_after]
  rcases heffect.pending hstate with ⟨hbefore, -, -⟩ | ⟨hfresh, -, -⟩
  · obtain ⟨t, ht, het⟩ := h.timedOut s g e hbefore hle
    exact ⟨t, List.mem_append_left _ ht, het⟩
  · have hpast := h.past
    omega

theorem Ended.after (act : Act C) : Ended generation (w.after step act) := by
  cases act with
  | vault c => exact h.vault c
  | _ =>
    refine ⟨h.past, ?_⟩
    intro s g e hstate hle
    obtain ⟨t, ht, het⟩ := h.timedOut s g e hstate hle
    rw [readings_after]
    exact ⟨t, List.mem_append_left _ ht, het⟩

theorem Ended.later (hlater : Later w w') : Ended generation w' :=
  hlater.invariant (I := fun v => Ended generation v) (fun _ act _ hv => hv.after act) h

theorem Ended.refuses (hle : completion.generation ≤ generation)
    (hadmitted : Admitted w (.vault (.completeUnlock completion clock))) :
    (call w.state.vault (.completeUnlock completion clock)).2 ≠ .completed (.ok ()) := by
  intro hok
  have heffect := call_effect w.state.vault (.completeUnlock completion clock)
  rw [hok] at heffect
  generalize (call w.state.vault (.completeUnlock completion clock)).1 = v' at heffect
  cases heffect with
  | kept hquiet => exact hquiet
  | opened hopens =>
    obtain ⟨expires, hstate, hfirst, -⟩ := hopens.pending
    rw [← hopens.current.2.2] at hle
    obtain ⟨t, ht, hexpired⟩ := h.timedOut _ _ _ hstate hle
    have hclock := hadmitted.clock t ht clock.first List.mem_cons_self
    omega

end

/-- The deadline of a pending attempt or of an open session. -/
def deadline? : LifecycleState → Option Nat
  | .unlocking _ _ expires => some expires
  | .opened _ _ idle _ => some idle
  | _ => none

/-- The calls that end every attempt made before them. -/
inductive Ends (v : SessionVaultModel) : Call → Prop where
  | forced (event : LockEvent) : Ends v (.forceLock event)
  | relocking {s : SessionId} {now : Nat} {attempt : RelockAttempt}
      (hok : (call v (.beginRelock s now)).2 = .relocking (.ok attempt)) :
      Ends v (.beginRelock s now)
  | relocked {attempt : RelockAttempt}
      (hok : (call v (.completeRelock attempt)).2 = .relocked (.ok ())) :
      Ends v (.completeRelock attempt)
  | timedOut {c : Call} {deadline t : Nat} (hdeadline : deadline? v.state = some deadline)
      (ht : t ∈ c.times) (hle : deadline ≤ t) : Ends v c
  | failed {completion : UnlockCompletion} {clock : Readings} {s : SessionId} {g e : Nat}
      {error : VaultError} (hpending : v.state = .unlocking s g e)
      (hcurrent : v.Matches s g completion)
      (herror : (call v (.completeUnlock completion clock)).2 = .completed (.error error)) :
      Ends v (.completeUnlock completion clock)

/-- A call that leaves no older attempt pending has ended them all. -/
theorem ended_of_not_pending (h : ∀ s g e, (call w.state.vault c).1.state = .unlocking s g e →
      w.state.vault.state ≠ .unlocking s g e) :
    Ended w.state.vault.nextGeneration (w.after step (.vault c)) := by
  have heffect := call_effect w.state.vault c
  refine ⟨heffect.frame.2.2, ?_⟩
  intro s g e hstate hle
  rcases heffect.pending hstate with ⟨hbefore, -, -⟩ | ⟨hfresh, -, -⟩
  · exact absurd hbefore (h s g e hstate)
  · omega

/-- The completion of the pending attempt takes it, whatever comes of it. -/
theorem completeUnlock_takes {e : Nat} (hpending : v.state = .unlocking s g e)
    (hcurrent : v.Matches s g completion) (s' : SessionId) (g' e' : Nat) :
    (v.completeUnlock completion clock).1.state ≠ .unlocking s' g' e' := by
  intro hstate
  simp only [SessionVaultModel.completeUnlock, hpending] at hstate
  rw [if_neg (not_not.mpr hcurrent)] at hstate
  rcases haccept : v.acceptOutcome s g e completion.outcome clock with error | state <;>
    rw [haccept] at hstate
  · cases hstate
  · obtain ⟨-, -, _, _, _, -, -, rfl⟩ := acceptOutcome_ok haccept
    cases hstate

theorem Ends.ended (h : Ends w.state.vault c) :
    Ended w.state.vault.nextGeneration (w.after step (.vault c)) := by
  have heffect := call_effect w.state.vault c
  cases h with
  | forced event => exact ended_of_not_pending nofun
  | relocking hok =>
    refine ended_of_not_pending ?_
    rw [hok] at heffect
    generalize (call w.state.vault _).1 = v' at heffect ⊢
    cases heffect with
    | kept hquiet => exact absurd hquiet id
    | relocking => exact nofun
  | relocked hok =>
    refine ended_of_not_pending ?_
    rw [hok] at heffect
    generalize (call w.state.vault _).1 = v' at heffect ⊢
    cases heffect with
    | kept hquiet => exact absurd hquiet id
    | relocked => exact nofun
  | @timedOut _ deadline t hdeadline ht hle =>
    refine ⟨heffect.frame.2.2, ?_⟩
    intro s g e hstate hold
    rcases heffect.pending hstate with ⟨hbefore, -, -⟩ | ⟨hfresh, -, -⟩
    · rw [hbefore] at hdeadline
      cases hdeadline
      rw [readings_after]
      exact ⟨t, List.mem_append_right _ ht, hle⟩
    · omega
  | failed hpending hcurrent =>
    refine ended_of_not_pending ?_
    exact fun s g e hstate => absurd hstate (completeUnlock_takes hpending hcurrent s g e)

/-! ## The guarantees -/

/-- Foreign work on the preparation is running after the step and was not before. -/
def Starts (w : VaultWorld C) (act : Act C) (p p' : Preparation C) (index : Nat) : Prop :=
  w.state.preparations[index]? = some p ∧
    (w.after step act).state.preparations[index]? = some p' ∧ ¬p.Working ∧ p'.Working

structure UnlockSafe (vaultInstance : Nat) (policy : VaultPolicy)
    (inboxPolicy : OpaqueInboxPolicy) (w : VaultWorld C) : Prop where
  /-- A key is held only because the completion of the pending attempt was accepted in time,
  from a protector that meets the policy. -/
  opened_by_completion : ∀ s g idle key, w.state.vault.state = .opened s g idle key →
    ∃ u completion clock, VaultRun vaultInstance policy inboxPolicy u ∧
      Admitted u (.vault (.completeUnlock completion clock)) ∧
      Later (u.after step (.vault (.completeUnlock completion clock))) w ∧
      Opens u.state.vault completion clock s g key
  /-- After a forced lock, a relock, a timeout or the failure of the current completion, no
  attempt made before opens the vault. -/
  ended_stays : ∀ c, Ends w.state.vault c → ∀ w', Later (w.after step (.vault c)) w' →
    ∀ attempt ∈ attempts w.history, ∀ completion clock,
    completion.generation = attempt.generation →
    Admitted w' (.vault (.completeUnlock completion clock)) →
    (call w'.state.vault (.completeUnlock completion clock)).2 ≠ .completed (.ok ())
  /-- Another completion is refused and changes nothing. -/
  others_refused : ∀ completion clock,
    (∀ s g e, w.state.vault.state = .unlocking s g e →
      ¬w.state.vault.Matches s g completion) →
    call w.state.vault (.completeUnlock completion clock) =
      (w.state.vault, .completed (.error .reservationMismatch))
  published_pending : ∀ s g e, w.state.vault.state = .unlocking s g e →
    w.state.vault.activeUnlockGeneration = g ∧ g ≠ 0
  published_zero : (∀ s g e, w.state.vault.state ≠ .unlocking s g e) →
    w.state.vault.activeUnlockGeneration = 0
  /-- Work starts only for the attempt that is pending at the check. -/
  work_current : ∀ act p p' index, Starts w act p p' index →
    ∃ e, w.state.vault.state = .unlocking p.attempt.sessionId p.attempt.generation e

section

variable (hbefore : ¬p.Working)
include hbefore

theorem working_of_check {active : Nat} (hafter : (p.check active).Working) :
    active = p.attempt.generation := by
  obtain ⟨attempt, capabilities, phase⟩ := p
  by_contra hstale
  have hcurrent : attempt.isCurrent active = false := decide_eq_false hstale
  cases phase <;>
    simp [Preparation.check, Preparation.ifCurrent, Preparation.moveTo, Preparation.Working,
      hcurrent] at hbefore hafter

theorem not_working_reserve {limiter : UnlockWorkLimiter} : ¬(p.reserve limiter).Working := by
  obtain ⟨attempt, capabilities, phase⟩ := p
  cases phase with
  | vetted =>
    rcases hreserve : limiter.tryReserve with error | reserved <;>
      simp [Preparation.reserve, Preparation.moveTo, Preparation.Working, hreserve]
  | _ => exact hbefore

theorem not_working_credential {answer : Option C} : ¬(p.credential answer).Working := by
  obtain ⟨attempt, capabilities, phase⟩ := p
  cases phase with
  | acquiring => exact absurd trivial hbefore
  | _ => exact hbefore

theorem not_working_key {answer : Option UnsealedSessionKey} : ¬(p.key answer).Working := by
  obtain ⟨attempt, capabilities, phase⟩ := p
  cases phase with
  | unsealing => exact absurd trivial hbefore
  | _ => exact hbefore

end

theorem getElem?_moved {s : System C} {i : Nat} {f : Preparation C → Preparation C}
    (hp : s.preparations[i]? = some p) (hp' : (s.moved index f).preparations[i]? = some p') :
    p' = p ∨ p' = f p := by
  simp only [System.moved, List.getElem?_modify, hp] at hp'
  cases hp'
  split_ifs
  · exact .inr rfl
  · exact .inl rfl

theorem Sound.work_current (h : Sound w) {act : Act C} (hstarts : Starts w act p p' index) :
    ∃ e, w.state.vault.state = .unlocking p.attempt.sessionId p.attempt.generation e := by
  obtain ⟨hp, hp', hbefore, hafter⟩ := hstarts
  have hactive : w.state.vault.activeUnlockGeneration = p.attempt.generation := by
    cases act with
    | vault c =>
      cases hp.symm.trans hp'
      exact absurd hafter hbefore
    | prepare attempt capabilities =>
      have hlt := (List.getElem?_eq_some_iff.mp hp).1
      rw [show (w.after step (.prepare attempt capabilities)).state.preparations[index]? = _ from
        List.getElem?_append_left hlt] at hp'
      cases hp.symm.trans hp'
      exact absurd hafter hbefore
    | check i =>
      rcases getElem?_moved hp hp' with rfl | rfl
      · exact absurd hafter hbefore
      · exact working_of_check hbefore hafter
    | reserve i limiter =>
      rcases getElem?_moved hp hp' with rfl | rfl
      · exact absurd hafter hbefore
      · exact absurd hafter (not_working_reserve hbefore)
    | credential i answer =>
      rcases getElem?_moved hp hp' with rfl | rfl
      · exact absurd hafter hbefore
      · exact absurd hafter (not_working_credential hbefore)
    | key i answer =>
      rcases getElem?_moved hp hp' with rfl | rfl
      · exact absurd hafter hbefore
      · exact absurd hafter (not_working_key hbefore)
  -- generations start at one, so a published one belongs to a pending attempt
  obtain ⟨-, hpositive, -, hsession⟩ := h.issued p.attempt (h.prepared p (List.mem_of_getElem? hp))
  have hcurrent : current w.state.vault.state = p.attempt.generation :=
    h.published.symm.trans hactive
  cases hstate : w.state.vault.state with
  | unlocking s g e =>
    rw [hstate] at hcurrent
    obtain rfl : g = p.attempt.generation := hcurrent
    rw [hsession s e hstate]
    exact ⟨e, rfl⟩
  | _ =>
    rw [hstate] at hcurrent
    exact absurd (Nat.le_trans hpositive (Nat.le_of_eq hcurrent.symm)) (Nat.not_succ_le_zero 0)

theorem unlock_safe {vaultInstance : Nat} {policy : VaultPolicy}
    {inboxPolicy : OpaqueInboxPolicy} (hrun : VaultRun vaultInstance policy inboxPolicy w) :
    UnlockSafe vaultInstance policy inboxPolicy w where
  opened_by_completion s g idle key hopened := by
    obtain ⟨u, act, hu, hadmitted, hbefore, ⟨idle', hafter⟩, hrest⟩ :=
      hrun.exists_call (P := fun w => ∃ idle, w.state.vault.state = .opened s g idle key)
        (fun ⟨_, hnew⟩ => absurd hnew (by rintro ⟨⟩)) ⟨idle, hopened⟩
    cases act with
    | vault c =>
      rcases (call_effect u.state.vault c).opens hafter with hold | ⟨completion, clock, rfl, hopens⟩
      · exact absurd hold hbefore
      · exact ⟨u, completion, clock, hu, hadmitted, hrest, hopens⟩
    | _ => exact absurd ⟨idle', hafter⟩ hbefore
  ended_stays c hends w' hlater attempt hattempt completion clock hgeneration hadmitted := by
    refine (hends.ended.later hlater).refuses ?_ hadmitted
    rw [hgeneration]
    exact (hrun.sound.issued attempt hattempt).2.2.1
  others_refused completion clock hother := by
    simp only [call, SessionVaultModel.completeUnlock]
    cases hstate : w.state.vault.state with
    | unlocking s g e =>
      simp only
      rw [if_pos (hother s g e hstate)]
      rfl
    | _ => rfl
  published_pending s g e hstate := by
    have hbounded := hrun.sound.bounded s g e hstate
    have hpublished := hrun.sound.published
    rw [Published, hstate] at hpublished
    exact ⟨hpublished, Nat.ne_of_gt hbounded.1⟩
  published_zero hstate := hrun.sound.published.of_not_unlocking hstate
  work_current _ _ _ _ hstarts := hrun.sound.work_current hstarts

/-! ## A stale completion and the current one -/

def sampleLimiter : UnlockWorkLimiter := ⟨1, 0, Nat.one_ne_zero⟩

def sampleAttempt (generation : Nat) : UnlockAttempt := ⟨7, sampleSession, generation, .testOnly⟩

/-- The first attempt is locked away; the second is prepared to its end. -/
def samplePrepared : VaultWorld Unit :=
  World.afterAll step ⟨⟨.new 7 samplePolicy sampleInboxPolicy, []⟩, []⟩
    [.vault (.beginUnlock sampleSession ⟨0, 0⟩), .prepare (sampleAttempt 1) sampleCapabilities,
      .vault (.forceLock .explicit), .check 0, .vault (.beginUnlock sampleSession ⟨1, 1⟩),
      .prepare (sampleAttempt 2) sampleCapabilities, .check 1, .reserve 1 sampleLimiter, .check 1,
      .credential 1 (some ()), .check 1, .key 1 (some sampleKey)]

theorem samplePrepared_run : VaultRun 7 samplePolicy sampleInboxPolicy samplePrepared :=
  leads_afterAll (by decide +kernel)

def sampleStale : Call :=
  .completeUnlock ((sampleAttempt 1).completion (.failed .reservationMismatch)) ⟨2, 2⟩

def sampleCurrent : Call :=
  .completeUnlock ((sampleAttempt 2).completion (.ready sampleCapabilities sampleKey)) ⟨3, 3⟩

/-- A stale completion fails, and the completion prepared before it still opens the vault. -/
theorem stale_completion_ends_nothing :
    ¬∀ w : VaultWorld Unit, VaultRun 7 samplePolicy sampleInboxPolicy w →
      ∀ completion clock error, Admitted w (.vault (.completeUnlock completion clock)) →
      (call w.state.vault (.completeUnlock completion clock)).2 = .completed (.error error) →
      ∀ w', Later (w.after step (.vault (.completeUnlock completion clock))) w' →
      ∀ earlier clock', (∃ p ∈ w.state.preparations, p.completion? = some earlier) →
      Admitted w' (.vault (.completeUnlock earlier clock')) →
      (call w'.state.vault (.completeUnlock earlier clock')).2 ≠ .completed (.ok ()) := by
  intro h
  exact h samplePrepared samplePrepared_run _ ⟨2, 2⟩ .reservationMismatch
    (by decide +kernel : Admitted samplePrepared (.vault sampleStale)) (by decide +kernel)
    (samplePrepared.after step (.vault sampleStale)) (.refl _) _ ⟨3, 3⟩
    (by decide +kernel : ∃ p ∈ samplePrepared.state.preparations, p.completion? =
      some ((sampleAttempt 2).completion (.ready sampleCapabilities sampleKey)))
    (by decide +kernel) (by decide +kernel)

theorem unlock_safe_opened :
    let w := samplePrepared.afterAll step [.vault sampleStale, .vault sampleCurrent]
    w.state.vault.state = .opened sampleSession 2 23 sampleKey ∧
      UnlockSafe 7 samplePolicy sampleInboxPolicy w := by
  intro w
  refine ⟨by decide +kernel, ?_⟩
  have hrun : VaultRun 7 samplePolicy sampleInboxPolicy w :=
    samplePrepared_run.trans (leads_afterAll (by decide +kernel))
  exact unlock_safe hrun

end SessionChat.Vault
