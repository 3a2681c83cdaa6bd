import SessionChat.Vault.Calls
import SessionChat.Vault.Preparation

/-!
# The vault and the preparations for it (`crates/session-storage/src/lib.rs`)

One vault, any number of preparations of its attempts, and lock events between any
two steps. Completions presented to the vault come from these preparations or from
another vault; the clock never goes back.
-/

set_option autoImplicit false

namespace SessionChat.Vault

open Transition

variable {C : Type}

structure System (C : Type) where
  vault : SessionVaultModel
  preparations : List (Preparation C)

inductive Act (C : Type) where
  | vault (c : Call)
  | prepare (attempt : UnlockAttempt) (capabilities : ProtectorCapabilities)
  | check (index : Nat)
  | reserve (index : Nat) (limiter : UnlockWorkLimiter)
  | credential (index : Nat) (answer : Option C)
  | key (index : Nat) (answer : Option UnsealedSessionKey)

inductive Answer where
  | vault (reply : Reply)
  | silent

def System.moved (s : System C) (index : Nat) (f : Preparation C → Preparation C) : System C :=
  { s with preparations := s.preparations.modify index f }

def step (s : System C) : Act C → System C × Answer
  | .vault c => ({ s with vault := (call s.vault c).1 }, .vault (call s.vault c).2)
  | .prepare attempt capabilities =>
      ({ s with preparations := s.preparations ++ [⟨attempt, capabilities, .entered⟩] }, .silent)
  | .check index => (s.moved index (·.check s.vault.activeUnlockGeneration), .silent)
  | .reserve index limiter => (s.moved index (·.reserve limiter), .silent)
  | .credential index answer => (s.moved index (·.credential answer), .silent)
  | .key index answer => (s.moved index (·.key answer), .silent)

abbrev VaultWorld (C : Type) := World (System C) (Act C) Answer

def Act.times : Act C → List Nat
  | .vault c => c.times
  | _ => []

def Answer.attempt? : Answer → Option UnlockAttempt
  | .vault (.begun (.ok attempt)) => some attempt
  | _ => none

def attempts (history : List (Event (Act C) Answer)) : List UnlockAttempt :=
  history.filterMap fun event => event.reply.attempt?

/-- A prepared attempt is this vault's, and a completion that names this vault is the result
of a preparation. -/
def Held (w : VaultWorld C) : Act C → Prop
  | .prepare attempt _ => attempt ∈ attempts w.history
  | .vault (.completeUnlock completion _) =>
      completion.vaultInstance = w.state.vault.vaultInstance →
        ∃ p ∈ w.state.preparations, p.completion? = some completion
  | _ => True

instance (w : VaultWorld C) : (act : Act C) → Decidable (Held w act)
  | .prepare attempt _ => inferInstanceAs (Decidable (attempt ∈ attempts w.history))
  | .vault (.completeUnlock _ _) => inferInstanceAs (Decidable (_ → _))
  | .vault (.beginUnlock _ _) | .vault (.performPrivileged _ _ _) | .vault (.beginRelock _ _)
  | .vault (.completeRelock _) | .vault (.forceLock _) | .vault (.poll _)
  | .vault (.appendOpaque _ _) | .vault (.beginOpaqueImport _ _)
  | .vault (.completeOpaqueImport _ _) => .isTrue trivial
  | .check _ | .reserve _ _ | .credential _ _ | .key _ _ => .isTrue trivial

abbrev Admitted : VaultWorld C → Act C → Prop := Timely Act.times Held

abbrev Later : VaultWorld C → VaultWorld C → Prop := Leads step Admitted

def VaultRun (vaultInstance : Nat) (policy : VaultPolicy) (inboxPolicy : OpaqueInboxPolicy)
    (w : VaultWorld C) : Prop :=
  Later ⟨⟨.new vaultInstance policy inboxPolicy, []⟩, []⟩ w

/-! ## What a call does to the lifecycle -/

section

variable {v v' : SessionVaultModel} {c : Call} {reply : Reply}

theorem polled_frame (c : Call) (v : SessionVaultModel) :
    (c.polled v).vaultInstance = v.vaultInstance ∧ (c.polled v).policy = v.policy ∧
      (c.polled v).nextGeneration = v.nextGeneration := by
  unfold Call.polled
  cases c.pollsAt <;> simp

theorem polled_state (c : Call) (v : SessionVaultModel) :
    ((c.polled v).state = .sealed ∧ (c.polled v).activeUnlockGeneration = 0) ∨
      ((c.polled v).state = v.state ∧
        (c.polled v).activeUnlockGeneration = v.activeUnlockGeneration) := by
  unfold Call.polled
  cases c.pollsAt with
  | none => exact .inr ⟨rfl, rfl⟩
  | some now =>
    simp only [SessionVaultModel.poll_state, SessionVaultModel.poll_active]
    split_ifs
    · exact .inl ⟨rfl, rfl⟩
    · exact .inr ⟨rfl, rfl⟩

/-- The generation an attempt must have to be current. -/
def current : LifecycleState → Nat
  | .unlocking _ generation _ => generation
  | _ => 0

/-- The vault publishes the generation of the pending attempt, or none. -/
def Published (v : SessionVaultModel) : Prop := v.activeUnlockGeneration = current v.state

theorem Published.polled (h : Published v) (c : Call) : Published (c.polled v) := by
  rcases polled_state c v with ⟨hstate, hactive⟩ | ⟨hstate, hactive⟩ <;>
    simp only [Published, hstate, hactive]
  · rfl
  · exact h

theorem Published.of_not_unlocking (h : Published v)
    (hstate : ∀ s g e, v.state ≠ .unlocking s g e) : v.activeUnlockGeneration = 0 := by
  rw [h]
  cases hv : v.state with
  | unlocking s g e => exact absurd hv (hstate s g e)
  | _ => rfl

section

variable (heffect : Effect v c reply v')
include heffect

theorem Effect.published (h : Published v) : Published v' := by
  cases heffect with
  | kept => exact h.polled c
  | @drawn sessionId clock hsealed => exact h.polled (.beginUnlock sessionId clock)
  | begun => rfl
  | taken | locked | opened => rfl
  | @refreshed sessionId operation clock _ _ _ _ hopened =>
    refine (h.polled (.performPrivileged sessionId operation clock)).of_not_unlocking ?_
    exact fun s g e hunlocking => absurd (hopened.symm.trans hunlocking) (by simp)
  | @relocking sessionId now _ _ _ hopened =>
    refine (h.polled (.beginRelock sessionId now)).of_not_unlocking ?_
    exact fun s g e hunlocking => absurd (hopened.symm.trans hunlocking) (by simp)
  | relocked hrelocking =>
    refine h.of_not_unlocking ?_
    exact fun s g e hunlocking => absurd (hrelocking.symm.trans hunlocking) (by simp)
  | @stored encoded clock => exact h.polled (.appendOpaque encoded clock)
  | @imported pending clock => exact h.polled (.completeOpaqueImport pending clock)

theorem Effect.frame : v'.vaultInstance = v.vaultInstance ∧ v'.policy = v.policy ∧
      v.nextGeneration ≤ v'.nextGeneration := by
  cases heffect with
  | kept =>
    obtain ⟨hinstance, hpolicy, hnext⟩ := polled_frame c v
    exact ⟨hinstance, hpolicy, Nat.le_of_eq hnext.symm⟩
  | taken | opened | relocked | locked => exact ⟨rfl, rfl, Nat.le_refl _⟩
  | drawn | begun | relocking =>
    simp [Vault.drawn, SessionVaultModel.unlocking, SessionVaultModel.withState]
  | refreshed | stored | imported =>
    simp [SessionVaultModel.withState, SessionVaultModel.withEnvelope,
      SessionVaultModel.withoutEnvelope]

/-- A pending attempt was pending before, or has just begun. -/
theorem Effect.pending {s : SessionId} {g e : Nat} (hstate : v'.state = .unlocking s g e) :
    (v.state = .unlocking s g e ∧ v'.nextGeneration = v.nextGeneration ∧
        ∀ attempt, reply ≠ .begun (.ok attempt)) ∨
      (g = v.nextGeneration + 1 ∧ v'.nextGeneration = v.nextGeneration + 1 ∧
        reply = .begun (.ok ⟨v.vaultInstance, s, g, v.policy.minimumProtection⟩)) := by
  have hpolled : (c.polled v).state = .unlocking s g e → v.state = .unlocking s g e := by
    intro h
    rcases polled_state c v with ⟨hsealed, -⟩ | ⟨hsame, -⟩
    · exact absurd (hsealed.symm.trans h) (by simp)
    · exact hsame.symm.trans h
  cases heffect with
  | kept hquiet =>
    refine .inl ⟨hpolled hstate, (polled_frame c v).2.2, ?_⟩
    rintro attempt rfl
    exact hquiet
  | drawn hsealed => exact absurd (hsealed.symm.trans hstate) (by simp)
  | begun =>
    cases hstate
    exact .inr ⟨rfl, by simp [SessionVaultModel.unlocking, Vault.drawn], rfl⟩
  | stored => exact .inl ⟨hpolled hstate, by simp [SessionVaultModel.withEnvelope], (by simp)⟩
  | imported => exact .inl ⟨hpolled hstate, by simp [SessionVaultModel.withoutEnvelope], (by simp)⟩
  | _ => cases hstate

/-- A vault that is open was open before with the same key, or a completion opened it. -/
theorem Effect.opens {s : SessionId} {g idle : Nat} {key : UnsealedSessionKey}
    (hstate : v'.state = .opened s g idle key) : (∃ idle', v.state = .opened s g idle' key) ∨
      ∃ completion clock, c = .completeUnlock completion clock ∧
        Opens v completion clock s g key := by
  have hpolled : ∀ {idle}, (c.polled v).state = .opened s g idle key →
      ∃ idle', v.state = .opened s g idle' key := by
    intro idle h
    rcases polled_state c v with ⟨hsealed, -⟩ | ⟨hsame, -⟩
    · exact absurd (hsealed.symm.trans h) (by simp)
    · exact ⟨idle, hsame.symm.trans h⟩
  cases heffect with
  | kept => exact .inl (hpolled hstate)
  | drawn hsealed => exact absurd (hsealed.symm.trans hstate) (by simp)
  | @opened completion clock _ _ _ _ hopens =>
    cases hstate
    exact .inr ⟨completion, clock, rfl, hopens⟩
  | refreshed hopened =>
    cases hstate
    exact .inl (hpolled hopened)
  | stored => exact .inl (hpolled hstate)
  | imported => exact .inl (hpolled hstate)
  | _ => cases hstate

end

end

/-! ## The invariant -/

structure Sound (w : VaultWorld C) : Prop where
  published : Published w.state.vault
  bounded : ∀ s g e, w.state.vault.state = .unlocking s g e →
    1 ≤ g ∧ g ≤ w.state.vault.nextGeneration
  issued : ∀ attempt ∈ attempts w.history,
    attempt.vaultInstance = w.state.vault.vaultInstance ∧ 1 ≤ attempt.generation ∧
      attempt.generation ≤ w.state.vault.nextGeneration ∧
      ∀ s e, w.state.vault.state = .unlocking s attempt.generation e → attempt.sessionId = s
  prepared : ∀ p ∈ w.state.preparations, p.attempt ∈ attempts w.history

variable (p : Preparation C)

theorem attempt_check (active : Nat) : (p.check active).attempt = p.attempt := by
  unfold Preparation.check
  split <;> rfl

theorem attempt_reserve (limiter : UnlockWorkLimiter) :
    (p.reserve limiter).attempt = p.attempt := by
  unfold Preparation.reserve
  split
  · split <;> rfl
  · rfl

theorem attempt_credential (answer : Option C) : (p.credential answer).attempt = p.attempt := by
  unfold Preparation.credential
  split
  · split <;> rfl
  · rfl

theorem attempt_key (answer : Option UnsealedSessionKey) : (p.key answer).attempt = p.attempt := by
  unfold Preparation.key
  split
  · split <;> rfl
  · rfl

variable {w : VaultWorld C} {act : Act C}

theorem attempts_silent {history : List (Event (Act C) Answer)} :
    attempts (history ++ [⟨act, .silent⟩]) = attempts history := by
  simp [attempts, Answer.attempt?]

/-- A step that only moves a preparation on. -/
theorem Sound.moved (h : Sound w) (index : Nat) {f : Preparation C → Preparation C}
    (hf : ∀ p, (f p).attempt = p.attempt) :
    Sound ⟨w.state.moved index f, w.history ++ [⟨act, .silent⟩]⟩ := by
  refine ⟨h.published, h.bounded, ?_, ?_⟩
  · rw [attempts_silent]
    exact h.issued
  · intro p hp
    rw [attempts_silent]
    obtain ⟨i, hi⟩ := List.mem_iff_getElem?.mp hp
    simp only [System.moved, List.getElem?_modify] at hi
    rcases hget : w.state.preparations[i]? with _ | q <;> rw [hget] at hi
    · cases hi
    · have hq := h.prepared q (List.mem_of_getElem? hget)
      cases hi
      split_ifs
      · rw [hf]
        exact hq
      · exact hq

theorem Sound.vault (h : Sound w) (c : Call) : Sound (w.after step (.vault c)) := by
  have heffect := call_effect w.state.vault c
  have hattempts : attempts (w.after step (.vault c)).history =
      attempts w.history ++ (Answer.vault (call w.state.vault c).2).attempt?.toList := by
    rcases hreply : (Answer.vault (call w.state.vault c).2).attempt? with _ | attempt <;>
      simp [attempts, World.after, step, hreply]
  refine ⟨heffect.published h.published, ?_, ?_, ?_⟩
  · intro s g e hstate
    rcases heffect.pending hstate with ⟨hold, hnext, -⟩ | ⟨rfl, hnext, -⟩
    · have hbounded := h.bounded s g e hold
      exact ⟨hbounded.1, Nat.le_trans hbounded.2 (Nat.le_of_eq hnext.symm)⟩
    · exact ⟨Nat.succ_le_succ (Nat.zero_le _), Nat.le_of_eq hnext.symm⟩
  · intro attempt hmem
    rw [hattempts] at hmem
    obtain ⟨hinstance, -, hgrows⟩ := heffect.frame
    rcases List.mem_append.mp hmem with hold | hnew
    · obtain ⟨hown, hpositive, hle, hsession⟩ := h.issued attempt hold
      refine ⟨hown.trans hinstance.symm, hpositive, Nat.le_trans hle hgrows, ?_⟩
      intro s e hstate
      rcases heffect.pending hstate with ⟨hbefore, -, -⟩ | ⟨hfresh, -, -⟩
      · exact hsession s e hbefore
      · omega
    · rw [Option.mem_toList] at hnew
      obtain ⟨s, g, e, hstate, hbegun⟩ : ∃ s g e, (call w.state.vault c).1.state =
          .unlocking s g e ∧ attempt.sessionId = s ∧ attempt.generation = g ∧
          attempt.vaultInstance = w.state.vault.vaultInstance ∧ 1 ≤ g ∧
          g ≤ (call w.state.vault c).1.nextGeneration := by
        generalize (call w.state.vault c).2 = reply at heffect hnew
        generalize (call w.state.vault c).1 = v' at heffect ⊢
        cases heffect with
        | kept hquiet =>
          cases reply with
          | begun result =>
            cases result with
            | ok _ => exact absurd hquiet id
            | error _ => cases hnew
          | _ => cases hnew
        | begun =>
          cases hnew
          exact ⟨_, _, _, rfl, rfl, rfl, rfl, Nat.le_add_left _ _, by
            simp [SessionVaultModel.unlocking, Vault.drawn]⟩
        | _ => cases hnew
      obtain ⟨hsession, rfl, hown, hpositive, hle⟩ := hbegun
      refine ⟨hown.trans hinstance.symm, hpositive, hle, ?_⟩
      intro s' e' hstate'
      rw [show (w.after step (.vault c)).state.vault.state = _ from hstate] at hstate'
      cases hstate'
      exact hsession
  · intro p hp
    rw [hattempts]
    exact List.mem_append_left _ (h.prepared p hp)

theorem Sound.after (h : Sound w) (hadmitted : Admitted w act) : Sound (w.after step act) := by
  cases act with
  | vault c => exact h.vault c
  | prepare attempt capabilities =>
    refine ⟨h.published, h.bounded, ?_, ?_⟩
    · rw [show attempts (w.after step (.prepare attempt capabilities)).history = _ from
        attempts_silent]
      exact h.issued
    · intro p hp
      rw [show attempts (w.after step (.prepare attempt capabilities)).history = _ from
        attempts_silent]
      rcases List.mem_append.mp hp with hold | hnew
      · exact h.prepared p hold
      · rw [List.mem_singleton.mp hnew]
        exact hadmitted.held
  | check index => exact h.moved index fun p => attempt_check p _
  | reserve index limiter => exact h.moved index fun p => attempt_reserve p limiter
  | credential index answer => exact h.moved index fun p => attempt_credential p answer
  | key index answer => exact h.moved index fun p => attempt_key p answer

theorem VaultRun.sound {vaultInstance : Nat} {policy : VaultPolicy}
    {inboxPolicy : OpaqueInboxPolicy} (hrun : VaultRun vaultInstance policy inboxPolicy w) :
    Sound w := by
  refine hrun.invariant (fun _ _ hadmitted hw => hw.after hadmitted) ⟨rfl, nofun, ?_, ?_⟩
  · exact List.forall_mem_nil _
  · exact List.forall_mem_nil _

end SessionChat.Vault
