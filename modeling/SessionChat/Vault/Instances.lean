import SessionChat.Vault.InboxSafety
import SessionChat.Vault.Preparation

/-!
# Tokens of another vault (`crates/session-storage/src/lib.rs`)

Two vaults with any histories, whose session identifiers and generation numbers may
coincide. Unlock completions and pending imports name the vault they come from and
are refused by any other; a relock attempt does not.
-/

set_option autoImplicit false

namespace SessionChat.Vault

open Transition Inbox

def AnyRun (vaultInstance : Nat) (policy : VaultPolicy) (inboxPolicy : OpaqueInboxPolicy)
    (w : InboxWorld) : Prop :=
  Leads call (fun _ _ => True) ⟨.new vaultInstance policy inboxPolicy, []⟩ w

inductive Token where
  | completion (completion : UnlockCompletion)
  | relock (attempt : RelockAttempt)
  | pending (pending : PendingOpaqueImport)

/-- The vault has handed the token out; a completion is made from one of its attempts. -/
def Obtained (w : InboxWorld) : Token → Prop
  | .completion completion => ∃ event ∈ w.history, ∃ attempt outcome,
      event.reply = .begun (.ok attempt) ∧ completion = attempt.completion outcome
  | .relock attempt => ∃ event ∈ w.history, event.reply = .relocking (.ok attempt)
  | .pending pending => pending ∈ imports w.history

def present (v : SessionVaultModel) (clock : Readings) :
    Token → SessionVaultModel × Except VaultError Unit
  | .completion completion => v.completeUnlock completion clock
  | .relock attempt => v.completeRelock attempt
  | .pending pending => v.completeOpaqueImport pending clock

/-- The vault can tell that the token is not its own: it is no relock attempt, or no relock of
its session and generation is pending here. -/
def Distinguished (v : SessionVaultModel) : Token → Prop
  | .relock attempt => v.state ≠ .relocking attempt.sessionId attempt.generation
  | _ => True

/-! ## The instance of a vault and of its tokens -/

/-- The vault's instance does not change, and its tokens name it. -/
structure Named (vaultInstance : Nat) (w : InboxWorld) : Prop where
  vault : w.state.vaultInstance = vaultInstance
  attempts : ∀ event ∈ w.history, ∀ attempt, event.reply = .begun (.ok attempt) →
    attempt.vaultInstance = vaultInstance
  imports : ∀ pending ∈ imports w.history, pending.vaultInstance = vaultInstance

theorem begun_instance {v : SessionVaultModel} {c : Call} {attempt : UnlockAttempt}
    (h : (call v c).2 = .begun (.ok attempt)) : attempt.vaultInstance = v.vaultInstance := by
  have heffect := call_effect v c
  rw [h] at heffect
  generalize (call v c).1 = v' at heffect
  cases heffect with
  | kept hquiet => exact absurd hquiet id
  | begun => rfl

theorem Named.after {vaultInstance : Nat} {w : InboxWorld} (h : Named vaultInstance w)
    (c : Call) : Named vaultInstance (w.after call c) := by
  refine ⟨(call_effect w.state c).inbox_frame.1.trans h.vault, ?_, ?_⟩
  · intro event hevent attempt hreply
    rcases List.mem_append.mp hevent with hold | hnew
    · exact h.attempts event hold attempt hreply
    · rw [List.mem_singleton.mp hnew] at hreply
      exact (begun_instance hreply).trans h.vault
  · intro pending hpending
    have hsplit : pending ∈ Inbox.imports w.history ∨
        (call w.state c).2.pending? = some pending := by
      simpa [Inbox.imports, World.after] using hpending
    rcases hsplit with hold | hnew
    · exact h.imports pending hold
    · obtain ⟨sessionId, now, rfl⟩ := Inbox.pending?_of_call hnew
      exact (Inbox.beginOpaqueImport_ok hnew).1.trans h.vault

theorem AnyRun.named {vaultInstance : Nat} {policy : VaultPolicy}
    {inboxPolicy : OpaqueInboxPolicy} {w : InboxWorld}
    (hrun : AnyRun vaultInstance policy inboxPolicy w) : Named vaultInstance w := by
  refine hrun.invariant (fun _ c _ hw => hw.after c) ⟨rfl, ?_, ?_⟩
  · exact List.forall_mem_nil _
  · exact List.forall_mem_nil _

/-! ## What a vault does with a foreign token -/

variable {v : SessionVaultModel}

theorem completeUnlock_foreign {completion : UnlockCompletion} (clock : Readings)
    (hforeign : v.vaultInstance ≠ completion.vaultInstance) :
    (v.completeUnlock completion clock).2 = .error .reservationMismatch := by
  unfold SessionVaultModel.completeUnlock
  cases v.state with
  | unlocking s g e =>
    dsimp only
    rw [if_pos fun hmatches => hforeign hmatches.1]
  | _ => rfl

theorem completeOpaqueImport_foreign {pending : PendingOpaqueImport} (clock : Readings)
    (hforeign : v.vaultInstance ≠ pending.vaultInstance) :
    (v.completeOpaqueImport pending clock).2 = .error .reservationMismatch := by
  have hpolled : (v.poll clock.first).vaultInstance ≠ pending.vaultInstance := by
    rw [SessionVaultModel.poll_vaultInstance]
    exact hforeign
  unfold SessionVaultModel.completeOpaqueImport
  dsimp only
  cases (v.poll clock.first).state with
  | opened s g idle key =>
    dsimp only
    rw [if_pos (.inl hpolled)]
  | _ => rfl

theorem completeRelock_refused_iff {attempt : RelockAttempt} :
    (∃ error, (v.completeRelock attempt).2 = .error error) ↔
      v.state ≠ .relocking attempt.sessionId attempt.generation := by
  obtain ⟨s, g⟩ := attempt
  unfold SessionVaultModel.completeRelock
  cases v.state with
  | relocking s' g' =>
    dsimp only
    by_cases hmismatch : s' ≠ s ∨ g' ≠ g
    · rw [if_pos hmismatch]
      refine ⟨fun _ heq => ?_, fun _ => ⟨_, rfl⟩⟩
      cases heq
      simp at hmismatch
    · simp only [not_or, not_not] at hmismatch
      obtain ⟨rfl, rfl⟩ := hmismatch
      exact ⟨fun ⟨_, herror⟩ => absurd herror (by simp), fun hne => absurd rfl hne⟩
  | _ => exact ⟨fun _ => (by simp), fun _ => ⟨_, rfl⟩⟩

/-- A token of one vault is refused by another exactly when that one can tell it apart. -/
theorem foreign_token_refused_iff {a b : Nat} {policy policy' : VaultPolicy}
    {inboxPolicy inboxPolicy' : OpaqueInboxPolicy} {w w' : InboxWorld} (hne : a ≠ b)
    (hw : AnyRun a policy inboxPolicy w) (hw' : AnyRun b policy' inboxPolicy' w')
    {token : Token} (hobtained : Obtained w token) (clock : Readings) :
    (∃ error, (present w'.state clock token).2 = .error error) ↔ Distinguished w'.state token := by
  have hvault : w'.state.vaultInstance = b := hw'.named.vault
  cases token with
  | completion completion =>
    obtain ⟨event, hevent, attempt, outcome, hreply, rfl⟩ := hobtained
    have hattempt := hw.named.attempts event hevent attempt hreply
    refine ⟨fun _ => trivial, fun _ => ⟨_, completeUnlock_foreign clock ?_⟩⟩
    rw [hvault]
    exact fun heq => hne (hattempt.symm.trans heq.symm)
  | relock attempt => exact completeRelock_refused_iff
  | pending pending =>
    have hpending := hw.named.imports pending hobtained
    refine ⟨fun _ => trivial, fun _ => ⟨_, completeOpaqueImport_foreign clock ?_⟩⟩
    rw [hvault, hpending]
    exact hne.symm

/-! ## Two vaults that relock the same session -/

/-- A vault that is opened and whose relock is pending. -/
def sampleRelocking (vaultInstance : Nat) : InboxWorld :=
  World.afterAll call ⟨.new vaultInstance samplePolicy sampleInboxPolicy, []⟩
    [.beginUnlock sampleSession ⟨0, 0⟩,
      .completeUnlock ⟨vaultInstance, sampleSession, 1, .ready sampleCapabilities sampleKey⟩ ⟨1, 1⟩,
      .beginRelock sampleSession 2]

def sampleRelock : RelockAttempt := ⟨sampleSession, 2⟩

theorem sampleRelock_obtained : Obtained (sampleRelocking 1) (.relock sampleRelock) := by
  refine ⟨(sampleRelocking 1).history.get ⟨2, by decide +kernel⟩, List.get_mem _ _, ?_⟩
  decide +kernel

/-- The relock of one vault completes the relock of another. -/
theorem foreign_relock_accepted :
    ¬∀ a b policy inboxPolicy w w', a ≠ b → AnyRun a policy inboxPolicy w →
      AnyRun b policy inboxPolicy w' → ∀ token, Obtained w token → ∀ clock,
      ∃ error, (present w'.state clock token).2 = .error error := by
  intro h
  obtain ⟨error, herror⟩ := h 1 2 samplePolicy sampleInboxPolicy (sampleRelocking 1)
    (sampleRelocking 2) (by decide) (leads_calls _ _) (leads_calls _ _) (.relock sampleRelock)
    sampleRelock_obtained ⟨3, 3⟩
  have haccepted :
      (present (sampleRelocking 2).state ⟨3, 3⟩ (.relock sampleRelock)).2 = .ok () := by
    decide +kernel
  exact absurd (haccepted.symm.trans herror) (by simp)

/-- A vault that relocks another generation refuses the same token. -/
theorem foreign_token_refused_relocking :
    let v := (sampleRelocking 2).afterAll call
      [.forceLock .explicit, .beginUnlock sampleSession ⟨3, 3⟩,
        .completeUnlock ⟨2, sampleSession, 3, .ready sampleCapabilities sampleKey⟩ ⟨4, 4⟩,
        .beginRelock sampleSession 5]
    v.state.state = .relocking sampleSession 4 ∧
      ∃ error, (present v.state ⟨6, 6⟩ (.relock sampleRelock)).2 = .error error := by
  intro v
  have hstate : v.state.state = .relocking sampleSession 4 := by decide +kernel
  have hfirst : AnyRun 1 samplePolicy sampleInboxPolicy (sampleRelocking 1) := leads_calls _ _
  have hsecond : AnyRun 2 samplePolicy sampleInboxPolicy v :=
    (leads_calls _ _).trans (leads_calls _ _)
  refine ⟨hstate, (foreign_token_refused_iff (by decide) hfirst hsecond sampleRelock_obtained
    ⟨6, 6⟩).mpr ?_⟩
  show v.state.state ≠ .relocking sampleRelock.sessionId sampleRelock.generation
  rw [hstate]
  decide

end SessionChat.Vault
