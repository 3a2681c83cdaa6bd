import SessionChat.Vault.Model

/-!
# Preparing an unlock completion (`crates/session-storage/src/lib.rs`, ADR 0020)

`prepare_with` runs outside the vault: it reads the published generation three
times, reserves a work slot, and asks a credential source and a protector. Lock
events fall between these steps, so a preparation is also given as a machine that
takes them one at a time; run without interruption it is `prepareWith`.
-/

set_option autoImplicit false

namespace SessionChat.Vault

variable {C : Type}

/-! ## The work limiter -/

/-- Shared bound on concurrent unlock work; `inFlight` counts the permits not yet dropped. -/
structure UnlockWorkLimiter where
  maximumConcurrent : Nat
  inFlight : Nat
  positive : maximumConcurrent ≠ 0

def UnlockWorkLimiter.new (maximumConcurrent : Nat) : Except VaultError UnlockWorkLimiter :=
  if h : maximumConcurrent ≠ 0 then .ok ⟨maximumConcurrent, 0, h⟩ else .error .invalidPolicy

/-- A permit, as the limiter with one more in flight. -/
def UnlockWorkLimiter.tryReserve (self : UnlockWorkLimiter) : Except VaultError UnlockWorkLimiter :=
  if self.maximumConcurrent ≤ self.inFlight then .error .capacityExceeded
  else .ok { self with inFlight := self.inFlight + 1 }

/-! ## The whole operation -/

def UnlockAttempt.isCurrent (self : UnlockAttempt) (activeUnlockGeneration : Nat) : Bool :=
  activeUnlockGeneration = self.generation

/-- What `prepare_with` meets: the published generation at its three checks, the limiter when
it reserves, and the answers of the credential source and the protector. -/
structure Surroundings (C : Type) where
  active : Nat × Nat × Nat
  limiter : UnlockWorkLimiter
  acquire : Option C
  unsealSessionKey : C → Option UnsealedSessionKey

variable (self : UnlockAttempt)

def UnlockAttempt.prepareOutcome (capabilities : ProtectorCapabilities) (world : Surroundings C) :
    UnlockOutcome :=
  if ¬self.isCurrent world.active.1 then .failed .reservationMismatch
  else if ¬capabilities.supports self.minimumProtection then .failed .providerFailure
  else
    match world.limiter.tryReserve with
    | .error error => .failed error
    | .ok _ =>
        if ¬self.isCurrent world.active.2.1 then .failed .reservationMismatch
        else
          match world.acquire with
          | none => .failed .providerFailure
          | some credential =>
              if ¬self.isCurrent world.active.2.2 then .failed .reservationMismatch
              else
                match world.unsealSessionKey credential with
                | some key => .ready capabilities key
                | none => .failed .providerFailure

def UnlockAttempt.completion (outcome : UnlockOutcome) : UnlockCompletion :=
  ⟨self.vaultInstance, self.sessionId, self.generation, outcome⟩

def UnlockAttempt.prepareWith (capabilities : ProtectorCapabilities) (world : Surroundings C) :
    UnlockCompletion :=
  self.completion (self.prepareOutcome capabilities world)

/-! ## One step at a time -/

/-- Where a preparation stands; in `acquiring` and `unsealing` foreign work is running. -/
inductive Phase (C : Type) where
  | entered
  | vetted
  | reserved
  | acquiring
  | acquired (credential : C)
  | unsealing (credential : C)
  | finished (outcome : UnlockOutcome)

structure Preparation (C : Type) where
  attempt : UnlockAttempt
  capabilities : ProtectorCapabilities
  phase : Phase C

namespace Preparation

variable (self : Preparation C)

/-- The same preparation in another phase. -/
def moveTo (phase : Phase C) : Preparation C := { self with phase }

/-- The next step if the attempt is still current. -/
def ifCurrent (active : Nat) (phase : Phase C) : Preparation C :=
  self.moveTo (if self.attempt.isCurrent active then phase
    else .finished (.failed .reservationMismatch))

/-- One of the three checks of the published generation. -/
def check (active : Nat) : Preparation C :=
  match self.phase with
  | .entered =>
      self.ifCurrent active
        (if self.capabilities.supports self.attempt.minimumProtection then .vetted
        else .finished (.failed .providerFailure))
  | .reserved => self.ifCurrent active .acquiring
  | .acquired credential => self.ifCurrent active (.unsealing credential)
  | _ => self

def reserve (limiter : UnlockWorkLimiter) : Preparation C :=
  match self.phase with
  | .vetted =>
      match limiter.tryReserve with
      | .error error => self.moveTo (.finished (.failed error))
      | .ok _ => self.moveTo .reserved
  | _ => self

/-- The credential source has answered. -/
def credential (self : Preparation C) (answer : Option C) : Preparation C :=
  match self.phase with
  | .acquiring =>
      match answer with
      | none => self.moveTo (.finished (.failed .providerFailure))
      | some credential => self.moveTo (.acquired credential)
  | _ => self

/-- The protector has answered. -/
def key (self : Preparation C) (answer : Option UnsealedSessionKey) : Preparation C :=
  match self.phase with
  | .unsealing _ =>
      match answer with
      | none => self.moveTo (.finished (.failed .providerFailure))
      | some key => self.moveTo (.finished (.ready self.capabilities key))
  | _ => self

def completion? : Option UnlockCompletion :=
  match self.phase with
  | .finished outcome => some (self.attempt.completion outcome)
  | _ => none

/-- Foreign work, on a credential or on the key, is running. -/
def Working : Prop :=
  match self.phase with
  | .acquiring | .unsealing _ => True
  | _ => False

/-- The steps in the order of the source, without interruption. -/
def run (world : Surroundings C) : Preparation C :=
  let acquired := (((self.check world.active.1).reserve world.limiter).check
    world.active.2.1).credential world.acquire
  (acquired.check world.active.2.2).key (world.acquire.bind world.unsealSessionKey)

/-- The machine computes what the source's function computes. -/
theorem completion?_run (attempt : UnlockAttempt) (capabilities : ProtectorCapabilities)
    (world : Surroundings C) :
    (Preparation.run ⟨attempt, capabilities, .entered⟩ world).completion? =
      some (attempt.prepareWith capabilities world) := by
  obtain ⟨⟨first, second, third⟩, limiter, acquire, protector⟩ := world
  unfold UnlockAttempt.prepareWith UnlockAttempt.prepareOutcome run
  by_cases hfirst : attempt.isCurrent first
  · by_cases hsupports : capabilities.supports attempt.minimumProtection
    · rcases hreserve : limiter.tryReserve with error | reserved
      · simp [check, ifCurrent, reserve, credential, key, completion?, moveTo, hfirst, hsupports,
          hreserve]
      · by_cases hsecond : attempt.isCurrent second
        · rcases acquire with _ | credential
          · simp [check, ifCurrent, reserve, Preparation.credential, key, completion?, moveTo,
              hfirst, hsupports, hreserve, hsecond]
          · by_cases hthird : attempt.isCurrent third
            · rcases hunseal : protector credential with _ | key <;>
                simp [check, ifCurrent, reserve, Preparation.credential, Preparation.key,
                  completion?, moveTo, hfirst, hsupports, hreserve, hsecond, hthird, hunseal]
            · simp [check, ifCurrent, reserve, Preparation.credential, key, completion?, moveTo,
                hfirst, hsupports, hreserve, hsecond, hthird]
        · simp [check, ifCurrent, reserve, Preparation.credential, key, completion?, moveTo,
            hfirst, hsupports, hreserve, hsecond]
    · simp [check, ifCurrent, reserve, credential, key, completion?, moveTo, hfirst, hsupports]
  · simp [check, ifCurrent, reserve, credential, key, completion?, moveTo, hfirst]

end Preparation

end SessionChat.Vault
