import SessionChat.Storage.Data

/-!
# Schema creation and the reopen validator (`crates/storage-sqlcipher/src/schema.rs`)

`createSchema` is the database of a new store. `validateSchemaV6` is the check of every open:
it compares the persisted bounds with the caller's policy and looks for rows that contradict
each other across tables. Each query of the source that counts invalid rows is a predicate
here, under the name of the variable the count is bound to.
-/

set_option autoImplicit false

namespace SessionChat.Storage

open Relational

/-- Persisted bounds for the durable authorization owner. -/
structure AuthorizationPolicy where
  maximumLiveInvitations : Nat
  maximumRetainedAttempts : Nat
  live_pos : 1 ≤ maximumLiveInvitations
  live_le : maximumLiveInvitations ≤ 8
  retained_pos : 1 ≤ maximumRetainedAttempts
  retained_le : maximumRetainedAttempts ≤ 8

/-- `checked_mul` of the two bounds, which cannot overflow. -/
def AuthorizationPolicy.maximumTotalAttempts (policy : AuthorizationPolicy) : Nat :=
  policy.maximumLiveInvitations * policy.maximumRetainedAttempts

/-- The default policy, eight of each. -/
def AuthorizationPolicy.phaseOne : AuthorizationPolicy where
  maximumLiveInvitations := 8
  maximumRetainedAttempts := 8
  live_pos := by decide
  live_le := by decide
  retained_pos := by decide
  retained_le := by decide

variable (policy : AuthorizationPolicy)

/-- The singleton row `create_schema` inserts. -/
def AuthorizationPolicy.metadataRow (storeId : Id16) :
    MetadataRow where
  schemaVersion := 6
  storeId := storeId
  maximumLiveInvitations := policy.maximumLiveInvitations
  maximumLiveAuthorizationAttempts := policy.maximumRetainedAttempts
  maximumRetainedAttemptsPerGeneration := policy.maximumRetainedAttempts
  maximumTotalAuthorizationAttempts := policy.maximumTotalAttempts

theorem AuthorizationPolicy.maximumTotalAttempts_bounds :
    1 ≤ policy.maximumTotalAttempts ∧ policy.maximumTotalAttempts ≤ 64 :=
  ⟨Nat.mul_pos policy.live_pos policy.retained_pos,
    Nat.mul_le_mul policy.live_le policy.retained_le⟩

def createdTables (storeId : Id16) : Tables where
  userVersion := 6
  metadata := [policy.metadataRow storeId]
  reservations := []
  attempts := []
  openings := []
  inviterJoins := []
  mlsGroups := []
  mlsEpochs := []
  keyPackages := []
  joinerCommits := []
  clientIdentity := []

theorem createdTables_valid (storeId : Id16) : (createdTables policy storeId).Valid := by
  have hempty : ∀ {ρ : Type} (C : TableConstraints ρ), C.Hold [] := fun C =>
    ⟨by simp, List.Pairwise.nil⟩
  refine ⟨⟨?_, List.pairwise_singleton _ _⟩, hempty _, hempty _, hempty _, hempty _, hempty _,
    hempty _, hempty _, hempty _, hempty _, by simp [createdTables],
    by simp [createdTables], by simp [createdTables]⟩
  simp only [createdTables, List.mem_singleton, forall_eq, metadataConstraints,
    AuthorizationPolicy.metadataRow, decide_eq_true_eq]
  exact ⟨trivial, ⟨policy.live_pos, policy.live_le⟩, ⟨policy.retained_pos, policy.retained_le⟩,
    ⟨policy.retained_pos, policy.retained_le⟩, policy.maximumTotalAttempts_bounds⟩

def createSchema (storeId : Id16) : Db :=
  ⟨createdTables policy storeId, createdTables_valid policy storeId⟩

/-! ## Cross-table relations the queries join on -/

/-- The opening context of exactly the attempt's invitation and generation. -/
def OpeningRow.Owns (o : OpeningRow) (a : AttemptRow) : Prop :=
  o.invitationId = a.invitationId ∧ o.generation = a.generation
deriving Decidable

/-- The inviter result of exactly the attempt's membership transaction. -/
def InviterJoinRow.ResultOf (j : InviterJoinRow) (a : AttemptRow) : Prop :=
  a.transactionId = some j.transactionId ∧ j.invitationId = a.invitationId ∧
    j.generation = a.generation ∧ j.joinRequestId = a.joinRequestId ∧
    j.requestFingerprint = a.requestFingerprint
deriving Decidable

/-- The reservation of exactly the attempt's request. -/
def ReservationRow.Backs (r : ReservationRow) (a : AttemptRow) : Prop :=
  r.invitationId = a.invitationId ∧ r.generation = a.generation ∧
    r.joinRequestId = a.joinRequestId
deriving Decidable

/-- Attempts of one opening context that are still live. -/
def liveAttempts (t : Tables) (o : OpeningRow) : List AttemptRow :=
  t.attempts.filter fun a => decide (o.Owns a) && a.state.live

/-! ## The queries of `validate_schema_v6` -/

section Queries

variable (t : Tables)

def InvalidIdentityRows : Prop := ∃ r ∈ t.clientIdentity, r.groupId = 0
deriving Decidable

def InvalidOpeningRows : Prop :=
  ∃ o ∈ t.openings, o.invitationId = 0 ∨ o.generation = 0 ∨
    ((o.state = .available ∨ o.state = .reserved) ∧ o.hpkePrivateKey = 0) ∨
    ((o.state = .consumed ∨ o.state = .unusable) ∧ o.hpkePrivateKey ≠ 0)
deriving Decidable

/-- Attempts that share the invitation and generation of `a`. -/
def generationAttempts (invitationId : Id16) (generation : Generation) : Nat :=
  t.attempts.countP fun b =>
    decide (b.invitationId = invitationId ∧ b.generation = generation)

/-- `coalesce(max(count(*)), 0)` over the groups of attempts. -/
def maximumGenerationRows : Nat :=
  (t.attempts.map fun a => generationAttempts t a.invitationId a.generation).foldr max 0

def liveAuthorizationRows : Nat := t.attempts.countP (·.state.live)

def InvalidAuthorizationRows : Prop :=
  ∃ a ∈ t.attempts, (∀ o ∈ t.openings, ¬o.Owns a) ∨ a.attemptId = 0 ∨ a.invitationId = 0 ∨
    a.generation = 0 ∨ a.invitationChallenge = 0 ∨ a.joinRequestId = 0 ∨ a.requestNonce = 0 ∨
    a.intendedVerifier = 0 ∨ a.keyPackageReference = 0 ∨ a.credentialIdentity = 0 ∨
    a.leafSignatureKey = 0 ∨ a.requestFingerprint = 0 ∨
    (∃ o ∈ t.openings, o.Owns a ∧ a.invitationExpiresAt ≠ o.expiresAt) ∨
    a.transactionId = some 0
deriving Decidable

def InvalidAuthorizationOwnership : Prop :=
  ∃ o ∈ t.openings, (o.state = .reserved ∧ (liveAttempts t o).length ≠ 1) ∨
    (o.state ≠ .reserved ∧ ∃ a ∈ t.attempts, o.Owns a ∧ a.state.live = true)
deriving Decidable

def InvalidCommittedAuthorizations : Prop :=
  ∃ a ∈ t.attempts, a.state = .committed ∧
    ((∀ o ∈ t.openings, ¬o.Owns a) ∨ (∃ o ∈ t.openings, o.Owns a ∧ o.state ≠ .consumed) ∨
      (∀ j ∈ t.inviterJoins, ¬j.ResultOf a) ∨ (∀ r ∈ t.reservations, ¬r.Backs a) ∨
      ∃ r ∈ t.reservations, r.Backs a ∧ r.state ≠ .consumed)
deriving Decidable

def InvalidAbandonedAuthorizations : Prop :=
  ∃ a ∈ t.attempts, a.state = .abandoned ∧
    ∃ j ∈ t.inviterJoins, a.transactionId = some j.transactionId
deriving Decidable

def InvalidOpeningOwnedResults : Prop :=
  ∃ j ∈ t.inviterJoins,
    (∃ o ∈ t.openings, o.invitationId = j.invitationId ∧ o.generation = j.generation) ∧
    ∀ a ∈ t.attempts, ¬(j.ResultOf a ∧ a.state = .committed)
deriving Decidable

def InvalidConsumedOpenings : Prop :=
  ∃ o ∈ t.openings, o.state = .consumed ∧
    ∀ a ∈ t.attempts, ¬(o.Owns a ∧ a.state = .committed)
deriving Decidable

end Queries

/-- `validate_schema_v6`. A metadata table that does not hold exactly one row is
rejected by the row count, an empty one already because `min(store_id)` is null. -/
def validateSchemaV6 (policy : AuthorizationPolicy) (t : Tables) : Except StoreError Unit :=
  match t.metadata with
  | [row] =>
      if t.userVersion ≠ 6 ∨ row.schemaVersion ≠ 6 ∨ row.storeId = 0 then .error .rejected
      else if row.maximumLiveInvitations ≠ policy.maximumLiveInvitations ∨
          row.maximumLiveAuthorizationAttempts ≠ policy.maximumRetainedAttempts ∨
          row.maximumRetainedAttemptsPerGeneration ≠ policy.maximumRetainedAttempts ∨
          row.maximumTotalAuthorizationAttempts ≠ policy.maximumTotalAttempts then
        .error .conflict
      else if InvalidIdentityRows t then .error .rejected
      else if InvalidOpeningRows t then .error .rejected
      else if policy.maximumLiveInvitations < t.openings.length ∨
          policy.maximumTotalAttempts < t.attempts.length ∨
          policy.maximumRetainedAttempts < liveAuthorizationRows t ∨
          policy.maximumRetainedAttempts < maximumGenerationRows t then
        .error .rejected
      else if InvalidAuthorizationRows t then .error .rejected
      else if InvalidAuthorizationOwnership t then .error .rejected
      else if InvalidCommittedAuthorizations t ∨ InvalidAbandonedAuthorizations t ∨
          InvalidOpeningOwnedResults t ∨ InvalidConsumedOpenings t then
        .error .rejected
      else .ok ()
  | _ => .error .rejected

end SessionChat.Storage
