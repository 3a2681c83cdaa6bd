import SessionChat.Storage.Store

/-!
# What a transaction may do to the tables (`crates/storage-sqlcipher/src/schema.rs`)

Eleven effects on the tables, stated without the statements that produce them. Every
transaction body is a chain of effects (`Refinement`), so a property that each effect keeps
is kept by every call.

`Admission` says which new openings, attempts and legacy results a call may bring in and
whether it may touch the delivery columns.
-/

set_option autoImplicit false

namespace SessionChat.Storage

open Relational

/-! ## Rows brought in from outside -/

/-- Which new rows a call may insert. -/
structure Admission where
  opening : OpeningRow → Prop
  attempt : AttemptRow → Prop
  legacyJoin : InviterJoinRow → Prop
  /-- Delivery columns of stored results may change. -/
  delivery : Prop

/-- Nothing new may be inserted and nothing is delivered. -/
def Admission.nothing : Admission :=
  ⟨fun _ => False, fun _ => False, fun _ => False, False⟩

/-- Every identifying field of the attempt is nonzero. -/
structure AttemptRow.Nonzero (a : AttemptRow) : Prop where
  attemptId : a.attemptId ≠ 0
  invitationId : a.invitationId ≠ 0
  generation : a.generation ≠ 0
  invitationChallenge : a.invitationChallenge ≠ 0
  joinRequestId : a.joinRequestId ≠ 0
  requestNonce : a.requestNonce ≠ 0
  intendedVerifier : a.intendedVerifier ≠ 0
  keyPackageReference : a.keyPackageReference ≠ 0
  credentialIdentity : a.credentialIdentity ≠ 0
  leafSignatureKey : a.leafSignatureKey ≠ 0
  requestFingerprint : a.requestFingerprint ≠ 0
  transactionId : a.transactionId ≠ some 0

/-- The delivery columns of a result that was just inserted. -/
structure InviterJoinRow.Unsent (j : InviterJoinRow) : Prop where
  outboxState : j.outboxState = .pending
  deliveryAttempts : j.deliveryAttempts = 0
  maximumDeliveryAttempts : j.maximumDeliveryAttempts = maximumWelcomeDeliveryAttempts
  leaseGeneration : j.leaseGeneration = 0

/-- `SET state = …, transaction_id = …`; no statement changes another column. -/
def AttemptRow.moved (s : AuthorizationState) (tx : Option Id16) (a : AttemptRow) : AttemptRow :=
  { a with state := s, transactionId := tx }

/-- What compaction leaves: unexpired rows, and expired ones that still own each
other. -/
def Tables.compacted (now : Nat) (t : Tables) : Tables :=
  { t with
    openings := t.openings.filter fun o => decide (now < o.expiresAt ∨ o.state = .reserved)
    attempts := t.attempts.filter fun a =>
      decide (now < a.invitationExpiresAt ∨ a.state.live = true) }

/-- No expired reserved opening keeps a terminal attempt beside its live one. -/
def Tables.Compactable (now : Nat) (t : Tables) : Prop :=
  ∀ o ∈ t.openings, o.state = .reserved → o.expiresAt ≤ now →
    ∀ a ∈ t.attempts, o.Owns a → a.state.live = true
deriving Decidable

/-- The columns an outbox statement leaves alone. -/
def KeepsKeys (f : InviterJoinRow → InviterJoinRow) : Prop :=
  ∀ j, (f j).transactionId = j.transactionId ∧ (f j).invitationId = j.invitationId ∧
    (f j).generation = j.generation ∧ (f j).joinRequestId = j.joinRequestId ∧
    (f j).requestFingerprint = j.requestFingerprint

/-! ## The effects -/

variable (policy : AuthorizationPolicy)

/-- One effect of a transaction on the tables. -/
inductive Effect (N : Admission) (db db' : Db) : Prop where
  /-- Expired rows are deleted, openings together with their attempts. -/
  | compact (now : Nat) (hfree : db.tables.Compactable now)
      (heq : db'.tables = db.tables.compacted now)
  /-- A new invitation becomes available. -/
  | issue (o : OpeningRow) (hallowed : N.opening o) (hstate : o.state = .available)
      (hkey : o.hpkePrivateKey ≠ 0) (hid : o.invitationId ≠ 0) (hgen : o.generation ≠ 0)
      (hroom : db.tables.openings.length < policy.maximumLiveInvitations)
      (hfresh : ∀ j ∈ db.tables.inviterJoins,
        ¬(j.invitationId = o.invitationId ∧ j.generation = o.generation))
      (heq : db'.tables = { db.tables with openings := db.tables.openings ++ [o] })
  /-- An available invitation becomes unusable. -/
  | terminalize (o : OpeningRow) (ho : o ∈ db.tables.openings) (hstate : o.state = .available)
      (heq : db'.tables =
        { db.tables with openings := replaceRow o (o.erased .unusable) db.tables.openings })
  /-- A new attempt reserves an available invitation. -/
  | reserve (a : AttemptRow) (o : OpeningRow) (hallowed : N.attempt a)
      (ho : o ∈ db.tables.openings) (howns : o.Owns a) (hstate : o.state = .available)
      (hexpires : o.expiresAt = a.invitationExpiresAt) (hpending : a.state = .pendingApproval)
      (hnonzero : a.Nonzero)
      (hlive : liveAuthorizationRows db.tables < policy.maximumRetainedAttempts)
      (hgeneration : generationAttempts db.tables a.invitationId a.generation <
        policy.maximumRetainedAttempts)
      (heq : db'.tables =
        { db.tables with
          attempts := db.tables.attempts ++ [a]
          openings := replaceRow o (o.withState .reserved) db.tables.openings })
  /-- A live attempt moves on and keeps its invitation. -/
  | advance (a : AttemptRow) (s : AuthorizationState) (tx : Option Id16)
      (ha : a ∈ db.tables.attempts) (hlive : a.state.live = true) (hs : s.live = true)
      (htx : tx ≠ some 0)
      (heq : db'.tables =
        { db.tables with attempts := replaceRow a (a.moved s tx) db.tables.attempts })
  /-- A live attempt ends without membership and frees its invitation. -/
  | settle (a : AttemptRow) (o o' : OpeningRow) (s : AuthorizationState)
      (ha : a ∈ db.tables.attempts) (ho : o ∈ db.tables.openings) (howns : o.Owns a)
      (hlive : a.state.live = true) (hs : s = .rejected ∨ s = .abandoned)
      (hfree : ∀ j ∈ db.tables.inviterJoins, a.transactionId ≠ some j.transactionId)
      (ho' : o' = o.withState .available ∨ o' = o.erased .unusable)
      (heq : db'.tables =
        { db.tables with
          attempts := replaceRow a (a.moved s a.transactionId) db.tables.attempts
          openings := replaceRow o o' db.tables.openings })
  /-- A live attempt ends with membership and consumes its invitation. -/
  | commit (a : AttemptRow) (o : OpeningRow) (j : InviterJoinRow) (r : ReservationRow)
      (ha : a ∈ db.tables.attempts) (ho : o ∈ db.tables.openings) (howns : o.Owns a)
      (hlive : a.state.live = true) (hj : j.ResultOf a) (hr : r.Backs a)
      (hrs : r.state = .consumed) (hunsent : j.Unsent)
      (heq : db'.tables =
        { db.tables with
          reservations := db.tables.reservations ++ [r]
          attempts := replaceRow a (a.moved .committed a.transactionId) db.tables.attempts
          openings := replaceRow o (o.erased .consumed) db.tables.openings
          inviterJoins := db.tables.inviterJoins ++ [j] })
  /-- A legacy reservation is seeded. -/
  | seed (r : ReservationRow)
      (heq : db'.tables = { db.tables with reservations := db.tables.reservations ++ [r] })
  /-- A legacy reservation is consumed by its result. -/
  | legacyCommit (j : InviterJoinRow) (r : ReservationRow) (hallowed : N.legacyJoin j)
      (hfree : ∀ o ∈ db.tables.openings,
        ¬(o.invitationId = j.invitationId ∧ o.generation = j.generation))
      (hunsent : j.Unsent)
      (heq : db'.tables =
        { db.tables with
          reservations :=
            replaceRow r { r with state := InvitationState.consumed } db.tables.reservations
          inviterJoins := db.tables.inviterJoins ++ [j] })
  /-- Results change in their outbox columns only. -/
  | outbox (f : InviterJoinRow → InviterJoinRow) (hallowed : N.delivery) (hkeys : KeepsKeys f)
      (heq : db'.tables =
        { db.tables with inviterJoins := db.tables.inviterJoins.map f })
  /-- Only MLS state, KeyPackages, joiner commits or the client identity change. -/
  | provider (hidentity : ∀ r ∈ db'.tables.clientIdentity,
        r ∈ db.tables.clientIdentity ∨ r.groupId ≠ 0)
      (heq : db'.tables =
        { db.tables with
          mlsGroups := db'.tables.mlsGroups
          mlsEpochs := db'.tables.mlsEpochs
          keyPackages := db'.tables.keyPackages
          joinerCommits := db'.tables.joinerCommits
          clientIdentity := db'.tables.clientIdentity })

def Effects (N : Admission) : Db → Db → Prop :=
  Relation.ReflTransGen (Effect policy N)

/-! ## Coherence of the tables -/

/-- What holds of the tables between transactions, beyond the declared constraints. -/
structure Coherent (t : Tables) : Prop where
  userVersion : t.userVersion = 6
  metadata : ∃ storeId : Id16, storeId ≠ 0 ∧ t.metadata = [policy.metadataRow storeId]
  identity : ∀ r ∈ t.clientIdentity, r.groupId ≠ 0
  opening_nonzero : ∀ o ∈ t.openings, o.invitationId ≠ 0 ∧ o.generation ≠ 0
  /-- The private key is kept exactly as long as the invitation can be used. -/
  key_iff : ∀ o ∈ t.openings,
    o.hpkePrivateKey ≠ 0 ↔ (o.state = .available ∨ o.state = .reserved)
  attempt_nonzero : ∀ a ∈ t.attempts, a.Nonzero
  attempt_opening : ∀ a ∈ t.attempts, ∃ o ∈ t.openings, o.Owns a ∧
    o.expiresAt = a.invitationExpiresAt
  live_reserved : ∀ a ∈ t.attempts, a.state.live = true →
    ∀ o ∈ t.openings, o.Owns a → o.state = .reserved
  reserved_live : ∀ o ∈ t.openings, o.state = .reserved →
    ∃ a ∈ t.attempts, o.Owns a ∧ a.state.live = true
  /-- At most one live attempt owns a generation. -/
  live_unique : ∀ a ∈ t.attempts, ∀ b ∈ t.attempts, a.state.live = true → b.state.live = true →
    a.invitationId = b.invitationId → a.generation = b.generation → a = b
  committed_consumed : ∀ a ∈ t.attempts, a.state = .committed →
    ∀ o ∈ t.openings, o.Owns a → o.state = .consumed
  committed_join : ∀ a ∈ t.attempts, a.state = .committed → ∃ j ∈ t.inviterJoins, j.ResultOf a
  committed_reservation : ∀ a ∈ t.attempts, a.state = .committed →
    ∃ r ∈ t.reservations, r.Backs a ∧ r.state = .consumed
  consumed_committed : ∀ o ∈ t.openings, o.state = .consumed →
    ∃ a ∈ t.attempts, o.Owns a ∧ a.state = .committed
  /-- A result for a generation that still has an opening is an authorized one. -/
  join_committed : ∀ j ∈ t.inviterJoins, ∀ o ∈ t.openings, o.invitationId = j.invitationId →
    o.generation = j.generation → ∃ a ∈ t.attempts, j.ResultOf a ∧ a.state = .committed
  opening_count : t.openings.length ≤ policy.maximumLiveInvitations
  live_count : liveAuthorizationRows t ≤ policy.maximumRetainedAttempts
  generation_count : ∀ id gen, generationAttempts t id gen ≤ policy.maximumRetainedAttempts

end SessionChat.Storage
