import SessionChat.Storage.Reachable

/-!
# The authorization lifecycle along every run (`crates/storage-sqlcipher/src/authorization.rs`)

In every world that calls on a new store can reach, whatever the clock reads, an
invitation, its attempts, its result and its reservation agree.
-/

set_option autoImplicit false

namespace SessionChat.Storage

open Relational Transition Protocol Codec

variable {policy : AuthorizationPolicy} {storeId : { id : Id16 // id ≠ 0 }} {w : StoreWorld}

/-- After every call: an opening is reserved exactly when one live attempt owns it, and
keeps its private key exactly while it can be used; every attempt has its opening; and
everything a committed attempt stands for is there. -/
theorem lifecycle_agrees (h : Reachable policy storeId w) : (∀ o ∈ w.state.db.tables.openings,
        (o.state = .reserved ↔ (liveAttempts w.state.db.tables o).length = 1) ∧
        (o.hpkePrivateKey ≠ 0 ↔ (o.state = .available ∨ o.state = .reserved))) ∧
      (∀ a ∈ w.state.db.tables.attempts, ∃ o ∈ w.state.db.tables.openings,
        o.Owns a ∧ o.expiresAt = a.invitationExpiresAt) ∧
      ∀ a ∈ w.state.db.tables.attempts, a.state = .committed →
        (∃ o ∈ w.state.db.tables.openings, o.Owns a ∧ o.state = .consumed) ∧
        (∃ j ∈ w.state.db.tables.inviterJoins, j.ResultOf a) ∧
        ∃ r ∈ w.state.db.tables.reservations, r.Backs a ∧ r.state = .consumed := by
  have hcoherent := h.sound.coherent
  refine ⟨fun o ho => ⟨hcoherent.reserved_iff ho, hcoherent.key_iff o ho⟩,
    hcoherent.attempt_opening, fun a ha hstate => ⟨?_, ?_, ?_⟩⟩
  · obtain ⟨o, ho, howns, -⟩ := hcoherent.attempt_opening a ha
    exact ⟨o, ho, howns, hcoherent.committed_consumed a ha hstate o ho howns⟩
  · exact hcoherent.committed_join a ha hstate
  · exact hcoherent.committed_reservation a ha hstate

/-! ## A run on one invitation -/

/-- An invitation with a one-byte encoding. -/
def sampleInvitation (id : { id : Id16 // id ≠ 0 }) (generation : { g : Generation // g ≠ 0 })
    (expiresAt : Nat) : GeneratedCapabilityInvitationV2 where
  invitation :=
    { invitationId := id
      signature := generation
      joinChallenge := 1
      inviterVerifyingKey := 1
      issuedAtUnixSeconds := 1
      expiresAtUnixSeconds := expiresAt
      canonical := [0]
      invitationId_ne_zero := id.2
      signature_ne_zero := generation.2
      canonical_pos := by decide
      canonical_le := by decide }
  privateKey := ⟨1, by decide⟩

/-- A protector that knows one invitation only. -/
def InvitationJoinProtector.only (generated : GeneratedCapabilityInvitationV2) :
    InvitationJoinProtector where
  generateCapabilityInvitation _ _ := some generated
  restoreCapabilityInvitation _ _ := some generated

/-- A request for an invitation, told apart by its identifier and fingerprint. -/
def sampleRequest (id : { id : Id16 // id ≠ 0 }) (generation : { g : Generation // g ≠ 0 })
    (request : { id : Id16 // id ≠ 0 }) (fingerprint : { f : Bytes32 // f ≠ 0 }) :
    AuthorizationShadowInput where
  invitationId := id
  invitationGeneration := generation
  invitationChallenge := 1
  joinRequestId := request
  requestNonce := fingerprint
  intendedVerifier := 1
  keyPackageReference := 1
  credentialIdentity := 1
  leafSignatureKey := 1
  requestFingerprint := fingerprint
  requestIssuedAt := 1
  requestExpiresAt := 10
  invitationExpiresAt := 10
  nonzero := ⟨id.2, generation.2, by decide, request.2, fingerprint.2, by decide, by decide,
    by decide, by decide, fingerprint.2⟩
  times := by decide

/-- The invitation of the sample runs, which expires at ten. -/
def firstInvitation : GeneratedCapabilityInvitationV2 :=
  sampleInvitation ⟨1, by decide⟩ ⟨1, by decide +kernel⟩ 10

def firstRequest : AuthorizationShadowInput :=
  sampleRequest ⟨1, by decide⟩ ⟨1, by decide +kernel⟩ ⟨5, by decide⟩ ⟨5, by decide +kernel⟩

/-- The handle of the attempt with identifier nine in scope zero of store seven. -/
def firstHandle : AuthorizationHandle where
  openScope := 0
  storeId := 7
  attemptId := 9
  invitationId := 1
  invitationGeneration := 1

def sampleStore : StoreWorld :=
  StoreWorld.created .phaseOne ⟨7, by decide⟩

/-- Issue, reserve and approve, then begin membership under transaction 77. -/
def beginMembershipRun : List Call :=
  [.perform 0 (.issue (.only firstInvitation) 1 10 2),
   .perform 0 (.reserve (.only firstInvitation) firstRequest 3 fun _ => 9),
   .perform 0 (.approve ⟨firstHandle⟩ (.only firstInvitation) 4),
   .perform 0 (.beginMembership ⟨firstHandle⟩ 77 (.only firstInvitation) 5)]

/-- On a run whose first call alone draws an invitation, freshness is immediate. -/
theorem beginMembershipRun_admitted (more : List Call) (hmore : ∀ v : StoreWorld,
      v.Admits (Store.step .phaseOne) (fun w c => c.Fresh w.state.db) more) :
    sampleStore.Admits (Store.step .phaseOne) (fun w c => c.Fresh w.state.db)
      (beginMembershipRun ++ more) := by
  refine ⟨?_, trivial, trivial, trivial, hmore _⟩
  intro generated _ j hj
  cases hj

theorem begun_reachable : Reachable .phaseOne ⟨7, by decide⟩
    (sampleStore.afterAll (Store.step .phaseOne) beginMembershipRun) :=
  leads_afterAll (beginMembershipRun_admitted [] fun _ => trivial)

theorem lifecycle_agrees_begun :
    let w := sampleStore.afterAll (Store.step .phaseOne) beginMembershipRun
    ∃ o ∈ w.state.db.tables.openings, o.state = .reserved ∧
      (liveAttempts w.state.db.tables o).length = 1 := by
  intro w
  have h := lifecycle_agrees (w := w) begun_reachable
  have hreserved : ∃ o ∈ w.state.db.tables.openings, o.state = .reserved := by decide +kernel
  obtain ⟨o, ho, hstate⟩ := hreserved
  exact ⟨o, ho, hstate, (h.1 o ho).1.mp hstate⟩

/-! ## Results and bounds -/

/-- An invitation is consumed exactly when its generation has a result. -/
theorem consumed_iff_joined (h : Reachable policy storeId w) {o : OpeningRow}
    (ho : o ∈ w.state.db.tables.openings) :
    o.state = .consumed ↔ ∃ j ∈ w.state.db.tables.inviterJoins,
      o.invitationId = j.invitationId ∧ o.generation = j.generation := by
  have hcoherent := h.sound.coherent
  constructor
  · intro hconsumed
    obtain ⟨a, ha, howns, hcommitted⟩ := hcoherent.consumed_committed o ho hconsumed
    obtain ⟨j, hj, -, hid, hgeneration, -⟩ := hcoherent.committed_join a ha hcommitted
    exact ⟨j, hj, howns.1.trans hid.symm, howns.2.trans hgeneration.symm⟩
  · rintro ⟨j, hj, hid, hgeneration⟩
    obtain ⟨a, ha, hresult, hcommitted⟩ := hcoherent.join_committed j hj o ho hid hgeneration
    exact hcoherent.committed_consumed a ha hcommitted o ho
      ⟨hid.trans hresult.2.1, hgeneration.trans hresult.2.2.1⟩

/-- The Add of the first request, with provider checks that always pass. -/
def firstAddition : CommittedAdditionStorageBinding where
  groupId := 2
  epochBefore := 0
  epochAfter := 1
  keyPackageReference := 1
  credentialIdentity := 1
  leafSignatureKey := 1
  welcomeForCurrentProviderWrite _ _ _ := some [0]
  authorizesCurrentProviderWrite _ _ _ := true

/-- The membership transaction of the first request. -/
def firstTransaction : InviterJoinTransaction where
  transactionId := 77
  invitationId := 1
  invitationGeneration := 1
  joinRequestId := 5
  requestFingerprint := 5
  groupId := 2
  epochBefore := 0
  epochAfter := 1
  approvalRecord := [0]
  welcome := []
  boundWelcome := some ⟨1, 50⟩
  endpoint := (LocalWelcomeDepositEndpoint.mk 1 1 1 100).encodeFields
  outboxExpiresAt := 40

/-- The transaction of the first attempt, staged under its authorization. -/
def stageAs (tx : InviterJoinTransaction) : Call :=
  .perform 0 (.stageAuthorizedInviter ⟨0, 7, 9, 77⟩ firstAddition tx 9 .none)

def writeFirst : Call :=
  .perform 0 (.write ⟨fixedBytes 32 2, [0]⟩ [] [] 0 none)

/-- The write commits, and the invitation is consumed with its result. -/
theorem consumed_iff_joined_written :
    let t := (sampleStore.afterAll (Store.step .phaseOne) (beginMembershipRun ++
      [stageAs firstTransaction, writeFirst])).state.db.tables
    ∃ o ∈ t.openings, o.state = .consumed ∧ ∃ j ∈ t.inviterJoins,
      o.invitationId = j.invitationId ∧ o.generation = j.generation := by
  intro t
  have hreachable : Reachable .phaseOne ⟨7, by decide⟩ (sampleStore.afterAll (Store.step .phaseOne)
      (beginMembershipRun ++ [stageAs firstTransaction, writeFirst])) :=
    leads_afterAll (beginMembershipRun_admitted _ fun _ => ⟨trivial, trivial, trivial⟩)
  obtain ⟨o, ho, hconsumed⟩ : ∃ o ∈ t.openings, o.state = .consumed := by decide +kernel
  exact ⟨o, ho, hconsumed, (consumed_iff_joined hreachable ho).mp hconsumed⟩

/-- Invitations, live attempts and the attempts of each generation stay within the policy. -/
theorem retention_bounded (h : Reachable policy storeId w) :
    w.state.db.tables.openings.length ≤ policy.maximumLiveInvitations ∧
      liveAuthorizationRows w.state.db.tables ≤ policy.maximumRetainedAttempts ∧
      ∀ id generation, generationAttempts w.state.db.tables id generation ≤
        policy.maximumRetainedAttempts :=
  have hcoherent := h.sound.coherent
  ⟨hcoherent.opening_count, hcoherent.live_count, hcoherent.generation_count⟩

theorem retention_bounded_begun :
    liveAuthorizationRows (sampleStore.afterAll (Store.step .phaseOne)
      beginMembershipRun).state.db.tables ≤ AuthorizationPolicy.phaseOne.maximumRetainedAttempts :=
  (retention_bounded begun_reachable).2.1

end SessionChat.Storage
