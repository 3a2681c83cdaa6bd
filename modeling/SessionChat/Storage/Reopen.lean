import Mathlib.Algebra.Order.BigOperators.Group.List
import Mathlib.Algebra.Order.Ring.Nat
import Mathlib.Data.List.Perm.Subperm
import SessionChat.Storage.Progress

/-!
# When a store can be opened again (`crates/storage-sqlcipher/src/schema.rs`)

On coherent tables the validator passes every query but one: it rejects an abandoned
attempt whose transaction identifier a result carries. No authorized path produces
that pair. A legacy commit can, because it is not compared with the transaction
identifiers that attempts retain.
-/

set_option autoImplicit false

namespace SessionChat.Storage

open Relational Transition Protocol Codec

variable {policy : AuthorizationPolicy} {storeId : { id : Id16 // id ≠ 0 }} {w : StoreWorld}
  {db db' : Db} {N : Admission}

/-! ## The validator on coherent tables -/

/-- No result carries the transaction identifier of an abandoned attempt. -/
def Unjoined (t : Tables) : Prop :=
  ∀ a ∈ t.attempts, a.state = .abandoned →
    ∀ j ∈ t.inviterJoins, a.transactionId ≠ some j.transactionId

namespace Coherent

section

variable (h : Coherent policy db.tables)
include h

/-- Each opening accounts for a bounded number of attempts. -/
theorem attempt_count : db.tables.attempts.length ≤ policy.maximumTotalAttempts := by
  let t := db.tables
  have hcover : t.attempts ⊆ t.openings.flatMap fun o => t.attempts.filter fun a =>
      decide (a.invitationId = o.invitationId ∧ a.generation = o.generation) := by
    intro a ha
    obtain ⟨o, ho, howns, -⟩ := h.attempt_opening a ha
    exact List.mem_flatMap.mpr ⟨o, ho, List.mem_filter.mpr
      ⟨ha, decide_eq_true ⟨howns.1.symm, howns.2.symm⟩⟩⟩
  calc t.attempts.length
      ≤ (t.openings.flatMap fun o => t.attempts.filter fun a =>
          decide (a.invitationId = o.invitationId ∧ a.generation = o.generation)).length :=
        (List.subperm_of_subset db.isValid.attempts.nodup hcover).length_le
    _ = (t.openings.map fun o => generationAttempts t o.invitationId o.generation).sum := by
        rw [List.length_flatMap]
        simp only [generationAttempts, List.countP_eq_length_filter]
    _ ≤ t.openings.length * policy.maximumRetainedAttempts := by
        have hbound := List.sum_le_card_nsmul
          (t.openings.map fun o => generationAttempts t o.invitationId o.generation)
          policy.maximumRetainedAttempts (by
            intro n hn
            obtain ⟨o, -, rfl⟩ := List.mem_map.mp hn
            exact h.generation_count _ _)
        simpa using hbound
    _ ≤ policy.maximumTotalAttempts :=
        Nat.mul_le_mul_right _ h.opening_count

theorem maximumGenerationRows_le :
    maximumGenerationRows db.tables ≤ policy.maximumRetainedAttempts := by
  unfold maximumGenerationRows
  have hall : ∀ n ∈ db.tables.attempts.map fun a =>
      generationAttempts db.tables a.invitationId a.generation,
      n ≤ policy.maximumRetainedAttempts := by
    intro n hn
    obtain ⟨a, -, rfl⟩ := List.mem_map.mp hn
    exact h.generation_count _ _
  generalize db.tables.attempts.map _ = counts at hall
  induction counts with
  | nil => exact Nat.zero_le _
  | cons n rest ih =>
    exact max_le (hall n List.mem_cons_self)
      (ih fun m hm => hall m (List.mem_cons_of_mem _ hm))

theorem valid_identity : ¬InvalidIdentityRows db.tables := by
  rintro ⟨r, hr, hzero⟩
  exact h.identity r hr hzero

theorem valid_openings : ¬InvalidOpeningRows db.tables := by
  rintro ⟨o, ho, hzero | hzero | ⟨hopen, hkey⟩ | ⟨hclosed, hkey⟩⟩
  · exact (h.opening_nonzero o ho).1 hzero
  · exact (h.opening_nonzero o ho).2 hzero
  · exact (h.key_iff o ho).mpr hopen hkey
  · have hopen := (h.key_iff o ho).mp hkey
    rcases hclosed with hclosed | hclosed <;> simp [hclosed] at hopen

theorem valid_authorizations : ¬InvalidAuthorizationRows db.tables := by
  rintro ⟨a, ha, hbad⟩
  have hnonzero := h.attempt_nonzero a ha
  obtain ⟨o, ho, howns, hexpires⟩ := h.attempt_opening a ha
  rcases hbad with hnone | hzero | hzero | hzero | hzero | hzero | hzero | hzero | hzero | hzero |
    hzero | hzero | ⟨o', ho', howns', hother⟩ | hzero
  · exact hnone o ho howns
  · exact hnonzero.attemptId hzero
  · exact hnonzero.invitationId hzero
  · exact hnonzero.generation hzero
  · exact hnonzero.invitationChallenge hzero
  · exact hnonzero.joinRequestId hzero
  · exact hnonzero.requestNonce hzero
  · exact hnonzero.intendedVerifier hzero
  · exact hnonzero.keyPackageReference hzero
  · exact hnonzero.credentialIdentity hzero
  · exact hnonzero.leafSignatureKey hzero
  · exact hnonzero.requestFingerprint hzero
  · obtain rfl := OpeningRow.Owns.unique db.isValid ho ho' howns howns'
    exact hother hexpires.symm
  · exact hnonzero.transactionId hzero

theorem valid_ownership : ¬InvalidAuthorizationOwnership db.tables := by
  rintro ⟨o, ho, ⟨hreserved, hcount⟩ | ⟨hfree, a, ha, howns, hlive⟩⟩
  · exact hcount ((h.reserved_iff ho).mp hreserved)
  · exact hfree (h.live_reserved a ha hlive o ho howns)

theorem valid_committed : ¬InvalidCommittedAuthorizations db.tables := by
  rintro ⟨a, ha, hstate, hnone | ⟨o, ho, howns, hother⟩ | hnojoin | hnores | ⟨r, hr, hbacks,
    hother⟩⟩
  · obtain ⟨o, ho, howns, -⟩ := h.attempt_opening a ha
    exact hnone o ho howns
  · exact hother (h.committed_consumed a ha hstate o ho howns)
  · obtain ⟨j, hj, hresult⟩ := h.committed_join a ha hstate
    exact hnojoin j hj hresult
  · obtain ⟨r, hr, hbacks, -⟩ := h.committed_reservation a ha hstate
    exact hnores r hr hbacks
  · obtain ⟨r', hr', hbacks', hconsumed⟩ := h.committed_reservation a ha hstate
    obtain rfl := db.isValid.reservation_eq hr hr' (hbacks.1.trans hbacks'.1.symm)
    exact hother hconsumed

theorem valid_results : ¬InvalidOpeningOwnedResults db.tables := by
  rintro ⟨j, hj, ⟨o, ho, hid, hgen⟩, hnone⟩
  obtain ⟨a, ha, hresult, hstate⟩ := h.join_committed j hj o ho hid hgen
  exact hnone a ha ⟨hresult, hstate⟩

theorem valid_consumed : ¬InvalidConsumedOpenings db.tables := by
  rintro ⟨o, ho, hstate, hnone⟩
  obtain ⟨a, ha, howns, hcommitted⟩ := h.consumed_committed o ho hstate
  exact hnone a ha ⟨howns, hcommitted⟩

/-- The one query that coherence does not answer. -/
theorem validateSchemaV6_iff : validateSchemaV6 policy db.tables = .ok () ↔ Unjoined db.tables := by
  obtain ⟨storeId, hne, hmetadata⟩ := h.metadata
  have hbounds : ¬(policy.maximumLiveInvitations < db.tables.openings.length ∨
      policy.maximumTotalAttempts < db.tables.attempts.length ∨
      policy.maximumRetainedAttempts < liveAuthorizationRows db.tables ∨
      policy.maximumRetainedAttempts < maximumGenerationRows db.tables) := by
    have := h.opening_count
    have := h.attempt_count
    have := h.live_count
    have := h.maximumGenerationRows_le
    omega
  simp only [validateSchemaV6, hmetadata]
  rw [if_neg (by simpa [h.userVersion, AuthorizationPolicy.metadataRow] using hne),
    if_neg (by simp [AuthorizationPolicy.metadataRow]), if_neg h.valid_identity,
    if_neg h.valid_openings, if_neg hbounds, if_neg h.valid_authorizations,
    if_neg h.valid_ownership]
  constructor
  · intro hok a ha hstate j hj htx
    rw [if_pos (.inr (.inl ⟨a, ha, hstate, j, hj, htx⟩))] at hok
    cases hok
  · intro hunjoined
    rw [if_neg]
    rintro (hbad | ⟨a, ha, hstate, j, hj, htx⟩ | hbad | hbad)
    · exact h.valid_committed hbad
    · exact hunjoined a ha hstate j hj htx
    · exact h.valid_results hbad
    · exact h.valid_consumed hbad

end

end Coherent

/-! ## What keeps abandoned attempts apart from results -/

/-- An effect can only join an abandoned attempt by a legacy result. -/
theorem Unjoined.effect (hu : Unjoined db.tables) (he : Effect policy N db db')
    (hlegacy : ∀ j, N.legacyJoin j → ∀ a ∈ db.tables.attempts, a.state = .abandoned →
      a.transactionId ≠ some j.transactionId) : Unjoined db'.tables := by
  intro a' ha' hstate j' hj'
  cases he with
  | compact now hfree heq =>
    rw [heq] at ha' hj'
    exact hu a' (List.mem_of_mem_filter ha') hstate j' hj'
  | issue _ _ _ _ _ _ _ _ heq | terminalize _ _ _ heq | seed _ heq | provider _ heq =>
    rw [heq] at ha' hj'
    exact hu a' ha' hstate j' hj'
  | reserve a o _ _ _ _ _ hpending _ _ _ heq =>
    rw [heq] at ha' hj'
    obtain ha' | ha' := List.mem_append.mp ha'
    · exact hu a' ha' hstate j' hj'
    · rw [List.mem_singleton.mp ha', hpending] at hstate
      cases hstate
  | advance a s tx ha hlive hs _ heq =>
    rw [heq] at ha' hj'
    obtain ⟨-, rfl⟩ | ⟨ha', -⟩ := mem_replaceRow.mp ha'
    · rw [show s = .abandoned from hstate] at hs
      cases hs
    · exact hu a' ha' hstate j' hj'
  | settle a o o' s ha _ _ _ _ hfree _ heq =>
    rw [heq] at ha' hj'
    obtain ⟨-, rfl⟩ | ⟨ha', -⟩ := mem_replaceRow.mp ha'
    · exact hfree j' hj'
    · exact hu a' ha' hstate j' hj'
  | commit a o j r ha _ _ hlive hj _ _ _ heq =>
    rw [heq] at ha' hj'
    obtain ⟨-, rfl⟩ | ⟨ha', -⟩ := mem_replaceRow.mp ha'
    · cases hstate
    · obtain hj' | hj' := List.mem_append.mp hj'
      · exact hu a' ha' hstate j' hj'
      · -- the new result carries the identifier of the committed attempt alone
        rw [List.mem_singleton.mp hj']
        intro htx
        obtain rfl := db.isValid.attempt_eq_of_transaction ha' ha htx hj.1
        rw [hstate] at hlive
        cases hlive
  | legacyCommit j r hallowed _ _ heq =>
    rw [heq] at ha' hj'
    obtain hj' | hj' := List.mem_append.mp hj'
    · exact hu a' ha' hstate j' hj'
    · rw [List.mem_singleton.mp hj']
      exact hlegacy j hallowed a' ha' hstate
  | outbox f _ hkeys heq =>
    rw [heq] at ha' hj'
    obtain ⟨j, hj, rfl⟩ := List.mem_map.mp hj'
    rw [(hkeys j).1]
    exact hu a' ha' hstate j hj

/-- Without legacy results nothing is joined. -/
theorem Unjoined.effects (h : Coherent policy db.tables) (hu : Unjoined db.tables)
    (he : Effects policy N db db') (hlegacy : ∀ j, ¬N.legacyJoin j) : Unjoined db'.tables :=
  h.keeps (P := fun db => Unjoined db.tables) he
    (fun _ _ _ hstep hdb => hdb.effect hstep fun j hj => absurd hj (hlegacy j)) hu

/-- The write of a legacy transaction changes nothing or is a legacy commit of it. -/
theorem write_legacy (self : SqlCipherStorage) {s : Scope} (h : Coherent policy db.tables)
    {staged : StagedInviter} (hstaged : s.stagedInviter = some staged)
    (hauth : staged.authorization = none) (state : GroupState)
    (inserts updates : List EpochRecord) (elapsed : Nat) (observer : Option FaultObserver) :
    (self.write state inserts updates elapsed observer s db).db = db ∨
      ∃ commit r db₁, commit.transactionId = staged.transaction.transactionId ∧
        LegacyCommit commit state inserts updates r db db₁
          (self.write state inserts updates elapsed observer s db).db := by
  unfold SqlCipherStorage.write
  split
  · exact .inl rfl
  · simp only [hstaged]
    obtain ⟨-, commit, hbound, ⟨auth, _, _, _, hsome, -⟩ | ⟨r, db₁, -, hcommit⟩⟩ | ⟨hsame, -⟩ :=
      commitInviter_cases h self.busy staged state inserts updates elapsed observer rfl
    · simp [hauth] at hsome
    · exact .inr ⟨commit, r, db₁, boundTransaction_transactionId hbound, hcommit⟩
    · exact .inl hsame

theorem Unjoined.legacyCommit {commit : InviterJoinTransaction} {state : GroupState}
    {inserts updates : List EpochRecord} {r : ReservationRow} {db₁ : Db}
    (hu : Unjoined db.tables) (hcommit : LegacyCommit commit state inserts updates r db db₁ db')
    (hapart : ∀ a ∈ db.tables.attempts, a.state = .abandoned →
      a.transactionId ≠ some commit.transactionId) : Unjoined db'.tables := by
  intro a ha hstate j hj
  rw [hcommit.tables, hcommit.snapshot] at ha hj
  obtain hj | hj := List.mem_append.mp hj
  · exact hu a ha hstate j hj
  · rw [List.mem_singleton.mp hj]
    exact hapart a ha hstate

/-! ## Runs -/

/-- A legacy transaction is not written under a transaction identifier that an
abandoned attempt retains. -/
def Call.Apart (st : Store) : Call → Prop
  | .perform i (.write ..) => ∀ s staged, st.scopes i = some s → s.stagedInviter = some staged →
      staged.authorization = none → ∀ a ∈ st.db.tables.attempts, a.state = .abandoned →
        a.transactionId ≠ some staged.transaction.transactionId
  | _ => True

theorem Unjoined.step {st : Store} (h : st.Sound policy) (hu : Unjoined st.db.tables) {c : Call}
    (hfresh : c.Fresh st.db) (hapart : c.Apart st) : Unjoined (st.step policy c).1.db.tables := by
  by_cases hlegacy : ∃ j, (c.admission st (st.step policy c).2).legacyJoin j
  · obtain ⟨j, hj⟩ := hlegacy
    obtain ⟨i, s, staged, state, inserts, updates, elapsed, observer, rfl, hs, hstaged, hauth,
      -⟩ := Call.admission_legacyJoin hj
    have hstep : (st.step policy (.perform i (.write state inserts updates elapsed
        observer))).1.db =
        ((st.handle policy i).write state inserts updates elapsed observer s st.db).db := by
      simp [Store.step, hs, Store.settle, Operation.run, Answer.toOutcome]
    rw [hstep]
    obtain hsame | ⟨commit, r, db₁, htx, hcommit⟩ := write_legacy (st.handle policy i)
      h.coherent hstaged hauth state inserts updates elapsed observer
    · rw [hsame]
      exact hu
    · refine hu.legacyCommit hcommit ?_
      rw [htx]
      exact hapart s staged hs hstaged hauth
  · exact hu.effects h.coherent (Store.step_effects h hfresh) fun j hj => hlegacy ⟨j, hj⟩

/-- In every run in which no legacy transaction is written under the transaction
identifier of an abandoned attempt, every state passes the validator. -/
theorem validates_when_apart
    (h : Leads (Store.step policy) (fun w c => c.Fresh w.state.db ∧ c.Apart w.state)
      (StoreWorld.created policy storeId) w) :
    validateSchemaV6 policy w.state.db.tables = .ok () := by
  have hkept : w.state.Sound policy ∧ Unjoined w.state.db.tables := by
    refine h.invariant (I := fun w => w.state.Sound policy ∧ Unjoined w.state.db.tables) ?_ ?_
    · rintro v c ⟨hfresh, hapart⟩ ⟨hsound, hunjoined⟩
      exact ⟨hsound.step hfresh, hunjoined.step hsound hfresh hapart⟩
    · refine ⟨.created policy storeId, ?_⟩
      intro a ha
      cases ha
  exact hkept.1.coherent.validateSchemaV6_iff.mpr hkept.2

/-! ## A legacy result under the identifier of an abandoned attempt -/

/-- A legacy transaction for an invitation the store never issued. -/
def legacyTransaction (transactionId : Id16) : InviterJoinTransaction where
  transactionId := transactionId
  invitationId := 3
  invitationGeneration := 3
  joinRequestId := 3
  requestFingerprint := 3
  groupId := 1
  epochBefore := 0
  epochAfter := 1
  approvalRecord := [0]
  welcome := (OpaqueEnvelope.mk 1 50 [0]).encodeFields
  boundWelcome := none
  endpoint := (LocalWelcomeDepositEndpoint.mk 1 1 1 100).encodeFields
  outboxExpiresAt := 40

/-- Seed, stage and write a legacy transaction in scope one. -/
def legacyCalls (transactionId : Id16) : List Call :=
  [.perform 1 (.seedReservation 3 3 3 30 7),
   .perform 1 (.stageInviter (legacyTransaction transactionId) 8 .none),
   .perform 1 (.write ⟨fixedBytes 32 1, [0]⟩ [] [] 0 none)]

/-- The membership transaction 77 is lost in a restart and abandoned by recovery. -/
def abandonRun : List Call :=
  beginMembershipRun ++ [.restart, .perform 1 (.recoverOutcome 9 77 (.only firstInvitation) 6)]

/-- The recovery succeeds, a legacy commit reuses the identifier, and the store cannot be
opened again. -/
theorem reused_identifier_blocks_open :
    let w := sampleStore.afterAll (Store.step .phaseOne) (abandonRun ++ legacyCalls 77)
    Reachable .phaseOne ⟨7, by decide⟩ w ∧
      validateSchemaV6 .phaseOne w.state.db.tables = .error .rejected ∧
      (w.state.step .phaseOne .restart).2.storeError? = some .rejected := by
  refine ⟨?_, by decide +kernel, by decide +kernel⟩
  refine leads_afterAll ⟨?_, trivial, trivial, trivial, trivial, trivial, trivial, trivial, trivial,
    trivial⟩
  intro generated _ j hj
  cases hj

/-- The sample store with a legacy transaction staged after the abandonment. -/
def stagedWorld (transactionId : Id16) : StoreWorld :=
  sampleStore.afterAll (Store.step .phaseOne) (abandonRun ++ (legacyCalls transactionId).take 2)

theorem stagedWorld_apart :
    Call.Apart (stagedWorld 78).state
      (.perform 1 (.write ⟨fixedBytes 32 1, [0]⟩ [] [] 0 none)) := by
  intro s staged hs hstaged _ a ha _
  have hid : (((stagedWorld 78).state.scopes 1).bind (·.stagedInviter)).map
      (·.transaction.transactionId) = some 78 := by decide +kernel
  have hother : ∀ a ∈ (stagedWorld 78).state.db.tables.attempts,
      a.transactionId ≠ some 78 := by decide +kernel
  simp only [hs, Option.bind_some, hstaged, Option.map_some] at hid
  rw [hid]
  exact hother a ha

/-- Under another identifier the same run can be reopened. -/
theorem validates_when_apart_distinct :
    validateSchemaV6 .phaseOne (sampleStore.afterAll (Store.step .phaseOne)
      (abandonRun ++ legacyCalls 78)).state.db.tables = .ok () := by
  have hrun : sampleStore.Admits (Store.step .phaseOne)
      (fun w c => c.Fresh w.state.db ∧ c.Apart w.state) (abandonRun ++ legacyCalls 78) := by
    refine ⟨⟨?_, trivial⟩, ⟨trivial, trivial⟩, ⟨trivial, trivial⟩, ⟨trivial, trivial⟩,
      ⟨trivial, trivial⟩, ⟨trivial, trivial⟩, ⟨trivial, trivial⟩, ⟨trivial, trivial⟩,
      ⟨trivial, stagedWorld_apart⟩, trivial⟩
    intro generated _ j hj
    cases hj
  exact validates_when_apart (leads_afterAll hrun)

end SessionChat.Storage
