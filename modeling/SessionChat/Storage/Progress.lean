import SessionChat.Storage.SingleUse

/-!
# When issue and reserve are served (`crates/storage-sqlcipher/src/authorization.rs`)

Issue and reserve run the expiry compaction of the whole store first. It deletes the expired
terminal attempts of a reserved opening and erases that opening, and the foreign key then keeps
its live attempt from being left behind. So one expired invitation with a terminal attempt beside
its live one stops every issue and every reservation, and nothing else does (`Compactable`).
-/

set_option autoImplicit false

namespace SessionChat.Storage

open Relational Transition

variable {policy : AuthorizationPolicy} {storeId : { id : Id16 // id ≠ 0 }} {w : StoreWorld}
  {self : SqlCipherStorage} {s : Scope} {db : Db}

/-- The scope can take the write lock. -/
structure CanWrite (storage : SqlCipherStorage) (s : Scope) : Prop where
  idle : s.pendingJoiner = none
  free : storage.busy = false

/-- A method whose body commits a success returns what its conclusion builds. -/
theorem perform_of_run {ε α β : Type} {engine : ε} {body : Tx storeSchema ε (Except ε α)}
    {done : α → Except ε β × Scope} {a : α} {db' : Db} (hwrite : CanWrite self s)
    (hrun : body.run db = .ok (.ok a, db')) :
    self.perform engine s db body done = ⟨(done a).1, (done a).2, db'⟩ := by
  simp [SqlCipherStorage.perform, hwrite.idle, hwrite.free, transaction_of_run hrun]

/-! ## Issue -/

/-- A caller that asks for a new invitation within the limits of the store. -/
structure IssueReady (policy : AuthorizationPolicy) (protector : InvitationJoinProtector)
    (issuedAt expiresAt now : Nat) (generated : GeneratedCapabilityInvitationV2) (db : Db) :
    Prop where
  issuedAt_pos : 0 < issuedAt
  issuedAt_le : issuedAt ≤ now
  expiresAt_gt : now < expiresAt
  expiresAt_le : expiresAt ≤ i64Max
  drawn : protector.generateCapabilityInvitation issuedAt expiresAt = some generated
  fresh : ∀ o ∈ db.tables.openings, o.invitationId ≠ generated.invitation.invitationId ∧
    o.generation ≠ generated.invitation.signature
  /-- Capacity is counted without what has expired. -/
  room : (db.tables.compacted now).openings.length < policy.maximumLiveInvitations

variable {protector : InvitationJoinProtector} {issuedAt expiresAt now : Nat}
  {generated : GeneratedCapabilityInvitationV2}

theorem persistOpeningContext_succeeds (h : Coherent policy db.tables)
    (hfree : db.tables.Compactable now)
    (hready : IssueReady policy protector issuedAt expiresAt now generated db) :
    ∃ db', (persistOpeningContext policy generated issuedAt expiresAt now).run db =
      .ok (.ok (), db') := by
  obtain ⟨db₁, hcompact, htables⟩ := exists_run_compact h hfree
  have hvalid := Db.isValid db₁
  let opening : OpeningRow :=
    { invitationId := generated.invitation.invitationId
      generation := generated.invitation.signature
      signedInvitation := generated.invitation.canonical
      hpkePrivateKey := generated.privateKey
      issuedAt := issuedAt
      expiresAt := expiresAt
      state := .available }
  have hinsert : Tables.Valid
      { db₁.tables with openings := db₁.tables.openings ++ [opening] } := by
    refine { hvalid with
      openings := TableConstraints.hold_append_singleton.mpr ⟨hvalid.openings, ?_, ?_⟩
      attempt_reference := ?_ }
    · simp only [openingConstraints, decide_eq_true_eq]
      exact ⟨generated.invitation.canonical_pos, generated.invitation.canonical_le,
        hready.issuedAt_pos, lt_of_le_of_lt hready.issuedAt_le hready.expiresAt_gt⟩
    · intro o ho
      rw [htables] at ho
      obtain ⟨hid, hgen⟩ := hready.fresh o (List.mem_of_mem_filter ho)
      simp [openingConstraints, opening, hid, hgen]
    · intro a ha
      obtain ⟨o, ho, hid⟩ := hvalid.attempt_reference a ha
      exact ⟨o, List.mem_append_left _ ho, hid⟩
  obtain ⟨db₂, hinserted⟩ : ∃ db₂ : Db, db₂.tables =
      { db₁.tables with openings := db₁.tables.openings ++ [opening] } := ⟨⟨_, hinsert⟩, rfl⟩
  refine ⟨db₂, ?_⟩
  simp only [persistOpeningContext, run_bind_eq_ok, run_select_eq_ok, run_refuse_eq_ok,
    run_insertInto_eq_ok, run_pure_eq_ok]
  refine ⟨(), db₁, hcompact, _, db₁, ⟨rfl, rfl⟩, (), db₁, ⟨?_, rfl⟩, (), db₂, hinserted,
    trivial, rfl⟩
  rw [htables]
  exact Nat.not_le.mpr hready.room

theorem issueCapabilityInvitation_succeeds (self : SqlCipherStorage)
    (h : Coherent self.authorizationPolicy db.tables) (hwrite : CanWrite self s)
    (hfree : db.tables.Compactable now)
    (hready : IssueReady self.authorizationPolicy protector issuedAt expiresAt now generated db) :
    (self.issueCapabilityInvitation protector issuedAt expiresAt now s db).reply =
      .ok generated := by
  obtain ⟨db', hrun⟩ := persistOpeningContext_succeeds h hfree hready
  have hguard : ¬(issuedAt = 0 ∨ now < issuedAt ∨ expiresAt ≤ now ∨ i64Max < expiresAt ∨
      i64Max < now) := by
    have := hready.issuedAt_pos
    have := hready.issuedAt_le
    have := hready.expiresAt_gt
    have := hready.expiresAt_le
    omega
  simp only [SqlCipherStorage.issueCapabilityInvitation, if_neg hguard, hready.drawn,
    perform_of_run hwrite hrun]

/-! ## Reserve -/

/-- A caller that presents a new request for an available invitation within the limits
of the store. -/
structure ReserveReady (policy : AuthorizationPolicy) (protector : InvitationJoinProtector)
    (input : AuthorizationShadowInput) (now : Nat) (draws : Fin 4 → Id16) (attemptId : Id16)
    (o : OpeningRow) (restored : GeneratedCapabilityInvitationV2) (s : Scope) (db : Db) :
    Prop where
  now_le : now ≤ i64Max
  issued : input.requestIssuedAt ≤ now
  unexpired : now < input.requestExpiresAt
  mem : o ∈ db.tables.openings
  owns : o.Owns (input.attemptRow attemptId)
  available : o.state = .available
  expires : o.expiresAt = input.invitationExpiresAt
  restores : (storedInvitationPrivateKey o.hpkePrivateKey).bind
    (protector.restoreCapabilityInvitation o.signedInvitation) = some restored
  names : input.Names restored.invitation
  not_replayed : ¬replayed db.tables.attempts input now
  drawn : randomNonzeroIdentifier draws = some attemptId
  fresh : ∀ a ∈ db.tables.attempts, a.attemptId ≠ attemptId
  scope_room : s.livePreMembershipAttempts.length < policy.maximumRetainedAttempts
  live_room : liveAuthorizationRows (db.tables.compacted now) < policy.maximumRetainedAttempts
  generation_room : generationAttempts (db.tables.compacted now) input.invitationId
    input.invitationGeneration < policy.maximumRetainedAttempts

section Reserve

variable {protector : InvitationJoinProtector} {input : AuthorizationShadowInput} {now : Nat}
  {draws : Fin 4 → Id16} {attemptId : Id16} {o : OpeningRow}
  {restored : GeneratedCapabilityInvitationV2}

/-- A request that is no replay shares no key with a retained attempt. -/
theorem ReserveReady.no_clash (h : Coherent policy db.tables)
    (hready : ReserveReady policy protector input now draws attemptId o restored s db) :
    ∀ a ∈ db.tables.attempts, attemptConstraints.clash a (input.attemptRow attemptId) = false := by
  intro a ha
  have hfresh := hready.fresh a ha
  have hshared : ¬(a.generation = input.invitationGeneration ∧
      (a.joinRequestId = input.joinRequestId ∨ a.requestNonce = input.requestNonce ∨
        a.requestFingerprint = input.requestFingerprint)) := by
    rintro ⟨hgen, hkey⟩
    -- the attempt expires with the opening the request asks for, so it still counts
    obtain ⟨o', ho', howns, hexpires⟩ := h.attempt_opening a ha
    obtain rfl := db.isValid.opening_eq_of_generation ho' hready.mem
      (howns.2.trans (hgen.trans hready.owns.2.symm))
    have hlater : now < a.invitationExpiresAt := by
      have := hready.unexpired
      have := input.times.2.2.1
      rw [← hexpires, hready.expires]
      omega
    exact hready.not_replayed ⟨a, ha, hgen, hlater, hkey⟩
  simp only [attemptConstraints, decide_eq_false_iff_not]
  rintro (hid | ⟨-, -, hsome⟩ | hkey)
  · exact hfresh hid
  · simp [AuthorizationShadowInput.attemptRow] at hsome
  · exact hshared hkey

theorem storeIdOn_run {row : MetadataRow} (hmetadata : db.tables.metadata = [row])
    (hne : row.storeId ≠ 0) : storeIdOn.run db = .ok (row.storeId, db) := by
  simp only [storeIdOn, run_bind_eq_ok, run_select_eq_ok, run_require_eq_ok, run_refuse_eq_ok,
    run_pure_eq_ok]
  refine ⟨_, db, ⟨rfl, rfl⟩, row, db, ⟨?_, rfl⟩, (), db, ⟨hne, rfl⟩, rfl, rfl⟩
  rw [hmetadata]
  rfl

/-- The writes of a reservation succeed on an available opening. -/
theorem insertReservation_succeeds (h : Coherent policy db.tables)
    (hdrawn : randomNonzeroIdentifier draws = some attemptId) (hmem : o ∈ db.tables.openings)
    (howns : o.Owns (input.attemptRow attemptId)) (havailable : o.state = .available)
    (hclash : ∀ a ∈ db.tables.attempts,
      attemptConstraints.clash a (input.attemptRow attemptId) = false) :
    ∃ storeId db', (insertReservation input draws).run db =
      .ok (.ok (attemptId, storeId), db') := by
  have hvalid := db.isValid
  obtain ⟨db₁, hinserted⟩ : ∃ db₁ : Db, db₁.tables =
      { db.tables with attempts := db.tables.attempts ++ [input.attemptRow attemptId] } := by
    refine ⟨⟨_, ?_⟩, rfl⟩
    refine { hvalid with
      attempts := TableConstraints.hold_append_singleton.mpr ⟨hvalid.attempts, ?_, hclash⟩
      attempt_reference := ?_ }
    · obtain ⟨hissued, hrequest, hinvitation, -⟩ := input.times
      simp only [attemptConstraints, decide_eq_true_eq]
      exact ⟨Nat.pos_of_ne_zero hissued, hrequest, hinvitation, rfl⟩
    · intro a ha
      obtain ha | ha := List.mem_append.mp ha
      · exact hvalid.attempt_reference a ha
      · rw [List.mem_singleton.mp ha]
        exact ⟨o, hmem, howns.1⟩
  let selected := OpeningRow.isAt input.invitationId input.invitationGeneration .available
  obtain ⟨db₂, hreserved⟩ : ∃ db₂ : Db, db₂.tables =
      { db₁.tables with openings :=
          db₁.tables.openings.map (patch selected (OpeningRow.withState .reserved)) } :=
    ⟨⟨_, (Db.isValid db₁).patchOpenings (p := selected) (f := OpeningRow.withState .reserved)
      fun _ => ⟨rfl, rfl, rfl, rfl, rfl⟩⟩, rfl⟩
  have hcount : db₁.tables.openings.countP selected = 1 := by
    rw [hinserted]
    refine hvalid.openings.countP_eq_one (fun p q hp hq => ?_) hmem ?_
    · exact opening_clash (of_decide_eq_true hp).1 (of_decide_eq_true hq).1
    · exact decide_eq_true ⟨howns.1, howns.2, havailable⟩
  obtain ⟨storeId, hne, hmetadata⟩ := h.metadata
  have hstore : storeIdOn.run db₂ = .ok (storeId, db₂) := by
    have hrow : db₂.tables.metadata = [policy.metadataRow storeId] := by
      rw [hreserved, hinserted]
      exact hmetadata
    exact storeIdOn_run hrow hne
  refine ⟨storeId, db₂, ?_⟩
  simp only [insertReservation, run_bind_eq_ok, run_require_eq_ok, run_insertInto_eq_ok,
    run_updateWhere_eq_ok, run_refuse_eq_ok, run_pure_eq_ok, not_not]
  exact ⟨attemptId, db, ⟨hdrawn, rfl⟩, (), db₁, hinserted, 1, db₂, ⟨hcount.symm, hreserved⟩, (),
    db₂, ⟨rfl, rfl⟩, storeId, db₂, hstore, rfl, rfl⟩

theorem reserveAuthorizationTx_succeeds (h : Coherent policy db.tables)
    (hfree : db.tables.Compactable now)
    (hready : ReserveReady policy protector input now draws attemptId o restored s db) :
    ∃ storeId db', (reserveAuthorizationTx policy protector input now draws).run db =
      .ok (.ok (attemptId, storeId), db') := by
  obtain ⟨db₁, hcompact, htables⟩ := exists_run_compact h hfree
  have hcoherent : Coherent policy db₁.tables := h.compact hfree htables
  have hlater : now < o.expiresAt := by
    have := hready.unexpired
    have := input.times.2.2.1
    rw [hready.expires]
    omega
  have hmem : o ∈ db₁.tables.openings := by
    rw [htables]
    exact List.mem_filter.mpr ⟨hready.mem, by simp [hlater]⟩
  have hsubset : ∀ a ∈ db₁.tables.attempts, a ∈ db.tables.attempts := by
    intro a ha
    rw [htables] at ha
    exact List.mem_of_mem_filter ha
  obtain ⟨storeId, db', hinsert⟩ := insertReservation_succeeds hcoherent hready.drawn hmem
    hready.owns hready.available fun a ha => hready.no_clash h a (hsubset a ha)
  have hfound : db₁.tables.openings.find? (fun p => decide
      (p.invitationId = input.invitationId ∧ p.generation = input.invitationGeneration)) =
      some o := by
    refine (Db.isValid db₁).openings.find?_eq_some (fun p q hp hq => ?_) hmem ?_
    · exact opening_clash (of_decide_eq_true hp).1 (of_decide_eq_true hq).1
    · exact decide_eq_true hready.owns
  refine ⟨storeId, db', ?_⟩
  simp only [reserveAuthorizationTx, run_bind_eq_ok, run_select_eq_ok, run_refuse_eq_ok,
    run_require_eq_ok]
  refine ⟨(), db₁, hcompact, _, db₁, ⟨rfl, rfl⟩, (), db₁, ⟨?_, rfl⟩, (), db₁, ⟨?_, rfl⟩, o, db₁,
    ⟨hfound, rfl⟩, (), db₁, ⟨?_, rfl⟩, ?_⟩
  · rintro ⟨a, ha, hreplay⟩
    exact hready.not_replayed ⟨a, hsubset a ha, hreplay⟩
  · have := hready.live_room
    have := hready.generation_room
    rw [id, htables]
    omega
  · rintro (hexpired | hother | hstate)
    · omega
    · exact hother hready.expires
    · exact hstate hready.available
  · simp only [hready.restores, run_bind_eq_ok, run_refuse_eq_ok, not_not]
    exact ⟨(), db₁, ⟨hready.names, rfl⟩, hinsert⟩

theorem reserveAuthorization_succeeds (self : SqlCipherStorage)
    (h : Coherent self.authorizationPolicy db.tables) (hwrite : CanWrite self s)
    (hfree : db.tables.Compactable now)
    (hready : ReserveReady self.authorizationPolicy protector input now draws attemptId o restored
      s db) : ∃ pending, (self.reserveAuthorization protector input now draws s db).reply =
      .ok pending := by
  obtain ⟨storeId, db', hrun⟩ := reserveAuthorizationTx_succeeds h hfree hready
  have hguard : ¬(i64Max < now ∨ now < input.requestIssuedAt ∨ input.requestExpiresAt ≤ now ∨
      input.invitationExpiresAt ≤ now ∨ s.pendingJoiner.isSome) := by
    have := hready.now_le
    have := hready.issued
    have := hready.unexpired
    have := input.times.2.2.1
    simp only [hwrite.idle, Option.isSome_none, Bool.false_eq_true, or_false]
    omega
  have hroom : ¬self.authorizationPolicy.maximumRetainedAttempts ≤
      s.livePreMembershipAttempts.length := Nat.not_le.mpr hready.scope_room
  simp only [SqlCipherStorage.reserveAuthorization, if_neg hguard, if_neg hroom,
    perform_of_run hwrite hrun]
  exact ⟨_, rfl⟩

end Reserve

/-! ## The condition -/

/-- In every reachable world and at every clock value: the compaction ends, every caller
that asks for a new invitation within the limits gets it, and every new request for an
available invitation within the limits is accepted, exactly when no expired reserved
opening keeps a terminal attempt beside its live one. -/
theorem expiry_serves_iff (h : Reachable policy storeId w) (now : Nat) :
    ((∃ db', (compactExpiredAuthorizationState now).run w.state.db = .ok ((), db')) ∧
      (∀ i s protector issuedAt expiresAt generated, w.state.scopes i = some s →
        CanWrite (w.state.handle policy i) s →
        IssueReady policy protector issuedAt expiresAt now generated w.state.db →
          (w.state.step policy (.perform i (.issue protector issuedAt expiresAt now))).2 =
            .issued (.ok generated)) ∧
      ∀ i s protector input draws attemptId o restored, w.state.scopes i = some s →
        CanWrite (w.state.handle policy i) s →
        ReserveReady policy protector input now draws attemptId o restored s w.state.db →
          ∃ pending, (w.state.step policy (.perform i (.reserve protector input now draws))).2 =
            .pending (.ok pending)) ↔ w.state.db.tables.Compactable now := by
  have hcoherent := h.sound.coherent
  constructor
  · rintro ⟨⟨db', hrun⟩, -⟩
    exact ((run_compact_iff hcoherent).mp hrun).1
  · intro hfree
    refine ⟨?_, ?_, ?_⟩
    · obtain ⟨db', hrun, -⟩ := exists_run_compact hcoherent hfree
      exact ⟨db', hrun⟩
    · intro i s protector issuedAt expiresAt generated hs hwrite hready
      have hreply := issueCapabilityInvitation_succeeds (w.state.handle policy i) hcoherent
        hwrite hfree hready
      simp only [Store.step, hs, Operation.run, Answer.toOutcome, hreply]
    · intro i s protector input draws attemptId o restored hs hwrite hready
      obtain ⟨pending, hreply⟩ := reserveAuthorization_succeeds (w.state.handle policy i)
        hcoherent hwrite hfree hready
      exact ⟨pending, by simp only [Store.step, hs, Operation.run, Answer.toOutcome, hreply]⟩

/-! ## An expired invitation with a rejected and a live request -/

def Reply.storeError? : Reply → Option StoreError
  | .opened (.error e) | .issued (.error e) | .loaded (.error e) | .pending (.error e)
  | .approved (.error e) | .membership (.error e) | .recovered (.error e) | .outcome (.error e)
  | .unit (.error e) | .read (.error e) => some e
  | _ => none

/-- An invitation that shares nothing with the first one. -/
def otherInvitation : GeneratedCapabilityInvitationV2 :=
  sampleInvitation ⟨2, by decide⟩ ⟨2, by decide +kernel⟩ 30

/-- The first request is rejected and a second one reserves the invitation. -/
def blockedRun : List Call := [issueFirst, reserveFirst, rejectFirst, reserveSecond]

def blockedWorld : StoreWorld := sampleStore.afterAll (Store.step .phaseOne) blockedRun

theorem blockedWorld_reachable : Reachable .phaseOne ⟨7, by decide⟩ blockedWorld := by
  refine leads_afterAll ⟨?_, trivial, trivial, trivial, trivial⟩
  intro generated _ j hj
  cases hj

/-- At clock twenty the first invitation has expired. A caller within all limits asks
for an unrelated invitation and is refused. -/
theorem expiry_refuses_unrelated_issue : Reachable .phaseOne ⟨7, by decide⟩ blockedWorld ∧
      IssueReady .phaseOne (.only otherInvitation) 15 30 20 otherInvitation blockedWorld.state.db ∧
      (blockedWorld.state.scopes 0).map (·.pendingJoiner.isNone) = some true ∧
      (blockedWorld.state.handle .phaseOne 0).busy = false ∧ (blockedWorld.state.step .phaseOne
        (.perform 0 (.issue (.only otherInvitation) 15 30 20))).2.storeError? = some .rejected ∧
      ¬∃ db', (compactExpiredAuthorizationState 20).run blockedWorld.state.db = .ok ((), db') := by
  refine ⟨blockedWorld_reachable, ?_, by decide +kernel, by decide +kernel, by decide +kernel, ?_⟩
  · exact
      { issuedAt_pos := by decide
        issuedAt_le := by decide
        expiresAt_gt := by decide
        expiresAt_le := by decide
        drawn := rfl
        fresh := by decide +kernel
        room := by decide +kernel }
  · rintro ⟨db', hrun⟩
    have hfree := ((run_compact_iff blockedWorld_reachable.sound.coherent).mp hrun).1
    exact absurd hfree (by decide +kernel)

/-- With a single live request nothing is blocked, expired or not. -/
theorem expiry_serves_iff_begun : ∃ db', (compactExpiredAuthorizationState 20).run
      (sampleStore.afterAll (Store.step .phaseOne) beginMembershipRun).state.db =
        .ok ((), db') := by
  exact ((expiry_serves_iff begun_reachable 20).mpr (by decide +kernel)).1

end SessionChat.Storage
