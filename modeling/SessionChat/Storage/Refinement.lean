import SessionChat.Storage.Compaction

/-!
# Transaction bodies refine chains of effects (`crates/storage-sqlcipher/src/authorization.rs`)

Each authorization body, run on a coherent database, is a chain of effects. The
rows it may bring in are named by its `Admission`.
-/

set_option autoImplicit false

namespace SessionChat.Storage

open Relational

/-! ## Admissions -/

/-- Only the opening of the generated invitation may be new. -/
def Admission.ofOpening (g : GeneratedCapabilityInvitationV2) : Admission :=
  { Admission.nothing with
    opening := fun o => o.invitationId = g.invitation.invitationId ∧
      o.generation = g.invitation.signature }

/-- Only this request, under this attempt identifier, may be new. -/
def Admission.ofAttempt (input : AuthorizationShadowInput) (attemptId : Id16) : Admission :=
  { Admission.nothing with attempt := fun a => a = input.attemptRow attemptId }

/-- Only the result of this legacy transaction may be new. -/
def Admission.ofLegacy (tx : InviterJoinTransaction) : Admission :=
  { Admission.nothing with legacyJoin := fun j => j.transactionId = tx.transactionId }

/-- Only delivery columns may change. -/
def Admission.ofDelivery : Admission :=
  { Admission.nothing with delivery := True }

/-- Every row the first admits, the second admits. -/
structure Admission.Le (N M : Admission) : Prop where
  opening : ∀ o, N.opening o → M.opening o
  attempt : ∀ a, N.attempt a → M.attempt a
  legacyJoin : ∀ j, N.legacyJoin j → M.legacyJoin j
  delivery : N.delivery → M.delivery

theorem Admission.nothing_le (N : Admission) : Admission.nothing.Le N :=
  ⟨fun _ => False.elim, fun _ => False.elim, fun _ => False.elim, False.elim⟩

variable {policy : AuthorizationPolicy} {db db' : Db} {N M : Admission}

theorem Effect.mono (hle : N.Le M) (h : Effect policy N db db') : Effect policy M db db' := by
  cases h with
  | compact now hfree heq => exact .compact now hfree heq
  | issue o hallowed hstate hkey hid hgen hroom hfresh heq =>
    exact .issue o (hle.opening o hallowed) hstate hkey hid hgen hroom hfresh heq
  | terminalize o ho hstate heq => exact .terminalize o ho hstate heq
  | reserve a o hallowed ho howns hstate hexpires hpending hnonzero hlive hgeneration heq =>
    exact .reserve a o (hle.attempt a hallowed) ho howns hstate hexpires hpending hnonzero hlive
      hgeneration heq
  | advance a s tx ha hlive hs htx heq => exact .advance a s tx ha hlive hs htx heq
  | settle a o o' s ha ho howns hlive hs hfree ho' heq =>
    exact .settle a o o' s ha ho howns hlive hs hfree ho' heq
  | commit a o j r ha ho howns hlive hj hr hrs hunsent heq =>
    exact .commit a o j r ha ho howns hlive hj hr hrs hunsent heq
  | seed r heq => exact .seed r heq
  | legacyCommit j r hallowed hfree hunsent heq =>
    exact .legacyCommit j r (hle.legacyJoin j hallowed) hfree hunsent heq
  | outbox f hallowed hkeys heq => exact .outbox f (hle.delivery hallowed) hkeys heq
  | provider hidentity heq => exact .provider hidentity heq

theorem Effects.mono (hle : N.Le M) (h : Effects policy N db db') : Effects policy M db db' :=
  Relation.ReflTransGen.mono (fun _ _ => Effect.mono hle) _ _ h

theorem Effects.refl (db : Db) : Effects policy N db db :=
  Relation.ReflTransGen.refl

theorem Effects.single (h : Effect policy N db db') : Effects policy N db db' :=
  Relation.ReflTransGen.single h

theorem Effects.tail {db'' : Db} (h : Effects policy N db db') (h' : Effect policy N db' db'') :
    Effects policy N db db'' :=
  Relation.ReflTransGen.tail h h'

/-! ## Issue and load -/

/-- Issuing compacts and then adds the one opening it was called for. -/
theorem persistOpeningContext_ok (h : Coherent policy db.tables)
    {generated : GeneratedCapabilityInvitationV2} {issuedAt expiresAt now : Nat}
    {reply : Except StoreError Unit} (hfresh : ∀ j ∈ db.tables.inviterJoins,
      ¬(j.invitationId = generated.invitation.invitationId ∧
        j.generation = generated.invitation.signature))
    (hrun : (persistOpeningContext policy generated issuedAt expiresAt now).run db =
      .ok (reply, db')) : reply = .ok () ∧ Effects policy (.ofOpening generated) db db' := by
  simp only [persistOpeningContext, run_bind_eq_ok, run_refuse_eq_ok,
    run_insertInto_eq_ok] at hrun
  obtain ⟨_, db₁, hcompact, _, _, ⟨rfl, rfl⟩, _, _, ⟨hroom, rfl⟩, _, db₂, hinsert, rfl, rfl⟩ :=
    hrun
  obtain ⟨hfree, htables⟩ := (run_compact_iff h).mp hcompact
  have hfirst : Effect policy (.ofOpening generated) db db₁ := .compact now hfree htables
  refine ⟨rfl, (Effects.single hfirst).tail ?_⟩
  refine .issue _ ⟨rfl, rfl⟩ rfl generated.privateKey.2
    generated.invitation.invitationId_ne_zero generated.invitation.signature_ne_zero
    (Nat.not_le.mp hroom) ?_ hinsert
  rw [htables]
  exact hfresh

variable {invitationId : Id16} {protector : InvitationJoinProtector} {now : Nat}
  {handle : AuthorizationHandle} {expected next : AuthorizationState}

theorem terminalizeAndReject_ok {α : Type} {reply : Except StoreError α}
    (hrun : (terminalizeAndReject invitationId).run db = .ok (reply, db')) :
    reply = .error .rejected ∧ Effects policy N db db' := by
  simp only [terminalizeAndReject, run_bind_eq_ok] at hrun
  obtain ⟨_, db₁, hterm, rfl, rfl⟩ := hrun
  obtain ⟨o, ho, -, hstate, heq⟩ := terminalizeOpeningContext_ok hterm
  exact ⟨rfl, .single (.terminalize o ho hstate heq)⟩

/-- Loading changes nothing, or terminalizes the context it could not restore. -/
theorem loadCapabilityInvitationTx_ok
    {reply : Except StoreError (Option GeneratedCapabilityInvitationV2)}
    (hrun : (loadCapabilityInvitationTx protector invitationId now).run db = .ok (reply, db')) :
    Effects policy N db db' := by
  simp only [loadCapabilityInvitationTx, run_bind_eq_ok] at hrun
  obtain ⟨_, _, ⟨rfl, rfl⟩, hrun⟩ := hrun
  split at hrun
  · obtain ⟨-, rfl⟩ := run_pure_eq_ok.mp hrun
    exact .refl _
  · simp only [run_bind_eq_ok, run_refuse_eq_ok] at hrun
    obtain ⟨_, _, ⟨-, rfl⟩, hrun⟩ := hrun
    split at hrun
    · exact (terminalizeAndReject_ok hrun).2
    · split at hrun
      · exact (terminalizeAndReject_ok hrun).2
      · split at hrun
        · obtain ⟨-, rfl⟩ := run_pure_eq_ok.mp hrun
          exact .refl _
        · exact (terminalizeAndReject_ok hrun).2

/-! ## Reserve -/

variable {attemptId : Id16}

theorem AuthorizationShadowInput.attemptRow_nonzero (input : AuthorizationShadowInput)
    (hid : attemptId ≠ 0) : (input.attemptRow attemptId).Nonzero := by
  obtain ⟨h₁, h₂, h₃, h₄, h₅, h₆, h₇, h₈, h₉, h₁₀⟩ := input.nonzero
  exact ⟨hid, h₁, h₂, h₃, h₄, h₅, h₆, h₇, h₈, h₉, h₁₀, by simp [attemptRow]⟩

/-- What is known when a request was accepted: the compacted tables `db₁` held no
record of it, and the opening it reserved. -/
structure Accepted (policy : AuthorizationPolicy) (input : AuthorizationShadowInput)
    (attemptId : Id16) (now : Nat) (db₁ db' : Db) (o : OpeningRow) : Prop where
  attemptId_ne_zero : attemptId ≠ 0
  not_replayed : ¬replayed db₁.tables.attempts input now
  live_room : liveAuthorizationRows db₁.tables < policy.maximumRetainedAttempts
  generation_room : generationAttempts db₁.tables input.invitationId input.invitationGeneration <
    policy.maximumRetainedAttempts
  mem : o ∈ db₁.tables.openings
  owns : o.Owns (input.attemptRow attemptId)
  available : o.state = .available
  unexpired : now < o.expiresAt
  expires : o.expiresAt = input.invitationExpiresAt
  tables : db'.tables =
    { db₁.tables with
      attempts := db₁.tables.attempts ++ [input.attemptRow attemptId]
      openings := replaceRow o (o.withState .reserved) db₁.tables.openings }

variable {draws : Fin 4 → Id16} {input : AuthorizationShadowInput}
  {reply : Except StoreError (Id16 × Id16)}

theorem insertReservation_ok (hrun : (insertReservation input draws).run db = .ok (reply, db')) :
    ∃ attemptId storeId, reply = .ok (attemptId, storeId) ∧
      randomNonzeroIdentifier draws = some attemptId ∧
      ∃ o ∈ db.tables.openings, o.Owns (input.attemptRow attemptId) ∧ o.state = .available ∧
        db'.tables =
          { db.tables with
            attempts := db.tables.attempts ++ [input.attemptRow attemptId]
            openings := replaceRow o (o.withState .reserved) db.tables.openings } := by
  simp only [insertReservation, run_bind_eq_ok, run_require_eq_ok, run_insertInto_eq_ok,
    run_refuse_eq_ok, not_not] at hrun
  obtain ⟨attemptId, _, ⟨hdraw, rfl⟩, _, db₁, hinsert, n, db₂, hupdate, _, _, ⟨hone, rfl⟩,
    storeId, _, hstore, rfl, rfl⟩ := hrun
  obtain ⟨rfl, -⟩ := storeIdOn_ok hstore
  obtain ⟨o, ho, hid, hgen, hstate, htables⟩ := updateOpening_ok hupdate hone
  rw [hinsert] at ho htables
  exact ⟨attemptId, storeId, rfl, hdraw, o, ho, ⟨hid, hgen⟩, hstate, htables⟩

/-- A reservation that commits either accepted the request or terminalized an opening
that could not be restored. -/
theorem reserveAuthorizationTx_ok (h : Coherent policy db.tables)
    (hrun : (reserveAuthorizationTx policy protector input now draws).run db = .ok (reply, db')) :
    ∃ db₁, Effect policy .nothing db db₁ ∧
      ((reply = .error .rejected ∧ Effects policy .nothing db₁ db') ∨
        ∃ attemptId storeId o, reply = .ok (attemptId, storeId) ∧
          Accepted policy input attemptId now db₁ db' o) := by
  simp only [reserveAuthorizationTx, run_bind_eq_ok, run_refuse_eq_ok,
    run_require_eq_ok] at hrun
  obtain ⟨_, db₁, hcompact, t, _, ⟨rfl, rfl⟩, _, _, ⟨hreplay, rfl⟩, _, _, ⟨hroom, rfl⟩, opening,
    _, ⟨hfound, rfl⟩, _, _, ⟨hopening, rfl⟩, hrun⟩ := hrun
  obtain ⟨hfree, htables⟩ := (run_compact_iff h).mp hcompact
  refine ⟨db₁, .compact now hfree htables, ?_⟩
  split at hrun
  · exact .inl (terminalizeAndReject_ok hrun)
  · right
    simp only [run_bind_eq_ok, run_refuse_eq_ok] at hrun
    obtain ⟨_, _, ⟨-, rfl⟩, hrun⟩ := hrun
    obtain ⟨attemptId, storeId, rfl, hdraw, o, ho, howns, hstate, htables'⟩ :=
      insertReservation_ok hrun
    have hsame : opening = o := by
      have hsel : opening.invitationId = input.invitationId := by
        have := List.find?_some hfound
        exact (of_decide_eq_true this).1
      exact (Db.isValid db₁).opening_eq (List.mem_of_find?_eq_some hfound) ho
        (hsel.trans howns.1.symm)
    subst hsame
    simp only [not_or, not_le, not_not] at hroom hopening
    exact ⟨attemptId, storeId, opening, rfl,
      { attemptId_ne_zero := randomNonzeroIdentifier_ne_zero hdraw
        not_replayed := hreplay
        live_room := hroom.1
        generation_room := hroom.2
        mem := ho
        owns := howns
        available := hstate
        unexpired := hopening.1
        expires := hopening.2.1
        tables := htables' }⟩

variable {o : OpeningRow}

theorem Accepted.effect (h : Accepted policy input attemptId now db db' o) :
    Effect policy (.ofAttempt input attemptId) db db' :=
  .reserve _ o rfl h.mem h.owns h.available h.expires rfl
    (input.attemptRow_nonzero h.attemptId_ne_zero) h.live_room h.generation_room h.tables

/-! ## Decisions on a pending or approved attempt -/

theorem AuthorizationState.live_of_preMembership {s : AuthorizationState}
    (h : s.preMembership = true) : s.live = true := by
  cases s <;> simp_all [preMembership, live]

variable {a : AttemptRow}

/-- Before membership begins an attempt carries no transaction identifier. -/
theorem transactionId_eq_none (ha : a ∈ db.tables.attempts) (hpre : a.state.preMembership = true) :
    a.transactionId = none := by
  have hcheck := db.isValid.attempts.1 a ha
  simp only [attemptConstraints] at hcheck
  cases hstate : a.state <;> simp_all [AuthorizationState.preMembership,
    AuthorizationState.admitsTransaction]

/-- Ending before membership and freeing the invitation is one settlement. -/
theorem moveAttempt_releaseOpeningContext_ok {id : Id16} {gen : Generation} {db₁ : Db} {u u' : Unit}
    (hpre : expected.preMembership = true) (hnext : next = .rejected ∨ next = .abandoned)
    (hkey : ∀ a ∈ db.tables.attempts, a.attemptId = id → a.invitationId = invitationId ∧
      a.generation = gen) (hmove : (moveAttempt id expected next).run db = .ok (u, db₁))
    (hrelease : (releaseOpeningContext protector invitationId gen now).run db₁ = .ok (u', db')) :
    Effect policy N db db' := by
  obtain ⟨a, ha, hid, hstate, hmoved⟩ := moveAttempt_ok hmove
  obtain ⟨o, ho, hoid, hogen, -, hreleased⟩ := releaseOpeningContext_ok hrelease
  obtain ⟨haid, hagen⟩ := hkey a ha hid
  rw [hmoved] at ho hreleased
  rw [← hstate] at hpre
  refine .settle a o _ next ha ho ⟨hoid.trans haid.symm, hogen.trans hagen.symm⟩
    (AuthorizationState.live_of_preMembership hpre) hnext ?_ ?_ hreleased
  · simp [transactionId_eq_none ha hpre]
  split
  · exact .inl rfl
  · exact .inr rfl

/-- The attempt a validated handle names carries the handle's invitation. -/
theorem validated_key {u : Unit}
    (h : (validateAuthorizationHandle handle expected).run db = .ok (u, db')) :
    db = db' ∧ ∀ a ∈ db.tables.attempts, a.attemptId = handle.attemptId →
      a.invitationId = handle.invitationId ∧ a.generation = handle.invitationGeneration := by
  obtain ⟨rfl, b, hb, -, -, -, hid, hinv, hgen, -⟩ := validateAuthorizationHandle_ok h
  refine ⟨rfl, fun a ha haid => ?_⟩
  obtain rfl := db.isValid.attempt_eq ha hb (haid.trans hid.symm)
  exact ⟨hinv, hgen⟩

/-- Approving and beginning membership share their shape: an expired attempt is
abandoned, a current one moves on by the update `f`. -/
theorem advance_or_expire_ok {s : AuthorizationState} {reply : Except StoreError Bool}
    (tx : AttemptRow → Option Id16) (hpre : expected.preMembership = true) (hs : s.live = true)
    (htx : ∀ a ∈ db.tables.attempts, tx a ≠ some 0)
    (hrun : (do
      validateAuthorizationHandle handle expected
      if ← authorizationIsExpired handle now then
        abandonExpiredAuthorization handle expected protector now
        return .ok true
      else
        let changed ← updateWhere attempts
          (fun a => decide (a.attemptId = handle.attemptId ∧ a.state = expected ∧
            a.unexpired now))
          (fun a => a.moved s (tx a))
        refuse (changed ≠ 1) .conflict
        return .ok false : StoreTx (Except StoreError Bool)).run db = .ok (reply, db')) :
    Effect policy N db db' := by
  simp only [run_bind_eq_ok] at hrun
  obtain ⟨_, _, hvalid, expired, _, hexpired, hrun⟩ := hrun
  obtain ⟨rfl, hkey⟩ := validated_key hvalid
  obtain rfl := authorizationIsExpired_ok hexpired
  split at hrun
  · simp only [abandonExpiredAuthorization, run_bind_eq_ok] at hrun
    obtain ⟨_, _, ⟨_, _, hmove, hrelease⟩, -, rfl⟩ := hrun
    exact moveAttempt_releaseOpeningContext_ok hpre (.inr rfl) hkey hmove hrelease
  · simp only [run_bind_eq_ok, run_refuse_eq_ok, not_not] at hrun
    obtain ⟨n, _, hupdate, _, _, ⟨hone, rfl⟩, -, rfl⟩ := hrun
    obtain ⟨a, ha, hsel, htables⟩ := updateAttempt_ok
      (fun a ha => (decide_eq_true_iff.mp ha).1) hupdate hone
    obtain ⟨-, hstate, -⟩ := decide_eq_true_iff.mp hsel
    rw [← hstate] at hpre
    exact .advance a s (tx a) ha (AuthorizationState.live_of_preMembership hpre) hs (htx a ha)
      htables

variable {transactionId : Id16}

theorem settleAuthorizationTx_ok {reply : Except StoreError Unit}
    (hpre : expected.preMembership = true) (hnext : next = .rejected ∨ next = .abandoned)
    (hrun : (settleAuthorizationTx expected next handle protector now).run db = .ok (reply, db')) :
    Effect policy N db db' := by
  simp only [settleAuthorizationTx, run_bind_eq_ok] at hrun
  obtain ⟨_, _, hvalid, _, _, hmove, _, _, hrelease, -, rfl⟩ := hrun
  obtain ⟨rfl, hkey⟩ := validated_key hvalid
  exact moveAttempt_releaseOpeningContext_ok hpre hnext hkey hmove hrelease

/-! ## Recovery -/

/-- The recovery loop settles the listed attempts one after the other. Each listed
row is still stored when its turn comes, since earlier turns replace other rows. -/
theorem abandonPreMembership_ok {rows : List AttemptRow} {u : Unit}
    (hmem : ∀ a ∈ rows, a ∈ db.tables.attempts)
    (hnodup : rows.Nodup) (hrun : (abandonPreMembership protector now rows).run db = .ok (u, db')) :
    Effects policy N db db' := by
  induction rows generalizing db with
  | nil =>
    obtain ⟨-, rfl⟩ := run_pure_eq_ok.mp hrun
    exact .refl _
  | cons a rest ih =>
    simp only [abandonPreMembership, run_bind_eq_ok, run_refuse_eq_ok, not_not] at hrun
    obtain ⟨n, db₁, hupdate, _, _, ⟨hone, rfl⟩, _, db₂, hrelease, hrest⟩ := hrun
    have ha : a ∈ db.tables.attempts := hmem a List.mem_cons_self
    obtain ⟨b, hb, hsel, hmoved⟩ := updateAttempt_ok
      (fun b hb => of_decide_eq_true (Bool.and_eq_true_iff.mp hb).1) hupdate hone
    obtain ⟨hbid, hbpre⟩ := Bool.and_eq_true_iff.mp hsel
    obtain rfl := db.isValid.attempt_eq hb ha (of_decide_eq_true hbid)
    obtain ⟨o, ho, hoid, hogen, -, hreleased⟩ := releaseOpeningContext_ok hrelease
    rw [hmoved] at ho hreleased
    have hfirst : Effect policy N db db₂ := by
      refine .settle b o _ .abandoned hb ho ⟨hoid, hogen⟩
        (AuthorizationState.live_of_preMembership hbpre) (.inr rfl) ?_ ?_ hreleased
      · simp [transactionId_eq_none hb hbpre]
      split
      · exact .inl rfl
      · exact .inr rfl
    refine (Effects.single hfirst).trans (ih ?_ (List.nodup_cons.mp hnodup).2 hrest)
    intro c hc
    rw [hreleased]
    refine mem_replaceRow_of_ne (hmem c (List.mem_cons_of_mem _ hc)) ?_
    rintro rfl
    exact (List.nodup_cons.mp hnodup).1 hc

theorem recoverPreMembershipAuthorizationsTx_ok {live : List Id16} {reply : Except StoreError Nat}
    (hrun : (recoverPreMembershipAuthorizationsTx live protector now).run db = .ok (reply, db')) :
    Effects policy N db db' := by
  simp only [recoverPreMembershipAuthorizationsTx, run_bind_eq_ok,
    run_refuse_eq_ok] at hrun
  obtain ⟨_, _, ⟨rfl, rfl⟩, _, _, ⟨-, rfl⟩, _, _, hloop, -, rfl⟩ := hrun
  have hperm := List.perm_insertionSort (fun a b : AttemptRow => a.attemptId ≤ b.attemptId)
    (db.tables.attempts.filter (·.state.preMembership))
  refine abandonPreMembership_ok ?_ ?_ hloop
  · intro a ha
    exact (List.mem_filter.mp (hperm.mem_iff.mp ha)).1
  · exact hperm.nodup_iff.mpr (db.isValid.attempts.nodup.filter _)

/-- A result under the identifier of an attempt that has not committed belongs to
another request: its own result would have committed it. -/
theorem not_resultOf_of_uncommitted (h : Coherent policy db.tables) {j : InviterJoinRow}
    (ha : a ∈ db.tables.attempts) (hstate : a.state ≠ .committed) (hj : j ∈ db.tables.inviterJoins)
      : ¬j.ResultOf a := by
  intro hres
  obtain ⟨o, ho, howns, -⟩ := h.attempt_opening a ha
  obtain ⟨htx, hid, hgen, -⟩ := hres
  obtain ⟨b, hb, ⟨htxb, -⟩, hcommitted⟩ := h.join_committed j hj o ho
    (howns.1.trans hid.symm) (howns.2.trans hgen.symm)
  obtain rfl := db.isValid.attempt_eq_of_transaction ha hb htx htxb
  exact hstate hcommitted

/-- The abandonment of an attempt whose outcome was unknown. -/
structure Recovered (protector : InvitationJoinProtector) (now : Nat) (a : AttemptRow)
    (o : OpeningRow) (db db' : Db) : Prop where
  mem : o ∈ db.tables.openings
  owns : o.Owns a
  reserved : o.state = .reserved
  free : ∀ j ∈ db.tables.inviterJoins, a.transactionId ≠ some j.transactionId
  tables : db'.tables =
    { db.tables with
      attempts := replaceRow a (a.withState .abandoned) db.tables.attempts
      openings := replaceRow o
        (if o.usable protector now then o.withState .available else o.erased .unusable)
        db.tables.openings }

theorem Recovered.effect (h : Recovered protector now a o db db') (ha : a ∈ db.tables.attempts)
    (hstate : a.state = .membershipOutcomeUnknown) : Effect policy N db db' := by
  refine .settle a o _ .abandoned ha h.mem h.owns (by rw [hstate]; rfl) (.inr rfl) h.free ?_
    h.tables
  split
  · exact .inl rfl
  · exact .inr rfl

variable {reply : Except StoreError AuthorizationState}

/-- The verdicts of an outcome recovery that ends. -/
theorem recoverAuthorizationOutcomeTx_ok (h : Coherent policy db.tables)
    (hrun : (recoverAuthorizationOutcomeTx attemptId transactionId protector now).run db =
      .ok (reply, db')) :
    ∃ a ∈ db.tables.attempts, a.attemptId = attemptId ∧ a.transactionId = some transactionId ∧
      ((a.state = .committed ∧ reply = .ok .committed ∧ db = db') ∨
        (a.state = .abandoned ∧ reply = .ok .abandoned ∧ db = db') ∨
        (a.state = .membershipOutcomeUnknown ∧ reply = .ok .abandoned ∧
          ∃ o, Recovered protector now a o db db')) := by
  simp only [recoverAuthorizationOutcomeTx, run_bind_eq_ok, run_refuse_eq_ok,
    run_require_eq_ok] at hrun
  obtain ⟨_, _, ⟨rfl, rfl⟩, a, _, ⟨hfound, rfl⟩, _, _, ⟨hforeign, rfl⟩, hrun⟩ := hrun
  have ha : a ∈ db.tables.attempts := List.mem_of_find?_eq_some hfound
  have hsel := List.find?_some hfound
  obtain ⟨hid, htx⟩ := of_decide_eq_true hsel
  refine ⟨a, ha, hid, htx, ?_⟩
  split at hrun
  · next hstate =>
      simp only [run_bind_eq_ok, run_refuse_eq_ok] at hrun
      obtain ⟨_, _, ⟨-, rfl⟩, _, _, ⟨-, rfl⟩, rfl, rfl⟩ := hrun
      exact .inl ⟨hstate, rfl, rfl⟩
  · next hstate =>
      simp only [run_bind_eq_ok, run_refuse_eq_ok] at hrun
      obtain ⟨_, _, ⟨-, rfl⟩, rfl, rfl⟩ := hrun
      exact .inr (.inl ⟨hstate, rfl, rfl⟩)
  · next hstate =>
      right; right
      -- a result under the identifier would be foreign, which was refused above
      have hnone : db.tables.inviterJoins.find?
          (fun j => decide (j.transactionId = transactionId)) = none := by
        rw [Option.eq_none_iff_forall_not_mem]
        intro j hj
        refine hforeign ⟨j, hj, ?_⟩
        exact not_resultOf_of_uncommitted h ha (by simp [hstate]) (List.mem_of_find?_eq_some hj)
      simp only [id, hnone, resolveUnknownOutcome, run_bind_eq_ok, run_refuse_eq_ok,
        not_not] at hrun
      obtain ⟨_, db₁, hrelease, n, db₂, hupdate, _, _, ⟨hone, rfl⟩, rfl, rfl⟩ := hrun
      obtain ⟨o, ho, hoid, hogen, hreserved, hreleased⟩ := releaseOpeningContext_ok hrelease
      obtain ⟨b, hb, hawaits, hmoved⟩ := updateAttempt_ok
        (fun b hb => (of_decide_eq_true hb).1) hupdate hone
      rw [hreleased] at hb hmoved
      obtain rfl := db.isValid.attempt_eq hb ha ((of_decide_eq_true hawaits).1.trans hid.symm)
      refine ⟨hstate, rfl, o, ho, ⟨hoid, hogen⟩, hreserved, ?_, hmoved⟩
      intro j hj hsame
      rw [htx, Option.some.injEq] at hsame
      simpa [hsame] using List.find?_eq_none.mp hnone j hj
  all_goals exact absurd hrun (by simp [run_raise_eq_ok])

theorem recoverAuthorizationOutcomeTx_effects (h : Coherent policy db.tables)
    (hrun : (recoverAuthorizationOutcomeTx attemptId transactionId protector now).run db =
      .ok (reply, db')) : Effects policy N db db' := by
  obtain ⟨a, ha, -, -, hcases⟩ := recoverAuthorizationOutcomeTx_ok h hrun
  obtain ⟨-, -, rfl⟩ | ⟨-, -, rfl⟩ | ⟨hstate, -, o, hrec⟩ := hcases
  · exact .refl _
  · exact .refl _
  · exact .single (hrec.effect ha hstate)

end SessionChat.Storage
