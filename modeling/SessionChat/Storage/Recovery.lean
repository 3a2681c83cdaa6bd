import SessionChat.Storage.Reopen

/-!
# What outcome recovery answers (`crates/storage-sqlcipher/src/authorization.rs`)

`recover_authorization_outcome` compares an attempt with whatever result is stored under its
transaction identifier: a committed attempt stays committed, an attempt without a result is
abandoned, and an attempt whose identifier a foreign result uses is refused and left alone.
From the verdicts follow the meaning of an authorized write and of an unknown outcome.
-/

set_option autoImplicit false

namespace SessionChat.Storage

open Relational Transition Protocol Codec

variable {policy : AuthorizationPolicy} {storeId : { id : Id16 // id ≠ 0 }} {w : StoreWorld}
  {db db' : Db} {a : AttemptRow} {transactionId : Id16}

/-! ## The transaction -/

/-- No result is stored under the transaction identifier. -/
def Tables.Unused (t : Tables) (transactionId : Id16) : Prop :=
  ∀ j ∈ t.inviterJoins, j.transactionId ≠ transactionId
deriving Decidable

theorem Tables.Unused.find?_eq_none {t : Tables} (h : t.Unused transactionId) :
    t.inviterJoins.find? (fun j => decide (j.transactionId = transactionId)) = none := by
  rw [List.find?_eq_none]
  intro j hj
  simpa using h j hj

theorem Tables.not_unused_iff {t : Tables} :
    ¬t.Unused transactionId ↔ ∃ j ∈ t.inviterJoins, j.transactionId = transactionId := by
  simp [Tables.Unused]

theorem find?_join_eq_some {j : InviterJoinRow} (hj : j ∈ db.tables.inviterJoins)
    (htx : j.transactionId = transactionId) :
    db.tables.inviterJoins.find? (fun j => decide (j.transactionId = transactionId)) =
      some j := by
  refine db.isValid.inviterJoins.find?_eq_some (fun p q hp hq => ?_) hj (decide_eq_true htx)
  have hsame := (of_decide_eq_true hp).trans (of_decide_eq_true hq).symm
  simp [inviterJoinConstraints, hsame]

theorem find?_attempt_eq_some (ha : a ∈ db.tables.attempts)
    (htx : a.transactionId = some transactionId) :
    db.tables.attempts.find? (fun b =>
      decide (b.attemptId = a.attemptId ∧ b.transactionId = some transactionId)) = some a :=
  db.isValid.attempts.find?_eq_some
    (fun _ _ hp hq => attempt_clash (of_decide_eq_true hp).1 (of_decide_eq_true hq).1) ha
    (decide_eq_true ⟨rfl, htx⟩)

theorem releaseOpeningContext_succeeds (protector : InvitationJoinProtector) (now : Nat)
    {o : OpeningRow} (ho : o ∈ db.tables.openings) (hreserved : o.state = .reserved) :
    ∃ db' : Db, (releaseOpeningContext protector o.invitationId o.generation now).run db =
      .ok ((), db') := by
  let selected := OpeningRow.isAt o.invitationId o.generation .reserved
  let released : OpeningRow → OpeningRow :=
    if o.usable protector now then OpeningRow.withState .available else OpeningRow.erased .unusable
  have hkeep : ∀ p : OpeningRow, (released p).invitationId = p.invitationId ∧
      (released p).generation = p.generation ∧
      (released p).signedInvitation = p.signedInvitation ∧
      (released p).issuedAt = p.issuedAt ∧ (released p).expiresAt = p.expiresAt := by
    intro p
    simp only [released]
    split <;> exact ⟨rfl, rfl, rfl, rfl, rfl⟩
  let db₁ : Db := ⟨_, db.isValid.patchOpenings (p := selected) hkeep⟩
  have hfound : db.tables.openings.find? (fun p => decide
      (p.invitationId = o.invitationId ∧ p.generation = o.generation)) = some o :=
    db.isValid.openings.find?_eq_some
      (fun p q hp hq => opening_clash (of_decide_eq_true hp).1 (of_decide_eq_true hq).1) ho
      (decide_eq_true ⟨rfl, rfl⟩)
  have hcount : db.tables.openings.countP selected = 1 :=
    db.isValid.openings.countP_eq_one
      (fun p q hp hq => opening_clash (of_decide_eq_true hp).1 (of_decide_eq_true hq).1) ho
      (decide_eq_true ⟨rfl, rfl, hreserved⟩)
  refine ⟨db₁, ?_⟩
  simp only [releaseOpeningContext, run_bind_eq_ok, run_select_eq_ok, run_require_eq_ok,
    run_refuse_eq_ok, run_updateWhere_eq_ok, not_not]
  exact ⟨_, db, ⟨rfl, rfl⟩, o, db, ⟨hfound, rfl⟩, (), db, ⟨hreserved, rfl⟩, 1, db₁,
    ⟨hcount.symm, rfl⟩, rfl, rfl⟩

section Verdicts

variable (h : Coherent policy db.tables) (ha : a ∈ db.tables.attempts)
  (htx : a.transactionId = some transactionId) (protector : InvitationJoinProtector) (now : Nat)
include h ha htx

/-- A committed attempt has its own result and its consumed opening. -/
theorem recoverAuthorizationOutcomeTx_committed (hstate : a.state = .committed) :
    (recoverAuthorizationOutcomeTx a.attemptId transactionId protector now).run db =
      .ok (.ok .committed, db) := by
  obtain ⟨j, hj, hresult⟩ := h.committed_join a ha hstate
  have hjtx : j.transactionId = transactionId := by
    have := hresult.1
    rw [htx, Option.some.injEq] at this
    exact this.symm
  obtain ⟨o, ho, howns, -⟩ := h.attempt_opening a ha
  have hopening : db.tables.openings.find? (fun o => decide (o.Owns a)) = some o := by
    refine db.isValid.openings.find?_eq_some (fun p q hp hq => ?_) ho (decide_eq_true howns)
    exact opening_clash (of_decide_eq_true hp).1 (of_decide_eq_true hq).1
  simp only [recoverAuthorizationOutcomeTx, run_bind_eq_ok, run_select_eq_ok, run_require_eq_ok,
    run_refuse_eq_ok]
  refine ⟨_, db, ⟨rfl, rfl⟩, a, db, ⟨find?_attempt_eq_some ha htx, rfl⟩, (), db, ⟨?_, rfl⟩, ?_⟩
  · rintro ⟨j', hj', hother⟩
    rw [id, find?_join_eq_some hj hjtx, Option.mem_some_iff] at hj'
    exact hother (hj' ▸ hresult)
  · simp only [hstate, run_bind_eq_ok, run_refuse_eq_ok, run_pure_eq_ok]
    refine ⟨(), db, ⟨?_, rfl⟩, (), db, ⟨?_, rfl⟩, trivial, rfl⟩
    · simp [find?_join_eq_some hj hjtx]
    · simp [hopening, h.committed_consumed a ha hstate o ho howns]

omit h in
/-- The answer about an attempt that was abandoned before is repeated. -/
theorem recoverAuthorizationOutcomeTx_abandoned (hstate : a.state = .abandoned)
    (hunused : db.tables.Unused transactionId) :
    (recoverAuthorizationOutcomeTx a.attemptId transactionId protector now).run db =
      .ok (.ok .abandoned, db) := by
  simp only [recoverAuthorizationOutcomeTx, run_bind_eq_ok, run_select_eq_ok, run_require_eq_ok,
    run_refuse_eq_ok]
  refine ⟨_, db, ⟨rfl, rfl⟩, a, db, ⟨find?_attempt_eq_some ha htx, rfl⟩, (), db, ⟨?_, rfl⟩, ?_⟩
  · simp [hunused.find?_eq_none]
  · simp only [hstate, run_bind_eq_ok, run_refuse_eq_ok, run_pure_eq_ok]
    exact ⟨(), db, ⟨by simp [hunused.find?_eq_none], rfl⟩, trivial, rfl⟩

/-- An attempt of unknown outcome that left no result is abandoned. -/
theorem recoverAuthorizationOutcomeTx_unknown (hstate : a.state = .membershipOutcomeUnknown)
    (hunused : db.tables.Unused transactionId) :
    ∃ db' : Db, (recoverAuthorizationOutcomeTx a.attemptId transactionId protector now).run db =
      .ok (.ok .abandoned, db') := by
  obtain ⟨o, ho, ⟨hid, hgen⟩, -⟩ := h.attempt_opening a ha
  have hreserved := h.live_reserved a ha (by rw [hstate]; rfl) o ho ⟨hid, hgen⟩
  obtain ⟨db₁, hrelease⟩ := releaseOpeningContext_succeeds protector now ho hreserved
  obtain ⟨_, -, -, -, -, hreleased⟩ := releaseOpeningContext_ok hrelease
  have hsame : db₁.tables.attempts = db.tables.attempts := by rw [hreleased]
  let awaits := AttemptRow.awaits a.attemptId transactionId
  have hmove : ∀ b ∈ db₁.tables.attempts, awaits b = true →
      AuthorizationState.admitsTransaction .abandoned b.transactionId = true := by
    intro b _ hb
    rfl
  let db₂ : Db := ⟨_, (Db.isValid db₁).moveAttempts hmove⟩
  have hcount : db₁.tables.attempts.countP awaits = 1 := by
    rw [hsame]
    exact db.isValid.attempts.countP_eq_one
      (fun _ _ hp hq => attempt_clash (of_decide_eq_true hp).1 (of_decide_eq_true hq).1) ha
      (decide_eq_true ⟨rfl, htx, hstate⟩)
  refine ⟨db₂, ?_⟩
  simp only [recoverAuthorizationOutcomeTx, run_bind_eq_ok, run_select_eq_ok, run_require_eq_ok,
    run_refuse_eq_ok]
  refine ⟨_, db, ⟨rfl, rfl⟩, a, db, ⟨find?_attempt_eq_some ha htx, rfl⟩, (), db, ⟨?_, rfl⟩, ?_⟩
  · simp [hunused.find?_eq_none]
  · simp only [hstate, id, hunused.find?_eq_none, Option.isSome_none, resolveUnknownOutcome,
      settleOpening, Bool.false_eq_true, if_false, run_bind_eq_ok, run_refuse_eq_ok,
      run_pure_eq_ok, run_updateWhere_eq_ok, not_not, ← hid, ← hgen]
    exact ⟨(), db₁, hrelease, 1, db₂, ⟨hcount.symm, rfl⟩, (), db₂, ⟨rfl, rfl⟩, trivial, rfl⟩

/-- A result under the identifier that is not the attempt's own stops the recovery. -/
theorem recoverAuthorizationOutcomeTx_used (hstate : a.state ≠ .committed)
    (hused : ¬db.tables.Unused transactionId) :
    (recoverAuthorizationOutcomeTx a.attemptId transactionId protector now).run db =
      .error (.raised .conflict) := by
  obtain ⟨j, hj, hjtx⟩ := Tables.not_unused_iff.1 hused
  have hother := not_resultOf_of_uncommitted h ha hstate hj
  simp only [recoverAuthorizationOutcomeTx, run_bind_eq_error, run_select_eq_error,
    run_select_eq_ok, run_require_eq_ok, run_refuse_eq_error, false_or]
  refine ⟨_, db, ⟨rfl, rfl⟩, .inr ⟨a, db, ⟨find?_attempt_eq_some ha htx, rfl⟩, .inl ?_⟩⟩
  exact ⟨⟨j, find?_join_eq_some hj hjtx, hother⟩, trivial⟩

end Verdicts

/-! ## The verdict -/

/-- The tables fix what a recovery of the attempt will answer. -/
inductive Decided (t : Tables) (attemptId transactionId : Id16) :
    Except StoreError AuthorizationState → Prop where
  | committed (a : AttemptRow) (ha : a ∈ t.attempts) (hid : a.attemptId = attemptId)
      (htx : a.transactionId = some transactionId) (hstate : a.state = .committed) :
      Decided t attemptId transactionId (.ok .committed)
  | abandoned (a : AttemptRow) (ha : a ∈ t.attempts) (hid : a.attemptId = attemptId)
      (htx : a.transactionId = some transactionId) (hstate : a.state ≠ .committed)
      (hunused : t.Unused transactionId) :
      Decided t attemptId transactionId (.ok .abandoned)
  | refused (a : AttemptRow) (ha : a ∈ t.attempts) (hid : a.attemptId = attemptId)
      (htx : a.transactionId = some transactionId) (hstate : a.state ≠ .committed)
      (hused : ¬t.Unused transactionId) :
      Decided t attemptId transactionId (.error .conflict)

/-- What a recovery with a given verdict does to the database: only the first one that
abandons an attempt of unknown outcome writes, and it releases the invitation. -/
structure Recovery (protector : InvitationJoinProtector) (now : Nat) (attemptId : Id16)
    (db : Db) (verdict : Except StoreError AuthorizationState) (db' : Db) : Prop where
  unchanged : verdict ≠ .ok .abandoned → db' = db
  repeated : ∀ a ∈ db.tables.attempts, a.attemptId = attemptId →
    a.state ≠ .membershipOutcomeUnknown → db' = db
  released : verdict = .ok .abandoned → ∀ a ∈ db.tables.attempts, a.attemptId = attemptId →
    a.state = .membershipOutcomeUnknown → ∃ o, Recovered protector now a o db db'

/-- The scope may ask for the outcome: it can write and did not itself begin the
attempt, or gave it up since. -/
structure CanRecover (storage : SqlCipherStorage) (s : Scope) (attemptId : Id16) (now : Nat) :
    Prop extends CanWrite storage s where
  released : attemptId ∉ s.liveMembershipAttempts
  now_le : now ≤ i64Max

section Method

variable {self : SqlCipherStorage} {s : Scope} {attemptId : Id16} {now : Nat}
  {verdict : Except StoreError AuthorizationState}

/-- An attempt that carries a transaction identifier has begun its membership. -/
theorem begun_cases (ha : a ∈ db.tables.attempts) (htx : a.transactionId = some transactionId) :
    a.state = .membershipOutcomeUnknown ∨ a.state = .committed ∨ a.state = .abandoned := by
  have hcheck := db.isValid.attempts.1 a ha
  simp only [attemptConstraints] at hcheck
  cases hstate : a.state <;> simp_all [AuthorizationState.admitsTransaction]

theorem Decided.attempt {t : Tables} (hd : Decided t attemptId transactionId verdict) :
    ∃ a ∈ t.attempts, a.attemptId = attemptId ∧ a.transactionId = some transactionId := by
  cases hd with
  | committed a ha hid htx => exact ⟨a, ha, hid, htx⟩
  | abandoned a ha hid htx => exact ⟨a, ha, hid, htx⟩
  | refused a ha hid htx => exact ⟨a, ha, hid, htx⟩

section

variable (h : Coherent policy db.tables) (hd : Decided db.tables attemptId transactionId verdict)
include h hd

/-- The transaction gives the verdict. -/
theorem Decided.run (protector : InvitationJoinProtector) (now : Nat) :
    ∃ db', Recovery protector now attemptId db verdict db' ∧
      ((recoverAuthorizationOutcomeTx attemptId transactionId protector now).run db =
          .ok (verdict, db') ∨ (∃ e, verdict = .error e ∧ db' = db ∧
          (recoverAuthorizationOutcomeTx attemptId transactionId protector now).run db =
            .error (.raised e))) := by
  have hsame : ∀ {a b : AttemptRow}, a ∈ db.tables.attempts → a.attemptId = attemptId →
      b ∈ db.tables.attempts → b.attemptId = attemptId → b = a := fun ha hid hb hbid =>
    db.isValid.attempt_eq hb ha (hbid.trans hid.symm)
  cases hd with
  | committed a ha hid htx hstate =>
    refine ⟨db, ⟨fun _ => rfl, fun _ _ _ _ => rfl, (by simp)⟩, .inl ?_⟩
    rw [← hid]
    exact recoverAuthorizationOutcomeTx_committed h ha htx protector now hstate
  | refused a ha hid htx hstate hused =>
    refine ⟨db, ⟨fun _ => rfl, fun _ _ _ _ => rfl, (by simp)⟩, .inr ⟨_, rfl, rfl, ?_⟩⟩
    rw [← hid]
    exact recoverAuthorizationOutcomeTx_used h ha htx protector now hstate hused
  | abandoned a ha hid htx hstate hunused =>
    obtain hunknown | hcommitted | habandoned := begun_cases ha htx
    · obtain ⟨db', hrun⟩ :=
        recoverAuthorizationOutcomeTx_unknown h ha htx protector now hunknown hunused
      obtain ⟨b, hb, hbid, -, hcases⟩ := recoverAuthorizationOutcomeTx_ok h hrun
      obtain rfl := db.isValid.attempt_eq hb ha hbid
      obtain ⟨o, hrec⟩ : ∃ o, Recovered protector now b o db db' := by
        obtain ⟨hbad, -⟩ | ⟨hbad, -⟩ | ⟨-, -, hrec⟩ := hcases
        · simp [hunknown] at hbad
        · simp [hunknown] at hbad
        · exact hrec
      rw [hid] at hrun
      refine ⟨db', ⟨fun hne => absurd rfl hne, ?_, ?_⟩, .inl hrun⟩
      · intro c hc hcid hother
        obtain rfl := hsame hb hid hc hcid
        exact absurd hunknown hother
      · intro _ c hc hcid _
        obtain rfl := hsame hb hid hc hcid
        exact ⟨o, hrec⟩
    · exact absurd hcommitted hstate
    · refine ⟨db, ⟨fun _ => rfl, fun _ _ _ _ => rfl, ?_⟩, .inl ?_⟩
      · intro _ c hc hcid hunknown
        obtain rfl := hsame ha hid hc hcid
        simp [habandoned] at hunknown
      · rw [← hid]
        exact recoverAuthorizationOutcomeTx_abandoned ha htx protector now habandoned hunused

/-- A scope that may ask is given the verdict. -/
theorem Decided.recover (hcan : CanRecover self s attemptId now)
    (protector : InvitationJoinProtector) :
    ∃ db', self.recoverAuthorizationOutcome attemptId transactionId protector now s db =
        ⟨verdict, s, db'⟩ ∧ Recovery protector now attemptId db verdict db' := by
  obtain ⟨a, ha, hid, htx⟩ := hd.attempt
  have hguard : ¬(attemptId = 0 ∨ transactionId = 0 ∨ i64Max < now ∨ s.pendingJoiner.isSome) := by
    have hnonzero := h.attempt_nonzero a ha
    rintro (rfl | rfl | hlate | hbusy)
    · exact hnonzero.attemptId hid
    · exact hnonzero.transactionId htx
    · exact Nat.not_lt.mpr hcan.now_le hlate
    · simp [hcan.idle] at hbusy
  obtain ⟨db', hrecovery, hrun⟩ := hd.run h protector now
  refine ⟨db', ?_, hrecovery⟩
  have htransaction : transaction .rejected
      (recoverAuthorizationOutcomeTx attemptId transactionId protector now) db =
        (verdict, db') := by
    obtain hrun | ⟨e, rfl, rfl, hrun⟩ := hrun
    · exact transaction_of_run hrun
    · simp [transaction, hrun, Failure.report]
  rw [SqlCipherStorage.recoverAuthorizationOutcome, if_neg hguard, if_neg hcan.released]
  cases verdict <;> simp [SqlCipherStorage.perform, hcan.idle, hcan.free, htransaction]

end

end Method

/-! ## Later calls -/

/-- The row of the attempt is stored, in whatever state it is by now. -/
def AttemptRow.StoredIn (a : AttemptRow) (t : Tables) : Prop :=
  ∃ state, a.withState state ∈ t.attempts

/-- After any later calls, whoever may ask while the tables meet `cond` is given the
verdict. -/
def Answers (policy : AuthorizationPolicy) (w : StoreWorld) (cond : Tables → Prop)
    (attemptId transactionId : Id16) (verdict : Except StoreError AuthorizationState) : Prop :=
  ∀ v, Leads (Store.step policy) (fun u c => c.Fresh u.state.db) w v →
    cond v.state.db.tables → ∀ k s protector now, v.state.scopes k = some s →
      CanRecover (v.state.handle policy k) s attemptId now →
        let asked := v.state.step policy
          (.perform k (.recoverOutcome attemptId transactionId protector now))
        asked.2 = .outcome verdict ∧
          Recovery protector now attemptId v.state.db verdict asked.1.db

theorem Decided.step_recover {st : Store} {attemptId : Id16}
    {verdict : Except StoreError AuthorizationState} (h : st.Sound policy)
    (hd : Decided st.db.tables attemptId transactionId verdict) {k : ScopeId} {s : Scope}
    {now : Nat} (hs : st.scopes k = some s) (hcan : CanRecover (st.handle policy k) s attemptId now)
    (protector : InvitationJoinProtector) :
    let asked := st.step policy
      (.perform k (.recoverOutcome attemptId transactionId protector now))
    asked.2 = .outcome verdict ∧ Recovery protector now attemptId st.db verdict asked.1.db := by
  obtain ⟨db', hanswer, hrecovery⟩ := hd.recover h.coherent hcan protector
  simp only [Store.step, hs, Operation.run, Answer.toOutcome, hanswer]
  exact ⟨trivial, hrecovery⟩

/-- It is enough that every later world that meets `cond` fixes the verdict. -/
theorem Answers.of_decided {cond : Tables → Prop} {attemptId : Id16}
    {verdict : Except StoreError AuthorizationState} (h : w.state.Sound policy)
    (hd : ∀ v, Leads (Store.step policy) (fun u c => c.Fresh u.state.db) w v →
      v.state.Sound policy → cond v.state.db.tables →
        Decided v.state.db.tables attemptId transactionId verdict) :
    Answers policy w cond attemptId transactionId verdict := by
  intro v hv hcond k s protector now hs hcan
  have hsound := h.leads hv
  exact (hd v hv hsound hcond).step_recover hsound hs hcan protector

/-- A stored result keeps its keys over any later calls. -/
theorem Store.Sound.leads_join {v : StoreWorld} (h : w.state.Sound policy)
    (hv : Leads (Store.step policy) (fun u c => c.Fresh u.state.db) w v) {j : InviterJoinRow}
    (hj : j ∈ w.state.db.tables.inviterJoins) :
    ∃ k ∈ v.state.db.tables.inviterJoins, k.SameKeys j := by
  have hkept : v.state.Sound policy ∧ ∃ k ∈ v.state.db.tables.inviterJoins, k.SameKeys j := by
    refine hv.invariant (I := fun v => v.state.Sound policy ∧
      ∃ k ∈ v.state.db.tables.inviterJoins, k.SameKeys j) ?_ ⟨h, j, hj, .refl j⟩
    rintro u c hfresh ⟨hsound, hk⟩
    exact ⟨hsound.step hfresh, keeps_join hsound.coherent (Store.step_effects hsound hfresh) hk⟩
  exact hkept.2

section Stored

variable {j : InviterJoinRow} (htx : a.transactionId = some transactionId)
include htx

section

variable (h : Coherent policy db.tables) (ha : a.StoredIn db.tables)
include h ha

/-- The attempt's own result has committed it. -/
theorem Decided.of_result (hj : j ∈ db.tables.inviterJoins) (hresult : j.ResultOf a) :
    Decided db.tables a.attemptId transactionId (.ok .committed) := by
  obtain ⟨state, ha⟩ := ha
  refine .committed _ ha rfl htx ?_
  by_contra hstate
  exact not_resultOf_of_uncommitted h ha hstate hj hresult

/-- Under the identifier of a foreign result the attempt cannot have committed. -/
theorem Decided.of_foreign (hj : j ∈ db.tables.inviterJoins)
    (hjtx : j.transactionId = transactionId)
    (hother : ¬j.ResultOf a) : Decided db.tables a.attemptId transactionId (.error .conflict) := by
  obtain ⟨state, ha⟩ := ha
  refine .refused _ ha rfl htx ?_ fun hunused => hunused j hj hjtx
  intro hstate
  obtain ⟨k, hk, hresult⟩ := h.committed_join _ ha hstate
  have hktx : k.transactionId = transactionId := Option.some.inj (hresult.1.symm.trans htx)
  have hsame := (find?_join_eq_some hk hktx).symm.trans (find?_join_eq_some hj hjtx)
  exact hother (Option.some.inj hsame ▸ hresult)

theorem Decided.of_unused (hunused : db.tables.Unused transactionId) :
    Decided db.tables a.attemptId transactionId (.ok .abandoned) := by
  obtain ⟨state, ha⟩ := ha
  refine .abandoned _ ha rfl htx ?_ hunused
  intro hstate
  obtain ⟨k, hk, hresult⟩ := h.committed_join _ ha hstate
  exact hunused k hk (Option.some.inj (hresult.1.symm.trans htx))

end

variable (h : w.state.Sound policy)
include h

theorem answers_committed (hj : j ∈ w.state.db.tables.inviterJoins) (hresult : j.ResultOf a) :
    Answers policy w a.StoredIn a.attemptId transactionId (.ok .committed) := by
  refine .of_decided h fun v hv hsound hstored => ?_
  obtain ⟨j', hj', hsame⟩ := h.leads_join hv hj
  exact .of_result htx hsound.coherent hstored hj' ((hsame.resultOf_iff a).2 hresult)

theorem answers_conflict (hj : j ∈ w.state.db.tables.inviterJoins)
    (hjtx : j.transactionId = transactionId) (hother : ¬j.ResultOf a) :
    Answers policy w a.StoredIn a.attemptId transactionId (.error .conflict) := by
  refine .of_decided h fun v hv hsound hstored => ?_
  obtain ⟨j', hj', hsame⟩ := h.leads_join hv hj
  refine .of_foreign htx hsound.coherent hstored hj' (hsame.1.trans hjtx) fun hresult => ?_
  exact hother ((hsame.resultOf_iff a).1 hresult)

theorem answers_abandoned : Answers policy w
    (fun t => a.StoredIn t ∧ t.Unused transactionId) a.attemptId transactionId
      (.ok .abandoned) :=
  .of_decided h fun _ _ hsound ⟨hstored, hunused⟩ =>
    .of_unused htx hsound.coherent hstored hunused

end Stored

/-! ## An authorized write and its recovery -/

section AuthorizedWrite

variable {staged : StagedInviter} {auth : MembershipAuthorization}

theorem AuthorizedCommit.committed_mem {commit : InviterJoinTransaction} {state : GroupState}
    {inserts updates : List EpochRecord} {o : OpeningRow} {db₁ : Db}
    (h : AuthorizedCommit auth commit state inserts updates a o db db₁ db') :
    a.withState .committed ∈ db'.tables.attempts := by
  rw [h.tables]
  refine mem_replaceRow_new ?_
  rw [h.snapshot]
  exact h.attempt_mem

theorem AuthorizedCommit.storedIn {commit : InviterJoinTransaction} {state : GroupState}
    {inserts updates : List EpochRecord} {o : OpeningRow} {db₁ : Db}
    (h : AuthorizedCommit auth commit state inserts updates a o db db₁ db') :
    a.StoredIn db'.tables := ⟨_, h.committed_mem⟩

/-- The write of an authorized transaction commits everything or changes nothing, and
its reply tells which, up to an unknown outcome after the commit. -/
theorem write_authorized (self : SqlCipherStorage) {s : Scope} (h : Coherent policy db.tables)
    (hstaged : s.stagedInviter = some staged) (hauth : staged.authorization = some auth)
    (state : GroupState) (inserts updates : List EpochRecord) (elapsed : Nat)
    (observer : Option FaultObserver) :
    let written := self.write state inserts updates elapsed observer s db
    ((written.reply = .ok () ∨ written.reply = .error .outcomeUnknown) ∧
        ∃ commit a o db₁, boundTransaction staged state inserts updates = .ok commit ∧
          AuthorizedCommit auth commit state inserts updates a o db db₁ written.db) ∨
      (written.db = db ∧ ∃ e, written.reply = .error e ∧ e ≠ .outcomeUnknown) := by
  intro written
  simp only [written, SqlCipherStorage.write]
  split
  · exact .inr ⟨rfl, _, rfl, (by simp)⟩
  · simp only [hstaged]
    obtain ⟨hreply, commit, hbound, ⟨auth', a, o, db₁, hsome, hcommit⟩ | ⟨_, _, hnone, -⟩⟩ |
        ⟨hsame, hnone | herror⟩ :=
      commitInviter_cases h self.busy staged state inserts updates elapsed observer rfl
    · obtain rfl : auth = auth' := Option.some.inj (hauth.symm.trans hsome)
      refine .inl ⟨?_, commit, a, o, db₁, hbound, hcommit⟩
      rw [hreply, commitReply]
      split
      · exact .inr rfl
      · exact .inl rfl
    · simp [hauth] at hnone
    · simp [hauth] at hnone
    · exact .inr ⟨hsame, herror⟩

/-- The write of an authorized inviter transaction does one of two things. It commits the
snapshot, the result, the consumed reservation, the committed attempt and the erased opening
together, replies `Ok` or `OutcomeUnknown`, and after any later calls a recovery answers
`Committed` as long as the attempt's row is stored. Or it replies with another error and changes
nothing; a recovery of the stored attempt then answers `Abandoned` while no result uses the
identifier, `Conflict` if a foreign one does, and `Committed` if it was committed before. -/
theorem authorized_write_decides (h : Reachable policy storeId w) {i : ScopeId} {s : Scope}
    (hs : w.state.scopes i = some s) (hstaged : s.stagedInviter = some staged)
    (hauth : staged.authorization = some auth) (state : GroupState)
    (inserts updates : List EpochRecord) (elapsed : Nat) (observer : Option FaultObserver) :
    let write := Call.perform i (.write state inserts updates elapsed observer)
    let w' := w.after (Store.step policy) write
    let reply := (w.state.step policy write).2
    ((reply = .unit (.ok ()) ∨ reply = .unit (.error .outcomeUnknown)) ∧
        ∃ commit a o db₁, boundTransaction staged state inserts updates = .ok commit ∧
          AuthorizedCommit auth commit state inserts updates a o w.state.db db₁ w'.state.db ∧
          Answers policy w' a.StoredIn auth.attemptId auth.transactionId (.ok .committed)) ∨
      ((∃ e, reply = .unit (.error e) ∧ e ≠ .outcomeUnknown) ∧ w'.state.db = w.state.db ∧
        ∀ a ∈ w.state.db.tables.attempts, a.attemptId = auth.attemptId →
          a.transactionId = some auth.transactionId →
          Answers policy w' (fun t => a.StoredIn t ∧ t.Unused auth.transactionId)
              auth.attemptId auth.transactionId (.ok .abandoned) ∧
          (a.state ≠ .committed → ¬w.state.db.tables.Unused auth.transactionId →
            Answers policy w' a.StoredIn auth.attemptId auth.transactionId (.error .conflict)) ∧
          (a.state = .committed →
            Answers policy w' a.StoredIn auth.attemptId auth.transactionId (.ok .committed))) := by
  intro write w' reply
  have hsound : w'.state.Sound policy := h.sound.step (c := write) trivial
  let written := (w.state.handle policy i).write state inserts updates elapsed observer s
    w.state.db
  have hstep : w.state.step policy write =
      (w.state.settle i (written.toOutcome .unit), .unit written.reply) := by
    simp only [write, Store.step, hs]
    rfl
  have hdb : w'.state.db = written.db := by
    simp only [w', World.after, hstep]
    rfl
  have hreply : reply = .unit written.reply := by simp only [reply, hstep]
  rw [hreply]
  obtain ⟨hok, commit, a, o, db₁, hbound, hcommit⟩ | ⟨hsame, e, herror, hne⟩ :=
    write_authorized (w.state.handle policy i) h.sound.coherent hstaged hauth state inserts updates
      elapsed observer
  · left
    change AuthorizedCommit auth commit state inserts updates a o w.state.db db₁ written.db
      at hcommit
    rw [← hdb] at hcommit
    refine ⟨?_, commit, a, o, db₁, hbound, hcommit, ?_⟩
    · obtain hok | hok := hok
      · exact .inl (congrArg Reply.unit hok)
      · exact .inr (congrArg Reply.unit hok)
    · obtain ⟨j, hj, hresult⟩ := hsound.coherent.committed_join _ hcommit.committed_mem rfl
      rw [← hcommit.attemptId]
      exact answers_committed hcommit.transactionId hsound hj hresult
  · right
    have hkept : w'.state.db = w.state.db := hdb.trans hsame
    refine ⟨⟨e, congrArg Reply.unit herror, hne⟩, hkept, ?_⟩
    intro a ha hid htx
    rw [← hid]
    rw [← hkept] at ha ⊢
    refine ⟨answers_abandoned htx hsound, fun hstate hused => ?_, fun hstate => ?_⟩
    · obtain ⟨j, hj, hjtx⟩ := Tables.not_unused_iff.1 hused
      exact answers_conflict htx hsound hj hjtx
        (not_resultOf_of_uncommitted hsound.coherent ha hstate hj)
    · obtain ⟨j, hj, hresult⟩ := hsound.coherent.committed_join a ha hstate
      exact answers_committed htx hsound hj hresult

end AuthorizedWrite

/-! ## Runs of an authorized write -/

/-- Membership begins under the identifier of a legacy result that scope one has
committed before. -/
def reusedRun : List Call :=
  beginMembershipRun.take 3 ++ [.openScope] ++ legacyCalls 77 ++
    [.perform 0 (.beginMembership ⟨firstHandle⟩ 77 (.only firstInvitation) 9)]

theorem reusedRun_admitted (more : List Call) (hmore : ∀ v : StoreWorld,
      v.Admits (Store.step .phaseOne) (fun w c => c.Fresh w.state.db) more) :
    sampleStore.Admits (Store.step .phaseOne) (fun w c => c.Fresh w.state.db)
      (reusedRun ++ more) := by
  refine ⟨?_, trivial, trivial, trivial, trivial, trivial, trivial, trivial, hmore _⟩
  intro generated _ j hj
  cases hj

def Reply.outcome? : Reply → Option (Except StoreError AuthorizationState)
  | .outcome result => some result
  | _ => none

/-- The authorized write over a reused identifier is refused with `Conflict` and changes
nothing, and the recovery after a restart is refused as well. -/
theorem reused_identifier_not_abandoned :
    let w := sampleStore.afterAll (Store.step .phaseOne) (reusedRun ++ [stageAs firstTransaction])
    let w' := w.after (Store.step .phaseOne) writeFirst
    let reopened := w'.after (Store.step .phaseOne) .restart
    Reachable .phaseOne ⟨7, by decide⟩ w ∧
      ((w.state.scopes 0).bind (·.stagedInviter)).map (·.authorization) =
        some (some ⟨0, 7, 9, 77⟩) ∧
      (w.state.step .phaseOne writeFirst).2.storeError? = some .conflict ∧
      w'.state.db.tables.attempts.map (·.state) = [.membershipOutcomeUnknown] ∧
      (reopened.state.step .phaseOne
        (.perform 2 (.recoverOutcome 9 77 (.only firstInvitation) 9))).2.outcome? =
          some (.error .conflict) := by
  refine ⟨leads_afterAll (reusedRun_admitted [stageAs firstTransaction] fun _ =>
    ⟨trivial, trivial⟩), by decide +kernel, by decide +kernel, by decide +kernel, by decide +kernel⟩

/-- Without the legacy result the same write commits, and every later recovery says so as
long as the row is stored, which it is. -/
theorem authorized_write_decides_committed :
    let w := sampleStore.afterAll (Store.step .phaseOne)
      (beginMembershipRun ++ [stageAs firstTransaction])
    let w' := w.after (Store.step .phaseOne) writeFirst
    ∃ a : AttemptRow, a.StoredIn w'.state.db.tables ∧
      Answers .phaseOne w' a.StoredIn 9 77 (.ok .committed) := by
  intro w w'
  have hreachable : Reachable .phaseOne ⟨7, by decide⟩ w :=
    leads_afterAll (beginMembershipRun_admitted [_] fun _ => ⟨trivial, trivial⟩)
  have hauth : ((w.state.scopes 0).bind (·.stagedInviter)).bind (·.authorization) =
      some ⟨0, 7, 9, 77⟩ := by decide +kernel
  simp only [Option.bind_eq_some_iff] at hauth
  obtain ⟨staged, ⟨s, hs, hstaged⟩, hauth⟩ := hauth
  have hreply : (w.state.step .phaseOne writeFirst).2.storeError? = none := by decide +kernel
  obtain ⟨-, _, a, _, _, -, hcommit, hanswers⟩ | ⟨⟨e, herror, -⟩, -⟩ :=
    authorized_write_decides hreachable hs hstaged hauth ⟨fixedBytes 32 2, [0]⟩ [] [] 0 none
  · have hstored : a.StoredIn w'.state.db.tables := hcommit.storedIn
    exact ⟨a, hstored, hanswers⟩
  · rw [writeFirst, herror] at hreply
    cases hreply

/-! ## An unknown outcome after a restart -/

/-- A restart that succeeds leaves one open scope, which holds nothing. -/
theorem Store.restart_opened {st : Store} {k : ScopeId}
    (h : (st.step policy .restart).2 = .opened (.ok k)) :
    (st.step policy .restart).1.scopes k = some Scope.opened ∧
      (st.step policy .restart).1.writer = none := by
  simp only [Store.step, Store.openScope] at h ⊢
  split at h
  · cases h
  · cases h
    simp [Store.crash]

/-- In every reachable world, after a restart that opens the store, the recovery of an
attempt of unknown outcome with its exact identifiers does one of two things. If no
stored result uses its transaction identifier, the attempt is abandoned, its invitation
released and its live slot given back. If one does, the recovery is refused and the
attempt stays as it is. -/
theorem unknown_outcome_after_restart (h : Reachable policy storeId w)
    (ha : a ∈ w.state.db.tables.attempts) (hstate : a.state = .membershipOutcomeUnknown)
    (htx : a.transactionId = some transactionId) {k : ScopeId}
    (hopened : (w.state.step policy .restart).2 = .opened (.ok k))
    (protector : InvitationJoinProtector) (now : Nat) (hnow : now ≤ i64Max) :
    let reopened := w.after (Store.step policy) .restart
    let asked := reopened.state.step policy
      (.perform k (.recoverOutcome a.attemptId transactionId protector now))
    (w.state.db.tables.Unused transactionId → asked.2 = .outcome (.ok .abandoned) ∧
        (∃ o, Recovered protector now a o w.state.db asked.1.db) ∧
        liveAuthorizationRows asked.1.db.tables + 1 = liveAuthorizationRows w.state.db.tables) ∧
      (¬w.state.db.tables.Unused transactionId →
        asked.2 = .outcome (.error .conflict) ∧ asked.1.db = w.state.db) := by
  intro reopened asked
  have hsound : reopened.state.Sound policy := h.sound.step (c := .restart) trivial
  have hdb : reopened.state.db = w.state.db := by
    simp [reopened, World.after, Store.step]
  obtain ⟨hscope, hwriter⟩ := Store.restart_opened hopened
  have hcan : CanRecover (reopened.state.handle policy k) Scope.opened a.attemptId now :=
    { idle := rfl
      free := by simp [Store.handle, reopened, World.after, hwriter]
      released := List.not_mem_nil
      now_le := hnow }
  have huncommitted : a.state ≠ .committed := by simp [hstate]
  constructor
  · intro hunused
    have hd : Decided reopened.state.db.tables a.attemptId transactionId (.ok .abandoned) := by
      rw [hdb]
      exact .abandoned a ha rfl htx huncommitted hunused
    obtain ⟨hreply, hrecovery⟩ := hd.step_recover hsound hscope hcan protector
    rw [hdb] at hrecovery
    obtain ⟨o, hrec⟩ := hrecovery.released rfl a ha rfl hstate
    refine ⟨hreply, ⟨o, hrec⟩, ?_⟩
    rw [hrec.tables]
    exact countP_replaceRow_add_one w.state.db.isValid.attempts.nodup ha (by rw [hstate]; rfl) rfl
  · intro hused
    have hd : Decided reopened.state.db.tables a.attemptId transactionId (.error .conflict) := by
      rw [hdb]
      exact .refused a ha rfl htx huncommitted hused
    obtain ⟨hreply, hrecovery⟩ := hd.step_recover hsound hscope hcan protector
    rw [hdb] at hrecovery
    exact ⟨hreply, hrecovery.unchanged (by simp)⟩

/-- An attempt begun under the identifier of an earlier result cannot be recovered after a
restart, and stays live. -/
theorem reused_identifier_stays_unknown :
    let w := sampleStore.afterAll (Store.step .phaseOne) (reusedRun ++ [.restart])
    let asked := w.state.step .phaseOne
      (.perform 2 (.recoverOutcome 9 77 (.only firstInvitation) 9))
    Reachable .phaseOne ⟨7, by decide⟩ w ∧ (w.state.scopes 2).isSome = true ∧
      w.state.db.tables.attempts.map (fun a => (a.attemptId, a.transactionId, a.state)) =
        [(9, some 77, .membershipOutcomeUnknown)] ∧ asked.2.outcome? = some (.error .conflict) ∧
      asked.1.db.tables.attempts.map (·.state) = [.membershipOutcomeUnknown] ∧
      asked.1.db.tables.openings.map (·.state) = [.reserved] := by
  exact ⟨leads_afterAll (reusedRun_admitted [.restart] fun _ => ⟨trivial, trivial⟩),
    by decide +kernel⟩

/-- Begun under an unused identifier, the attempt is abandoned after the restart. -/
theorem unknown_outcome_after_restart_unused :
    let w := sampleStore.afterAll (Store.step .phaseOne) beginMembershipRun
    ((w.after (Store.step .phaseOne) .restart).state.step .phaseOne
      (.perform 1 (.recoverOutcome 9 77 (.only firstInvitation) 6))).2 =
        .outcome (.ok .abandoned) := by
  intro w
  have hreachable : Reachable .phaseOne ⟨7, by decide⟩ w :=
    begun_reachable
  have hattempt : ∃ a ∈ w.state.db.tables.attempts, a.attemptId = 9 ∧
      a.state = .membershipOutcomeUnknown ∧ a.transactionId = some 77 := by decide +kernel
  obtain ⟨a, ha, hid, hstate, htx⟩ := hattempt
  have hopened : (w.state.step .phaseOne .restart).2 = .opened (.ok 1) := by
    have hvalid : validateSchemaV6 .phaseOne w.state.db.tables = .ok () := by decide +kernel
    have hnext : w.state.nextScope = 1 := by decide +kernel
    simp [Store.step, Store.openScope, Store.crash, hvalid, hnext]
  have hrecovered := unknown_outcome_after_restart hreachable ha hstate htx hopened
    (.only firstInvitation) 6 (by decide)
  rw [hid] at hrecovered
  exact (hrecovered.1 (by decide +kernel)).1

/-! ## A staging that fails -/

/-- A failed staging in the scope that issued the authorization gives up the claim on the attempt
exactly when the transaction has its Welcome bound and no joiner write waits. -/
theorem failed_staging_releases_iff (h : Reachable policy storeId w) {s s' : Scope} {e : StoreError}
    (auth : MembershipAuthorization) (addition : CommittedAdditionStorageBinding)
    (tx : InviterJoinTransaction) (now : Nat) (fault : PersistenceFault)
    (hs : w.state.scopes auth.openScope = some s)
    (hlive : auth.attemptId ∈ s.liveMembershipAttempts)
    (hfailed : (w.state.step policy (.perform auth.openScope
      (.stageAuthorizedInviter auth addition tx now fault))).2.storeError? = some e)
    (hs' : (w.state.step policy (.perform auth.openScope
      (.stageAuthorizedInviter auth addition tx now fault))).1.scopes auth.openScope = some s') :
    auth.attemptId ∉ s'.liveMembershipAttempts ↔
      tx.boundWelcome.isSome = true ∧ s.pendingJoiner = none := by
  obtain ⟨id, hne, hmetadata⟩ := h.sound.coherent.metadata
  have hstore : SqlCipherStorage.storeId? w.state.db.tables = some id := by
    simpa [SqlCipherStorage.storeId?, hmetadata, AuthorizationPolicy.metadataRow] using hne
  have hdropped : auth.attemptId ∉ (s.dropMembership auth.attemptId).liveMembershipAttempts := by
    simp [Scope.dropMembership]
  simp only [Store.step, hs, Operation.run, Answer.toOutcome, Store.settle, Function.update_self,
    Option.some.injEq, Reply.storeError?] at hfailed hs'
  subst hs'
  cases hbound : tx.boundWelcome with
  | none => simpa [SqlCipherStorage.stageAuthorizedInviter, hbound] using hlive
  | some bound =>
    cases hpending : s.pendingJoiner with
    | some pending =>
      simpa [SqlCipherStorage.stageAuthorizedInviter, hbound, hpending, Store.handle] using hlive
    | none =>
      -- every later refusal drops the attempt
      simp only [SqlCipherStorage.stageAuthorizedInviter, hbound, hpending, hstore, Store.handle]
        at hfailed ⊢
      grind

def Store.liveAttempts (st : Store) : Option (List Id16) :=
  (st.scopes 0).map (·.liveMembershipAttempts)

/-- A transaction without a bound Welcome is refused, and the attempt stays owned by the scope. -/
theorem failed_staging_keeps_attempt :
    let w := sampleStore.afterAll (Store.step .phaseOne) beginMembershipRun
    let w' := w.after (Store.step .phaseOne) (stageAs (legacyTransaction 77))
    Reachable .phaseOne ⟨7, by decide⟩ w ∧ w.state.liveAttempts = some [9] ∧
      (w.state.step .phaseOne (stageAs (legacyTransaction 77))).2.storeError? = some .conflict ∧
      w'.state.liveAttempts = some [9] ∧ (w'.state.step .phaseOne
        (.perform 0 (.recoverOutcome 9 77 (.only firstInvitation) 9))).2.outcome? =
          some (.error .conflict) :=
  ⟨begun_reachable, by decide +kernel⟩

/-- A transaction with its Welcome bound, under another identifier, is refused as well, and the
attempt is released. -/
theorem failed_staging_releases_bound :
    let w := sampleStore.afterAll (Store.step .phaseOne) beginMembershipRun
    let r := w.state.step .phaseOne (stageAs { firstTransaction with transactionId := 78 })
    ∃ s', r.1.scopes 0 = some s' ∧ 9 ∉ s'.liveMembershipAttempts := by
  intro w r
  have hscope : ∃ s, w.state.scopes 0 = some s ∧ 9 ∈ s.liveMembershipAttempts ∧
      s.pendingJoiner.isNone = true := ⟨_, rfl, by decide +kernel, by decide +kernel⟩
  have hafter : ∃ s', r.1.scopes 0 = some s' := ⟨_, rfl⟩
  have hfailed : r.2.storeError? = some .conflict := by decide +kernel
  obtain ⟨s, hs, hlive, hpending⟩ := hscope
  obtain ⟨s', hs'⟩ := hafter
  exact ⟨s', hs', (failed_staging_releases_iff begun_reachable
    ⟨0, 7, 9, 77⟩ firstAddition _ 9 .none hs hlive hfailed hs').2
    ⟨rfl, Option.isNone_iff_eq_none.1 hpending⟩⟩

end SessionChat.Storage
