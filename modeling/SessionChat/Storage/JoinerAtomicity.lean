import SessionChat.Storage.JoinerCommit
import SessionChat.Storage.Reopen

/-!
# Atomicity of the joiner transaction (`crates/storage-sqlcipher/src/transactions.rs`)

The guarantees of a joiner transaction in every world of a run: its row, its snapshot and
the removal of its KeyPackage appear in one step, the open transaction is hidden, a stopped
one leaves no trace, and a repeated one is recognised. Recognition compares the snapshot
that the store holds now, so a repetition is refused once the group has moved on.
-/

set_option autoImplicit false

namespace SessionChat.Storage

open Relational Transition Codec SqlCipherStorage

variable {policy : AuthorizationPolicy} {storeId : { id : Id16 // id ≠ 0 }} {w : StoreWorld}
  {i : ScopeId} {s : Scope}

/-! ## Repetitions -/

/-- The answer to a write that repeats the transaction of the row `j`. -/
def repeatReply (t : Tables) (j : JoinerCommitRow) (tx : JoinerTransaction) (m : MlsWrite) :
    Except StoreError Unit :=
  if validateMlsWrite m.state m.inserts m.updates = false ∨
      m.state.id ≠ fixedBytes 32 tx.groupId then .error .rejected
  else if tx.row = j ∧ ∃ g ∈ t.mlsGroups, g.groupId = m.state.id ∧ g.state = m.state.data then
    .ok ()
  else .error .conflict

section Repetition

variable {self : SqlCipherStorage} {db : Db} {j : JoinerCommitRow} {tx : JoinerTransaction}
  {fault : PersistenceFault} {m : MlsWrite}

/-- Two committed rows of one transaction are the same row. -/
theorem joinerCommits_unique {k : JoinerCommitRow} (hj : j ∈ db.tables.joinerCommits)
    (hk : k ∈ db.tables.joinerCommits) (hsame : k.transactionId = j.transactionId) : k = j := by
  refine (Db.isValid db).joinerCommits.eq_of_clash hk hj ?_
  simp [joinerCommitConstraints, hsame]

section

variable (hj : j ∈ db.tables.joinerCommits) (hid : tx.transactionId = j.transactionId)
include hj hid

theorem exactJoinerCommit_iff (hgroup : m.state.id = fixedBytes 32 tx.groupId) :
    exactJoinerCommit db.tables tx m.state ↔
      tx.row = j ∧ ∃ g ∈ db.tables.mlsGroups, g.groupId = m.state.id ∧ g.state = m.state.data := by
  constructor
  · rintro ⟨k, hk, g, hg, hsame, hktx, hkgroup, hkref, hstate⟩
    obtain rfl := joinerCommits_unique hj hk (hktx.trans hid)
    refine ⟨?_, g, hg, ?_, hstate⟩
    · rw [JoinerTransaction.row, ← hktx, ← hkgroup, ← hkref]
    · rw [hsame, hkgroup, hgroup]
  · rintro ⟨rfl, g, hg, hsame, hstate⟩
    exact ⟨_, hj, g, hg, hsame.trans hgroup, rfl, rfl, rfl, hstate⟩

theorem beginJoiner_repeat
    (hconsumed : ¬keyPackageExistsOn db.tables j.keyPackageRef)
    (hvalid : validateMlsWrite m.state m.inserts m.updates = true) :
    self.beginJoiner ⟨tx, fault⟩ m.state m.inserts m.updates m.observer db =
      (repeatReply db.tables j tx m).map fun _ => ⟨tx, fault, none⟩ := by
  have hthere : ∃ k ∈ db.tables.joinerCommits, k.transactionId = tx.transactionId :=
    ⟨j, hj, hid.symm⟩
  unfold beginJoiner repeatReply
  by_cases hgroup : m.state.id = fixedBytes 32 tx.groupId
  · have hexact := exactJoinerCommit_iff hj hid hgroup
    simp only [hvalid, hgroup, hthere, ne_eq, not_true_eq_false, if_false, if_true]
    rw [hgroup] at hexact
    by_cases hrow : exactJoinerCommit db.tables tx m.state
    · have hgone : ¬keyPackageExistsOn db.tables tx.keyPackageReference := by
        rw [← (hexact.mp hrow).1] at hconsumed
        exact hconsumed
      rw [if_neg (by simp [hrow, hgone]), if_pos (hexact.mp hrow)]
      rfl
    · rw [if_pos (.inl hrow), if_neg (fun h => hrow (hexact.mpr h))]
      rfl
  · simp only [hgroup, ne_eq, not_false_eq_true, or_true]
    rfl

end

theorem write_repeat (self : SqlCipherStorage) (fault : PersistenceFault) (m : MlsWrite)
    (hidle : s.idle = true) (hj : j ∈ db.tables.joinerCommits)
    (hid : tx.transactionId = j.transactionId)
    (hconsumed : ¬keyPackageExistsOn db.tables j.keyPackageRef) :
    let p := self.write m.state m.inserts m.updates m.elapsed m.observer
      { s with stagedJoiner := some ⟨tx, fault⟩ } db
    p.reply = repeatReply db.tables j tx m ∧ p.db = db ∧ (repeatReply db.tables j tx m = .ok () →
        p.scope = { s with pendingJoiner := some ⟨tx, fault, none⟩ }) := by
  intro p
  simp only [Scope.idle, Bool.and_eq_true, Option.isNone_iff_eq_none] at hidle
  obtain ⟨⟨hinviter, hjoiner⟩, hpending⟩ := hidle
  unfold p write
  simp only [hinviter, hpending]
  cases hvalid : validateMlsWrite m.state m.inserts m.updates with
  | false => simp [repeatReply, hvalid]
  | true =>
    rw [beginJoiner_repeat hj hid hconsumed hvalid]
    cases hreply : repeatReply db.tables j tx m with
    | error e => simp [Except.map]
    | ok u => simp [Except.map, hjoiner]

/-- Only the identifiers of the row are repeated successfully. -/
theorem row_of_repeatReply {t : Tables} (h : repeatReply t j tx m = .ok ()) : tx.row = j := by
  unfold repeatReply at h
  split_ifs at h with hmalformed hexact
  exact hexact.1

/-- The deletion that ends a repetition finds its KeyPackage gone. -/
theorem deleteKeyPackage_repeat {observer : Option FaultObserver}
    (hpending : s.pendingJoiner = some ⟨tx, fault, none⟩)
    (hgone : ¬keyPackageExistsOn db.tables tx.keyPackageReference) :
    self.deleteKeyPackage (fixedBytes 32 tx.keyPackageReference) observer s db =
      ⟨.ok (), { s with pendingJoiner := none }, db⟩ := by
  simp [deleteKeyPackage, hpending, hgone]

end Repetition

/-! ## The guarantees -/

/-- The same store with another copy in the open transaction of scope `i`. -/
def Store.withWorking (st : Store) (i : ScopeId) (s : Scope) (pending : PendingJoiner)
    (copy : Db) : Store :=
  { st with
    scopes := Function.update st.scopes i
      (some { s with pendingJoiner := some { pending with working := some copy } }) }

/-- The call that ends the joiner write of scope `i`. -/
def Call.isDeletion (i : ScopeId) : Call → Bool
  | .perform k (.deleteKeyPackage ..) => decide (k = i)
  | _ => false

/-- What a joiner transaction guarantees in one world of a run. -/
structure JoinerAtomic (policy : AuthorizationPolicy) (storeId : { id : Id16 // id ≠ 0 })
    (w : StoreWorld) : Prop where
  /-- A row is there exactly when one deletion committed it with the snapshot of an
  accepted write and removed its KeyPackage. -/
  committed_together : ∀ j, j ∈ w.state.db.tables.joinerCommits ↔
    ∃ v i id observer m, JoinerRun policy storeId v ∧
      ⟨MlsWrite.call m i, .unit (.ok ())⟩ ∈ v.history ∧
      CommitsJoiner v.state.db
        (v.state.step policy (.perform i (.deleteKeyPackage id observer))).1.db j m.state
        m.inserts m.updates ∧
      JoinerLeads policy
        (v.after (Store.step policy) (.perform i (.deleteKeyPackage id observer))) w
  /-- Nothing else removes a KeyPackage. -/
  removed_by_commit : ∀ c, ∀ k ∈ w.state.db.tables.keyPackages,
    k ∉ (w.state.step policy c).1.db.tables.keyPackages →
      ∃ j state inserts updates, j.keyPackageRef = k.keyPackageRef ∧
        CommitsJoiner w.state.db (w.state.step policy c).1.db j state inserts updates
  /-- A waiting write refuses every other operation of its scope. -/
  pending_refuses : ∀ i s op, w.state.scopes i = some s → s.pendingJoiner ≠ none →
    (Call.perform i op).isDeletion i = false →
      let r := w.state.step policy (.perform i op)
      r.2.Refusal ∧ r.1.db = w.state.db ∧ r.1.scopes = w.state.scopes
  /-- Until its deletion, an open transaction leaves the committed database as its write
  found it, a read is answered from that database, and no call of another scope is answered
  by what the transaction holds. -/
  pending_hidden : ∀ i s pending working, w.state.scopes i = some s →
    s.pendingJoiner = some pending → pending.working = some working →
      (∃ v m, WriteOf policy storeId w i pending working v m) ∧
      (∀ c, c.isDeletion i = false → (w.state.step policy c).1.db = w.state.db) ∧
      (∀ k sₖ query, w.state.scopes k = some sₖ → sₖ.pendingJoiner = none →
        (w.state.step policy (.perform k (.read query))).2 =
          .read (query.answer w.state.db.tables)) ∧
      ∀ k op copy, k ≠ i →
        ((w.state.withWorking i s pending copy).step policy (.perform k op)).2 =
          (w.state.step policy (.perform k op)).2 ∧
        ((w.state.withWorking i s pending copy).step policy (.perform k op)).1.db =
          (w.state.step policy (.perform k op)).1.db
  /-- A deletion that names another KeyPackage or stops before its commit restores the
  database that the write found. -/
  rolled_back : ∀ i s pending working id observer, w.state.scopes i = some s →
    s.pendingJoiner = some pending → pending.working = some working → id.length = 32 →
    (id ≠ fixedBytes 32 pending.transaction.keyPackageReference ∨
      stopsBeforeCommit pending.fault observer) →
      let r := w.state.step policy (.perform i (.deleteKeyPackage id observer))
      r.2.Refusal ∧ (∃ v m, WriteOf policy storeId w i pending working v m ∧
        r.1.db = v.state.db) ∧ r.1.writer = none ∧
        r.1.scopes = Function.update w.state.scopes i (some { s with pendingJoiner := none })
  /-- A repetition of a committed transaction succeeds and changes nothing when its
  identifiers are those of the row and its snapshot is the stored one; otherwise it is a
  conflict, unless its write is malformed. -/
  repeated : ∀ i s j tx fault m, w.state.scopes i = some s → s.idle = true →
    j ∈ w.state.db.tables.joinerCommits → tx.transactionId = j.transactionId →
      let w₁ := w.after (Store.step policy) (.perform i (.stageJoiner tx fault))
      let w₂ := w₁.after (Store.step policy) (m.call i)
      (w.state.step policy (.perform i (.stageJoiner tx fault))).2 = .unit (.ok ()) ∧
      (w₁.state.step policy (m.call i)).2 = .unit (repeatReply w.state.db.tables j tx m) ∧
      w₂.state.db = w.state.db ∧
      (repeatReply w.state.db.tables j tx m = .ok () → ∀ observer,
        let r := w₂.state.step policy
          (.perform i (.deleteKeyPackage (fixedBytes 32 tx.keyPackageReference) observer))
        r.2 = .unit (.ok ()) ∧ r.1.db = w.state.db ∧ r.1.scopes = w.state.scopes)

section Guarantees

variable {c : Call} {k : ScopeId} {op : Operation} {pending : PendingJoiner} {working : Db}
  {observer : Option FaultObserver}

theorem JoinerSound.removed (h : JoinerSound policy storeId w) {k : KeyPackageRow}
    (hk : k ∈ w.state.db.tables.keyPackages)
    (hgone : k ∉ (w.state.step policy c).1.db.tables.keyPackages) :
    ∃ j state inserts updates, j.keyPackageRef = k.keyPackageRef ∧
      CommitsJoiner w.state.db (w.state.step policy c).1.db j state inserts updates := by
  cases h.step_joiner c with
  | keeps _ htables =>
    rw [joinerTables, Prod.mk.injEq] at htables
    exact absurd (htables.2 ▸ hk) hgone
  | inserts i id pkg row hid htables =>
    rw [htables] at hgone
    exact absurd (List.mem_append_left _ hk) hgone
  | commits i id observer j m _ hcommits =>
    refine ⟨j, m.state, m.inserts, m.updates, ?_, hcommits⟩
    rw [hcommits.tables] at hgone
    by_contra hother
    exact hgone (List.mem_filter.mpr ⟨hk, decide_eq_true fun hsame => hother hsame.symm⟩)

/-- A call of an open scope is its operation, settled. -/
theorem step_of_scope (hs : w.state.scopes i = some s) (op : Operation) :
    w.state.step policy (.perform i op) =
      (w.state.settle i (op.run (w.state.handle policy i) s w.state.db),
        (op.run (w.state.handle policy i) s w.state.db).reply) := by
  simp [Store.step, hs]

/-- While a joiner write waits, only the deletion does anything. -/
theorem refused_while_pending (self : SqlCipherStorage) (db : Db)
    (hpending : s.pendingJoiner ≠ none) (hop : (Call.perform i op).isDeletion i = false) :
    let o := op.run self s db
    o.reply.Refusal ∧ o.scope = s ∧ o.db = db := by
  obtain hquiet | ⟨hinsert, -⟩ | ⟨_, _, _, _, _, _, _, -, hidle, -⟩ | ⟨id, observer, p, rfl, -⟩ :=
    op.run_move self s db
  · exact hquiet.refused hpending
  · exact hinsert.refused hpending
  · exact absurd hidle hpending
  · simp [Call.isDeletion] at hop

theorem pending_refuses_step (hs : w.state.scopes i = some s) (hpending : s.pendingJoiner ≠ none)
    (hop : (Call.perform i op).isDeletion i = false) :
    let r := w.state.step policy (.perform i op)
    r.2.Refusal ∧ r.1.db = w.state.db ∧ r.1.scopes = w.state.scopes := by
  intro r
  obtain ⟨hrefusal, hscope, hdb⟩ := refused_while_pending (w.state.handle policy i) w.state.db
    hpending hop
  unfold r
  rw [step_of_scope hs]
  refine ⟨hrefusal, hdb, ?_⟩
  simp only [Store.settle, hscope, ← hs, Function.update_eq_self]

/-- An open transaction keeps everyone from the committed database. -/
theorem JoinerSound.pending_unchanged (h : JoinerSound policy storeId w)
    (hs : w.state.scopes i = some s) (hpending : s.pendingJoiner = some pending)
    (hworking : pending.working = some working) (hc : c.isDeletion i = false) :
    (w.state.step policy c).1.db = w.state.db := by
  cases c with
  | openScope => simp [Store.step]
  | closeScope k => rfl
  | restart => simp [Store.step]
  | perform k op =>
    by_cases hk : i = k
    · subst hk
      exact (pending_refuses_step hs (by simp [hpending]) hc).2.1
    · obtain hstep | ⟨sₖ, hsₖ, hstep⟩ := Store.step_perform policy w.state k op
      · rw [hstep]
      · rw [hstep]
        exact (h.excluded hk hs hpending hworking hsₖ op).1

/-- A read sees what is committed. -/
theorem read_committed (hs : w.state.scopes i = some s) (hidle : s.pendingJoiner = none)
    (query : Query) : (w.state.step policy (.perform i (.read query))).2 =
      .read (query.answer w.state.db.tables) := by
  rw [step_of_scope hs]
  simp [Operation.run, SqlCipherStorage.read, Answer.toOutcome, hidle]

/-- Another scope is answered from the committed database. -/
theorem Store.step_withWorking (st : Store) (hk : k ≠ i) (op : Operation) (pending : PendingJoiner)
    (copy : Db) : ((st.withWorking i s pending copy).step policy (.perform k op)).2 =
        (st.step policy (.perform k op)).2 ∧
      ((st.withWorking i s pending copy).step policy (.perform k op)).1.db =
        (st.step policy (.perform k op)).1.db := by
  have hscope : (st.withWorking i s pending copy).scopes k = st.scopes k :=
    Function.update_of_ne hk _ _
  simp only [Store.step, hscope]
  cases st.scopes k with
  | none => exact ⟨rfl, rfl⟩
  | some sₖ => exact ⟨rfl, rfl⟩

theorem deleteKeyPackage_stopped (self : SqlCipherStorage) (db : Db) {id : Bytes}
    (hpending : s.pendingJoiner = some pending) (hworking : pending.working = some working)
    (hlength : id.length = 32) (hstop : id ≠ fixedBytes 32 pending.transaction.keyPackageReference ∨
      stopsBeforeCommit pending.fault observer) :
    ∃ e, self.deleteKeyPackage id observer s db =
      ⟨.error e, { s with pendingJoiner := none }, db⟩ := by
  simp only [deleteKeyPackage, hlength, hpending, hworking, ne_eq,
    not_true_eq_false, if_false]
  split
  · exact ⟨_, rfl⟩
  · next hid =>
      cases hrun : (deleteKeyPackageTx pending observer).run working with
      | ok result => exact absurd (hstop.resolve_left hid) (deleteKeyPackageTx_ok hrun).1
      | error failure => exact ⟨_, rfl⟩

theorem scopes_after (hs : w.state.scopes i = some s) :
    (w.after (Store.step policy) (.perform i op)).state.scopes i =
      some (op.run (w.state.handle policy i) s w.state.db).scope := by
  show (w.state.step policy _).1.scopes i = _
  rw [step_of_scope hs]
  exact Function.update_self _ _ _

theorem scopes_after_of_ne (hk : k ≠ i) :
    (w.after (Store.step policy) (.perform i op)).state.scopes k = w.state.scopes k := by
  show (w.state.step policy _).1.scopes k = _
  obtain hstep | ⟨s, -, hstep⟩ := Store.step_perform policy w.state i op
  · rw [hstep]
  · rw [hstep]
    exact Function.update_of_ne hk _ _

theorem JoinerSound.repetition (h : JoinerSound policy storeId w) {j : JoinerCommitRow}
    (tx : JoinerTransaction) (fault : PersistenceFault) (m : MlsWrite)
    (hs : w.state.scopes i = some s) (hidle : s.idle = true)
    (hj : j ∈ w.state.db.tables.joinerCommits) (hid : tx.transactionId = j.transactionId) :
    let w₁ := w.after (Store.step policy) (.perform i (.stageJoiner tx fault))
    let w₂ := w₁.after (Store.step policy) (m.call i)
    (w.state.step policy (.perform i (.stageJoiner tx fault))).2 = .unit (.ok ()) ∧
    (w₁.state.step policy (m.call i)).2 = .unit (repeatReply w.state.db.tables j tx m) ∧
    w₂.state.db = w.state.db ∧ (repeatReply w.state.db.tables j tx m = .ok () → ∀ observer,
      let r := w₂.state.step policy
        (.perform i (.deleteKeyPackage (fixedBytes 32 tx.keyPackageReference) observer))
      r.2 = .unit (.ok ()) ∧ r.1.db = w.state.db ∧ r.1.scopes = w.state.scopes) := by
  intro w₁ w₂
  have hconsumed := h.consumed j hj
  have hstage : (Operation.stageJoiner tx fault).run (w.state.handle policy i) s w.state.db =
      ⟨.unit (.ok ()), { s with stagedJoiner := some ⟨tx, fault⟩ }, w.state.db⟩ := by
    simp only [Scope.idle, Bool.and_eq_true, Option.isNone_iff_eq_none] at hidle
    simp [Operation.run, stageJoiner, Answer.toOutcome, Scope.idle, hidle]
  have hs₁ : w₁.state.scopes i = some { s with stagedJoiner := some ⟨tx, fault⟩ } := by
    rw [scopes_after hs, hstage]
  have hdb₁ : w₁.state.db = w.state.db := by
    show (w.state.step policy _).1.db = _
    rw [step_of_scope hs, hstage]
    rfl
  obtain ⟨hreply, hdb, hscope⟩ := write_repeat (w₁.state.handle policy i) fault m hidle hj hid
    hconsumed
  have hdb₂ : w₂.state.db = w.state.db := by
    show (w₁.state.step policy (m.call i)).1.db = _
    rw [MlsWrite.call, step_of_scope hs₁, hdb₁]
    exact hdb
  refine ⟨?_, ?_, hdb₂, ?_⟩
  · rw [step_of_scope hs, hstage]
  · rw [MlsWrite.call, step_of_scope hs₁, hdb₁]
    exact congrArg Reply.unit hreply
  · intro hok observer r
    have hs₂ : w₂.state.scopes i = some { s with pendingJoiner := some ⟨tx, fault, none⟩ } := by
      rw [← hscope hok]
      unfold w₂
      rw [MlsWrite.call, scopes_after hs₁, hdb₁]
      rfl
    have hgone : ¬keyPackageExistsOn w.state.db.tables tx.keyPackageReference := by
      rw [← row_of_repeatReply hok] at hconsumed
      exact hconsumed
    have hnone : s = { s with pendingJoiner := none } := by
      simp only [Scope.idle, Bool.and_eq_true, Option.isNone_iff_eq_none] at hidle
      rw [← hidle.2]
    unfold r
    rw [step_of_scope hs₂, Operation.run, hdb₂, deleteKeyPackage_repeat rfl hgone]
    refine ⟨rfl, rfl, funext fun k => ?_⟩
    by_cases hk : k = i
    · subst hk
      rw [hs]
      exact (Function.update_self _ _ _).trans (congrArg some hnone.symm)
    · refine (Function.update_of_ne hk _ _).trans ?_
      exact (scopes_after_of_ne hk).trans (scopes_after_of_ne hk)

end Guarantees

/-- In every world of a run the joiner transaction keeps its guarantees. -/
theorem joiner_transaction_atomic (h : JoinerRun policy storeId w) :
    JoinerAtomic policy storeId w where
  committed_together j := by
    constructor
    · intro hj
      obtain ⟨v, c, hv, hc, hbefore, hafter, hrest⟩ :=
        Leads.exists_call (P := fun v => j ∈ v.state.db.tables.joinerCommits) h (by rintro ⟨⟩) hj
      have hsound : JoinerSound policy storeId v := JoinerRun.sound hv
      change j ∈ (v.state.step policy c).1.db.tables.joinerCommits at hafter
      cases hsound.step_joiner c with
      | keeps _ htables =>
        rw [joinerTables, joinerTables, Prod.mk.injEq] at htables
        exact absurd (htables.1 ▸ hafter) hbefore
      | inserts i id pkg row hid htables =>
        rw [htables] at hafter
        exact absurd hafter hbefore
      | commits i id observer row m hwritten hcommits =>
        obtain rfl : j = row := by
          rw [hcommits.tables] at hafter
          exact List.mem_singleton.mp ((List.mem_append.mp hafter).resolve_left hbefore)
        exact ⟨v, i, id, observer, m, hv, hwritten, hcommits, hrest⟩
    · rintro ⟨v, i, id, observer, m, hv, -, hcommits, hrest⟩
      have hafter : JoinerRun policy storeId
          (v.after (Store.step policy) (.perform i (.deleteKeyPackage id observer))) :=
        Leads.tail hv trivial
      refine hafter.sound.joinerCommits_mono hrest ?_
      show j ∈ (v.state.step policy _).1.db.tables.joinerCommits
      rw [hcommits.tables]
      exact List.mem_append_right _ (List.mem_singleton_self _)
  removed_by_commit _ _ hk hgone := h.sound.removed hk hgone
  pending_refuses _ _ _ hs hpending hop := pending_refuses_step hs hpending hop
  pending_hidden _ _ pending _ hs hpending hworking :=
    ⟨(h.sound.locked _ _ _ _ hs hpending hworking).2,
      fun _ hc => h.sound.pending_unchanged hs hpending hworking hc,
      fun _ _ query hsₖ hidle => read_committed hsₖ hidle query,
      fun _ op copy hk => w.state.step_withWorking hk op pending copy⟩
  rolled_back i s pending working _ _ hs hpending hworking hlength hstop := by
    intro r
    obtain ⟨hwriter, v, m, hwrite⟩ := h.sound.locked i s pending working hs hpending hworking
    obtain ⟨e, he⟩ := deleteKeyPackage_stopped (w.state.handle policy i) w.state.db hpending
      hworking hlength hstop
    unfold r
    rw [step_of_scope hs]
    simp only [Operation.run, he, Answer.toOutcome]
    refine ⟨⟨e, rfl⟩, ⟨v, m, hwrite, hwrite.committed.symm⟩, ?_, rfl⟩
    simp [Store.settle, Scope.holdsWriteLock, hwriter]
  repeated _ _ _ tx fault m hs hidle hj hid := h.sound.repetition tx fault m hs hidle hj hid

/-! ## A transaction and its repetition -/

def sampleJoiner : JoinerTransaction := ⟨70, 1, 5⟩

def sampleJoinerWrite : MlsWrite := ⟨⟨fixedBytes 32 1, [9]⟩, [], [], 0, none⟩

/-- A KeyPackage is inserted and consumed by a joiner transaction. -/
def joinerCalls : List Call :=
  [.perform 0 (.insertKeyPackage (fixedBytes 32 5) ⟨[1], [1], [1], 1⟩),
   .perform 0 (.stageJoiner sampleJoiner .none),
   sampleJoinerWrite.call 0,
   .perform 0 (.deleteKeyPackage (fixedBytes 32 5) none)]

/-- The repetition right after the commit is recognised. -/
theorem joiner_transaction_atomic_repeated :
    let w := sampleStore.afterAll (Store.step .phaseOne) joinerCalls
    let w₁ := w.after (Store.step .phaseOne) (.perform 0 (.stageJoiner sampleJoiner .none))
    let w₂ := w₁.after (Store.step .phaseOne) (sampleJoinerWrite.call 0)
    let r := w₂.state.step .phaseOne (.perform 0 (.deleteKeyPackage (fixedBytes 32 5) none))
    sampleJoiner.row ∈ w.state.db.tables.joinerCommits ∧ r.2 = .unit (.ok ()) ∧
      r.1.db = w.state.db := by
  intro w w₁ w₂ r
  have hrun : JoinerRun .phaseOne ⟨7, by decide⟩ w :=
    leads_afterAll (by decide +kernel)
  have hrow : sampleJoiner.row ∈ w.state.db.tables.joinerCommits := by decide +kernel
  have hscope : ∃ s, w.state.scopes 0 = some s ∧ s.idle = true := ⟨_, rfl, by decide +kernel⟩
  have hexact : repeatReply w.state.db.tables sampleJoiner.row sampleJoiner sampleJoinerWrite =
      .ok () := by decide +kernel
  obtain ⟨s, hs, hidle⟩ := hscope
  obtain ⟨-, -, -, hdelete⟩ := (joiner_transaction_atomic hrun).repeated 0 s sampleJoiner.row
    sampleJoiner .none sampleJoinerWrite hs hidle hrow rfl
  exact ⟨hrow, (hdelete hexact none).1, (hdelete hexact none).2.1⟩

/-- Once another commit has advanced the group, the same repetition is a conflict. -/
theorem advanced_group_refuses_repetition :
    let w := sampleStore.afterAll (Store.step .phaseOne)
      (joinerCalls ++ [.openScope] ++ legacyCalls 78)
    let w₁ := w.after (Store.step .phaseOne) (.perform 0 (.stageJoiner sampleJoiner .none))
    JoinerRun .phaseOne ⟨7, by decide⟩ w ∧ sampleJoiner.row ∈ w.state.db.tables.joinerCommits ∧
      (w₁.state.step .phaseOne (sampleJoinerWrite.call 0)).2 = .unit (.error .conflict) := by
  intro w w₁
  have hrun : JoinerRun .phaseOne ⟨7, by decide⟩ w :=
    leads_afterAll (by decide +kernel)
  have hrow : sampleJoiner.row ∈ w.state.db.tables.joinerCommits := by decide +kernel
  have hscope : ∃ s, w.state.scopes 0 = some s ∧ s.idle = true := ⟨_, rfl, by decide +kernel⟩
  have hstale : repeatReply w.state.db.tables sampleJoiner.row sampleJoiner sampleJoinerWrite =
      .error .conflict := by decide +kernel
  obtain ⟨s, hs, hidle⟩ := hscope
  obtain ⟨-, hreply, -⟩ := hrun.sound.repetition sampleJoiner .none sampleJoinerWrite hs hidle
    hrow rfl
  exact ⟨hrun, hrow, hreply.trans (congrArg Reply.unit hstale)⟩

end SessionChat.Storage
