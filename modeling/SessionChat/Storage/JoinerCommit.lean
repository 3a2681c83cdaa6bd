import SessionChat.Storage.JoinerFrame
import SessionChat.Storage.Reachable

/-!
# The joiner transaction (`crates/storage-sqlcipher/src/transactions.rs`)

A joiner write leaves a transaction open that the deletion of the KeyPackage ends.
`Store.step_joiner` says what one call can do to the tables of the joiner; along a run the scope
of the open transaction holds the write lock, so the committed database stays the one that the
write started from.
-/

set_option autoImplicit false

namespace SessionChat.Storage

open Relational Transition Codec SqlCipherStorage

variable {policy : AuthorizationPolicy} {storeId : { id : Id16 // id ≠ 0 }}

/-! ## Runs -/

/-- An inserted KeyPackage does not bring back a reference that was consumed. -/
def Call.Unconsumed (db : Db) : Call → Prop
  | .perform _ (.insertKeyPackage id _) =>
      ∀ j ∈ db.tables.joinerCommits, toFixed 32 id ≠ some j.keyPackageRef
  | _ => True

instance (db : Db) (c : Call) : Decidable (c.Unconsumed db) := by
  unfold Call.Unconsumed
  split
  · exact inferInstanceAs (Decidable (∀ j ∈ _, _))
  · exact .isTrue trivial

/-- Calls that reinsert no consumed KeyPackage lead from one world to another. -/
def JoinerLeads (policy : AuthorizationPolicy) : StoreWorld → StoreWorld → Prop :=
  Leads (Store.step policy) fun w c => c.Unconsumed w.state.db

/-- The worlds that such calls reach from a new store. -/
def JoinerRun (policy : AuthorizationPolicy) (storeId : { id : Id16 // id ≠ 0 })
    (w : StoreWorld) : Prop :=
  JoinerLeads policy (StoreWorld.created policy storeId) w

/-! ## The two halves of the transaction -/

/-- One step from `db` to `db'` commits the row `j` together with the snapshot of its
group and the removal of its KeyPackage, and does nothing else. -/
structure CommitsJoiner (db db' : Db) (j : JoinerCommitRow) (state : GroupState)
    (inserts updates : List EpochRecord) : Prop where
  group : state.id = fixedBytes 32 j.groupId
  unused : ∀ k ∈ db.tables.joinerCommits, k.transactionId ≠ j.transactionId
  present : keyPackageExistsOn db.tables j.keyPackageRef
  tables : db'.tables =
    { db.tables.withSnapshot state inserts updates with
      joinerCommits := db.tables.joinerCommits ++ [j]
      keyPackages := db.tables.keyPackages.filter fun k =>
        decide (k.keyPackageRef ≠ j.keyPackageRef) }

def JoinerTransaction.row (tx : JoinerTransaction) : JoinerCommitRow :=
  ⟨tx.transactionId, tx.groupId, tx.keyPackageReference⟩

section Halves

variable {db db' working : Db} {tx : JoinerTransaction} {state : GroupState}
  {inserts updates : List EpochRecord} {observer : Option FaultObserver}

/-- What the open transaction holds. -/
theorem beginJoinerTx_ok {u : Unit}
    (h : (beginJoinerTx tx state inserts updates observer).run db =
      .ok (u, working)) : keyPackageExistsOn db.tables tx.keyPackageReference ∧
      working.tables = { db.tables.withSnapshot state inserts updates with
        joinerCommits := db.tables.joinerCommits ++ [tx.row] } := by
  simp only [beginJoinerTx, emitFaultCheckpoint, run_bind_eq_ok, run_refuse_eq_ok,
    run_insertInto_eq_ok] at h
  obtain ⟨_, _, ⟨rfl, rfl⟩, _, _, ⟨hexists, rfl⟩, _, db₁, hmls, _, db₂, hinsert, -, rfl⟩ := h
  refine ⟨not_not.mp hexists, ?_⟩
  rw [hinsert, persistMls_ok hmls]
  rfl

/-- A fault that stops the second half before its `COMMIT`. -/
def stopsBeforeCommit (fault : PersistenceFault)
    (observer : Option FaultObserver) : Prop :=
  fault = .beforeCommit ∨ ∃ o ∈ observer, o .joinerBeforeKeyPackageDelete 0 = false ∨
    o .joinerAfterKeyPackageDelete 0 = false ∨ o .joinerBeforeCommit 0 = false

variable {pending : PendingJoiner}

/-- What the second half does when it reaches its `COMMIT`. -/
theorem deleteKeyPackageTx_ok {reply : Except StoreError Unit}
    (h : (deleteKeyPackageTx pending observer).run working = .ok (reply, db')) :
    ¬stopsBeforeCommit pending.fault observer ∧
      db'.tables = { working.tables with
        keyPackages := working.tables.keyPackages.filter fun k =>
          decide (k.keyPackageRef ≠ pending.transaction.keyPackageReference) } := by
  simp only [deleteKeyPackageTx, emitFaultCheckpoint, run_bind_eq_ok, run_deleteFrom_eq_ok,
    run_refuse_eq_ok] at h
  obtain ⟨_, _, ⟨hbefore, rfl⟩, _, _, ⟨rfl, rfl⟩, _, db₁, hdelete, _, _, ⟨-, rfl⟩, _, _,
    ⟨hafter, rfl⟩, _, _, ⟨hcommit, rfl⟩, _, _, ⟨hfault, rfl⟩, -, rfl⟩ := h
  refine ⟨?_, ?_⟩
  · rintro (hstop | ⟨o, ho, hstop | hstop | hstop⟩)
    · exact hfault hstop
    · exact hbefore ⟨o, ho, hstop⟩
    · exact hafter ⟨o, ho, hstop⟩
    · exact hcommit ⟨o, ho, hstop⟩
  · rw [hdelete]
    simp only [keyPackages, decide_not]

/-- A joiner write that opened a transaction ran its first half on the committed
database, for a transaction that was not committed yet. -/
theorem beginJoiner_working {self : SqlCipherStorage} {staged : StagedJoiner}
    (h : self.beginJoiner staged state inserts updates observer db = .ok pending)
    (hworking : pending.working = some working) :
    self.busy = false ∧ state.id = fixedBytes 32 pending.transaction.groupId ∧
      (∀ j ∈ db.tables.joinerCommits, j.transactionId ≠ pending.transaction.transactionId) ∧
      (beginJoinerTx pending.transaction state inserts updates observer).run
        db = .ok ((), working) := by
  unfold beginJoiner at h
  split at h
  · cases h
  · next hid =>
      split at h
      · split at h
        · cases h
        · cases h
          cases hworking
      · next hnew =>
          split at h
          · cases h
          · next hfree =>
              rw [not_or, Bool.not_eq_true] at hfree
              split at h
              · next hrun =>
                  cases h
                  cases hworking
                  exact ⟨hfree.2, not_not.mp hid, fun j hj hsame => hnew ⟨j, hj, hsame⟩, hrun⟩
              · cases h

end Halves

/-! ## One call -/

structure MlsWrite where
  state : GroupState
  inserts : List EpochRecord
  updates : List EpochRecord
  elapsed : Nat
  observer : Option FaultObserver

/-- The write as a call on scope `i`. -/
def MlsWrite.call (m : MlsWrite) (i : ScopeId) : Call :=
  .perform i (.write m.state m.inserts m.updates m.elapsed m.observer)

/-- The transaction that scope `i` has open in `w` was begun by the write `m` in the
world `v`, whose committed database is still the committed one. -/
structure WriteOf (policy : AuthorizationPolicy) (storeId : { id : Id16 // id ≠ 0 })
    (w : StoreWorld) (i : ScopeId) (pending : PendingJoiner) (working : Db) (v : StoreWorld)
    (m : MlsWrite) : Prop where
  start : JoinerRun policy storeId v
  accepted : (v.state.step policy (m.call i)).2 = .unit (.ok ())
  since : JoinerLeads policy (v.after (Store.step policy) (m.call i)) w
  committed : v.state.db = w.state.db
  group : m.state.id = fixedBytes 32 pending.transaction.groupId
  unused : ∀ j ∈ v.state.db.tables.joinerCommits,
    j.transactionId ≠ pending.transaction.transactionId
  run : (beginJoinerTx pending.transaction m.state m.inserts m.updates
    m.observer).run v.state.db = .ok ((), working)

/-- What holds of the joiner's side between calls. -/
structure JoinerSound (policy : AuthorizationPolicy) (storeId : { id : Id16 // id ≠ 0 })
    (w : StoreWorld) : Prop where
  run : JoinerRun policy storeId w
  /-- A scope with an open transaction holds the write lock. -/
  locked : ∀ i s pending working, w.state.scopes i = some s → s.pendingJoiner = some pending →
    pending.working = some working →
      w.state.writer = some i ∧ ∃ v m, WriteOf policy storeId w i pending working v m
  /-- A consumed KeyPackage is gone. -/
  consumed : ∀ j ∈ w.state.db.tables.joinerCommits,
    ¬keyPackageExistsOn w.state.db.tables j.keyPackageRef

/-- What a call can do to the tables of the joiner. -/
inductive JoinerStep (w : StoreWorld) (db' : Db) : Call → Prop where
  | keeps (c : Call) (htables : joinerTables db'.tables = joinerTables w.state.db.tables) :
      JoinerStep w db' c
  | inserts (i : ScopeId) (id : Bytes) (pkg : SqlCipherStorage.KeyPackageData)
      (row : KeyPackageRow) (hid : toFixed 32 id = some row.keyPackageRef)
      (htables : db'.tables =
        { w.state.db.tables with keyPackages := w.state.db.tables.keyPackages ++ [row] }) :
      JoinerStep w db' (.perform i (.insertKeyPackage id pkg))
  | commits (i : ScopeId) (id : Bytes) (observer : Option FaultObserver) (j : JoinerCommitRow)
      (m : MlsWrite) (hwritten : ⟨m.call i, .unit (.ok ())⟩ ∈ w.history)
      (hcommits : CommitsJoiner w.state.db db' j m.state m.inserts m.updates) :
      JoinerStep w db' (.perform i (.deleteKeyPackage id observer))

section Steps

variable {w v : StoreWorld} {i k : ScopeId} {s : Scope} {pending : PendingJoiner} {working : Db}
  {m : MlsWrite} {c : Call}

section

variable (h : WriteOf policy storeId w i pending working v m)
include h

/-- The write that opened a transaction is in the history. -/
theorem WriteOf.written : ⟨m.call i, .unit (.ok ())⟩ ∈ w.history := by
  refine Leads.history_subset h.since (List.mem_append_right _ ?_)
  rw [h.accepted]
  exact List.mem_singleton_self _

/-- Both halves together. -/
theorem WriteOf.commits {db' : Db} {observer : Option FaultObserver}
    {reply : Except StoreError Unit}
    (hdelete : (deleteKeyPackageTx pending observer).run working =
      .ok (reply, db')) :
    CommitsJoiner w.state.db db' pending.transaction.row m.state m.inserts m.updates := by
  obtain ⟨hexists, hworking⟩ := beginJoinerTx_ok h.run
  rw [h.committed] at hexists hworking
  refine ⟨h.group, h.committed ▸ h.unused, hexists, ?_⟩
  rw [(deleteKeyPackageTx_ok hdelete).2, hworking]
  rfl

end

theorem JoinerSound.step_joiner (h : JoinerSound policy storeId w) (c : Call) :
    JoinerStep w (w.state.step policy c).1.db c := by
  cases c with
  | openScope => exact .keeps _ (by simp [Store.step])
  | closeScope i => exact .keeps _ rfl
  | restart => exact .keeps _ (by simp [Store.step])
  | perform i op =>
    obtain hstep | ⟨s, hs, hstep⟩ := Store.step_perform policy w.state i op
    · rw [hstep]
      exact .keeps _ rfl
    · rw [hstep]
      show JoinerStep w (op.run (w.state.handle policy i) s w.state.db).db _
      obtain hquiet | ⟨-, id, pkg, row, rfl, hid, htables⟩ |
        ⟨state, inserts, updates, elapsed, observer, staged, pending, -, -, -, -, hout⟩ |
        ⟨id, observer, pending, rfl, hpending, -, hdb⟩ :=
        op.run_move (w.state.handle policy i) s w.state.db
      · exact .keeps _ hquiet.tables
      · exact .inserts i id pkg row hid htables
      · rw [hout]
        exact .keeps _ rfl
      · obtain hdb | ⟨working, reply, hworking, hrun⟩ := hdb
        · rw [hdb]
          exact .keeps _ rfl
        · obtain ⟨-, v, m, hwrite⟩ := h.locked i s pending working hs hpending hworking
          exact .commits i id observer _ m hwrite.written (hwrite.commits hrun)

/-! ## What a run keeps -/

/-- The same open transaction one call later, if that call left the database alone. -/
theorem WriteOf.after (h : WriteOf policy storeId w i pending working v m)
    (hc : c.Unconsumed w.state.db) (hdb : (w.state.step policy c).1.db = w.state.db) :
    WriteOf policy storeId (w.after (Store.step policy) c) i pending working v m :=
  { h with
    since := h.since.tail hc
    committed := h.committed.trans hdb.symm }

section

variable (h : JoinerSound policy storeId w)
include h

/-- While scope `k` has a transaction open, no other scope writes or opens one. -/
theorem JoinerSound.excluded {sₖ : Scope} (hne : k ≠ i) (hk : w.state.scopes k = some sₖ)
    (hpending : sₖ.pendingJoiner = some pending) (hworking : pending.working = some working)
    (hs : w.state.scopes i = some s) (op : Operation) :
    let o := op.run (w.state.handle policy i) s w.state.db
    o.db = w.state.db ∧ o.scope.holdsWriteLock = false := by
  intro o
  have hwriter := (h.locked k sₖ pending working hk hpending hworking).1
  have hbusy : (w.state.handle policy i).busy = true := by
    simp [Store.handle, hwriter, hne]
  -- a transaction of this scope would hold the lock
  have hown : ∀ p copy, s.pendingJoiner = some p → p.working ≠ some copy := by
    intro p copy hp hcopy
    have := (h.locked i s p copy hs hp hcopy).1
    rw [hwriter, Option.some.injEq] at this
    exact hne this
  have hlock : s.holdsWriteLock = false := by
    rw [Scope.holdsWriteLock]
    cases hp : s.pendingJoiner with
    | none => rfl
    | some p =>
      cases hcopy : p.working with
      | none => simp [hcopy]
      | some copy => exact absurd hcopy (hown p copy hp)
  have hshut : Shut (w.state.handle policy i) s w.state.db o →
      o.db = w.state.db ∧ o.scope.holdsWriteLock = false := by
    intro hshut
    refine ⟨hshut.exclusive.resolve_right (by simp [hbusy]), ?_⟩
    rw [Scope.holdsWriteLock, hshut.pending]
    exact hlock
  obtain hquiet | ⟨hinsert, -⟩ |
    ⟨state, inserts, updates, elapsed, observer, staged, p, -, -, -, hbegin, hout⟩ |
    ⟨id, observer, p, -, hp, hscope, hdb⟩ := op.run_move (w.state.handle policy i) s w.state.db
  · exact hshut hquiet.toShut
  · exact hshut hinsert
  · refine ⟨congrArg Outcome.db hout, ?_⟩
    rw [Scope.holdsWriteLock, congrArg Outcome.scope hout]
    cases hcopy : p.working with
    | none => simp [hcopy]
    | some copy =>
      have := (beginJoiner_working hbegin hcopy).1
      rw [hbusy] at this
      cases this
  · refine ⟨hdb.resolve_right ?_, ?_⟩
    · rintro ⟨copy, reply, hcopy, -⟩
      exact hown p copy hp hcopy
    · rw [hscope]
      rfl

/-- The scope that acted holds the lock if it now has a transaction open. -/
theorem JoinerSound.own_write {op : Operation} (hc : (Call.perform i op).Unconsumed w.state.db)
    (hs : w.state.scopes i = some s)
    (hpending : (op.run (w.state.handle policy i) s w.state.db).scope.pendingJoiner = some pending)
    (hworking : pending.working = some working) :
    ∃ v m, WriteOf policy storeId (w.after (Store.step policy) (.perform i op)) i pending working
      v m := by
  have hstep : w.state.step policy (.perform i op) =
      (w.state.settle i (op.run (w.state.handle policy i) s w.state.db),
        (op.run (w.state.handle policy i) s w.state.db).reply) := by
    simp [Store.step, hs]
  have hshut : Shut (w.state.handle policy i) s w.state.db
      (op.run (w.state.handle policy i) s w.state.db) →
      ∃ v m, WriteOf policy storeId (w.after (Store.step policy) (.perform i op)) i pending
        working v m := by
    intro hshut
    rw [hshut.pending] at hpending
    obtain ⟨-, v, m, hwrite⟩ := h.locked i s pending working hs hpending hworking
    refine ⟨v, m, hwrite.after hc ?_⟩
    rw [hstep]
    exact (hshut.refused (by simp [hpending])).2.2
  obtain hquiet | ⟨hinsert, -⟩ |
    ⟨state, inserts, updates, elapsed, observer, staged, p, rfl, -, -, hbegin, hout⟩ |
    ⟨id, observer, p, -, hp, hscope, -⟩ := op.run_move (w.state.handle policy i) s w.state.db
  · exact hshut hquiet.toShut
  · exact hshut hinsert
  · have hp : p = pending := by
      rw [hout] at hpending
      exact Option.some.inj hpending
    subst hp
    obtain ⟨-, hgroup, hunused, hrun⟩ := beginJoiner_working hbegin hworking
    refine ⟨w, ⟨state, inserts, updates, elapsed, observer⟩, h.run, ?_, .refl _, ?_, hgroup,
      hunused, hrun⟩
    · rw [MlsWrite.call, hstep, hout]
    · show w.state.db = (w.state.step policy _).1.db
      rw [hstep, hout]
      rfl
  · rw [hscope] at hpending
    cases hpending

section

variable (hc : c.Unconsumed w.state.db)
include hc

/-- Consumed KeyPackages stay away. -/
theorem JoinerSound.consumed_after :
    ∀ j ∈ (w.state.step policy c).1.db.tables.joinerCommits,
      ¬keyPackageExistsOn (w.state.step policy c).1.db.tables j.keyPackageRef := by
  intro j hj ⟨k, hk, hsame⟩
  cases h.step_joiner c with
  | keeps _ htables =>
    rw [joinerTables, Prod.mk.injEq] at htables
    rw [htables.1] at hj
    rw [htables.2] at hk
    exact h.consumed j hj ⟨k, hk, hsame⟩
  | inserts i id pkg row hid htables =>
    rw [htables] at hj hk
    obtain hk | hk := List.mem_append.mp hk
    · exact h.consumed j hj ⟨k, hk, hsame⟩
    · obtain rfl := List.mem_singleton.mp hk
      exact hc j hj (hsame ▸ hid)
  | commits i id observer row m _ hcommits =>
    rw [hcommits.tables] at hj hk
    obtain ⟨hk, hother⟩ := List.mem_filter.mp hk
    obtain hj | hj := List.mem_append.mp hj
    · exact h.consumed j hj ⟨k, hk, hsame⟩
    · obtain rfl := List.mem_singleton.mp hj
      exact of_decide_eq_true hother hsame

theorem JoinerSound.locked_after :
    ∀ k sₖ pending working, (w.state.step policy c).1.scopes k = some sₖ →
      sₖ.pendingJoiner = some pending → pending.working = some working →
        (w.state.step policy c).1.writer = some k ∧
          ∃ v m, WriteOf policy storeId (w.after (Store.step policy) c) k pending working v m := by
  intro k sₖ pending working hk hpending hworking
  -- a scope that is as it was, when its lock and the database are
  have hsame : w.state.scopes k = some sₖ →
      (w.state.writer = some k → (w.state.step policy c).1.writer = some k) →
      (w.state.step policy c).1.db = w.state.db →
      (w.state.step policy c).1.writer = some k ∧
        ∃ v m, WriteOf policy storeId (w.after (Store.step policy) c) k pending working v m := by
    intro hold hlock hdb
    obtain ⟨hwriter, v, m, hwrite⟩ := h.locked k sₖ pending working hold hpending hworking
    exact ⟨hlock hwriter, v, m, hwrite.after hc hdb⟩
  cases c with
  | openScope =>
    obtain rfl | hold := Store.openScope_scopes hk
    · cases hpending
    · exact hsame hold (by simp [Store.step]) (by simp [Store.step])
  | closeScope i =>
    have hne : k ≠ i := by
      rintro rfl
      simp [Store.step, Store.closeScope] at hk
    simp only [Store.step, Store.closeScope, ne_eq, hne, not_false_eq_true,
      Function.update_of_ne] at hk
    refine hsame hk (fun hwriter => ?_) rfl
    simp [Store.step, Store.closeScope, hwriter, hne]
  | restart =>
    obtain rfl | hold := Store.openScope_scopes hk
    · cases hpending
    · cases hold
  | perform i op =>
    obtain hstep | ⟨s, hs, hstep⟩ := Store.step_perform policy w.state i op
    · rw [hstep] at hk
      exact hsame hk (by simp [hstep]) (by simp [hstep])
    · by_cases hne : k = i
      · subst hne
        rw [hstep] at hk
        simp only [Store.settle, Function.update_self, Option.some.injEq] at hk
        subst hk
        refine ⟨?_, h.own_write hc hs hpending hworking⟩
        simp [hstep, Store.settle, Scope.holdsWriteLock, hpending, hworking]
      · rw [hstep] at hk
        simp only [Store.settle, ne_eq, hne, not_false_eq_true, Function.update_of_ne] at hk
        obtain ⟨hdb, hlock⟩ := h.excluded hne hk hpending hworking hs op
        refine hsame hk (fun hwriter => ?_) ?_
        · simp [hstep, Store.settle, hlock, hwriter, hne]
        · rw [hstep]
          exact hdb

theorem JoinerSound.after :
    JoinerSound policy storeId (w.after (Store.step policy) c) where
  run := h.run.tail hc
  locked := h.locked_after hc
  consumed := h.consumed_after hc

end

end

theorem JoinerSound.created (policy : AuthorizationPolicy) (storeId : { id : Id16 // id ≠ 0 }) :
    JoinerSound policy storeId (StoreWorld.created policy storeId) where
  run := .refl _
  locked := by
    intro i s pending working hs hpending
    by_cases hi : i = 0
    · subst hi
      simp only [StoreWorld.created, Store.created, Function.update_self,
        Option.some.injEq] at hs
      subst hs
      cases hpending
    · simp [StoreWorld.created, Store.created, hi] at hs
  consumed := by
    intro j hj
    cases hj

theorem JoinerRun.sound (h : JoinerRun policy storeId w) : JoinerSound policy storeId w :=
  Leads.invariant (fun _ _ hc hw => hw.after hc) h (.created policy storeId)

theorem JoinerSound.joinerCommits_subset (h : JoinerSound policy storeId w) (c : Call) :
    w.state.db.tables.joinerCommits ⊆ (w.state.step policy c).1.db.tables.joinerCommits := by
  cases h.step_joiner c with
  | keeps _ htables =>
    rw [joinerTables, Prod.mk.injEq] at htables
    rw [htables.1]
    exact List.Subset.refl _
  | inserts i id pkg row hid htables =>
    rw [htables]
    exact List.Subset.refl _
  | commits i id observer row m _ hcommits =>
    rw [hcommits.tables]
    exact List.subset_append_left _ _

theorem JoinerSound.joinerCommits_mono {w' : StoreWorld} (h : JoinerSound policy storeId w)
    (hrun : JoinerLeads policy w w') :
    w.state.db.tables.joinerCommits ⊆ w'.state.db.tables.joinerCommits := by
  refine (Leads.invariant (I := fun v => JoinerSound policy storeId v ∧
    w.state.db.tables.joinerCommits ⊆ v.state.db.tables.joinerCommits) ?_ hrun
    ⟨h, List.Subset.refl _⟩).2
  intro v c hc ⟨hv, hsubset⟩
  exact ⟨hv.after hc, List.Subset.trans hsubset (hv.joinerCommits_subset c)⟩

end Steps

end SessionChat.Storage
