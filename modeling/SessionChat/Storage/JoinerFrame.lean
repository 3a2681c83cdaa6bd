import SessionChat.Relational.Frame
import SessionChat.Storage.Operations

/-!
# What the other operations leave to the joiner (`crates/storage-sqlcipher/src/transactions.rs`)

Only the two halves of a joiner transaction write `joiner_commits` or delete a KeyPackage,
and only the insertion of a KeyPackage adds one. Every other operation keeps both tables
and a waiting joiner write, and is refused while one waits.
-/

set_option autoImplicit false

namespace SessionChat.Storage

open Relational Codec SqlCipherStorage

/-- The tables that a joiner transaction owns. -/
def joinerTables (t : Tables) : List JoinerCommitRow × List KeyPackageRow :=
  (t.joinerCommits, t.keyPackages)

theorem openings_outside : Outside joinerTables openings := fun _ _ => rfl

theorem attempts_outside : Outside joinerTables attempts := fun _ _ => rfl

theorem reservations_outside : Outside joinerTables reservations := fun _ _ => rfl

theorem inviterJoins_outside : Outside joinerTables inviterJoins := fun _ _ => rfl

/-! ## The statements -/

section Bodies

variable {now : Nat} {handle : AuthorizationHandle} {protector : InvitationJoinProtector}

theorem storeIdOn_keeps : Keeps joinerTables storeIdOn :=
  .bind (.select _) fun _ => .bind (.require _ _) fun _ => .bind (.refuse _ _) fun _ => .pure _

/-- An update that must select one row. -/
theorem updateOne_keeps {ρ : Type} {T : TableOf Tables ρ} (h : Outside joinerTables T)
    (p : ρ → Bool) (f : ρ → ρ) (e : StoreError) :
    Keeps joinerTables (do
      let changed ← updateWhere T p f
      refuse (changed ≠ 1) e : StoreTx Unit) :=
  .bind (.updateWhere h _ _) fun _ => .refuse _ _

theorem compactExpiredAuthorizationState_keeps :
    Keeps joinerTables (compactExpiredAuthorizationState now) :=
  .bind (.select _) fun _ => .bind (.updateWhere openings_outside _ _) fun _ =>
    .bind (.deleteFrom attempts_outside _) fun _ =>
    .bind (.updateWhere openings_outside _ _) fun _ => .deleteFrom openings_outside _

theorem validateAuthorizationHandle_keeps (expected : AuthorizationState) :
    Keeps joinerTables (validateAuthorizationHandle handle expected) :=
  .bind storeIdOn_keeps fun _ => .bind (.refuse _ _) fun _ => .bind (.select _) fun _ =>
    .refuse _ _

theorem authorizationIsExpired_keeps : Keeps joinerTables (authorizationIsExpired handle now) :=
  .bind (.select _) fun _ => .bind (.require _ _) fun _ => .pure _

theorem releaseOpeningContext_keeps (id : Id16) (generation : Generation) :
    Keeps joinerTables (releaseOpeningContext protector id generation now) :=
  .bind (.select _) fun _ => .bind (.require _ _) fun _ => .bind (.refuse _ _) fun _ =>
    updateOne_keeps openings_outside _ _ _

theorem abandonExpiredAuthorization_keeps (expected : AuthorizationState) :
    Keeps joinerTables (abandonExpiredAuthorization handle expected protector now) :=
  .bind (updateOne_keeps attempts_outside _ _ _) fun _ => releaseOpeningContext_keeps _ _

theorem persistOpeningContext_keeps (policy : AuthorizationPolicy)
    (generated : GeneratedCapabilityInvitationV2) (issuedAt expiresAt : Nat) :
    Keeps joinerTables (persistOpeningContext policy generated issuedAt expiresAt now) :=
  .bind compactExpiredAuthorizationState_keeps fun _ => .bind (.select _) fun _ =>
    .bind (.refuse _ _) fun _ => .bind (.insertInto openings_outside _) fun _ => .pure _

theorem terminalizeAndReject_keeps {α : Type} (id : Id16) :
    Keeps joinerTables (terminalizeAndReject id : StoreTx (Except StoreError α)) :=
  .bind (updateOne_keeps openings_outside _ _ _) fun _ => .pure _

theorem loadCapabilityInvitationTx_keeps (id : Id16) :
    Keeps joinerTables (loadCapabilityInvitationTx protector id now) := by
  refine .bind (.select _) fun rows => ?_
  split
  · exact .pure _
  · refine .bind (.refuse _ _) fun _ => .ite (terminalizeAndReject_keeps _) ?_
    split
    · exact terminalizeAndReject_keeps _
    · exact .ite (.pure _) (terminalizeAndReject_keeps _)

theorem reserveAuthorizationTx_keeps (policy : AuthorizationPolicy)
    (input : AuthorizationShadowInput) (draws : Fin 4 → Id16) :
    Keeps joinerTables (reserveAuthorizationTx policy protector input now draws) := by
  refine .bind compactExpiredAuthorizationState_keeps fun _ => .bind (.select _) fun _ =>
    .bind (.refuse _ _) fun _ => .bind (.refuse _ _) fun _ => .bind (.require _ _) fun _ =>
    .bind (.refuse _ _) fun _ => ?_
  split
  · exact terminalizeAndReject_keeps _
  · exact .bind (.refuse _ _) fun _ => .bind (.require _ _) fun _ =>
      .bind (.insertInto attempts_outside _) fun _ =>
      .bind (.updateWhere openings_outside _ _) fun _ => .bind (.refuse _ _) fun _ =>
      .bind storeIdOn_keeps fun _ => .pure _

theorem approveAuthorizationTx_keeps :
    Keeps joinerTables (approveAuthorizationTx handle protector now) :=
  .bind (validateAuthorizationHandle_keeps _) fun _ => .bind authorizationIsExpired_keeps fun _ =>
    .ite (.bind (abandonExpiredAuthorization_keeps _) fun _ => .pure _)
      (.bind (.updateWhere attempts_outside _ _) fun _ => .bind (.refuse _ _) fun _ => .pure _)

theorem beginMembershipAuthorizationTx_keeps (transactionId : Id16) :
    Keeps joinerTables (beginMembershipAuthorizationTx handle transactionId protector now) :=
  .bind (validateAuthorizationHandle_keeps _) fun _ => .bind authorizationIsExpired_keeps fun _ =>
    .ite (.bind (abandonExpiredAuthorization_keeps _) fun _ => .pure _)
      (.bind (.updateWhere attempts_outside _ _) fun _ => .bind (.refuse _ _) fun _ => .pure _)

theorem settleAuthorizationTx_keeps (expected next : AuthorizationState) :
    Keeps joinerTables (settleAuthorizationTx expected next handle protector now) :=
  .bind (validateAuthorizationHandle_keeps _) fun _ =>
    .bind (updateOne_keeps attempts_outside _ _ _) fun _ =>
    .bind (releaseOpeningContext_keeps _ _) fun _ => .pure _

theorem abandonPreMembership_keeps (rows : List AttemptRow) :
    Keeps joinerTables (abandonPreMembership protector now rows) := by
  induction rows with
  | nil => exact .pure _
  | cons a rest ih =>
    exact .bind (.updateWhere attempts_outside _ _) fun _ => .bind (.refuse _ _) fun _ =>
      .bind (releaseOpeningContext_keeps _ _) fun _ => ih

theorem recoverPreMembershipAuthorizationsTx_keeps (live : List Id16) :
    Keeps joinerTables (recoverPreMembershipAuthorizationsTx live protector now) :=
  .bind (.select _) fun _ => .bind (.refuse _ _) fun _ =>
    .bind (abandonPreMembership_keeps _) fun _ => .pure _

theorem resolveUnknownOutcome_keeps (a : AttemptRow) (attemptId transactionId : Id16)
    (joined : Bool) : Keeps joinerTables
      (resolveUnknownOutcome a attemptId transactionId joined protector now) :=
  .bind (.ite (updateOne_keeps openings_outside _ _ _) (releaseOpeningContext_keeps _ _)) fun _ =>
    .bind (.updateWhere attempts_outside _ _) fun _ => .bind (.refuse _ _) fun _ => .pure _

theorem recoverAuthorizationOutcomeTx_keeps (attemptId transactionId : Id16) :
    Keeps joinerTables (recoverAuthorizationOutcomeTx attemptId transactionId protector now) := by
  refine .bind (.select _) fun _ => .bind (.require _ _) fun a => .bind (.refuse _ _) fun _ => ?_
  split
  · exact .bind (.refuse _ _) fun _ => .bind (.refuse _ _) fun _ => .pure _
  · exact .bind (.refuse _ _) fun _ => .pure _
  · exact resolveUnknownOutcome_keeps _ _ _ _
  all_goals exact .raise _

theorem seedReservationTx_keeps (row : ReservationRow) :
    Keeps joinerTables (seedReservationTx row) :=
  .bind (.select _) fun _ => .bind (.refuse _ _) fun _ =>
    .bind (.insertInto reservations_outside _) fun _ => .pure _

/-- A snapshot touches neither table. -/
theorem persistMls_keeps (state : GroupState) (inserts updates : List EpochRecord)
    (observer : Option FaultObserver) (scenario : Scenario) :
    Keeps joinerTables (persistMls state inserts updates observer scenario) := by
  intro db u db' hrun
  rw [persistMls_ok hrun]
  rfl

variable (staged : StagedInviter) (commit : InviterJoinTransaction)

theorem checkAuthority_keeps : Keeps joinerTables (checkAuthority staged commit now) := by
  unfold checkAuthority
  split
  · split
    · exact .raise _
    · exact .bind storeIdOn_keeps fun _ => .bind (.select _) fun _ => .refuse _ _
  · exact .bind (.select _) fun _ => .refuse _ _

theorem insertConsumedReservation_keeps :
    Keeps joinerTables (insertConsumedReservation staged commit) := by
  unfold insertConsumedReservation
  split
  · exact .pure _
  · exact .bind (.select _) fun _ => .bind (.require _ _) fun _ =>
      .insertInto reservations_outside _

theorem consumeInvitation_keeps : Keeps joinerTables (consumeInvitation staged commit) := by
  unfold consumeInvitation
  split
  · exact .bind (.updateWhere attempts_outside _ _) fun _ => .bind (.refuse _ _) fun _ =>
      updateOne_keeps openings_outside _ _ _
  · exact updateOne_keeps reservations_outside _ _ _

theorem commitInviterTx_keeps (state : GroupState) (inserts updates : List EpochRecord)
    (elapsed : Nat) (observer : Option FaultObserver) :
    Keeps joinerTables
      (commitInviterTx staged commit state inserts updates elapsed observer) :=
  .bind (.require _ _) fun _ => .bind (.refuse _ _) fun _ => .bind (.refuse _ _) fun _ =>
    .bind (checkAuthority_keeps _ _) fun _ => .bind (.select _) fun _ =>
    .ite (.bind (.refuse _ _) fun _ => .pure _)
      (.bind (.bind (.select _) fun _ => .refuse _ _) fun _ =>
        .bind (.bind (persistMls_keeps _ _ _ _ _) fun _ =>
          .bind (insertConsumedReservation_keeps _ _) fun _ =>
          .bind (.insertInto inviterJoins_outside _) fun _ => .bind (.refuse _ _) fun _ =>
          .bind (consumeInvitation_keeps _ _) fun _ => .bind (.refuse _ _) fun _ =>
          .bind (.refuse _ _) fun _ => .refuse _ _) fun _ => .pure _)

theorem updateJoins_keeps (p : InviterJoinRow → Bool) (f : InviterJoinRow → InviterJoinRow) :
    Keeps joinerTables (updateWhere inviterJoins p f : OutboxTx Nat) :=
  .updateWhere inviterJoins_outside _ _

variable (lease : SqlCipherWelcomeLease)

theorem checkLeaseStore_keeps :
    Keeps joinerTables (checkLeaseStore lease) :=
  .bind (.mapError storeIdOn_keeps) fun _ => .refuse _ _

theorem leaseNextTx_keeps (scope : ScopeId) (leaseExpiresAt : Nat) (draws : Fin 4 → Id16) :
    Keeps joinerTables (leaseNextTx scope now leaseExpiresAt draws) := by
  refine .bind (.bind (updateJoins_keeps _ _) fun _ => .bind (updateJoins_keeps _ _) fun _ =>
    .pure _) fun _ => .bind (.select _) fun rows => ?_
  cases rows with
  | nil => exact .pure _
  | cons candidate _ =>
    exact .bind (.refuse _ _) fun _ => .bind (.refuse _ _) fun _ => .bind (.require _ _) fun _ =>
      .bind (.mapError storeIdOn_keeps) fun _ => .bind (updateJoins_keeps _ _) fun _ =>
      .bind (.refuse _ _) fun _ => .pure _

theorem reportAcceptedTx_keeps :
    Keeps joinerTables (reportAcceptedTx lease now) :=
  .bind (checkLeaseStore_keeps _) fun _ => .bind (updateJoins_keeps _ _) fun _ =>
    .ite (.pure _) (.bind (updateJoins_keeps _ _) fun _ => .pure _)

theorem reportFailedTx_keeps :
    Keeps joinerTables (reportFailedTx lease) :=
  .bind (checkLeaseStore_keeps _) fun _ => .bind (updateJoins_keeps _ _) fun _ =>
    .bind (.refuse _ _) fun _ => .pure _

end Bodies

/-! ## The operations -/

/-- The call was answered with an error. -/
def Reply.Refusal : Reply → Prop
  | .notOpen | .closed => False
  | .opened r => ∃ e, r = .error e
  | .issued r => ∃ e, r = .error e
  | .loaded r => ∃ e, r = .error e
  | .pending r => ∃ e, r = .error e
  | .approved r => ∃ e, r = .error e
  | .membership r => ∃ e, r = .error e
  | .recovered r => ∃ e, r = .error e
  | .outcome r => ∃ e, r = .error e
  | .unit r => ∃ e, r = .error e
  | .leased r => ∃ e, r = .error e
  | .reported r => ∃ e, r = .error e
  | .read r => ∃ e, r = .error e

/-- An operation that neither opens nor ends a joiner transaction. -/
structure Shut (storage : SqlCipherStorage) (s : Scope) (db : Db) (o : Outcome) : Prop where
  pending : o.scope.pendingJoiner = s.pendingJoiner
  /-- Only a scope that holds no open transaction and can take the lock writes. -/
  exclusive : o.db = db ∨ (s.pendingJoiner = none ∧ storage.busy = false)
  /-- While a joiner write waits, nothing happens. -/
  refused : s.pendingJoiner ≠ none → o.reply.Refusal ∧ o.scope = s ∧ o.db = db

/-- Such an operation that also leaves the tables of the joiner alone. -/
structure Quiet (storage : SqlCipherStorage) (s : Scope) (db : Db) (o : Outcome) : Prop
    extends Shut storage s db o where
  tables : joinerTables o.db.tables = joinerTables db.tables

section Operations

variable {self : SqlCipherStorage} {s s' : Scope} {db : Db} {reply : Reply}

/-- An operation that refuses before it reads the database. -/
theorem Quiet.refusal (h : reply.Refusal) : Quiet self s db ⟨reply, s, db⟩ where
  pending := rfl
  exclusive := .inl rfl
  refused _ := ⟨h, rfl, rfl⟩
  tables := rfl

/-- An operation that needs no joiner write to wait, and changes only the scope. -/
theorem Quiet.scope (hnone : s.pendingJoiner = none) (hpending : s'.pendingJoiner = none) :
    Quiet self s db ⟨reply, s', db⟩ where
  pending := hpending.trans hnone.symm
  exclusive := .inl rfl
  refused hsome := absurd hnone hsome
  tables := rfl

section Perform

variable {ε α β : Type} {engine : ε} {body : Tx storeSchema ε (Except ε α)}
  {done : α → Except ε β × Scope} {wrap : Except ε β → Reply}

theorem perform_shut (hwrap : ∀ e, (wrap (.error e)).Refusal)
    (hdone : ∀ a, (done a).2.pendingJoiner = s.pendingJoiner) :
    Shut self s db ((self.perform engine s db body done).toOutcome wrap) := by
  obtain ⟨hdb, hscope, e, hreply⟩ | ⟨hnone, hbusy, hended⟩ :=
    perform_cases self engine s db body done
  · simp only [Answer.toOutcome, hdb, hscope, hreply]
    exact (Quiet.refusal (hwrap e)).toShut
  · refine ⟨?_, .inr ⟨hnone, hbusy⟩, fun hsome => absurd hnone hsome⟩
    obtain ⟨a, -, -, hscope⟩ | ⟨e, -, -, hscope⟩ := hended
    · exact (congrArg Scope.pendingJoiner hscope).trans (hdone a)
    · exact congrArg Scope.pendingJoiner hscope

/-- A method whose body keeps the tables of the joiner. -/
theorem perform_quiet (hwrap : ∀ e, (wrap (.error e)).Refusal) (hbody : Keeps joinerTables body)
    (hdone : ∀ a, (done a).2.pendingJoiner = s.pendingJoiner) :
    Quiet self s db ((self.perform engine s db body done).toOutcome wrap) := by
  refine ⟨perform_shut hwrap hdone, ?_⟩
  obtain ⟨hdb, -⟩ | ⟨-, -, ⟨a, hrun, -⟩ | ⟨e, hrun, -⟩⟩ :=
    perform_cases self engine s db body done
  · exact congrArg (fun d : Db => joinerTables d.tables) hdb
  · exact hbody db _ _ hrun
  · exact hbody db _ _ hrun

/-- A check in front of such a method. -/
theorem Quiet.guard {c : Prop} [Decidable c] {e : ε} {p : Answer ε β}
    (hwrap : ∀ e, (wrap (.error e)).Refusal) (h : Quiet self s db (p.toOutcome wrap)) :
    Quiet self s db ((if c then ⟨.error e, s, db⟩ else p).toOutcome wrap) := by
  split
  · exact .refusal (hwrap e)
  · exact h

end Perform

theorem commitInviter_tables (busy : Bool) (staged : StagedInviter) (state : GroupState)
    (inserts updates : List EpochRecord) (elapsed : Nat) (observer : Option FaultObserver) :
    joinerTables (commitInviter busy staged state inserts updates elapsed observer db).2.tables =
      joinerTables db.tables := by
  unfold commitInviter
  split
  · rfl
  · next commit _ =>
      split
      · rfl
      · split
        · rfl
        · obtain ⟨reply, db', hrun, htx⟩ | ⟨failure, -, htx⟩ := transaction_cases .rejected
            (commitInviterTx staged commit state inserts updates elapsed observer) db
          · rw [htx]
            exact commitInviterTx_keeps _ _ _ _ _ _ _ _ _ _ hrun
          · rw [htx]

/-- What an operation does to the joiner's side of the store. -/
inductive JoinerMove (self : SqlCipherStorage) (s : Scope) (db : Db) (op : Operation)
    (o : Outcome) : Prop where
  | quiet (hquiet : Quiet self s db o)
  /-- A KeyPackage is added. -/
  | inserts (hshut : Shut self s db o) (id : Bytes) (pkg : SqlCipherStorage.KeyPackageData)
      (row : KeyPackageRow) (hop : op = .insertKeyPackage id pkg)
      (hid : toFixed 32 id = some row.keyPackageRef)
      (htables : o.db.tables =
        { db.tables with keyPackages := db.tables.keyPackages ++ [row] })
  /-- A joiner write is left waiting. -/
  | opens (state : GroupState) (inserts updates : List EpochRecord) (elapsed : Nat)
      (observer : Option FaultObserver) (staged : StagedJoiner) (pending : PendingJoiner)
      (hop : op = .write state inserts updates elapsed observer)
      (hidle : s.pendingJoiner = none) (hstaged : s.stagedJoiner = some staged)
      (hbegin : self.beginJoiner staged state inserts updates observer db = .ok pending)
      (hout : o = ⟨.unit (.ok ()),
        { s with stagedJoiner := none, pendingJoiner := some pending }, db⟩)
  /-- The waiting joiner write ends: dropped, or committed. -/
  | closes (id : Bytes) (observer : Option FaultObserver) (pending : PendingJoiner)
      (hop : op = .deleteKeyPackage id observer) (hpending : s.pendingJoiner = some pending)
      (hscope : o.scope = { s with pendingJoiner := none })
      (hdb : o.db = db ∨ ∃ working reply, pending.working = some working ∧
        (deleteKeyPackageTx pending observer).run working = .ok (reply, o.db))

theorem insertKeyPackage_move (id : Bytes) (pkg : SqlCipherStorage.KeyPackageData) :
    JoinerMove self s db (.insertKeyPackage id pkg)
      ((Operation.insertKeyPackage id pkg).run self s db) := by
  simp only [Operation.run, insertKeyPackage]
  split
  · exact .quiet (.refusal ⟨_, rfl⟩)
  · next reference hid =>
      let row : KeyPackageRow :=
        ⟨reference, pkg.keyPackageBytes, pkg.initKey, pkg.leafNodeKey, pkg.expiration⟩
      let body : StoreTx (Except StoreError Unit) := do
        insertInto keyPackages row
        return .ok ()
      split
      · exact .quiet (.refusal ⟨_, rfl⟩)
      · have hshut : Shut self s db ((self.perform .rejected s db body
            fun _ => (.ok (), s)).toOutcome .unit) :=
          perform_shut (fun e => ⟨e, rfl⟩) fun _ => rfl
        obtain ⟨hdb, -⟩ | ⟨-, -, hended⟩ := perform_cases self StoreError.rejected s db body
          fun _ => (Except.ok (), s)
        · refine .quiet ⟨hshut, ?_⟩
          exact congrArg (fun d : Db => joinerTables d.tables) hdb
        · refine .inserts hshut id pkg row rfl hid ?_
          obtain ⟨a, hrun, -⟩ | ⟨e, hrun, -⟩ := hended
          all_goals
            simp only [body, run_bind_eq_ok, run_insertInto_eq_ok, run_pure_eq_ok] at hrun
            obtain ⟨_, _, hinsert, -, rfl⟩ := hrun
            exact hinsert

theorem write_move (state : GroupState) (inserts updates : List EpochRecord) (elapsed : Nat)
    (observer : Option FaultObserver) :
    JoinerMove self s db (.write state inserts updates elapsed observer)
      ((Operation.write state inserts updates elapsed observer).run self s db) := by
  simp only [Operation.run, write]
  split
  · exact .quiet (.refusal ⟨_, rfl⟩)
  · next hidle =>
      rw [not_or, Option.not_isSome_iff_eq_none] at hidle
      split
      · next staged _ =>
          refine .quiet ⟨⟨?_, ?_, fun hsome => absurd hidle.2 hsome⟩, ?_⟩
          · split <;> rfl
          · cases hbusy : self.busy with
            | false => exact .inr ⟨hidle.2, rfl⟩
            | true => exact .inl (commitInviter_busy _ _ _ _ _ _ _)
          · exact commitInviter_tables _ _ _ _ _ _ _
      · split
        · exact .quiet (.refusal ⟨_, rfl⟩)
        · next staged hstaged =>
            split
            · exact .quiet (.scope hidle.2 hidle.2)
            · next pending hbegin =>
                exact .opens state inserts updates elapsed observer staged pending rfl hidle.2
                  hstaged hbegin rfl

theorem deleteKeyPackage_move (id : Bytes) (observer : Option FaultObserver) :
    JoinerMove self s db (.deleteKeyPackage id observer)
      ((Operation.deleteKeyPackage id observer).run self s db) := by
  simp only [Operation.run, deleteKeyPackage]
  split
  · exact .quiet (.refusal ⟨_, rfl⟩)
  · split
    · exact .quiet (.refusal ⟨_, rfl⟩)
    · next pending hpending =>
        split
        · exact .closes id observer pending rfl hpending rfl (.inl rfl)
        · split
          · split <;> exact .closes id observer pending rfl hpending rfl (.inl rfl)
          · next working hworking =>
              split
              · next reply db' hrun =>
                  exact .closes id observer pending rfl hpending rfl
                    (.inr ⟨working, reply, hworking, hrun⟩)
              · exact .closes id observer pending rfl hpending rfl (.inl rfl)

theorem stageAuthorizedInviter_quiet (auth : MembershipAuthorization)
    (addition : CommittedAdditionStorageBinding) (tx : InviterJoinTransaction) (now : Nat)
    (fault : PersistenceFault) : Quiet self s db
      ((self.stageAuthorizedInviter auth addition tx now fault s db).toOutcome .unit) := by
  unfold stageAuthorizedInviter
  split
  · exact .refusal ⟨_, rfl⟩
  · split
    · exact .refusal ⟨_, rfl⟩
    · next hidle =>
        rw [Option.not_isSome_iff_eq_none] at hidle
        repeat' split
        all_goals exact .scope hidle hidle

/-- The explicit settlements. -/
theorem settle_quiet (expected next : AuthorizationState) (handle : AuthorizationHandle)
    (protector : InvitationJoinProtector) (now : Nat) :
    Quiet self s db ((self.settle (settleAuthorizationTx expected next) handle protector now s
      db).toOutcome .unit) :=
  .guard (fun e => ⟨e, rfl⟩)
    (perform_quiet (fun e => ⟨e, rfl⟩) (settleAuthorizationTx_keeps _ _) fun _ => rfl)

theorem Operation.run_move (op : Operation) (self : SqlCipherStorage) (s : Scope) (db : Db) :
    JoinerMove self s db op (op.run self s db) := by
  cases op with
  | insertKeyPackage id pkg => exact insertKeyPackage_move id pkg
  | write state inserts updates elapsed observer => exact write_move _ _ _ _ _
  | deleteKeyPackage id observer => exact deleteKeyPackage_move id observer
  | stageAuthorizedInviter auth addition tx now fault =>
    exact .quiet (stageAuthorizedInviter_quiet auth addition tx now fault)
  | abandonPending | reject | abandonApproved => exact .quiet (settle_quiet _ _ _ _ _)
  | issue =>
    refine .quiet ?_
    simp only [run, issueCapabilityInvitation]
    split
    · exact .refusal ⟨_, rfl⟩
    · split
      · exact .refusal ⟨_, rfl⟩
      · exact perform_quiet (fun e => ⟨e, rfl⟩) (persistOpeningContext_keeps _ _ _ _)
          fun _ => rfl
  | load =>
    exact .quiet (.guard (fun e => ⟨e, rfl⟩) (perform_quiet (fun e => ⟨e, rfl⟩)
      (loadCapabilityInvitationTx_keeps _) fun _ => rfl))
  | reserve =>
    exact .quiet (.guard (fun e => ⟨e, rfl⟩) (.guard (fun e => ⟨e, rfl⟩)
      (perform_quiet (fun e => ⟨e, rfl⟩) (reserveAuthorizationTx_keeps _ _ _) fun _ => rfl)))
  | approve =>
    exact .quiet (.guard (fun e => ⟨e, rfl⟩) (perform_quiet (fun e => ⟨e, rfl⟩)
      approveAuthorizationTx_keeps fun expired => by cases expired <;> rfl))
  | beginMembership =>
    exact .quiet (.guard (fun e => ⟨e, rfl⟩) (.guard (fun e => ⟨e, rfl⟩)
      (.guard (fun e => ⟨e, rfl⟩) (perform_quiet (fun e => ⟨e, rfl⟩)
        (beginMembershipAuthorizationTx_keeps _) fun expired => by cases expired <;> rfl))))
  | recoverPreMembership =>
    exact .quiet (.guard (fun e => ⟨e, rfl⟩) (perform_quiet (fun e => ⟨e, rfl⟩)
      (recoverPreMembershipAuthorizationsTx_keeps _) fun _ => rfl))
  | recoverOutcome =>
    exact .quiet (.guard (fun e => ⟨e, rfl⟩) (.guard (fun e => ⟨e, rfl⟩)
      (perform_quiet (fun e => ⟨e, rfl⟩) (recoverAuthorizationOutcomeTx_keeps _ _)
        fun _ => rfl)))
  | seedReservation =>
    exact .quiet (.guard (fun e => ⟨e, rfl⟩) (perform_quiet (fun e => ⟨e, rfl⟩)
      (seedReservationTx_keeps _) fun _ => rfl))
  | stageInviter | stageBoundInviter | stageJoiner =>
    refine .quiet ?_
    simp only [run, SqlCipherStorage.stageInviter, SqlCipherStorage.stageBoundInviter,
      SqlCipherStorage.stageJoiner]
    split
    · exact .refusal ⟨_, rfl⟩
    · next hidle =>
        split
        · exact .refusal ⟨_, rfl⟩
        · have hnone := Option.not_isSome_iff_eq_none.mp fun hsome => hidle (by tauto)
          exact .scope hnone hnone
  | insertClientIdentity =>
    exact .quiet (perform_quiet (fun e => ⟨e, rfl⟩)
      (.bind (.insertInto (fun _ _ => rfl) _) fun _ => .pure _) fun _ => rfl)
  | leaseNext =>
    exact .quiet (.guard (fun e => ⟨e, rfl⟩) (perform_quiet (fun e => ⟨e, rfl⟩)
      (leaseNextTx_keeps _ _ _) fun _ => rfl))
  | reportAccepted =>
    exact .quiet (.guard (fun e => ⟨e, rfl⟩) (perform_quiet (fun e => ⟨e, rfl⟩)
      (reportAcceptedTx_keeps _) fun _ => rfl))
  | reportFailed =>
    exact .quiet (.guard (fun e => ⟨e, rfl⟩) (perform_quiet (fun e => ⟨e, rfl⟩)
      (reportFailedTx_keeps _) fun _ => rfl))
  | read =>
    refine .quiet ?_
    simp only [run, SqlCipherStorage.read]
    split
    · exact .refusal ⟨_, rfl⟩
    · next hidle =>
        rw [Option.not_isSome_iff_eq_none] at hidle
        exact .scope hidle hidle

end Operations

end SessionChat.Storage
