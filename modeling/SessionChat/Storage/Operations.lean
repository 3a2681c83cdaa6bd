import SessionChat.Storage.CommitRefinement

/-!
# Every operation is a chain of effects (`crates/storage-sqlcipher/src/lib.rs`)

An operation takes the committed database through a chain of effects that admits only what the call
brought in. The joiner write also leaves a working copy behind, which the KeyPackage deletion
commits.
-/

set_option autoImplicit false

namespace SessionChat.Storage

open Relational Codec SqlCipherStorage

variable {policy : AuthorizationPolicy}

/-! ## Admissions and freshness of calls -/

/-- What an operation may bring in, judged by what it returned. -/
def Operation.admission (s : Scope) : Operation → Reply → Admission
  | .issue .., .issued (.ok generated) => .ofOpening generated
  | .reserve _ input _ _, .pending (.ok pending) => .ofAttempt input pending.handle.attemptId
  | .write .., _ => (s.stagedInviter.map StagedInviter.admission).getD .nothing
  | .leaseNext .., _ | .reportAccepted .., _ | .reportFailed .., _ => .ofDelivery
  | _, _ => .nothing

/-- A drawn invitation is not one that already has a result. -/
def Operation.Fresh (db : Db) : Operation → Prop
  | .issue protector issuedAt expiresAt _ =>
      ∀ generated, protector.generateCapabilityInvitation issuedAt expiresAt = some generated →
        ∀ j ∈ db.tables.inviterJoins, ¬(j.invitationId = generated.invitation.invitationId ∧
          j.generation = generated.invitation.signature)
  | _ => True

/-! ## Methods that keep no transaction open -/

/-- What a method does that ends its transaction before it returns. -/
structure Acts (policy : AuthorizationPolicy) (storage : SqlCipherStorage) (s : Scope) (db : Db)
    (N : Admission) (s' : Scope) (db' : Db) : Prop where
  effects : Effects policy N db db'
  pending : s'.pendingJoiner = s.pendingJoiner
  /-- Only a scope that holds no open transaction and can take the lock writes. -/
  exclusive : db' = db ∨ (s.pendingJoiner = none ∧ storage.busy = false)

variable {self : SqlCipherStorage} {s s' : Scope} {db db' : Db} {N : Admission}

theorem Acts.unchanged (h : s'.pendingJoiner = s.pendingJoiner) : Acts policy self s db N s' db :=
  ⟨.refl _, h, .inl rfl⟩

section Perform

variable {ε α β : Type} {engine : ε} {body : Tx storeSchema ε (Except ε α)}
  {done : α → Except ε β × Scope}

/-- A method body under the lock: refused, or committed with the reply it chose. -/
theorem perform_cases (self : SqlCipherStorage) (engine : ε) (s : Scope) (db : Db)
    (body : Tx storeSchema ε (Except ε α)) (done : α → Except ε β × Scope) :
    let p := self.perform engine s db body done
    (p.db = db ∧ p.scope = s ∧ ∃ e, p.reply = .error e) ∨
      (s.pendingJoiner = none ∧ self.busy = false ∧
        ((∃ a, body.run db = .ok (.ok a, p.db) ∧ p.reply = (done a).1 ∧ p.scope = (done a).2) ∨
          ∃ e, body.run db = .ok (.error e, p.db) ∧ p.reply = .error e ∧ p.scope = s)) := by
  intro p
  unfold p perform
  split
  · exact .inl ⟨rfl, rfl, _, rfl⟩
  · next hfree =>
      rw [not_or, Option.not_isSome_iff_eq_none, Bool.not_eq_true] at hfree
      obtain ⟨reply, db', hrun, htx⟩ | ⟨failure, -, htx⟩ := transaction_cases engine body db
      · rw [htx]
        cases reply with
        | ok a => exact .inr ⟨hfree.1, hfree.2, .inl ⟨a, hrun, rfl, rfl⟩⟩
        | error e => exact .inr ⟨hfree.1, hfree.2, .inr ⟨e, hrun, rfl, rfl⟩⟩
      · rw [htx]
        exact .inl ⟨rfl, rfl, _, rfl⟩

theorem perform_ok {b : β} (h : (self.perform engine s db body done).reply = .ok b) :
    ∃ a, body.run db = .ok (.ok a, (self.perform engine s db body done).db) ∧
      (done a).1 = .ok b := by
  obtain ⟨-, -, e, hreply⟩ | ⟨-, -, ⟨a, hrun, hreply, -⟩ | ⟨e, -, hreply, -⟩⟩ :=
    perform_cases self engine s db body done
  · rw [hreply] at h
    cases h
  · exact ⟨a, hrun, hreply.symm.trans h⟩
  · rw [hreply] at h
    cases h

theorem perform_acts (N : Except ε β → Admission)
    (hok : ∀ a db', body.run db = .ok (.ok a, db') → Effects policy (N (done a).1) db db')
    (herror : ∀ e db', body.run db = .ok (.error e, db') → Effects policy (N (.error e)) db db')
    (hdone : ∀ a, (done a).2.pendingJoiner = s.pendingJoiner) :
    let p := self.perform engine s db body done
    Acts policy self s db (N p.reply) p.scope p.db := by
  intro p
  obtain ⟨hdb, hscope, -⟩ | ⟨hpending, hbusy, ⟨a, hrun, hreply, hscope⟩ | ⟨e, hrun, hreply,
      hscope⟩⟩ := perform_cases self engine s db body done
  · rw [hdb, hscope]
    exact .unchanged rfl
  · refine ⟨?_, ?_, .inr ⟨hpending, hbusy⟩⟩
    · rw [hreply]
      exact hok a _ hrun
    · rw [hscope]
      exact hdone a
  · refine ⟨?_, ?_, .inr ⟨hpending, hbusy⟩⟩
    · rw [hreply]
      exact herror e _ hrun
    · rw [hscope]

/-- A method whose admission does not depend on its reply. -/
theorem perform_acts_const
    (hrun : ∀ reply db', body.run db = .ok (reply, db') → Effects policy N db db')
    (hdone : ∀ a, (done a).2.pendingJoiner = s.pendingJoiner) :
    let p := self.perform engine s db body done
    Acts policy self s db N p.scope p.db :=
  perform_acts (fun _ => N) (fun _ _ => hrun _ _) (fun _ _ => hrun _ _) hdone

/-- A check in front of such a method. -/
theorem Acts.guard {c : Prop} [Decidable c] {e : ε} {p : Answer ε β}
    (h : Acts policy self s db N p.scope p.db) :
    let q := if c then ⟨.error e, s, db⟩ else p
    Acts policy self s db N q.scope q.db := by
  intro q
  unfold q
  split
  · exact .unchanged rfl
  · exact h

end Perform

/-! ## The authorization methods -/

theorem issueCapabilityInvitation_acts (h : Coherent self.authorizationPolicy db.tables)
    (protector : InvitationJoinProtector) (issuedAt expiresAt now : Nat)
    (hfresh : (Operation.issue protector issuedAt expiresAt now).Fresh db) :
    let p := self.issueCapabilityInvitation protector issuedAt expiresAt now s db
    Acts self.authorizationPolicy self s db
      ((Operation.issue protector issuedAt expiresAt now).admission s (.issued p.reply))
      p.scope p.db := by
  intro p
  unfold p issueCapabilityInvitation
  split
  · exact .unchanged rfl
  · split
    · exact .unchanged rfl
    · next generated hgenerated =>
        refine perform_acts (fun reply => (Operation.issue protector issuedAt expiresAt
          now).admission s (.issued reply)) ?_ ?_ (fun _ => rfl)
        · intro _ db' hrun
          exact (persistOpeningContext_ok h (hfresh generated hgenerated) hrun).2
        · intro e db' hrun
          cases (persistOpeningContext_ok h (hfresh generated hgenerated) hrun).1

theorem reserveAuthorization_acts (h : Coherent self.authorizationPolicy db.tables)
    (protector : InvitationJoinProtector) (input : AuthorizationShadowInput) (now : Nat)
    (draws : Fin 4 → Id16) :
    let p := self.reserveAuthorization protector input now draws s db
    Acts self.authorizationPolicy self s db
      ((Operation.reserve protector input now draws).admission s (.pending p.reply))
      p.scope p.db := by
  intro p
  unfold p reserveAuthorization
  split
  · exact .unchanged rfl
  · split
    · exact .unchanged rfl
    · refine perform_acts (fun reply => (Operation.reserve protector input now draws).admission s
        (.pending reply)) ?_ ?_ (fun _ => rfl)
      · rintro ⟨attemptId, storeId⟩ db' hrun
        obtain ⟨db₁, hfirst, ⟨hreply, -⟩ | ⟨id, store, o, hreply, haccepted⟩⟩ :=
          reserveAuthorizationTx_ok h hrun
        · cases hreply
        · cases hreply
          exact (Effects.single (hfirst.mono (Admission.nothing_le _))).tail haccepted.effect
      · intro e db' hrun
        obtain ⟨db₁, hfirst, ⟨-, heffects⟩ | ⟨id, store, o, hreply, -⟩⟩ :=
          reserveAuthorizationTx_ok h hrun
        · exact (Effects.single hfirst).trans heffects
        · cases hreply

/-- The three explicit settlements. -/
theorem settle_acts {expected next : AuthorizationState} (hpre : expected.preMembership = true)
    (hnext : next = .rejected ∨ next = .abandoned) (handle : AuthorizationHandle)
    (protector : InvitationJoinProtector) (now : Nat) :
    let p := self.settle (settleAuthorizationTx expected next) handle protector now s db
    Acts policy self s db .nothing p.scope p.db :=
  .guard (perform_acts_const
    (fun _ _ hrun => .single (settleAuthorizationTx_ok hpre hnext hrun)) fun _ => rfl)

/-! ## Staging -/

theorem stageAuthorizedInviter_acts (auth : MembershipAuthorization)
    (addition : CommittedAdditionStorageBinding) (tx : InviterJoinTransaction) (now : Nat)
    (fault : PersistenceFault) :
    let p := self.stageAuthorizedInviter auth addition tx now fault s db
    Acts policy self s db .nothing p.scope p.db := by
  intro p
  have hdb : p.db = db := by
    unfold p stageAuthorizedInviter
    grind
  have hpending : p.scope.pendingJoiner = s.pendingJoiner := by
    unfold p stageAuthorizedInviter
    grind [Scope.dropMembership]
  rw [hdb]
  exact .unchanged hpending

/-! ## The two operations around a joiner transaction -/

/-- What an operation does, with the transactions it opens or ends. -/
inductive Transacts (policy : AuthorizationPolicy) (storage : SqlCipherStorage) (s : Scope)
    (db : Db) (N : Admission) (s' : Scope) (db' : Db) : Prop where
  /-- No transaction stays open. -/
  | acts (hacts : Acts policy storage s db N s' db')
  /-- A joiner write leaves its working copy behind, if it opened one. -/
  | opens (pending : PendingJoiner) (hidle : s.pendingJoiner = none)
      (hpending : s'.pendingJoiner = some pending)
      (hworking : ∀ working, pending.working = some working →
        storage.busy = false ∧ Effects policy .nothing db working)
      (hdb : db' = db)
  /-- The waiting joiner write ends; its working copy is committed or dropped. -/
  | closes (hpending : s'.pendingJoiner = none)
      (hdb : db' = db ∨ ∃ pending working, s.pendingJoiner = some pending ∧
        pending.working = some working ∧ Effects policy .nothing working db')

theorem beginJoiner_ok {staged : StagedJoiner} {state : GroupState}
    {inserts updates : List EpochRecord} {observer : Option FaultObserver}
    {pending : PendingJoiner} {working : Db}
    (h : self.beginJoiner staged state inserts updates observer db = .ok pending)
    (hworking : pending.working = some working) :
    self.busy = false ∧ Effects policy .nothing db working := by
  unfold beginJoiner at h
  split at h
  · cases h
  · split at h
    · split at h
      · cases h
      · cases h
        cases hworking
    · split at h
      · cases h
      · next hfree =>
          split at h
          · next hrun =>
              cases h
              cases hworking
              rw [not_or, Bool.not_eq_true] at hfree
              exact ⟨hfree.2, beginJoinerTx_effects hrun⟩
          · cases h

theorem write_transacts (h : Coherent policy db.tables) (state : GroupState)
    (inserts updates : List EpochRecord) (elapsed : Nat) (observer : Option FaultObserver) :
    let p := self.write state inserts updates elapsed observer s db
    Transacts policy self s db ((s.stagedInviter.map StagedInviter.admission).getD .nothing)
      p.scope p.db := by
  intro p
  unfold p write
  split
  · exact .acts (.unchanged rfl)
  · next hidle =>
      rw [not_or, Option.not_isSome_iff_eq_none] at hidle
      split
      · next staged hstaged =>
          simp only [hstaged]
          refine .acts ⟨commitInviter_effects h _ _ _ _ _ _ _, ?_, ?_⟩
          · split <;> rfl
          · cases hbusy : self.busy with
            | false => exact .inr ⟨hidle.2, rfl⟩
            | true => exact .inl (commitInviter_busy _ _ _ _ _ _ _)
      · next hstaged =>
          split
          · exact .acts (.unchanged rfl)
          · split
            · exact .acts (.unchanged rfl)
            · next pending hpending =>
                exact .opens pending hidle.2 rfl (fun _ => beginJoiner_ok hpending) rfl

theorem deleteKeyPackage_transacts (id : Bytes) (observer : Option FaultObserver) :
    let p := self.deleteKeyPackage id observer s db
    Transacts policy self s db .nothing p.scope p.db := by
  intro p
  unfold p deleteKeyPackage
  split
  · exact .acts (.unchanged rfl)
  · split
    · exact .acts (.unchanged rfl)
    · next pending hpending =>
        split
        · exact .closes rfl (.inl rfl)
        · split
          · split <;> exact .closes rfl (.inl rfl)
          · next working hworking =>
              split
              · next hrun =>
                  exact .closes rfl (.inr ⟨pending, working, hpending, hworking,
                    deleteKeyPackageTx_effects hrun⟩)
              · exact .closes rfl (.inl rfl)

/-! ## What stays staged -/

/-- The operations of the legacy path, which need no authorization. -/
def Operation.isLegacy : Operation → Bool
  | .seedReservation .. | .stageInviter .. | .stageBoundInviter .. => true
  | _ => false

section Staged

variable {ε α β : Type} {engine : ε} {body : Tx storeSchema ε (Except ε α)}
  {done : α → Except ε β × Scope}

/-- A method body leaves staged transactions alone when its conclusion does. -/
theorem perform_staged (hdone : ∀ a, (done a).2.stagedInviter = s.stagedInviter) :
    (self.perform engine s db body done).scope.stagedInviter = s.stagedInviter := by
  obtain ⟨-, hscope, -⟩ | ⟨-, -, ⟨a, -, -, hscope⟩ | ⟨e, -, -, hscope⟩⟩ :=
    perform_cases self engine s db body done
  · rw [hscope]
  · rw [hscope, hdone a]
  · rw [hscope]

theorem settle_staged {body : AuthorizationHandle → InvitationJoinProtector → Nat →
      StoreTx (Except StoreError Unit)} (handle : AuthorizationHandle)
    (protector : InvitationJoinProtector) (now : Nat) :
    (self.settle body handle protector now s db).scope.stagedInviter = s.stagedInviter := by
  unfold settle
  split
  · rfl
  · exact perform_staged fun _ => rfl

end Staged

/-- Outside the legacy path only authorized transactions are staged. -/
theorem Operation.run_staged {op : Operation} {staged : StagedInviter}
    (hlegacy : op.isLegacy = false) (h : (op.run self s db).scope.stagedInviter = some staged) :
    s.stagedInviter = some staged ∨ staged.authorization ≠ none := by
  cases op with
  | seedReservation => cases hlegacy
  | stageInviter => cases hlegacy
  | stageBoundInviter => cases hlegacy
  | abandonPending pending protector now =>
    exact .inl ((settle_staged pending.handle protector now).symm.trans h)
  | reject pending protector now =>
    exact .inl ((settle_staged pending.handle protector now).symm.trans h)
  | abandonApproved approved protector now =>
    exact .inl ((settle_staged approved.handle protector now).symm.trans h)
  | stageAuthorizedInviter | stageJoiner | write | deleteKeyPackage =>
    simp only [run, Answer.toOutcome, SqlCipherStorage.stageAuthorizedInviter,
      SqlCipherStorage.stageJoiner, SqlCipherStorage.write, SqlCipherStorage.deleteKeyPackage] at h
    grind [Scope.dropMembership]
  | approve | beginMembership =>
    -- the conclusion depends on whether the attempt had expired
    refine .inl (Eq.trans (Eq.symm ?_) h)
    simp only [run, approveAuthorization,
      beginMembershipAuthorization]
    repeat' split
    all_goals first
      | rfl
      | exact perform_staged fun expired => by cases expired <;> rfl
  | issue | load | reserve | recoverPreMembership | recoverOutcome | insertKeyPackage
  | insertClientIdentity | leaseNext | reportAccepted | reportFailed | read =>
    refine .inl (Eq.trans (Eq.symm ?_) h)
    simp only [run, issueCapabilityInvitation,
      loadCapabilityInvitation, reserveAuthorization,
      recoverPreMembershipAuthorizations,
      recoverAuthorizationOutcome, SqlCipherStorage.insertKeyPackage, SqlCipherStorage.leaseNext,
      SqlCipherStorage.reportAccepted, SqlCipherStorage.reportFailed, SqlCipherStorage.read]
    repeat' split
    all_goals first
      | rfl
      | exact perform_staged fun _ => rfl

/-! ## All operations -/

/-- Every operation is a chain of effects on the committed database. -/
theorem Operation.run_transacts (op : Operation) (self : SqlCipherStorage) (s : Scope)
    (h : Coherent self.authorizationPolicy db.tables) (hfresh : op.Fresh db) :
    Transacts self.authorizationPolicy self s db (op.admission s (op.run self s db).reply)
      (op.run self s db).scope (op.run self s db).db := by
  cases op with
  | issue protector issuedAt expiresAt now =>
    exact .acts (issueCapabilityInvitation_acts h protector issuedAt expiresAt now hfresh)
  | load =>
    exact .acts (.guard (perform_acts_const (fun _ _ hrun => loadCapabilityInvitationTx_ok hrun)
      fun _ => rfl))
  | reserve protector input now draws =>
    exact .acts (reserveAuthorization_acts h protector input now draws)
  | approve =>
    exact .acts (.guard (perform_acts_const
      (fun _ _ hrun => .single (advance_or_expire_ok (·.transactionId) rfl rfl
        (fun a ha => (h.attempt_nonzero a ha).transactionId) hrun))
      fun expired => by cases expired <;> rfl))
  | beginMembership =>
    refine .acts ?_
    simp only [run, beginMembershipAuthorization]
    split
    · exact .unchanged rfl
    · next hguard =>
        exact .guard (.guard (perform_acts_const (fun _ _ hrun => .single
          (advance_or_expire_ok (fun _ => some _) rfl rfl
            (fun _ _ => by simpa using fun hzero => hguard (.inl hzero)) hrun))
          fun expired => by cases expired <;> rfl))
  | abandonPending pending protector now =>
    exact .acts (settle_acts rfl (.inr rfl) pending.handle protector now)
  | reject pending protector now =>
    exact .acts (settle_acts rfl (.inl rfl) pending.handle protector now)
  | abandonApproved approved protector now =>
    exact .acts (settle_acts rfl (.inr rfl) approved.handle protector now)
  | recoverPreMembership =>
    exact .acts (.guard (perform_acts_const
      (fun _ _ hrun => recoverPreMembershipAuthorizationsTx_ok hrun)
      fun _ => rfl))
  | recoverOutcome =>
    exact .acts (.guard (.guard (perform_acts_const
      (fun _ _ hrun => recoverAuthorizationOutcomeTx_effects h hrun) fun _ => rfl)))
  | seedReservation =>
    exact .acts (.guard (perform_acts_const (fun _ _ hrun => seedReservationTx_effects hrun)
      fun _ => rfl))
  | stageInviter tx now fault =>
    refine .acts ?_
    simp only [run, SqlCipherStorage.stageInviter]
    split
    · exact .unchanged rfl
    · split <;> exact .unchanged rfl
  | stageBoundInviter addition tx now fault =>
    refine .acts ?_
    simp only [run, SqlCipherStorage.stageBoundInviter]
    split
    · exact .unchanged rfl
    · split <;> exact .unchanged rfl
  | stageAuthorizedInviter auth addition tx now fault =>
    exact .acts (stageAuthorizedInviter_acts auth addition tx now fault)
  | stageJoiner tx fault =>
    refine .acts ?_
    simp only [run, SqlCipherStorage.stageJoiner]
    split
    · exact .unchanged rfl
    · split <;> exact .unchanged rfl
  | write state inserts updates elapsed observer =>
    exact write_transacts h state inserts updates elapsed observer
  | deleteKeyPackage id observer => exact deleteKeyPackage_transacts id observer
  | insertKeyPackage id pkg =>
    refine .acts ?_
    simp only [run, SqlCipherStorage.insertKeyPackage]
    split
    · exact .unchanged rfl
    · split
      · exact .unchanged rfl
      · exact perform_acts_const (fun _ _ hrun => insertKeyPackage_effects hrun) fun _ => rfl
  | insertClientIdentity groupId encoded =>
    exact .acts (perform_acts_const (fun _ _ hrun => insertClientIdentity_effects hrun)
      fun _ => rfl)
  | leaseNext =>
    exact .acts (.guard (perform_acts_const (fun _ _ hrun => leaseNextTx_effects hrun)
      fun _ => rfl))
  | reportAccepted =>
    exact .acts (.guard (perform_acts_const (fun _ _ hrun => reportAcceptedTx_effects hrun)
      fun _ => rfl))
  | reportFailed =>
    exact .acts (.guard (perform_acts_const (fun _ _ hrun => reportFailedTx_effects hrun)
      fun _ => rfl))
  | read query => exact .acts (.guard (.unchanged rfl))

end SessionChat.Storage
