import SessionChat.Storage.Delivery
import SessionChat.Storage.Reopen

/-!
# Leases along every run (`crates/storage-sqlcipher/src/outbox.rs`)

The outbox over whole runs, with any other calls, restarts, clock values and stale or foreign
leases. Each call moves a row by at most one step (`RowStep`), and new rows start unsent
(`JoinsStep`). So attempts are counted by generations, every lease ever issued is covered by
its row, and the generations issued for a row increase.

A lease carries the scope that issued it as a private pointer, so that a report in that scope
presents a lease issued in the run (`Call.Presents`); every other lease may be anything.
-/

set_option autoImplicit false

namespace SessionChat.Storage

open Relational Transition

variable {policy : AuthorizationPolicy} {storeId : { id : Id16 // id ≠ 0 }} {w : StoreWorld}
  {st : Store} {db db' : Db} {N : Admission} {c : Call} {reply : Reply} {j j' : InviterJoinRow}

/-! ## One row in one call -/

/-- What a call may make of a stored result. -/
inductive RowStep (c : Call) (reply : Reply) (j : InviterJoinRow) : InviterJoinRow → Prop where
  | retired (j' : InviterJoinRow) (h : Retired j j') : RowStep c reply j j'
  | leased (leaseId : Id16) (leaseExpiresAt : Nat) (hopen : j.Open) :
      RowStep c reply j (j.leasedAs (j.leaseGeneration + 1) leaseId leaseExpiresAt)
  | delivered (i : ScopeId) (lease : SqlCipherWelcomeLease) (now : Nat)
      (hc : c = .perform i (.reportAccepted lease now)) (hreply : reply = .reported (.ok ()))
      (hscope : lease.openScope = i) (hheld : j.heldBy lease) (htimely : j.Timely now) :
      RowStep c reply j (j.closed .delivered)
  | failed (hleased : j.outboxState = .leased) : RowStep c reply j j.failed

namespace RowStep

theorem kept : RowStep c reply j j :=
  .retired j (.inl rfl)

section

variable (h : RowStep c reply j j')
include h

theorem transactionId : j'.transactionId = j.transactionId := by
  cases h with
  | retired j' h => obtain rfl | ⟨-, rfl | rfl⟩ := h <;> rfl
  | leased | delivered | failed => rfl

/-- Attempts and generations are counted together. -/
theorem counted (hj : j.deliveryAttempts = j.leaseGeneration) :
    j'.deliveryAttempts = j'.leaseGeneration := by
  cases h with
  | retired j' h => obtain rfl | ⟨-, rfl | rfl⟩ := h <;> exact hj
  | leased => exact congrArg (· + 1) hj
  | delivered | failed => exact hj

theorem leaseGeneration_le : j.leaseGeneration ≤ j'.leaseGeneration := by
  cases h with
  | retired j' h => obtain rfl | ⟨-, rfl | rfl⟩ := h <;> exact Nat.le_refl _
  | leased => exact Nat.le_succ _
  | delivered | failed => exact Nat.le_refl _

/-- A settled row takes no step. -/
theorem eq_of_not_open (hsettled : ¬j.Open) : j' = j := by
  cases h with
  | retired j' h =>
    obtain rfl | ⟨hopen, -⟩ := h
    · rfl
    · exact absurd hopen hsettled
  | leased _ _ hopen => exact absurd hopen hsettled
  | delivered _ _ _ _ _ _ hheld => exact absurd (.inr hheld.2.1) hsettled
  | failed hleased => exact absurd (.inr hleased) hsettled

/-- Only an accepted report delivers. -/
theorem deliver (hbefore : j.outboxState ≠ .delivered) (hafter : j'.outboxState = .delivered) :
    ∃ i lease now, c = .perform i (.reportAccepted lease now) ∧ reply = .reported (.ok ()) ∧
      lease.openScope = i ∧ j.heldBy lease ∧ j.Timely now ∧ j' = j.closed .delivered := by
  cases h with
  | retired j' h =>
    obtain rfl | ⟨-, rfl | rfl⟩ := h
    · exact absurd hafter hbefore
    · cases hafter
    · cases hafter
  | leased => cases hafter
  | delivered i lease now hc hreply hscope hheld htimely =>
    exact ⟨i, lease, now, hc, hreply, hscope, hheld, htimely, rfl⟩
  | failed =>
    unfold InviterJoinRow.failed at hafter
    split at hafter <;> cases hafter

end

end RowStep

/-! ## The table in one call -/

def issuedLease : Event Call Reply → Option SqlCipherWelcomeLease
  | ⟨.perform _ (.leaseNext ..), .leased (.ok (some welcome))⟩ => some welcome.lease
  | _ => none

/-- The leases of a run, in the order of their issue. -/
def issuedLeases (w : StoreWorld) : List SqlCipherWelcomeLease :=
  w.history.filterMap issuedLease

/-- What a call makes of the stored results and of the leases. -/
structure JoinsStep (c : Call) (reply : Reply) (t t' : Tables) : Prop where
  rows : ∃ f added, t'.inviterJoins = t.inviterJoins.map f ++ added ∧
    (∀ j ∈ t.inviterJoins, RowStep c reply j (f j)) ∧ ∀ j ∈ added, j.Unsent
  issued : ∀ lease, issuedLease ⟨c, reply⟩ = some lease →
    (∃ now seconds draws, c = .perform lease.openScope (.leaseNext now seconds draws)) ∧
    ∃ j ∈ t.inviterJoins, j.transactionId = lease.transactionId ∧
      j.leaseGeneration < lease.generation ∧ ∃ j' ∈ t'.inviterJoins,
        j'.transactionId = lease.transactionId ∧ j'.leaseGeneration = lease.generation

namespace JoinsStep

variable {t t' : Tables}

theorem forward (h : JoinsStep c reply t t') (hj : j ∈ t.inviterJoins) :
    ∃ j' ∈ t'.inviterJoins, RowStep c reply j j' := by
  obtain ⟨f, added, heq, hstep, -⟩ := h.rows
  rw [heq]
  exact ⟨f j, List.mem_append_left _ (List.mem_map_of_mem hj), hstep j hj⟩

theorem backward (h : JoinsStep c reply t t') (hj' : j' ∈ t'.inviterJoins) :
    j'.Unsent ∨ ∃ j ∈ t.inviterJoins, RowStep c reply j j' := by
  obtain ⟨f, added, heq, hstep, hunsent⟩ := h.rows
  rw [heq] at hj'
  obtain hj' | hj' := List.mem_append.mp hj'
  · obtain ⟨j, hj, rfl⟩ := List.mem_map.mp hj'
    exact .inr ⟨j, hj, hstep j hj⟩
  · exact .inl (hunsent j' hj')

section

variable (hnone : issuedLease ⟨c, reply⟩ = none)
include hnone

/-- A call that returns no lease and moves rows by themselves. -/
theorem of_map {f : InviterJoinRow → InviterJoinRow} (heq : t'.inviterJoins = t.inviterJoins.map f)
    (hstep : ∀ j ∈ t.inviterJoins, RowStep c reply j (f j)) : JoinsStep c reply t t' where
  rows := ⟨f, [], by simpa using heq, hstep, List.forall_mem_nil _⟩
  issued := by
    intro lease hissued
    simp [hnone] at hissued

theorem refl : JoinsStep c reply t t :=
  of_map (f := id) hnone (by simp) fun _ _ => .kept

theorem of_replace {a b : InviterJoinRow} (heq : t'.inviterJoins = replaceRow a b t.inviterJoins)
    (hstep : RowStep c reply a b) : JoinsStep c reply t t' := by
  refine of_map hnone heq fun j _ => ?_
  split
  · next hja => exact hja ▸ hstep
  · exact .kept

end

end JoinsStep

/-- Effects that deliver nothing only add unsent results. -/
theorem Effects.appends (h : Effects policy N db db') (hquiet : ¬N.delivery) :
    ∃ added, db'.tables.inviterJoins = db.tables.inviterJoins ++ added ∧ ∀ j ∈ added, j.Unsent := by
  induction h with
  | refl => exact ⟨[], by simp, List.forall_mem_nil _⟩
  | @tail db₁ db₂ _ hstep ih =>
    obtain ⟨added, heq, hunsent⟩ := ih
    have happend : ∀ j : InviterJoinRow, j.Unsent →
        db₂.tables.inviterJoins = db₁.tables.inviterJoins ++ [j] →
        ∃ added, db₂.tables.inviterJoins = db.tables.inviterJoins ++ added ∧
          ∀ j ∈ added, j.Unsent := by
      intro j hj hjoins
      refine ⟨added ++ [j], by rw [hjoins, heq, List.append_assoc], ?_⟩
      intro k hk
      obtain hk | hk := List.mem_append.mp hk
      · exact hunsent k hk
      · exact List.mem_singleton.mp hk ▸ hj
    cases hstep with
    | commit a o j r _ _ _ _ _ _ _ hj htables => exact happend j hj (by rw [htables])
    | legacyCommit j r _ _ hj htables => exact happend j hj (by rw [htables])
    | outbox f hallowed => exact absurd hallowed hquiet
    | compact _ _ htables | issue _ _ _ _ _ _ _ _ htables | terminalize _ _ _ htables
    | reserve _ _ _ _ _ _ _ _ _ _ _ htables | advance _ _ _ _ _ _ _ htables
    | settle _ _ _ _ _ _ _ _ _ _ _ htables | seed _ htables | provider _ htables =>
      exact ⟨added, by rw [htables]; exact heq, hunsent⟩

section Methods

theorem leaseNextTx_joinsStep {scope : ScopeId} {now seconds : Nat} {draws : Fin 4 → Id16}
    {result : Except OutboxPortError (Option LeasedWelcome)}
    (hrun : (leaseNextTx scope now (now + seconds) draws).run db = .ok (result, db')) :
    JoinsStep (.perform scope (.leaseNext now seconds draws)) (.leased result) db.tables
      db'.tables := by
  obtain ⟨f, htables, hrows, hlease⟩ := leaseNextTx_ok hrun
  refine ⟨⟨f, [], by rw [htables]; simp, ?_, List.forall_mem_nil _⟩, ?_⟩
  · intro j _
    have hrow := hrows j
    generalize f j = j' at hrow ⊢
    cases hrow with
    | retired j' h => exact .retired _ h
    | leased _ leaseId leaseExpiresAt _ hopen => exact .leased leaseId leaseExpiresAt hopen
  · intro lease hissued
    unfold issuedLease at hissued
    split at hissued
    · next welcome heq =>
        cases heq
        cases hissued
        obtain ⟨j, hj, hscope, htx, hgen, hleased⟩ := hlease welcome rfl
        refine ⟨⟨now, seconds, draws, by rw [hscope]⟩, j, hj, htx.symm, by omega, f j, ?_, ?_, ?_⟩
        · rw [htables]
          exact List.mem_map_of_mem hj
        · rw [hleased]
          exact htx.symm
        · rw [hleased]
          exact hgen.symm
    · cases hissued

variable (self : SqlCipherStorage) (s : Scope) (db : Db)

theorem leaseNext_joinsStep (now seconds : Nat) (draws : Fin 4 → Id16) :
    let answer := self.leaseNext now seconds draws s db
    JoinsStep (.perform self.leaseScope (.leaseNext now seconds draws)) (.leased answer.reply)
      db.tables answer.db.tables := by
  intro answer
  simp only [answer, SqlCipherStorage.leaseNext]
  split
  · exact .refl rfl
  · obtain ⟨hdb, -, e, hreply⟩ | ⟨-, -, ⟨a, hrun, hreply, -⟩ | ⟨e, hrun, hreply, -⟩⟩ :=
      perform_cases self .internal s db
        (leaseNextTx self.leaseScope now (now + seconds) draws) fun leased => (.ok leased, s)
    · rw [hdb, hreply]
      exact .refl rfl
    · rw [hreply]
      exact leaseNextTx_joinsStep hrun
    · rw [hreply]
      exact leaseNextTx_joinsStep hrun

variable (lease : SqlCipherWelcomeLease)

/-- A report is accepted by the scope that issued its lease and settles the row, or is
refused and at most retires it. -/
def Reports (settled : InviterJoinRow → InviterJoinRow → Prop)
    (answer : Answer OutboxPortError Unit) : Prop :=
  (answer.reply = .ok () ∧ lease.openScope = self.leaseScope ∧
      ∃ j ∈ db.tables.inviterJoins, j.heldBy lease ∧ ∃ j', settled j j' ∧
        answer.db.tables = { db.tables with
          inviterJoins := replaceRow j j' db.tables.inviterJoins }) ∨
    ∃ e, answer.reply = .error e ∧ (answer.db.tables = db.tables ∨
      ∃ j ∈ db.tables.inviterJoins, j.heldBy lease ∧ answer.db.tables = { db.tables with
        inviterJoins := replaceRow j (j.closed .expired) db.tables.inviterJoins })

theorem reportAccepted_reports (now : Nat) :
    Reports self db lease (fun j j' => j.Timely now ∧ j' = j.closed .delivered)
      (self.reportAccepted lease now s db) := by
  simp only [Reports, SqlCipherStorage.reportAccepted]
  split
  · exact .inr ⟨_, rfl, .inl rfl⟩
  · next hguard =>
      have hscope : lease.openScope = self.leaseScope := by
        by_contra hother
        exact hguard (.inr fun h => hother h.symm)
      obtain ⟨hdb, -, e, hreply⟩ | ⟨-, -, ⟨a, hrun, hreply, -⟩ | ⟨e, hrun, hreply, -⟩⟩ :=
        perform_cases self .internal s db (reportAcceptedTx lease now) fun _ => (.ok (), s)
      · exact .inr ⟨e, hreply, .inl (by rw [hdb])⟩
      · obtain ⟨-, j, hj, hheld, htimely, htables⟩ | ⟨herror, -⟩ := reportAcceptedTx_ok hrun
        · exact .inl ⟨hreply, hscope, j, hj, hheld, _, ⟨htimely, rfl⟩, htables⟩
        · cases herror
      · obtain ⟨hok, -⟩ | ⟨-, hkept⟩ := reportAcceptedTx_ok hrun
        · cases hok
        · exact .inr ⟨e, hreply, hkept⟩

theorem reportFailed_reports :
    Reports self db lease (fun j j' => j' = j.failed) (self.reportFailed lease s db) := by
  simp only [Reports, SqlCipherStorage.reportFailed]
  split
  · exact .inr ⟨_, rfl, .inl rfl⟩
  · next hscope =>
      obtain ⟨hdb, -, e, hreply⟩ | ⟨-, -, ⟨a, hrun, hreply, -⟩ | ⟨e, hrun, -, -⟩⟩ :=
        perform_cases self .internal s db (reportFailedTx lease) fun _ => (.ok (), s)
      · exact .inr ⟨e, hreply, .inl (by rw [hdb])⟩
      · obtain ⟨-, j, hj, hheld, htables⟩ := reportFailedTx_ok hrun
        exact .inl ⟨hreply, (not_not.mp hscope).symm, j, hj, hheld, _, rfl, htables⟩
      · cases (reportFailedTx_ok hrun).1

variable {self db} in
theorem Reports.joinsStep {lease : SqlCipherWelcomeLease}
    {settled : InviterJoinRow → InviterJoinRow → Prop} {answer : Answer OutboxPortError Unit}
    (h : Reports self db lease settled answer)
    (hnone : ∀ result, issuedLease ⟨c, .reported result⟩ = none)
    (hstep : ∀ j j', lease.openScope = self.leaseScope → j.heldBy lease → settled j j' →
      RowStep c (.reported (.ok ())) j j') :
    JoinsStep c (.reported answer.reply) db.tables answer.db.tables := by
  obtain ⟨hreply, hscope, j, -, hheld, j', hsettled, htables⟩ | ⟨e, hreply, hsame | ⟨j, -, hheld,
      htables⟩⟩ := h
  · rw [hreply]
    exact .of_replace (hnone _) (by rw [htables]) (hstep j j' hscope hheld hsettled)
  · rw [hsame]
    exact .refl (hnone _)
  · exact .of_replace (hnone _) (by rw [htables]) (.retired _ (.inr ⟨.inr hheld.2.1, .inl rfl⟩))

end Methods

/-- Only the outbox port touches delivery columns. -/
theorem Call.admission_delivery (h : (c.admission st reply).delivery) :
    ∃ i s, st.scopes i = some s ∧
      ((∃ now seconds draws, c = .perform i (.leaseNext now seconds draws)) ∨
        (∃ lease now, c = .perform i (.reportAccepted lease now)) ∨
        ∃ lease, c = .perform i (.reportFailed lease)) := by
  unfold Call.admission at h
  split at h
  · split at h
    · next i op _ s hs =>
        refine ⟨i, s, hs, ?_⟩
        unfold Operation.admission at h
        split at h
        · cases h
        · cases h
        · cases hstaged : s.stagedInviter with
          | none => simp [hstaged, Admission.nothing] at h
          | some staged =>
            cases hauth : staged.authorization <;>
              simp [hstaged, StagedInviter.admission, hauth, Admission.ofLegacy,
                Admission.nothing] at h
        · exact .inl ⟨_, _, _, rfl⟩
        · exact .inr (.inl ⟨_, _, rfl⟩)
        · exact .inr (.inr ⟨_, rfl⟩)
        · cases h
    · cases h
  all_goals cases h

/-- One call on the stored results. -/
theorem Store.joinsStep (h : st.Sound policy) (hfresh : c.Fresh st.db) :
    JoinsStep c (st.step policy c).2 st.db.tables (st.step policy c).1.db.tables := by
  by_cases hdelivery : (c.admission st (st.step policy c).2).delivery
  · obtain ⟨i, s, hs, ⟨now, seconds, draws, rfl⟩ | ⟨lease, now, rfl⟩ | ⟨lease, rfl⟩⟩ :=
      Call.admission_delivery hdelivery
    · simp only [Store.step, hs, Operation.run, Answer.toOutcome, Store.settle]
      exact leaseNext_joinsStep (st.handle policy i) s st.db now seconds draws
    · simp only [Store.step, hs, Operation.run, Answer.toOutcome, Store.settle]
      refine (reportAccepted_reports (st.handle policy i) s st.db lease now).joinsStep
        (fun _ => rfl) ?_
      rintro j j' hscope hheld ⟨htimely, rfl⟩
      exact .delivered i lease now rfl rfl hscope hheld htimely
    · simp only [Store.step, hs, Operation.run, Answer.toOutcome, Store.settle]
      refine (reportFailed_reports (st.handle policy i) s st.db lease).joinsStep
        (fun _ => rfl) ?_
      rintro j j' - hheld rfl
      exact .failed hheld.2.1
  · obtain ⟨added, heq, hunsent⟩ := (Store.step_effects h hfresh).appends hdelivery
    refine ⟨⟨id, added, by simpa using heq, fun _ _ => .kept, hunsent⟩, ?_⟩
    intro lease hissued
    refine absurd ?_ hdelivery
    unfold issuedLease at hissued
    split at hissued
    · next i now seconds draws welcome heq =>
        rw [Event.mk.injEq] at heq
        obtain ⟨rfl, hreply⟩ := heq
        cases hs : st.scopes i with
        | none => simp [Store.step, hs] at hreply
        | some s =>
          simp only [Call.admission, hs]
          trivial
    · cases hissued

/-! ## Runs -/

/-- What holds of the stored results and the leases of a run. -/
structure Ledger (w : StoreWorld) : Prop where
  counted : ∀ j ∈ w.state.db.tables.inviterJoins, j.deliveryAttempts = j.leaseGeneration
  /-- The row of a lease has reached its generation. -/
  covered : ∀ lease ∈ issuedLeases w, ∃ j ∈ w.state.db.tables.inviterJoins,
    j.transactionId = lease.transactionId ∧ lease.generation ≤ j.leaseGeneration
  increasing : (issuedLeases w).Pairwise fun l l' =>
    l.transactionId = l'.transactionId → l.generation < l'.generation
  /-- A lease names the scope that issued it. -/
  stamped : ∀ event ∈ w.history, ∀ lease, issuedLease event = some lease →
    ∃ now seconds draws, event.call = .perform lease.openScope (.leaseNext now seconds draws)

namespace Ledger

theorem created (policy : AuthorizationPolicy) (storeId : { id : Id16 // id ≠ 0 }) :
    Ledger (StoreWorld.created policy storeId) where
  counted := List.forall_mem_nil _
  covered := List.forall_mem_nil _
  increasing := .nil
  stamped := List.forall_mem_nil _

theorem after (h : Ledger w) (hstep : JoinsStep c (w.state.step policy c).2 w.state.db.tables
      (w.state.step policy c).1.db.tables) : Ledger (w.after (Store.step policy) c) := by
  let reply := (w.state.step policy c).2
  have hleases : issuedLeases (w.after (Store.step policy) c) =
      issuedLeases w ++ (issuedLease ⟨c, reply⟩).toList := by
    simp only [issuedLeases, World.after, List.filterMap_append]
    cases hissued : issuedLease ⟨c, reply⟩ <;> simp [reply, hissued]
  have hcovered : ∀ lease ∈ issuedLeases w,
      ∃ j ∈ (w.after (Store.step policy) c).state.db.tables.inviterJoins,
        j.transactionId = lease.transactionId ∧ lease.generation ≤ j.leaseGeneration := by
    intro lease hlease
    obtain ⟨j, hj, htx, hle⟩ := h.covered lease hlease
    obtain ⟨j', hj', hrow⟩ := hstep.forward hj
    exact ⟨j', hj', hrow.transactionId.trans htx, hle.trans hrow.leaseGeneration_le⟩
  refine ⟨?_, ?_, ?_, ?_⟩
  · intro j' hj'
    obtain hunsent | ⟨j, hj, hrow⟩ := hstep.backward hj'
    · rw [hunsent.deliveryAttempts, hunsent.leaseGeneration]
    · exact hrow.counted (h.counted j hj)
  · intro lease hlease
    rw [hleases] at hlease
    obtain hold | hnew := List.mem_append.mp hlease
    · exact hcovered lease hold
    · obtain ⟨-, _, -, -, -, j', hj', htx, hgen⟩ := hstep.issued lease (Option.mem_toList.mp hnew)
      exact ⟨j', hj', htx, hgen.ge⟩
  · rw [hleases, List.pairwise_append]
    refine ⟨h.increasing, ?_, ?_⟩
    · cases issuedLease ⟨c, reply⟩ <;> simp
    · intro l hl l' hl' hsame
      obtain ⟨j, hj, htx, hle⟩ := h.covered l hl
      obtain ⟨-, k, hk, hktx, hlt, -⟩ := hstep.issued l' (Option.mem_toList.mp hl')
      obtain rfl := w.state.db.isValid.join_eq hj hk (htx.trans (hsame.trans hktx.symm))
      omega
  · intro event hevent lease hissued
    obtain hold | hnew := List.mem_append.mp hevent
    · exact h.stamped event hold lease hissued
    · obtain rfl := List.mem_singleton.mp hnew
      exact (hstep.issued lease hissued).1

/-- Two leases of one run for one row and generation are the same lease. -/
theorem unique (h : Ledger w) {l l' : SqlCipherWelcomeLease} (hl : l ∈ issuedLeases w)
    (hl' : l' ∈ issuedLeases w) (htx : l.transactionId = l'.transactionId)
    (hgen : l.generation = l'.generation) : l = l' := by
  by_contra hne
  have hapart : (issuedLeases w).Pairwise fun l l' =>
      ¬(l.transactionId = l'.transactionId ∧ l.generation = l'.generation) :=
    h.increasing.imp fun hlt hsame => absurd hsame.2 (hlt hsame.1).ne
  have : Std.Symm fun l l' : SqlCipherWelcomeLease =>
      ¬(l.transactionId = l'.transactionId ∧ l.generation = l'.generation) :=
    ⟨fun _ _ hother hsame => hother ⟨hsame.1.symm, hsame.2.symm⟩⟩
  exact hapart.forall hl hl' hne ⟨htx, hgen⟩

end Ledger

theorem Reachable.ledger (h : Reachable policy storeId w) : Ledger w := by
  have hkept : w.state.Sound policy ∧ Ledger w := by
    refine Leads.invariant (I := fun w => w.state.Sound policy ∧ Ledger w) ?_ h
      ⟨.created policy storeId, .created policy storeId⟩
    rintro v c hfresh ⟨hsound, hledger⟩
    exact ⟨hsound.step hfresh, hledger.after (Store.joinsStep hsound hfresh)⟩
  exact hkept.2

/-! ## The outbox -/

def Call.reportedLease : Call → Option SqlCipherWelcomeLease
  | .perform _ (.reportAccepted lease _) | .perform _ (.reportFailed lease) => some lease
  | _ => none

/-- A report that presents a lease of its own scope presents one that was issued. A lease
of another scope, an earlier process or another store may be presented at will. -/
def Call.Presents (w : StoreWorld) : Call → Prop
  | .perform i (.reportAccepted lease _) | .perform i (.reportFailed lease) =>
      lease.openScope = i → lease ∈ issuedLeases w
  | _ => True

variable {lease : SqlCipherWelcomeLease}

section

variable (hc : c.reportedLease = some lease)
include hc

/-- A report that is answered is answered by one of the two methods. -/
theorem Store.report_answer {result : Except OutboxPortError Unit}
    (hreply : (st.step policy c).2 = .reported result) : ∃ i op settled answer, c = .perform i op ∧
      Reports (st.handle policy i) st.db lease settled answer ∧ answer.reply = result ∧
      (st.step policy c).1.db = answer.db := by
  unfold Call.reportedLease at hc
  split at hc
  · next i lease' now =>
      cases hc
      cases hs : st.scopes i with
      | none => simp [Store.step, hs] at hreply
      | some s =>
        simp only [Store.step, hs, Operation.run, Answer.toOutcome, Reply.reported.injEq] at hreply
        refine ⟨i, _, _, _, rfl, reportAccepted_reports (st.handle policy i) s st.db lease now,
          hreply, ?_⟩
        simp only [Store.step, hs, Operation.run, Answer.toOutcome, Store.settle]
  · next i lease' =>
      cases hc
      cases hs : st.scopes i with
      | none => simp [Store.step, hs] at hreply
      | some s =>
        simp only [Store.step, hs, Operation.run, Answer.toOutcome, Reply.reported.injEq] at hreply
        refine ⟨i, _, _, _, rfl, reportFailed_reports (st.handle policy i) s st.db lease,
          hreply, ?_⟩
        simp only [Store.step, hs, Operation.run, Answer.toOutcome, Store.settle]
  · cases hc

/-- An accepted report presents the current lease of a row in the scope that issued it. -/
theorem Store.accepted_report (hreply : (st.step policy c).2 = .reported (.ok ())) :
    (∃ op, c = .perform lease.openScope op) ∧ ∃ j ∈ st.db.tables.inviterJoins, j.heldBy lease := by
  obtain ⟨i, op, settled, answer, rfl, hreports, hresult, -⟩ := Store.report_answer hc hreply
  obtain ⟨-, hscope, j, hj, hheld, -⟩ | ⟨e, herror, -⟩ := hreports
  · exact ⟨⟨op, by rw [hscope]; rfl⟩, j, hj, hheld⟩
  · rw [herror] at hresult
    cases hresult

end

theorem Call.Presents.issued {op : Operation} (h : Call.Presents w (.perform lease.openScope op))
    (hc : Call.reportedLease (.perform lease.openScope op) = some lease) :
    lease ∈ issuedLeases w := by
  cases op with
  | reportAccepted lease' now =>
    cases hc
    exact h rfl
  | reportFailed lease' =>
    cases hc
    exact h rfl
  | _ => cases hc

/-- The guarantees of the outbox in one world of a run. -/
structure OutboxGuarantees (policy : AuthorizationPolicy) (w : StoreWorld) : Prop where
  /-- Attempts are counted by generations and never exceed the maximum. -/
  attempts : ∀ j ∈ w.state.db.tables.inviterJoins,
    j.deliveryAttempts = j.leaseGeneration ∧ j.deliveryAttempts ≤ j.maximumDeliveryAttempts
  /-- The generations of the leases issued for a row strictly increase. -/
  generations : (issuedLeases w).Pairwise fun l l' =>
    l.transactionId = l'.transactionId → l.generation < l'.generation
  /-- At most one lease of a row is accepted. -/
  accepted : ∀ c c' l l', c.Presents w → c'.Presents w → c.reportedLease = some l →
    c'.reportedLease = some l' → l.transactionId = l'.transactionId →
    (w.state.step policy c).2 = .reported (.ok ()) →
    (w.state.step policy c').2 = .reported (.ok ()) → l = l'
  /-- A row becomes delivered only through its current lease, in the scope that issued
  it, before the lease and the row expire. -/
  delivered : ∀ c, c.Fresh w.state.db → c.Presents w →
    ∀ j' ∈ (w.state.step policy c).1.db.tables.inviterJoins, j'.outboxState = .delivered →
      j' ∈ w.state.db.tables.inviterJoins ∨
      ∃ j ∈ w.state.db.tables.inviterJoins, ∃ lease now, j' = j.closed .delivered ∧
        c = .perform lease.openScope (.reportAccepted lease now) ∧ j.heldBy lease ∧
        (∃ e ∈ j.leaseExpiresAt, now < e) ∧ now < j.outboxExpiresAt ∧
        ∃ event ∈ w.history, issuedLease event = some lease ∧ ∃ now seconds draws,
          event.call = .perform lease.openScope (.leaseNext now seconds draws)
  /-- A delivered, exhausted or expired row stays as it is. -/
  settled : ∀ c, c.Fresh w.state.db → ∀ j ∈ w.state.db.tables.inviterJoins,
    (j.outboxState = .delivered ∨ j.outboxState = .attemptsExhausted ∨
      j.outboxState = .expired) → j ∈ (w.state.step policy c).1.db.tables.inviterJoins
  /-- No statement of the port breaks a constraint. -/
  constraints : ∀ i now seconds draws lease, 0 < seconds →
    (leaseNextTx i now (now + seconds) draws).run w.state.db ≠ .error .constraint ∧
    (reportAcceptedTx lease now).run w.state.db ≠ .error .constraint ∧
    (reportFailedTx lease).run w.state.db ≠ .error .constraint
  /-- A report that is refused changes nothing but its own row, which may expire. -/
  refused : ∀ c lease e, c.reportedLease = some lease →
    (w.state.step policy c).2 = .reported (.error e) →
    (w.state.step policy c).1.db.tables = w.state.db.tables ∨
      ∃ j ∈ w.state.db.tables.inviterJoins, j.heldBy lease ∧
        (w.state.step policy c).1.db.tables = { w.state.db.tables with
          inviterJoins := replaceRow j (j.closed .expired) w.state.db.tables.inviterJoins }

/-- The outbox keeps its guarantees in every reachable world. -/
theorem outbox_guaranteed (h : Reachable policy storeId w) : OutboxGuarantees policy w where
  attempts := by
    intro j hj
    exact ⟨h.ledger.counted j hj,
      InviterJoinRow.attempts_le (w.state.db.isValid.inviterJoins.1 j hj)⟩
  generations := h.ledger.increasing
  accepted := by
    intro c c' l l' hpresents hpresents' hc hc' htx hreply hreply'
    obtain ⟨⟨op, rfl⟩, j, hj, hheld⟩ := Store.accepted_report hc hreply
    obtain ⟨⟨op', rfl⟩, j', hj', hheld'⟩ := Store.accepted_report hc' hreply'
    -- both leases are the current one of the same row
    obtain rfl := w.state.db.isValid.join_eq hj hj' (hheld.1.trans (htx.trans hheld'.1.symm))
    exact h.ledger.unique (hpresents.issued hc) (hpresents'.issued hc') htx
      (hheld.2.2.1.symm.trans hheld'.2.2.1)
  delivered := by
    intro c hfresh hpresents j' hj' hdelivered
    obtain hunsent | ⟨j, hj, hrow⟩ := (Store.joinsStep h.sound hfresh).backward hj'
    · simp [hunsent.outboxState] at hdelivered
    · by_cases hbefore : j.outboxState = .delivered
      · have hsettled : ¬j.Open := by simp [InviterJoinRow.Open, hbefore]
        exact .inl (hrow.eq_of_not_open hsettled ▸ hj)
      · obtain ⟨i, lease, now, rfl, -, rfl, hheld, htimely, rfl⟩ := hrow.deliver hbefore hdelivered
        obtain ⟨event, hevent, hissued⟩ := List.mem_filterMap.mp (hpresents rfl)
        exact .inr ⟨j, hj, lease, now, rfl, rfl, hheld, htimely.1, htimely.2, event, hevent,
          hissued, h.ledger.stamped event hevent lease hissued⟩
  settled := by
    intro c hfresh j hj hstate
    obtain ⟨j', hj', hrow⟩ := (Store.joinsStep h.sound hfresh).forward hj
    have hsettled : ¬j.Open := by
      obtain hstate | hstate | hstate := hstate <;> simp [InviterJoinRow.Open, hstate]
    exact hrow.eq_of_not_open hsettled ▸ hj'
  constraints := by
    intro i now seconds draws lease hpos
    exact ⟨leaseNextTx_avoids i now draws (by omega) _, reportAcceptedTx_avoids lease now _,
      reportFailedTx_avoids lease _⟩
  refused _ _ _ hc hreply := by
    obtain ⟨i, op, settled, answer, rfl, hreports, hresult, hdb⟩ := Store.report_answer hc hreply
    rw [hdb]
    obtain ⟨hok, -⟩ | ⟨-, -, hkept⟩ := hreports
    · rw [hok] at hresult
      cases hresult
    · exact hkept

/-- A legacy result is leased, and its lease alone is accepted. -/
theorem outbox_guaranteed_leased :
    let w := sampleStore.afterAll (Store.step .phaseOne)
      ([.openScope] ++ legacyCalls 78 ++ [.perform 1 (.leaseNext 9 10 fun _ => 6)])
    ∃ j ∈ w.state.db.tables.inviterJoins, j.outboxState = .leased ∧
      j.deliveryAttempts = 1 ∧ j.leaseGeneration = 1 := by
  intro w
  have hreachable : Reachable .phaseOne ⟨7, by decide⟩ w :=
    leads_afterAll ⟨trivial, trivial, trivial, trivial, trivial, trivial⟩
  have hleased : ∃ j ∈ w.state.db.tables.inviterJoins, j.outboxState = .leased ∧
      j.deliveryAttempts = 1 := by decide +kernel
  obtain ⟨j, hj, hstate, hattempts⟩ := hleased
  refine ⟨j, hj, hstate, hattempts, ?_⟩
  rw [← ((outbox_guaranteed hreachable).attempts j hj).1]
  exact hattempts

end SessionChat.Storage
