import SessionChat.Storage.Operations

/-!
# Reachable stores (`crates/storage-sqlcipher/src/lib.rs`)

`Store.Sound` is what every call keeps: the committed tables are coherent, and a
working copy that a scope still holds is the committed database with effects on
it that admit nothing new. The second part needs the write lock: while a scope
holds a working copy, no other scope changes the committed database.
-/

set_option autoImplicit false

namespace SessionChat.Storage

open Relational Transition

variable {policy : AuthorizationPolicy} {st : Store}

/-- What a call may bring in. -/
def Call.admission (st : Store) (reply : Reply) : Call → Admission
  | .perform i op =>
      match st.scopes i with
      | some s => op.admission s reply
      | none => .nothing
  | .openScope | .closeScope _ | .restart => .nothing

variable {c : Call} {reply : Reply}

/-- Only an issue that succeeded brings in an opening. -/
theorem Call.admission_opening {o : OpeningRow} (h : (c.admission st reply).opening o) :
    ∃ i protector issuedAt expiresAt now generated,
      c = .perform i (.issue protector issuedAt expiresAt now) ∧ reply = .issued (.ok generated) ∧
      o.invitationId = generated.invitation.invitationId ∧
      o.generation = generated.invitation.signature := by
  unfold Call.admission at h
  split at h
  · split at h
    · next i op _ s hs =>
        unfold Operation.admission at h
        split at h
        · next protector issuedAt expiresAt now generated =>
            exact ⟨i, protector, issuedAt, expiresAt, now, generated, rfl, rfl, h.1, h.2⟩
        · cases h
        · cases hstaged : s.stagedInviter with
          | none => simp [hstaged, Admission.nothing] at h
          | some staged =>
            cases hauth : staged.authorization <;>
              simp [hstaged, StagedInviter.admission, hauth, Admission.ofLegacy,
                Admission.nothing] at h
        all_goals cases h
    · cases h
  all_goals cases h

/-- Only the write of a transaction staged without authorization brings in a legacy
result. -/
theorem Call.admission_legacyJoin {j : InviterJoinRow} (h : (c.admission st reply).legacyJoin j) :
    ∃ i s staged state inserts updates elapsed observer,
      c = .perform i (.write state inserts updates elapsed observer) ∧
      st.scopes i = some s ∧ s.stagedInviter = some staged ∧ staged.authorization = none ∧
      j.transactionId = staged.transaction.transactionId := by
  unfold Call.admission at h
  split at h
  · split at h
    · next i op _ s hs =>
        unfold Operation.admission at h
        split at h
        · cases h
        · cases h
        · next _ state inserts updates elapsed observer =>
            cases hstaged : s.stagedInviter with
            | none => simp [hstaged, Admission.nothing] at h
            | some staged =>
              cases hauth : staged.authorization with
              | none =>
                simp only [hstaged, Option.map_some,
                  StagedInviter.admission, hauth] at h
                exact ⟨i, s, staged, state, inserts, updates, elapsed, observer, rfl, hs,
                  hstaged, hauth, h⟩
              | some auth => simp [hstaged, StagedInviter.admission, hauth, Admission.nothing] at h
        all_goals cases h
    · cases h
  all_goals cases h

/-- The invitation a call draws has no result yet. -/
def Call.Fresh (db : Db) : Call → Prop
  | .perform _ op => op.Fresh db
  | .openScope | .closeScope _ | .restart => True

/-- What holds of the store between calls. -/
structure Store.Sound (policy : AuthorizationPolicy) (st : Store) : Prop where
  coherent : Coherent policy st.db.tables
  /-- A scope with a working copy holds the write lock. -/
  locked : ∀ i s pending working, st.scopes i = some s → s.pendingJoiner = some pending →
    pending.working = some working →
      st.writer = some i ∧ Effects policy .nothing st.db working

namespace Store

@[simp] theorem openScope_db : (st.openScope policy).1.db = st.db := by
  unfold openScope
  split <;> rfl

@[simp] theorem crash_db : st.crash.db = st.db := rfl

/-- Opening adds a scope that holds nothing. -/
theorem openScope_scopes {i : ScopeId} {s : Scope}
    (h : (st.openScope policy).1.scopes i = some s) : s = Scope.opened ∨ st.scopes i = some s := by
  unfold openScope at h
  split at h
  · exact .inr h
  · by_cases hi : i = st.nextScope
    · subst hi
      simp only [Function.update_self, Option.some.injEq] at h
      exact .inl h.symm
    · exact .inr (by simpa [hi] using h)

@[simp] theorem openScope_writer : (st.openScope policy).1.writer = st.writer := by
  unfold openScope
  split <;> rfl

namespace Sound

theorem created (policy : AuthorizationPolicy) (storeId : { id : Id16 // id ≠ 0 }) :
    (Store.created policy storeId).Sound policy where
  coherent := Coherent.created policy storeId
  locked := by
    intro i s pending working hs hpending
    by_cases hi : i = 0
    · subst hi
      simp only [Store.created, Function.update_self, Option.some.injEq] at hs
      subst hs
      cases hpending
    · simp [Store.created, hi] at hs

section

variable (h : st.Sound policy)
include h

theorem openScope : (st.openScope policy).1.Sound policy where
  coherent := by simpa using h.coherent
  locked := by
    intro i s pending working hs hpending hworking
    simp only [openScope_writer, openScope_db]
    obtain rfl | hs := openScope_scopes hs
    · cases hpending
    · exact h.locked i s pending working hs hpending hworking

theorem closeScope (i : ScopeId) : (st.closeScope i).Sound policy where
  coherent := h.coherent
  locked := by
    intro k s pending working hs hpending hworking
    by_cases hk : k = i
    · subst hk
      simp [Store.closeScope] at hs
    · simp only [Store.closeScope, ne_eq, hk, not_false_eq_true, Function.update_of_ne] at hs
      obtain ⟨hwriter, heffects⟩ := h.locked k s pending working hs hpending hworking
      refine ⟨?_, heffects⟩
      simp [Store.closeScope, hwriter, hk]

theorem crash : st.crash.Sound policy where
  coherent := h.coherent
  locked := by
    intro i s pending working hs
    cases hs

variable {i : ScopeId} {s s' : Scope} {db' working : Db} {N : Admission} {pending : PendingJoiner}

/-- The committed database after an operation, from what the operation did. -/
theorem effects_of_transacts (hs : st.scopes i = some s)
    (ht : Transacts policy (st.handle policy i) s st.db N s' db') : Effects policy N st.db db' := by
  cases ht with
  | acts hacts => exact hacts.effects
  | opens pending hidle hpending hworking hdb =>
    rw [hdb]
    exact .refl _
  | closes hpending hdb =>
    obtain rfl | ⟨pending, working, hp, hw, heffects⟩ := hdb
    · exact .refl _
    · obtain ⟨-, hfirst⟩ := h.locked i s pending working hs hp hw
      exact Effects.mono (Admission.nothing_le _) (hfirst.trans heffects)

/-- While another scope holds a working copy, an operation changes nothing and takes
no lock. -/
theorem unchanged_of_locked {k : ScopeId} {s₁ : Scope} (hne : k ≠ i) (hs : st.scopes i = some s)
    (hk : st.scopes k = some s₁) (hpending : s₁.pendingJoiner = some pending)
    (hworking : pending.working = some working)
    (ht : Transacts policy (st.handle policy i) s st.db N s' db') :
    db' = st.db ∧ s'.holdsWriteLock = false := by
  have hwriter := (h.locked k s₁ pending working hk hpending hworking).1
  have hbusy : (st.handle policy i).busy = true := by
    simp [Store.handle, hwriter, hne]
  -- the scope itself holds no copy, or the lock would be its own
  have hown : ∀ p, s.pendingJoiner = some p → p.working = none := by
    intro p hp
    by_contra hcopy
    obtain ⟨copy, hcopy⟩ := Option.ne_none_iff_exists'.mp hcopy
    have := (h.locked i s p copy hs hp hcopy).1
    rw [hwriter, Option.some.injEq] at this
    exact hne this
  cases ht with
  | acts hacts =>
    refine ⟨hacts.exclusive.resolve_right ?_, ?_⟩
    · simp [hbusy]
    · rw [Scope.holdsWriteLock, hacts.pending]
      cases hp : s.pendingJoiner with
      | none => rfl
      | some p => simp [hown p hp]
  | opens p hidle hp hcopy hdb =>
    refine ⟨hdb, ?_⟩
    rw [Scope.holdsWriteLock, hp]
    cases hw : p.working with
    | none => simp [hw]
    | some copy =>
      have := (hcopy copy hw).1
      simp [hbusy] at this
  | closes hp hdb =>
    refine ⟨hdb.resolve_right ?_, ?_⟩
    · rintro ⟨p, copy, hp', hw, -⟩
      simp [hown p hp'] at hw
    · simp [Scope.holdsWriteLock, hp]

/-- The scope that acted still holds a copy of the committed database, if any. -/
theorem own_working (hs : st.scopes i = some s)
    (ht : Transacts policy (st.handle policy i) s st.db N s' db')
    (hpending : s'.pendingJoiner = some pending) (hworking : pending.working = some working) :
    Effects policy .nothing db' working := by
  cases ht with
  | acts hacts =>
    rw [hacts.pending] at hpending
    obtain rfl | ⟨hnone, -⟩ := hacts.exclusive
    · exact (h.locked i s pending working hs hpending hworking).2
    · simp [hnone] at hpending
  | opens p hidle hp hcopy hdb =>
    rw [hpending, Option.some.injEq] at hp
    subst hp hdb
    exact (hcopy working hworking).2
  | closes hp hdb => simp [hp] at hpending

theorem settle {o : Outcome} (hs : st.scopes i = some s)
    (ht : Transacts policy (st.handle policy i) s st.db N o.scope o.db) :
    (st.settle i o).Sound policy where
  coherent := h.coherent.effects (h.effects_of_transacts hs ht)
  locked := by
    intro k s₁ pending working hk hpending hworking
    by_cases hki : k = i
    · subst hki
      simp only [Store.settle, Function.update_self, Option.some.injEq] at hk
      subst hk
      refine ⟨?_, h.own_working hs ht hpending hworking⟩
      simp [Store.settle, Scope.holdsWriteLock, hpending, hworking]
    · simp only [Store.settle, ne_eq, hki, not_false_eq_true, Function.update_of_ne] at hk
      obtain ⟨hwriter, heffects⟩ := h.locked k s₁ pending working hk hpending hworking
      obtain ⟨hdb, hlock⟩ := h.unchanged_of_locked hki hs hk hpending hworking ht
      refine ⟨?_, ?_⟩
      · simp [Store.settle, hlock, hwriter, hki]
      · simpa [Store.settle, hdb] using heffects

end

end Sound

theorem step_perform (policy : AuthorizationPolicy) (st : Store) (i : ScopeId) (op : Operation) :
    st.step policy (.perform i op) = (st, .notOpen) ∨
      ∃ s, st.scopes i = some s ∧ st.step policy (.perform i op) =
        (st.settle i (op.run (st.handle policy i) s st.db),
          (op.run (st.handle policy i) s st.db).reply) := by
  cases hs : st.scopes i with
  | none => exact .inl (by simp [step, hs])
  | some s => exact .inr ⟨s, rfl, by simp [step, hs]⟩

variable {c : Call}

theorem step_effects (h : st.Sound policy) (hfresh : c.Fresh st.db) :
    Effects policy (c.admission st (st.step policy c).2) st.db (st.step policy c).1.db := by
  cases c with
  | openScope =>
    simp only [step, openScope_db]
    exact .refl _
  | closeScope i => exact .refl _
  | restart =>
    simp only [step, openScope_db]
    exact .refl _
  | perform i op =>
    cases hs : st.scopes i with
    | none =>
      simp only [step, hs]
      exact .refl _
    | some s =>
      simp only [step, Call.admission, hs]
      exact h.effects_of_transacts hs
        (op.run_transacts (st.handle policy i) s h.coherent hfresh)

/-- Every call keeps the store sound. -/
theorem Sound.step (h : st.Sound policy) (hfresh : c.Fresh st.db) :
    (st.step policy c).1.Sound policy := by
  cases c with
  | openScope => exact h.openScope
  | closeScope i => exact h.closeScope i
  | restart => exact h.crash.openScope
  | perform i op =>
    simp only [Store.step]
    split
    · exact h
    · next s hs =>
        exact h.settle hs (op.run_transacts (st.handle policy i) s h.coherent hfresh)

end Store

/-! ## Runs -/

/-- The worlds that fresh calls reach from a new store. -/
def Reachable (policy : AuthorizationPolicy) (storeId : { id : Id16 // id ≠ 0 })
    (w : StoreWorld) : Prop :=
  Leads (Store.step policy) (fun w c => c.Fresh w.state.db) (StoreWorld.created policy storeId) w

theorem Store.Sound.leads {w v : StoreWorld} (h : w.state.Sound policy)
    (hv : Leads (Store.step policy) (fun w c => c.Fresh w.state.db) w v) : v.state.Sound policy :=
  hv.invariant (I := fun w => w.state.Sound policy) (fun _ _ hfresh hw => hw.step hfresh) h

theorem Reachable.sound {storeId : { id : Id16 // id ≠ 0 }} {w : StoreWorld}
    (h : Reachable policy storeId w) : w.state.Sound policy :=
  (Store.Sound.created policy storeId).leads h

end SessionChat.Storage
