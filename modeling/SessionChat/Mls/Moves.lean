import SessionChat.Mls.Handles

/-!
# What a call can do (`crates/session-crypto-mls/src/lib.rs`)

Every method of a group leaves the recorded obligation alone and moves the revision by a known
amount; only a durable Add records an obligation and only the end of its own write clears it.
`System.Moves` lists the outcomes of a call on a handle once, and the bookkeeping invariant of
the system is read off it.
-/

set_option autoImplicit false

namespace SessionChat.Mls

open Storage Transition

variable {P : Provider}

/-! ## Revisions and obligations -/

/-- `g'` is `n` revisions after `g` and owes the same Add. -/
structure Group.Follows (n : BitVec 64) (g g' : Group P) : Prop where
  revision : g'.stateBinding = g.stateBinding + n
  obligation : g'.pendingAdditionRevision = g.pendingAdditionRevision

namespace Group

variable {g g' : Group P} {epochBefore : Nat}

theorem follows_of_eq (hrevision : g'.stateBinding = g.stateBinding)
    (hobligation : g'.pendingAdditionRevision = g.pendingAdditionRevision) : Follows 0 g g' :=
  ⟨by simp [hrevision], hobligation⟩

theorem Follows.of_invalidated (h : Follows 0 g.invalidateStateBinding g') : Follows 1 g g' := by
  refine ⟨?_, h.obligation⟩
  simp [h.revision, invalidateStateBinding]

theorem finishPrepare_follows {α : Type} (g : Group P) (built : P.State × Option CommitOutput)
    (check : CommitOutput → Except MlsAdapterError α) :
    Follows 0 g (g.finishPrepare built check).1 := by
  obtain ⟨inner, output⟩ := built
  cases output with
  | none => exact follows_of_eq rfl rfl
  | some output =>
    simp only [finishPrepare]
    split
    · exact follows_of_eq rfl rfl
    · exact follows_of_eq rfl rfl

theorem prepareAdd_follows (g : Group P) (validated : ValidatedKeyPackage P) (now : Nat) :
    Follows 1 g (g.prepareAdd validated now).1 := by
  refine Follows.of_invalidated ?_
  simp only [prepareAdd]
  split_ifs
  · exact follows_of_eq rfl rfl
  · exact follows_of_eq rfl rfl
  · exact finishPrepare_follows _ _ _

theorem prepareRemovePeer_follows (g : Group P) (now : Nat) :
    Follows 1 g (g.prepareRemovePeer now).1 := by
  refine Follows.of_invalidated ?_
  simp only [prepareRemovePeer]
  split_ifs
  · exact follows_of_eq rfl rfl
  · split
    · exact follows_of_eq rfl rfl
    · exact finishPrepare_follows _ _ _

theorem prepareEpochUpdate_follows (g : Group P) (now : Nat) :
    Follows 1 g (g.prepareEpochUpdate now).1 := by
  refine Follows.of_invalidated ?_
  simp only [prepareEpochUpdate]
  split_ifs
  · exact follows_of_eq rfl rfl
  · exact finishPrepare_follows _ _ _

theorem encryptApplicationMessage_follows (g : Group P) (plaintext : Bytes) :
    Follows 1 g (g.encryptApplicationMessage plaintext).1 := by
  refine Follows.of_invalidated ?_
  simp only [encryptApplicationMessage]
  split_ifs
  · exact follows_of_eq rfl rfl
  · exact follows_of_eq rfl rfl
  · split <;> exact follows_of_eq rfl rfl

theorem receive_follows (g : Group P) (received : ReceivedMessage) :
    Follows 0 g (g.receive received).1 := by
  unfold receive
  split <;> try split_ifs
  all_goals exact follows_of_eq rfl rfl

theorem processMessage_follows (g : Group P) (message : MlsWireMessage) :
    Follows 1 g (g.processMessage message).1 := by
  refine Follows.of_invalidated ?_
  simp only [processMessage]
  split_ifs
  · exact follows_of_eq rfl rfl
  · split
    · exact follows_of_eq rfl rfl
    · split
      · exact follows_of_eq rfl rfl
      · next inner received _ =>
          have h := receive_follows { g.invalidateStateBinding with inner := inner } received
          exact ⟨h.revision, h.obligation⟩

theorem applyPending_follows (g : Group P) (epochBefore memberCount : Nat) :
    Follows 0 g (g.applyPending epochBefore memberCount).1 := by
  unfold applyPending
  split
  · exact follows_of_eq rfl rfl
  · split_ifs
    · exact follows_of_eq rfl rfl
    · exact follows_of_eq rfl rfl

/-- Only a state that the provider has reached passes the checks of an apply. -/
theorem applyPending_ok {memberCount : Nat}
    (h : g.applyPending epochBefore memberCount = (g', .ok ())) :
    (P.applyPendingCommit g.inner).2 = true := by
  unfold applyPending at h
  split at h
  · cases h
  · next heq => rw [heq]

/-- An Add that was applied is one revision ahead and owed. -/
theorem applyDurableAddition_ok {revision : BitVec 64}
    (h : g.applyDurableAddition epochBefore = (g', .ok revision)) :
    (P.applyPendingCommit g.inner).2 = true ∧ revision = g.stateBinding + 1 ∧
      g'.stateBinding = revision ∧ g'.pendingAdditionRevision = some revision := by
  simp only [applyDurableAddition, applyAddition] at h
  have hfollows := g.applyPending_follows epochBefore 2
  rcases hpending : g.applyPending epochBefore 2 with ⟨g₁, _ | _⟩
  · rw [hpending] at h
    cases h
  · rw [hpending] at h hfollows
    cases h
    refine ⟨applyPending_ok hpending, ?_, rfl, rfl⟩
    have hrevision : g₁.stateBinding = g.stateBinding + 0 := hfollows.revision
    simp [invalidateStateBinding, hrevision]

/-- An Add that was not applied owes nothing new. -/
theorem applyDurableAddition_error {e : MlsAdapterError}
    (h : g.applyDurableAddition epochBefore = (g', .error e)) :
    g.applyPending epochBefore 2 = (g', .error e) := by
  simp only [applyDurableAddition, applyAddition] at h
  rcases hpending : g.applyPending epochBefore 2 with ⟨g₁, _ | _⟩
  · rw [hpending] at h
    cases h
    rfl
  · rw [hpending] at h
    cases h

end Group

/-! ## The outcomes of a call -/

/-- The operations that touch the group's state. -/
def Op.touches : Op P → Bool
  | .prepareAdd _ _ | .prepareRemovePeer _ | .prepareEpochUpdate _ => true
  | .encryptApplicationMessage _ | .processMessage _ | .apply => true
  | _ => false

/-- The consumed Add that borrows a handle. -/
def Activity.addition? : Activity → Option AppliedAddition
  | .staging _ a => some a
  | .writing (some (_, a)) => some a
  | _ => none

/-- The reply of a call that released a Welcome and a Commit. -/
def Reply.released? : Reply → Option (MlsWireMessage × MlsWireMessage)
  | .persisted (.ok out) => some out
  | _ => none

namespace System

/-- The outcomes of a call on the handle `h`, which is `x`. -/
inductive Moves (s : System P) (h : HandleId) (x : Handle P) : Op P → System P × Reply → Prop where
  | unavailable (op : Op P) : Moves s h x op (s, .unavailable)
  /-- A prepare that failed, or a message. -/
  | touched {op : Op P} {g : Group P} {reply : Reply} (hidle : x.activity = .idle)
      (hop : op.touches = true) (hgroup : x.group.Follows 1 g) (hmade : reply ≠ .unavailable)
      (hreply : reply.released? = none) :
      Moves s h x op (s.setHandle h { x with group := g }, reply)
  | prepared {op : Op P} {g : Group P} {value : Prepared} (hidle : x.activity = .idle)
      (hop : op.touches = true) (hgroup : x.group.Follows 1 g) :
      Moves s h x op (s.setHandle h { x with group := g, activity := .prepared value },
        .prepared (.ok ()))
  | dropped {value : Prepared} (hprepared : x.activity = .prepared value) :
      Moves s h x .drop
        (s.setHandle h { x with group := x.group.clearPendingCommit, activity := .idle }, .dropped)
  /-- The apply of a removal or an epoch update. -/
  | committed {value : Prepared} {g : Group P} {result : Except MlsAdapterError MlsWireMessage}
      (hprepared : x.activity = .prepared value) (hgroup : x.group.Follows 0 g) :
      Moves s h x .apply (s.setHandle h { x with group := g, activity := .idle },
        .committed result)
  | addedTransient {value : Prepared} {g : Group P}
      {result : Except MlsAdapterError (MlsWireMessage × MlsWireMessage)}
      (hprepared : x.activity = .prepared value) (hmode : x.mode = .transient) :
      Moves s h x .apply (s.endAddition h x g, .transientAddition result)
  | addFailed {epochBefore : Nat} {r c l : Bytes32} {welcome commit : MlsWireMessage}
      {g : Group P} {e : MlsAdapterError}
      (hprepared : x.activity = .prepared (.addition epochBefore r c l welcome commit))
      (hmode : x.mode = .durable)
      (hresult : x.group.applyDurableAddition epochBefore = (g, .error e)) :
      Moves s h x .apply (s.endAddition h x g, .committedAddition (.error e))
  | added {epochBefore : Nat} {r c l : Bytes32} {welcome commit : MlsWireMessage} {g : Group P}
      {revision : BitVec 64}
      (hprepared : x.activity = .prepared (.addition epochBefore r c l welcome commit))
      (hmode : x.mode = .durable)
      (hresult : x.group.applyDurableAddition epochBefore = (g, .ok revision)) :
      Moves s h x .apply
        ({ s.endAddition h x g with
            additions := Function.update s.additions s.nextAdd (some
              ⟨g.groupId.1, epochBefore, g.epoch, h, revision, s.nextAdd, r, c, l, welcome,
                commit⟩) },
          .committedAddition (.ok s.nextAdd))
  | writeBlocked (hidle : x.activity = .idle)
      (hblocked : x.mode = .durable ∧ x.group.pendingAdditionRevision ≠ none) :
      Moves s h x .writeToStorage (s, .written (.error .protocolRejected))
  | writing (hidle : x.activity = .idle)
      (hfree : ¬(x.mode = .durable ∧ x.group.pendingAdditionRevision ≠ none)) :
      Moves s h x .writeToStorage (s.setHandle h { x with activity := .writing none },
        .storing (P.snapshot x.group.inner))
  | stale {thread : ThreadId} {k : AddId} {a : AppliedAddition} (hidle : x.activity = .idle)
      (hadded : s.additions k = some a) :
      Moves s h x (.stageAndWriteToStorage thread k)
        ({ s with additions := Function.update s.additions k none },
          .persisted (.error .staleSnapshot))
  | staging {thread : ThreadId} {k : AddId} {a : AppliedAddition} (hidle : x.activity = .idle)
      (hmode : x.mode = .durable) (hadded : s.additions k = some a)
      (hcurrent : current h x.group a = true) :
      Moves s h x (.stageAndWriteToStorage thread k)
        ({ s with additions := Function.update s.additions k none }.setHandle h
            { x with activity := .staging thread a },
          .staging a.writeAuthority)
  | stageFailed {thread : ThreadId} {a : AppliedAddition} {result : Except StoreError Unit}
      {e : PersistenceError} (hstaging : x.activity = .staging thread a) :
      Moves s h x (.staged result) (s.setHandle h { x with activity := .idle },
        .persisted (.error e))
  | staged {thread : ThreadId} {a : AppliedAddition} (hstaging : x.activity = .staging thread a)
      (hthread : s.currentWrite thread = none) :
      Moves s h x (.staged (.ok ()))
        ({ s.setHandle h { x with activity := .writing (some (thread, a)) } with
            currentWrite := Function.update s.currentWrite thread (some a.writeAuthority) },
          .storing (P.snapshot x.group.inner))
  | written {accepted : Bool} (hwriting : x.activity = .writing none) :
      Moves s h x (.stored accepted) (s.endWrite h x accepted)
  | writtenOwn {accepted : Bool} {thread : ThreadId} {a : AppliedAddition}
      (hwriting : x.activity = .writing (some (thread, a))) :
      Moves s h x (.stored accepted) (s.endOwnWrite h x thread a accepted)

section Inversion

variable {s : System P} {h : HandleId} {x : Handle P}

theorem prepare_moves {op : Op P} {result : Group P × Except MlsAdapterError Prepared}
    (hidle : x.activity = .idle) (hop : op.touches = true)
    (hgroup : x.group.Follows 1 result.1) : Moves s h x op (s.prepare h x result) := by
  rcases result with ⟨g, e | value⟩
  · exact .touched hidle hop hgroup (by simp) rfl
  · exact .prepared hidle hop hgroup

theorem operateIdle_moves (op : Op P) (hidle : x.activity = .idle) :
    Moves s h x op (s.operateIdle h x op) := by
  cases op with
  | prepareAdd validated now =>
    exact prepare_moves hidle rfl (x.group.prepareAdd_follows validated now)
  | prepareRemovePeer now => exact prepare_moves hidle rfl (x.group.prepareRemovePeer_follows now)
  | prepareEpochUpdate now => exact prepare_moves hidle rfl (x.group.prepareEpochUpdate_follows now)
  | encryptApplicationMessage plaintext =>
    exact .touched hidle rfl (x.group.encryptApplicationMessage_follows plaintext) (by simp) rfl
  | processMessage message =>
    exact .touched hidle rfl (x.group.processMessage_follows message) (by simp) rfl
  | writeToStorage =>
    simp only [operateIdle, beginWrite]
    split
    · next hblocked => exact .writeBlocked hidle hblocked
    · next hfree => exact .writing hidle hfree
  | stageAndWriteToStorage thread k =>
    simp only [operateIdle]
    split
    · next hmode hadded =>
        simp only [beginStage]
        split
        · next hcurrent => exact .staging hidle hmode hadded hcurrent
        · exact .stale hidle hadded
    · exact .unavailable _
  | apply | drop | staged _ | stored _ => exact .unavailable _

theorem applyPrepared_moves {value : Prepared} (hprepared : x.activity = .prepared value) :
    Moves s h x .apply (s.applyPrepared h x value) := by
  cases value with
  | addition epochBefore r c l welcome commit =>
    simp only [applyPrepared]
    split
    · next hmode =>
        simp only [applyTransientAddition]
        split
        · exact .addedTransient hprepared hmode
        · exact .addedTransient hprepared hmode
    · next hmode =>
        simp only [applyDurableAddition]
        split
        · next hresult => exact .addFailed hprepared hmode hresult
        · next hresult => exact .added hprepared hmode hresult
  | removal epochBefore commit =>
    exact .committed hprepared (x.group.applyPending_follows epochBefore 1)
  | epochUpdate epochBefore memberCountBefore commit =>
    exact .committed hprepared (x.group.applyPending_follows epochBefore memberCountBefore)

theorem endStage_moves {thread : ThreadId} {a : AppliedAddition}
    (result : Except StoreError Unit) (hstaging : x.activity = .staging thread a) :
    Moves s h x (.staged result) (s.endStage h x thread a result) := by
  rcases result with e | ⟨⟩
  · exact .stageFailed hstaging
  · simp only [endStage]
    split_ifs with hcurrent hthread
    · exact .staged hstaging hthread
    · exact .stageFailed hstaging
    · exact .stageFailed hstaging

/-- `Moves` misses no outcome. -/
theorem operate_moves (s : System P) (h : HandleId) (x : Handle P) (op : Op P) :
    Moves s h x op (s.operate h x op) := by
  unfold operate
  split
  · next hidle => exact operateIdle_moves _ hidle
  · next hprepared => exact applyPrepared_moves hprepared
  · next hprepared => exact .dropped hprepared
  · next hstaging => exact endStage_moves _ hstaging
  · next hwriting => exact .written hwriting
  · next hwriting => exact .writtenOwn hwriting
  · exact .unavailable _

end Inversion

/-! ## Bookkeeping -/

@[simp] theorem setHandle_handles_self (s : System P) (h : HandleId) (x : Handle P) :
    (s.setHandle h x).handles h = some x :=
  Function.update_self ..

variable {s : System P} {h h' : HandleId} {x y : Handle P} {op : Op P} {result : System P × Reply}
  {c : Call P} {mode : StorageMode} {inner : P.State} {adds : List AddId} {g : Group P}
  {w w' : GroupWorld P}

theorem setHandle_handles_of_ne (hne : h' ≠ h) : (s.setHandle h x).handles h' = s.handles h' :=
  Function.update_of_ne hne ..

/-- A handle `y` at `h` is borrowed only by a consumed Add that is current there. -/
def Borrows (s : System P) (h : HandleId) (y : Handle P) : Prop :=
  ∀ a, y.activity.addition? = some a →
    a.stateBinding = h ∧ a.stateRevision = y.group.stateBinding ∧
      y.group.pendingAdditionRevision = some a.stateRevision ∧
      s.additions a.writeAuthority = none ∧ a.writeAuthority < s.nextAdd

/-- The bookkeeping of handles and applied Adds. -/
structure Wf (s : System P) : Prop where
  handle_lt : ∀ h x, s.handles h = some x → h < s.nextHandle
  added : ∀ k a, s.additions k = some a →
    a.writeAuthority = k ∧ k < s.nextAdd ∧ ∃ y, s.handles a.stateBinding = some y
  borrows : ∀ h x, s.handles h = some x → s.Borrows h x

theorem Borrows.of_none (hnone : y.activity.addition? = none) : s.Borrows h y := by
  intro a ha
  rw [hnone] at ha
  cases ha

theorem wf_init : Wf (System.init : System P) :=
  ⟨(fun _ _ h => by cases h), (fun _ _ h => by cases h), (fun _ _ h => by cases h)⟩

theorem Wf.setHandle (hwf : s.Wf) (hx : s.handles h = some x) (hy : s.Borrows h y) :
    (s.setHandle h y).Wf := by
  refine ⟨?_, ?_, ?_⟩
  · intro h' x' hx'
    by_cases heq : h' = h
    · exact heq ▸ hwf.handle_lt h x hx
    · rw [setHandle_handles_of_ne heq] at hx'
      exact hwf.handle_lt h' x' hx'
  · intro k a ha
    obtain ⟨hkey, hlt, y', hy'⟩ := hwf.added k a ha
    refine ⟨hkey, hlt, ?_⟩
    by_cases heq : a.stateBinding = h
    · exact ⟨y, heq ▸ setHandle_handles_self s h y⟩
    · exact ⟨y', by rw [setHandle_handles_of_ne heq, hy']⟩
  · intro h' x' hx'
    by_cases heq : h' = h
    · subst heq
      rw [setHandle_handles_self] at hx'
      cases hx'
      exact hy
    · rw [setHandle_handles_of_ne heq] at hx'
      exact hwf.borrows h' x' hx'

theorem Wf.writes (hwf : s.Wf) (currentWrite : ThreadId → Option AddId) (log : List StoreWrite) :
    ({ s with currentWrite := currentWrite, log := log } : System P).Wf :=
  ⟨hwf.handle_lt, hwf.added, hwf.borrows⟩

theorem Wf.consume (hwf : s.Wf) (k : AddId) :
    ({ s with additions := Function.update s.additions k none } : System P).Wf := by
  refine ⟨hwf.handle_lt, ?_, ?_⟩
  · intro k' a ha
    by_cases heq : k' = k
    · simp only [heq, Function.update_self] at ha
      cases ha
    · simp only [Function.update_of_ne heq] at ha
      exact hwf.added k' a ha
  · intro h x hx a ha
    obtain ⟨hbinding, hrevision, howed, hconsumed, hlt⟩ := hwf.borrows h x hx a ha
    refine ⟨hbinding, hrevision, howed, ?_, hlt⟩
    by_cases heq : a.writeAuthority = k
    · simp only [heq, Function.update_self]
    · simp only [Function.update_of_ne heq, hconsumed]

section

variable (hwf : s.Wf) (hx : s.handles h = some x)
include hwf hx

theorem Wf.endAddition (g : Group P) : (s.endAddition h x g).Wf := by
  have hset := hwf.setHandle (y := ⟨g, x.mode, .idle, s.addsAfterApply x⟩) hx (.of_none rfl)
  refine ⟨hset.handle_lt, ?_, ?_⟩
  · intro k a ha
    obtain ⟨hkey, hlt, hhandle⟩ := hset.added k a ha
    exact ⟨hkey, Nat.lt_succ_of_lt hlt, hhandle⟩
  · intro h' x' hx' a ha
    obtain ⟨hbinding, hrevision, howed, hconsumed, hlt⟩ := hset.borrows h' x' hx' a ha
    exact ⟨hbinding, hrevision, howed, hconsumed, Nat.lt_succ_of_lt hlt⟩

/-- The identifier of a new Add was never consumed before. -/
theorem Wf.add (g : Group P) {a : AppliedAddition} (hkey : a.writeAuthority = s.nextAdd)
    (hbinding : a.stateBinding = h) :
    ({ s.endAddition h x g with
        additions := Function.update s.additions s.nextAdd (some a) } : System P).Wf := by
  have hend := hwf.endAddition hx g
  refine ⟨hend.handle_lt, ?_, ?_⟩
  · intro k a' ha'
    by_cases heq : k = s.nextAdd
    · subst heq
      simp only [Function.update_self, Option.some.injEq] at ha'
      subst ha'
      refine ⟨hkey, Nat.lt_succ_self s.nextAdd, ⟨g, x.mode, .idle, s.addsAfterApply x⟩, ?_⟩
      rw [hbinding]
      exact setHandle_handles_self s h _
    · simp only [Function.update_of_ne heq] at ha'
      exact hend.added k a' ha'
  · intro h' x' hx' a' ha'
    obtain ⟨hbinding', hrevision, howed, hconsumed, hlt⟩ := hend.borrows h' x' hx' a' ha'
    refine ⟨hbinding', hrevision, howed, ?_, hlt⟩
    -- A borrowing Add of this handle would leave it busy; another handle's is older.
    by_cases heq : h' = h
    · subst heq
      rw [show (s.endAddition h' x g).handles h' = _ from setHandle_handles_self s h' _] at hx'
      cases hx'
      cases ha'
    · have hx'' : s.handles h' = some x' := by
        rw [← hx']
        exact (setHandle_handles_of_ne heq).symm
      obtain ⟨_, _, _, _, hold⟩ := hwf.borrows h' x' hx'' a' ha'
      simp only [Function.update_of_ne (Nat.ne_of_lt hold)]
      exact hconsumed

theorem Wf.moves (hmoves : s.Moves h x op result) : result.1.Wf := by
  cases hmoves with
  | unavailable => exact hwf
  | touched hidle => exact hwf.setHandle hx (.of_none (by rw [hidle]; rfl))
  | prepared => exact hwf.setHandle hx (.of_none rfl)
  | dropped => exact hwf.setHandle hx (.of_none rfl)
  | committed => exact hwf.setHandle hx (.of_none rfl)
  | addedTransient => exact hwf.endAddition hx _
  | addFailed => exact hwf.endAddition hx _
  | added => exact hwf.add hx _ rfl rfl
  | writeBlocked => exact hwf
  | writing => exact hwf.setHandle hx (.of_none rfl)
  | stale => exact hwf.consume _
  | @staging thread k a hidle hmode hadded hcurrent =>
    refine (hwf.consume k).setHandle hx ?_
    rintro a' ⟨⟩
    obtain ⟨hbinding, hrevision, howed, _, _⟩ := of_decide_eq_true hcurrent
    obtain ⟨hkey, hlt, _⟩ := hwf.added k _ hadded
    refine ⟨hbinding, hrevision, howed, ?_, hkey ▸ hlt⟩
    rw [hkey]
    exact Function.update_self ..
  | stageFailed => exact hwf.setHandle hx (.of_none rfl)
  | @staged thread a hstaging =>
    refine (hwf.setHandle hx ?_).writes _ _
    rintro a' ⟨⟩
    exact hwf.borrows h x hx a (by rw [hstaging]; rfl)
  | written => exact (hwf.setHandle hx (.of_none rfl)).writes _ _
  | writtenOwn => exact (hwf.setHandle hx (.of_none rfl)).writes _ _

end

/-! ## The outcomes of a step -/

def opened (s : System P) (g : Group P) (mode : StorageMode) (adds : List AddId) : System P :=
  { s.setHandle s.nextHandle ⟨g, mode, .idle, adds⟩ with nextHandle := s.nextHandle + 1 }

/-- The Adds of a new handle: none, or those of a durable write of the log. -/
def Inherits (s : System P) (mode : StorageMode) (adds : List AddId) : Prop :=
  adds = [] ∨ mode = .durable ∧ ∃ write ∈ s.log, write.mode = .durable ∧ write.adds = adds

inductive Steps (s : System P) : Call P → System P × Reply → Prop where
  | unavailable (c : Call P) : Steps s c (s, .unavailable)
  | notOpened {c : Call P} {e : MlsAdapterError} (hcall : ∀ h op, c ≠ .on h op) :
      Steps s c (s, .opened (.error e))
  | opened {c : Call P} {inner : P.State} {g : Group P} {mode : StorageMode} {adds : List AddId}
      (hcall : ∀ h op, c ≠ .on h op) (hgroup : Group.fromProvider inner = .ok g)
      (hadds : s.Inherits mode adds) :
      Steps s c (s.opened g mode adds, .opened (.ok s.nextHandle))
  | moved {h : HandleId} {op : Op P} {x : Handle P} {result : System P × Reply}
      (hx : s.handles h = some x) (hmoves : s.Moves h x op result) : Steps s (.on h op) result

theorem openHandle_steps (hcall : ∀ h op, c ≠ .on h op) (hadds : s.Inherits mode adds) :
    Steps s c (s.openHandle mode inner adds) := by
  unfold openHandle
  split
  · exact .notOpened hcall
  · next hgroup => exact .opened hcall hgroup hadds

/-- `Steps` misses no outcome. -/
theorem step_steps (s : System P) (c : Call P) : Steps s c (s.step c) := by
  cases c with
  | create mode inner => exact openHandle_steps (by simp) (.inl rfl)
  | load entry inner =>
    simp only [step]
    split
    · exact .unavailable _
    · next write hwrite =>
        split
        · exact .unavailable _
        · next hmode =>
            exact openHandle_steps (by simp)
              (.inr ⟨rfl, write, List.mem_of_getElem? hwrite, hmode, rfl⟩)
  | on h op =>
    simp only [step]
    split
    · exact .unavailable _
    · next x hx => exact .moved hx (s.operate_moves h x op)

theorem fromProvider_eq (h : Group.fromProvider inner = .ok g) :
    g.stateBinding = 0 ∧ g.pendingAdditionRevision = none := by
  unfold Group.fromProvider at h
  split at h
  · cases h
  · simp only at h
    split_ifs at h
    cases h
    exact ⟨rfl, rfl⟩

theorem opened_handles_of_ne (hne : h ≠ s.nextHandle) :
    (s.opened g mode adds).handles h = s.handles h :=
  setHandle_handles_of_ne hne

theorem Wf.opened (hwf : s.Wf) (g : Group P) (mode : StorageMode) (adds : List AddId) :
    (s.opened g mode adds).Wf := by
  have hne : ∀ h x, s.handles h = some x → h ≠ s.nextHandle :=
    fun h x hx => Nat.ne_of_lt (hwf.handle_lt h x hx)
  have hcases : ∀ h x, (s.opened g mode adds).handles h = some x →
      (h = s.nextHandle ∧ x = ⟨g, mode, .idle, adds⟩) ∨ s.handles h = some x := by
    intro h x hx
    by_cases heq : h = s.nextHandle
    · subst heq
      rw [show (s.opened g mode adds).handles s.nextHandle = _ from
        setHandle_handles_self s s.nextHandle _] at hx
      exact .inl ⟨rfl, (Option.some.inj hx).symm⟩
    · rw [opened_handles_of_ne heq] at hx
      exact .inr hx
  refine ⟨?_, ?_, ?_⟩
  · intro h x hx
    rcases hcases h x hx with ⟨rfl, _⟩ | hx
    · exact Nat.lt_succ_self _
    · exact Nat.lt_succ_of_lt (hwf.handle_lt h x hx)
  · intro k a ha
    obtain ⟨hkey, hlt, y, hy⟩ := hwf.added k a ha
    exact ⟨hkey, hlt, y, (opened_handles_of_ne (hne _ _ hy)).trans hy⟩
  · intro h x hx
    rcases hcases h x hx with ⟨_, rfl⟩ | hx
    · exact .of_none rfl
    · exact hwf.borrows h x hx

theorem Wf.steps (hwf : s.Wf) (hsteps : s.Steps c result) : result.1.Wf := by
  cases hsteps with
  | unavailable => exact hwf
  | notOpened => exact hwf
  | opened => exact hwf.opened _ _ _
  | moved hx hmoves => exact hwf.moves hx hmoves

/-! ## What a call on another handle leaves alone -/

def writesOf (h : HandleId) (log : List StoreWrite) : List StoreWrite :=
  log.filter fun write => decide (write.handle = h)

theorem writesOf_logged (hne : h' ≠ h) (log : List StoreWrite) (own : Option AddId)
    (accepted : Bool) : writesOf h (log ++ logged h' x own accepted) = writesOf h log := by
  cases accepted with
  | false => simp [logged]
  | true => simp [writesOf, logged, hne]

/-- Nothing but its own calls changes a handle, and its state is written by them alone. -/
theorem Moves.frame (hmoves : s.Moves h' x op result) (hne : h ≠ h') :
    result.1.handles h = s.handles h ∧ writesOf h result.1.log = writesOf h s.log := by
  cases hmoves with
  | unavailable | writeBlocked | stale => exact ⟨rfl, rfl⟩
  | written => exact ⟨setHandle_handles_of_ne hne, writesOf_logged hne.symm _ _ _⟩
  | writtenOwn => exact ⟨setHandle_handles_of_ne hne, writesOf_logged hne.symm _ _ _⟩
  | _ => exact ⟨setHandle_handles_of_ne hne, rfl⟩

theorem Steps.frame (hsteps : s.Steps c result) (hcall : ∀ op, c ≠ .on h op)
    (hne : h ≠ s.nextHandle) :
    result.1.handles h = s.handles h ∧ writesOf h result.1.log = writesOf h s.log := by
  cases hsteps with
  | unavailable => exact ⟨rfl, rfl⟩
  | notOpened => exact ⟨rfl, rfl⟩
  | opened => exact ⟨opened_handles_of_ne hne, rfl⟩
  | @moved h' op =>
    refine Moves.frame ‹_› ?_
    rintro rfl
    exact hcall op rfl

def start : GroupWorld P := ⟨System.init, []⟩

def Reachable (w : GroupWorld P) : Prop :=
  Leads System.step (fun _ _ => True) start w

theorem Wf.leads {A : GroupWorld P → Call P → Prop}
    (hw : Leads System.step A w w') (hwf : w.state.Wf) : w'.state.Wf :=
  hw.invariant (I := fun v => v.state.Wf) (fun v c _ hv => hv.steps (v.state.step_steps c)) hwf

theorem Wf.frame_leads (hw : Leads System.step (fun _ c => ∀ op, c ≠ .on h op) w w')
    (hwf : w.state.Wf) (hx : w.state.handles h = some x) : w'.state.handles h = some x := by
  have hinvariant : w'.state.Wf ∧ w'.state.handles h = some x := by
    refine hw.invariant (I := fun v => v.state.Wf ∧ v.state.handles h = some x) ?_ ⟨hwf, hx⟩
    intro v c hcall hv
    have hsteps := v.state.step_steps c
    have hne := Nat.ne_of_lt (hv.1.handle_lt h x hv.2)
    exact ⟨hv.1.steps hsteps, (hsteps.frame hcall hne).1.trans hv.2⟩
  exact hinvariant.2

end System

end SessionChat.Mls
