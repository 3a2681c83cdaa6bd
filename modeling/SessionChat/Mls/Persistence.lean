import SessionChat.Mls.Moves

/-!
# The obligation of an applied Add (`crates/session-crypto-mls/src/lib.rs`)

A durable group that has applied an Add owes the store one exact write of it. The obligation is
a single optional revision: it protects an Add only if the apply that advanced the provider also
records it and no later apply replaces it. In a run in which both hold, every durable write
stores only Adds persisted by their own `stage_and_write_to_storage`.
-/

set_option autoImplicit false

namespace SessionChat.Mls

open Storage Transition

variable {P : Provider}

/-! ## The law of the log -/

/-- The Add was persisted by its own write. -/
def Persisted (log : List StoreWrite) (k : AddId) : Prop :=
  ∃ write ∈ log, write.own = some k
deriving Decidable

/-- A durable write stores only Adds that their own writes have persisted by then. -/
def Lawful (log : List StoreWrite) : Prop :=
  ∀ before write after, log = before ++ write :: after → write.mode = .durable →
    ∀ k ∈ write.adds, Persisted (before ++ [write]) k

variable {log : List StoreWrite} {k : AddId} {write : StoreWrite} {epochBefore : Nat}

theorem Persisted.append (h : Persisted log k) (more : List StoreWrite) :
    Persisted (log ++ more) k := by
  obtain ⟨write, hmem, hown⟩ := h
  exact ⟨write, List.mem_append_left more hmem, hown⟩

theorem lawful_nil : Lawful [] := by
  intro before write after heq
  cases before <;> cases heq

theorem Lawful.append (h : Lawful log)
    (hwrite : write.mode = .durable → ∀ k ∈ write.adds, Persisted (log ++ [write]) k) :
    Lawful (log ++ [write]) := by
  intro before write' after heq hmode k hk
  rcases List.eq_nil_or_concat after with rfl | ⟨after, last, rfl⟩
  · obtain ⟨rfl, hlast⟩ := List.append_inj' heq rfl
    cases hlast
    exact hwrite hmode k hk
  · have heq' : log ++ [write] = (before ++ write' :: after) ++ [last] := by
      rw [heq]
      simp
    obtain ⟨hlog, -⟩ := List.append_inj' heq' rfl
    exact h before write' after hlog hmode k hk

theorem Lawful.persisted (h : Lawful log) (hmem : write ∈ log) (hmode : write.mode = .durable)
    (hk : k ∈ write.adds) : Persisted log k := by
  obtain ⟨before, after, rfl⟩ := List.append_of_mem hmem
  have hpersisted := (h before write after rfl hmode k hk).append after
  rwa [List.append_assoc] at hpersisted

/-! ## Orderly runs -/

/-- A durable Add is applied only while no obligation is recorded, and a state the
provider gives for it passes the adapter's own checks. -/
def System.orderly (s : System P) : Call P → Bool
  | .on h .apply =>
      match s.handles h with
      | none => true
      | some x =>
          match x.mode, x.activity with
          | .durable, .prepared (.addition epochBefore _ _ _ _ _) =>
              x.group.pendingAdditionRevision.isNone &&
              (!(P.applyPendingCommit x.group.inner).2 ||
                ({ x.group with inner := (P.applyPendingCommit x.group.inner).1 } :
                  Group P).applied epochBefore 2)
          | _, _ => true
  | _ => true

theorem System.orderly_apply {s : System P} {h : HandleId} {x : Handle P} {r c l : Bytes32}
    {welcome commit : MlsWireMessage} (horderly : s.orderly (.on h .apply) = true)
    (hx : s.handles h = some x) (hmode : x.mode = .durable)
    (hprepared : x.activity = .prepared (.addition epochBefore r c l welcome commit)) :
    x.group.pendingAdditionRevision = none ∧ ((P.applyPendingCommit x.group.inner).2 = true →
        ({ x.group with inner := (P.applyPendingCommit x.group.inner).1 } :
          Group P).applied epochBefore 2 = true) := by
  simp only [orderly, hx, hmode, hprepared, Bool.and_eq_true, Option.isNone_iff_eq_none,
    Bool.or_eq_true, Bool.not_eq_true'] at horderly
  refine ⟨horderly.1, fun happlied => ?_⟩
  rcases horderly.2 with hfailed | hchecks
  · rw [hfailed] at happlied
    cases happlied
  · exact hchecks

/-- An apply that fails the checks has advanced the provider to a state that fails them. -/
theorem Group.applyPending_error {g g' : Group P} {memberCount : Nat} {e : MlsAdapterError}
    (h : g.applyPending epochBefore memberCount = (g', .error e)) :
    (P.applyPendingCommit g.inner).2 = false ∨
      ({ g with inner := (P.applyPendingCommit g.inner).1 } : Group P).applied
        epochBefore memberCount = false := by
  unfold applyPending at h
  split at h
  · next heq => exact .inl (by rw [heq])
  · next heq =>
      split at h
      · cases h
      · next hchecks =>
          refine .inr ?_
          rw [heq]
          exact Bool.eq_false_iff.mpr hchecks

/-! ## What a handle owes -/

/-- All Adds of the durable handle `x` are persisted but the one it owes. -/
structure System.Owes (s : System P) (h : HandleId) (x : Handle P) (owed : Option AddId) :
    Prop where
  settled : ∀ k ∈ x.adds, Persisted s.log k ∨ owed = some k
  blocked : owed ≠ none → x.group.pendingAdditionRevision ≠ none
  live : ∀ k a, s.additions k = some a → a.stateBinding = h → owed = some k
  own : ∀ a, x.activity.addition? = some a → owed = some a.writeAuthority
  ordinary : x.activity = .writing none → owed = none

/-- The log is lawful and every durable handle is accounted for. -/
structure System.Accounted (s : System P) : Prop where
  lawful : Lawful s.log
  owes : ∀ h x, s.handles h = some x → x.mode = .durable → ∃ owed, s.Owes h x owed

namespace System

variable {s s' : System P} {h : HandleId} {x y : Handle P} {owed : Option AddId}

/-- A handle that no call has touched owes what it owed. -/
theorem Owes.frame (howes : s.Owes h x owed) (hlog : ∀ k, Persisted s.log k → Persisted s'.log k)
    (hadditions : ∀ k a, s'.additions k = some a → a.stateBinding = h → s.additions k = some a) :
    s'.Owes h x owed where
  settled := fun k hk => (howes.settled k hk).imp_left (hlog k)
  blocked := howes.blocked
  live := fun k a ha hbinding => howes.live k a (hadditions k a ha hbinding) hbinding
  own := howes.own
  ordinary := howes.ordinary

/-- Nothing that leaves the Adds and the obligation changes what is owed. -/
theorem Owes.quiet (howes : s.Owes h x owed) (hadds : y.adds = x.adds)
    (hobligation : y.group.pendingAdditionRevision = x.group.pendingAdditionRevision)
    (hactivity : y.activity.addition? = none) (hordinary : y.activity ≠ .writing none) :
    s.Owes h y owed where
  settled := hadds ▸ howes.settled
  blocked := hobligation ▸ howes.blocked
  live := howes.live
  own := fun a ha => by rw [hactivity] at ha; cases ha
  ordinary := fun hwriting => absurd hwriting hordinary

/-- One handle changes; the other handles keep their account. -/
theorem Accounted.update (hacc : s.Accounted)
    (hhandles : s'.handles = Function.update s.handles h (some y)) (hlawful : Lawful s'.log)
    (hlog : ∀ k, Persisted s.log k → Persisted s'.log k)
    (hadditions : ∀ h', h' ≠ h → ∀ k a, s'.additions k = some a → a.stateBinding = h' →
      s.additions k = some a)
    (hy : y.mode = .durable → ∃ owed, s'.Owes h y owed) : s'.Accounted := by
  refine ⟨hlawful, ?_⟩
  intro h' x' hx' hmode
  rw [hhandles] at hx'
  by_cases heq : h' = h
  · subst heq
    rw [Function.update_self] at hx'
    cases hx'
    exact hy hmode
  · rw [Function.update_of_ne heq] at hx'
    obtain ⟨owed, howes⟩ := hacc.owes h' x' hx' hmode
    exact ⟨owed, howes.frame hlog (hadditions h' heq)⟩

theorem Accounted.setHandle (hacc : s.Accounted)
    (hy : y.mode = .durable → ∃ owed, s.Owes h y owed) : (s.setHandle h y).Accounted :=
  hacc.update rfl hacc.lawful (fun _ hk => hk) (fun _ _ _ _ ha _ => ha) fun hmode => by
    obtain ⟨owed, howes⟩ := hy hmode
    exact ⟨owed, howes.frame (fun _ hk => hk) (fun _ _ ha _ => ha)⟩

theorem Accounted.quiet (hacc : s.Accounted) (hx : s.handles h = some x)
    (hmode : y.mode = x.mode) (hadds : y.adds = x.adds)
    (hobligation : y.group.pendingAdditionRevision = x.group.pendingAdditionRevision)
    (hactivity : y.activity.addition? = none) (hordinary : y.activity ≠ .writing none) :
    (s.setHandle h y).Accounted := by
  refine hacc.setHandle fun hdurable => ?_
  obtain ⟨owed, howes⟩ := hacc.owes h x hx (hmode ▸ hdurable)
  exact ⟨owed, howes.quiet hadds hobligation hactivity hordinary⟩

theorem Owes.consume (howes : s.Owes h x owed) (k : AddId) :
    ({ s with additions := Function.update s.additions k none } : System P).Owes h x owed := by
  refine howes.frame (fun _ hk => hk) ?_
  intro k' a ha _
  by_cases heq : k' = k
  · simp only [heq, Function.update_self] at ha
    cases ha
  · simpa only [Function.update_of_ne heq] using ha

theorem Accounted.consume (hacc : s.Accounted) (k : AddId) :
    ({ s with additions := Function.update s.additions k none } : System P).Accounted := by
  refine ⟨hacc.lawful, ?_⟩
  intro h x hx hmode
  obtain ⟨owed, howes⟩ := hacc.owes h x hx hmode
  exact ⟨owed, howes.consume k⟩

/-! ## Every call keeps the account -/

theorem Owes.none_of_free (howes : s.Owes h x owed)
    (hfree : x.group.pendingAdditionRevision = none) : owed = none := by
  by_contra howed
  exact howes.blocked howed hfree

variable {g : Group P} {epochBefore : Nat} {r c l : Bytes32} {welcome commit : MlsWireMessage}
  {a : AppliedAddition} {result : System P × Reply}

section

variable (hacc : s.Accounted) (hx : s.handles h = some x)
  (horderly : s.orderly (.on h .apply) = true)
  (hprepared : x.activity = .prepared (.addition epochBefore r c l welcome commit))
  (hmode : x.mode = .durable)
include hacc hx horderly hprepared hmode

/-- A failed apply of an orderly run has not advanced the provider. -/
theorem Accounted.addFailed {e : MlsAdapterError}
    (hresult : x.group.applyDurableAddition epochBefore = (g, .error e)) :
    (s.endAddition h x g).Accounted := by
  obtain ⟨-, hchecks⟩ := orderly_apply horderly hx hmode hprepared
  have hpending := Group.applyDurableAddition_error hresult
  have hnotApplied : (P.applyPendingCommit x.group.inner).2 = false := by
    rcases Group.applyPending_error hpending with hfailed | hfailed
    · exact hfailed
    · by_contra happlied
      rw [hchecks (Bool.eq_true_of_not_eq_false happlied)] at hfailed
      cases hfailed
  have hadds : s.addsAfterApply x = x.adds := by simp [addsAfterApply, hnotApplied]
  have hobligation := (x.group.applyPending_follows epochBefore 2).obligation
  rw [hpending] at hobligation
  refine hacc.update rfl hacc.lawful (fun _ hk => hk) (fun _ _ _ _ ha _ => ha) fun _ => ?_
  obtain ⟨owed, howes⟩ := hacc.owes h x hx hmode
  refine ⟨owed, .quiet (x := x) ?_ hadds hobligation rfl fun hwriting => by cases hwriting⟩
  exact howes.frame (fun _ hk => hk) (fun _ _ ha _ => ha)

/-- A successful apply finds nothing owed, and owes the new Add. -/
theorem Accounted.added {revision : BitVec 64}
    (hresult : x.group.applyDurableAddition epochBefore = (g, .ok revision))
    (hbinding : a.stateBinding = h) :
    ({ s.endAddition h x g with
        additions := Function.update s.additions s.nextAdd (some a) } : System P).Accounted := by
  obtain ⟨hfree, -⟩ := orderly_apply horderly hx hmode hprepared
  obtain ⟨-, -, -, howed⟩ := Group.applyDurableAddition_ok hresult
  obtain ⟨owed, howes⟩ := hacc.owes h x hx hmode
  obtain rfl := howes.none_of_free hfree
  refine hacc.update rfl hacc.lawful (fun _ hk => hk) ?_ fun _ => ⟨some s.nextAdd, ?_⟩
  · intro h' hne k a' ha' hbinding'
    by_cases heq : k = s.nextAdd
    · simp only [heq, Function.update_self, Option.some.injEq] at ha'
      subst ha'
      exact absurd (hbinding'.symm.trans hbinding) hne
    · simpa only [Function.update_of_ne heq] using ha'
  · refine ⟨?_, fun _ => howed ▸ Option.some_ne_none _, ?_, nofun, nofun⟩
    · intro k hk
      simp only [addsAfterApply] at hk
      split_ifs at hk
      · rcases List.mem_append.mp hk with hk | hk
        · exact .inl ((howes.settled k hk).resolve_right (Option.some_ne_none k).symm)
        · exact .inr (congrArg some (List.mem_singleton.mp hk).symm)
      · exact .inl ((howes.settled k hk).resolve_right (Option.some_ne_none k).symm)
    · intro k a' ha' hbinding'
      by_cases heq : k = s.nextAdd
      · rw [heq]
      · simp only [Function.update_of_ne heq] at ha'
        exact absurd (howes.live k a' ha' hbinding') (Option.some_ne_none k).symm

end

theorem lawful_logged {log : List StoreWrite} (hlawful : Lawful log) (own : Option AddId)
    (accepted : Bool)
    (hsettled : x.mode = .durable → ∀ k ∈ x.adds, Persisted log k ∨ own = some k) :
    Lawful (log ++ logged h x own accepted) := by
  cases accepted with
  | false => simpa [logged] using hlawful
  | true =>
    refine hlawful.append fun hmode k hk => ?_
    rcases hsettled hmode k hk with hpersisted | hown
    · exact hpersisted.append _
    · exact ⟨_, List.mem_append_right log (List.mem_singleton_self _), hown⟩

/-- An ordinary write begins only while nothing is owed. -/
theorem Accounted.written (hacc : s.Accounted) (hx : s.handles h = some x)
    (hwriting : x.activity = .writing none) (accepted : Bool) :
    (s.endWrite h x accepted).1.Accounted := by
  have hsettled : x.mode = .durable → ∀ k ∈ x.adds, Persisted s.log k ∨ none = some k := by
    intro hmode k hk
    obtain ⟨owed, howes⟩ := hacc.owes h x hx hmode
    rw [← howes.ordinary hwriting]
    exact howes.settled k hk
  refine hacc.update rfl (lawful_logged hacc.lawful none accepted hsettled)
    (fun _ hk => hk.append _) (fun _ _ _ _ ha _ => ha) fun hmode => ?_
  obtain ⟨owed, howes⟩ := hacc.owes h x hx hmode
  refine ⟨owed, .quiet (x := x) ?_ rfl rfl rfl fun hwriting => by cases hwriting⟩
  exact howes.frame (fun _ hk => hk.append _) (fun _ _ ha _ => ha)

section

variable (hwf : s.Wf) (hacc : s.Accounted)
include hwf hacc

/-- The write of an Add that succeeds persists the one Add that is owed. -/
theorem Accounted.writtenOwn (hx : s.handles h = some x) {thread : ThreadId}
    (hwriting : x.activity = .writing (some (thread, a))) (accepted : Bool) :
    (s.endOwnWrite h x thread a accepted).1.Accounted := by
  have hborrowed : x.activity.addition? = some a := by rw [hwriting]; rfl
  have hsettled : x.mode = .durable →
      ∀ k ∈ x.adds, Persisted s.log k ∨ some a.writeAuthority = some k := by
    intro hmode k hk
    obtain ⟨owed, howes⟩ := hacc.owes h x hx hmode
    rw [← howes.own a hborrowed]
    exact howes.settled k hk
  refine hacc.update rfl (lawful_logged hacc.lawful (some a.writeAuthority) accepted hsettled)
    (fun _ hk => hk.append _) (fun _ _ _ _ ha _ => ha) fun hmode => ?_
  obtain ⟨owed, howes⟩ := hacc.owes h x hx hmode
  have hown := howes.own a hborrowed
  by_cases hok : (afterStore x.group.inner accepted).2 = true
  · refine ⟨none, ?_, fun hne => absurd rfl hne, ?_, by simp [Activity.addition?], by simp⟩
    · intro k hk
      have haccepted : accepted = true := by
        cases accepted with
        | true => rfl
        | false => cases hok
      rcases hsettled hmode k hk with hpersisted | hkey
      · exact .inl (hpersisted.append _)
      · refine .inl ⟨⟨h, x.mode, P.snapshot x.group.inner, x.adds, some a.writeAuthority⟩, ?_,
          hkey⟩
        simp [endOwnWrite, logged, haccepted]
    · -- The only Add of this handle that could still be live is the one just consumed.
      intro k a' ha' hbinding'
      have hk := howes.live k a' ha' hbinding'
      obtain ⟨-, -, -, hconsumed, -⟩ := hwf.borrows h x hx a hborrowed
      rw [hown, Option.some.injEq] at hk
      rw [hk] at hconsumed
      have hnone := hconsumed.symm.trans ha'
      cases hnone
  · refine ⟨owed, .quiet (x := x) ?_ rfl (if_neg hok) rfl fun hwriting => by cases hwriting⟩
    exact howes.frame (fun _ hk => hk.append _) (fun _ _ ha _ => ha)

theorem Accounted.moves {op : Op P} (hx : s.handles h = some x)
    (horderly : s.orderly (.on h op) = true) (hmoves : s.Moves h x op result) :
    result.1.Accounted := by
  cases hmoves with
  | unavailable => exact hacc
  | touched hidle _ hgroup =>
    exact hacc.quiet hx rfl rfl hgroup.obligation (by rw [hidle]; rfl) (by rw [hidle]; rintro ⟨⟩)
  | prepared _ _ hgroup => exact hacc.quiet hx rfl rfl hgroup.obligation rfl (by rintro ⟨⟩)
  | dropped => exact hacc.quiet hx rfl rfl rfl rfl (by rintro ⟨⟩)
  | committed _ hgroup => exact hacc.quiet hx rfl rfl hgroup.obligation rfl (by rintro ⟨⟩)
  | addedTransient _ hmode =>
    refine hacc.update rfl hacc.lawful (fun _ hk => hk) (fun _ _ _ _ ha _ => ha) fun hdurable => ?_
    exact absurd (hmode.symm.trans hdurable) nofun
  | addFailed hprepared hmode hresult => exact hacc.addFailed hx horderly hprepared hmode hresult
  | added hprepared hmode hresult => exact hacc.added hx horderly hprepared hmode hresult rfl
  | writeBlocked => exact hacc
  | writing hidle hfree =>
    refine hacc.setHandle fun hmode => ?_
    have hnone : x.group.pendingAdditionRevision = none := by
      by_contra howed
      exact hfree ⟨hmode, howed⟩
    obtain ⟨owed, howes⟩ := hacc.owes h x hx hmode
    obtain rfl := howes.none_of_free hnone
    exact ⟨none, howes.settled, howes.blocked, howes.live, nofun, fun _ => rfl⟩
  | stale => exact hacc.consume _
  | @staging thread k a hidle hmode hadded hcurrent =>
    refine (hacc.consume k).setHandle fun _ => ?_
    obtain ⟨owed, howes⟩ := hacc.owes h x hx hmode
    have hconsumed := howes.consume k
    refine ⟨owed, hconsumed.settled, hconsumed.blocked, hconsumed.live, ?_, nofun⟩
    rintro a' ⟨⟩
    obtain ⟨hkey, -, -⟩ := hwf.added k a hadded
    rw [hkey]
    exact howes.live k a hadded (of_decide_eq_true hcurrent).1
  | stageFailed => exact hacc.quiet hx rfl rfl rfl rfl (by rintro ⟨⟩)
  | @staged thread a hstaging =>
    refine hacc.update rfl hacc.lawful (fun _ hk => hk) (fun _ _ _ _ ha _ => ha) fun hmode => ?_
    obtain ⟨owed, howes⟩ := hacc.owes h x hx hmode
    refine ⟨owed, howes.settled, howes.blocked, howes.live, ?_, nofun⟩
    rintro a' ⟨⟩
    exact howes.own a (by rw [hstaging]; rfl)
  | written hwriting => exact hacc.written hx hwriting _
  | writtenOwn hwriting => exact hacc.writtenOwn hwf hx hwriting _

/-- A new handle has no applied Adds besides those of the write it was loaded from. -/
theorem Accounted.opened (g : Group P) {mode : StorageMode} {adds : List AddId}
    (hadds : s.Inherits mode adds) : (s.opened g mode adds).Accounted := by
  refine hacc.update rfl hacc.lawful (fun _ hk => hk) (fun _ _ _ _ ha _ => ha) fun _ => ?_
  refine ⟨none, ?_, fun hne => absurd rfl hne, ?_, nofun, nofun⟩
  · intro k hk
    rcases hadds with rfl | ⟨-, write, hwrite, hmode, rfl⟩
    · cases hk
    · exact .inl (hacc.lawful.persisted hwrite hmode hk)
  · intro k a ha hbinding
    obtain ⟨-, -, y, hy⟩ := hwf.added k a ha
    exact absurd hbinding (Nat.ne_of_lt (hwf.handle_lt _ y hy))

theorem Accounted.steps {c : Call P} (horderly : s.orderly c = true) (hsteps : s.Steps c result) :
    result.1.Accounted := by
  cases hsteps with
  | unavailable => exact hacc
  | notOpened => exact hacc
  | opened _ _ hadds => exact hacc.opened hwf _ hadds
  | moved hx hmoves => exact hacc.moves hwf hx horderly hmoves

end

theorem accounted_init : (System.init : System P).Accounted :=
  ⟨lawful_nil, nofun⟩

end System

/-! ## Whole runs -/

/-- In an orderly run no durable write stores an Add that was not persisted by its own
write. -/
theorem durable_writes_lawful {w : GroupWorld P}
    (hw : Leads System.step (fun v c => v.state.orderly c = true) System.start w) :
    Lawful w.state.log := by
  have hinvariant : w.state.Wf ∧ w.state.Accounted := by
    refine hw.invariant (I := fun v => v.state.Wf ∧ v.state.Accounted) ?_
      ⟨System.wf_init, System.accounted_init⟩
    intro v c horderly hv
    have hsteps := v.state.step_steps c
    exact ⟨hv.1.steps hsteps, hv.2.steps hv.1 horderly hsteps⟩
  exact hinvariant.2.lawful

section Runs

open Sample

/-- A new durable group that adds the peer of the KeyPackage. -/
def addRun (message : Bytes) : List (Call provider) :=
  [.create .durable solo, .on 0 (.prepareAdd (keyPackage message) 0), .on 0 .apply]

/-- `stage_and_write_to_storage` of the Add `k` on the first thread. -/
def persistRun (k : AddId) : List (Call provider) :=
  [.on 0 (.stageAndWriteToStorage 0 k), .on 0 (.staged (.ok ())), .on 0 (.stored true)]

def writeRun : List (Call provider) :=
  [.on 0 .writeToStorage, .on 0 (.stored true)]

/-- An Add, its own write and an ordinary write of the state. -/
theorem durable_writes_lawful_add :
    let w := System.start.afterAll System.step (addRun [0] ++ persistRun 0 ++ writeRun)
    w.state.log.map (fun write => (write.adds, write.own)) = [([0], some 0), ([0], none)] ∧
      Lawful w.state.log := by
  exact ⟨by decide +kernel, durable_writes_lawful (leads_afterAll (by decide +kernel))⟩

theorem not_lawful {log : List StoreWrite}
    (h : ∃ write ∈ log, write.mode = .durable ∧ ∃ k ∈ write.adds, ¬Persisted log k) :
    ¬Lawful log := by
  obtain ⟨write, hmem, hmode, k, hk, hnot⟩ := h
  exact fun hlawful => hnot (hlawful.persisted hmem hmode hk)

/-- An Add whose result fails the policy check is stored by `write_to_storage`; and an Add
that was left unpersisted is stored by the write of a later one, whose apply has replaced
its obligation. -/
theorem unpersisted_adds_stored :
    let failed := System.start.afterAll System.step (addRun [1] ++ writeRun)
    let replaced := System.start.afterAll System.step (addRun [0] ++
      [.on 0 (.prepareRemovePeer 0), .on 0 .apply,
        .on 0 (.prepareAdd (keyPackage [0]) 0), .on 0 .apply] ++ persistRun 1)
    failed.state.log.map (fun write => (write.adds, write.own)) = [([0], none)] ∧
      replaced.state.log.map (fun write => (write.adds, write.own)) = [([0, 1], some 1)] ∧
      ¬Lawful failed.state.log ∧ ¬Lawful replaced.state.log := by
  exact ⟨by decide +kernel, by decide +kernel, not_lawful (by decide +kernel),
    not_lawful (by decide +kernel)⟩

end Runs

end SessionChat.Mls
