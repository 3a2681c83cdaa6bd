import SessionChat.Mls.Persistence

/-!
# Releasing the Welcome and the Commit of a durable Add (`crates/session-crypto-mls/src/lib.rs`)

An applied Add carries the revision its apply produced, and every operation that can change
the group moves the revision on. As long as the 64-bit counter has not come round, a
`stage_and_write_to_storage` that passes its check finds the group exactly as the Add left it.
-/

set_option autoImplicit false

namespace SessionChat.Mls

open Storage Transition SessionChat.Mls.System

variable {P : Provider}

/-! ## Counting operations -/

/-- The event is a prepare, encrypt, process or apply that was made on the handle. -/
def touchesOn (h : HandleId) (e : Event (Call P) Reply) : Bool :=
  match e.call with
  | .on h' op => decide (h' = h) && op.touches && decide (e.reply ≠ .unavailable)
  | _ => false

def touchCount (h : HandleId) (history : List (Event (Call P) Reply)) : Nat :=
  history.countP (touchesOn h)

/-- No group was touched `2 ^ 64` times. -/
def Sparse (w : GroupWorld P) : Prop :=
  ∀ h, touchCount h w.history < 2 ^ 64

variable {h : HandleId} {c : Call P} {reply : Reply} {w : GroupWorld P}
  {a : AppliedAddition} {x y : Handle P} {s s' : System P} {k : AddId}
  {out : MlsWireMessage × MlsWireMessage}

theorem touchesOn_of_ne (hcall : ∀ op, c ≠ .on h op) : touchesOn h ⟨c, reply⟩ = false := by
  cases c with
  | create | load => rfl
  | on h' op =>
    have hne : h' ≠ h := fun heq => hcall op (heq ▸ rfl)
    simp [touchesOn, hne]

theorem touchesOn_unavailable (h : HandleId) (c : Call P) :
    touchesOn h ⟨c, .unavailable⟩ = false := by
  cases c <;> simp [touchesOn]

theorem touchesOn_self {op : Op P} (hop : op.touches = true) (hmade : reply ≠ .unavailable) :
    touchesOn h ⟨.on h op, reply⟩ = true := by
  simp [touchesOn, hop, hmade]

theorem touchCount_append (h : HandleId) (history more : List (Event (Call P) Reply)) :
    touchCount h (history ++ more) = touchCount h history + touchCount h more :=
  List.countP_append

theorem touchCount_singleton (h : HandleId) (e : Event (Call P) Reply) :
    touchCount h [e] = if touchesOn h e = true then 1 else 0 := by
  simp [touchCount]

theorem Sparse.before (h : Sparse (w.after System.step c)) : Sparse w := by
  intro h'
  have hlt := h h'
  simp only [World.after, touchCount_append] at hlt
  omega

/-! ## Where an applied Add comes from -/

/-- In `v` the durable handle of the Add applies it. -/
def Applies (v : GroupWorld P) (a : AppliedAddition) : Prop :=
  (∃ x, v.state.handles a.stateBinding = some x ∧ x.mode = .durable ∧
    x.activity = .prepared (.addition a.epochBefore a.reference a.credentialIdentity
      a.leafSignatureKey a.welcome a.commit)) ∧
    (v.state.step (.on a.stateBinding .apply)).2 = .committedAddition (.ok a.writeAuthority)

abbrev applyWorld (v : GroupWorld P) (a : AppliedAddition) : GroupWorld P :=
  v.after System.step (.on a.stateBinding .apply)

/-- The Add was applied in `v`, which left the handle `x`, and the events `post` lead from
there to `w`. -/
structure Origin (w v : GroupWorld P) (a : AppliedAddition) (x : Handle P)
    (post : List (Event (Call P) Reply)) : Prop where
  reachable : System.Reachable v
  applies : Applies v a
  handle : (applyWorld v a).state.handles a.stateBinding = some x
  owed : x.group.pendingAdditionRevision = some a.stateRevision
  leads : Leads System.step (fun _ _ => True) (applyWorld v a) w
  history : w.history = (applyWorld v a).history ++ post

theorem Origin.after {v : GroupWorld P} {post : List (Event (Call P) Reply)}
    (h : Origin w v a x post) (c : Call P) :
    Origin (w.after System.step c) v a x (post ++ [⟨c, (w.state.step c).2⟩]) where
  reachable := h.reachable
  applies := h.applies
  handle := h.handle
  owed := h.owed
  leads := h.leads.tail trivial
  history := by rw [World.after, h.history, List.append_assoc]

def stageEvent (thread : ThreadId) (a : AppliedAddition) : Event (Call P) Reply :=
  ⟨.on a.stateBinding (.stageAndWriteToStorage thread a.writeAuthority),
    .staging a.writeAuthority⟩

/-- While the group `y` is at the revision of the Add, it is as the Add left it. -/
structure Untouched (a : AppliedAddition) (x y : Handle P) (post : List (Event (Call P) Reply)) :
    Prop where
  untouched : touchCount a.stateBinding post = 0
  group : y.group = x.group
  activity : y.activity = .idle ∨
    y.activity.addition? = some a ∧ ∃ thread, stageEvent thread a ∈ post

/-- The Add was applied on the way to `w`, and is not ahead of its group. -/
def Traced (w : GroupWorld P) (a : AppliedAddition) : Prop :=
  ∃ v x post y, Origin w v a x post ∧ w.state.handles a.stateBinding = some y ∧
    y.mode = .durable ∧ a.stateRevision.toNat ≤ y.group.stateBinding.toNat ∧
    (a.stateRevision = y.group.stateBinding → Untouched a x y post)

section Traced

variable {y' : Handle P}

theorem Traced.behind (h : Traced w a) (hy : w.state.handles a.stateBinding = some y) :
    y.mode = .durable ∧ a.stateRevision.toNat ≤ y.group.stateBinding.toNat := by
  obtain ⟨-, -, -, z, -, hz, hmode, hle, -⟩ := h
  cases hz.symm.trans hy
  exact ⟨hmode, hle⟩

/-- The group has moved beyond the Add. -/
theorem Traced.passed (h : Traced w a)
    (hy' : (w.after System.step c).state.handles a.stateBinding = some y')
    (hmode : y'.mode = .durable) (hlt : a.stateRevision.toNat < y'.group.stateBinding.toNat) :
    Traced (w.after System.step c) a := by
  obtain ⟨v, x, post, -, horigin, -⟩ := h
  refine ⟨v, x, _, y', horigin.after c, hy', hmode, Nat.le_of_lt hlt, fun heq => ?_⟩
  rw [heq] at hlt
  exact absurd hlt (Nat.lt_irrefl _)

/-- The group is where it was; if it is at the Add, it has to be as the Add left it. -/
theorem Traced.kept (h : Traced w a) (hy : w.state.handles a.stateBinding = some y)
    (hy' : (w.after System.step c).state.handles a.stateBinding = some y')
    (hmode : y'.mode = y.mode) (hrevision : y'.group.stateBinding = y.group.stateBinding)
    (hcurrent : a.stateRevision = y.group.stateBinding →
      y.group.pendingAdditionRevision = some a.stateRevision →
      y.activity = .idle ∨ y.activity.addition? = some a →
      touchesOn a.stateBinding ⟨c, (w.state.step c).2⟩ = false ∧ y'.group = y.group ∧
        (y'.activity = .idle ∨ y'.activity.addition? = some a ∧ (y.activity.addition? = some a ∨
            ∃ thread, stageEvent thread a = ⟨c, (w.state.step c).2⟩))) :
    Traced (w.after System.step c) a := by
  obtain ⟨v, x, post, z, horigin, hz, hdurable, hle, huntouched⟩ := h
  obtain rfl : z = y := Option.some.inj (hz.symm.trans hy)
  refine ⟨v, x, _, y', horigin.after c, hy', hmode.trans hdurable, hrevision ▸ hle, fun heq => ?_⟩
  rw [hrevision] at heq
  obtain ⟨hcount, hgroup, hactivity⟩ := huntouched heq
  obtain ⟨hquiet, hgroup', hactivity'⟩ :=
    hcurrent heq (hgroup ▸ horigin.owed) (hactivity.imp_right And.left)
  refine ⟨?_, hgroup'.trans hgroup, ?_⟩
  · rw [touchCount_append, hcount, touchCount_singleton, hquiet]
    rfl
  · refine hactivity'.imp_right fun hborrowed => ⟨hborrowed.1, ?_⟩
    rcases hborrowed.2 with hbefore | ⟨thread, hevent⟩
    · rcases hactivity with hidle | ⟨-, thread, hmem⟩
      · rw [hidle] at hbefore
        cases hbefore
      · exact ⟨thread, List.mem_append_left _ hmem⟩
    · exact ⟨thread, List.mem_append_right _ (hevent ▸ List.mem_singleton_self _)⟩

/-- A call that does not touch the group leaves the Add and its handle alone. -/
theorem Traced.same (h : Traced w a)
    (hquiet : touchesOn a.stateBinding ⟨c, (w.state.step c).2⟩ = false)
    (hsame : (w.after System.step c).state.handles a.stateBinding =
      w.state.handles a.stateBinding) : Traced (w.after System.step c) a := by
  obtain ⟨-, -, -, y, -, hy, -⟩ := id h
  refine h.kept hy (hsame.trans hy) rfl rfl fun _ _ hactivity => ?_
  exact ⟨hquiet, rfl, hactivity.imp_right fun hborrowed => ⟨hborrowed, .inl hborrowed⟩⟩

end Traced

/-! ## The Adds a system holds -/

/-- The Add is not yet consumed, or borrows a handle. -/
def System.Holds (s : System P) (a : AppliedAddition) : Prop :=
  (∃ k, s.additions k = some a) ∨ ∃ h x, s.handles h = some x ∧ x.activity.addition? = some a

section

variable (ha : s'.Holds a) (hhandles : s'.handles = Function.update s.handles h (some y))
include ha hhandles

theorem System.Holds.of_update (hadditions : ∀ k, s'.additions k = some a → s.Holds a)
    (hy : y.activity.addition? = some a → s.Holds a) : s.Holds a := by
  rcases ha with ⟨k, ha⟩ | ⟨h', x', hx', ha⟩
  · exact hadditions k ha
  · rw [hhandles] at hx'
    by_cases heq : h' = h
    · subst heq
      rw [Function.update_self] at hx'
      cases hx'
      exact hy ha
    · rw [Function.update_of_ne heq] at hx'
      exact .inr ⟨h', x', hx', ha⟩

theorem System.Holds.of_quiet (hadditions : s'.additions = s.additions)
    (hy : y.activity.addition? = none) : s.Holds a := by
  refine ha.of_update hhandles (fun k ha' => .inl ⟨k, hadditions ▸ ha'⟩) fun ha' => ?_
  rw [hy] at ha'
  cases ha'

end

theorem System.Holds.of_consumed
    (ha : ({ s with additions := Function.update s.additions k none } : System P).Holds a) :
    s.Holds a := by
  rcases ha with ⟨k', ha⟩ | hborrowed
  · by_cases heq : k' = k
    · simp only [heq, Function.update_self] at ha
      cases ha
    · simp only [Function.update_of_ne heq] at ha
      exact .inl ⟨k', ha⟩
  · exact .inr hborrowed

/-- Revisions count the operations, and every Add that is held has its place among them. -/
structure Tracked (w : GroupWorld P) : Prop where
  counted : ∀ h y, w.state.handles h = some y → y.mode = .durable →
    y.group.stateBinding.toNat ≤ touchCount h w.history
  traced : ∀ a, w.state.Holds a → Traced w a
  distinct : ∀ a a', w.state.Holds a → w.state.Holds a' → a.stateBinding = a'.stateBinding →
    a.stateRevision = a'.stateRevision → a = a'

section Steps

variable {op : Op P} {result : System P × Reply}

/-- A call on one handle; the Adds of the others are left alone. -/
theorem Tracked.move (ht : Tracked w) (hstep : w.state.step (.on h op) = result)
    (hmoves : w.state.Moves h x op result) (hy : result.1.handles h = some y)
    (hholds : ∀ a, result.1.Holds a → w.state.Holds a)
    (hcounted : y.mode = .durable → y.group.stateBinding.toNat ≤
      touchCount h (w.after System.step (.on h op)).history)
    (htraced : ∀ a, result.1.Holds a → a.stateBinding = h →
      Traced (w.after System.step (.on h op)) a) : Tracked (w.after System.step (.on h op)) := by
  have hstate : (w.after System.step (.on h op)).state = result.1 := congrArg Prod.fst hstep
  refine ⟨?_, ?_, ?_⟩
  · intro h' y' hy' hmode
    rw [hstate] at hy'
    by_cases heq : h' = h
    · subst heq
      cases hy.symm.trans hy'
      exact hcounted hmode
    · rw [(hmoves.frame heq).1] at hy'
      refine (ht.counted h' y' hy' hmode).trans ?_
      rw [World.after, touchCount_append]
      exact Nat.le_add_right _ _
  · intro a ha
    rw [hstate] at ha
    by_cases heq : a.stateBinding = h
    · exact htraced a ha heq
    · refine (ht.traced a (hholds a ha)).same (touchesOn_of_ne ?_) ?_
      · rintro op' ⟨⟩
        exact heq rfl
      · rw [hstate]
        exact (hmoves.frame heq).1
  · intro a a' ha ha'
    rw [hstate] at ha ha'
    exact ht.distinct a a' (hholds a ha) (hholds a' ha')

/-- The revision after one more operation, while the counter has not come round. -/
theorem Tracked.toNat_advance (ht : Tracked w) (hsparse : Sparse (w.after System.step (.on h op)))
    (hx : w.state.handles h = some x) (hmode : x.mode = .durable) (hop : op.touches = true)
    (hmade : (w.state.step (.on h op)).2 ≠ .unavailable) :
    (x.group.stateBinding + 1).toNat = x.group.stateBinding.toNat + 1 ∧
      x.group.stateBinding.toNat + 1 ≤ touchCount h (w.after System.step (.on h op)).history := by
  have hle := ht.counted h x hx hmode
  have hcount : touchCount h (w.after System.step (.on h op)).history =
      touchCount h w.history + 1 := by
    rw [World.after, touchCount_append, touchCount_singleton, touchesOn_self hop hmade, if_pos rfl]
  have hlt := hsparse h
  rw [hcount] at hlt ⊢
  refine ⟨?_, Nat.succ_le_succ hle⟩
  exact Nat.mod_eq_of_lt (by simpa using Nat.lt_of_le_of_lt (Nat.succ_le_succ hle) hlt)

/-- An operation moves the group beyond every Add that is held. -/
theorem Tracked.advance (ht : Tracked w) (hsparse : Sparse (w.after System.step (.on h op)))
    (hstep : w.state.step (.on h op) = result) (hx : w.state.handles h = some x)
    (hmoves : w.state.Moves h x op result) (hy : result.1.handles h = some y)
    (hmode : y.mode = x.mode) (hrevision : y.group.stateBinding = x.group.stateBinding + 1)
    (hop : op.touches = true) (hmade : result.2 ≠ .unavailable)
    (hholds : ∀ a, result.1.Holds a → w.state.Holds a) :
    Tracked (w.after System.step (.on h op)) := by
  have hnext : x.mode = .durable → y.group.stateBinding.toNat = x.group.stateBinding.toNat + 1 ∧
      x.group.stateBinding.toNat + 1 ≤ touchCount h (w.after System.step (.on h op)).history :=
    fun hdurable => hrevision ▸
      ht.toNat_advance hsparse hx hdurable hop (hstep ▸ hmade)
  refine ht.move hstep hmoves hy hholds ?_ ?_
  · intro hdurable
    obtain ⟨htoNat, hle⟩ := hnext (hmode ▸ hdurable)
    exact htoNat ▸ hle
  · rintro a ha rfl
    have htraced := ht.traced a (hholds a ha)
    obtain ⟨hdurable, hle⟩ := htraced.behind hx
    refine htraced.passed ((congrArg (·.1.handles a.stateBinding) hstep).trans hy)
      (hmode.trans hdurable) ?_
    rw [(hnext hdurable).1]
    exact Nat.lt_succ_of_le hle

section

variable (ht : Tracked w) (hstep : w.state.step (.on h op) = result)
  (hx : w.state.handles h = some x) (hmoves : w.state.Moves h x op result)
  (hy : result.1.handles h = some y) (hmode : y.mode = x.mode)
include ht hstep hx hmoves hy hmode

section

variable (hrevision : y.group.stateBinding = x.group.stateBinding)
  (hholds : ∀ a, result.1.Holds a → w.state.Holds a)
include hrevision hholds

/-- A call that leaves the revision: an Add that is current has to be left as it is. -/
theorem Tracked.stay
    (hcurrent : ∀ a, result.1.Holds a → w.state.Holds a → a.stateBinding = h → a.stateRevision =
      x.group.stateBinding → x.group.pendingAdditionRevision = some a.stateRevision → x.activity =
      .idle ∨ x.activity.addition? = some a → touchesOn h ⟨.on h op, result.2⟩ = false ∧ y.group =
      x.group ∧ (y.activity = .idle ∨ y.activity.addition? = some a ∧
      (x.activity.addition? = some a ∨ ∃ thread, stageEvent thread a = ⟨.on h op, result.2⟩))) :
    Tracked (w.after System.step (.on h op)) := by
  refine ht.move hstep hmoves hy hholds ?_ ?_
  · intro hdurable
    rw [hrevision, World.after, touchCount_append]
    exact (ht.counted h x hx (hmode ▸ hdurable)).trans (Nat.le_add_right _ _)
  · rintro a ha rfl
    refine (ht.traced a (hholds a ha)).kept hx
      ((congrArg (·.1.handles a.stateBinding) hstep).trans hy) hmode hrevision ?_
    rw [hstep]
    exact hcurrent a ha (hholds a ha) rfl

/-- Nothing is current at a handle that a commit or an ordinary write borrows. -/
theorem Tracked.leave (hbusy : x.activity ≠ .idle) (hfree : x.activity.addition? = none) :
    Tracked (w.after System.step (.on h op)) := by
  refine ht.stay hstep hx hmoves hy hmode hrevision hholds ?_
  rintro a - - - - - (hidle | hborrowed)
  · exact absurd hidle hbusy
  · rw [hfree] at hborrowed
    cases hborrowed

end

/-- The apply of a transient handle concerns no durable Add. -/
theorem Tracked.transient (htransient : x.mode = .transient)
    (hholds : ∀ a, result.1.Holds a → w.state.Holds a) :
    Tracked (w.after System.step (.on h op)) := by
  refine ht.move hstep hmoves hy hholds ?_ ?_
  · intro hdurable
    exact absurd (htransient.symm.trans (hmode.symm.trans hdurable)) (by simp)
  · rintro a ha rfl
    obtain ⟨hdurable, -⟩ := (ht.traced a (hholds a ha)).behind hx
    exact absurd (htransient.symm.trans hdurable) (by simp)

end

/-- A new Add is one revision beyond every other of its group. -/
theorem Tracked.added (ht : Tracked w) (hreach : System.Reachable w)
    (hsparse : Sparse (w.after System.step (.on h .apply))) (hx : w.state.handles h = some x)
    {epochBefore : Nat} {r c l : Bytes32} {welcome commit : MlsWireMessage} {g : Group P}
    {revision : BitVec 64}
    (hprepared : x.activity = .prepared (.addition epochBefore r c l welcome commit))
    (hmode : x.mode = .durable)
    (hresult : x.group.applyDurableAddition epochBefore = (g, .ok revision))
    {new : AppliedAddition} (hnew : new = ⟨g.groupId.1, epochBefore, g.epoch, h, revision,
      w.state.nextAdd, r, c, l, welcome, commit⟩) (hstep : w.state.step (.on h .apply) =
      ({ w.state.endAddition h x g with
          additions := Function.update w.state.additions w.state.nextAdd (some new) },
        .committedAddition (.ok w.state.nextAdd))) :
    Tracked (w.after System.step (.on h .apply)) := by
  obtain ⟨-, hrevision, hbinding, howed⟩ := Group.applyDurableAddition_ok hresult
  have hmade : (w.state.step (.on h .apply)).2 ≠ .unavailable := by
    rw [hstep]
    nofun
  obtain ⟨htoNat, hle⟩ := ht.toNat_advance hsparse hx hmode rfl hmade
  have hstate : (w.after System.step (.on h .apply)).state =
      { w.state.endAddition h x g with
          additions := Function.update w.state.additions w.state.nextAdd (some new) } :=
    congrArg Prod.fst hstep
  have hself : (w.after System.step (.on h .apply)).state.handles h =
      some ⟨g, x.mode, .idle, w.state.addsAfterApply x⟩ := by
    rw [hstate]
    exact setHandle_handles_self ..
  have hother : ∀ h', h' ≠ h →
      (w.after System.step (.on h .apply)).state.handles h' = w.state.handles h' := by
    intro h' hne
    rw [hstate]
    exact setHandle_handles_of_ne hne
  have hholds : ∀ a, (w.after System.step (.on h .apply)).state.Holds a →
      a = new ∨ w.state.Holds a := by
    intro a ha
    rw [hstate] at ha
    rcases ha with ⟨k, ha⟩ | ⟨h', x', hx', ha⟩
    · by_cases heq : k = w.state.nextAdd
      · simp only [heq, Function.update_self, Option.some.injEq] at ha
        exact .inl ha.symm
      · simp only [Function.update_of_ne heq] at ha
        exact .inr (.inl ⟨k, ha⟩)
    · have hends : (w.state.endAddition h x g).Holds a := .inr ⟨h', x', hx', ha⟩
      exact .inr (System.Holds.of_quiet (s := w.state) hends rfl rfl rfl)
  -- The Adds held before are behind the new one.
  have hbehind : ∀ a, w.state.Holds a → a.stateBinding = h →
      a.stateRevision.toNat < revision.toNat := by
    rintro a ha rfl
    obtain ⟨-, hbehind⟩ := (ht.traced a ha).behind hx
    rw [hrevision, htoNat]
    exact Nat.lt_succ_of_le hbehind
  refine ⟨?_, ?_, ?_⟩
  · intro h' y hy hdurable
    by_cases heq : h' = h
    · subst heq
      cases hself.symm.trans hy
      rw [hbinding, hrevision, htoNat]
      exact hle
    · rw [hother h' heq] at hy
      refine (ht.counted h' y hy hdurable).trans ?_
      rw [World.after, touchCount_append]
      exact Nat.le_add_right _ _
  · intro a ha
    rcases hholds a ha with rfl | hold
    · subst hnew
      refine ⟨w, _, [], _, ⟨hreach, ⟨⟨x, hx, hmode, hprepared⟩, by rw [hstep]⟩, hself, howed,
        .refl _, (List.append_nil _).symm⟩, hself, hmode, ?_, fun _ => ⟨rfl, rfl, .inl rfl⟩⟩
      rw [hbinding]
    · by_cases heq : a.stateBinding = h
      · have hlt := hbehind a hold heq
        subst heq
        refine (ht.traced a hold).passed hself hmode ?_
        rw [hbinding]
        exact hlt
      · refine (ht.traced a hold).same (touchesOn_of_ne ?_) (hother _ heq)
        rintro op' ⟨⟩
        exact heq rfl
  · have hne : ∀ a, w.state.Holds a → a.stateBinding = h → a.stateRevision ≠ revision := by
      intro a ha hh heq
      exact absurd (hbehind a ha hh) (heq ▸ Nat.lt_irrefl _)
    intro a a' ha ha' hbinding' hrevision'
    rcases hholds a ha with rfl | hold
    · rcases hholds a' ha' with rfl | hold'
      · rfl
      · subst hnew
        exact absurd hrevision'.symm (hne a' hold' hbinding'.symm)
    · rcases hholds a' ha' with rfl | hold'
      · subst hnew
        exact absurd hrevision' (hne a hold hbinding')
      · exact ht.distinct a a' hold hold' hbinding' hrevision'

/-- The Add whose write has ended is not held any more. -/
theorem System.Wf.not_holds_writtenOwn {s : System P} {accepted : Bool} {thread : ThreadId}
    {a : AppliedAddition} (hwf : s.Wf) (hx : s.handles h = some x)
    (hborrowed : x.activity.addition? = some a) :
    ¬(s.endOwnWrite h x thread a accepted).1.Holds a := by
  obtain ⟨hbinding, -, -, hconsumed, -⟩ := hwf.borrows h x hx a hborrowed
  rintro (⟨k, ha⟩ | ⟨h', x', hx', ha⟩)
  · obtain ⟨hkey, -⟩ := hwf.added k a ha
    rw [hkey] at hconsumed
    exact absurd (hconsumed.symm.trans ha) (by simp)
  · by_cases heq : h' = h
    · subst heq
      rw [show (s.endOwnWrite h' x thread a accepted).1.handles h' = _ from
        setHandle_handles_self ..] at hx'
      cases hx'
      cases ha
    · rw [show (s.endOwnWrite h x thread a accepted).1.handles h' = s.handles h' from
        setHandle_handles_of_ne heq] at hx'
      obtain ⟨hbinding', -⟩ := hwf.borrows h' x' hx' a ha
      exact heq (hbinding'.symm.trans hbinding)

theorem Tracked.moves (ht : Tracked w) (hwf : w.state.Wf) (hreach : System.Reachable w)
    (hsparse : Sparse (w.after System.step (.on h op)))
    (hstep : w.state.step (.on h op) = result) (hx : w.state.handles h = some x)
    (hmoves : w.state.Moves h x op result) : Tracked (w.after System.step (.on h op)) := by
  have hself : ∀ {s : System P} {y : Handle P}, (s.setHandle h y).handles h = some y :=
    setHandle_handles_self ..
  have hquiet : ∀ {op : Op P} {reply : Reply}, op.touches = false →
      touchesOn h ⟨.on h op, reply⟩ = false := by
    intro op reply hop
    simp [touchesOn, hop]
  cases id hmoves with
  | unavailable =>
    refine ht.stay hstep hx hmoves hx rfl rfl (fun _ ha => ha) fun a _ _ _ _ _ hactivity => ?_
    exact ⟨touchesOn_unavailable h _, rfl, hactivity.imp_right fun hborrowed =>
      ⟨hborrowed, .inl hborrowed⟩⟩
  | touched hidle hop hgroup hmade =>
    exact ht.advance hsparse hstep hx hmoves hself rfl hgroup.revision hop hmade
      fun a ha => ha.of_quiet rfl rfl (by rw [hidle]; rfl)
  | prepared _ hop hgroup =>
    exact ht.advance hsparse hstep hx hmoves hself rfl hgroup.revision hop (by simp)
      fun a ha => ha.of_quiet rfl rfl rfl
  | dropped hprepared =>
    exact ht.leave hstep hx hmoves hself rfl rfl (fun a ha => ha.of_quiet rfl rfl rfl)
      (by rw [hprepared]; nofun) (by rw [hprepared]; rfl)
  | committed hprepared hgroup =>
    exact ht.leave hstep hx hmoves hself rfl (by simpa using hgroup.revision)
      (fun a ha => ha.of_quiet rfl rfl rfl) (by rw [hprepared]; nofun) (by rw [hprepared]; rfl)
  | addedTransient _ hmode =>
    exact ht.transient hstep hx hmoves hself rfl hmode fun a ha => ha.of_quiet rfl rfl rfl
  | @addFailed epochBefore r c l welcome commit g e hprepared hmode hresult =>
    have hgroup := x.group.applyPending_follows epochBefore 2
    rw [Group.applyDurableAddition_error hresult] at hgroup
    exact ht.leave hstep hx hmoves hself rfl (by simpa using hgroup.revision)
      (fun a ha => ha.of_quiet rfl rfl rfl) (by rw [hprepared]; nofun) (by rw [hprepared]; rfl)
  | added hprepared hmode hresult =>
    exact ht.added hreach hsparse hx hprepared hmode hresult rfl hstep
  | writeBlocked hidle =>
    exact ht.stay hstep hx hmoves hx rfl rfl (fun _ ha => ha)
      fun a _ _ _ _ _ _ => ⟨hquiet rfl, rfl, .inl hidle⟩
  | writing hidle hfree =>
    refine ht.stay hstep hx hmoves hself rfl rfl (fun a ha => ha.of_quiet rfl rfl rfl) ?_
    rintro a - hold rfl - howed -
    obtain ⟨hmode, -⟩ := (ht.traced a hold).behind hx
    exact absurd ⟨hmode, howed ▸ Option.some_ne_none _⟩ hfree
  | stale hidle =>
    exact ht.stay hstep hx hmoves hx rfl rfl (fun _ ha => ha.of_consumed)
      fun a _ _ _ _ _ _ => ⟨hquiet rfl, rfl, .inl hidle⟩
  | @staging thread k a₀ hidle hmode hadded hcurrent =>
    obtain ⟨hbinding, hrevision, -⟩ := of_decide_eq_true hcurrent
    obtain ⟨hkey, -⟩ := hwf.added k a₀ hadded
    have hheld : w.state.Holds a₀ := .inl ⟨k, hadded⟩
    refine ht.stay hstep hx hmoves hself rfl rfl ?_ ?_
    · intro a ha
      refine ha.of_update rfl (fun k' ha' => System.Holds.of_consumed (.inl ⟨k', ha'⟩)) ?_
      rintro ⟨⟩
      exact hheld
    · intro a _ hold hh hcur _ _
      obtain rfl := ht.distinct a a₀ hold hheld (hh.trans hbinding.symm)
        (hcur.trans hrevision.symm)
      refine ⟨hquiet rfl, rfl, .inr ⟨rfl, .inr ⟨thread, ?_⟩⟩⟩
      rw [stageEvent, hbinding, hkey]
  | @stageFailed thread a₀ _ _ hstaging =>
    exact ht.stay hstep hx hmoves hself rfl rfl (fun a ha => ha.of_quiet rfl rfl rfl)
      fun a _ _ _ _ _ _ => ⟨hquiet rfl, rfl, .inl rfl⟩
  | @staged thread a₀ hstaging =>
    have hborrowed : x.activity.addition? = some a₀ := by rw [hstaging]; rfl
    refine ht.stay hstep hx hmoves hself rfl rfl ?_ ?_
    · intro a ha
      refine ha.of_update rfl (fun k ha' => .inl ⟨k, ha'⟩) ?_
      rintro ⟨⟩
      exact .inr ⟨h, x, hx, hborrowed⟩
    · rintro a - - - - - (hidle | hsame)
      · rw [hstaging] at hidle
        cases hidle
      · obtain rfl := Option.some.inj (hborrowed.symm.trans hsame)
        exact ⟨hquiet rfl, rfl, .inr ⟨rfl, .inl hborrowed⟩⟩
  | written hwriting =>
    exact ht.leave hstep hx hmoves hself rfl rfl (fun a ha => ha.of_quiet rfl rfl rfl)
      (by rw [hwriting]; nofun) (by rw [hwriting]; rfl)
  | @writtenOwn accepted thread a₀ hwriting =>
    have hborrowed : x.activity.addition? = some a₀ := by rw [hwriting]; rfl
    refine ht.stay hstep hx hmoves hself rfl rfl (fun a ha => ha.of_quiet rfl rfl rfl) ?_
    rintro a ha - - - - (hidle | hsame)
    · rw [hwriting] at hidle
      cases hidle
    · obtain rfl := Option.some.inj (hborrowed.symm.trans hsame)
      exact absurd ha (hwf.not_holds_writtenOwn hx hborrowed)

variable {c : Call P}

/-- A call on no handle, which may open a new one. -/
theorem Tracked.aside (ht : Tracked w) (hstep : w.state.step c = result)
    (hquiet : ∀ h, touchesOn h ⟨c, result.2⟩ = false)
    (hholds : ∀ a, result.1.Holds a → w.state.Holds a)
    (hkept : ∀ h y, w.state.handles h = some y → result.1.handles h = some y)
    (hnew : ∀ h y, result.1.handles h = some y → w.state.handles h = some y ∨
      y.group.stateBinding = 0) : Tracked (w.after System.step c) := by
  have hstate : (w.after System.step c).state = result.1 := congrArg Prod.fst hstep
  refine ⟨?_, ?_, ?_⟩
  · intro h y hy hmode
    rw [hstate] at hy
    rcases hnew h y hy with hold | hzero
    · refine (ht.counted h y hold hmode).trans ?_
      rw [World.after, touchCount_append]
      exact Nat.le_add_right _ _
    · rw [hzero]
      exact Nat.zero_le _
  · intro a ha
    rw [hstate] at ha
    have htraced := ht.traced a (hholds a ha)
    obtain ⟨-, -, -, y, -, hy, -⟩ := id htraced
    refine htraced.same (hstep ▸ hquiet _) ?_
    rw [hstate, hy]
    exact hkept _ y hy
  · intro a a' ha ha'
    rw [hstate] at ha ha'
    exact ht.distinct a a' (hholds a ha) (hholds a' ha')

theorem Tracked.steps (ht : Tracked w) (hwf : w.state.Wf) (hreach : System.Reachable w)
    (hsparse : Sparse (w.after System.step c)) (hstep : w.state.step c = result)
    (hsteps : w.state.Steps c result) : Tracked (w.after System.step c) := by
  cases hsteps with
  | unavailable =>
    exact ht.aside hstep (fun h => touchesOn_unavailable h c) (fun _ ha => ha) (fun _ _ hy => hy)
      fun _ _ hy => .inl hy
  | notOpened hcall =>
    exact ht.aside hstep (fun h => touchesOn_of_ne (hcall h)) (fun _ ha => ha)
      (fun _ _ hy => hy) fun _ _ hy => .inl hy
  | @opened _ _ g mode adds hcall hgroup _ =>
    refine ht.aside hstep (fun h => touchesOn_of_ne (hcall h))
      (fun a ha => ha.of_quiet rfl rfl rfl) ?_ ?_
    · intro h y hy
      rw [opened_handles_of_ne (Nat.ne_of_lt (hwf.handle_lt h y hy))]
      exact hy
    · intro h y hy
      by_cases heq : h = w.state.nextHandle
      · subst heq
        rw [show (w.state.opened g mode adds).handles w.state.nextHandle = _ from
          setHandle_handles_self ..] at hy
        cases hy
        exact .inr (fromProvider_eq hgroup).1
      · rw [opened_handles_of_ne heq] at hy
        exact .inl hy
  | moved hx hmoves => exact ht.moves hwf hreach hsparse hstep hx hmoves

end Steps

theorem System.Reachable.tracked (hw : System.Reachable w) (hsparse : Sparse w) : Tracked w := by
  have hinvariant : w.state.Wf ∧ System.Reachable w ∧ (Sparse w → Tracked w) := by
    refine hw.invariant
      (I := fun v => v.state.Wf ∧ System.Reachable v ∧ (Sparse v → Tracked v)) ?_
      ⟨wf_init, .refl _, fun _ => ⟨(fun _ _ h => by cases h), ?_, ?_⟩⟩
    · rintro v c - ⟨hwf, hreach, ht⟩
      have hsteps := v.state.step_steps c
      exact ⟨hwf.steps hsteps, hreach.tail trivial,
        fun hsparse => (ht hsparse.before).steps hwf hreach hsparse rfl hsteps⟩
    · rintro a (⟨k, ha⟩ | ⟨h, x, hx, -⟩)
      · cases ha
      · cases hx
    · rintro a a' (⟨k, ha⟩ | ⟨h, x, hx, -⟩)
      · cases ha
      · cases hx
  exact hinvariant.2.2 hsparse

/-! ## What a release rests on -/

/-- The call ends the `stage_and_write_to_storage` of an Add with these outputs, on the
group that applied it and has not been touched since; the provider's write succeeded, and
stored the state that the Add produced. -/
def ReleasedExactly (w : GroupWorld P) (c : Call P)
    (out : MlsWireMessage × MlsWireMessage) : Prop :=
  ∃ v a x post, Origin w v a x post ∧ out = (a.welcome, a.commit) ∧
    c = .on a.stateBinding (.stored true) ∧ (∃ thread, stageEvent thread a ∈ post) ∧
    touchCount a.stateBinding post = 0 ∧ (P.stored x.group.inner).2 = true ∧
    ∃ write, (w.state.step c).1.log = w.state.log ++ [write] ∧
      write.handle = a.stateBinding ∧ write.own = some a.writeAuthority ∧
      write.snapshot = P.snapshot x.group.inner

/-- Only the end of an Add's own write releases anything. -/
theorem System.Steps.released {result : System P × Reply} (hsteps : s.Steps c result)
    (hreply : result.2 = .persisted (.ok out)) :
    ∃ h x thread a, c = .on h (.stored true) ∧ s.handles h = some x ∧
      x.activity = .writing (some (thread, a)) ∧ (P.stored x.group.inner).2 = true ∧
      out = (a.welcome, a.commit) ∧ result = s.endOwnWrite h x thread a true := by
  cases hsteps with
  | unavailable => cases hreply
  | notOpened => cases hreply
  | opened => cases hreply
  | @moved h op x _ hx hmoves =>
    cases hmoves with
    | @touched _ _ reply _ _ _ _ hnone =>
      obtain rfl : reply = .persisted (.ok out) := hreply
      cases hnone
    | @writtenOwn accepted thread a hwriting =>
      simp only [endOwnWrite, Reply.persisted.injEq] at hreply
      split_ifs at hreply with hok
      cases accepted with
      | false => cases hok
      | true => exact ⟨h, x, thread, a, rfl, hx, hwriting, hok, by cases hreply; rfl, rfl⟩
    | _ => cases hreply

theorem Tracked.released (ht : Tracked w) (hwf : w.state.Wf)
    (hreply : (w.state.step c).2 = .persisted (.ok out)) : ReleasedExactly w c out := by
  obtain ⟨h, x, thread, a, rfl, hx, hwriting, hok, rfl, hresult⟩ :=
    (w.state.step_steps c).released hreply
  have hborrowed : x.activity.addition? = some a := by rw [hwriting]; rfl
  obtain ⟨rfl, hrevision, -⟩ := hwf.borrows h x hx a hborrowed
  obtain ⟨v, x₀, post, y, horigin, hy, -, -, huntouched⟩ :=
    ht.traced a (.inr ⟨_, x, hx, hborrowed⟩)
  cases hx.symm.trans hy
  obtain ⟨hcount, hgroup, hactivity⟩ := huntouched hrevision
  have hstaged : ∃ thread, stageEvent thread a ∈ post := by
    rcases hactivity with hidle | ⟨-, hstaged⟩
    · rw [hwriting] at hidle
      cases hidle
    · exact hstaged
  refine ⟨v, a, x₀, post, horigin, rfl, rfl, hstaged, hcount, hgroup ▸ hok, ?_⟩
  rw [hresult]
  exact ⟨_, rfl, rfl, rfl, hgroup ▸ rfl⟩

/-! ## A stage that directly follows the apply -/

/-- Calls that do not name the handle. -/
abbrev Elsewhere (h : HandleId) (_ : GroupWorld P) (c : Call P) : Prop :=
  ∀ op, c ≠ .on h op

/-- If the Add is applied and staged at once, and on its way the thread is free and the
provider's write succeeds, then its Welcome and Commit are released, whatever happens on
other handles while the staging callback and the store's write run. -/
def ReleasesDirectly (w : GroupWorld P) (h : HandleId) (k : AddId)
    (thread : ThreadId) (out : MlsWireMessage × MlsWireMessage) : Prop :=
  let staging := (w.after System.step (.on h .apply)).after System.step
    (.on h (.stageAndWriteToStorage thread k))
  ∀ w₁, Leads System.step (Elsewhere h) staging w₁ → w₁.state.currentWrite thread = none →
    let writing := w₁.after System.step (.on h (.staged (.ok ())))
    ∀ w₂, Leads System.step (Elsewhere h) writing w₂ →
      ∃ y, w₂.state.handles h = some y ∧ ((P.stored y.group.inner).2 = true →
        (w₂.state.step (.on h (.stored true))).2 = .persisted (.ok out))

namespace System

variable {s : System P} {h : HandleId} {x : Handle P}

theorem step_on (hx : s.handles h = some x) (op : Op P) : s.step (.on h op) = s.operate h x op := by
  simp only [step, hx]

variable {k : AddId} {a : AppliedAddition} {thread : ThreadId}

section

variable (hx : s.handles h = some x)
include hx

/-- A successful apply leaves an idle handle and a current Add. -/
theorem apply_current {epochBefore : Nat} {r c l : Bytes32} {welcome commit : MlsWireMessage}
    (hmode : x.mode = .durable)
    (hprepared : x.activity = .prepared (.addition epochBefore r c l welcome commit))
    (hreply : (s.step (.on h .apply)).2 = .committedAddition (.ok k)) :
    ∃ y a, (s.step (.on h .apply)).1.handles h = some y ∧ y.mode = .durable ∧
      y.activity = .idle ∧ (s.step (.on h .apply)).1.additions k = some a ∧
      current h y.group a = true ∧ (a.welcome, a.commit) = (welcome, commit) := by
  have hstep : s.step (.on h .apply) =
      s.applyDurableAddition h x epochBefore r c l welcome commit := by
    simp only [step_on hx, operate, hprepared, applyPrepared, hmode]
  rw [hstep] at hreply ⊢
  rcases hresult : x.group.applyDurableAddition epochBefore with ⟨g, e | revision⟩
  · simp only [applyDurableAddition, hresult] at hreply
    cases hreply
  · simp only [applyDurableAddition, hresult] at hreply ⊢
    cases hreply
    obtain ⟨-, -, hrevision, howed⟩ := Group.applyDurableAddition_ok hresult
    refine ⟨_, _, setHandle_handles_self .., hmode, rfl, Function.update_self .., ?_, rfl⟩
    exact decide_eq_true ⟨rfl, hrevision.symm, howed, rfl, rfl⟩

theorem stage_current (hmode : x.mode = .durable) (hidle : x.activity = .idle)
    (ha : s.additions k = some a) (hcurrent : current h x.group a = true) (thread : ThreadId) :
    (s.step (.on h (.stageAndWriteToStorage thread k))).1.handles h =
      some { x with activity := .staging thread a } := by
  simp only [step_on hx, operate, hidle, operateIdle, hmode, ha, beginStage, hcurrent]
  exact setHandle_handles_self ..

/-- A staged Add that is current is written on a thread that is free. -/
theorem staged_current (hstaging : x.activity = .staging thread a)
    (hcurrent : current h x.group a = true) (hthread : s.currentWrite thread = none) :
    (s.step (.on h (.staged (.ok ())))).1.handles h =
      some { x with activity := .writing (some (thread, a)) } := by
  obtain ⟨-, hrevision, howed, -⟩ := of_decide_eq_true hcurrent
  simp only [step_on hx, operate, hstaging, endStage]
  rw [if_pos ⟨hrevision, howed⟩, if_pos hthread]
  exact setHandle_handles_self ..

end

end System

/-! ## Whole runs -/

/-- In a run that touches no group `2 ^ 64` times, a Welcome and a Commit are released only
by the exact write of their Add; and in every run an Add that is staged at once, with the
thread free and the write successful, releases them. -/
theorem persisted_addition_exact {w : GroupWorld P} (hw : System.Reachable w) :
    (Sparse w → ∀ c out, (w.state.step c).2 = .persisted (.ok out) → ReleasedExactly w c out) ∧
      ∀ a thread, Applies w a →
        ReleasesDirectly w a.stateBinding a.writeAuthority thread (a.welcome, a.commit) := by
  have hwf : w.state.Wf := wf_init.leads hw
  refine ⟨fun hsparse c out hreply => (hw.tracked hsparse).released hwf hreply, ?_⟩
  rintro a thread ⟨⟨x, hx, hmode, hprepared⟩, hreply⟩
  obtain ⟨y, b, hy, hdurable, hidle, hb, hcurrent, hout⟩ :=
    apply_current hx hmode hprepared hreply
  have hstaging := stage_current hy hdurable hidle hb hcurrent thread
  unfold ReleasesDirectly
  intro staging w₁ hw₁ hthread writing w₂ hw₂
  have hwfApplied := hwf.steps (w.state.step_steps (.on a.stateBinding .apply))
  have hwfStaging : staging.state.Wf := hwfApplied.steps (step_steps _ _)
  have hstaged := hwfStaging.frame_leads hw₁ hstaging
  have hwriting := staged_current hstaged rfl hcurrent hthread
  have hwfWriting : writing.state.Wf := (hwfStaging.leads hw₁).steps (step_steps _ _)
  have hwritten := hwfWriting.frame_leads hw₂ hwriting
  refine ⟨_, hwritten, fun hok => ?_⟩
  simp only [step_on hwritten, operate, endOwnWrite, afterStore, if_true, hok, hout]

section Runs

open Sample

/-- The Welcome and the Commit of the small provider's Adds. -/
def sampleOutput : MlsWireMessage × MlsWireMessage :=
  (⟨[1], by decide⟩, ⟨[2], by decide⟩)

/-- The Add of the small provider, applied on the first handle. -/
def sampleAddition : AppliedAddition :=
  ⟨1, 0, 1, 0, 2, 0, 5, 2, 3, sampleOutput.1, sampleOutput.2⟩

theorem persisted_addition_exact_added :
    ReleasesDirectly (System.start.afterAll System.step ((addRun [0]).take 2)) 0 0 0 sampleOutput ∧
      ReleasedExactly (System.start.afterAll System.step (addRun [0] ++ (persistRun 0).take 2))
        (.on 0 (.stored true)) sampleOutput := by
  refine ⟨?_, ?_⟩
  · refine (persisted_addition_exact (leads_calls _ _)).2 sampleAddition 0 ⟨⟨_, rfl, rfl, ?_⟩, ?_⟩
    · decide +kernel
    · decide +kernel
  · refine (persisted_addition_exact (leads_calls _ _)).1 ?_ _ _ ?_
    · intro h
      exact Nat.lt_of_le_of_lt List.countP_le_length (by decide +kernel)
    · decide +kernel

/-- Sends the plaintext `[7]` on the first handle. -/
def send : Call provider := .on 0 (.encryptApplicationMessage [7])

/-- The handle after `n` sends, up to its state when `n` is zero. -/
def sent (x : Handle provider) (n : Nat) : Handle provider :=
  let inner : State := { (x.group.inner : State) with last := [7] }
  { x with group := { x.group with
      inner := inner, stateBinding := x.group.stateBinding + BitVec.ofNat 64 n } }

variable {s : System provider} {x : Handle provider}

theorem step_send (hx : s.handles 0 = some x) (hidle : x.activity = .idle)
    (hactive : x.group.inactive = false) : (s.step send).1 = s.setHandle 0 (sent x 1) := by
  have hgroup : (x.group.encryptApplicationMessage [7]).1 = (sent x 1).group := by
    rcases x with ⟨⟨inner, groupId, binding, pending, inactive⟩, mode, activity, adds⟩
    cases hactive
    rfl
  simp only [send, step_on hx, System.operate, hidle, System.operateIdle, hgroup]
  rw [sent, hidle]

theorem sends_state (n : Nat) (hx : s.handles 0 = some x) (hidle : x.activity = .idle)
    (hactive : x.group.inactive = false) :
    (List.replicate (n + 1) send).foldl (fun s c => (s.step c).1) s =
      s.setHandle 0 (sent x (n + 1)) := by
  induction n generalizing s x with
  | zero => exact step_send hx hidle hactive
  | succ n ih =>
    rw [List.replicate_succ, List.foldl_cons, step_send hx hidle hactive,
      ih (x := sent x 1) (setHandle_handles_self ..) hidle hactive]
    have hsum : BitVec.ofNat 64 1 + BitVec.ofNat 64 (n + 1) = BitVec.ofNat 64 (n + 1 + 1) := by
      rw [← BitVec.ofNat_add, Nat.add_comm]
    simp only [System.setHandle, Function.update_idem, sent, BitVec.add_assoc, hsum]

/-- The world after the Add, and the handle it left. -/
def added : GroupWorld provider :=
  System.start.afterAll System.step (addRun [0])

def addedHandle : Handle provider :=
  (added.state.handles 0).get (by decide +kernel)

/-- After `2 ^ 64` sends the revision is that of the Add again. -/
theorem wrapped_state :
    (List.replicate (2 ^ 64) send).foldl (fun s c => (s.step c).1) added.state =
      added.state.setHandle 0 (sent addedHandle 0) := by
  have hround : sent addedHandle (2 ^ 64 - 1 + 1) = sent addedHandle 0 := by
    rfl
  rw [show (2 : Nat) ^ 64 = 2 ^ 64 - 1 + 1 from rfl,
    sends_state (2 ^ 64 - 1) (x := addedHandle) (Option.some_get _).symm (by decide +kernel)
      (by decide +kernel), hround]

/-- The Add, `2 ^ 64` sends, and a stage of the Add up to the store's write. -/
def wrappedRun : List (Call provider) :=
  addRun [0] ++ List.replicate (2 ^ 64) send ++ (persistRun 0).take 2

theorem wrappedRun_state : (System.start.afterAll System.step wrappedRun).state =
      ((persistRun 0).take 2).foldl (fun s c => (s.step c).1)
        (added.state.setHandle 0 (sent addedHandle 0)) := by
  rw [← wrapped_state, World.afterAll_state, wrappedRun, List.foldl_append, List.foldl_append,
    added, World.afterAll_state]

/-- A stage at the recurring revision writes the state after the sends and releases the
outputs of the Add. -/
theorem wrapped_revision_releases :
    System.Reachable (System.start.afterAll System.step wrappedRun) ∧
      ((System.start.afterAll System.step wrappedRun).state.step (.on 0 (.stored true))).2 =
        .persisted (.ok sampleOutput) ∧
      ((System.start.afterAll System.step wrappedRun).state.step (.on 0 (.stored true))).1.log.map
        (fun write => write.snapshot.state.data) = [[7]] ∧
      (added.state.handles 0).map (fun x => (provider.snapshot x.group.inner).state.data) =
        some [] := by
  refine ⟨leads_calls System.start wrappedRun, ?_, ?_, by decide +kernel⟩
  · rw [wrappedRun_state]
    decide +kernel
  · rw [wrappedRun_state]
    decide +kernel

end Runs

end SessionChat.Mls
