import SessionChat.Mls.Persistence

/-!
# Groups that have failed closed (`crates/session-crypto-mls/src/lib.rs`)

A handle that has seen a commit outside the two-member policy, its own removal, or an apply
with an unexpected result is marked inactive, and the methods that consult the mark refuse.
Not every violation sets the mark and not every method consults it; `guarded` names the calls
that fall into those gaps. In a run without them a violated handle refuses every later call,
stays at its epoch and is never written.
-/

set_option autoImplicit false

namespace SessionChat.Mls

open Storage Transition

variable {P : Provider}

/-! ## Violations -/

/-- What the provider makes of a message, if the group lets it process the message. -/
def Group.received (g : Group P) (message : MlsWireMessage) : Option (P.State × ReceivedMessage) :=
  if g.inactive = true then none
  else
    match P.decode message.1 with
    | none => none
    | some message =>
        match P.processIncomingMessage g.inner message with
        | (_, none) => none
        | (inner, some received) => some (inner, received)

/-- The incoming commit breaks the policy, removes the local member or re-initializes the
group. -/
def Group.violatedBy (g : Group P) (message : MlsWireMessage) : Bool :=
  match g.received message with
  | some (inner, .commit .newEpoch) => !({ g with inner := inner } : Group P).phaseOneInvariantsHold
  | some (_, .commit .removed) => true
  | some (_, .commit .reInit) => true
  | _ => false

/-- The epoch and the member count an apply of the prepared value expects. -/
def Prepared.expectation : Prepared → Nat × Nat
  | .addition epochBefore _ _ _ _ _ => (epochBefore, 2)
  | .removal epochBefore _ => (epochBefore, 1)
  | .epochUpdate epochBefore memberCountBefore _ => (epochBefore, memberCountBefore)

/-- The provider applies the pending commit with a result that the adapter's checks
refuse. -/
def Group.violatedByApply (g : Group P) (value : Prepared) : Bool :=
  (P.applyPendingCommit g.inner).2 &&
    !({ g with inner := (P.applyPendingCommit g.inner).1 } : Group P).applied
      value.expectation.1 value.expectation.2

/-- The call makes the handle see a violation. -/
def System.violates (s : System P) (h : HandleId) (op : Op P) : Bool :=
  match s.handles h with
  | none => false
  | some x =>
      match x.activity, op with
      | .idle, .processMessage message => x.group.violatedBy message
      | .prepared value, .apply => x.group.violatedByApply value
      | _, _ => false

/-! ## Calls outside the gaps -/

/-- The message is not a re-initialization commit. -/
def Group.notReInit (g : Group P) (message : MlsWireMessage) : Bool :=
  match g.received message with
  | some (_, .commit .reInit) => false
  | _ => true

/-- On an inactive group: the calls that a check other than that of the mark refuses. -/
def System.refusedInactive (s : System P) (x : Handle P) : Op P → Bool
  | .prepareAdd _ _ => decide (x.group.memberCount ≠ 1)
  | .prepareRemovePeer _ => decide (x.group.memberCount ≠ 2)
  | .writeToStorage => decide (x.mode = .durable ∧ x.group.pendingAdditionRevision ≠ none)
  | .stageAndWriteToStorage _ k =>
      match s.additions k with
      | none => true
      | some a => decide (a.stateRevision ≠ x.group.stateBinding)
  | _ => true

/-- No re-initialization commit is processed, and an inactive handle gets no call that
does not consult the mark and has no other reason to refuse. -/
def System.guarded (s : System P) : Call P → Bool
  | .on h op =>
      match s.handles h with
      | none => true
      | some x =>
          match op with
          | .processMessage message => x.group.notReInit message
          | op => !x.group.inactive || s.refusedInactive x op
  | _ => true

/-! ## A violation sets the mark -/

namespace Group

variable {g : Group P} {message : MlsWireMessage}

theorem processMessage_received {inner : P.State} {received : ReceivedMessage}
    (h : g.received message = some (inner, received)) : g.processMessage message =
      ({ g.invalidateStateBinding with inner := inner } : Group P).receive received := by
  unfold Group.received at h
  simp only [processMessage]
  split_ifs at h with hactive
  rw [if_neg (show ¬g.invalidateStateBinding.inactive = true from hactive)]
  rcases hdecode : P.decode message.val with _ | decoded
  · rw [hdecode] at h
    cases h
  · simp only [hdecode, show g.invalidateStateBinding.inner = g.inner from rfl] at h ⊢
    rcases hprocess : P.processIncomingMessage g.inner decoded with ⟨inner', _ | received'⟩
    · rw [hprocess] at h
      cases h
    · rw [hprocess] at h
      cases h
      rfl

theorem inactive_of_violatedBy (hviolated : g.violatedBy message = true)
    (hguarded : g.notReInit message = true) : (g.processMessage message).1.inactive = true := by
  unfold violatedBy at hviolated
  unfold notReInit at hguarded
  split at hviolated
  · next inner hreceived =>
      -- The revision has no part in the policy.
      have hbroken : ¬({ g.invalidateStateBinding with inner := inner } :
          Group P).phaseOneInvariantsHold = true := by
        change ¬({ g with inner := inner } : Group P).phaseOneInvariantsHold = true
        simpa using hviolated
      rw [processMessage_received hreceived]
      simp only [receive, if_neg hbroken]
  · next hreceived =>
      rw [processMessage_received hreceived]
      rfl
  · next hreceived =>
      rw [hreceived] at hguarded
      cases hguarded
  · cases hviolated

theorem inactive_of_violatedByApply {value : Prepared} (hviolated : g.violatedByApply value =
      true) : ∃ g' e, g.applyPending value.expectation.1 value.expectation.2 = (g', .error e) ∧
      g'.inactive = true := by
  simp only [violatedByApply, Bool.and_eq_true, Bool.not_eq_true'] at hviolated
  obtain ⟨happlied, hchecks⟩ := hviolated
  unfold applyPending
  rcases hresult : P.applyPendingCommit g.inner with ⟨inner, ok⟩
  rw [hresult] at happlied hchecks
  cases happlied
  simp only [hchecks]
  exact ⟨_, _, rfl, rfl⟩

end Group

namespace System

/-- The handle is marked, and nothing borrows it. -/
def Poisoned (s : System P) (h : HandleId) (x : Handle P) : Prop :=
  s.handles h = some x ∧ x.activity = .idle ∧ x.group.inactive = true

variable {s : System P} {h : HandleId}

/-- The three kinds of apply fail alike. -/
theorem applyPrepared_poisoned {x : Handle P} {value : Prepared}
    (hviolated : x.group.violatedByApply value = true) :
    ∃ y, (s.applyPrepared h x value).1.Poisoned h y := by
  obtain ⟨g, e, herror, hinactive⟩ := Group.inactive_of_violatedByApply hviolated
  cases value with
  | addition epochBefore r c l welcome commit =>
    have hpending : x.group.applyPending epochBefore 2 = (g, .error e) := herror
    have hadd : x.group.applyAddition epochBefore = (g, .error e) := by
      simp only [Group.applyAddition, hpending]
    simp only [applyPrepared]
    split
    · simp only [applyTransientAddition, hadd]
      exact ⟨_, setHandle_handles_self .., rfl, hinactive⟩
    · simp only [applyDurableAddition, Group.applyDurableAddition, hadd]
      exact ⟨_, setHandle_handles_self .., rfl, hinactive⟩
  | removal epochBefore commit =>
    have hpending : x.group.applyPending epochBefore 1 = (g, .error e) := herror
    simp only [applyPrepared, applyCommit, hpending]
    exact ⟨_, setHandle_handles_self .., rfl, hinactive⟩
  | epochUpdate epochBefore memberCountBefore commit =>
    have hpending : x.group.applyPending epochBefore memberCountBefore = (g, .error e) := herror
    simp only [applyPrepared, applyCommit, hpending]
    exact ⟨_, setHandle_handles_self .., rfl, hinactive⟩

/-- A violation outside the gaps sets the mark. -/
theorem poisoned_of_violates {op : Op P} (hviolates : s.violates h op = true)
    (hguarded : s.guarded (.on h op) = true) : ∃ y, (s.step (.on h op)).1.Poisoned h y := by
  unfold violates at hviolates
  split at hviolates
  · cases hviolates
  · next x hx =>
      simp only [step, hx, operate]
      split at hviolates
      · next message hidle =>
          simp only [guarded, hx] at hguarded
          simp only [hidle, operateIdle]
          exact ⟨_, setHandle_handles_self .., rfl,
            Group.inactive_of_violatedBy hviolates hguarded⟩
      · next value hprepared =>
          simp only [hprepared]
          exact applyPrepared_poisoned hviolates
      · cases hviolates

/-! ## A marked handle refuses -/

end System

/-- The reply is a refusal: it carries no result. -/
def Reply.refused : Reply → Bool
  | .opened (.error _) | .prepared (.error _) | .committedAddition (.error _) => true
  | .transientAddition (.error _) | .committed (.error _) | .encrypted (.error _) => true
  | .processed (.error _) | .written (.error _) | .persisted (.error _) | .unavailable => true
  | _ => false

namespace System

/-- The handle keeps its mark and its provider state, is not written, and refuses. -/
structure Refuses (s : System P) (h : HandleId) (x : Handle P) (op : Op P) : Prop where
  poisoned : ∃ y, (s.step (.on h op)).1.Poisoned h y ∧ y.group.inner = x.group.inner
  unwritten : (s.step (.on h op)).1.log = s.log
  reply : (s.step (.on h op)).2.refused = true

variable {s : System P} {h : HandleId} {x : Handle P} {op : Op P} {reply : Reply}

theorem refuses_of_setHandle {g : Group P}
    (hstep : s.step (.on h op) = (s.setHandle h { x with group := g }, reply))
    (hidle : x.activity = .idle) (hinactive : g.inactive = true) (hinner : g.inner = x.group.inner)
    (hreply : reply.refused = true) : s.Refuses h x op := by
  refine ⟨?_, ?_, ?_⟩
  · rw [hstep]
    exact ⟨_, ⟨setHandle_handles_self .., hidle, hinactive⟩, hinner⟩
  · rw [hstep]
    rfl
  · rw [hstep]
    exact hreply

/-- The call changes nothing at the handle and is refused. -/
theorem refuses_of_same {s' : System P} (hpoisoned : s.Poisoned h x)
    (hstep : s.step (.on h op) = (s', reply)) (hhandles : s'.handles = s.handles)
    (hlog : s'.log = s.log) (hreply : reply.refused = true) : s.Refuses h x op := by
  obtain ⟨hx, hidle, hinactive⟩ := hpoisoned
  refine ⟨?_, ?_, ?_⟩
  · rw [hstep]
    exact ⟨x, ⟨hhandles ▸ hx, hidle, hinactive⟩, rfl⟩
  · rw [hstep]
    exact hlog
  · rw [hstep]
    exact hreply

theorem Poisoned.refuses (hpoisoned : s.Poisoned h x) (hguarded : s.guarded (.on h op) = true) :
    s.Refuses h x op := by
  obtain ⟨hx, hidle, hinactive⟩ := id hpoisoned
  have hstep : s.step (.on h op) = s.operateIdle h x op := by
    simp only [step, hx, operate, hidle]
  have hmark : x.group.invalidateStateBinding.inactive = true := hinactive
  simp only [guarded, hx] at hguarded
  cases op with
  | prepareAdd validated now =>
    have hcount : x.group.invalidateStateBinding.memberCount ≠ 1 := by
      change x.group.memberCount ≠ 1
      simpa [hinactive, refusedInactive] using hguarded
    simp only [operateIdle, Group.prepareAdd, if_pos hcount] at hstep
    exact refuses_of_setHandle hstep hidle hmark rfl rfl
  | prepareRemovePeer now =>
    have hcount : x.group.invalidateStateBinding.memberCount ≠ 2 := by
      change x.group.memberCount ≠ 2
      simpa [hinactive, refusedInactive] using hguarded
    simp only [operateIdle, Group.prepareRemovePeer, if_pos hcount] at hstep
    exact refuses_of_setHandle hstep hidle hmark rfl rfl
  | prepareEpochUpdate now =>
    simp only [operateIdle, Group.prepareEpochUpdate, if_pos (Or.inl hmark)] at hstep
    exact refuses_of_setHandle hstep hidle hmark rfl rfl
  | encryptApplicationMessage plaintext =>
    simp only [operateIdle, Group.encryptApplicationMessage, if_pos hmark] at hstep
    exact refuses_of_setHandle hstep hidle hmark rfl rfl
  | processMessage message =>
    simp only [operateIdle, Group.processMessage, if_pos hmark] at hstep
    exact refuses_of_setHandle hstep hidle hmark rfl rfl
  | writeToStorage =>
    have hblocked : x.mode = .durable ∧ x.group.pendingAdditionRevision ≠ none := by
      simpa [hinactive, refusedInactive] using hguarded
    simp only [operateIdle, beginWrite, if_pos hblocked] at hstep
    exact refuses_of_same hpoisoned hstep rfl rfl rfl
  | stageAndWriteToStorage thread k =>
    simp only [operateIdle] at hstep
    split at hstep
    · next a _ hadded =>
        have hstale : current h x.group a = false := by
          have hrevision : a.stateRevision ≠ x.group.stateBinding := by
            simpa [hinactive, refusedInactive, hadded] using hguarded
          exact decide_eq_false fun hcurrent => hrevision hcurrent.2.1
        simp only [beginStage, hstale] at hstep
        exact refuses_of_same hpoisoned hstep rfl rfl rfl
    · exact refuses_of_same hpoisoned hstep rfl rfl rfl
  | apply | drop | staged _ | stored _ => exact refuses_of_same hpoisoned hstep rfl rfl rfl

/-- Every later call leaves the handle marked, at its provider state and unwritten. -/
theorem Poisoned.step (hwf : s.Wf) (hpoisoned : s.Poisoned h x) (c : Call P)
    (hguarded : s.guarded c = true) :
    ∃ y, (s.step c).1.Poisoned h y ∧ y.group.inner = x.group.inner ∧
      writesOf h (s.step c).1.log = writesOf h s.log := by
  by_cases hcall : ∃ op, c = .on h op
  · obtain ⟨op, rfl⟩ := hcall
    obtain ⟨⟨y, hy, hinner⟩, hunwritten, -⟩ := hpoisoned.refuses hguarded
    exact ⟨y, hy, hinner, by rw [hunwritten]⟩
  · obtain ⟨hx, hidle, hinactive⟩ := hpoisoned
    obtain ⟨hhandle, hwrites⟩ := (s.step_steps c).frame (fun op heq => hcall ⟨op, heq⟩)
      (Nat.ne_of_lt (hwf.handle_lt h x hx))
    exact ⟨x, ⟨hhandle.trans hx, hidle, hinactive⟩, rfl, hwrites⟩

end System

/-! ## Whole runs -/

/-- In a guarded run, after a violation on a handle: it stays at its epoch, the store takes
no write of it, and every further guarded call on it is refused. -/
theorem violated_handle_fails_closed {v w : GroupWorld P} {h : HandleId}
    {op : Op P}
    (hv : Leads System.step (fun u c => u.state.guarded c = true) System.start v)
    (hviolates : v.state.violates h op = true) (hguarded : v.state.guarded (.on h op) = true)
    (hw : Leads System.step (fun u c => u.state.guarded c = true)
      (v.after System.step (.on h op)) w) :
    (∃ x y, (v.state.step (.on h op)).1.handles h = some x ∧ w.state.handles h = some y ∧
        y.group.epoch = x.group.epoch) ∧
      System.writesOf h w.state.log = System.writesOf h (v.state.step (.on h op)).1.log ∧
      ∀ op', w.state.guarded (.on h op') = true → (w.state.step (.on h op')).2.refused = true := by
  obtain ⟨x, hx⟩ := System.poisoned_of_violates hviolates hguarded
  have hwf : (v.after System.step (.on h op)).state.Wf :=
    (System.wf_init.leads hv).steps (System.step_steps _ _)
  have hinvariant : w.state.Wf ∧ ∃ y, w.state.Poisoned h y ∧ y.group.inner = x.group.inner ∧
      System.writesOf h w.state.log = System.writesOf h (v.state.step (.on h op)).1.log := by
    refine hw.invariant (I := fun u => u.state.Wf ∧ ∃ y, u.state.Poisoned h y ∧
      y.group.inner = x.group.inner ∧
      System.writesOf h u.state.log = System.writesOf h (v.state.step (.on h op)).1.log) ?_
      ⟨hwf, x, hx, rfl, rfl⟩
    rintro u c hguard ⟨huwf, y, hy, hinner, hwrites⟩
    obtain ⟨z, hz, hkept, hmore⟩ := hy.step huwf c hguard
    exact ⟨huwf.steps (System.step_steps _ _), z, hz, hkept.trans hinner, hmore.trans hwrites⟩
  obtain ⟨-, y, hy, hinner, hwrites⟩ := hinvariant
  refine ⟨⟨x, y, hx.1, hy.1, ?_⟩, hwrites, fun op' hguard => (hy.refuses hguard).reply⟩
  rw [Group.epoch, Group.epoch, hinner]

section Runs

open Sample

/-- A new durable group of the small provider that receives a one-byte message. -/
def receiveRun (kind : UInt8) : List (Call provider) :=
  [.create .durable solo, .on 0 (.processMessage ⟨[kind], by simp [maxMlsMessageBytes]⟩)]

/-- The world of the new group, and the world after the message. -/
def received (kind : UInt8) (n : Nat) : GroupWorld provider :=
  System.start.afterAll System.step ((receiveRun kind).take n)

/-- A removed member refuses an update, an outgoing and an incoming message. -/
theorem violated_handle_fails_closed_removed :
    ((received 1 2).state.step (.on 0 (.prepareEpochUpdate 0))).2.refused = true ∧
      ((received 1 2).state.step (.on 0 (.encryptApplicationMessage [7]))).2.refused = true ∧
      ((received 1 2).state.step (.on 0
        (.processMessage ⟨[0], by simp [maxMlsMessageBytes]⟩))).2.refused = true := by
  have hviolates : (received 1 1).state.violates 0
      (.processMessage ⟨[1], by simp [maxMlsMessageBytes]⟩) = true := by decide +kernel
  have hclosed := violated_handle_fails_closed (leads_afterAll (by decide +kernel)) hviolates
    (by decide +kernel) (.refl _)
  refine ⟨hclosed.2.2 _ ?_, hclosed.2.2 _ ?_, hclosed.2.2 _ ?_⟩
  · decide +kernel
  · decide +kernel
  · decide +kernel

/-- A re-initialized group goes on sending; a member that a commit of its peer removed removes
the peer, advances its epoch and is written to the store; a group whose roster breaks the policy
is written to the store; and after an Add with a result outside the policy the handle removes
the peer and advances its epoch. -/
theorem violated_handle_goes_on :
    let joined := System.start.afterAll System.step (addRun [0] ++ persistRun 0)
    let removed := joined.after System.step
      (.on 0 (.processMessage ⟨[1], by simp [maxMlsMessageBytes]⟩))
    let departed := removed.afterAll System.step
      ([.on 0 (.prepareRemovePeer 0), .on 0 .apply] ++ writeRun)
    let failed := System.start.afterAll System.step (addRun [1])
    let removal := failed.after System.step (.on 0 (.prepareRemovePeer 0))
    (received 2 1).state.violates 0 (.processMessage ⟨[2], by simp [maxMlsMessageBytes]⟩) = true ∧
      ((received 2 2).state.step (.on 0 (.encryptApplicationMessage [7]))).2.refused = false ∧
      joined.state.violates 0 (.processMessage ⟨[1], by simp [maxMlsMessageBytes]⟩) = true ∧
      (removed.state.handles 0).map (fun x => x.group.epoch) = some 1 ∧
      (departed.state.handles 0).map (fun x => x.group.epoch) = some 2 ∧
      removed.state.log.length = 1 ∧ departed.state.log.length = 2 ∧
      (received 3 1).state.violates 0 (.processMessage ⟨[3], by simp [maxMlsMessageBytes]⟩) = true ∧
      ((received 3 2).afterAll System.step writeRun).state.log.length = 1 ∧
      (System.start.afterAll System.step ((addRun [1]).take 2)).state.violates 0 .apply = true ∧
      (failed.state.step (.on 0 (.prepareRemovePeer 0))).2 = .prepared (.ok ()) ∧
      (failed.state.handles 0).map (fun x => x.group.epoch) = some 1 ∧
      ((removal.state.step (.on 0 .apply)).1.handles 0).map (fun x => x.group.epoch) =
        some 2 := by
  decide +kernel

end Runs

end SessionChat.Mls
