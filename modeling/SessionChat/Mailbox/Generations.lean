import SessionChat.Mailbox.Directory
import SessionChat.Mailbox.Uses

/-!
# Generations and rights of a lifecycle provider

Source: `crates/transport-conformance/src/lifecycle_provider.rs`.

A provider refines the directory of its generations, so the directory's order holds
in every run. From it: one active generation per continuity, growing generations,
retirement that stays, and rights that reach their own mailbox only.
-/

set_option autoImplicit false

namespace SessionChat.Mailbox.Provider

open Transition Transport DeterministicLifecycleProvider

/-! ## A provider refines its directory -/

def cellOf (mailbox : MailboxState) : Cell := ⟨mailbox.material, mailbox.retireAtUnixSeconds⟩

def directory (s : DeterministicLifecycleProvider) : Directory where
  cells := s.mailboxes.map cellOf
  active := s.active
  rotations := s.rotations
  next := s.nextMaterial.toNat

theorem map_cellOf_retire (binding : CursorBinding) (retireAt : Nat)
    (mailboxes : List MailboxState) : (retire binding retireAt mailboxes).map cellOf =
      retireCell binding retireAt (mailboxes.map cellOf) := by
  induction mailboxes with
  | nil => rfl
  | cons mailbox mailboxes ih =>
    simp only [retire, List.map_cons, retireCell]
    by_cases hbinding : mailbox.material.binding = binding
    · rw [if_pos hbinding, if_pos (show (cellOf mailbox).material.binding = binding from hbinding)]
      rfl
    · rw [if_neg hbinding, if_neg (show ¬(cellOf mailbox).material.binding = binding from hbinding),
        List.map_cons, ih]

variable {s : DeterministicLifecycleProvider}

theorem directory_withDeliveries (index : Fin s.mailboxes.length)
    (f : List StoredDelivery → List StoredDelivery) :
    (directory (s.withDeliveries index f)) = directory s := by
  have hcells : (s.withDeliveries index f).mailboxes.map cellOf = s.mailboxes.map cellOf := by
    refine List.ext_getElem? fun i => ?_
    simp only [withDeliveries, List.getElem?_map, List.getElem?_modify]
    split_ifs <;> rcases s.mailboxes[i]? with _ | mailbox <;> rfl
  simp only [directory, hcells]
  rfl

variable {authority : Capability .rotation} {contract : LifecycleProviderContract}
  {control : DispatchReading} {request : RotationRequest}

theorem checkRotation_ok {observation : DispatchObservation}
    (h : s.checkRotation contract authority request control = .ok observation) :
    control.wallNow = some observation.wallNowUnixSeconds ∧ s.scope = authority.scope ∧
      authority.binding = request.predecessor ∧
      ∃ mailbox ∈ s.mailboxes, mailbox.material.binding = authority.binding ∧
        mailbox.material.token .rotation = authority.token := by
  unfold checkRotation at h
  split at h
  · cases h
  case h_2 observation' hcheckpoint =>
    split_ifs at h with hpolicy hscope
    split at h
    · cases h
    case h_2 known hknown =>
      split_ifs at h with hauthority
      cases h
      obtain ⟨hbinding, htoken⟩ := not_or.mp hauthority
      have hfound := List.find?_some hknown
      refine ⟨checkpoint_ok hcheckpoint, not_not.mp hscope, not_not.mp hbinding, known,
        List.mem_of_find?_eq_some hknown, ?_, not_not.mp htoken⟩
      rw [not_not.mp hbinding]
      exact of_decide_eq_true hfound

variable {c : Call} {s' : DeterministicLifecycleProvider}

theorem Effect.turn {reply : Reply} (h : Effect s c reply s') :
    (directory s).Turn c.times (directory s') := by
  cases h with
  | same => exact .kept (Nat.le_refl _) s.nextMaterial.isLt
  | @drawn _ _ nextMaterial hgrows => exact .kept hgrows nextMaterial.isLt
  | @issued contract request control material nextMaterial result hdraw =>
    obtain ⟨hdrawn, hnext, hcontinuity⟩ := freshContinuity_ok hdraw
    have hissue : directory ((s.withMaterial nextMaterial).withMailbox material) =
        (directory s).issue material := by
      simp only [directory, withMailbox, withMaterial, List.map_append,
        hnext]
      rfl
    rw [hissue]
    exact .issued hdrawn hcontinuity (by simp only [directory]; omega)
  | @rotated contract authority request control observation activeIndex successor nextMaterial
      result hcheck hactive hdraw =>
      obtain ⟨hdrawn, hnext, hcontinuity, hgeneration⟩ := freshGeneration_ok hdraw
      have hrotate : directory ((s.withMaterial nextMaterial).withRotation
          (recordOf request successor) activeIndex observation.wallNowUnixSeconds) =
          (directory s).rotate (recordOf request successor) activeIndex
            observation.wallNowUnixSeconds := by
        simp only [directory, withRotation, withMaterial, List.map_append,
          map_cellOf_retire, hnext]
        rfl
      rw [hrotate]
      refine .rotated ?_ ?_ hdrawn hcontinuity ?_ (by simp only [directory]; omega)
      · simp only [Call.times, (checkRotation_ok hcheck).1, Option.toList_some,
          List.mem_singleton]
      · exact List.getElem?_eq_some_iff.mpr ⟨activeIndex.isLt, hactive⟩
      · simp only [recordOf, hgeneration]
        exact NonZero.toNat_successor request.successor
  | @deposited endpoint request control index delivery hdecide =>
    have hsame : directory (afterDeposit s index delivery) = directory s :=
      directory_withDeliveries index (· ++ [delivery])
    rw [hsame]
    exact .kept (Nat.le_refl _) s.nextMaterial.isLt
  | acknowledged =>
    rw [directory_withDeliveries]
    exact .kept (Nat.le_refl _) s.nextMaterial.isLt

/-! ## Runs with nondecreasing times -/

abbrev ProviderWorld := World DeterministicLifecycleProvider Call Reply

def clock (history : List (Event Call Reply)) : Nat :=
  (readings Call.times history).foldr max 0

/-- The call reads no time before the latest one. -/
def Admitted (w : ProviderWorld) (c : Call) : Prop := ∀ t ∈ c.times, clock w.history ≤ t
deriving Decidable

abbrev Later : ProviderWorld → ProviderWorld → Prop := Leads call Admitted

def ProviderRun (scope : Nat) (w : ProviderWorld) : Prop := Later ⟨.new scope, []⟩ w

theorem foldr_max_append (l l' : List Nat) :
    (l ++ l').foldr max 0 = max (l.foldr max 0) (l'.foldr max 0) := by
  induction l with
  | nil => simp
  | cons t l ih => simp only [List.cons_append, List.foldr_cons]; omega

theorem le_foldr_max {l : List Nat} {t : Nat} (h : t ∈ l) : t ≤ l.foldr max 0 := by
  induction l with
  | nil => exact absurd h List.not_mem_nil
  | cons head l ih =>
    rcases List.mem_cons.mp h with rfl | hmem
    · exact Nat.le_max_left _ _
    · exact Nat.le_trans (ih hmem) (Nat.le_max_right _ _)

theorem clock_append (history : List (Event Call Reply)) (event : Event Call Reply) :
    clock (history ++ [event]) = max (clock history) (event.call.times.foldr max 0) := by
  simp only [clock, readings, List.flatMap_append, List.flatMap_cons, List.flatMap_nil,
    List.append_nil, foldr_max_append]

theorem ordered_new (scope : Nat) : (directory (.new scope)).Ordered 0 where
  byte := (DeterministicLifecycleProvider.new scope).nextMaterial.isLt
  drawn _ h := absurd h List.not_mem_nil
  continuities _ h := absurd h List.not_mem_nil
  order := .nil
  generations := .nil
  activeOnce := .nil
  activeKnown _ h := absurd h List.not_mem_nil
  activeLatest _ h := absurd h List.not_mem_nil
  activeTotal _ h := absurd h List.not_mem_nil
  retired _ h := absurd h List.not_mem_nil

/-- A call keeps the directory ordered, at the latest time that was seen. -/
theorem Effect.ordered {s s' : DeterministicLifecycleProvider} {c : Call} {reply : Reply}
    {time : Nat} (heffect : Effect s c reply s') (h : (directory s).Ordered time) :
    (directory s').Ordered (max time (c.times.foldr max 0)) :=
  h.turn heffect.turn (Nat.le_max_left _ _)
    fun _ ht => Nat.le_trans (le_foldr_max ht) (Nat.le_max_right _ _)

variable {w : ProviderWorld}

theorem ordered_after (c : Call) (h : (directory w.state).Ordered (clock w.history)) :
    (directory (w.after call c).state).Ordered (clock (w.after call c).history) := by
  simp only [World.after, clock_append]
  exact (call_effect w.state c).ordered h

variable {w' : ProviderWorld}

theorem ordered_of_later (h : Later w w') (hw : (directory w.state).Ordered (clock w.history)) :
    (directory w'.state).Ordered (clock w'.history) :=
  h.invariant (I := fun v => (directory v.state).Ordered (clock v.history))
    (fun _ c _ hv => ordered_after c hv) hw

theorem ProviderRun.ordered {scope : Nat} (h : ProviderRun scope w) :
    (directory w.state).Ordered (clock w.history) :=
  ordered_of_later h (ordered_new scope)

/-! ## Rights -/

def Call.right? : Call → Option (Σ kind, Capability kind)
  | .issue _ _ _ => none
  | .rotate _ authority _ _ => some ⟨_, authority⟩
  | .deposit endpoint _ _ => some ⟨_, endpoint⟩
  | .poll authority _ _ => some ⟨_, authority⟩
  | .acknowledge authority _ _ => some ⟨_, authority⟩

/-- A deposit, a poll or an acknowledgement on the mailbox of this binding. -/
def Call.Uses (binding : CursorBinding) : Call → Prop
  | .issue _ _ _ | .rotate _ _ _ _ => False
  | .deposit endpoint _ _ => endpoint.binding = binding
  | .poll authority _ _ => authority.binding = binding
  | .acknowledge authority _ _ => authority.binding = binding

/-- The time such a call reads first. -/
def Call.firstTime : Call → Option Nat
  | .issue _ _ control | .rotate _ _ _ control => control.wallNow
  | .deposit _ _ control | .poll _ _ control | .acknowledge _ _ control => control.first.wallNow

variable {binding : CursorBinding}

/-- A successful use of a right has found its mailbox at the time it read first. -/
theorem usable_of_not_failed (huses : c.Uses binding) (h : ¬(call s c).2.Failed) :
    ∃ kind, ∃ right : Capability kind, ∃ reading index now,
      c.right? = some ⟨kind, right⟩ ∧ right.binding = binding ∧ c.firstTime = some now ∧
      Usable s right reading index now := by
  cases c with
  | issue | rotate => exact huses.elim
  | deposit endpoint request control =>
    simp only [call, depositNow] at h
    rcases hdecide : s.decideDeposit endpoint request control with
      error | ⟨deliveryId | ⟨index, delivery⟩⟩
    · rw [hdecide] at h
      exact absurd ⟨error, rfl⟩ h
    · obtain ⟨index, now, husable, -⟩ := decideDeposit_existing hdecide
      exact ⟨_, endpoint, control.first, index, now, rfl, huses, husable.time, husable⟩
    · obtain ⟨index, now, husable⟩ := (decideDeposit_fresh hdecide).first
      exact ⟨_, endpoint, control.first, index, now, rfl, huses, husable.time, husable⟩
  | poll authority request control =>
    simp only [call] at h
    rcases hpoll : s.pollNow authority request control with error | batch
    · rw [hpoll] at h
      exact absurd ⟨error, rfl⟩ h
    · obtain ⟨_, _, _, _, hpolls⟩ := pollNow_ok hpoll
      obtain ⟨index, now, husable, -⟩ := hpolls.first
      exact ⟨_, authority, control.first, index, now, rfl, huses, husable.time, husable⟩
  | acknowledge authority request control =>
    simp only [call, acknowledgeNow] at h
    rcases hcheck : s.checkAcknowledgement authority request control with error | last
    · rw [hcheck] at h
      exact absurd ⟨error, rfl⟩ h
    · obtain ⟨⟨index, now, husable⟩, -⟩ := checkAcknowledgement_ok hcheck
      exact ⟨_, authority, control.first, index, now, rfl, huses, husable.time, husable⟩

/-! ## Retirement -/

variable {time : Nat}

theorem materials_directory (s : DeterministicLifecycleProvider) :
    (directory s).materials = s.mailboxes.map MailboxState.material := by
  simp only [directory, Directory.materials, List.map_map]
  rfl

theorem mailbox_unique (h : (directory s).Ordered time) {m m' : MailboxState}
    (hm : m ∈ s.mailboxes) (hm' : m' ∈ s.mailboxes)
    (heq : m.material.binding = m'.material.binding) : m = m' := by
  have hdistinct : (s.mailboxes.map fun m => m.material.binding).Nodup := by
    have horder := h.order
    rw [materials_directory, List.pairwise_map] at horder
    exact List.pairwise_map.mpr (horder.imp fun hab => hab.binding_ne)
  exact List.inj_on_of_nodup_map hdistinct hm hm' heq

variable {record : RotationRecord}

/-- A generation that was rotated is not usable once its retirement is reached. -/
theorem failed_of_retired (h : (directory s).Ordered time) (hrecord : record ∈ s.rotations)
    (huses : c.Uses record.predecessor)
    (hroutine : ∀ drain, record.mode = .routine drain → ∀ t ∈ c.firstTime, drain ≤ t)
    (hcompromise : record.mode = .compromise → ∀ t ∈ c.firstTime, time ≤ t) :
    (call s c).2.Failed := by
  by_contra hnot
  obtain ⟨kind, right, reading, index, now, -, hbinding, hfirst, husable⟩ :=
    usable_of_not_failed huses hnot
  obtain ⟨cell, hcell, hpredecessor, retireAt, hretireAt, hdrain, hclock⟩ :=
    (h.retired record hrecord).cell
  obtain ⟨mailbox, hmailbox, rfl⟩ := List.mem_map.mp hcell
  have hsame : s.mailboxes.get index = mailbox :=
    mailbox_unique h (List.getElem_mem _) hmailbox
      (husable.binding.trans (hbinding.trans hpredecessor.symm))
  have hbefore : now < retireAt := husable.unretired retireAt (by rw [hsame]; exact hretireAt)
  cases hmode : record.mode with
  | routine drain =>
    have hle := hroutine drain hmode now hfirst
    rw [hdrain drain hmode] at hbefore
    omega
  | compromise =>
    have hle := hcompromise hmode now hfirst
    have hretired := hclock hmode
    omega

theorem firstTime_mem_times {t : Nat} (h : t ∈ c.firstTime) : t ∈ c.times := by
  cases c with
  | issue | rotate => exact Option.mem_toList.mpr h
  | deposit | poll | acknowledge => exact List.mem_append_left _ (Option.mem_toList.mpr h)

variable {result : MailboxRotationResult}

theorem swapGeneration_ok {now : Nat} (h : (s.swapGeneration request now).2 = .ok result) :
    ∃ successor,
      (s.swapGeneration request now).1.rotations = s.rotations ++ [recordOf request successor] ∧
        MailboxRotationResult.new s.contract request (authorities successor s.scope) now =
          .ok result := by
  simp only [swapGeneration] at h ⊢
  rcases hindex : s.active.findFinIdx? (·.continuityId = request.predecessor.continuityId) with
    _ | activeIndex <;> simp only [hindex] at h ⊢
  · cases h
  split_ifs at h ⊢
  rcases hdraw : (freshGeneration s.contract request.predecessor.bindingFingerprint
    request.predecessor.continuityId request.successorGeneration
    request.successorExpiresAtUnixSeconds).run s.nextMaterial with
    ⟨error | successor, nextMaterial⟩ <;> simp only [hdraw] at h ⊢
  · cases h
  rcases hresult : MailboxRotationResult.new s.contract request (authorities successor s.scope)
    now with error | result' <;> simp only [hresult] at h ⊢
  · cases h
  · cases h
    exact ⟨successor, rfl, hresult⟩

/-- A rotation that succeeds leaves, or finds, the record of its predecessor. -/
theorem record_of_rotated
    (h : (call s (.rotate contract authority request control)).2 = .rotated (.ok result)) :
    ∃ record ∈ (call s (.rotate contract authority request control)).1.rotations,
      record.predecessor = request.predecessor ∧ record.mode = request.mode := by
  simp only [call, rotateNow] at h ⊢
  rcases hcheck : s.checkRotation contract authority request control with error | observation <;>
    simp only [hcheck] at h ⊢
  · cases h
  rcases hfind : s.rotations.find? (·.rotationId = request.rotationId) with _ | record <;>
    simp only [hfind] at h ⊢
  · obtain ⟨successor, hrotations, -⟩ := swapGeneration_ok (Reply.rotated.inj h)
    rw [hrotations]
    exact ⟨_, List.mem_append_right _ List.mem_cons_self, rfl, rfl⟩
  · simp only [retryRotation] at h
    split_ifs at h with hconflict
    · cases h
    · simp only [not_or, not_not] at hconflict
      exact ⟨record, List.mem_of_find?_eq_some hfind, hconflict.1, hconflict.2.1⟩

/-! ## Stale rotations -/

/-- The request repeats the rotation of the record. -/
def Repeats (request : RotationRequest) (record : RotationRecord) : Prop :=
  record.rotationId = request.rotationId ∧ record.predecessor = request.predecessor ∧
    record.mode = request.mode ∧
    record.successorExpiresAtUnixSeconds = request.successorExpiresAtUnixSeconds

theorem not_active_of_rotated (h : (directory s).Ordered time) (hrecord : record ∈ s.rotations) :
    record.predecessor ∉ s.active := by
  intro hactive
  obtain ⟨b, hb, hcontinuity, hlt⟩ := (h.retired record hrecord).superseded
  rw [h.active_eq hb hactive hcontinuity] at hlt
  exact absurd hlt (Nat.lt_irrefl _)

theorem swapGeneration_stale {now : Nat} (hstale : request.predecessor ∉ s.active) :
    s.swapGeneration request now = (s, .error (failure .authorityScopeMismatch)) := by
  unfold swapGeneration
  split
  · rfl
  case h_2 activeIndex hindex =>
    have hne : s.active[activeIndex] ≠ request.predecessor :=
      fun heq => hstale (heq ▸ List.getElem_mem _)
    exact if_pos hne

/-- A rotation of a generation that is not active, and no exact retry, changes nothing. -/
theorem stale_rotation (hstale : request.predecessor ∉ s.active)
    (hfresh : ∀ record ∈ s.rotations, ¬Repeats request record) :
    ∃ error, s.rotateNow contract authority request control = (s, .error error) := by
  unfold rotateNow
  split
  · exact ⟨_, rfl⟩
  · split
    case h_1 record hfind =>
      have hid : record.rotationId = request.rotationId := by
        simpa using List.find?_some hfind
      have hconflict : record.predecessor ≠ request.predecessor ∨ record.mode ≠ request.mode ∨
          record.successorExpiresAtUnixSeconds ≠ request.successorExpiresAtUnixSeconds := by
        by_contra hsame
        simp only [not_or, not_not] at hsame
        exact hfresh record (List.mem_of_find?_eq_some hfind) ⟨hid, hsame⟩
      exact ⟨_, congrArg (Prod.mk s) (if_pos hconflict)⟩
    case h_2 => exact ⟨_, swapGeneration_stale hstale⟩

/-! ## A right reaches its own mailbox only -/

theorem right_valid {kind : RightKind} {right : Capability kind}
    (hright : c.right? = some ⟨kind, right⟩) (h : ¬(call s c).2.Failed) :
    s.scope = right.scope ∧ ∃ mailbox ∈ s.mailboxes,
      mailbox.material.binding = right.binding ∧ mailbox.material.token kind = right.token := by
  have huse : ∀ binding : CursorBinding, c.Uses binding → s.scope = right.scope ∧
      ∃ mailbox ∈ s.mailboxes, mailbox.material.binding = right.binding ∧
        mailbox.material.token kind = right.token := by
    intro binding huses
    obtain ⟨kind', right', reading, index, now, hsome, -, -, husable⟩ :=
      usable_of_not_failed huses h
    cases hright.symm.trans hsome
    exact ⟨husable.scope, _, List.getElem_mem _, husable.binding, husable.token⟩
  cases c with
  | issue => cases hright
  | rotate contract authority request control =>
    cases hright
    rcases hcheck : s.checkRotation contract authority request control with error | observation
    · simp only [call, rotateNow, hcheck] at h
      exact absurd ⟨error, rfl⟩ h
    · obtain ⟨-, hscope, -, hmailbox⟩ := checkRotation_ok hcheck
      exact ⟨hscope, hmailbox⟩
  | deposit endpoint request control => exact huse endpoint.binding rfl
  | poll authority request control => exact huse authority.binding rfl
  | acknowledge authority request control => exact huse authority.binding rfl

variable {mailbox : MailboxState}

theorem getElem?_retire_of_ne {mailboxes : List MailboxState} (retireAt : Nat) {i : Nat}
    (hget : mailboxes[i]? = some mailbox) (hne : mailbox.material.binding ≠ binding) :
    (retire binding retireAt mailboxes)[i]? = some mailbox := by
  induction mailboxes generalizing i with
  | nil => cases hget
  | cons head mailboxes ih =>
    simp only [retire]
    cases i with
    | zero =>
      obtain rfl : head = mailbox := Option.some.inj hget
      rw [if_neg hne]
      rfl
    | succ i =>
      split_ifs
      · exact hget
      · exact ih hget

theorem getElem?_withDeliveries_of_ne {index : Fin s.mailboxes.length}
    {f : List StoredDelivery → List StoredDelivery} {i : Nat}
    (hget : s.mailboxes[i]? = some mailbox)
    (hne : (s.mailboxes.get index).material.binding ≠ mailbox.material.binding) :
    (s.withDeliveries index f).mailboxes[i]? = some mailbox := by
  have hindex : index.val ≠ i := by
    rintro rfl
    refine hne ?_
    obtain ⟨hlt, heq⟩ := List.getElem?_eq_some_iff.mp hget
    rw [← heq]
    rfl
  simp only [withDeliveries, List.getElem?_modify, if_neg hindex]
  rw [hget]
  rfl

/-- Mailboxes other than the one of the presented right stay as they are. -/
theorem other_mailboxes_kept (c : Call) {i : Nat} (hget : s.mailboxes[i]? = some mailbox)
    (hother : ∀ right ∈ c.right?, mailbox.material.binding ≠ right.2.binding) :
    (call s c).1.mailboxes[i]? = some mailbox := by
  have heffect := call_effect s c
  generalize (call s c).1 = s' at heffect ⊢
  generalize (call s c).2 = reply at heffect
  have hlt : i < s.mailboxes.length := (List.getElem?_eq_some_iff.mp hget).1
  cases heffect with
  | same | drawn => exact hget
  | issued => exact (List.getElem?_append_left hlt).trans hget
  | @rotated contract authority request control observation activeIndex successor nextMaterial
      result hcheck hactive hdraw =>
      have hne : mailbox.material.binding ≠ request.predecessor := by
        rw [← (checkRotation_ok hcheck).2.2.1]
        exact hother _ rfl
      have hkept := getElem?_retire_of_ne
        (retirement request.mode observation.wallNowUnixSeconds) hget hne
      exact (List.getElem?_append_left (List.getElem?_eq_some_iff.mp hkept).1).trans hkept
  | @deposited endpoint request control index delivery hdecide =>
    obtain ⟨now, husable⟩ := (decideDeposit_fresh hdecide).last
    change (s.withDeliveries index (· ++ [delivery])).mailboxes[i]? = some mailbox
    refine getElem?_withDeliveries_of_ne hget ?_
    rw [husable.binding]
    exact (hother _ rfl).symm
  | @acknowledged authority request control index hcheck =>
    obtain ⟨-, ⟨now, husable⟩, -⟩ := checkAcknowledgement_ok hcheck
    refine getElem?_withDeliveries_of_ne hget ?_
    rw [husable.binding]
    exact (hother _ rfl).symm

/-- The position of a token within the material of its generation. -/
def offset : RightKind → Nat
  | .deposit => 1
  | .receive => 2
  | .acknowledgement => 3
  | .rotation => 4

theorem token_of_drawnAt {material : GenerationMaterial} {base : Nat}
    (h : material.DrawnAt base) (kind : RightKind) :
    material.token kind = filled 32 (base + offset kind) := by
  cases kind
  · exact h.deposit
  · exact h.receive
  · exact h.acknowledgement
  · exact h.rotation

theorem offset_bounds (kind : RightKind) : 1 ≤ offset kind ∧ offset kind ≤ 4 := by
  cases kind <;> decide

theorem offset_injective {kind kind' : RightKind} (h : offset kind = offset kind') :
    kind = kind' := by
  cases kind <;> cases kind' <;> first | rfl | exact absurd h (by decide)

/-- A token belongs to one kind of right of one generation. -/
theorem token_unique (h : (directory s).Ordered time) {a b : MailboxState}
    (ha : a ∈ s.mailboxes) (hb : b ∈ s.mailboxes) {kind kind' : RightKind}
    (heq : a.material.token kind = b.material.token kind') :
    a.material.binding = b.material.binding ∧ kind = kind' := by
  have hmem : ∀ m ∈ s.mailboxes, m.material ∈ (directory s).materials := fun m hm => by
    rw [materials_directory]
    exact List.mem_map_of_mem hm
  have hkind := offset_bounds kind
  have hkind' := offset_bounds kind'
  have hbyte := h.byte
  by_cases hsame : a.material = b.material
  · obtain ⟨base, hdrawn, hbound⟩ := h.drawn _ (hmem a ha)
    rw [← hsame, token_of_drawnAt hdrawn, token_of_drawnAt hdrawn] at heq
    have hoffset := filled_injective (by decide) (by omega) (by omega) heq
    exact ⟨by rw [hsame], offset_injective (by omega)⟩
  · have hapart : ∀ a b, Directory.Before a b → ∀ k k', a.token k ≠ b.token k' := by
      rintro a b ⟨i, j, hi, hj, hij, hbound⟩ k k' heq
      have hk := offset_bounds k
      have hk' := offset_bounds k'
      rw [token_of_drawnAt hi, token_of_drawnAt hj] at heq
      have hoffset := filled_injective (by decide) (by omega) (by omega) heq
      omega
    have hsymm : Std.Symm fun a b : GenerationMaterial => ∀ k k', a.token k ≠ b.token k' :=
      ⟨fun a b hab k k' heq => hab k' k heq.symm⟩
    exact absurd heq ((h.order.imp fun {a b} hab => hapart a b hab).forall (hmem a ha) (hmem b hb)
      hsame kind kind')

/-- A poll returns deliveries of the mailbox its right names. -/
theorem polled_from_mailbox {authority : Capability .receive} {request : PollRequest}
    {control : DispatchControl} {batch : ReceiveBatch}
    (h : s.pollNow authority request control = .ok batch) :
    ∃ mailbox ∈ s.mailboxes, mailbox.material.binding = authority.binding ∧
      ∀ item ∈ batch.items, ∃ delivery ∈ mailbox.deliveries, Received delivery item := by
  obtain ⟨index, requestedCursor, lastCursor, now, hpolls⟩ := pollNow_ok h
  obtain ⟨lastNow, husable⟩ := hpolls.last
  refine ⟨(s.mailboxes.get index), List.getElem_mem _, husable.binding, ?_⟩
  obtain ⟨taken, added, htaken, hreceived, hitems, -⟩ := collect_ok hpolls.collected
  intro item hitem
  rw [hitems, List.nil_append] at hitem
  obtain ⟨i, hi, rfl⟩ := List.mem_iff_getElem.mp hitem
  have hlength := hreceived.length_eq
  refine ⟨taken[i], (List.mem_filter.mp (htaken.subset (List.getElem_mem _))).1, ?_⟩
  exact hreceived.get (by omega) hi

/-! ## Safety of generations -/

/-- Nothing but the material counter may have changed. -/
structure SameBooks (s s' : DeterministicLifecycleProvider) : Prop where
  mailboxes : s'.mailboxes = s.mailboxes
  active : s'.active = s.active
  rotations : s'.rotations = s.rotations

theorem Effect.books_of_failed {reply : Reply} (h : Effect s c reply s') (hfailed : reply.Failed) :
    SameBooks s s' := by
  cases h with
  | same | drawn => exact ⟨rfl, rfl, rfl⟩
  | _ =>
    obtain ⟨error, herror⟩ := hfailed
    cases herror

def generation (mailbox : MailboxState) : Nat := mailbox.material.binding.generation.val.toNat

def SameContinuity (a b : MailboxState) : Prop :=
  a.material.binding.continuityId = b.material.binding.continuityId

/-- What holds whenever a run with nondecreasing times has reached `w`. -/
structure GenerationSafe (w : ProviderWorld) : Prop where
  /-- A continuity has one active generation; it is its newest one. -/
  one_active : ∀ mailbox ∈ w.state.mailboxes,
    (w.state.active.map CursorBinding.continuityId).count
      mailbox.material.binding.continuityId = 1
  active_newest : ∀ binding ∈ w.state.active, ∃ mailbox ∈ w.state.mailboxes,
    mailbox.material.binding = binding ∧ ∀ other ∈ w.state.mailboxes,
      SameContinuity other mailbox → generation other ≤ generation mailbox
  /-- Generations grow in the order they are made, and none is ever removed. -/
  generations_grow : w.state.mailboxes.Pairwise fun a b =>
    SameContinuity a b → generation a < generation b
  generations_stay : ∀ w', Later w w' →
    w.state.mailboxes.map MailboxState.material <+: w'.state.mailboxes.map MailboxState.material
  /-- A rotated generation is refused from the end of its drain on. -/
  routine_retires : ∀ contract authority request control result drain,
    (call w.state (.rotate contract authority request control)).2 = .rotated (.ok result) →
    request.mode = .routine drain →
    ∀ w', Later (w.after call (.rotate contract authority request control)) w' →
    ∀ c, c.Uses request.predecessor → (∀ t ∈ c.firstTime, drain ≤ t) → (call w'.state c).2.Failed
  /-- After a compromise it is refused at once. -/
  compromise_retires : ∀ contract authority request control result,
    (call w.state (.rotate contract authority request control)).2 = .rotated (.ok result) →
    request.mode = .compromise →
    ∀ w', Later (w.after call (.rotate contract authority request control)) w' →
    ∀ c, Admitted w' c → c.Uses request.predecessor → (call w'.state c).2.Failed
  /-- Another rotation of a rotated generation fails and changes nothing; only an exact retry
  of the recorded one is answered. -/
  stale_rejected : ∀ contract authority request control,
    (∃ record ∈ w.state.rotations, record.predecessor = request.predecessor) →
    (∀ record ∈ w.state.rotations, ¬Repeats request record) →
    ∃ error, w.state.rotateNow contract authority request control = (w.state, .error error)
  /-- A right that is accepted is the one this provider issued for the mailbox of its binding. -/
  right_issued : ∀ (c : Call) kind (right : Capability kind), c.right? = some ⟨kind, right⟩ →
    ¬(call w.state c).2.Failed → w.state.scope = right.scope ∧
    ∃ mailbox ∈ w.state.mailboxes, mailbox.material.binding = right.binding ∧
      mailbox.material.token kind = right.token
  token_once : ∀ a ∈ w.state.mailboxes, ∀ b ∈ w.state.mailboxes, ∀ kind kind',
    a.material.token kind = b.material.token kind' →
    a.material.binding = b.material.binding ∧ kind = kind'
  /-- It changes no other mailbox, and a poll returns nothing of another. -/
  others_kept : ∀ (c : Call) (i : Nat) (mailbox : MailboxState),
    w.state.mailboxes[i]? = some mailbox →
    (∀ right ∈ c.right?, mailbox.material.binding ≠ right.2.binding) →
    (call w.state c).1.mailboxes[i]? = some mailbox
  poll_own : ∀ authority request control batch,
    w.state.pollNow authority request control = .ok batch →
    ∃ mailbox ∈ w.state.mailboxes, mailbox.material.binding = authority.binding ∧
      ∀ item ∈ batch.items, ∃ delivery ∈ mailbox.deliveries, Received delivery item
  /-- A failed call changes no mailbox, no active generation and no record. -/
  failure_harmless : ∀ c, (call w.state c).2.Failed → SameBooks w.state (call w.state c).1

/-- What later calls keep of a provider. -/
structure Extends (s s' : DeterministicLifecycleProvider) : Prop where
  contract : s'.contract = s.contract
  scope : s'.scope = s.scope
  materials : s.mailboxes.map MailboxState.material <+: s'.mailboxes.map MailboxState.material
  rotations : s.rotations <+: s'.rotations

theorem extends_call (s : DeterministicLifecycleProvider) (c : Call) : Extends s (call s c).1 := by
  have heffect := call_effect s c
  have hturn := heffect.turn.extends
  rw [materials_directory, materials_directory] at hturn
  have hsame : (call s c).1.contract = s.contract ∧ (call s c).1.scope = s.scope := by
    generalize (call s c).1 = s' at heffect ⊢
    generalize (call s c).2 = reply at heffect
    cases heffect <;> exact ⟨rfl, rfl⟩
  exact ⟨hsame.1, hsame.2, hturn.1, hturn.2⟩

theorem Extends.trans {s'' : DeterministicLifecycleProvider} (h : Extends s s')
    (h' : Extends s' s'') : Extends s s'' where
  contract := h'.contract.trans h.contract
  scope := h'.scope.trans h.scope
  materials := h.materials.trans h'.materials
  rotations := h.rotations.trans h'.rotations

theorem extends_of_leads {A : ProviderWorld → Call → Prop} (h : Leads call A w w') :
    Extends w.state w'.state := by
  refine h.invariant (I := fun v => Extends w.state v.state) ?_
    ⟨rfl, rfl, List.prefix_refl _, List.prefix_refl _⟩
  intro v c _ hv
  exact hv.trans (extends_call v.state c)

theorem generation_safe {scope : Nat} {w : ProviderWorld} (h : ProviderRun scope w) :
    GenerationSafe w where
  one_active mailbox hmailbox := by
    have hmem : mailbox.material ∈ (directory w.state).materials := by
      rw [materials_directory]
      exact List.mem_map_of_mem hmailbox
    obtain ⟨b, hb, hcontinuity⟩ := h.ordered.activeTotal _ hmem
    refine List.count_eq_one_of_mem h.ordered.activeOnce ?_
    rw [← hcontinuity]
    exact List.mem_map_of_mem hb
  active_newest binding hactive := by
    have hknown := h.ordered.activeKnown binding hactive
    have hlatest := h.ordered.activeLatest binding hactive
    rw [materials_directory] at hknown hlatest
    obtain ⟨material, hmaterial, rfl⟩ := hknown
    obtain ⟨mailbox, hmailbox, rfl⟩ := List.mem_map.mp hmaterial
    refine ⟨mailbox, hmailbox, rfl, ?_⟩
    intro other hother hsame
    exact hlatest _ (List.mem_map_of_mem hother) hsame
  generations_grow := by
    have hgrows := h.ordered.generations
    rw [materials_directory, List.pairwise_map] at hgrows
    exact hgrows
  generations_stay _ hlater := (extends_of_leads hlater).materials
  routine_retires contract authority request control result drain hok hmode w' hlater c huses
      htime := by
    obtain ⟨record, hrecord, hpredecessor, hrecorded⟩ := record_of_rotated hok
    have hordered := ordered_of_later hlater (ordered_after _ h.ordered)
    refine failed_of_retired hordered ((extends_of_leads hlater).rotations.subset hrecord)
      (by rwa [hpredecessor]) ?_ ?_
    · intro drain' hdrain
      cases hdrain.symm.trans (hrecorded.trans hmode)
      exact htime
    · intro hcompromise
      exact absurd (hcompromise.symm.trans (hrecorded.trans hmode)) (by simp)
  compromise_retires contract authority request control result hok hmode w' hlater c hadmitted
      huses := by
    obtain ⟨record, hrecord, hpredecessor, hrecorded⟩ := record_of_rotated hok
    have hordered := ordered_of_later hlater (ordered_after _ h.ordered)
    refine failed_of_retired hordered ((extends_of_leads hlater).rotations.subset hrecord)
      (by rwa [hpredecessor]) ?_ ?_
    · intro drain hdrain
      exact absurd (hdrain.symm.trans (hrecorded.trans hmode)) (by simp)
    · exact fun _ t ht => hadmitted t (firstTime_mem_times ht)
  stale_rejected contract authority request control hrotated hfresh := by
    obtain ⟨record, hrecord, hpredecessor⟩ := hrotated
    refine stale_rotation ?_ hfresh
    rw [← hpredecessor]
    exact not_active_of_rotated h.ordered hrecord
  right_issued _ _ _ hright hok := right_valid hright hok
  token_once a ha b hb _ _ heq := token_unique h.ordered ha hb heq
  others_kept c _ _ hget hother := other_mailboxes_kept c hget hother
  poll_own _ _ _ _ hpoll := polled_from_mailbox hpoll
  failure_harmless c hfailed := (call_effect w.state c).books_of_failed hfailed

def sampleBudget : OperationBudget := ⟨100, 4 * 1024 * 1024, 1, by decide⟩

/-- Clocks that read the given wall time before the deadline. -/
def sampleReading (now : Nat) : DispatchReading := ⟨false, 0, some now⟩

theorem sampleFingerprint_ne_zero : (1 : BitVec 256) ≠ 0 := by decide

theorem sampleExpiry_ne_zero : 1000 ≠ 0 := by decide

def sampleIssue : Call :=
  .issue (DeterministicLifecycleProvider.new 0).contract
    ⟨.fastV1, ⟨1, sampleFingerprint_ne_zero⟩, 1000, sampleBudget,
      DeterministicLifecycleProvider.fastV1_supported, sampleExpiry_ne_zero⟩ (sampleReading 10)

theorem sampleContinuity_ne_zero : filled 16 1 ≠ 0 := by decide +kernel

theorem sampleScope_ne_zero : filled 32 2 ≠ 0 := by decide +kernel

/-- The first generation a new provider issues. -/
def sampleGeneration : CursorBinding where
  profile := .fastV1
  bindingFingerprint := ⟨1, sampleFingerprint_ne_zero⟩
  continuityId := ⟨filled 16 1, sampleContinuity_ne_zero⟩
  generation := ⟨1, providerStateEpochV1_ne_zero⟩
  receiveScope := ⟨filled 32 2, sampleScope_ne_zero⟩
  cursorSchema := ⟨2, DeterministicLifecycleProvider.cursorSchemaV2_ne_zero⟩
  providerStateEpoch := providerStateEpochV1
  expiresAtUnixSeconds := 1000
  supported := DeterministicLifecycleProvider.fastV1_supported
  expires := sampleExpiry_ne_zero

theorem sampleRotation_ne_zero : (1 : BitVec 128) ≠ 0 := by decide

theorem secondGeneration_ne_zero : (2 : BitVec 64) ≠ 0 := by decide

def sampleRotation : Call :=
  .rotate (DeterministicLifecycleProvider.new 0).contract ⟨0, sampleGeneration, filled 32 6⟩
    { rotationId := ⟨1, sampleRotation_ne_zero⟩
      predecessor := sampleGeneration
      successorGeneration := ⟨2, secondGeneration_ne_zero⟩
      mode := .compromise
      successorExpiresAtUnixSeconds := 1000
      budget := sampleBudget
      expires := sampleExpiry_ne_zero
      within := trivial
      successor := rfl } (sampleReading 11)

/-- A mailbox is issued and its generation is replaced after a compromise. -/
theorem generation_safe_rotated :
    let w := World.afterAll call ⟨.new 0, []⟩ [sampleIssue, sampleRotation]
    w.state.rotations.length = 1 ∧ GenerationSafe w := by
  intro w
  refine ⟨by decide +kernel, ?_⟩
  have hrun : ProviderRun 0 w := leads_afterAll (by decide +kernel)
  exact generation_safe hrun

end SessionChat.Mailbox.Provider
