import SessionChat.Mailbox.Generations

/-!
# Retries of a rotation (`crates/transport-conformance/src/lifecycle_provider.rs`)

A provider answers a rotation identifier it has recorded with the recorded successor, however many
rotations have followed. It validates a repeated request against the clock first, so a routine
rotation can be repeated until the end of its drain.
-/

set_option autoImplicit false

namespace SessionChat.Mailbox

open Transition Transport

/-! ## What the request and the result are checked for -/

/-- The time is before the end of the drain that a routine rotation asks for. -/
def RotationMode.OpenAt (nowUnixSeconds : Nat) (mode : RotationMode) : Prop :=
  ∀ drain, mode = .routine drain → nowUnixSeconds < drain

/-- The bounds on the time of a rotation request. -/
structure RotationRequest.Timely (request : RotationRequest) (maximumDrain now : Nat) : Prop where
  started : now ≠ 0
  predecessor : now < request.predecessor.expiresAtUnixSeconds
  successor : now < request.successorExpiresAtUnixSeconds
  drain : request.mode.OpenAt now
  bounded : ∀ drain, request.mode = .routine drain → drain - now ≤ maximumDrain

variable {contract : LifecycleProviderContract} {request : RotationRequest} {now : Nat}

theorem validateRotationRequest_ok_iff : contract.validateRotationRequest request now = .ok () ↔
      request.Timely contract.maximumRoutineDrainSeconds now ∧
        request.predecessor.profile = contract.profile ∧
        request.predecessor.cursorSchema = contract.cursorSchema := by
  unfold LifecycleProviderContract.validateRotationRequest
  constructor
  · intro h
    split_ifs at h with hrefused
    simp only [not_or, Nat.not_le, not_not] at hrefused
    obtain ⟨hstarted, hpredecessor, hsuccessor, hprofile, hschema⟩ := hrefused
    refine ⟨⟨hstarted, hpredecessor, hsuccessor, ?_, ?_⟩, hprofile, hschema⟩
    all_goals
      intro drain hmode
      rw [hmode] at h
      simp only at h
      split_ifs at h with hdrain
      omega
  · rintro ⟨htimely, hprofile, hschema⟩
    have hlive := htimely.predecessor
    have hlast := htimely.successor
    rw [if_neg (by simp [htimely.started, hlive, hlast, hprofile, hschema])]
    cases hmode : request.mode with
    | compromise => rfl
    | routine drain =>
      have hopen := htimely.drain drain hmode
      have hbounded := htimely.bounded drain hmode
      exact if_neg (by omega)

/-- The returned authorities are those of the successor that was asked for. -/
structure Succeeds (contract : LifecycleProviderContract) (request : RotationRequest)
    (successor : CursorBinding) : Prop where
  profile : successor.profile = contract.profile
  bindingFingerprint : successor.bindingFingerprint = request.predecessor.bindingFingerprint
  continuityId : successor.continuityId = request.predecessor.continuityId
  generation : successor.generation = request.successorGeneration
  receiveScope : successor.receiveScope ≠ request.predecessor.receiveScope
  cursorSchema : successor.cursorSchema = request.predecessor.cursorSchema
  providerStateEpoch : successor.providerStateEpoch = request.predecessor.providerStateEpoch
  expires : successor.expiresAtUnixSeconds = request.successorExpiresAtUnixSeconds

theorem MailboxRotationResult.new_ok_iff {authorities : MailboxAuthoritySet}
    {result : MailboxRotationResult} :
    MailboxRotationResult.new contract request authorities now = .ok result ↔
      contract.validateRotationRequest request now = .ok () ∧
        Succeeds contract request authorities.binding ∧
        result = ⟨contract, request.rotationId, request.predecessor.generation, request.mode,
          authorities⟩ := by
  unfold MailboxRotationResult.new
  rcases hvalid : contract.validateRotationRequest request now with error | ⟨⟩
  · constructor
    · intro h
      cases h
    · rintro ⟨h, -⟩
      cases h
  · simp only [Control.bind_eq_ok, exists_const, true_and]
    constructor
    · intro h
      split_ifs at h with hrefused
      simp only [not_or, not_not] at hrefused
      obtain ⟨hprofile, hfingerprint, hcontinuity, hgeneration, hscope, hschema, hepoch,
        hexpires⟩ := hrefused
      cases h
      exact ⟨⟨hprofile, hfingerprint, hcontinuity, hgeneration, hscope, hschema, hepoch,
        hexpires⟩, rfl⟩
    · rintro ⟨h, rfl⟩
      simp [h.profile, h.bindingFingerprint, h.continuityId, h.generation, h.receiveScope,
        h.cursorSchema, h.providerStateEpoch, h.expires]

/-! ## A completed rotation -/

namespace Provider

open DeterministicLifecycleProvider

variable {s s' : DeterministicLifecycleProvider} {contract : LifecycleProviderContract}
  {authority : Capability .rotation} {request request' : RotationRequest}
  {control control' : DispatchReading} {observation observation' : DispatchObservation}
  {result : MailboxRotationResult}

/-- The right names the generation that the request replaces, and its token is known. -/
structure Entitled (s : DeterministicLifecycleProvider) (contract : LifecycleProviderContract)
    (authority : Capability .rotation) (request : RotationRequest) : Prop where
  contract : contract = s.contract
  scope : s.scope = authority.scope
  binding : authority.binding = request.predecessor
  token : ∃ material, (s.mailboxes.map MailboxState.material).find?
    (·.binding = request.predecessor) = some material ∧ material.rotation = authority.token

theorem checkRotation_ok_iff :
    s.checkRotation contract authority request control = .ok observation ↔
      control.checkpoint request.budget = .ok observation ∧ Entitled s contract authority request ∧
        s.contract.validateRotationRequest request observation.wallNowUnixSeconds = .ok () := by
  have hmaterial : (s.mailboxes.map MailboxState.material).find?
      (·.binding = request.predecessor) =
      (s.mailboxes.find? (·.material.binding = request.predecessor)).map MailboxState.material := by
    rw [List.find?_map]
    rfl
  unfold checkRotation
  rcases hcheckpoint : control.checkpoint request.budget with error | found
  · constructor
    · intro h
      cases h
    · rintro ⟨h, -⟩
      cases h
  · simp only
    constructor
    · intro h
      split_ifs at h with hpolicy hscope
      split at h
      · cases h
      case h_2 known hknown =>
        split_ifs at h with hauthority
        cases h
        simp only [not_or, not_not] at hpolicy hauthority
        have hvalid : s.contract.validateRotationRequest request
            observation.wallNowUnixSeconds = .ok () := by
          rcases hv : s.contract.validateRotationRequest request
            observation.wallNowUnixSeconds with error | ⟨⟩
          · rw [hv] at hpolicy
            cases hpolicy.2
          · rfl
        refine ⟨rfl, ⟨hpolicy.1, not_not.mp hscope, hauthority.1, known.material, ?_,
          hauthority.2⟩, hvalid⟩
        rw [hmaterial, hknown]
        rfl
    · rintro ⟨hsame, hentitled, hvalid⟩
      cases hsame
      obtain ⟨material, hfind, htoken⟩ := hentitled.token
      rw [hmaterial, Option.map_eq_some_iff] at hfind
      obtain ⟨known, hknown, rfl⟩ := hfind
      have hpolicy : ¬(contract ≠ s.contract ∨ ¬(s.contract.validateRotationRequest request
          observation.wallNowUnixSeconds).isOk) := by
        rw [hvalid]
        simp [hentitled.contract, Except.toBool]
      have hauthority : ¬(authority.binding ≠ request.predecessor ∨
          known.material.rotation ≠ authority.token) := by
        simp [hentitled.binding, htoken]
      rw [if_neg hpolicy, if_neg (not_not.mpr hentitled.scope), hknown]
      simp only
      rw [if_neg hauthority]

/-- The rotation is recorded, and the result is made from its record. -/
structure Completed (s : DeterministicLifecycleProvider) (contract : LifecycleProviderContract)
    (authority : Capability .rotation) (request : RotationRequest)
    (result : MailboxRotationResult) : Prop where
  entitled : Entitled s contract authority request
  recorded : ∃ record, s.rotations.find? (·.rotationId = request.rotationId) = some record ∧
    Repeats request record ∧ Succeeds s.contract request record.successor.binding ∧
    result = ⟨s.contract, request.rotationId, request.predecessor.generation, request.mode,
      authorities record.successor s.scope⟩

theorem find?_of_prefix {α : Type} {p : α → Bool} {l l' : List α} {a : α} (h : l <+: l')
    (hfind : l.find? p = some a) : l'.find? p = some a := by
  obtain ⟨rest, rfl⟩ := h
  rw [List.find?_append, hfind]
  rfl

theorem Entitled.mono (h : Entitled s contract authority request) (hextends : Extends s s') :
    Entitled s' contract authority request := by
  obtain ⟨material, hfind, htoken⟩ := h.token
  exact ⟨h.contract.trans hextends.contract.symm, hextends.scope.trans h.scope, h.binding,
    material, find?_of_prefix hextends.materials hfind, htoken⟩

theorem Completed.mono (h : Completed s contract authority request result)
    (hextends : Extends s s') : Completed s' contract authority request result := by
  obtain ⟨record, hfind, hrepeats, hsucceeds, hresult⟩ := h.recorded
  refine ⟨h.entitled.mono hextends, record, find?_of_prefix hextends.rotations hfind, hrepeats,
    ?_, ?_⟩
  · rw [hextends.contract]
    exact hsucceeds
  · rw [hextends.contract, hextends.scope]
    exact hresult

/-- A rotation that succeeds is completed, whether it was new or a retry itself. -/
theorem completed_of_rotated (h : (s.rotateNow contract authority request control).2 = .ok result) :
    Completed (s.rotateNow contract authority request control).1 contract authority request
      result ∧ ∃ observation, control.checkpoint request.budget = .ok observation ∧
        s.contract.validateRotationRequest request observation.wallNowUnixSeconds = .ok () := by
  have hextends := extends_call s (.rotate contract authority request control)
  simp only [call] at hextends
  unfold rotateNow at h hextends ⊢
  rcases hcheck : s.checkRotation contract authority request control with error | observation <;>
    simp only [hcheck] at h hextends ⊢
  · cases h
  obtain ⟨hcheckpoint, hentitled, hvalid⟩ := checkRotation_ok_iff.mp hcheck
  refine ⟨⟨hentitled.mono hextends, ?_⟩, observation, hcheckpoint, hvalid⟩
  rcases hfind : s.rotations.find? (·.rotationId = request.rotationId) with _ | record <;>
    simp only [hfind] at h hextends ⊢
  · obtain ⟨successor, hrotations, hnew⟩ := swapGeneration_ok h
    obtain ⟨-, hsucceeds, hresult⟩ := MailboxRotationResult.new_ok_iff.mp hnew
    refine ⟨recordOf request successor, ?_, ⟨rfl, rfl, rfl, rfl⟩, ?_, ?_⟩
    · rw [hrotations, List.find?_append, hfind]
      simp [recordOf]
    · rw [hextends.contract]
      exact hsucceeds
    · rw [hextends.contract, hextends.scope]
      exact hresult
  · have hid : record.rotationId = request.rotationId := by
      simpa using List.find?_some hfind
    unfold retryRotation at h
    split_ifs at h with hconflict
    simp only [not_or, not_not] at hconflict
    split at h
    · cases h
    case h_2 result' hnew =>
      cases h
      obtain ⟨-, hsucceeds, hresult⟩ := MailboxRotationResult.new_ok_iff.mp hnew
      exact ⟨record, rfl, ⟨hid, hconflict⟩, hsucceeds, hresult⟩

/-! ## The retry -/

/-- The same rotation is asked for; the budget of the operation may be another. -/
structure SameRotation (request request' : RotationRequest) : Prop where
  rotationId : request'.rotationId = request.rotationId
  predecessor : request'.predecessor = request.predecessor
  mode : request'.mode = request.mode
  expires : request'.successorExpiresAtUnixSeconds = request.successorExpiresAtUnixSeconds

theorem SameRotation.generation (h : SameRotation request request') :
    request'.successorGeneration = request.successorGeneration := by
  have hsuccessor := request'.successor
  rw [h.predecessor, request.successor] at hsuccessor
  exact (Except.ok.inj hsuccessor).symm

/-- A completed rotation answers every timely retry with its result. -/
theorem Completed.retry (h : Completed s contract authority request result)
    (hsame : SameRotation request request')
    (hcheckpoint : control.checkpoint request'.budget = .ok observation)
    (hvalid : s.contract.validateRotationRequest request' observation.wallNowUnixSeconds = .ok ()) :
    s.rotateNow contract authority request' control = (s, .ok result) := by
  obtain ⟨record, hfind, ⟨-, hpredecessor, hmode, hexpires⟩, hsucceeds, hresult⟩ := h.recorded
  have hentitled : Entitled s contract authority request' := by
    refine ⟨h.entitled.contract, h.entitled.scope, ?_, ?_⟩
    · rw [hsame.predecessor]
      exact h.entitled.binding
    · rw [hsame.predecessor]
      exact h.entitled.token
  have hsucceeds' : Succeeds s.contract request' record.successor.binding := by
    obtain ⟨h1, h2, h3, h4, h5, h6, h7, h8⟩ := hsucceeds
    constructor
    · exact h1
    · rw [hsame.predecessor]
      exact h2
    · rw [hsame.predecessor]
      exact h3
    · rw [hsame.generation]
      exact h4
    · rw [hsame.predecessor]
      exact h5
    · rw [hsame.predecessor]
      exact h6
    · rw [hsame.predecessor]
      exact h7
    · rw [hsame.expires]
      exact h8
  have hnew : MailboxRotationResult.new s.contract request' (authorities record.successor s.scope)
      observation.wallNowUnixSeconds = .ok result := by
    refine MailboxRotationResult.new_ok_iff.mpr ⟨hvalid, hsucceeds', ?_⟩
    rw [hsame.rotationId, hsame.predecessor, hsame.mode]
    exact hresult
  have hagrees : ¬(record.predecessor ≠ request'.predecessor ∨ record.mode ≠ request'.mode ∨
      record.successorExpiresAtUnixSeconds ≠ request'.successorExpiresAtUnixSeconds) := by
    simp [hsame.predecessor, hsame.mode, hsame.expires, hpredecessor, hmode, hexpires]
  simp only [rotateNow, checkRotation_ok_iff.mpr ⟨hcheckpoint, hentitled, hvalid⟩,
    hsame.rotationId, hfind, retryRotation, if_neg hagrees, hnew]

/-- For a rotation that succeeded and every later world: while predecessor and successor are
unexpired, the same request returns the same result and changes nothing exactly until the
drain of a routine rotation ends. -/
theorem rotation_retry_iff {w w' : ProviderWorld}
    (hok : (w.state.rotateNow contract authority request control).2 = .ok result)
    (hcheckpoint : control.checkpoint request.budget = .ok observation)
    (hlater : Leads call (fun _ _ => True)
      (w.after call (.rotate contract authority request control)) w')
    (hsame : SameRotation request request')
    (hcheckpoint' : control'.checkpoint request'.budget = .ok observation')
    (hle : observation.wallNowUnixSeconds ≤ observation'.wallNowUnixSeconds) (hpredecessor :
      observation'.wallNowUnixSeconds < request.predecessor.expiresAtUnixSeconds)
    (hsuccessor : observation'.wallNowUnixSeconds < request.successorExpiresAtUnixSeconds) :
    w'.state.rotateNow contract authority request' control' = (w'.state, .ok result) ↔
      request.mode.OpenAt observation'.wallNowUnixSeconds := by
  obtain ⟨hcompleted, found, hfound, hvalid⟩ := completed_of_rotated hok
  cases hcheckpoint.symm.trans hfound
  have hextends := extends_of_leads hlater
  have hcontract : w'.state.contract = w.state.contract :=
    hextends.contract.trans
      (extends_call w.state (.rotate contract authority request control)).contract
  obtain ⟨htimely, hprofile, hschema⟩ := validateRotationRequest_ok_iff.mp hvalid
  constructor
  · intro hretry
    obtain ⟨-, again, hagain, hvalid'⟩ := completed_of_rotated (congrArg Prod.snd hretry)
    cases hcheckpoint'.symm.trans hagain
    have hopen := (validateRotationRequest_ok_iff.mp hvalid').1.drain
    rw [hsame.mode] at hopen
    exact hopen
  · intro hopen
    refine (hcompleted.mono hextends).retry hsame hcheckpoint' ?_
    refine validateRotationRequest_ok_iff.mpr ⟨⟨?_, ?_, ?_, ?_, ?_⟩, ?_, ?_⟩
    · have hstarted := htimely.started
      omega
    · rw [hsame.predecessor]
      exact hpredecessor
    · rw [hsame.expires]
      exact hsuccessor
    · rw [hsame.mode]
      exact hopen
    · intro drain hmode
      rw [hsame.mode] at hmode
      have hbounded := htimely.bounded drain hmode
      rw [hcontract]
      omega
    · rw [hsame.predecessor, hcontract]
      exact hprofile
    · rw [hsame.predecessor, hcontract]
      exact hschema

/-! ## Before and after the end of a drain -/

theorem sampleSuccessorExpiry_ne_zero : 2000 ≠ 0 := by decide

theorem sampleDrain_within : (RotationMode.routine 200).Within 1000 2000 := by decide

theorem sampleGeneration_successor : MailboxGeneration.successor sampleGeneration.generation =
    .ok ⟨2, secondGeneration_ne_zero⟩ :=
  rfl

/-- A routine rotation of the sample mailbox with a drain until two hundred. -/
def routineRequest : RotationRequest where
  rotationId := ⟨1, sampleRotation_ne_zero⟩
  predecessor := sampleGeneration
  successorGeneration := ⟨2, secondGeneration_ne_zero⟩
  mode := .routine 200
  successorExpiresAtUnixSeconds := 2000
  budget := sampleBudget
  expires := sampleSuccessorExpiry_ne_zero
  within := sampleDrain_within
  successor := sampleGeneration_successor

def sampleRight : Capability .rotation := ⟨0, sampleGeneration, filled 32 6⟩

def sampleIssued : ProviderWorld := World.afterAll call ⟨.new 0, []⟩ [sampleIssue]

/-- The world after the rotation, and another mailbox. -/
def sampleRotated : ProviderWorld :=
  (sampleIssued.after call (.rotate sampleIssued.state.contract sampleRight routineRequest
    (sampleReading 11))).afterAll call [sampleIssue]

theorem exists_ok_of_isOk {ε α : Type} {x : Except ε α} (h : x.isOk = true) : ∃ a, x = .ok a := by
  cases x with
  | error error => cases h
  | ok a => exact ⟨a, rfl⟩

/-- The drain ends at two hundred, the predecessor at a thousand and the successor at two
thousand; a retry at two hundred is refused. -/
theorem routine_retry_refused_after_drain :
    (∃ result, (sampleIssued.state.rotateNow sampleIssued.state.contract sampleRight
      routineRequest (sampleReading 11)).2 = .ok result) ∧
    200 < routineRequest.predecessor.expiresAtUnixSeconds ∧
    200 < routineRequest.successorExpiresAtUnixSeconds ∧
    ∀ result, sampleRotated.state.rotateNow sampleIssued.state.contract sampleRight
      routineRequest (sampleReading 200) ≠ (sampleRotated.state, .ok result) := by
  refine ⟨exists_ok_of_isOk (by decide +kernel), by decide, by decide, ?_⟩
  intro result hretry
  have hrefused : (sampleRotated.state.rotateNow sampleIssued.state.contract sampleRight
      routineRequest (sampleReading 200)).2.isOk = false := by
    decide +kernel
  rw [hretry] at hrefused
  cases hrefused

theorem routine_retry_returns_before_drain :
    ∃ result, (sampleIssued.state.rotateNow sampleIssued.state.contract sampleRight
        routineRequest (sampleReading 11)).2 = .ok result ∧
      sampleRotated.state.rotateNow sampleIssued.state.contract sampleRight routineRequest
        (sampleReading 199) = (sampleRotated.state, .ok result) := by
  obtain ⟨result, hok⟩ := exists_ok_of_isOk (x := (sampleIssued.state.rotateNow
    sampleIssued.state.contract sampleRight routineRequest (sampleReading 11)).2)
    (by decide +kernel)
  refine ⟨result, hok, ?_⟩
  have hlater : Leads call (fun _ _ => True) (sampleIssued.after call
      (.rotate sampleIssued.state.contract sampleRight routineRequest (sampleReading 11)))
      sampleRotated :=
    leads_calls _ [sampleIssue]
  have hfirst : (sampleReading 11).checkpoint routineRequest.budget = .ok ⟨0, 11⟩ := rfl
  have hretry : (sampleReading 199).checkpoint routineRequest.budget = .ok ⟨0, 199⟩ := rfl
  refine (rotation_retry_iff hok hfirst hlater ⟨rfl, rfl, rfl, rfl⟩ hretry (by decide)
    (by decide) (by decide)).mpr ?_
  intro drain hdrain
  cases hdrain
  decide

end Provider

end SessionChat.Mailbox
