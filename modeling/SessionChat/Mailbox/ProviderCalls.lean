import SessionChat.Transition.Timed
import SessionChat.Mailbox.Provider

/-!
# Calls on one lifecycle provider (`crates/transport-conformance/src/lifecycle_provider.rs`)

Any caller may present any right, request and reading of the clocks. `Effect` says
once what a call can do to the provider; the invariants are proved from it.
-/

set_option autoImplicit false

namespace SessionChat.Mailbox

open Transport Codec

/-! ## Drawn material -/

section

variable {α β : Type} {n n' : BitVec 8} {f : α → Draw β} {r : β}

theorem Draw.bind_ok {x : Draw α} (h : (x >>= f).run n = (.ok r, n')) :
    ∃ v m, x.run n = (.ok v, m) ∧ (f v).run m = (.ok r, n') := by
  simp only [ExceptT.run, bind, ExceptT.bind, ExceptT.mk, StateT.bind] at h
  rcases hx : x n with ⟨v | v, m⟩
  · rw [hx] at h
    cases h
  · rw [hx] at h
    exact ⟨v, m, hx, h⟩

theorem run_takeMaterial (n : BitVec 8) : takeMaterial.run n =
    if n = 255 then (.error (failure .queueFull), n) else (.ok n, n + 1) := by
  change (if n = 255 then _ else _ : Draw (BitVec 8)) n = _
  split_ifs <;> rfl

theorem Draw.takeMaterial_bind_ok {f : BitVec 8 → Draw β}
    (h : (takeMaterial >>= f).run n = (.ok r, n')) :
    ∃ m, m.toNat = n.toNat + 1 ∧ (f n).run m = (.ok r, n') := by
  obtain ⟨b, m, htake, hrest⟩ := Draw.bind_ok h
  rw [run_takeMaterial] at htake
  split_ifs at htake with hn
  · cases htake
  · cases htake
    have hlast : n.toNat ≠ 255 := fun heq => hn (BitVec.eq_of_toNat_eq heq)
    refine ⟨n + 1, ?_, hrest⟩
    change (n.toNat + 1) % 256 = _
    omega

theorem Draw.orInternal_bind_ok {ε : Type} {x : Except ε α}
    (h : (orInternal x >>= f).run n = (.ok r, n')) :
    ∃ v, x = .ok v ∧ (f v).run n = (.ok r, n') := by
  obtain ⟨v, m, hx, hrest⟩ := Draw.bind_ok h
  cases x with
  | error error => cases hx
  | ok value =>
    cases hx
    exact ⟨v, rfl, hrest⟩

theorem replicate_injective {count : Nat} (hcount : 0 < count) {b c : BitVec 8}
    (h : b.replicate count = c.replicate count) : b = c := by
  refine BitVec.eq_of_getLsbD_eq fun i hi => ?_
  have hbit := congrArg (·.getLsbD i) h
  have hlt : i < 8 * count := by omega
  simpa only [BitVec.getLsbD_replicate, hlt, decide_true, Bool.true_and,
    Nat.mod_eq_of_lt hi] using hbit

end

/-- The byte `k` repeated; every token and identifier of a generation has this form. -/
def filled (count k : Nat) : BitVec (8 * count) := (BitVec.ofNat 8 k).replicate count

theorem filled_injective {count k k' : Nat} (hcount : 0 < count) (hk : k < 256) (hk' : k' < 256)
    (h : filled count k = filled count k') : k = k' := by
  have hnat := congrArg BitVec.toNat (replicate_injective hcount h)
  rwa [BitVec.toNat_ofNat, BitVec.toNat_ofNat, Nat.mod_eq_of_lt hk, Nat.mod_eq_of_lt hk'] at hnat

/-- The material was drawn at the counter value `base` for this continuity and generation. -/
structure GenerationMaterial.DrawnAt (material : GenerationMaterial) (base : Nat) : Prop where
  receiveScope : material.binding.receiveScope.val = filled 32 base
  deposit : material.deposit = filled 32 (base + 1)
  receive : material.receive = filled 32 (base + 2)
  acknowledgement : material.acknowledgement = filled 32 (base + 3)
  rotation : material.rotation = filled 32 (base + 4)

variable {contract : LifecycleProviderContract} {n n' : BitVec 8} {material : GenerationMaterial}

theorem freshGeneration_ok {bindingFingerprint : BindingFingerprint}
    {continuityId : MailboxContinuityId} {generation : MailboxGeneration} {expiresAt : Nat}
    (h : (freshGeneration contract bindingFingerprint continuityId generation expiresAt).run n =
      (.ok material, n')) : material.DrawnAt n.toNat ∧ n'.toNat = n.toNat + 5 ∧
      material.binding.continuityId = continuityId ∧ material.binding.generation = generation := by
  obtain ⟨n₁, hn₁, h₁⟩ := Draw.takeMaterial_bind_ok h
  obtain ⟨receiveScope, hscope, h₂⟩ := Draw.orInternal_bind_ok h₁
  obtain ⟨binding, hbinding, h₃⟩ := Draw.orInternal_bind_ok h₂
  obtain ⟨n₂, hn₂, h₄⟩ := Draw.takeMaterial_bind_ok h₃
  obtain ⟨n₃, hn₃, h₅⟩ := Draw.takeMaterial_bind_ok h₄
  obtain ⟨n₄, hn₄, h₆⟩ := Draw.takeMaterial_bind_ok h₅
  obtain ⟨n₅, hn₅, h₇⟩ := Draw.takeMaterial_bind_ok h₆
  cases h₇
  obtain ⟨hcontinuity, hgeneration, hreceiveScope⟩ := CursorBinding.new_ok hbinding
  have hfilled : ∀ b : BitVec 8, ∀ k, b.toNat = k → b.replicate 32 = filled 32 k := by
    rintro b _ rfl
    rw [filled, BitVec.ofNat_toNat, BitVec.setWidth_eq]
  have hfirst : binding.receiveScope.val = filled 32 n.toNat := by
    rw [hreceiveScope, NonZero.val_of_new hscope]
    exact hfilled n n.toNat rfl
  exact ⟨⟨hfirst, hfilled _ _ (by omega), hfilled _ _ (by omega), hfilled _ _ (by omega),
    hfilled _ _ (by omega)⟩, by omega, hcontinuity, hgeneration⟩

theorem freshContinuity_ok {request : MailboxIssueRequest}
    (h : (freshContinuity contract request).run n = (.ok material, n')) :
    material.DrawnAt (n.toNat + 1) ∧ n'.toNat = n.toNat + 6 ∧
      material.binding.continuityId.val = filled 16 n.toNat := by
  obtain ⟨n₁, hn₁, h₁⟩ := Draw.takeMaterial_bind_ok h
  obtain ⟨continuityId, hcontinuity, h₂⟩ := Draw.orInternal_bind_ok h₁
  obtain ⟨generation, hgeneration, h₃⟩ := Draw.orInternal_bind_ok h₂
  obtain ⟨hdrawn, hn', hid, -⟩ := freshGeneration_ok h₃
  rw [hn₁] at hdrawn hn'
  refine ⟨hdrawn, hn', ?_⟩
  rw [hid, NonZero.val_of_new hcontinuity, filled, BitVec.ofNat_toNat, BitVec.setWidth_eq]

/-- Whether it fails or not, the computation never moves the counter back. -/
def Draw.Grows {α : Type} (x : Draw α) : Prop := ∀ n, n.toNat ≤ (x.run n).2.toNat

namespace Draw.Grows

variable {α β : Type}

theorem bind {x : Draw α} {f : α → Draw β} (hx : Draw.Grows x) (hf : ∀ v, Draw.Grows (f v)) :
    Draw.Grows (x >>= f) := by
  intro n
  have hn := hx n
  simp only [ExceptT.run, Bind.bind, ExceptT.bind, ExceptT.mk, StateT.bind] at hn ⊢
  rcases hrun : x n with ⟨error | v, m⟩ <;> rw [hrun] at hn
  · exact hn
  · exact Nat.le_trans hn (hf v m)

theorem pure (v : α) : Draw.Grows (Pure.pure v) := fun _ => Nat.le_refl _

theorem orInternal {ε : Type} (x : Except ε α) : Draw.Grows (orInternal x) := by
  cases x <;> exact fun _ => Nat.le_refl _

theorem takeMaterial : Draw.Grows takeMaterial := by
  intro n
  rw [run_takeMaterial]
  split_ifs with hn
  · exact Nat.le_refl _
  · have hlast : n.toNat ≠ 255 := fun heq => hn (BitVec.eq_of_toNat_eq heq)
    change n.toNat ≤ (n.toNat + 1) % 256
    omega

theorem freshGeneration (contract : LifecycleProviderContract)
    (bindingFingerprint : BindingFingerprint) (continuityId : MailboxContinuityId)
    (generation : MailboxGeneration) (expiresAt : Nat) :
    Draw.Grows (freshGeneration contract bindingFingerprint continuityId generation expiresAt) :=
  takeMaterial.bind fun _ => (orInternal _).bind fun _ => (orInternal _).bind fun _ =>
    takeMaterial.bind fun _ => takeMaterial.bind fun _ => takeMaterial.bind fun _ =>
      takeMaterial.bind fun _ => pure _

theorem freshContinuity (contract : LifecycleProviderContract) (request : MailboxIssueRequest) :
    Draw.Grows (freshContinuity contract request) :=
  takeMaterial.bind fun _ => (orInternal _).bind fun _ => (orInternal _).bind fun _ =>
    freshGeneration _ _ _ _ _

end Draw.Grows

/-! ## Calls -/

namespace Provider

open DeterministicLifecycleProvider

inductive Call where
  | issue (contract : LifecycleProviderContract) (request : MailboxIssueRequest)
      (control : DispatchReading)
  | rotate (contract : LifecycleProviderContract) (authority : Capability .rotation)
      (request : RotationRequest) (control : DispatchReading)
  | deposit (endpoint : Capability .deposit) (request : DepositRequest)
      (control : DispatchControl)
  | poll (authority : Capability .receive) (request : PollRequest) (control : DispatchControl)
  | acknowledge (authority : Capability .acknowledgement) (request : AcknowledgementRequest)
      (control : DispatchControl)

inductive Reply where
  | issued (result : Except TransportFailure MailboxIssueResult)
  | rotated (result : Except TransportFailure MailboxRotationResult)
  | deposited (result : Except TransportFailure DeliveryId)
  | polled (result : Except TransportFailure ReceiveBatch)
  | acknowledged (result : Except TransportFailure Unit)

def Reply.Failed : Reply → Prop
  | .issued r => ∃ error, r = .error error
  | .rotated r => ∃ error, r = .error error
  | .deposited r => ∃ error, r = .error error
  | .polled r => ∃ error, r = .error error
  | .acknowledged r => ∃ error, r = .error error

def Call.times : Call → List Nat
  | .issue _ _ control | .rotate _ _ _ control => control.wallNow.toList
  | .deposit _ _ control | .poll _ _ control | .acknowledge _ _ control =>
      control.first.wallNow.toList ++ control.last.wallNow.toList

def call (self : DeterministicLifecycleProvider) : Call → DeterministicLifecycleProvider × Reply
  | .issue contract request control =>
      let (next, result) := self.issueNow contract request control
      (next, .issued result)
  | .rotate contract authority request control =>
      let (next, result) := self.rotateNow contract authority request control
      (next, .rotated result)
  | .deposit endpoint request control =>
      let (next, result) := self.depositNow endpoint request control
      (next, .deposited result)
  | .poll authority request control => (self, .polled (self.pollNow authority request control))
  | .acknowledge authority request control =>
      let (next, result) := self.acknowledgeNow authority request control
      (next, .acknowledged result)

def recordOf (request : RotationRequest) (successor : GenerationMaterial) : RotationRecord :=
  ⟨request.rotationId, request.predecessor, request.mode,
    request.successorExpiresAtUnixSeconds, successor⟩

/-- The provider after a deposit of a new envelope. -/
def afterDeposit (self : DeterministicLifecycleProvider) (index : Fin self.mailboxes.length)
    (delivery : StoredDelivery) : DeterministicLifecycleProvider :=
  { self.withDeliveries index (· ++ [delivery]) with
    nextDeliverySequence := self.nextDeliverySequence + 1 }

/-- What one call can do, with the checks it has made. -/
inductive Effect (self : DeterministicLifecycleProvider) :
    Call → Reply → DeterministicLifecycleProvider → Prop where
  | same {c : Call} {reply : Reply} : Effect self c reply self
  | drawn {c : Call} {reply : Reply} {nextMaterial : BitVec 8}
      (hgrows : self.nextMaterial.toNat ≤ nextMaterial.toNat) :
      Effect self c reply (self.withMaterial nextMaterial)
  | issued {contract : LifecycleProviderContract} {request : MailboxIssueRequest}
      {control : DispatchReading} {material : GenerationMaterial} {nextMaterial : BitVec 8}
      {result : MailboxIssueResult}
      (hdraw : (freshContinuity self.contract request).run self.nextMaterial =
        (.ok material, nextMaterial)) :
      Effect self (.issue contract request control) (.issued (.ok result))
        ((self.withMaterial nextMaterial).withMailbox material)
  | rotated {contract : LifecycleProviderContract} {authority : Capability .rotation}
      {request : RotationRequest} {control : DispatchReading}
      {observation : DispatchObservation} {activeIndex : Fin self.active.length}
      {successor : GenerationMaterial} {nextMaterial : BitVec 8}
      {result : MailboxRotationResult}
      (hcheck : self.checkRotation contract authority request control = .ok observation)
      (hactive : self.active.get activeIndex = request.predecessor)
      (hdraw : (freshGeneration self.contract request.predecessor.bindingFingerprint
        request.predecessor.continuityId request.successorGeneration
        request.successorExpiresAtUnixSeconds).run self.nextMaterial =
          (.ok successor, nextMaterial)) :
      Effect self (.rotate contract authority request control) (.rotated (.ok result))
        ((self.withMaterial nextMaterial).withRotation (recordOf request successor) activeIndex
          observation.wallNowUnixSeconds)
  | deposited {endpoint : Capability .deposit} {request : DepositRequest}
      {control : DispatchControl} {index : Fin self.mailboxes.length}
      {delivery : StoredDelivery}
      (hdecide : self.decideDeposit endpoint request control = .ok (.fresh index delivery)) :
      Effect self (.deposit endpoint request control) (.deposited (.ok delivery.deliveryId))
        (afterDeposit self index delivery)
  | acknowledged {authority : Capability .acknowledgement} {request : AcknowledgementRequest}
      {control : DispatchControl} {index : Fin self.mailboxes.length}
      (hcheck : self.checkAcknowledgement authority request control = .ok index) :
      Effect self (.acknowledge authority request control) (.acknowledged (.ok ()))
        (self.withDeliveries index (markAcknowledged request.deliveryIds.ids))

theorem issue_effect (self : DeterministicLifecycleProvider)
    (contract : LifecycleProviderContract) (request : MailboxIssueRequest)
    (control : DispatchReading) :
    Effect self (.issue contract request control) (call self (.issue contract request control)).2
      (call self (.issue contract request control)).1 := by
  have hgrows := Draw.Grows.freshContinuity self.contract request self.nextMaterial
  simp only [call, issueNow]
  split
  · exact .same
  · split_ifs
    · exact .same
    · rcases hdraw : (freshContinuity self.contract request).run self.nextMaterial with
        ⟨error | material, nextMaterial⟩ <;> rw [hdraw] at hgrows <;> dsimp only
      · exact .drawn hgrows
      · split
        · exact .drawn hgrows
        · exact .issued hdraw

theorem rotate_effect (self : DeterministicLifecycleProvider)
    (contract : LifecycleProviderContract) (authority : Capability .rotation)
    (request : RotationRequest) (control : DispatchReading) :
    Effect self (.rotate contract authority request control)
      (call self (.rotate contract authority request control)).2
      (call self (.rotate contract authority request control)).1 := by
  have hgrows := Draw.Grows.freshGeneration self.contract request.predecessor.bindingFingerprint
    request.predecessor.continuityId request.successorGeneration
    request.successorExpiresAtUnixSeconds self.nextMaterial
  simp only [call, rotateNow]
  split
  · exact .same
  case h_2 observation hcheck =>
    split
    · exact .same
    · simp only [swapGeneration]
      split
      · exact .same
      case h_2 activeIndex hfound =>
        split_ifs with hactive
        · exact .same
        · rcases hdraw : (freshGeneration self.contract request.predecessor.bindingFingerprint
            request.predecessor.continuityId request.successorGeneration
            request.successorExpiresAtUnixSeconds).run self.nextMaterial with
            ⟨error | successor, nextMaterial⟩ <;> rw [hdraw] at hgrows <;> dsimp only
          · exact .drawn hgrows
          · split
            · exact .drawn hgrows
            · exact .rotated hcheck (not_not.mp hactive) hdraw

theorem call_effect (self : DeterministicLifecycleProvider) (c : Call) :
    Effect self c (call self c).2 (call self c).1 := by
  cases c with
  | issue contract request control => exact issue_effect self contract request control
  | rotate contract authority request control =>
    exact rotate_effect self contract authority request control
  | deposit endpoint request control =>
    simp only [call, depositNow]
    split
    · exact .same
    · exact .same
    case h_3 index delivery hdecide => exact .deposited hdecide
  | poll authority request control => exact .same
  | acknowledge authority request control =>
    simp only [call, acknowledgeNow]
    split
    · exact .same
    case h_2 index hcheck => exact .acknowledged hcheck

end Provider

end SessionChat.Mailbox
