import SessionChat.Transport.Contract
import SessionChat.Transport.LocalMailbox
import SessionChat.Transport.OutboxPort

/-!
# The Welcome delivery coordinator (`crates/session-transport/src/coordinator.rs`)

One pass leases at most one Welcome, makes at most one deposit at the local transport, and
reports the lease. The clocks and the cancellation flag are read anew at every checkpoint, so a
pass is given one reading for each; it may also be dropped where its future waits for the
adapter.
-/

set_option autoImplicit false

namespace SessionChat.Transport

open Protocol Storage

def maxCoordinatorLeaseSeconds : Nat := 3600

/-- Finite policy for one owner lease and one adapter attempt; the timeout is in nanoseconds
and does not outlive the lease. -/
structure CoordinatorPolicy where
  operationTimeout : Nat
  leaseSeconds : Nat
  maximumNetworkBytes : Nat
  positive : 0 < operationTimeout ∧ 0 < leaseSeconds ∧ 0 < maximumNetworkBytes
  bounded : leaseSeconds ≤ maxCoordinatorLeaseSeconds ∧
    operationTimeout ≤ leaseSeconds * 1000000000 ∧ maximumNetworkBytes ≤ maxWireObjectBytes

inductive CoordinatorOutcome where
  | idle
  | accepted
deriving DecidableEq

inductive CoordinatorError where
  | invalidPolicy
  | ownerStore (error : OutboxPortError)
  | invalidOwnerWork
  | transport (failure : TransportFailure)
deriving DecidableEq

inductive EndpointResolutionError where
  | rejected
deriving DecidableEq

def resolve (encodedEndpoint : Bytes) (now : Nat) :
    Except EndpointResolutionError LocalWelcomeDepositEndpoint :=
  match LocalWelcomeDepositEndpoint.decodeCanonical encodedEndpoint with
  | .error _ => .error .rejected
  | .ok endpoint => if endpoint.expiresAtUnixSeconds ≤ now then .error .rejected else .ok endpoint

/-! ## The surroundings of one pass -/

/-- Where the future of a pass can be dropped: before it is polled, or while it waits for
the adapter, which may or may not have made the deposit by then. -/
inductive DropPoint where
  | beforeLease
  | beforeDeposit
  | afterDeposit
deriving DecidableEq

/-- Everything a pass reads besides the owner store and the transport. -/
structure PassControl where
  monotonicNow : Nat
  /-- The last representable instant, which `checked_add` does not pass. -/
  latestInstant : Nat
  beforeLease : DispatchReading
  beforeDeposit : DispatchReading
  adapterEntry : DispatchReading
  adapterExit : DispatchReading
  completedAt : Option Nat
  draw : Option Id16
  dropped : Option DropPoint

def PassControl.budget (control : PassControl) (policy : CoordinatorPolicy) :
    Except CoordinatorError OperationBudget :=
  if control.latestInstant < control.monotonicNow + policy.operationTimeout then
    .error .invalidPolicy
  else
    (OperationBudget.new (control.monotonicNow + policy.operationTimeout)
      policy.maximumNetworkBytes 1).mapError fun _ => .invalidPolicy

structure Deposit where
  endpoint : LocalWelcomeDepositEndpoint
  envelope : Bytes
  result : Except LocalTransportError DeliveryId

/-- One report to the owner, with its reply. -/
inductive Report (L : Type) where
  | accepted (lease : L) (completedAt : Nat) (reply : Except OutboxPortError Unit)
  | failed (lease : L) (reply : Except OutboxPortError Unit)

def Report.lease {L : Type} : Report L → L
  | .accepted lease _ _ | .failed lease _ => lease

inductive PassEnd where
  | returned (result : Except CoordinatorError CoordinatorOutcome)
  | dropped

structure PassRecord (L : Type) where
  finish : PassEnd
  leased : Option (LeasedWelcome L)
  deposits : List Deposit
  reports : List (Report L)

def PassRecord.unleased {L : Type} (finish : PassEnd) : PassRecord L := ⟨finish, none, [], []⟩

/-- The owner store and the transport. -/
structure DeliverySystem (σ : Type) where
  store : σ
  transport : LocalMemoryWelcomeTransport

/-! ## The adapter -/

def mapLocalDispatchFailure : LocalTransportError → TransportFailure
  | .invalidPolicy => ⟨.misconfigured, .never⟩
  | .rejected => ⟨.invalidAuthority, .never⟩
  | .capacityExceeded => ⟨.queueFull, .backoff⟩
  | .providerFailure => ⟨.internal, .backoff⟩

/-- The result of one adapter call and the transport it leaves. -/
structure AdapterRun where
  receipt : Except TransportFailure DeliveryId
  deposits : List Deposit
  transport : LocalMemoryWelcomeTransport

/-- `EnvelopeDeposit::deposit` of the local transport. The last checkpoint comes after the
deposit has taken effect. -/
def dispatchDeposit (digests : MailboxDigests) (control : PassControl)
    (t : LocalMemoryWelcomeTransport) (endpoint : LocalWelcomeDepositEndpoint)
    (request : DepositRequest) : AdapterRun :=
  match control.adapterEntry.checkpoint request.budget with
  | .error failure => ⟨.error failure, [], t⟩
  | .ok observation =>
      if request.envelope.expiresAtUnixSeconds ≤ observation.wallNowUnixSeconds ∨
          endpoint.expiresAtUnixSeconds < request.envelope.expiresAtUnixSeconds then
        ⟨.error ⟨.expiredEnvelope, .never⟩, [], t⟩
      else
        match OpaqueEnvelope.decodeCanonical request.envelope.bytes with
        | .error _ => ⟨.error ⟨.corruptRemoteResponse, .never⟩, [], t⟩
        | .ok envelope =>
            match t.deposit digests endpoint envelope observation.wallNowUnixSeconds
              control.draw with
            | .error e =>
                ⟨.error (mapLocalDispatchFailure e),
                  [⟨endpoint, request.envelope.bytes, .error e⟩], t⟩
            | .ok (deliveryId, t') =>
                ⟨(control.adapterExit.checkpoint request.budget).map fun _ => deliveryId,
                  [⟨endpoint, request.envelope.bytes, .ok deliveryId⟩], t'⟩

/-! ## The pass -/

section Pass

variable {σ L : Type} (port : WelcomeOutboxPort σ L) (digests : MailboxDigests)
  (policy : CoordinatorPolicy) (control : PassControl)

/-- Reports the lease as failed and returns the error. -/
def releaseWith (error : CoordinatorError) (work : LeasedWelcome L) (deposits : List Deposit)
    (s : DeliverySystem σ) : DeliverySystem σ × PassRecord L :=
  let released := port.reportFailed s.store work.lease
  (⟨released.2, s.transport⟩,
    { finish := .returned (match released.1 with
        | .ok _ => .error error
        | .error e => .error (.ownerStore e))
      leased := some work
      deposits := deposits
      reports := [.failed work.lease released.1] })

variable (work : LeasedWelcome L)

def releaseInvalid (s : DeliverySystem σ) :
    DeliverySystem σ × PassRecord L :=
  releaseWith port .invalidOwnerWork work [] s

/-- The endpoint and the request made from the leased material, unless it is invalid. -/
def prepareDeposit (budget : OperationBudget) (now : Nat) :
    Option (LocalWelcomeDepositEndpoint × DepositRequest) :=
  match CanonicalEnvelope.fromCanonicalBytes work.welcomeEnvelope with
  | .error _ => none
  | .ok canonical =>
      if now < work.outboxExpiresAtUnixSeconds ∧
          work.outboxExpiresAtUnixSeconds ≤ canonical.expiresAtUnixSeconds then
        match resolve work.depositEndpoint now, DepositRequest.new canonical budget with
        | .ok endpoint, .ok request => some (endpoint, request)
        | .error _, _ | .ok _, .error _ => none
      else none

/-- What follows the adapter's answer. An accepted deposit is left to the lease's expiry
when the wall clock cannot say when it was completed. -/
def reportReceipt (run : AdapterRun) (s : DeliverySystem σ) :
    DeliverySystem σ × PassRecord L :=
  match run.receipt with
  | .error failure => releaseWith port (.transport failure) work run.deposits s
  | .ok _ =>
      match control.completedAt with
      | none =>
          (s, ⟨.returned (.error (.transport ⟨.internal, .never⟩)), some work, run.deposits, []⟩)
      | some completedAt =>
          let accepted := port.reportAccepted s.store work.lease completedAt
          (⟨accepted.2, s.transport⟩,
            { finish := .returned (match accepted.1 with
                | .ok _ => .ok .accepted
                | .error e => .error (.ownerStore e))
              leased := some work
              deposits := run.deposits
              reports := [.accepted work.lease completedAt accepted.1] })

/-- The part of `run_once` that holds a lease. -/
def runLeased (budget : OperationBudget) (now : Nat) (work : LeasedWelcome L)
    (s : DeliverySystem σ) : DeliverySystem σ × PassRecord L :=
  match prepareDeposit work budget now with
  | none => releaseInvalid port work s
  | some (endpoint, request) =>
      match control.beforeDeposit.checkpoint budget with
      | .error failure => releaseWith port (.transport failure) work [] s
      | .ok _ =>
          if control.dropped = some .beforeDeposit then (s, ⟨.dropped, some work, [], []⟩)
          else
            let run := dispatchDeposit digests control s.transport endpoint request
            if control.dropped = some .afterDeposit then
              (⟨s.store, run.transport⟩, ⟨.dropped, some work, run.deposits, []⟩)
            else reportReceipt port control work run ⟨s.store, run.transport⟩

/-- `WelcomeDeliveryCoordinator::run_once` over the local transport. -/
def runOnce (s : DeliverySystem σ) : DeliverySystem σ × PassRecord L :=
  if control.dropped = some .beforeLease then (s, .unleased .dropped)
  else
    match control.budget policy with
    | .error e => (s, .unleased (.returned (.error e)))
    | .ok budget =>
        match control.beforeLease.checkpoint budget with
        | .error failure => (s, .unleased (.returned (.error (.transport failure))))
        | .ok observation =>
            match port.leaseNext s.store observation.wallNowUnixSeconds policy.leaseSeconds with
            | (.error e, store) =>
                (⟨store, s.transport⟩, .unleased (.returned (.error (.ownerStore e))))
            | (.ok none, store) => (⟨store, s.transport⟩, .unleased (.returned (.ok .idle)))
            | (.ok (some work), store) =>
                runLeased port digests control budget observation.wallNowUnixSeconds work
                  ⟨store, s.transport⟩

end Pass

/-! ## What a pass can do -/

section Cases

variable {σ L : Type} {port : WelcomeOutboxPort σ L} {digests : MailboxDigests}
  {policy : CoordinatorPolicy} {control : PassControl} {work : LeasedWelcome L}

/-- The deposits that one lease leads to: none, a refused one, or one that the mailbox of
the endpoint accepts; always of the leased bytes at the leased endpoint. -/
inductive Deposits (digests : MailboxDigests) (work : LeasedWelcome L)
    (t : LocalMemoryWelcomeTransport) : List Deposit → LocalMemoryWelcomeTransport → Prop
  | none : Deposits digests work t [] t
  | refused {endpoint : LocalWelcomeDepositEndpoint} {e : LocalTransportError}
      (hendpoint : LocalWelcomeDepositEndpoint.decodeCanonical work.depositEndpoint =
        .ok endpoint) :
      Deposits digests work t [⟨endpoint, work.welcomeEnvelope, .error e⟩] t
  | accepted {endpoint : LocalWelcomeDepositEndpoint} {id : DeliveryId}
      {t' : LocalMemoryWelcomeTransport}
      (hendpoint : LocalWelcomeDepositEndpoint.decodeCanonical work.depositEndpoint =
        .ok endpoint)
      (haccepts : t.Accepts digests endpoint.mailboxId work.welcomeEnvelope id t') :
      Deposits digests work t [⟨endpoint, work.welcomeEnvelope, .ok id⟩] t'

/-- Some deposit was accepted by the transport. -/
def Delivered (deposits : List Deposit) : Prop :=
  ∃ d id, deposits = [d] ∧ d.result = .ok id

/-- The reports that one lease leads to: exactly one, or none when the pass is dropped or
the clock is missing after an accepted deposit. -/
inductive Reported (port : WelcomeOutboxPort σ L) (control : PassControl)
    (work : LeasedWelcome L) (deposits : List Deposit) (store : σ) :
    PassEnd → List (Report L) → σ → Prop
  | failed (finish : PassEnd) :
      Reported port control work deposits store finish
        [.failed work.lease (port.reportFailed store work.lease).1]
        (port.reportFailed store work.lease).2
  | accepted (finish : PassEnd) (completedAt : Nat) (hdelivered : Delivered deposits) :
      Reported port control work deposits store finish
        [.accepted work.lease completedAt (port.reportAccepted store work.lease completedAt).1]
        (port.reportAccepted store work.lease completedAt).2
  | dropped (hdropped : control.dropped ≠ none) :
      Reported port control work deposits store .dropped [] store
  | clockless (finish : PassEnd) (hclock : control.completedAt = none)
      (hdelivered : Delivered deposits) :
      Reported port control work deposits store finish [] store

variable {t : LocalMemoryWelcomeTransport} {deposits : List Deposit} {store store' : σ}
  {finish : PassEnd} {reports : List (Report L)} {endpoint : LocalWelcomeDepositEndpoint}
  {request : DepositRequest}

theorem Deposits.length_le_one {t' : LocalMemoryWelcomeTransport}
    (h : Deposits digests work t deposits t') : deposits.length ≤ 1 := by
  cases h with
  | none => exact Nat.zero_le 1
  | refused => exact Nat.le_refl 1
  | accepted => exact Nat.le_refl 1

section

variable (h : Reported port control work deposits store finish reports store')
include h

/-- A lease is reported once, or left to its expiry for one of the two reasons. -/
theorem Reported.settled : (∃ report, reports = [report] ∧ report.lease = work.lease) ∨
      reports = [] ∧ (finish = .dropped ∧ control.dropped ≠ none ∨
        control.completedAt = none ∧ Delivered deposits) := by
  cases h with
  | failed => exact .inl ⟨_, rfl, rfl⟩
  | accepted => exact .inl ⟨_, rfl, rfl⟩
  | dropped hdropped => exact .inr ⟨rfl, .inl ⟨rfl, hdropped⟩⟩
  | clockless _ hclock hdelivered => exact .inr ⟨rfl, .inr ⟨hclock, hdelivered⟩⟩

theorem Reported.delivered_of_accepted {lease : L} {completedAt : Nat}
    {reply : Except OutboxPortError Unit} (hmem : .accepted lease completedAt reply ∈ reports) :
    Delivered deposits := by
  cases h with
  | failed => cases List.mem_singleton.mp hmem
  | accepted _ _ hdelivered => exact hdelivered
  | dropped => cases hmem
  | clockless => cases hmem

end

/-- What a pass that holds a lease did. -/
structure LeasedPass (port : WelcomeOutboxPort σ L) (digests : MailboxDigests)
    (control : PassControl) (work : LeasedWelcome L) (s s' : DeliverySystem σ)
    (record : PassRecord L) : Prop where
  leased : record.leased = some work
  deposited : Deposits digests work s.transport record.deposits s'.transport
  reported : Reported port control work record.deposits s.store record.finish record.reports
    s'.store

theorem prepareDeposit_eq_some {budget : OperationBudget} {now : Nat}
    (h : prepareDeposit work budget now = some (endpoint, request)) :
    LocalWelcomeDepositEndpoint.decodeCanonical work.depositEndpoint = .ok endpoint ∧
      request.envelope.bytes = work.welcomeEnvelope := by
  unfold prepareDeposit at h
  rcases hcanonical : CanonicalEnvelope.fromCanonicalBytes work.welcomeEnvelope with _ | canonical
  · simp [hcanonical] at h
  simp only [hcanonical] at h
  split_ifs at h
  rcases hresolve : resolve work.depositEndpoint now with _ | resolved
  · simp [hresolve] at h
  rcases hrequest : DepositRequest.new canonical budget with _ | made
  · simp [hresolve, hrequest] at h
  simp only [hresolve, hrequest] at h
  obtain ⟨rfl, rfl⟩ := h
  refine ⟨?_, ?_⟩
  · unfold resolve at hresolve
    split at hresolve
    · cases hresolve
    · rename_i decoded hdecoded
      split_ifs at hresolve
      cases hresolve
      exact hdecoded
  · rw [DepositRequest.new_envelope hrequest]
    exact CanonicalEnvelope.fromCanonicalBytes_bytes hcanonical

/-- An adapter call makes at most one deposit, and a receipt means that it was accepted. -/
theorem dispatchDeposit_spec
    (hendpoint : LocalWelcomeDepositEndpoint.decodeCanonical work.depositEndpoint = .ok endpoint)
    (hbytes : request.envelope.bytes = work.welcomeEnvelope) {run : AdapterRun}
    (hrun : dispatchDeposit digests control t endpoint request = run) :
    Deposits digests work t run.deposits run.transport ∧
      ∀ id, run.receipt = .ok id → Delivered run.deposits := by
  subst hrun
  unfold dispatchDeposit
  rcases control.adapterEntry.checkpoint request.budget with failure | observation
  · exact ⟨.none, (by simp)⟩
  simp only
  split_ifs
  · exact ⟨.none, (by simp)⟩
  rcases hdecoded : OpaqueEnvelope.decodeCanonical request.envelope.bytes with e | envelope
  · exact ⟨.none, (by simp)⟩
  simp only [hbytes]
  rcases hdeposit : t.deposit digests endpoint envelope observation.wallNowUnixSeconds
    control.draw with e | ⟨deliveryId, t'⟩
  · exact ⟨.refused hendpoint, (by simp)⟩
  · have hencoded := OpaqueEnvelope.encodeCanonical_of_decodeCanonical hdecoded
    rw [hbytes] at hencoded
    exact ⟨.accepted hendpoint (LocalMemoryWelcomeTransport.deposit_accepts hencoded hdeposit),
      fun _ _ => ⟨_, deliveryId, rfl, rfl⟩⟩

theorem releaseWith_spec {s : DeliverySystem σ} (error : CoordinatorError)
    (hdeposits : Deposits digests work t deposits s.transport) :
    LeasedPass port digests control work ⟨s.store, t⟩
      (releaseWith port error work deposits s).1 (releaseWith port error work deposits s).2 :=
  ⟨rfl, hdeposits, .failed _⟩

theorem runLeased_spec (budget : OperationBudget) (now : Nat) (work : LeasedWelcome L)
    (s : DeliverySystem σ) :
    LeasedPass port digests control work s (runLeased port digests control budget now work s).1
      (runLeased port digests control budget now work s).2 := by
  unfold runLeased
  rcases hprepared : prepareDeposit work budget now with _ | ⟨endpoint, request⟩
  · exact releaseWith_spec _ .none
  obtain ⟨hendpoint, hbytes⟩ := prepareDeposit_eq_some hprepared
  rcases control.beforeDeposit.checkpoint budget with failure | _
  · exact releaseWith_spec _ .none
  simp only
  split_ifs with hbefore hafter
  · exact ⟨rfl, .none, .dropped (by rw [hbefore]; nofun)⟩
  · generalize hrun : dispatchDeposit digests control s.transport endpoint request = run
    exact ⟨rfl, (dispatchDeposit_spec hendpoint hbytes hrun).1, .dropped (by rw [hafter]; nofun)⟩
  · generalize hrun : dispatchDeposit digests control s.transport endpoint request = run
    obtain ⟨hdeposits, hreceipt⟩ := dispatchDeposit_spec hendpoint hbytes hrun
    unfold reportReceipt
    rcases hanswer : run.receipt with failure | id
    · exact releaseWith_spec (s := ⟨s.store, run.transport⟩) _ hdeposits
    rcases hclock : control.completedAt with _ | completedAt
    · exact ⟨rfl, hdeposits, .clockless _ hclock (hreceipt id hanswer)⟩
    · exact ⟨rfl, hdeposits, .accepted _ completedAt (hreceipt id hanswer)⟩

/-- A pass without a lease changes nothing but what the owner's lease call changes; a pass
with a lease is described by `LeasedPass`. -/
theorem runOnce_cases (port : WelcomeOutboxPort σ L) (digests : MailboxDigests)
    (policy : CoordinatorPolicy) (control : PassControl) (s : DeliverySystem σ) :
    (∃ finish, (runOnce port digests policy control s).2 = .unleased finish ∧
      (runOnce port digests policy control s).1.transport = s.transport ∧
      ((runOnce port digests policy control s).1.store = s.store ∨
        ∃ now, (runOnce port digests policy control s).1.store =
          (port.leaseNext s.store now policy.leaseSeconds).2)) ∨
    ∃ now work store, port.leaseNext s.store now policy.leaseSeconds = (.ok (some work), store) ∧
      LeasedPass port digests control work ⟨store, s.transport⟩
        (runOnce port digests policy control s).1 (runOnce port digests policy control s).2 := by
  unfold runOnce
  split_ifs
  · exact .inl ⟨_, rfl, rfl, .inl rfl⟩
  rcases control.budget policy with e | budget
  · exact .inl ⟨_, rfl, rfl, .inl rfl⟩
  simp only
  rcases control.beforeLease.checkpoint budget with failure | observation
  · exact .inl ⟨_, rfl, rfl, .inl rfl⟩
  simp only
  rcases hlease : port.leaseNext s.store observation.wallNowUnixSeconds policy.leaseSeconds with
    ⟨e | _ | work, store⟩
  · exact .inl ⟨_, rfl, rfl, .inr ⟨_, (congrArg Prod.snd hlease).symm⟩⟩
  · exact .inl ⟨_, rfl, rfl, .inr ⟨_, (congrArg Prod.snd hlease).symm⟩⟩
  · exact .inr ⟨_, work, store, hlease, runLeased_spec budget _ work _⟩

end Cases

end SessionChat.Transport
