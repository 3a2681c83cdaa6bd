import SessionChat.Transition.Run
import SessionChat.Transport.Coordinator

/-!
# Runs of the delivery system (`crates/session-transport/src/coordinator.rs`)

Coordinator passes over one owner store and one local transport, interleaved with the
receiver's calls, the creation of mailboxes, and whatever else the owner does to its rows.
Every accepted deposit agrees with what its mailbox remembers, and every row that the owner has
recorded as delivered was accepted by the mailbox of its endpoint.
-/

set_option autoImplicit false

namespace SessionChat.Transport

open Transition Collections Protocol LocalMemoryWelcomeTransport
  Storage

/-! ## The owner -/

/-- What the delivery argument asks of an owner: a lease is for one row and hands out that
row's material, the material of a row does not change, and a row becomes delivered only by
an accepted report of a lease on it. An owner that settles a lease at most once and only
while it is current is of this kind; which of its reports it refuses does not matter. -/
structure LeaseDiscipline {σ L : Type} (port : WelcomeOutboxPort σ L) (ρ : Type) where
  row : L → ρ
  material : σ → ρ → Option (Bytes × Bytes × Nat)
  delivered : σ → ρ → Prop
  leaseNext_material : ∀ s now seconds r,
    material (port.leaseNext s now seconds).2 r = material s r
  leaseNext_delivered : ∀ s now seconds r,
    delivered (port.leaseNext s now seconds).2 r → delivered s r
  leased : ∀ s now seconds work s', port.leaseNext s now seconds = (.ok (some work), s') →
    material s (row work.lease) = some work.material
  reportFailed_material : ∀ s lease r, material (port.reportFailed s lease).2 r = material s r
  reportFailed_delivered : ∀ s lease r,
    delivered (port.reportFailed s lease).2 r → delivered s r
  reportAccepted_material : ∀ s lease now r,
    material (port.reportAccepted s lease now).2 r = material s r
  reportAccepted_delivered : ∀ s lease now r,
    delivered (port.reportAccepted s lease now).2 r → delivered s r ∨ r = row lease

variable {σ L ρ : Type} {port : WelcomeOutboxPort σ L}

variable (D : LeaseDiscipline port ρ)

/-- The owner's own work between passes: rows keep their material and none is delivered. -/
def LeaseDiscipline.Keeps (s s' : σ) : Prop :=
  ∀ r, (∀ m, D.material s r = some m → D.material s' r = some m) ∧
    (D.delivered s' r → D.delivered s r)

/-! ## The machine -/

inductive DeliveryCall (σ : Type) where
  | pass (policy : CoordinatorPolicy) (control : PassControl)
  | owner (next : σ)
  | createMailbox (expiresAt now : Nat) (draws : MailboxDraws)
  | receive (authority : LocalWelcomeReceiveCapability) (now : Nat)
  | acknowledge (authority : LocalWelcomeAcknowledgementCapability) (id : DeliveryId) (now : Nat)

/-- The transport after a call that may be refused. -/
def afterCall {α : Type} (s : DeliverySystem σ)
    (result : Except LocalTransportError (α × LocalMemoryWelcomeTransport)) : DeliverySystem σ :=
  match result with
  | .error _ => s
  | .ok (_, transport) => { s with transport }

/-- One call; a pass answers with its record. -/
def deliveryStep (port : WelcomeOutboxPort σ L) (digests : MailboxDigests)
    (s : DeliverySystem σ) : DeliveryCall σ → DeliverySystem σ × Option (PassRecord L)
  | .pass policy control =>
      ((runOnce port digests policy control s).1, some (runOnce port digests policy control s).2)
  | .owner next => ({ s with store := next }, none)
  | .createMailbox expiresAt now draws =>
      (afterCall s (s.transport.createWelcomeMailbox digests expiresAt now draws), none)
  | .receive authority now => (afterCall s (s.transport.receive digests authority now), none)
  | .acknowledge authority id now =>
      (afterCall s ((s.transport.acknowledge digests authority id now).map fun t => ((), t)), none)

abbrev DeliveryWorld (σ L : Type) :=
  World (DeliverySystem σ) (DeliveryCall σ) (Option (PassRecord L))

/-- The deposits that the passes of a history made, in order. -/
def depositsOf (history : List (Event (DeliveryCall σ) (Option (PassRecord L)))) : List Deposit :=
  history.flatMap fun e => e.reply.elim [] (·.deposits)

/-- The owner's own work keeps the rows, and the identifier of a mailbox that has accepted an
envelope is not drawn again. -/
def Admitted (w : DeliveryWorld σ L) : DeliveryCall σ → Prop
  | .owner next => D.Keeps w.state.store next
  | .createMailbox _ _ draws =>
      ∀ d ∈ depositsOf w.history, ∀ id, d.result = .ok id →
        draws.mailboxId ≠ some d.endpoint.mailboxId
  | .pass _ _ | .receive _ _ | .acknowledge _ _ _ => True

/-! ## The account of the mailboxes -/

/-- What the accepted deposits have to do with what the mailboxes remember. -/
structure MailboxAccount (digests : MailboxDigests) (deposits : List Deposit)
    (t : LocalMemoryWelcomeTransport) : Prop where
  remembered : ∀ d ∈ deposits, ∀ id, d.result = .ok id → ∀ record,
    t.mailboxes.get? d.endpoint.mailboxId = some record →
    ∃ a, record.accepted = some a ∧ a.deliveryId = id ∧
      a.envelopeDigest = digests.envelope d.envelope
  agree : ∀ d ∈ deposits, ∀ d' ∈ deposits, ∀ id id', d.result = .ok id → d'.result = .ok id' →
    d.endpoint.mailboxId = d'.endpoint.mailboxId →
    id = id' ∧ digests.envelope d.envelope = digests.envelope d'.envelope
  retained : ∀ m record a e, t.mailboxes.get? m = some record → record.accepted = some a →
    a.envelope = some e → ∃ d ∈ deposits, d.endpoint.mailboxId = m ∧ (∃ id, d.result = .ok id) ∧
      e.encodeCanonical = .ok d.envelope

namespace MailboxAccount

variable {digests : MailboxDigests} {deposits : List Deposit}
  {t t' : LocalMemoryWelcomeTransport}

/-- Nothing has been deposited, and no mailbox has accepted anything. -/
theorem start (h : ∀ m record, t.mailboxes.get? m = some record → record.accepted = none) :
    MailboxAccount digests [] t where
  remembered := by simp
  agree := by simp
  retained m record a e hrecord haccepted := by
    rw [h m record hrecord] at haccepted
    cases haccepted

variable {d : Deposit}

section

variable (h : MailboxAccount digests deposits t)
include h

/-- A refused deposit is of no account. -/
theorem refused (hd : ∀ id, d.result ≠ .ok id) : MailboxAccount digests (deposits ++ [d]) t where
  remembered d' hd' id hid := by
    rcases List.mem_append.mp hd' with hd' | hd'
    · exact h.remembered d' hd' id hid
    · obtain rfl := List.mem_singleton.mp hd'
      exact absurd hid (hd id)
  agree d₁ h₁ d₂ h₂ id₁ id₂ hid₁ hid₂ := by
    rcases List.mem_append.mp h₁ with h₁ | h₁
    · rcases List.mem_append.mp h₂ with h₂ | h₂
      · exact h.agree d₁ h₁ d₂ h₂ id₁ id₂ hid₁ hid₂
      · obtain rfl := List.mem_singleton.mp h₂
        exact absurd hid₂ (hd id₂)
    · obtain rfl := List.mem_singleton.mp h₁
      exact absurd hid₁ (hd id₁)
  retained m record a e hrecord haccepted he := by
    obtain ⟨d', hd', hrest⟩ := h.retained m record a e hrecord haccepted he
    exact ⟨d', List.mem_append_left _ hd', hrest⟩

/-- An accepted deposit agrees with the earlier ones of its mailbox. -/
theorem earlier {m : Id16} {bytes : Bytes} {id : DeliveryId}
    (haccepts : t.Accepts digests m bytes id t') :
    ∀ d ∈ deposits, ∀ id', d.result = .ok id' → d.endpoint.mailboxId = m →
      id' = id ∧ digests.envelope d.envelope = digests.envelope bytes := by
  rintro d hd id' hid' rfl
  cases haccepts with
  | again hrecord haccepted hdigest hid =>
    obtain ⟨a', ha', hid'', hdigest'⟩ := h.remembered d hd id' hid' _ hrecord
    obtain rfl := Option.some.inj (ha'.symm.trans haccepted)
    exact ⟨hid''.symm.trans hid, hdigest'.symm.trans hdigest⟩
  | first hrecord hempty hencoded =>
    obtain ⟨a', ha', -⟩ := h.remembered d hd id' hid' _ hrecord
    rw [hempty] at ha'
    cases ha'

/-- An accepted deposit is remembered by its mailbox. -/
theorem accepted {id : DeliveryId} (hresult : d.result = .ok id)
    (haccepts : t.Accepts digests d.endpoint.mailboxId d.envelope id t') :
    MailboxAccount digests (deposits ++ [d]) t' where
  remembered d' hd' id' hid' record hrecord := by
    rcases List.mem_append.mp hd' with hd' | hd'
    · by_cases hm : d'.endpoint.mailboxId = d.endpoint.mailboxId
      · obtain ⟨rfl, hdigest⟩ := h.earlier haccepts d' hd' id' hid' hm
        rw [hdigest]
        exact haccepts.remembers (hm ▸ hrecord)
      · exact h.remembered d' hd' id' hid' record ((haccepts.others hm).symm.trans hrecord)
    · obtain rfl := List.mem_singleton.mp hd'
      obtain rfl : id' = id := Except.ok.inj (hid'.symm.trans hresult)
      exact haccepts.remembers hrecord
  agree d₁ h₁ d₂ h₂ id₁ id₂ hid₁ hid₂ hm := by
    rcases List.mem_append.mp h₁ with hold₁ | hnew₁
    · rcases List.mem_append.mp h₂ with hold₂ | hnew₂
      · exact h.agree d₁ hold₁ d₂ hold₂ id₁ id₂ hid₁ hid₂ hm
      · obtain rfl := List.mem_singleton.mp hnew₂
        obtain rfl : id₂ = id := Except.ok.inj (hid₂.symm.trans hresult)
        exact h.earlier haccepts d₁ hold₁ id₁ hid₁ hm
    · obtain rfl := List.mem_singleton.mp hnew₁
      obtain rfl : id₁ = id := Except.ok.inj (hid₁.symm.trans hresult)
      rcases List.mem_append.mp h₂ with hold₂ | hnew₂
      · obtain ⟨hid, hdigest⟩ := h.earlier haccepts d₂ hold₂ id₂ hid₂ hm.symm
        exact ⟨hid.symm, hdigest.symm⟩
      · obtain rfl := List.mem_singleton.mp hnew₂
        exact ⟨Except.ok.inj (hid₁.symm.trans hid₂), rfl⟩
  retained m record a e hrecord ha he := by
    by_cases hm : m = d.endpoint.mailboxId
    · subst hm
      cases haccepts with
      | again =>
        obtain ⟨d', hd', hrest⟩ := h.retained _ record a e hrecord ha he
        exact ⟨d', List.mem_append_left _ hd', hrest⟩
      | first hempty _ hencoded =>
        refine ⟨d, List.mem_append_right _ (List.mem_singleton.mpr rfl), rfl, ⟨id, hresult⟩, ?_⟩
        simp only [LocalMemoryWelcomeTransport.get?_accept, hempty, Option.map_some,
          Option.some.injEq] at hrecord
        subst hrecord
        cases ha
        cases he
        exact hencoded
    · rw [haccepts.others hm] at hrecord
      obtain ⟨d', hd', hrest⟩ := h.retained m record a e hrecord ha he
      exact ⟨d', List.mem_append_left _ hd', hrest⟩

/-- The deposits of one pass. -/
theorem pass {work : LeasedWelcome L} {made : List Deposit}
    (hmade : Deposits digests work t made t') : MailboxAccount digests (deposits ++ made) t' := by
  cases hmade with
  | none => simpa using h
  | refused hendpoint => exact h.refused (by simp)
  | accepted hendpoint haccepts => exact h.accepted rfl haccepts

/-- Reading and acknowledging only drop retained envelopes. -/
theorem retains (hretains : LocalMemoryWelcomeTransport.Retains t t') :
    MailboxAccount digests deposits t' where
  remembered d hd id hid record' hrecord' := by
    obtain ⟨record, hrecord, hsame | hdropped⟩ := hretains _ record' hrecord'
    · rw [hsame]
      exact h.remembered d hd id hid record hrecord
    · obtain ⟨a, ha, hdelivery, hdigest⟩ := h.remembered d hd id hid record hrecord
      exact ⟨a.dropped, by rw [hdropped, ha, Option.map_some], hdelivery, hdigest⟩
  agree := h.agree
  retained m record' a e hrecord' ha he := by
    obtain ⟨record, hrecord, hsame | hdropped⟩ := hretains m record' hrecord'
    · exact h.retained m record a e hrecord (hsame ▸ ha) he
    · rw [hdropped] at ha
      obtain ⟨a, -, rfl⟩ := Option.map_eq_some_iff.mp ha
      cases he

/-- A new mailbox has an identifier under which nothing was accepted. -/
theorem created {expiresAt now : Nat} {draws : MailboxDraws} {mailbox : LocalWelcomeMailbox}
    (hfresh : ∀ d ∈ deposits, ∀ id, d.result = .ok id → draws.mailboxId ≠ some d.endpoint.mailboxId)
    (hcreated : t.createWelcomeMailbox digests expiresAt now draws = .ok (mailbox, t')) :
    MailboxAccount digests deposits t' where
  remembered d hd id hid record hrecord := by
    obtain ⟨hdrawn, -⟩ | hold :=
      createWelcomeMailbox_mailboxes hcreated hrecord
    · exact absurd hdrawn (hfresh d hd id hid)
    · exact h.remembered d hd id hid record hold
  agree := h.agree
  retained m record a e hrecord ha he := by
    obtain ⟨-, hempty⟩ | hold :=
      createWelcomeMailbox_mailboxes hcreated hrecord
    · rw [hempty] at ha
      cases ha
    · exact h.retained m record a e hold ha he

end

end MailboxAccount

/-! ## The account of the owner -/

/-- The mailbox named by the row's endpoint was given exactly the row's Welcome, and
accepted it. -/
def LeaseDiscipline.Backed (deposits : List Deposit) (s : σ) (r : ρ) : Prop :=
  ∃ endpoint expiresAt, ∃ d ∈ deposits, ∃ id,
    D.material s r = some (d.envelope, endpoint, expiresAt) ∧
      LocalWelcomeDepositEndpoint.decodeCanonical endpoint = .ok d.endpoint ∧ d.result = .ok id

/-- Every delivered row is backed by an accepted deposit. -/
def LeaseDiscipline.Account (deposits : List Deposit) (s : σ) : Prop :=
  ∀ r, D.delivered s r → D.Backed deposits s r

namespace LeaseDiscipline

variable {D : LeaseDiscipline port ρ} {digests : MailboxDigests} {deposits : List Deposit}
  {s s' : σ}

theorem Account.mono (h : D.Account deposits s) (made : List Deposit) :
    D.Account (deposits ++ made) s := by
  intro r hr
  obtain ⟨endpoint, expiresAt, d, hd, hrest⟩ := h r hr
  exact ⟨endpoint, expiresAt, d, List.mem_append_left _ hd, hrest⟩

theorem Account.keeps (h : D.Account deposits s) (hkeeps : D.Keeps s s') :
    D.Account deposits s' := by
  intro r hr
  obtain ⟨endpoint, expiresAt, d, hd, id, hmaterial, hrest⟩ := h r ((hkeeps r).2 hr)
  exact ⟨endpoint, expiresAt, d, hd, id, (hkeeps r).1 _ hmaterial, hrest⟩

theorem keeps_leaseNext (s : σ) (now seconds : Nat) : D.Keeps s (port.leaseNext s now seconds).2 :=
  fun r => ⟨fun _ hm => (D.leaseNext_material s now seconds r).trans hm,
    D.leaseNext_delivered s now seconds r⟩

theorem keeps_reportFailed (s : σ) (lease : L) : D.Keeps s (port.reportFailed s lease).2 :=
  fun r => ⟨fun _ hm => (D.reportFailed_material s lease r).trans hm,
    D.reportFailed_delivered s lease r⟩

variable {work : LeasedWelcome L} {made : List Deposit} {t t' : LocalMemoryWelcomeTransport}

/-- What a pass with a lease does to the account. -/
theorem Account.reported (h : D.Account deposits s) {control : PassControl} {finish : PassEnd}
    {reports : List (Report L)} (hmaterial : D.material s (D.row work.lease) = some work.material)
    (hmade : Deposits digests work t made t')
    (hreported : Reported port control work made s finish reports s') :
    D.Account (deposits ++ made) s' := by
  cases hreported with
  | failed => exact (h.mono made).keeps (D.keeps_reportFailed s work.lease)
  | accepted _ completedAt hdelivered =>
    have hbacked : ∀ r, D.delivered s r ∨ r = D.row work.lease →
        D.Backed (deposits ++ made) s r := by
      rintro r (hr | rfl)
      · exact h.mono made r hr
      · obtain ⟨d, id, rfl, hid⟩ := hdelivered
        have hd : d ∈ deposits ++ [d] := List.mem_append_right _ (List.mem_singleton.mpr rfl)
        cases hmade with
        | refused => cases hid
        | accepted hendpoint haccepts => exact ⟨_, _, _, hd, _, hmaterial, hendpoint, rfl⟩
    intro r hr
    obtain ⟨endpoint, expiresAt, d, hd, id, hm, hrest⟩ :=
      hbacked r (D.reportAccepted_delivered s work.lease completedAt r hr)
    exact ⟨endpoint, expiresAt, d, hd, id,
      (D.reportAccepted_material s work.lease completedAt r).trans hm, hrest⟩
  | dropped => exact h.mono made
  | clockless => exact h.mono made

end LeaseDiscipline

/-! ## One pass -/

/-- What every pass keeps to, whatever the clocks, the owner and the transport do. -/
structure PassRecord.Disciplined (control : PassControl) (record : PassRecord L) : Prop where
  atMostOneDeposit : record.deposits.length ≤ 1
  unleased : record.leased = none → record.deposits = [] ∧ record.reports = []
  settled : ∀ work, record.leased = some work →
    (∃ report, record.reports = [report] ∧ report.lease = work.lease) ∨
      record.reports = [] ∧ (record.finish = .dropped ∧ control.dropped ≠ none ∨
        control.completedAt = none ∧ Delivered record.deposits)
  accepted : ∀ lease completedAt reply, .accepted lease completedAt reply ∈ record.reports →
    Delivered record.deposits

theorem LeasedPass.disciplined {digests : MailboxDigests} {control : PassControl}
    {work : LeasedWelcome L} {s s' : DeliverySystem σ} {record : PassRecord L}
    (h : LeasedPass port digests control work s s' record) : record.Disciplined control where
  atMostOneDeposit := h.deposited.length_le_one
  unleased hnone := by
    rw [h.leased] at hnone
    cases hnone
  settled work' hwork' := by
    obtain rfl := Option.some.inj (h.leased.symm.trans hwork')
    exact h.reported.settled
  accepted _ _ _ hmem := h.reported.delivered_of_accepted hmem

/-! ## Whole runs -/

/-- What holds of a run of the delivery system. -/
structure Accounted (D : LeaseDiscipline port ρ) (digests : MailboxDigests)
    (w : DeliveryWorld σ L) : Prop where
  mailboxes : MailboxAccount digests (depositsOf w.history) w.state.transport
  owner : D.Account (depositsOf w.history) w.state.store
  passes : ∀ e ∈ w.history, ∀ policy control, e.call = .pass policy control →
    ∃ record, e.reply = some record ∧ record.Disciplined control

namespace Accounted

variable {D : LeaseDiscipline port ρ} {digests : MailboxDigests} {w : DeliveryWorld σ L}

theorem depositsOf_after (w : DeliveryWorld σ L) (c : DeliveryCall σ) :
    depositsOf (w.after (deliveryStep port digests) c).history =
      depositsOf w.history ++ ((deliveryStep port digests w.state c).2.elim [] (·.deposits)) := by
  simp [depositsOf, World.after]

variable {c : DeliveryCall σ}

/-- The account after a call other than a pass. -/
theorem other (h : Accounted D digests w) (hreply : (deliveryStep port digests w.state c).2 = none)
    (hmailboxes : MailboxAccount digests (depositsOf w.history)
      (deliveryStep port digests w.state c).1.transport)
    (howner : D.Account (depositsOf w.history) (deliveryStep port digests w.state c).1.store) :
    Accounted D digests (w.after (deliveryStep port digests) c) where
  mailboxes := by
    rw [depositsOf_after, hreply, Option.elim_none, List.append_nil]
    exact hmailboxes
  owner := by
    rw [depositsOf_after, hreply, Option.elim_none, List.append_nil]
    exact howner
  passes e he policy control hcall := by
    rcases List.mem_append.mp he with he | he
    · exact h.passes e he policy control hcall
    · obtain rfl := List.mem_singleton.mp he
      obtain rfl : c = .pass policy control := hcall
      cases hreply

/-- The account after a call of the transport that may be refused. -/
theorem afterCall (h : Accounted D digests w) {α : Type}
    (result : Except LocalTransportError (α × LocalMemoryWelcomeTransport))
    (hstep : deliveryStep port digests w.state c = (Transport.afterCall w.state result, none))
    (haccount : ∀ a t, result = .ok (a, t) → MailboxAccount digests (depositsOf w.history) t) :
    Accounted D digests (w.after (deliveryStep port digests) c) := by
  refine h.other (by rw [hstep]) ?_ ?_
  · rw [hstep]
    rcases hresult : result with e | ⟨a, t⟩
    · exact h.mailboxes
    · exact haccount a t hresult
  · rw [hstep]
    rcases result with e | ⟨a, t⟩
    · exact h.owner
    · exact h.owner

theorem runOnce_disciplined (policy : CoordinatorPolicy) (control : PassControl)
    (s : DeliverySystem σ) : (runOnce port digests policy control s).2.Disciplined control := by
  obtain ⟨finish, hrecord, -⟩ | ⟨now, work, store, -, hleased⟩ :=
    runOnce_cases port digests policy control s
  · rw [hrecord]
    exact ⟨Nat.zero_le 1, fun _ => ⟨rfl, rfl⟩, (by rintro _ ⟨⟩), (by rintro _ _ _ ⟨⟩)⟩
  · exact hleased.disciplined

theorem pass (h : Accounted D digests w) (policy : CoordinatorPolicy) (control : PassControl) :
    Accounted D digests (w.after (deliveryStep port digests) (.pass policy control)) := by
  have hmade : depositsOf (w.after (deliveryStep port digests) (.pass policy control)).history =
      depositsOf w.history ++ (runOnce port digests policy control w.state).2.deposits :=
    depositsOf_after w _
  have haccounts : MailboxAccount digests
        (depositsOf (w.after (deliveryStep port digests) (.pass policy control)).history)
        (runOnce port digests policy control w.state).1.transport ∧
      D.Account (depositsOf (w.after (deliveryStep port digests) (.pass policy control)).history)
        (runOnce port digests policy control w.state).1.store := by
    rw [hmade]
    obtain ⟨finish, hrecord, htransport, hstore⟩ | ⟨now, work, store, hlease, hleased⟩ :=
      runOnce_cases port digests policy control w.state
    · rw [hrecord, htransport, PassRecord.unleased, List.append_nil]
      refine ⟨h.mailboxes, ?_⟩
      rcases hstore with hsame | ⟨now, hlease⟩
      · rw [hsame]
        exact h.owner
      · rw [hlease]
        exact h.owner.keeps (D.keeps_leaseNext _ now _)
    · refine ⟨h.mailboxes.pass hleased.deposited, ?_⟩
      have hkeeps := D.keeps_leaseNext w.state.store now policy.leaseSeconds
      rw [hlease] at hkeeps
      have hmaterial := (hkeeps _).1 _ (D.leased _ _ _ _ _ hlease)
      exact (h.owner.keeps hkeeps).reported hmaterial hleased.deposited hleased.reported
  refine ⟨haccounts.1, haccounts.2, ?_⟩
  intro e he policy' control' hcall
  rcases List.mem_append.mp he with he | he
  · exact h.passes e he policy' control' hcall
  · obtain rfl := List.mem_singleton.mp he
    obtain ⟨-, rfl⟩ := DeliveryCall.pass.inj hcall
    exact ⟨_, rfl, runOnce_disciplined policy control w.state⟩

/-- Every admitted call keeps the accounts. -/
theorem step (h : Accounted D digests w) (hadmitted : Admitted D w c) :
    Accounted D digests (w.after (deliveryStep port digests) c) := by
  cases c with
  | pass policy control => exact h.pass policy control
  | owner next => exact h.other rfl h.mailboxes (h.owner.keeps hadmitted)
  | createMailbox expiresAt now draws =>
    refine h.afterCall (w.state.transport.createWelcomeMailbox digests expiresAt now draws)
      rfl ?_
    intro mailbox t hcreated
    exact h.mailboxes.created hadmitted hcreated
  | receive authority now =>
    refine h.afterCall (w.state.transport.receive digests authority now) rfl ?_
    intro answer t hreceived
    exact h.mailboxes.retains (retains_receive hreceived)
  | acknowledge authority id now =>
    refine h.afterCall
      ((w.state.transport.acknowledge digests authority id now).map fun t => ((), t)) rfl ?_
    intro answer t hmapped
    rcases hacknowledged : w.state.transport.acknowledge digests authority id now with e | t'
    · simp [hacknowledged, Except.map] at hmapped
    · simp only [hacknowledged] at hmapped
      obtain ⟨-, rfl⟩ := hmapped
      exact h.mailboxes.retains (retains_acknowledge hacknowledged)

/-- A run that starts with nothing delivered and nothing accepted is accounted for. -/
theorem run {s : DeliverySystem σ} (hdelivered : ∀ r, ¬D.delivered s.store r)
    (hempty : ∀ m record, s.transport.mailboxes.get? m = some record → record.accepted = none)
    (hrun : Leads (deliveryStep port digests) (Admitted D) ⟨s, []⟩ w) : Accounted D digests w := by
  refine hrun.invariant (I := Accounted D digests) (fun _ _ hadmitted h => h.step hadmitted) ?_
  exact ⟨.start hempty, fun r hr => absurd hr (hdelivered r),
    List.forall_mem_nil _⟩

end Accounted

end SessionChat.Transport
