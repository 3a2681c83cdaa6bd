import SessionChat.Collections.OrderedMap
import SessionChat.Protocol.Wire
import SessionChat.Storage.Data

/-!
# The local Welcome transport (`crates/session-transport/src/lib.rs`)

Single-message mailboxes in one process. A mailbox is created with three independent secrets,
accepts at most one envelope, and answers a repeated deposit of it with the first delivery
identifier. Secrets and envelopes are compared by digest, so the digests are parameters; random
draws are arguments, absent when the provider fails.
-/

set_option autoImplicit false

namespace SessionChat.Transport

open Collections Protocol Storage

/-- Explicit lifetime and memory bounds; `new` refuses zero. -/
structure LocalMailboxPolicy where
  maximumLifetimeSeconds : Nat
  maximumLiveMailboxes : Nat
  positive : 0 < maximumLifetimeSeconds ∧ 0 < maximumLiveMailboxes

inductive LocalTransportError where
  | invalidPolicy
  | rejected
  | capacityExceeded
  | providerFailure
deriving DecidableEq

/-- The two domain-separated uses of the digest. -/
structure MailboxDigests where
  capability : Bytes32 → Bytes32
  envelope : Bytes → Bytes32

abbrev DeliveryId := Id16

/-- What a mailbox remembers of the envelope it has accepted; the envelope itself is
dropped when it is acknowledged or read after its expiry. -/
structure AcceptedEnvelope where
  envelopeId : Id16
  envelopeDigest : Bytes32
  deliveryId : DeliveryId
  envelope : Option OpaqueEnvelope

def AcceptedEnvelope.dropped (a : AcceptedEnvelope) : AcceptedEnvelope :=
  { a with envelope := none }

structure LocalMailboxRecord where
  expiresAtUnixSeconds : Nat
  depositDigest : Bytes32
  receiveDigest : Bytes32
  acknowledgementDigest : Bytes32
  accepted : Option AcceptedEnvelope

/-- The fields of a receiver-only authority for one mailbox. -/
structure LocalMailboxAuthority where
  transportInstanceId : Id16
  mailboxId : Id16
  secret : Bytes32
  expiresAtUnixSeconds : Nat

structure LocalWelcomeReceiveCapability extends LocalMailboxAuthority

structure LocalWelcomeAcknowledgementCapability extends LocalMailboxAuthority

structure LocalWelcomeMailbox where
  deposit : LocalWelcomeDepositEndpoint
  receive : LocalWelcomeReceiveCapability
  acknowledgement : LocalWelcomeAcknowledgementCapability

structure LocalMemoryWelcomeTransport where
  policy : LocalMailboxPolicy
  transportInstanceId : Id16
  mailboxes : OrderedMap Id16 LocalMailboxRecord

def randomNonzero {w : Nat} (draw : Option (BitVec w)) : Except LocalTransportError (BitVec w) :=
  match draw with
  | none => .error .providerFailure
  | some bytes => if bytes = 0 then .error .providerFailure else .ok bytes

structure MailboxDraws where
  mailboxId : Option Id16
  depositSecret : Option Bytes32
  receiveSecret : Option Bytes32
  acknowledgementSecret : Option Bytes32

/-- The independent secrets of the three rights. -/
structure MailboxSecrets where
  deposit : Bytes32
  receive : Bytes32
  acknowledgement : Bytes32

/-- Draws the secrets; equal secrets are a failure of the provider. -/
def drawSecrets (draws : MailboxDraws) : Except LocalTransportError MailboxSecrets := do
  let deposit ← randomNonzero draws.depositSecret
  let receive ← randomNonzero draws.receiveSecret
  let acknowledgement ← randomNonzero draws.acknowledgementSecret
  if deposit = receive ∨ deposit = acknowledgement ∨ receive = acknowledgement then
    throw .providerFailure
  return ⟨deposit, receive, acknowledgement⟩

namespace LocalMemoryWelcomeTransport

def new (policy : LocalMailboxPolicy) (draw : Option Id16) :
    Except LocalTransportError LocalMemoryWelcomeTransport := do
  let transportInstanceId ← randomNonzero draw
  return ⟨policy, transportInstanceId, .empty⟩

variable (digests : MailboxDigests)

/-- The record of a mailbox that has accepted nothing. -/
def emptyMailbox (expiresAt : Nat) (secrets : MailboxSecrets) : LocalMailboxRecord where
  expiresAtUnixSeconds := expiresAt
  depositDigest := digests.capability secrets.deposit
  receiveDigest := digests.capability secrets.receive
  acknowledgementDigest := digests.capability secrets.acknowledgement
  accepted := none

variable (t : LocalMemoryWelcomeTransport)

/-- The receiver-only authority of this transport for one of the secrets. -/
def authorityFor (mailboxId : Id16) (secret : Bytes32) (expiresAt : Nat) : LocalMailboxAuthority :=
  ⟨t.transportInstanceId, mailboxId, secret, expiresAt⟩

def live (now : Nat) : OrderedMap Id16 LocalMailboxRecord :=
  t.mailboxes.retain fun _ record => decide (now < record.expiresAtUnixSeconds)

/-- `create_welcome_mailbox`; the expired mailboxes are pruned when it succeeds. -/
def createWelcomeMailbox (expiresAt now : Nat) (draws : MailboxDraws) :
    Except LocalTransportError (LocalWelcomeMailbox × LocalMemoryWelcomeTransport) :=
  if expiresAt ≤ now ∨ t.policy.maximumLifetimeSeconds < expiresAt - now then .error .rejected
  else if t.policy.maximumLiveMailboxes ≤ (t.live now).size then .error .capacityExceeded
  else
    match randomNonzero draws.mailboxId with
    | .error e => .error e
    | .ok mailboxId =>
        if (t.mailboxes.get? mailboxId).isSome then .error .providerFailure
        else
          match drawSecrets draws with
          | .error e => .error e
          | .ok secrets =>
              match LocalWelcomeDepositEndpoint.new t.transportInstanceId mailboxId
                secrets.deposit expiresAt with
              | .error _ => .error .providerFailure
              | .ok deposit =>
                  .ok ({ deposit
                         receive := ⟨t.authorityFor mailboxId secrets.receive expiresAt⟩
                         acknowledgement :=
                           ⟨t.authorityFor mailboxId secrets.acknowledgement expiresAt⟩ },
                    { t with
                      mailboxes := (t.live now).insert mailboxId
                        (emptyMailbox digests expiresAt secrets) })

/-- The refusals of a deposit that do not look at the mailbox. -/
def misdirected (endpoint : LocalWelcomeDepositEndpoint) (envelope : OpaqueEnvelope) (now : Nat) :
    Prop :=
  endpoint.transportInstanceId ≠ t.transportInstanceId ∨ endpoint.expiresAtUnixSeconds ≤ now ∨
    envelope.expiresAtUnixSeconds ≤ now ∨
    endpoint.expiresAtUnixSeconds < envelope.expiresAtUnixSeconds ∨ envelope.envelopeId = 0
deriving Decidable

/-- The mailbox remembers the envelope it has accepted. -/
def accept (mailboxId : Id16) (accepted : AcceptedEnvelope) :
    LocalMemoryWelcomeTransport :=
  { t with
    mailboxes := t.mailboxes.modify mailboxId fun record =>
      { record with accepted := some accepted } }

def deposit (endpoint : LocalWelcomeDepositEndpoint) (envelope : OpaqueEnvelope) (now : Nat)
    (draw : Option Id16) :
    Except LocalTransportError (DeliveryId × LocalMemoryWelcomeTransport) :=
  if t.misdirected endpoint envelope now then .error .rejected
  else
    match t.mailboxes.get? endpoint.mailboxId, envelope.encodeCanonical with
    | none, _ | some _, .error _ => .error .rejected
    | some record, .ok encoded =>
        if record.expiresAtUnixSeconds ≠ endpoint.expiresAtUnixSeconds ∨
            record.depositDigest ≠ digests.capability endpoint.depositCapability then
          .error .rejected
        else
          match record.accepted with
          | some accepted =>
              if accepted.envelopeId = envelope.envelopeId ∧
                  accepted.envelopeDigest = digests.envelope encoded then
                .ok (accepted.deliveryId, t)
              else .error .rejected
          | none =>
              match randomNonzero draw with
              | .error e => .error e
              | .ok deliveryId =>
                  .ok (deliveryId, t.accept endpoint.mailboxId
                    ⟨envelope.envelopeId, digests.envelope encoded, deliveryId, some envelope⟩)

/-- The mailbox an authority is for, if the authority is in force; `expected` is the digest
that the record keeps for this right. -/
def authorized (authority : LocalMailboxAuthority) (expected : LocalMailboxRecord → Bytes32)
    (now : Nat) : Option LocalMailboxRecord :=
  if authority.transportInstanceId ≠ t.transportInstanceId ∨
      authority.expiresAtUnixSeconds ≤ now then none
  else (t.mailboxes.get? authority.mailboxId).filter fun record =>
    decide (record.expiresAtUnixSeconds = authority.expiresAtUnixSeconds ∧
      expected record = digests.capability authority.secret)

/-- The accepted envelope of one mailbox is no longer retained. -/
def dropEnvelope (mailboxId : Id16) :
    LocalMemoryWelcomeTransport :=
  { t with
    mailboxes := t.mailboxes.modify mailboxId fun record =>
      { record with accepted := record.accepted.map AcceptedEnvelope.dropped } }

/-- `receive`; the answer is the delivery identifier and the retained envelope. -/
def receive (authority : LocalWelcomeReceiveCapability) (now : Nat) : Except LocalTransportError
      (Option (DeliveryId × OpaqueEnvelope) × LocalMemoryWelcomeTransport) :=
  match t.authorized digests authority.toLocalMailboxAuthority (·.receiveDigest) now with
  | none => .error .rejected
  | some record =>
      match record.accepted with
      | none => .ok (none, t)
      | some accepted =>
          match accepted.envelope with
          | none => .ok (none, t)
          | some envelope =>
              if envelope.expiresAtUnixSeconds ≤ now then
                .ok (none, t.dropEnvelope authority.mailboxId)
              else .ok (some (accepted.deliveryId, envelope), t)

def acknowledge (authority : LocalWelcomeAcknowledgementCapability) (deliveryId : DeliveryId)
    (now : Nat) :
    Except LocalTransportError LocalMemoryWelcomeTransport :=
  match t.authorized digests authority.toLocalMailboxAuthority (·.acknowledgementDigest) now with
  | none => .error .rejected
  | some record =>
      match record.accepted with
      | none => .error .rejected
      | some accepted =>
          if accepted.deliveryId = deliveryId then .ok (t.dropEnvelope authority.mailboxId)
          else .error .rejected

/-! ## What a call leaves in the mailboxes -/

variable {digests} {t t' : LocalMemoryWelcomeTransport}

/-- The two ways in which a mailbox accepts bytes under a delivery identifier: it holds an
envelope of their digest already, or it holds none and they are its first. -/
inductive Accepts (digests : MailboxDigests) (t : LocalMemoryWelcomeTransport) (mailboxId : Id16)
    (bytes : Bytes) (id : DeliveryId) : LocalMemoryWelcomeTransport → Prop
  | again {record : LocalMailboxRecord} {a : AcceptedEnvelope}
      (hrecord : t.mailboxes.get? mailboxId = some record) (haccepted : record.accepted = some a)
      (hdigest : a.envelopeDigest = digests.envelope bytes) (hid : a.deliveryId = id) :
      Accepts digests t mailboxId bytes id t
  | first {record : LocalMailboxRecord} {envelope : OpaqueEnvelope}
      (hrecord : t.mailboxes.get? mailboxId = some record) (hempty : record.accepted = none)
      (hencoded : envelope.encodeCanonical = .ok bytes) :
      Accepts digests t mailboxId bytes id (t.accept mailboxId
        ⟨envelope.envelopeId, digests.envelope bytes, id, some envelope⟩)

variable {now : Nat} {bytes : Bytes} {mailboxId m : Id16} {id : DeliveryId}

theorem deposit_accepts {endpoint : LocalWelcomeDepositEndpoint} {envelope : OpaqueEnvelope}
    {draw : Option Id16} (hencoded : envelope.encodeCanonical = .ok bytes)
    (h : t.deposit digests endpoint envelope now draw = .ok (id, t')) :
    Accepts digests t endpoint.mailboxId bytes id t' := by
  simp only [deposit, hencoded] at h
  rcases hrecord : t.mailboxes.get? endpoint.mailboxId with _ | record
  · simp [hrecord] at h
  · simp only [hrecord] at h
    split_ifs at h
    rcases haccepted : record.accepted with _ | accepted
    · rcases hdraw : randomNonzero draw with e | deliveryId
      · simp [haccepted, hdraw] at h
      · simp only [haccepted, hdraw] at h
        obtain ⟨rfl, rfl⟩ := h
        exact .first hrecord haccepted hencoded
    · simp only [haccepted] at h
      split_ifs at h with hsame
      obtain ⟨rfl, rfl⟩ := Prod.mk.inj (Except.ok.inj h)
      exact .again hrecord haccepted hsame.2 rfl

theorem get?_accept (mailboxId m : Id16) (a : AcceptedEnvelope) :
    (t.accept mailboxId a).mailboxes.get? m = (t.mailboxes.get? m).map fun record =>
      if m = mailboxId then { record with accepted := some a } else record := by
  by_cases hm : m = mailboxId
  · simp [accept, hm]
  · simp [accept, hm]

/-- After it has accepted bytes, a mailbox remembers their digest and the identifier. -/
theorem Accepts.remembers (h : Accepts digests t mailboxId bytes id t')
    {record' : LocalMailboxRecord} (hrecord' : t'.mailboxes.get? mailboxId = some record') :
    ∃ a, record'.accepted = some a ∧ a.deliveryId = id ∧
      a.envelopeDigest = digests.envelope bytes := by
  cases h with
  | again hrecord haccepted hdigest hid =>
    obtain rfl := Option.some.inj (hrecord.symm.trans hrecord')
    exact ⟨_, haccepted, hid, hdigest⟩
  | first hrecord hempty hencoded =>
    simp only [get?_accept, hrecord, Option.map_some, Option.some.injEq] at hrecord'
    subst hrecord'
    exact ⟨_, rfl, rfl, rfl⟩

theorem Accepts.others (h : Accepts digests t mailboxId bytes id t') (hm : m ≠ mailboxId) :
    t'.mailboxes.get? m = t.mailboxes.get? m := by
  cases h with
  | again => rfl
  | first => simp [get?_accept, hm]

/-- Every mailbox was there before, and has at most lost the envelope it retained. -/
def Retains (t t' : LocalMemoryWelcomeTransport) : Prop :=
  ∀ m record', t'.mailboxes.get? m = some record' →
    ∃ record, t.mailboxes.get? m = some record ∧ (record'.accepted = record.accepted ∨
      record'.accepted = record.accepted.map AcceptedEnvelope.dropped)

theorem Retains.refl (t : LocalMemoryWelcomeTransport) : Retains t t :=
  fun _ record hrecord => ⟨record, hrecord, .inl rfl⟩

theorem retains_dropEnvelope (mailboxId : Id16) : Retains t (t.dropEnvelope mailboxId) := by
  intro m record' hrecord'
  by_cases hm : m = mailboxId
  · subst hm
    simp only [dropEnvelope, OrderedMap.get?_modify_self, Option.map_eq_some_iff] at hrecord'
    obtain ⟨record, hrecord, rfl⟩ := hrecord'
    exact ⟨record, hrecord, .inr rfl⟩
  · simp only [dropEnvelope, OrderedMap.get?_modify_of_ne _ _ hm] at hrecord'
    exact ⟨record', hrecord', .inl rfl⟩

theorem retains_receive {authority : LocalWelcomeReceiveCapability}
    {answer : Option (DeliveryId × OpaqueEnvelope)}
    (h : t.receive digests authority now = .ok (answer, t')) : Retains t t' := by
  unfold receive at h
  split at h
  · cases h
  split at h
  · cases h
    exact .refl t
  split at h
  · cases h
    exact .refl t
  split_ifs at h
  · cases h
    exact retains_dropEnvelope _
  · cases h
    exact .refl t

theorem retains_acknowledge {authority : LocalWelcomeAcknowledgementCapability}
    (h : t.acknowledge digests authority id now = .ok t') : Retains t t' := by
  unfold acknowledge at h
  split at h
  · cases h
  split at h
  · cases h
  split_ifs at h
  cases h
  exact retains_dropEnvelope _

theorem randomNonzero_eq_ok {w : Nat} {draw : Option (BitVec w)} {bytes : BitVec w}
    (h : randomNonzero draw = .ok bytes) : draw = some bytes := by
  unfold randomNonzero at h
  split at h
  · cases h
  · split_ifs at h
    cases h
    rfl

/-- A created mailbox has the drawn identifier and is empty; every other one was there. -/
theorem createWelcomeMailbox_mailboxes {expiresAt : Nat} {draws : MailboxDraws}
    {mailbox : LocalWelcomeMailbox}
    (h : t.createWelcomeMailbox digests expiresAt now draws = .ok (mailbox, t'))
    {record : LocalMailboxRecord} (hrecord : t'.mailboxes.get? m = some record) :
    (draws.mailboxId = some m ∧ record.accepted = none) ∨ t.mailboxes.get? m = some record := by
  unfold createWelcomeMailbox at h
  split_ifs at h
  rcases hdraw : randomNonzero draws.mailboxId with _ | mailboxId
  · simp [hdraw] at h
  simp only [hdraw] at h
  split_ifs at h
  rcases hsecrets : drawSecrets draws with _ | secrets
  · simp [hsecrets] at h
  simp only [hsecrets] at h
  split at h
  · cases h
  obtain ⟨-, rfl⟩ := h
  by_cases hm : m = mailboxId
  · subst hm
    simp only [OrderedMap.get?_insert_self, Option.some.injEq] at hrecord
    subst hrecord
    exact .inl ⟨randomNonzero_eq_ok hdraw, rfl⟩
  · simp only [OrderedMap.get?_insert_of_ne _ _ hm, live, OrderedMap.get?_retain,
      Option.filter_eq_some_iff] at hrecord
    exact .inr hrecord.1

end LocalMemoryWelcomeTransport

end SessionChat.Transport
