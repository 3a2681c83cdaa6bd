import SessionChat.Invitation.Ledger

/-!
# An invitation is used once (`crates/session-core/src/lib.rs`)

Every run of one registry with nondecreasing times keeps the three invariants. So an invitation
is consumed at most once and never reserved again, a record has one owner, a token is void once
its identifier is reissued, and the records stay within the policy.
-/

set_option autoImplicit false

namespace SessionChat.Invitation

open Collections Protocol Transition

variable {E : Ed25519} {policy : InvitationPolicy}

abbrev RegistryWorld (E : Ed25519) := World Host (Call E) Reply

/-- The time does not run back, a presented token is its caller's own, and an invitation
offered with the signature of an issued one is that one. -/
@[mk_iff] structure Admitted (w : RegistryWorld E) (c : Call E) : Prop where
  later : clock w.history ≤ c.now
  token : ∀ t ∈ c.token?, t ∈ w.state.tokens
  authentic : ∀ d ∈ c.offered?, ∀ d' ∈ issued w.history, d'.signature = d.signature → d' = d

instance (w : RegistryWorld E) (c : Call E) : Decidable (Admitted w c) :=
  decidable_of_iff' _ (admitted_iff w c)

def fresh (E : Ed25519) (policy : InvitationPolicy) : RegistryWorld E :=
  ⟨⟨.new policy, []⟩, []⟩

abbrev RegistryLeads : RegistryWorld E → RegistryWorld E → Prop :=
  Leads Host.call Admitted

def RegistryRun (policy : InvitationPolicy) (w : RegistryWorld E) : Prop :=
  RegistryLeads (fresh E policy) w

/-! ## The invariants hold along every run -/

/-- The three invariants, against the history. -/
structure Ledger (w : RegistryWorld E) : Prop where
  recorded : Recorded (issued w.history) (clock w.history) w.state.registry
  owned : Owned (issued w.history) w.state
  spent : Spent (issued w.history) (consumed w.history) (clock w.history) w.state.registry

theorem Ledger.fresh (E : Ed25519) (policy : InvitationPolicy) :
    Ledger (Invitation.fresh E policy) where
  recorded :=
    { room := Nat.zero_le _
      origin := fun _ _ hr => absurd hr (by rintro ⟨⟩)
      retained := List.forall_mem_nil _
      authentic := List.forall_mem_nil _ }
  owned :=
    { held := List.forall_mem_nil _
      single := List.forall_mem_nil _ }
  spent :=
    { origin := List.forall_mem_nil _
      once := List.forall_mem_nil _
      closed := List.forall_mem_nil _ }

variable {w v : RegistryWorld E} {c : Call E} {t : InvitationReservation} {d : Descriptor}
  {now : Nat}

theorem Ledger.after (h : Ledger w) (hc : Admitted w c) : Ledger (w.after Host.call c) := by
  have heffect := w.state.call_effect c hc.token
  have hauthentic : ∀ d ∈ (w.state.call c).2.issued?, ∀ d' ∈ issued w.history,
      d'.signature = d.signature → d' = d :=
    fun d hd => hc.authentic d (Host.offered_of_issued hd)
  have hrecorded := heffect.recorded hc.later hauthentic h.recorded
  have howned := heffect.owned hc.later h.recorded hrecorded h.owned
  have hspent := heffect.spent hc.later hauthentic h.recorded h.spent
  constructor
  · simpa [World.after] using hrecorded
  · simpa [World.after] using howned
  · simpa [World.after] using hspent

theorem RegistryRun.ledger (h : RegistryRun policy w) : Ledger w :=
  h.invariant (fun _ _ hc hw => hw.after hc) (Ledger.fresh E policy)

/-- The time of the last call does not decrease. -/
theorem clock_mono (h : RegistryLeads v w) : clock v.history ≤ clock w.history := by
  refine h.invariant (I := fun u => clock v.history ≤ clock u.history) ?_ (Nat.le_refl _)
  intro u c hc hu
  simpa [World.after] using hu.trans hc.later

theorem issued_subset (h : RegistryLeads v w) : issued v.history ⊆ issued w.history :=
  List.filterMap_subset _ h.history_subset

/-! ## Guarantees -/

theorem Ledger.not_reserved (h : Ledger w) (ht : t ∈ consumed w.history) (hd : d ∈ issued w.history)
    (hnames : t.Names d) {joinRequestId : BitVec 128} (hle : clock w.history ≤ now) :
    ∃ e, (w.state.registry.reserveDescriptor d joinRequestId now).1 = .error e := by
  obtain ⟨e, hcase⟩ | ⟨r, hlive, hr, -, havailable, -⟩ :=
    w.state.registry.reserveDescriptor_cases d joinRequestId now
  · exact ⟨e, by rw [hcase]⟩
  · have hconsumed := (h.spent.closed t ht d hd hnames).lifecycle_eq hle hlive hr
    rw [havailable] at hconsumed
    cases hconsumed

theorem Ledger.not_owner (h : Ledger w) (hd : d ∈ issued w.history) (hnames : t.Names d)
    (hexpired : d.expiresAtUnixSeconds ≤ now) :
    w.state.registry.validateReservation t now ≠ .ok () := by
  intro howns
  obtain ⟨d', hd', hnames', -, -, -, hlive, -⟩ := h.recorded.named_of_owns howns
  obtain rfl := h.recorded.eq_of_names hd hd' hnames hnames'
  omega

/-- When an identifier is reissued, every invitation that had it has expired. -/
theorem Ledger.expired_of_reissue (h : Ledger w) (hc : Admitted w c) {d' : Descriptor}
    (hissued : (w.state.call c).2.issued? = some d) (hd' : d' ∈ issued w.history)
    (hid : d'.invitationId = d.invitationId) : d'.expiresAtUnixSeconds ≤ c.now := by
  have heffect := w.state.call_effect c hc.token
  rw [hissued] at heffect
  generalize consumed? _ = consume? at heffect
  generalize (w.state.call c).1 = s' at heffect
  cases heffect with
  | issue hlive hfree hroom =>
    rcases h.recorded.retained d' hd' with hexpired | ⟨r, hr, hmatches⟩
    · exact hexpired.trans hc.later
    · rw [← hmatches.2.1]
      exact hfree r (hid ▸ hr)

/-- The calls that need a token's reservation, for one token at one time. -/
def tokenCalls (E : Ed25519) (t : InvitationReservation) (now : Nat) : List (Call E) :=
  [.release t now, .consume t now, .validateReservation t now]

theorem refused_of_not_owner {s : Host} (h : s.registry.validateReservation t now ≠ .ok ())
    (hc : c ∈ tokenCalls E t now) : (s.call c).2.Refused ∧ (s.call c).1.registry = s.registry := by
  suffices hrefused : (s.call c).2.Refused from ⟨hrefused, s.call_refused c hrefused⟩
  have hsettle : ∀ next, ∃ e, (s.registry.settle next t now).1 = .error e := by
    intro next
    obtain ⟨⟨e, hcase⟩, -⟩ | ⟨howns, -⟩ := s.registry.settle_cases next t now
    · exact ⟨e, by rw [hcase]⟩
    · exact absurd howns h
  simp only [tokenCalls, List.mem_cons, List.not_mem_nil, or_false] at hc
  rcases hc with rfl | rfl | rfl
  · exact hsettle .available
  · exact hsettle .consumed
  · cases hanswer : s.registry.validateReservation t now with
    | error e => exact ⟨e, hanswer⟩
    | ok u => exact absurd hanswer h

/-- The guarantees of one registry at one moment of a run. -/
structure SingleUse (policy : InvitationPolicy) (w : RegistryWorld E) : Prop where
  /-- Each issued invitation is consumed at most once. -/
  consumed_once : ∀ d ∈ issued w.history,
    ((consumed w.history).countP fun t => decide (t.Names d)) ≤ 1
  /-- Every consumed token was handed out for an issued invitation. -/
  consumed_issued : ∀ t ∈ consumed w.history, ∃ d ∈ issued w.history, t.Names d
  /-- Every call that asks to reserve a consumed invitation is refused. -/
  never_reserved_again : ∀ d ∈ issued w.history, (∃ t ∈ consumed w.history, t.Names d) →
    ∀ c : Call E, c.wanted? = some d → clock w.history ≤ c.now → (w.state.call c).2.Refused
  /-- At any time, at most one outstanding token owns the record under an identifier. -/
  one_owner : ∀ id now, (w.state.tokens.countP fun t => decide (t.invitationId = id ∧
    w.state.registry.validateReservation t now = .ok ())) ≤ 1
  /-- Once an invitation of either schema is issued under the identifier of a token, that
  token settles nothing. -/
  stale_token : ∀ (v u : RegistryWorld E) (c : Call E) (d : Descriptor), RegistryRun policy v →
    RegistryLeads v u → Admitted u c → (u.state.call c).2.issued? = some d →
    RegistryLeads (u.after Host.call c) w → ∀ t ∈ v.state.tokens,
    t.invitationId = d.invitationId → ∀ now, clock w.history ≤ now → ∀ c' ∈ tokenCalls E t now,
    (w.state.call c').2.Refused ∧ (w.state.call c').1.registry = w.state.registry
  /-- The unexpired records are within the policy, at any time. -/
  capacity : ∀ now,
    (w.state.registry.live now).size ≤ w.state.registry.policy.maximumLiveInvitations
  /-- A call that returns an error changes no record. -/
  refused_unchanged : ∀ c : Call E, (w.state.call c).2.Refused →
    (w.state.call c).1.registry.records = w.state.registry.records

/-- Every run of one registry with nondecreasing times has the guarantees. -/
theorem invitation_single_use {w : RegistryWorld E} (h : RegistryRun policy w) :
    SingleUse policy w where
  consumed_once := h.ledger.spent.once
  consumed_issued := h.ledger.spent.origin
  never_reserved_again d hd hconsumed c hwanted hle := by
    obtain ⟨t, ht, hnames⟩ := hconsumed
    cases c with
    | reserve invitation joinRequestId now =>
      obtain rfl := Option.some.inj hwanted
      exact h.ledger.not_reserved ht hd hnames hle
    | reserveV2 invitation joinRequestId now =>
      obtain rfl := Option.some.inj hwanted
      exact h.ledger.not_reserved ht hd hnames hle
    | issue | issueV2 | validateDescriptor | validateDescriptorV2 | release | consume
    | validateReservation => cases hwanted
  one_owner := h.ledger.owned.one_owner h.ledger.recorded
  stale_token v u c d hv hvu hc hissued huw t ht hid now hle c' hc' := by
    obtain ⟨d', hd', hnames⟩ := hv.ledger.owned.held t ht
    have hu : Ledger u := RegistryRun.ledger (hv.trans hvu)
    have hexpired := hu.expired_of_reissue hc hissued (issued_subset hvu hd')
      (hnames.1.symm.trans hid)
    have hclock := clock_mono huw
    simp only [World.after, clock_append] at hclock
    have hd'w : d' ∈ issued w.history := issued_subset ((hvu.tail hc).trans huw) hd'
    exact refused_of_not_owner (h.ledger.not_owner hd'w hnames (by omega)) hc'
  capacity now := (Collections.OrderedMap.size_retain_le _ _).trans h.ledger.recorded.room
  refused_unchanged c hrefused :=
    congrArg InvitationRegistry.records (w.state.call_refused c hrefused)

/-- Until it expires, an issued invitation shows its consumption and its outstanding token. -/
theorem lifecycle_reports (h : RegistryRun policy w) (hd : d ∈ issued w.history)
    (hlive : clock w.history < d.expiresAtUnixSeconds) :
    ∃ view, w.state.registry.lifecycle d.invitationId = some view ∧
      ((∃ t ∈ consumed w.history, t.Names d) → view = .consumed) ∧
      ((∃ t ∈ w.state.tokens, t.Names d) → view = .reserved) := by
  have hlive := Nat.not_le.mpr hlive
  obtain ⟨r, hr, hmatches⟩ := (h.ledger.recorded.retained d hd).resolve_left hlive
  refine ⟨r.lifecycle.view, by rw [InvitationRegistry.lifecycle, hr]; rfl, ?_, ?_⟩
  · rintro ⟨t, ht, hnames⟩
    obtain ⟨_, hr', -, hconsumed⟩ := (h.ledger.spent.closed t ht d hd hnames).resolve_left hlive
    cases hr.symm.trans hr'
    rw [hconsumed]
    rfl
  · rintro ⟨t, ht, hnames⟩
    rw [(h.ledger.owned.single d hd r hr hmatches).2 t ht hnames]
    rfl

/-! ## A run with a reissued identifier -/

/-- A signature scheme for runs on concrete invitations: the last bytes of the message. -/
def sampleEd25519 : Ed25519 where
  SigningKey := Unit
  verifyingKey _ := 1
  sign _ message := BitVec.ofNat 512 (Codec.ofBigEndian message)
  isVerifyingKey _ := true
  verifyStrict _ _ _ := true

theorem sampleLifetime_ne_zero : 60 ≠ 0 := by decide

def samplePolicy : InvitationPolicy := ⟨60, 5, 1, sampleLifetime_ne_zero, Nat.one_ne_zero⟩

theorem sampleId_ne_zero : (7 : BitVec 128) ≠ 0 := by decide

theorem sampleChallenge_ne_zero : (9 : BitVec 256) ≠ 0 := by decide

def sampleClaims (issuedAt : UInt64) (capability : SecretCapability)
    (h : issuedAt < issuedAt + 10) : CapabilityInvitationClaims :=
  ⟨7, issuedAt, issuedAt + 10, 9, capability, sampleId_ne_zero, sampleChallenge_ne_zero, h⟩

theorem firstCapability_ne_zero : (3 : BitVec 256) ≠ 0 := by decide

def firstClaims : CapabilityInvitationClaims :=
  sampleClaims 100 ⟨3, firstCapability_ne_zero⟩ (by decide)

def secondClaims : CapabilityInvitationClaims := sampleClaims 110 ⟨4, by decide⟩ (by decide)

def firstToken : InvitationReservation :=
  ⟨7, 5, (SignedCapabilityInvitation.sign sampleEd25519 firstClaims ()).signature, .v1⟩

/-- The first invitation is reserved and consumed, and its identifier reissued. -/
def sampleCalls : List (Call sampleEd25519) :=
  [.issue firstClaims () 100,
    .reserve (SignedCapabilityInvitation.sign sampleEd25519 firstClaims ()) 5 101,
    .consume firstToken 102, .issue secondClaims () 110]

theorem invitation_single_use_reissued :
    RegistryRun samplePolicy ((fresh sampleEd25519 samplePolicy).afterAll Host.call sampleCalls) ∧
      consumed ((fresh sampleEd25519 samplePolicy).afterAll Host.call sampleCalls).history =
        [firstToken] ∧ SingleUse samplePolicy
        ((fresh sampleEd25519 samplePolicy).afterAll Host.call sampleCalls) := by
  have hrun : RegistryRun samplePolicy
      ((fresh sampleEd25519 samplePolicy).afterAll Host.call sampleCalls) :=
    leads_afterAll (by decide +kernel)
  exact ⟨hrun, by decide +kernel, invitation_single_use hrun⟩

theorem lifecycle_reports_consumed :
    let w := (fresh sampleEd25519 samplePolicy).afterAll Host.call (sampleCalls.take 3)
    ∃ d ∈ issued w.history, w.state.registry.lifecycle d.invitationId = some .consumed := by
  intro w
  have hrun : RegistryRun samplePolicy w := leads_afterAll (by decide +kernel)
  obtain ⟨d, hd, hlive, hconsumed⟩ : ∃ d ∈ issued w.history,
      clock w.history < d.expiresAtUnixSeconds ∧ ∃ t ∈ consumed w.history, t.Names d := by
    decide +kernel
  obtain ⟨view, hview, h, -⟩ := lifecycle_reports hrun hd hlive
  exact ⟨d, hd, hview.trans (congrArg some (h hconsumed))⟩

end SessionChat.Invitation
