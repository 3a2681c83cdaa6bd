import SessionChat.Invitation.Host

/-!
# The registry against what it has issued (`crates/session-core/src/lib.rs`)

Invariants of a registry and its callers, relative to the invitations issued, the tokens consumed
and the time reached: the records are issued invitations and only an expired one is missing; a
record has at most one token, which its lifecycle names; and a consumed invitation stays consumed
until it expires.
-/

set_option autoImplicit false

namespace SessionChat.Invitation

open Collections

variable {issued : List Descriptor} {consumed : List InvitationReservation} {clock now : Nat}
  {g : InvitationRegistry} {s : Host} {d : Descriptor} {token : InvitationReservation}
  {id : BitVec 128} {r : InvitationRecord} {lifecycle : StoredInvitationLifecycle}

def InvitationReservation.Names (token : InvitationReservation) (d : Descriptor) : Prop :=
  token.invitationId = d.invitationId ∧ token.recordSignature = d.signature ∧
    token.schema = d.schema
deriving Decidable

/-! ## Lookups after each update -/

namespace InvitationRegistry

theorem get?_live :
    (g.live now).get? id = some r ↔ g.records.get? id = some r ∧ now < r.expiresAtUnixSeconds := by
  simp [live, OrderedMap.get?_retain]

theorem get?_recording_self (d : Descriptor) (now : Nat) :
    (g.recording d now).records.get? d.invitationId = some (.ofDescriptor d) := by
  simp [recording]

theorem get?_recording_of_ne (hne : id ≠ d.invitationId) :
    (g.recording d now).records.get? id = some r ↔
      g.records.get? id = some r ∧ now < r.expiresAtUnixSeconds := by
  rw [← get?_live, recording, OrderedMap.get?_insert_of_ne _ _ hne]

theorem get?_setLifecycle_self (hr : g.records.get? id = some r) :
    (g.setLifecycle id lifecycle).records.get? id = some (r.withLifecycle lifecycle) := by
  simp [setLifecycle, hr]

theorem get?_setLifecycle_of_ne {id' : BitVec 128} (hne : id' ≠ id) :
    (g.setLifecycle id lifecycle).records.get? id' = g.records.get? id' := by
  simp [setLifecycle, hne]

end InvitationRegistry

open InvitationRegistry

/-! ## Records -/

/-- The records are issued invitations, within the bound, and an issued invitation without
its record has expired. -/
structure Recorded (issued : List Descriptor) (clock : Nat) (g : InvitationRegistry) : Prop where
  room : g.records.size ≤ g.policy.maximumLiveInvitations
  origin : ∀ id r, g.records.get? id = some r →
    ∃ d ∈ issued, d.invitationId = id ∧ r.Matches d
  retained : ∀ d ∈ issued, d.expiresAtUnixSeconds ≤ clock ∨
    ∃ r, g.records.get? d.invitationId = some r ∧ r.Matches d
  authentic : ∀ d ∈ issued, ∀ d' ∈ issued, d.signature = d'.signature → d = d'

namespace Recorded

section

variable (h : Recorded issued clock g)
include h

theorem later (hle : clock ≤ now) : Recorded issued now g where
  room := h.room
  origin := h.origin
  retained d hd := (h.retained d hd).imp_left fun hexpired => hexpired.trans hle
  authentic := h.authentic

/-- The owner of a live record holds the token of one issued invitation. -/
theorem named_of_owns (howns : g.validateReservation token now = .ok ()) :
    ∃ d ∈ issued, token.Names d ∧ ∃ r, g.records.get? d.invitationId = some r ∧ r.Matches d ∧
      now < d.expiresAtUnixSeconds ∧ r.lifecycle = .reserved token.joinRequestId := by
  obtain ⟨r, hr, hlive, hschema, hsignature, hreserved⟩ := validateReservation_eq_ok.mp howns
  obtain ⟨d, hd, hid, hmatches⟩ := h.origin _ r hr
  refine ⟨d, hd, ⟨hid.symm, ?_, ?_⟩, r, hid ▸ hr, hmatches, hmatches.2.1 ▸ hlive, hreserved⟩
  · rw [← hsignature, hmatches.2.2.2]
  · rw [← hschema, hmatches.1]

/-- Tokens of one issued invitation and of another differ. -/
theorem eq_of_names {d' : Descriptor} (hd : d ∈ issued) (hd' : d' ∈ issued) (hnames : token.Names d)
    (hnames' : token.Names d') : d = d' :=
  h.authentic d hd d' hd' (hnames.2.1.symm.trans hnames'.2.1)

/-- An invitation that can be recorded now was never recorded before. -/
theorem fresh (hle : clock ≤ now) (hlive : now < d.expiresAtUnixSeconds)
    (hfree : ∀ r, g.records.get? d.invitationId = some r → r.expiresAtUnixSeconds ≤ now) :
    d ∉ issued := by
  intro hd
  rcases h.retained d hd with hexpired | ⟨r, hr, hmatches⟩
  · omega
  · have hexpired := hfree r hr
    rw [hmatches.2.1] at hexpired
    omega

end

/-- The record of a live invitation survives the next issue. -/
theorem get?_recording_of_live (hlive : now < r.expiresAtUnixSeconds)
    (hr : g.records.get? id = some r)
    (hfree : ∀ r, g.records.get? d.invitationId = some r → r.expiresAtUnixSeconds ≤ now) :
    (g.recording d now).records.get? id = some r := by
  have hne : id ≠ d.invitationId := by
    rintro rfl
    exact absurd (hfree r hr) (Nat.not_le.mpr hlive)
  exact (get?_recording_of_ne hne).mpr ⟨hr, hlive⟩

theorem issue (h : Recorded issued clock g) (hle : clock ≤ now)
    (hfree : ∀ r, g.records.get? d.invitationId = some r → r.expiresAtUnixSeconds ≤ now)
    (hroom : (g.live now).size < g.policy.maximumLiveInvitations)
    (hauthentic : ∀ d' ∈ issued, d'.signature = d.signature → d' = d) :
    Recorded (issued ++ [d]) now (g.recording d now) where
  room := (OrderedMap.size_insert_le _ _ _).trans hroom
  origin id r hr := by
    by_cases hid : id = d.invitationId
    · subst hid
      rw [get?_recording_self, Option.some.injEq] at hr
      exact ⟨d, by simp, rfl, hr ▸ InvitationRecord.ofDescriptor_matches d⟩
    · obtain ⟨d', hd', hcase⟩ := h.origin id r ((get?_recording_of_ne hid).mp hr).1
      exact ⟨d', List.mem_append_left _ hd', hcase⟩
  retained d' hd' := by
    rcases List.mem_append.mp hd' with hd' | hd'
    · rcases h.retained d' hd' with hexpired | ⟨r, hr, hmatches⟩
      · exact .inl (hexpired.trans hle)
      · rcases Nat.lt_or_ge now r.expiresAtUnixSeconds with hlive | hexpired
        · exact .inr ⟨r, get?_recording_of_live hlive hr hfree, hmatches⟩
        · exact .inl (hmatches.2.1 ▸ hexpired)
    · obtain rfl := List.mem_singleton.mp hd'
      exact .inr ⟨_, get?_recording_self d' now, InvitationRecord.ofDescriptor_matches d'⟩
  authentic a ha b hb hsame := by
    rcases List.mem_append.mp ha with hold | hnew <;>
      rcases List.mem_append.mp hb with hold' | hnew'
    · exact h.authentic a hold b hold' hsame
    · obtain rfl := List.mem_singleton.mp hnew'
      exact hauthentic a hold hsame
    · obtain rfl := List.mem_singleton.mp hnew
      exact (hauthentic b hold' hsame.symm).symm
    · exact (List.mem_singleton.mp hnew).trans (List.mem_singleton.mp hnew').symm

/-- A record at an identifier after a change of lifecycle is the one before. -/
theorem exists_of_get?_setLifecycle {id' : BitVec 128}
    (hr : (g.setLifecycle id' lifecycle).records.get? id = some r) :
    ∃ r', g.records.get? id = some r' ∧ ∀ d, r.Matches d ↔ r'.Matches d := by
  by_cases hid : id = id'
  · subst hid
    rw [setLifecycle, OrderedMap.get?_modify_self] at hr
    obtain ⟨r', hr', rfl⟩ := Option.map_eq_some_iff.mp hr
    exact ⟨r', hr', fun d => Iff.rfl⟩
  · rw [get?_setLifecycle_of_ne hid] at hr
    exact ⟨r, hr, fun d => Iff.rfl⟩

theorem setLifecycle (h : Recorded issued clock g) (id : BitVec 128)
    (lifecycle : StoredInvitationLifecycle) :
    Recorded issued clock (g.setLifecycle id lifecycle) where
  room := by
    simpa [InvitationRegistry.setLifecycle] using h.room
  origin id' r hr := by
    obtain ⟨r', hr', hsame⟩ := exists_of_get?_setLifecycle hr
    obtain ⟨d, hd, hid, hmatches⟩ := h.origin id' r' hr'
    exact ⟨d, hd, hid, (hsame d).mpr hmatches⟩
  retained d hd := by
    refine (h.retained d hd).imp_right ?_
    rintro ⟨r, hr, hmatches⟩
    by_cases hid : d.invitationId = id
    · subst hid
      exact ⟨_, get?_setLifecycle_self hr, hmatches⟩
    · exact ⟨r, (get?_setLifecycle_of_ne hid).trans hr, hmatches⟩
  authentic := h.authentic

end Recorded

/-! ## Tokens -/

/-- Every token is of an issued invitation, and the record of that invitation, while it is
there, is reserved for the one token it has. -/
structure Owned (issued : List Descriptor) (s : Host) : Prop where
  held : ∀ t ∈ s.tokens, ∃ d ∈ issued, t.Names d
  single : ∀ d ∈ issued, ∀ r, s.registry.records.get? d.invitationId = some r → r.Matches d →
    (s.tokens.countP fun t => decide (t.Names d)) ≤ 1 ∧
      ∀ t ∈ s.tokens, t.Names d → r.lifecycle = .reserved t.joinRequestId

namespace Owned

/-- Fewer tokens, in any order. -/
theorem subperm (h : Owned issued s) {tokens : List InvitationReservation}
    (hsub : tokens.Subperm s.tokens) : Owned issued ⟨s.registry, tokens⟩ where
  held t ht := h.held t (hsub.subset ht)
  single d hd r hr hmatches := by
    obtain ⟨hone, hreserved⟩ := h.single d hd r hr hmatches
    exact ⟨(hsub.countP_le _).trans hone, fun t ht => hreserved t (hsub.subset ht)⟩

theorem issue (h : Owned issued s) (hrecorded : Recorded (issued ++ [d]) now
    (s.registry.recording d now)) (hfresh : d ∉ issued) :
    Owned (issued ++ [d]) ⟨s.registry.recording d now, s.tokens⟩ where
  held t ht := by
    obtain ⟨d', hd', hnames⟩ := h.held t ht
    exact ⟨d', List.mem_append_left _ hd', hnames⟩
  single d' hd' r hr hmatches := by
    by_cases hid : d'.invitationId = d.invitationId
    · have hnew : d' = d := by
        rw [hid, get?_recording_self, Option.some.injEq] at hr
        subst hr
        exact hrecorded.authentic d' hd' d (by simp) hmatches.2.2.2.symm
      subst hnew
      have hnone : ∀ t ∈ s.tokens, ¬t.Names d' := by
        intro t ht hnames
        obtain ⟨d₁, hd₁, hnames₁⟩ := h.held t ht
        have hsame := hrecorded.eq_of_names hd' (List.mem_append_left _ hd₁) hnames hnames₁
        exact hfresh (hsame ▸ hd₁)
      refine ⟨?_, fun t ht hnames => absurd hnames (hnone t ht)⟩
      rw [List.countP_eq_zero.mpr fun t ht => by simpa using hnone t ht]
      exact Nat.zero_le 1
    · have hold : d' ∈ issued := by
        rcases List.mem_append.mp hd' with hd' | hd'
        · exact hd'
        · exact absurd (congrArg Descriptor.invitationId (List.mem_singleton.mp hd')) hid
      exact h.single d' hold r ((get?_recording_of_ne hid).mp hr).1 hmatches

section

variable (h : Owned issued s) (hrecorded : Recorded issued clock s.registry)
include h hrecorded

theorem reserve (hr : s.registry.records.get? d.invitationId = some r) (hmatches : r.Matches d)
    (havailable : r.lifecycle = .available) (joinRequestId : BitVec 128) :
    Owned issued ⟨s.registry.setLifecycle d.invitationId (.reserved joinRequestId),
      ⟨d.invitationId, joinRequestId, d.signature, d.schema⟩ :: s.tokens⟩ where
  held t ht := by
    rcases List.mem_cons.mp ht with rfl | ht
    · obtain ⟨d', hd', hid, hmatches'⟩ := hrecorded.origin _ r hr
      exact ⟨d', hd', hid.symm, hmatches.2.2.2.symm.trans hmatches'.2.2.2,
        hmatches.1.symm.trans hmatches'.1⟩
    · exact h.held t ht
  single d' hd' r' hr' hmatches' := by
    by_cases hid : d'.invitationId = d.invitationId
    · rw [hid, get?_setLifecycle_self hr, Option.some.injEq] at hr'
      subst hr'
      have hnone : ∀ t ∈ s.tokens, ¬t.Names d' := by
        intro t ht hnames
        have hreserved := (h.single d' hd' r (hid ▸ hr) hmatches').2 t ht hnames
        rw [havailable] at hreserved
        cases hreserved
      constructor
      · have hzero : (s.tokens.countP fun t => decide (t.Names d')) = 0 :=
          List.countP_eq_zero.mpr fun t ht => by simpa using hnone t ht
        rw [List.countP_cons]
        split <;> omega
      · intro t ht hnames
        rcases List.mem_cons.mp ht with rfl | ht
        · rfl
        · exact absurd hnames (hnone t ht)
    · have hother : ¬InvitationReservation.Names
          ⟨d.invitationId, joinRequestId, d.signature, d.schema⟩ d' :=
        fun hnames => hid hnames.1.symm
      rw [get?_setLifecycle_of_ne hid] at hr'
      obtain ⟨hone, hreserved⟩ := h.single d' hd' r' hr' hmatches'
      refine ⟨by simpa [hother] using hone, fun t ht hnames => ?_⟩
      rcases List.mem_cons.mp ht with rfl | ht
      · exact absurd hnames hother
      · exact hreserved t ht hnames

theorem settle (htoken : token ∈ s.tokens)
    (howns : s.registry.validateReservation token now = .ok ()) (next : StoredInvitationLifecycle) :
    Owned issued ⟨s.registry.setLifecycle token.invitationId next, s.tokens.erase token⟩ where
  held t ht := h.held t (List.mem_of_mem_erase ht)
  single d' hd' r' hr' hmatches' := by
    obtain ⟨d, hd, hnames, r, hr, hmatches, -, -⟩ := hrecorded.named_of_owns howns
    by_cases hid : d'.invitationId = token.invitationId
    · -- The token is the one the record had, so none is left.
      have hr₀ : s.registry.records.get? d'.invitationId = some r := by
        rw [hid, hnames.1]
        exact hr
      rw [← hid, get?_setLifecycle_self hr₀, Option.some.injEq] at hr'
      subst hr'
      have hsame : d = d' :=
        hrecorded.authentic d hd d' hd' (hmatches.2.2.2.symm.trans hmatches'.2.2.2)
      subst hsame
      have hone := (h.single d hd r hr hmatches).1
      have hzero : ((s.tokens.erase token).countP fun t => decide (t.Names d)) = 0 := by
        rw [(List.perm_cons_erase htoken).countP_eq, List.countP_cons,
          if_pos (decide_eq_true hnames)] at hone
        omega
      rw [hzero]
      refine ⟨Nat.zero_le 1, fun t ht hnamed => ?_⟩
      exact absurd hnamed (by simpa using List.countP_eq_zero.mp hzero t ht)
    · rw [get?_setLifecycle_of_ne hid] at hr'
      obtain ⟨hone, hreserved⟩ := h.single d' hd' r' hr' hmatches'
      exact ⟨(List.erase_sublist.countP_le).trans hone,
        fun t ht => hreserved t (List.mem_of_mem_erase ht)⟩

/-- Two tokens of the same caller do not both own a record. -/
theorem one_owner (id : BitVec 128) (now : Nat) :
    (s.tokens.countP fun t => decide (t.invitationId = id ∧
      s.registry.validateReservation t now = .ok ())) ≤ 1 := by
  by_cases hany : ∃ t ∈ s.tokens, t.invitationId = id ∧
      s.registry.validateReservation t now = .ok ()
  · obtain ⟨t, ht, hid, howns⟩ := hany
    obtain ⟨d, hd, hnames, r, hr, hmatches, -, -⟩ := hrecorded.named_of_owns howns
    refine le_trans (List.countP_mono_left fun t' _ hcond => ?_) (h.single d hd r hr hmatches).1
    obtain ⟨hid', howns'⟩ := of_decide_eq_true hcond
    obtain ⟨d', hd', hnames', r', hr', hmatches', -, -⟩ := hrecorded.named_of_owns howns'
    have hrecord : r' = r := by
      rw [← hnames'.1, hid', ← hid, hnames.1, hr, Option.some.injEq] at hr'
      exact hr'.symm
    subst hrecord
    have hsame := hrecorded.authentic d' hd' d hd (hmatches'.2.2.2.symm.trans hmatches.2.2.2)
    exact decide_eq_true (hsame ▸ hnames')
  · rw [List.countP_eq_zero.mpr]
    · exact Nat.zero_le 1
    · intro t ht hcond
      exact hany ⟨t, ht, of_decide_eq_true hcond⟩

end

end Owned

/-! ## Owners -/

/-- A reserved record that has not expired has the token of its join request. -/
def Backed (clock : Nat) (s : Host) : Prop :=
  ∀ id r j, s.registry.records.get? id = some r → r.lifecycle = .reserved j →
    r.expiresAtUnixSeconds ≤ clock ∨ ⟨id, j, r.signature, r.schema⟩ ∈ s.tokens

namespace Backed

theorem perm (h : Backed clock s) {tokens : List InvitationReservation}
    (hperm : s.tokens.Perm tokens) : Backed clock ⟨s.registry, tokens⟩ :=
  fun id r j hr hj => (h id r j hr hj).imp_right hperm.mem_iff.mp

/-- Only the token of the changed record is given up. -/
theorem settle (h : Backed clock s) (hle : clock ≤ now) {next : StoredInvitationLifecycle}
    (hnext : ∀ j, next ≠ .reserved j) :
    Backed now ⟨s.registry.setLifecycle token.invitationId next, s.tokens.erase token⟩ := by
  intro id r j hr hj
  by_cases hid : id = token.invitationId
  · rw [hid, InvitationRegistry.setLifecycle, OrderedMap.get?_modify_self] at hr
    obtain ⟨r', -, rfl⟩ := Option.map_eq_some_iff.mp hr
    exact absurd hj (hnext j)
  · rw [get?_setLifecycle_of_ne hid] at hr
    rcases h id r j hr hj with hexpired | htoken
    · exact .inl (hexpired.trans hle)
    · refine .inr ((List.mem_erase_of_ne ?_).mpr htoken)
      rintro rfl
      exact hid rfl

end Backed

/-! ## Consumption -/

/-- The invitation can no longer be reserved: it has expired, or its record is consumed. -/
def Closed (d : Descriptor) (clock : Nat) (g : InvitationRegistry) : Prop :=
  d.expiresAtUnixSeconds ≤ clock ∨
    ∃ r, g.records.get? d.invitationId = some r ∧ r.Matches d ∧ r.lifecycle = .consumed

namespace Closed

theorem later (h : Closed d clock g) (hle : clock ≤ now) : Closed d now g :=
  h.imp_left fun hexpired => hexpired.trans hle

theorem issue (h : Closed d clock g) (hle : clock ≤ now) {d' : Descriptor}
    (hfree : ∀ r, g.records.get? d'.invitationId = some r → r.expiresAtUnixSeconds ≤ now) :
    Closed d now (g.recording d' now) := by
  rcases h with hexpired | ⟨r, hr, hmatches, hconsumed⟩
  · exact .inl (hexpired.trans hle)
  · rcases Nat.lt_or_ge now r.expiresAtUnixSeconds with hlive | hexpired
    · exact .inr ⟨r, Recorded.get?_recording_of_live hlive hr hfree, hmatches, hconsumed⟩
    · exact .inl (hmatches.2.1 ▸ hexpired)

/-- The lifecycle of a consumed record does not change. -/
theorem setLifecycle (h : Closed d clock g) (hr : g.records.get? id = some r)
    (hopen : r.lifecycle ≠ .consumed) (lifecycle : StoredInvitationLifecycle) :
    Closed d clock (g.setLifecycle id lifecycle) := by
  refine h.imp_right ?_
  rintro ⟨r', hr', hmatches, hconsumed⟩
  have hid : d.invitationId ≠ id := by
    rintro rfl
    rw [hr, Option.some.injEq] at hr'
    exact hopen (hr' ▸ hconsumed)
  exact ⟨r', (get?_setLifecycle_of_ne hid).trans hr', hmatches, hconsumed⟩

theorem lifecycle_eq (h : Closed d clock g) (hle : clock ≤ now)
    (hlive : now < d.expiresAtUnixSeconds) (hr : g.records.get? d.invitationId = some r) :
    r.lifecycle = .consumed := by
  rcases h with hexpired | ⟨r', hr', -, hconsumed⟩
  · omega
  · rw [hr, Option.some.injEq] at hr'
    rw [hr']
    exact hconsumed

end Closed

/-- A consumed invitation was issued, was consumed once, and stays closed. -/
structure Spent (issued : List Descriptor) (consumed : List InvitationReservation) (clock : Nat)
    (g : InvitationRegistry) : Prop where
  origin : ∀ t ∈ consumed, ∃ d ∈ issued, t.Names d
  once : ∀ d ∈ issued, (consumed.countP fun t => decide (t.Names d)) ≤ 1
  closed : ∀ t ∈ consumed, ∀ d ∈ issued, t.Names d → Closed d clock g

/-! ## What each effect keeps -/

namespace Effect

variable {s' : Host} {issue? : Option Descriptor} {consume? : Option InvitationReservation}

section

variable (heffect : Effect s now issue? consume? s') (hle : clock ≤ now)
include heffect hle

theorem recorded (hauthentic : ∀ d ∈ issue?, ∀ d' ∈ issued, d'.signature = d.signature → d' = d)
    (h : Recorded issued clock s.registry) :
    Recorded (issued ++ issue?.toList) now s'.registry := by
  cases heffect with
  | issue hlive hfree hroom => exact h.issue hle hfree hroom (hauthentic _ rfl)
  | idle | reserve | release | consume =>
    rw [Option.toList_none, List.append_nil]
    first
      | exact h.later hle
      | exact (h.later hle).setLifecycle _ _

theorem owned (hrecorded : Recorded issued clock s.registry)
    (hrecorded' : Recorded (issued ++ issue?.toList) now s'.registry) (h : Owned issued s) :
    Owned (issued ++ issue?.toList) s' := by
  cases heffect with
  | idle hsub hlost =>
    rw [Option.toList_none, List.append_nil]
    exact h.subperm hsub.subperm
  | issue hlive hfree hroom => exact h.issue hrecorded' (hrecorded.fresh hle hlive hfree)
  | reserve hlive hr hmatches havailable =>
    rw [Option.toList_none, List.append_nil]
    exact h.reserve hrecorded hr hmatches havailable _
  | release htoken howns | consume htoken howns =>
    rw [Option.toList_none, List.append_nil]
    exact h.settle hrecorded htoken howns _

theorem backed (h : Backed clock s) : Backed now s' := by
  cases heffect with
  | @idle tokens hsub hlost =>
    intro id r j hr hj
    rcases h id r j hr hj with hexpired | htoken
    · exact .inl (hexpired.trans hle)
    · by_contra hnot
      rw [not_or, Nat.not_le] at hnot
      refine hlost _ htoken hnot.2 (validateReservation_eq_ok.mpr ?_)
      exact ⟨r, hr, hnot.1, rfl, rfl, hj⟩
  | @issue d hlive hfree hroom =>
    intro id r j hr hj
    by_cases hid : id = d.invitationId
    · rw [hid, get?_recording_self, Option.some.injEq] at hr
      rw [← hr] at hj
      cases hj
    · obtain ⟨hold, -⟩ := (get?_recording_of_ne hid).mp hr
      exact (h id r j hold hj).imp_left fun hexpired => hexpired.trans hle
  | @reserve d joinRequestId r hlive hr hmatches havailable =>
    intro id r' j hr' hj
    by_cases hid : id = d.invitationId
    · rw [hid, get?_setLifecycle_self hr, Option.some.injEq] at hr'
      rw [← hr'] at hj ⊢
      obtain rfl := StoredInvitationLifecycle.reserved.inj hj
      refine .inr (List.mem_cons.mpr (.inl ?_))
      rw [hid, ← hmatches.1, ← hmatches.2.2.2]
      rfl
    · rw [get?_setLifecycle_of_ne hid] at hr'
      exact (h id r' j hr' hj).imp (fun hexpired => hexpired.trans hle) (List.mem_cons_of_mem _)
  | release htoken howns | consume htoken howns => exact h.settle hle fun _ => (by simp)

theorem closed (h : Closed d clock s.registry) : Closed d now s'.registry := by
  cases heffect with
  | idle hsub hlost => exact h.later hle
  | issue hlive hfree hroom => exact h.issue hle hfree
  | reserve hlive hr hmatches havailable =>
    exact (h.later hle).setLifecycle hr (by simp [havailable]) _
  | release htoken howns | consume htoken howns =>
    obtain ⟨r, hr, -, -, -, hreserved⟩ := validateReservation_eq_ok.mp howns
    exact (h.later hle).setLifecycle hr (by simp [hreserved]) _

end

/-- A consumed token's invitation is closed from then on. -/
theorem closed_of_consume (heffect : Effect s now issue? (some token) s')
    (hrecorded : Recorded issued clock s.registry) (hd : d ∈ issued) (hnames : token.Names d) :
    Closed d now s'.registry := by
  cases heffect with
  | consume htoken howns =>
    obtain ⟨d', hd', hnames', r, hr, hmatches, -, -⟩ := hrecorded.named_of_owns howns
    obtain rfl := hrecorded.eq_of_names hd hd' hnames hnames'
    rw [hnames.1]
    exact .inr ⟨_, get?_setLifecycle_self hr, hmatches, rfl⟩

/-- An invitation recorded just now has no token. -/
theorem not_named_of_issue (heffect : Effect s now (some d) consume? s') (hle : clock ≤ now)
    (hrecorded : Recorded issued clock s.registry)
    (hauthentic : ∀ d' ∈ issued, d'.signature = d.signature → d' = d)
    (horigin : ∃ d ∈ issued, token.Names d) : ¬token.Names d := by
  intro hnames
  cases heffect with
  | issue hlive hfree hroom =>
    obtain ⟨d', hd', hnames'⟩ := horigin
    obtain rfl := hauthentic d' hd' (hnames'.2.1.symm.trans hnames.2.1)
    exact hrecorded.fresh hle hlive hfree hd'

theorem not_closed_of_consume (heffect : Effect s now issue? (some token) s') (hle : clock ≤ now)
    (hrecorded : Recorded issued clock s.registry) (hd : d ∈ issued) (hnames : token.Names d) :
    ¬Closed d clock s.registry := by
  intro hclosed
  cases heffect with
  | consume htoken howns =>
    obtain ⟨d', hd', hnames', r, hr, hmatches, hlive, hreserved⟩ :=
      hrecorded.named_of_owns howns
    obtain rfl := hrecorded.eq_of_names hd hd' hnames hnames'
    rw [hclosed.lifecycle_eq hle hlive hr] at hreserved
    cases hreserved

theorem spent_of_none (heffect : Effect s now issue? none s') (hle : clock ≤ now)
    (hauthentic : ∀ d ∈ issue?, ∀ d' ∈ issued, d'.signature = d.signature → d' = d)
    (hrecorded : Recorded issued clock s.registry) (h : Spent issued consumed clock s.registry) :
    Spent (issued ++ issue?.toList) consumed now s'.registry := by
  have hnew : ∀ d ∈ issue?, ∀ t ∈ consumed, ¬t.Names d := by
    rintro d rfl t ht
    exact heffect.not_named_of_issue hle hrecorded (hauthentic d rfl) (h.origin t ht)
  constructor
  · intro t ht
    obtain ⟨d, hd, hnames⟩ := h.origin t ht
    exact ⟨d, List.mem_append_left _ hd, hnames⟩
  · intro d hd
    rcases List.mem_append.mp hd with hd | hd
    · exact h.once d hd
    · have hnone := hnew d (Option.mem_toList.mp hd)
      rw [List.countP_eq_zero.mpr fun t ht => by simpa using hnone t ht]
      exact Nat.zero_le 1
  · intro t ht d hd hnames
    rcases List.mem_append.mp hd with hd | hd
    · exact heffect.closed hle (h.closed t ht d hd hnames)
    · exact absurd hnames (hnew d (Option.mem_toList.mp hd) t ht)

/-- The owner of a live record consumes an invitation that was not consumed before. -/
theorem spent_of_consume (heffect : Effect s now none (some token) s') (hle : clock ≤ now)
    (hrecorded : Recorded issued clock s.registry) (h : Spent issued consumed clock s.registry) :
    Spent issued (consumed ++ [token]) now s'.registry := by
  constructor
  · intro t ht
    rcases List.mem_append.mp ht with ht | ht
    · exact h.origin t ht
    · obtain rfl := List.mem_singleton.mp ht
      cases heffect with
      | consume htoken howns =>
        obtain ⟨d, hd, hnames, -⟩ := hrecorded.named_of_owns howns
        exact ⟨d, hd, hnames⟩
  · intro d hd
    rw [List.countP_append]
    by_cases hnames : token.Names d
    · have hopen := heffect.not_closed_of_consume hle hrecorded hd hnames
      have hnone : ∀ t ∈ consumed, ¬t.Names d := fun t ht hn => hopen (h.closed t ht d hd hn)
      rw [List.countP_eq_zero.mpr fun t ht => by simpa using hnone t ht]
      exact (Nat.zero_add _).trans_le List.countP_le_length
    · simpa [hnames] using h.once d hd
  · intro t ht d hd hnames
    rcases List.mem_append.mp ht with ht | ht
    · exact heffect.closed hle (h.closed t ht d hd hnames)
    · obtain rfl := List.mem_singleton.mp ht
      exact heffect.closed_of_consume hrecorded hd hnames

theorem spent (heffect : Effect s now issue? consume? s') (hle : clock ≤ now)
    (hauthentic : ∀ d ∈ issue?, ∀ d' ∈ issued, d'.signature = d.signature → d' = d)
    (hrecorded : Recorded issued clock s.registry) (h : Spent issued consumed clock s.registry) :
    Spent (issued ++ issue?.toList) (consumed ++ consume?.toList) now s'.registry := by
  rcases consume? with _ | token
  · simpa using heffect.spent_of_none hle hauthentic hrecorded h
  · have hissue : issue? = none := by
      cases heffect
      rfl
    subst hissue
    simpa using heffect.spent_of_consume hle hrecorded h

end Effect

end SessionChat.Invitation
