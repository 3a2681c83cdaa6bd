import SessionChat.Invitation.Ledger
import SessionChat.Admission.Exits

/-!
# What the inviter's side keeps (`crates/admission-capability/src/lib.rs`)

The invariants of the system: those of the registry, over the tokens of all values in it;
that every replay entry has its owner; that a join's invitation is closed or awaits its
settlement; and that the value which borrows verifier and registry can be settled.
-/

set_option autoImplicit false

namespace SessionChat.Admission

open Invitation

variable {issued : List Descriptor} {clock now : Nat} {s s' : Service}

/-! ## Who owns what -/

namespace Slot

def tokens : Slot → List InvitationReservation
  | .free => []
  | .prepared p => [p.invitationReservation]
  | .applied value _ => [value.invitationReservation]
  | .settling value _ => [value.invitationReservation]

/-- The replay entry of a prepared addition; later it is the join's. -/
def owners : Slot → List PendingReplay
  | .prepared p => [p.join.entry]
  | _ => []

def awaiting : Slot → List InvitationReservation
  | .applied value _ => [value.invitationReservation]
  | .settling value _ => [value.invitationReservation]
  | _ => []

end Slot

namespace Service

def tokens (s : Service) : List InvitationReservation :=
  s.slot.tokens ++ (s.values.filterMap Value.token? ++ (s.free ++ s.abandoned))

def owners (s : Service) : List PendingReplay :=
  s.slot.owners ++ (s.values.map Value.entry ++ s.joined.map Join.entry)

/-- The reservations of joins that were not settled. -/
def awaiting (s : Service) : List InvitationReservation :=
  s.slot.awaiting ++ s.abandoned

variable {old : Value} (states : CapabilityAdmissionVerifier × InvitationRegistry)

theorem tokens_perm (hfree : s.slot = .free) (hmem : old ∈ s.values) :
    s.tokens.Perm (old.token?.toList ++ (s.advance old none states).tokens) := by
  have hvalues := (List.perm_cons_erase hmem).filterMap Value.token?
  simp only [tokens, advance, hfree]
  cases htoken : old.token? with
  | none =>
    rw [List.filterMap_cons_none htoken] at hvalues
    exact hvalues.append_right _
  | some t =>
    rw [List.filterMap_cons_some htoken] at hvalues
    exact hvalues.append_right _

theorem owners_perm (hfree : s.slot = .free) (hmem : old ∈ s.values) :
    s.owners.Perm (old.entry :: (s.advance old none states).owners) := by
  have hvalues := (List.perm_cons_erase hmem).map Value.entry
  simp only [owners, advance, hfree]
  exact hvalues.append_right _

theorem tokens_advance (old new : Value) (hfree : s.slot = .free) :
    (s.advance old (some new) states).tokens =
      new.token?.toList ++ (s.advance old none states).tokens := by
  simp only [tokens, advance, replace, hfree, Slot.tokens]
  cases htoken : new.token? <;> simp [htoken]

theorem owners_advance (old new : Value) (hfree : s.slot = .free) :
    (s.advance old (some new) states).owners = new.entry :: (s.advance old none states).owners := by
  simp only [owners, advance, replace, hfree, Slot.owners, List.nil_append, Option.toList_none,
    Option.toList_some, List.cons_append, List.map_cons]

end Service

/-! ## Joins -/

/-- Every join is of an issued invitation, no two are of the same, and the invitation is
closed unless the join awaits its settlement. -/
structure Joins (issued : List Descriptor) (clock : Nat) (g : InvitationRegistry)
    (joined : List Join) (awaiting : List InvitationReservation) : Prop where
  origin : ∀ j ∈ joined, ∃ d ∈ issued, j.invitation.Names d
  once : ∀ d ∈ issued, (joined.countP fun j => decide (j.invitation.Names d)) ≤ 1
  closed : ∀ j ∈ joined, ∀ d ∈ issued, j.invitation.Names d →
    Closed d clock g ∨ j.invitation ∈ awaiting

namespace Joins

variable {g g' : InvitationRegistry} {joined : List Join}
  {awaiting awaiting' l l' : List InvitationReservation} {issue? : Option Descriptor}
  {consume? : Option InvitationReservation} {j : Join}

section

variable (h : Joins issued clock g joined awaiting)
include h

theorem effect (heffect : Effect ⟨g, l⟩ now issue? consume? ⟨g', l'⟩) (hle : clock ≤ now)
    (hauthentic : ∀ d ∈ issue?, ∀ d' ∈ issued, d'.signature = d.signature → d' = d)
    (hrecorded : Recorded issued clock g) :
    Joins (issued ++ issue?.toList) now g' joined awaiting := by
  have hnew : ∀ d ∈ issue?, ∀ j ∈ joined, ¬j.invitation.Names d := by
    rintro d rfl j hj
    exact heffect.not_named_of_issue hle hrecorded (hauthentic d rfl) (h.origin j hj)
  constructor
  · intro j hj
    obtain ⟨d, hd, hnames⟩ := h.origin j hj
    exact ⟨d, List.mem_append_left _ hd, hnames⟩
  · intro d hd
    rcases List.mem_append.mp hd with hd | hd
    · exact h.once d hd
    · have hnone := hnew d (Option.mem_toList.mp hd)
      rw [List.countP_eq_zero.mpr fun j hj => by simpa using hnone j hj]
      exact Nat.zero_le 1
  · intro j hj d hd hnames
    rcases List.mem_append.mp hd with hd | hd
    · exact (h.closed j hj d hd hnames).imp_left (heffect.closed hle)
    · exact absurd hnames (hnew d (Option.mem_toList.mp hd) j hj)

/-- More joins may be awaited than are. -/
theorem mono (hsub : awaiting ⊆ awaiting') : Joins issued clock g joined awaiting' where
  origin := h.origin
  once := h.once
  closed j hj d hd hnames := (h.closed j hj d hd hnames).imp_right fun hmem => hsub hmem

/-- A join whose invitation is closed is no longer awaited. -/
theorem settled {token : InvitationReservation}
    (hclosed : ∀ d ∈ issued, token.Names d → Closed d clock g)
    (hsub : ∀ a ∈ awaiting, a = token ∨ a ∈ awaiting') : Joins issued clock g joined awaiting' where
  origin := h.origin
  once := h.once
  closed j hj d hd hnames := by
    rcases h.closed j hj d hd hnames with hdone | hmem
    · exact .inl hdone
    · rcases hsub _ hmem with htoken | hmem
      · exact .inl (hclosed d hd (htoken ▸ hnames))
      · exact .inr hmem

/-- A join of an invitation that has none. -/
theorem add (horigin : ∃ d ∈ issued, j.invitation.Names d)
    (hnone : ∀ d ∈ issued, j.invitation.Names d → ∀ j' ∈ joined, ¬j'.invitation.Names d)
    (hclosed : ∀ d ∈ issued, j.invitation.Names d → Closed d clock g ∨ j.invitation ∈ awaiting) :
    Joins issued clock g (j :: joined) awaiting := by
  constructor
  · intro j' hj'
    rcases List.mem_cons.mp hj' with rfl | hj'
    · exact horigin
    · exact h.origin j' hj'
  · intro d hd
    rw [List.countP_cons]
    by_cases hnames : j.invitation.Names d
    · rw [List.countP_eq_zero.mpr fun j' hj' => by simpa using hnone d hd hnames j' hj']
      split <;> omega
    · simpa [hnames] using h.once d hd
  · intro j' hj' d hd hnames
    rcases List.mem_cons.mp hj' with rfl | hj'
    · exact hclosed d hd hnames
    · exact h.closed j' hj' d hd hnames

/-- A join proven uncommitted is none. -/
theorem remove (hj : j ∈ joined) (hsub : ∀ a ∈ awaiting, a = j.invitation ∨ a ∈ awaiting') :
    Joins issued clock g (joined.erase j) awaiting' where
  origin j' hj' := h.origin j' (List.mem_of_mem_erase hj')
  once d hd := (List.erase_sublist.countP_le).trans (h.once d hd)
  closed j' hj' d hd hnames := by
    rcases h.closed j' (List.mem_of_mem_erase hj') d hd hnames with hdone | hmem
    · exact .inl hdone
    · refine .inr ((hsub _ hmem).resolve_left fun hsame => ?_)
      -- Otherwise the invitation would have two joins.
      have hone := h.once d hd
      have hnames₀ : j.invitation.Names d := hsame ▸ hnames
      have hrest : 0 < (joined.erase j).countP fun j => decide (j.invitation.Names d) :=
        List.countP_pos_iff.mpr ⟨j', hj', decide_eq_true hnames⟩
      rw [(List.perm_cons_erase hj).countP_eq, List.countP_cons,
        if_pos (decide_eq_true hnames₀)] at hone
      omega

end

end Joins

/-! ## The invariant -/

/-- An applied join can be settled either way. -/
structure Settleable (s : Service) (clock : Nat) (value : DurableCapabilityShadowSettlement)
    (join : Join) : Prop where
  time : value.appliedAtUnixSeconds = clock
  owns : s.registry.validateReservation value.invitationReservation clock = .ok ()
  entry : join.entry ∈ s.verifier.pending
  replay : join.entry.reservation = value.replayReservation
  invitation : join.invitation = value.invitationReservation
  joined : join ∈ s.joined

/-- The value that borrows verifier and registry still owns its reservations. -/
def Service.Ready (s : Service) (clock : Nat) : Prop :=
  match s.slot with
  | .free => True
  | .prepared p => p.nowUnixSeconds = clock ∧
      s.registry.validateReservation p.invitationReservation clock = .ok () ∧
      p.join.entry ∈ s.verifier.pending
  | .applied value join =>
      Settleable s clock (CapabilityAdmissionVerifier.intoDurableOwnerParts value) join
  | .settling value join => Settleable s clock value join

structure Sound (issued : List Descriptor) (clock : Nat) (s : Service) : Prop where
  recorded : Recorded issued clock s.registry
  owned : Owned issued ⟨s.registry, s.tokens⟩
  backed : Backed clock ⟨s.registry, s.tokens⟩
  tracked : Tracked s.verifier s.owners clock
  joins : Joins issued clock s.registry s.joined s.awaiting
  ready : s.Ready clock

namespace Sound

/-- One effect of the registry, over all the tokens. -/
theorem of_effect (h : Sound issued clock s) (hle : clock ≤ now) {l l' : List InvitationReservation}
    {issue? : Option Descriptor} {consume? : Option InvitationReservation}
    (hsource : s.tokens.Perm l)
    (heffect : Effect ⟨s.registry, l⟩ now issue? consume? ⟨s'.registry, l'⟩)
    (htarget : l'.Perm s'.tokens)
    (hauthentic : ∀ d ∈ issue?, ∀ d' ∈ issued, d'.signature = d.signature → d' = d)
    (htracked : Tracked s'.verifier s'.owners now)
    (hjoins : Joins (issued ++ issue?.toList) now s'.registry s'.joined s'.awaiting)
    (hready : s'.Ready now) : Sound (issued ++ issue?.toList) now s' := by
  have hrecorded := heffect.recorded hle hauthentic h.recorded
  have howned := heffect.owned hle h.recorded hrecorded (h.owned.subperm hsource.symm.subperm)
  exact
    { recorded := hrecorded
      owned := howned.subperm htarget.symm.subperm
      backed := (heffect.backed hle (h.backed.perm hsource)).perm htarget
      tracked := htracked
      joins := hjoins
      ready := hready }

end Sound

end SessionChat.Admission
