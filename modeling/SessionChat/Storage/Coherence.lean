import SessionChat.Storage.Effect

/-!
# Every effect keeps the tables coherent (`crates/storage-sqlcipher/src/schema.rs`)

One lemma for each effect, and from them the rule for chains. Where an effect
replaces a row, the argument is the same throughout: keys determine rows, so a row
that shares an invitation with a replaced one is the replaced one.
-/

set_option autoImplicit false

namespace SessionChat.Storage

open Relational

/-! ## Keys determine rows -/

namespace Tables.Valid

variable {t : Tables} (h : t.Valid)

include h

variable {o o' : OpeningRow}

theorem opening_eq (ho : o ∈ t.openings) (ho' : o' ∈ t.openings)
    (hid : o.invitationId = o'.invitationId) : o = o' :=
  h.openings.eq_of_clash ho ho' (by simp [openingConstraints, hid])

theorem opening_eq_of_generation (ho : o ∈ t.openings) (ho' : o' ∈ t.openings)
    (hgen : o.generation = o'.generation) : o = o' :=
  h.openings.eq_of_clash ho ho' (by simp [openingConstraints, hgen])

theorem attempt_eq {a b : AttemptRow} (ha : a ∈ t.attempts) (hb : b ∈ t.attempts)
    (hid : a.attemptId = b.attemptId) : a = b :=
  h.attempts.eq_of_clash ha hb (by simp [attemptConstraints, hid])

theorem attempt_eq_of_transaction {a b : AttemptRow} {tx : Id16} (ha : a ∈ t.attempts)
    (hb : b ∈ t.attempts) (hta : a.transactionId = some tx) (htb : b.transactionId = some tx) :
    a = b :=
  h.attempts.eq_of_clash ha hb (by simp [attemptConstraints, hta, htb])

theorem join_eq {j k : InviterJoinRow} (hj : j ∈ t.inviterJoins) (hk : k ∈ t.inviterJoins)
    (htx : j.transactionId = k.transactionId) : j = k :=
  h.inviterJoins.eq_of_clash hj hk (by simp [inviterJoinConstraints, htx])

theorem join_eq_of_invitation {j k : InviterJoinRow} (hj : j ∈ t.inviterJoins)
    (hk : k ∈ t.inviterJoins) (hid : j.invitationId = k.invitationId) : j = k :=
  h.inviterJoins.eq_of_clash hj hk (by simp [inviterJoinConstraints, hid])

theorem reservation_eq {r r' : ReservationRow} (hr : r ∈ t.reservations)
    (hr' : r' ∈ t.reservations) (hid : r.invitationId = r'.invitationId) : r = r' :=
  h.reservations.eq_of_clash hr hr' (by simp [reservationConstraints, hid])

/-- An update of openings that assigns neither a key nor a checked column breaks no
constraint. -/
theorem patchOpenings {p : OpeningRow → Bool} {f : OpeningRow → OpeningRow}
    (hf : ∀ o, (f o).invitationId = o.invitationId ∧ (f o).generation = o.generation ∧
      (f o).signedInvitation = o.signedInvitation ∧ (f o).issuedAt = o.issuedAt ∧
      (f o).expiresAt = o.expiresAt) :
    Tables.Valid { t with openings := t.openings.map (patch p f) } := by
  have hid := patch_field (·.invitationId) (p := p) fun o => (hf o).1
  have hgen := patch_field (·.generation) (p := p) fun o => (hf o).2.1
  have hsigned := patch_field (·.signedInvitation) (p := p) fun o => (hf o).2.2.1
  have hissued := patch_field (·.issuedAt) (p := p) fun o => (hf o).2.2.2.1
  have hexpires := patch_field (·.expiresAt) (p := p) fun o => (hf o).2.2.2.2
  refine { h with openings := h.openings.map ?_ ?_, attempt_reference := ?_ }
  · intro o ho
    have hcheck := h.openings.1 o ho
    simp only [openingConstraints] at hcheck ⊢
    rwa [hsigned, hissued, hexpires]
  · intro a _ b _ hclash
    simp only [openingConstraints] at hclash ⊢
    rwa [hid, hid, hgen, hgen] at hclash
  · intro a ha
    obtain ⟨o, ho, hsame⟩ := h.attempt_reference a ha
    exact ⟨_, List.mem_map_of_mem ho, (hid o).trans hsame⟩

/-- Moving attempts to a state their transaction identifiers fit breaks no constraint. -/
theorem moveAttempts {p : AttemptRow → Bool} {s : AuthorizationState}
    (hs : ∀ a ∈ t.attempts, p a = true → s.admitsTransaction a.transactionId = true) :
    Tables.Valid { t with attempts := t.attempts.map (patch p (AttemptRow.withState s)) } := by
  refine { h with attempts := h.attempts.map ?_ ?_, attempt_reference := ?_ }
  · intro a ha
    have hcheck := h.attempts.1 a ha
    cases hp : p a with
    | false => rwa [patch_neg hp]
    | true =>
      rw [patch_pos hp]
      simp only [attemptConstraints, decide_eq_true_eq] at hcheck ⊢
      exact ⟨hcheck.1, hcheck.2.1, hcheck.2.2.1, hs a ha hp⟩
  · intro a _ b _ hclash
    have hkeys : ∀ c : AttemptRow, patch p (AttemptRow.withState s) c = c ∨
        patch p (AttemptRow.withState s) c = c.withState s := by
      intro c
      unfold patch
      split <;> simp
    obtain ha | ha := hkeys a <;> obtain hb | hb := hkeys b <;> rw [ha, hb] at hclash <;>
      exact hclash
  · intro a' ha'
    obtain ⟨a, ha, rfl⟩ := List.mem_map.mp ha'
    obtain ⟨o, ho, hsame⟩ := h.attempt_reference a ha
    have hkept := patch_field (·.invitationId) (p := p) (f := AttemptRow.withState s)
      (fun _ => rfl) a
    exact ⟨o, ho, hsame.trans hkept.symm⟩

end Tables.Valid

/-- The opening of an attempt is the only one of its invitation. -/
theorem OpeningRow.Owns.unique {t : Tables} (h : t.Valid) {o o' : OpeningRow} {a : AttemptRow}
    (ho : o ∈ t.openings) (ho' : o' ∈ t.openings) (howns : o.Owns a) (howns' : o'.Owns a) :
    o = o' :=
  h.opening_eq ho ho' (howns.1.trans howns'.1.symm)

variable {tx : Option Id16}

/-- The moved row asks for the same things, so it keeps every key. -/
theorem AttemptRow.Nonzero.moved {a : AttemptRow} (h : a.Nonzero) (s : AuthorizationState)
    (htx : tx ≠ some 0) : (a.moved s tx).Nonzero :=
  { h with transactionId := htx }

theorem liveAuthorizationRows_le {t t' : Tables} {a b : AttemptRow} (ha : a.state.live = true)
    (heq : t'.attempts = replaceRow a b t.attempts) :
    liveAuthorizationRows t' ≤ liveAuthorizationRows t := by
  rw [liveAuthorizationRows, heq]
  exact countP_replaceRow_le fun _ => ha

theorem generationAttempts_le {t t' : Tables} {a : AttemptRow} {s : AuthorizationState} {id : Id16}
    {gen : Generation} (heq : t'.attempts = replaceRow a (a.moved s tx) t.attempts) :
    generationAttempts t' id gen ≤ generationAttempts t id gen := by
  rw [generationAttempts, heq]
  exact countP_replaceRow_le fun hmoved => hmoved

namespace Coherent

variable {policy : AuthorizationPolicy} {db db' : Db} {a : AttemptRow} {o o' : OpeningRow}
  {s : AuthorizationState} {r : ReservationRow} {j : InviterJoinRow}

/-- A fresh store is coherent. -/
theorem created (policy : AuthorizationPolicy) (storeId : { id : Id16 // id ≠ 0 }) :
    Coherent policy (createSchema policy storeId).tables where
  userVersion := rfl
  metadata := ⟨storeId, storeId.2, rfl⟩
  identity := List.forall_mem_nil _
  opening_nonzero := List.forall_mem_nil _
  key_iff := List.forall_mem_nil _
  attempt_nonzero := List.forall_mem_nil _
  attempt_opening := List.forall_mem_nil _
  live_reserved := List.forall_mem_nil _
  reserved_live := List.forall_mem_nil _
  live_unique := List.forall_mem_nil _
  committed_consumed := List.forall_mem_nil _
  committed_join := List.forall_mem_nil _
  committed_reservation := List.forall_mem_nil _
  consumed_committed := List.forall_mem_nil _
  join_committed := List.forall_mem_nil _
  opening_count := Nat.zero_le _
  live_count := Nat.zero_le _
  generation_count _ _ := Nat.zero_le _

/-! ## Compaction -/

section

variable (h : Coherent policy db.tables)
include h

/-- An attempt is deleted only with its opening, and an opening only with all of its
attempts. -/
theorem compact {now : Nat} (hfree : db.tables.Compactable now)
    (heq : db'.tables = db.tables.compacted now) : Coherent policy db'.tables := by
  have huniq := @OpeningRow.Owns.unique _ db.isValid
  have hopening : ∀ o, o ∈ (db.tables.compacted now).openings ↔
      o ∈ db.tables.openings ∧ (now < o.expiresAt ∨ o.state = .reserved) := by
    simp [Tables.compacted]
  have hattempt : ∀ a, a ∈ (db.tables.compacted now).attempts ↔
      a ∈ db.tables.attempts ∧ (now < a.invitationExpiresAt ∨ a.state.live = true) := by
    simp [Tables.compacted]
  -- a retained opening keeps all of its attempts, and a retained attempt its opening
  have hkeep : ∀ o ∈ (db.tables.compacted now).openings, ∀ a ∈ db.tables.attempts, o.Owns a →
      a ∈ (db.tables.compacted now).attempts := by
    intro o ho a ha howns
    have := h.attempt_opening a ha
    grind [Tables.Compactable]
  rw [heq]
  exact { h with
    opening_nonzero := by grind [h.opening_nonzero]
    key_iff := by grind [h.key_iff]
    attempt_nonzero := by grind [h.attempt_nonzero]
    attempt_opening := by
      have := h.attempt_opening
      have := h.live_reserved
      grind
    live_reserved := by grind [h.live_reserved]
    reserved_live := by grind [h.reserved_live]
    live_unique := by grind [h.live_unique]
    committed_consumed := by grind [h.committed_consumed]
    committed_join := fun a ha => h.committed_join a ((hattempt a).mp ha).1
    committed_reservation := fun a ha => h.committed_reservation a ((hattempt a).mp ha).1
    consumed_committed := by grind [h.consumed_committed]
    join_committed := by
      intro j hj o ho hid hgen
      obtain ⟨a, ha, hresult, hstate⟩ :=
        h.join_committed j hj o ((hopening o).mp ho).1 hid hgen
      have howns : o.Owns a := ⟨hid.trans hresult.2.1, hgen.trans hresult.2.2.1⟩
      exact ⟨a, hkeep o ho a ha howns, hresult, hstate⟩
    opening_count := (List.length_filter_le _ _).trans h.opening_count
    live_count := List.filter_sublist.countP_le.trans h.live_count
    generation_count := fun id gen =>
      List.filter_sublist.countP_le.trans (h.generation_count id gen) }

/-! ## Openings alone -/

theorem issue (hstate : o.state = .available)
    (hkey : o.hpkePrivateKey ≠ 0) (hid : o.invitationId ≠ 0) (hgen : o.generation ≠ 0)
    (hroom : db.tables.openings.length < policy.maximumLiveInvitations)
    (hfresh : ∀ j ∈ db.tables.inviterJoins,
      ¬(j.invitationId = o.invitationId ∧ j.generation = o.generation))
    (heq : db'.tables = { db.tables with openings := db.tables.openings ++ [o] }) :
    Coherent policy db'.tables := by
  -- the new opening shares no invitation with a stored one, so no attempt is its own
  have hvalid := db'.isValid
  rw [heq] at hvalid
  have hnew : ∀ a ∈ db.tables.attempts, ¬o.Owns a := by
    intro a ha howns
    obtain ⟨o', ho', howns', -⟩ := h.attempt_opening a ha
    have hfree := (TableConstraints.hold_append_singleton.mp hvalid.openings).2.2 o' ho'
    have hsame : o'.invitationId = o.invitationId := howns'.1.trans howns.1.symm
    simp [openingConstraints, hsame] at hfree
  rw [heq]
  exact { h with
    opening_nonzero := by grind [h.opening_nonzero]
    key_iff := by grind [h.key_iff]
    attempt_opening := by
      have := h.attempt_opening
      grind
    live_reserved := by grind [h.live_reserved]
    reserved_live := by grind [h.reserved_live]
    committed_consumed := by grind [h.committed_consumed]
    consumed_committed := by grind [h.consumed_committed]
    join_committed := by grind [h.join_committed]
    opening_count := by simpa [Nat.add_one_le_iff] using hroom }

theorem terminalize (ho : o ∈ db.tables.openings)
    (hstate : o.state = .available) (heq : db'.tables =
      { db.tables with openings := replaceRow o (o.erased .unusable) db.tables.openings }) :
    Coherent policy db'.tables := by
  have hown : ∀ a, (o.erased .unusable).Owns a ↔ o.Owns a := fun a => Iff.rfl
  rw [heq]
  exact { h with
    opening_nonzero := by grind [h.opening_nonzero, OpeningRow.erased]
    key_iff := by grind [h.key_iff, OpeningRow.erased]
    attempt_opening := by
      have := h.attempt_opening
      grind [OpeningRow.erased]
    live_reserved := by grind [h.live_reserved]
    reserved_live := by grind [h.reserved_live, OpeningRow.erased]
    committed_consumed := by grind [h.committed_consumed]
    consumed_committed := by grind [h.consumed_committed, OpeningRow.erased]
    join_committed := by grind [h.join_committed, OpeningRow.erased]
    opening_count := by simpa using h.opening_count }

/-! ## Attempts and their openings -/

theorem reserve (ho : o ∈ db.tables.openings) (howns : o.Owns a)
    (hstate : o.state = .available)
    (hexpires : o.expiresAt = a.invitationExpiresAt) (hpending : a.state = .pendingApproval)
    (hnonzero : a.Nonzero)
    (hlive : liveAuthorizationRows db.tables < policy.maximumRetainedAttempts)
    (hgeneration : generationAttempts db.tables a.invitationId a.generation <
      policy.maximumRetainedAttempts) (heq : db'.tables =
      { db.tables with
        attempts := db.tables.attempts ++ [a]
        openings := replaceRow o (o.withState .reserved) db.tables.openings }) :
    Coherent policy db'.tables := by
  have huniq := @OpeningRow.Owns.unique _ db.isValid
  have hown : ∀ b, (o.withState .reserved).Owns b ↔ o.Owns b := fun b => Iff.rfl
  -- before the reservation the invitation had no live attempt
  have hnone : ∀ b ∈ db.tables.attempts, o.Owns b → b.state.live = false := by
    intro b hb hb'
    have := h.live_reserved b hb
    grind
  have hpendingLive : a.state.live = true := by rw [hpending]; rfl
  rw [heq]
  exact { h with
    opening_nonzero := by grind [h.opening_nonzero, OpeningRow.withState]
    key_iff := by grind [h.key_iff, OpeningRow.withState]
    attempt_nonzero := by grind [h.attempt_nonzero]
    attempt_opening := by
      have := h.attempt_opening
      grind [OpeningRow.withState]
    live_reserved := by grind [h.live_reserved, OpeningRow.withState]
    reserved_live := by grind [h.reserved_live]
    live_unique := by grind [h.live_unique, OpeningRow.Owns]
    committed_consumed := by
      have := h.committed_consumed
      grind
    committed_join := by grind [h.committed_join]
    committed_reservation := by grind [h.committed_reservation]
    consumed_committed := by grind [h.consumed_committed, OpeningRow.withState]
    join_committed := by
      have := h.join_committed
      grind [OpeningRow.withState]
    opening_count := by simpa using h.opening_count
    live_count := by simpa [liveAuthorizationRows, hpendingLive, Nat.add_one_le_iff] using hlive
    generation_count := by
      intro id gen
      have hold := h.generation_count id gen
      by_cases hsame : a.invitationId = id ∧ a.generation = gen
      · obtain ⟨rfl, rfl⟩ := hsame
        simpa [generationAttempts, Nat.add_one_le_iff] using hgeneration
      · simpa [generationAttempts, hsame] using hold }

section

variable (ha : a ∈ db.tables.attempts)
include ha

theorem advance {tx : Option Id16}
    (hlive : a.state.live = true) (hs : s.live = true) (htx : tx ≠ some 0) (heq : db'.tables =
      { db.tables with attempts := replaceRow a (a.moved s tx) db.tables.attempts }) :
    Coherent policy db'.tables := by
  have hown : ∀ o : OpeningRow, o.Owns (a.moved s tx) ↔ o.Owns a := fun o => Iff.rfl
  have hmoved : (a.moved s tx).state.live = true := hs
  have hcommitted : AuthorizationState.live .committed = false := rfl
  rw [heq]
  exact { h with
    attempt_nonzero := by
      have := (h.attempt_nonzero a ha).moved s htx
      grind [h.attempt_nonzero]
    attempt_opening := by
      have := h.attempt_opening
      grind [AttemptRow.moved]
    live_reserved := by grind [h.live_reserved]
    reserved_live := by grind [h.reserved_live]
    live_unique := by
      have := h.live_unique
      grind [AttemptRow.moved]
    committed_consumed := by grind [h.committed_consumed]
    committed_join := by grind [h.committed_join]
    committed_reservation := by grind [h.committed_reservation]
    consumed_committed := by grind [h.consumed_committed]
    join_committed := by grind [h.join_committed]
    live_count := (liveAuthorizationRows_le hlive rfl).trans h.live_count
    generation_count := fun id gen =>
      (generationAttempts_le rfl).trans (h.generation_count id gen) }

theorem settle
    (ho : o ∈ db.tables.openings) (howns : o.Owns a) (hlive : a.state.live = true)
    (hs : s = .rejected ∨ s = .abandoned)
    (ho' : o' = o.withState .available ∨ o' = o.erased .unusable) (heq : db'.tables =
      { db.tables with
        attempts := replaceRow a (a.moved s a.transactionId) db.tables.attempts
        openings := replaceRow o o' db.tables.openings }) : Coherent policy db'.tables := by
  have huniq := @OpeningRow.Owns.unique _ db.isValid
  have hreserved := h.live_reserved a ha hlive o ho howns
  have hkey := (h.key_iff o ho).mpr (.inr hreserved)
  have hfields : o'.invitationId = o.invitationId ∧ o'.generation = o.generation ∧
      o'.expiresAt = o.expiresAt ∧ (o'.state = .available ∨ o'.state = .unusable) ∧
      (o'.hpkePrivateKey ≠ 0 ↔ o'.state = .available) := by
    rcases ho' with rfl | rfl
    · simpa [OpeningRow.withState] using hkey
    · simp [OpeningRow.erased]
  have hown : ∀ b, o'.Owns b ↔ o.Owns b := by
    simp [OpeningRow.Owns, hfields]
  have hown' : ∀ q : OpeningRow, q.Owns (a.moved s a.transactionId) ↔ q.Owns a :=
    fun q => Iff.rfl
  have hdead : (a.moved s a.transactionId).state.live = false ∧
      (a.moved s a.transactionId).state ≠ .committed := by
    rcases hs with rfl | rfl <;> simp [AttemptRow.moved, AuthorizationState.live]
  have hcommitted : AuthorizationState.live .committed = false := rfl
  rw [heq]
  exact { h with
    opening_nonzero := by grind [h.opening_nonzero]
    key_iff := by grind [h.key_iff]
    attempt_nonzero := by
      have := (h.attempt_nonzero a ha).moved s (h.attempt_nonzero a ha).transactionId
      grind [h.attempt_nonzero]
    attempt_opening := by
      have := h.attempt_opening
      grind [AttemptRow.moved]
    live_reserved := by
      -- another live attempt of the freed invitation would be the settled one
      have := h.live_reserved
      have := h.live_unique
      grind [OpeningRow.Owns]
    reserved_live := by grind [h.reserved_live]
    live_unique := by grind [h.live_unique]
    committed_consumed := by grind [h.committed_consumed]
    committed_join := by grind [h.committed_join]
    committed_reservation := by grind [h.committed_reservation]
    consumed_committed := by grind [h.consumed_committed]
    join_committed := by grind [h.join_committed]
    opening_count := by simpa using h.opening_count
    live_count := (liveAuthorizationRows_le hlive rfl).trans h.live_count
    generation_count := fun id gen =>
      (generationAttempts_le rfl).trans (h.generation_count id gen) }

theorem commit
    (ho : o ∈ db.tables.openings) (howns : o.Owns a) (hlive : a.state.live = true)
    (hj : j.ResultOf a) (hr : r.Backs a) (hrs : r.state = .consumed) (heq : db'.tables =
      { db.tables with
        reservations := db.tables.reservations ++ [r]
        attempts := replaceRow a (a.moved .committed a.transactionId) db.tables.attempts
        openings := replaceRow o (o.erased .consumed) db.tables.openings
        inviterJoins := db.tables.inviterJoins ++ [j] }) : Coherent policy db'.tables := by
  have huniq := @OpeningRow.Owns.unique _ db.isValid
  have hown : ∀ b, (o.erased .consumed).Owns b ↔ o.Owns b := fun b => Iff.rfl
  have hown' : ∀ q : OpeningRow, q.Owns (a.moved .committed a.transactionId) ↔ q.Owns a :=
    fun q => Iff.rfl
  have hj' : j.ResultOf (a.moved .committed a.transactionId) := hj
  have hr' : r.Backs (a.moved .committed a.transactionId) := hr
  have hcommitted : AuthorizationState.live .committed = false := rfl
  have hmoved : (a.moved .committed a.transactionId).state = .committed := rfl
  rw [heq]
  exact { h with
    opening_nonzero := by grind [h.opening_nonzero, OpeningRow.erased]
    key_iff := by grind [h.key_iff, OpeningRow.erased]
    attempt_nonzero := by
      have := (h.attempt_nonzero a ha).moved .committed (h.attempt_nonzero a ha).transactionId
      grind [h.attempt_nonzero]
    attempt_opening := by
      have := h.attempt_opening
      grind [AttemptRow.moved, OpeningRow.erased]
    live_reserved := by
      have := h.live_reserved
      have := h.live_unique
      grind [OpeningRow.Owns]
    reserved_live := by grind [h.reserved_live, OpeningRow.erased]
    live_unique := by grind [h.live_unique]
    committed_consumed := by
      -- a reserved opening has no committed attempt yet
      have := h.committed_consumed
      grind [OpeningRow.erased]
    committed_join := by grind [h.committed_join]
    committed_reservation := by grind [h.committed_reservation]
    consumed_committed := by grind [h.consumed_committed]
    join_committed := by
      have := h.join_committed
      grind [OpeningRow.erased]
    opening_count := by simpa using h.opening_count
    live_count := (liveAuthorizationRows_le hlive rfl).trans h.live_count
    generation_count := fun id gen =>
      (generationAttempts_le rfl).trans (h.generation_count id gen) }

end

/-! ## Reservations, results and provider tables -/

theorem seed (heq : db'.tables = { db.tables with reservations := db.tables.reservations ++ [r] }) :
    Coherent policy db'.tables := by
  rw [heq]
  exact { h with
    committed_reservation := by grind [h.committed_reservation] }

theorem legacyCommit (hfree : ∀ o ∈ db.tables.openings,
      ¬(o.invitationId = j.invitationId ∧ o.generation = j.generation)) (heq : db'.tables =
      { db.tables with
        reservations :=
          replaceRow r { r with state := InvitationState.consumed } db.tables.reservations
        inviterJoins := db.tables.inviterJoins ++ [j] }) :
    Coherent policy db'.tables := by
  rw [heq]
  exact { h with
    committed_join := by grind [h.committed_join]
    committed_reservation := by
      intro a ha hstate
      obtain ⟨r', hr', hbacks, hconsumed⟩ := h.committed_reservation a ha hstate
      by_cases hsame : r' = r
      · subst hsame
        exact ⟨_, mem_replaceRow_new hr', hbacks, rfl⟩
      · exact ⟨r', mem_replaceRow_of_ne hr' hsame, hbacks, hconsumed⟩
    join_committed := by grind [h.join_committed] }

theorem outbox {f : InviterJoinRow → InviterJoinRow} (hkeys : KeepsKeys f)
    (heq : db'.tables = { db.tables with inviterJoins := db.tables.inviterJoins.map f }) :
    Coherent policy db'.tables := by
  have hresult : ∀ j a, (f j).ResultOf a ↔ j.ResultOf a := by
    intro j a
    simp [InviterJoinRow.ResultOf, hkeys j]
  rw [heq]
  exact { h with
    committed_join := by grind [h.committed_join]
    join_committed := by
      have := h.join_committed
      grind [KeepsKeys] }

theorem provider
    (hidentity : ∀ r ∈ db'.tables.clientIdentity, r ∈ db.tables.clientIdentity ∨ r.groupId ≠ 0)
    (heq : db'.tables =
      { db.tables with
        mlsGroups := db'.tables.mlsGroups
        mlsEpochs := db'.tables.mlsEpochs
        keyPackages := db'.tables.keyPackages
        joinerCommits := db'.tables.joinerCommits
        clientIdentity := db'.tables.clientIdentity }) :
    Coherent policy db'.tables := by
  rw [heq]
  exact { h with
    identity := fun r hr => (hidentity r hr).elim (h.identity r) id }

/-! ## Chains of effects -/

variable {N : Admission}

theorem effect (he : Effect policy N db db') : Coherent policy db'.tables := by
  cases he with
  | compact now hfree heq => exact h.compact hfree heq
  | issue o _ hstate hkey hid hgen hroom hfresh heq =>
    exact h.issue hstate hkey hid hgen hroom hfresh heq
  | terminalize o ho hstate heq => exact h.terminalize ho hstate heq
  | reserve a o _ ho howns hstate hexpires hpending hnonzero hlive hgeneration heq =>
    exact h.reserve ho howns hstate hexpires hpending hnonzero hlive hgeneration heq
  | advance a s tx ha hlive hs htx heq => exact h.advance ha hlive hs htx heq
  | settle a o o' s ha ho howns hlive hs _ ho' heq => exact h.settle ha ho howns hlive hs ho' heq
  | commit a o j r ha ho howns hlive hj hr hrs _ heq =>
    exact h.commit ha ho howns hlive hj hr hrs heq
  | seed r heq => exact h.seed heq
  | legacyCommit j r _ hfree _ heq => exact h.legacyCommit hfree heq
  | outbox f _ hkeys heq => exact h.outbox hkeys heq
  | provider hidentity heq => exact h.provider hidentity heq

theorem effects (he : Effects policy N db db') : Coherent policy db'.tables := by
  induction he with
  | refl => exact h
  | tail _ hlast ih => exact ih.effect hlast

/-- What every effect on a coherent database keeps, a chain of effects keeps. -/
theorem keeps {P : Db → Prop} (he : Effects policy N db db')
    (hkeep : ∀ db db', Coherent policy db.tables → Effect policy N db db' → P db → P db')
    (hP : P db) : P db' := by
  induction he with
  | refl => exact hP
  | tail hinit hlast ih => exact hkeep _ _ (h.effects hinit) hlast ih

end

/-! ## Reserved openings have exactly one live attempt -/

theorem mem_liveAttempts {t : Tables} :
    a ∈ liveAttempts t o ↔ a ∈ t.attempts ∧ o.Owns a ∧ a.state.live = true := by
  simp [liveAttempts]

theorem reserved_iff (h : Coherent policy db.tables) (ho : o ∈ db.tables.openings) :
    o.state = .reserved ↔ (liveAttempts db.tables o).length = 1 := by
  constructor
  · intro hstate
    obtain ⟨a, ha, howns, hlive⟩ := h.reserved_live o ho hstate
    have honly : ∀ b ∈ liveAttempts db.tables o, b = a := by
      intro b hb
      obtain ⟨hb, howns', hlive'⟩ := mem_liveAttempts.mp hb
      exact h.live_unique b hb a ha hlive' hlive (howns'.1.symm.trans howns.1)
        (howns'.2.symm.trans howns.2)
    have hnodup : (liveAttempts db.tables o).Nodup := db.isValid.attempts.nodup.filter _
    rw [List.eq_replicate_of_mem honly, List.nodup_replicate] at hnodup
    have hpos := List.length_pos_of_mem (mem_liveAttempts.mpr ⟨ha, howns, hlive⟩)
    omega
  · intro hone
    obtain ⟨a, ha⟩ := List.exists_mem_of_length_pos (l := liveAttempts db.tables o) (by omega)
    obtain ⟨ha, howns, hlive⟩ := mem_liveAttempts.mp ha
    exact h.live_reserved a ha hlive o ho howns

end Coherent

end SessionChat.Storage
