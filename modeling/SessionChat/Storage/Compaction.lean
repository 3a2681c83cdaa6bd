import SessionChat.Storage.Statements

/-!
# Expiry compaction (`crates/storage-sqlcipher/src/authorization.rs`)

Four dependent statements over two tables linked by a foreign key. On coherent tables it ends
exactly when no expired reserved opening keeps a terminal attempt beside its live one
(`Tables.Compactable`). When it ends, it has deleted the expired rows that no live attempt
holds and changed no other row.
-/

set_option autoImplicit false

namespace SessionChat.Storage

open Relational

variable {policy : AuthorizationPolicy} {db db' : Db} {now : Nat}

/-! ## The four statements -/

theorem patch_erased_invitationId (p : OpeningRow → Bool) (s : InvitationOpeningState)
    (o : OpeningRow) : (patch p (OpeningRow.erased s) o).invitationId = o.invitationId :=
  patch_field (f := OpeningRow.erased s) OpeningRow.invitationId (fun _ => rfl) o

/-- The rows the first statement retires. -/
def retiredReserved (t : Tables) (now : Nat) (o : OpeningRow) : Bool :=
  decide (o.state = .reserved ∧ o.expiresAt ≤ now) && expiredTerminalAttempt t.attempts now o

/-- The rows the third statement retires. -/
def retiredAvailable (now : Nat) (o : OpeningRow) : Bool :=
  decide (o.state = .available ∧ o.expiresAt ≤ now)

/-- The openings the last statement deletes. -/
def discarded (now : Nat) (o : OpeningRow) : Bool :=
  decide ((o.state = .unusable ∨ o.state = .consumed) ∧ o.expiresAt ≤ now)

/-- The attempts the second statement deletes. -/
def expiredTerminal (now : Nat) (a : AttemptRow) : Bool :=
  decide (a.invitationExpiresAt ≤ now ∧ a.state.terminal = true)

/-- The tables after the first statement, after the second, after the third and at
the end. -/
def Tables.compact₁ (now : Nat) (t : Tables) : Tables :=
  { t with openings :=
      t.openings.map (patch (retiredReserved t now) (OpeningRow.erased .unusable)) }

def Tables.compact₂ (now : Nat) (t : Tables) : Tables :=
  { t.compact₁ now with attempts := t.attempts.filter fun a => !expiredTerminal now a }

def Tables.compact₃ (now : Nat) (t : Tables) : Tables :=
  { t.compact₂ now with
    openings := (t.compact₂ now).openings.map
      (patch (retiredAvailable now) (OpeningRow.erased .unusable)) }

def Tables.compact₄ (now : Nat) (t : Tables) : Tables :=
  { t.compact₃ now with
    openings := (t.compact₃ now).openings.filter fun o => !discarded now o }

/-- Compaction ends exactly when all four intermediate tables keep the constraints. -/
theorem run_compact_eq_ok {u : Unit} :
    (compactExpiredAuthorizationState now).run db = .ok (u, db') ↔
      (db.tables.compact₁ now).Valid ∧ (db.tables.compact₂ now).Valid ∧
        (db.tables.compact₃ now).Valid ∧ db'.tables = db.tables.compact₄ now := by
  simp only [compactExpiredAuthorizationState, run_bind_eq_ok, run_select_eq_ok,
    run_updateWhere_eq_ok, run_deleteFrom_eq_ok]
  constructor
  · rintro ⟨_, _, ⟨rfl, rfl⟩, _, db₁, ⟨-, h₁⟩, _, db₂, h₂, _, db₃, ⟨-, h₃⟩, h₄⟩
    have e₁ : db₁.tables = db.tables.compact₁ now := h₁
    have e₂ : db₂.tables = db.tables.compact₂ now := by rw [h₂, e₁]; rfl
    have e₃ : db₃.tables = db.tables.compact₃ now := by rw [h₃, e₂]; rfl
    refine ⟨e₁ ▸ Db.isValid db₁, e₂ ▸ Db.isValid db₂, e₃ ▸ Db.isValid db₃, ?_⟩
    rw [h₄, e₃]
    rfl
  · rintro ⟨v₁, v₂, v₃, h₄⟩
    exact ⟨_, db, ⟨rfl, rfl⟩, _, ⟨_, v₁⟩, ⟨rfl, rfl⟩, (), ⟨_, v₂⟩, rfl, _, ⟨_, v₃⟩, ⟨rfl, rfl⟩,
      h₄⟩

/-! ## A blocked compaction -/

/-- A live attempt beside an expired terminal one loses its opening. -/
theorem compactable_of_valid (h : Coherent policy db.tables)
    (hvalid : (db.tables.compact₄ now).Valid) : db.tables.Compactable now := by
  intro o ho hreserved hexpired a ha howns
  by_contra hdead
  obtain ⟨b, hb, hbowns, hblive⟩ := h.reserved_live o ho hreserved
  -- the live attempt survives the second statement
  have hbkept : b ∈ (db.tables.compact₄ now).attempts := by
    have : b.state.terminal = false := by simp [AuthorizationState.terminal_eq_not_live, hblive]
    simpa [Tables.compact₄, Tables.compact₃, Tables.compact₂, expiredTerminal, this] using hb
  obtain ⟨q, hq, hqid⟩ := hvalid.attempt_reference b hbkept
  -- so its opening would have to survive the last one
  obtain ⟨o₀, ho₀, rfl⟩ : ∃ o₀ ∈ db.tables.openings,
      patch (retiredAvailable now) (OpeningRow.erased .unusable)
        (patch (retiredReserved db.tables now) (OpeningRow.erased .unusable) o₀) = q := by
    simp only [Tables.compact₄, Tables.compact₃, Tables.compact₂, Tables.compact₁,
      List.mem_filter, List.mem_map] at hq
    obtain ⟨⟨q', ⟨o₀, ho₀, rfl⟩, rfl⟩, -⟩ := hq
    exact ⟨o₀, ho₀, rfl⟩
  have hsame : o₀ = o := by
    rw [patch_erased_invitationId, patch_erased_invitationId] at hqid
    exact db.isValid.opening_eq ho₀ ho (hqid.trans hbowns.1.symm)
  subst hsame
  obtain ⟨o', ho', howns', hexpires⟩ := h.attempt_opening a ha
  obtain rfl := OpeningRow.Owns.unique db.isValid ho₀ ho' howns howns'
  have hretired : retiredReserved db.tables now o₀ = true := by
    have hterminal : a.state.terminal = true := by
      simpa [AuthorizationState.terminal_eq_not_live] using hdead
    simp only [retiredReserved, expiredTerminalAttempt, Bool.and_eq_true, decide_eq_true_eq]
    exact ⟨⟨hreserved, hexpired⟩, a, ha, howns, hexpires ▸ hexpired, hterminal⟩
  rw [patch_pos hretired] at hq
  simp [Tables.compact₄, retiredAvailable, discarded, OpeningRow.erased,
    hexpired] at hq

/-! ## A compaction that ends -/

/-- Without a blocked opening the first statement selects nothing. -/
theorem compact₁_eq (hfree : db.tables.Compactable now) : db.tables.compact₁ now = db.tables := by
  have hnone : ∀ o ∈ db.tables.openings, retiredReserved db.tables now o = false := by
    intro o ho
    simp only [retiredReserved, expiredTerminalAttempt, Bool.and_eq_false_iff,
      decide_eq_false_iff_not]
    by_cases hsel : o.state = .reserved ∧ o.expiresAt ≤ now
    · right
      rintro ⟨a, ha, howns, -, hterminal⟩
      have := hfree o ho hsel.1 hsel.2 a ha howns
      simp [AuthorizationState.terminal_eq_not_live, this] at hterminal
    · exact .inl hsel
  simp only [Tables.compact₁, map_patch_of_none hnone]

/-- Retiring and then discarding is deleting what is expired and not reserved. -/
theorem filter_retired (rows : List OpeningRow) :
    (rows.map (patch (retiredAvailable now) (OpeningRow.erased .unusable))).filter
        (fun o => !discarded now o) =
      rows.filter fun o => decide (now < o.expiresAt ∨ o.state = .reserved) := by
  rw [List.filter_map]
  have hkept : (fun o => !discarded now o) ∘
      patch (retiredAvailable now) (OpeningRow.erased .unusable) =
        fun o => decide (now < o.expiresAt ∨ o.state = .reserved) := by
    funext o
    by_cases hexp : now < o.expiresAt
    · simp [retiredAvailable, discarded, hexp]
    · have hle : o.expiresAt ≤ now := by omega
      cases hs : o.state <;>
        simp [retiredAvailable, discarded, OpeningRow.erased, hs, hle]
  rw [hkept]
  refine (List.map_congr_left ?_).trans (List.map_id _)
  intro o ho
  simp only [List.mem_filter, decide_eq_true_eq] at ho
  refine patch_neg ?_
  simp only [retiredAvailable, decide_eq_false_iff_not]
  rintro ⟨hstate, hexp⟩
  rcases ho.2 with hlt | hres
  · omega
  · simp [hstate] at hres

theorem compact₄_eq (hfree : db.tables.Compactable now) :
    db.tables.compact₄ now = db.tables.compacted now := by
  have hattempts : (fun a : AttemptRow => !expiredTerminal now a) =
      fun a => decide (now < a.invitationExpiresAt ∨ a.state.live = true) := by
    funext a
    by_cases hexp : now < a.invitationExpiresAt
    · simp [expiredTerminal, hexp]
    · have hle : a.invitationExpiresAt ≤ now := by omega
      simp [expiredTerminal, AuthorizationState.terminal_eq_not_live, hle]
  simp only [Tables.compact₄, Tables.compact₃, Tables.compact₂, compact₁_eq hfree,
    Tables.compacted, filter_retired, hattempts]

/-- Every retained attempt keeps its opening. -/
theorem compacted_valid (h : Coherent policy db.tables) : (db.tables.compacted now).Valid := by
  refine { db.isValid with
    attempts := db.isValid.attempts.sublist List.filter_sublist
    openings := db.isValid.openings.sublist List.filter_sublist
    attempt_reference := ?_ }
  intro a ha
  simp only [Tables.compacted, List.mem_filter, decide_eq_true_eq] at ha
  obtain ⟨o, ho, howns, hexpires⟩ := h.attempt_opening a ha.1
  refine ⟨o, ?_, howns.1⟩
  simp only [Tables.compacted, List.mem_filter, decide_eq_true_eq]
  rcases ha.2 with hlater | hlive
  · exact ⟨ho, .inl (hexpires ▸ hlater)⟩
  · exact ⟨ho, .inr (h.live_reserved a ha.1 hlive o ho howns)⟩

/-- Deleting attempts alone breaks no constraint. -/
theorem compact₂_valid (hfree : db.tables.Compactable now) : (db.tables.compact₂ now).Valid := by
  simp only [Tables.compact₂, compact₁_eq hfree]
  exact { db.isValid with
    attempts := db.isValid.attempts.sublist List.filter_sublist
    attempt_reference := fun a ha =>
      db.isValid.attempt_reference a (List.mem_of_mem_filter ha) }

/-- Retiring openings moves no key. -/
theorem compact₃_valid (hfree : db.tables.Compactable now) : (db.tables.compact₃ now).Valid :=
  (compact₂_valid hfree).patchOpenings fun _ => ⟨rfl, rfl, rfl, rfl, rfl⟩

/-- On coherent tables compaction ends exactly when nothing blocks it, and then it
has only deleted rows. -/
theorem run_compact_iff (h : Coherent policy db.tables) {u : Unit} :
    (compactExpiredAuthorizationState now).run db = .ok (u, db') ↔
      db.tables.Compactable now ∧ db'.tables = db.tables.compacted now := by
  rw [run_compact_eq_ok]
  constructor
  · rintro ⟨-, -, -, htables⟩
    have hfree := compactable_of_valid h (htables ▸ db'.isValid)
    exact ⟨hfree, htables.trans (compact₄_eq hfree)⟩
  · rintro ⟨hfree, htables⟩
    refine ⟨?_, compact₂_valid hfree, compact₃_valid hfree, htables.trans (compact₄_eq hfree).symm⟩
    rw [compact₁_eq hfree]
    exact db.isValid

/-- The database an unblocked compaction leaves. -/
theorem exists_run_compact (h : Coherent policy db.tables) (hfree : db.tables.Compactable now) :
    ∃ db', (compactExpiredAuthorizationState now).run db = .ok ((), db') ∧
      db'.tables = db.tables.compacted now :=
  ⟨⟨_, compacted_valid h⟩, (run_compact_iff h).mpr ⟨hfree, rfl⟩, rfl⟩

end SessionChat.Storage
