import Mathlib.Data.List.Basic
import Mathlib.Data.List.Pairwise
import Mathlib.Data.List.Nodup

/-!
# Tables under declared row constraints (general library)

A table is the list of its rows. Its constraints are `CHECK` clauses, which read one row, and
`PRIMARY KEY` and `UNIQUE` clauses, which forbid two rows together.

Deleting rows always keeps the constraints, inserting keeps them exactly when the new row
passes its checks and clashes with no row, and rewriting in place keeps them when it moves
no key. Two rows that agree on a key are the same row.
-/

set_option autoImplicit false

namespace SessionChat.Relational

variable {ρ : Type}

/-- The constraints one table declares on its own rows. -/
structure TableConstraints (ρ : Type) where
  /-- The conjunction of the `CHECK` clauses. -/
  check : ρ → Bool
  /-- Two rows that some `PRIMARY KEY` or `UNIQUE` clause forbids together. -/
  clash : ρ → ρ → Bool
  /-- Sharing a key does not depend on the order of the rows. -/
  clash_symm : ∀ a b, clash a b = true → clash b a = true
  /-- The primary key is never null, so a row clashes with its own copy. -/
  clash_self : ∀ a, clash a a = true

namespace TableConstraints

variable (C : TableConstraints ρ)

/-- Every row passes its checks and no two rows share a key. -/
def Hold (rows : List ρ) : Prop :=
  (∀ r ∈ rows, C.check r = true) ∧ rows.Pairwise fun a b => C.clash a b = false
deriving Decidable

variable {C} {rows : List ρ} {a : ρ} {p : ρ → Bool}

/-- Two rows of one table that agree on a key are the same row. -/
theorem Hold.eq_of_clash (h : C.Hold rows) {b : ρ} (ha : a ∈ rows) (hb : b ∈ rows)
    (hclash : C.clash a b = true) : a = b := by
  by_contra hne
  have : Std.Symm fun a b => C.clash a b = false := by
    refine ⟨fun x y hxy => ?_⟩
    by_contra hyx
    have := C.clash_symm y x (by simpa using hyx)
    simp_all
  have hfree := h.2.forall ha hb hne
  simp_all

theorem Hold.nodup (h : C.Hold rows) : rows.Nodup := by
  refine h.2.imp ?_
  rintro a b hab rfl
  simp [C.clash_self] at hab

/-- Rows can only be taken away without breaking a constraint. -/
theorem Hold.sublist {kept : List ρ} (h : C.Hold rows) (hs : kept.Sublist rows) : C.Hold kept :=
  ⟨fun r hr => h.1 r (hs.subset hr), h.2.sublist hs⟩

/-- An insertion keeps the constraints when the row passes its checks and shares
no key with a stored row; nothing less will do. -/
theorem hold_append_singleton {r : ρ} : C.Hold (rows ++ [r]) ↔
      C.Hold rows ∧ C.check r = true ∧ ∀ a ∈ rows, C.clash a r = false := by
  simp only [Hold, List.mem_append, List.mem_singleton, List.pairwise_append,
    List.pairwise_singleton, true_and, forall_eq]
  constructor
  · rintro ⟨hcheck, hpair, hnew⟩
    exact ⟨⟨fun a ha => hcheck a (.inl ha), hpair⟩, hcheck r (.inr rfl), hnew⟩
  · rintro ⟨⟨hcheck, hpair⟩, hr, hnew⟩
    refine ⟨?_, hpair, hnew⟩
    rintro a (ha | rfl)
    · exact hcheck a ha
    · exact hr

/-- A rewrite that keeps every check and moves no key keeps the constraints. -/
theorem Hold.map {f : ρ → ρ} (h : C.Hold rows) (hcheck : ∀ r ∈ rows, C.check (f r) = true)
    (hkey : ∀ a ∈ rows, ∀ b ∈ rows, C.clash (f a) (f b) = true → C.clash a b = true) :
    C.Hold (rows.map f) := by
  refine ⟨by simpa using hcheck, ?_⟩
  rw [List.pairwise_map]
  refine h.2.imp_of_mem ?_
  intro a b ha hb hab
  by_contra hne
  simp_all

section

variable (h : C.Hold rows) (hkey : ∀ a b, p a = true → p b = true → C.clash a b = true)
  (ha : a ∈ rows) (hpa : p a = true)
include h hkey ha hpa

/-- A condition on a key finds the row that has it. -/
theorem Hold.find?_eq_some : rows.find? p = some a := by
  cases hfound : rows.find? p with
  | none => exact absurd hpa (List.find?_eq_none.mp hfound a ha)
  | some b =>
    have hb := List.mem_of_find?_eq_some hfound
    rw [h.eq_of_clash hb ha (hkey b a (List.find?_some hfound) hpa)]

/-- A keyed statement selects at most one row. -/
theorem Hold.selects : ∀ r ∈ rows, p r = true ↔ r = a := by
  intro r hr
  constructor
  · intro hpr
    exact h.eq_of_clash hr ha (hkey r a hpr hpa)
  · rintro rfl
    exact hpa

end

end TableConstraints

/-! ## Rewriting the rows a statement selects -/

/-- One row after `UPDATE … SET f WHERE p`. -/
def patch (p : ρ → Bool) (f : ρ → ρ) (r : ρ) : ρ :=
  if p r then f r else r

variable {p : ρ → Bool} {f : ρ → ρ} {r : ρ} {rows : List ρ}

@[simp] theorem patch_pos (h : p r = true) : patch p f r = f r := by
  simp [patch, h]

@[simp] theorem patch_neg (h : p r = false) : patch p f r = r := by
  simp [patch, h]

/-- A field the rewrite does not assign keeps its value on every row. -/
theorem patch_field {α : Type} (g : ρ → α) (h : ∀ r, g (f r) = g r) (r : ρ) :
    g (patch p f r) = g r := by
  unfold patch
  split
  · exact h r
  · rfl

theorem map_patch_of_none (h : ∀ r ∈ rows, p r = false) : rows.map (patch p f) = rows := by
  refine (List.map_congr_left ?_).trans (List.map_id rows)
  intro r hr
  simp [h r hr]

theorem exists_of_countP_eq_one (h : rows.countP p = 1) : ∃ r ∈ rows, p r = true :=
  List.countP_pos_iff.mp (by omega)

/-! ## Replacing one row

A statement that selects one row by its key replaces that row and no other. The
lemmas below reason about the replaced row instead of the statement's condition. -/

section Replace

variable [DecidableEq ρ]

/-- Every copy of `a` becomes `b`. -/
def replaceRow (a b : ρ) (rows : List ρ) : List ρ :=
  rows.map fun r => if r = a then b else r

variable {a b r : ρ} {q : ρ → Bool} {rows : List ρ}

@[grind =] theorem mem_replaceRow :
    r ∈ replaceRow a b rows ↔ (a ∈ rows ∧ r = b) ∨ (r ∈ rows ∧ r ≠ a) := by
  simp only [replaceRow, List.mem_map]
  constructor
  · rintro ⟨x, hx, rfl⟩
    by_cases hxa : x = a
    · exact .inl ⟨hxa ▸ hx, by simp [hxa]⟩
    · exact .inr ⟨by simpa [hxa] using hx, by simp [hxa]⟩
  · rintro (⟨ha, rfl⟩ | ⟨hr, hne⟩)
    · exact ⟨a, ha, by simp⟩
    · exact ⟨r, hr, by simp [hne]⟩

theorem mem_replaceRow_new (ha : a ∈ rows) : b ∈ replaceRow a b rows :=
  mem_replaceRow.mpr (.inl ⟨ha, rfl⟩)

theorem mem_replaceRow_of_ne (hr : r ∈ rows) (hne : r ≠ a) :
    r ∈ replaceRow a b rows :=
  mem_replaceRow.mpr (.inr ⟨hr, hne⟩)

@[simp] theorem length_replaceRow : (replaceRow a b rows).length = rows.length := by
  simp [replaceRow]

/-- A statement that selects exactly the row `a` replaces it. -/
theorem map_patch_eq_replaceRow {p : ρ → Bool} {f : ρ → ρ} (h : ∀ r ∈ rows, p r = true ↔ r = a) :
    rows.map (patch p f) = replaceRow a (f a) rows := by
  refine List.map_congr_left ?_
  intro r hr
  by_cases hra : r = a
  · subst hra
    simp [(h r hr).mpr rfl]
  · have : p r = false := by
      simpa using fun hp => hra ((h r hr).mp hp)
    simp [this, hra]

/-- A replacement that leaves a property raises no count of it. -/
theorem countP_replaceRow_le (h : q b = true → q a = true) :
    (replaceRow a b rows).countP q ≤ rows.countP q := by
  rw [replaceRow, List.countP_map]
  refine List.countP_mono_left ?_
  intro r _ hq
  by_cases hra : r = a
  · subst hra
    exact h (by simpa using hq)
  · simpa [hra] using hq

/-- Replacing a row that counts by one that does not lowers the count by one. -/
theorem countP_replaceRow_add_one (hnodup : rows.Nodup) (ha : a ∈ rows) (hqa : q a = true)
    (hqb : q b = false) : (replaceRow a b rows).countP q + 1 = rows.countP q := by
  induction rows with
  | nil => cases ha
  | cons r rows ih =>
    obtain ⟨hnot, hrest⟩ := List.nodup_cons.mp hnodup
    obtain rfl | ha := List.mem_cons.mp ha
    · have hkept : replaceRow a b rows = rows := by
        refine (List.map_congr_left ?_).trans (List.map_id rows)
        intro x hx
        have hxa : x ≠ a := fun hxa => hnot (hxa ▸ hx)
        simp [hxa]
      have hhead : replaceRow a b (a :: rows) = b :: replaceRow a b rows := by
        simp [replaceRow]
      rw [hhead, hkept, List.countP_cons_of_pos hqa, List.countP_cons_of_neg (by simp [hqb])]
    · have hra : r ≠ a := fun hra => hnot (hra ▸ ha)
      have hhead : replaceRow a b (r :: rows) = r :: replaceRow a b rows := by
        simp [replaceRow, hra]
      have := ih hrest ha
      rw [hhead, List.countP_cons, List.countP_cons]
      omega

variable {C : TableConstraints ρ} {rows : List ρ} {p : ρ → Bool}

section

variable (h : C.Hold rows) (hkey : ∀ a b, p a = true → p b = true → C.clash a b = true)
include h hkey

/-- A keyed statement that selects a row reports one changed row. -/
theorem TableConstraints.Hold.countP_eq_one (ha : a ∈ rows) (hpa : p a = true) :
    rows.countP p = 1 := by
  have hcount : rows.countP p = rows.count a := by
    refine List.countP_congr ?_
    intro r hr
    simpa using h.selects hkey ha hpa r hr
  rw [hcount]
  exact List.count_eq_one_of_mem h.nodup ha

/-- A keyed statement that reports one changed row has replaced that row. -/
theorem TableConstraints.Hold.exists_replace (hone : rows.countP p = 1) (f : ρ → ρ) :
    ∃ a ∈ rows, p a = true ∧ rows.map (patch p f) = replaceRow a (f a) rows := by
  obtain ⟨a, ha, hpa⟩ := exists_of_countP_eq_one hone
  exact ⟨a, ha, hpa, map_patch_eq_replaceRow (h.selects hkey ha hpa)⟩

/-- A keyed statement selects no row and changes nothing, or replaces one row. -/
theorem TableConstraints.Hold.update_cases (f : ρ → ρ) :
    (rows.countP p = 0 ∧ rows.map (patch p f) = rows) ∨ (rows.countP p = 1 ∧
        ∃ a ∈ rows, p a = true ∧ rows.map (patch p f) = replaceRow a (f a) rows) := by
  by_cases hsome : ∃ a ∈ rows, p a = true
  · obtain ⟨a, ha, hpa⟩ := hsome
    exact .inr ⟨h.countP_eq_one hkey ha hpa, a, ha, hpa,
      map_patch_eq_replaceRow (h.selects hkey ha hpa)⟩
  · have hnone : ∀ r ∈ rows, p r = false := by
      intro r hr
      by_contra hp
      exact hsome ⟨r, hr, by simpa using hp⟩
    refine .inl ⟨List.countP_eq_zero.mpr ?_, map_patch_of_none hnone⟩
    intro r hr
    simp [hnone r hr]

end

end Replace

end SessionChat.Relational
