import SessionChat.Storage.Lifecycle

/-!
# Each invitation generation is used once (`crates/storage-sqlcipher/src/authorization.rs`)

Replay rows are deleted by compaction, so what keeps a request from being accepted twice is not
the row alone: an attempt is only deleted together with its opening, and an opening whose
generation was issued before never comes back. `Evolves` says this for one effect.
-/

set_option autoImplicit false

namespace SessionChat.Storage

open Relational Transition

variable {policy : AuthorizationPolicy}

/-! ## What one effect does to existing rows -/

/-- The invitation can never be used again. -/
def OpeningRow.Closed (o : OpeningRow) : Prop :=
  o.state = .consumed ∨ o.state = .unusable

/-- Two results of the same transaction for the same request. -/
def InviterJoinRow.SameKeys (j k : InviterJoinRow) : Prop :=
  j.transactionId = k.transactionId ∧ j.invitationId = k.invitationId ∧
    j.generation = k.generation ∧ j.joinRequestId = k.joinRequestId ∧
    j.requestFingerprint = k.requestFingerprint

namespace InviterJoinRow.SameKeys

variable {j k l : InviterJoinRow}

theorem refl (j : InviterJoinRow) : j.SameKeys j :=
  ⟨rfl, rfl, rfl, rfl, rfl⟩

theorem trans (h : l.SameKeys k) (h' : k.SameKeys j) : l.SameKeys j := by
  simp_all [SameKeys]

theorem resultOf_iff (h : k.SameKeys j) (a : AttemptRow) : k.ResultOf a ↔ j.ResultOf a := by
  simp_all [SameKeys, ResultOf]

end InviterJoinRow.SameKeys

/-- Two rows of the same request. -/
def AttemptRow.SameRequest (a b : AttemptRow) : Prop :=
  a.generation = b.generation ∧ a.joinRequestId = b.joinRequestId ∧
    a.requestNonce = b.requestNonce ∧ a.requestFingerprint = b.requestFingerprint

/-- No opening of the generation is stored. -/
def Gone (generation : Generation) (db : Db) : Prop :=
  ∀ o ∈ db.tables.openings, o.generation ≠ generation

/-- An opening is new, or it was there and stays closed once it is. -/
def OpeningsEvolve (N : Admission) (before after : List OpeningRow) : Prop :=
  ∀ o' ∈ after, N.opening o' ∨ ∃ o ∈ before,
    o.invitationId = o'.invitationId ∧ o.generation = o'.generation ∧ (o.Closed → o'.Closed)

/-- How rows relate across one effect. -/
structure Evolves (N : Admission) (db db' : Db) : Prop where
  opening : OpeningsEvolve N db.tables.openings db'.tables.openings
  join_kept : ∀ j ∈ db.tables.inviterJoins, ∃ j' ∈ db'.tables.inviterJoins, j'.SameKeys j
  /-- A result is admitted, was there, or is for an invitation that had an opening. -/
  join : ∀ j' ∈ db'.tables.inviterJoins, N.legacyJoin j' ∨
    (∃ j ∈ db.tables.inviterJoins, j'.SameKeys j) ∨
    ∃ o ∈ db.tables.openings, o.invitationId = j'.invitationId ∧ o.generation = j'.generation
  /-- An attempt stays, unchanged once it has ended, or goes together with its opening. -/
  attempt : ∀ a ∈ db.tables.attempts,
    (∃ a' ∈ db'.tables.attempts, a'.SameRequest a ∧ (a.state.live = false → a' = a)) ∨
      (a.state.live = false ∧ Gone a.generation db')

namespace Evolves

variable {N : Admission} {db db' : Db}

/-! ### Tables that grow or stay -/

theorem opening_of_subset {before after : List OpeningRow} (h : after ⊆ before) :
    OpeningsEvolve N before after :=
  fun o' ho' => .inr ⟨o', h ho', rfl, rfl, id⟩

/-- An opening that was open is replaced by another row of the same invitation. -/
theorem opening_of_replace {rows : List OpeningRow} {o o₁ : OpeningRow}
    (hid : o₁.invitationId = o.invitationId) (hgen : o₁.generation = o.generation)
    (hopen : ¬o.Closed) : OpeningsEvolve N rows (replaceRow o o₁ rows) := by
  intro o' ho'
  obtain ⟨ho, rfl⟩ | ⟨ho, -⟩ := mem_replaceRow.mp ho'
  · exact .inr ⟨o, ho, hid.symm, hgen.symm, fun hclosed => absurd hclosed hopen⟩
  · exact .inr ⟨o', ho, rfl, rfl, id⟩

theorem join_kept_of_subset {before after : List InviterJoinRow} (h : before ⊆ after) :
    ∀ j ∈ before, ∃ j' ∈ after, j'.SameKeys j :=
  fun j hj => ⟨j, h hj, .refl j⟩

/-- What `Evolves` asks of the attempts. -/
def AttemptsEvolve (db db' : Db) : Prop :=
  ∀ a ∈ db.tables.attempts,
    (∃ a' ∈ db'.tables.attempts, a'.SameRequest a ∧ (a.state.live = false → a' = a)) ∨
      (a.state.live = false ∧ Gone a.generation db')

theorem attempt_of_subset (h : db.tables.attempts ⊆ db'.tables.attempts) : AttemptsEvolve db db' :=
  fun a ha => .inl ⟨a, h ha, ⟨rfl, rfl, rfl, rfl⟩, fun _ => rfl⟩

/-- The results are left alone. -/
theorem of_joins (h : db'.tables.inviterJoins = db.tables.inviterJoins)
    (hopening : OpeningsEvolve N db.tables.openings db'.tables.openings)
    (hattempt : AttemptsEvolve db db') : Evolves N db db' where
  opening := hopening
  join_kept := join_kept_of_subset (by rw [h]; exact List.Subset.refl _)
  join j hj := .inr (.inl ⟨j, h ▸ hj, .refl j⟩)
  attempt := hattempt

/-- A live attempt is replaced by another row of the same request. -/
theorem attempt_of_replace {b : AttemptRow} {s : AuthorizationState} {tx : Option Id16}
    (hlive : b.state.live = true)
    (heq : db'.tables.attempts = replaceRow b (b.moved s tx) db.tables.attempts) :
    AttemptsEvolve db db' := by
  intro a ha
  left
  rw [heq]
  by_cases hab : a = b
  · subst hab
    refine ⟨_, mem_replaceRow_new ha, ⟨rfl, rfl, rfl, rfl⟩, fun hdead => ?_⟩
    simp [hlive] at hdead
  · exact ⟨a, mem_replaceRow_of_ne ha hab, ⟨rfl, rfl, rfl, rfl⟩, fun _ => rfl⟩

/-! ### The effects -/

/-- Compaction deletes an attempt only together with its opening. -/
theorem compact (h : Coherent policy db.tables) {now : Nat} (hfree : db.tables.Compactable now)
    (heq : db'.tables = db.tables.compacted now) : Evolves N db db' := by
  refine of_joins (by rw [heq]; rfl) ?_ ?_
  · rw [heq]
    exact opening_of_subset List.filter_sublist.subset
  · intro a ha
    by_cases hkept : now < a.invitationExpiresAt ∨ a.state.live = true
    · refine .inl ⟨a, ?_, ⟨rfl, rfl, rfl, rfl⟩, fun _ => rfl⟩
      rw [heq]
      exact List.mem_filter.mpr ⟨ha, by simpa using hkept⟩
    · right
      rw [not_or, Bool.not_eq_true] at hkept
      refine ⟨hkept.2, ?_⟩
      intro o ho hgen
      rw [heq] at ho
      obtain ⟨ho, hstays⟩ := List.mem_filter.mp ho
      -- the generation's only opening is the attempt's, and it expired with it
      obtain ⟨o', ho', howns, hexpires⟩ := h.attempt_opening a ha
      obtain rfl := db.isValid.opening_eq_of_generation ho ho' (hgen.trans howns.2.symm)
      rw [decide_eq_true_eq] at hstays
      obtain hlater | hreserved := hstays
      · omega
      · have := hfree o ho hreserved (by omega) a ha howns
        simp [hkept.2] at this

/-- A result is added and nothing else is touched but the listed tables. -/
theorem join_of_append {j : InviterJoinRow}
    (hnew : N.legacyJoin j ∨ ∃ o ∈ db.tables.openings, o.invitationId = j.invitationId ∧
      o.generation = j.generation) (heq : db'.tables.inviterJoins = db.tables.inviterJoins ++ [j]) :
    ∀ j' ∈ db'.tables.inviterJoins, N.legacyJoin j' ∨
      (∃ j ∈ db.tables.inviterJoins, j'.SameKeys j) ∨
      ∃ o ∈ db.tables.openings, o.invitationId = j'.invitationId ∧
        o.generation = j'.generation := by
  intro j' hj'
  rw [heq, List.mem_append, List.mem_singleton] at hj'
  obtain hj' | rfl := hj'
  · exact .inr (.inl ⟨j', hj', .refl j'⟩)
  · exact hnew.imp id .inr

theorem of_effect (h : Coherent policy db.tables) (he : Effect policy N db db') :
    Evolves N db db' := by
  cases he with
  | compact now hfree heq => exact compact h hfree heq
  | issue o hallowed _ _ _ _ _ _ heq =>
    refine of_joins (by rw [heq]) ?_ (attempt_of_subset (by rw [heq]; exact List.Subset.refl _))
    intro o' ho'
    rw [heq, List.mem_append, List.mem_singleton] at ho'
    obtain ho' | rfl := ho'
    · exact opening_of_subset (List.Subset.refl _) o' ho'
    · exact .inl hallowed
  | terminalize o ho hstate heq =>
    refine of_joins (by rw [heq]) ?_ (attempt_of_subset (by rw [heq]; exact List.Subset.refl _))
    rw [heq]
    exact opening_of_replace rfl rfl (by simp [OpeningRow.Closed, hstate])
  | reserve a o _ ho _ hstate _ _ _ _ _ heq =>
    refine of_joins (by rw [heq]) ?_
      (attempt_of_subset (by rw [heq]; exact List.subset_append_left _ _))
    rw [heq]
    exact opening_of_replace rfl rfl (by simp [OpeningRow.Closed, hstate])
  | advance a s tx ha hlive _ _ heq =>
    exact of_joins (by rw [heq]) (opening_of_subset (by rw [heq]; exact List.Subset.refl _))
      (attempt_of_replace hlive (by rw [heq]))
  | settle a o o' s ha ho howns hlive _ _ ho' heq =>
    refine of_joins (by rw [heq]) ?_ (attempt_of_replace hlive (by rw [heq]))
    have hreserved := h.live_reserved a ha hlive o ho howns
    rw [heq]
    refine opening_of_replace ?_ ?_ (by simp [OpeningRow.Closed, hreserved])
    · rcases ho' with rfl | rfl <;> rfl
    · rcases ho' with rfl | rfl <;> rfl
  | commit a o j r ha ho howns hlive hj _ _ _ heq =>
    have hreserved := h.live_reserved a ha hlive o ho howns
    refine ⟨?_, join_kept_of_subset (by rw [heq]; exact List.subset_append_left _ _),
      join_of_append (.inr ⟨o, ho, howns.1.trans hj.2.1.symm, howns.2.trans hj.2.2.1.symm⟩)
        (by rw [heq]), attempt_of_replace hlive (by rw [heq])⟩
    rw [heq]
    exact opening_of_replace rfl rfl (by simp [OpeningRow.Closed, hreserved])
  | seed r heq =>
    exact of_joins (by rw [heq]) (opening_of_subset (by rw [heq]; exact List.Subset.refl _))
      (attempt_of_subset (by rw [heq]; exact List.Subset.refl _))
  | legacyCommit j r hallowed _ _ heq =>
    exact ⟨opening_of_subset (by rw [heq]; exact List.Subset.refl _),
      join_kept_of_subset (by rw [heq]; exact List.subset_append_left _ _),
      join_of_append (.inl hallowed) (by rw [heq]),
      attempt_of_subset (by rw [heq]; exact List.Subset.refl _)⟩
  | outbox f _ hkeys heq =>
    refine ⟨opening_of_subset (by rw [heq]; exact List.Subset.refl _), ?_, ?_,
      attempt_of_subset (by rw [heq]; exact List.Subset.refl _)⟩
    · intro j hj
      rw [heq]
      exact ⟨f j, List.mem_map_of_mem hj, hkeys j⟩
    · intro j' hj'
      rw [heq] at hj'
      obtain ⟨j, hj, rfl⟩ := List.mem_map.mp hj'
      exact .inr (.inl ⟨j, hj, hkeys j⟩)
  | provider _ heq =>
    exact of_joins (by rw [heq]) (opening_of_subset (by rw [heq]; exact List.Subset.refl _))
      (attempt_of_subset (by rw [heq]; exact List.Subset.refl _))

end Evolves

/-! ## What a chain of effects keeps -/

/-- The request has a row, or its generation has no opening any more. -/
def Recorded (a : AttemptRow) (db : Db) : Prop :=
  (∃ b ∈ db.tables.attempts, b.SameRequest a) ∨ Gone a.generation db

section Keeps

variable {N : Admission} {db db' : Db} (h : Coherent policy db.tables)
  (he : Effects policy N db db')
include h he

/-- Openings and results stay within the invitations that were issued. -/
theorem keeps_issued {I : Id16 → Generation → Prop}
    (hnew : ∀ o, N.opening o → I o.invitationId o.generation) (hlegacy : ∀ j, ¬N.legacyJoin j)
    (hI : (∀ o ∈ db.tables.openings, I o.invitationId o.generation) ∧
      ∀ j ∈ db.tables.inviterJoins, I j.invitationId j.generation) :
    (∀ o ∈ db'.tables.openings, I o.invitationId o.generation) ∧
      ∀ j ∈ db'.tables.inviterJoins, I j.invitationId j.generation := by
  refine h.keeps (P := fun db => (∀ o ∈ db.tables.openings, I o.invitationId o.generation) ∧
    ∀ j ∈ db.tables.inviterJoins, I j.invitationId j.generation) he ?_ hI
  rintro db db' hdb hstep ⟨hopenings, hjoins⟩
  have hev := Evolves.of_effect hdb hstep
  constructor
  · intro o' ho'
    obtain hallowed | ⟨o, ho, hid, hgen, -⟩ := hev.opening o' ho'
    · exact hnew o' hallowed
    · rw [← hid, ← hgen]
      exact hopenings o ho
  · intro j' hj'
    obtain hallowed | ⟨j, hj, -, hid, hgen, -⟩ | ⟨o, ho, hid, hgen⟩ := hev.join j' hj'
    · exact absurd hallowed (hlegacy j')
    · rw [hid, hgen]
      exact hjoins j hj
    · rw [← hid, ← hgen]
      exact hopenings o ho

variable {generation : Generation}

theorem keeps_gone (hnew : ∀ o, N.opening o → o.generation ≠ generation)
    (hgone : Gone generation db) : Gone generation db' := by
  refine h.keeps (P := Gone generation) he ?_ hgone
  intro db db' hdb hstep hgone o' ho'
  obtain hallowed | ⟨o, ho, -, hgen, -⟩ := (Evolves.of_effect hdb hstep).opening o' ho'
  · exact hnew o' hallowed
  · rw [← hgen]
    exact hgone o ho

theorem keeps_closed (hnew : ∀ o, N.opening o → o.generation ≠ generation)
    (hclosed : ∀ o ∈ db.tables.openings, o.generation = generation → o.Closed) :
    ∀ o ∈ db'.tables.openings, o.generation = generation → o.Closed := by
  refine h.keeps (P := fun db => ∀ o ∈ db.tables.openings, o.generation = generation → o.Closed)
    he ?_ hclosed
  intro db db' hdb hstep hclosed o' ho' hgen'
  obtain hallowed | ⟨o, ho, -, hgen, hstays⟩ := (Evolves.of_effect hdb hstep).opening o' ho'
  · exact absurd hgen' (hnew o' hallowed)
  · exact hstays (hclosed o ho (hgen.trans hgen'))

theorem keeps_join {j : InviterJoinRow} (hj : ∃ k ∈ db.tables.inviterJoins, k.SameKeys j) :
    ∃ k ∈ db'.tables.inviterJoins, k.SameKeys j := by
  refine h.keeps (P := fun db => ∃ k ∈ db.tables.inviterJoins, k.SameKeys j) he ?_ hj
  rintro db db' hdb hstep ⟨k, hk, hsame⟩
  obtain ⟨k', hk', hsame'⟩ := (Evolves.of_effect hdb hstep).join_kept k hk
  exact ⟨k', hk', hsame'.trans hsame⟩

theorem keeps_recorded {a : AttemptRow} (hnew : ∀ o, N.opening o → o.generation ≠ a.generation)
    (ha : Recorded a db) : Recorded a db' := by
  refine h.keeps (P := Recorded a) he ?_ ha
  rintro db db' hdb hstep (⟨b, hb, hsame⟩ | hgone)
  · obtain ⟨hgen, hreq, hnonce, hfinger⟩ := hsame
    obtain ⟨b', hb', ⟨hgen', hreq', hnonce', hfinger'⟩, -⟩ | ⟨-, hgone⟩ :=
      (Evolves.of_effect hdb hstep).attempt b hb
    · exact .inl ⟨b', hb', hgen'.trans hgen, hreq'.trans hreq, hnonce'.trans hnonce,
        hfinger'.trans hfinger⟩
    · rw [hgen] at hgone
      exact .inr hgone
  · exact .inr (keeps_gone hdb (.single hstep) hnew hgone)

/-- An attempt that has ended keeps its row until its opening goes. -/
theorem keeps_ended {a : AttemptRow} (hnew : ∀ o, N.opening o → o.generation ≠ a.generation)
    (hended : a.state.live = false) (ha : a ∈ db.tables.attempts ∨ Gone a.generation db) :
    a ∈ db'.tables.attempts ∨ Gone a.generation db' := by
  refine h.keeps (P := fun db => a ∈ db.tables.attempts ∨ Gone a.generation db) he ?_ ha
  rintro db db' hdb hstep (hmem | hgone)
  · obtain ⟨b, hb, -, hsame⟩ | ⟨-, hgone⟩ := (Evolves.of_effect hdb hstep).attempt a hmem
    · exact .inl (hsame hended ▸ hb)
    · exact .inr hgone
  · exact .inr (keeps_gone hdb (.single hstep) hnew hgone)

end Keeps

end SessionChat.Storage
