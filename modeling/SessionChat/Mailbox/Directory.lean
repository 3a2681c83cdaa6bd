import Mathlib.Tactic.Simps.Basic
import SessionChat.Mailbox.ProviderCalls

/-!
# The directory of generations (`crates/transport-conformance/src/lifecycle_provider.rs`)

What remains of a provider when the deliveries are left out: the material of every generation with
its time of retirement, the active generation of each continuity and the rotation records. A call
keeps it, adds a continuity or rotates one.
-/

set_option autoImplicit false

namespace SessionChat.Mailbox

/-- One generation and the time at which it retires, if it was rotated. -/
structure Cell where
  material : GenerationMaterial
  retireAt : Option Nat

structure Directory where
  cells : List Cell
  active : List CursorBinding
  rotations : List RotationRecord
  next : Nat

/-- Sets the retirement of the first cell with this binding. -/
def retireCell (binding : CursorBinding) (retireAt : Nat) : List Cell → List Cell
  | [] => []
  | cell :: cells =>
      if cell.material.binding = binding then ⟨cell.material, some retireAt⟩ :: cells
      else cell :: retireCell binding retireAt cells

section

variable {binding : CursorBinding} {retireAt : Nat}

@[simp] theorem materials_retireCell (cells : List Cell) :
    (retireCell binding retireAt cells).map Cell.material = cells.map Cell.material := by
  induction cells with
  | nil => rfl
  | cons cell cells ih =>
    simp only [retireCell]
    split_ifs
    · rfl
    · rw [List.map_cons, List.map_cons, ih]

variable {cells : List Cell}

theorem mem_retireCell_of_ne {cell : Cell} (hcell : cell ∈ cells)
    (hne : cell.material.binding ≠ binding) : cell ∈ retireCell binding retireAt cells := by
  induction cells with
  | nil => exact absurd hcell List.not_mem_nil
  | cons head cells ih =>
    simp only [retireCell]
    rcases List.mem_cons.mp hcell with rfl | hmem
    · rw [if_neg hne]
      exact List.mem_cons_self
    · split_ifs
      · exact List.mem_cons_of_mem _ hmem
      · exact List.mem_cons_of_mem _ (ih hmem)

theorem exists_mem_retireCell (retireAt : Nat)
    (hknown : ∃ cell ∈ cells, cell.material.binding = binding) :
    ∃ cell ∈ retireCell binding retireAt cells,
      cell.material.binding = binding ∧ cell.retireAt = some retireAt := by
  obtain ⟨cell, hcell, hbinding⟩ := hknown
  induction cells with
  | nil => exact absurd hcell List.not_mem_nil
  | cons head cells ih =>
    simp only [retireCell]
    split_ifs with hhead
    · exact ⟨_, List.mem_cons_self, hhead, rfl⟩
    · rcases List.mem_cons.mp hcell with rfl | hmem
      · exact absurd hbinding hhead
      · obtain ⟨found, hfound, hrest⟩ := ih hmem
        exact ⟨found, List.mem_cons_of_mem _ hfound, hrest⟩

end

namespace Directory

@[simps]
def issue (d : Directory) (material : GenerationMaterial) : Directory where
  cells := d.cells ++ [⟨material, none⟩]
  active := d.active ++ [material.binding]
  rotations := d.rotations
  next := d.next + 6

/-- The successor of an active generation, which retires as the mode says. -/
@[simps]
def rotate (d : Directory) (record : RotationRecord) (index now : Nat) : Directory where
  cells := retireCell record.predecessor
    (DeterministicLifecycleProvider.retirement record.mode now) d.cells ++
      [⟨record.successor, none⟩]
  active := d.active.set index record.successor.binding
  rotations := d.rotations ++ [record]
  next := d.next + 5

/-- What a call that reads the given times can do to the directory. -/
inductive Turn (d : Directory) (times : List Nat) : Directory → Prop where
  | kept {next : Nat} (hnext : d.next ≤ next) (hbyte : next < 256) : Turn d times { d with next }
  | issued {material : GenerationMaterial} (hdrawn : material.DrawnAt (d.next + 1))
      (hcontinuity : material.binding.continuityId.val = filled 16 d.next)
      (hbyte : d.next + 6 < 256) : Turn d times (d.issue material)
  | rotated {record : RotationRecord} {index now : Nat} (hnow : now ∈ times)
      (hactive : d.active[index]? = some record.predecessor)
      (hdrawn : record.successor.DrawnAt d.next)
      (hcontinuity : record.successor.binding.continuityId = record.predecessor.continuityId)
      (hgeneration : record.successor.binding.generation.val.toNat =
        record.predecessor.generation.val.toNat + 1)
      (hbyte : d.next + 5 < 256) : Turn d times (d.rotate record index now)

def materials (d : Directory) : List GenerationMaterial := d.cells.map Cell.material

@[simp] theorem materials_issue (d : Directory) (material : GenerationMaterial) :
    (d.issue material).materials = d.materials ++ [material] := by
  simp [materials]

@[simp] theorem materials_rotate (d : Directory) (record : RotationRecord) (index now : Nat) :
    (d.rotate record index now).materials = d.materials ++ [record.successor] := by
  simp [materials]

/-- The generation counter of a material. -/
def generationOf (material : GenerationMaterial) : Nat := material.binding.generation.val.toNat

/-- Drawn from the counter, and entirely before `b`. -/
def Before (a b : GenerationMaterial) : Prop :=
  ∃ i j, a.DrawnAt i ∧ b.DrawnAt j ∧ i + 5 ≤ j ∧ j + 5 ≤ 256

/-- Within a continuity the generations grow. -/
def Grows (a b : GenerationMaterial) : Prop :=
  a.binding.continuityId = b.binding.continuityId → generationOf a < generationOf b

/-- The rotated generation is retired as its mode says, and it is not the active one. -/
structure Retired (d : Directory) (clock : Nat) (record : RotationRecord) : Prop where
  cell : ∃ cell ∈ d.cells, cell.material.binding = record.predecessor ∧
    ∃ retireAt, cell.retireAt = some retireAt ∧
      (∀ drain, record.mode = .routine drain → retireAt = drain) ∧
      (record.mode = .compromise → retireAt ≤ clock)
  superseded : ∃ binding ∈ d.active, binding.continuityId = record.predecessor.continuityId ∧
    record.predecessor.generation.val.toNat < binding.generation.val.toNat

/-- The directory is in order; `clock` is a time not later than any the next call reads. -/
structure Ordered (d : Directory) (clock : Nat) : Prop where
  byte : d.next < 256
  drawn : ∀ m ∈ d.materials, ∃ base, m.DrawnAt base ∧ base + 5 ≤ d.next
  continuities : ∀ m ∈ d.materials, ∃ k, m.binding.continuityId.val = filled 16 k ∧ k < d.next
  order : d.materials.Pairwise Before
  generations : d.materials.Pairwise Grows
  activeOnce : (d.active.map CursorBinding.continuityId).Nodup
  activeKnown : ∀ b ∈ d.active, ∃ m ∈ d.materials, m.binding = b
  activeLatest : ∀ b ∈ d.active, ∀ m ∈ d.materials,
    m.binding.continuityId = b.continuityId → generationOf m ≤ b.generation.val.toNat
  activeTotal : ∀ m ∈ d.materials, ∃ b ∈ d.active, b.continuityId = m.binding.continuityId
  retired : ∀ record ∈ d.rotations, Retired d clock record

variable {d d' : Directory} {clock clock' : Nat} {a b material : GenerationMaterial}
  {times : List Nat}

theorem Before.binding_ne (h : Before a b) : a.binding ≠ b.binding := by
  obtain ⟨i, j, ha, hb, hij, hj⟩ := h
  intro heq
  have hscope : filled 32 i = filled 32 j := by
    rw [← ha.receiveScope, ← hb.receiveScope, heq]
  have := filled_injective (by decide) (by omega) (by omega) hscope
  omega

theorem Retired.mono {record : RotationRecord} (h : Retired d clock record)
    (hclock : clock ≤ clock') : Retired d clock' record := by
  obtain ⟨cell, hcell, hbinding, retireAt, hretire, hroutine, hcompromise⟩ := h.cell
  exact ⟨⟨cell, hcell, hbinding, retireAt, hretire, hroutine,
    fun hmode => Nat.le_trans (hcompromise hmode) hclock⟩, h.superseded⟩

theorem Ordered.kept (h : Ordered d clock) {next : Nat} (hnext : d.next ≤ next)
    (hbyte : next < 256) (hclock : clock ≤ clock') : Ordered { d with next } clock' where
  byte := hbyte
  drawn m hm := by
    obtain ⟨base, hdrawn, hbase⟩ := h.drawn m hm
    exact ⟨base, hdrawn, Nat.le_trans hbase hnext⟩
  continuities m hm := by
    obtain ⟨k, hk, hlt⟩ := h.continuities m hm
    exact ⟨k, hk, Nat.lt_of_lt_of_le hlt hnext⟩
  order := h.order
  generations := h.generations
  activeOnce := h.activeOnce
  activeKnown := h.activeKnown
  activeLatest := h.activeLatest
  activeTotal := h.activeTotal
  retired record hrecord :=
    have hretired := (h.retired record hrecord).mono hclock
    ⟨hretired.cell, hretired.superseded⟩

/-- Material drawn at the counter follows all that was drawn before. -/
theorem Ordered.order_append (h : Ordered d clock) {base : Nat} (hdrawn : material.DrawnAt base)
    (hbase : d.next ≤ base) (hbyte : base + 5 ≤ 256) :
    (d.materials ++ [material]).Pairwise Before := by
  refine List.pairwise_append.mpr ⟨h.order, List.pairwise_singleton _ _, ?_⟩
  intro a ha b hb
  rw [List.mem_singleton.mp hb]
  obtain ⟨i, hi, hbound⟩ := h.drawn a ha
  exact ⟨i, base, hi, hdrawn, Nat.le_trans hbound hbase, hbyte⟩

theorem Ordered.continuity_fresh (h : Ordered d clock) {m : GenerationMaterial}
    (hcontinuity : material.binding.continuityId.val = filled 16 d.next) (hm : m ∈ d.materials) :
    m.binding.continuityId ≠ material.binding.continuityId := by
  intro heq
  obtain ⟨k, hk, hlt⟩ := h.continuities m hm
  have hsame : filled 16 k = filled 16 d.next := by rw [← hk, heq, hcontinuity]
  have hbyte := h.byte
  have := filled_injective (by decide) (by omega) hbyte hsame
  omega

theorem Ordered.issued (h : Ordered d clock) (hdrawn : material.DrawnAt (d.next + 1))
    (hcontinuity : material.binding.continuityId.val = filled 16 d.next) (hbyte : d.next + 6 < 256)
    (hclock : clock ≤ clock') : Ordered (d.issue material) clock' := by
  have hfresh : ∀ b ∈ d.active, b.continuityId ≠ material.binding.continuityId := by
    intro b hb
    obtain ⟨m, hm, rfl⟩ := h.activeKnown b hb
    exact h.continuity_fresh hcontinuity hm
  refine ⟨hbyte, ?_, ?_, ?_, ?_, ?_, ?_, ?_, ?_, ?_⟩
  all_goals simp only [materials_issue, issue_next, issue_active, issue_rotations,
    List.mem_append, List.mem_singleton]
  · rintro m (hm | rfl)
    · obtain ⟨base, hbase, hle⟩ := h.drawn m hm
      exact ⟨base, hbase, by omega⟩
    · exact ⟨d.next + 1, hdrawn, by omega⟩
  · rintro m (hm | rfl)
    · obtain ⟨k, hk, hlt⟩ := h.continuities m hm
      exact ⟨k, hk, by omega⟩
    · exact ⟨d.next, hcontinuity, by omega⟩
  · exact h.order_append hdrawn (by omega) (by omega)
  · refine List.pairwise_append.mpr ⟨h.generations, List.pairwise_singleton _ _, ?_⟩
    intro a ha b hb heq
    rw [List.mem_singleton.mp hb] at heq
    exact absurd heq (h.continuity_fresh hcontinuity ha)
  · rw [List.map_append]
    refine List.nodup_append.mpr ⟨h.activeOnce, List.nodup_singleton _, ?_⟩
    intro a ha b hb heq
    obtain ⟨binding, hbinding, rfl⟩ := List.mem_map.mp ha
    rw [List.map_singleton, List.mem_singleton] at hb
    exact hfresh binding hbinding (heq.trans hb)
  · rintro b (hb | rfl)
    · obtain ⟨m, hm, hbinding⟩ := h.activeKnown b hb
      exact ⟨m, .inl hm, hbinding⟩
    · exact ⟨material, .inr rfl, rfl⟩
  · rintro b (hb | rfl) m (hm | rfl) heq
    · exact h.activeLatest b hb m hm heq
    · exact absurd heq.symm (hfresh b hb)
    · exact absurd heq (h.continuity_fresh hcontinuity hm)
    · exact Nat.le_refl _
  · rintro m (hm | rfl)
    · obtain ⟨b, hb, heq⟩ := h.activeTotal m hm
      exact ⟨b, .inl hb, heq⟩
    · exact ⟨m.binding, .inr rfl, rfl⟩
  · intro record hrecord
    obtain ⟨⟨cell, hcell, hrest⟩, binding, hbinding, hsuperseded⟩ :=
      (h.retired record hrecord).mono hclock
    exact ⟨⟨cell, List.mem_append_left _ hcell, hrest⟩,
      ⟨binding, List.mem_append_left _ hbinding, hsuperseded⟩⟩

/-! ### Rotation -/

section

variable {record : RotationRecord} {index now : Nat} {b : CursorBinding}

/-- Only the active binding of the rotated continuity is replaced. -/
theorem Ordered.mem_active_rotate (h : Ordered d clock)
    (hactive : d.active[index]? = some record.predecessor) :
    b ∈ (d.rotate record index now).active ↔ b = record.successor.binding ∨
      (b ∈ d.active ∧ b.continuityId ≠ record.predecessor.continuityId) := by
  obtain ⟨hindex, hget⟩ := List.getElem?_eq_some_iff.mp hactive
  have hother : ∀ j, d.active[j]? = some b →
      (b.continuityId ≠ record.predecessor.continuityId ↔ index ≠ j) := by
    intro j hj
    refine not_congr ⟨fun heq => ?_, ?_⟩
    · refine (List.getElem?_inj (by rwa [List.length_map]) h.activeOnce).mp ?_
      rw [List.getElem?_map, List.getElem?_map, hactive, hj, Option.map_some, Option.map_some, heq]
    · rintro rfl
      rw [Option.some.inj (hj.symm.trans hactive)]
  simp only [rotate_active, List.mem_iff_getElem? (a := b), List.getElem?_set]
  constructor
  · rintro ⟨j, hj⟩
    split_ifs at hj with hij
    · exact .inl (Option.some.inj hj).symm
    · exact .inr ⟨⟨j, hj⟩, (hother j hj).mpr hij⟩
  · rintro (rfl | ⟨⟨j, hj⟩, hne⟩)
    · exact ⟨index, by rw [if_pos rfl, if_pos hindex]⟩
    · exact ⟨j, by rw [if_neg ((hother j hj).mp hne), hj]⟩

theorem Ordered.active_eq (h : Ordered d clock) {b' : CursorBinding} (hb : b ∈ d.active)
    (hb' : b' ∈ d.active) (heq : b.continuityId = b'.continuityId) : b = b' :=
  List.inj_on_of_nodup_map h.activeOnce hb hb' heq

theorem map_continuityId_set {active : List CursorBinding} {p q : CursorBinding}
    (hactive : active[index]? = some p) (hcontinuity : q.continuityId = p.continuityId) :
    (active.set index q).map CursorBinding.continuityId =
      active.map CursorBinding.continuityId := by
  obtain ⟨hindex, rfl⟩ := List.getElem?_eq_some_iff.mp hactive
  rw [List.map_set, hcontinuity, ← List.getElem_map CursorBinding.continuityId]
  exact List.set_getElem_self (by rwa [List.length_map])

section

variable (h : Ordered d clock) (hactive : d.active[index]? = some record.predecessor)
  (hcontinuity : record.successor.binding.continuityId = record.predecessor.continuityId)
  (hgeneration : record.successor.binding.generation.val.toNat =
    record.predecessor.generation.val.toNat + 1)
include h hactive hcontinuity hgeneration

/-- A record made earlier still holds: its generation was not the active one. -/
theorem Retired.rotate {earlier : RotationRecord} (hretired : Retired d clock' earlier) :
    Retired (d.rotate record index now) clock' earlier := by
  have hpredecessor : record.predecessor ∈ d.active := List.mem_of_getElem? hactive
  obtain ⟨b, hb, hsame, hlt⟩ := hretired.superseded
  refine ⟨?_, ?_⟩
  · obtain ⟨cell, hcell, hbinding, hrest⟩ := hretired.cell
    refine ⟨cell, List.mem_append_left _ (mem_retireCell_of_ne hcell ?_), hbinding, hrest⟩
    intro heq
    rw [hbinding] at heq
    rw [heq] at hsame hlt
    rw [h.active_eq hb hpredecessor hsame] at hlt
    exact absurd hlt (Nat.lt_irrefl _)
  · by_cases heq : b.continuityId = record.predecessor.continuityId
    · rw [h.active_eq hb hpredecessor heq] at hsame hlt
      exact ⟨record.successor.binding, (h.mem_active_rotate hactive).mpr (.inl rfl),
        hcontinuity.trans hsame, by omega⟩
    · exact ⟨b, (h.mem_active_rotate hactive).mpr (.inr ⟨hb, heq⟩), hsame, hlt⟩

theorem Retired.of_rotate (hnow : now ≤ clock') :
    Retired (d.rotate record index now) clock' record := by
  obtain ⟨m, hm, hbinding⟩ := h.activeKnown _ (List.mem_of_getElem? hactive)
  obtain ⟨cell, hcell, rfl⟩ := List.mem_map.mp hm
  obtain ⟨retired, hretired, hmatch, hretireAt⟩ :=
    exists_mem_retireCell (DeterministicLifecycleProvider.retirement record.mode now)
      ⟨cell, hcell, hbinding⟩
  refine ⟨⟨retired, List.mem_append_left _ hretired, hmatch, _, hretireAt, ?_, ?_⟩,
    ⟨record.successor.binding, (h.mem_active_rotate hactive).mpr (.inl rfl), hcontinuity,
      by omega⟩⟩
  · intro drain hmode
    rw [hmode]
    rfl
  · intro hmode
    rw [hmode]
    exact hnow

end

theorem Ordered.rotated (h : Ordered d clock) (hactive : d.active[index]? = some record.predecessor)
    (hdrawn : record.successor.DrawnAt d.next)
    (hcontinuity : record.successor.binding.continuityId = record.predecessor.continuityId)
    (hgeneration : record.successor.binding.generation.val.toNat =
      record.predecessor.generation.val.toNat + 1)
    (hbyte : d.next + 5 < 256) (hclock : clock ≤ clock') (hnow : now ≤ clock') :
    Ordered (d.rotate record index now) clock' := by
  have hpredecessor : record.predecessor ∈ d.active := List.mem_of_getElem? hactive
  have hlatest : ∀ m ∈ d.materials, m.binding.continuityId = record.predecessor.continuityId →
      generationOf m < generationOf record.successor := by
    intro m hm heq
    have hle := h.activeLatest _ hpredecessor m hm heq
    simp only [generationOf] at hle ⊢
    omega
  refine ⟨hbyte, ?_, ?_, ?_, ?_, ?_, ?_, ?_, ?_, ?_⟩
  all_goals try simp only [materials_rotate, rotate_next, h.mem_active_rotate hactive,
    List.mem_append, List.mem_singleton]
  · rintro m (hm | rfl)
    · obtain ⟨base, hbase, hle⟩ := h.drawn m hm
      exact ⟨base, hbase, by omega⟩
    · exact ⟨d.next, hdrawn, Nat.le_refl _⟩
  · rintro m (hm | rfl)
    · obtain ⟨k, hk, hlt⟩ := h.continuities m hm
      exact ⟨k, hk, by omega⟩
    · obtain ⟨known, hknown, hbinding⟩ := h.activeKnown _ hpredecessor
      obtain ⟨k, hk, hlt⟩ := h.continuities known hknown
      exact ⟨k, by rw [hcontinuity, ← hbinding, hk], by omega⟩
  · exact h.order_append hdrawn (Nat.le_refl _) (by omega)
  · refine List.pairwise_append.mpr ⟨h.generations, List.pairwise_singleton _ _, ?_⟩
    intro a ha b hb heq
    rw [List.mem_singleton.mp hb] at heq ⊢
    exact hlatest a ha (heq.trans hcontinuity)
  · rw [rotate_active, map_continuityId_set hactive hcontinuity]
    exact h.activeOnce
  · rintro b (rfl | ⟨hb, -⟩)
    · exact ⟨record.successor, .inr rfl, rfl⟩
    · obtain ⟨m, hm, hbinding⟩ := h.activeKnown b hb
      exact ⟨m, .inl hm, hbinding⟩
  · rintro b (rfl | ⟨hb, hne⟩) m (hm | rfl) heq
    · exact Nat.le_of_lt (hlatest m hm (heq.trans hcontinuity))
    · exact Nat.le_refl _
    · exact h.activeLatest b hb m hm heq
    · exact absurd (heq.symm.trans hcontinuity) hne
  · rintro m (hm | rfl)
    · obtain ⟨b, hb, heq⟩ := h.activeTotal m hm
      by_cases hsame : b.continuityId = record.predecessor.continuityId
      · exact ⟨_, .inl rfl, hcontinuity.trans (hsame.symm.trans heq)⟩
      · exact ⟨b, .inr ⟨hb, hsame⟩, heq⟩
    · exact ⟨_, .inl rfl, rfl⟩
  · simp only [rotate_rotations, List.mem_append, List.mem_singleton]
    rintro other (hother | rfl)
    · exact ((h.retired other hother).mono hclock).rotate h hactive hcontinuity hgeneration
    · exact .of_rotate h hactive hcontinuity hgeneration hnow

end

theorem Ordered.turn (h : Ordered d clock) (hturn : Turn d times d') (hclock : clock ≤ clock')
    (htimes : ∀ t ∈ times, t ≤ clock') : Ordered d' clock' := by
  cases hturn with
  | kept hnext hbyte => exact h.kept hnext hbyte hclock
  | issued hdrawn hcontinuity hbyte => exact h.issued hdrawn hcontinuity hbyte hclock
  | rotated hnow hactive hdrawn hcontinuity hgeneration hbyte =>
    exact h.rotated hactive hdrawn hcontinuity hgeneration hbyte hclock (htimes _ hnow)

theorem Turn.extends (h : d.Turn times d') :
    d.materials <+: d'.materials ∧ d.rotations <+: d'.rotations := by
  cases h with
  | kept => exact ⟨List.prefix_refl _, List.prefix_refl _⟩
  | issued =>
    rw [materials_issue]
    exact ⟨List.prefix_append _ _, List.prefix_refl _⟩
  | rotated =>
    rw [materials_rotate]
    exact ⟨List.prefix_append _ _, List.prefix_append _ _⟩

end Directory

end SessionChat.Mailbox
