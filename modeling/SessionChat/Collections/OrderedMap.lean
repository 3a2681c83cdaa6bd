import Mathlib.Algebra.Ring.Nat
import Mathlib.Data.Nat.Cast.Basic
import Mathlib.Data.List.Pairwise
import Mathlib.Order.Defs.LinearOrder
import Mathlib.Algebra.Order.BigOperators.Group.List
import Mathlib.Algebra.Order.Group.Nat

/-!
# Maps in key order (general library)

A finite map that is iterated in the order of its keys, as the list of its entries with strictly
increasing keys. Every operation is characterised by the lookup `get?`; size and sums follow the
operations, and a search finds the least key that satisfies it.
-/

set_option autoImplicit false

namespace SessionChat.Collections

/-- Fixed-width byte strings in byte order. -/
scoped instance bytesLinearOrder (w : Nat) : LinearOrder (BitVec w) where
  le_refl := BitVec.le_refl
  le_trans _ _ _ := BitVec.le_trans
  lt_iff_le_not_ge a b := by
    rw [BitVec.lt_def, BitVec.le_def, BitVec.le_def]
    omega
  le_antisymm _ _ := BitVec.le_antisymm
  le_total := BitVec.le_total
  toDecidableLE := inferInstance
  toDecidableEq := inferInstance
  toDecidableLT := inferInstance

variable {κ ν : Type} [LinearOrder κ]

structure OrderedMap (κ ν : Type) [LinearOrder κ] where
  entries : List (κ × ν)
  sorted : entries.Pairwise fun a b => a.1 < b.1

namespace OrderedMap

def empty : OrderedMap κ ν := ⟨[], .nil⟩

variable (m : OrderedMap κ ν)

def get? (k : κ) : Option ν :=
  (m.entries.find? fun e => decide (e.1 = k)).map Prod.snd

/-- The value is put at the key, in the place of any other. -/
def insert (k : κ) (v : ν) : OrderedMap κ ν where
  entries := (m.entries.filter fun e => decide (e.1 < k)) ++
    (k, v) :: m.entries.filter fun e => decide (k < e.1)
  sorted := by
    refine List.pairwise_append.mpr ⟨m.sorted.filter _, ?_, ?_⟩
    · refine List.pairwise_cons.mpr ⟨?_, m.sorted.filter _⟩
      intro e he
      exact of_decide_eq_true (List.mem_filter.mp he).2
    · intro a ha b hb
      have hak : a.1 < k := of_decide_eq_true (List.mem_filter.mp ha).2
      rcases List.mem_cons.mp hb with rfl | hb
      · exact hak
      · exact hak.trans (of_decide_eq_true (List.mem_filter.mp hb).2)

def retain (p : κ → ν → Bool) : OrderedMap κ ν where
  entries := m.entries.filter fun e => p e.1 e.2
  sorted := m.sorted.filter _

def erase (k : κ) : OrderedMap κ ν :=
  m.retain fun k' _ => decide (k' ≠ k)

variable {ν' : Type}

def mapValues (f : κ → ν → ν') : OrderedMap κ ν' where
  entries := m.entries.map fun e => (e.1, f e.1 e.2)
  sorted := List.pairwise_map.mpr m.sorted

/-- Rewrites the value at one key, if there is one. -/
def modify (k : κ) (f : ν → ν) : OrderedMap κ ν :=
  m.mapValues fun k' v => if k' = k then f v else v

def size : Nat := m.entries.length

/-- The first entry, in key order, that satisfies the condition. -/
def find? (p : κ → ν → Bool) : Option (κ × ν) :=
  m.entries.find? fun e => p e.1 e.2

def sum (f : κ → ν → Nat) : Nat :=
  (m.entries.map fun e => f e.1 e.2).sum

/-! ## Lookup -/

variable {m m' : OrderedMap κ ν} {k k' : κ} {v : ν} {f g : κ → ν → Nat} {p : κ → ν → Bool}

theorem eq_of_key {a b : κ × ν} (ha : a ∈ m.entries) (hb : b ∈ m.entries) (hkey : a.1 = b.1) :
    a = b := by
  by_contra hne
  have hpair : m.entries.Pairwise fun a b => a.1 ≠ b.1 := m.sorted.imp fun hlt => ne_of_lt hlt
  have : Std.Symm fun a b : κ × ν => a.1 ≠ b.1 := ⟨fun _ _ h => h.symm⟩
  exact hpair.forall ha hb hne hkey

theorem mem_entries : (k, v) ∈ m.entries ↔ m.get? k = some v := by
  unfold get?
  constructor
  · intro h
    rcases hfound : m.entries.find? (fun e => decide (e.1 = k)) with _ | e
    · exact absurd (decide_eq_true rfl) (List.find?_eq_none.mp hfound (k, v) h)
    · have hkey : e.1 = k := by simpa using List.find?_some hfound
      have hentry : e = (k, v) := eq_of_key (List.mem_of_find?_eq_some hfound) h hkey
      rw [hfound, hentry]
      rfl
  · intro h
    obtain ⟨e, hfound, rfl⟩ := Option.map_eq_some_iff.mp h
    have hkey : e.1 = k := by simpa using List.find?_some hfound
    rw [← hkey]
    exact List.mem_of_find?_eq_some hfound

/-- Two maps with the same lookups answer every lookup question alike. -/
theorem get?_eq_of_mem {m' : OrderedMap κ ν'} {f : ν' → ν}
    (h : ∀ v, (k, v) ∈ m.entries ↔ ∃ v', (k, v') ∈ m'.entries ∧ f v' = v) :
    m.get? k = (m'.get? k).map f := by
  ext v
  rw [← mem_entries, h v]
  simp only [mem_entries, Option.map_eq_some_iff]

@[simp] theorem get?_empty (k : κ) : (empty : OrderedMap κ ν).get? k = none :=
  rfl

@[simp] theorem get?_insert_self (m : OrderedMap κ ν) (k : κ) (v : ν) :
    (m.insert k v).get? k = some v := by
  rw [← mem_entries]
  simp [insert]

@[simp] theorem get?_insert_of_ne (m : OrderedMap κ ν) (v : ν) (hne : k' ≠ k) :
    (m.insert k v).get? k' = m.get? k' := by
  ext v'
  rw [← mem_entries, ← mem_entries]
  simp only [insert, List.mem_append, List.mem_filter, List.mem_cons, decide_eq_true_eq,
    Prod.mk.injEq, hne, false_and, false_or, ← and_or_left, and_iff_left_iff_imp]
  exact fun _ => lt_or_gt_of_ne hne

theorem get?_insert (m : OrderedMap κ ν) (k k' : κ) (v : ν) :
    (m.insert k v).get? k' = if k' = k then some v else m.get? k' := by
  split_ifs with h
  · rw [h, get?_insert_self]
  · rw [get?_insert_of_ne m v h]

theorem get?_retain : (m.retain p).get? k = (m.get? k).filter (p k) := by
  ext v
  rw [← mem_entries, Option.filter_eq_some_iff, ← mem_entries]
  simp only [retain, List.mem_filter]

@[simp] theorem get?_erase_self (m : OrderedMap κ ν) (k : κ) : (m.erase k).get? k = none := by
  simp [erase, get?_retain]

@[simp] theorem get?_erase_of_ne (m : OrderedMap κ ν) (hne : k' ≠ k) :
    (m.erase k).get? k' = m.get? k' := by
  cases h : m.get? k' <;> simp [erase, get?_retain, hne, h]

@[simp] theorem get?_mapValues (m : OrderedMap κ ν) (f : κ → ν → ν') (k : κ) :
    (m.mapValues f).get? k = (m.get? k).map (f k) := by
  refine get?_eq_of_mem fun v => ?_
  simp only [mapValues, List.mem_map, Prod.mk.injEq]
  constructor
  · rintro ⟨e, he, rfl, rfl⟩
    exact ⟨e.2, he, rfl⟩
  · rintro ⟨v', hv', rfl⟩
    exact ⟨(k, v'), hv', rfl, rfl⟩

@[simp] theorem get?_modify_self (m : OrderedMap κ ν) (k : κ) (f : ν → ν) :
    (m.modify k f).get? k = (m.get? k).map f := by
  simp [modify]

@[simp] theorem get?_modify_of_ne (m : OrderedMap κ ν) (f : ν → ν) (hne : k' ≠ k) :
    (m.modify k f).get? k' = m.get? k' := by
  simp [modify, hne]

theorem mapValues_congr {f g : κ → ν → ν'} (h : ∀ k v, m.get? k = some v → f k v = g k v) :
    m.mapValues f = m.mapValues g := by
  simp only [mapValues, mk.injEq]
  refine List.map_congr_left fun e he => ?_
  rw [h e.1 e.2 (mem_entries.mp he)]

theorem modify_congr {f g : ν → ν} (h : ∀ v, m.get? k = some v → f v = g v) :
    m.modify k f = m.modify k g := by
  refine mapValues_congr fun k' v hv => ?_
  by_cases hk : k' = k
  · subst hk
    simp [h v hv]
  · simp [hk]

theorem modify_eq_self {f : ν → ν} (h : ∀ v, m.get? k = some v → f v = v) : m.modify k f = m := by
  rw [modify_congr h]
  simp [modify, mapValues]

/-! ## Sums and size -/

theorem modify_modify (m : OrderedMap κ ν) (k : κ) (f g : ν → ν) :
    (m.modify k f).modify k g = m.modify k (g ∘ f) := by
  simp only [modify, mapValues, List.map_map, mk.injEq]
  refine List.map_congr_left fun e _ => ?_
  by_cases hkey : e.1 = k <;> simp [hkey]

theorem nodup (m : OrderedMap κ ν) : m.entries.Nodup := by
  refine List.nodup_iff_pairwise_ne.mpr (m.sorted.imp ?_)
  rintro a b hlt rfl
  exact lt_irrefl _ hlt

/-- The entries of one map are those of another and one more. -/
theorem perm_cons (hself : m.get? k = some v) (hgone : m'.get? k = none)
    (hother : ∀ k', k' ≠ k → m.get? k' = m'.get? k') : m.entries.Perm ((k, v) :: m'.entries) := by
  have hfresh : (k, v) ∉ m'.entries := by
    rw [mem_entries, hgone]
    simp
  refine (List.perm_ext_iff_of_nodup m.nodup (List.nodup_cons.mpr ⟨hfresh, m'.nodup⟩)).mpr ?_
  rintro ⟨k', v'⟩
  rw [List.mem_cons, mem_entries, mem_entries]
  by_cases hk : k' = k
  · subst hk
    simp [hself, hgone, eq_comm]
  · simp [hother k' hk, hk]

theorem sum_of_perm_cons (h : m.entries.Perm ((k, v) :: m'.entries)) (f : κ → ν → Nat) :
    m.sum f = f k v + m'.sum f := by
  simpa [sum] using (h.map fun e => f e.1 e.2).sum_eq

theorem sum_insert (m : OrderedMap κ ν) (v : ν) (hfresh : m.get? k = none) (f : κ → ν → Nat) :
    (m.insert k v).sum f = f k v + m.sum f :=
  sum_of_perm_cons (perm_cons (by simp) hfresh fun _ hne => by simp [hne]) f

theorem sum_erase (h : m.get? k = some v) (f : κ → ν → Nat) : m.sum f = f k v + (m.erase k).sum f :=
  sum_of_perm_cons (perm_cons h (by simp) fun _ hne => by simp [hne]) f

theorem sum_modify (h : m.get? k = some v) (g : ν → ν) (f : κ → ν → Nat) :
    (m.modify k g).sum f + f k v = m.sum f + f k (g v) := by
  have hperm : (m.modify k g).entries.Perm ((k, g v) :: (m.erase k).entries) :=
    perm_cons (by simp [h]) (by simp) fun _ hne => by simp [hne]
  rw [sum_of_perm_cons hperm, sum_erase h]
  omega

theorem sum_mapValues (m : OrderedMap κ ν) (g : κ → ν → ν') (f : κ → ν' → Nat) :
    (m.mapValues g).sum f = m.sum fun k v => f k (g k v) := by
  simp only [sum, mapValues, List.map_map, Function.comp_def]

theorem sum_congr (h : ∀ k v, m.get? k = some v → f k v = g k v) : m.sum f = m.sum g := by
  unfold sum
  congr 1
  refine List.map_congr_left fun e he => h e.1 e.2 (mem_entries.mp he)

theorem sum_le_sum (h : ∀ k v, m.get? k = some v → f k v ≤ g k v) : m.sum f ≤ m.sum g :=
  List.sum_le_sum fun e he => h e.1 e.2 (mem_entries.mp he)

/-- Values that are all images of entries are counted by the entries. -/
theorem length_le_sum_count {α : Type} [BEq α] [LawfulBEq α] {f : ν → α} {values : List α}
    (h : ∀ x ∈ values, ∃ k v, m.get? k = some v ∧ f v = x) :
    values.length ≤ m.sum fun _ v => values.count (f v) := by
  induction values with
  | nil => exact Nat.zero_le _
  | cons x values ih =>
    obtain ⟨k, v, hget, hx⟩ := h x List.mem_cons_self
    have htail := ih fun y hy => h y (List.mem_cons_of_mem x hy)
    have hmono : ((m.erase k).sum fun _ v => values.count (f v)) ≤
        (m.erase k).sum fun _ v => (x :: values).count (f v) :=
      sum_le_sum fun _ _ _ => List.count_le_count_cons
    have hself : (x :: values).count (f v) = values.count (f v) + 1 := by
      rw [hx, List.count_cons_self]
    rw [sum_erase hget] at htail ⊢
    rw [List.length_cons]
    omega

/-- The weights of distinct names, each borne by an entry that weighs as much, are at most the
sum of the entries. -/
theorem sum_map_le_sum {α : Type} {name : ν → α} {weight : α → Nat} {names : List α}
    (hnodup : names.Nodup)
    (h : ∀ x ∈ names, ∃ k v, m.get? k = some v ∧ name v = x ∧ weight x ≤ f k v) :
    (names.map weight).sum ≤ m.sum f := by
  induction names generalizing m with
  | nil => exact Nat.zero_le _
  | cons x names ih =>
    obtain ⟨hfresh, hrest⟩ := List.nodup_cons.mp hnodup
    obtain ⟨k, v, hget, hname, hweight⟩ := h x List.mem_cons_self
    have hothers : (names.map weight).sum ≤ (m.erase k).sum f := by
      refine ih hrest fun y hy => ?_
      obtain ⟨k', v', hget', hname', hweight'⟩ := h y (List.mem_cons_of_mem x hy)
      have hkey : k' ≠ k := by
        rintro rfl
        cases hget.symm.trans hget'
        exact hfresh (hname.symm.trans hname' ▸ hy)
      exact ⟨k', v', (get?_erase_of_ne m hkey).trans hget', hname', hweight'⟩
    rw [sum_erase hget, List.map_cons, List.sum_cons]
    omega

theorem size_eq_sum (m : OrderedMap κ ν) : m.size = m.sum fun _ _ => 1 := by
  simp [size, sum]

theorem size_erase (h : m.get? k = some v) : m.size = (m.erase k).size + 1 := by
  rw [size_eq_sum, size_eq_sum, sum_erase h, Nat.add_comm]

/-- A sum is at most the size times the largest term. -/
theorem sum_le_size_mul {bound : Nat} (h : ∀ k v, m.get? k = some v → f k v ≤ bound) :
    m.sum f ≤ m.size * bound := by
  unfold size
  refine (List.sum_le_card_nsmul _ bound ?_).trans_eq (by simp)
  intro n hn
  obtain ⟨e, he, rfl⟩ := List.mem_map.mp hn
  exact h e.1 e.2 (mem_entries.mp he)

@[simp] theorem size_mapValues (m : OrderedMap κ ν) (f : κ → ν → ν') :
    (m.mapValues f).size = m.size := by
  simp [size, mapValues]

@[simp] theorem size_modify (m : OrderedMap κ ν) (k : κ) (f : ν → ν) :
    (m.modify k f).size = m.size :=
  size_mapValues m _

theorem size_insert_le (m : OrderedMap κ ν) (k : κ) (v : ν) : (m.insert k v).size ≤ m.size + 1 := by
  have hsplit : ∀ l : List (κ × ν), (l.filter fun e => decide (e.1 < k)).length +
      (l.filter fun e => decide (k < e.1)).length ≤ l.length := by
    intro l
    have hbelow := List.length_eq_length_filter_add (l := l) fun e => decide (e.1 < k)
    have habove : (l.filter fun e => decide (k < e.1)).length ≤
        (l.filter fun e => !decide (e.1 < k)).length := by
      rw [← List.countP_eq_length_filter, ← List.countP_eq_length_filter]
      refine List.countP_mono_left fun e _ he => ?_
      simpa using le_of_lt (of_decide_eq_true he)
    omega
  have hentries := hsplit m.entries
  simp only [size, insert, List.length_append, List.length_cons]
  omega

theorem size_retain_le (m : OrderedMap κ ν) (p : κ → ν → Bool) : (m.retain p).size ≤ m.size :=
  List.length_filter_le _ _

/-! ## Search -/

theorem find?_eq_none : m.find? p = none ↔ ∀ k v, m.get? k = some v → p k v = false := by
  simp only [find?, List.find?_eq_none, Prod.forall, mem_entries, Bool.not_eq_true]

theorem find?_mapValues (m : OrderedMap κ ν) (g : κ → ν → ν') (p : κ → ν' → Bool) :
    (m.mapValues g).find? p =
      (m.find? fun k v => p k (g k v)).map fun e => (e.1, g e.1 e.2) := by
  simp only [find?, mapValues, List.find?_map, Function.comp_def]

/-- The first retained entry is the first entry that satisfies the condition. -/
theorem head?_retain (m : OrderedMap κ ν) (p : κ → ν → Bool) :
    (m.retain p).entries.head? = m.find? p := by
  simp only [retain, find?, List.head?_filter]

/-- The entry found satisfies the condition, and no smaller key does. -/
theorem find?_eq_some {e : κ × ν} (h : m.find? p = some e) :
    m.get? e.1 = some e.2 ∧ p e.1 e.2 = true ∧
      ∀ k v, m.get? k = some v → p k v = true → e.1 ≤ k := by
  obtain ⟨hp, before, after, hsplit, hbefore⟩ := List.find?_eq_some_iff_append.mp h
  refine ⟨mem_entries.mp ?_, hp, ?_⟩
  · rw [hsplit]
    simp
  · intro k v hkv hpk
    have hmem := mem_entries.mpr hkv
    rw [hsplit, List.mem_append, List.mem_cons] at hmem
    have hsorted := (List.pairwise_append.mp (hsplit ▸ m.sorted)).2.1
    rcases hmem with hmem | heq | hmem
    · exact absurd hpk (by simpa using hbefore _ hmem)
    · exact le_of_eq (congrArg Prod.fst heq).symm
    · exact le_of_lt ((List.pairwise_cons.mp hsorted).1 _ hmem)

end OrderedMap

end SessionChat.Collections
