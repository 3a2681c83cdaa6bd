import Mathlib.Data.List.Basic
import Mathlib.Data.List.Nodup

/-!
# First occurrences (general library)

The distinct elements of a list that satisfy a condition, each at its first occurrence. A reader
of the first `n` entries of a queue and a reader of the first `n` distinct elements see the same
exactly when no wanted element lies behind an unwanted or repeated entry.
-/

set_option autoImplicit false

namespace SessionChat.Collections

variable {α : Type} [DecidableEq α] {p : α → Bool} {l l' : List α} {n : Nat}

theorem eraseDups_sublist_nodup (l : List α) : l.eraseDups.Sublist l ∧ l.eraseDups.Nodup := by
  induction hlength : l.length using Nat.strongRecOn generalizing l with
  | ind length ih =>
    cases l with
    | nil => exact ⟨List.Sublist.refl _, List.nodup_nil⟩
    | cons a rest =>
      rw [List.eraseDups_cons]
      have hfilter := List.length_filter_le (fun b => !b == a) rest
      obtain ⟨hsublist, hnodup⟩ := ih _ (by simp only [List.length_cons] at hlength; omega)
        (rest.filter fun b => !b == a) rfl
      refine ⟨(hsublist.trans List.filter_sublist).cons_cons a,
        List.nodup_cons.mpr ⟨fun hmem => ?_, hnodup⟩⟩
      simpa using (List.mem_filter.mp (List.mem_eraseDups.mp hmem)).2

/-- The distinct elements that satisfy the condition, in the order of their first
occurrences. -/
def distinctWhere (p : α → Bool) (l : List α) : List α := (l.filter p).eraseDups

theorem mem_distinctWhere {a : α} : a ∈ distinctWhere p l ↔ a ∈ l ∧ p a = true := by
  rw [distinctWhere, List.mem_eraseDups, List.mem_filter]

variable (p : α → Bool)

theorem nodup_distinctWhere (l : List α) : (distinctWhere p l).Nodup :=
  (eraseDups_sublist_nodup _).2

theorem distinctWhere_sublist (l : List α) : (distinctWhere p l).Sublist l :=
  (eraseDups_sublist_nodup _).1.trans List.filter_sublist

/-- What a longer list adds is new. -/
theorem distinctWhere_append (l l' : List α) :
    ∃ added, distinctWhere p (l ++ l') = distinctWhere p l ++ added ∧
      ∀ a, a ∈ added ↔ a ∈ l' ∧ p a = true ∧ a ∉ l := by
  refine ⟨((l'.filter p).removeAll (l.filter p)).eraseDups, ?_, fun a => ?_⟩
  · rw [distinctWhere, List.filter_append, List.eraseDups_append]
    rfl
  · simp only [List.mem_eraseDups, List.removeAll, List.elem_eq_mem,
      Bool.not_eq_true', decide_eq_false_iff_not, List.mem_filter]
    tauto

theorem distinctWhere_concat (l : List α) (a : α) : distinctWhere p (l ++ [a]) =
      distinctWhere p l ++ if p a = true ∧ a ∉ distinctWhere p l then [a] else [] := by
  obtain ⟨added, happend, hadded⟩ := distinctWhere_append p l [a]
  have hnodup := nodup_distinctWhere p (l ++ [a])
  rw [happend] at hnodup ⊢
  congr 1
  split_ifs with hnew
  · have hmem : a ∈ added := by
      refine (hadded a).mpr ⟨List.mem_singleton_self a, hnew.1, fun hl => ?_⟩
      exact hnew.2 (mem_distinctWhere.mpr ⟨hl, hnew.1⟩)
    refine (List.perm_singleton.mp ?_)
    refine (List.perm_ext_iff_of_nodup hnodup.of_append_right (List.nodup_singleton a)).mpr ?_
    intro b
    constructor
    · intro hb
      exact ((hadded b).mp hb).1
    · intro hb
      rw [List.mem_singleton.mp hb]
      exact hmem
  · refine List.eq_nil_iff_forall_not_mem.mpr fun b hb => ?_
    obtain ⟨hsingle, hp, hnot⟩ := (hadded b).mp hb
    rw [List.mem_singleton.mp hsingle] at hp hnot
    exact hnew ⟨hp, fun hmem => hnot (mem_distinctWhere.mp hmem).1⟩

theorem head?_distinctWhere (l : List α) : (distinctWhere p l).head? = l.find? p := by
  rw [distinctWhere, ← List.head?_filter]
  cases l.filter p with
  | nil => rfl
  | cons a rest =>
    rw [List.eraseDups_cons]
    rfl

/-- Looking at the first `n` entries is enough when everything wanted behind them is among
them, or when none of them is wasted. -/
theorem distinctWhere_take_iff (l : List α) (n : Nat) :
    distinctWhere p (l.take n) = (distinctWhere p l).take n ↔
      (∀ a ∈ l.drop n, p a = true → a ∈ l.take n) ∨
        (l.take n).Nodup ∧ ∀ a ∈ l.take n, p a = true := by
  obtain ⟨added, happend, hadded⟩ := distinctWhere_append p (l.take n) (l.drop n)
  rw [List.take_append_drop] at happend
  have hsub := distinctWhere_sublist p (l.take n)
  have hshort : (distinctWhere p (l.take n)).length ≤ n :=
    Nat.le_trans hsub.length_le (List.length_take_le n l)
  have hnone : added = [] ↔ ∀ a ∈ l.drop n, p a = true → a ∈ l.take n := by
    constructor
    · intro hnil a ha hp
      by_contra hnot
      have hmem := (hadded a).mpr ⟨ha, hp, hnot⟩
      rw [hnil] at hmem
      cases hmem
    · intro hall
      refine List.eq_nil_iff_forall_not_mem.mpr fun a ha => ?_
      obtain ⟨hdrop, hp, hnot⟩ := (hadded a).mp ha
      exact hnot (hall a hdrop hp)
  rw [← hnone, happend]
  constructor
  · intro hsame
    rcases Nat.lt_or_ge (distinctWhere p (l.take n)).length n with hless | hfull
    · -- There was room for more, so there is nothing more.
      left
      have hlength := congrArg List.length hsame
      rw [List.length_take, List.length_append] at hlength
      refine List.eq_nil_of_length_eq_zero ?_
      omega
    · -- Every one of the first entries was returned.
      right
      have htake := List.length_take_le n l
      have hall : distinctWhere p (l.take n) = l.take n := hsub.eq_of_length_le (by omega)
      refine ⟨hall ▸ nodup_distinctWhere p (l.take n), fun a ha => ?_⟩
      rw [← hall] at ha
      exact (mem_distinctWhere.mp ha).2
  · rintro (hnil | ⟨hnodup, hall⟩)
    · rw [hnil, List.append_nil, List.take_of_length_le hshort]
    · have htake : distinctWhere p (l.take n) = l.take n := by
        refine hsub.eq_of_length ?_
        refine (List.Perm.length_eq ?_)
        refine (List.perm_ext_iff_of_nodup (nodup_distinctWhere _ _) hnodup).mpr fun a => ?_
        rw [mem_distinctWhere]
        exact ⟨fun h => h.1, fun h => ⟨h, hall a h⟩⟩
      rcases Nat.lt_or_ge l.length n with hless | hlong
      · have hnil : added = [] := by
          refine hnone.mpr fun a ha _ => ?_
          rw [List.drop_of_length_le (by omega)] at ha
          cases ha
        rw [hnil, List.append_nil, List.take_of_length_le hshort]
      · refine (List.take_left' ?_).symm
        rw [htake, List.length_take]
        omega

end SessionChat.Collections
