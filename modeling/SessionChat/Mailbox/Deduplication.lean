import SessionChat.Mailbox.OwnerDiscipline

/-!
# What a commit stores (`crates/transport-conformance/src/receive_owner.rs`)

Deduplication sorts the items of a page into those the owner already has, with the
same bytes, and those to be added; afterwards it has all of them.
-/

set_option autoImplicit false

namespace SessionChat.Mailbox.Owner

open Collections DeterministicReceiveStateOwner Storage

/-- The identifiers whose outcome is that they were stored now. -/
def newlyStored (ids : List DeliveryId) (outcomes : List DeduplicationOutcome) : List DeliveryId :=
  ((ids.zip outcomes).filter fun pair => pair.2 = .stored).map Prod.fst

structure Deduplicated (stored : OrderedMap DeliveryId Bytes)
    (items : List ReceivedCanonicalEnvelope) (outcomes : List DeduplicationOutcome)
    (additions : List (DeliveryId × Bytes)) : Prop where
  known : ∀ item ∈ items, stored.get? item.deliveryId = some item.envelope.bytes ∨
    (item.deliveryId, item.envelope.bytes) ∈ additions
  absent : ∀ addition ∈ additions, stored.get? addition.1 = none
  ids : additions.map Prod.fst =
    newlyStored (items.map ReceivedCanonicalEnvelope.deliveryId) outcomes
  sublist : (additions.map Prod.fst).Sublist (items.map ReceivedCanonicalEnvelope.deliveryId)
  fromItems : ∀ addition ∈ additions, ∃ item ∈ items,
    addition = (item.deliveryId, item.envelope.bytes)

variable {stored : OrderedMap DeliveryId Bytes} {additions : List (DeliveryId × Bytes)}

theorem deduplicate_ok {items : List ReceivedCanonicalEnvelope}
    {outcomes : List DeduplicationOutcome}
    (h : deduplicate stored items = .ok (outcomes, additions)) :
    Deduplicated stored items outcomes additions := by
  induction items generalizing outcomes additions with
  | nil =>
    cases h
    exact ⟨(by simp), (by simp), rfl, .slnil, (by simp)⟩
  | cons item items ih =>
    simp only [deduplicate] at h
    rcases hget : stored.get? item.deliveryId with _ | bytes <;> rw [hget] at h
    · rcases hrest : deduplicate stored items with error | ⟨outcomes', additions'⟩ <;>
        rw [hrest] at h <;> cases h
      have hdedup := ih hrest
      refine ⟨?_, ?_, ?_, ?_, ?_⟩
      · intro other hother
        rcases List.mem_cons.mp hother with rfl | hmem
        · exact .inr List.mem_cons_self
        · exact (hdedup.known other hmem).imp_right (List.mem_cons_of_mem _)
      · intro addition haddition
        rcases List.mem_cons.mp haddition with rfl | hmem
        · exact hget
        · exact hdedup.absent addition hmem
      · rw [List.map_cons, hdedup.ids]
        rfl
      · exact hdedup.sublist.cons_cons _
      · intro addition haddition
        rcases List.mem_cons.mp haddition with rfl | hmem
        · exact ⟨item, List.mem_cons_self, rfl⟩
        · obtain ⟨other, hother, heq⟩ := hdedup.fromItems addition hmem
          exact ⟨other, List.mem_cons_of_mem _ hother, heq⟩
    · dsimp only at h
      split_ifs at h with hbytes
      rcases hrest : deduplicate stored items with error | ⟨outcomes', additions'⟩ <;>
        rw [hrest] at h <;> cases h
      have hdedup := ih hrest
      refine ⟨?_, hdedup.absent, hdedup.ids, hdedup.sublist.cons _, ?_⟩
      · intro other hother
        rcases List.mem_cons.mp hother with rfl | hmem
        · exact .inl (by rw [hget, hbytes])
        · exact hdedup.known other hmem
      · intro addition haddition
        obtain ⟨other, hother, heq⟩ := hdedup.fromItems addition haddition
        exact ⟨other, List.mem_cons_of_mem _ hother, heq⟩

variable {id : DeliveryId}

theorem get?_insertAll_of_notMem (h : id ∉ additions.map Prod.fst) :
    (insertAll stored additions).get? id = stored.get? id := by
  induction additions generalizing stored with
  | nil => rfl
  | cons addition additions ih =>
    rw [List.map_cons, List.mem_cons, not_or] at h
    rw [insertAll, List.foldl_cons, ← insertAll, ih h.2, OrderedMap.get?_insert_of_ne _ _ h.1]

theorem get?_insertAll_of_mem (hnodup : (additions.map Prod.fst).Nodup)
    {addition : DeliveryId × Bytes} (h : addition ∈ additions) :
    (insertAll stored additions).get? addition.1 = some addition.2 := by
  induction additions generalizing stored with
  | nil => exact absurd h List.not_mem_nil
  | cons head additions ih =>
    rw [List.map_cons, List.nodup_cons] at hnodup
    rw [insertAll, List.foldl_cons, ← insertAll]
    rcases List.mem_cons.mp h with rfl | hmem
    · rw [get?_insertAll_of_notMem hnodup.1, OrderedMap.get?_insert_self]
    · exact ih hnodup.2 hmem

section

variable {stored : OrderedMap DeliveryId Bytes} {items : List ReceivedCanonicalEnvelope}
  {outcomes : List DeduplicationOutcome} {additions : List (DeliveryId × Bytes)} {bytes : Bytes}

/-- What was stored stays, byte for byte. -/
theorem Deduplicated.kept (h : Deduplicated stored items outcomes additions)
    (hget : stored.get? id = some bytes) : (insertAll stored additions).get? id = some bytes := by
  rw [get?_insertAll_of_notMem, hget]
  intro hmem
  obtain ⟨addition, haddition, rfl⟩ := List.mem_map.mp hmem
  exact absurd ((h.absent addition haddition).symm.trans hget) (by simp)

section

variable (h : Deduplicated stored items outcomes additions)
  (hnodup : (items.map ReceivedCanonicalEnvelope.deliveryId).Nodup)
include h hnodup

/-- Afterwards every item of the page is stored. -/
theorem Deduplicated.stores {item : ReceivedCanonicalEnvelope} (hitem : item ∈ items) :
    (insertAll stored additions).get? item.deliveryId = some item.envelope.bytes := by
  rcases h.known item hitem with hold | hnew
  · exact h.kept hold
  · exact get?_insertAll_of_mem (hnodup.sublist h.sublist) hnew

/-- Nothing else is stored. -/
theorem Deduplicated.back (hget : (insertAll stored additions).get? id = some bytes) :
    stored.get? id = some bytes ∨
      ∃ item ∈ items, item.deliveryId = id ∧ item.envelope.bytes = bytes := by
  by_cases hmem : id ∈ additions.map Prod.fst
  · obtain ⟨addition, haddition, rfl⟩ := List.mem_map.mp hmem
    rw [get?_insertAll_of_mem (hnodup.sublist h.sublist) haddition] at hget
    obtain ⟨item, hitem, rfl⟩ := h.fromItems addition haddition
    exact .inr ⟨item, hitem, rfl, Option.some.inj hget⟩
  · rw [get?_insertAll_of_notMem hmem] at hget
    exact .inl hget

end

end

end SessionChat.Mailbox.Owner
