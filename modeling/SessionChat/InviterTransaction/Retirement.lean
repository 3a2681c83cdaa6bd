import Mathlib.Data.List.DropRight
import SessionChat.InviterTransaction.Calls

/-!
# Retired reservation generations (`crates/session-inviter-transaction/src/lib.rs`)

The in-memory store remembers the generation of each reservation it evicts, in a queue
of bounded length. The queue is always the last part of all evictions of the run; a
generation is refused for as long as the queue remembers it.
-/

set_option autoImplicit false

namespace SessionChat.InviterTransaction

open Collections InMemoryInviterJoinStore Storage

def afterCalls (m : InMemoryInviterJoinStore) (calls : List Call) : InMemoryInviterJoinStore :=
  calls.foldl (fun m c => (call m c).1) m

def evicted? (m : InMemoryInviterJoinStore) : Call → Option (Id16 × ReservationRecord)
  | .seed reservation now =>
      if (m.seedReservation reservation now).1 = .ok () then
        match m.reservations.get? reservation.invitationId with
        | some current => some (reservation.invitationId, current)
        | none =>
            if m.policy.maximumTransactions ≤ m.reservations.size then m.oldestExpired now
            else none
      else none
  | _ => none

/-- The reservations that the listed calls evict, in order. -/
def evictions (m : InMemoryInviterJoinStore) : List Call → List (Id16 × ReservationRecord)
  | [] => []
  | c :: calls => (evicted? m c).toList ++ evictions (call m c).1 calls

/-- What the store remembers of an evicted reservation. -/
def retiredOf (e : Id16 × ReservationRecord) : RetiredReservation :=
  ⟨e.1, e.2.invitationGeneration⟩

variable {m : InMemoryInviterJoinStore}

theorem evictions_append (m : InMemoryInviterJoinStore) (calls later : List Call) :
    evictions m (calls ++ later) = evictions m calls ++ evictions (afterCalls m calls) later := by
  induction calls generalizing m with
  | nil => rfl
  | cons c calls ih =>
    rw [List.cons_append, evictions, evictions, ih, List.append_assoc]
    rfl

theorem afterCalls_append (m : InMemoryInviterJoinStore) (calls later : List Call) :
    afterCalls m (calls ++ later) = afterCalls (afterCalls m calls) later :=
  List.foldl_append

/-! ## The queue -/

/-- Dropping one more element of the front when the part is full. -/
theorem tail_rtake {α : Type} (l : List α) (n : Nat) :
    (if n + 1 ≤ (l.rtake (n + 1)).length then (l.rtake (n + 1)).tail else l.rtake (n + 1)) =
      l.rtake n := by
  simp only [List.rtake, List.length_drop, List.tail_drop]
  split_ifs with hfull
  · congr 1
    omega
  · have hsmall : l.length - (n + 1) = 0 := by omega
    have hsmall' : l.length - n = 0 := by omega
    rw [hsmall, hsmall']

variable {all : List RetiredReservation}

/-- The queue is the last part of a list, and stays so when a reservation is retired. -/
theorem retireReservation_rtake
    (hqueue : m.retiredReservations = all.rtake hardMaximumRetiredReservations)
    (e : Id16 × ReservationRecord) : (m.retireReservation e.1 e.2).retiredReservations =
      (all ++ [retiredOf e]).rtake hardMaximumRetiredReservations := by
  obtain ⟨n, hn⟩ : ∃ n, hardMaximumRetiredReservations = n + 1 := ⟨4095, rfl⟩
  simp only [retireReservation, hqueue, hn]
  rw [tail_rtake, List.rtake_concat_succ]
  rfl

/-- The queue remembers the generation of the reservation. -/
def Remembered (m : InMemoryInviterJoinStore) (reservation : ReservedInvitation) : Prop :=
  ∃ retired ∈ m.retiredReservations, retired.invitationId = reservation.invitationId ∧
    retired.invitationGeneration = reservation.invitationGeneration

/-- A seed is refused, or takes the place of what it evicts, or a free place. -/
theorem seedReservation_cases (m : InMemoryInviterJoinStore) (reservation : ReservedInvitation)
    (now : Nat) : (∃ error, m.seedReservation reservation now = (.error error, m)) ∨
      ¬Remembered m reservation ∧ ((∃ e, evicted? m (.seed reservation now) = some e ∧
          m.seedReservation reservation now = (.ok (), (m.evict e).insertReservation reservation)) ∨
        (evicted? m (.seed reservation now) = none ∧
          m.seedReservation reservation now = (.ok (), m.insertReservation reservation))) := by
  unfold evicted? seedReservation
  split
  · exact .inl ⟨_, rfl⟩
  split
  · exact .inl ⟨_, rfl⟩
  split
  · exact .inl ⟨_, rfl⟩
  next hremembered =>
  rcases hcurrent : m.reservations.get? reservation.invitationId with _ | current
  · simp only [hcurrent]
    split
    next hfull =>
      rcases holdest : m.oldestExpired now with _ | expired
      · exact .inl ⟨_, rfl⟩
      · exact .inr ⟨hremembered, .inl ⟨expired, if_pos rfl, rfl⟩⟩
    next => exact .inr ⟨hremembered, .inr ⟨if_pos rfl, rfl⟩⟩
  · simp only [hcurrent]
    split
    · exact .inl ⟨_, rfl⟩
    · exact .inr ⟨hremembered, .inl ⟨_, if_pos rfl, rfl⟩⟩

/-- Only a seed retires a reservation. -/
theorem Effect.retired {c : Call} {reply : Reply} {m' : InMemoryInviterJoinStore}
    (h : Effect m c reply m') (hseed : ∀ reservation now, c ≠ .seed reservation now) :
    m'.retiredReservations = m.retiredReservations := by
  cases h with
  | kept hexhausts =>
    obtain ⟨g, -, rfl⟩ := hexhausts
    rfl
  | seeded => exact absurd rfl (hseed _ _)
  | installed => rfl
  | issued hexhausts hissues =>
    obtain ⟨g, -, rfl⟩ := hexhausts
    obtain ⟨expiresAt, -, rfl⟩ := hissues.after
    rfl
  | reported => rfl

section

variable (hqueue : m.retiredReservations = all.rtake hardMaximumRetiredReservations)
include hqueue

/-- A call retires exactly what it evicts. -/
theorem retired_call (c : Call) : (call m c).1.retiredReservations =
      (all ++ (evicted? m c).toList.map retiredOf).rtake hardMaximumRetiredReservations := by
  cases c with
  | seed reservation now =>
    rcases seedReservation_cases m reservation now with
      ⟨error, hrefused⟩ | ⟨-, ⟨e, hevicted, hok⟩ | ⟨hnone, hok⟩⟩
    · have hnone : evicted? m (.seed reservation now) = none := by
        simp [evicted?, hrefused]
      simp only [call, hrefused, hnone, Option.toList_none, List.map_nil, List.append_nil, hqueue]
    · simp only [call, hok, hevicted]
      exact retireReservation_rtake
        (m := { m with reservations := m.reservations.erase e.1 }) hqueue e
    · simp only [call, hok, hnone, Option.toList_none, List.map_nil, List.append_nil]
      exact hqueue
  | _ =>
    simp only [evicted?, Option.toList_none, List.map_nil, List.append_nil, ← hqueue]
    exact (call_effect m _).retired (by simp)

/-- The queue is the last part of all evictions of the run. -/
theorem retired_afterCalls (calls : List Call) : (afterCalls m calls).retiredReservations =
      (all ++ (evictions m calls).map retiredOf).rtake hardMaximumRetiredReservations := by
  induction calls generalizing m all with
  | nil => simpa [afterCalls, evictions] using hqueue
  | cons c calls ih =>
    have hnext := ih (retired_call hqueue c)
    rw [List.append_assoc, ← List.map_append] at hnext
    exact hnext

end

theorem retired_new (policy : TransactionPolicy) (scope : ScopeId) (calls : List Call) :
    (afterCalls (.new policy scope) calls).retiredReservations =
      ((evictions (.new policy scope) calls).map retiredOf).rtake
        hardMaximumRetiredReservations := by
  have hqueue : (InMemoryInviterJoinStore.new policy scope).retiredReservations =
      ([] : List RetiredReservation).rtake hardMaximumRetiredReservations := by
    rfl
  exact retired_afterCalls hqueue calls

/-- The last elements of a list are in its last part. -/
theorem mem_rtake_of_short {α : Type} {x : α} {before later : List α} {n : Nat}
    (h : later.length < n) : x ∈ (before ++ x :: later).rtake n := by
  have hdrop : (before ++ x :: later).length - n ≤ before.length := by
    simp only [List.length_append, List.length_cons]
    omega
  rw [List.rtake, List.drop_append_of_le_length hdrop]
  exact List.mem_append_right _ List.mem_cons_self

/-! ## A retired generation -/

/-- A small supply of generations. -/
def rollingGeneration (k : Nat) : Generation := BitVec.ofNat 512 (k % 4999 + 1)

theorem toNat_ofNat_small {width n : Nat} (hwidth : 13 ≤ width) (hn : n < 2 ^ 13) :
    (BitVec.ofNat width n).toNat = n := by
  rw [BitVec.toNat_ofNat]
  exact Nat.mod_eq_of_lt (Nat.lt_of_lt_of_le hn (Nat.pow_le_pow_right Nat.two_pos hwidth))

theorem toNat_rollingGeneration (k : Nat) : (rollingGeneration k).toNat = k % 4999 + 1 :=
  toNat_ofNat_small (by decide) (by omega)

theorem rolling_nonzero (k : Nat) : (1 : Id16) ≠ 0 ∧ rollingGeneration k ≠ 0 ∧ (1 : Id16) ≠ 0 ∧
    k + 1 ≠ 0 := by
  refine ⟨firstId_ne_zero, ?_, firstId_ne_zero, Nat.succ_ne_zero k⟩
  intro hzero
  have hnat := congrArg BitVec.toNat hzero
  rw [toNat_rollingGeneration] at hnat
  exact Nat.succ_ne_zero _ (hnat.trans BitVec.toNat_zero)

/-- A reservation that lives for one second. -/
def rolling (k : Nat) : ReservedInvitation where
  invitationId := 1
  invitationGeneration := rollingGeneration k
  joinRequestId := 1
  expiresAtUnixSeconds := k + 1
  nonzero := rolling_nonzero k

/-- One reservation after another for the same invitation. -/
def rollingCall (k : Nat) : Call := .seed (rolling k) k

/-- The first generation again, with another expiry. -/
def returning : ReservedInvitation where
  invitationId := 1
  invitationGeneration := rollingGeneration 0
  joinRequestId := 1
  expiresAtUnixSeconds := 5000
  nonzero := ⟨firstId_ne_zero, (rolling_nonzero 0).2.1, firstId_ne_zero, by decide⟩

/-- While fewer reservations were evicted since than the queue holds, a retired generation
is refused, whatever expiry it claims, and the store does not change. -/
theorem retired_generation_refused (policy : TransactionPolicy) (scope : ScopeId)
    (before later : List Call) (c : Call) {e : Id16 × ReservationRecord}
    (hevicted : evicted? (afterCalls (.new policy scope) before) c = some e)
    (hfew : (evictions (afterCalls (.new policy scope) (before ++ [c])) later).length <
      hardMaximumRetiredReservations)
    (reservation : ReservedInvitation) (hid : reservation.invitationId = e.1)
    (hgeneration : reservation.invitationGeneration = e.2.invitationGeneration) (now : Nat) :
    ∃ error, (afterCalls (.new policy scope) (before ++ c :: later)).seedReservation reservation
      now = (.error error, afterCalls (.new policy scope) (before ++ c :: later)) := by
  have hremembered : Remembered (afterCalls (.new policy scope) (before ++ c :: later))
      reservation := by
    refine ⟨retiredOf e, ?_, hid.symm, hgeneration.symm⟩
    have hcalls : before ++ c :: later = before ++ [c] ++ later := by simp
    have hevictions : evictions (.new policy scope) (before ++ c :: later) =
        evictions (.new policy scope) before ++
          e :: evictions (afterCalls (.new policy scope) (before ++ [c])) later := by
      rw [hcalls, evictions_append, evictions_append, evictions, hevicted, evictions]
      simp
    rw [retired_new, hevictions, List.map_append]
    refine mem_rtake_of_short ?_
    rw [List.length_map]
    exact hfew
  rcases seedReservation_cases _ reservation now with hrefused | ⟨hnot, -⟩
  · exact hrefused
  · exact absurd hremembered hnot

/-- The first generation is refused after the evictions of two later ones. -/
theorem retired_generation_refused_again :
    let later := [rollingCall 2, rollingCall 3]
    let m := afterCalls (.new samplePolicy 5) ([rollingCall 0] ++ rollingCall 1 :: later)
    (evictions (afterCalls (.new samplePolicy 5) ([rollingCall 0] ++ [rollingCall 1]))
        later).length = 2 ∧ ∃ error, m.seedReservation returning 9 = (.error error, m) := by
  intro later m
  have hevicted : evicted? (afterCalls (.new samplePolicy 5) [rollingCall 0]) (rollingCall 1) =
      some (1, ⟨rollingGeneration 0, 1, 1⟩) := by decide +kernel
  have htwo : (evictions (afterCalls (.new samplePolicy 5) ([rollingCall 0] ++ [rollingCall 1]))
      later).length = 2 := by decide +kernel
  refine ⟨htwo, retired_generation_refused samplePolicy 5 [rollingCall 0] later (rollingCall 1)
    hevicted ?_ returning rfl rfl 9⟩
  rw [htwo]
  decide

/-! ## A generation that returns -/

def Call.time? : Call → Option Nat
  | .seed _ now | .commit _ now _ | .lease _ now _ | .complete _ now | .leaseNext now _ => some now
  | .fail _ => none

theorem rollingGeneration_inj {k l : Nat} (hk : k < 4999) (hl : l < 4999)
    (h : rollingGeneration k = rollingGeneration l) : k = l := by
  have hnat := congrArg BitVec.toNat h
  rw [toNat_rollingGeneration, toNat_rollingGeneration, Nat.mod_eq_of_lt hk,
    Nat.mod_eq_of_lt hl] at hnat
  omega

/-- What the store remembers of the first reservations. -/
def rolledQueue (n : Nat) : List RetiredReservation :=
  (List.range n).map fun k => ⟨1, rollingGeneration k⟩

/-- The store holds one reservation and remembers those before it. -/
structure Rolled (n : Nat) (m : InMemoryInviterJoinStore) : Prop where
  commits : m.commits.entries = []
  current : m.reservations.get? 1 = some ⟨rollingGeneration n, 1, n + 1⟩
  queue : m.retiredReservations = (rolledQueue n).rtake hardMaximumRetiredReservations

variable {n : Nat}

/-- The queue holds only earlier generations. -/
theorem Rolled.not_remembered (h : Rolled n m) (hn : n + 1 < 4999) :
    ¬Remembered m (rolling (n + 1)) := by
  rintro ⟨retired, hmem, -, hgeneration⟩
  rw [h.queue] at hmem
  obtain ⟨k, hk, rfl⟩ := List.mem_map.mp (List.mem_of_mem_drop hmem)
  have hlt := List.mem_range.mp hk
  have hsame : rollingGeneration k = rollingGeneration (n + 1) := hgeneration
  have heq := rollingGeneration_inj (by omega) hn hsame
  omega

/-- A reservation that is not remembered takes the place of the one that has expired. -/
theorem Rolled.seed (h : Rolled n m) (reservation : ReservedInvitation) {now : Nat}
    (hid : reservation.invitationId = 1) (hlive : now < reservation.expiresAtUnixSeconds)
    (hforgotten : ¬Remembered m reservation)
    (hother : rollingGeneration n ≠ reservation.invitationGeneration) (hpast : n + 1 ≤ now) :
    m.seedReservation reservation now = (.ok (), (m.evict
      (1, ⟨rollingGeneration n, 1, n + 1⟩)).insertReservation reservation) := by
  have huncommitted : ¬∃ e ∈ m.commits.entries,
      e.2.invitationId = reservation.invitationId := by
    rintro ⟨e, he, -⟩
    rw [h.commits] at he
    exact absurd he List.not_mem_nil
  have hfree : ¬(now < n + 1 ∨ rollingGeneration n = reservation.invitationGeneration) := by
    rintro (hlt | heq)
    · omega
    · exact hother heq
  unfold Remembered at hforgotten
  unfold seedReservation
  rw [if_neg huncommitted, if_neg (Nat.not_le.mpr hlive), if_neg hforgotten]
  simp only [hid, h.current]
  exact if_neg hfree

theorem Rolled.next (h : Rolled n m) (hn : n + 1 < 4999) :
    Rolled (n + 1) (call m (rollingCall (n + 1))).1 := by
  have hother : rollingGeneration n ≠ rollingGeneration (n + 1) := by
    intro heq
    have hsame := rollingGeneration_inj (by omega) hn heq
    omega
  have hseed := h.seed (rolling (n + 1)) rfl (Nat.lt_succ_self (n + 1))
    (h.not_remembered hn) hother (Nat.le_refl (n + 1))
  have hqueue := retireReservation_rtake
    (m := { m with reservations := m.reservations.erase 1 }) h.queue
    (1, ⟨rollingGeneration n, 1, n + 1⟩)
  simp only [call, rollingCall, hseed]
  refine ⟨h.commits, OrderedMap.get?_insert_self _ _ _, ?_⟩
  rw [rolledQueue, List.range_succ, List.map_append]
  exact hqueue

theorem rolled_afterCalls (hn : n < 4999) :
    Rolled n (afterCalls (.new samplePolicy 5) ((List.range (n + 1)).map rollingCall)) := by
  induction n with
  | zero => exact ⟨by decide +kernel, by decide +kernel, by decide +kernel⟩
  | succ n ih =>
    rw [List.range_succ, List.map_append, afterCalls_append]
    exact (ih (by omega)).next hn

/-- A queue that is full has forgotten the first generation. -/
theorem Rolled.forgotten (h : Rolled (hardMaximumRetiredReservations + 1) m) :
    ¬Remembered m returning := by
  rintro ⟨retired, hmem, -, hgeneration⟩
  have hlength : (rolledQueue (hardMaximumRetiredReservations + 1)).length -
      hardMaximumRetiredReservations = 1 := by
    simp [rolledQueue]
  rw [h.queue, List.rtake, hlength, rolledQueue, List.range_succ_eq_map, List.map_cons,
    List.map_map] at hmem
  obtain ⟨k, hk, rfl⟩ := List.mem_map.mp hmem
  have hlt : k < 4096 := List.mem_range.mp hk
  have hsame : rollingGeneration (k + 1) = rollingGeneration 0 := hgeneration
  have heq := rollingGeneration_inj (by omega) (by omega) hsame
  omega

theorem times_rolling (n : Nat) :
    ((List.range n).map rollingCall).filterMap Call.time? = List.range n := by
  rw [List.filterMap_map]
  exact List.filterMap_some

/-- After as many further evictions as the queue holds, the first generation is accepted
again. -/
theorem retired_generation_returns : ∃ before c later e reservation now,
      ((before ++ c :: later ++ [Call.seed reservation now]).filterMap Call.time?).Pairwise
        (· ≤ ·) ∧ evicted? (afterCalls (.new samplePolicy 5) before) c = some e ∧
      reservation.invitationId = e.1 ∧ reservation.invitationGeneration = e.2.invitationGeneration ∧
      ((afterCalls (.new samplePolicy 5) (before ++ c :: later)).seedReservation reservation
        now).1 = .ok () := by
  have hcalls : [rollingCall 0] ++ rollingCall 1 :: (List.range' 2 4096).map rollingCall =
      (List.range 4098).map rollingCall := by
    rw [List.range_eq_range']
    rfl
  have hrolled := rolled_afterCalls (n := 4097) (by decide)
  have hforgotten : ¬Remembered _ returning := Rolled.forgotten hrolled
  have hother : rollingGeneration 4097 ≠ rollingGeneration 0 := by decide +kernel
  refine ⟨[rollingCall 0], rollingCall 1, (List.range' 2 4096).map rollingCall,
    (1, ⟨rollingGeneration 0, 1, 1⟩), returning, 4098, ?_, by decide +kernel, rfl, rfl, ?_⟩
  · have htime : [Call.seed returning 4098].filterMap Call.time? = [4098] := rfl
    rw [hcalls, List.filterMap_append, times_rolling, htime, ← List.range_succ]
    exact List.pairwise_lt_range.imp Nat.le_of_lt
  · rw [hcalls]
    exact congrArg Prod.fst (hrolled.seed returning rfl (by decide) hforgotten
      hother (Nat.le_refl 4098))

end SessionChat.InviterTransaction
