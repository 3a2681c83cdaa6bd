import SessionChat.Transition.Run

/-!
# Runs against a clock (general library)

A call reads the clock any number of times. A timely call reads no time before one read
earlier, by itself or by the calls before it, and meets a further condition on the tokens it
presents.
-/

set_option autoImplicit false

namespace SessionChat.Transition

variable {σ κ ρ : Type}

/-- The times read by the calls of a history. -/
def readings (reads : κ → List Nat) (history : List (Event κ ρ)) : List Nat :=
  history.flatMap fun event => reads event.call

variable (reads : κ → List Nat) (held : World σ κ ρ → κ → Prop)

/-- The clock does not go back, and the presented tokens are held. -/
@[mk_iff] structure Timely (w : World σ κ ρ) (c : κ) : Prop where
  clock : ∀ t ∈ readings reads w.history, ∀ t' ∈ reads c, t ≤ t'
  ordered : (reads c).Pairwise (· ≤ ·)
  held : held w c

instance (w : World σ κ ρ) (c : κ) [Decidable (held w c)] : Decidable (Timely reads held w c) :=
  decidable_of_iff' _ (timely_iff reads held w c)

theorem readings_after (step : σ → κ → σ × ρ) (w : World σ κ ρ) (c : κ) :
    readings reads (w.after step c).history = readings reads w.history ++ reads c := by
  simp [readings, World.after]

end SessionChat.Transition
