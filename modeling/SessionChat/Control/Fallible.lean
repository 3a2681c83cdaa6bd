/-!
# Fallible computations (general library)

A sequence of checks in `Except` succeeds exactly when each of them does. The
lemmas turn a success of the whole into the successes of its parts, in order, so
that a specification never unfolds the monad.
-/

set_option autoImplicit false

namespace SessionChat.Control

variable {ε ε' α β : Type}

/-- Fails when the condition holds. -/
def refuse (c : Prop) [Decidable c] (error : ε) : Except ε Unit :=
  if c then .error error else .ok ()

/-- The value of an option, or the error. -/
def require (value : Option α) (error : ε) : Except ε α :=
  match value with
  | some value => .ok value
  | none => .error error

/-- Reports every failure as one error. -/
def orElse (x : Except ε' α) (error : ε) : Except ε α :=
  match x with
  | .ok value => .ok value
  | .error _ => .error error

variable {x : Except ε α} {f : α → Except ε β} {error error' : ε} {a : α} {c : Prop}
  {value : Option α}

theorem bind_eq_ok {r : β} : (x >>= f) = .ok r ↔ ∃ a, x = .ok a ∧ f a = .ok r := by
  cases x with
  | error error => exact ⟨(by rintro ⟨⟩), fun ⟨_, h, _⟩ => absurd h (by rintro ⟨⟩)⟩
  | ok a => exact ⟨fun h => ⟨a, rfl, h⟩, fun ⟨_, h, hf⟩ => Except.ok.inj h ▸ hf⟩

theorem bind_eq_error :
    (x >>= f) = .error error ↔ x = .error error ∨ ∃ a, x = .ok a ∧ f a = .error error := by
  cases x with
  | error other => simp [bind, Except.bind]
  | ok a => simp [bind, Except.bind]

theorem pure_eq_ok {r : α} : (pure a : Except ε α) = .ok r ↔ a = r :=
  ⟨Except.ok.inj, congrArg Except.ok⟩

theorem refuse_eq_ok [Decidable c] {u : Unit} : refuse c error = .ok u ↔ ¬c := by
  by_cases hc : c
  · simp [refuse]
  · simp [refuse]

theorem refuse_eq_error [Decidable c] : refuse c error = .error error' ↔ c ∧ error = error' := by
  by_cases hc : c
  · simp [refuse, hc]
  · simp [refuse, hc]

theorem require_eq_error : require value error = .error error' ↔ value = none ∧ error = error' := by
  cases value <;> simp [require]

theorem orElse_eq_error {x : Except ε' α} (h : orElse x error = .error error') :
    error = error' := by
  cases x with
  | error other => exact Except.error.inj h
  | ok a => cases h

theorem require_eq_ok : require value error = .ok a ↔ value = some a := by
  cases value <;> simp [require]

theorem orElse_eq_ok {x : Except ε' α} : orElse x error = .ok a ↔ x = .ok a := by
  cases x <;> simp [orElse]

end SessionChat.Control
