import Mathlib.Logic.Relation
import Mathlib.Data.List.Basic

/-!
# Runs of a machine that answers calls (general library)

A machine is a function `step` from a state and a call to the next state and a reply. A
`World` is a state together with the calls answered so far. `Leads step A w w'` says that
calls which the condition `A` admits, each judged in the world it is made in, lead from `w`
to `w'`.

An invariant kept by every admitted call holds along the run, a property acquired along the
run is acquired by one call, and the history only grows.
-/

set_option autoImplicit false

namespace SessionChat.Transition

variable {σ κ ρ : Type}

structure Event (κ ρ : Type) where
  call : κ
  reply : ρ

/-- A machine state and the calls answered on the way to it. -/
structure World (σ κ ρ : Type) where
  state : σ
  history : List (Event κ ρ)

variable (step : σ → κ → σ × ρ)

/-- The world after one more call. -/
def World.after (w : World σ κ ρ) (c : κ) : World σ κ ρ where
  state := (step w.state c).1
  history := w.history ++ [⟨c, (step w.state c).2⟩]

/-- One admitted call. -/
def Move (A : World σ κ ρ → κ → Prop) (w w' : World σ κ ρ) : Prop :=
  ∃ c, A w c ∧ w.after step c = w'

/-- Finitely many admitted calls. -/
def Leads (A : World σ κ ρ → κ → Prop) : World σ κ ρ → World σ κ ρ → Prop :=
  Relation.ReflTransGen (Move step A)

variable {step : σ → κ → σ × ρ} {A B : World σ κ ρ → κ → Prop} {w w' w'' : World σ κ ρ}

namespace Leads

theorem refl (w : World σ κ ρ) : Leads step A w w :=
  Relation.ReflTransGen.refl

theorem trans (h : Leads step A w w') (h' : Leads step A w' w'') : Leads step A w w'' :=
  Relation.ReflTransGen.trans h h'

theorem tail (h : Leads step A w w') {c : κ} (hc : A w' c) : Leads step A w (w'.after step c) :=
  Relation.ReflTransGen.tail h ⟨c, hc, rfl⟩

/-- A property that every admitted call keeps holds along the whole run. -/
theorem invariant {I : World σ κ ρ → Prop} (hkeep : ∀ w c, A w c → I w → I (w.after step c))
    (h : Leads step A w w') (hw : I w) : I w' := by
  induction h with
  | refl => exact hw
  | tail _ hmove ih =>
    obtain ⟨c, hc, rfl⟩ := hmove
    exact hkeep _ c hc ih

/-- A run under a stricter condition is a run under a laxer one. -/
theorem mono (hAB : ∀ w c, A w c → B w c) (h : Leads step A w w') : Leads step B w w' := by
  refine Relation.ReflTransGen.mono ?_ _ _ h
  rintro v v' ⟨c, hc, rfl⟩
  exact ⟨c, hAB v c hc, rfl⟩

/-- Earlier replies are never forgotten. -/
theorem history_subset (h : Leads step A w w') : w.history ⊆ w'.history := by
  refine h.invariant (I := fun v => w.history ⊆ v.history) ?_ (List.Subset.refl _)
  intro v c _ hv
  exact List.Subset.trans hv (List.subset_append_left _ _)

/-- What holds at the end of a run and not at its start was brought about by one call. -/
theorem exists_call {P : World σ κ ρ → Prop} (h : Leads step A w w') (hw : ¬P w) (hw' : P w') :
    ∃ v c, Leads step A w v ∧ A v c ∧ ¬P v ∧ P (v.after step c) ∧
      Leads step A (v.after step c) w' := by
  induction h with
  | refl => exact absurd hw' hw
  | @tail u u' hrun hmove ih =>
    obtain ⟨c, hc, rfl⟩ := hmove
    by_cases hu : P u
    · obtain ⟨v, d, hv, hd, hbefore, hafter, hrest⟩ := ih hu
      exact ⟨v, d, hv, hd, hbefore, hafter, hrest.tail hc⟩
    · exact ⟨u, c, hrun, hc, hu, hw', .refl _⟩

end Leads

/-! ## Runs given by the list of their calls -/

/-- The world after the listed calls. -/
def World.afterAll (step : σ → κ → σ × ρ) (w : World σ κ ρ) : List κ → World σ κ ρ
  | [] => w
  | c :: cs => (w.after step c).afterAll step cs

theorem World.afterAll_state (w : World σ κ ρ) (cs : List κ) :
    (w.afterAll step cs).state = cs.foldl (fun s c => (step s c).1) w.state := by
  induction cs generalizing w with
  | nil => rfl
  | cons c cs ih => exact ih (w.after step c)

/-- The listed calls are admitted, each in the world it is made in. -/
def World.Admits (step : σ → κ → σ × ρ) (A : World σ κ ρ → κ → Prop) (w : World σ κ ρ) :
    List κ → Prop
  | [] => True
  | c :: cs => A w c ∧ (w.after step c).Admits step A cs

instance decidableAdmits [∀ w c, Decidable (A w c)] :
    (w : World σ κ ρ) → (cs : List κ) → Decidable (w.Admits step A cs)
  | _, [] => .isTrue trivial
  | w, c :: cs =>
      have : Decidable ((w.after step c).Admits step A cs) :=
        decidableAdmits (w.after step c) cs
      inferInstanceAs (Decidable (A w c ∧ (w.after step c).Admits step A cs))

theorem leads_afterAll {cs : List κ} (h : w.Admits step A cs) :
    Leads step A w (w.afterAll step cs) := by
  induction cs generalizing w with
  | nil => exact .refl w
  | cons c cs ih =>
    obtain ⟨hc, hcs⟩ := h
    exact ((Leads.refl w).tail hc).trans (ih hcs)

/-- Without a condition every list of calls is a run. -/
theorem leads_calls (w : World σ κ ρ) (cs : List κ) :
    Leads step (fun _ _ => True) w (w.afterAll step cs) := by
  refine leads_afterAll ?_
  induction cs generalizing w with
  | nil => exact trivial
  | cons c cs ih => exact ⟨trivial, ih (w.after step c)⟩

end SessionChat.Transition
