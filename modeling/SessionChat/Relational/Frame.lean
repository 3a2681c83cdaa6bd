import SessionChat.Relational.Transaction

/-!
# Frames of transaction bodies (general library)

`Keeps q x` says that the body `x`, when it ends, has not changed what `q` reads. There
is one rule for each way to build a body, so the frame of a body follows its text.
-/

set_option autoImplicit false

namespace SessionChat.Relational

variable {σ ρ ε α β γ : Type} {S : Schema σ} {q : σ → γ}

/-- What `q` reads does not depend on the table `T`. -/
def Outside (q : σ → γ) (T : TableOf σ ρ) : Prop :=
  ∀ rows t, q (T.put rows t) = q t

/-- A body that ends leaves what `q` reads as it was. -/
def Keeps (q : σ → γ) (x : Tx S ε α) : Prop :=
  ∀ db a db', x.run db = .ok (a, db') → q db'.tables = q db.tables

namespace Keeps

variable {x : Tx S ε α} {T : TableOf σ ρ}

theorem bind {f : α → Tx S ε β} (hx : Keeps q x) (hf : ∀ a, Keeps q (f a)) : Keeps q (x >>= f) := by
  intro db b db' h
  obtain ⟨a, db₁, hfirst, hsecond⟩ := run_bind_eq_ok.mp h
  exact (hf a db₁ b db' hsecond).trans (hx db a db₁ hfirst)

theorem pure (a : α) : Keeps q (pure a : Tx S ε α) := by
  intro db b db' h
  obtain ⟨-, rfl⟩ := run_pure_eq_ok.mp h
  rfl

theorem select (r : σ → α) : Keeps q (select r : Tx S ε α) := by
  intro db b db' h
  obtain ⟨-, rfl⟩ := run_select_eq_ok.mp h
  rfl

theorem execute {f : σ → σ} (h : ∀ t, q (f t) = q t) : Keeps q (execute f : Tx S ε Unit) := by
  intro db u db' hrun
  rw [run_execute_eq_ok.mp hrun, h]

theorem insertInto (h : Outside q T) (r : ρ) : Keeps q (insertInto T r : Tx S ε Unit) :=
  execute fun t => h _ t

theorem deleteFrom (h : Outside q T) (p : ρ → Bool) : Keeps q (deleteFrom T p : Tx S ε Unit) :=
  execute fun t => h _ t

theorem updateWhere (h : Outside q T) (p : ρ → Bool) (f : ρ → ρ) :
    Keeps q (updateWhere T p f : Tx S ε Nat) :=
  bind (select _) fun _ => bind (execute fun t => h _ t) fun _ => pure _

theorem raise (e : ε) : Keeps q (raise e : Tx S ε α) :=
  fun _ _ _ h => (run_raise_eq_ok.mp h).elim

theorem refuse (c : Prop) [Decidable c] (e : ε) : Keeps q (refuse c e : Tx S ε Unit) := by
  intro db u db' h
  obtain ⟨-, rfl⟩ := run_refuse_eq_ok.mp h
  rfl

theorem require (value : Option α) (e : ε) : Keeps q (require value e : Tx S ε α) := by
  intro db a db' h
  obtain ⟨-, rfl⟩ := run_require_eq_ok.mp h
  rfl

theorem mapError {ε' : Type} {f : ε → ε'} (h : Keeps q x) : Keeps q (mapError f x) :=
  fun db a db' hrun => h db a db' (run_mapError_eq_ok.mp hrun)

theorem ite {c : Prop} [Decidable c] {y : Tx S ε α} (hx : Keeps q x) (hy : Keeps q y) :
    Keeps q (if c then x else y) := by
  split
  · exact hx
  · exact hy

end Keeps

end SessionChat.Relational
