import SessionChat.Relational.Table

/-!
# Atomic transactions over a constrained database (general library)

`Database S` is a record of tables on which the constraints of the schema `S` hold. A statement
computes the next tables and is refused when they break a constraint.

`Tx S ε` is the body of one transaction. It stops at the first refusal, the database's own
(`Failure.constraint`) or the program's (`Failure.raised`). `transaction` runs a body
atomically: one that stops leaves the database as it found it, and one that ends is committed,
also when its reply is an error.
-/

set_option autoImplicit false

namespace SessionChat.Relational

variable {σ ρ ε α β : Type}

/-- The constraints of a database whose tables form the record `σ`. -/
structure Schema (σ : Type) where
  /-- All table constraints and foreign keys. -/
  Holds : σ → Prop
  /-- The engine can check them. -/
  decidable : DecidablePred Holds

/-- A record of tables on which every constraint of the schema holds. -/
@[ext]
structure Database (S : Schema σ) where
  tables : σ
  valid : S.Holds tables

/-- Why a transaction body stops. -/
inductive Failure (ε : Type) where
  /-- A statement would break a declared constraint. -/
  | constraint
  /-- The program itself returns early with an error. -/
  | raised (error : ε)

/-- The error a caller sees; every refusal of the engine is reported as one. -/
def Failure.report (engine : ε) : Failure ε → ε
  | .constraint => engine
  | .raised error => error

/-- The body of one transaction. -/
abbrev Tx (S : Schema σ) (ε α : Type) :=
  StateT (Database S) (Except (Failure ε)) α

/-- Access to one table of the record. -/
structure TableOf (σ ρ : Type) where
  rows : σ → List ρ
  put : List ρ → σ → σ

variable {S : Schema σ}

/-! ## Statements -/

/-- A statement: the next tables, unless they break a constraint. -/
def execute (f : σ → σ) : Tx S ε Unit := fun db =>
  have := S.decidable
  if h : S.Holds (f db.tables) then .ok ((), ⟨f db.tables, h⟩) else .error .constraint

/-- `SELECT`: reads the tables as they are. -/
def select (q : σ → α) : Tx S ε α := fun db => .ok (q db.tables, db)

/-- `INSERT INTO`. -/
def insertInto (T : TableOf σ ρ) (r : ρ) : Tx S ε Unit :=
  execute fun t => T.put (T.rows t ++ [r]) t

/-- `UPDATE … SET f WHERE p`; the reply is the number of selected rows. -/
def updateWhere (T : TableOf σ ρ) (p : ρ → Bool) (f : ρ → ρ) : Tx S ε Nat := do
  let changed ← select fun t => (T.rows t).countP p
  execute fun t => T.put ((T.rows t).map (patch p f)) t
  return changed

/-- `DELETE FROM … WHERE p`. -/
def deleteFrom (T : TableOf σ ρ) (p : ρ → Bool) : Tx S ε Unit :=
  execute fun t => T.put ((T.rows t).filter fun r => !p r) t

/-- Early return with an error. -/
def raise (error : ε) : Tx S ε α := fun _ => .error (.raised error)

/-- Early return when the condition holds. -/
def refuse (c : Prop) [Decidable c] (error : ε) : Tx S ε Unit := fun db =>
  if c then .error (.raised error) else .ok ((), db)

/-- Early return when the value is absent. -/
def require (value : Option α) (error : ε) : Tx S ε α := fun db =>
  match value with
  | some a => .ok (a, db)
  | none => .error (.raised error)

variable {ε' : Type}

/-- The same body under another error type. -/
def mapError (f : ε → ε') (x : Tx S ε α) : Tx S ε' α := fun db =>
  match x.run db with
  | .ok result => .ok result
  | .error .constraint => .error .constraint
  | .error (.raised error) => .error (.raised (f error))

/-! ## What a body that ends has done -/

section Ended

variable {db db' : Database S} {x : Tx S ε α} {b : β} {a : α} {u : Unit} {T : TableOf σ ρ}
  {p : ρ → Bool} {e : ε}

theorem run_bind_eq_ok {f : α → Tx S ε β} : (x >>= f).run db = .ok (b, db') ↔
      ∃ a db₁, x.run db = .ok (a, db₁) ∧ (f a).run db₁ = .ok (b, db') := by
  rw [StateT.run_bind]
  cases hx : x.run db with
  | error e => simp [bind, Except.bind]
  | ok r =>
    obtain ⟨a, db₁⟩ := r
    simp [bind, Except.bind]

theorem run_pure_eq_ok {b : α} : (pure a : Tx S ε α).run db = .ok (b, db') ↔ a = b ∧ db = db' := by
  rw [StateT.run_pure]
  simp [pure, Except.pure]

theorem run_execute_eq_ok {f : σ → σ} :
    (execute f : Tx S ε Unit).run db = .ok (u, db') ↔ db'.tables = f db.tables := by
  simp only [StateT.run, execute]
  split
  · next h =>
      simp only [Except.ok.injEq, Prod.mk.injEq, true_and, Database.ext_iff]
      exact eq_comm
  · next h =>
      simp only [reduceCtorEq, false_iff]
      intro heq
      exact h (heq ▸ db'.valid)

theorem run_select_eq_ok {q : σ → α} :
    (select q : Tx S ε α).run db = .ok (a, db') ↔ a = q db.tables ∧ db = db' := by
  simp only [StateT.run, select, Except.ok.injEq, Prod.mk.injEq]
  exact and_congr eq_comm Iff.rfl

theorem run_insertInto_eq_ok {r : ρ} : (insertInto T r : Tx S ε Unit).run db = .ok (u, db') ↔
      db'.tables = T.put (T.rows db.tables ++ [r]) db.tables :=
  run_execute_eq_ok

theorem run_updateWhere_eq_ok {f : ρ → ρ} {n : Nat} :
    (updateWhere T p f : Tx S ε Nat).run db = .ok (n, db') ↔ n = (T.rows db.tables).countP p ∧
        db'.tables = T.put ((T.rows db.tables).map (patch p f)) db.tables := by
  simp only [updateWhere, run_bind_eq_ok, run_select_eq_ok, run_execute_eq_ok, run_pure_eq_ok]
  constructor
  · rintro ⟨_, _, ⟨rfl, rfl⟩, _, _, hrun, rfl, rfl⟩
    exact ⟨rfl, hrun⟩
  · rintro ⟨rfl, hrun⟩
    exact ⟨_, _, ⟨rfl, rfl⟩, (), _, hrun, rfl, rfl⟩

theorem run_deleteFrom_eq_ok : (deleteFrom T p : Tx S ε Unit).run db = .ok (u, db') ↔
      db'.tables = T.put ((T.rows db.tables).filter fun r => !p r) db.tables :=
  run_execute_eq_ok

theorem run_raise_eq_ok : (raise e : Tx S ε α).run db = .ok (a, db') ↔ False := by
  simp [StateT.run, raise]

theorem run_refuse_eq_ok {c : Prop} [Decidable c] :
    (refuse c e : Tx S ε Unit).run db = .ok (u, db') ↔ ¬c ∧ db = db' := by
  simp only [StateT.run, refuse]
  split
  · next h => simp [h]
  · next h => simp [h]

theorem run_require_eq_ok {value : Option α} :
    (require value e : Tx S ε α).run db = .ok (a, db') ↔ value = some a ∧ db = db' := by
  cases value with
  | none => simp [StateT.run, require]
  | some b => simp [StateT.run, require]

theorem run_mapError_eq_ok {f : ε → ε'} :
    (mapError f x).run db = .ok (a, db') ↔ x.run db = .ok (a, db') := by
  simp only [StateT.run, mapError]
  split <;> simp_all

end Ended

/-! ## Why a body has stopped -/

section Stopped

variable {db : Database S} {failure : Failure ε}

theorem run_bind_eq_error {x : Tx S ε α} {f : α → Tx S ε β} : (x >>= f).run db = .error failure ↔
      x.run db = .error failure ∨
        ∃ a db₁, x.run db = .ok (a, db₁) ∧ (f a).run db₁ = .error failure := by
  rw [StateT.run_bind]
  cases hx : x.run db with
  | error e => simp [bind, Except.bind]
  | ok r =>
    obtain ⟨a, db₁⟩ := r
    simp [bind, Except.bind]

theorem run_pure_eq_error {a : α} : (pure a : Tx S ε α).run db = .error failure ↔ False := by
  rw [StateT.run_pure]
  simp [pure, Except.pure]

theorem run_execute_eq_error {f : σ → σ} : (execute f : Tx S ε Unit).run db = .error failure ↔
      ¬S.Holds (f db.tables) ∧ failure = .constraint := by
  simp only [StateT.run, execute]
  split
  · next h => simp [h]
  · next h => simp [h, eq_comm]

theorem run_select_eq_error {q : σ → α} :
    (select q : Tx S ε α).run db = .error failure ↔ False := by
  simp [StateT.run, select]

variable {T : TableOf σ ρ} {e : ε}

theorem run_raise_eq_error :
    (raise e : Tx S ε α).run db = .error failure ↔ failure = .raised e := by
  simp [StateT.run, raise, eq_comm]

theorem run_refuse_eq_error {c : Prop} [Decidable c] :
    (refuse c e : Tx S ε Unit).run db = .error failure ↔ c ∧ failure = .raised e := by
  simp only [StateT.run, refuse]
  split
  · next h => simp [h, eq_comm]
  · next h => simp [h]

theorem run_require_eq_error {value : Option α} :
    (require value e : Tx S ε α).run db = .error failure ↔ value = none ∧ failure = .raised e := by
  cases value with
  | none => simp [StateT.run, require, eq_comm]
  | some b => simp [StateT.run, require]

end Stopped

/-! ## Failures a body avoids -/

/-- The body never stops with this failure. -/
def Avoids (failure : Failure ε) (x : Tx S ε α) : Prop :=
  ∀ db : Database S, x.run db ≠ .error failure

namespace Avoids

variable {failure : Failure ε} {x : Tx S ε α} {T : TableOf σ ρ} {e : ε}

theorem bind {f : α → Tx S ε β} (hx : Avoids failure x) (hf : ∀ a, Avoids failure (f a)) :
    Avoids failure (x >>= f) := by
  intro db h
  obtain h | ⟨a, db₁, -, h⟩ := run_bind_eq_error.mp h
  · exact hx db h
  · exact hf a db₁ h

theorem pure (a : α) : Avoids failure (pure a : Tx S ε α) :=
  fun _ h => run_pure_eq_error.mp h

theorem select (q : σ → α) : Avoids failure (select q : Tx S ε α) :=
  fun _ h => run_select_eq_error.mp h

/-- A statement can only fail at a constraint. -/
theorem execute {f : σ → σ} (h : failure = .constraint → ∀ db : Database S, S.Holds (f db.tables)) :
    Avoids failure (execute f : Tx S ε Unit) := by
  intro db hstop
  obtain ⟨hbroken, hfailure⟩ := run_execute_eq_error.mp hstop
  exact hbroken (h hfailure db)

theorem insertInto {r : ρ} (h : failure = .constraint → ∀ db : Database S,
      S.Holds (T.put (T.rows db.tables ++ [r]) db.tables)) :
    Avoids failure (insertInto T r : Tx S ε Unit) :=
  execute h

theorem updateWhere {p : ρ → Bool} {f : ρ → ρ} (h : failure = .constraint → ∀ db : Database S,
      S.Holds (T.put ((T.rows db.tables).map (patch p f)) db.tables)) :
    Avoids failure (updateWhere T p f : Tx S ε Nat) :=
  bind (select _) fun _ => bind (execute h) fun _ => pure _

theorem raise (hne : Failure.raised e ≠ failure) : Avoids failure (raise e : Tx S ε α) :=
  fun _ h => hne (run_raise_eq_error.mp h).symm

theorem refuse (c : Prop) [Decidable c] (hne : Failure.raised e ≠ failure) :
    Avoids failure (refuse c e : Tx S ε Unit) :=
  fun _ h => hne (run_refuse_eq_error.mp h).2.symm

theorem require (value : Option α) (hne : Failure.raised e ≠ failure) :
    Avoids failure (require value e : Tx S ε α) :=
  fun _ h => hne (run_require_eq_error.mp h).2.symm

/-- Another error type changes nothing about constraints. -/
theorem mapError {f : ε → ε'} (h : Avoids .constraint x) : Avoids .constraint (mapError f x) := by
  intro db hstop
  refine h db ?_
  simp only [StateT.run, Relational.mapError] at hstop ⊢
  split at hstop <;> simp_all

end Avoids

/-! ## Atomic execution -/

/-- Runs a body under `BEGIN IMMEDIATE`. A body that stops is rolled back; a body
that ends is committed with the reply it chose. -/
def transaction (engine : ε) (body : Tx S ε (Except ε α)) (db : Database S) :
    Except ε α × Database S :=
  match body.run db with
  | .ok (reply, db') => (reply, db')
  | .error failure => (.error (failure.report engine), db)

/-- A transaction either commits what its body did or changes nothing and reports
an error. -/
theorem transaction_cases (engine : ε) (body : Tx S ε (Except ε α)) (db : Database S) :
    (∃ reply db', body.run db = .ok (reply, db') ∧ transaction engine body db = (reply, db')) ∨
      ∃ failure, body.run db = .error failure ∧
        transaction engine body db = (.error (failure.report engine), db) := by
  unfold transaction
  cases body.run db with
  | ok r => exact .inl ⟨r.1, r.2, rfl, rfl⟩
  | error failure => exact .inr ⟨failure, rfl, rfl⟩

variable {engine : ε} {body : Tx S ε (Except ε α)} {db db' : Database S}

theorem transaction_of_run {reply : Except ε α} (h : body.run db = .ok (reply, db')) :
    transaction engine body db = (reply, db') := by
  simp [transaction, h]

end SessionChat.Relational
