import NamePatterns.Log.Record

/-!
# Computations That Report

Computations that write log records and may fail.

The records are part of the result. They are kept when the computation fails,
since what was reported before the failure has been reported.

## Main definitions

* `Logged`: A computation with its records and its outcome.
* `Logged.report`: Writing one record.
* `Logged.liftExcept`, `Logged.mapError`: Moving between kinds of failures.

## Theorems

* `Logged.bind_ok`: What a computation after a successful one reports.
-/

namespace NamePatterns

/-- A computation that has written records and has succeeded or failed. -/
structure Logged (ε α : Type) where
  /-- The records, in the order in which they were written. -/
  records : List Log.Record := []
  /-- The outcome. -/
  outcome : Except ε α

namespace Logged

variable {ε ε' α β : Type}

/-- A success that reports nothing. -/
def pure (a : α) : Logged ε α :=
  ⟨[], .ok a⟩

/-- One computation after the other. -/
def bind (x : Logged ε α) (f : α → Logged ε β) : Logged ε β :=
  match x.outcome with
  | .ok a => ⟨x.records ++ (f a).records, (f a).outcome⟩
  | .error e => ⟨x.records, .error e⟩

instance : Monad (Logged ε) where
  pure := Logged.pure
  bind := Logged.bind

/-- Writes one record. -/
def report (r : Log.Record) : Logged ε Unit :=
  ⟨[r], .ok ()⟩

/-- A failure that reports nothing. -/
def fail (e : ε) : Logged ε α :=
  ⟨[], .error e⟩

/-- A computation that reports nothing. -/
def liftExcept (x : Except ε α) : Logged ε α :=
  ⟨[], x⟩

/-- The same computation with its failure seen in another way. -/
def mapError (f : ε → ε') (x : Logged ε α) : Logged ε' α :=
  ⟨x.records, x.outcome.mapError f⟩

/-- What a computation after a successful one reports, and how it ends. -/
theorem bind_ok {rs : List Log.Record} {a : α} (f : α → Logged ε β) :
    (⟨rs, .ok a⟩ : Logged ε α) >>= f = ⟨rs ++ (f a).records, (f a).outcome⟩ :=
  rfl

/-- Nothing follows a failure. -/
theorem bind_error {rs : List Log.Record} {e : ε} (f : α → Logged ε β) :
    (⟨rs, .error e⟩ : Logged ε α) >>= f = ⟨rs, .error e⟩ :=
  rfl

end Logged

end NamePatterns
