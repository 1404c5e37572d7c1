import NamePatterns.Log.Logged
import NamePatterns.Proofs.Results

/-!
# Laws of Computations That Report

Computations that report are a lawful monad, so a row of them succeeds just if
each of them does.

What is reported before a failure stays, and nothing is reported behind it. So
records and outcome can be told apart: the outcomes follow the same law as those
of computations that do not report, and the records are known where all of the
outcomes are.

## Theorems

* `Logged.bind_of_ok`, `Logged.bind_of_error`: What follows a success or a failure.
* `Logged.bind_return`: Making one result into another.
* `Logged.outcome_bind`: How one computation after the other ends.
* `Logged.mapM_ok`: A computation for every element of a list.
* `Logged.records_mapM`: What a row of computations reports.
* `Logged.forall_records_bind`, `Logged.forall_records_mapM`: What is true of all records.
-/

namespace NamePatterns

namespace Logged

variable {ε α β : Type}

theorem pure_eq (a : α) : (Pure.pure a : Logged ε α) = ⟨[], .ok a⟩ :=
  rfl

instance : LawfulMonad (Logged ε) := by
  refine LawfulMonad.mk' _ ?_ ?_ ?_
  · intro α x
    obtain ⟨records, outcome⟩ := x
    cases outcome with
    | error e => rfl
    | ok a =>
        show (⟨records ++ [], .ok a⟩ : Logged ε α) = _
        rw [List.append_nil]
  · intro α β a f
    rw [pure_eq, bind_ok, List.nil_append]
  · intro α β γ x f g
    obtain ⟨records, outcome⟩ := x
    cases outcome with
    | error e => rfl
    | ok a =>
        rcases hf : f a with ⟨records', outcome'⟩
        -- The second may fail where the first has succeeded, and its records stay.
        cases outcome' with
        | error e =>
            simp only [bind_ok, hf, bind_error]
        | ok b =>
            simp only [bind_ok, hf, List.append_assoc]

/-- What follows a success is reported behind it. -/
theorem bind_of_ok {x : Logged ε α} {a : α} (h : x.outcome = .ok a) (f : α → Logged ε β) :
    x >>= f = ⟨x.records ++ (f a).records, (f a).outcome⟩ := by
  obtain ⟨records, outcome⟩ := x
  obtain rfl : outcome = .ok a := h
  rfl

/-- Nothing is reported behind a failure. -/
theorem bind_of_error {x : Logged ε α} {e : ε} (h : x.outcome = .error e) (f : α → Logged ε β) :
    x >>= f = ⟨x.records, .error e⟩ := by
  obtain ⟨records, outcome⟩ := x
  obtain rfl : outcome = .error e := h
  rfl

/-- A result that is made into another one is reported on as it was. -/
theorem bind_return (x : Logged ε α) (f : α → β) :
    (do return f (← x)) = (⟨x.records, x.outcome.map f⟩ : Logged ε β) := by
  obtain ⟨records, outcome⟩ := x
  cases outcome with
  | ok a => exact congrArg (Logged.mk · _) (List.append_nil _)
  | error e => rfl

/-- How one computation after the other ends does not depend on what they report. -/
theorem outcome_bind (x : Logged ε α) (f : α → Logged ε β) :
    (x >>= f).outcome = x.outcome >>= fun a => (f a).outcome := by
  obtain ⟨records, outcome⟩ := x
  cases outcome <;> rfl

/-- How computations for the elements of a list end does not depend on what they
    report. -/
theorem outcome_mapM (f : α → Logged ε β) (xs : List α) :
    (xs.mapM f).outcome = xs.mapM fun x => (f x).outcome := by
  induction xs with
  | nil => rfl
  | cons x xs ih =>
      rw [List.mapM_cons, List.mapM_cons, outcome_bind, ← ih]
      simp only [outcome_bind, pure_eq]
      rfl

/-- A computation for every element of a list succeeds just if each of them
    does, with the list of what they result in. -/
theorem mapM_ok {f : α → Logged ε β} {xs : List α} {ys : List β} :
    (xs.mapM f).outcome = .ok ys ↔ xs.map (fun x => (f x).outcome) = ys.map .ok := by
  rw [outcome_mapM]
  exact Except.mapM_ok

/-- A row of computations that succeeds reports what each of them does, in order. -/
theorem records_mapM {f : α → Logged ε β} {xs : List α} {ys : List β}
    (h : (xs.mapM f).outcome = .ok ys) :
    (xs.mapM f).records = xs.flatMap fun x => (f x).records := by
  induction xs generalizing ys with
  | nil => rfl
  | cons x xs ih =>
      rw [List.mapM_cons, outcome_bind] at h
      obtain ⟨z, hx, hrest⟩ := Except.bind_ok.mp h
      rw [outcome_bind] at hrest
      -- All of them succeed, so none of the records is cut off.
      obtain ⟨zs, hxs, _⟩ := Except.bind_ok.mp hrest
      rw [List.mapM_cons, bind_of_ok hx, bind_of_ok hxs, ih hxs, List.flatMap_cons]
      exact congrArg _ (List.append_nil _)

variable {p : Log.Record → Prop}

/-- What is true of all records of a computation and of any that follows it. -/
theorem forall_records_bind {x : Logged ε α} {f : α → Logged ε β} (hx : ∀ r ∈ x.records, p r)
    (hf : ∀ a, ∀ r ∈ (f a).records, p r) : ∀ r ∈ (x >>= f).records, p r := by
  obtain ⟨records, outcome⟩ := x
  cases outcome with
  | error e => exact hx
  | ok a => exact List.forall_mem_append.mpr ⟨hx, hf a⟩

/-- What is true of all records of each computation in a row. -/
theorem forall_records_mapM {f : α → Logged ε β} {xs : List α}
    (h : ∀ x ∈ xs, ∀ r ∈ (f x).records, p r) : ∀ r ∈ (xs.mapM f).records, p r := by
  induction xs with
  | nil =>
      rw [List.mapM_nil]
      exact nofun
  | cons x xs ih =>
      obtain ⟨hx, hxs⟩ := List.forall_mem_cons.mp h
      rw [List.mapM_cons]
      exact forall_records_bind hx fun _ => forall_records_bind (ih hxs) fun _ => nofun

end Logged

end NamePatterns
