/-!
# Results

Laws of computations that may fail.

`Except` has the instances of a lawful monad, which say when two computations
are equal. What is needed here is when one succeeds and with what, so that a
chain of steps can be taken apart from its result.

## Theorems

* `Except.ok_bind`: What follows a success.
* `Except.bind_ok`, `Except.bind_error`: When a computation of two parts succeeds,
  and when it fails.
* `Except.map_ok`, `Except.map_error`: When a computation with a changed result succeeds, and
  when it fails.
* `Except.mapError_ok`: When a computation with a changed failure succeeds.
* `Except.mapM_ok`: A computation for every element of a list.
* `exists_map_ok_iff`: When all elements of a list have results.
* `Except.bind_congr`: What follows a computation matters only where it succeeds.
* `exists_of_isOk`: A computation that is seen to succeed has a result.
-/

namespace NamePatterns

/-- What follows a success. -/
theorem Except.ok_bind {ε α β : Type} (a : α) (f : α → Except ε β) :
    (Except.ok a >>= f) = f a :=
  rfl

/-- A computation succeeds just if its first part does and the rest does with what
    that gives. -/
theorem Except.bind_ok {ε α β : Type} {x : Except ε α} {f : α → Except ε β} {b : β} :
    x >>= f = .ok b ↔ ∃ a, x = .ok a ∧ f a = .ok b := by
  cases x with
  | error e =>
      constructor
      · intro h
        cases h
      · rintro ⟨a, heq, _⟩
        cases heq
  | ok a =>
      constructor
      · intro h
        exact ⟨a, rfl, h⟩
      · rintro ⟨a', heq, h⟩
        cases heq
        exact h

/-- A computation fails just if its first part does or the rest does with what that
    gives. -/
theorem Except.bind_error {ε α β : Type} {x : Except ε α} {f : α → Except ε β} {e : ε} :
    x >>= f = .error e ↔ x = .error e ∨ ∃ a, x = .ok a ∧ f a = .error e := by
  cases x with
  | error e' =>
      constructor
      · intro h
        exact Or.inl (congrArg Except.error (Except.error.inj h))
      · rintro (h | ⟨a, ha, _⟩)
        · exact congrArg Except.error (Except.error.inj h)
        · cases ha
  | ok a =>
      constructor
      · intro h
        exact Or.inr ⟨a, rfl, h⟩
      · rintro (h | ⟨b, hb, h⟩)
        · cases h
        · cases hb
          exact h

/-- A computation with a changed result succeeds just if the computation does. -/
theorem Except.map_ok {ε α β : Type} {x : Except ε α} {f : α → β} {b : β} :
    x.map f = .ok b ↔ ∃ a, x = .ok a ∧ f a = b := by
  cases x with
  | error e =>
      constructor
      · intro h
        cases h
      · rintro ⟨a, heq, _⟩
        cases heq
  | ok a =>
      constructor
      · intro h
        exact ⟨a, rfl, Except.ok.inj h⟩
      · rintro ⟨a', heq, h⟩
        cases heq
        exact congrArg Except.ok h

/-- A change of the result does not matter where a computation fails. -/
theorem Except.map_error {ε α β : Type} {x : Except ε α} {f : α → β} {e : ε} :
    x.map f = .error e ↔ x = .error e := by
  cases x with
  | ok a =>
      constructor
      · intro h
        cases h
      · intro h
        cases h
  | error e' => exact ⟨fun h => congrArg Except.error (Except.error.inj h),
      fun h => congrArg Except.error (Except.error.inj h)⟩

/-- A change of the failure does not matter where a computation succeeds. -/
theorem Except.mapError_ok {ε ε' α : Type} {x : Except ε α} {f : ε → ε'} {a : α} :
    x.mapError f = .ok a ↔ x = .ok a := by
  cases x with
  | ok a' => exact ⟨fun h => congrArg Except.ok (Except.ok.inj h),
      fun h => congrArg Except.ok (Except.ok.inj h)⟩
  | error e =>
      constructor
      · intro h
        cases h
      · intro h
        cases h

/-- A computation for every element of a list succeeds just if each of them does, with
    the list of what they result in. -/
theorem Except.mapM_ok {ε α β : Type} {f : α → Except ε β} {xs : List α} {ys : List β} :
    xs.mapM f = .ok ys ↔ xs.map f = ys.map .ok := by
  -- The list of results is fixed by those of its head and of its tail.
  induction xs generalizing ys with
  | nil =>
      rw [List.mapM_nil, List.map_nil, eq_comm (a := []), List.map_eq_nil_iff]
      exact ⟨fun h => (Except.ok.inj h).symm, fun h => congrArg Except.ok h.symm⟩
  | cons x xs ih =>
      rw [List.mapM_cons, Except.bind_ok]
      constructor
      · rintro ⟨y, hx, hrest⟩
        obtain ⟨ys', hxs, hys⟩ := Except.bind_ok.mp hrest
        obtain rfl : y :: ys' = ys := Except.ok.inj hys
        rw [List.map_cons, List.map_cons, hx, ih.mp hxs]
      · intro h
        cases ys with
        | nil => cases h
        | cons y ys =>
            obtain ⟨hx, hxs⟩ := List.cons.inj h
            exact ⟨y, hx, Except.bind_ok.mpr ⟨ys, ih.mpr hxs, rfl⟩⟩

/-- A list of computations gives a list of results just if each of them has one. -/
theorem exists_map_ok_iff {ε α β : Type} {f : α → Except ε β} {xs : List α} :
    (∃ ys : List β, xs.map f = ys.map .ok) ↔ ∀ x ∈ xs, ∃ y, f x = .ok y := by
  constructor
  · rintro ⟨ys, hys⟩ x hx
    have hmem : f x ∈ ys.map .ok := hys ▸ List.mem_map_of_mem hx
    obtain ⟨y, _, hy⟩ := List.mem_map.mp hmem
    exact ⟨y, hy.symm⟩
  · intro h
    induction xs with
    | nil => exact ⟨[], rfl⟩
    | cons x xs ih =>
        obtain ⟨y, hy⟩ := h x List.mem_cons_self
        obtain ⟨ys, hys⟩ := ih fun z hz => h z (List.mem_cons_of_mem _ hz)
        refine ⟨y :: ys, ?_⟩
        rw [List.map_cons, List.map_cons, hy, hys]

/-- What follows a computation matters only where it succeeds. -/
theorem Except.bind_congr {ε α β : Type} {x : Except ε α} {f g : α → Except ε β}
    (h : ∀ a, x = .ok a → f a = g a) : x >>= f = x >>= g := by
  cases x with
  | ok a => exact h a rfl
  | error e => rfl

/-- A computation that is seen to succeed has a result. -/
theorem exists_of_isOk {ε α : Type} {x : Except ε α} (h : x.isOk = true) : ∃ a, x = .ok a := by
  cases x with
  | ok a => exact ⟨a, rfl⟩
  | error e => cases h

/-- What a result has to satisfy is decided by the result. -/
instance decidableExistsOk {ε α : Type} (x : Except ε α) (P : α → Prop) [DecidablePred P] :
    Decidable (∃ a, x = .ok a ∧ P a) :=
  match x with
  | .ok a => decidable_of_iff (P a) ⟨fun h => ⟨a, rfl, h⟩, fun ⟨_, h, hP⟩ => by cases h; exact hP⟩
  | .error _ => isFalse fun ⟨_, h, _⟩ => by cases h

end NamePatterns
