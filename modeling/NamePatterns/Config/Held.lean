import NamePatterns.Config

/-!
# Held Configurations

Configurations with the regular expressions that have been derived from them.

A regular expression is derived the first time it is needed and kept from then
on, so what is reported while it is derived is reported once. If it cannot be
derived, nothing is kept, and the next need of it tries again.

## Main definitions

* `Held`: A configuration and what has been derived from it.
* `Held.matcher`: The regular expression for a kind of names.
* `Held.selects`, `Held.describe`: What needs regular expressions.

## Theorems

* `Held.matcher_of_kept`: What is kept is not derived again.
-/

namespace NamePatterns

/-- A configuration and the regular expressions derived from it so far. -/
structure Held where
  /-- The configuration. -/
  config : Config
  /-- The regular expression for names of classes. -/
  classes : Option NameMatcher := none
  /-- The regular expression for names of functions. -/
  functions : Option NameMatcher := none
  deriving DecidableEq, Repr

namespace Held

/-- The regular expression that is kept for a kind of names. -/
def kept? (h : Held) : NameKind → Option NameMatcher
  | .cls => h.classes
  | .function => h.functions

/-- Keeps a regular expression. -/
def keep (h : Held) (m : NameMatcher) : NameKind → Held
  | .cls => { h with classes := some m }
  | .function => { h with functions := some m }

/-- The regular expression for a kind of names, and what is kept then. -/
def matcher (h : Held) (kind : NameKind) : Held × Logged Regex.LimitError NameMatcher :=
  match h.kept? kind with
  | some m => (h, .pure m)
  | none =>
    let derived := h.config.matcher kind
    match derived.outcome with
    | .ok m => (h.keep m kind, derived)
    | .error _ => (h, derived)

/-- What is kept is not derived again. -/
theorem matcher_of_kept {h : Held} {kind : NameKind} {m : NameMatcher}
    (kept : h.kept? kind = some m) : h.matcher kind = (h, .pure m) := by
  simp [matcher, kept]

/-- Whether a name is selected as one of a kind. -/
def selects (h : Held) (name : String) (kind : NameKind) :
    Held × Logged Regex.LimitError Bool :=
  let (h, m) := h.matcher kind
  (h, m >>= fun m => .liftExcept (m.accepts name))

/-- Which of several names are selected as ones of a kind. -/
def selectsEach (h : Held) (kind : NameKind) :
    List String → Held × Logged Regex.LimitError (List Bool)
  | [] => (h, .pure [])
  | name :: names =>
    let (h, first) := h.selects name kind
    match first.outcome with
    | .error e => (h, ⟨first.records, .error e⟩)
    | .ok b =>
      let (h, others) := h.selectsEach kind names
      (h, ⟨first.records ++ others.records, others.outcome.map (b :: ·)⟩)

/-- What is shown of the configuration. -/
def describe (h : Held) : Held × Logged Regex.LimitError Description :=
  let (h, classes) := h.matcher .cls
  match classes.outcome with
  | .error e => (h, ⟨classes.records, .error e⟩)
  | .ok c =>
    let (h, functions) := h.matcher .function
    (h, ⟨classes.records ++ functions.records,
      functions.outcome.map fun f => ⟨h.config, c.source, f.source⟩⟩)

end Held

end NamePatterns
