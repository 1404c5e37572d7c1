import NamePatterns.Wildcard

/-!
# Wildcard Lists

Wildcards separated by blanks, as one regular expression.

Each wildcard becomes one alternative. A list of blanks only is the list of
the one empty wildcard, which matches the empty name. The alternatives share
one regular expression, so names of groups can clash between them; a list for
which that happens is refused, or matches nothing and is reported.

## Main definitions

* `NameMatcher`: A regular expression for names, with its source.
* `Wildcard.split`: The wildcards of a list.
* `Wildcard.joined`: The source of the regular expression of a list.
* `Wildcard.ListError`: Why a list is refused.
* `Wildcard.compileList`: A list as a regular expression.
* `Wildcard.compileListOrNothing`: The same, matching nothing when refused.

## Theorems

* `Wildcard.split_ne_nil`: A list has at least one wildcard.
-/

namespace NamePatterns

/-- A regular expression for names, with its source. -/
structure NameMatcher where
  /-- The source. -/
  source : String
  /-- The syntax tree. -/
  tree : Regex
  deriving DecidableEq, Repr

namespace NameMatcher

/-- The matcher that accepts no name. -/
def nothing : NameMatcher :=
  ⟨matchNothing, .lookAhead true .empty⟩

/-- Whether a whole name is accepted. -/
def accepts (m : NameMatcher) (name : String) : Except Regex.LimitError Bool :=
  m.tree.fullMatch name.toList

end NameMatcher

namespace Wildcard

/-- The wildcards of a list. -/
def split (wildcards : String) : List String :=
  match Text.words wildcards.toList with
  | [] => [""]
  | w :: ws => (w :: ws).map String.ofList

/-- A list has at least one wildcard. -/
theorem split_ne_nil (wildcards : String) : split wildcards ≠ [] := by
  unfold split
  split <;> simp

/-- The fragments of the wildcards of a list. -/
def fragments (dashes : Bool) (wildcards : String) : Logged Regex.LimitError (List String) :=
  (split wildcards).mapM (compile dashes)

/-- The source of the regular expression of a list. -/
def joined (dashes : Bool) (wildcards : String) : Logged Regex.LimitError String := do
  return "|".intercalate (← fragments dashes wildcards)

/-- Why a list is refused. -/
inductive ListError where
  /-- The alternatives do not go together. -/
  | rejected (wildcards regex : String) (error : Regex.SyntaxError)
  /-- A number is beyond a limit. -/
  | beyondLimit (error : Regex.LimitError)
  deriving DecidableEq, Repr

/-- The wording for a list that is refused for a reason. -/
def refusalMessage (wildcards regex reason : String) : String :=
  "Wildcards " ++ Text.quoted wildcards ++ " produced an invalid regex " ++ Text.quoted regex
    ++ ": " ++ reason

/-- The wording of a refusal of a list. -/
def ListError.message : ListError → String
  | rejected wildcards regex e => refusalMessage wildcards regex (e.message regex)
  | beyondLimit e => e.message

/-- A list as a regular expression. -/
def compileList (dashes : Bool) (wildcards : String) : Logged ListError NameMatcher := do
  let regex ← (joined dashes wildcards).mapError .beyondLimit
  match Regex.parse regex.toList with
  | .ok tree => return ⟨regex, tree⟩
  | .error (.malformed e) => Logged.fail (.rejected wildcards regex e)
  | .error (.beyondLimit e) => Logged.fail (.beyondLimit e)

/-- The report on a list that matches nothing since it is refused. -/
def fallbackRecord (wildcards regex : String) (e : Regex.SyntaxError) : Log.Record :=
  report wildcards regex <|
    "Unable to compile wildcards " ++ Text.quoted wildcards ++ "; matching nothing instead: "
      ++ e.message regex

/-- A list as a regular expression that matches nothing when the list is
    refused. -/
def compileListOrNothing (dashes : Bool) (wildcards : String) :
    Logged Regex.LimitError NameMatcher :=
  let result := compileList dashes wildcards
  match result.outcome with
  | .ok m => ⟨result.records, .ok m⟩
  | .error (.rejected ws regex e) => ⟨result.records ++ [fallbackRecord ws regex e], .ok .nothing⟩
  | .error (.beyondLimit e) => ⟨result.records, .error e⟩

end Wildcard

end NamePatterns
