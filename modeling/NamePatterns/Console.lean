/-!
# Console

What is written to the two streams of a console.

## Main definitions

* `Console`: The texts written so far.
* `Console.echo`: Writing a message.

## Theorems

* `Console.echoLines_eq`: Lines are output, one after the other.
-/

namespace NamePatterns

/-- What has been written to the streams of a console. -/
structure Console where
  /-- What has been written as output. -/
  out : String := ""
  /-- What has been written about errors, and as a log. -/
  err : String := ""
  deriving DecidableEq, Repr

namespace Console

/-- Writes text as output. -/
def writeOut (c : Console) (text : String) : Console :=
  { c with out := c.out ++ text }

/-- Writes text to where errors are written. -/
def writeErr (c : Console) (text : String) : Console :=
  { c with err := c.err ++ text }

/-- Writes a message, and ends its line unless told otherwise. -/
def echo (c : Console) (message : String) (newline : Bool := true) (err : Bool := false) :
    Console :=
  let text := if newline then message ++ "\n" else message
  if err then c.writeErr text else c.writeOut text

/-- Writes lines as output. -/
def echoLines (c : Console) (lines : List String) : Console :=
  lines.foldl (fun c line => c.echo line) c

/-- Lines are output, one after the other. -/
theorem echoLines_eq (c : Console) (lines : List String) :
    c.echoLines lines = ⟨c.out ++ String.join (lines.map (· ++ "\n")), c.err⟩ := by
  induction lines generalizing c with
  | nil =>
    rw [List.map_nil, String.join_nil, String.append_empty]
    rfl
  | cons line lines ih =>
    have hfirst : c.echoLines (line :: lines) = (c.echo line).echoLines lines := rfl
    rw [hfirst, ih, List.map_cons, String.join_cons, ← String.append_assoc]
    rfl

end Console

end NamePatterns
