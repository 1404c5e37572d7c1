import NamePatterns.CommandLine.Execution
import NamePatterns.Console

/-!
# The Command Line

A run of the program, from the words on its command line to what stands on the
console and how it exits.

Help and the version are output. A refused command line and a refused command
are explained where errors are written. So are the log records of a command,
in the form and from the level on that its options ask for. The program exits
with zero for yes, with one for no or a refused command, and with two for a
refused command line.

What is written about errors is left out in one case. A regular expression in
which a set seems to hold another one, as what is written for `[[]a` does, is
read all the same, but the reader warns that it may be read differently one
day. Such a warning is no log record. It is written about errors once for each
place in the program that it comes from, or not at all, depending on how the
host is told to treat warnings. Here nothing is written of it.

## Main definitions

* `CommandLine.Outcome`: What a run comes to.
* `CommandLine.run`: A run of the program.
-/

namespace NamePatterns

namespace CommandLine

/-- What a run of the program comes to. -/
structure Outcome where
  /-- What stands on the console. -/
  console : Console
  /-- How the program exits, unless it fails. -/
  exit : Except Failure Nat

namespace LogOptions

/-- The log setup that the options ask for. If the form is missing, nothing is
    set up. -/
def setup (o : LogOptions) : Log.Setup :=
  match o.format with
  | none => {}
  | some format =>
    match Log.Setup.configure {} (some format) (some (.named (o.level.getD ""))) {} with
    | .ok (s, _) => s
    | .error _ => {}

end LogOptions

/-- What a log setup writes of records that are made at a moment. -/
def logText (s : Log.Setup) (moment : Int) (records : List Log.Record) : String :=
  String.join (records.map fun r => (s.write ⟨r, moment, none⟩).toOption.getD "")

/-- The report on a refused command. -/
def refusedLine (code message : String) : String :=
  "(" ++ code ++ ") " ++ message

/-- What a command comes to on the console. -/
def conclude (s : Log.Setup) (moment : Int) (work : Logged Halt Printed) : Outcome :=
  let console : Console := ⟨"", logText s moment work.records⟩
  match work.outcome with
  | .ok printed => ⟨console.echoLines printed.lines, .ok (if printed.answer then 0 else 1)⟩
  | .error (.refused code message) => ⟨console.echo (refusedLine code message) true true, .ok 1⟩
  | .error (.failed e) => ⟨console, .error e⟩

/-- A run of the program at a moment. -/
def run (fs : Files) (moment : Int) (argv : List String) : Outcome :=
  let console : Console := {}
  match Invocation.read argv with
  | .error (.help s) => ⟨console.writeOut s.help, .ok 0⟩
  | .error (.refused s e) => ⟨console.writeErr (refusal s e), .ok 2⟩
  | .ok .version => ⟨console.echo (programName ++ " " ++ version), .ok 0⟩
  | .ok (.run log job) => conclude log.setup moment (job.execute fs)

end CommandLine

end NamePatterns
