import NamePatterns.CommandLine
import Std.Time.DateTime.Timestamp

/-!
# Main

The program on a real console: it finds out what the command line needs, which
is the working directory, the one file that is named and the time, and prints
what the run comes to.

## Main definitions

* `CommandLine.filesFor`: The files that a run needs.
* `main`: The program.
-/

namespace NamePatterns

namespace CommandLine

/-- The configuration file that a command line names, if it is right and names
    one. -/
def namedFile? (argv : List String) : Option Path :=
  match Invocation.read argv with
  | .ok (.run _ (.display file _)) | .ok (.run _ (.check _ _ file _)) => file
  | _ => none

/-- The tree with all directories that an absolute path leads through. -/
def withRoute (fs : Files) (path : Path) : Files :=
  (List.range path.parts.length).foldl
    (fun fs n => fs.makeDirectory { path with parts := path.parts.take n }) fs

/-- The working directory, with a file in it or elsewhere if it can be read. -/
def filesFor (file : Option Path) : IO Files := do
  let fs := Files.empty (Path.ofString (toString (← IO.currentDir))).parts
  match file.map (filePath fs) with
  | none | some (.error _) => return fs
  | some (.ok path) =>
    try
      let bytes ← IO.FS.readBinFile path.text
      return (withRoute fs path).write path bytes.toList
    catch _ => return fs

end CommandLine

end NamePatterns

open NamePatterns in
/-- The program. -/
def main (args : List String) : IO UInt32 := do
  let fs ← CommandLine.filesFor (CommandLine.namedFile? args)
  let now := (← Std.Time.Timestamp.now).toNanosecondsSinceUnixEpoch.toInt
  let outcome := CommandLine.run fs (now / 1000) args
  (← IO.getStdout).putStr outcome.console.out
  (← IO.getStderr).putStr outcome.console.err
  match outcome.exit with
  | .ok status => return status.toUInt32
  | .error e =>
    IO.eprintln e.message
    return 1
