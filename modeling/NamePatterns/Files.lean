import NamePatterns.Path
import NamePatterns.Text.Utf8

/-!
# Files

A tree of files and directories as seen from a working directory.

A place in the tree is the list of names that lead to it from the root. A path
is followed part by part, and every part but the last has to lead into a
directory that exists, also where two dots lead out of it again. So a path
with dots can lead nowhere although the path without them leads to a file.

A path is located without a look at what exists. Only a path that holds the
null character cannot be located.

This is all that is modelled of a file system. There are no symbolic links: a
name leads to one file or directory, and two dots always lead back to where the
name before them was looked up. There are no permissions and no failing
devices: whatever is in a file can be read. So a file is there with its bytes or
is not there, and nothing else can happen to one who reads it.

## Main definitions

* `UnusablePath`: The report on a path that nothing can be at.
* `Files`: A tree of files.
* `Files.walk?`: The place that parts lead to.
* `Files.read?`: What is in a file.
* `Files.locate`: A path without dots, if it can be one.
* `Files.write`, `Files.makeDirectory`, `Files.remove`: Changes of the tree.
-/

namespace NamePatterns

/-- What is at a place in a tree of files. -/
inductive Node where
  /-- A file, with what is in it. -/
  | file (bytes : List UInt8)
  /-- A directory. -/
  | directory
  deriving DecidableEq, Repr

/-- A path that nothing can be at, since it holds the null character. -/
structure UnusablePath where
  /-- The path. -/
  path : Path
  deriving DecidableEq, Repr

/-- The report on such a path. -/
def UnusablePath.message (_ : UnusablePath) : String :=
  "embedded null byte"

/-- A tree of files, as seen from a working directory. -/
structure Files where
  /-- The working directory. -/
  working : List String
  /-- What is at which place. -/
  nodes : List (List String × Node)
  deriving DecidableEq, Repr

namespace Files

/-- The working directory as a path. -/
def here (fs : Files) : Path :=
  ⟨.root, fs.working⟩

/-- A path without dots, followed from the working directory. A part that the
    dots remove counts like any other when null characters are looked for. -/
def locate (fs : Files) (p : Path) : Except UnusablePath Path :=
  if (fs.here.join p).holdsNull then .error ⟨p⟩ else .ok (fs.here.resolve p)

/-- What is at a place; the root is a directory. -/
def node? (fs : Files) : List String → Option Node
  | [] => some .directory
  | place => (fs.nodes.find? (·.1 = place)).map (·.2)

/-- Whether a place is a directory. -/
def isDirectory (fs : Files) (place : List String) : Bool :=
  fs.node? place = some .directory

/-- The place that parts lead to from a place, if all directories on the way
    exist. -/
def walk? (fs : Files) : (place : List String) → List String → Option (List String)
  | place, [] => if (fs.node? place).isSome then some place else none
  | place, part :: parts =>
    if !fs.isDirectory place then none
    else if part = ".." then fs.walk? place.dropLast parts
    else fs.walk? (place ++ [part]) parts

/-- The place that a path leads to. -/
def find? (fs : Files) (p : Path) : Option (List String) :=
  fs.walk? (if p.isAbsolute then [] else fs.working) p.parts

/-- What is in a file; nothing if the path does not lead to a file. -/
def read? (fs : Files) (p : Path) : Option (List UInt8) :=
  match (fs.find? p).bind fs.node? with
  | some (.file bytes) => some bytes
  | _ => none

/-- Puts something at a place, in place of what is there. -/
def put (fs : Files) (place : List String) (node : Node) : Files :=
  { fs with nodes := (place, node) :: fs.nodes.filter fun m => m.1 != place }

/-- A place and all places above it, from the root on. -/
def route (place : List String) : List (List String) :=
  (List.range (place.length + 1)).map place.take

/-- Makes a directory of a place and of all places above it, where nothing
    is. -/
def ensure (fs : Files) (place : List String) : Files :=
  (route place).foldl
    (fun fs above => if (fs.node? above).isSome then fs else fs.put above .directory) fs

/-- The place that a path names, whether something is there or not. -/
def placeOf (fs : Files) (p : Path) : List String :=
  (fs.here.resolve p).parts

/-- Writes a file, in directories that are made if they are missing. -/
def write (fs : Files) (p : Path) (bytes : List UInt8) : Files :=
  let place := fs.placeOf p
  (fs.ensure place.dropLast).put place (.file bytes)

/-- Makes a directory. -/
def makeDirectory (fs : Files) (p : Path) : Files :=
  fs.ensure (fs.placeOf p)

/-- Removes what a path names, and all that is below it. -/
def remove (fs : Files) (p : Path) : Files :=
  { fs with nodes := fs.nodes.filter fun m => !(fs.placeOf p).isPrefixOf m.1 }

/-- A tree with nothing but the working directory. -/
def empty (working : List String) : Files :=
  ensure ⟨working, []⟩ working

end Files

end NamePatterns
