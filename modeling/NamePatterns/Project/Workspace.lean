import NamePatterns.Project

/-!
# Workspaces

Several projects, and what becomes of them when files change.

When files change, the projects whose configuration files are among them are
refreshed, file by file in the order of the changes and for each file in the
order of the projects. A file counts once, however often and in whatever
spelling it is named. The projects for which what is in force has changed are
collected as they are refreshed, and sorted in the end by their last places in
the order in which they were given.

All projects are located before the first of them is refreshed. The changed
paths are located one by one, so one that nothing can be at stops the rest.

## Main definitions

* `Workspace`: Projects by name.
* `Workspace.located`: Where changed paths are.
* `Workspace.affected`: Which projects are refreshed, in order.
* `Workspace.lastPlace`: What the result is sorted by.
* `Workspace.refreshChanged`: Refreshing after changes.
-/

namespace NamePatterns

/-- Projects by name. -/
abbrev Workspace := List (String × Project)

namespace Workspace

/-- The project of a name. -/
def find? (ws : Workspace) (name : String) : Option Project :=
  (List.find? (fun m => m.1 = name) ws).map (·.2)

/-- Gives a name to a project, and takes it from the one that had it. -/
def put (ws : Workspace) (name : String) (p : Project) : Workspace :=
  (name, p) :: ws.filter fun m => m.1 != name

/-- Whether the configuration file of the project of a name is at a path. -/
def isAt (fs : Files) (ws : Workspace) (path : Path) (name : String) : Bool :=
  (ws.find? name).any fun p => (p.resolved fs).toOption = some path

/-- Where paths are, up to the first that nothing can be at. -/
def located (fs : Files) : List Path → List Path × Except UnusablePath Unit
  | [] => ([], .ok ())
  | p :: ps =>
    match fs.locate p with
    | .error e => ([], .error e)
    | .ok path =>
      let (paths, others) := located fs ps
      (path :: paths, others)

/-- The projects whose configuration files are at some of the given places, in
    the order in which they are refreshed. -/
def affected (fs : Files) (ws : Workspace) (names : List String) (places : List Path) :
    List String :=
  places.eraseDups.flatMap fun path => names.filter (ws.isAt fs path)

/-- Refreshes projects one after the other: the workspace, and for which of
    them what is in force has changed. -/
def refreshEach (fs : Files) (ws : Workspace) :
    List String → Workspace × Logged Project.Failure (List String)
  | [] => (ws, .pure [])
  | name :: names =>
    match ws.find? name with
    | none => refreshEach fs ws names
    | some p =>
      let (p, first) := p.refresh fs none
      let ws := ws.put name p
      match first.outcome with
      | .error e => (ws, ⟨first.records, .error e⟩)
      | .ok changed =>
        let (ws, others) := refreshEach fs ws names
        (ws, ⟨first.records ++ others.records,
          others.outcome.map fun names => if changed then name :: names else names⟩)

/-- The last place of a name in a list. -/
def lastPlace : List String → String → Nat
  | [], _ => 0
  | _ :: names, name => if name ∈ names then lastPlace names name + 1 else 0

/-- Refreshes the projects whose configuration files are among changed
    ones. -/
def refreshChanged (fs : Files) (ws : Workspace) (names : List String) (changed : List Path) :
    Workspace × Logged Project.Failure (List String) :=
  match (names.filterMap ws.find?).mapM (Project.resolved fs) with
  | .error e => (ws, .fail (.unusable e))
  | .ok _ =>
    let (places, rest) := located fs changed
    let (ws, result) := refreshEach fs ws (ws.affected fs names places)
    (ws, do
      let found ← result
      Logged.liftExcept (rest.mapError .unusable)
      return found.mergeSort fun a b => lastPlace names a ≤ lastPlace names b)

end Workspace

end NamePatterns
