import Mathlib.Data.List.Forall2
import NamePatterns.Proofs.Project.History

/-!
# The Log of Refreshed Projects

What the log tells about a session in which projects are refreshed.

A reading loads what a file holds and lets a project hold it. Every act on a session
comes to a row of readings: none where files change, one where a project is refreshed or
given another path, and one for each project that a batch refreshes, as often as it does.
Whatever else is reported about files that are no configurations is graver than a debug
record, so the debug records of an act are those of its readings, one for each and in the
same order. Each of them tells rightly whether the wildcards in force have changed. What
it names is the place of the project's own file, which is where the project was read from
unless another file was given.

`Workspace.Reads` says in one relation what any of the acts does to the
projects, so that an act, a batch and a run differ only in which readings they
come to. It keeps the project that is read and its file apart from the names,
since a name may be read several times and stands for another project each time.

## Main definitions

* `Session.Reading`, `Session.Reading.record`: One project that is read, and its record.
* `Workspace.known`: The names in a row that are names of projects.
* `Workspace.Reads`: Projects that are read one after the other.
* `Session.Act`, `Session.act`: What is done in a session.
* `Session.Act.Done`: The readings that an act comes to.
* `Session.Trail`, `Session.Account`: A run with its records, and with its readings.

## Theorems

* `Project.refresh_reads`: What one project that is refreshed is read from, and how this is
  reported.
* `Session.Reading.names_iff`: When a record names the file that was read.
* `Project.loadOrNone_debug`: Reports on refused files are graver.
* `Workspace.refreshEach_reads`, `Workspace.refreshChanged_reads`: The same for projects in a
  row.
* `Session.act_done`: The same for an act.
* `Session.Trail.accounted`: The debug records of a run are those of its readings.
-/

namespace NamePatterns

/-- Whether a record is of use for finding faults only. -/
def Log.Record.isDebug (r : Log.Record) : Bool :=
  r.level = Log.Level.debug

/-- A record names a file as the one that was read, in its message and in its field. -/
def Log.Record.Names (r : Log.Record) (path : Path) : Prop :=
  r.message = "Refreshed pytest config from " ++ path.text ∧
    r.fields.find? .path = some (.text path.text)

/-- One project that is read. -/
structure Session.Reading where
  /-- The name of the project. -/
  name : String
  /-- The file that is read. -/
  source : Path
  /-- Where the project's own file is. -/
  place : Path
  /-- The wildcards in force before. -/
  before : Patterns
  /-- The wildcards in force after. -/
  after : Patterns
  deriving DecidableEq

/-- The reading of a project that then holds what a file says. -/
def Project.reading (p : Project) (name : String) (source place : Path) (c : Option Config) :
    Session.Reading :=
  ⟨name, source, place, p.effective.patterns, (p.hold c).effective.patterns⟩

/-- The record of a reading. -/
def Session.Reading.record (r : Reading) : Log.Record :=
  Project.refreshedRecord r.place (r.after ≠ r.before)

/-- The record of a reading names the file that was read just if that is called like the
    project's own one. -/
theorem Session.Reading.names_iff (r : Reading) :
    r.record.Names r.source ↔ r.source.text = r.place.text := by
  constructor
  · rintro ⟨_, hfield⟩
    exact (Value.text.inj (Option.some.inj hfield)).symm
  · intro hsame
    rw [Log.Record.Names, hsame]
    exact ⟨rfl, rfl⟩

open Session (Reading)

/-- The names in a row that are names of projects. -/
def Workspace.known (ws : Workspace) (names : List String) : List String :=
  names.filter fun name => (ws.find? name).isSome

/-- Projects that are read one after the other: each of them then holds what can be loaded
    from the file. -/
inductive Workspace.Reads (fs : Files) : Workspace → List Reading → Workspace → Prop where
  /-- Nothing is read. -/
  | nil (ws : Workspace) : Reads fs ws [] ws
  /-- One project is read, and others after it. -/
  | cons {ws ws' : Workspace} {name : String} {p : Project} {source place : Path}
    {c : Option Config} {readings : List Reading} (hp : ws.find? name = some p)
    (hplace : p.resolved fs = .ok place)
    (hload : (Config.loadOrNone fs (some source)).outcome = .ok c)
    (hrest : Reads fs (ws.put name (p.hold c)) readings ws') :
    Reads fs ws (p.reading name source place c :: readings) ws'

namespace Project

variable {fs : Files} {p : Project} {file : Option Path} {changed : Bool}

/-- What is reported on a file that is no configuration is graver than a debug record. -/
theorem loadOrNone_debug (fs : Files) (path : Option Path) :
    (Config.loadOrNone fs path).records.filter Log.Record.isDebug = [] := by
  unfold Config.loadOrNone
  cases Config.load fs path with
  | ok c => rfl
  | error e => cases e <;> rfl

/-- A project that is refreshed holds what its file or the given one says, and leaves one
    debug record, which is that of the reading. -/
theorem refresh_reads (h : (p.refresh fs file).2.outcome = .ok changed) (name : String) :
    ∃ place c, p.resolved fs = .ok place ∧
      (Config.loadOrNone fs (some (file.getD place))).outcome = .ok c ∧
      (p.refresh fs file).1 = p.hold c ∧
      (p.refresh fs file).2.records.filter Log.Record.isDebug
        = [(p.reading name (file.getD place) place c).record] := by
  obtain ⟨c, hread, hhold, _⟩ := takeOver_ok rfl h
  obtain ⟨source, hsource, hload⟩ := readFile_given_ok.mp hread
  cases hplace : p.resolved fs with
  | error u =>
      simp only [refresh, takeOver, hread, hplace] at h
      cases h
  | ok place =>
      -- Without a file that is given, the project's own one is read, and that was located.
      have hgiven : source = file.getD place := by
        cases file with
        | none =>
            rw [Option.elim_none, hplace] at hsource
            exact (Except.ok.inj hsource).symm
        | some given => exact (Except.ok.inj hsource).symm
      have hchanges : p.changes c = decide ((p.hold c).effective.patterns ≠ p.effective.patterns) :=
        Bool.eq_iff_iff.mpr ((p.changes_iff c).trans decide_eq_true_iff.symm)
      -- The record is written behind whatever is reported on the file.
      have hrecords : (p.refresh fs file).2.records
          = (Config.loadOrNone fs (some source)).records
            ++ [(p.reading name source place c).record] := by
        have hlocated : Logged.liftExcept ((file.elim (p.resolved fs) .ok).mapError
            Failure.unusable) = ⟨[], .ok source⟩ := by
          rw [hsource]
          rfl
        have hfile : (p.readFile fs file).records
            = (Config.loadOrNone fs (some source)).records := by
          simp only [readFile, hlocated, Logged.bind_ok]
          rfl
        simp only [refresh, takeOver, hread, hplace, hfile, hchanges]
        rfl
      refine ⟨place, c, rfl, hgiven ▸ hload, hhold, ?_⟩
      rw [hrecords, List.filter_append, loadOrNone_debug, hgiven]
      rfl

end Project

namespace Workspace

variable {fs : Files} {ws : Workspace}

/-- Of what is put under one name, the last counts. -/
theorem put_put (ws : Workspace) (name : String) (p q : Project) :
    (ws.put name p).put name q = ws.put name q := by
  have hdropped : List.filter (fun m => m.1 != name) ((name, p) :: ws.filter fun m => m.1 != name)
      = ws.filter fun m => m.1 != name := by
    rw [List.filter_cons_of_neg (by simp only [bne_self_eq_false, Bool.false_eq_true,
      not_false_eq_true]), List.filter_filter]
    simp only [Bool.and_self]
  rw [put, put, hdropped]
  rfl

section

variable {name : String} {p : Project}

theorem known_cons_none (h : ws.find? name = none) (names : List String) :
    ws.known (name :: names) = ws.known names :=
  List.filter_cons_of_neg (by rw [h]; exact Bool.false_ne_true)

theorem known_cons_some (h : ws.find? name = some p) (names : List String) :
    ws.known (name :: names) = name :: ws.known names :=
  List.filter_cons_of_pos (by rw [h]; rfl)

/-- Which names there are stays the same when another project is put under one of them. -/
theorem known_put (h : ws.find? name = some p) (q : Project) (names : List String) :
    (ws.put name q).known names = ws.known names := by
  refine List.filter_congr fun other _ => ?_
  rw [find?_put]
  by_cases hsame : other = name
  · rw [if_pos hsame, hsame, h]
    rfl
  · rw [if_neg hsame]

end

/-- One project is read. -/
theorem Reads.single {name : String} {p : Project} {source place : Path} {c : Option Config}
    (hp : ws.find? name = some p) (hplace : p.resolved fs = .ok place)
    (hload : (Config.loadOrNone fs (some source)).outcome = .ok c) :
    Reads fs ws [p.reading name source place c] (ws.put name (p.hold c)) :=
  .cons hp hplace hload (.nil _)

/-- Projects that are refreshed one after the other are read in that order, each from its
    own file, and leave one debug record each. -/
theorem refreshEach_reads {names found : List String}
    (h : (ws.refreshEach fs names).2.outcome = .ok found) :
    ∃ readings, Reads fs ws readings (ws.refreshEach fs names).1 ∧
      readings.map Reading.name = ws.known names ∧
      (∀ r ∈ readings, r.source = r.place) ∧
      (ws.refreshEach fs names).2.records.filter Log.Record.isDebug
        = readings.map Reading.record := by
  induction names generalizing ws found with
  | nil => exact ⟨[], .nil ws, rfl, nofun, rfl⟩
  | cons first rest ih =>
      cases hfirst : ws.find? first with
      | none =>
          simp only [refreshEach, hfirst] at h ⊢
          rw [known_cons_none hfirst]
          exact ih h
      | some p =>
          rcases hrefresh : p.refresh fs none with ⟨p', result⟩
          simp only [refreshEach, hfirst, hrefresh] at h ⊢
          cases houtcome : result.outcome with
          | error e =>
              simp only [houtcome] at h
              cases h
          | ok changed =>
              have hok : (p.refresh fs none).2.outcome = .ok changed := by
                rw [hrefresh]
                exact houtcome
              obtain ⟨place, c, hplace, hload, hhold, hrecord⟩ := Project.refresh_reads hok first
              rw [hrefresh] at hhold hrecord
              obtain rfl : p' = p.hold c := hhold
              simp only [houtcome] at h ⊢
              -- The other projects are refreshed in the workspace that the first reading
              -- leaves.
              obtain ⟨later, hlater, _⟩ := Except.map_ok.mp h
              obtain ⟨readings, hreads, hnames, hsources, hrecords⟩ := ih hlater
              rw [known_put hfirst] at hnames
              refine ⟨_, .cons hfirst hplace hload hreads, ?_, ?_, ?_⟩
              · rw [known_cons_some hfirst, List.map_cons, hnames]
                rfl
              · intro r hr
                cases hr with
                | head => rfl
                | tail _ hr => exact hsources r hr
              · rw [List.filter_append, hrecord, hrecords]
                rfl

/-- Projects that are refreshed after changes of files are those that are affected, and leave
    one debug record for each reading. -/
theorem refreshChanged_reads {names found : List String} {changed : List Path}
    (h : (ws.refreshChanged fs names changed).2.outcome = .ok found) :
    ∃ readings, Reads fs ws readings (ws.refreshChanged fs names changed).1 ∧
      readings.map Reading.name = ws.known (ws.affected fs names (located fs changed).1) ∧
      (∀ r ∈ readings, r.source = r.place) ∧
      (ws.refreshChanged fs names changed).2.records.filter Log.Record.isDebug
        = readings.map Reading.record := by
  obtain ⟨⟨paths, hpaths⟩, hchanged, reported, heach, _⟩ := refreshChanged_ok_iff.mp h
  obtain ⟨readings, hreads, hnames, hsources, hrecords⟩ := refreshEach_reads heach
  refine ⟨readings, refreshChanged_fst hpaths changed ▸ hreads, hnames, hsources, ?_⟩
  -- Nothing is reported but what the refreshing of the projects reports.
  have hsame : (ws.refreshChanged fs names changed).2.records
      = (ws.refreshEach fs (ws.affected fs names (located fs changed).1)).2.records := by
    simp only [refreshChanged, hpaths, hchanged]
    rw [Logged.bind_of_ok heach]
    exact List.append_nil _
  rw [hsame, hrecords]

end Workspace

namespace Session

/-- What is done in a session. -/
inductive Act where
  /-- Files change. -/
  | change (files : Files)
  /-- A project is refreshed, from its file or from one that is given. -/
  | refresh (name : String) (file : Option Path)
  /-- A project is given another path, and is refreshed. -/
  | setPath (name : String) (path : Path)
  /-- Projects are refreshed after changes of files. -/
  | refreshChanged (names : List String) (changed : List Path)

/-- The session after something was done to one of its projects, if there is one of that
    name, and what was reported. -/
def alter (s : Session) (name : String) (f : Project → Project × Logged Project.Failure Bool) :
    Session × Logged Project.Failure Unit :=
  match s.projects.find? name with
  | none => (s, .pure ())
  | some p =>
    let (p, result) := f p
    ({ s with projects := s.projects.put name p },
      ⟨result.records, result.outcome.map fun _ => ()⟩)

/-- What an act does, and what is reported. -/
def act (s : Session) : Act → Session × Logged Project.Failure Unit
  | .change files => ({ s with files := files }, .pure ())
  | .refresh name file => s.alter name (Project.refresh s.files file)
  | .setPath name path => s.alter name (Project.setPath s.files path)
  | .refreshChanged names changed =>
    let (projects, result) := s.projects.refreshChanged s.files names changed
    ({ s with projects := projects }, ⟨result.records, result.outcome.map fun _ => ()⟩)

namespace Act

/-- The session in which the readings of an act begin: files have changed, and a project has
    the path that it is given. -/
def prepare (s : Session) : Act → Session
  | change files => { s with files := files }
  | setPath name path =>
    match s.projects.find? name with
    | none => s
    | some p => { s with projects := s.projects.put name { p with configPath := path } }
  | _ => s

/-- The names of the projects that an act refreshes, if there are such projects. -/
def targets (s : Session) : Act → List String
  | change _ => []
  | refresh name _ | setPath name _ => [name]
  | refreshChanged names changed =>
    s.projects.affected s.files names (Workspace.located s.files changed).1

/-- The file that an act gives to be read. -/
def given? : Act → Option Path
  | refresh _ file => file
  | _ => none

/-- What an act comes to: one reading for each project that it refreshes, from the file that
    it gives or else from the project's own one. -/
structure Done (s : Session) (a : Act) (readings : List Reading) (s' : Session) : Prop where
  files : s'.files = (a.prepare s).files
  reads : Workspace.Reads (a.prepare s).files (a.prepare s).projects readings s'.projects
  names : readings.map Reading.name = s.projects.known (a.targets s)
  sources : ∀ r ∈ readings, r.source = a.given?.getD r.place

end Act

variable {s s' : Session} {a : Act}

/-- What is done to one project succeeds if there is no such project, which is not reported, or
    if it succeeds for the project. -/
theorem alter_ok {name : String} {f : Project → Project × Logged Project.Failure Bool}
    (h : (s.alter name f).2.outcome = .ok ()) :
    (s.projects.find? name = none ∧ s.alter name f = (s, .pure ())) ∨
    ∃ p changed, s.projects.find? name = some p ∧ (f p).2.outcome = .ok changed ∧
      s.alter name f = ({ s with projects := s.projects.put name (f p).1 },
        ⟨(f p).2.records, .ok ()⟩) := by
  cases hp : s.projects.find? name with
  | none =>
      left
      refine ⟨rfl, ?_⟩
      simp only [alter, hp]
  | some p =>
      right
      simp only [alter, hp] at h ⊢
      obtain ⟨changed, hok, _⟩ := Except.map_ok.mp h
      refine ⟨p, changed, rfl, hok, ?_⟩
      rw [hok]
      rfl

/-- An act that succeeds comes to its readings, and leaves one debug record for each of
    them. -/
theorem act_done (h : (s.act a).2.outcome = .ok ()) :
    ∃ readings, a.Done s readings (s.act a).1 ∧
      (s.act a).2.records.filter Log.Record.isDebug = readings.map Reading.record := by
  cases a with
  | change files => exact ⟨[], ⟨rfl, .nil _, rfl, nofun⟩, rfl⟩
  | refresh name file =>
      have hok : (s.alter name (Project.refresh s.files file)).2.outcome = .ok () := h
      rcases alter_ok hok with ⟨hnone, hsame⟩ | ⟨p, changed, hp, hok, hresult⟩
      · rw [act, hsame]
        refine ⟨[], ⟨rfl, .nil _, ?_, nofun⟩, rfl⟩
        rw [Act.targets, Workspace.known_cons_none hnone]
        rfl
      · obtain ⟨place, c, hplace, hload, hhold, hrecord⟩ := Project.refresh_reads hok name
        rw [act, hresult, hhold]
        refine ⟨_, ⟨rfl, .single hp hplace hload, ?_, ?_⟩, hrecord⟩
        · rw [Act.targets, Workspace.known_cons_some hp]
          rfl
        · intro r hr
          rw [List.mem_singleton.mp hr]
          rfl
  | setPath name path =>
      have hok : (s.alter name (Project.setPath s.files path)).2.outcome = .ok () := h
      rcases alter_ok hok with ⟨hnone, hsame⟩ | ⟨p, changed, hp, hok, hresult⟩
      · have hprepare : (Act.setPath name path).prepare s = s := by
          simp only [Act.prepare, hnone]
        rw [act, hsame]
        refine ⟨[], ⟨?_, ?_, ?_, nofun⟩, rfl⟩
        · rw [hprepare]
        · rw [hprepare]
          exact .nil _
        · rw [Act.targets, Workspace.known_cons_none hnone]
          rfl
      · -- The project is read when it has its new path.
        obtain ⟨place, c, hplace, hload, hhold, hrecord⟩ := Project.refresh_reads hok name
        have hprepare : (Act.setPath name path).prepare s
            = { s with projects := s.projects.put name { p with configPath := path } } := by
          simp only [Act.prepare, hp]
        have hmoved : (s.projects.put name { p with configPath := path }).find? name
            = some { p with configPath := path } := by
          rw [Workspace.find?_put, if_pos rfl]
        have hreads := Workspace.Reads.single hmoved hplace hload
        rw [Workspace.put_put] at hreads
        rw [act, hresult, Project.setPath, hhold]
        refine ⟨[Project.reading { p with configPath := path } name place place c],
          ⟨?_, ?_, ?_, ?_⟩, hrecord⟩
        · rw [hprepare]
        · rw [hprepare]
          exact hreads
        · rw [Act.targets, Workspace.known_cons_some hp]
          rfl
        · intro r hr
          rw [List.mem_singleton.mp hr]
          rfl
  | refreshChanged names changed =>
      obtain ⟨found, hfound, _⟩ := Except.map_ok.mp h
      obtain ⟨readings, hreads, hnames, hsources, hrecords⟩ := Workspace.refreshChanged_reads hfound
      exact ⟨readings, ⟨rfl, hreads, hnames, hsources⟩, hrecords⟩

/-- A row of acts none of which fails, each with what was reported. -/
inductive Trail : Session → List (Act × List Log.Record) → Session → Prop where
  /-- Nothing is done. -/
  | nil (s : Session) : Trail s [] s
  /-- An act, and what is done after it. -/
  | cons {s s' : Session} {a : Act} {acts : List (Act × List Log.Record)}
    (h : (s.act a).2.outcome = .ok ()) (hrest : Trail (s.act a).1 acts s') :
    Trail s ((a, (s.act a).2.records) :: acts) s'

/-- A row of acts, each with the readings that it comes to. -/
inductive Account : Session → List (Act × List Reading) → Session → Prop where
  /-- Nothing is done. -/
  | nil (s : Session) : Account s [] s
  /-- An act, and what is done after it. -/
  | cons {s s' s'' : Session} {a : Act} {readings : List Reading}
    {acts : List (Act × List Reading)} (h : a.Done s readings s')
    (hrest : Account s' acts s'') : Account s ((a, readings) :: acts) s''

/-- The debug records of any run are those of its readings: act for act there is one for each
    reading, in the same order, which tells whether the wildcards in force have changed. It
    names the file that was read just if that is called like the project's own one. -/
theorem Trail.accounted {acts : List (Act × List Log.Record)} (h : Trail s acts s') :
    ∃ account, Account s account s' ∧
      List.Forall₂ (fun x y => x.1 = y.1 ∧
        x.2.filter Log.Record.isDebug = y.2.map Reading.record ∧
        ∀ r ∈ y.2, (r.record.fields.find? .changed = some (.bool (r.after ≠ r.before)) ∧
          (r.record.Names r.source ↔ r.source.text = r.place.text))) acts account := by
  induction h with
  | nil s => exact ⟨[], .nil s, .nil⟩
  | cons hact _ ih =>
      -- Each act is accounted for alone, in the session that those before it leave.
      obtain ⟨readings, hdone, hrecords⟩ := act_done hact
      obtain ⟨account, haccount, hmatch⟩ := ih
      exact ⟨_, .cons hdone haccount,
        .cons ⟨rfl, hrecords, fun r _ => ⟨rfl, r.names_iff⟩⟩ hmatch⟩

/-- A project is refreshed from another file than its own, then given the path of that file,
    and then refreshed since the file is said to have changed: three readings. -/
theorem Trail.accounted_moved :
    let other : Path := ⟨.relative, ["other.ini"]⟩
    let files := (Files.empty ["proj"]).write other (Utf8.encode "[pytest]\npython_classes=X\n")
    let s : Session := ⟨files, [("p", ⟨⟨.root, ["proj"]⟩, ⟨.relative, ["pytest.ini"]⟩, none⟩)]⟩
    let s₁ := (s.act (.refresh "p" (some other))).1
    let s₂ := (s₁.act (.setPath "p" other)).1
    let s₃ := (s₂.act (.refreshChanged ["p"] [other])).1
    ∃ acts account, Trail s acts s₃ ∧ Account s account s₃ ∧
      account.map (·.2.length) = [1, 1, 1] := by
  intro other files s s₁ s₂ s₃
  have htrail (s : Session) (a b c : Act) (ha : (s.act a).2.outcome = .ok ())
      (hb : ((s.act a).1.act b).2.outcome = .ok ())
      (hc : (((s.act a).1.act b).1.act c).2.outcome = .ok ()) :
      Trail s [(a, (s.act a).2.records), (b, ((s.act a).1.act b).2.records),
        (c, (((s.act a).1.act b).1.act c).2.records)] (((s.act a).1.act b).1.act c).1 :=
    .cons ha (.cons hb (.cons hc (.nil _)))
  have hrun := htrail s (.refresh "p" (some other)) (.setPath "p" other)
    (.refreshChanged ["p"] [other]) (by decide +kernel) (by decide +kernel) (by decide +kernel)
  obtain ⟨account, haccount, hmatch⟩ := Trail.accounted hrun
  refine ⟨_, account, hrun, haccount, ?_⟩
  -- There are as many readings as debug records, and these can be counted.
  have hlengths {acts : List (Act × List Log.Record)} {account : List (Act × List Reading)}
      (h : List.Forall₂ (fun x y => x.2.filter Log.Record.isDebug = y.2.map Reading.record)
        acts account) :
      account.map (·.2.length) = acts.map fun x => (x.2.filter Log.Record.isDebug).length := by
    induction h with
    | nil => rfl
    | cons hsame _ ih => rw [List.map_cons, List.map_cons, ih, hsame, List.length_map]
  rw [hlengths (hmatch.imp fun _ _ h => h.2.1)]
  decide +kernel

/-- A project is refreshed from another file than its own. The one debug record says that its
    own file was read, which does not exist. -/
theorem act_refresh_other :
    let own : Path := ⟨.root, ["proj", "pytest.ini"]⟩
    let other : Path := ⟨.relative, ["other.ini"]⟩
    let files := (Files.empty ["proj"]).write other
      (Utf8.encode "[pytest]\npython_functions = it_*\n")
    let s : Session := ⟨files, [("s", ⟨⟨.root, ["proj"]⟩, ⟨.relative, ["pytest.ini"]⟩, none⟩)]⟩
    let result := s.act (.refresh "s" (some other))
    ∃ record, result.2.outcome = .ok () ∧
      result.2.records.filter Log.Record.isDebug = [record] ∧
      (result.1.projects.find? "s").map (·.effective.patterns) = some ⟨none, some "it_*"⟩ ∧
      ¬record.Names other ∧ record.Names own ∧ files.read? own = none := by
  refine ⟨Project.refreshedRecord ⟨.root, ["proj", "pytest.ini"]⟩ true, by decide +kernel,
    by rfl, by decide +kernel, ?_, ⟨rfl, rfl⟩, by decide +kernel⟩
  rintro ⟨hmessage, _⟩
  revert hmessage
  decide +kernel

end Session

end NamePatterns
