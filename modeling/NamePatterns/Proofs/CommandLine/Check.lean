import NamePatterns.CommandLine
import NamePatterns.Proofs.Files.Walk
import NamePatterns.Proofs.Project.History

/-!
# Checking Names

The command that checks names against a project that reads the same file.

The command looks for its file where the path leads, a project where the path
without its dots leads. Only an absolute path can tell the two apart, by missing
a file that the project finds. Otherwise both read the same contents. If these
are refused, the command is refused as well, and the project falls back to the
defaults. If they are not, or if there is no file at all, the command prints what
the project selects.

A configuration carries the path that it was read from, and the two paths need
not be spelled alike, so what is read is compared by its wildcards. The answers
depend on nothing else.

## Main definitions

* `Config.gist`: What a reading comes to, wherever the file is.
* `CommandLine.filePlace`: Where the command looks for its file.
* `CommandLine.Answers`: A run that prints given answers about names.

## Theorems

* `Config.parse_gist`: Contents say the same wherever they are.
* `Held.selectsEach_outcome`: Names are selected one by one.
* `CommandLine.check_create`: What the command prints next to what a project selects.
-/

namespace NamePatterns

namespace Config

/-- What a reading comes to, wherever the file is: the wildcards of what is read,
    nothing for contents that are refused, or a failure. -/
def gist {α : Type} (f : α → Patterns) :
    Except ConfigError α → Except (Option Text.TooManyDigits) Patterns
  | .ok a => .ok (f a)
  | .error (.invalid _) => .error none
  | .error (.tooManyDigits e) => .error (some e)

theorem gist_ok_iff {α : Type} {f : α → Patterns} {x : Except ConfigError α} {ps : Patterns} :
    gist f x = .ok ps ↔ ∃ a, x = .ok a ∧ f a = ps := by
  cases x with
  | ok a => simp [gist]
  | error e => cases e <;> simp [gist]

theorem gist_invalid_iff {α : Type} {f : α → Patterns} {x : Except ConfigError α} :
    gist f x = .error none ↔ ∃ e, x = .error (.invalid e) := by
  cases x with
  | ok a => simp [gist]
  | error e => cases e <;> simp [gist]

theorem gist_map {α β : Type} (f : β → Patterns) (g : α → β) (x : Except ConfigError α) :
    gist f (x.map g) = gist (f ∘ g) x := by
  cases x with
  | ok a => rfl
  | error e => cases e <;> rfl

/-- Contents say the same wherever they are. -/
theorem parse_gist (content : Content) (format : ConfigFormat) (path path' : Option Path) :
    gist patterns (parse content format path) = gist patterns (parse content format path') := by
  -- The path goes into what is read and into the texts of errors, and a gist has neither.
  have hini (text : String) : gist patterns ((Source.ofIni text path).map ofSource)
      = gist patterns ((Source.ofIni text path').map ofSource) := by
    unfold Source.ofIni
    cases Ini.parse text <;> rfl
  have htoml (text : String) : gist patterns ((Source.ofToml text path).map ofSource)
      = gist patterns ((Source.ofToml text path').map ofSource) := by
    unfold Source.ofToml
    cases Toml.parse text.toList with
    | error e => cases e <;> rfl
    | ok document =>
        dsimp only
        unfold Source.ofDocument
        cases Source.descend [] tomlTable document with
        | error walked => rfl
        | ok table? =>
            cases table? with
            | none => rfl
            | some table => dsimp only; cases Options.ofTable table <;> rfl
  have htext (text : String) : gist patterns (parse (.text text) format path)
      = gist patterns (parse (.text text) format path') := by
    cases format with
    | ini => exact hini text
    | toml => exact htoml text
  cases content with
  | text text => exact htext text
  | bytes bs =>
      cases hdecode : Utf8.decode bs with
      | error e =>
          simp only [parse, Source.parse, Source.decode, hdecode]
          rfl
      | ok text =>
          -- Bytes that can be decoded are read as their text, with either path.
          have hbytes (path : Option Path) :
              parse (.bytes bs) format path = parse (.text text) format path := by
            simp only [parse, Source.parse, Source.decode, hdecode]
          rw [hbytes, hbytes]
          exact htext text

/-- The wildcards in force for what was loaded. -/
def loadedPatterns (c : Option Config) : Patterns :=
  (c.getD .default).patterns

theorem load_eq (fs : Files) (p : Path) :
    load fs (some p) = match fs.configFile? p with
      | some (format, bytes) => (parse (.bytes bytes) format (some p)).map some
      | none => .ok none := by
  unfold Files.configFile?
  simp only [load]
  cases ConfigFormat.ofPath? p <;> cases fs.read? p <;> rfl

/-- Paths that lead to the same configuration file lead to the same wildcards. -/
theorem load_gist {fs : Files} {p q : Path} (h : fs.configFile? p = fs.configFile? q) :
    gist loadedPatterns (load fs (some p)) = gist loadedPatterns (load fs (some q)) := by
  rw [load_eq, load_eq, h]
  cases fs.configFile? q with
  | none => rfl
  | some file =>
      dsimp only
      rw [gist_map, gist_map]
      exact parse_gist (.bytes file.2) file.1 (some p) (some q)

end Config

/-- A faithful configuration selects names one by one, whatever it keeps in between. -/
theorem Held.selectsEach_outcome {h : Held} (hf : h.Faithful) (kind : NameKind)
    (names : List String) :
    (h.selectsEach kind names).2.outcome
      = names.mapM fun name => (h.config.selects name kind).outcome := by
  induction names generalizing h with
  | nil => rfl
  | cons name names ih =>
      -- The first name may leave its regular expression behind, and the state stays faithful.
      have hfirst := selects_of_faithful hf name kind
      obtain ⟨hconfig, hnext⟩ := matcher_faithful hf kind
      have hstate : (h.selects name kind).1 = (h.matcher kind).1 := rfl
      rw [List.mapM_cons, ← hfirst]
      simp only [selectsEach]
      cases houtcome : (h.selects name kind).2.outcome with
      | error e => rfl
      | ok b =>
          dsimp only
          rw [hstate, ih hnext, hconfig, Except.ok_bind]
          cases names.mapM fun name => (h.config.selects name kind).outcome <;> rfl

namespace CommandLine

/-- Where the command looks for its file: an absolute path is followed with its
    dots, another one without them. -/
def filePlace (fs : Files) (p : Path) : Path :=
  if p.isAbsolute then p else fs.here.resolve p

/-- A run prints an answer about each name, as a line or as an entry of a document,
    and exits with zero just if all answers are yes. If there are no answers, it
    fails and prints nothing. -/
def Answers (names : List String) (kind : NameKind) (json : Bool)
    (answers : Except Regex.LimitError (List Bool)) (r : Outcome) : Prop :=
  match answers with
  | .ok selected =>
    r.exit = .ok (if selected.all id then 0 else 1) ∧
      r.console.out =
        if json then
          Json.spread (.list ((names.zip selected).map fun result =>
            .table [("name", .text result.1), ("kind", .text kind.name),
              ("selected", .bool result.2)])) ++ "\n"
        else
          String.join ((names.zip selected).map fun result =>
            (if result.2 then "+ " else "- ") ++ result.1 ++ "\n")
  | .error e => r.exit = .error (.beyondLimit e) ∧ r.console.out = ""

variable {fs : Files} {path : Path} {p : Project}

theorem loadFor_outcome (h : filePath fs path = .ok (filePlace fs path)) :
    (loadFor fs (some path)).outcome
      = match Config.load fs (some (filePlace fs path)) with
        | .ok c => .ok (c.getD .default)
        | .error e => .error (.ofConfig e) := by
  simp only [loadFor, Option.map_some, h]
  cases Config.load fs (some (filePlace fs path)) with
  | error e => rfl
  | ok c => cases c <;> rfl

/-- With a configuration, the command prints what that selects. -/
theorem answers_of_loadFor {c : Config} (h : (loadFor fs (some path)).outcome = .ok c)
    (names : List String) (kind : NameKind) (json : Bool) (s : Log.Setup) (moment : Int) :
    Answers names kind json (names.mapM fun name => (c.selects name kind).outcome)
      (conclude s moment ((Job.check names (some kind) (some path) json).execute fs)) := by
  have heach : (Held.selectsEach ⟨c, none, none⟩ kind names).2.outcome
      = names.mapM fun name => (c.selects name kind).outcome :=
    Held.selectsEach_outcome (Held.faithful_fresh c) kind names
  have hwork : (check fs names (some kind) (some path) json).outcome
      = ((names.mapM fun name => (c.selects name kind).outcome).mapError Halt.ofLimit).map
          fun selected =>
            ⟨if json then Rows.render true ((names.zip selected).map (resultTable kind))
              else (names.zip selected).map mark, selected.all id⟩ := by
    simp only [check, Logged.outcome_bind, h, Except.ok_bind, Logged.mapError, heach]
    cases names.mapM fun name => (c.selects name kind).outcome <;> rfl
  simp only [Job.execute, conclude, hwork]
  cases names.mapM fun name => (c.selects name kind).outcome with
  | error e => exact ⟨rfl, rfl⟩
  | ok selected =>
      refine ⟨rfl, ?_⟩
      simp only [Except.mapError, Except.map, Console.echoLines_eq, String.empty_append]
      cases json with
      | true => simp [Rows.render, resultTable, Function.comp_def]
      | false => simp [mark, Function.comp_def]

/-- A path that can be located is one that the command can look for. -/
theorem filePath_of_locate {place : Path} (h : fs.locate (fs.here.join path) = .ok place) :
    filePath fs path = .ok (filePlace fs path) ∧ place = fs.here.resolve path := by
  -- A joined path is absolute, so joining it again leaves it as it is.
  have hjoin : fs.here.join (fs.here.join path) = fs.here.join path := by
    simp only [Path.join, Files.here]
    split <;> rfl
  simp only [Files.locate, hjoin] at h
  split at h
  · cases h
  · next hnull =>
      refine ⟨?_, ?_⟩
      · by_cases habsolute : path.isAbsolute = true
        · simp only [filePath, filePlace, habsolute, if_true]
        · simp only [filePath, filePlace, habsolute, Files.locate, hnull]
          rfl
      · rw [← Except.ok.inj h, Path.resolve, Path.resolve, hjoin]

/-- A project that was created has located its file, and is without wildcards of its
    own if what the file holds is refused. -/
theorem create_effective (h : (Project.create fs fs.here path).outcome = .ok p) :
    filePath fs path = .ok (filePlace fs path) ∧
      (Config.gist Config.loadedPatterns (Config.load fs (some (fs.here.resolve path)))
          = .ok p.effective.patterns ∨
        Config.gist Config.loadedPatterns (Config.load fs (some (fs.here.resolve path)))
          = .error none ∧ p.effective = .default) := by
  simp only [Project.create, Logged.outcome_bind, Except.bind_ok] at h
  obtain ⟨c, hread, hp⟩ := h
  obtain ⟨place, hplace, hload⟩ := Project.readFile_ok.mp hread
  obtain ⟨hfile, rfl⟩ := filePath_of_locate hplace
  obtain rfl := Except.ok.inj hp
  refine ⟨hfile, ?_⟩
  rw [Project.hold_effective]
  unfold Config.loadOrNone at hload
  cases hresult : Config.load fs (some (fs.here.resolve path)) with
  | ok d =>
      rw [hresult] at hload
      cases hload
      exact Or.inl rfl
  | error e =>
      rw [hresult] at hload
      cases e with
      | invalid e =>
          cases hload
          exact Or.inr ⟨rfl, rfl⟩
      | tooManyDigits e => cases hload

/-- What the command prints about names, for any file that a project in the working
    directory can read with the same path. A command that misses the file prints what
    the defaults select. A command that does not miss it is refused just where the
    project falls back to the defaults for what the file holds, and otherwise prints
    what the project selects. -/
theorem check_create (h : (Project.create fs fs.here path).outcome = .ok p)
    (names : List String) (kind : NameKind) (json : Bool) (s : Log.Setup) (moment : Int) :
    let r := conclude s moment ((Job.check names (some kind) (some path) json).execute fs)
    let answers (c : Config) := names.mapM fun name => (c.selects name kind).outcome
    (fs.Misses path → Answers names kind json (answers .default) r) ∧
      (¬fs.Misses path →
        (∀ e, Config.load fs (some (filePlace fs path)) = .error (.invalid e) →
          r.exit = .ok 1 ∧ r.console = ⟨"", "(PI114) " ++ e.message ++ "\n"⟩ ∧
            p.effective = .default) ∧
        ((∀ e, Config.load fs (some (filePlace fs path)) ≠ .error (.invalid e)) →
          Answers names kind json (answers p.effective) r)) := by
  intro r answers
  obtain ⟨hlocated, hproject⟩ := create_effective h
  have hfile := loadFor_outcome hlocated
  -- The names that are selected depend on the wildcards only.
  have hanswers {c d : Config} (hc : (loadFor fs (some path)).outcome = .ok c)
      (hpatterns : c.patterns = d.patterns) : Answers names kind json (answers d) r := by
    have hsame : answers c = answers d :=
      congrArg (names.mapM ·) (funext fun name => by rw [Config.selects_congr hpatterns])
    rw [← hsame]
    exact answers_of_loadFor hc names kind json s moment
  constructor
  -- Without a file at its own place, the command works with the defaults.
  · rintro ⟨habsolute, hnone, _⟩
    have hmissing : Config.load fs (some (filePlace fs path)) = .ok none := by
      rw [filePlace, if_pos habsolute, Config.load_eq, hnone]
    rw [hmissing] at hfile
    exact hanswers hfile rfl
  · intro hmisses
    -- Nothing is missed, so both places lead to the same contents.
    have hsame : fs.configFile? (filePlace fs path) = fs.configFile? (fs.here.resolve path) := by
      unfold filePlace
      split
      · next habsolute => exact (Files.configFile?_resolve habsolute hmisses).symm
      · rfl
    rw [← Config.load_gist hsame, Config.gist_ok_iff, Config.gist_invalid_iff] at hproject
    constructor
    · intro e he
      have hrefused : r = conclude s moment (Logged.fail (.ofConfig (.invalid e))) := by
        simp only [r, Job.execute, check, loadFor, Option.map_some, hlocated, he]
        rfl
      -- The project has read the same contents, so it cannot have got a configuration out of
      -- them.
      rcases hproject with ⟨c, hc, _⟩ | ⟨_, hdefault⟩
      · rw [he] at hc
        cases hc
      · rw [hrefused]
        refine ⟨rfl, ?_, hdefault⟩
        have hcode : ErrorClass.invalidConfig.code = "PI114" := by decide
        have herr : "(PI114) " = "(" ++ "PI114" ++ ") " := by decide
        rw [herr, ← hcode]
        exact congrArg (Console.mk "") String.empty_append
    · intro hvalid
      rcases hproject with ⟨c, hc, hpatterns⟩ | ⟨⟨e, he⟩, _⟩
      · rw [hc] at hfile
        exact hanswers hfile hpatterns
      · exact absurd he (hvalid e)

/-- A path with dots out of a directory that exists. -/
theorem check_create_dots :
    let fs := ((Files.empty ["proj"]).makeDirectory ⟨.relative, ["tests"]⟩).write
      ⟨.relative, ["pytest.ini"]⟩ (Utf8.encode "[pytest]\npython_functions = check_*\n")
    let path := Path.ofString "/proj/tests/../pytest.ini"
    let names := ["check_a", "test_a"]
    ¬fs.Misses path ∧
      ∃ p, (Project.create fs fs.here path).outcome = .ok p ∧
        (names.mapM fun name => (p.effective.selects name .function).outcome)
          = .ok [true, false] ∧
        Answers names .function false (.ok [true, false])
          (conclude {} 0 ((Job.check names (some .function) (some path) false).execute fs)) := by
  intro fs path names
  have hmisses : ¬fs.Misses path := by decide +kernel
  have hvalid : (Config.load fs (some (filePlace fs path))).isOk = true := by decide +kernel
  obtain ⟨p, hcreate, hanswers⟩ : ∃ p, (Project.create fs fs.here path).outcome = .ok p ∧
      (names.mapM fun name => (p.effective.selects name .function).outcome)
        = .ok [true, false] := by
    decide +kernel
  have hcheck := ((check_create hcreate names .function false {} 0).2 hmisses).2
    (by intro e he; rw [he] at hvalid; cases hvalid)
  dsimp only at hcheck
  rw [hanswers] at hcheck
  exact ⟨hmisses, p, hcreate, hanswers, hcheck⟩

/-- A path with dots out of a directory that does not exist: the project finds the
    file and selects a name that the command does not. -/
theorem check_missed :
    let fs := (Files.empty ["proj"]).write ⟨.relative, ["pytest.ini"]⟩
      (Utf8.encode "[pytest]\npython_functions = check_*\n")
    let path := Path.ofString "/proj/missing/../pytest.ini"
    let r := conclude {} 0 ((Job.check ["check_a"] (some .function) (some path) false).execute fs)
    fs.Misses path ∧
      (∃ p, (Project.create fs fs.here path).outcome = .ok p ∧
        (p.effective.selects "check_a" .function).outcome = .ok true) ∧
      r.exit = .ok 1 ∧ r.console.out = "- check_a\n" := by
  decide +kernel

end CommandLine

end NamePatterns
