import NamePatterns.Proofs.Project.Batch
import NamePatterns.Proofs.Project.Reading
import NamePatterns.Proofs.Toml.Stages

/-!
# Failures

What the contents of configuration files can make fail.

Contents that are no configuration are refused, with the name of their file, and
whoever reads them by way of a project goes on without a configuration. There is
one exception: a TOML document that comes to an integer with more digits than are
converted makes fail whatever reads it. Nothing else in a file does. The only other
reason for a failure is a path that nothing can be at, whatever files hold.

The proofs go up through the layers. What contents come to is decided where they
are parsed; each layer above only adds where the contents are taken from, and
passes on what it cannot deal with. So there is one lemma for each layer, and
each of them is an equivalence, since the next one needs both directions.

## Main definitions

* `Content.HasLongInteger`, `Files.HasLongInteger`: Contents with such an integer.
* `Config.Handled`: Contents that are a configuration or refused.
* `Files.FailureReasons`: When readings of configurations fail.
* `onesSetting`: A document with one integer.

## Theorems

* `Config.parse_tooManyDigits_iff`: When contents make their reading fail.
* `Config.parse_handled_iff`: When they do not.
* `Config.load_tooManyDigits_iff`: When loading a file fails.
* `Config.loadOrNone_ok_iff`: When the configuration in a file can be had.
* `Project.readFile_ok_iff`, `Project.takeOver_ok_iff`: When the file of a
  project can be read, and what was read be taken over.
* `Files.locate_ok_iff`: Which paths can be located.
* `Project.create_ok_iff`, `Project.refresh_ok_iff`, `Project.refreshFromText_ok_iff`:
  When a project can be read.
* `Workspace.refreshChanged_succeeds_iff`: When a batch succeeds.
* `Files.failureReasons_complete`: All of these together.
* `Config.parse_ones`: Documents that fail.
-/

namespace NamePatterns

/-- The text of contents, if it is encoded as it has to be. -/
def Content.text? : Content → Option String
  | text s => some s
  | bytes bs => (Utf8.decode bs).toOption

/-- As a TOML document, contents come to an integer with so many digits, more than are
    converted. -/
def Content.HasLongInteger (content : Content) (format : ConfigFormat) (count : Nat) : Prop :=
  format = .toml ∧ ∃ text cs, content.text? = some text ∧ Toml.Reaches text.toList cs ∧
    Toml.LongInteger count cs

/-- Contents come to an integer that is too long only if they have too many digits. -/
theorem Content.HasLongInteger.lt_countP {content : Content} {format : ConfigFormat} {count : Nat}
    (h : content.HasLongInteger format count) :
    ∃ text, content.text? = some text ∧ Text.digitLimit < text.toList.countP Char.isDigit := by
  obtain ⟨_, text, cs, htext, hcomes, hlong⟩ := h
  exact ⟨text, htext, Nat.lt_of_lt_of_le hlong.lt_countP (hcomes.countP_le Char.isDigit)⟩

/-- A file that a configuration is looked for in comes to an integer with more digits
    than are converted. -/
def Files.HasLongInteger (fs : Files) (p : Path) : Prop :=
  ∃ format bytes count, ConfigFormat.ofPath? p = some format ∧ fs.read? p = some bytes ∧
    (Content.bytes bytes).HasLongInteger format count

/-- What is there, or refused as contents of a file that is named. -/
def Config.Handled {α : Type} (path : Option Path) (x : Except ConfigError α) : Prop :=
  (∃ a, x = .ok a) ∨ ∃ cause, x = .error (.invalid ⟨path, cause⟩)

namespace Config

variable {α β : Type} {content : Content} {format : ConfigFormat} {path : Option Path}
  {count : Nat}

namespace Handled

variable {x : Except ConfigError α}

theorem because (cause : InvalidCause) :
    Handled path (ConfigError.because path cause : Except ConfigError α) :=
  Or.inr ⟨cause, rfl⟩

theorem map (h : Handled path x) (f : α → β) : Handled path (x.map f) := by
  rcases h with ⟨a, rfl⟩ | ⟨cause, rfl⟩
  · exact Or.inl ⟨f a, rfl⟩
  · exact Or.inr ⟨cause, rfl⟩

theorem ne_tooManyDigits (h : Handled path x) (e : Text.TooManyDigits) :
    x ≠ .error (.tooManyDigits e) := by
  rcases h with ⟨a, rfl⟩ | ⟨cause, rfl⟩ <;> nofun

end Handled

/-- The text of contents is what is read, and contents without a text are refused. -/
theorem decode_cases (content : Content) (path : Option Path) :
    (∃ text, content.text? = some text ∧ Source.decode content path = .ok text) ∨
    content.text? = none ∧
      ∃ cause, Source.decode content path = .error (.invalid ⟨path, cause⟩) := by
  cases content with
  | text s => exact Or.inl ⟨s, rfl, rfl⟩
  | bytes bs =>
      simp only [Content.text?, Source.decode]
      cases Utf8.decode bs with
      | ok s => exact Or.inl ⟨s, rfl, rfl⟩
      | error e => exact Or.inr ⟨rfl, .encoding e, rfl⟩

theorem ofIni_handled (text : String) (path : Option Path) :
    Handled path (Source.ofIni text path) := by
  unfold Source.ofIni
  split
  · exact Or.inl ⟨_, rfl⟩
  · exact .because _

theorem ofDocument_handled (document : Table) (path : Option Path) :
    Handled path (Source.ofDocument document path) := by
  unfold Source.ofDocument
  -- A key leads to no table, a table is missing, or the options are read.
  split
  · exact .because _
  · exact Or.inl ⟨_, rfl⟩
  · split
    · exact Or.inl ⟨_, rfl⟩
    · exact .because _

theorem ofToml_tooManyDigits_iff {text : String} {e : Text.TooManyDigits} :
    Source.ofToml text path = .error (.tooManyDigits e) ↔
      Toml.parse text.toList = .error (.tooManyDigits e) := by
  unfold Source.ofToml
  cases Toml.parse text.toList with
  | ok document =>
      exact iff_of_false ((ofDocument_handled document path).ne_tooManyDigits e) nofun
  | error f =>
      cases f with
      | malformed _ => exact iff_of_false nofun nofun
      | tooManyDigits d =>
          simp only [Except.error.injEq, ConfigError.tooManyDigits.injEq,
            Toml.Refusal.tooManyDigits.injEq]

theorem ofToml_handled (text : String) (path : Option Path) :
    Handled path (Source.ofToml text path) ∨
      ∃ e, Source.ofToml text path = .error (.tooManyDigits e) := by
  unfold Source.ofToml
  cases Toml.parse text.toList with
  | ok document => exact Or.inl (ofDocument_handled document path)
  | error f =>
      cases f with
      | malformed e => exact Or.inl (.because _)
      | tooManyDigits e => exact Or.inr ⟨e, rfl⟩

/-- Contents are refused for the length of an integer just if they come to one. -/
theorem parse_tooManyDigits_iff :
    Config.parse content format path = .error (.tooManyDigits ⟨count⟩) ↔
      content.HasLongInteger format count := by
  unfold Config.parse Source.parse
  rw [Except.map_error]
  rcases decode_cases content path with ⟨text, htext, hdecode⟩ | ⟨hnone, cause, hdecode⟩
  · rw [hdecode]
    cases format with
    | ini =>
        -- Values of an INI document are text.
        exact iff_of_false ((ofIni_handled text path).ne_tooManyDigits _) fun h => nomatch h.1
    | toml =>
        refine ofToml_tooManyDigits_iff.trans (Toml.parse_tooManyDigits_iff.trans ?_)
        constructor
        · rintro ⟨cs, hcomes, hlong⟩
          exact ⟨rfl, text, cs, htext, hcomes, hlong⟩
        · rintro ⟨_, other, cs, hother, hcomes, hlong⟩
          obtain rfl : text = other := Option.some.inj (htext.symm.trans hother)
          exact ⟨cs, hcomes, hlong⟩
  · -- What is no text is refused before its format matters.
    rw [hdecode]
    refine iff_of_false nofun ?_
    rintro ⟨_, text, _, htext, _⟩
    rw [hnone] at htext
    cases htext

/-- Contents are a configuration, or refused with the name of their file, just if they
    do not come to an integer that is too long. -/
theorem parse_handled_iff :
    Handled path (Config.parse content format path) ↔
      ∀ count, ¬content.HasLongInteger format count := by
  constructor
  · intro hhandled count hlong
    exact hhandled.ne_tooManyDigits ⟨count⟩ (parse_tooManyDigits_iff.mpr hlong)
  · intro hnone
    -- Only the length of an integer is refused without the name of the file.
    have hnot : ∀ e, Config.parse content format path ≠ .error (.tooManyDigits e) :=
      fun e he => hnone e.count (parse_tooManyDigits_iff.mp he)
    unfold Config.parse Source.parse at hnot ⊢
    rcases decode_cases content path with ⟨text, _, hdecode⟩ | ⟨_, cause, hdecode⟩
    · rw [hdecode] at hnot ⊢
      cases format with
      | ini => exact (ofIni_handled text path).map _
      | toml =>
          rcases ofToml_handled text path with hhandled | ⟨e, he⟩
          · exact hhandled.map _
          · exact absurd (Except.map_error.mpr he) (hnot e)
    · rw [hdecode]
      exact Or.inr ⟨cause, rfl⟩

/-- Loading a file fails just if the file comes to an integer that is too long. -/
theorem load_tooManyDigits_iff {fs : Files} {p : Path} :
    (∃ e, Config.load fs (some p) = .error (.tooManyDigits e)) ↔ fs.HasLongInteger p := by
  unfold Config.load
  constructor
  · rintro ⟨e, he⟩
    dsimp only at he
    split at he
    · next format bytes hformat hbytes =>
        exact ⟨format, bytes, e.count, hformat, hbytes,
          parse_tooManyDigits_iff.mp (Except.map_error.mp he)⟩
    · cases he
  · rintro ⟨format, bytes, count, hformat, hbytes, hlong⟩
    refine ⟨⟨count⟩, ?_⟩
    dsimp only
    rw [hformat, hbytes]
    exact Except.map_error.mpr (parse_tooManyDigits_iff.mpr hlong)

/-- The configuration in a file can be had just if the file does not come to an integer
    that is too long. -/
theorem loadOrNone_ok_iff {fs : Files} :
    (∃ c, (Config.loadOrNone fs path).outcome = .ok c) ↔
      ∀ p, path = some p → ¬fs.HasLongInteger p := by
  -- A refusal with the name of the file counts as no configuration.
  have hload : (∃ c, (Config.loadOrNone fs path).outcome = .ok c) ↔
      ∀ e, Config.load fs path ≠ .error (.tooManyDigits e) := by
    unfold Config.loadOrNone
    cases Config.load fs path with
    | ok c => exact iff_of_true ⟨c, rfl⟩ nofun
    | error e =>
        cases e with
        | invalid e => exact iff_of_true ⟨none, rfl⟩ nofun
        | tooManyDigits e => exact iff_of_false nofun fun h => h e rfl
  rw [hload]
  constructor
  · rintro hnot p rfl hlong
    obtain ⟨e, he⟩ := load_tooManyDigits_iff.mpr hlong
    exact hnot e he
  · intro hnone e he
    cases path with
    | none => cases he
    | some p => exact hnone p rfl (load_tooManyDigits_iff.mp ⟨e, he⟩)

end Config

namespace Project

variable {fs : Files} {p : Project} {path : Path}

/-- The file of a project, or another one that is given, can be read just if it can be
    located and does not come to an integer that is too long. -/
theorem readFile_ok_iff {file : Option Path} :
    (∃ c, (p.readFile fs file).outcome = .ok c) ↔
      ∃ path, file.elim (p.resolved fs) .ok = .ok path ∧ ¬fs.HasLongInteger path := by
  have hload (path : Path) : (∃ c, (Config.loadOrNone fs (some path)).outcome = .ok c) ↔
      ¬fs.HasLongInteger path := by
    rw [Config.loadOrNone_ok_iff]
    exact ⟨fun h => h path rfl, fun h q hq => Option.some.inj hq ▸ h⟩
  simp only [readFile_given_ok, ← hload]
  constructor
  · rintro ⟨c, path, hpath, hc⟩
    exact ⟨path, hpath, c, hc⟩
  · rintro ⟨path, hpath, c, hc⟩
    exact ⟨c, path, hpath, hc⟩

/-- What was read is taken over just if there is something and the project's file can be
    located, which it is once more. -/
theorem takeOver_ok_iff {reading : Logged Failure (Option Config)} :
    (∃ changed, (p.takeOver fs reading).2.outcome = .ok changed) ↔
      (∃ path, p.resolved fs = .ok path) ∧ ∃ c, reading.outcome = .ok c := by
  constructor
  · rintro ⟨changed, hok⟩
    obtain ⟨c, hread, _, _⟩ := takeOver_ok rfl hok
    -- The record of what was read names the place of the project's file.
    cases hpath : p.resolved fs with
    | ok path => exact ⟨⟨path, rfl⟩, c, hread⟩
    | error e =>
        simp only [takeOver, hread, hpath] at hok
        cases hok
  · rintro ⟨⟨path, hpath⟩, c, hread⟩
    exact ⟨p.changes c, (takeOver_of_ok hpath hread).2⟩

/-- When a project can be created. -/
theorem create_ok_iff {root configPath : Path} :
    (∃ p, (create fs root configPath).outcome = .ok p) ↔
      ∃ path, fs.locate (root.join configPath) = .ok path ∧ ¬fs.HasLongInteger path := by
  have hread : (∃ c, (readFile fs none ⟨root, configPath, none⟩).outcome = .ok c) ↔
      ∃ path, fs.locate (root.join configPath) = .ok path ∧ ¬fs.HasLongInteger path :=
    readFile_ok_iff
  rw [← hread]
  simp only [create, Logged.outcome_bind, Except.bind_ok]
  constructor
  · rintro ⟨_, c, hc, _⟩
    exact ⟨c, hc⟩
  · rintro ⟨c, hc⟩
    exact ⟨_, c, hc, rfl⟩

/-- When a project can be refreshed, from its file or another one. -/
theorem refresh_ok_iff {file : Option Path} :
    (∃ changed, (p.refresh fs file).2.outcome = .ok changed) ↔
      ∃ path, p.resolved fs = .ok path ∧ ¬fs.HasLongInteger (file.getD path) := by
  unfold refresh
  rw [takeOver_ok_iff, readFile_ok_iff]
  cases file with
  | none =>
      constructor
      · rintro ⟨_, h⟩
        exact h
      · rintro ⟨path, hpath, hnot⟩
        exact ⟨⟨path, hpath⟩, path, hpath, hnot⟩
  | some given =>
      constructor
      · rintro ⟨⟨path, hpath⟩, other, hother, hnot⟩
        obtain rfl : given = other := Except.ok.inj hother
        exact ⟨path, hpath, hnot⟩
      · rintro ⟨path, hpath, hnot⟩
        exact ⟨⟨path, hpath⟩, given, rfl, hnot⟩

theorem readContent_ok_iff {content : Content} {format : ConfigFormat} :
    (∃ c, (readContent content format path).outcome = .ok c) ↔
      ∀ count, ¬content.HasLongInteger format count := by
  have hlong (count : Nat) :
      Config.parse content format (some path) = .error (.tooManyDigits ⟨count⟩) ↔
        content.HasLongInteger format count :=
    Config.parse_tooManyDigits_iff
  simp only [← hlong, readContent]
  cases Config.parse content format (some path) with
  | ok c => exact iff_of_true ⟨some c, rfl⟩ nofun
  | error e =>
      cases e with
      | invalid e => exact iff_of_true ⟨none, rfl⟩ nofun
      | tooManyDigits e => exact iff_of_false nofun fun h => h e.count rfl

/-- When a project can be given contents in place of its file. -/
theorem refreshFromText_ok_iff {content : Content} {format : ConfigFormat} :
    (∃ changed, (p.refreshFromText fs content format).2.outcome = .ok changed) ↔
      (∃ path, p.resolved fs = .ok path) ∧ ∀ count, ¬content.HasLongInteger format count := by
  unfold refreshFromText
  rw [takeOver_ok_iff]
  refine and_congr_right fun ⟨path, hpath⟩ => ?_
  have hcontents : (∃ c, (readContent content format path).outcome = .ok c) ↔ _ :=
    readContent_ok_iff
  rw [← hcontents]
  simp only [Logged.outcome_bind, Logged.liftExcept, hpath]
  rfl

end Project

namespace Workspace

variable {fs : Files} {ws : Workspace} {names : List String} {changed : List Path}

/-- Refreshing after changes of files succeeds just if the given projects and the changed
    paths can be located and none of the files that are at both comes to an integer that
    is too long. -/
theorem refreshChanged_succeeds_iff :
    (∃ found, (ws.refreshChanged fs names changed).2.outcome = .ok found) ↔
      (∀ name ∈ names, ∀ p, ws.find? name = some p → ∃ path, p.resolved fs = .ok path) ∧
      (∀ q ∈ changed, ∃ path, fs.locate q = .ok path) ∧
      ∀ name ∈ names, ∀ p path, ws.find? name = some p → p.resolved fs = .ok path →
        .ok path ∈ changed.map fs.locate → ¬fs.HasLongInteger path := by
  rw [← exists_map_ok_iff]
  have hplace {places : List Path} {path : Path}
      (hplaces : changed.map fs.locate = places.map .ok) :
      .ok path ∈ changed.map fs.locate ↔ path ∈ places := by
    rw [hplaces]
    exact List.mem_map_of_injective fun _ _ => Except.ok.inj
  constructor
  · rintro ⟨found, hfound⟩
    obtain ⟨hgiven, hlocated, _⟩ := refreshChanged_ok_iff.mp hfound
    -- A batch that succeeds has read all files that are at one of the places.
    have hplaces := located_eq_iff.mp (Prod.ext rfl hlocated)
    have hdone := refreshed_of_ok hplaces hfound
    refine ⟨resolved_total_iff.mp hgiven, ⟨_, hplaces⟩, ?_⟩
    intro name hname p path hp hpath hchanged
    -- What has been read can be loaded, so it does not come to such an integer.
    obtain ⟨c, hload, _⟩ := hdone.read hname hp hpath ((hplace hplaces).mp hchanged)
    exact Config.loadOrNone_ok_iff.mp ⟨c, hload⟩ path rfl
  · rintro ⟨hgiven, ⟨places, hplaces⟩, hnone⟩
    refine refreshChanged_total hgiven hplaces ?_
    intro name hname p path hp hpath hmem
    refine Config.loadOrNone_ok_iff.mpr fun q hq => ?_
    cases hq
    exact hnone name hname p path hp hpath ((hplace hplaces).mpr hmem)

end Workspace

/-- Only a path that holds the null character cannot be located. -/
theorem Files.locate_ok_iff {fs : Files} {p : Path} :
    (∃ path, fs.locate p = .ok path) ↔ (fs.here.join p).holdsNull = false := by
  unfold Files.locate
  cases (fs.here.join p).holdsNull with
  | false => exact iff_of_true ⟨_, rfl⟩ rfl
  | true => exact iff_of_false nofun nofun

namespace Files

/-- When readings of configurations fail: there are two reasons, integers that are too
    long and paths that cannot be located, and for either of them they do. -/
structure FailureReasons (fs : Files) : Prop where
  /-- Contents are a configuration, or refused with the path that is given for them, unless
      they come to an integer that is too long. -/
  parse : ∀ (content : Content) (format : ConfigFormat) (path : Option Path),
    Config.Handled path (Config.parse content format path) ↔
      ∀ count, ¬content.HasLongInteger format count
  /-- If they do, this is what is reported, and no path. -/
  parse_long : ∀ (content : Content) (format : ConfigFormat) (path : Option Path) (count : Nat),
    Config.parse content format path = .error (.tooManyDigits ⟨count⟩) ↔
      content.HasLongInteger format count
  /-- There are too many digits then. -/
  many_digits : ∀ (content : Content) (format : ConfigFormat) (count : Nat),
    content.HasLongInteger format count →
    ∃ text, content.text? = some text ∧ Text.digitLimit < text.toList.countP Char.isDigit
  /-- A file is read, or counts as holding no configuration, unless it comes to such an
      integer. -/
  load : ∀ path : Option Path, (∃ c, (Config.loadOrNone fs path).outcome = .ok c) ↔
    ∀ p, path = some p → ¬fs.HasLongInteger p
  /-- Only a path that holds the null character cannot be located. -/
  locate : ∀ p : Path, (∃ path, fs.locate p = .ok path) ↔ (fs.here.join p).holdsNull = false
  /-- A project is created unless its file cannot be located or comes to such an
      integer. -/
  create : ∀ root configPath : Path,
    (∃ p, (Project.create fs root configPath).outcome = .ok p) ↔
      ∃ path, fs.locate (root.join configPath) = .ok path ∧ ¬fs.HasLongInteger path
  /-- The same is true of refreshing it. If another file is given, it is that one which
      must not come to such an integer. -/
  refresh : ∀ (p : Project) (file : Option Path),
    (∃ changed, (p.refresh fs file).2.outcome = .ok changed) ↔
      ∃ path, p.resolved fs = .ok path ∧ ¬fs.HasLongInteger (file.getD path)
  /-- If contents are given, it is they that must not. -/
  refreshFromText : ∀ (p : Project) (content : Content) (format : ConfigFormat),
    (∃ changed, (p.refreshFromText fs content format).2.outcome = .ok changed) ↔
      (∃ path, p.resolved fs = .ok path) ∧ ∀ count, ¬content.HasLongInteger format count
  /-- A path is set unless the file there cannot be located or comes to such an integer. -/
  setPath : ∀ (p : Project) (configPath : Path),
    (∃ changed, (p.setPath fs configPath).2.outcome = .ok changed) ↔
      ∃ path, fs.locate (p.root.join configPath) = .ok path ∧ ¬fs.HasLongInteger path
  /-- Projects are refreshed after changes of files unless one of them or one of the
      changed paths cannot be located, or the file of one of them is among the changed
      ones and comes to such an integer. -/
  refreshChanged : ∀ (ws : Workspace) (names : List String) (changed : List Path),
    (∃ found, (ws.refreshChanged fs names changed).2.outcome = .ok found) ↔
      (∀ name ∈ names, ∀ p, ws.find? name = some p → ∃ path, p.resolved fs = .ok path) ∧
      (∀ q ∈ changed, ∃ path, fs.locate q = .ok path) ∧
      ∀ name ∈ names, ∀ p path, ws.find? name = some p → p.resolved fs = .ok path →
        .ok path ∈ changed.map fs.locate → ¬fs.HasLongInteger path

/-- Whatever files and contents hold, reading them fails for these reasons only. -/
theorem failureReasons_complete (fs : Files) : fs.FailureReasons where
  parse _ _ _ := Config.parse_handled_iff
  parse_long _ _ _ _ := Config.parse_tooManyDigits_iff
  many_digits _ _ _ := Content.HasLongInteger.lt_countP
  load _ := Config.loadOrNone_ok_iff
  locate _ := locate_ok_iff
  create _ _ := Project.create_ok_iff
  refresh _ _ := Project.refresh_ok_iff
  refreshFromText _ _ _ := Project.refreshFromText_ok_iff
  setPath _ _ := Project.refresh_ok_iff
  refreshChanged _ _ _ := Workspace.refreshChanged_succeeds_iff

end Files

section Ones

variable {n : Nat}

/-- A text that sets a key to a row of ones. -/
def onesSetting (n : Nat) : List Char :=
  'a' :: ' ' :: '=' :: ' ' :: List.replicate n '1'

theorem digitRun_ones (n : Nat) :
    Toml.digitRun Char.isDigit (List.replicate n '1') = (List.replicate n '1', []) := by
  induction n with
  | zero => rfl
  | succ n ih =>
      cases n with
      | zero => rfl
      | succ n =>
          rw [List.replicate_succ] at ih
          simp [List.replicate_succ, Toml.digitRun, ih]

/-- Ones are an integer that is too long if there are more of them than are converted. -/
theorem longInteger_ones (h : Text.digitLimit < n) :
    Toml.LongInteger n (List.replicate n '1') := by
  -- It is a number in base ten: another base starts with a zero.
  have hzero : (List.replicate n '1').head? ≠ some '0' := by
    intro hhead
    have hone : '0' = '1' := List.eq_of_mem_replicate (List.mem_of_head? hhead)
    revert hone
    decide
  exact ⟨[], _, rfl, List.mem_cons_self, hzero, _, [], digitRun_ones n, List.length_replicate, h,
    rfl, rfl⟩

/-- The setting comes to its value. -/
theorem reaches_ones (n : Nat) : Toml.Reaches (onesSetting n) (List.replicate n '1') := by
  have hfeeds : Toml.withFeeds (onesSetting n) = onesSetting n := by
    -- There is no return among the ones that a feed could be made of.
    have hones : Toml.withFeeds (List.replicate n '1') = List.replicate n '1' := by
      induction n with
      | zero => rfl
      | succ n ih =>
          rw [List.replicate_succ, Toml.withFeeds, ih]
          nofun
    exact congrArg ('a' :: ' ' :: '=' :: ' ' :: ·) hones
  have hblank : Toml.skipBlanks (' ' :: List.replicate n '1') = List.replicate n '1' := by
    cases n <;> rfl
  have hleads : (Toml.Stage.lines {} (onesSetting n)).Leads (.value (List.replicate n '1')) := by
    rw [← hblank]
    exact .setting rfl rfl rfl
  unfold Toml.Reaches
  rw [hfeeds]
  exact .step hleads (.here _)

/-- The shortest documents that make their reading fail. -/
theorem Config.parse_ones (h : Text.digitLimit < n) (path : Option Path) :
    Config.parse (.text (String.ofList (onesSetting n))) .toml path
      = .error (.tooManyDigits ⟨n⟩) := by
  refine Config.parse_tooManyDigits_iff.mpr ⟨rfl, _, _, rfl, ?_, longInteger_ones h⟩
  rw [String.toList_ofList]
  exact reaches_ones n

/-- Neither is a document with an integer of 4301 digits a configuration or refused, nor is
    a project created whose file it is. -/
theorem Config.parse_ones_unhandled :
    let text := String.ofList (onesSetting 4301)
    let file : Path := ⟨.relative, ["pyproject.toml"]⟩
    let fs := (Files.empty ["proj"]).write file (Utf8.encode text)
    ¬Config.Handled none (Config.parse (.text text) .toml none) ∧
      ¬∃ p, (Project.create fs ⟨.root, ["proj"]⟩ file).outcome = .ok p := by
  intro text file fs
  have hparse := Config.parse_ones (n := 4301) (by decide)
  refine ⟨fun h => h.ne_tooManyDigits _ (hparse none), ?_⟩
  rw [Project.create_ok_iff]
  rintro ⟨path, hpath, hnot⟩
  -- Where the file is and what is in it is seen without a look at the ones.
  have hlocate (bytes : List UInt8) :
      ((Files.empty ["proj"]).write file bytes).locate (Path.join ⟨.root, ["proj"]⟩ file)
        = .ok ⟨.root, ["proj", "pyproject.toml"]⟩ := by
    rfl
  have hread (bytes : List UInt8) :
      ((Files.empty ["proj"]).write file bytes).read? ⟨.root, ["proj", "pyproject.toml"]⟩
        = some bytes := by
    rfl
  obtain rfl := Except.ok.inj ((hlocate (Utf8.encode text)).symm.trans hpath)
  refine hnot ⟨.toml, _, 4301, by decide +kernel, hread _, ?_⟩
  have hbytes : Config.parse (.bytes (Utf8.encode text)) .toml none
      = .error (.tooManyDigits ⟨4301⟩) :=
    (Config.parse_encode text .toml none).trans (hparse none)
  exact Config.parse_tooManyDigits_iff.mp hbytes

end Ones

end NamePatterns
