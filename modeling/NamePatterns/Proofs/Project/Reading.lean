import NamePatterns.Proofs.Project.Refresh
import NamePatterns.Proofs.Text.Utf8

/-!
# Ways of Reading a Configuration

What a project holds after a reading depends on its file alone.

A project reads its configuration when it is created, when it is refreshed, and
when its path is set, and it can be given contents in place of its file. None of
these looks at what the project holds, except to tell whether what is in force
changes. Contents that are given are refused where a file with these contents
is, and are held with the path of the file, so a project that is given what is
in its file cannot be told from one that has read it. Text stands for the bytes
it is encoded in.

The three ways to read share one last step, and the theorem is about what comes
before it. Each way comes to the same reading of the same contents, whatever the
project holds; from there on they cannot differ.

## Theorems

* `Config.parse_encode`: Text is parsed like the bytes it is encoded in.
* `Project.takeOver_of_ok`: What becomes of a project that has read something.
* `Project.readContent_outcome`: Contents are read like a file with these
  contents.
* `Project.refresh_eq_create`: All ways of reading agree with creating the
  project anew.
-/

namespace NamePatterns

/-- Text is parsed like the bytes it is encoded in. -/
theorem Config.parse_encode (t : String) (format : ConfigFormat) (path : Option Path) :
    Config.parse (.bytes (Utf8.encode t)) format path = Config.parse (.text t) format path := by
  have hdecode : Source.decode (.bytes (Utf8.encode t)) path = Source.decode (.text t) path := by
    simp only [Source.decode, Utf8.decode_encode]
  unfold Config.parse Source.parse
  rw [hdecode]

namespace Project

variable {fs : Files} {p : Project} {path : Path} {c : Option Config}

/-- A project whose file can be located takes over what was read. -/
theorem takeOver_of_ok {reading : Logged Failure (Option Config)}
    (hpath : p.resolved fs = .ok path) (hread : reading.outcome = .ok c) :
    (p.takeOver fs reading).1 = p.hold c ∧
      (p.takeOver fs reading).2.outcome = .ok (p.changes c) := by
  simp only [takeOver, hread, hpath]
  exact ⟨trivial, trivial⟩

/-- A project that is created holds what its file says. -/
theorem create_of_ok (hread : (p.readFile fs none).outcome = .ok c) :
    (create fs p.root p.configPath).outcome = .ok (p.hold c) := by
  have hfresh : (readFile fs none ⟨p.root, p.configPath, none⟩).outcome = .ok c := hread
  simp only [create, bind, Logged.bind, hfresh]
  rfl

/-- Contents are read like a file with these contents, if the ending of the file
    tells their format. -/
theorem readContent_outcome {bytes : List UInt8} {format : ConfigFormat}
    (hbytes : fs.read? path = some bytes) (hformat : ConfigFormat.ofPath? path = some format) :
    (readContent (.bytes bytes) format path).outcome
      = (Config.loadOrNone fs (some path)).outcome.mapError .tooManyDigits := by
  have hload : Config.load fs (some path)
      = (Config.parse (.bytes bytes) format (some path)).map some := by
    simp only [Config.load, hformat, hbytes]
  unfold readContent Config.loadOrNone
  rw [hload]
  cases Config.parse (.bytes bytes) format (some path) with
  | ok c => rfl
  | error e => cases e <;> rfl

/-- Let the file of a project, which may hold anything, be such that it can be
    read. Then creating the project anew succeeds, and so does refreshing it,
    setting its path to what it is already, and giving it what is in its file as
    bytes or as text that they encode, if there is a file and its ending tells a
    format. All of them leave the project that is created anew, and all that tell
    whether what is in force changes tell the same. -/
theorem refresh_eq_create (hpath : p.resolved fs = .ok path)
    (hload : (Config.loadOrNone fs (some path)).outcome = .ok c) :
    ∃ fresh changed, (create fs p.root p.configPath).outcome = .ok fresh ∧
      ((p.refresh fs none).1 = fresh ∧ (p.refresh fs none).2.outcome = .ok changed) ∧
      ((p.setPath fs p.configPath).1 = fresh ∧
        (p.setPath fs p.configPath).2.outcome = .ok changed) ∧
      ∀ bytes format content, fs.read? path = some bytes →
        ConfigFormat.ofPath? path = some format →
        (content = .bytes bytes ∨ ∃ t, content = .text t ∧ Utf8.encode t = bytes) →
        (p.refreshFromText fs content format).1 = fresh ∧
          (p.refreshFromText fs content format).2.outcome = .ok changed := by
  have hread : (p.readFile fs none).outcome = .ok c := readFile_ok.mpr ⟨path, hpath, hload⟩
  have hrefresh := takeOver_of_ok hpath hread
  refine ⟨p.hold c, p.changes c, create_of_ok hread, hrefresh, hrefresh, ?_⟩
  intro bytes format content hbytes hformat hcontent
  -- Text that is given is parsed as the bytes that stand in the file.
  have hparse : Config.parse content format (some path)
      = Config.parse (.bytes bytes) format (some path) := by
    rcases hcontent with rfl | ⟨t, rfl, rfl⟩
    · rfl
    · exact (Config.parse_encode t format (some path)).symm
  -- What is refused as a file is refused as contents too, and counts as no configuration.
  have hcontents : (readContent content format path).outcome = .ok c := by
    unfold readContent
    rw [hparse]
    exact (readContent_outcome hbytes hformat).trans (by rw [hload]; rfl)
  refine takeOver_of_ok hpath ?_
  simp only [bind, Logged.bind, Logged.liftExcept, hpath, Except.mapError]
  exact hcontents

/-- A project that was given other contents before. -/
theorem refresh_eq_create_given :
    let file : Path := ⟨.relative, ["pytest.ini"]⟩
    let text := "[pytest]\npython_classes=X\n"
    let fs := (Files.empty ["proj"]).write file (Utf8.encode text)
    let before : Project := ⟨⟨.root, ["proj"]⟩, file, none⟩
    let p := (before.refreshFromText fs (.text "[pytest]\npython_functions=check\n") .ini).1
    p.effective.patterns = ⟨none, some "check"⟩ ∧
      ∃ fresh changed, (create fs p.root p.configPath).outcome = .ok fresh ∧
        (p.refresh fs none).1 = fresh ∧ (p.refresh fs none).2.outcome = .ok changed ∧
        (p.setPath fs p.configPath).1 = fresh ∧
        (p.refreshFromText fs (.text text) .ini).1 = fresh ∧
        (p.refreshFromText fs (.text text) .ini).2.outcome = .ok changed := by
  intro file text fs before p
  have hpath : p.resolved fs = .ok ⟨.root, ["proj", "pytest.ini"]⟩ := by decide +kernel
  have hbytes : fs.read? ⟨.root, ["proj", "pytest.ini"]⟩ = some (Utf8.encode text) := by
    decide +kernel
  obtain ⟨c, hload⟩ :
      ∃ c, (Config.loadOrNone fs (some ⟨.root, ["proj", "pytest.ini"]⟩)).outcome = .ok c :=
    exists_of_isOk (by decide +kernel)
  obtain ⟨fresh, changed, hcreate, hrefresh, hset, hgiven⟩ := refresh_eq_create hpath hload
  have htext := hgiven (Utf8.encode text) .ini (.text text) hbytes (by decide +kernel)
    (Or.inr ⟨text, rfl, rfl⟩)
  refine ⟨by decide +kernel, fresh, changed, hcreate, hrefresh.1, hrefresh.2, hset.1, htext⟩

end Project

end NamePatterns
