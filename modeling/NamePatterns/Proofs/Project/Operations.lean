import NamePatterns.Proofs.Project.Failures

/-!
# Operations That Fail

What an operation on a project leaves behind when it fails.

A reading that fails is not taken over, so a project that is refreshed from its own file
or from contents is left as it was. Two operations change a project before the last step
that can fail. Setting a path stores the path before the file is read, and if that fails
the project has the new path and holds what it held under the old one. Refreshing from
another file takes over what was read before the project's own file is located, which
its record names; if that file cannot be located, what was read is held all the same.

That a failing operation can change a project at all is a matter of the order of
two steps, and each operation has its own order. So there is a lemma for each
that says what it leaves, and only the last theorem asks whether that is what
was there before.

## Main definitions

* `Project.Operation`, `Project.perform`: What can be done to a project.
* `Project.StaysAs`: A project is what it was.
* `Project.Operation.Spares`: An operation that fails does not change a project.

## Theorems

* `Project.takeOver_error`: Where taking over a reading fails.
* `Project.refresh_error`, `Project.refreshFromText_error`, `Project.setPath_error`: What
  each operation leaves behind.
* `Project.staysAs_iff_spares`: When a failing operation leaves a project as it was.
-/

namespace NamePatterns

namespace Project

/-- What can be done to a project. -/
inductive Operation where
  /-- It is refreshed, from its file or from one that is given. -/
  | refresh (file : Option Path)
  /-- It is refreshed from contents that stand for its file. -/
  | refreshFromText (content : Content) (format : ConfigFormat)
  /-- Its path is set. -/
  | setPath (path : Path)

/-- What an operation does to a project, and what it answers. -/
def perform (fs : Files) (p : Project) : Operation → Project × Logged Failure Bool
  | .refresh file => p.refresh fs file
  | .refreshFromText content format => p.refreshFromText fs content format
  | .setPath path => p.setPath fs path

/-- A project has the path that it had, which leads where it led, and holds what it
    held. -/
structure StaysAs (fs : Files) (p p' : Project) : Prop where
  configPath : p'.configPath = p.configPath
  resolved : p'.resolved fs = p.resolved fs
  held : p'.held = p.held

/-- An operation that fails does not change a project: a path that is set is the one it
    has, and another file is read for it only if its own can be located, or if the other
    one cannot be read or holds nothing new. -/
def Operation.Spares (fs : Files) (p : Project) : Operation → Prop
  | .refresh none => True
  | .refresh (some file) => (∃ path, p.resolved fs = .ok path) ∨
    ∀ c, (Config.loadOrNone fs (some file)).outcome = .ok c → (p.hold c).held = p.held
  | .refreshFromText _ _ => True
  | .setPath path => path = p.configPath

variable {fs : Files} {p : Project} {op : Operation} {e : Failure}

theorem StaysAs.refl (fs : Files) (p : Project) : p.StaysAs fs p :=
  ⟨rfl, rfl, rfl⟩

/-- Holding something else does not move a project. -/
theorem staysAs_hold_iff {c : Option Config} :
    p.StaysAs fs (p.hold c) ↔ (p.hold c).held = p.held :=
  ⟨StaysAs.held, fun h => ⟨rfl, rfl, h⟩⟩

/-- Taking over a reading fails where the reading does, which leaves the project as it
    was, or where the project's file cannot be located, which is noticed only when what
    was read is held. -/
theorem takeOver_error {reading : Logged Failure (Option Config)}
    (h : (p.takeOver fs reading).2.outcome = .error e) :
    (reading.outcome = .error e ∧ (p.takeOver fs reading).1 = p) ∨
    ∃ c u, reading.outcome = .ok c ∧ p.resolved fs = .error u ∧
      (p.takeOver fs reading).1 = p.hold c := by
  unfold takeOver at h ⊢
  cases hread : reading.outcome with
  | error e' =>
      simp only [hread, Except.error.injEq] at h
      exact Or.inl ⟨congrArg _ h, rfl⟩
  | ok c =>
      cases hpath : p.resolved fs with
      | ok path =>
          simp only [hread, hpath] at h
          cases h
      | error u => exact Or.inr ⟨c, u, rfl, rfl, rfl⟩

/-- A project whose file, or another one that is given, cannot be read is left as it was. If
    another file can be read and the project's own one cannot be located, the project holds
    what the other file says. -/
theorem refresh_error {file : Option Path} (h : (p.refresh fs file).2.outcome = .error e) :
    ((p.readFile fs file).outcome = .error e ∧ (p.refresh fs file).1 = p) ∨
    ∃ given c u, file = some given ∧ (Config.loadOrNone fs (some given)).outcome = .ok c ∧
      p.resolved fs = .error u ∧ (p.refresh fs file).1 = p.hold c := by
  rcases takeOver_error h with hfailed | ⟨c, u, hread, hpath, hhold⟩
  · exact Or.inl hfailed
  · obtain ⟨source, hsource, hload⟩ := readFile_given_ok.mp hread
    cases file with
    | none =>
        -- A project that has read its own file has located it.
        rw [Option.elim_none, hpath] at hsource
        cases hsource
    | some given =>
        obtain rfl : given = source := Except.ok.inj hsource
        exact Or.inr ⟨given, c, u, rfl, hload, hpath, hhold⟩

/-- A project that is refreshed from contents is left as it was. -/
theorem refreshFromText_error {content : Content} {format : ConfigFormat}
    (h : (p.refreshFromText fs content format).2.outcome = .error e) :
    (p.refreshFromText fs content format).1 = p := by
  rcases takeOver_error h with ⟨_, hsame⟩ | ⟨c, u, hread, hpath, _⟩
  · exact hsame
  · -- Contents are read only where the project's file has been located.
    rw [Logged.outcome_bind] at hread
    obtain ⟨path, hlocated, _⟩ := Except.bind_ok.mp hread
    rw [Logged.liftExcept, hpath] at hlocated
    cases hlocated

/-- A project whose path is set has the new path, and holds what it held. -/
theorem setPath_error {path : Path} (h : (p.setPath fs path).2.outcome = .error e) :
    (p.setPath fs path).1 = { p with configPath := path } := by
  rcases refresh_error h with ⟨_, hsame⟩ | ⟨_, _, _, hnone, _⟩
  · exact hsame
  · cases hnone

/-- A path is set although the file there comes to an integer that is too long. -/
theorem setPath_tooManyDigits {path place : Path} {d : Text.TooManyDigits}
    (hpath : resolved fs { p with configPath := path } = .ok place)
    (hload : Config.load fs (some place) = .error (.tooManyDigits d)) :
    p.perform fs (.setPath path)
      = ({ p with configPath := path }, Logged.fail (.tooManyDigits d)) := by
  -- The file is found under the new path, and its integer is reported as it is.
  have hread : readFile fs none { p with configPath := path } = Logged.fail (.tooManyDigits d) := by
    have hlocated : Logged.liftExcept ((resolved fs { p with configPath := path }).mapError
        Failure.unusable) = ⟨[], .ok place⟩ := by
      rw [hpath]
      rfl
    simp only [readFile, Option.elim_none, hlocated, Logged.bind_ok, Config.loadOrNone, hload]
    rfl
  simp only [perform, setPath, refresh, takeOver, hread, Logged.fail]

/-- An operation that fails leaves a project as it was if and only if it spares it. -/
theorem staysAs_iff_spares (h : (p.perform fs op).2.outcome = .error e) :
    p.StaysAs fs (p.perform fs op).1 ↔ op.Spares fs p := by
  cases op with
  | refreshFromText content format =>
      have hsame : (p.perform fs (.refreshFromText content format)).1 = p :=
        refreshFromText_error h
      rw [hsame]
      exact iff_of_true (.refl fs p) trivial
  | setPath path =>
      have hmoved : (p.perform fs (.setPath path)).1 = { p with configPath := path } :=
        setPath_error h
      rw [hmoved]
      constructor
      -- A path that is stored is another one, unless it is the one that was there.
      · exact StaysAs.configPath
      · rintro rfl
        exact .refl fs p
  | refresh file =>
      rcases refresh_error h with ⟨hread, hsame⟩ | ⟨given, c, u, rfl, hload, hpath, hhold⟩
      · have hkept : (p.perform fs (.refresh file)).1 = p := hsame
        rw [hkept]
        refine iff_of_true (.refl fs p) ?_
        cases file with
        | none => trivial
        | some given =>
            -- The other file is one that cannot be read.
            refine Or.inr fun c hload => ?_
            rw [readFile_given_ok.mpr ⟨given, rfl, hload⟩] at hread
            cases hread
      · have hheld : (p.perform fs (.refresh (some given))).1 = p.hold c := hhold
        rw [hheld, staysAs_hold_iff]
        constructor
        · intro hsame
          refine Or.inr fun d hd => ?_
          obtain rfl : c = d := Except.ok.inj (hload.symm.trans hd)
          exact hsame
        · rintro (⟨path, hlocated⟩ | hsame)
          · rw [hpath] at hlocated
            cases hlocated
          · exact hsame c hload

/-- A project without a file that can be located: refreshing it fails and spares it, unless
    it is refreshed from another file that says something. -/
theorem staysAs_iff_spares_unlocated :
    let other : Path := ⟨.relative, ["other.ini"]⟩
    let fs := (Files.empty ["proj"]).write other (Utf8.encode "[pytest]\npython_classes=X\n")
    let p : Project := ⟨⟨.root, ["proj"]⟩, ⟨.relative, ["\x00.ini"]⟩, none⟩
    ∃ e, (p.perform fs (.refresh none)).2.outcome = .error e ∧
      p.StaysAs fs (p.perform fs (.refresh none)).1 ∧
      (p.perform fs (.refresh (some other))).2.outcome = .error e ∧
      ¬Operation.Spares fs p (.refresh (some other)) := by
  intro other fs p
  have hown : (p.perform fs (.refresh none)).2.outcome
      = .error (.unusable ⟨p.root.join p.configPath⟩) := by decide +kernel
  have hother : (p.perform fs (.refresh (some other))).2.outcome
      = .error (.unusable ⟨p.root.join p.configPath⟩) := by decide +kernel
  refine ⟨_, hown, (staysAs_iff_spares hown).mpr trivial, hother, fun hspared => ?_⟩
  -- The other file says something, so the project holds more than before.
  have hsame := ((staysAs_iff_spares hother).mpr hspared).held
  revert hsame
  decide +kernel

/-- A project is given the path of a file with an integer of 4301 digits. This fails, and the
    project has the new path, which leads to that file, but holds what it held. -/
theorem setPath_ones :
    let place : Path := ⟨.root, ["proj", "pyproject.toml"]⟩
    let file : Path := ⟨.relative, ["pyproject.toml"]⟩
    let fs := (Files.empty ["proj"]).write file
      (Utf8.encode (String.ofList (onesSetting 4301)))
    let p : Project := ⟨⟨.root, ["proj"]⟩, ⟨.relative, ["pytest.ini"]⟩, none⟩
    let q := p.perform fs (.setPath file)
    q.2.outcome = .error (.tooManyDigits ⟨4301⟩) ∧ ¬p.StaysAs fs q.1 ∧
      q.1.configPath = file ∧ q.1.resolved fs = .ok place ∧ q.1.held = p.held := by
  intro place file fs p q
  -- Where the file is and how it is read is seen without a look at the ones.
  have hset {bytes : List UInt8}
      (hparse : Config.parse (.bytes bytes) .toml (some place) = .error (.tooManyDigits ⟨4301⟩)) :
      p.perform ((Files.empty ["proj"]).write file bytes) (.setPath file)
        = ({ p with configPath := file }, Logged.fail (.tooManyDigits ⟨4301⟩)) := by
    have hplace : Project.resolved ((Files.empty ["proj"]).write file bytes)
        { p with configPath := file } = .ok place := rfl
    refine setPath_tooManyDigits hplace ?_
    have hformat : ConfigFormat.ofPath? place = some .toml := by decide +kernel
    have hbytes : ((Files.empty ["proj"]).write file bytes).read? place = some bytes := by rfl
    simp only [Config.load, hformat, hbytes, hparse, Except.map]
  have hq : q = ({ p with configPath := file }, Logged.fail (.tooManyDigits ⟨4301⟩)) :=
    hset ((Config.parse_encode _ .toml _).trans (Config.parse_ones (by decide) _))
  rw [hq]
  refine ⟨rfl, fun hsame => ?_, rfl, rfl, rfl⟩
  have hpath : file = p.configPath := hsame.configPath
  revert hpath
  decide

end Project

end NamePatterns
