import NamePatterns.Proofs.Config.Wording
import NamePatterns.Proofs.Files.Walk
import NamePatterns.Proofs.Log.Written
import NamePatterns.Proofs.Regex.Quotation
import NamePatterns.Proofs.Text.Utf8
import NamePatterns.Proofs.Toml.Writing
import NamePatterns.Proofs.Wildcard.Feeds

/-!
# A Line for Each Record

When the records of the library take one line each where they are written as text.

A record is written as its level in brackets and its message. So it takes one line if its message
has no line feed. Messages quote wildcards, name files, and tell why something was refused.
Wildcards stand between quotes. What is wrong with a regular expression is told on one line, since
no wildcard of a list has a line feed. What is wrong with contents is told on one line as well,
with one exception: an option whose value gives no wildcards is reported on several.

The exception is a matter of what is read, not of how it is reported. So the
records of a reading are described by one predicate, which takes as its argument
what may be wrong there; the same lemmas then serve a file, contents that stand
for a file and the wildcards that are derived from them, where nothing can be
wrong.

## Main definitions

* `Log.Record.OneLine`: A record takes one line.
* `Log.InLines`: Records take one line each, unless something is wrong.
* `Log.Deed`: What makes the library write records.

## Theorems

* `Log.Record.oneLine_iff`: A record of the library takes one line if its message does.
* `Wildcard.compile_oneLine`: The records of a wildcard.
* `Wildcard.compileListOrNothing_oneLine`: The records of a list of wildcards.
* `Held.matcher_oneLine`: The records of the regular expressions of a
  configuration.
* `Config.load_worded`: When a file is refused on several lines.
* `Config.loadOrNone_inLines`: The records of loading a file.
* `Project.takeOver_inLines`: The records of a reading, and the one behind them.
* `Log.Deed.feeds_of_given`: Paths without line feeds lead to no others.
* `Log.Deed.records_inLines`: The records of what is done.
-/

namespace NamePatterns

open Text (feeds feeds_append_eq_zero feeds_intercalate feeds_ofList_eq_zero feeds_quoted)

namespace Log

/-- A record as one line: its level in brackets, and its message. -/
def Record.line (r : Record) : String :=
  "[" ++ r.levelName ++ "] " ++ r.message

/-- Wherever the record is written as text, it takes one line. -/
def Record.OneLine (r : Record) : Prop :=
  ∀ (s : Setup) (moment : Int), s.handlers = [.text] → s.isOurs r.logger = true →
    s.isEnabled r.logger r.level = true →
      ∃ text, s.write ⟨r, moment, none⟩ = .ok text ∧ Text.MadeOf text [r.line]

/-- What is written of a record as text. -/
theorem write_text {s : Setup} {r : Record} (hform : s.handlers = [.text])
    (hours : s.isOurs r.logger = true) (hshown : s.isEnabled r.logger r.level = true)
    (moment : Int) : s.write ⟨r, moment, none⟩ = .ok (r.line ++ "\n") := by
  unfold Setup.write
  rw [hform, hours, hshown]
  show Except.ok (String.join [r.line ++ "\n"]) = _
  rw [String.join_cons, String.join_nil, String.append_empty]

theorem error_mem_namedLevels : Level.error ∈ namedLevels.map (·.2) := by
  decide

theorem warning_mem_namedLevels : Level.warning ∈ namedLevels.map (·.2) := by
  decide

theorem debug_mem_namedLevels : Level.debug ∈ namedLevels.map (·.2) := by
  decide

/-- The level has no line feed. -/
theorem Record.feeds_line {r : Record} (hlevel : r.level ∈ namedLevels.map (·.2)) :
    feeds r.line = feeds r.message := by
  have hname : feeds ("[" ++ r.levelName ++ "] ") = 0 := by
    have hnames : ∀ level ∈ namedLevels.map (·.2),
        level.name.toOption.map (fun name => feeds ("[" ++ name ++ "] ")) = some 0 := by
      decide
    have hone := hnames _ hlevel
    rw [r.name_level] at hone
    exact Option.some.inj hone
  rw [line, Text.feeds_append, hname, Nat.zero_add]

/-- A record of the library takes one line just if its message has no line feed. -/
theorem Record.oneLine_iff {r : Record} {c : Component} (hlogger : r.logger = c.logger)
    (hlevel : r.level ∈ namedLevels.map (·.2)) : r.OneLine ↔ feeds r.message = 0 := by
  rw [← feeds_line hlevel]
  constructor
  · intro h
    -- At the lowest level that can be asked for, the record is written.
    have hours : (Setup.configured .text Level.debug).isOurs r.logger = true := by
      rw [hlogger]
      exact CommandLine.isOurs_configured _ _ _
    have hshown : (Setup.configured .text Level.debug).isEnabled r.logger r.level = true := by
      have hlowest : ∀ level ∈ namedLevels.map (·.2), Level.debug ≤ level ∧ 0 < level := by
        decide
      obtain ⟨hdebug, hpos⟩ := hlowest _ hlevel
      rw [Setup.isEnabled, hlogger, Setup.effective_configured .text debug_mem_namedLevels c,
        decide_eq_true hpos, decide_eq_true hdebug]
      rfl
    obtain ⟨text, _, hmade⟩ := h _ 0 rfl hours hshown
    exact hmade.feedless _ List.mem_cons_self
  · intro h s moment hform hours hshown
    refine ⟨_, write_text hform hours hshown moment, ?_, ?_⟩
    · rw [List.map_singleton, String.join_cons, String.join_nil, String.append_empty]
    · exact List.forall_mem_singleton.mpr h

/-- Records take one line each, unless something is wrong. Then a warning takes several. -/
structure InLines (wrong : Prop) (records : List Record) : Prop where
  /-- All records take one line each just if nothing is wrong. -/
  each : (∀ r ∈ records, r.OneLine) ↔ ¬wrong
  /-- Those that are no warnings do in any case. -/
  others : ∀ r ∈ records, r.level ≠ Level.warning → r.OneLine

namespace InLines

variable {wrong : Prop} {records : List Record} {r : Record}

theorem of_forall (h : ∀ r ∈ records, r.OneLine) (hright : ¬wrong) : InLines wrong records :=
  ⟨iff_of_true h hright, fun r hr _ => h r hr⟩

theorem nil (hright : ¬wrong) : InLines wrong [] :=
  of_forall nofun hright

/-- A warning on something wrong. -/
theorem warning (hlevel : r.level = Level.warning) (h : r.OneLine ↔ ¬wrong) :
    InLines wrong [r] := by
  refine ⟨List.forall_mem_singleton.trans h, ?_⟩
  rw [List.forall_mem_singleton]
  exact fun hother => absurd hlevel hother

/-- One more line behind others. -/
theorem concat (h : InLines wrong records) (hr : r.OneLine) : InLines wrong (records ++ [r]) := by
  have hlast {p : Record → Prop} (hp : p r) :
      (∀ r' ∈ records ++ [r], p r') ↔ ∀ r' ∈ records, p r' := by
    rw [List.forall_mem_append, List.forall_mem_singleton]
    exact and_iff_left hp
  exact ⟨(hlast hr).trans h.each, (hlast fun _ => hr).mpr h.others⟩

end InLines

end Log

open Log (InLines)

section

variable {dashes : Bool} {w wildcards regex message : String} {e : Regex.SyntaxError}

/-- A report on wildcards takes one line if its message does. -/
theorem Wildcard.report_oneLine (h : feeds message = 0) :
    (report wildcards regex message).OneLine :=
  (Log.Record.oneLine_iff (c := .patterns) rfl Log.error_mem_namedLevels).mpr h

/-- The report on a wildcard takes one line if the reason for it does. -/
theorem Wildcard.rejectionRecord_oneLine (h : feeds (e.message regex) = 0) :
    (rejectionRecord w regex e).OneLine := by
  refine report_oneLine ?_
  have hfront : feeds ("Wildcard " ++ Text.quoted w ++ " translated to an invalid regex "
      ++ Text.quoted regex) = 0 :=
    feeds_append_eq_zero (feeds_append_eq_zero (feeds_append_eq_zero rfl (feeds_quoted w))
      (feeds_ofList_eq_zero (by decide))) (feeds_quoted regex)
  exact feeds_append_eq_zero (feeds_append_eq_zero hfront (feeds_ofList_eq_zero (by decide))) h

/-- The report on a list takes one line if the reason for it does. -/
theorem Wildcard.fallbackRecord_oneLine (h : feeds (e.message regex) = 0) :
    (fallbackRecord wildcards regex e).OneLine := by
  refine report_oneLine ?_
  have hfront : feeds ("Unable to compile wildcards " ++ Text.quoted wildcards) = 0 :=
    feeds_append_eq_zero (feeds_ofList_eq_zero (by decide)) (feeds_quoted wildcards)
  exact feeds_append_eq_zero (feeds_append_eq_zero hfront (feeds_ofList_eq_zero (by decide))) h

/-- The reports on a wildcard without line feeds take one line each. -/
theorem Wildcard.compile_oneLine (hw : feeds w = 0) :
    ∀ r ∈ (compile dashes w).records, r.OneLine := by
  intro r hr
  rw [compile_records, Option.mem_toList] at hr
  unfold rejection? at hr
  split at hr
  · split at hr
    -- The wildcard is quoted, and what is wrong with it is told of the regular expression.
    · next e hparse =>
        obtain rfl := Option.some.inj hr
        exact rejectionRecord_oneLine (Regex.feeds_message_of_parse (feeds_translate hw) hparse)
    · cases hr
  · cases hr

/-- What is refused as no regular expression is what the fragments of the list are joined to. -/
theorem Wildcard.feeds_message_of_rejected {ws : String}
    (h : (compileList dashes wildcards).outcome = .error (.rejected ws regex e)) :
    feeds (e.message regex) = 0 := by
  cases hfragments : (fragments dashes wildcards).outcome with
  | error limit =>
      rw [compileList_of_error hfragments] at h
      cases h
  | ok fs =>
      rw [compileList_outcome hfragments] at h
      cases hparse : Regex.parse ("|".intercalate fs).toList with
      | ok tree =>
          rw [hparse] at h
          cases h
      | error refusal =>
          rw [hparse] at h
          cases refusal with
          | malformed e' =>
              cases h
              exact Regex.feeds_message_of_parse (feeds_joined hfragments) hparse
          | beyondLimit e' => cases h

/-- The reports on a list of wildcards take one line each, whatever the list is. -/
theorem Wildcard.compileListOrNothing_oneLine (dashes : Bool) (wildcards : String) :
    ∀ r ∈ (compileListOrNothing dashes wildcards).records, r.OneLine := by
  have hlist : ∀ r ∈ (compileList dashes wildcards).records, r.OneLine :=
    forall_records_compileList fun w hw => compile_oneLine (feeds_of_mem_split hw)
  unfold compileListOrNothing
  dsimp only
  split
  · exact hlist
  · next ws regex e hrejected =>
      refine List.forall_mem_append.mpr ⟨hlist, List.forall_mem_singleton.mpr ?_⟩
      exact fallbackRecord_oneLine (feeds_message_of_rejected hrejected)
  · exact hlist

/-- The reports on the regular expressions of a configuration take one line each. -/
theorem Held.matcher_oneLine (h : Held) (kind : NameKind) :
    ∀ r ∈ (h.matcher kind).2.records, r.OneLine := by
  have hderived : ∀ r ∈ (h.config.matcher kind).records, r.OneLine :=
    Wildcard.compileListOrNothing_oneLine kind.dashes (h.config.effective kind)
  unfold matcher
  split
  · exact nofun
  · dsimp only
    split <;> exact hderived

end

/-- A file that a configuration is looked for in has an option whose value gives no wildcards. -/
def Files.HasWrongOption (fs : Files) (p : Path) : Prop :=
  ∃ format bytes, ConfigFormat.ofPath? p = some format ∧ fs.read? p = some bytes ∧
    (Content.bytes bytes).HasWrongOption format

section

variable {fs : Files} {path : Option Path} {wrong : Prop}

/-- The report on a file that counts as holding no configuration takes one line if the reason
    for it does. -/
theorem Config.ignoredRecord_oneLine_iff (c : Log.Component) (format : Option ConfigFormat)
    (e : InvalidConfig) :
    (ignoredRecord c path format e).OneLine ↔ feeds e.message = 0 := by
  have hfront : feeds "Ignoring unreadable pytest config: " = 0 :=
    feeds_ofList_eq_zero (by decide)
  have hmessage : feeds (ignoredRecord c path format e).message = feeds e.message := by
    rw [ignoredRecord, Text.feeds_append, hfront, Nat.zero_add]
  rw [← hmessage]
  exact Log.Record.oneLine_iff rfl Log.warning_mem_namedLevels

/-- The report on a reading takes one line if the path does. -/
theorem Project.refreshedRecord_oneLine {p : Path} (h : feeds p.text = 0) (changed : Bool) :
    (refreshedRecord p changed).OneLine := by
  refine (Log.Record.oneLine_iff (c := .services) rfl Log.debug_mem_namedLevels).mpr ?_
  exact feeds_append_eq_zero (feeds_ofList_eq_zero (by decide)) h

/-- A file is refused on several lines just if it has a wrong option. -/
theorem Config.load_worded (hpath : ∀ p, path = some p → feeds p.text = 0) :
    Config.Worded (∃ p, path = some p ∧ fs.HasWrongOption p) (Config.load fs path) := by
  cases path with
  | none => exact fun h => nomatch h
  | some p =>
      have hwrong : (∃ q, some p = some q ∧ fs.HasWrongOption q) ↔ fs.HasWrongOption p := by
        simp only [Option.some.injEq, exists_eq_left']
      rw [hwrong]
      unfold Config.load
      dsimp only
      split
      · next format bytes hformat hbytes =>
          have hcontents : fs.HasWrongOption p ↔ (Content.bytes bytes).HasWrongOption format := by
            simp [Files.HasWrongOption, hformat, hbytes]
          rw [hcontents]
          exact (Config.parse_worded hpath _ format).map _
      · next hneither =>
          rintro ⟨format, bytes, hformat, hbytes, _⟩
          exact hneither format bytes hformat hbytes

/-- The records of loading a file. -/
theorem Config.loadOrNone_inLines (hpath : ∀ p, path = some p → feeds p.text = 0) :
    InLines (∃ p, path = some p ∧ fs.HasWrongOption p) (Config.loadOrNone fs path).records := by
  have hworded : Config.Worded (∃ p, path = some p ∧ fs.HasWrongOption p) (Config.load fs path) :=
    Config.load_worded hpath
  unfold Config.loadOrNone
  cases hload : Config.load fs path with
  | ok c =>
      rw [hload] at hworded
      exact .nil hworded
  | error e =>
      rw [hload] at hworded
      cases e with
      | invalid e => exact .warning rfl ((ignoredRecord_oneLine_iff _ _ _).trans hworded)
      | tooManyDigits e => exact .nil hworded

namespace Project

variable {p : Project}

/-- A reading that is taken over is reported behind its own records. -/
theorem takeOver_inLines {reading : Logged Failure (Option Config)}
    (h : InLines wrong reading.records)
    (hplace : ∀ q, p.resolved fs = .ok q → feeds q.text = 0) :
    InLines wrong (p.takeOver fs reading).2.records := by
  unfold takeOver
  -- A reading that fails is not taken over, and leaves its own records only.
  cases reading.outcome with
  | error e => exact h
  | ok c =>
      cases hresolved : p.resolved fs with
      | error e => exact h
      | ok q => exact h.concat (refreshedRecord_oneLine (hplace q hresolved) _)

/-- The records of reading the file of a project, or a file that is given. -/
theorem readFile_inLines (file : Option Path)
    (hread : ∀ q, file.elim (p.resolved fs) .ok = .ok q → feeds q.text = 0) :
    InLines (∃ q, file.elim (p.resolved fs) .ok = .ok q ∧ fs.HasWrongOption q)
      (p.readFile fs file).records := by
  unfold readFile
  cases hplace : file.elim (p.resolved fs) .ok with
  | error e =>
      refine .nil ?_
      rintro ⟨q, hq, _⟩
      cases hq
  | ok q =>
      have hwrong : (∃ q', (Except.ok q : Except UnusablePath Path) = .ok q' ∧
          fs.HasWrongOption q') ↔ ∃ q', some q = some q' ∧ fs.HasWrongOption q' := by
        simp only [Option.some.injEq, Except.ok.injEq]
      rw [hwrong]
      exact Config.loadOrNone_inLines fun q' hq' => Option.some.inj hq' ▸ hread q hplace

/-- The records of reading contents that stand for a file. -/
theorem readContent_inLines {q : Path} (hq : feeds q.text = 0) (content : Content)
    (format : ConfigFormat) :
    InLines (content.HasWrongOption format) (readContent content format q).records := by
  have hpath : ∀ p, some q = some p → feeds p.text = 0 := by
    rintro p ⟨⟩
    exact hq
  have hworded := Config.parse_worded hpath content format
  unfold readContent
  cases hparse : Config.parse content format (some q) with
  | ok c =>
      rw [hparse] at hworded
      exact .nil hworded
  | error e =>
      rw [hparse] at hworded
      cases e with
      | invalid e =>
          exact .warning rfl ((Config.ignoredRecord_oneLine_iff _ _ _).trans hworded)
      | tooManyDigits e => exact .nil hworded

end Project

end

/-- A path whose parts have no line feeds has none. -/
theorem Path.feeds_text {p : Path} (h : ∀ part ∈ p.parts, feeds part = 0) : feeds p.text = 0 := by
  have hparts : feeds ("/".intercalate p.parts) = 0 := feeds_intercalate rfl h
  unfold text
  split
  · rfl
  · exact hparts
  · exact feeds_append_eq_zero rfl hparts
  · exact feeds_append_eq_zero rfl hparts

namespace Log

/-- What makes the library write records. -/
inductive Deed where
  /-- A configuration is loaded, and an invalid one counts as none. -/
  | load (path : Option Path)
  /-- A project is created. -/
  | create (root configPath : Path)
  /-- A project is refreshed, from its file or from one that is given. -/
  | refresh (p : Project) (file : Option Path)
  /-- A project is refreshed from contents. -/
  | refreshFromText (p : Project) (content : Content) (format : ConfigFormat)
  /-- A regular expression is derived from a configuration. -/
  | derive (h : Held) (kind : NameKind)

namespace Deed

/-- The records that are written, whether what is done succeeds or fails. -/
def records (fs : Files) : Deed → List Record
  | load path => (Config.loadOrNone fs path).records
  | create root configPath => (Project.create fs root configPath).records
  | refresh p file => (p.refresh fs file).2.records
  | refreshFromText p content format => (p.refreshFromText fs content format).2.records
  | derive h kind => (h.matcher kind).2.records

/-- A path is one that is read from or reported on. -/
def Concerns (fs : Files) : Deed → Path → Prop
  | load path, q => path = some q
  | create root configPath, q => Project.resolved fs ⟨root, configPath, none⟩ = .ok q
  | refresh p file, q => file = some q ∨ p.resolved fs = .ok q
  | refreshFromText p _ _, q => p.resolved fs = .ok q
  | derive _ _, _ => False

/-- The paths that are given. -/
def given : Deed → List Path
  | load path => path.toList
  | create root configPath => [root, configPath]
  | refresh p file => p.root :: p.configPath :: file.toList
  | refreshFromText p _ _ => [p.root, p.configPath]
  | derive _ _ => []

/-- What is read has an option whose value gives no wildcards. -/
def ReadsWrongOption (fs : Files) : Deed → Prop
  | load path => ∃ q, path = some q ∧ fs.HasWrongOption q
  | create root configPath =>
    ∃ q, Project.resolved fs ⟨root, configPath, none⟩ = .ok q ∧ fs.HasWrongOption q
  | refresh p file => ∃ q, file.elim (p.resolved fs) .ok = .ok q ∧ fs.HasWrongOption q
  | refreshFromText p content format =>
    (∃ q, p.resolved fs = .ok q) ∧ content.HasWrongOption format
  | derive _ _ => False

/-- If neither the paths that are given nor the working directory have line feeds, no path that is
    read from or reported on has one. -/
theorem feeds_of_given {fs : Files} {d : Deed} (hworking : ∀ part ∈ fs.working, feeds part = 0)
    (hgiven : ∀ p ∈ d.given, ∀ part ∈ p.parts, feeds part = 0) :
    ∀ q, d.Concerns fs q → feeds q.text = 0 := by
  -- The place is made of parts of the working directory, of the root and of the path.
  have hresolved {p : Project} {q : Path} (hroot : ∀ part ∈ p.root.parts, feeds part = 0)
      (hconfig : ∀ part ∈ p.configPath.parts, feeds part = 0) (hq : p.resolved fs = .ok q) :
      feeds q.text = 0 := by
    refine Path.feeds_text fun part hpart => ?_
    rcases Files.mem_of_locate hq hpart with hpart | hpart
    · exact hworking part hpart
    · exact (Path.mem_parts_join hpart).elim (hroot part) (hconfig part)
  intro q hq
  cases d with
  | load path => exact Path.feeds_text (hgiven q (Option.mem_toList.mpr hq))
  | create root configPath =>
      exact hresolved (hgiven root List.mem_cons_self)
        (hgiven configPath (List.mem_cons_of_mem _ List.mem_cons_self)) hq
  | refresh p file =>
      rcases hq with hfile | hplace
      · exact Path.feeds_text (hgiven q
          (List.mem_cons_of_mem _ (List.mem_cons_of_mem _ (Option.mem_toList.mpr hfile))))
      · exact hresolved (hgiven p.root List.mem_cons_self)
          (hgiven p.configPath (List.mem_cons_of_mem _ List.mem_cons_self)) hplace
  | refreshFromText p content format =>
      exact hresolved (hgiven p.root List.mem_cons_self)
        (hgiven p.configPath (List.mem_cons_of_mem _ List.mem_cons_self)) hq
  | derive held kind => cases hq

/-- If no path that is read from or reported on has a line feed, all records take one line each
    just if what is read has no wrong option. The records that are no warnings do in any case. -/
theorem records_inLines {fs : Files} {d : Deed} (h : ∀ q, d.Concerns fs q → feeds q.text = 0) :
    InLines (d.ReadsWrongOption fs) (d.records fs) := by
  cases d with
  | load path => exact Config.loadOrNone_inLines h
  | create root configPath =>
      let p : Project := ⟨root, configPath, none⟩
      -- Creating a project reads its file and reports nothing else.
      have hread : (Project.create fs root configPath).records = (p.readFile fs none).records :=
        congrArg Logged.records (Logged.bind_return _ _)
      have hlines : InLines (∃ q, p.resolved fs = .ok q ∧ fs.HasWrongOption q)
          (p.readFile fs none).records := by
        refine Project.readFile_inLines none ?_
        exact h
      rw [records, hread]
      exact hlines
  | refresh p file =>
      -- The file that is read may be another one than that of the project, which is reported on.
      refine Project.takeOver_inLines (Project.readFile_inLines file fun q hq => h q ?_)
        fun q hq => h q (Or.inr hq)
      cases file with
      | none => exact Or.inr hq
      | some given => exact Or.inl (congrArg some (Except.ok.inj hq))
  | refreshFromText p content format =>
      refine Project.takeOver_inLines ?_ h
      cases hplace : p.resolved fs with
      | error e =>
          refine .nil ?_
          rintro ⟨⟨q, hq⟩, _⟩
          rw [hplace] at hq
          cases hq
      | ok q =>
          have hwrong : (Deed.refreshFromText p content format).ReadsWrongOption fs ↔
              content.HasWrongOption format :=
            and_iff_right ⟨q, hplace⟩
          rw [hwrong]
          exact Project.readContent_inLines (h q hplace) content format
  | derive held kind => exact .of_forall (held.matcher_oneLine kind) id

/-- A project whose file has a line of no known kind. The line is quoted, and so its tab is
    written by a letter. -/
theorem records_inLines_unreadable :
    let file : Path := ⟨.relative, ["pytest.ini"]⟩
    let fs := (Files.empty ["proj"]).write file (Utf8.encode "no\tvalue")
    let d := Deed.refresh ⟨⟨.root, ["proj"]⟩, file, none⟩ none
    (∀ q, d.Concerns fs q → feeds q.text = 0) ∧
      InLines (d.ReadsWrongOption fs) (d.records fs) ∧
      (d.records fs).map Record.line =
        ["[WARNING] Ignoring unreadable pytest config: Invalid pytest configuration in "
            ++ "/proj/pytest.ini: /proj/pytest.ini:1: unexpected line: 'no\\tvalue'",
          "[DEBUG] Refreshed pytest config from /proj/pytest.ini"] := by
  intro file fs d
  have hpaths : ∀ q, d.Concerns fs q → feeds q.text = 0 :=
    feeds_of_given (by decide +kernel) (by decide +kernel)
  exact ⟨hpaths, records_inLines hpaths, by decide +kernel⟩

/-- The value of an option is a number. -/
theorem records_wrongOption :
    let file : Path := ⟨.relative, ["pyproject.toml"]⟩
    let text := "[tool.pytest.ini_options]\npython_classes = 1\n"
    let fs := (Files.empty ["proj"]).write file (Utf8.encode text)
    let d := Deed.load (some file)
    (∀ q, d.Concerns fs q → feeds q.text = 0) ∧ ¬∀ r ∈ d.records fs, r.OneLine := by
  intro file text fs d
  have hpaths : ∀ q, d.Concerns fs q → feeds q.text = 0 :=
    feeds_of_given (by decide +kernel) (by decide +kernel)
  let t : Table := [("python_classes", .int 1)]
  have hparse : Toml.parse text.toList = .ok (Toml.optionTable .cls (.int 1)) := by
    have htext : text.toList = Toml.optionText .cls ['1'] := by
      decide +kernel
    rw [htext]
    exact Toml.parse_optionText .cls (by decide) rfl rfl
  have hleads : Table.Leads (Toml.optionTable .cls (.int 1)) tomlTable t :=
    .step rfl (.step rfl (.step rfl (.refl t)))
  have hwrong : Options.Wrong t .cls (.int 1) := Options.field?_error_iff.mp rfl
  have hformat : ConfigFormat.ofPath? file = some .toml := by
    decide +kernel
  have htext : (Content.bytes (Utf8.encode text)).text? = some text := by
    rw [Content.text?, Utf8.decode_encode]
    rfl
  have hfile : fs.HasWrongOption file :=
    ⟨.toml, Utf8.encode text, hformat, by rfl, rfl, text, _, htext, hparse, t, _, _, hleads, hwrong⟩
  exact ⟨hpaths, fun hlines => (Config.loadOrNone_inLines hpaths).each.mp hlines ⟨file, rfl, hfile⟩⟩

end Deed

end Log

end NamePatterns
