import Mathlib.Data.List.Forall2
import NamePatterns.Proofs.Wildcard.Feeds

/-!
# Configurations in Lines

How many lines a configuration is shown in.

A configuration has eight rows, and each of them is written with a line feed behind it. A
row takes several lines if its value has line feeds of its own. Regular expressions and
names of formats have none: wildcards are split at line feeds as at any other blank, and
nothing that a wildcard is written as brings one in. What is left are the path and the
wildcards as they are given, and those are shown twice. So each field has a line of its
own just if neither the path nor the given wildcards have a line feed.

The line feeds are counted, and a text is made of as many lines as it has line
feeds. The count shows how many lines there are too many, but not which of them;
so for one direction the number of lines is compared, and for the other the
lines themselves are given.

## Main definitions

* `Description.text`: A configuration as it is shown.
* `Config.extraFeeds`: How many line feeds there are in the values.
* `Config.FieldPerLine`: A configuration is shown with each field on its own line.

## Theorems

* `CommandLine.conclude_display`: The command for a configuration writes its text.
* `Config.fieldPerLine_iff`: When each field has a line of its own.
-/

namespace NamePatterns

/-- How many line feeds there are in a text that may be absent. -/
def Text.feedsOf (s : Option String) : Nat :=
  (s.map feeds).getD 0

/-- A configuration as it is shown. -/
def Description.text (d : Description) : String :=
  (Console.echoLines {} (Rows.renderTable false d.toTable)).out

namespace Config

/-- How many line feeds there are in the values that are shown of a configuration: those of
    its path, and twice those of its wildcards, which are shown as they are given and as they
    are in force. -/
def extraFeeds (c : Config) : Nat :=
  Text.feedsOf (c.path.map Path.text) + 2 * Text.feedsOf (c.patterns.get .cls)
    + 2 * Text.feedsOf (c.patterns.get .function)

/-- A configuration is shown, and each field has a line of its own: the key, filled up with
    spaces to the longest key, two spaces and the value. -/
def FieldPerLine (c : Config) : Prop :=
  ∃ d, (Held.describe ⟨c, none, none⟩).2.outcome = .ok d ∧
    ∃ lines, Text.MadeOf d.text lines ∧
      List.Forall₂ (fun line m => line =
          String.ofList (m.1.toList.rightpad "effective_python_functions".length ' ') ++ "  "
            ++ Rows.shown m.2)
        lines d.toTable

end Config

section

open Text (feeds feedsOf)

theorem Text.feedsOf_eq_zero_iff {s : Option String} :
    feedsOf s = 0 ↔ ∀ t, s = some t → '\n' ∉ t.toList := by
  cases s with
  | none => exact ⟨fun _ => nofun, fun _ => rfl⟩
  | some t =>
      have hcount : feedsOf (some t) = t.toList.count '\n' := rfl
      rw [hcount, List.count_eq_zero]
      constructor
      · rintro h _ ⟨⟩
        exact h
      · exact fun h => h t rfl

/-- No line feeds in the values means none in the path and none in the wildcards. -/
theorem Config.extraFeeds_eq_zero_iff {c : Config} :
    c.extraFeeds = 0 ↔ (∀ path, c.path = some path → '\n' ∉ path.text.toList) ∧
      ∀ kind raw, c.patterns.get kind = some raw → '\n' ∉ raw.toList := by
  have hpath : feedsOf (c.path.map Path.text) = 0 ↔
      ∀ path, c.path = some path → '\n' ∉ path.text.toList := by
    rw [Text.feedsOf_eq_zero_iff]
    constructor
    · exact fun h path hpath => h _ (congrArg (Option.map Path.text) hpath)
    · intro h t ht
      obtain ⟨path, hpath, rfl⟩ := Option.map_eq_some_iff.mp ht
      exact h path hpath
  have hparts : c.extraFeeds = 0 ↔ feedsOf (c.path.map Path.text) = 0 ∧
      feedsOf (c.patterns.get .cls) = 0 ∧ feedsOf (c.patterns.get .function) = 0 := by
    unfold extraFeeds
    omega
  rw [hparts, hpath, Text.feedsOf_eq_zero_iff, Text.feedsOf_eq_zero_iff]
  refine and_congr_right fun _ => ⟨?_, fun h => ⟨h .cls, h .function⟩⟩
  rintro ⟨hclasses, hfunctions⟩ kind
  cases kind with
  | cls => exact hclasses
  | function => exact hfunctions

/-- What is shown of a new configuration: its two regular expressions. -/
theorem Held.describe_fresh {c : Config} {d : Description}
    (h : (Held.describe ⟨c, none, none⟩).2.outcome = .ok d) :
    ∃ m n, (c.matcher .cls).outcome = .ok m ∧ (c.matcher .function).outcome = .ok n ∧
      d = ⟨c, m.source, n.source⟩ := by
  cases hclasses : (c.matcher .cls).outcome with
  | error e =>
      simp only [describe, matcher, kept?, hclasses] at h
      cases h
  | ok m =>
      cases hfunctions : (c.matcher .function).outcome with
      | error e =>
          simp only [describe, matcher, kept?, keep, hclasses, hfunctions] at h
          cases h
      | ok n =>
          simp only [describe, matcher, kept?, keep, hclasses, hfunctions] at h
          exact ⟨m, n, rfl, rfl, (Except.ok.inj h).symm⟩

theorem Rows.feeds_shown_ofOption (s : Option String) :
    feeds (shown (.ofOption s)) = feedsOf s := by
  cases s <;> rfl

theorem Rows.feeds_shown_text (s : String) : feeds (shown (.text s)) = feeds s :=
  rfl

/-- What a row has besides its value is the key and spaces. -/
theorem Rows.feeds_row (width : Nat) {m : String × Value} (h : feeds m.1 = 0) :
    feeds (row width m) = feeds (shown m.2) := by
  have hspaces : feeds (String.ofList (List.replicate (width - m.1.length) ' ')) = 0 := by
    rw [feeds, String.toList_ofList, List.count_eq_zero]
    exact fun hfeed => absurd (List.eq_of_mem_replicate hfeed) (by decide)
  have hgap : feeds "  " = 0 := rfl
  rw [row, Text.feeds_append, Text.feeds_append, Text.feeds_append, h, hspaces, hgap,
    Nat.zero_add]

/-- Rows have the line feeds of their values. -/
theorem Rows.feeds_rows (width : Nat) {t : Table} (h : ∀ m ∈ t, feeds m.1 = 0) :
    feeds (String.join (t.map (row width)))
      = feeds (String.join (t.map fun m => shown m.2)) := by
  induction t with
  | nil => rfl
  | cons m t ih =>
      obtain ⟨hkey, hkeys⟩ := List.forall_mem_cons.mp h
      rw [List.map_cons, List.map_cons, String.join_cons, String.join_cons, Text.feeds_append,
        Text.feeds_append, feeds_row width hkey, ih hkeys]

/-- The default wildcards have no line feeds. -/
theorem Config.feeds_effective (c : Config) (kind : NameKind) :
    feeds (c.effective kind) = feedsOf (c.patterns.get kind) := by
  unfold effective
  cases c.patterns.get kind with
  | none => cases kind <;> rfl
  | some raw => rfl

/-- The keys under which a configuration is shown. -/
theorem Description.keys_toTable (d : Description) :
    d.toTable.map Prod.fst = ["path", "format", "python_classes", "python_functions",
      "effective_python_classes", "effective_python_functions", "classes_regex",
      "functions_regex"] :=
  rfl

/-- The rows of a configuration have the line feeds of its path and of its wildcards. -/
theorem Config.feeds_rows {c : Config} {d : Description}
    (h : (Held.describe ⟨c, none, none⟩).2.outcome = .ok d) :
    feeds (String.join (Rows.ofTable d.toTable)) = c.extraFeeds := by
  -- The keys are the same for all configurations, and none of them has a line feed.
  have hkeys : ∀ m ∈ d.toTable, feeds m.1 = 0 := by
    intro m hm
    have hkey := List.mem_map_of_mem (f := Prod.fst) hm
    rw [Description.keys_toTable] at hkey
    revert hkey
    generalize m.1 = key
    revert key
    decide
  have hformat : feedsOf (c.format.map ConfigFormat.name) = 0 := by
    cases c.format with
    | none => rfl
    | some format => cases format <;> rfl
  obtain ⟨m, n, hm, hn, rfl⟩ := Held.describe_fresh h
  -- Regular expressions bring none in, whatever the wildcards are.
  have hclasses : feeds m.source = 0 := Wildcard.feeds_source hm
  have hfunctions : feeds n.source = 0 := Wildcard.feeds_source hn
  have hempty : feeds "" = 0 := rfl
  rw [Rows.ofTable, Rows.feeds_rows _ hkeys]
  simp only [Description.toTable, List.map_cons, List.map_nil, String.join_cons, String.join_nil,
    Text.feeds_append, Rows.feeds_shown_ofOption, Rows.feeds_shown_text, feeds_effective, hformat,
    hclasses, hfunctions, hempty, extraFeeds, Patterns.get]
  omega

/-- A configuration is shown as its rows, with a line feed behind each of them. -/
theorem Description.text_eq (d : Description) :
    d.text = String.join ((Rows.ofTable d.toTable).map (· ++ "\n")) := by
  rw [text, Console.echoLines_eq, Rows.renderTable, if_neg Bool.false_ne_true,
    String.empty_append]

/-- A row is its key, filled up with spaces to the longest key, two spaces and its value. -/
theorem Description.ofTable_toTable (d : Description) :
    Rows.ofTable d.toTable = d.toTable.map fun m =>
      String.ofList (m.1.toList.rightpad "effective_python_functions".length ' ') ++ "  "
        ++ Rows.shown m.2 := by
  -- The longest key is that of the functions in force.
  have hwidth : Rows.keyWidth d.toTable = "effective_python_functions".length := by
    have hlengths : d.toTable.map (fun m => m.1.length)
        = (d.toTable.map Prod.fst).map String.length := List.map_map.symm
    rw [Rows.keyWidth, hlengths, keys_toTable]
    decide
  rw [Rows.ofTable, hwidth]
  refine List.map_congr_left fun m _ => ?_
  rw [Rows.row, List.rightpad, String.ofList_append, String.ofList_toList]
  rfl

/-- There is one line feed behind each of the eight rows, and those in the values. -/
theorem Config.feeds_text {c : Config} {d : Description}
    (h : (Held.describe ⟨c, none, none⟩).2.outcome = .ok d) :
    feeds d.text = 8 + c.extraFeeds := by
  rw [Description.text_eq, Text.feeds_join, feeds_rows h]
  rfl

/-- Each field of a configuration that is shown has a line of its own just if there are no
    line feeds in the values. -/
theorem Config.fieldPerLine_iff_extraFeeds {c : Config} {d : Description}
    (h : (Held.describe ⟨c, none, none⟩).2.outcome = .ok d) :
    c.FieldPerLine ↔ c.extraFeeds = 0 := by
  constructor
  · rintro ⟨d', hd', lines, hlines, hfields⟩
    obtain rfl : d = d' := Except.ok.inj (h.symm.trans hd')
    -- Eight lines are eight line feeds, so there are none left for the values.
    have hlength := hlines.length
    rw [feeds_text h, hfields.length_eq] at hlength
    have height : d.toTable.length = 8 := rfl
    omega
  · intro hnone
    refine ⟨d, h, Rows.ofTable d.toTable, ⟨d.text_eq, ?_⟩, ?_⟩
    · exact Text.feeds_join_eq_zero_iff.mp ((feeds_rows h).trans hnone)
    · rw [d.ofTable_toTable, List.forall₂_map_left_iff]
      exact List.forall₂_same.mpr fun m _ => rfl

/-- The command for a configuration writes it as it is shown. -/
theorem CommandLine.conclude_display {fs : Files} {file : Option Path} {c : Config}
    {d : Description} (hload : (loadFor fs file).outcome = .ok c)
    (h : (Held.describe ⟨c, none, none⟩).2.outcome = .ok d) (s : Log.Setup) (moment : Int) :
    (conclude s moment (display fs file false)).console.out = d.text ∧
      (conclude s moment (display fs file false)).exit = .ok 0 := by
  have hshown : (display fs file false).outcome = .ok ⟨Rows.renderTable false d.toTable, true⟩ := by
    have hdescribed : ((Held.describe ⟨c, none, none⟩).2.mapError Halt.ofLimit).outcome
        = .ok d := by
      rw [Logged.mapError, h]
      rfl
    unfold display
    rw [Logged.bind_of_ok hload, Logged.bind_of_ok hdescribed]
    rfl
  simp only [conclude, hshown]
  rw [Description.text, Console.echoLines_eq, Console.echoLines_eq]
  exact ⟨rfl, rfl⟩

/-- A configuration is shown with each field on its own line if and only if no wildcard
    exceeds a limit and neither the path nor the wildcards that are given have a line feed.
    Whenever it is shown, the text is made of eight lines, and one more for each line feed in
    the path and two more for each in the wildcards. This is what the command for the
    configuration writes. -/
theorem Config.fieldPerLine_iff (c : Config) :
    (c.FieldPerLine ↔ (∀ kind, Held.WithinLimits ⟨c, none, none⟩ kind) ∧
      (∀ path, c.path = some path → '\n' ∉ path.text.toList) ∧
      ∀ kind raw, c.patterns.get kind = some raw → '\n' ∉ raw.toList) ∧
    ∀ d, (Held.describe ⟨c, none, none⟩).2.outcome = .ok d →
      (∃ lines, (∀ lines', Text.MadeOf d.text lines' ↔ lines' = lines) ∧
        lines.length = 8 + c.extraFeeds) ∧
      ∀ fs file, (CommandLine.loadFor fs file).outcome = .ok c → ∀ s moment,
        (CommandLine.conclude s moment (CommandLine.display fs file false)).console.out
          = d.text := by
  constructor
  -- Without the limits nothing is shown at all; within them, the line feeds decide.
  · rw [← extraFeeds_eq_zero_iff, ← Held.describe_ok_iff (Held.faithful_fresh c)]
    constructor
    · intro hlines
      obtain ⟨d, hd, _⟩ := id hlines
      exact ⟨⟨d, hd⟩, (fieldPerLine_iff_extraFeeds hd).mp hlines⟩
    · rintro ⟨⟨d, hd⟩, hnone⟩
      exact (fieldPerLine_iff_extraFeeds hd).mpr hnone
  · intro d hd
    constructor
    · obtain ⟨lines, hlines⟩ := Text.exists_madeOf (Rows.ofTable d.toTable)
      rw [← d.text_eq] at hlines
      refine ⟨lines, fun lines' => ⟨fun hlines' => hlines'.unique hlines, ?_⟩,
        hlines.length.trans (feeds_text hd)⟩
      rintro rfl
      exact hlines
    · exact fun fs file hload s moment => (CommandLine.conclude_display hload hd s moment).1

/-- The default configuration is shown in eight lines. -/
theorem Config.fieldPerLine_default :
    default.FieldPerLine ∧ ∃ d, (Held.describe ⟨default, none, none⟩).2.outcome = .ok d ∧
      ∃ lines, Text.MadeOf d.text lines ∧ lines.length = 8 := by
  obtain ⟨hiff, hlines⟩ := fieldPerLine_iff default
  obtain ⟨d, hd⟩ : ∃ d, (Held.describe ⟨default, none, none⟩).2.outcome = .ok d := ⟨_, rfl⟩
  have hlimits := (Held.describe_ok_iff (Held.faithful_fresh default)).mp ⟨d, hd⟩
  obtain ⟨⟨lines, hmade, hlength⟩, _⟩ := hlines d hd
  refine ⟨hiff.mpr ⟨hlimits, nofun, ?_⟩, d, hd, lines, (hmade lines).mpr rfl, hlength⟩
  intro kind
  cases kind <;> nofun

/-- A file with wildcards on two lines, which are shown on two lines as well, with the second
    of them at the start of the line. -/
theorem Config.fieldPerLine_continued :
    let file : Path := ⟨.root, ["proj", "pytest.ini"]⟩
    let fs := (Files.empty ["proj"]).write ⟨.relative, ["pytest.ini"]⟩
      (Utf8.encode "[pytest]\npython_classes =\n    Suite*\n    Test*\n")
    ∃ c, load fs (some file) = .ok (some c) ∧ c.patterns.classes = some "Suite*\nTest*" ∧
      ¬c.FieldPerLine ∧
      (CommandLine.run fs 0 ["show"]).console.out
        = "path                        /proj/pytest.ini\n"
          ++ "format                      ini\n"
          ++ "python_classes              Suite*\nTest*\n"
          ++ "python_functions            -\n"
          ++ "effective_python_classes    Suite*\nTest*\n"
          ++ "effective_python_functions  test_*\n"
          ++ "classes_regex               Suite.*|Test.*\n"
          ++ "functions_regex             test_.*\n" := by
  intro file fs
  have hclasses : ((load fs (some file)).toOption.join).bind (·.patterns.classes)
      = some "Suite*\nTest*" := by decide +kernel
  cases hload : load fs (some file) with
  | error e =>
      rw [hload] at hclasses
      cases hclasses
  | ok found =>
      rw [hload] at hclasses
      cases found with
      | none => cases hclasses
      | some c =>
          have hraw : c.patterns.get .cls = some "Suite*\nTest*" := hclasses
          refine ⟨c, rfl, hclasses, fun hlines => ?_, by decide +kernel⟩
          obtain ⟨d, hd, _⟩ := id hlines
          have hnone := (fieldPerLine_iff_extraFeeds hd).mp hlines
          exact (extraFeeds_eq_zero_iff.mp hnone).2 .cls _ hraw (by decide)

end

end NamePatterns
