import NamePatterns.Proofs.CommandLine.Placement
import NamePatterns.Proofs.Wildcard.Reports

/-!
# Translating Wildcards in Two Forms

What the command for wildcards prints and reports as text and as JSON.

As text it prints the regular expression, as JSON a document with the fragments
that this is joined of. Exit and regular expression are the same in both forms. The
reports are not: the fragments for the document are translated anew, so each
wildcard that is rejected is reported once more. The two forms write the same about
errors just if no wildcard is rejected or the command does not get that far, since
reports of errors are shown whatever the logging options are.

The regular expression is compiled for both forms, and leaves the reports then.
For the document the fragments are asked for again, since the regular expression
does not keep them; nothing is remembered of the first time, so the reports are
left once more.

## Main definitions

* `CommandLine.translationTable`: What the document shows.

## Theorems

* `CommandLine.Spec.opens_json`: The option for JSON is read in front of what follows.
* `CommandLine.write_error_ne_empty`: Errors are shown in every setup.
* `CommandLine.translate_of_ok`, `CommandLine.translate_of_error`: What the command
  comes to in both forms.
* `CommandLine.Invocation.read_json`: The option for JSON right behind the command.
* `CommandLine.run_translate`: When both forms write the same about errors.
-/

namespace NamePatterns

namespace CommandLine

open Log Wildcard

section

variable {ws : List String} {dashes : Bool}

/-- What the document about a list shows. -/
def translationTable (wildcards : String) (dashes : Bool) (fragments : List String) : Table :=
  [("patterns", .text wildcards), ("word_boundary_dashes", .bool dashes),
    ("fragments", .list (fragments.map .text)), ("regex", .text ("|".intercalate fragments))]

/-- A list that is a regular expression is printed as it is, or as a document with its
    fragments. The document reports each wildcard that is rejected twice. -/
theorem translate_of_ok {m : NameMatcher}
    (h : (compileList dashes (" ".intercalate ws)).outcome = .ok m) :
    ∃ fs : List String,
      (split (" ".intercalate ws)).map (fun w => (compile dashes w).outcome) = fs.map .ok ∧
      translate ws dashes false
        = ⟨rejections dashes (" ".intercalate ws), .ok ⟨["|".intercalate fs], true⟩⟩ ∧
      translate ws dashes true
        = ⟨rejections dashes (" ".intercalate ws) ++ rejections dashes (" ".intercalate ws),
          .ok ⟨Rows.renderTable true (translationTable (" ".intercalate ws) dashes fs), true⟩⟩ := by
  obtain ⟨⟨fs, hcompiled, hfragments, hsource⟩, hrecords⟩ := compileList_ok h
  have hlist : ((compileList dashes (" ".intercalate ws)).mapError Halt.ofList).outcome
      = .ok m := by
    rw [Logged.mapError, h]
    rfl
  -- The second translation has the same outcome, and the same records.
  have hagain : ((fragments dashes (" ".intercalate ws)).mapError Halt.ofLimit).outcome
      = .ok fs := by
    rw [Logged.mapError, hfragments]
    rfl
  refine ⟨fs, hcompiled, ?_, ?_⟩
  · unfold translate
    rw [Logged.bind_of_ok hlist, ← hsource, ← hrecords]
    exact congrArg (Logged.mk · _) (List.append_nil _)
  · unfold translate translationTable
    rw [Logged.bind_of_ok hlist, ← hsource]
    simp only [Bool.not_true, Bool.false_eq_true, if_false]
    rw [Logged.bind_of_ok hagain]
    have hfirst : ((compileList dashes (" ".intercalate ws)).mapError Halt.ofList).records
        = rejections dashes (" ".intercalate ws) := hrecords
    have hsecond : ((fragments dashes (" ".intercalate ws)).mapError Halt.ofLimit).records
        = rejections dashes (" ".intercalate ws) := fragments_records hfragments
    rw [hfirst, hsecond]
    exact congrArg (fun rs => Logged.mk (_ ++ rs) _) (List.append_nil _)

/-- A list that is no regular expression halts the command in both forms. -/
theorem translate_of_error {e : ListError}
    (h : (compileList dashes (" ".intercalate ws)).outcome = .error e) (json : Bool) :
    translate ws dashes json
      = ⟨(compileList dashes (" ".intercalate ws)).records, .error (.ofList e)⟩ := by
  have hlist : ((compileList dashes (" ".intercalate ws)).mapError Halt.ofList).outcome
      = .error (.ofList e) := by
    rw [Logged.mapError, h]
    rfl
  unfold translate
  rw [Logged.bind_of_error hlist]
  rfl

end

/-- Reports on rejected wildcards are errors of the component for wildcards. -/
theorem of_mem_rejections {dashes : Bool} {wildcards : String} {r : Record}
    (h : r ∈ rejections dashes wildcards) :
    r.logger = Component.patterns.logger ∧ r.level = Level.error ∧ r.IsOurs := by
  obtain ⟨w, _, hw⟩ := List.mem_filterMap.mp h
  unfold rejection? at hw
  split at hw
  · split at hw
    · rw [← Option.some.inj hw]
      exact ⟨rfl, rfl, ⟨.patterns, rfl⟩, rfl⟩
    · cases hw
  · cases hw

/-- Whatever the logging options are, an error is shown. -/
theorem write_error_ne_empty (log : LogOptions) {moment : Int} {timestamp : String}
    (htime : Timestamp.text moment = .ok timestamp) {r : Record}
    (hlogger : r.logger = Component.patterns.logger) (hlevel : r.level = Level.error)
    (hours : r.IsOurs) :
    (log.setup.write ⟨r, moment, none⟩).toOption.getD "" ≠ "" := by
  have hfeed (s : String) : s ++ "\n" ≠ "" := fun h =>
    absurd (String.append_eq_empty_iff.mp h).2 (by decide)
  rw [LogOptions.setup_eq]
  split
  · next form _ =>
      have hmem := levelNamed_mem (log.level.getD "")
      -- No level that can be named is above that of an error.
      have hgrave : ∀ level ∈ namedLevels.map (·.2), level ≤ Level.error := by decide
      have henabled : (Setup.configured form (levelNamed (log.level.getD "")).1).isEnabled
          r.logger r.level = true := by
        rw [hlogger, hlevel, Setup.isEnabled, Setup.effective_configured form hmem,
          decide_eq_true (hgrave _ hmem)]
        rfl
      rw [write_configured form _ htime hours, if_pos henabled]
      exact hfeed _
  -- Where nothing is set up, the message of the error stands alone.
  · have henabled : Setup.isEnabled {} Component.patterns.logger Level.error = true := by
      decide +kernel
    have hoff : Setup.isOurs {} Component.patterns.logger = false := by
      decide +kernel
    simp only [Setup.write, hlogger, hlevel, henabled, hoff]
    exact hfeed _

theorem logText_append (s : Setup) (moment : Int) (rs rs' : List Record) :
    logText s moment (rs ++ rs') = logText s moment rs ++ logText s moment rs' := by
  rw [logText, List.map_append, String.join_append]
  rfl

/-- A log of rejected wildcards is empty just if there are none. -/
theorem logText_rejections_eq_empty_iff (log : LogOptions) {moment : Int} {timestamp : String}
    (htime : Timestamp.text moment = .ok timestamp) {dashes : Bool} {wildcards : String} :
    logText log.setup moment (rejections dashes wildcards) = "" ↔
      rejections dashes wildcards = [] := by
  constructor
  · intro hempty
    cases hreports : rejections dashes wildcards with
    | nil => rfl
    | cons r rs =>
        obtain ⟨hlogger, hlevel, hours⟩ := of_mem_rejections (hreports ▸ List.mem_cons_self)
        rw [hreports, logText, List.map_cons, String.join_cons] at hempty
        exact absurd (String.append_eq_empty_iff.mp hempty).1
          (write_error_ne_empty log htime hlogger hlevel hours)
  · intro hnone
    rw [hnone]
    rfl

/-- The option for JSON is a word of its own for every command, and is read in front of
    whatever follows it. -/
theorem Spec.opens_json (c : Command) : c.spec.Opens ["--json"] [⟨jsonFlag, none⟩] := by
  have hclassify : c.spec.classify "--json" = .ok (.option "--json" jsonFlag "--json" none) := by
    cases c <;> decide +kernel
  refine ⟨[.option "--json" jsonFlag "--json" none], fun argv => ?_, fun stage ws hstage => ?_⟩
  · rw [List.singleton_append, words_cons (by decide) hclassify]
    rfl
  · have hgiven : c.spec.takeAll [] jsonFlag none = .ok [⟨jsonFlag, none⟩] := rfl
    have htakes : jsonFlag.takes.value = false := rfl
    simp only [List.singleton_append, readFrom, optionsIn, htakes, hgiven, hstage]
    cases c.spec.readFrom stage ws <;> rfl

/-- The program tells the option for JSON, which it does not have, from what follows it. -/
theorem Spec.words_json (argv : List String) :
    program.words (["--json"] ++ argv) = (program.words argv).map ([.unknown "--json"] ++ ·) := by
  have hclassify : program.classify "--json" = .ok (.unknown "--json") := by decide +kernel
  rw [List.singleton_append, words_cons (by decide) hclassify]
  rfl

/-- Put right behind the command, the option for JSON asks for the document, and changes
    nothing else. -/
theorem Invocation.read_json {rest ws : List String} {log : LogOptions} {dashes json : Bool}
    (h : Invocation.read (Command.translate.name :: rest)
      = .ok (.run log (.translate ws dashes json))) :
    Invocation.read (Command.translate.name :: "--json" :: rest)
      = .ok (.run log (.translate ws dashes true)) := by
  obtain ⟨sub, _, hi, hread⟩ :=
    Invocation.read_behind Spec.words_json (Spec.opens_json .translate) h
  -- The option gives nothing to any other one.
  have hother {f : Flag} (hf : jsonFlag ≠ f) : ∀ g ∈ [(⟨jsonFlag, none⟩ : Given)], g.flag ≠ f :=
    fun g hg => List.mem_singleton.mp hg ▸ hf
  have hlog : (sub.give [⟨jsonFlag, none⟩]).logOptions = sub.logOptions := by
    rw [Reading.logOptions, Reading.valueOf_give (hother (by decide)),
      Reading.valueOf_give (hother (by decide))]
    rfl
  have hjob : (sub.give [⟨jsonFlag, none⟩]).job .translate
      = .translate sub.operands (sub.has dashesFlag) true := by
    rw [Reading.job, Reading.has_give (hother (by decide))]
    rfl
  injection hi with hsetup hwork
  injection hwork with hws hdashes _
  rw [hsetup, hws, hdashes, ← hlog, ← hjob]
  exact hread

/-- For every list of wildcards, both forms of the command exit alike. Where the list is no
    regular expression, they are the same altogether. Where it is one, it is joined of the
    fragments of its wildcards and is the output as text; the document shows these
    fragments and the regular expression, but reports each wildcard that is rejected twice
    where the text reports it once. So both write the same about errors just if the list is
    no regular expression or none of its wildcards is rejected. The option for JSON right
    behind the command is one way to ask for the second form. -/
theorem run_translate {argv ws : List String} {log : LogOptions} {dashes : Bool}
    (h : Invocation.read argv = .ok (.run log (.translate ws dashes false))) (fs : Files)
    {moment : Int} {timestamp : String} (htime : Timestamp.text moment = .ok timestamp) :
    (∀ rest, argv = Command.translate.name :: rest →
      Invocation.read (Command.translate.name :: "--json" :: rest)
        = .ok (.run log (.translate ws dashes true))) ∧
    ∀ argv', Invocation.read argv' = .ok (.run log (.translate ws dashes true)) →
      let wildcards := " ".intercalate ws
      let reports := logText log.setup moment (rejections dashes wildcards)
      let text := run fs moment argv
      let json := run fs moment argv'
      text.exit = json.exit ∧
        (text.console.err = json.console.err ↔
          (∃ e, (compileList dashes wildcards).outcome = .error e) ∨
            rejections dashes wildcards = []) ∧
        ((∃ e, (compileList dashes wildcards).outcome = .error e) → text = json) ∧
        ∀ m, (compileList dashes wildcards).outcome = .ok m → ∃ fragments : List String,
          (split wildcards).map (fun w => (compile dashes w).outcome) = fragments.map .ok ∧
          text = ⟨⟨"|".intercalate fragments ++ "\n", reports⟩, .ok 0⟩ ∧
          json = ⟨⟨Json.spread (.table (translationTable wildcards dashes fragments)) ++ "\n",
            reports ++ reports⟩, .ok 0⟩ := by
  refine ⟨fun rest hrest => Invocation.read_json (hrest ▸ h), fun argv' h' => ?_⟩
  intro wildcards reports text json
  have htext : text = conclude log.setup moment (translate ws dashes false) := by
    simp only [text, run, h]
    rfl
  have hjson : json = conclude log.setup moment (translate ws dashes true) := by
    simp only [json, run, h']
    rfl
  cases hlist : (compileList dashes wildcards).outcome with
  | error e =>
      have hsame : text = json := by
        rw [htext, hjson, translate_of_error hlist, translate_of_error hlist]
      rw [hsame]
      exact ⟨rfl, iff_of_true rfl (Or.inl ⟨e, rfl⟩), fun _ => rfl, nofun⟩
  | ok m =>
      obtain ⟨fragments, hcompiled, hplain, hdocument⟩ := translate_of_ok hlist
      have hout : text = ⟨⟨"|".intercalate fragments ++ "\n", reports⟩, .ok 0⟩ := by
        rw [htext, hplain]
        simp [conclude, Console.echoLines_eq, reports, wildcards]
      have hout' : json
          = ⟨⟨Json.spread (.table (translationTable wildcards dashes fragments)) ++ "\n",
            reports ++ reports⟩, .ok 0⟩ := by
        rw [hjson, hdocument]
        simp [conclude, Console.echoLines_eq, logText_append, Rows.renderTable, reports,
          wildcards]
      have hempty : reports = "" ↔ rejections dashes wildcards = [] :=
        logText_rejections_eq_empty_iff log htime
      rw [hout, hout']
      refine ⟨rfl, ?_, nofun, fun m' _ => ⟨fragments, hcompiled, rfl, rfl⟩⟩
      -- A log that is its own double is empty, and a rejected wildcard always shows.
      show reports = reports ++ reports ↔ _
      rw [← hempty]
      constructor
      · exact fun heq => Or.inr (String.append_eq_left_iff.mp heq.symm)
      · rintro (⟨e, he⟩ | hnone)
        · cases he
        · rw [hnone]
          rfl

/-- A wildcard with a dash and one whose class stays open, which is not reported. -/
theorem run_translate_open :
    let argv := ["compile", "--log-level", "debug", "--dashes", "Test-*", "[a"]
    let argv' := ["compile", "--json", "--log-level", "debug", "--dashes", "Test-*", "[a"]
    let log : LogOptions := ⟨some "text", some "debug"⟩
    let fs := Files.empty ["proj"]
    Invocation.read argv = .ok (.run log (.translate ["Test-*", "[a"] true false)) ∧
      Timestamp.text 0 = .ok "1970-01-01T00:00:00+00:00" ∧
      (rejections true "Test-* [a").length = 0 ∧
      Invocation.read argv' = .ok (.run log (.translate ["Test-*", "[a"] true true)) ∧
      (run fs 0 argv).exit = (run fs 0 argv').exit ∧
      (run fs 0 argv).console.err = (run fs 0 argv').console.err := by
  intro argv argv' log fs
  have hread : Invocation.read argv = .ok (.run log (.translate ["Test-*", "[a"] true false)) := by
    decide +kernel
  have htime : Timestamp.text 0 = .ok "1970-01-01T00:00:00+00:00" := by decide +kernel
  have hnone : (rejections true "Test-* [a").length = 0 := by decide +kernel
  have hjoined : " ".intercalate ["Test-*", "[a"] = "Test-* [a" := by decide +kernel
  obtain ⟨hjson, hforms⟩ := run_translate hread fs htime
  have hread' := hjson _ rfl
  obtain ⟨hexit, herr, _⟩ := hforms argv' hread'
  rw [hjoined] at herr
  exact ⟨hread, htime, hnone, hread', hexit,
    herr.mpr (Or.inr (List.length_eq_zero_iff.mp hnone))⟩

/-- A wildcard that is rejected is reported once as text and twice as JSON. -/
theorem run_translate_rejected :
    let line := "[ERROR] Wildcard '[]' translated to an invalid regex '[]'; it will match "
      ++ "nothing: unterminated character set at position 0\n"
    let text := run (Files.empty ["proj"]) 0 ["compile", "[]"]
    let json := run (Files.empty ["proj"]) 0 ["compile", "--json", "[]"]
    text.exit = .ok 0 ∧ text.console = ⟨"(?!)\n", line⟩ ∧
      json.exit = .ok 0 ∧ json.console.err = line ++ line := by
  decide +kernel

end CommandLine

end NamePatterns
