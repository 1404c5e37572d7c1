import Mathlib.Control.Monad.Basic
import NamePatterns.Proofs.Log.Written

/-!
# Logging Options Before and Behind a Command

What logging options mean in front of a command, and right behind it.

Both the program and its commands have the logging options. A value in front of
the command is checked and then dropped, since the command comes with values of
its own. A value right behind the command counts unless a later word gives
another one. Where the options stand changes nothing else: the command is the
same, and so are its output and its exit. Only the log tells the two apart, and
just where the options show other records, or show some in another form.

Words are read in two steps: first each of them is told to be an option or not,
then options and operands are sorted. `Opens` says of words that both steps deal
with them before they come to what follows, so that they can stand in front of
any command line. For one option it is computed from the specifications, and an
induction over the words does the rest.

## Main definitions

* `CommandLine.logSettings`: The logging options in their spellings, with values.
* `CommandLine.LogWords`: Logging options as words.
* `CommandLine.Spec.Opens`: Words that are read in front of whatever follows them.

## Theorems

* `CommandLine.Spec.opens_logWords`: Logging options are read in front of what follows.
* `CommandLine.Spec.Opens.read`: What such words add to a reading.
* `CommandLine.LogWords.given_flag`, `CommandLine.job_give`: Logging options
  give values to themselves only, and change no job.
* `CommandLine.Invocation.read_before`: Options before the command are dropped.
* `CommandLine.Invocation.read_behind`: Options right behind it are kept.
* `CommandLine.setup_give`, `CommandLine.conclude_setup`: What a setup changes.
* `CommandLine.run_logWords`: When the place of the options makes no difference.
-/

namespace NamePatterns

namespace CommandLine

/-- The values that an option can be given. -/
def Flag.choices (f : Flag) : List String :=
  match f.takes with
  | .choice choices => choices
  | _ => []

/-- The ways to write a logging option, each with its values. The option may be cut
    short, but not before the letter that tells it from the other one. -/
def logSettings : List (Flag × String × String) :=
  [logFormatFlag, logLevelFlag].flatMap fun f =>
    f.spellings.flatMap fun spelling =>
      (List.range (spelling.length - "--log-".length)).flatMap fun n =>
        f.choices.map fun value =>
          (f, String.ofList (spelling.toList.take ("--log-".length + n + 1)), value)

/-- Words that give logging options: each value stands in the word of its option, or
    behind it. -/
inductive LogWords : List String → List Given → Prop
  | nil : LogWords [] []
  | joined {f : Flag} {spelling value : String} {words : List String} {given : List Given} :
      (f, spelling, value) ∈ logSettings → LogWords words given →
        LogWords ((spelling ++ "=" ++ value) :: words) (⟨f, some value⟩ :: given)
  | separate {f : Flag} {spelling value : String} {words : List String} {given : List Given} :
      (f, spelling, value) ∈ logSettings → LogWords words given →
        LogWords (spelling :: value :: words) (⟨f, some value⟩ :: given)

/-- The specifications that the logging options belong to. -/
def specs : List Spec :=
  program :: Command.all.map Command.spec

theorem spec_mem (c : Command) : c.spec ∈ specs := by
  cases c <;> simp [specs, Command.all]

/-- What the program and all commands take the words of a logging option for. -/
structure TakesSetting (s : Spec) (f : Flag) (spelling value : String) : Prop where
  apart : spelling ≠ twoDashes ∧ s.classify spelling = .ok (.option spelling f f.shown none)
  plain : value ≠ twoDashes ∧ s.classify value = .ok (.plain value)
  joined : spelling ++ "=" ++ value ≠ twoDashes ∧
    s.classify (spelling ++ "=" ++ value)
      = .ok (.option (spelling ++ "=" ++ value) f f.shown (some value))
  alone : s.optionsIn f f.shown (some value) = .ok ([], f, some value)
  takes : f.takes.value = true
  given : s.takeAll [] f (some value) = .ok [⟨f, some value⟩]

theorem takes_logSettings : ∀ s ∈ specs, ∀ m ∈ logSettings, TakesSetting s m.1 m.2.1 m.2.2 := by
  -- There are finitely many specifications, spellings and values, so all of it is computed.
  have hall : ∀ s ∈ specs, ∀ m ∈ logSettings,
      (m.2.1 ≠ twoDashes ∧ s.classify m.2.1 = .ok (.option m.2.1 m.1 m.1.shown none)) ∧
        (m.2.2 ≠ twoDashes ∧ s.classify m.2.2 = .ok (.plain m.2.2)) ∧
        (m.2.1 ++ "=" ++ m.2.2 ≠ twoDashes ∧ s.classify (m.2.1 ++ "=" ++ m.2.2)
          = .ok (.option (m.2.1 ++ "=" ++ m.2.2) m.1 m.1.shown (some m.2.2))) ∧
        s.optionsIn m.1 m.1.shown (some m.2.2) = .ok ([], m.1, some m.2.2) ∧
        m.1.takes.value = true ∧ s.takeAll [] m.1 (some m.2.2) = .ok [⟨m.1, some m.2.2⟩] := by
    decide +kernel
  intro s hs m hm
  obtain ⟨hword, hvalue, hboth, hoption, htakes, hgiven⟩ := hall s hs m hm
  exact ⟨hword, hvalue, hboth, hoption, htakes, hgiven⟩

theorem Reading.give_nil (r : Reading) : r.give [] = r :=
  rfl

namespace Spec

variable {s : Spec} {f : Flag} {spelling value : String}

theorem readFrom_joined (h : TakesSetting s f spelling value) {stage : Stage}
    (hstage : stage.atOption = stage) (ws : List Word) :
    s.readFrom stage (.option (spelling ++ "=" ++ value) f f.shown (some value) :: ws)
      = (s.readFrom stage ws).map (·.give [⟨f, some value⟩]) := by
  simp only [readFrom, h.alone, h.takes, h.given, hstage]
  cases s.readFrom stage ws <;> rfl

theorem readFrom_separate (h : TakesSetting s f spelling value) {stage : Stage}
    (hstage : stage.atOption = stage) (ws : List Word) :
    s.readFrom stage (.option spelling f f.shown none :: .plain value :: ws)
      = (s.readFrom stage ws).map (·.give [⟨f, some value⟩]) := by
  simp only [readFrom, optionsIn, h.takes, h.given, hstage]
  cases s.readFrom stage ws <;> rfl

theorem words_cons {w : String} {first : Word} (hdashes : w ≠ twoDashes)
    (hclassify : s.classify w = .ok first) (argv : List String) :
    s.words (w :: argv) = (s.words argv).map (first :: ·) := by
  rw [words, if_neg hdashes, hclassify]

/-- Words that stand for themselves, whatever follows them, and are read in front of it as
    options that are given. -/
def Opens (s : Spec) (words : List String) (gs : List Given) : Prop :=
  ∃ front : List Word, (∀ argv, s.words (words ++ argv) = (s.words argv).map (front ++ ·)) ∧
    ∀ stage ws, stage.atOption = stage →
      s.readFrom stage (front ++ ws) = (s.readFrom stage ws).map (·.give gs)

theorem opens_logWords (hs : s ∈ specs) {words : List String} {gs : List Given}
    (h : LogWords words gs) : s.Opens words gs := by
  induction h with
  | nil =>
      refine ⟨[], fun argv => ?_, fun stage ws _ => ?_⟩
      · cases hwords : s.words argv <;> simp [hwords, Except.map]
      · cases hread : s.readFrom stage ws <;> simp [hread, Except.map, Reading.give_nil]
  | @joined f spelling value words gs hmem _ ih =>
      obtain ⟨front, hwords, hread⟩ := ih
      have htakes := takes_logSettings s hs _ hmem
      refine ⟨.option (spelling ++ "=" ++ value) f f.shown (some value) :: front, ?_, ?_⟩
      · intro argv
        rw [List.cons_append, words_cons htakes.joined.1 htakes.joined.2, hwords]
        cases s.words argv <;> rfl
      · intro stage ws hstage
        rw [List.cons_append, readFrom_joined htakes hstage, hread stage ws hstage]
        cases s.readFrom stage ws <;> rfl
  | @separate f spelling value words gs hmem _ ih =>
      obtain ⟨front, hwords, hread⟩ := ih
      have htakes := takes_logSettings s hs _ hmem
      refine ⟨.option spelling f f.shown none :: .plain value :: front, ?_, ?_⟩
      · intro argv
        rw [List.cons_append, List.cons_append, words_cons htakes.apart.1 htakes.apart.2,
          words_cons htakes.plain.1 htakes.plain.2, hwords]
        cases s.words argv <;> rfl
      · intro stage ws hstage
        rw [List.cons_append, List.cons_append, readFrom_separate htakes hstage,
          hread stage ws hstage]
        cases s.readFrom stage ws <;> rfl

/-- Words that open a command line add what they give, and nothing else. -/
theorem Opens.read {words : List String} {gs : List Given} (h : s.Opens words gs)
    (argv : List String) : s.read (words ++ argv) = (s.read argv).map (·.give gs) := by
  -- What the words give goes to the reading of what follows them. Whether operands are missing
  -- does not depend on that.
  obtain ⟨front, hwords, hread⟩ := h
  unfold Spec.read
  rw [hwords]
  cases s.words argv with
  | error e => rfl
  | ok ws =>
      simp only [Except.map]
      cases s.operand with
      | none => exact hread .after ws rfl
      | command => exact hread .before ws rfl
      | several name purpose =>
          simp only [hread .before ws rfl]
          cases s.readFrom .before ws with
          | error e => rfl
          | ok r =>
              simp only [Except.map]
              show (if r.operands.isEmpty then _ else _) = _
              split <;> rfl

end Spec

/-- Logging options give values to the two logging options only. -/
theorem LogWords.given_flag {words : List String} {gs : List Given} (h : LogWords words gs)
    {g : Given} (hg : g ∈ gs) :
    (g.flag = logFormatFlag ∨ g.flag = logLevelFlag) ∧ ∃ v ∈ g.flag.choices, g.value = some v := by
  have hall : ∀ m ∈ logSettings, (m.1 = logFormatFlag ∨ m.1 = logLevelFlag) ∧
      m.2.2 ∈ m.1.choices := by
    intro m hm
    obtain ⟨f, hf, hm⟩ := List.mem_flatMap.mp hm
    obtain ⟨spelling, _, hm⟩ := List.mem_flatMap.mp hm
    obtain ⟨n, _, hm⟩ := List.mem_flatMap.mp hm
    obtain ⟨value, hvalue, rfl⟩ := List.mem_map.mp hm
    rw [List.mem_cons, List.mem_singleton] at hf
    exact ⟨hf, hvalue⟩
  induction h with
  | nil => cases hg
  | joined hmem _ ih =>
      rcases List.mem_cons.mp hg with rfl | hg
      · exact ⟨(hall _ hmem).1, _, (hall _ hmem).2, rfl⟩
      · exact ih hg
  | separate hmem _ ih =>
      rcases List.mem_cons.mp hg with rfl | hg
      · exact ⟨(hall _ hmem).1, _, (hall _ hmem).2, rfl⟩
      · exact ih hg

namespace Reading

variable {gs : List Given} {f : Flag}

theorem filter_eq_nil (h : ∀ g ∈ gs, g.flag ≠ f) : gs.filter (·.flag = f) = [] := by
  refine List.filter_eq_nil_iff.mpr fun g hg => ?_
  rw [decide_eq_true_eq]
  exact h g hg

theorem has_give (h : ∀ g ∈ gs, g.flag ≠ f) (r : Reading) : (r.give gs).has f = r.has f := by
  have hnone : gs.any (·.flag = f) = false := by
    rw [List.any_eq_false]
    intro g hg
    rw [decide_eq_true_eq]
    exact h g hg
  simp only [has, give, List.any_append, hnone, Bool.false_or]

theorem valueOf_give (h : ∀ g ∈ gs, g.flag ≠ f) (r : Reading) :
    (r.give gs).valueOf f = r.valueOf f := by
  simp only [valueOf, value?, give, List.filter_append, filter_eq_nil h, List.nil_append]

/-- An option has the value that it was given last, and that of a reading counts more
    than one in front of it. -/
theorem valueOf_give_cases (gs : List Given) (f : Flag) (r : Reading) :
    (r.give gs).valueOf f = r.valueOf f ∨
      r.valueOf f = f.otherwise ∧ ∃ g ∈ gs, g.flag = f ∧ (r.give gs).valueOf f = g.value := by
  simp only [valueOf, value?, give, List.filter_append, List.getLast?_append]
  cases (r.given.filter (·.flag = f)).getLast? with
  | some g => exact Or.inl rfl
  | none =>
      cases hlast : (gs.filter (·.flag = f)).getLast? with
      | none => exact Or.inl rfl
      | some g =>
          obtain ⟨hg, hflag⟩ := List.mem_filter.mp (List.mem_of_getLast? hlast)
          exact Or.inr ⟨rfl, g, hg, of_decide_eq_true hflag, rfl⟩

end Reading

section

variable {words : List String} {gs : List Given} (h : LogWords words gs)

include h

theorem LogWords.flag_ne {f : Flag} (hformat : logFormatFlag ≠ f) (hlevel : logLevelFlag ≠ f) :
    ∀ g ∈ gs, g.flag ≠ f := by
  rintro g hg rfl
  rcases (h.given_flag hg).1 with hflag | hflag
  · exact hformat hflag.symm
  · exact hlevel hflag.symm

/-- Logging options do not change what a command has to do. -/
theorem job_give (c : Command) (r : Reading) : (r.give gs).job c = r.job c := by
  have hjson := Reading.has_give (h.flag_ne (f := jsonFlag) (by decide) (by decide)) r
  have hdashes := Reading.has_give (h.flag_ne (f := dashesFlag) (by decide) (by decide)) r
  have hconfig := Reading.valueOf_give (h.flag_ne (f := configFlag) (by decide) (by decide)) r
  have hkind := Reading.valueOf_give (h.flag_ne (f := kindFlag) (by decide) (by decide)) r
  cases c with
  | translate => simp only [Reading.job, hjson, hdashes]; rfl
  | display => simp only [Reading.job, Reading.config, hjson, hconfig]
  | check => simp only [Reading.job, Reading.config, Reading.kind, hjson, hconfig, hkind]; rfl

/-- Logging options in front of the command are dropped. -/
theorem Invocation.read_before (argv : List String) :
    Invocation.read (words ++ argv) = Invocation.read argv := by
  -- The program asks for nothing but its version and the command, and neither is given here.
  have hversion (r : Reading) :=
    Reading.has_give (h.flag_ne (f := versionFlag) (by decide) (by decide)) r
  unfold Invocation.read
  rw [(Spec.opens_logWords List.mem_cons_self h).read]
  cases program.read argv with
  | error e => rfl
  | ok top =>
      refine (Except.ok_bind (top.give gs) _).trans ?_
      simp only [hversion]
      rfl

end

/-- A command has all words behind it, once the program has told its options. -/
theorem Invocation.read_command (c : Command) (argv : List String) :
    Invocation.read (c.name :: argv)
      = match program.words argv with
        | .error e => .error (.refused program e)
        | .ok _ => do
          let sub ← c.spec.read argv
          checkLeftover sub.leftover
          return .run sub.logOptions (sub.job c) := by
  have hname : c.name ≠ twoDashes ∧ program.classify c.name = .ok (.plain c.name) := by
    cases c <;> decide +kernel
  have hread : program.read (c.name :: argv) = match program.words argv with
      | .error e => .error (.refused program e)
      | .ok _ => .ok { operands := c.name :: argv } := by
    unfold Spec.read
    rw [Spec.words_cons hname.1 hname.2]
    cases hwords : program.words argv with
    | error e => rfl
    | ok ws =>
        show program.readFrom .before (.plain c.name :: ws) = _
        -- Behind the command everything is an operand of the program, as it stood.
        rw [← Spec.words_text hwords]
        rfl
  unfold Invocation.read
  rw [hread]
  cases program.words argv with
  | error e => rfl
  | ok ws =>
      simp only [Except.ok_bind, Command.ofName?_name, List.nil_append]
      rfl

/-- Words that open the command line of a command, and are told by the program from what
    follows them, give options of the command right behind it. -/
theorem Invocation.read_behind {words : List String} {gs : List Given} {front : List Word}
    (hprogram : ∀ argv, program.words (words ++ argv) = (program.words argv).map (front ++ ·))
    {c : Command} (h : c.spec.Opens words gs) {argv : List String} {i : Invocation}
    (hread : Invocation.read (c.name :: argv) = .ok i) :
    ∃ sub, c.spec.read argv = .ok sub ∧ i = .run sub.logOptions (sub.job c) ∧
      Invocation.read (c.name :: (words ++ argv))
        = .ok (.run (sub.give gs).logOptions ((sub.give gs).job c)) := by
  rw [read_command] at hread
  rw [read_command, h.read, hprogram]
  cases hall : program.words argv with
  | error e =>
      rw [hall] at hread
      cases hread
  | ok ws =>
      simp only [hall] at hread
      obtain ⟨sub, hsub, hrest⟩ := Except.bind_ok.mp hread
      obtain ⟨_, hleftover, hi⟩ := Except.bind_ok.mp hrest
      refine ⟨sub, hsub, (Except.ok.inj hi).symm, ?_⟩
      simp only [Except.map, hsub, Except.ok_bind]
      -- What is given is no leftover, so there is still none.
      have hleft : checkLeftover (sub.give gs).leftover = .ok () := hleftover
      rw [hleft, Except.ok_bind]
      rfl

/-- The setup that logging options ask for. -/
theorem LogOptions.setup_eq (o : LogOptions) :
    o.setup = match o.format.map LogFormat.ofString with
      | some (.ok form) => .configured form (Log.levelNamed (o.level.getD "")).1
      | _ => {} := by
  unfold setup
  cases o.format with
  | none => rfl
  | some v =>
      simp only [Log.Setup.configure, Log.selectFormat, Option.map_some]
      cases LogFormat.ofString v <;> rfl

/-- Logging options behind the command change no setup, or choose another form and
    another level where these have been chosen anyway. -/
theorem setup_give {words : List String} {gs : List Given} (h : LogWords words gs)
    (r : Reading) :
    r.logOptions.setup = (r.give gs).logOptions.setup ∨
      ∃ form form' : LogFormat, ∃ level ∈ Log.namedLevels.map (·.2),
        ∃ level' ∈ Log.namedLevels.map (·.2), r.logOptions.setup = .configured form level ∧
          (r.give gs).logOptions.setup = .configured form' level' := by
  -- Each form is known under its own name.
  have hname (form : LogFormat) : LogFormat.ofString form.name = .ok form := by
    cases form <;> decide +kernel
  rw [LogOptions.setup_eq, LogOptions.setup_eq]
  rcases Reading.valueOf_give_cases gs logFormatFlag r with heq | ⟨hdefault, g, hg, hflag, heq⟩
  · have hformat : (r.give gs).logOptions.format = r.logOptions.format := heq
    rw [hformat]
    cases r.logOptions.format.map LogFormat.ofString with
    | none => exact Or.inl rfl
    | some form? =>
        cases form? with
        | error e => exact Or.inl rfl
        | ok form =>
            exact Or.inr ⟨form, form, _, levelNamed_mem _, _, levelNamed_mem _, rfl, rfl⟩
  · -- The default is a form that is known, and so is any value of the option.
    have hformat : r.logOptions.format = some LogFormat.text.name := hdefault
    have hchoices : ∀ v ∈ logFormatFlag.choices, ∃ form : LogFormat, v = form.name := by
      intro v hv
      rcases List.mem_cons.mp hv with rfl | hv
      · exact ⟨.text, rfl⟩
      · exact ⟨.json, List.mem_singleton.mp hv⟩
    obtain ⟨v, hv, hvalue⟩ := (h.given_flag hg).2
    rw [hflag] at hv
    obtain ⟨form, rfl⟩ := hchoices v hv
    have hformat' : (r.give gs).logOptions.format = some form.name := heq.trans hvalue
    rw [hformat, hformat', Option.map_some, Option.map_some, hname, hname]
    exact Or.inr ⟨.text, form, _, levelNamed_mem _, _, levelNamed_mem _, rfl, rfl⟩

/-- The log setup shows in what is written about errors only. -/
theorem conclude_setup (s s' : Log.Setup) (moment : Int) (work : Logged Halt Printed) :
    (conclude s moment work).exit = (conclude s' moment work).exit ∧
      (conclude s moment work).console.out = (conclude s' moment work).console.out ∧
      ((conclude s moment work).console.err = (conclude s' moment work).console.err ↔
        logText s moment work.records = logText s' moment work.records) := by
  unfold conclude
  cases work.outcome with
  | ok printed => simp only [Console.echoLines_eq, and_self]
  | error halt =>
      cases halt with
      | failed e => exact ⟨rfl, rfl, Iff.rfl⟩
      | refused code message =>
          -- The same message follows both logs.
          simp only [Console.echo, Console.writeErr, if_true, String.append_left_inj, and_self]

/-- Let a command accept the words behind it. Then it accepts them with logging
    options in front of them as well, and the program accepts these in front of the
    command. Both runs have the same exit and the same output. They write the same
    about errors just if both setups show the same records of the command, in the same
    form unless there are none. In front of the command the options are dropped. -/
theorem run_logWords {words : List String} {gs : List Given} (h : LogWords words gs)
    {c : Command} {argv : List String} {i : Invocation}
    (hread : Invocation.read (c.name :: argv) = .ok i) (fs : Files) {moment : Int}
    {timestamp : String} (htime : Timestamp.text moment = .ok timestamp) :
    ∃ sub, c.spec.read argv = .ok sub ∧
      let before := run fs moment (words ++ c.name :: argv)
      let behind := run fs moment (c.name :: (words ++ argv))
      let dropped := sub.logOptions.setup
      let kept := (sub.give gs).logOptions.setup
      let records := ((sub.job c).execute fs).records
      before.exit = behind.exit ∧ before.console.out = behind.console.out ∧
        (before.console.err = behind.console.err ↔
          dropped.shown records = kept.shown records ∧
            (dropped.shown records = [] ∨ dropped.handlers = kept.handlers)) := by
  obtain ⟨front, hprogram, _⟩ := Spec.opens_logWords (s := program) List.mem_cons_self h
  obtain ⟨sub, hsub, rfl, hbehind⟩ :=
    Invocation.read_behind hprogram (Spec.opens_logWords (spec_mem c) h) hread
  rw [job_give h] at hbehind
  refine ⟨sub, hsub, ?_⟩
  dsimp only
  have hrun : run fs moment (words ++ c.name :: argv)
      = conclude sub.logOptions.setup moment ((sub.job c).execute fs) := by
    unfold run
    rw [Invocation.read_before h, hread]
  have hrun' : run fs moment (c.name :: (words ++ argv))
      = conclude (sub.give gs).logOptions.setup moment ((sub.job c).execute fs) := by
    unfold run
    rw [hbehind]
  rw [hrun, hrun']
  obtain ⟨hexit, hout, herr⟩ := conclude_setup sub.logOptions.setup (sub.give gs).logOptions.setup
    moment ((sub.job c).execute fs)
  refine ⟨hexit, hout, herr.trans ?_⟩
  -- Either the setup is the same, or both are forms and levels that have been chosen.
  rcases setup_give h sub with heq | ⟨form, form', level, hlevel, level', hlevel', heq, heq'⟩
  · rw [← heq]
    exact iff_of_true rfl ⟨rfl, Or.inr rfl⟩
  · have hforms : form = form' ↔
        (Log.Setup.configured form level).handlers
          = (Log.Setup.configured form' level').handlers := by
      rw [Log.Setup.configured, Log.Setup.configured, Log.Setup.setLevel_handlers,
        Log.Setup.setLevel_handlers, List.singleton_inj]
    rw [heq, heq', ← hforms]
    exact logText_eq_iff hlevel hlevel' htime (execute_ours fs (sub.job c))

/-- A command with nothing to report, with options of both kinds. -/
theorem run_logWords_silent :
    let words := ["--log-f=json", "--log-level", "debug"]
    let given : List Given := [⟨logFormatFlag, some "json"⟩, ⟨logLevelFlag, some "debug"⟩]
    let fs := (Files.empty ["proj"]).write ⟨.relative, ["pytest.ini"]⟩ []
    LogWords words given ∧ (Invocation.read (Command.check.name :: ["test_a"])).isOk = true ∧
      Timestamp.text 0 = .ok "1970-01-01T00:00:00+00:00" ∧
      (run fs 0 (words ++ Command.check.name :: ["test_a"])).console.err
        = (run fs 0 (Command.check.name :: (words ++ ["test_a"]))).console.err := by
  intro words given fs
  have hformat : (logFormatFlag, "--log-f", "json") ∈ logSettings := by decide +kernel
  have hlevel : (logLevelFlag, "--log-level", "debug") ∈ logSettings := by decide +kernel
  have hword : "--log-f" ++ "=" ++ "json" = "--log-f=json" := by decide +kernel
  have hwords : LogWords words given := by
    have hjoined := LogWords.joined hformat (.separate hlevel .nil)
    rw [hword] at hjoined
    exact hjoined
  have hisOk : (Invocation.read (Command.check.name :: ["test_a"])).isOk = true := by decide +kernel
  have htime : Timestamp.text 0 = .ok "1970-01-01T00:00:00+00:00" := by decide +kernel
  obtain ⟨i, hread⟩ := exists_of_isOk hisOk
  obtain ⟨sub, hsub, _, _, herr⟩ := run_logWords hwords hread fs htime
  have hsilent : ∃ sub, Command.check.spec.read ["test_a"] = .ok sub ∧
      ((sub.job .check).execute fs).records.length = 0 := by
    decide +kernel
  obtain ⟨sub', hsub', hnone⟩ := hsilent
  obtain rfl : sub = sub' := Except.ok.inj (hsub.symm.trans hsub')
  have hshown (s : Log.Setup) : s.shown ((sub.job .check).execute fs).records = [] := by
    rw [List.length_eq_zero_iff.mp hnone]
    rfl
  have hdropped := hshown sub.logOptions.setup
  have hkept := hshown (sub.give given).logOptions.setup
  have hsame := herr.mpr ⟨hdropped.trans hkept.symm, Or.inl hdropped⟩
  exact ⟨hwords, hisOk, htime, hsame⟩

/-- The report on a missing file is written where its level is asked for behind the
    command, and is lost where it is asked for in front of the command. -/
theorem run_logWords_dropped :
    let words := ["--log-level", "info"]
    let fs := Files.empty ["proj"]
    LogWords words [⟨logLevelFlag, some "info"⟩] ∧
      (run fs 0 (words ++ ["match", "test_a"])).console = ⟨"+ test_a\n", ""⟩ ∧
      (run fs 0 ("match" :: (words ++ ["test_a"]))).console = ⟨"+ test_a\n",
        "[INFO] No pytest config found at /proj/pytest.ini; using pytest defaults\n"⟩ := by
  intro words fs
  have hlevel : (logLevelFlag, "--log-level", "info") ∈ logSettings := by decide +kernel
  have hwords : LogWords words [⟨logLevelFlag, some "info"⟩] := .separate hlevel .nil
  exact ⟨hwords, by decide +kernel, by decide +kernel⟩

end CommandLine

end NamePatterns
