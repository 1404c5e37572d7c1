import Mathlib.Data.List.Basic
import NamePatterns.Log.Setup

/-!
# Logs Configured Step by Step

What a row of calls that configure the log leaves behind.

A call reads the form and the level that are asked for, and then changes the setup in five
steps. The steps themselves cannot fail. Both readings come before the first of them, so a
call that is refused has not changed anything, and a call that has begun to change the setup
comes to its end. This is what makes a call all or nothing, though nothing is ever undone.

A call is refused for one of two reasons. The form that counts is none of the two that there
are, or the level is a number that is too long to be written: the call tells the name of its
level, and a level without a name of its own is called by its number. The form is read first,
so where both are wrong it is the form that is reported. A level that is asked for by name is
never refused, as an unknown name stands for the default level.

What a call leaves does not depend on what was there before: one form, no passing on, and one
level for all loggers. So after any row of calls the setup is that of the last one that was
not refused, or the one that was there at first if all of them were. The induction over the
row carries just this, with the start of the rest as the only thing that varies.

## Main definitions

* `Log.Call`: What a call asks for.
* `Log.Call.Unknown`: A form is asked for that is none.
* `Log.Call.Unnamed`: A level is asked for that has no name.
* `Log.Call.perform`: A call, step by step.
* `Log.Setup.performEach`: Calls one after the other, with what they come to.
* `Log.Setup.Holds`: What a call leaves.

## Theorems

* `Log.selectFormat_cases`: What reading the form comes to.
* `Log.selectLevel_cases`: What reading the level comes to.
* `Log.Call.perform_eq`: The steps come to what configuring does at once.
* `Log.Call.perform_holds`: What one call does.
* `Log.Call.refused_known`: A call can be refused whose form is known.
* `Log.Setup.performEach_holds`: What a row of calls leaves.
-/

namespace NamePatterns

/-- A form is read from its name, blanks around it and the case of its letters aside. Any
    other name is refused. -/
theorem LogFormat.ofString_cases (raw : String) :
    (∃ form, LogFormat.ofString raw = .ok form ∧ form.name = normalName raw) ∨
    (LogFormat.ofString raw = .error ⟨"log format", raw⟩ ∧ normalName raw ∉ Log.formatNames) := by
  unfold ofString
  split
  · next h => exact Or.inl ⟨.text, rfl, h.symm⟩
  · next h => exact Or.inl ⟨.json, rfl, h.symm⟩
  · next htext hjson =>
      refine Or.inr ⟨rfl, fun hmem => ?_⟩
      rcases List.mem_cons.mp hmem with h | h
      · exact htext h
      · exact hjson (List.mem_singleton.mp h)

theorem LogFormat.name_mem (form : LogFormat) : form.name ∈ Log.formatNames := by
  cases form <;> decide

namespace Log

/-- What a call asks for: a form and a level, and what the environment has of these. -/
structure Call where
  /-- The form. -/
  format : Option String := none
  /-- The level. -/
  level : Option LevelChoice := none
  /-- The environment. -/
  env : Environment := {}
  deriving DecidableEq, Repr

namespace Call

/-- The form that counts: the one that is given, or else the one in the environment unless
    that is empty. -/
def asked? (c : Call) : Option String :=
  c.format.or (nonempty? c.env.format)

/-- A form is asked for that is none, blanks around it and the case of its letters aside. -/
def Unknown (c : Call) : Prop :=
  ∃ raw, c.asked? = some raw ∧ normalName raw ∉ formatNames

/-- A level is asked for by a number that is too long to be written. -/
def Unnamed (c : Call) : Prop :=
  ∃ level, c.level = some (.number level) ∧ ¬Text.IsShort level

/-- A call, step by step. What is changed before a failure stays changed. -/
def perform (c : Call) : ExceptT Refusal (StateM Setup) Resolved := do
  let form ← ExceptT.mk (pure ((selectFormat c.format c.env).mapError .format))
  let (level, levelName) ← ExceptT.mk (pure ((selectLevel c.level c.env).mapError .level))
  modify fun s => { s with handlers := [] }
  modify fun s => { s with handlers := s.handlers ++ [form] }
  modify fun s => s.setLevel level rootLogger
  modify fun s => { s with propagates := false }
  childLoggers.forM fun child => modify fun s => s.setLevel level child
  return ⟨form, level, levelName⟩

end Call

/-- What reading the form comes to. -/
theorem selectFormat_eq (c : Call) :
    selectFormat c.format c.env = c.asked?.elim (.ok .text) LogFormat.ofString := by
  unfold selectFormat Call.asked?
  cases c.format with
  | some raw => rfl
  | none =>
      cases nonempty? c.env.format with
      | none => rfl
      | some raw => rfl

/-- Reading the form: it is refused just if it is none, and by the name that was given. No form
    at all stands for plain text. -/
theorem selectFormat_cases (c : Call) :
    (c.Unknown ∧ ∃ raw, c.asked? = some raw ∧
      selectFormat c.format c.env = .error ⟨"log format", raw⟩) ∨
    (¬c.Unknown ∧ ∃ form, selectFormat c.format c.env = .ok form ∧
      form.name = c.asked?.elim LogFormat.text.name normalName) := by
  rw [selectFormat_eq]
  unfold Call.Unknown
  cases c.asked? with
  | none => exact Or.inr ⟨nofun, .text, rfl, rfl⟩
  | some raw =>
      simp only [Option.elim_some]
      rcases LogFormat.ofString_cases raw with ⟨form, hok, hname⟩ | ⟨herror, hunknown⟩
      · refine Or.inr ⟨?_, form, hok, hname⟩
        -- The name of a form is one of those that can be asked for.
        rintro ⟨_, ⟨⟩, hunknown⟩
        exact hunknown (hname ▸ form.name_mem)
      · exact Or.inl ⟨⟨raw, rfl, hunknown⟩, raw, rfl, herror⟩

/-- Reading the level: a number is the level, unless it is too long. Names and truth values are
    never refused. -/
theorem selectLevel_cases (c : Call) :
    (c.Unnamed ∧ selectLevel c.level c.env = .error .tooManyDigits) ∨
    (¬c.Unnamed ∧ ∃ choice, selectLevel c.level c.env = .ok choice ∧
      ∀ level, c.level = some (.number level) → choice.1 = level) := by
  unfold selectLevel Call.Unnamed
  cases c.level with
  | none =>
      -- The level comes from the environment or is the default one, so it is a name.
      refine Or.inr ⟨nofun, ?_⟩
      cases nonempty? c.env.level with
      | none => exact ⟨_, rfl, nofun⟩
      | some name => exact ⟨_, rfl, nofun⟩
  | some choice =>
      cases choice with
      | named name => exact Or.inr ⟨nofun, _, rfl, nofun⟩
      | truth b => exact Or.inr ⟨nofun, _, rfl, nofun⟩
      | number level =>
          rcases level.name_cases with ⟨hshort, name, hname⟩ | ⟨hlong, hname⟩
          · refine Or.inr ⟨?_, (level, Level.lower name), ?_, ?_⟩
            · rintro ⟨_, ⟨⟩, hlong⟩
              exact hlong hshort
            · simp only [LevelChoice.resolve, hname]
              rfl
            · rintro _ ⟨⟩
              rfl
          · refine Or.inl ⟨⟨level, rfl, hlong⟩, ?_⟩
            simp only [LevelChoice.resolve, hname]
            rfl

/-- The steps of a call come to what configuring does at once. A failure lies in one of the two
    readings, where the setup is still the one that the call started from. -/
theorem Call.perform_eq (c : Call) (s : Setup) :
    c.perform.run.run s = match s.configure c.format c.level c.env with
      | .error e => (.error e, s)
      | .ok (s', r) => (.ok r, s') := by
  unfold perform Setup.configure
  cases selectFormat c.format c.env with
  | error e => rfl
  | ok form =>
      cases selectLevel c.level c.env with
      | error e => rfl
      | ok choice => rfl

namespace Setup

/-- What a call leaves: one form, no passing on, and one level for all loggers. -/
structure Holds (s : Setup) (r : Resolved) : Prop where
  handlers : s.handlers = [r.format]
  propagates : s.propagates = false
  levels : ∀ logger ∈ rootLogger :: childLoggers, s.ownLevel logger = r.level

/-- Calls one after the other, with what each of them comes to. -/
def performEach (s : Setup) : List Call → Setup × List (Except Refusal Resolved)
  | [] => (s, [])
  | c :: calls =>
    let (result, s) := c.perform.run.run s
    let (s, results) := s.performEach calls
    (s, result :: results)

/-- The level of a logger after one was set. -/
theorem ownLevel_setLevel (s : Setup) (level : Level) (logger other : String) :
    (s.setLevel level logger).ownLevel other
      = if other = logger then level else s.ownLevel other := by
  by_cases hsame : other = logger
  · rw [if_pos hsame, hsame]
    simp only [setLevel, ownLevel, List.find?_cons_of_pos, decide_true, Option.map_some,
      Option.getD_some]
  · rw [if_neg hsame]
    have hne : ¬logger = other := fun h => hsame h.symm
    -- The entry that is dropped is not the one of the other logger.
    have hkept : (s.levels.filter fun m => m.1 != logger).find? (fun m => m.1 = other)
        = s.levels.find? (fun m => m.1 = other) := by
      rw [List.find?_filter]
      congr 1
      funext m
      by_cases hm : m.1 = other
      · simp [hm, hsame]
      · simp [hm]
    simp only [setLevel, ownLevel, List.find?_cons, decide_eq_false hne, hkept]

/-- The level of a logger after several were given one level: the new level if it is one of
    them, or if it had that before. -/
theorem ownLevel_setLevels {level : Level} {loggers : List String} {logger : String} {s : Setup}
    (h : logger ∈ loggers ∨ s.ownLevel logger = level) :
    (loggers.foldl (fun s logger => s.setLevel level logger) s).ownLevel logger = level := by
  induction loggers generalizing s with
  | nil => exact h.resolve_left List.not_mem_nil
  | cons first loggers ih =>
      rw [List.foldl_cons]
      refine ih ?_
      rw [ownLevel_setLevel]
      by_cases hfirst : logger = first
      · exact Or.inr (if_pos hfirst)
      · rw [if_neg hfirst]
        exact h.imp_left fun hmem => (List.mem_cons.mp hmem).resolve_left hfirst

/-- Setting levels changes nothing else. -/
theorem setLevels_propagates (s : Setup) (level : Level) (loggers : List String) :
    (loggers.foldl (fun s logger => s.setLevel level logger) s).propagates = s.propagates := by
  induction loggers generalizing s with
  | nil => rfl
  | cons first loggers ih => rw [List.foldl_cons, ih, setLevel]

/-- What a call that is not refused configures: the form and the level that were read, and from
    these the setup. -/
theorem configure_eq_ok {s s' : Setup} {c : Call} {r : Resolved}
    (h : s.configure c.format c.level c.env = .ok (s', r)) :
    selectFormat c.format c.env = .ok r.format ∧
      selectLevel c.level c.env = .ok (r.level, r.levelName) ∧
      s' = (rootLogger :: childLoggers).foldl (fun s logger => s.setLevel r.level logger)
        { s with handlers := [r.format], propagates := false } := by
  unfold configure at h
  cases hform : selectFormat c.format c.env with
  | error e =>
      rw [hform] at h
      cases h
  | ok form =>
      cases hlevel : selectLevel c.level c.env with
      | error e =>
          rw [hform, hlevel] at h
          cases h
      | ok choice =>
          rw [hform, hlevel] at h
          cases h
          exact ⟨rfl, rfl, rfl⟩

/-- What configuring leaves. -/
theorem configure_holds {s s' : Setup} {c : Call} {r : Resolved}
    (h : s.configure c.format c.level c.env = .ok (s', r)) : s'.Holds r := by
  have hhandlers := configure_handlers h
  obtain ⟨-, -, rfl⟩ := configure_eq_ok h
  exact ⟨hhandlers, setLevels_propagates _ _ _, fun logger hlogger =>
    ownLevel_setLevels (Or.inl hlogger)⟩

end Setup

namespace Call

variable {c : Call}

/-- A call whose form is refused changes nothing, whatever its level is. -/
theorem perform_of_format_error {e : UnknownChoice} (h : selectFormat c.format c.env = .error e)
    (s : Setup) : c.perform.run.run s = (.error (.format e), s) := by
  rw [perform_eq, Setup.configure, h]
  rfl

/-- A call whose level is refused behind a form that is not changes nothing either. -/
theorem perform_of_level_error {form : LogFormat} {e : Text.WriteError}
    (h : selectFormat c.format c.env = .ok form) (hlevel : selectLevel c.level c.env = .error e)
    (s : Setup) : c.perform.run.run s = (.error (.level e), s) := by
  rw [perform_eq, Setup.configure, h, hlevel]
  rfl

/-- A call of which neither is refused comes to its end. -/
theorem perform_of_ok {form : LogFormat} {choice : Level × String}
    (h : selectFormat c.format c.env = .ok form) (hlevel : selectLevel c.level c.env = .ok choice)
    (s : Setup) :
    ∃ r s', c.perform.run.run s = (.ok r, s') ∧ s'.Holds r ∧ r.format = form := by
  have hconfigure : ∃ s' r, s.configure c.format c.level c.env = .ok (s', r) ∧
      r.format = form := by
    rw [Setup.configure, h, hlevel]
    exact ⟨_, _, rfl, rfl⟩
  obtain ⟨s', r, hs', hform⟩ := hconfigure
  refine ⟨r, s', ?_, Setup.configure_holds hs', hform⟩
  rw [perform_eq, hs']

/-- One call: if a form is asked for that is none, the call is refused with its name, and
    nothing is changed. If the form is right and a level is asked for that has no name, the call
    is refused for that, and nothing is changed either. Otherwise it leaves one form, which is
    the one that is asked for or plain text, no passing on, and one level for all loggers. -/
theorem perform_holds (c : Call) (s : Setup) :
    (c.Unknown ∧ ∃ raw, c.asked? = some raw ∧
      c.perform.run.run s = (.error (.format ⟨"log format", raw⟩), s)) ∨
    (¬c.Unknown ∧ c.Unnamed ∧ c.perform.run.run s = (.error (.level .tooManyDigits), s)) ∨
    (¬c.Unknown ∧ ¬c.Unnamed ∧ ∃ r s', c.perform.run.run s = (.ok r, s') ∧ s'.Holds r ∧
      r.format.name = c.asked?.elim LogFormat.text.name normalName) := by
  rcases selectFormat_cases c with ⟨hunknown, raw, hasked, herror⟩ | ⟨hknown, form, hform, hname⟩
  · exact Or.inl ⟨hunknown, raw, hasked, perform_of_format_error herror s⟩
  rcases selectLevel_cases c with ⟨hunnamed, herror⟩ | ⟨hnamed, choice, hlevel, -⟩
  · exact Or.inr (Or.inl ⟨hknown, hunnamed, perform_of_level_error hform herror s⟩)
  · obtain ⟨r, s', hperform, hholds, rfl⟩ := perform_of_ok hform hlevel s
    exact Or.inr (Or.inr ⟨hknown, hnamed, r, s', hperform, hholds, hname⟩)

/-- A call is refused just if its form is none or its level has no name, and then it changes
    nothing. -/
theorem perform_refused_iff (c : Call) (s : Setup) :
    (∃ e, c.perform.run.run s = (.error e, s)) ↔ c.Unknown ∨ c.Unnamed := by
  rcases c.perform_holds s with
    ⟨hunknown, raw, -, hperform⟩ | ⟨-, hunnamed, hperform⟩ | ⟨hknown, hnamed, r, s', hperform, -⟩
  · exact iff_of_true ⟨_, hperform⟩ (Or.inl hunknown)
  · exact iff_of_true ⟨_, hperform⟩ (Or.inr hunnamed)
  · refine iff_of_false ?_ (not_or.mpr ⟨hknown, hnamed⟩)
    rintro ⟨e, herror⟩
    rw [hperform] at herror
    cases herror

/-- It is not the form alone that counts: a call is refused that asks for plain text, and for a
    level that is too long to be written. -/
theorem refused_known :
    let c : Call := ⟨some "text", some (.number (Int.ofNat (Nat.pow 10 Text.digitLimit))), {}⟩
    c.perform.run.run ({} : Setup) = (.error (.level .tooManyDigits), {}) ∧
      ¬((∃ e, (c.perform.run.run ({} : Setup)).1 = .error e) ↔ c.Unknown) := by
  intro c
  have hknown : ¬c.Unknown := by
    rintro ⟨_, ⟨⟩, hunknown⟩
    exact hunknown (by decide +kernel)
  have hunnamed : c.Unnamed := ⟨_, rfl, Text.not_isShort_pow⟩
  have hperform : c.perform.run.run ({} : Setup) = (.error (.level .tooManyDigits), {}) := by
    rcases c.perform_holds {} with ⟨hunknown, _⟩ | ⟨-, -, hperform⟩ | ⟨-, hnamed, _⟩
    · exact absurd hunknown hknown
    · exact hperform
    · exact absurd hunnamed hnamed
  exact ⟨hperform, fun hiff => hknown (hiff.mp ⟨_, congrArg Prod.fst hperform⟩)⟩

end Call

namespace Setup

/-- The last of several calls that was not refused. -/
def lastDone? (results : List (Except Refusal Resolved)) : Option Resolved :=
  (results.filterMap Except.toOption).getLast?

variable {s s' : Setup} {c : Call} {calls : List Call}

theorem performEach_cons {result : Except Refusal Resolved}
    (h : c.perform.run.run s = (result, s')) :
    s.performEach (c :: calls)
      = ((s'.performEach calls).1, result :: (s'.performEach calls).2) := by
  rw [performEach, h]

theorem lastDone?_error (e : Refusal) (results : List (Except Refusal Resolved)) :
    lastDone? (.error e :: results) = lastDone? results :=
  rfl

theorem lastDone?_ok (r : Resolved) (results : List (Except Refusal Resolved)) :
    lastDone? (.ok r :: results) = some ((lastDone? results).getD r) :=
  List.getLast?_cons

/-- Whatever a row of calls starts from, each call is refused just if a form is asked for that
    is none or a level that has no name, and comes to the form that is asked for or to plain text
    otherwise. A call that is refused, in whatever the calls before it have left, changes
    nothing. If a call was not refused, there is in the end the one form of the last such call,
    no passing on, and its level for all loggers. Otherwise nothing has changed. -/
theorem performEach_holds (s : Setup) (calls : List Call) :
    List.Forall₂ (fun c result => ((∃ e, result = .error e) ↔ c.Unknown ∨ c.Unnamed) ∧
      ∀ r, result = .ok r → r.format.name = c.asked?.elim LogFormat.text.name normalName)
      calls (s.performEach calls).2 ∧
    (∀ c : Call, c.Unknown ∨ c.Unnamed →
      ∃ e, c.perform.run.run (s.performEach calls).1 = (.error e, (s.performEach calls).1)) ∧
    (lastDone? (s.performEach calls).2).elim ((s.performEach calls).1 = s)
      (s.performEach calls).1.Holds := by
  refine (?_ : _ ∧ _).imp_right fun hlast =>
    ⟨fun c hc => (c.perform_refused_iff (s.performEach calls).1).mpr hc, hlast⟩
  -- The induction is on the row, for whatever setup it starts from: a call that is refused hands
  -- on the setup that it was given, and any other hands on one that holds what it came to.
  induction calls generalizing s with
  | nil => exact ⟨.nil, rfl⟩
  | cons c calls ih =>
      by_cases hc : c.Unknown ∨ c.Unnamed
      · obtain ⟨e, hperform⟩ := (c.perform_refused_iff s).mpr hc
        obtain ⟨hresults, hlast⟩ := ih s
        rw [performEach_cons hperform, lastDone?_error]
        exact ⟨.cons ⟨iff_of_true ⟨e, rfl⟩ hc, nofun⟩ hresults, hlast⟩
      · have hdone : ∃ r s', c.perform.run.run s = (.ok r, s') ∧ s'.Holds r ∧
            r.format.name = c.asked?.elim LogFormat.text.name normalName := by
          rcases c.perform_holds s with ⟨hunknown, _⟩ | ⟨-, hunnamed, _⟩ | ⟨-, -, hdone⟩
          · exact absurd (Or.inl hunknown) hc
          · exact absurd (Or.inr hunnamed) hc
          · exact hdone
        obtain ⟨r, s', hperform, hholds, hformat⟩ := hdone
        obtain ⟨hresults, hlast⟩ := ih s'
        rw [performEach_cons hperform, lastDone?_ok]
        refine ⟨.cons ⟨iff_of_false nofun hc, ?_⟩ hresults, ?_⟩
        · rintro _ ⟨⟩
          exact hformat
        · cases hlater : lastDone? (s'.performEach calls).2 with
          | none =>
              -- Nothing has changed what this call has left.
              rw [hlater] at hlast
              have hsame : (s'.performEach calls).1 = s' := hlast
              rw [hsame]
              exact hholds
          | some later =>
              -- A later call came to its end, and what this one has left is gone.
              rw [hlater] at hlast
              exact hlast

/-- A form and a level of their own, then a form that is none, then a level in the environment,
    then an empty name and two forms that are none. -/
theorem performEach_holds_mixed :
    let calls : List Call :=
      [⟨some " JSON\n", some (.number 25), {}⟩, ⟨some "xml", none, ⟨some "text", none⟩⟩,
        ⟨none, none, ⟨some "", some "Debug "⟩⟩, ⟨some "", none, {}⟩,
        ⟨none, some (.number 0), ⟨some "yaml", none⟩⟩]
    let after := performEach {} calls
    after.2.map Except.toOption
        = [some ⟨.json, 25, "level 25"⟩, none, some ⟨.text, 10, "debug"⟩, none, none] ∧
      after.1.Holds ⟨.text, 10, "debug"⟩ := by
  intro calls after
  -- Stated for any row, so that the calls stay folded until the kernel evaluates them.
  have hholds (s : Setup) (calls : List Call) (r : Resolved)
      (h : lastDone? (s.performEach calls).2 = some r) : (s.performEach calls).1.Holds r := by
    have hlast := (performEach_holds s calls).2.2
    rw [h] at hlast
    exact hlast
  exact ⟨by decide +kernel, hholds {} calls _ (by decide +kernel)⟩

end Setup

end Log

end NamePatterns
