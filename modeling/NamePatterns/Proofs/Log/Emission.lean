import NamePatterns.Proofs.Log.Configuring
import NamePatterns.Proofs.Results

/-!
# What a Configured Log Lets Through

The level that was asked for last decides which records are written.

No logger but the root of the library's loggers and its four children is ever given a level,
and a call that configures the log gives all five the same one. So on the way up from a logger
of the library there is either that level or none, and the root has it. A level of zero is none
as well: then the level that stands above all loggers decides, and it lets warnings pass. A
record that passes is written once. Nothing is passed on to what stands above the library, and
there is one form.

Loggers that are made on the way matter only for the tree they stand in, as they have no level.
That is why the history of a log can be any row of events: what it leaves behind besides the
levels of the five is never asked for. `OnlyOurs` is the invariant that says so. It speaks of
all names, so it does not have to follow which loggers there are.

What is logged need not be a record yet. The record is made once its level has passed, and none
is made where the level has no name. So the law is about drafts, and it says what is written of
one by an equation: from the level on it is the line of the draft, and where there is no such
line there is the reason for that. As plain text there is a line if the level has a name. As JSON
the moment and the fields have to be such that they can be written as well.

## Main definitions

* `Log.Draft.line`, `Log.Draft.Writable`: The line of what is logged, and when there is one.
* `Log.Event`, `Log.Setup.afterEach`: What happens to a log.
* `Log.Setup.emit`, `Log.Setup.send`: What is written of an entry, and of what is logged, if there
  are forms above the library as well.
* `Log.Setup.WritesFrom`: Drafts are written once from a level on, and not at all below it.
* `Log.Setup.OnlyOurs`: No logger but those of the library has a level.

## Theorems

* `Log.Draft.line_ok_iff`: When there is a line.
* `Log.Setup.send_nil`: With no forms above the library, this is what is written of what is logged.
* `Log.Setup.isOurs_below`: What stands below the root of the library's loggers.
* `Log.Setup.afterEach_onlyOurs`: No other logger is ever given a level.
* `Log.Setup.effective_of_isOurs`: The level that holds for the loggers of the library.
* `Log.Setup.configured_writesFrom`: The configured level decides what is written.
-/

namespace NamePatterns

namespace Log

/-- The line of what is logged at a moment, in a form: that of the record that is made from it. -/
def Draft.line (d : Draft) (form : LogFormat) (moment : Int) (error : Option String) :
    Except Fault String := do
  let r ← d.record?.mapError .number
  Entry.render form ⟨r, moment, error⟩

/-- What is logged can be written in a form: its level has a name, and as JSON its moment has a
    text and its fields hold no integer that is too long. -/
def Draft.Writable (d : Draft) (form : LogFormat) (moment : Int) : Prop :=
  Text.IsShort d.level ∧
    (form = .json → (∃ time, Timestamp.text moment = .ok time) ∧
      Value.isShowable (.table d.fields.toTable) = true)

/-- There is a line of what is logged just if it can be written. -/
theorem Draft.line_ok_iff (d : Draft) (form : LogFormat) (moment : Int) (error : Option String) :
    (∃ line, d.line form moment error = .ok line) ↔ d.Writable form moment := by
  unfold line Writable record?
  by_cases hshort : Text.IsShort d.level
  -- With a name for its level there is a record, and with it a line of plain text. As JSON,
  -- the moment and the fields are left to be asked for.
  · rw [dif_pos hshort]
    cases form with
    | text => exact iff_of_true ⟨_, rfl⟩ ⟨hshort, nofun⟩
    | json =>
        simp only [Except.mapError, Except.ok_bind, Entry.render, Entry.jsonLine, Json.compact,
          Entry.isShowable_payload, hshort, true_and, forall_const]
        cases Timestamp.text moment with
        | error fault => exact iff_of_false nofun nofun
        | ok time =>
            cases Value.isShowable (.table d.fields.toTable) with
            | false => exact iff_of_false nofun nofun
            | true => exact iff_of_true ⟨_, rfl⟩ ⟨⟨time, rfl⟩, rfl⟩
  · rw [dif_neg hshort]
    exact iff_of_false nofun fun h => hshort h.1

/-- What happens to a log before it is written to. -/
inductive Event where
  /-- A call that configures it. -/
  | configure (c : Call)
  /-- A logger is asked for by its name. -/
  | ask (logger : String)
  deriving DecidableEq, Repr

namespace Setup

/-- What an event leaves, be it a call that was refused. -/
def after (s : Setup) : Event → Setup
  | .configure c => (c.perform.run.run s).2
  | .ask logger => s.addLogger logger

/-- What several events leave. -/
def afterEach (s : Setup) (events : List Event) : Setup :=
  events.foldl after s

/-- The forms in which a record of a logger is written, given those that stand above all
    loggers. -/
def reached (s : Setup) (host : List LogFormat) (logger : String) : List LogFormat :=
  if s.isOurs logger then s.handlers ++ (if s.propagates then host else []) else host

/-- What is written of an entry, if anything, given the forms that stand above all loggers. -/
def emit (s : Setup) (host : List LogFormat) (e : Entry) : Except Fault String :=
  if !s.isEnabled e.record.logger e.record.level then .ok ""
  else
    match s.reached host e.record.logger with
    | [] => .ok (if Level.warning ≤ e.record.level then e.record.message ++ "\n" else "")
    | form :: forms => do
      let lines ← (form :: forms).mapM e.render
      return String.join (lines.map (· ++ "\n"))

/-- What is written of what is logged at a moment, if anything, given the forms that stand above
    all loggers. No record is made of what does not pass. -/
def send (s : Setup) (host : List LogFormat) (d : Draft) (moment : Int) (error : Option String) :
    Except Fault String :=
  if !s.isEnabled d.logger d.level then .ok ""
  else do
    let r ← d.record?.mapError .number
    s.emit host ⟨r, moment, error⟩

/-- What is logged by the library's loggers is written once in a form from a level on, if it can
    be written, and not at all below it, whatever stands above all loggers. -/
def WritesFrom (s : Setup) (form : LogFormat) (level : Level) : Prop :=
  ∀ (host : List LogFormat) (d : Draft) (moment : Int) (error : Option String),
    s.isOurs d.logger = true → 0 < d.level →
      (level ≤ d.level →
        s.send host d moment error = (d.line form moment error).map fun line => line ++ "\n") ∧
      (d.level < level → s.send host d moment error = .ok "")

/-- No logger but those of the library has a level of its own. -/
def OnlyOurs (s : Setup) : Prop :=
  ∀ logger, logger ∉ rootLogger :: childLoggers → s.ownLevel logger = 0

variable {s s' : Setup} {c : Call} {r : Resolved} {logger : String} {level : Level}

/-- With no forms above the library, this is what is written of the entry. -/
theorem emit_nil (s : Setup) (e : Entry) : s.emit [] e = s.write e := by
  unfold emit write reached
  cases s.isOurs e.record.logger with
  | false => rfl
  | true => cases s.handlers <;> simp

/-- With no forms above the library, this is what is written of what is logged. -/
theorem send_nil (s : Setup) (d : Draft) (moment : Int) (error : Option String) :
    s.send [] d moment error = s.log d moment error := by
  unfold send log
  simp only [emit_nil]

theorem ownLevel_addLogger (s : Setup) (logger other : String) :
    (s.addLogger logger).ownLevel other = s.ownLevel other := by
  unfold addLogger
  cases hknows : s.knows logger with
  | true => rfl
  | false =>
      -- A logger that is asked for the first time has no level of its own.
      have hnew : s.levels.find? (·.1 = logger) = none := by
        simpa [knows] using hknows
      by_cases hsame : logger = other
      · subst hsame
        simp [ownLevel, hnew]
      · simp [ownLevel, hsame]

theorem knows_setLevel (s : Setup) (level : Level) (logger other : String) :
    (s.setLevel level logger).knows other = (decide (logger = other) || s.knows other) := by
  by_cases hsame : logger = other
  · simp [knows, setLevel, hsame]
  · have hkept (m : String × Level) :
        ((m.1 != logger) && decide (m.1 = other)) = decide (m.1 = other) := by
      by_cases hm : m.1 = other
      · simp [hm, Ne.symm hsame]
      · simp [hm]
    simp only [knows, setLevel, List.any_cons, List.any_filter, hkept]

theorem knows_setLevels {loggers : List String} (h : s.knows logger = true ∨ logger ∈ loggers) :
    (loggers.foldl (fun s logger => s.setLevel level logger) s).knows logger = true := by
  induction loggers generalizing s with
  | nil => exact h.resolve_right List.not_mem_nil
  | cons first loggers ih =>
      rw [List.foldl_cons]
      -- A logger is known from when its level is set, and stays known.
      refine ih ?_
      rw [knows_setLevel, Bool.or_eq_true, decide_eq_true_eq]
      rcases h with hknown | hmem
      · exact Or.inl (Or.inr hknown)
      · exact (List.mem_cons.mp hmem).imp (fun h => Or.inl h.symm) id

/-- Setting the levels of other loggers leaves that of a logger. -/
theorem ownLevel_setLevels_of_notMem {loggers : List String} (h : logger ∉ loggers) :
    (loggers.foldl (fun s logger => s.setLevel level logger) s).ownLevel logger
      = s.ownLevel logger := by
  induction loggers generalizing s with
  | nil => rfl
  | cons first loggers ih =>
      obtain ⟨hfirst, hrest⟩ := List.ne_and_not_mem_of_not_mem_cons h
      rw [List.foldl_cons, ih hrest, ownLevel_setLevel, if_neg hfirst]

/-- A call that comes to its end is one that configures. -/
theorem configure_of_perform (h : c.perform.run.run s = (.ok r, s')) :
    s.configure c.format c.level c.env = .ok (s', r) := by
  rw [Call.perform_eq] at h
  cases hconfigure : s.configure c.format c.level c.env with
  | error e =>
      rw [hconfigure] at h
      cases h
  | ok result =>
      rw [hconfigure] at h
      cases h
      rfl

theorem configure_onlyOurs (hs : s.OnlyOurs)
    (h : s.configure c.format c.level c.env = .ok (s', r)) : s'.OnlyOurs := by
  intro logger hlogger
  obtain ⟨-, -, rfl⟩ := configure_eq_ok h
  exact (ownLevel_setLevels_of_notMem hlogger).trans (hs logger hlogger)

/-- No event gives a level to a logger that is not one of the library. -/
theorem after_onlyOurs (hs : s.OnlyOurs) (event : Event) : (s.after event).OnlyOurs := by
  cases event with
  | ask logger =>
      intro other hother
      exact (ownLevel_addLogger s logger other).trans (hs other hother)
  | configure c =>
      show (c.perform.run.run s).2.OnlyOurs
      rw [Call.perform_eq]
      cases h : s.configure c.format c.level c.env with
      | error e => exact hs
      | ok result => exact configure_onlyOurs hs h

/-- No logger that is not one of the library is ever given a level. -/
theorem afterEach_onlyOurs (hs : s.OnlyOurs) (events : List Event) :
    (s.afterEach events).OnlyOurs := by
  induction events generalizing s with
  | nil => exact hs
  | cons event events ih => exact ih (after_onlyOurs hs event)

/-- The name in front of a dot that is not followed by another one is reached from below. -/
theorem mem_above {known : String → Bool} {name below : List Char} {pass : Bool}
    (hname : name ≠ []) (hknown : known (String.ofList name) = true)
    (hbelow : below.getLast? ≠ some '.') (hpass : pass = true → below ≠ []) :
    String.ofList name ∈ above known pass (below ++ '.' :: name.reverse) := by
  induction below generalizing pass with
  | nil =>
      cases pass with
      | true => exact absurd rfl (hpass rfl)
      | false => simp [above, hname, hknown]
  | cons a below ih =>
      -- The name is walked from its end, so the part below shrinks from the front and keeps
      -- its last character.
      have hlast : below.getLast? ≠ some '.' := by
        cases below with
        | nil => nofun
        | cons b below => rwa [List.getLast?_cons_cons] at hbelow
      have hnext : String.ofList name ∈ above known false (below ++ '.' :: name.reverse) :=
        ih hlast nofun
      cases pass with
      | true => exact hnext
      | false =>
          rw [List.cons_append, above]
          split
          · next hdot =>
              -- The dot is not the last character, so there is one more to be passed over.
              have hne : below ≠ [] := by
                rintro rfl
                simp_all
              dsimp only
              split
              · exact List.mem_cons_of_mem _ hnext
              · exact ih hlast fun _ => hne
          · exact hnext

/-- The root of the library's loggers is one of them, and so is every logger whose name goes on
    behind a dot, other than with a second dot. -/
theorem isOurs_below (hknown : s.knows rootLogger = true) (rest : String)
    (hrest : rest.toList.head? ≠ some '.') :
    s.isOurs rootLogger = true ∧ s.isOurs (rootLogger ++ "." ++ rest) = true := by
  unfold isOurs lineage
  simp only [List.contains_iff_mem]
  refine ⟨List.mem_cons_self, List.mem_cons_of_mem _ ?_⟩
  have hbelow : rest.toList.reverse.getLast? ≠ some '.' := by
    rwa [List.getLast?_reverse]
  have hmem : String.ofList rootLogger.toList
      ∈ above s.knows false (rest.toList.reverse ++ '.' :: rootLogger.toList.reverse) :=
    mem_above (by decide) (by simpa using hknown) hbelow nofun
  simpa [String.toList_append] using hmem

/-- Where no logger has another level than the root of the library's loggers, that one holds for
    all of them. If it is none, warnings pass. -/
theorem effective_of_isOurs (hroot : s.ownLevel rootLogger = level)
    (hall : ∀ logger, s.ownLevel logger = 0 ∨ s.ownLevel logger = level)
    (h : s.isOurs logger = true) :
    s.effective logger = if level = 0 then Level.warning else level := by
  have hmem : rootLogger ∈ s.lineage logger := List.contains_iff_mem.mp h
  unfold effective
  cases hfind : ((s.lineage logger).map s.ownLevel).find? (· != 0) with
  | none =>
      have hzero := List.find?_eq_none.mp hfind _ (List.mem_map_of_mem hmem)
      rw [hroot] at hzero
      rw [if_pos (by simpa using hzero)]
      rfl
  | some found =>
      have hne : found ≠ 0 := by simpa using List.find?_some hfind
      obtain ⟨above, -, habove⟩ := List.mem_map.mp (List.mem_of_find?_eq_some hfind)
      -- The first level on the way up is not zero, so it is the one that there is.
      have hfound : found = level := by
        rw [← habove]
        exact (hall above).resolve_left (habove ▸ hne)
      rw [if_neg (hfound ▸ hne)]
      exact hfound

/-- What is written of an entry where there is one form and nothing is passed on. -/
theorem emit_of_holds (hs : s.Holds r) (host : List LogFormat) {e : Entry}
    (hours : s.isOurs e.record.logger = true)
    (hpasses : s.isEnabled e.record.logger e.record.level = true) :
    s.emit host e = (e.render r.format).map fun line => line ++ "\n" := by
  have hreached : s.reached host e.record.logger = [r.format] := by
    simp [reached, hours, hs.handlers, hs.propagates]
  unfold emit
  simp only [hpasses, Bool.not_true, Bool.false_eq_true, if_false, hreached, List.mapM_cons,
    List.mapM_nil]
  cases e.render r.format with
  | error fault => rfl
  | ok line =>
      show Except.ok (String.join [_]) = _
      rw [String.join_cons, String.join_nil, String.append_empty]
      rfl

/-- What is written of what is logged where there is one form and nothing is passed on. The
    record, if one is made, has the logger and the level that were asked for. -/
theorem send_of_holds (hs : s.Holds r) (host : List LogFormat) {d : Draft} (moment : Int)
    (error : Option String) (hours : s.isOurs d.logger = true) :
    s.send host d moment error
      = if s.isEnabled d.logger d.level then
          (d.line r.format moment error).map fun line => line ++ "\n"
        else .ok "" := by
  unfold send
  cases hpasses : s.isEnabled d.logger d.level with
  | false => rfl
  | true =>
      unfold Draft.line Draft.record?
      by_cases hshort : Text.IsShort d.level
      · rw [dif_pos hshort]
        exact emit_of_holds hs host hours hpasses
      · rw [dif_neg hshort]
        rfl

/-- The configured level decides what is written. Whatever has happened to a log before, a call
    that is not refused has this effect: what is logged by the root of the library's loggers or by
    one below it is written once if its level is at least the one that the call came to, and not at
    all if it is lower. There is a line to be written just if the level has a name and, as JSON,
    the moment and the fields can be written. A level that is given as a number is the one that the
    call comes to. Zero is no level, and warnings pass instead. -/
theorem configured_writesFrom (events : List Event) (c : Call) {s' : Setup} {r : Resolved}
    (h : c.perform.run.run (afterEach {} events) = (.ok r, s')) :
    s'.WritesFrom r.format (if r.level = 0 then Level.warning else r.level) ∧
    (∀ (d : Draft) (moment : Int) (error : Option String),
      (∃ line, d.line r.format moment error = .ok line) ↔ d.Writable r.format moment) ∧
    (∀ level, c.level = some (.number level) → r.level = level) ∧
    ∀ rest : String, rest.toList.head? ≠ some '.' →
      s'.isOurs rootLogger = true ∧ s'.isOurs (rootLogger ++ "." ++ rest) = true := by
  have hconfigure := configure_of_perform h
  have hholds : s'.Holds r := configure_holds hconfigure
  obtain ⟨-, hlevel, hs'⟩ := configure_eq_ok hconfigure
  have honly : s'.OnlyOurs :=
    configure_onlyOurs (afterEach_onlyOurs (fun _ _ => rfl) events) hconfigure
  have hroot : s'.ownLevel rootLogger = r.level :=
    hholds.levels rootLogger List.mem_cons_self
  -- One of the five loggers has the level of the call, and any other has none.
  have hall : ∀ logger, s'.ownLevel logger = 0 ∨ s'.ownLevel logger = r.level := by
    intro logger
    by_cases hmem : logger ∈ rootLogger :: childLoggers
    · exact Or.inr (hholds.levels logger hmem)
    · exact Or.inl (honly logger hmem)
  refine ⟨?_, fun d moment error => d.line_ok_iff r.format moment error, ?_, ?_⟩
  · intro host d moment error hours hpos
    rw [send_of_holds hholds host moment error hours, isEnabled,
      effective_of_isOurs hroot hall hours, decide_eq_true hpos, Bool.true_and]
    constructor
    · intro hle
      rw [if_pos (decide_eq_true hle)]
    · intro hlt
      rw [if_neg]
      simpa using hlt
  · intro level hasked
    -- The call has come to its end, so its level was read.
    rcases selectLevel_cases c with ⟨-, herror⟩ | ⟨-, choice, hchoice, hnumber⟩
    · rw [hlevel] at herror
      cases herror
    · rw [hlevel] at hchoice
      obtain rfl := Except.ok.inj hchoice
      exact hnumber level hasked
  · intro rest hrest
    refine isOurs_below ?_ rest hrest
    rw [hs']
    exact knows_setLevels (Or.inr List.mem_cons_self)

/-- A logger with two dots in a row, a level below zero, a form that is none and a level without a
    name, and then a level by number, which goes before that in the environment. -/
theorem configured_writesFrom_mixed :
    let events : List Event :=
      [.ask "pytestimp.cli..x", .configure ⟨some "json", some (.number (-5)), {}⟩,
        .configure ⟨some "xml", none, {}⟩,
        .configure ⟨none, some (.number (Int.ofNat (Nat.pow 10 Text.digitLimit))), {}⟩]
    let c : Call := ⟨none, some (.number 25), ⟨none, some "debug"⟩⟩
    let after := c.perform.run.run (afterEach {} events)
    after.1 = .ok ⟨.text, 25, "level 25"⟩ ∧ after.2.WritesFrom .text 25 ∧
      after.2.isOurs "pytestimp.cli.x" = true ∧ after.2.isOurs "pytestimp..x" = false := by
  intro events c after
  have hresult : after.1 = .ok ⟨.text, 25, "level 25"⟩ := by decide +kernel
  have hafter : after = (.ok ⟨.text, 25, "level 25"⟩, after.2) := by
    rw [← hresult]
    exact (Prod.eta after).symm
  obtain ⟨hwrites, -, -, hbelow⟩ := configured_writesFrom events c hafter
  exact ⟨hresult, hwrites, (hbelow "cli.x" (by decide)).2, by decide +kernel⟩

/-- At level zero not everything is written: what is logged at level ten is not. At any level
    something is lost that is grave enough: there is no record whose level has no name, and no line
    as JSON of a field that holds an integer which is too long. -/
theorem not_writesFrom_zero :
    let long : Int := Int.ofNat (Nat.pow 10 Text.digitLimit)
    let atZero := (⟨none, some (.number 0), {}⟩ : Call).perform.run.run ({} : Setup)
    let atInfo := (⟨some "json", some (.number 20), {}⟩ : Call).perform.run.run ({} : Setup)
    (atZero.1 = .ok ⟨.text, 0, "notset"⟩ ∧
      atZero.2.send [] ⟨"pytestimp", 10, "x", []⟩ 0 none = .ok "" ∧
      ¬atZero.2.WritesFrom .text 0) ∧
    atInfo.1 = .ok ⟨.json, 20, "info"⟩ ∧
      (20 ≤ long ∧
        atInfo.2.send [] ⟨"pytestimp", long, "x", []⟩ 0 none = .error (.number .tooManyDigits)) ∧
      atInfo.2.send [] ⟨"pytestimp", 30, "x", [(.details, .table [("n", .int long)])]⟩ 0 none
        = .error (.number .tooManyDigits) := by
  intro long atZero atInfo
  have hnothing : atZero.2.send [] ⟨"pytestimp", 10, "x", []⟩ 0 none = .ok "" := by
    decide +kernel
  refine ⟨⟨by decide +kernel, hnothing, fun hwrites => ?_⟩, by decide +kernel,
    ⟨by decide +kernel, by decide +kernel⟩, by decide +kernel⟩
  obtain ⟨hline, -⟩ := hwrites [] ⟨"pytestimp", 10, "x", []⟩ 0 none (by decide +kernel) (by decide)
  rw [hline (by decide)] at hnothing
  -- The line that is claimed to be written is not empty.
  have hshown : Draft.line ⟨"pytestimp", 10, "x", []⟩ .text 0 none = .ok "[DEBUG] x" := by
    decide +kernel
  rw [hshown] at hnothing
  exact absurd hnothing (by decide +kernel)

end Setup

end Log

end NamePatterns
