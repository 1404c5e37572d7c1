import NamePatterns.CommandLine
import NamePatterns.Proofs.Log.Logged

/-!
# What Is Written of Records

What stands in a log, for a setup with one form and one level.

All records of the library go to loggers of its components, and their fields are
made of texts and truth values, so that no record of the library is kept from
being written. Where these loggers have one form and one level, a record is
written on its own line, in that form, just if it is of that level or graver.

A line as plain text starts with a bracket, a line as JSON with a brace, and no
line is empty. So logs of the same records are the same just if the same records
are shown, in the same form unless there are none. The first half rests on the
lengths: the records that a graver level shows are among those that the other
level shows, and a log of fewer lines is shorter. The second half rests on the
first character.

That the records are those of the library is followed through the commands, one
lemma for each function that reports. Each lemma says that the function adds
records of a fixed component with fields of its own, and nothing else depends on
what these are.

## Main definitions

* `Log.Record.IsOurs`, `Logged.Ours`: Records of the library, and computations that
  write no others.
* `Log.Setup.configured`: The setup with one form and one level.
* `Log.Setup.shown`: The records that a setup shows.
* `Log.Entry.line`: The line that is written of a record.

## Theorems

* `Log.Setup.effective_configured`: The level holds for all components.
* `CommandLine.logText_configured`: A log is the lines of the records that are shown.
* `CommandLine.logText_eq_iff`: When two logs are the same.
* `CommandLine.execute_ours`: Commands write no records but those of the library.
-/

namespace NamePatterns

/-- A record goes to the logger of a component, and its fields can be written. -/
structure Log.Record.IsOurs (r : Log.Record) : Prop where
  component : ∃ c : Log.Component, r.logger = c.logger
  fields : Value.isShowable (.table r.fields.toTable) = true

namespace Logged

variable {ε ε' α β : Type}

/-- All records of a computation are records of the library. -/
def Ours (x : Logged ε α) : Prop :=
  ∀ r ∈ x.records, r.IsOurs

/-- A computation that writes nothing writes no other records. -/
theorem ours_of_nil {x : Logged ε α} (h : x.records = []) : x.Ours := by
  intro r hr
  rw [h] at hr
  cases hr

theorem Ours.mapError {x : Logged ε α} (h : x.Ours) (f : ε → ε') : (x.mapError f).Ours :=
  h

theorem Ours.bind {x : Logged ε α} {f : α → Logged ε β} (hx : x.Ours) (hf : ∀ a, (f a).Ours) :
    (x >>= f).Ours :=
  forall_records_bind hx hf

theorem ours_mapM {f : α → Logged ε β} (hf : ∀ a, (f a).Ours) (xs : List α) :
    (xs.mapM f).Ours :=
  forall_records_mapM fun x _ => hf x

end Logged

section

open Logged

variable (dashes : Bool) (wildcards : String)

/-- A wildcard is reported to the logger for patterns, or not at all. -/
theorem Wildcard.compile_ours (w : String) : (compile dashes w).Ours := by
  unfold compile
  cases outcome dashes w with
  | error e => exact ours_of_nil rfl
  | ok o =>
      intro r hr
      cases o with
      | accepted fragment => cases hr
      | unterminated => cases hr
      | rejected regex e =>
          rw [List.mem_singleton.mp hr]
          exact ⟨⟨.patterns, rfl⟩, rfl⟩

/-- Nothing is reported of a list but what is reported of its wildcards. -/
theorem Wildcard.forall_records_compileList {dashes : Bool} {wildcards : String}
    {p : Log.Record → Prop} (h : ∀ w ∈ split wildcards, ∀ r ∈ (compile dashes w).records, p r) :
    ∀ r ∈ (compileList dashes wildcards).records, p r := by
  have hjoined : ∀ r ∈ (joined dashes wildcards).records, p r :=
    forall_records_bind (forall_records_mapM h) fun _ => nofun
  have hfaults : ∀ r ∈ ((joined dashes wildcards).mapError ListError.beyondLimit).records, p r :=
    hjoined
  refine forall_records_bind hfaults fun regex => ?_
  split <;> exact nofun

theorem Wildcard.compileList_ours : (compileList dashes wildcards).Ours :=
  forall_records_compileList fun w _ => compile_ours dashes w

theorem Wildcard.compileListOrNothing_ours : (compileListOrNothing dashes wildcards).Ours := by
  have hlist := compileList_ours dashes wildcards
  unfold compileListOrNothing
  dsimp only
  split
  · exact hlist
  · intro r hr
    rcases List.mem_append.mp hr with hmem | hmem
    · exact hlist r hmem
    · rw [List.mem_singleton.mp hmem]
      exact ⟨⟨.patterns, rfl⟩, rfl⟩
  · exact hlist

/-- Deriving a regular expression writes what its list does, and nothing if it was kept. -/
theorem Held.matcher_ours (h : Held) (kind : NameKind) : (h.matcher kind).2.Ours := by
  have hderived := Wildcard.compileListOrNothing_ours kind.dashes (h.config.effective kind)
  unfold matcher
  split
  · exact ours_of_nil rfl
  · dsimp only
    split <;> exact hderived

theorem Held.selects_ours (h : Held) (name : String) (kind : NameKind) :
    (h.selects name kind).2.Ours :=
  (h.matcher_ours kind).bind fun _ => ours_of_nil rfl

theorem Held.selectsEach_ours (h : Held) (kind : NameKind) (names : List String) :
    (h.selectsEach kind names).2.Ours := by
  induction names generalizing h with
  | nil => exact ours_of_nil rfl
  | cons name names ih =>
      have hfirst := h.selects_ours name kind
      simp only [selectsEach]
      split
      · exact hfirst
      · intro r hr
        rcases List.mem_append.mp hr with hmem | hmem
        · exact hfirst r hmem
        · exact ih _ r hmem

/-- A description derives the regular expressions of both kinds. -/
theorem Held.describe_ours (h : Held) : h.describe.2.Ours := by
  have hclasses := h.matcher_ours .cls
  simp only [describe]
  split
  · exact hclasses
  · intro r hr
    rcases List.mem_append.mp hr with hmem | hmem
    · exact hclasses r hmem
    · exact matcher_ours _ .function r hmem

end

namespace Log

/-- The line that is written of a record in a form, given the text of its moment, if its fields
    can be written. -/
def Entry.line (form : LogFormat) (timestamp : String) (e : Entry) : String :=
  match form with
  | .text => e.textLine
  | .json => String.ofList (Json.compactChars (.table (e.payload timestamp)))

/-- The first character of a line in a form. -/
def opening : LogFormat → Char
  | .text => '['
  | .json => '\x7b'

theorem Entry.head?_line (form : LogFormat) (timestamp : String) (r : Record) (moment : Int) :
    ((Entry.line form timestamp ⟨r, moment, none⟩) ++ "\n").toList.head?
      = some (opening form) := by
  cases form with
  | text => simp [Entry.line, Entry.textLine, opening]
  | json => simp [Entry.line, Entry.payload, Json.compactChars, opening]

/-- The first character of a line tells its form. -/
theorem opening_inj {form form' : LogFormat} (h : opening form = opening form') :
    form = form' := by
  cases form <;> cases form' <;> first | rfl | exact absurd h (by decide)

namespace Setup

/-- The setup with one form and one level for all loggers of the library. -/
def configured (form : LogFormat) (level : Level) : Setup :=
  (rootLogger :: childLoggers).foldl (fun s logger => s.setLevel level logger)
    { handlers := [form], propagates := false }

/-- The levels that can be asked for hold for the loggers of all components. -/
theorem effective_configured (form : LogFormat) {level : Level}
    (h : level ∈ namedLevels.map (·.2)) (c : Component) :
    (configured form level).effective c.logger = level := by
  simp only [namedLevels, List.map_cons, List.map_nil, List.mem_cons, List.not_mem_nil,
    or_false] at h
  rcases h with rfl | rfl | rfl | rfl <;> cases form <;> cases c <;> decide +kernel

/-- The records that a setup shows. -/
def shown (s : Setup) (records : List Record) : List Record :=
  records.filter fun r => s.isEnabled r.logger r.level

end Setup

end Log

namespace CommandLine

open Log

/-- Every level that is asked for by name is one of those that can be. -/
theorem levelNamed_mem (name : String) : (levelNamed name).1 ∈ namedLevels.map (·.2) := by
  unfold levelNamed
  cases hfind : namedLevels.find? (·.1 = normalName name) with
  | none => decide
  | some m => exact List.mem_map_of_mem (List.mem_of_find?_eq_some hfind)

variable {form form' : LogFormat} {level level' : Level} {moment : Int} {timestamp : String}
  {records : List Record}

/-- The loggers of all components are below the root of the library's loggers. -/
theorem isOurs_configured (form : LogFormat) (level : Level) (c : Component) :
    (Setup.configured form level).isOurs c.logger = true := by
  cases c <;> rfl

/-- A record of the library is written on one line, or not at all. -/
theorem write_configured (form : LogFormat) (level : Level)
    (htime : Timestamp.text moment = .ok timestamp) {r : Record} (hours : r.IsOurs) :
    ((Setup.configured form level).write ⟨r, moment, none⟩).toOption.getD ""
      = if (Setup.configured form level).isEnabled r.logger r.level then
          Entry.line form timestamp ⟨r, moment, none⟩ ++ "\n"
        else "" := by
  obtain ⟨⟨c, hlogger⟩, hfields⟩ := hours
  -- Setting the levels leaves the forms alone.
  have hhandlers : (Setup.configured form level).handlers = [form] :=
    Setup.setLevel_handlers _ _ _
  have hrender : Entry.render form ⟨r, moment, none⟩
      = .ok (Entry.line form timestamp ⟨r, moment, none⟩) := by
    cases form with
    | text => rfl
    | json =>
        have hcompact : Json.compact (.table (Entry.payload ⟨r, moment, none⟩ timestamp))
            = .ok (Entry.line .json timestamp ⟨r, moment, none⟩) :=
          if_pos ((Entry.isShowable_payload _ _).trans hfields)
        simp only [Entry.render, Entry.jsonLine, htime]
        show (Json.compact _).mapError _ = _
        rw [hcompact]
        rfl
  unfold Setup.write
  cases (Setup.configured form level).isEnabled r.logger r.level with
  | false => rfl
  | true =>
      simp only [hlogger, isOurs_configured, hhandlers, List.mapM_cons, List.mapM_nil, hrender]
      show String.join [_] = _
      rw [String.join_cons, String.join_nil, String.append_empty, if_pos trivial]

/-- A log is the lines of the records that are shown. -/
theorem logText_configured (htime : Timestamp.text moment = .ok timestamp)
    (hours : ∀ r ∈ records, r.IsOurs) :
    logText (Setup.configured form level) moment records
      = String.join (((Setup.configured form level).shown records).map fun r =>
          Entry.line form timestamp ⟨r, moment, none⟩ ++ "\n") := by
  induction records with
  | nil => rfl
  | cons r records ih =>
      have hrest := ih fun r' hr' => hours r' (List.mem_cons_of_mem r hr')
      have hfirst := write_configured form level htime (hours r List.mem_cons_self)
      unfold logText Setup.shown at hrest ⊢
      rw [List.map_cons, String.join_cons, hrest, hfirst, List.filter_cons]
      split
      · rw [List.map_cons, String.join_cons]
      · rw [String.empty_append]

/-- Pieces that start with one character make a text that starts with it, unless there are
    none. -/
theorem head?_join {α : Type} {f : α → String} {c : Char}
    (hf : ∀ a, (f a).toList.head? = some c) (xs : List α) :
    (String.join (xs.map f)).toList.head? = xs.head?.map fun _ => c := by
  cases xs with
  | nil => rfl
  | cons x xs =>
      rw [List.map_cons, String.join_cons, String.toList_append, List.head?_append, hf]
      rfl

/-- No piece is empty, so a text of fewer pieces is shorter: one that is as long has all of them. -/
theorem eq_of_sublist_of_length_join {α : Type} {f : α → String} (hf : ∀ a, f a ≠ "")
    {xs ys : List α} (h : ys.Sublist xs) :
    (String.join (ys.map f)).length ≤ (String.join (xs.map f)).length ∧
      ((String.join (ys.map f)).length = (String.join (xs.map f)).length → ys = xs) := by
  induction h with
  | slnil => exact ⟨Nat.le_refl _, fun _ => rfl⟩
  | cons x _ ih =>
      have hx : (f x).length ≠ 0 := fun hzero => hf x (String.length_eq_zero_iff.mp hzero)
      simp only [List.map_cons, String.join_cons, String.length_append]
      exact ⟨by omega, fun heq => absurd heq (by omega)⟩
  | cons_cons x _ ih =>
      simp only [List.map_cons, String.join_cons, String.length_append]
      refine ⟨by omega, fun heq => ?_⟩
      rw [ih.2 (by omega)]

/-- A graver level shows some of the records that the other one shows. -/
theorem shown_sublist (hlevel : level ∈ namedLevels.map (·.2))
    (hlevel' : level' ∈ namedLevels.map (·.2))
    (hours : ∀ r ∈ records, r.IsOurs) (hle : level ≤ level') :
    ((Setup.configured form' level').shown records).Sublist
      ((Setup.configured form level).shown records) := by
  unfold Setup.shown
  -- What the graver level lets through, the other one does as well.
  have hmono : records.filter (fun r => (Setup.configured form' level').isEnabled r.logger r.level)
      = (records.filter fun r => (Setup.configured form level).isEnabled r.logger r.level).filter
          fun r => (Setup.configured form' level').isEnabled r.logger r.level := by
    rw [List.filter_filter]
    refine List.filter_congr fun r hr => ?_
    obtain ⟨c, hlogger⟩ := (hours r hr).component
    rw [Bool.eq_iff_iff]
    simp only [Setup.isEnabled, hlogger, Setup.effective_configured _ hlevel,
      Setup.effective_configured _ hlevel', Bool.and_eq_true, decide_eq_true_eq]
    constructor
    · rintro ⟨hpos, hgrave⟩
      exact ⟨⟨hpos, hgrave⟩, hpos, Int.le_trans hle hgrave⟩
    · exact And.left
  rw [hmono]
  exact List.filter_sublist

/-- Two logs of the same records are the same just if the same records are shown, and
    in the same form unless there are none. -/
theorem logText_eq_iff (hlevel : level ∈ namedLevels.map (·.2))
    (hlevel' : level' ∈ namedLevels.map (·.2))
    (htime : Timestamp.text moment = .ok timestamp) (hours : ∀ r ∈ records, r.IsOurs) :
    logText (Setup.configured form level) moment records
        = logText (Setup.configured form' level') moment records ↔
      (Setup.configured form level).shown records = (Setup.configured form' level').shown records ∧
        ((Setup.configured form level).shown records = [] ∨ form = form') := by
  rw [logText_configured htime hours, logText_configured htime hours]
  have hhead (form : LogFormat) (r : Record) :=
    Entry.head?_line form timestamp r moment
  constructor
  · intro heq
    by_cases hform : form = form'
    · subst hform
      refine ⟨?_, Or.inr rfl⟩
      have hne (r : Record) : Entry.line form timestamp ⟨r, moment, none⟩ ++ "\n" ≠ "" := by
        intro hempty
        have := hhead form r
        rw [hempty] at this
        cases this
      -- The records of the graver level are among those of the other one.
      rcases Int.le_total level level' with hle | hle
      · exact ((eq_of_sublist_of_length_join hne
          (shown_sublist hlevel hlevel' hours hle)).2 (congrArg String.length heq.symm)).symm
      · exact (eq_of_sublist_of_length_join hne
          (shown_sublist hlevel' hlevel hours hle)).2 (congrArg String.length heq)
    -- Two forms start with two characters, so no line of the one begins a log of the other.
    · have hopening := congrArg (fun s => s.toList.head?) heq
      simp only [head?_join (hhead form), head?_join (hhead form')] at hopening
      cases hshown : (Setup.configured form level).shown records with
      | nil =>
          rw [hshown] at hopening
          cases hshown' : (Setup.configured form' level').shown records with
          | nil => exact ⟨rfl, Or.inl rfl⟩
          | cons r rs =>
              rw [hshown'] at hopening
              cases hopening
      | cons r rs =>
          rw [hshown] at hopening
          cases hshown' : (Setup.configured form' level').shown records with
          | nil =>
              rw [hshown'] at hopening
              cases hopening
          | cons r' rs' =>
              rw [hshown'] at hopening
              exact absurd (opening_inj (Option.some.inj hopening)) hform
  · rintro ⟨hshown, hnone | rfl⟩
    · rw [← hshown, hnone]
      rfl
    · rw [hshown]

/-- A command reports that its file is missing, or nothing. -/
theorem loadFor_ours (fs : Files) (file : Option Path) : (loadFor fs file).Ours := by
  unfold loadFor
  split
  · exact Logged.ours_of_nil rfl
  · exact Logged.ours_of_nil rfl
  · next path _ =>
      split
      · exact Logged.ours_of_nil rfl
      · intro r hr
        rw [List.mem_singleton.mp hr]
        exact ⟨⟨.cli, rfl⟩, rfl⟩
      · exact Logged.ours_of_nil rfl

/-- Commands write no records but those of the library. -/
theorem execute_ours (fs : Files) (job : Job) : (job.execute fs).Ours := by
  cases job with
  | translate wildcards dashes json =>
      refine ((Wildcard.compileList_ours dashes _).mapError _).bind fun matcher => ?_
      cases json with
      | false => exact Logged.ours_of_nil rfl
      | true =>
          exact ((Logged.ours_mapM (Wildcard.compile_ours dashes) _).mapError _).bind
            fun _ => Logged.ours_of_nil rfl
  | display file json =>
      exact (loadFor_ours fs file).bind fun c =>
        ((Held.describe_ours ⟨c, none, none⟩).mapError _).bind fun _ => Logged.ours_of_nil rfl
  | check names kind file json =>
      refine (loadFor_ours fs file).bind fun c => ?_
      cases kind with
      | none => exact Logged.ours_of_nil rfl
      | some kind =>
          exact ((Held.selectsEach_ours ⟨c, none, none⟩ kind names).mapError _).bind
            fun _ => Logged.ours_of_nil rfl

end CommandLine

end NamePatterns
