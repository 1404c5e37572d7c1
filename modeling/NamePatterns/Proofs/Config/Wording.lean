import NamePatterns.Proofs.Project.Failures
import NamePatterns.Proofs.Config.Document
import NamePatterns.Proofs.Text.Feeds

/-!
# How Refused Contents Are Worded

When the report on contents that are no configuration takes one line.

A report names the file and tells the cause. What it shows of the contents stands between
quotes, and the rest are fixed words and numbers. So the causes are told on one line, with one
exception: the report on options takes several lines for each option. What is left is the name of
the file, which is shown as it is.

Each text is taken apart at the places where something is put into it. The words
between them are computed, a number has digits only, and what is quoted has no
line feed of its own, because quoting writes one as a backslash and a letter.

## Main definitions

* `Table.HasWrongOption`, `Content.HasWrongOption`: An option that gives no wildcards.
* `Config.Worded`: Contents are refused on several lines for one reason, and on one line for all
  others.

## Theorems

* `Toml.ParseError.feeds_message`, `Ini.ParseError.feeds_message`,
  `Utf8.DecodeError.feeds_message`: Causes that are told on one line.
* `OptionsError.feeds_message_pos`: The one that is not.
* `Config.parse_worded`: The reports on contents of a file whose name has no line feed.
-/

namespace NamePatterns

open Text (feeds feeds_append_eq_zero feeds_intercalate feeds_ofList_eq_zero feeds_ofList_quote
  feeds_quoted feeds_toString)

/-- A fault of a document is worded without line feeds, whatever it quotes. -/
theorem Ini.Fault.feeds_message (f : Fault) : feeds f.message = 0 := by
  cases f with
  | unexpectedLine line =>
      exact feeds_append_eq_zero (feeds_ofList_eq_zero (by decide)) (feeds_ofList_quote line)
  | duplicateSection name =>
      exact feeds_append_eq_zero (feeds_ofList_eq_zero (by decide)) (feeds_quoted name)
  | duplicateName name =>
      exact feeds_append_eq_zero (feeds_ofList_eq_zero (by decide)) (feeds_quoted name)
  | _ => exact feeds_ofList_eq_zero (by decide)

/-- A parse error is worded without line feeds if the name of the file has none. -/
theorem Ini.ParseError.feeds_message {file : String} (hfile : feeds file = 0) (e : ParseError) :
    feeds (e.message file) = 0 := by
  have hline : feeds (file ++ ":" ++ toString e.line) = 0 :=
    feeds_append_eq_zero (feeds_append_eq_zero hfile rfl) (feeds_toString e.line)
  exact feeds_append_eq_zero (feeds_append_eq_zero hline rfl) e.fault.feeds_message

namespace Toml

/-- The parts of a key are shown between quotes. -/
theorem Key.feeds_shown (key : Key) : feeds key.shown = 0 := by
  have hparts : ∀ s ∈ List.map Text.quoted key, feeds s = 0 := by
    intro s hs
    obtain ⟨part, _, rfl⟩ := List.mem_map.mp hs
    exact feeds_quoted part
  have hjoined : feeds ("(" ++ ", ".intercalate (List.map Text.quoted key) ++ ")") = 0 :=
    feeds_append_eq_zero (feeds_append_eq_zero rfl (feeds_intercalate rfl hparts)) rfl
  unfold shown
  split
  · next part => exact feeds_append_eq_zero (feeds_append_eq_zero rfl (feeds_quoted part)) rfl
  · exact hjoined

/-- A fault of a document is worded without line feeds, whatever it quotes. -/
theorem Fault.feeds_message (f : Fault) : feeds f.message = 0 := by
  -- Fixed words in front of something that has been looked at.
  have hwords {words : List Char} (h : '\n' ∉ words) {s : String} (hs : feeds s = 0) :
      feeds (String.ofList words ++ s) = 0 :=
    feeds_append_eq_zero (feeds_ofList_eq_zero h) hs
  cases f with
  | declaredTwice key => exact feeds_append_eq_zero (hwords (by decide) key.feeds_shown) rfl
  | immutable key => exact hwords (by decide) key.feeds_shown
  | redefinesTable key => exact hwords (by decide) key.feeds_shown
  | duplicateInlineKey part => exact hwords (by decide) (feeds_quoted part)
  | endExpected terminator => exact hwords (by decide) (feeds_ofList_quote terminator)
  | invalidCharacter c => exact hwords (by decide) (feeds_ofList_quote [c])
  | illegalCharacter c => exact hwords (by decide) (feeds_ofList_quote [c])
  | _ => exact feeds_ofList_eq_zero (by decide)

/-- A parse error is worded without line feeds. -/
theorem ParseError.feeds_message (text : List Char) (e : ParseError) :
    feeds (e.message text) = 0 := by
  have hplace (line column : Nat) :
      feeds ("line " ++ toString line ++ ", column " ++ toString column) = 0 := by
    have hline : feeds ("line " ++ toString line) = 0 :=
      feeds_append_eq_zero rfl (feeds_toString line)
    exact feeds_append_eq_zero (feeds_append_eq_zero hline rfl) (feeds_toString column)
  unfold message
  refine feeds_append_eq_zero (feeds_append_eq_zero
    (feeds_append_eq_zero e.fault.feeds_message rfl) ?_) rfl
  dsimp only
  split
  · rfl
  · exact hplace _ _

end Toml

/-- A decoding error is worded without line feeds: bytes are shown by their number. -/
theorem Utf8.DecodeError.feeds_message (e : DecodeError) : feeds e.message = 0 := by
  have hreason : feeds e.fault.reason = 0 := by
    cases e.fault <;> exact feeds_ofList_eq_zero (by decide)
  have hbyte : feeds (String.ofList (Text.hex 2 e.firstByte.toNat)) = 0 :=
    feeds_ofList_eq_zero (Text.feed_not_mem_hex _ _)
  unfold message
  refine feeds_append_eq_zero (feeds_append_eq_zero
    (feeds_append_eq_zero (feeds_ofList_eq_zero (by decide)) ?_) rfl) hreason
  split
  · exact feeds_append_eq_zero (feeds_append_eq_zero (feeds_append_eq_zero rfl hbyte)
      (feeds_ofList_eq_zero (by decide))) (feeds_toString _)
  · exact feeds_append_eq_zero (feeds_append_eq_zero (feeds_append_eq_zero
      (feeds_ofList_eq_zero (by decide)) (feeds_toString _)) rfl) (feeds_toString _)

/-- The report on options has a line feed behind its first line. -/
theorem OptionsError.feeds_message_pos (e : OptionsError) : 0 < feeds e.message := by
  cases e with
  | notTable v =>
      have hend : feeds "]\n" = 1 := rfl
      simp only [message, evidence, Text.feeds_append, hend]
      omega
  | wrongValues first others =>
      have hend : feeds "\n" = 1 := rfl
      rw [message, List.map_cons, String.intercalate_cons_cons, Text.feeds_append,
        Text.feeds_append, hend]
      omega

/-- In a document, the keys of the options lead to a table in which one has a value that gives
    no wildcards. -/
def Table.HasWrongOption (document : Table) : Prop :=
  ∃ t kind v, Table.Leads document tomlTable t ∧ Options.Wrong t kind v

/-- As a TOML document, contents have an option whose value gives no wildcards. -/
def Content.HasWrongOption (content : Content) (format : ConfigFormat) : Prop :=
  format = .toml ∧ ∃ text document, content.text? = some text ∧
    Toml.parse text.toList = .ok document ∧ document.HasWrongOption

/-- The keys that were walked are some of those that lead to the options. -/
theorem Table.Blocked.feeds_message {document : Table} {walked : List String}
    (h : Table.Blocked document tomlTable walked) :
    feeds (InvalidCause.notTable walked).message = 0 := by
  -- The keys are those of the program, not of the document.
  have hkeys : ∀ key ∈ tomlTable, feeds key = 0 := by
    decide
  obtain ⟨front, key, rest, inner, htable, rfl, _, _⟩ := h
  rw [htable] at hkeys
  have hwalked : ∀ k ∈ front ++ [key], feeds k = 0 := by
    intro k hk
    refine hkeys k ?_
    rw [List.append_cons]
    exact List.mem_append_left rest hk
  exact feeds_append_eq_zero (feeds_append_eq_zero rfl (feeds_intercalate rfl hwalked))
    (feeds_ofList_eq_zero (by decide))

namespace Config

variable {α β : Type} {path : Option Path} {wrong : Prop}

/-- What is refused is reported on one line, unless something is wrong, and only then on
    several. -/
def Worded (wrong : Prop) : Except ConfigError α → Prop
  | .error (.invalid e) => feeds e.message = 0 ↔ ¬wrong
  | .error (.tooManyDigits _) | .ok _ => ¬wrong

namespace Worded

/-- A report has the line feeds of the cause if the name of the file has none. -/
theorem because (hpath : ∀ p, path = some p → feeds p.text = 0) {cause : InvalidCause}
    (h : feeds cause.message = 0 ↔ ¬wrong) :
    Worded wrong (ConfigError.because path cause : Except ConfigError α) := by
  have hfile : feeds (shownPath path) = 0 := by
    cases path with
    | none => exact feeds_ofList_eq_zero (by decide)
    | some p => exact hpath p rfl
  have hfront : feeds ("Invalid pytest configuration in " ++ shownPath path ++ ": ") = 0 :=
    feeds_append_eq_zero (feeds_append_eq_zero (feeds_ofList_eq_zero (by decide)) hfile) rfl
  show feeds ("Invalid pytest configuration in " ++ shownPath path ++ ": " ++ cause.message) = 0
    ↔ ¬wrong
  rw [Text.feeds_append, hfront, Nat.zero_add]
  exact h

theorem map {x : Except ConfigError α} (h : Worded wrong x) (f : α → β) :
    Worded wrong (x.map f) := by
  cases x with
  | ok a => exact h
  | error e => cases e <;> exact h

end Worded

/-- An INI text has no options of other kinds than text. -/
theorem ofIni_worded (hpath : ∀ p, path = some p → feeds p.text = 0) (text : String)
    (hright : ¬wrong) : Worded wrong (Source.ofIni text path) := by
  unfold Source.ofIni
  cases Ini.parse text with
  | ok document => exact hright
  | error e =>
      refine .because hpath (iff_of_true (Ini.ParseError.feeds_message ?_ e) hright)
      cases path with
      | none => exact feeds_ofList_eq_zero (by decide)
      | some p => exact hpath p rfl

/-- A document is refused on several lines just if one of its options is wrong. -/
theorem ofDocument_worded (hpath : ∀ p, path = some p → feeds p.text = 0) (document : Table) :
    Worded document.HasWrongOption (Source.ofDocument document path) := by
  have hwalk {t : Table} (hleads : Table.Leads document tomlTable t) :
      Source.descend [] tomlTable document = .ok (some t) :=
    Source.descend_leads hleads
  -- The document is refused for its options only where the walk arrives.
  rcases Table.leads_or document tomlTable with hmissing | ⟨walked, hblocked⟩ | ⟨t, hleads⟩
  · have hright : ¬document.HasWrongOption := by
      rintro ⟨t, kind, v, hleads, _⟩
      have hsame := (hwalk hleads).symm.trans (Source.descend_missing hmissing)
      cases hsame
    rw [Source.ofDocument, Source.descend_missing hmissing]
    exact hright
  · have hright : ¬document.HasWrongOption := by
      rintro ⟨t, kind, v, hleads, _⟩
      have hsame := (hwalk hleads).symm.trans (Source.descend_blocked hblocked)
      cases hsame
    rw [Source.ofDocument, Source.descend_blocked hblocked]
    exact .because hpath (iff_of_true hblocked.feeds_message hright)
  · have hwrong : document.HasWrongOption ↔ ∃ kind v, Options.Wrong t kind v := by
      constructor
      · rintro ⟨t', kind, v, hleads', h⟩
        -- A walk arrives at one table only.
        have hsame := (hwalk hleads').symm.trans (hwalk hleads)
        obtain rfl := Option.some.inj (Except.ok.inj hsame)
        exact ⟨kind, v, h⟩
      · rintro ⟨kind, v, h⟩
        exact ⟨t, kind, v, hleads, h⟩
    rw [Source.ofDocument_leads hleads, hwrong, ← Options.ofTable_error_iff]
    cases Options.ofTable t with
    | ok options =>
        rintro ⟨e, he⟩
        cases he
    | error e =>
        refine .because hpath (iff_of_false ?_ fun hnone => hnone ⟨e, rfl⟩)
        exact Nat.ne_of_gt e.feeds_message_pos

/-- A TOML text is refused on several lines just if it is a document with a wrong option. -/
theorem ofToml_worded (hpath : ∀ p, path = some p → feeds p.text = 0) (text : String) :
    Worded (∃ document, Toml.parse text.toList = .ok document ∧ document.HasWrongOption)
      (Source.ofToml text path) := by
  unfold Source.ofToml
  cases Toml.parse text.toList with
  | ok document =>
      have hworded := ofDocument_worded hpath document
      simpa only [Except.ok.injEq, exists_eq_left'] using hworded
  | error e =>
      have hright : ¬∃ document, (Except.error e : Except Toml.Refusal Table) = .ok document ∧
          document.HasWrongOption := by
        rintro ⟨document, hdocument, _⟩
        cases hdocument
      cases e with
      | malformed e =>
          have hcause : feeds (InvalidCause.toml text e).message = 0 :=
            e.feeds_message (Toml.withFeeds text.toList)
          exact .because hpath (iff_of_true hcause hright)
      | tooManyDigits e => exact hright

/-- The reports on contents of a file whose name has no line feed: they take one line each,
    unless an option has a value that gives no wildcards, and then they take several. -/
theorem parse_worded (hpath : ∀ p, path = some p → feeds p.text = 0) (content : Content)
    (format : ConfigFormat) :
    Worded (content.HasWrongOption format) (Config.parse content format path) := by
  refine Worded.map ?_ _
  unfold Source.parse
  -- Either there is a text, and its format decides, or the bytes are none.
  rcases decode_cases content path with ⟨text, htext, hdecode⟩ | ⟨hnone, _⟩
  · rw [hdecode]
    cases format with
    | ini => exact ofIni_worded hpath text fun h => nomatch h.1
    | toml =>
        have hwrong : content.HasWrongOption .toml ↔
            ∃ document, Toml.parse text.toList = .ok document ∧ document.HasWrongOption := by
          simp [Content.HasWrongOption, htext]
        rw [hwrong]
        exact ofToml_worded hpath text
  · -- What is no text has no options.
    have hright : ¬content.HasWrongOption format := by
      rintro ⟨_, text, _, htext, _⟩
      rw [hnone] at htext
      cases htext
    cases content with
    | text s => cases hnone
    | bytes bs =>
        cases hdecode : Utf8.decode bs with
        | ok s =>
            rw [Content.text?, hdecode] at hnone
            cases hnone
        | error e =>
            have hread : Source.decode (.bytes bs) path
                = ConfigError.because path (.encoding e) := by
              rw [Source.decode, hdecode]
            have hcause : feeds (InvalidCause.encoding e).message = 0 := e.feeds_message
            have hworded : Worded (Content.HasWrongOption (.bytes bs) format)
                (ConfigError.because path (.encoding e) : Except ConfigError Source) :=
              .because hpath (iff_of_true hcause hright)
            rw [hread]
            exact hworded

end Config

end NamePatterns
