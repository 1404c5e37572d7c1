import NamePatterns.Proofs.Config.Document
import NamePatterns.Proofs.Ini.Writing
import NamePatterns.Proofs.Log.Logged
import NamePatterns.Proofs.Toml.Writing

/-!
# Spellings of a Configuration

The ways to write wildcards down, and that they mean the same.

An INI document has the wildcards on the line of their key, or on indented lines
below it. A TOML document has them as a list, or as one text. The two formats
keep different texts, with line feeds or with spaces between the wildcards, but
only the wildcards themselves decide which names are selected: a text is split
at its blanks, and the regular expression is made of what it is split into.

A wildcard must be plain to be spelled in every way. It has no blanks, and none
of the signs that start comments in INI documents. It may have equals signs,
colons and brackets, which divide and open lines only at the start of a line.

The proof goes from either end to the middle. Each spelling is read into a
configuration, which says what text it keeps for the wildcards; and each of
these texts is split into the wildcards again. What is derived from a text
depends on the words it is split into and nothing else, so the spellings need
not be compared with each other.

## Main definitions

* `Wildcard.IsPlain`: A wildcard that can be spelled in every way.
* `Config.Spelling`: The texts that spell wildcards.
* `Config.writings`: One text for each way.

## Theorems

* `Wildcard.split_intercalate`: Wildcards are split again as they were joined.
* `Wildcard.compileListOrNothing_outcome`: The regular expression of a list follows from
  what is joined.
* `Config.matcher_of_split`, `Config.selects_of_split`: Only the split wildcards matter.
* `Config.Spelling.parse`: The configuration in a spelling.
* `Config.Spelling.of_mem_writings`: Plain wildcards can be spelled in every way.
* `Config.spellings_agree`: All spellings have the same wildcards, the same regular
  expressions and select the same names.
-/

namespace NamePatterns

namespace Wildcard

variable {dashes : Bool} {ws : List String}

/-- A wildcard that can be spelled in every way. -/
structure IsPlain (w : String) : Prop where
  word : Text.IsWord w.toList
  not_sign : ∀ c ∈ w.toList, Ini.isCommentSign c = false

instance (w : String) : Decidable (IsPlain w) :=
  decidable_of_iff (Text.IsWord w.toList ∧ w.toList.any Ini.isCommentSign = false)
    ⟨fun ⟨hword, hsign⟩ => ⟨hword, Text.any_eq_false.mp hsign⟩,
      fun ⟨hword, hsign⟩ => ⟨hword, Text.any_eq_false.mpr hsign⟩⟩

/-- Wildcards that are joined by a blank are split at it. -/
theorem split_intercalate {separator : String} {b : Char} (hseparator : separator.toList = [b])
    (hb : Text.isBlank b = true) (hne : ws ≠ []) (hws : ∀ w ∈ ws, Text.IsWord w.toList) :
    split (separator.intercalate ws) = ws := by
  have hwords : Text.words (separator.intercalate ws).toList = ws.map String.toList := by
    rw [String.toList_intercalate, hseparator]
    refine Text.words_intercalate hb fun w hw => ?_
    obtain ⟨v, hv, rfl⟩ := List.mem_map.mp hw
    exact hws v hv
  obtain ⟨w, vs, rfl⟩ := List.exists_cons_of_ne_nil hne
  unfold split
  rw [hwords, List.map_cons]
  dsimp only
  rw [← List.map_cons, List.map_map]
  exact (List.map_congr_left fun v _ => String.ofList_toList).trans (List.map_id _)

/-- The regular expression of a list follows from what is joined of its wildcards. -/
theorem compileListOrNothing_outcome (wildcards : String) :
    (compileListOrNothing dashes wildcards).outcome
      = (joined dashes wildcards).outcome >>= fun regex =>
          match Regex.parse regex.toList with
          | .ok tree => .ok ⟨regex, tree⟩
          | .error (.malformed _) => .ok .nothing
          | .error (.beyondLimit e) => .error e := by
  unfold compileListOrNothing compileList
  obtain ⟨records, outcome⟩ := joined dashes wildcards
  cases outcome with
  | error e => rfl
  | ok regex =>
      have hregex : (⟨records, .ok regex⟩ : Logged Regex.LimitError String).mapError
          ListError.beyondLimit = ⟨records, .ok regex⟩ := rfl
      simp only [hregex, Logged.bind_ok, Except.ok_bind]
      cases Regex.parse regex.toList with
      | ok tree => rfl
      | error e => cases e <;> rfl

/-- Lists that are split into the same wildcards become the same regular expression. -/
theorem compileListOrNothing_of_split {wildcards others : String}
    (h : split wildcards = split others) :
    (compileListOrNothing dashes wildcards).outcome
      = (compileListOrNothing dashes others).outcome := by
  -- The list itself appears in errors only, and these have been dropped.
  have hjoined : joined dashes wildcards = joined dashes others := by
    rw [joined, fragments, h]
    rfl
  rw [compileListOrNothing_outcome, compileListOrNothing_outcome, hjoined]

end Wildcard

namespace Config

open Wildcard (IsPlain split)

section

variable {c d : Config} {kind : NameKind} (h : split (c.effective kind) = split (d.effective kind))

include h

theorem matcher_of_split : (c.matcher kind).outcome = (d.matcher kind).outcome :=
  Wildcard.compileListOrNothing_of_split h

theorem selects_of_split (name : String) :
    (c.selects name kind).outcome = (d.selects name kind).outcome := by
  unfold selects
  rw [Logged.outcome_bind, Logged.outcome_bind, matcher_of_split h]

end

/-- A TOML text whose options give a value to the key of one kind, and none to the
    other. -/
def OptionsGive (text : String) (kind : NameKind) (v : Value) : Prop :=
  ∃ document options, Toml.parse text.toList = .ok document ∧
    Source.descend [] tomlTable document = .ok (some options) ∧
    options.find? kind.key = some v ∧ ∀ other, other ≠ kind → options.find? other.key = none

theorem optionsGive_of_parse {text : String} {kind : NameKind} {v : Value}
    (h : Toml.parse text.toList = .ok (Toml.optionTable kind v)) : OptionsGive text kind v := by
  refine ⟨_, [(kind.key, v)], h, rfl, ?_, fun other hother => ?_⟩
  · cases kind <;> rfl
  · cases kind <;> cases other
    · exact absurd rfl hother
    · rfl
    · rfl
    · exact absurd rfl hother

/-- The texts that spell wildcards for a kind of names. -/
inductive Spelling (kind : NameKind) (ws : List String) : ConfigFormat → String → Prop where
  /-- The wildcards are on the line of the key. -/
  | line {text : String}
      (lines : Text.lines text.toList = (Ini.lineRows kind ws).map String.toList) :
      Spelling kind ws .ini text
  /-- Each wildcard is on a line of its own. -/
  | block {text : String} {rows : List (String × String)} (wildcards : rows.map Prod.snd = ws)
      (indented : ∀ row ∈ rows, row.1.toList ≠ [] ∧ ∀ c ∈ row.1.toList, Text.isBlank c = true)
      (lines : Text.lines text.toList = (Ini.blockRows kind rows).map String.toList) :
      Spelling kind ws .ini text
  /-- The wildcards are a list. -/
  | list {text : String} (given : OptionsGive text kind (.list (ws.map .text))) :
      Spelling kind ws .toml text
  /-- The wildcards are one text. -/
  | joined {text : String} (given : OptionsGive text kind (.text (" ".intercalate ws))) :
      Spelling kind ws .toml text

/-- Texts that write wildcards in every way, with an indentation for lines of their own. -/
def writings (kind : NameKind) (indent : String) (ws : List String) :
    List (ConfigFormat × String) :=
  [(.ini, Ini.written (Ini.lineRows kind ws)),
    (.ini, Ini.written (Ini.blockRows kind (ws.map fun w => (indent, w)))),
    (.toml, String.ofList (Toml.optionText kind (Toml.quotedList ws))),
    (.toml, String.ofList (Toml.optionText kind (Toml.quoted (" ".intercalate ws))))]

theorem texts?_map (ws : List String) : Options.texts? (ws.map .text) = some ws :=
  Options.texts?_eq_some_iff.mpr rfl

/-- The wildcards for one kind of names, and none for the other. -/
def only (kind : NameKind) (raw : String) : Patterns :=
  match kind with
  | .cls => ⟨some raw, none⟩
  | .function => ⟨none, some raw⟩

theorem get_only (kind other : NameKind) (raw : String) :
    (only kind raw).get other = if other = kind then some raw else none := by
  cases kind <;> cases other <;> rfl

section

variable {kind : NameKind} {text raw : String}

/-- An INI document with one key is a configuration with the wildcards of one kind. -/
theorem parse_ini (h : Ini.parse text = .ok [(iniSection, [(kind.key, raw)])])
    (path : Option Path) :
    ∃ c, Config.parse (.text text) .ini path = .ok c ∧ c.patterns = only kind raw := by
  have hparse : Config.parse (.text text) .ini path
      = .ok (ofSource (.ini [(iniSection, [(kind.key, raw)])] path)) := by
    show (Source.ofIni text path).map ofSource = _
    unfold Source.ofIni
    rw [h]
    rfl
  refine ⟨_, hparse, ?_⟩
  cases kind <;> rfl

/-- A TOML document with one option is a configuration with the wildcards of one kind. -/
theorem parse_toml {v : Value} (h : OptionsGive text kind v)
    (hv : Options.wildcards? v = .ok (some raw)) (path : Option Path) :
    ∃ c, Config.parse (.text text) .toml path = .ok c ∧ c.patterns = only kind raw := by
  obtain ⟨document, options, hdocument, hfound, hvalue, hother⟩ := h
  have hfield : Options.field? options kind = .ok (some raw) := by
    rw [Options.field?, hvalue]
    exact hv
  -- The other option is absent, which is no error.
  have hrest : ∀ other, other ≠ kind → Options.field? options other = .ok none := by
    intro other hne
    rw [Options.field?, hother other hne]
    rfl
  have hoptions : Options.ofTable options = .ok (only kind raw) := by
    cases kind with
    | cls => rw [Options.ofTable, hfield, hrest .function (by decide), only]
    | function => rw [Options.ofTable, hfield, hrest .cls (by decide), only]
  have hparse : Config.parse (.text text) .toml path
      = .ok (ofSource (.toml (some (only kind raw)) path)) := by
    show (Source.ofToml text path).map ofSource = _
    rw [Source.ofToml, hdocument]
    show (Source.ofDocument document path).map ofSource = _
    rw [Source.ofDocument, hfound]
    dsimp only
    rw [hoptions]
    rfl
  exact ⟨_, hparse, rfl⟩

end

section

variable {kind : NameKind} {ws : List String} (hne : ws ≠ []) (hws : ∀ w ∈ ws, IsPlain w)

include hne hws

/-- A spelling is a configuration with the wildcards that it spells, and with the default
    for the other kind of names. -/
theorem Spelling.parse {form : ConfigFormat} {text : String} (h : Spelling kind ws form text)
    (path : Option Path) :
    ∃ c, Config.parse (.text text) form path = .ok c ∧ split (c.effective kind) = ws ∧
      ∀ other, other ≠ kind → c.effective other = other.defaultWildcards := by
  have hwords : ∀ w ∈ ws, Text.IsWord w.toList := fun w hw => (hws w hw).word
  have hspace : split (" ".intercalate ws) = ws :=
    Wildcard.split_intercalate rfl (by decide : Text.isBlank ' ' = true) hne hwords
  have hfeed : split ("\n".intercalate ws) = ws :=
    Wildcard.split_intercalate rfl (by decide : Text.isBlank '\n' = true) hne hwords
  -- Whatever separates the wildcards, they are split where they were joined.
  obtain ⟨raw, hraw, c, hc, hpatterns⟩ : ∃ raw, split raw = ws ∧
      ∃ c, Config.parse (.text text) form path = .ok c ∧ c.patterns = only kind raw := by
    cases h with
    | line lines => exact ⟨_, hspace, parse_ini (Ini.parse_line hne hwords kind lines) path⟩
    | @block _ rows wildcards indented lines =>
        subst wildcards
        have hplain : ∀ row ∈ rows, IsPlain row.2 := fun row hrow =>
          hws _ (List.mem_map_of_mem hrow)
        have hrows : rows ≠ [] := fun hnil => hne (List.map_eq_nil_iff.mpr hnil)
        exact ⟨_, hfeed, parse_ini (Ini.parse_block kind hrows indented
          (fun row hrow => ⟨(hplain row hrow).word, (hplain row hrow).not_sign⟩) lines) path⟩
    | list given =>
        have hv : Options.wildcards? (.list (ws.map .text)) = .ok (some (" ".intercalate ws)) := by
          rw [Options.wildcards?, texts?_map]
        exact ⟨_, hspace, parse_toml given hv path⟩
    | joined given => exact ⟨_, hspace, parse_toml given rfl path⟩
  refine ⟨c, hc, ?_, fun other hother => ?_⟩
  · rw [effective, hpatterns, get_only, if_pos rfl]
    exact hraw
  · rw [effective, hpatterns, get_only, if_neg hother]
    rfl

/-- Plain wildcards can be spelled in every way. -/
theorem Spelling.of_mem_writings {indent : String} (hindent : indent ≠ "")
    (hblank : ∀ c ∈ indent.toList, Text.isBlank c = true ∧ Text.isLineBreak c = false) :
    ∀ t ∈ writings kind indent ws, Spelling kind ws t.1 t.2 := by
  have hwords : ∀ w ∈ ws, Text.IsWord w.toList := fun w hw => (hws w hw).word
  -- No wildcard is empty, so no two quotes stand in a row as they do where a text of several
  -- lines begins.
  have hempty : ∀ w ∈ ws, w ≠ "" := fun w hw hnil =>
    (hwords w hw).ne_nil (String.toList_inj.mpr hnil)
  have hjoined : " ".intercalate ws ≠ "" := by
    intro hnil
    have hsplit := Wildcard.split_intercalate (rfl : " ".toList = [' ']) (by decide) hne hwords
    rw [hnil] at hsplit
    exact hempty "" (hsplit ▸ List.mem_cons_self) rfl
  have hnil : indent.toList ≠ [] := fun h => hindent (String.toList_inj.mp h)
  have hrows : ∀ row ∈ ws.map fun w => (indent, w), row.1 = indent ∧ row.2 ∈ ws := by
    intro row hrow
    obtain ⟨w, hw, rfl⟩ := List.mem_map.mp hrow
    exact ⟨rfl, hw⟩
  have hline : Spelling kind ws .ini (Ini.written (Ini.lineRows kind ws)) :=
    .line (Ini.lines_lineRows kind hwords)
  have hblock : Spelling kind ws .ini
      (Ini.written (Ini.blockRows kind (ws.map fun w => (indent, w)))) := by
    refine .block ?_ ?_ (Ini.lines_blockRows kind ?_ ?_)
    · rw [List.map_map]
      exact List.map_id _
    · intro row hrow
      rw [(hrows row hrow).1]
      exact ⟨hnil, fun c hc => (hblank c hc).1⟩
    · intro row hrow
      rw [(hrows row hrow).1]
      exact fun c hc => (hblank c hc).2
    · exact fun row hrow => hwords _ (hrows row hrow).2
  have hlist : Spelling kind ws .toml
      (String.ofList (Toml.optionText kind (Toml.quotedList ws))) := by
    refine .list (optionsGive_of_parse ?_)
    rw [String.toList_ofList]
    exact Toml.parse_list kind hne hempty
  have htext : Spelling kind ws .toml
      (String.ofList (Toml.optionText kind (Toml.quoted (" ".intercalate ws)))) := by
    refine .joined (optionsGive_of_parse ?_)
    rw [String.toList_ofList]
    exact Toml.parse_text kind hjoined
  intro t ht
  simp only [writings, List.mem_cons, List.not_mem_nil, or_false] at ht
  rcases ht with rfl | rfl | rfl | rfl
  · exact hline
  · exact hblock
  · exact hlist
  · exact htext

/-- Plain wildcards can be spelled in every way, and all their spellings have these
    wildcards, have the same regular expressions and select the same names. -/
theorem spellings_agree :
    (∀ indent : String, indent ≠ "" →
      (∀ c ∈ indent.toList, Text.isBlank c = true ∧ Text.isLineBreak c = false) →
      ∀ t ∈ writings kind indent ws, Spelling kind ws t.1 t.2) ∧
    ∀ form text form' text', Spelling kind ws form text → Spelling kind ws form' text' →
      ∀ path path', ∃ c d, Config.parse (.text text) form path = .ok c ∧
        Config.parse (.text text') form' path' = .ok d ∧
        split (c.effective kind) = ws ∧ split (d.effective kind) = ws ∧
        ∀ other, (c.matcher other).outcome = (d.matcher other).outcome ∧
          ∀ name, (c.selects name other).outcome = (d.selects name other).outcome := by
  refine ⟨fun indent => Spelling.of_mem_writings hne hws, ?_⟩
  intro form text form' text' h h' path path'
  obtain ⟨c, hc, hsplit, hdefault⟩ := h.parse hne hws path
  obtain ⟨d, hd, hsplit', hdefault'⟩ := h'.parse hne hws path'
  refine ⟨c, d, hc, hd, hsplit, hsplit', fun other => ?_⟩
  -- The wildcards of the kind are spelled, and those of the other kind are the default.
  have hsame : split (c.effective other) = split (d.effective other) := by
    by_cases hkind : other = kind
    · rw [hkind, hsplit, hsplit']
    · rw [hdefault other hkind, hdefault' other hkind]
  exact ⟨matcher_of_split hsame, selects_of_split hsame⟩

end

/-- Wildcards with brackets, an equals sign and a colon, on a line and as a list. -/
theorem spellings_agree_signs :
    (∀ w ∈ ["[ab]=*", "é:x"], IsPlain w) ∧
      ∃ c d, Config.parse (.text "[pytest]\npython_classes = [ab]=* é:x\n") .ini none = .ok c ∧
        Config.parse (.text
          "[tool.pytest.ini_options]\npython_classes = [\"[ab]=*\", \"é:x\"]\n") .toml none
          = .ok d ∧
        split (c.effective .cls) = ["[ab]=*", "é:x"] ∧
        split (d.effective .cls) = ["[ab]=*", "é:x"] ∧
        ∀ other, (c.matcher other).outcome = (d.matcher other).outcome ∧
          ∀ name, (c.selects name other).outcome = (d.selects name other).outcome := by
  have hplain : ∀ w ∈ ["[ab]=*", "é:x"], IsPlain w := by decide
  obtain ⟨hwritings, hagree⟩ := @spellings_agree .cls _ (List.cons_ne_nil _ _) hplain
  -- Both texts are among those that are written, with a space as the indentation.
  have hspelled := hwritings " " (by decide) (List.forall_mem_singleton.mpr ⟨rfl, rfl⟩)
  have hline := hspelled (.ini, "[pytest]\npython_classes = [ab]=* é:x\n") (by decide +kernel)
  have hlist := hspelled
    (.toml, "[tool.pytest.ini_options]\npython_classes = [\"[ab]=*\", \"é:x\"]\n")
    (by decide +kernel)
  exact ⟨hplain, hagree _ _ _ _ hline hlist none none⟩

end Config

end NamePatterns
