import NamePatterns.Config.Defaults
import NamePatterns.Ini
import NamePatterns.Proofs.Text.Words

/-!
# Writing INI Documents

INI documents that set one key to words, read again.

The words stand on the line of the key, separated by spaces, or each of them has
an indented line of its own below it. Both documents say the same, but for what
separates the words: a space, or a line feed. A document is given by its lines,
so it does not matter how these end.

A document is read line by line, and each line alone is told to be a section, a
key or the continuation of a value. So the proof is about single lines, and only
the continuations need an induction: the value above them grows by a line each
time.

## Main definitions

* `Ini.written`: Lines as a text.
* `Ini.lineRows`: The lines with the words on the line of the key.
* `Ini.blockRows`: The lines with a line for each word.

## Theorems

* `Ini.readLine_entry`: The line of a key, with its value.
* `Ini.readLine_indented`: An indented line.
* `Ini.collect_indented`: Indented lines below a value.
* `Ini.parse_line`: The document with the words on one line.
* `Ini.parse_block`: The document with a line for each word.
* `Ini.lines_written`: The lines of a text that is made of lines.
-/

namespace NamePatterns

namespace Ini

open Text (IsWord)

/-- The line of a key has the key and what stands behind the equals sign. -/
theorem readLine_entry (kind : NameKind) (value : List Char)
    (hright : Text.trimRight (kind.key.toList ++ ' ' :: '=' :: value)
      = kind.key.toList ++ ' ' :: '=' :: value) :
    readLine (kind.key.toList ++ ' ' :: '=' :: value)
      = .ok (.entry kind.key.toList (Text.trim value)) := by
  -- The key decides what becomes of the line, whatever stands behind the equals sign.
  have hsays : saysNothing (kind.key.toList ++ ' ' :: '=' :: value) = false := by
    cases kind <;> rfl
  have hkey : keyValue? (kind.key.toList ++ ' ' :: '=' :: value)
      = some (kind.key.toList ++ [' '], value) := by
    cases kind <;> rfl
  have htrim : Text.trim (kind.key.toList ++ [' ']) = kind.key.toList := by
    cases kind <;> rfl
  obtain ⟨cs, hline⟩ : ∃ cs, kind.key.toList ++ ' ' :: '=' :: value = 'p' :: cs := by
    cases kind <;> exact ⟨_, rfl⟩
  rw [hline] at hsays hkey hright ⊢
  simp only [readLine, hsays, hright, hkey, htrim, Bool.false_eq_true, if_false]
  rfl

/-- An indented line goes on with the word that it holds. -/
theorem readLine_indented {indent w : List Char} (hne : indent ≠ [])
    (hindent : ∀ c ∈ indent, Text.isBlank c = true) (hw : IsWord w)
    (hsign : ∀ c ∈ w, isCommentSign c = false) :
    readLine (indent ++ w) = .ok (.continuation w) := by
  have hleft : Text.trimLeft (indent ++ w) = w := by
    have hword := Text.trimLeft_word_append hw []
    rw [List.append_nil] at hword
    rw [Text.trimLeft_blanks_append hindent, hword]
  have htrim : Text.trim (indent ++ w) = w := by
    rw [Text.trim, hleft]
    exact Text.trimRight_append_word hw []
  have hright := Text.trimRight_append_word hw indent
  have hsays : saysNothing (indent ++ w) = false := by
    rw [saysNothing, hleft]
    cases w with
    | nil => exact absurd rfl hw.ne_nil
    | cons c w => exact hsign c List.mem_cons_self
  obtain ⟨b, cs, hline⟩ := List.exists_cons_of_ne_nil hne
  have hblank : Text.isBlank b = true := hindent b (hline ▸ List.mem_cons_self)
  -- A blank is no bracket, so the line opens no section.
  have hbracket : b ≠ '[' := by
    rintro rfl
    exact absurd hblank (by decide)
  rw [hline, List.cons_append] at hright hsays htrim ⊢
  simp only [readLine, hsays, hright, hblank, htrim, Bool.false_eq_true, if_false, if_true]

theorem readLine_section : readLine "[pytest]".toList = .ok (.header iniSection.toList) :=
  rfl

theorem isLineBreak_section : ∀ c ∈ "[pytest]".toList, Text.isLineBreak c = false :=
  Text.any_eq_false.mp rfl

/-- A text that starts with a byte order mark has it on its first line. -/
theorem lines_mark_ne (cs : List Char) (ls : List (List Char)) :
    Text.lines ('\uFEFF' :: cs) ≠ "[pytest]".toList :: ls := by
  have hmark : Text.isLineBreak '\uFEFF' = false := by decide
  rw [Text.lines, hmark]
  · cases Text.lines cs with
    | nil =>
        intro h
        exact absurd (List.cons.inj (List.cons.inj h).1).1 (by decide)
    | cons l ls' =>
        intro h
        exact absurd (List.cons.inj (List.cons.inj h).1).1 (by decide)
  · rintro _ hreturn
    exact absurd hreturn (by decide)

/-- Indented words are added to the value of the key above them. -/
theorem collect_indented {rows : List (String × String)}
    (hindent : ∀ row ∈ rows, row.1.toList ≠ [] ∧ ∀ c ∈ row.1.toList, Text.isBlank c = true)
    (hws : ∀ row ∈ rows, IsWord row.2.toList ∧ ∀ c ∈ row.2.toList, isCommentSign c = false)
    (number line : Nat) (sec current : Option String) (key value : String) (above : List Item) :
    collect number current (.entry line sec key value :: above)
        (rows.map fun row => row.1.toList ++ row.2.toList)
      = .ok (above.reverse ++ [.entry line sec key
          ((rows.map Prod.snd).foldl (fun value w => continued value w.toList) value)]) := by
  induction rows generalizing number value with
  | nil =>
      rw [List.map_nil, collect, List.reverse_cons]
      rfl
  | cons row rows ih =>
      obtain ⟨hne, hblank⟩ := hindent row List.mem_cons_self
      obtain ⟨hw, hsign⟩ := hws row List.mem_cons_self
      rw [List.map_cons, collect, readLine_indented hne hblank hw hsign]
      exact ih (fun row' h => hindent row' (List.mem_cons_of_mem row h))
        (fun row' h => hws row' (List.mem_cons_of_mem row h)) (number + 1) _

theorem continued_of_ne {value : String} (h : value ≠ "") (w : String) :
    continued value w.toList = value ++ "\n" ++ w := by
  -- Only an empty value takes no line feed in front of what is added.
  have hempty : value.isEmpty = false := by
    simpa using h
  rw [continued, hempty]
  simp

theorem intercalate_append_cons (x w : String) (ws : List String) :
    "\n".intercalate ((x ++ w) :: ws) = x ++ "\n".intercalate (w :: ws) := by
  cases ws with
  | nil => rw [String.intercalate_singleton, String.intercalate_singleton]
  | cons v ws =>
      rw [String.intercalate_cons_cons, String.intercalate_cons_cons, String.append_assoc,
        String.append_assoc, String.append_assoc]

/-- Words below a value are added to it with line feeds between them. -/
theorem foldl_continued {value : String} (h : value ≠ "") (ws : List String) :
    ws.foldl (fun value w => continued value w.toList) value
      = "\n".intercalate (value :: ws) := by
  induction ws generalizing value with
  | nil => rw [List.foldl_nil, String.intercalate_singleton]
  | cons w ws ih =>
      have hnext : value ++ "\n" ++ w ≠ "" := by
        intro hempty
        have hlength := congrArg String.length hempty
        simp at hlength
      rw [List.foldl_cons, continued_of_ne h, ih hnext, intercalate_append_cons,
        String.intercalate_cons_cons]

/-- A document that is made of one section with one key. -/
theorem parse_of_collect {text : String} {ls : List (List Char)} {kind : NameKind} {value : String}
    (htext : Text.lines text.toList = "[pytest]".toList :: ls)
    (hcollect : collect 2 (some iniSection) [.header 1 iniSection] ls
      = .ok [.header 1 iniSection, .entry 2 (some iniSection) kind.key value]) :
    parse text = .ok [(iniSection, [(kind.key, value)])] := by
  -- The first line starts with its bracket, so no mark stands in front of it.
  have hmark : withoutMark text.toList = text.toList := by
    unfold withoutMark
    split
    · next cs heq =>
        rw [heq] at htext
        exact absurd htext (lines_mark_ne cs ls)
    · rfl
  have hfirst : collect 1 none [] ("[pytest]".toList :: ls)
      = collect 2 (some iniSection) [.header 1 iniSection] ls := by
    rw [collect, readLine_section]
    simp [addLine]
  unfold parse
  rw [hmark, htext, hfirst, hcollect]
  cases kind <;> rfl

/-- A document in lines. -/
def written (rows : List String) : String :=
  String.join (rows.map (· ++ "\n"))

theorem lines_written {rows : List String}
    (h : ∀ row ∈ rows, ∀ c ∈ row.toList, Text.isLineBreak c = false) :
    Text.lines (written rows).toList = rows.map String.toList := by
  induction rows with
  | nil => rfl
  | cons row rows ih =>
      have hrest := ih fun row' hrow => h row' (List.mem_cons_of_mem row hrow)
      have hfirst : (written (row :: rows)).toList
          = row.toList ++ '\n' :: (written rows).toList := by
        simp [written]
      rw [hfirst, Text.lines_append_feed (h row List.mem_cons_self), hrest, List.map_cons]

/-- The lines that set a key to words on one line. -/
def lineRows (kind : NameKind) (ws : List String) : List String :=
  ["[pytest]", kind.key ++ " = " ++ " ".intercalate ws]

/-- The lines that set a key to words, each on a line of its own behind an indentation. -/
def blockRows (kind : NameKind) (rows : List (String × String)) : List String :=
  "[pytest]" :: (kind.key ++ " =") :: rows.map fun row => row.1 ++ row.2

section

variable {ws : List String} (hne : ws ≠ []) (hws : ∀ w ∈ ws, IsWord w.toList)

include hne hws

/-- The line of a key with words separated by spaces. -/
theorem readLine_words (kind : NameKind) :
    readLine (kind.key.toList ++ ' ' :: '=' :: ' ' :: (" ".intercalate ws).toList)
      = .ok (.entry kind.key.toList (" ".intercalate ws).toList) := by
  have hwords : ∀ w ∈ ws.map String.toList, IsWord w := by
    intro w hw
    obtain ⟨v, hv, rfl⟩ := List.mem_map.mp hw
    exact hws v hv
  have hnil : ws.map String.toList ≠ [] := fun h => hne (List.map_eq_nil_iff.mp h)
  -- What is joined starts and ends with a word, so nothing is trimmed but the space in front.
  obtain ⟨⟨w, hw, y, hleft⟩, v, hv, x, hright⟩ := Text.intercalate_words hnil hwords [' ']
  have hbody : (" ".intercalate ws).toList = [' '].intercalate (ws.map String.toList) :=
    String.toList_intercalate
  rw [← hbody] at hleft hright
  have htrim : Text.trim (' ' :: (" ".intercalate ws).toList) = (" ".intercalate ws).toList := by
    have hblank : Text.trimLeft (' ' :: (" ".intercalate ws).toList)
        = (" ".intercalate ws).toList := by
      rw [hleft]
      exact (Text.trimLeft_blanks_append (List.forall_mem_singleton.mpr rfl) _).trans
        (Text.trimLeft_word_append (hwords w hw) y)
    rw [Text.trim, hblank, hright, Text.trimRight_append_word (hwords v hv)]
  rw [readLine_entry, htrim]
  have hsplit : kind.key.toList ++ ' ' :: '=' :: ' ' :: (x ++ v)
      = (kind.key.toList ++ ' ' :: '=' :: ' ' :: x) ++ v := by
    rw [List.append_assoc]
    rfl
  rw [hright, hsplit, Text.trimRight_append_word (hwords v hv)]

/-- The document with the words on one line. -/
theorem parse_line (kind : NameKind) {text : String}
    (htext : Text.lines text.toList = (lineRows kind ws).map String.toList) :
    parse text = .ok [(iniSection, [(kind.key, " ".intercalate ws)])] := by
  have hline : (kind.key ++ " = " ++ " ".intercalate ws).toList
      = kind.key.toList ++ ' ' :: '=' :: ' ' :: (" ".intercalate ws).toList := by
    simp
  rw [lineRows, List.map_cons, List.map_singleton, hline] at htext
  refine parse_of_collect htext ?_
  simp only [collect, readLine_words hne hws kind, addLine, String.ofList_toList]
  rfl

end

/-- The document with a line for each word, where no word has the sign of a comment. -/
theorem parse_block (kind : NameKind) {text : String} {rows : List (String × String)}
    (hne : rows ≠ [])
    (hindent : ∀ row ∈ rows, row.1.toList ≠ [] ∧ ∀ c ∈ row.1.toList, Text.isBlank c = true)
    (hws : ∀ row ∈ rows, IsWord row.2.toList ∧ ∀ c ∈ row.2.toList, isCommentSign c = false)
    (htext : Text.lines text.toList = (blockRows kind rows).map String.toList) :
    parse text
      = .ok [(iniSection, [(kind.key, "\n".intercalate (rows.map Prod.snd))])] := by
  have hlines : (blockRows kind rows).map String.toList = "[pytest]".toList ::
      (kind.key.toList ++ [' ', '=']) :: rows.map fun row => row.1.toList ++ row.2.toList := by
    simp [blockRows]
  have hkey : readLine (kind.key.toList ++ [' ', '=']) = .ok (.entry kind.key.toList []) := by
    cases kind <;> rfl
  rw [hlines] at htext
  refine parse_of_collect htext ?_
  obtain ⟨row, rest, rfl⟩ := List.exists_cons_of_ne_nil hne
  have hw : row.2 ≠ "" := fun hempty =>
    (hws row List.mem_cons_self).1.ne_nil (String.toList_inj.mpr hempty)
  -- Behind the equals sign there is nothing, so the first word has no line feed in front of
  -- it.
  have hfirst : continued "" row.2.toList = row.2 := by
    simp [continued]
  have hvalue : ((row :: rest).map Prod.snd).foldl (fun value w => continued value w.toList)
      (String.ofList []) = "\n".intercalate ((row :: rest).map Prod.snd) := by
    rw [List.map_cons, List.foldl_cons]
    exact (congrArg ((rest.map Prod.snd).foldl _) hfirst).trans (foldl_continued hw _)
  rw [collect, hkey]
  simp only [addLine, String.ofList_toList]
  rw [collect_indented hindent hws, hvalue]
  rfl

theorem isLineBreak_key (kind : NameKind) : ∀ c ∈ kind.key.toList, Text.isLineBreak c = false := by
  refine Text.any_eq_false.mp ?_
  cases kind <;> rfl

/-- The lines with the words on one line, in a text. -/
theorem lines_lineRows (kind : NameKind) {ws : List String} (hws : ∀ w ∈ ws, IsWord w.toList) :
    Text.lines (written (lineRows kind ws)).toList = (lineRows kind ws).map String.toList := by
  refine lines_written fun row hrow c hc => ?_
  rcases List.mem_cons.mp hrow with rfl | hrow
  · exact isLineBreak_section c hc
  rw [List.mem_singleton.mp hrow, String.toList_append, String.toList_append, List.mem_append,
    List.mem_append] at hc
  rcases hc with (hc | hc) | hc
  · exact isLineBreak_key kind c hc
  · exact Text.any_eq_false.mp (rfl : " = ".toList.any Text.isLineBreak = false) c hc
  · rw [String.toList_intercalate] at hc
    rcases Text.mem_intercalate hc with hspace | ⟨w, hw, hc⟩
    · exact Text.any_eq_false.mp (rfl : " ".toList.any Text.isLineBreak = false) c hspace
    · obtain ⟨v, hv, rfl⟩ := List.mem_map.mp hw
      exact (hws v hv).not_lineBreak c hc

/-- The lines with a line for each word, in a text. -/
theorem lines_blockRows (kind : NameKind) {rows : List (String × String)}
    (hindent : ∀ row ∈ rows, ∀ c ∈ row.1.toList, Text.isLineBreak c = false)
    (hws : ∀ row ∈ rows, IsWord row.2.toList) :
    Text.lines (written (blockRows kind rows)).toList
      = (blockRows kind rows).map String.toList := by
  refine lines_written fun row hrow c hc => ?_
  rcases List.mem_cons.mp hrow with rfl | hrow
  · exact isLineBreak_section c hc
  rcases List.mem_cons.mp hrow with rfl | hrow
  · rcases List.mem_append.mp (String.toList_append ▸ hc) with hc | hc
    · exact isLineBreak_key kind c hc
    · exact Text.any_eq_false.mp (rfl : " =".toList.any Text.isLineBreak = false) c hc
  · obtain ⟨⟨indent, w⟩, hmem, rfl⟩ := List.mem_map.mp hrow
    rcases List.mem_append.mp (String.toList_append ▸ hc) with hc | hc
    · exact hindent _ hmem c hc
    · exact (hws _ hmem).not_lineBreak c hc

end Ini

end NamePatterns
