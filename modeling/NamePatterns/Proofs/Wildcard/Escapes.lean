import NamePatterns.Proofs.Regex.Escapes
import NamePatterns.Proofs.Wildcard.OpenClass

/-!
# Backslashes in Fragments

Which backslashes a wildcard leaves in a regular expression.

A backslash of a wildcard is not written when it is read. The scan remembers it until the next
character, and writes that one with a backslash in front of it or without, so a backslash is never
written on its own. Which of the two it is depends on the count of open classes, but the
characters that are written with one are always the same few, for any count and behind any number
of backslashes: they mean something in wildcards or in regular expressions, and none of them is a
letter or a digit.

Hence the fragment of a wildcard splits into single characters and such pairs. It does not end in
a backslash that would escape what follows, a bar behind it separates it from the next fragment,
and neither a wildcard nor a list is ever refused for a backslash. The reader of regular
expressions knows no escape of a letter or a digit; this is why it need not.

What is preserved along the scan is stated of the output alone: whatever the
scan knows before a character, what is written for it splits, and texts that
split can be put behind each other. So the induction needs no invariant that
ties the count of classes to the text, and a count below zero or a class that is
never closed is no special case.

## Main definitions

* `Wildcard.escapable`: The characters that a backslash is written in front of.
* `Wildcard.WellEscaped`: A text that splits into single characters and escapes of these.
* `Wildcard.LeaksNoEscape`: What is known of the reading of such a text.

## Theorems

* `Wildcard.emit_wellEscaped`: What one character is written as, in any state of the scan.
* `Wildcard.translateFrom_wellEscaped`: The same for a text.
* `Wildcard.WellEscaped.units`: The units that a text that splits is read as.
* `Wildcard.compile_leaksNoEscape`: What the fragments of wildcards and of lists are read as.
-/

namespace NamePatterns

namespace Wildcard

open Regex (Token units)

/-- The characters that a backslash is written in front of. -/
def escapable : List Char :=
  ['*', '?', '.', '(', ')', '^', '+', '|', '$', '\x7b', '\x7d', '\\', '[', ']']

/-- No letter or digit is among these characters. -/
theorem isRefused_of_mem_escapable {c : Char} (h : c ∈ escapable) :
    (Token.escaped c).isRefused = false := by
  have hall : (escapable.all fun c => !(Token.escaped c).isRefused) = true := by
    decide
  exact (Bool.not_eq_true' _).mp (List.all_eq_true.mp hall c h)

/-- From left to right, the text is single characters other than backslashes, and pairs of a
    backslash and a character that one is written in front of. -/
inductive WellEscaped : List Char → Prop
  /-- Nothing is left. -/
  | nil : WellEscaped []
  /-- A single character. -/
  | single {c : Char} {cs : List Char} (hc : c ≠ '\\') (hcs : WellEscaped cs) :
    WellEscaped (c :: cs)
  /-- A backslash and the character it escapes. -/
  | pair {c : Char} {cs : List Char} (hc : c ∈ escapable) (hcs : WellEscaped cs) :
    WellEscaped ('\\' :: c :: cs)

/-- A text that is read without any escape but of the characters that are written with one. -/
structure LeaksNoEscape (cs : List Char) : Prop where
  /-- It splits into single characters and such escapes. -/
  splits : WellEscaped cs
  /-- Its end escapes nothing. -/
  ends : ¬Escapes cs
  /-- None of the units it is read as is a letter or a digit behind a backslash. -/
  reads : ∃ ts, Token.ofChars? cs = some ts ∧ ∀ t ∈ ts, t.isRefused = false
  /-- It is not refused for a backslash. -/
  admits : Regex.Parser.Admits (Regex.parse cs)

namespace WellEscaped

variable {cs ds : List Char}

theorem append (hcs : WellEscaped cs) (hds : WellEscaped ds) : WellEscaped (cs ++ ds) := by
  induction hcs with
  | nil => exact hds
  | single hc _ ih => exact .single hc ih
  | pair hc _ ih => exact .pair hc ih

/-- A text without backslashes. -/
theorem of_not_mem (h : '\\' ∉ cs) : WellEscaped cs := by
  induction cs with
  | nil => exact .nil
  | cons c cs ih =>
      rw [List.mem_cons, not_or] at h
      exact .single (Ne.symm h.1) (ih h.2)

/-- Texts with bars between them. -/
theorem intercalate {css : List (List Char)} (h : ∀ cs ∈ css, WellEscaped cs) :
    WellEscaped (['|'].intercalate css) := by
  induction css with
  | nil => exact .nil
  | cons cs css ih =>
      rcases List.forall_mem_cons.mp h with ⟨hcs, hcss⟩
      cases css with
      | nil =>
          rw [List.intercalate_singleton]
          exact hcs
      | cons ds css =>
          rw [List.intercalate_cons_cons]
          exact (hcs.append (.single (by decide) .nil)).append (ih hcss)

/-- The units of the text: none of them is refused. -/
theorem units (h : WellEscaped cs) :
    ∃ ts, Token.ofChars? cs = some ts ∧ ∀ t ∈ ts, t.isRefused = false := by
  induction h with
  | nil => exact ⟨[], rfl, nofun⟩
  -- A character that is no backslash is a unit of its own, whatever follows.
  | @single c cs hc _ ih =>
      rcases ih with ⟨ts, hts, hfree⟩
      have hplain : ∀ t ∈ [Token.plain c], t ≠ .plain '\\' :=
        List.forall_mem_singleton.mpr fun heq => hc (Token.plain.inj heq)
      have hfirst : Token.ofChars? [c] = some [.plain c] := Token.ofChars?_flatMap_text hplain
      refine ⟨.plain c :: ts, ?_, List.forall_mem_cons.mpr ⟨rfl, hfree⟩⟩
      show Token.ofChars? ([c] ++ cs) = _
      rw [Token.ofChars?_append hfirst, hts]
      rfl
  | @pair c cs hc _ ih =>
      rcases ih with ⟨ts, hts, hfree⟩
      have hrefused := isRefused_of_mem_escapable hc
      refine ⟨.escaped c :: ts, ?_, List.forall_mem_cons.mpr ⟨hrefused, hfree⟩⟩
      rw [Token.ofChars?, hts]
      rfl

/-- The end of the text escapes nothing. -/
theorem not_escapes (h : WellEscaped cs) : ¬Escapes cs := by
  -- The scan of the text itself tells whether a backslash is pending.
  have hscan : ∀ s : Scan, s.escaping = false → (scanFrom s cs).escaping = false := by
    induction h with
    | nil => exact fun s hs => hs
    -- Behind a single character nothing is pending, and a pair leaves nothing pending either.
    | single hc _ ih => exact fun s _ => ih _ (by simp [advance, hc])
    | pair _ _ ih => exact fun s hs => ih _ (by simp [advance, hs])
  rw [← escaping_scanFrom, hscan {} rfl]
  exact Bool.false_ne_true

theorem leaksNoEscape (h : WellEscaped cs) : LeaksNoEscape cs := by
  rcases h.units with ⟨ts, hts, hfree⟩
  exact ⟨h, h.not_escapes, ⟨ts, hts, hfree⟩, Regex.parse_admits hts hfree⟩

end WellEscaped

theorem mem_escapable_of_isOperator {c : Char} (h : isOperator c = true) : c ∈ escapable := by
  simp only [isOperator, Bool.or_eq_true, decide_eq_true_eq, or_assoc] at h
  rcases h with rfl | rfl | rfl | rfl | rfl | rfl | rfl | rfl | rfl <;> decide

/-- What a character is written as splits, whatever the scan knows. -/
theorem emit_wellEscaped (dashes : Bool) (s : Scan) (c : Char) :
    WellEscaped (emit dashes s c) := by
  -- Apart from fixed texts, it is the character itself, with a backslash or without.
  unfold emit
  -- The tests of the scan in their order; most branches write nothing, a fixed text or one
  -- pair.
  split_ifs with _ _ _ _ _ _ hop _ hback _ hbracket
  all_goals try first
    | exact .nil
    | exact .of_not_mem (by decide)
    | exact .pair (by decide) .nil
  · exact .pair (mem_escapable_of_isOperator hop) .nil
  -- A character that is no operator is no backslash, since that is one.
  · refine .single ?_ .nil
    rintro rfl
    exact absurd hop (by decide)
  -- What is written with a backslash in a class is one of the brackets.
  · refine .pair ?_ .nil
    simp only [Bool.or_eq_true, decide_eq_true_eq] at hbracket
    rcases hbracket with rfl | rfl <;> decide
  · exact .single hback .nil
  · exact .single hback .nil

/-- What a text is written as splits, whatever the scan knows before it. -/
theorem translateFrom_wellEscaped (dashes : Bool) (s : Scan) (cs : List Char) :
    WellEscaped (translateFrom dashes s cs) := by
  induction cs generalizing s with
  | nil => exact .nil
  | cons c cs ih => exact (emit_wellEscaped dashes s c).append (ih (advance s c))

theorem translate_wellEscaped (dashes : Bool) (w : String) :
    WellEscaped (translate dashes w).toList := by
  rw [toList_translate]
  exact translateFrom_wellEscaped dashes {} w.toList

/-- The fragment of a wildcard splits. -/
theorem fragment_wellEscaped {dashes : Bool} {w f : String}
    (h : (compile dashes w).outcome = .ok f) : WellEscaped f.toList := by
  rcases compile_fragment h with rfl | ⟨rfl, _⟩
  · exact .of_not_mem (by decide)
  · exact translate_wellEscaped dashes w

/-- The fragments of a list split. -/
theorem fragments_wellEscaped {dashes : Bool} {wildcards : String} {fs : List String}
    (h : (fragments dashes wildcards).outcome = .ok fs) :
    ∀ cs ∈ fs.map String.toList, WellEscaped cs := by
  rw [List.forall_mem_map]
  intro f hf
  rcases exists_wildcard_of_mem (Logged.mapM_ok.mp h) hf with ⟨w, _, hw⟩
  exact fragment_wellEscaped hw

/-- No wildcard leaks an escape. What it is written as is read without any, whether it is a
    regular expression or not, and so is its fragment. Behind one another with bars between
    them, the fragments of a list are read as each of them alone, with the bars as bars. -/
theorem compile_leaksNoEscape (dashes : Bool) :
    (∀ w, LeaksNoEscape (translate dashes w).toList) ∧
    (∀ w f, (compile dashes w).outcome = .ok f → LeaksNoEscape f.toList) ∧
    ∀ wildcards fs, (fragments dashes wildcards).outcome = .ok fs →
      LeaksNoEscape ("|".intercalate fs).toList ∧
        Token.ofChars? ("|".intercalate fs).toList
          = some ([.plain '|'].intercalate (fs.map fun f => units f.toList)) := by
  refine ⟨fun w => (translate_wellEscaped dashes w).leaksNoEscape,
    fun w f hf => (fragment_wellEscaped hf).leaksNoEscape, fun wildcards fs hfs => ?_⟩
  have hwell := fragments_wellEscaped hfs
  have hjoined : ("|".intercalate fs).toList = ['|'].intercalate (fs.map String.toList) :=
    String.toList_intercalate
  -- Since each fragment splits by itself, no bar is swallowed by the fragment before it.
  have hunits := Regex.ofChars?_intercalate fun cs hcs => by
    rcases (hwell cs hcs).units with ⟨ts, hts, _⟩
    exact ⟨ts, hts⟩
  rw [hjoined]
  refine ⟨(WellEscaped.intercalate hwell).leaksNoEscape, hunits.trans ?_⟩
  rw [List.map_map]
  rfl

/-- A wildcard with a backslash that is escaped before a letter, another one before a letter and
    one at its end, and a list with backslashes in front of the blanks between its wildcards. -/
theorem compile_leaksNoEscape_trailing :
    (compile false "[[]\\\\d]\\*(\\w)\\").outcome = .ok "[[]\\\\d]\\*\\(w\\)" ∧
      LeaksNoEscape "[[]\\\\d]\\*\\(w\\)".toList ∧
    (fragments false "a\\ \\\\ [\\s]\\").outcome = .ok ["a", "\\\\", "[s]"] ∧
      LeaksNoEscape "a|\\\\|[s]".toList ∧
        Token.ofChars? "a|\\\\|[s]".toList
          = some [.plain 'a', .plain '|', .escaped '\\', .plain '|', .plain '[', .plain 's',
              .plain ']'] := by
  have hcompile : (compile false "[[]\\\\d]\\*(\\w)\\").outcome = .ok "[[]\\\\d]\\*\\(w\\)" := by
    decide +kernel
  have hlist : (fragments false "a\\ \\\\ [\\s]\\").outcome = .ok ["a", "\\\\", "[s]"] := by
    decide +kernel
  rcases compile_leaksNoEscape false with ⟨_, hfragment, hfragments⟩
  rcases hfragments _ _ hlist with ⟨hjoined, hunits⟩
  exact ⟨hcompile, hfragment _ _ hcompile, hlist, hjoined, hunits⟩

end Wildcard

end NamePatterns
