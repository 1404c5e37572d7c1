import Mathlib.Data.List.Basic
import NamePatterns.Proofs.CommandLine.Translation
import NamePatterns.Proofs.Config.Document
import NamePatterns.Proofs.Text.Words

/-!
# Splitting What Was Joined

Wildcards that are joined and split again.

Texts that are joined by spaces have the parts of each of them, in order, whatever
blanks are at their ends and between their parts. A text without parts adds none,
and where there are none at all the list is that of the one empty wildcard. So the
items of an option and the operands of a command are never run together or taken
apart otherwise than at their own blanks. The same holds one step further on: what
is joined of the fragments of two texts is joined of what is joined for each.

## Main definitions

* `Wildcard.parts`: The parts of a text between its blanks.
* `Wildcard.allParts`: The wildcards of several texts.

## Theorems

* `Wildcard.split_eq`: The wildcards of a list are its parts.
* `Wildcard.split_intercalate_eq`: The wildcards of texts that are joined.
* `Wildcard.joined_append`: The regular expression of two lists in a row.
* `Wildcard.split_keeps_parts`: Joining and splitting keep the parts.
-/

namespace NamePatterns

namespace Wildcard

/-- The parts of a text: what is left when it is cut at every blank, less what is empty. -/
def parts (s : String) : List String :=
  ((s.toList.splitOnP Text.isBlank).filter (!·.isEmpty)).map String.ofList

/-- The wildcards of several texts: their parts in order, or the empty one if there are
    none. -/
def allParts (xs : List String) : List String :=
  if (xs.flatMap parts).isEmpty then [""] else xs.flatMap parts

theorem parts_eq_words (s : String) : parts s = (Text.words s.toList).map String.ofList := by
  rw [parts, Text.words_eq_splitOnP]

/-- No part is empty, and none has a blank. -/
theorem isWord_of_mem_parts {s p : String} (h : p ∈ parts s) : Text.IsWord p.toList := by
  rw [parts_eq_words] at h
  obtain ⟨w, hw, rfl⟩ := List.mem_map.mp h
  rw [String.toList_ofList]
  exact ⟨Text.words_ne_nil hw, Text.words_not_blank hw⟩

/-- The wildcards of a list are its parts, or the empty one if it has none. -/
theorem split_eq (s : String) : split s = allParts [s] := by
  unfold split allParts
  rw [List.flatMap_singleton, parts_eq_words]
  cases Text.words s.toList <;> rfl

theorem split_of_parts {s : String} (h : parts s ≠ []) : split s = parts s := by
  rw [split_eq, allParts, List.flatMap_singleton, if_neg (by simpa using h)]

/-- Texts that are joined by spaces have the parts of each of them. -/
theorem parts_intercalate (xs : List String) : parts (" ".intercalate xs) = xs.flatMap parts := by
  have hjoined : (" ".intercalate xs).toList = [' '].intercalate (xs.map String.toList) :=
    String.toList_intercalate
  -- The space between two texts is a blank too, so it ends the last part of the one and is in
  -- no part of the other.
  rw [parts_eq_words, hjoined, Text.words_intercalate_flatMap (by decide), List.flatMap_map,
    List.map_flatMap]
  exact List.flatMap_congr fun x _ => (parts_eq_words x).symm

/-- Texts that are joined by spaces are split into their wildcards. -/
theorem split_intercalate_eq (xs : List String) : split (" ".intercalate xs) = allParts xs := by
  rw [split_eq, allParts, allParts, List.flatMap_singleton, parts_intercalate]

theorem not_blank_of_mem_split {s p : String} (h : p ∈ split s) :
    ∀ c ∈ p.toList, Text.isBlank c = false := by
  rw [split_eq, allParts, List.flatMap_singleton] at h
  split at h
  · rw [List.mem_singleton.mp h]
    exact nofun
  · exact (isWord_of_mem_parts h).not_blank

theorem split_intercalate_split (s : String) : split (" ".intercalate (split s)) = split s := by
  -- A list without parts is split into the empty wildcard, which is no part of what is joined
  -- and comes back when that is split.
  by_cases hparts : parts s = []
  · have hempty : split s = [""] := by
      rw [split_eq, allParts, List.flatMap_singleton, hparts]
      rfl
    rw [hempty]
    rfl
  -- Parts are words, and each word is its only part.
  · have heach : ∀ p ∈ parts s, parts p = [p] := by
      intro p hp
      rw [parts_eq_words, (isWord_of_mem_parts hp).words_eq, List.map_singleton,
        String.ofList_toList]
    have hsame : (parts s).flatMap parts = parts s :=
      (List.flatMap_congr heach).trans (List.flatMap_singleton' _)
    rw [split_intercalate_eq, split_of_parts hparts, allParts, hsame,
      if_neg (by simpa using hparts)]

theorem intercalate_append (separator f g : String) (fs gs : List String) :
    separator.intercalate ((f :: fs) ++ g :: gs)
      = separator.intercalate (f :: fs) ++ separator ++ separator.intercalate (g :: gs) := by
  induction fs generalizing f with
  | nil => rw [List.singleton_append, String.intercalate_cons_cons, String.intercalate_singleton]
  | cons h fs ih =>
      rw [List.cons_append, List.cons_append, String.intercalate_cons_cons, ← List.cons_append, ih,
        String.intercalate_cons_cons, String.append_assoc, String.append_assoc,
        String.append_assoc, String.append_assoc, String.append_assoc]

section

variable {a b separator : String} (hseparator : separator ≠ "")
  (hblank : ∀ c ∈ separator.toList, Text.isBlank c = true)

include hseparator hblank

theorem parts_append : parts (a ++ separator ++ b) = parts a ++ parts b := by
  have hne : separator.toList ≠ [] := fun h => hseparator (String.toList_eq_nil_iff.mp h)
  rw [parts_eq_words, String.toList_append, String.toList_append,
    Text.words_append_blanks hne hblank, List.map_append, parts_eq_words, parts_eq_words]

/-- The regular expression of two lists with blanks between them is that of the one and
    that of the other, and so are the reports and the failures on the way. -/
theorem joined_append (ha : parts a ≠ []) (hb : parts b ≠ []) (dashes : Bool) :
    joined dashes (a ++ separator ++ b) = do
      let x ← joined dashes a
      let y ← joined dashes b
      return x ++ "|" ++ y := by
  have hparts := parts_append (a := a) (b := b) hseparator hblank
  have hne : parts (a ++ separator ++ b) ≠ [] := by
    rw [hparts]
    exact List.append_ne_nil_of_left_ne_nil ha _
  unfold joined fragments
  rw [split_of_parts hne, split_of_parts ha, split_of_parts hb, hparts, List.mapM_append]
  obtain ⟨w, ws, hw⟩ := List.exists_cons_of_ne_nil ha
  obtain ⟨v, vs, hv⟩ := List.exists_cons_of_ne_nil hb
  -- Either side has a first fragment, so there is one to stand on either side of the bar.
  simp only [hw, hv, List.mapM_cons, bind_assoc, pure_bind, intercalate_append]

end

/-- Texts that are joined by spaces are split into the parts of each of them, in order, or
    into the empty wildcard if they have none. No part has a blank, and parts that are
    joined are split again as they were. Two lists that have parts have, with blanks
    between them, the regular expression of the one, a bar and that of the other. So a list
    of texts among the options is split into the parts of its items, and the regular
    expression of a command is made of the parts of its operands. -/
theorem split_keeps_parts :
    (∀ xs : List String, split (" ".intercalate xs) = allParts xs) ∧
    (∀ s, ∀ p ∈ split s, ∀ c ∈ p.toList, Text.isBlank c = false) ∧
    (∀ s, split (" ".intercalate (split s)) = split s) ∧
    (∀ a b separator, parts a ≠ [] → parts b ≠ [] → separator ≠ "" →
      (∀ c ∈ separator.toList, Text.isBlank c = true) →
      ∀ dashes, joined dashes (a ++ separator ++ b) = do
        let x ← joined dashes a
        let y ← joined dashes b
        return x ++ "|" ++ y) ∧
    (∀ xs : List String, ∃ raw, Options.wildcards? (.list (xs.map .text)) = .ok (some raw) ∧
      split raw = allParts xs) ∧
    ∀ xs dashes printed, (CommandLine.translate xs dashes false).outcome = .ok printed →
      ∃ fs, (allParts xs).map (fun w => (compile dashes w).outcome) = fs.map .ok ∧
        printed.lines = ["|".intercalate fs] := by
  -- The first five are lemmas above; what is left is the command.
  refine ⟨split_intercalate_eq, fun s p => not_blank_of_mem_split, split_intercalate_split,
    fun a b separator ha hb hne hblank => joined_append hne hblank ha hb,
    fun xs => ⟨_, Options.wildcards?_ok_iff.mpr (.list xs), split_intercalate_eq xs⟩,
    fun xs dashes printed h => ?_⟩
  -- The command prints something only where the list is a regular expression.
  cases hlist : (compileList dashes (" ".intercalate xs)).outcome with
  | error e =>
      rw [CommandLine.translate_of_error hlist] at h
      cases h
  | ok m =>
      obtain ⟨fs, hcompiled, htext, _⟩ := CommandLine.translate_of_ok hlist
      rw [htext] at h
      rw [split_intercalate_eq] at hcompiled
      exact ⟨fs, hcompiled, congrArg CommandLine.Printed.lines (Except.ok.inj h).symm⟩

/-- Items with blanks of several kinds at their ends and between their parts, one that is
    blank and one that is empty. -/
theorem split_keeps_parts_blanks :
    let a := "\u00a0test_*\u3000check_* "
    let b := "\tTest-*"
    parts a = ["test_*", "check_*"] ∧ parts b = ["Test-*"] ∧ parts " \x1f" = [] ∧
      split (" ".intercalate [a, " \x1f", "", b]) = ["test_*", "check_*", "Test-*"] ∧
      joined true (a ++ "\u2003\n" ++ b) = do
        let x ← joined true a
        let y ← joined true b
        return x ++ "|" ++ y := by
  intro a b
  have ha : parts a = ["test_*", "check_*"] := by decide +kernel
  have hb : parts b = ["Test-*"] := by decide +kernel
  have hblank : ∀ c ∈ "\u2003\n".toList, Text.isBlank c = true :=
    List.all_eq_true.mp (by decide +kernel)
  obtain ⟨hsplit, _, _, hjoined, _⟩ := split_keeps_parts
  refine ⟨ha, hb, by decide +kernel, (hsplit _).trans (by decide +kernel), ?_⟩
  exact hjoined a b _ (by rw [ha]; decide) (by rw [hb]; decide) (by decide) hblank true

end Wildcard

end NamePatterns
