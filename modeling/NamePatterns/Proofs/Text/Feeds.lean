import NamePatterns.Proofs.Text.Words
import NamePatterns.Text.Quoted

/-!
# Lines of a Text

How many line feeds a text has, and which lines it is made of.

A text with a line feed behind each of its lines is made of them in one way only. Rows that are
written one after the other have a line feed each, and those in them. A text between quotes has
no line feed, whatever it is: line feeds are written by their letter. Neither have numbers.

Lines are counted by their line feeds, and found by cutting at them. The count
needs no cut, so what is joined of many texts is counted text by text. That a
text is made of its lines in one way only comes down to the first line: it is
all that stands in front of the first line feed.

## Main definitions

* `Text.feeds`: How many line feeds a text has.
* `Text.MadeOf`: The lines that a text is made of.

## Theorems

* `Text.MadeOf.unique`: A text is made of the same lines however it is taken apart.
* `Text.exists_madeOf`: Rows that are written one after the other are made of lines.
* `Text.feeds_intercalate`: Texts that are joined.
* `Text.feeds_quoted`, `Text.feeds_ofList_quote`: A text between quotes.
* `Text.feeds_toString`: A number.
-/

namespace NamePatterns

namespace Text

/-- How many line feeds a text has. -/
def feeds (s : String) : Nat :=
  s.toList.count '\n'

/-- A text is made of lines: each of them has a line feed behind it, and none in it. -/
structure MadeOf (text : String) (lines : List String) : Prop where
  joined : text = String.join (lines.map (· ++ "\n"))
  feedless : ∀ line ∈ lines, feeds line = 0

@[simp]
theorem feeds_append (s t : String) : feeds (s ++ t) = feeds s + feeds t := by
  rw [feeds, String.toList_append, List.count_append]
  rfl

/-- Two texts without line feeds have none together. -/
theorem feeds_append_eq_zero {s t : String} (hs : feeds s = 0) (ht : feeds t = 0) :
    feeds (s ++ t) = 0 := by
  rw [feeds_append, hs, ht]

/-- Rows that are written one after the other have a line feed each, and those in them. -/
theorem feeds_join (rows : List String) :
    feeds (String.join (rows.map (· ++ "\n"))) = rows.length + feeds (String.join rows) := by
  induction rows with
  | nil => rfl
  | cons row rows ih =>
      have hend : feeds "\n" = 1 := rfl
      rw [List.map_cons, String.join_cons, String.join_cons, feeds_append, feeds_append,
        feeds_append, ih, hend, List.length_cons]
      omega

theorem feeds_join_eq_zero_iff {rows : List String} :
    feeds (String.join rows) = 0 ↔ ∀ row ∈ rows, feeds row = 0 := by
  induction rows with
  | nil => exact iff_of_true rfl nofun
  | cons row rows ih =>
      rw [String.join_cons, feeds_append, List.forall_mem_cons, ← ih]
      omega

namespace MadeOf

variable {text text' : String} {lines lines' : List String}

theorem append (h : MadeOf text lines) (h' : MadeOf text' lines') :
    MadeOf (text ++ text') (lines ++ lines') := by
  constructor
  · rw [h.joined, h'.joined, List.map_append, String.join_append]
  · intro line hline
    exact (List.mem_append.mp hline).elim (h.feedless line) (h'.feedless line)

/-- There are as many lines as line feeds. -/
theorem length (h : MadeOf text lines) : lines.length = feeds text := by
  rw [h.joined, feeds_join, feeds_join_eq_zero_iff.mpr h.feedless, Nat.add_zero]

end MadeOf

/-- The first line of two texts is the same if the texts are. -/
theorem append_feed_inj {a b : String} {x y : List Char} (ha : feeds a = 0) (hb : feeds b = 0)
    (h : a.toList ++ '\n' :: x = b.toList ++ '\n' :: y) : a = b ∧ x = y := by
  have hnone {s : String} (hs : feeds s = 0) : ∀ c ∈ s.toList, (c != '\n') = true := by
    intro c hc
    refine bne_iff_ne.mpr ?_
    rintro rfl
    exact List.count_eq_zero.mp hs hc
  -- Both are what stands in front of the first line feed.
  have hfirst {s : String} (hs : feeds s = 0) (z : List Char) :
      (s.toList ++ '\n' :: z).takeWhile (· != '\n') = s.toList := by
    rw [List.takeWhile_append_of_pos (hnone hs), List.takeWhile_cons_of_neg (by decide),
      List.append_nil]
  have hsame : a.toList = b.toList := by
    rw [← hfirst ha x, h, hfirst hb y]
  rw [hsame] at h
  exact ⟨String.toList_inj.mp hsame, (List.cons.inj (List.append_cancel_left h)).2⟩

/-- A text is made of the same lines however it is taken apart. -/
theorem MadeOf.unique {text : String} {lines lines' : List String} (h : MadeOf text lines)
    (h' : MadeOf text lines') : lines = lines' := by
  induction lines generalizing text lines' with
  -- The text of no lines has no line feed, and so there are no other lines either.
  | nil =>
      have hlength := h'.length
      rw [← h.length] at hlength
      exact (List.length_eq_zero_iff.mp hlength).symm
  | cons line lines ih =>
      cases lines' with
      | nil =>
          have hlength := h.length
          rw [← h'.length] at hlength
          cases hlength
      | cons line' lines' =>
          -- Both texts start with a line and its line feed, so the first lines are the same,
          -- and the induction goes on with the rest of the text.
          have htext := congrArg String.toList (h.joined.symm.trans h'.joined)
          have hfeed : "\n".toList = ['\n'] := rfl
          simp only [List.map_cons, String.join_cons, String.toList_append, hfeed,
            List.append_assoc, List.singleton_append] at htext
          obtain ⟨rfl, hrest⟩ := append_feed_inj (h.feedless _ List.mem_cons_self)
            (h'.feedless _ List.mem_cons_self) htext
          have hlines : lines = lines' :=
            ih ⟨rfl, fun l hl => h.feedless l (List.mem_cons_of_mem _ hl)⟩
              ⟨String.toList_inj.mp hrest, fun l hl => h'.feedless l (List.mem_cons_of_mem _ hl)⟩
          rw [hlines]

/-- A row is made of lines. -/
theorem exists_madeOf_row (row : List Char) :
    ∃ line lines, MadeOf (String.ofList row ++ "\n") (line :: lines) := by
  induction row with
  | nil => exact ⟨"", [], rfl, by decide⟩
  | cons c row ih =>
      obtain ⟨line, lines, htext, hfeeds⟩ := ih
      -- A row always has a first line, since there is a line feed behind the row.
      have hmore : ∀ l ∈ lines, feeds l = 0 := fun l hl => hfeeds l (List.mem_cons_of_mem _ hl)
      rw [String.ofList_cons, String.append_assoc, htext]
      by_cases hc : c = '\n'
      -- The row begins with an empty line, or its first line has one more character.
      · rw [hc]
        refine ⟨"", line :: lines, ?_, ?_⟩
        · show _ = String.join (("" ++ "\n") :: (line :: lines).map (· ++ "\n"))
          rw [String.join_cons, String.empty_append]
          rfl
        · exact List.forall_mem_cons.mpr ⟨rfl, hfeeds⟩
      · have hsingle : feeds (String.singleton c) = 0 := by
          rw [feeds, String.toList_singleton, List.count_eq_zero, List.mem_singleton]
          exact fun h => hc h.symm
        refine ⟨String.singleton c ++ line, lines, ?_, ?_⟩
        · rw [List.map_cons, List.map_cons, String.join_cons, String.join_cons,
            String.append_assoc, String.append_assoc, String.append_assoc]
        · refine List.forall_mem_cons.mpr ⟨?_, hmore⟩
          rw [feeds_append, hsingle, hfeeds line List.mem_cons_self]

/-- Rows that are written one after the other are made of lines. -/
theorem exists_madeOf (rows : List String) :
    ∃ lines, MadeOf (String.join (rows.map (· ++ "\n"))) lines := by
  induction rows with
  | nil => exact ⟨[], rfl, nofun⟩
  | cons row rows ih =>
      obtain ⟨lines, hrows⟩ := ih
      obtain ⟨line, more, hrow⟩ := exists_madeOf_row row.toList
      rw [String.ofList_toList] at hrow
      rw [List.map_cons, String.join_cons]
      exact ⟨(line :: more) ++ lines, hrow.append hrows⟩

/-- What is joined of texts without line feeds by a text without line feeds has none. -/
theorem feeds_intercalate {separator : String} (hseparator : feeds separator = 0)
    {fs : List String} (h : ∀ f ∈ fs, feeds f = 0) : feeds (separator.intercalate fs) = 0 := by
  refine List.count_eq_zero.mpr fun hfeed => ?_
  rw [String.toList_intercalate] at hfeed
  -- A line feed would be in a separator or in one of the texts.
  rcases mem_intercalate hfeed with hfeed | ⟨w, hw, hfeed⟩
  · exact List.count_eq_zero.mp hseparator hfeed
  · obtain ⟨f, hf, rfl⟩ := List.mem_map.mp hw
    exact List.count_eq_zero.mp (h f hf) hfeed

theorem feeds_ofList (cs : List Char) : feeds (String.ofList cs) = cs.count '\n' := by
  rw [feeds, String.toList_ofList]

theorem feeds_ofList_eq_zero {cs : List Char} (h : '\n' ∉ cs) : feeds (String.ofList cs) = 0 := by
  rw [feeds_ofList, List.count_eq_zero]
  exact h

theorem feed_not_mem_hex (width n : Nat) : '\n' ∉ hex width n := by
  have hdigit : ∀ d < 16, '\n' ≠ hexDigit d := by
    decide
  induction width generalizing n with
  | zero => exact List.not_mem_nil
  | succ width ih =>
      rw [hex, List.mem_append, List.mem_singleton]
      exact not_or.mpr ⟨ih _, hdigit _ (Nat.mod_lt _ (by decide))⟩

/-- No character is written as a line feed between quotes. -/
theorem feed_not_mem_escapeIn {q : Char} (hq : q ≠ '\n') (c : Char) : '\n' ∉ escapeIn q c := by
  -- The character stands behind a backslash, or is written by a letter, as it is, or by its
  -- number. The line feed itself is among those with a letter.
  unfold escapeIn
  split
  · next hsign =>
      simp only [Bool.or_eq_true, beq_iff_eq] at hsign
      rcases hsign with rfl | rfl
      · simp [Ne.symm hq]
      · decide
  split
  · decide
  split
  · decide
  split
  · decide
  split
  · next hc _ _ _ => exact fun hmem => hc (beq_iff_eq.mpr (List.mem_singleton.mp hmem).symm)
  split
  · simp [feed_not_mem_hex]
  split
  · simp [feed_not_mem_hex]
  · simp [feed_not_mem_hex]

theorem feed_not_mem_quote (cs : List Char) : '\n' ∉ quote cs := by
  have hq : quoteFor cs ≠ '\n' := by
    unfold quoteFor
    split <;> decide
  simp only [quote, List.cons_append, List.mem_cons, List.mem_append, List.mem_flatMap,
    List.not_mem_nil, or_false]
  rintro (hopen | ⟨c, -, hmem⟩ | hclose)
  · exact hq hopen.symm
  · exact feed_not_mem_escapeIn hq c hmem
  · exact hq hclose.symm

/-- A text between quotes has no line feed. -/
theorem feeds_ofList_quote (cs : List Char) : feeds (String.ofList (quote cs)) = 0 :=
  feeds_ofList_eq_zero (feed_not_mem_quote cs)

/-- A string between quotes has no line feed. -/
theorem feeds_quoted (s : String) : feeds (quoted s) = 0 :=
  feeds_ofList_quote s.toList

/-- A number has no line feed. -/
theorem feeds_toString (n : Nat) : feeds (toString n) = 0 := by
  rw [feeds, Nat.toString_eq_repr, Nat.toList_repr, List.count_eq_zero]
  intro hmem
  have hdigit : ('\n').isDigit = true := Nat.isDigit_of_mem_toDigits (by decide) (by decide) hmem
  exact absurd hdigit (by decide)

end Text

end NamePatterns
