import NamePatterns.Text.Blank
import NamePatterns.Text.Lines

/-!
# Words and Lines

Texts made of words and of lines, taken apart again.

A blank ends the word in front of it, so a text with a blank in it has the words
on either side. In the same way a line feed ends the line in front of it. Every
line break is a blank, so a word has no line break.

The words of a text are found by looking at two characters: a word ends where a
blank follows, and goes on where none does. Inductions over a text follow these
cases. One of them cannot be: where no blank follows, the rest of the text has a
word for the character to join (`words_cons_ne_nil`). Texts that are joined are
read back one by one, from the first.

## Main definitions

* `Text.IsWord`: A text without blanks that is not empty.

## Theorems

* `Text.words_append_blank`: The words on either side of a blank.
* `Text.words_intercalate_flatMap`: The words of texts that are separated by blanks.
* `Text.words_intercalate`: Words that are separated by blanks.
* `Text.words_eq_splitOnP`: Words are what is left when a text is cut at every blank.
* `Text.trimRight_append_word`, `Text.trimLeft_word_append`: Nothing is trimmed from
  words.
* `Text.lines_append_feed`: The lines on either side of a line feed.
-/

namespace NamePatterns

namespace Text

/-- A text without blanks that is not empty. -/
structure IsWord (w : List Char) : Prop where
  ne_nil : w ≠ []
  not_blank : ∀ c ∈ w, isBlank c = false

/-- Whether all characters lack a property is seen by going through them. -/
theorem any_eq_false {p : Char → Bool} {cs : List Char} :
    cs.any p = false ↔ ∀ c ∈ cs, p c = false := by
  simp only [List.any_eq_false, Bool.not_eq_true]

instance (w : List Char) : Decidable (IsWord w) :=
  decidable_of_iff (w ≠ [] ∧ w.any isBlank = false)
    ⟨fun ⟨hne, hblank⟩ => ⟨hne, any_eq_false.mp hblank⟩,
      fun ⟨hne, hblank⟩ => ⟨hne, any_eq_false.mpr hblank⟩⟩

variable {b c : Char} {w x y : List Char}

theorem words_blank_cons (hb : isBlank b = true) (y : List Char) : words (b :: y) = words y := by
  cases y with
  | nil => simp only [words, hb, if_true]
  | cons d y => simp only [words, hb, if_true]

theorem words_cons_ne_nil (hc : isBlank c = false) (y : List Char) : words (c :: y) ≠ [] := by
  cases y with
  | nil => simp [words, hc]
  | cons d y =>
      simp only [words, hc, Bool.false_eq_true, if_false]
      split
      · exact List.cons_ne_nil _ _
      · split <;> exact List.cons_ne_nil _ _

/-- A text with a blank in it has the words on either side of the blank. -/
theorem words_append_blank (hb : isBlank b = true) (x y : List Char) :
    words (x ++ b :: y) = words x ++ words y := by
  fun_induction words x with
  | case1 => exact words_blank_cons hb y
  | case2 c hc =>
      rw [List.singleton_append, words_blank_cons hc, words_blank_cons hb, List.nil_append]
  | case3 c hc =>
      simp only [List.singleton_append, words, hc, hb, if_true]
      rw [words_blank_cons hb]
      rfl
  | case4 c d cs hc ih =>
      rw [List.cons_append, words_blank_cons hc, ih]
  -- A single character stands before a blank: it is a word of its own.
  | case5 c d cs hc hd ih =>
      simp only [List.cons_append, words, hc, hd, if_true] at ih ⊢
      rw [ih]
      rfl
  | case6 c d cs hc hd hnil ih =>
      exact absurd hnil (words_cons_ne_nil (Bool.not_eq_true _ ▸ hd) cs)
  -- The first character joins the word that the rest starts with.
  | case7 c d cs hc hd w ws hwords ih =>
      simp only [List.cons_append, words, hc, hd] at ih ⊢
      rw [ih, hwords]
      rfl

theorem IsWord.words_eq (h : IsWord w) : words w = [w] := by
  obtain ⟨hne, hblank⟩ := h
  fun_induction words w with
  | case1 => exact absurd rfl hne
  | case2 c hc =>
      rw [hblank c List.mem_cons_self] at hc
      cases hc
  | case3 => rfl
  | case4 c d cs hc =>
      rw [hblank c List.mem_cons_self] at hc
      cases hc
  | case5 c d cs _ hd =>
      rw [hblank d (List.mem_cons_of_mem c List.mem_cons_self)] at hd
      cases hd
  | case6 c d cs hc hd hnil => exact absurd hnil (words_cons_ne_nil (Bool.not_eq_true _ ▸ hd) cs)
  | case7 c d cs hc hd v vs hwords ih =>
      have hrest := ih (List.cons_ne_nil d cs) fun e he => hblank e (List.mem_cons_of_mem c he)
      rw [hwords] at hrest
      obtain ⟨rfl, rfl⟩ := List.cons.inj hrest
      rfl

/-- A text with blanks in it has the words on either side of them. -/
theorem words_append_blanks (hne : x ≠ []) (hx : ∀ b ∈ x, isBlank b = true) (w y : List Char) :
    words (w ++ x ++ y) = words w ++ words y := by
  induction x generalizing w with
  | nil => exact absurd rfl hne
  | cons b x ih =>
      have hb := hx b List.mem_cons_self
      rw [List.append_assoc, List.cons_append, words_append_blank hb]
      cases x with
      | nil => rfl
      | cons d x =>
          have hrest := ih (List.cons_ne_nil d x) (fun e he => hx e (List.mem_cons_of_mem b he)) []
          rw [List.nil_append] at hrest
          rw [hrest]
          rfl

/-- Texts that are separated by blanks have the words of each of them. -/
theorem words_intercalate_flatMap (hb : isBlank b = true) (xs : List (List Char)) :
    words ([b].intercalate xs) = xs.flatMap words := by
  induction xs with
  | nil => rfl
  | cons x xs ih =>
      cases xs with
      | nil => simp
      | cons z xs =>
          rw [List.intercalate_cons_cons, List.append_assoc, List.singleton_append,
            words_append_blank hb, ih, List.flatMap_cons (x := x)]

/-- Words that are separated by blanks are the words of the text. -/
theorem words_intercalate (hb : isBlank b = true) {ws : List (List Char)}
    (h : ∀ w ∈ ws, IsWord w) : words ([b].intercalate ws) = ws := by
  rw [words_intercalate_flatMap hb]
  induction ws with
  | nil => rfl
  | cons w ws ih =>
      rw [List.flatMap_cons, (h w List.mem_cons_self).words_eq,
        ih fun v hv => h v (List.mem_cons_of_mem w hv), List.singleton_append]

/-- The words of a text are what is left when it is cut at every blank, less what is
    empty. -/
theorem words_eq_splitOnP (x : List Char) :
    words x = (x.splitOnP isBlank).filter (!·.isEmpty) := by
  fun_induction words x with
  | case1 => rfl
  | case2 c hc => simp [List.splitOnP_cons_eq_if_modifyHead, hc]
  | case3 c hc => simp [List.splitOnP_cons_eq_if_modifyHead, hc]
  | case4 c d cs hc ih =>
      rw [List.splitOnP_cons_eq_if_modifyHead, if_pos hc, ih]
      rfl
  | case5 c d cs hc hd ih =>
      -- The cut at the second character ends the first word.
      rw [List.splitOnP_cons_eq_if_modifyHead, if_neg hc, ih, List.splitOnP_cons_eq_if_modifyHead,
        if_pos hd]
      rfl
  | case6 c d cs hc hd hnil => exact absurd hnil (words_cons_ne_nil (Bool.not_eq_true _ ▸ hd) cs)
  | case7 c d cs hc hd w ws hwords ih =>
      obtain ⟨piece, pieces, hpieces⟩ :=
        List.exists_cons_of_ne_nil (List.splitOnP_ne_nil isBlank cs)
      rw [hwords, List.splitOnP_cons_eq_if_modifyHead, if_neg hd, hpieces] at ih
      obtain ⟨rfl, rfl⟩ := List.cons.inj ih
      rw [List.splitOnP_cons_eq_if_modifyHead, if_neg hc, List.splitOnP_cons_eq_if_modifyHead,
        if_neg hd, hpieces]
      rfl

theorem trimRight_concat (hc : isBlank c = false) (x : List Char) :
    trimRight (x ++ [c]) = x ++ [c] := by
  induction x with
  | nil => simp [trimRight, hc]
  | cons d x ih =>
      rw [List.cons_append, trimRight, ih]
      cases x <;> rfl

/-- A text that ends in a word has no blanks at its end. -/
theorem trimRight_append_word (hw : IsWord w) (x : List Char) :
    trimRight (x ++ w) = x ++ w := by
  -- It is the last character of the word that holds the blanks off.
  rcases List.eq_nil_or_concat w with hnil | ⟨front, last, hlast⟩
  · exact absurd hnil hw.ne_nil
  · rw [List.concat_eq_append] at hlast
    have hblank : isBlank last = false :=
      hw.not_blank last (hlast ▸ List.mem_append_right front List.mem_cons_self)
    rw [hlast, ← List.append_assoc]
    exact trimRight_concat hblank _

/-- A text that starts with a word has no blanks at its start. -/
theorem trimLeft_word_append (hw : IsWord w) (x : List Char) :
    trimLeft (w ++ x) = w ++ x := by
  cases w with
  | nil => exact absurd rfl hw.ne_nil
  | cons c w => simp [trimLeft, hw.not_blank c List.mem_cons_self]

theorem trimLeft_blanks_append (hx : ∀ d ∈ x, isBlank d = true) (y : List Char) :
    trimLeft (x ++ y) = trimLeft y :=
  List.dropWhile_append_of_pos hx

/-- A text of words starts and ends with a word. -/
theorem intercalate_words {ws : List (List Char)} (hne : ws ≠ []) (h : ∀ w ∈ ws, IsWord w)
    (separator : List Char) :
    (∃ w ∈ ws, ∃ y, separator.intercalate ws = w ++ y) ∧
      ∃ w ∈ ws, ∃ x, separator.intercalate ws = x ++ w := by
  induction ws with
  | nil => exact absurd rfl hne
  | cons w ws ih =>
      cases ws with
      | nil => exact ⟨⟨w, List.mem_cons_self, [], by simp⟩, w, List.mem_cons_self, [], by simp⟩
      | cons v ws =>
          rw [List.intercalate_cons_cons]
          obtain ⟨_, u, hu, x, hx⟩ := ih (List.cons_ne_nil v ws)
            fun u hu => h u (List.mem_cons_of_mem w hu)
          refine ⟨⟨w, List.mem_cons_self, _, List.append_assoc ..⟩, u, List.mem_cons_of_mem w hu,
            w ++ separator ++ x, ?_⟩
          rw [hx, List.append_assoc, List.append_assoc, List.append_assoc]

theorem isBlank_of_isLineBreak (h : isLineBreak c = true) : isBlank c = true := by
  -- Every code point of a line break is among those of the blanks.
  simp only [isLineBreak, isBlank, Bool.or_eq_true, Bool.and_eq_true, decide_eq_true_eq,
    beq_iff_eq] at h ⊢
  omega

theorem IsWord.not_lineBreak (h : IsWord w) : ∀ c ∈ w, isLineBreak c = false := by
  intro c hc
  have hblank := h.not_blank c hc
  cases hbreak : isLineBreak c with
  | false => rfl
  | true =>
      rw [isBlank_of_isLineBreak hbreak] at hblank
      cases hblank

theorem mem_intercalate {separator : List Char} {ws : List (List Char)}
    (hc : c ∈ separator.intercalate ws) : c ∈ separator ∨ ∃ w ∈ ws, c ∈ w := by
  induction ws with
  | nil => cases hc
  | cons w ws ih =>
      cases ws with
      | nil => exact Or.inr ⟨w, List.mem_cons_self, by simpa using hc⟩
      | cons v ws =>
          rw [List.intercalate_cons_cons, List.mem_append, List.mem_append] at hc
          rcases hc with (hc | hc) | hc
          · exact Or.inr ⟨w, List.mem_cons_self, hc⟩
          · exact Or.inl hc
          · rcases ih hc with hsep | ⟨u, hu, hcu⟩
            · exact Or.inl hsep
            · exact Or.inr ⟨u, List.mem_cons_of_mem w hu, hcu⟩

/-- A line feed ends the line in front of it. -/
theorem lines_append_feed (hx : ∀ c ∈ x, isLineBreak c = false) (y : List Char) :
    lines (x ++ '\n' :: y) = x :: lines y := by
  induction x with
  | nil => rfl
  | cons c x ih =>
      have hc := hx c List.mem_cons_self
      have hrest := ih fun d hd => hx d (List.mem_cons_of_mem c hd)
      -- A return before a line feed would end the line with it, so it is ruled out first.
      have hreturn : c ≠ '\r' := by
        rintro rfl
        exact absurd hc (by decide)
      rw [List.cons_append, lines]
      · rw [hc, hrest]
        rfl
      · rintro cs rfl
        exact absurd rfl hreturn

end Text

end NamePatterns
