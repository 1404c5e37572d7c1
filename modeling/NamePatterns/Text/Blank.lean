/-!
# Blanks

What separates the wildcards of a list, and what is trimmed from the ends of
a text.

A blank is a white-space character of Unicode, or one of the four separator
controls U+001C to U+001F.

## Main definitions

* `isBlank`: Whether a character is a blank.
* `trimLeft`, `trimRight`, `trim`: A text without the blanks at its ends.
* `words`: The runs of characters between blanks.

## Theorems

* `words_ne_nil`: No word is empty.
* `words_not_blank`: No word holds a blank.
-/

namespace NamePatterns

namespace Text

/-- Whether a character is a blank. -/
def isBlank (c : Char) : Bool :=
  let n := c.toNat
  (0x09 ≤ n && n ≤ 0x0D) || (0x1C ≤ n && n ≤ 0x20) || n == 0x85 || n == 0xA0 || n == 0x1680
    || (0x2000 ≤ n && n ≤ 0x200A) || n == 0x2028 || n == 0x2029 || n == 0x202F || n == 0x205F
    || n == 0x3000

/-- A text without the blanks at its start. -/
def trimLeft (cs : List Char) : List Char :=
  cs.dropWhile isBlank

/-- A text without the blanks at its end. -/
def trimRight : List Char → List Char
  | [] => []
  | c :: cs =>
    match trimRight cs with
    | [] => if isBlank c then [] else [c]
    | d :: ds => c :: d :: ds

/-- A text without the blanks at its ends. -/
def trim (cs : List Char) : List Char :=
  trimRight (trimLeft cs)

/-- The longest runs of characters that hold no blank, in order. -/
def words : List Char → List (List Char)
  | [] => []
  | [c] => if isBlank c then [] else [[c]]
  | c :: d :: cs =>
    if isBlank c then words (d :: cs)
    else if isBlank d then [c] :: words (d :: cs)
    else
      match words (d :: cs) with
      | [] => [[c]]
      | w :: ws => (c :: w) :: ws

/-- No word is empty, and none holds a blank. -/
theorem words_spec (cs : List Char) :
    ∀ w ∈ words cs, w ≠ [] ∧ ∀ c ∈ w, isBlank c = false := by
  fun_induction words cs with
  | case1 => simp
  | case2 c h => simp
  | case3 c h => simpa using h
  | case4 c d cs h ih => exact ih
  | case5 c d cs h h' ih =>
    simp only [List.mem_cons, forall_eq_or_imp, ne_eq, List.cons_ne_nil, not_false_eq_true,
      List.not_mem_nil, true_and]
    exact ⟨by simpa using h, ih⟩
  | case6 c d cs h h' heq ih => simpa using h
  | case7 c d cs h h' w ws heq ih =>
    rw [heq] at ih
    simp only [List.mem_cons, forall_eq_or_imp] at ih ⊢
    refine ⟨⟨by simp, by simpa using h, ih.1.2⟩, ih.2⟩

/-- No word is empty. -/
theorem words_ne_nil {cs w : List Char} (h : w ∈ words cs) : w ≠ [] :=
  (words_spec cs w h).1

/-- No word holds a blank. -/
theorem words_not_blank {cs w : List Char} (h : w ∈ words cs) : ∀ c ∈ w, isBlank c = false :=
  (words_spec cs w h).2

end Text

end NamePatterns
