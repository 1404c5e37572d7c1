import NamePatterns.Proofs.Glob.Class

/-!
# The Meaning of Flat Wildcards

A flat wildcard matches its language.

What is written for a token is read as one tree, and that tree denotes the
language of the token. So a flat wildcard is read as a row of trees that
denotes the product of these languages. No unit of one token can be taken for a
continuation of the one before: a star is always written behind its dot, and
what is written next is never a question mark or a plus.

## Main definitions

* `Token.tree`: The tree that a token is read as.

## Theorems

* `leads_token`, `leads_each`, `leads_tokens`: What is read for tokens.
* `denotes_setTree`: The language of a character set.
* `dissolved_tree`: The trees of tokens are single trees.
* `denotes_tree`, `denotes_tokens`: The trees of tokens denote their languages.
* `parse_written`: What is written is a regular expression with the language of
  the wildcard.
* `compile_text`: A flat wildcard is accepted and matches its language.
-/

namespace NamePatterns

namespace Glob

open Regex (Denotes oneChar manyChars single? setMatches)
open Regex.Parser (Leads Row)
open Regex.Parser.State (setTree)

/-- The tree that a token is read as. -/
def Token.tree (dashes : Bool) : Token → Regex
  | literal c | escaped c => .literal c
  | star => .repetition 0 none .greedy .any
  | question => .any
  | dash => if dashes then .set false [.range 'A' 'Z', .range '0' '9'] else .literal '-'
  | oneOf negated items => setTree negated items

/-- Characters that keep no backslash are no letters or digits to escape, and
    those that keep one are neither. -/
theorem isRefusedEscape_of_keepsBackslash {c : Char} (hc : keepsBackslash c = true) :
    Regex.Parser.State.isRefusedEscape c = false := by
  simp only [keepsBackslash, Wildcard.isOperator, Bool.or_eq_true, decide_eq_true_eq] at hc
  rcases hc with (((((((((((((rfl | rfl) | rfl) | rfl) | rfl) | rfl) | rfl) | rfl) | rfl) | rfl)
    | rfl) | rfl) | rfl) | rfl) <;> decide

/-- A character that needs no backslash is no operator where items are read. -/
theorem not_operator_of_keepsBackslash {c : Char} (hc : keepsBackslash c = false) :
    c ∉ ['|', ')', '[', '(', '*', '+', '?', '\x7b', '.', '^', '$'] := by
  intro hmem
  simp only [List.mem_cons, List.not_mem_nil, or_false] at hmem
  rcases hmem with rfl | rfl | rfl | rfl | rfl | rfl | rfl | rfl | rfl | rfl | rfl <;>
    exact absurd hc (by decide)

/-- What is written for a token is read as its tree. -/
theorem leads_token {dashes : Bool} {t : Token} (ht : t.WellFormed dashes) {items : List Regex}
    {s : Regex.Parser.State} (h : Row items s) :
    Leads s (t.written dashes) (Row (t.tree dashes :: items)) := by
  cases t with
  | literal c =>
      simp only [Token.WellFormed, isSpecial, Bool.or_eq_false_iff, decide_eq_false_iff_not] at ht
      rcases ht with ⟨⟨⟨⟨⟨hstar, hquestion⟩, hopen⟩, hclose⟩, hback⟩, _⟩
      -- Operators are written behind a backslash, so they are read as characters.
      by_cases hop : Wildcard.isOperator c = true
      · simp only [Token.written, if_pos hop]
        exact h.escaped (isRefusedEscape_of_keepsBackslash (by
          simp only [keepsBackslash, hop, Bool.true_or]))
      · simp only [Token.written, if_neg hop]
        refine h.plain (not_operator_of_keepsBackslash ?_)
        simp only [keepsBackslash, eq_false_of_ne_true hop, hstar, hquestion, hopen, hclose, hback,
          decide_false, Bool.or_self]
  | star => exact h.anyStar
  | question => exact h.any
  | dash =>
      cases dashes with
      | false => exact h.plain (by decide)
      | true =>
          -- The set of the characters that begin words.
          have hwell : (Token.oneOf false [.range 'A' 'Z', .range '0' '9']).WellFormed true := by
            decide
          exact leads_oneOf hwell h
  | escaped c =>
      by_cases hkeeps : keepsBackslash c = true
      · simp only [Token.written, if_pos hkeeps]
        exact h.escaped (isRefusedEscape_of_keepsBackslash hkeeps)
      · simp only [Token.written, if_neg hkeeps]
        exact h.plain (not_operator_of_keepsBackslash (eq_false_of_ne_true hkeeps))
  | oneOf negated is => exact leads_oneOf ht h

/-- Tokens that are each read as a tree of a row are read as a row of trees. -/
theorem leads_each {written : Token → List Regex.Token} {tree : Token → Regex} {g : List Token}
    (h : ∀ t ∈ g, ∀ items s, Row items s → Leads s (written t) (Row (tree t :: items)))
    {items : List Regex} {s : Regex.Parser.State} (hs : Row items s) :
    Leads s (g.flatMap written) (Row ((g.map tree).reverse ++ items)) := by
  -- The row grows at its front, so it holds the trees in reverse.
  induction g generalizing items s with
  | nil => exact Leads.nil hs
  | cons t ts ih =>
      rw [List.flatMap_cons]
      refine (h t List.mem_cons_self items s hs).append ?_
      intro s' h'
      have hrest := ih (fun u hu => h u (List.mem_cons_of_mem _ hu)) h'
      rw [List.map_cons, List.reverse_cons, List.append_assoc]
      exact hrest

/-- What is written for tokens is read as their trees in a row. -/
theorem leads_tokens {dashes : Bool} {g : List Token} (hg : ∀ t ∈ g, t.WellFormed dashes)
    {items : List Regex} {s : Regex.Parser.State} (h : Row items s) :
    Leads s (g.flatMap (Token.written dashes))
      (Row ((g.map (Token.tree dashes)).reverse ++ items)) :=
  leads_each (fun t ht _ _ hs => leads_token (hg t ht) hs) h

/-- A set denotes the characters that its items hold, or the others. -/
theorem denotes_setTree (negated : Bool) (is : List SetItem) :
    Denotes (setTree negated is) (oneChar fun c => is.any (·.contains c) != negated) := by
  have hany (js : List SetItem) (hjs : ∀ i, i ∈ js ↔ i ∈ is) (c : Char) :
      js.any (·.contains c) = is.any (·.contains c) := by
    rw [Bool.eq_iff_iff, List.any_eq_true, List.any_eq_true]
    simp only [hjs]
  have hmem (i : SetItem) : i ∈ is.eraseDups ↔ i ∈ is := List.mem_eraseDups
  have hplain (js : List SetItem) (hjs : ∀ i, i ∈ js ↔ i ∈ is) :
      Denotes (.set negated js) (oneChar fun c => is.any (·.contains c) != negated) := by
    have hset := Denotes.single (r := .set negated js) rfl
    have heq : setMatches {} negated js = fun c => is.any (·.contains c) != negated := by
      funext c
      simp only [setMatches, Bool.false_eq_true, if_false, hany js hjs]
    rw [heq] at hset
    exact hset
  -- A set of one item is read as a single character, so the tree of a class has three forms.
  unfold setTree
  split
  · next c heq =>
    -- A single character is written without a set.
    have hone := hany [.single c] (by rw [← heq]; exact hmem)
    have hlit := Denotes.single (r := .literal c) rfl
    have hsame : Regex.literalMatches {} c = fun d => is.any (·.contains d) != false := by
      funext d
      rw [← hone d]
      simp only [Regex.literalMatches, Bool.false_eq_true, if_false, List.any_cons, List.any_nil,
        SetItem.contains, Bool.or_false, Bool.bne_false]
    rw [hsame] at hlit
    exact hlit
  · next c heq =>
    have hone := hany [.single c] (by rw [← heq]; exact hmem)
    have hbut := Denotes.single (r := .anyBut c) rfl
    have hsame : (fun d => !Regex.literalMatches {} c d)
        = fun d => is.any (·.contains d) != true := by
      funext d
      rw [← hone d]
      simp only [Regex.literalMatches, Bool.false_eq_true, if_false, List.any_cons, List.any_nil,
        SetItem.contains, Bool.or_false, Bool.bne_true]
    rw [hsame] at hbut
    exact hbut
  · exact hplain _ hmem

/-- The tree of a token denotes the language of the token. -/
theorem denotes_tree (dashes : Bool) (t : Token) :
    Denotes (t.tree dashes) (t.language dashes) := by
  cases t with
  | literal c => exact Denotes.single (r := .literal c) rfl
  | escaped c => exact Denotes.single (r := .literal c) rfl
  | star => exact Denotes.star (r := .any) rfl
  | question => exact Denotes.single (r := .any) rfl
  | dash =>
      cases dashes with
      | false => exact Denotes.single (r := .literal '-') rfl
      | true =>
          have hset := denotes_setTree false [.range 'A' 'Z', .range '0' '9']
          have hsame : (fun c => List.any [SetItem.range 'A' 'Z', .range '0' '9'] (·.contains c)
              != false) = beginsWord := by
            funext c
            simp only [List.any_cons, List.any_nil, SetItem.contains, Bool.or_false,
              Bool.bne_false, beginsWord]
          rw [hsame] at hset
          exact hset
  | oneOf negated items => exact denotes_setTree negated items

/-- The trees of tokens denote the product of their languages. -/
theorem denotes_tokens (dashes : Bool) (g : List Token) :
    Denotes (Regex.seq (g.map (Token.tree dashes))) (language dashes g) := by
  refine Regex.denotes_seq ?_
  rw [List.forall₂_map_left_iff, List.forall₂_map_right_iff, List.forall₂_same]
  intro t _
  exact denotes_tree dashes t

/-- The trees of tokens are single trees of a row, without assertions. -/
theorem dissolved_tree (dashes : Bool) (t : Token) :
    (t.tree dashes).dissolved = [t.tree dashes] ∧ (t.tree dashes).lookBehindWidths = [] := by
  cases t with
  | literal c | star | question | escaped c => exact ⟨rfl, rfl⟩
  | dash => cases dashes <;> exact ⟨rfl, rfl⟩
  | oneOf negated items =>
      simp only [Token.tree, setTree]
      split <;> exact ⟨rfl, rfl⟩

theorem listed_ne_backslash {c : Char} (hc : isListable c = true) : listed c ≠ .plain '\\' := by
  by_cases hcaret : c = '^'
  · subst hcaret
    decide
  · simp only [listed, if_neg hcaret]
    intro heq
    rw [Regex.Token.plain.inj heq] at hc
    exact absurd hc (by decide)

/-- No unit that an item of a class is written as is a lone backslash. -/
theorem itemWritten_ne_backslash {i : SetItem} (hi : ItemListable i) {u : Regex.Token}
    (hu : u ∈ itemWritten i) : u ≠ .plain '\\' := by
  cases i with
  | single c =>
      rw [List.mem_singleton.mp hu]
      exact listed_ne_backslash hi
  | range low high =>
      simp only [itemWritten, List.mem_cons, List.not_mem_nil, or_false] at hu
      rcases hu with rfl | rfl | rfl
      · exact listed_ne_backslash hi.1
      · decide
      · exact listed_ne_backslash hi.2

/-- No unit that a class is written as is a lone backslash. -/
theorem oneOf_ne_backslash {dashes negated : Bool} {items : List SetItem}
    (hitems : ∀ i ∈ items, ItemListable i) {u : Regex.Token}
    (hu : u ∈ (Token.oneOf negated items).written dashes) : u ≠ .plain '\\' := by
  simp only [Token.written, List.mem_cons, List.mem_append, List.mem_flatMap, List.not_mem_nil,
    or_false] at hu
  rcases hu with rfl | (hu | ⟨i, hi, hu⟩) | rfl
  · decide
  · cases negated with
    | false => cases hu
    | true =>
        rw [List.mem_singleton.mp hu]
        decide
  · exact itemWritten_ne_backslash (hitems i hi) hu
  · decide

/-- No unit that a token is written as is a lone backslash. -/
theorem written_ne_backslash {dashes : Bool} {t : Token} (ht : t.WellFormed dashes)
    {u : Regex.Token} (hu : u ∈ t.written dashes) : u ≠ .plain '\\' := by
  cases t with
  | literal c =>
      simp only [Token.written, List.mem_singleton] at hu
      subst hu
      split
      · exact fun heq => by cases heq
      · intro heq
        have hc : isSpecial c = false := ht
        rw [Regex.Token.plain.inj heq] at hc
        exact absurd hc (by decide)
  | star =>
      simp only [Token.written, List.mem_cons, List.not_mem_nil, or_false] at hu
      rcases hu with rfl | rfl <;> decide
  | question =>
      simp only [Token.written, List.mem_singleton] at hu
      subst hu
      decide
  | dash =>
      cases dashes with
      | false =>
          simp only [Token.written, Bool.false_eq_true, if_false, List.mem_singleton] at hu
          subst hu
          decide
      | true =>
          simp only [Token.written, if_true, List.mem_map] at hu
          rcases hu with ⟨c, hc, rfl⟩
          intro heq
          rw [Regex.Token.plain.inj heq] at hc
          exact absurd hc (by decide)
  | escaped c =>
      simp only [Token.written, List.mem_singleton] at hu
      subst hu
      split
      · exact fun heq => by cases heq
      · next hkeeps =>
        intro heq
        rw [Regex.Token.plain.inj heq] at hkeeps
        exact hkeeps rfl
  | oneOf negated items =>
      exact oneOf_ne_backslash (fun i hi => (ht.2.1 i hi).listable) hu

/-- What is written for a flat wildcard is a regular expression, and its tree
    denotes the language of the wildcard. -/
theorem parse_written {dashes : Bool} {g : List Token} (hg : ∀ t ∈ g, t.WellFormed dashes) :
    ∃ tree, Regex.parse ((g.flatMap (Token.written dashes)).flatMap Regex.Token.text) = .ok tree ∧
      Denotes tree (language dashes g) := by
  refine ⟨Regex.seq (g.map (Token.tree dashes)), ?_, denotes_tokens dashes g⟩
  have hleads := leads_tokens hg Regex.Parser.row_start
  rw [List.append_nil] at hleads
  have hparse := Regex.parse_of_leads ?_ hleads ?_
  · rw [List.reverse_reverse] at hparse
    exact hparse
  · intro u hu
    rcases List.mem_flatMap.mp hu with ⟨t, ht, hu⟩
    exact written_ne_backslash (hg t ht) hu
  · intro r hr
    rcases List.mem_map.mp (List.mem_reverse.mp hr) with ⟨t, _, rfl⟩
    exact dissolved_tree dashes t

/-- A flat wildcard is accepted without a report, and what becomes of it matches
    just the names in its language. -/
theorem compile_text {dashes : Bool} {g : List Token} (hg : ∀ t ∈ g, t.WellFormed dashes)
    (leftOver : Bool) :
    ∃ fragment tree,
      Wildcard.outcome dashes (String.ofList (text g leftOver)) = .ok (.accepted fragment) ∧
      Wildcard.compile dashes (String.ofList (text g leftOver)) = ⟨[], .ok fragment⟩ ∧
      Regex.parse fragment.toList = .ok tree ∧
      ∀ name : String, ∃ matched, tree.fullMatch name.toList = .ok matched ∧
        (matched = true ↔ name.toList ∈ language dashes g) := by
  rcases parse_written hg with ⟨tree, hparse, hdenotes⟩
  have hregex := translate_text hg leftOver
  have hparse' : Regex.parse (Wildcard.translate dashes (String.ofList (text g leftOver))).toList
      = .ok tree := by
    rw [hregex]
    exact hparse
  have houtcome : Wildcard.outcome dashes (String.ofList (text g leftOver))
      = .ok (.accepted (Wildcard.translate dashes (String.ofList (text g leftOver)))) := by
    unfold Wildcard.outcome
    rw [openClasses_text hg, if_neg (by decide)]
    simp only [hparse']
  -- No class is open and what is written is a regular expression, so it is accepted as it is.
  refine ⟨_, tree, houtcome, ?_, hparse', fun name => hdenotes.fullMatch_iff name.toList⟩
  unfold Wildcard.compile
  rw [houtcome]
  rfl

/-- A wildcard with all kinds of tokens and a backslash left over. -/
theorem compile_text_mixed :
    (∀ t ∈ [Token.literal '(', .dash, .oneOf true [.range 'a' 'f', .single '!', .single '^'],
      .star, .escaped '*', .question], t.WellFormed true) ∧
    ∃ fragment tree,
      Wildcard.outcome true "(-[!a-f!^]*\\*?\\" = .ok (.accepted fragment) ∧
      Wildcard.compile true "(-[!a-f!^]*\\*?\\" = ⟨[], .ok fragment⟩ ∧
      Regex.parse fragment.toList = .ok tree ∧
      ∀ name : String, ∃ matched, tree.fullMatch name.toList = .ok matched ∧
        (matched = true ↔ name.toList ∈ language true [Token.literal '(', .dash,
          .oneOf true [.range 'a' 'f', .single '!', .single '^'], .star, .escaped '*',
          .question]) := by
  have htext : String.ofList (text [Token.literal '(', .dash,
      .oneOf true [.range 'a' 'f', .single '!', .single '^'], .star, .escaped '*', .question] true)
      = "(-[!a-f!^]*\\*?\\" := by decide
  refine ⟨by decide, ?_⟩
  rw [← htext]
  exact compile_text (by decide) true

end Glob

end NamePatterns
