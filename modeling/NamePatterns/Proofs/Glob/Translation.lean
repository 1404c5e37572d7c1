import NamePatterns.Proofs.Glob.Basic

/-!
# Flat Wildcards as Written

What a scan writes for a flat wildcard.

Between two tokens of a flat wildcard the scan is at rest: nothing is escaped
and no class is open. From there each token is written on its own, as units of
a regular expression, and the scan is at rest again. Inside a class the scan
counts one open bracket, and only the first character depends on where it
stands, since an exclamation mark right behind the bracket negates the class.

`Scans` speaks of the text and of where the scan ends at once, since the next
token needs both: what it is written as depends on where the one before has left
the scan.

## Main definitions

* `Token.written`: The units that a token is written as.
* `Scans`: What a text is written as, and where the scan ends.
* `AtRest`: The scan between two tokens.
* `inside`: The scan inside a class, behind its first character.

## Theorems

* `scan_item`: What the scan does with an item of a class.
* `scan_items`: The same for all items.
* `scan_token`: What the scan does with a token.
* `scan_each`, `scan_tokens`: The same for all tokens.
* `scan_text`: What the scan does with a flat wildcard.
* `translate_text`: What a flat wildcard is written as.
* `openClasses_text`: A flat wildcard leaves no class open.
-/

namespace NamePatterns

namespace Glob

open Wildcard

/-- The unit that a listed character is written as. -/
def listed (c : Char) : Regex.Token :=
  if c = '^' then .escaped c else .plain c

/-- The units that an item of a class is written as. -/
def itemWritten : SetItem → List Regex.Token
  | .single c => [listed c]
  | .range low high => [listed low, .plain '-', listed high]

/-- Whether a character keeps its backslash in a regular expression. -/
def keepsBackslash (c : Char) : Bool :=
  isOperator c || c = '*' || c = '?' || c = '\\' || c = '[' || c = ']'

/-- The units that a token is written as. -/
def Token.written (dashes : Bool) : Token → List Regex.Token
  | literal c => [if isOperator c then .escaped c else .plain c]
  | star => [.plain '.', .plain '*']
  | question => [.plain '.']
  | dash => if dashes then wordBoundary.toList.map .plain else [.plain '-']
  | escaped c => [if keepsBackslash c then .escaped c else .plain c]
  | oneOf negated items =>
    .plain '[' :: ((if negated then [.plain '^'] else []) ++ items.flatMap itemWritten
      ++ [.plain ']'])

/-- The scan between two tokens: nothing is escaped and no class is open. -/
def AtRest (s : Scan) : Prop :=
  s.escaping = false ∧ s.depth = 0

/-- The scan inside a class, behind its first character. -/
def inside : Scan :=
  { depth := 1 }

/-- From a state on, a text is written as units and leads to a state with a property. -/
structure Scans (dashes : Bool) (s : Scan) (cs : List Char) (us : List Regex.Token)
    (R : Scan → Prop) : Prop where
  text : translateFrom dashes s cs = us.flatMap Regex.Token.text
  ends : R (scanFrom s cs)

theorem scanFrom_append (s : Scan) (xs ys : List Char) :
    scanFrom s (xs ++ ys) = scanFrom (scanFrom s xs) ys :=
  List.foldl_append

theorem Scans.nil {dashes : Bool} {s : Scan} {R : Scan → Prop} (h : R s) :
    Scans dashes s [] [] R :=
  ⟨rfl, h⟩

/-- One text behind the other. -/
theorem Scans.append {dashes : Bool} {s : Scan} {cs ds : List Char} {us vs : List Regex.Token}
    {R S : Scan → Prop} (h : Scans dashes s cs us R)
    (hnext : ∀ s', R s' → Scans dashes s' ds vs S) : Scans dashes s (cs ++ ds) (us ++ vs) S := by
  have hrest := hnext _ h.ends
  refine ⟨?_, ?_⟩
  · rw [translateFrom_append, h.text, hrest.text, List.flatMap_append]
  · rw [scanFrom_append]
    exact hrest.ends

/-- A listed character is written as it is inside a class, but for the caret,
    and leads on inside the class. -/
theorem scan_listed (dashes : Bool) {b : Bool} {c : Char} (hc : isListable c = true)
    (hb : b = true → c ≠ '!') :
    emit dashes ⟨false, 1, b⟩ c = (listed c).text ∧ advance ⟨false, 1, b⟩ c = inside := by
  simp only [isListable, Bool.not_eq_true', Bool.or_eq_false_iff, decide_eq_false_iff_not] at hc
  rcases hc with ⟨⟨⟨hopen, hclose⟩, hback⟩, hdash⟩
  -- The mark only negates where a class starts.
  have hnot : (decide (c = '!') && b) = false := by
    cases b with
    | false => exact Bool.and_false _
    | true => rw [decide_eq_false (hb rfl), Bool.false_and]
  constructor
  -- The cases are those of `emit`, in their order.
  · by_cases hstar : c = '*'
    · subst hstar
      rfl
    · by_cases hquestion : c = '?'
      · subst hquestion
        rfl
      · by_cases hop : isOperator c = true
        · by_cases hcaret : c = '^'
          · subst hcaret
            rfl
          · have hkeep : ¬(decide ((1 : Int) = 0) || decide (c = '^')) = true := by
              rw [decide_eq_false hcaret]
              decide
            simp only [emit, listed, if_neg hstar, if_neg hquestion, if_pos hop, if_neg hcaret,
              if_neg hkeep]
            rfl
        · have hcaret : c ≠ '^' := fun h => hop (by rw [h]; rfl)
          simp only [emit, listed, if_neg hstar, if_neg hquestion, if_neg hop, if_neg hback,
            if_neg hdash, if_neg hcaret, hopen, hclose, decide_false, Bool.or_self,
            Bool.false_eq_true, if_false]
          by_cases hmark : c = '!'
          · subst hmark
            rw [if_pos rfl, if_neg]
            · rfl
            · intro h
              simp only [decide_true, Bool.true_and] at hnot
              rw [hnot, Bool.and_false] at h
              cases h
          · rw [if_neg hmark]
            rfl
  · simp only [advance, inside, hopen, hclose, hback, decide_false, Bool.false_and,
      Bool.false_eq_true, if_false]

/-- An item is written on its own inside a class. -/
theorem scan_item (dashes : Bool) {b : Bool} {i : SetItem} (hi : ItemListable i)
    (hb : b = true → firstChar i ≠ '!') :
    translateFrom dashes ⟨false, 1, b⟩ (itemText i) = (itemWritten i).flatMap Regex.Token.text ∧
      scanFrom ⟨false, 1, b⟩ (itemText i) = inside := by
  cases i with
  | single c =>
      rcases scan_listed dashes hi hb with ⟨hemit, hadvance⟩
      constructor
      · simp only [itemText, itemWritten, translateFrom, hemit, List.flatMap_cons, List.flatMap_nil]
      · simp only [itemText, scanFrom, List.foldl_cons, List.foldl_nil, hadvance]
  | range low high =>
      rcases hi with ⟨hlow, hhigh⟩
      rcases scan_listed dashes hlow hb with ⟨hemit, hadvance⟩
      have hother : false = true → high ≠ '!' := fun h => by cases h
      rcases scan_listed dashes (b := false) hhigh hother with ⟨hemit', hadvance'⟩
      -- Inside a class a dash begins no word, whatever it does outside.
      have hdash : emit dashes inside '-' = ['-'] := by
        cases dashes <;> rfl
      have hstay : advance inside '-' = inside := rfl
      have hfrom : inside = ⟨false, 1, false⟩ := rfl
      constructor
      · simp only [itemText, itemWritten, translateFrom, hemit, hadvance, hdash, hstay,
          List.flatMap_cons, List.flatMap_nil]
        rw [hfrom, hemit']
        rfl
      · simp only [itemText, scanFrom, List.foldl_cons, List.foldl_nil, hadvance, hstay]
        rw [hfrom, hadvance']
        rfl

/-- Items are written one after the other inside a class. -/
theorem scan_items (dashes : Bool) {b : Bool} {items : List SetItem}
    (h : ∀ i ∈ items, ItemListable i) (hb : b = true → items.head?.map firstChar ≠ some '!') :
    translateFrom dashes ⟨false, 1, b⟩ (items.flatMap itemText)
        = (items.flatMap itemWritten).flatMap Regex.Token.text ∧
      ∃ b', scanFrom ⟨false, 1, b⟩ (items.flatMap itemText) = ⟨false, 1, b'⟩ := by
  induction items generalizing b with
  | nil => exact ⟨rfl, b, rfl⟩
  | cons i is ih =>
      -- Only the first item stands where a mark would negate the class.
      have hfirst : b = true → firstChar i ≠ '!' := by
        intro hbt heq
        exact hb hbt (by rw [List.head?_cons, Option.map_some, heq])
      rcases scan_item dashes (h i List.mem_cons_self) hfirst with ⟨hitem, hscan⟩
      rcases ih (b := false) (fun j hj => h j (List.mem_cons_of_mem _ hj)) (fun hf => by cases hf)
        with ⟨hrest, b', hend⟩
      refine ⟨?_, b', ?_⟩
      · rw [List.flatMap_cons, List.flatMap_cons, translateFrom_append, hitem, hscan,
          List.flatMap_append, ← hrest]
        rfl
      · rw [List.flatMap_cons, scanFrom_append, hscan]
        exact hend

/-- A character behind a backslash is written on its own. -/
theorem emit_escaped {dashes b : Bool} {c : Char} (hc : dashes = true → c ≠ '-') :
    emit dashes ⟨true, 0, b⟩ c
      = (if keepsBackslash c then Regex.Token.escaped c else Regex.Token.plain c).text := by
  by_cases hstar : c = '*'
  · subst hstar
    rfl
  · by_cases hquestion : c = '?'
    · subst hquestion
      rfl
    · by_cases hop : isOperator c = true
      · have hkeeps : keepsBackslash c = true := by
          simp only [keepsBackslash, hop, Bool.true_or]
        simp only [emit, if_neg hstar, if_neg hquestion, if_pos hop, hkeeps, if_true, decide_true,
          Bool.true_or]
        rfl
      · by_cases hback : c = '\\'
        · subst hback
          rfl
        · by_cases hopen : c = '['
          · subst hopen
            rfl
          · by_cases hclose : c = ']'
            · subst hclose
              rfl
            · have hkeeps : keepsBackslash c = false := by
                simp only [keepsBackslash, hstar, hquestion, hback, hopen, hclose, decide_false,
                  Bool.or_false]
                exact Bool.not_eq_true _ ▸ hop
              simp only [emit, if_neg hstar, if_neg hquestion, if_neg hop, if_neg hback, hopen,
                hclose, decide_false, Bool.or_self, Bool.false_eq_true, if_false, hkeeps]
              by_cases hmark : c = '!'
              · subst hmark
                rfl
              · rw [if_neg hmark]
                by_cases hdash : c = '-'
                · subst hdash
                  cases dashes with
                  | true => exact absurd rfl (hc rfl)
                  | false => rfl
                · rw [if_neg hdash]
                  rfl

/-- A character that means nothing else is written on its own, with a backslash
    if regular expressions know it as an operator. -/
theorem emit_literal {dashes b : Bool} {c : Char} (hc : isSpecial c = false) :
    emit dashes ⟨false, 0, b⟩ c
      = (if isOperator c then Regex.Token.escaped c else Regex.Token.plain c).text := by
  simp only [isSpecial, Bool.or_eq_false_iff, decide_eq_false_iff_not] at hc
  rcases hc with ⟨⟨⟨⟨⟨hstar, hquestion⟩, hopen⟩, hclose⟩, hback⟩, hdash⟩
  simp only [emit, if_neg hstar, if_neg hquestion]
  by_cases hop : isOperator c = true
  · simp only [if_pos hop, decide_true, Bool.true_or, if_true]
    rfl
  · simp only [if_neg hop, if_neg hback, hopen, hclose, decide_false, Bool.or_self,
      Bool.false_eq_true, if_false, if_neg hdash]
    by_cases hmark : c = '!'
    · subst hmark
      rfl
    · rw [if_neg hmark]
      rfl

/-- A class is written on its own, and leaves no class open, even if it is empty or
    a range in it is. -/
theorem scan_oneOf {dashes b negated : Bool} {items : List SetItem}
    (hitems : ∀ i ∈ items, ItemListable i)
    (hmark : negated = false → items.head?.map firstChar ≠ some '!') :
    Scans dashes ⟨false, 0, b⟩ (Token.oneOf negated items).text
      ((Token.oneOf negated items).written dashes) AtRest := by
  have hopen : emit dashes ⟨false, 0, b⟩ '[' = ['['] := rfl
  have hopened : advance ⟨false, 0, b⟩ '[' = ⟨false, 1, true⟩ := rfl
  have hclosed (b' : Bool) : AtRest (scanFrom ⟨false, 1, b'⟩ [']']) := ⟨rfl, rfl⟩
  cases negated with
  | false =>
      rcases scan_items dashes (b := true) hitems (fun _ => hmark rfl) with ⟨hscan, b', hend⟩
      constructor
      · simp only [Token.text, Token.written, Bool.false_eq_true, if_false, List.nil_append,
          translateFrom, hopen, hopened, translateFrom_append, hscan, hend, List.flatMap_cons,
          List.flatMap_append, List.flatMap_nil]
        rfl
      · simp only [Token.text, Bool.false_eq_true, if_false, List.nil_append]
        show AtRest (scanFrom (advance ⟨false, 0, b⟩ '[') _)
        rw [hopened, scanFrom_append, hend]
        exact hclosed b'
  | true =>
      -- The mark that negates is read before the first item, which may then be one itself.
      rcases scan_items dashes (b := false) hitems (fun h => by cases h) with ⟨hscan, b', hend⟩
      have hnegate : emit dashes ⟨false, 1, true⟩ '!' = ['^'] := rfl
      have hnegated : advance ⟨false, 1, true⟩ '!' = ⟨false, 1, false⟩ := rfl
      constructor
      · simp only [Token.text, Token.written, if_true, List.cons_append, List.nil_append,
          translateFrom, hopen, hopened, hnegate, hnegated, translateFrom_append, hscan, hend,
          List.flatMap_cons, List.flatMap_append, List.flatMap_nil]
        rfl
      · simp only [Token.text, if_true, List.cons_append, List.nil_append]
        show AtRest (scanFrom (advance (advance ⟨false, 0, b⟩ '[') '!') _)
        rw [hopened, hnegated, scanFrom_append, hend]
        exact hclosed b'

/-- Between two tokens, a token is written on its own and the scan is at rest
    again. -/
theorem scan_token {dashes : Bool} {t : Token} (ht : t.WellFormed dashes) {s : Scan}
    (hs : AtRest s) : Scans dashes s t.text (t.written dashes) AtRest := by
  obtain ⟨escaping, depth, b⟩ := s
  obtain ⟨rfl, rfl⟩ : escaping = false ∧ depth = 0 := hs
  cases t with
  | literal c =>
      have hc := ht
      simp only [Token.WellFormed, isSpecial, Bool.or_eq_false_iff, decide_eq_false_iff_not] at hc
      rcases hc with ⟨⟨⟨⟨_, hopen⟩, hclose⟩, hback⟩, _⟩
      constructor
      · simp only [Token.text, Token.written, translateFrom, emit_literal ht, List.flatMap_cons,
          List.flatMap_nil]
      · simp only [Token.text, AtRest, scanFrom, List.foldl_cons, List.foldl_nil, advance,
          hback, decide_false, Bool.false_and, Bool.false_eq_true, if_false, if_neg hopen,
          if_neg hclose, and_self]
  | star => exact ⟨rfl, rfl, rfl⟩
  | question => exact ⟨rfl, rfl, rfl⟩
  | dash => cases dashes <;> exact ⟨rfl, rfl, rfl⟩
  | escaped c =>
      have hback : emit dashes ⟨false, 0, b⟩ '\\' = [] := rfl
      have hbacked : advance ⟨false, 0, b⟩ '\\' = ⟨true, 0, false⟩ := rfl
      constructor
      · simp only [Token.text, Token.written, translateFrom, hback, hbacked, emit_escaped ht,
          List.flatMap_cons, List.flatMap_nil, List.nil_append]
      · show AtRest (advance (advance ⟨false, 0, b⟩ '\\') c)
        rw [hbacked]
        simp only [AtRest, advance, Bool.not_true, Bool.and_false, if_true, and_self]
  | oneOf negated items => exact scan_oneOf (fun i hi => (ht.2.1 i hi).listable) ht.2.2

/-- Tokens that are each written on their own from some states to such states are
    written one after the other. -/
theorem scan_each {dashes : Bool} {R : Scan → Prop} {written : Token → List Regex.Token}
    {g : List Token} (h : ∀ t ∈ g, ∀ s, R s → Scans dashes s t.text (written t) R) {s : Scan}
    (hs : R s) : Scans dashes s (g.flatMap Token.text) (g.flatMap written) R := by
  induction g generalizing s with
  | nil => exact Scans.nil hs
  | cons t ts ih =>
      rw [List.flatMap_cons, List.flatMap_cons]
      exact (h t List.mem_cons_self s hs).append fun _ hs' =>
        ih (fun u hu => h u (List.mem_cons_of_mem _ hu)) hs'

/-- Tokens are written one after the other. -/
theorem scan_tokens {dashes : Bool} {g : List Token} (h : ∀ t ∈ g, t.WellFormed dashes) {s : Scan}
    (hs : AtRest s) :
    Scans dashes s (g.flatMap Token.text) (g.flatMap (Token.written dashes)) AtRest :=
  scan_each (fun t ht _ hs => scan_token (h t ht) hs) hs

/-- A backslash that is left over is not written, and opens nothing. -/
theorem Scans.leftOver {dashes : Bool} {s : Scan} {cs : List Char} {us : List Regex.Token}
    {R : Scan → Prop} {depth : Int} (h : Scans dashes s cs us R)
    (hR : ∀ s', R s' → s'.escaping = false ∧ s'.depth = depth) (leftOver : Bool) :
    Scans dashes s (cs ++ if leftOver then ['\\'] else []) us (·.depth = depth) := by
  -- The backslash comes last, so there is nothing for it to escape.
  have hboth := h.append fun s' hs' =>
    show Scans dashes s' (if leftOver then ['\\'] else []) [] (·.depth = depth) by
      obtain ⟨escaping, depth', b⟩ := s'
      obtain ⟨rfl, rfl⟩ : escaping = false ∧ depth' = depth := hR _ hs'
      cases leftOver <;> exact ⟨rfl, rfl⟩
  rw [List.append_nil] at hboth
  exact hboth

/-- Tokens at rest and what is left over are written as the tokens. -/
theorem scan_text {dashes : Bool} {g : List Token} (h : ∀ t ∈ g, t.WellFormed dashes) {s : Scan}
    (hs : AtRest s) (leftOver : Bool) :
    Scans dashes s (text g leftOver) (g.flatMap (Token.written dashes)) (·.depth = 0) :=
  (scan_tokens h hs).leftOver (fun _ hs' => hs') leftOver

theorem scan_start : AtRest {} :=
  ⟨rfl, rfl⟩

/-- A flat wildcard is written token by token. -/
theorem translate_text {dashes : Bool} {g : List Token} (h : ∀ t ∈ g, t.WellFormed dashes)
    (leftOver : Bool) :
    (translate dashes (String.ofList (text g leftOver))).toList
      = (g.flatMap (Token.written dashes)).flatMap Regex.Token.text := by
  rw [Wildcard.toList_translate, String.toList_ofList]
  exact (scan_text h scan_start leftOver).text

/-- A flat wildcard leaves no class open. -/
theorem openClasses_text {dashes : Bool} {g : List Token} (h : ∀ t ∈ g, t.WellFormed dashes)
    (leftOver : Bool) : openClasses (String.ofList (text g leftOver)) = 0 := by
  rw [openClasses, String.toList_ofList]
  exact (scan_text h scan_start leftOver).ends

end Glob

end NamePatterns
