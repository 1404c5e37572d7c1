import NamePatterns.Proofs.Wildcard.Meaning

/-!
# Stray Closing Brackets

What a closing bracket without an opening one does to the rest of a flat
wildcard.

The bracket itself stands for itself. But it takes the count of open classes
below zero, and there the scan takes what follows for neither the outside nor
the inside of a class: operators lose their backslashes, a dash begins no word,
and a class behind the bracket is read as if it were none, so that stars and
question marks in it are rewritten, a mark does not negate it, and where dashes
begin words its ranges fall apart. A token is steady if none of that touches it.
If all tokens behind the bracket are steady, the wildcard means what its two
parts mean with a bracket between them. If a backslash is left over in front of
the bracket, the bracket is no stray one and nothing is lost.

The count stays at one below zero between the tokens behind the bracket, and
this is all the scan remembers of it. So the proof is that of a flat wildcard
over again, with another state between the tokens and other units for them; what
the two have in common is stated of any state and any units.

## Main definitions

* `Token.isSteady`: The tokens that mean the same behind a stray bracket.
* `Token.astray`: The units that such a token is written as.
* `Astray`: The scan between two tokens behind a stray bracket.

## Theorems

* `scan_astray`: What the scan does with a steady token.
* `leads_astray`: What is read for a steady token.
* `compile_stray`: What a wildcard with a stray bracket means.
* `compile_stray_unsteady`: A wildcard for each way not to be steady.
-/

namespace NamePatterns

namespace Glob

open Regex (oneChar)
open Regex.Parser (Leads Row InStage)
open Regex.Parser.State (setTree)
open Wildcard (Means Scan Selects Writes advance emit scanFrom translateFrom isOperator)

/-- Whether a character is written alike whether the count of open classes is
    zero or below: it is no operator, or one that is always escaped or never
    needs it. -/
def isSteadyChar (c : Char) : Bool :=
  !isOperator c || c = '^' || c = '\x7d'

/-- Whether an item of a class is written as it is behind a stray bracket. -/
def isSteadyItem (dashes : Bool) : SetItem → Bool
  | .single c => c != '*' && c != '?'
  | .range low high =>
    !dashes && low != '*' && low != '?' && high != '*' && high != '?'

/-- Whether a token means behind a stray bracket what it means elsewhere. -/
def Token.isSteady (dashes : Bool) : Token → Bool
  | literal c | escaped c => isSteadyChar c
  | star | question => true
  | dash => !dashes
  | oneOf negated items => !negated && items.all (isSteadyItem dashes)

/-- The unit that a character is written as outside classes. -/
def spelled (c : Char) : Regex.Token :=
  if isOperator c then .escaped c else .plain c

/-- The units that a steady token is written as behind a stray bracket. -/
def Token.astray (dashes : Bool) (t : Token) : List Regex.Token :=
  match t with
  | oneOf _ items => .plain '[' :: ((items.flatMap itemText).map spelled ++ [.plain ']'])
  | literal c | escaped c => if c = '\x7d' then [.plain c] else t.written dashes
  | star | question | dash => t.written dashes

/-- The scan between two tokens behind a stray bracket. -/
def Astray (s : Scan) : Prop :=
  s.escaping = false ∧ s.depth = -1

/-- A character that is no bracket and no backslash leaves the count as it is. -/
theorem advance_other {depth : Int} {b : Bool} {c : Char} (hopen : c ≠ '[') (hclose : c ≠ ']')
    (hback : c ≠ '\\') : advance ⟨false, depth, b⟩ c = ⟨false, depth, false⟩ := by
  simp only [advance, hopen, hclose, hback, decide_false, Bool.false_and, Bool.false_eq_true,
    if_false]

/-- The characters of a class are written as they are outside, if they are no
    stars and question marks, and no dash begins a word. -/
theorem scan_spelled {dashes b : Bool} {cs : List Char}
    (h : ∀ c ∈ cs, isSpecial c = false ∨ c = '-' ∧ dashes = false) :
    Scans dashes ⟨false, 0, b⟩ cs (cs.map spelled) fun s => ∃ b', s = ⟨false, 0, b'⟩ := by
  induction cs generalizing b with
  | nil => exact Scans.nil ⟨b, rfl⟩
  | cons c cs ih =>
      have hfirst : Scans dashes ⟨false, 0, b⟩ [c] [spelled c] (· = ⟨false, 0, false⟩) := by
        rcases h c List.mem_cons_self with hc | ⟨rfl, rfl⟩
        · refine ⟨congrArg (· ++ []) (emit_literal hc), ?_⟩
          simp only [isSpecial, Bool.or_eq_false_iff, decide_eq_false_iff_not] at hc
          rcases hc with ⟨⟨⟨⟨_, hopen⟩, hclose⟩, hback⟩, _⟩
          exact advance_other hopen hclose hback
        · exact ⟨rfl, rfl⟩
      refine hfirst.append ?_
      rintro _ rfl
      exact ih fun d hd => h d (List.mem_cons_of_mem _ hd)

/-- A steady character is written behind a stray bracket as it is at rest. -/
theorem emit_steady {dashes e b : Bool} {c : Char} (hc : isSteadyChar c = true)
    (hbrace : c ≠ '\x7d') (hdash : dashes = true → c ≠ '-') :
    emit dashes ⟨e, -1, b⟩ c = emit dashes ⟨e, 0, b⟩ c := by
  simp only [isSteadyChar, Bool.or_eq_true, Bool.not_eq_true', decide_eq_true_eq, hbrace,
    or_false] at hc
  -- The count matters to operators and to dashes that begin words.
  have hkeeps : isOperator c = true → c = '^' := fun hop =>
    hc.resolve_left fun hnot => by rw [hop] at hnot; cases hnot
  have hword : c = '-' → dashes = false := fun heq =>
    eq_false_of_ne_true fun hdashes => hdash hdashes heq
  unfold emit
  by_cases hop : isOperator c = true
  · rw [if_pos hop, if_pos hop, hkeeps hop]
    rfl
  · rw [if_neg hop, if_neg hop]
    by_cases heq : c = '-'
    · subst heq
      rw [hword rfl]
      rfl
    · simp only [if_neg heq]
      rfl

/-- A class is written between the same brackets behind a stray bracket, with its
    characters as they are outside classes. -/
theorem scan_class_astray {dashes b : Bool} {items : List SetItem}
    (hitems : ∀ i ∈ items, ItemWellFormed i)
    (hsteady : items.all (isSteadyItem dashes) = true) :
    Scans dashes ⟨false, -1, b⟩ (Token.oneOf false items).text
      ((Token.oneOf false items).astray dashes) Astray := by
  have hcs : ∀ c ∈ items.flatMap itemText, isSpecial c = false ∨ c = '-' ∧ dashes = false := by
    intro c hc
    rcases List.mem_flatMap.mp hc with ⟨i, hi, hc⟩
    have hwell := hitems i hi
    have hs := List.all_eq_true.mp hsteady i hi
    cases i with
    | single d =>
        obtain rfl := List.mem_singleton.mp hc
        simp only [ItemWellFormed, isListable, isSteadyItem] at hwell hs
        simp_all [isSpecial]
    | range low high =>
        simp only [ItemWellFormed, isListable, isSteadyItem] at hwell hs
        simp only [itemText, List.mem_cons, List.not_mem_nil, or_false] at hc
        rcases hc with rfl | rfl | rfl
        all_goals simp_all [isSpecial]
  have hopened : Scans dashes ⟨false, -1, b⟩ ['['] [.plain '['] (· = ⟨false, 0, true⟩) :=
    ⟨rfl, rfl⟩
  refine hopened.append ?_
  rintro _ rfl
  refine (scan_spelled hcs).append ?_
  rintro _ ⟨b', rfl⟩
  exact ⟨rfl, rfl, rfl⟩

/-- Behind a stray bracket, a steady token is written on its own, and the scan is
    where it was. -/
theorem scan_astray {dashes : Bool} {t : Token} (ht : t.WellFormed dashes)
    (hsteady : t.isSteady dashes = true) {s : Scan} (hs : Astray s) :
    Scans dashes s t.text (t.astray dashes) Astray := by
  obtain ⟨escaping, depth, b⟩ := s
  obtain ⟨rfl, rfl⟩ : escaping = false ∧ depth = -1 := hs
  cases t with
  | literal c =>
      have hc := ht
      simp only [Token.WellFormed, isSpecial, Bool.or_eq_false_iff, decide_eq_false_iff_not] at hc
      rcases hc with ⟨⟨⟨⟨_, hopen⟩, hclose⟩, hback⟩, hdash⟩
      constructor
      · by_cases hbrace : c = '\x7d'
        · subst hbrace
          rfl
        · have hat := (scan_token (s := ⟨false, 0, b⟩) ht ⟨rfl, rfl⟩).text
          simp only [Token.text, translateFrom] at hat ⊢
          rw [emit_steady hsteady hbrace fun _ => hdash, hat]
          simp only [Token.astray, if_neg hbrace]
      · show Astray (advance _ c)
        rw [advance_other hopen hclose hback]
        exact ⟨rfl, rfl⟩
  | star => exact ⟨rfl, rfl, rfl⟩
  | question => exact ⟨rfl, rfl, rfl⟩
  | dash =>
      cases dashes with
      | false => exact ⟨rfl, rfl, rfl⟩
      | true => cases hsteady
  | escaped c =>
      have hback : emit dashes ⟨false, -1, b⟩ '\\' = [] := rfl
      have hbacked : advance ⟨false, -1, b⟩ '\\' = ⟨true, -1, false⟩ := rfl
      constructor
      · by_cases hbrace : c = '\x7d'
        · subst hbrace
          rfl
        · have hat := emit_escaped (b := false) ht
          simp only [Token.text, translateFrom, hback, hbacked]
          rw [emit_steady hsteady hbrace ht, hat]
          simp only [Token.astray, if_neg hbrace, Token.written, List.flatMap_cons,
            List.flatMap_nil, List.nil_append]
      · show Astray (advance (advance _ '\\') c)
        rw [hbacked]
        simp only [Astray, advance, Bool.not_true, Bool.and_false, if_true, and_self]
  | oneOf negated items =>
      rcases Bool.and_eq_true_iff.mp hsteady with ⟨hplain, hall⟩
      obtain rfl : negated = false := Bool.not_eq_true' _ ▸ hplain
      exact scan_class_astray ht.2.1 hall

/-- Outside classes too, the characters of a class are written so that a set takes
    them for themselves. -/
theorem spells_spelled : Spells spelled := by
  refine ⟨rfl, fun c _ => ?_, fun c hc => ?_⟩
  · unfold spelled
    split <;> rfl
  · simp only [isListable, Bool.not_eq_true', Bool.or_eq_false_iff, decide_eq_false_iff_not] at hc
    unfold spelled
    by_cases hop : isOperator c = true
    · rw [if_pos hop]
      refine ⟨⟨isRefusedEscape_of_keepsBackslash ?_, hc.2⟩, ?_, ?_⟩
      · simp only [keepsBackslash, hop, Bool.true_or]
      all_goals
        intro h
        cases h
    · rw [if_neg hop]
      refine ⟨trivial, fun h => hc.1.1.2 (Regex.Token.plain.inj h), ?_⟩
      rintro ⟨⟩
      exact hop rfl

/-- What is written for a steady token behind a stray bracket is read as its
    tree. -/
theorem leads_astray {dashes : Bool} {t : Token} (ht : t.WellFormed dashes)
    (hsteady : t.isSteady dashes = true) {items : List Regex} {s : Regex.Parser.State}
    (h : Row items s) : Leads s (t.astray dashes) (Row (t.tree dashes :: items)) := by
  cases t with
  | literal c | escaped c =>
      simp only [Token.astray]
      split
      · next hbrace =>
        subst hbrace
        exact h.plain (by decide)
      · exact leads_token ht h
  | star | question | dash => exact leads_token ht h
  | oneOf negated is =>
      rcases ht with ⟨hne, his, _⟩
      rcases Bool.and_eq_true_iff.mp hsteady with ⟨hplain, _⟩
      obtain rfl : negated = false := Bool.not_eq_true' _ ▸ hplain
      have hlist : ∀ i ∈ is, ItemListable i := fun i hi => (his i hi).listable
      rcases spells_spelled.leads hlist hne h false with ⟨_, hleads⟩ | ⟨hall, _⟩
      · exact hleads
      · refine absurd (List.all_eq_true.mpr fun i hi => ?_) (Bool.not_eq_true _ ▸ hall)
        exact (itemWellFormed_iff.mp (his i hi)).2

/-- No unit that a steady token is written as behind a stray bracket is a lone
    backslash. -/
theorem astray_ne_backslash {dashes : Bool} {t : Token} (ht : t.WellFormed dashes)
    {u : Regex.Token} (hu : u ∈ t.astray dashes) : u ≠ .plain '\\' := by
  cases t with
  | literal c | escaped c =>
      simp only [Token.astray] at hu
      split at hu
      · next hbrace =>
        rw [List.mem_singleton.mp hu, hbrace]
        decide
      · exact written_ne_backslash ht hu
  | star | question | dash => exact written_ne_backslash ht hu
  | oneOf negated is =>
      simp only [Token.astray, List.mem_cons, List.mem_append, List.not_mem_nil, or_false] at hu
      rcases hu with rfl | hu | rfl
      · decide
      · rcases List.mem_map.mp hu with ⟨c, hc, rfl⟩
        have hlist : ∀ i ∈ is, ItemListable i := fun i hi => (ht.2.1 i hi).listable
        rcases mem_itemText hlist hc with hc | rfl
        · intro heq
          rw [← spells_spelled.char c hc, heq] at hc
          cases hc
        · decide
      · decide

/-- A stray bracket is written as it is, and takes the count below zero. -/
theorem scan_stray (dashes : Bool) {s : Scan} (hs : AtRest s) :
    Scans dashes s [']'] [.plain ']'] Astray := by
  obtain ⟨escaping, depth, b⟩ := s
  obtain ⟨rfl, rfl⟩ : escaping = false ∧ depth = 0 := hs
  exact ⟨rfl, rfl, rfl⟩

/-- A stray bracket between two flat wildcards, as units. -/
theorem writes_stray {dashes : Bool} {p q : List Token} (hp : ∀ t ∈ p, t.WellFormed dashes)
    (hq : ∀ t ∈ q, t.WellFormed dashes) (hsteady : ∀ t ∈ q, t.isSteady dashes = true)
    (leftOver : Bool) :
    Writes dashes (text p false ++ ']' :: text q leftOver)
        (p.flatMap (Token.written dashes) ++ .plain ']' :: q.flatMap (Token.astray dashes)) ∧
      (scanFrom {} (text p false ++ ']' :: text q leftOver)).depth ≤ 0 := by
  -- What is in front of the bracket is written at rest, and what is behind it astray.
  have hscans := (scan_tokens hp scan_start).append fun s hs =>
    (scan_stray dashes hs).append fun s hs =>
      (scan_each (fun t ht _ hs => scan_astray (hq t ht) (hsteady t ht) hs) hs).leftOver
        (fun _ hs => hs) leftOver
  have htext : text p false = p.flatMap Token.text := List.append_nil _
  rw [htext]
  refine ⟨⟨hscans.text, fun u hu => ?_⟩, ?_⟩
  · rcases List.mem_append.mp hu with hu | hu
    · rcases List.mem_flatMap.mp hu with ⟨t, ht, hu⟩
      exact written_ne_backslash (hp t ht) hu
    · rcases List.mem_cons.mp hu with rfl | hu
      · decide
      · rcases List.mem_flatMap.mp hu with ⟨t, ht, hu⟩
        exact astray_ne_backslash (hq t ht) hu
  -- The count never comes back to what would leave a class open.
  · exact (Int.le_of_eq hscans.ends).trans (by decide)

theorem language_bracket (dashes : Bool) (p q : List Token) :
    language dashes (p ++ .escaped ']' :: q)
      = language dashes p * oneChar (· == ']') * language dashes q := by
  simp only [language, List.map_append, List.map_cons, List.prod_append, List.prod_cons,
    Token.language, mul_assoc]

/-- A stray closing bracket stands for itself, and what surrounds it means what it
    means alone, if all tokens behind the bracket are steady or a backslash is left
    over in front of it. -/
theorem compile_stray {dashes : Bool} {p q : List Token} (hp : ∀ t ∈ p, t.WellFormed dashes)
    (hq : ∀ t ∈ q, t.WellFormed dashes) (overP overQ : Bool)
    (hsteady : overP = false → ∀ t ∈ q, t.isSteady dashes = true) :
    Means dashes (text p overP) (language dashes p) ∧
      Means dashes (text q overQ) (language dashes q) ∧
      Means dashes (text p overP ++ ']' :: text q overQ)
        (language dashes p * oneChar (· == ']') * language dashes q) := by
  refine ⟨means_text hp overP, means_text hq overQ, ?_⟩
  rw [← language_bracket]
  cases overP with
  | true =>
      -- The backslash that is left over escapes the bracket.
      have htext : text p true ++ ']' :: text q overQ = text (p ++ .escaped ']' :: q) overQ := by
        simp only [text, Token.text, if_true, List.flatMap_append, List.flatMap_cons,
          List.append_assoc, List.cons_append, List.nil_append]
      rw [htext]
      refine means_text (fun t ht => ?_) overQ
      rcases List.mem_append.mp ht with ht | ht
      · exact hp t ht
      · rcases List.mem_cons.mp ht with rfl | ht
        · exact fun _ => by decide
        · exact hq t ht
  | false =>
      rcases writes_stray hp hq (hsteady rfl) overQ with ⟨hwrites, hdepth⟩
      refine means_of_leads hwrites hdepth ?_
      rw [List.map_append, List.map_cons, List.reverse_append, List.reverse_cons,
        List.append_assoc]
      have hbefore := leads_tokens hp Regex.Parser.row_start
      rw [List.append_nil] at hbefore
      -- The bracket itself is a character to the reader, since no set is open.
      refine hbefore.append fun s hs => ?_
      exact Leads.cons (hs.plain (by decide)) fun s' hs' =>
        leads_each (fun t ht _ _ h => leads_astray (hq t ht) (hsteady rfl t ht) h) hs'

/-- A stray bracket between two wildcards with classes, and with operators that are
    always escaped or never need it. -/
theorem compile_stray_steady :
    (∀ t ∈ [Token.star, .literal '.', .oneOf true [.single '+']], t.WellFormed false) ∧
    (∀ t ∈ [Token.literal '^', .dash, .oneOf false [.range 'b' 'd', .single '.'],
      .escaped '\x7d', .question], t.WellFormed false ∧ t.isSteady false = true) ∧
    Means false "*.[!+]]^-[b-d.]\\\x7d?\\".toList
      (language false [.star, .literal '.', .oneOf true [.single '+']] * oneChar (· == ']') *
        language false [.literal '^', .dash, .oneOf false [.range 'b' 'd', .single '.'],
          .escaped '\x7d', .question]) := by
  have hp : ∀ t ∈ [Token.star, .literal '.', .oneOf true [.single '+']], t.WellFormed false := by
    decide
  have hq : ∀ t ∈ [Token.literal '^', .dash, .oneOf false [.range 'b' 'd', .single '.'],
      .escaped '\x7d', .question], t.WellFormed false ∧ t.isSteady false = true := by
    decide
  exact ⟨hp, hq, (compile_stray hp (fun t ht => (hq t ht).1) false true
    fun _ t ht => (hq t ht).2).2.2⟩

/-- Behind a stray bracket, a dot matches any character, a parenthesis opens a group,
    a dash begins no word, a star in a class is one of a dot, a mark does not negate
    and a range falls apart where dashes begin words. -/
theorem compile_stray_unsteady :
    ¬Means false (text [] false ++ ']' :: text [.literal '.'] false)
        (language false [] * oneChar (· == ']') * language false [.literal '.']) ∧
      (Wildcard.compile false "](").outcome = .ok matchNothing ∧
      (Wildcard.compile true "]-").outcome = .ok "]-" ∧
      (Wildcard.compile false "][*]").outcome = .ok "][.*]" ∧
      (Wildcard.compile false "][!a]").outcome = .ok "][!a]" ∧
      (Wildcard.compile true "][a-c]").outcome = .ok "][a[A-Z0-9]c]" := by
  refine ⟨fun h => ?_, by decide +kernel, by decide +kernel, by decide +kernel,
    by decide +kernel, by decide +kernel⟩
  have hselects : Selects false [']', '.'] [']', 'x'] :=
    ⟨"].", .cat (.literal ']') .any, by decide +kernel, by decide +kernel, by decide +kernel⟩
  have hmem := h.selects_iff.mp hselects
  -- A name of the language ends in a dot.
  rcases hmem with ⟨u, _, v, hv, heq⟩
  rw [language, List.map_singleton, List.prod_singleton] at hv
  rcases hv with ⟨c, hc, rfl⟩
  have hlast := congrArg List.getLast? heq
  rw [beq_iff_eq.mp hc] at hlast
  simp at hlast

end Glob

end NamePatterns
