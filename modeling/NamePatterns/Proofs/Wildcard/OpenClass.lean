import Mathlib.Data.List.Induction
import NamePatterns.Proofs.Glob.Translation
import NamePatterns.Proofs.Regex.OpenSet
import NamePatterns.Proofs.Wildcard.Limits

/-!
# Classes That Stay Open

When a class that is never closed silences a wildcard.

A class stays open if its bracket is not escaped and every closing bracket
behind it is. The count of brackets alone does not see that, since it goes below
zero after stray closing brackets; what is written then is left to the reader of
regular expressions. Each character is written as units that it knows, and a
closing bracket among them comes from one that is not escaped, or is the end of
what a dash is written as where it begins a word.

So two things can close a class that stays open: a dash that begins a word
behind the bracket, and a comment around the bracket, in which it opens nothing.
Where there is neither, the wildcard matches nothing, unless a number in front of
the bracket is beyond a limit.

## Main definitions

* `Wildcard.Escapes`: Whether what follows a text is escaped.
* `Wildcard.StaysOpen`: A class that is never closed.
* `Wildcard.BeginsWord`: A dash behind the bracket that begins a word.
* `Wildcard.startsComment`: Whether a comment is being read behind a text.

## Theorems

* `Wildcard.escaping_scanFrom`: What the scan knows about escapes.
* `Wildcard.emit_units`: The units that a character is written as.
* `Wildcard.translateFrom_units`: The units that a text is written as.
* `Wildcard.compile_staysOpen`: A class that stays open silences its wildcard.
* `Wildcard.compile_reclosed`: Two classes that are closed all the same.
-/

namespace NamePatterns

namespace Wildcard

open Regex (Token)

/-- Whether a text ends in a backslash that is not escaped itself. -/
def Escapes (cs : List Char) : Prop :=
  (cs.reverse.takeWhile (· == '\\')).length % 2 = 1

instance (cs : List Char) : Decidable (Escapes cs) :=
  inferInstanceAs (Decidable (_ = _))

/-- Between the two texts stands a bracket that is not escaped and that no closing
    bracket follows but escaped ones. -/
def StaysOpen (before behind : List Char) : Prop :=
  ¬Escapes before ∧
    ∀ inner rest, behind = inner ++ ']' :: rest → Escapes (before ++ '[' :: inner)

/-- Behind the bracket stands a dash that begins a word, which it does where as
    many brackets have been closed as opened. -/
def BeginsWord (dashes : Bool) (before behind : List Char) : Prop :=
  dashes = true ∧ ∃ inner rest, behind = inner ++ '-' :: rest ∧
    (scanFrom {} (before ++ '[' :: inner)).depth = 0

/-- Whether a comment is being read behind what a text is written as. -/
def startsComment (dashes : Bool) (before : List Char) : Bool :=
  match Regex.Parser.run {} (Regex.units (translateFrom dashes {} before)) with
  | .ok s => s.mode.inComment
  | .error _ => false

/-- The scan escapes what follows just if the text does. -/
theorem escaping_scanFrom (cs : List Char) :
    (scanFrom {} cs).escaping = true ↔ Escapes cs := by
  induction cs using List.reverseRecOn with
  | nil => decide
  -- From the end of the text, since both sides look at its last characters first.
  | append_singleton cs c ih =>
      have hlast : (scanFrom {} (cs ++ [c])).escaping
          = (decide (c = '\\') && !(scanFrom {} cs).escaping) := by
        simp only [scanFrom, List.foldl_append, List.foldl_cons, List.foldl_nil, advance]
      unfold Escapes at ih ⊢
      rw [hlast, List.reverse_concat, List.takeWhile_cons]
      by_cases hc : c = '\\'
      · -- One more backslash turns an odd number of them into an even one.
        rw [if_pos (beq_iff_eq.mpr hc), decide_eq_true hc, Bool.true_and, List.length_cons,
          Bool.not_eq_true', ← Bool.not_eq_true, ih]
        omega
      · rw [if_neg (mt beq_iff_eq.mp hc), decide_eq_false hc, Bool.false_and]
        exact iff_of_false Bool.false_ne_true (by decide)

/-- What a closing bracket among the units of a character comes from. -/
def Closes (dashes : Bool) (s : Scan) (c : Char) : Prop :=
  c = ']' ∧ s.escaping = false ∨ c = '-' ∧ dashes = true ∧ s.depth = 0

/-- Units none of which is a lone backslash, and of which one closes a set only
    if something holds. -/
def Closing (p : Prop) (ts : List Token) : Prop :=
  ∀ t ∈ ts, t ≠ .plain '\\' ∧ (t = .plain ']' → p)

theorem Closing.nil {p : Prop} : Closing p [] :=
  nofun

theorem Closing.escaped {p : Prop} (c : Char) : Closing p [.escaped c] := by
  intro t ht
  obtain rfl := List.mem_singleton.mp ht
  exact ⟨nofun, nofun⟩

theorem Closing.plain {p : Prop} {c : Char} (hback : c ≠ '\\') (hclose : c = ']' → p) :
    Closing p [.plain c] := by
  intro t ht
  obtain rfl := List.mem_singleton.mp ht
  exact ⟨fun heq => hback (Token.plain.inj heq), fun heq => hclose (Token.plain.inj heq)⟩

theorem Closing.append {p : Prop} {ts us : List Token} (hts : Closing p ts)
    (hus : Closing p us) : Closing p (ts ++ us) := by
  intro t ht
  rcases List.mem_append.mp ht with hmem | hmem
  · exact hts t hmem
  · exact hus t hmem

theorem Closing.mono {p q : Prop} {ts : List Token} (h : Closing p ts) (hpq : p → q) :
    Closing q ts :=
  fun t ht => ⟨(h t ht).1, fun heq => hpq ((h t ht).2 heq)⟩

/-- A character is written as whole units. -/
theorem emit_units (dashes : Bool) (s : Scan) (c : Char) :
    ∃ ts : List Token, emit dashes s c = ts.flatMap Token.text ∧
      Closing (Closes dashes s c) ts := by
  -- The cases are those of `emit`, in their order.
  unfold emit
  by_cases hstar : c = '*'
  · rw [if_pos hstar]
    split
    · exact ⟨[.plain '*'], rfl, .plain (by decide) nofun⟩
    · split
      · exact ⟨[.escaped '*'], rfl, .escaped _⟩
      · exact ⟨[.plain '.'] ++ [.plain '*'], rfl,
          .append (.plain (by decide) nofun) (.plain (by decide) nofun)⟩
  rw [if_neg hstar]
  by_cases hquestion : c = '?'
  · rw [if_pos hquestion]
    split
    · exact ⟨[.plain '?'], rfl, .plain (by decide) nofun⟩
    · split
      · exact ⟨[.escaped '?'], rfl, .escaped _⟩
      · exact ⟨[.plain '.'], rfl, .plain (by decide) nofun⟩
  rw [if_neg hquestion]
  by_cases hop : isOperator c = true
  · rw [if_pos hop]
    split
    · exact ⟨[.escaped c], rfl, .escaped c⟩
    -- A bracket and a backslash are no operators, so this branch writes neither.
    · refine ⟨[.plain c], rfl, .plain ?_ ?_⟩ <;> rintro rfl <;> exact absurd hop (by decide)
  rw [if_neg hop]
  by_cases hback : c = '\\'
  · rw [if_pos hback]
    split
    · exact ⟨[.escaped '\\'], rfl, .escaped _⟩
    · exact ⟨[], rfl, .nil⟩
  rw [if_neg hback]
  by_cases hbracket : (decide (c = '[') || decide (c = ']')) = true
  · rw [if_pos hbracket]
    by_cases hescaping : s.escaping = true
    · rw [if_pos hescaping]
      exact ⟨[.escaped c], rfl, .escaped c⟩
    · rw [if_neg hescaping]
      refine ⟨[.plain c], rfl, .plain hback fun hclose => Or.inl ⟨hclose, ?_⟩⟩
      exact Bool.not_eq_true _ ▸ hescaping
  rw [if_neg hbracket]
  have hclose : c ≠ ']' := by
    rintro rfl
    exact hbracket rfl
  by_cases hmark : c = '!'
  · rw [if_pos hmark]
    split
    · exact ⟨[.plain '^'], rfl, .plain (by decide) nofun⟩
    · exact ⟨[.plain '!'], rfl, .plain (by decide) nofun⟩
  rw [if_neg hmark]
  by_cases hdash : c = '-'
  · rw [if_pos hdash]
    by_cases hword : (dashes && decide (s.depth = 0)) = true
    · rw [if_pos hword]
      rcases Bool.and_eq_true_iff.mp hword with ⟨hdashes, hdepth⟩
      refine ⟨wordBoundary.toList.map .plain, by decide, fun t ht => ⟨?_, fun _ => ?_⟩⟩
      · rintro rfl
        exact absurd ht (by decide)
      · exact Or.inr ⟨hdash, hdashes, of_decide_eq_true hdepth⟩
    · rw [if_neg hword]
      exact ⟨[.plain '-'], rfl, .plain (by decide) nofun⟩
  rw [if_neg hdash]
  exact ⟨[.plain c], rfl, .plain hback fun heq => absurd heq hclose⟩

/-- A text is written as whole units, and a closing bracket among them comes from
    one of its characters. -/
theorem translateFrom_units (dashes : Bool) (s : Scan) (cs : List Char) :
    ∃ ts : List Token, translateFrom dashes s cs = ts.flatMap Token.text ∧
      Closing (∃ inner c rest, cs = inner ++ c :: rest ∧ Closes dashes (scanFrom s inner) c)
        ts := by
  induction cs generalizing s with
  | nil => exact ⟨[], rfl, .nil⟩
  | cons c cs ih =>
      rcases emit_units dashes s c with ⟨ts, hemit, hts⟩
      rcases ih (advance s c) with ⟨us, htranslate, hus⟩
      refine ⟨ts ++ us, ?_, .append (hts.mono fun h => ⟨[], c, cs, rfl, h⟩) (hus.mono ?_)⟩
      · rw [translateFrom, hemit, htranslate, List.flatMap_append]
      · rintro ⟨inner, d, rest, rfl, h⟩
        exact ⟨c :: inner, d, rest, rfl, h⟩

/-- A fragment matches nothing, or what the wildcard is written as is a regular
    expression. -/
theorem compile_ok_cases {dashes : Bool} {w f : String}
    (h : (compile dashes w).outcome = .ok f) :
    f = matchNothing ∨ ∃ r, Regex.parse (translate dashes w).toList = .ok r := by
  rcases compile_fragment h with hnothing | ⟨rfl, hparse⟩
  · exact Or.inl hnothing
  · exact Or.inr hparse

theorem staysOpen_of_not_mem {before behind : List Char} (hopen : ¬Escapes before)
    (hclose : ']' ∉ behind) : StaysOpen before behind := by
  refine ⟨hopen, ?_⟩
  rintro inner rest rfl
  exact absurd (List.mem_append_right inner List.mem_cons_self) hclose

section

variable {dashes : Bool} {before behind : List Char} (hopen : StaysOpen before behind)

include hopen

/-- Where no dash begins a word, no unit behind the bracket closes its class. -/
theorem StaysOpen.units (hword : ¬BeginsWord dashes before behind) :
    ∃ ts us : List Token, translateFrom dashes {} before = ts.flatMap Token.text ∧
      translateFrom dashes {} (before ++ '[' :: behind)
        = (ts ++ .plain '[' :: us).flatMap Token.text ∧
      (∀ t ∈ ts ++ .plain '[' :: us, t ≠ .plain '\\') ∧ ∀ t ∈ us, t ≠ .plain ']' := by
  rcases hopen with ⟨hescapes, hclose⟩
  -- No unit is written by characters on either side of the bracket, so those in front of it
  -- and those behind it are found apart.
  rcases translateFrom_units dashes {} before with ⟨ts, hbefore, hts⟩
  rcases translateFrom_units dashes (scanFrom {} (before ++ ['['])) behind with ⟨us, hbehind, hus⟩
  have hbracket : emit dashes (scanFrom {} before) '[' = ['['] := by
    have hnot : (scanFrom {} before).escaping = false :=
      Bool.not_eq_true _ ▸ mt (escaping_scanFrom before).mp hescapes
    show (if (scanFrom {} before).escaping = true then ['\\', '['] else ['[']) = ['[']
    rw [hnot]
    rfl
  refine ⟨ts, us, hbefore, ?_, ?_, ?_⟩
  · rw [translateFrom_append, hbefore, translateFrom, hbracket, List.flatMap_append,
      List.flatMap_cons, ← hbehind, Glob.scanFrom_append]
    rfl
  · intro t ht
    rcases List.mem_append.mp ht with hmem | hmem
    · exact (hts t hmem).1
    · rcases List.mem_cons.mp hmem with rfl | hmem
      · decide
      · exact (hus t hmem).1
  · intro t ht heq
    -- What would close the class is an unescaped bracket or a dash that begins a word.
    rcases (hus t ht).2 heq with ⟨inner, c, rest, hsplit, hcloses⟩
    have hscan : scanFrom (scanFrom {} (before ++ ['['])) inner
        = scanFrom {} (before ++ '[' :: inner) := by
      rw [← Glob.scanFrom_append, List.append_assoc]
      rfl
    rw [hscan] at hcloses
    rcases hcloses with ⟨rfl, hfree⟩ | ⟨rfl, hdashes, hdepth⟩
    · have hescaped := (escaping_scanFrom _).mpr (hclose inner rest hsplit)
      rw [hfree] at hescaped
      cases hescaped
    · exact hword ⟨hdashes, inner, rest, hsplit, hdepth⟩

/-- What is written for a class that stays open is no regular expression. -/
theorem StaysOpen.parse_ne_ok (hword : ¬BeginsWord dashes before behind)
    (hcomment : startsComment dashes before = false) (r : Regex) :
    Regex.parse (translateFrom dashes {} (before ++ '[' :: behind)) ≠ .ok r := by
  rcases hopen.units hword with ⟨ts, us, hbefore, hall, hback, hclose⟩
  rw [hall]
  -- A set that is never closed is malformed if its bracket opens one, which it does not in a
  -- comment.
  refine Regex.parse_openSet (Token.ofChars?_flatMap_text hback) ?_ hclose r
  intro s hrun
  have hunits : Regex.units (translateFrom dashes {} before) = ts := by
    rw [Regex.units, hbefore, Token.ofChars?_flatMap_text
      fun t ht => hback t (List.mem_append_left _ ht)]
    rfl
  unfold startsComment at hcomment
  rw [hunits, hrun] at hcomment
  exact hcomment

/-- A class that stays open silences its wildcard, whatever stands in front of it,
    unless a dash behind it begins a word or it stands in a comment: then and only
    if no limit is exceeded, the wildcard becomes what matches nothing. -/
theorem compile_staysOpen (hword : ¬BeginsWord dashes before behind)
    (hcomment : startsComment dashes before = false) :
    (compile dashes (String.ofList (before ++ '[' :: behind))).outcome = .ok matchNothing ↔
      ¬ExceedsLimit dashes (String.ofList (before ++ '[' :: behind)) := by
  rw [← compile_ok_iff]
  constructor
  · intro h
    exact ⟨_, h⟩
  · rintro ⟨f, hf⟩
    have hregex : (translate dashes (String.ofList (before ++ '[' :: behind))).toList
        = translateFrom dashes {} (before ++ '[' :: behind) := by
      rw [translate, String.toList_ofList, String.toList_ofList]
    rcases compile_ok_cases hf with rfl | ⟨r, hr⟩
    · exact hf
    · rw [hregex] at hr
      exact absurd hr (hopen.parse_ne_ok hword hcomment r)

end

/-- A wildcard that closes two classes too many before it opens one, with an
    escaped bracket and a dash that begins no word behind it. -/
theorem compile_staysOpen_strays :
    let before := ['a', ']', ']']
    let behind := ['-', 'b', '\\', ']', '*']
    StaysOpen before behind ∧ ¬BeginsWord true before behind ∧
      startsComment true before = false ∧
      ((compile true "a]][-b\\]*").outcome = .ok matchNothing ↔ ¬ExceedsLimit true "a]][-b\\]*") ∧
      (compile true "a]][-b\\]*").outcome = .ok matchNothing := by
  have hopen : StaysOpen ['a', ']', ']'] ['-', 'b', '\\', ']', '*'] := by
    refine ⟨by decide, ?_⟩
    intro inner rest heq
    -- The only closing bracket is the fourth character.
    simp [List.cons_eq_append_iff] at heq
    obtain ⟨rfl, rfl⟩ := heq
    decide
  have hword : ¬BeginsWord true ['a', ']', ']'] ['-', 'b', '\\', ']', '*'] := by
    rintro ⟨_, inner, rest, heq, hdepth⟩
    simp [List.cons_eq_append_iff] at heq
    obtain ⟨rfl, rfl⟩ := heq
    exact absurd hdepth (by decide)
  have hcomment : startsComment true ['a', ']', ']'] = false := by
    decide +kernel
  exact ⟨hopen, hword, hcomment, compile_staysOpen hopen hword hcomment, by decide +kernel⟩

/-- A class that stays open can be closed by a dash that begins a word, and by the
    end of a comment around it. -/
theorem compile_reclosed :
    (StaysOpen [']'] ['-'] ∧ (compile true "][-").outcome = .ok "][[A-Z0-9]") ∧
      StaysOpen ['[', '[', ']', '(', '?', '#', ']', ']', ']'] [')'] ∧
        (compile false "[[](?#]]][)").outcome = .ok "[[](?#]]][)" :=
  ⟨⟨staysOpen_of_not_mem (by decide) (by decide), by decide +kernel⟩,
    staysOpen_of_not_mem (by decide) (by decide), by decide +kernel⟩

end Wildcard

end NamePatterns
