import NamePatterns.Proofs.Wildcard.Meaning

/-!
# Classes of Escaped Characters

What a class means whose characters all stand behind a backslash.

The scan drops the backslash of most characters in a class, so the reader of
regular expressions cannot tell an escaped character from one that is not. For
brackets, backslashes and carets the backslash is kept, and an exclamation mark
behind it does not negate, so these characters stand for themselves. A dash does
not: between two other characters it makes a range of them. The class is a set
of the items that its characters amount to, whatever stands around it, and if a
range among them runs backwards, the wildcard is silenced.

So a class of escaped characters stands for exactly these characters if no range
runs backwards and the items hold the same characters as the list.

## Main definitions

* `escapedClass`: A class of escaped characters.
* `kept`: The unit that an escaped character is written as inside a class.

## Theorems

* `scan_escapedClass`: What the scan does with such a class.
* `escapedClass_cases`: What becomes of a wildcard with such a class.
* `compile_escapedClass`: When such a class stands for its characters.
* `compile_escapedClass_dash`: Escaped dashes that make ranges.
-/

namespace NamePatterns

namespace Glob

open Regex (itemsOf oneChar)
open Regex.Parser (IsMember Leads setHead)
open Regex.Parser.State (setTree)
open Wildcard (Means Scan Selects Writes advance emit scanFrom translateFrom isOperator)

/-- A class of escaped characters. -/
def escapedClass (negated : Bool) (cs : List Char) : List Char :=
  '[' :: ((if negated then ['!'] else []) ++ cs.flatMap (fun c => ['\\', c]) ++ [']'])

/-- The unit that an escaped character is written as inside a class. -/
def kept (c : Char) : Regex.Token :=
  if c = '^' || c = '\\' || c = '[' || c = ']' then .escaped c else .plain c

theorem emit_kept (dashes : Bool) (c : Char) :
    emit dashes ⟨true, 1, false⟩ c = (kept c).text := by
  -- The characters that the scan knows are tried one by one; all others go the same way.
  by_cases hspecial : c ∈ ['*', '?', '^', '\\', '[', ']', '!', '-']
  · simp only [List.mem_cons, List.not_mem_nil, or_false] at hspecial
    rcases hspecial with rfl | rfl | rfl | rfl | rfl | rfl | rfl | rfl
    all_goals cases dashes <;> rfl
  · simp only [List.mem_cons, List.not_mem_nil, or_false, not_or] at hspecial
    rcases hspecial with ⟨hstar, hquestion, hcaret, hback, hopen, hclose, hmark, hdash⟩
    -- Inside a class an operator is written as any other character.
    simp only [emit, kept, hstar, hquestion, hcaret, hback, hopen, hclose, hmark, hdash,
      decide_false, Bool.or_self, Bool.false_eq_true, if_false,
      one_ne_zero, ite_self, Regex.Token.text]

theorem char_kept (c : Char) : (kept c).char = c := by
  unfold kept
  split <;> rfl

/-- An escaped character is written as a member of a set that neither closes nor
    negates it. -/
theorem member_kept (c : Char) : IsMember (kept c) ∧ kept c ≠ .plain ']' ∧ kept c ≠ .plain '^' ∧
    kept c ≠ .plain '\\' := by
  unfold kept
  split
  · next hkept =>
    simp only [Bool.or_eq_true, decide_eq_true_eq] at hkept
    rcases hkept with ((rfl | rfl) | rfl) | rfl
    all_goals exact ⟨⟨by decide, by decide⟩, nofun, nofun, nofun⟩
  · next hkept =>
    simp only [Bool.or_eq_true, decide_eq_true_eq, not_or] at hkept
    rcases hkept with ⟨⟨⟨hcaret, hback⟩, _⟩, hclose⟩
    exact ⟨trivial, fun h => hclose (Regex.Token.plain.inj h),
      fun h => hcaret (Regex.Token.plain.inj h), fun h => hback (Regex.Token.plain.inj h)⟩

/-- Escaped characters are written one after the other inside a class. -/
theorem scan_escapes (dashes : Bool) {b : Bool} (cs : List Char) :
    Scans dashes ⟨false, 1, b⟩ (cs.flatMap fun c => ['\\', c]) (cs.map kept)
      fun s => ∃ b', s = ⟨false, 1, b'⟩ := by
  induction cs generalizing b with
  | nil => exact Scans.nil ⟨b, rfl⟩
  | cons c cs ih =>
      have hback : emit dashes ⟨false, 1, b⟩ '\\' = [] := rfl
      have hbacked : advance ⟨false, 1, b⟩ '\\' = ⟨true, 1, false⟩ := rfl
      have hfirst : Scans dashes ⟨false, 1, b⟩ ['\\', c] [kept c] fun s =>
          ∃ b', s = ⟨false, 1, b'⟩ := by
        refine ⟨?_, c = '[', ?_⟩
        · simp only [translateFrom, hback, hbacked, emit_kept, List.nil_append, List.append_nil,
            List.flatMap_cons, List.flatMap_nil]
        · show advance (advance ⟨false, 1, b⟩ '\\') c = _
          rw [hbacked]
          simp only [advance, Bool.not_true, Bool.and_false, if_true]
      refine hfirst.append ?_
      rintro _ ⟨b', rfl⟩
      exact ih

/-- A class of escaped characters is written as a set, and leaves no class open. -/
theorem scan_escapedClass (dashes negated : Bool) (cs : List Char) {s : Scan} (hs : AtRest s) :
    Scans dashes s (escapedClass negated cs)
      (setHead negated ++ cs.map kept ++ [Regex.Token.plain ']']) AtRest := by
  obtain ⟨escaping, depth, b⟩ := s
  obtain ⟨rfl, rfl⟩ : escaping = false ∧ depth = 0 := hs
  have hhead : Scans dashes ⟨false, 0, b⟩ ('[' :: if negated then ['!'] else [])
      (setHead negated) fun s' => ∃ b', s' = ⟨false, 1, b'⟩ := by
    cases negated with
    | false => exact ⟨rfl, true, rfl⟩
    | true => exact ⟨rfl, false, rfl⟩
  refine Scans.append (R := fun s' => ∃ b', s' = ⟨false, 1, b'⟩) (hhead.append ?_) ?_
  · rintro _ ⟨b', rfl⟩
    exact scan_escapes dashes cs
  · rintro _ ⟨b', rfl⟩
    exact ⟨rfl, rfl, rfl⟩

section

variable {dashes : Bool} {g h : List Token} (hg : ∀ t ∈ g, t.WellFormed dashes)
  (hh : ∀ t ∈ h, t.WellFormed dashes) (negated leftOver : Bool) (cs : List Char)

include hg hh

/-- A class of escaped characters between two flat wildcards, as units. -/
theorem writes_escapedClass :
    Writes dashes (text g false ++ escapedClass negated cs ++ text h leftOver)
        (g.flatMap (Token.written dashes) ++ (setHead negated ++ cs.map kept ++ [.plain ']'])
          ++ h.flatMap (Token.written dashes)) ∧
      (scanFrom {} (text g false ++ escapedClass negated cs ++ text h leftOver)).depth ≤ 0 := by
  have hscans := ((scan_tokens hg scan_start).append fun _ hs =>
    scan_escapedClass dashes negated cs hs).append fun _ hs => scan_text hh hs leftOver
  have htext : text g false = g.flatMap Token.text := List.append_nil _
  rw [htext]
  refine ⟨⟨hscans.text, fun u hu => ?_⟩, Int.le_of_eq hscans.ends⟩
  simp only [List.mem_append, List.mem_singleton] at hu
  rcases hu with (hu | (hu | hu) | rfl) | hu
  · rcases List.mem_flatMap.mp hu with ⟨t, ht, hu⟩
    exact written_ne_backslash (hg t ht) hu
  · rintro rfl
    cases negated <;> exact absurd hu (by decide)
  · rcases List.mem_map.mp hu with ⟨c, _, rfl⟩
    exact (member_kept c).2.2.2
  · decide
  · rcases List.mem_flatMap.mp hu with ⟨t, ht, hu⟩
    exact written_ne_backslash (hh t ht) hu

/-- A class of escaped characters stands for the items that they amount to, or
    silences its wildcard if a range among these runs backwards. -/
theorem escapedClass_cases (hne : cs ≠ []) :
    (itemsOf cs).all SetItem.isOrdered = true ∧
        Means dashes (text g false ++ escapedClass negated cs ++ text h leftOver)
          (language dashes g * oneChar (fun c => (itemsOf cs).any (·.contains c) != negated)
            * language dashes h) ∨
      (itemsOf cs).all SetItem.isOrdered = false ∧
        (Wildcard.compile dashes (String.ofList
          (text g false ++ escapedClass negated cs ++ text h leftOver))).outcome
            = .ok matchNothing := by
  rcases writes_escapedClass hg hh negated leftOver cs with ⟨hwrites, hdepth⟩
  have hbefore := leads_tokens hg Regex.Parser.row_start
  rw [List.append_nil] at hbefore
  rcases hbefore with ⟨s, hrun, hrow⟩
  -- Whether the set is read or refused is seen from its items, which the characters amount to.
  rcases hrow.set_map negated hne fun c _ => ⟨char_kept c, (member_kept c).1,
      (member_kept c).2.1, (member_kept c).2.2.1⟩ with ⟨hall, hleads⟩ | ⟨hall, hrefused⟩
  · refine Or.inl ⟨hall, ?_⟩
    -- The wildcard is read as a flat one with a class of these items.
    have hlanguage : language dashes (g ++ .oneOf negated (itemsOf cs) :: h)
        = language dashes g * oneChar (fun c => (itemsOf cs).any (·.contains c) != negated)
          * language dashes h := by
      simp only [language, List.map_append, List.map_cons, List.prod_append, List.prod_cons,
        Token.language, mul_assoc]
    have htrees : ((g ++ .oneOf negated (itemsOf cs) :: h).map (Token.tree dashes)).reverse
        = (h.map (Token.tree dashes)).reverse
          ++ setTree negated (itemsOf cs) :: (g.map (Token.tree dashes)).reverse := by
      simp only [List.map_append, List.map_cons, List.reverse_append, List.reverse_cons,
        List.append_assoc, List.singleton_append, Token.tree]
    rw [← hlanguage]
    refine means_of_leads hwrites hdepth ?_
    rw [htrees]
    exact (hleads.behind hrun).append fun s' hs' => leads_tokens hh hs'
  · refine Or.inr ⟨hall, hwrites.silenced (Or.inl ?_)⟩
    exact (hrefused.behind hrun).append _

end

/-- A class of escaped characters stands for one of these characters, or for none
    of them, between all flat wildcards, just if no range among the items that they
    amount to runs backwards and the items hold the same characters. -/
theorem compile_escapedClass {dashes negated : Bool} {cs : List Char} (hne : cs ≠ []) :
    (∀ g h leftOver, (∀ t ∈ g, t.WellFormed dashes) → (∀ t ∈ h, t.WellFormed dashes) →
        Means dashes (text g false ++ escapedClass negated cs ++ text h leftOver)
          (language dashes g * oneChar (fun c => cs.contains c != negated)
            * language dashes h)) ↔
      (itemsOf cs).all SetItem.isOrdered = true ∧
        ∀ c, (itemsOf cs).any (·.contains c) = cs.contains c := by
  constructor
  · intro hmeans
    -- The class alone is one of the wildcards, and tells as much as all of them.
    have hnone : ∀ t ∈ ([] : List Token), t.WellFormed dashes := nofun
    have halone := hmeans [] [] false hnone hnone
    rcases escapedClass_cases hnone hnone negated false cs hne with
      ⟨hall, hactual⟩ | ⟨_, hsilenced⟩
    · refine ⟨hall, fun c => ?_⟩
      have hsame := halone.unique hactual
      rw [language, List.map_nil, List.prod_nil, one_mul, mul_one, one_mul, mul_one] at hsame
      -- A name of one character tells the two sets apart.
      have hmem : [c] ∈ oneChar (fun c => cs.contains c != negated) ↔
          [c] ∈ oneChar (fun c => (itemsOf cs).any (·.contains c) != negated) := by
        rw [hsame]
      rw [Regex.singleton_mem_oneChar, Regex.singleton_mem_oneChar] at hmem
      have hbne : ∀ a b : Bool, ((a != negated) = true ↔ (b != negated) = true) → b = a := by
        cases negated <;> decide
      exact hbne _ _ hmem
    · exact absurd hsilenced halone.not_silenced
  · rintro ⟨hall, hsame⟩ g h leftOver hg hh
    rcases escapedClass_cases hg hh negated leftOver cs hne with ⟨_, hmeans⟩ | ⟨hnot, _⟩
    · simp only [hsame] at hmeans
      exact hmeans
    · rw [hall] at hnot
      cases hnot

/-- The characters that mean something in a class, none of which makes a range. -/
theorem compile_escapedClass_signs :
    ['-', '!', ']', '[', '\\', '^'] ≠ [] ∧
    ∀ g h leftOver, (∀ t ∈ g, t.WellFormed false) → (∀ t ∈ h, t.WellFormed false) →
      Means false
        (text g false ++ escapedClass true ['-', '!', ']', '[', '\\', '^'] ++ text h leftOver)
        (language false g * oneChar (fun c => ['-', '!', ']', '[', '\\', '^'].contains c != true)
          * language false h) := by
  refine ⟨by decide, (compile_escapedClass (by decide)).mpr ⟨by decide, fun c => ?_⟩⟩
  have hitems : itemsOf ['-', '!', ']', '[', '\\', '^']
      = ['-', '!', ']', '[', '\\', '^'].map .single := by decide
  rw [hitems, List.any_map, List.contains_eq_any_beq]
  rfl

/-- An escaped dash between two letters is a range all the same: the class accepts a
    letter that is not listed, and silences the wildcard if the letters are the other
    way round. -/
theorem compile_escapedClass_dash :
    ¬Means false (text [] false ++ escapedClass false ['a', '-', 'z'] ++ text [] false)
        (language false [] * oneChar (fun c => ['a', '-', 'z'].contains c != false)
          * language false []) ∧
      (Wildcard.compile false "[\\a\\-\\z]").outcome = .ok "[a-z]" ∧
      (Wildcard.compile false "[\\z\\-\\a]").outcome = .ok matchNothing := by
  refine ⟨fun h => ?_, by decide +kernel, by decide +kernel⟩
  rw [language, List.map_nil, List.prod_nil, one_mul, mul_one] at h
  have hselects : Selects false ['[', '\\', 'a', '\\', '-', '\\', 'z', ']'] ['b'] :=
    ⟨"[a-z]", .set false [.range 'a' 'z'], by decide +kernel, by decide +kernel,
      by decide +kernel⟩
  exact absurd (Regex.singleton_mem_oneChar.mp (h.selects_iff.mp hselects)) (by decide)

end Glob

end NamePatterns
