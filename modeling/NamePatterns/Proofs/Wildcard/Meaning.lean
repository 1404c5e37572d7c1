import NamePatterns.Proofs.Glob.Meaning
import NamePatterns.Proofs.Regex.SetContent
import NamePatterns.Proofs.Wildcard.OpenClass

/-!
# From What Is Written to What It Means

What becomes of a wildcard, once it is known how the units are read that it is
written as.

Units that lead to a row of plain trees make the wildcard an accepted one, whose
tree is that row. Units that are refused, or that leave a set open, silence it.
There is nothing in between for the wildcards whose units are known to do one or
the other, so what they mean can be told exactly. `Means` says that a wildcard is
accepted and matches the names of a language and no others; a wildcard that
means something is not silenced and means one thing only.

The language is that of whole names, and the answer to every name is part of
what it means: a wildcard with a meaning is asked about any name without an
error. That there is only one meaning is what makes two descriptions of one
wildcard comparable, and is used to refute a claimed meaning by giving another
one.

## Main definitions

* `Regex.isPlain`: The trees that a wildcard should be a row of.
* `Wildcard.Writes`: The units that a wildcard is written as.
* `Wildcard.Means`: A wildcard is accepted and matches a language.
* `Wildcard.Selects`: A wildcard selects a name.

## Theorems

* `Regex.parse_row`, `Regex.parse_refused`: Texts that are a row of plain trees,
  and texts that are refused.
* `Wildcard.Writes.accepted`, `Wildcard.Writes.means`: Wildcards that are accepted.
* `Wildcard.Writes.silenced`: Wildcards that are silenced.
* `Wildcard.not_selects_of_silenced`: A silenced wildcard selects no name.
* `Wildcard.Means.unique`: A wildcard means one thing.
* `Glob.means_text`: A flat wildcard means its language.
-/

namespace NamePatterns

namespace Regex

/-- Any number of any characters. -/
def anyStar : Regex :=
  .repetition 0 none .greedy .any

/-- Whether a tree is a single character, a set of characters, any character or
    any number of them. -/
def isPlain : Regex → Bool
  | .literal _ | .anyBut _ | .any | .set .. => true
  | .repetition 0 none .greedy .any => true
  | _ => false

/-- Plain trees are single trees of a row, without assertions. -/
theorem isPlain_single {r : Regex} (h : r.isPlain = true) :
    r.dissolved = [r] ∧ r.lookBehindWidths = [] ∧ r.toList = [r] :=
  match r, h with
  | .literal _, _ | .anyBut _, _ | .any, _ | .set .., _ => ⟨rfl, rfl, rfl⟩
  | .repetition 0 none .greedy .any, _ => ⟨rfl, rfl, rfl⟩

theorem isPlain_setTree (negated : Bool) (is : List SetItem) :
    (Parser.State.setTree negated is).isPlain = true := by
  unfold Parser.State.setTree
  split <;> rfl

/-- A row of plain trees is not the assertion that matches nothing. -/
theorem seq_ne_lookAhead {rs : List Regex} (h : ∀ r ∈ rs, r.isPlain = true) (negated : Bool)
    (r : Regex) : seq rs ≠ .lookAhead negated r := by
  -- A row of one tree is that tree, which is plain; a longer row is no assertion.
  intro heq
  cases rs with
  | nil => cases heq
  | cons r' rs =>
      cases rs with
      | nil =>
          have hplain := h r' List.mem_cons_self
          rw [show r' = .lookAhead negated r from heq] at hplain
          cases hplain
      | cons _ _ => cases heq

section

variable {ts : List Token} (hts : ∀ t ∈ ts, t ≠ .plain '\\')

include hts

/-- Units that lead to a row of plain trees are this row. -/
theorem parse_row {items : List Regex} (h : Parser.Leads {} ts (Parser.Row items))
    (hplain : ∀ r ∈ items, r.isPlain = true) :
    parse (ts.flatMap Token.text) = .ok (seq items.reverse) :=
  parse_of_leads hts h fun r hr =>
    ⟨(isPlain_single (hplain r hr)).1, (isPlain_single (hplain r hr)).2.1⟩

/-- Units that are refused, or that leave a set open, are malformed. -/
theorem parse_refused
    (h : Parser.Refuses {} ts ∨ Parser.Leads {} ts (·.mode.isStuck = true)) :
    ∃ e, parse (ts.flatMap Token.text) = .error (.malformed e) := by
  unfold parse
  rw [Token.ofChars?_flatMap_text hts]
  rcases h with ⟨e, hrun⟩ | ⟨s, hrun, hstuck⟩
  · refine ⟨e, ?_⟩
    show (Parser.run {} ts).bind _ = _
    rw [hrun]
    rfl
  · -- The text may not end where a set or a name is being read.
    obtain ⟨e, hfinish⟩ : ∃ e, Parser.finish s = .error (.malformed e) := by
      unfold Parser.finish
      cases hmode : s.mode with
      | set start negated items stage => exact ⟨_, rfl⟩
      | head start h => exact ⟨_, rfl⟩
      | _ =>
          rw [hmode] at hstuck
          cases hstuck
    refine ⟨e, ?_⟩
    show (Parser.run {} ts).bind _ = _
    rw [hrun]
    show (Parser.finish s).bind _ = _
    rw [hfinish]
    rfl

end

end Regex

namespace Wildcard

open Regex (Denotes Token seq)
open Regex.Parser (Leads Refuses Row)

/-- A text is written as units, none of which is a lone backslash. -/
structure Writes (dashes : Bool) (w : List Char) (us : List Token) : Prop where
  text : translateFrom dashes {} w = us.flatMap Token.text
  whole : ∀ u ∈ us, u ≠ .plain '\\'

/-- A wildcard is accepted without a report, and what becomes of it matches just
    the names of a language. -/
def Means (dashes : Bool) (w : List Char) (L : Language Char) : Prop :=
  ∃ fragment tree,
    outcome dashes (String.ofList w) = .ok (.accepted fragment) ∧
    fragment ≠ matchNothing ∧
    compile dashes (String.ofList w) = ⟨[], .ok fragment⟩ ∧
    Regex.parse fragment.toList = .ok tree ∧
    ∀ name : String, ∃ matched, tree.fullMatch name.toList = .ok matched ∧
      (matched = true ↔ name.toList ∈ L)

/-- A wildcard becomes a regular expression that matches a whole name. -/
def Selects (dashes : Bool) (w name : List Char) : Prop :=
  ∃ f r, (compile dashes (String.ofList w)).outcome = .ok f ∧ Regex.parse f.toList = .ok r ∧
    r.fullMatch name = .ok true

/-- A silenced wildcard selects no name. -/
theorem not_selects_of_silenced {dashes : Bool} {w : List Char}
    (h : (compile dashes (String.ofList w)).outcome = .ok matchNothing) (name : List Char) :
    ¬Selects dashes w name := by
  rintro ⟨f, r, hf, hr, hname⟩
  -- The fragment that matches nothing is an assertion that always fails.
  rw [h] at hf
  cases hf
  rw [parse_matchNothing] at hr
  cases hr
  cases hname

namespace Writes

variable {dashes : Bool} {w : List Char} {us : List Token} (hw : Writes dashes w us)

include hw

theorem translate_eq : (translate dashes (String.ofList w)).toList = us.flatMap Token.text := by
  rw [toList_translate, String.toList_ofList, hw.text]

section

variable {items : List Regex} (hclosed : (scanFrom {} w).depth ≤ 0)
  (hleads : Leads {} us (Row items)) (hplain : ∀ r ∈ items, r.isPlain = true)

include hclosed hleads hplain

/-- A wildcard without open classes whose units lead to a row of plain trees is
    accepted. -/
theorem accepted :
    outcome dashes (String.ofList w) = .ok (.accepted (translate dashes (String.ofList w))) ∧
      Regex.parse (translate dashes (String.ofList w)).toList = .ok (seq items.reverse) ∧
      translate dashes (String.ofList w) ≠ matchNothing := by
  have hparse : Regex.parse (translate dashes (String.ofList w)).toList
      = .ok (seq items.reverse) := by
    rw [hw.translate_eq]
    exact Regex.parse_row hw.whole hleads hplain
  refine ⟨?_, hparse, ?_⟩
  · unfold outcome
    -- The scan that translates the wildcard also counts its classes, and it ends with none
    -- open.
    have hdepth : ¬0 < openClasses (String.ofList w) := by
      rw [openClasses, String.toList_ofList]
      exact Int.not_lt.mpr hclosed
    simp only [if_neg hdepth, hparse]
  · intro heq
    rw [heq, parse_matchNothing] at hparse
    exact Regex.seq_ne_lookAhead (fun r hr => hplain r (List.mem_reverse.mp hr)) true .empty
      (Except.ok.inj hparse).symm

/-- Such a wildcard means what the row denotes. -/
theorem means {L : Language Char} (hdenotes : Denotes (seq items.reverse) L) :
    Means dashes w L := by
  rcases hw.accepted hclosed hleads hplain with ⟨houtcome, hparse, hne⟩
  refine ⟨_, _, houtcome, hne, ?_, hparse, fun name => hdenotes.fullMatch_iff name.toList⟩
  unfold compile
  rw [houtcome]
  rfl

end

/-- A wildcard whose units are refused or leave a set open is silenced. -/
theorem silenced (h : Refuses {} us ∨ Leads {} us (·.mode.isStuck = true)) :
    (compile dashes (String.ofList w)).outcome = .ok matchNothing := by
  rcases Regex.parse_refused hw.whole h with ⟨e, hparse⟩
  rw [← hw.translate_eq] at hparse
  unfold compile outcome
  -- An open class silences the wildcard as well, before it is read.
  by_cases hopen : 0 < openClasses (String.ofList w)
  · simp only [if_pos hopen]
    rfl
  · simp only [if_neg hopen, hparse]
    rfl

end Writes

namespace Means

variable {dashes : Bool} {w : List Char} {L M : Language Char}

theorem not_silenced (h : Means dashes w L) :
    (compile dashes (String.ofList w)).outcome ≠ .ok matchNothing := by
  rcases h with ⟨fragment, tree, _, hne, hcompile, _⟩
  rw [hcompile]
  exact fun heq => hne (Except.ok.inj heq)

/-- A wildcard that means a language selects the names in it. -/
theorem selects_iff (h : Means dashes w L) {name : List Char} :
    Selects dashes w name ↔ name ∈ L := by
  -- There is one fragment and one tree of a wildcard, so whatever selects a name does so
  -- through these.
  rcases h with ⟨f, r, _, _, hf, hr, hL⟩
  rcases hL (String.ofList name) with ⟨matched, hmatched, hmem⟩
  rw [String.toList_ofList] at hmatched hmem
  constructor
  · rintro ⟨f', r', hf', hr', hname⟩
    rw [hf] at hf'
    cases hf'
    rw [hr] at hr'
    cases hr'
    rw [hmatched] at hname
    exact hmem.mp (Except.ok.inj hname)
  · intro hname
    rw [hmem.mpr hname] at hmatched
    exact ⟨f, r, by rw [hf], hr, hmatched⟩

/-- A wildcard means one thing. -/
theorem unique (hL : Means dashes w L) (hM : Means dashes w M) : L = M := by
  ext name
  rw [← hL.selects_iff, ← hM.selects_iff]

end Means

end Wildcard

namespace Glob

open Wildcard (Means Writes)

theorem isPlain_tree (dashes : Bool) (t : Token) : (t.tree dashes).isPlain = true := by
  cases t with
  | literal c | star | question | escaped c => rfl
  | dash => cases dashes <;> rfl
  | oneOf negated items => exact Regex.isPlain_setTree negated items

/-- Units that are read as the trees of tokens mean what the tokens mean. -/
theorem means_of_leads {dashes : Bool} {w : List Char} {us : List Regex.Token}
    (hw : Writes dashes w us) (hclosed : (Wildcard.scanFrom {} w).depth ≤ 0) {g : List Token}
    (hleads : Regex.Parser.Leads {} us
      (Regex.Parser.Row (g.map (Token.tree dashes)).reverse)) :
    Means dashes w (language dashes g) := by
  -- The reader collects items in reverse, and its row denotes them in order.
  refine hw.means hclosed hleads ?_ ?_
  · intro r hr
    rcases List.mem_map.mp (List.mem_reverse.mp hr) with ⟨t, _, rfl⟩
    exact isPlain_tree dashes t
  · rw [List.reverse_reverse]
    exact denotes_tokens dashes g

/-- A flat wildcard means its language. -/
theorem means_text {dashes : Bool} {g : List Token} (hg : ∀ t ∈ g, t.WellFormed dashes)
    (leftOver : Bool) : Means dashes (text g leftOver) (language dashes g) := by
  have hscan := scan_text hg scan_start leftOver
  refine means_of_leads ⟨hscan.text, fun u hu => ?_⟩ (Int.le_of_eq hscan.ends) ?_
  · rcases List.mem_flatMap.mp hu with ⟨t, ht, hu⟩
    exact written_ne_backslash (hg t ht) hu
  · have hleads := leads_tokens hg Regex.Parser.row_start
    rw [List.append_nil] at hleads
    exact hleads

end Glob

end NamePatterns
