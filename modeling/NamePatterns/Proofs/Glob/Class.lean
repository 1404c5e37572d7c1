import NamePatterns.Proofs.Glob.Translation
import NamePatterns.Proofs.Regex.SetContent

/-!
# Classes as Read

What is read for a class of a flat wildcard, and for one whose ranges may run
backwards.

An item can be written if its characters can be listed, whether its range runs
forwards or backwards. The characters of such items amount to these items again,
since none of them is a dash. So between the brackets of a set they are this
set, or the set is refused for a range that runs backwards; how single characters
are escaped does not matter.

The two halves are kept apart. What the characters amount to is a matter of
their order alone, and how each is written is a matter of one character. So the
classes of a flat wildcard, of one behind a stray bracket and of one with
escaped characters need only say how they write a character.

## Main definitions

* `Spells`: The ways to write the characters of a class.

## Theorems

* `itemsOf_itemText`: The items that written items amount to.
* `Spells.leads`: What is read for written items between brackets.
* `leads_oneOf`: What is read for a class.
-/

namespace NamePatterns

namespace Glob

open Regex (itemsOf)
open Regex.Parser (IsMember Leads Refuses Row setHead)
open Regex.Parser.State (setTree)

/-- An item is well formed if its characters can be listed and it does not run
    backwards. -/
theorem itemWellFormed_iff {i : SetItem} :
    ItemWellFormed i ↔ ItemListable i ∧ i.isOrdered = true := by
  cases i with
  | single c => exact (and_iff_left rfl).symm
  | range low high =>
      simp only [ItemWellFormed, ItemListable, SetItem.isOrdered, decide_eq_true_eq, and_assoc]

theorem ne_dash_of_isListable {c : Char} (hc : isListable c = true) : c ≠ '-' := by
  rintro rfl
  cases hc

/-- The characters that items are written with amount to these items. -/
theorem itemsOf_itemText {is : List SetItem} (h : ∀ i ∈ is, ItemListable i) :
    itemsOf (is.flatMap itemText) = is := by
  induction is with
  | nil => rfl
  | cons i is ih =>
      have hrest := ih fun j hj => h j (List.mem_cons_of_mem _ hj)
      cases i with
      -- A range takes its three characters together.
      | range low high => exact congrArg (SetItem.range low high :: ·) hrest
      | single c =>
          -- What follows begins with a character that is no dash.
          have hnext : ∀ high cs, is.flatMap itemText ≠ '-' :: high :: cs := by
            intro high cs heq
            cases is with
            | nil => cases heq
            | cons j js =>
                have hj := h j (List.mem_cons_of_mem _ List.mem_cons_self)
                cases j with
                | single d => exact ne_dash_of_isListable hj (List.cons.inj heq).1
                | range low high' => exact ne_dash_of_isListable hj.1 (List.cons.inj heq).1
          exact (Regex.itemsOf_single hnext).trans (congrArg (SetItem.single c :: ·) hrest)

/-- The characters that items are written with are listable or dashes. -/
theorem mem_itemText {is : List SetItem} (h : ∀ i ∈ is, ItemListable i) {c : Char}
    (hc : c ∈ is.flatMap itemText) : isListable c = true ∨ c = '-' := by
  rcases List.mem_flatMap.mp hc with ⟨i, hi, hc⟩
  have hlist := h i hi
  cases i with
  | single d =>
      obtain rfl := List.mem_singleton.mp hc
      exact Or.inl hlist
  | range low high =>
      simp only [itemText, List.mem_cons, List.not_mem_nil, or_false] at hc
      rcases hc with rfl | rfl | rfl
      · exact Or.inl hlist.1
      · exact Or.inr rfl
      · exact Or.inl hlist.2

theorem itemText_ne_nil {is : List SetItem} (hne : is ≠ []) : is.flatMap itemText ≠ [] := by
  cases is with
  | nil => exact absurd rfl hne
  | cons i is => cases i <;> exact List.cons_ne_nil _ _

/-- The ways to write the characters of a class so that a set takes them for
    themselves: none closes the set or negates it. -/
structure Spells (unit : Char → Regex.Token) : Prop where
  dash : unit '-' = .plain '-'
  char : ∀ c, isListable c = true → (unit c).char = c
  member : ∀ c, isListable c = true →
    IsMember (unit c) ∧ unit c ≠ .plain ']' ∧ unit c ≠ .plain '^'

namespace Spells

variable {unit : Char → Regex.Token} (hunit : Spells unit) {is : List SetItem}
  (his : ∀ i ∈ is, ItemListable i)

include hunit his

/-- Dashes between the characters of a class make the ranges of the set. -/
theorem item {c : Char} (hc : c ∈ is.flatMap itemText) :
    (unit c).char = c ∧ IsMember (unit c) ∧ unit c ≠ .plain ']' ∧ unit c ≠ .plain '^' := by
  rcases mem_itemText his hc with hlist | rfl
  · exact ⟨hunit.char c hlist, hunit.member c hlist⟩
  · rw [hunit.dash]
    exact ⟨rfl, trivial, by decide, by decide⟩

/-- Items between brackets are read as a set of these items, or are refused for a
    range that runs backwards. -/
theorem leads (hne : is ≠ []) {items : List Regex} {s : Regex.Parser.State} (h : Row items s)
    (negated : Bool) :
    is.all SetItem.isOrdered = true ∧
        Leads s (setHead negated ++ (is.flatMap itemText).map unit ++ [.plain ']'])
          (Row (setTree negated is :: items)) ∨
      is.all SetItem.isOrdered = false ∧
        Refuses s (setHead negated ++ (is.flatMap itemText).map unit ++ [.plain ']']) := by
  have hread := h.set_map negated (itemText_ne_nil hne) fun c hc => hunit.item his hc
  rw [itemsOf_itemText his] at hread
  exact hread

end Spells

/-- The characters of a class are written so that a set takes them for themselves. -/
theorem spells_listed : Spells listed := by
  refine ⟨rfl, fun c _ => ?_, fun c hc => ?_⟩
  · unfold listed
    split <;> rfl
  · simp only [isListable, Bool.not_eq_true', Bool.or_eq_false_iff, decide_eq_false_iff_not] at hc
    by_cases hcaret : c = '^'
    · subst hcaret
      exact ⟨⟨by decide, by decide⟩, by decide, by decide⟩
    · simp only [listed, if_neg hcaret]
      exact ⟨trivial, fun h => hc.1.1.2 (Regex.Token.plain.inj h),
        fun h => hcaret (Regex.Token.plain.inj h)⟩

/-- The units of a class are what opens it, its characters and what closes it. -/
theorem written_oneOf (dashes negated : Bool) (items : List SetItem) :
    (Token.oneOf negated items).written dashes
      = setHead negated ++ (items.flatMap itemText).map listed ++ [.plain ']'] := by
  have hitems : items.flatMap itemWritten = (items.flatMap itemText).map listed := by
    rw [List.map_flatMap]
    refine List.flatMap_congr fun i _ => ?_
    cases i <;> rfl
  rw [Token.written, hitems]
  rfl

/-- What is written for a class is read as a set, if no range in it runs backwards. -/
theorem leads_oneOf {dashes negated : Bool} {is : List SetItem}
    (ht : (Token.oneOf negated is).WellFormed dashes) {items : List Regex}
    {s : Regex.Parser.State} (h : Row items s) :
    Leads s ((Token.oneOf negated is).written dashes) (Row (setTree negated is :: items)) := by
  rcases ht with ⟨hne, his, _⟩
  rw [written_oneOf]
  -- No range runs backwards in a class that is well formed, so the set is not refused.
  rcases spells_listed.leads (fun i hi => (his i hi).listable) hne h negated with
    ⟨_, hleads⟩ | ⟨hall, _⟩
  · exact hleads
  · refine absurd (List.all_eq_true.mpr fun i hi => ?_) (Bool.not_eq_true _ ▸ hall)
    exact (itemWellFormed_iff.mp (his i hi)).2

end Glob

end NamePatterns
