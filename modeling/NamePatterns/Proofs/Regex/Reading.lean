import NamePatterns.Proofs.Regex.Operations

/-!
# Reading Rows

What the reader of regular expressions makes of units that need no look behind
them: characters, dots and stars of dots.

`Leads` says that a run from a state succeeds and where it ends, so that runs
can be put one behind the other. Where groups are neither open nor asked for,
`Row` holds between two items of the outermost level and lists the items read so
far.

At the end, a row of items without groups is the tree that the text stands for.

Rows are enough for wildcards without brackets and for single sets: none of them
opens a group, so there is one level, nothing is asked for, and the place where
a unit stands does not matter. What the automaton keeps besides is fixed by
`Row`, and each item is one lemma about it.

## Main definitions

* `Parser.Leads`: A run succeeds and ends in a state with a property.
* `Parser.Row`: The states between two items of the outermost level.

## Theorems

* `Parser.Leads.append`: One run behind the other.
* `Parser.Row.escaped`, `Parser.Row.plain`, `Parser.Row.any`,
  `Parser.Row.anyStar`: Items of one or two units.
* `Parser.Row.finish_eq`: The tree of a row.
* `Token.ofChars?_flatMap_text`: What is written as units is read as units.
* `parse_of_leads`: The tree of a text that is a row.
-/

namespace NamePatterns

namespace Regex

namespace Token

/-- What is written as units is read as the same units, unless one of them is a
    lone backslash. -/
theorem ofChars?_flatMap_text {ts : List Token} (h : ∀ t ∈ ts, t ≠ .plain '\\') :
    ofChars? (ts.flatMap text) = some ts := by
  induction ts with
  | nil => rfl
  | cons t ts ih =>
      have hrest := ih fun u hu => h u (List.mem_cons_of_mem _ hu)
      have hfirst : ofChars? t.text = some [t] := by
        cases t with
        | escaped c => rfl
        | plain c =>
            have hc : c ≠ '\\' := fun heq => h (.plain c) List.mem_cons_self (by rw [heq])
            -- A backslash with a character behind it is the other equation.
            rw [text, ofChars?.eq_3 _ _ (by rintro d ds rfl; exact absurd rfl hc), if_neg hc]
            rfl
      rw [List.flatMap_cons, ofChars?_append hfirst, hrest]
      rfl

end Token

namespace Parser

/-- A run from a state succeeds and ends in a state with a property. -/
def Leads (s : State) (ts : List Token) (P : State → Prop) : Prop :=
  ∃ s', run s ts = .ok s' ∧ P s'

theorem Leads.nil {s : State} {P : State → Prop} (h : P s) : Leads s [] P :=
  ⟨s, rfl, h⟩

/-- One run behind the other. -/
theorem Leads.append {s : State} {ts us : List Token} {P Q : State → Prop} (h : Leads s ts P)
    (hnext : ∀ s', P s' → Leads s' us Q) : Leads s (ts ++ us) Q := by
  rcases h with ⟨s', hrun, hP⟩
  rcases hnext s' hP with ⟨s'', hrun', hQ⟩
  refine ⟨s'', ?_, hQ⟩
  rw [run_append, hrun]
  exact hrun'

theorem Leads.cons {s : State} {t : Token} {ts : List Token} {P Q : State → Prop}
    (h : Leads s [t] P) (hnext : ∀ s', P s' → Leads s' ts Q) : Leads s (t :: ts) Q :=
  h.append hnext

theorem Leads.mono {s : State} {ts : List Token} {P Q : State → Prop} (h : Leads s ts P)
    (hPQ : ∀ s', P s' → Q s') : Leads s ts Q := by
  rcases h with ⟨s', hrun, hP⟩
  exact ⟨s', hrun, hPQ s' hP⟩

/-- What one unit does is a run of one unit. -/
theorem leads_of_act {s : State} (s' : State) {t : Token} {P : State → Prop}
    (h : act s t = .ok s') (hP : P { s' with pos := s.pos + t.width }) : Leads s [t] P := by
  refine ⟨{ s' with pos := s.pos + t.width }, ?_, hP⟩
  show (step s t).bind _ = _
  rw [step, h]
  rfl

/-- The states between two items of the outermost level, with the items read so
    far, the last one first. -/
structure Row (items : List Regex) (s : State) : Prop where
  mode : s.mode = .items ∨ s.mode = .repeated
  level : s.level = { items := items }
  openGroups : s.openGroups = []
  tested : s.tested = []

theorem row_start : Row [] {} :=
  ⟨Or.inl rfl, rfl, rfl, rfl⟩

namespace Row

variable {items : List Regex} {s : State}

/-- Behind a repetition, units other than a question mark and a plus are read
    as between items. -/
theorem act_eq_item (h : Row items s) {t : Token} (hlazy : t ≠ .plain '?')
    (hpossessive : t ≠ .plain '+') : act s t = s.item t := by
  -- Behind a repetition two more signs are looked for before the unit is read as an item.
  rcases h.mode with hmode | hmode
  · simp only [act, hmode]
  · simp only [act, hmode, State.afterRepetition, if_neg hlazy, if_neg hpossessive]

/-- Adding an item leads to a longer row. -/
theorem push (h : Row items s) (r : Regex) (n : Nat) :
    Row (r :: items) { s.push r with pos := n } := by
  refine ⟨Or.inl rfl, ?_, h.openGroups, h.tested⟩
  simp only [State.push, h.level]

theorem escaped (h : Row items s) {c : Char} (hc : State.isRefusedEscape c = false) :
    Leads s [.escaped c] (Row (.literal c :: items)) := by
  refine leads_of_act (s.push (.literal c)) ?_ (h.push _ _)
  rw [h.act_eq_item (by simp only [ne_eq, reduceCtorEq, not_false_eq_true])
    (by simp only [ne_eq, reduceCtorEq, not_false_eq_true])]
  simp only [State.item, hc, Bool.false_eq_true, if_false]

/-- A character that is no operator. -/
theorem plain (h : Row items s) {c : Char}
    (hc : c ∉ ['|', ')', '[', '(', '*', '+', '?', '\x7b', '.', '^', '$']) :
    Leads s [.plain c] (Row (.literal c :: items)) := by
  -- Each operator fails one of the tests in turn, and the last branch takes the character.
  simp only [List.mem_cons, List.not_mem_nil, or_false, not_or] at hc
  rcases hc with ⟨hbar, hclose, hset, hopen, hstar, hplus, hquestion, hbrace, hdot, hcaret, hend⟩
  refine leads_of_act (s.push (.literal c)) ?_ (h.push _ _)
  rw [h.act_eq_item (fun heq => hquestion (Token.plain.inj heq))
    (fun heq => hplus (Token.plain.inj heq))]
  simp only [State.item, h.level, Bool.false_and, Bool.false_eq_true, if_false, if_neg hbar,
    if_neg hclose, if_neg hset, if_neg hopen, if_neg hstar, if_neg hplus, if_neg hquestion,
    if_neg hbrace, if_neg hdot, if_neg hcaret, if_neg hend]

theorem any (h : Row items s) : Leads s [.plain '.'] (Row (.any :: items)) := by
  refine leads_of_act (s.push .any) ?_ (h.push _ _)
  rw [h.act_eq_item (by decide) (by decide)]
  simp only [State.item, h.level, Bool.false_and]
  rfl

/-- The dot is read as an item of its own first, and the star then takes it back. -/
theorem anyStar (h : Row items s) :
    Leads s [.plain '.', .plain '*'] (Row (.repetition 0 none .greedy .any :: items)) := by
  refine Leads.cons h.any ?_
  intro s' h'
  have hact : act s' (.plain '*') = s'.repeatLast s'.pos 0 none := by
    rw [h'.act_eq_item (by decide) (by decide)]
    simp only [State.item, h'.level, Bool.false_and]
    rfl
  refine leads_of_act { s' with
    mode := .repeated
    level := { s'.level with items := .repetition 0 none .greedy .any :: items } } ?_ ?_
  · rw [hact]
    simp only [State.repeatLast, h'.level]
    rfl
  · exact ⟨Or.inr rfl, by simp only [h'.level], h'.openGroups, h'.tested⟩

end Row

/-- Trees that dissolve into themselves only leave a row as it is. -/
theorem flatMap_dissolved {rs : List Regex} (h : ∀ r ∈ rs, r.dissolved = [r]) :
    rs.flatMap dissolved = rs := by
  induction rs with
  | nil => rfl
  | cons r rs ih =>
      have hrest := ih fun x hx => h x (List.mem_cons_of_mem _ hx)
      rw [List.flatMap_cons, h r List.mem_cons_self, hrest]
      rfl

/-- The end of the text behind a row: the row is the tree. -/
theorem Row.finish_eq {items : List Regex} {s : State} (h : Row items s)
    (hitems : ∀ r ∈ items, r.dissolved = [r]) : finish s = .ok (seq items.reverse) := by
  have htree : s.level.tree = seq items.reverse := by
    rw [h.level]
    simp only [Level.tree, Level.row]
    -- One row and no others: alternatives come to the row itself.
    rw [flatMap_dissolved fun r hr => hitems r (List.mem_reverse.mp hr)]
    rfl
  -- No group is open and none is asked for, so nothing is left to be refused.
  have hend : finish s = .ok s.level.tree := by
    rcases h.mode with hmode | hmode
    · simp only [finish, hmode, pure_bind, h.openGroups, h.tested, List.find?_nil]
      rfl
    · simp only [finish, hmode, pure_bind, h.openGroups, h.tested, List.find?_nil]
      rfl
  rw [hend, htree]

end Parser

/-- A row asserts what its trees assert. -/
theorem lookBehindWidths_seq (rs : List Regex) :
    (seq rs).lookBehindWidths = rs.flatMap lookBehindWidths := by
  induction rs with
  | nil => rfl
  | cons r rs ih =>
      cases rs with
      | nil => exact (List.append_nil _).symm
      | cons r' rs' =>
          show r.lookBehindWidths ++ (seq (r' :: rs')).lookBehindWidths = _
          rw [ih]
          rfl

/-- A text whose units are read as a row of trees without groups is the row of
    these trees. -/
theorem parse_of_leads {ts : List Token} {items : List Regex}
    (hts : ∀ t ∈ ts, t ≠ .plain '\\') (h : Parser.Leads {} ts (Parser.Row items))
    (hitems : ∀ r ∈ items, r.dissolved = [r] ∧ r.lookBehindWidths = []) :
    parse (ts.flatMap Token.text) = .ok (seq items.reverse) := by
  rcases h with ⟨s, hrun, hrow⟩
  have hfinish := hrow.finish_eq fun r hr => (hitems r hr).1
  have hwidths : (seq items.reverse).lookBehindWidths = [] := by
    rw [lookBehindWidths_seq]
    exact List.flatMap_eq_nil_iff.mpr fun r hr => (hitems r (List.mem_reverse.mp hr)).2
  refine parse_ok.mpr ⟨ts, s, Token.ofChars?_flatMap_text hts, hrun, hfinish, ?_⟩
  rw [hwidths]
  intro w hw
  cases hw

end Regex

end NamePatterns
