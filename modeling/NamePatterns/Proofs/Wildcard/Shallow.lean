import NamePatterns.Proofs.Wildcard.Meaning

/-!
# Classes That Are Not Nested

What is written for a wildcard none of whose classes stands in another one.

Such a wildcard has at no place more closing brackets than opening ones, nor two
opening ones more. Then the count of open classes agrees well enough with what
the reader of regular expressions takes for a set: where the count is one, a set
is open, so operators that are written as they are mean nothing there; where it is
zero, operators are escaped. The two disagree only behind an empty class, which
the reader leaves open; stars are then written into a set, where they mean
nothing. So what is accepted is a row of single characters, sets, dots and stars
of dots, with one such star for each star of the wildcard unless a class is empty.

`Reads` says where the reader stands behind what a text is written as. One lemma
for each of its cases follows it over one more character, and an induction over
the text puts them together.

The count and the reader drift apart at one kind of place only, the bracket that
closes an empty class: the count takes it for the end of the class, and the
reader for the first character of a set. The next bracket of the wildcard then
opens a class for the count, and is a character for the reader.

## Main definitions

* `Wildcard.Balanced`, `Wildcard.Shallow`: No prefix closes more classes than it
  opens, and none leaves two of them open.
* `Wildcard.stars`: The stars of a wildcard that stand for any characters.
* `Wildcard.HasEmptyClass`: A class without items.
* `Wildcard.Reads`: Where the reader stands behind what a text is written as.
* `Wildcard.PlainRow`: A row of plain trees with the stars of a wildcard.

## Theorems

* `Wildcard.reads_between`, `Wildcard.reads_inside`, `Wildcard.reads_beyond`: One more
  character between items, in a class and behind an empty class.
* `Wildcard.reads_text`: The same for a text.
* `Wildcard.emit_rest`, `Wildcard.depth_concat`: What one more character is
  written as, and the count of open classes behind it.
* `Wildcard.PlainRow.set`, `Wildcard.PlainRow.swallow`: What it does to the row.
* `Wildcard.compile_shallow`: What is accepted is a row of plain trees.
* `Wildcard.compile_nested`: A nested class, behind which operators are not escaped.
-/

namespace NamePatterns

namespace Wildcard

open Regex (Token anyStar)
open Regex.Parser (Filled InStage Leads Refuses Row SetStage State)
open Regex.Parser.State (setTree)

/-- No prefix has more closing brackets than opening ones, but for escaped ones. -/
def Balanced (w : List Char) : Prop :=
  ∀ cs ∈ w.inits, 0 ≤ (scanFrom {} cs).depth

/-- No prefix leaves more than one class open. -/
def Shallow (w : List Char) : Prop :=
  ∀ cs ∈ w.inits, (scanFrom {} cs).depth ≤ 1

instance (w : List Char) : Decidable (Balanced w) :=
  inferInstanceAs (Decidable (∀ cs ∈ w.inits, _))

instance (w : List Char) : Decidable (Shallow w) :=
  inferInstanceAs (Decidable (∀ cs ∈ w.inits, _))

/-- How many stars a character is that stand for any characters. -/
def starsAt (s : Scan) (c : Char) : Nat :=
  if c = '*' ∧ s.escaping = false ∧ s.depth = 0 then 1 else 0

/-- How many stars of a text stand for any characters, from a state on. -/
def starsFrom (s : Scan) : List Char → Nat
  | [] => 0
  | c :: cs => starsAt s c + starsFrom (advance s c) cs

/-- How many stars of a wildcard are neither escaped nor in a class. -/
def stars (w : List Char) : Nat :=
  starsFrom {} w

/-- A class is opened that is closed at once, or as soon as it is negated. -/
def HasEmptyClass (w : List Char) : Prop :=
  ∃ before ∈ w.inits, ¬Escapes before ∧
    (before ++ ['[', ']'] <+: w ∨ before ++ ['[', '!', ']'] <+: w)

instance (w : List Char) : Decidable (HasEmptyClass w) :=
  inferInstanceAs (Decidable (∃ before ∈ w.inits, _))

theorem scanFrom_concat (cs : List Char) (c : Char) :
    scanFrom {} (cs ++ [c]) = advance (scanFrom {} cs) c := by
  rw [Glob.scanFrom_append]
  rfl

theorem starsFrom_append (s : Scan) (xs ys : List Char) :
    starsFrom s (xs ++ ys) = starsFrom s xs + starsFrom (scanFrom s xs) ys := by
  induction xs generalizing s with
  | nil => exact (Nat.zero_add _).symm
  | cons x xs ih =>
      rw [List.cons_append, starsFrom, starsFrom, ih, Nat.add_assoc]
      rfl

theorem stars_concat (cs : List Char) (c : Char) :
    stars (cs ++ [c]) = stars cs + starsAt (scanFrom {} cs) c :=
  starsFrom_append {} cs [c]

theorem Balanced.mono {cs w : List Char} (h : Balanced w) (hcs : cs <+: w) : Balanced cs :=
  fun ds hds => h ds ((List.mem_inits _ _).mpr (((List.mem_inits _ _).mp hds).trans hcs))

theorem Shallow.mono {cs w : List Char} (h : Shallow w) (hcs : cs <+: w) : Shallow cs :=
  fun ds hds => h ds ((List.mem_inits _ _).mpr (((List.mem_inits _ _).mp hds).trans hcs))

theorem HasEmptyClass.mono {cs w : List Char} (h : HasEmptyClass cs) (hcs : cs <+: w) :
    HasEmptyClass w := by
  rcases h with ⟨before, hbefore, hopen, hempty⟩
  refine ⟨before, (List.mem_inits _ _).mpr (((List.mem_inits _ _).mp hbefore).trans hcs), hopen, ?_⟩
  exact hempty.imp (·.trans hcs) (·.trans hcs)

/-- Behind an opening bracket nothing is escaped. -/
theorem not_escaping_of_afterOpening {cs : List Char}
    (h : (scanFrom {} cs).afterOpening = true) : (scanFrom {} cs).escaping = false := by
  induction cs using List.reverseRecOn with
  | nil => rfl
  | append_singleton cs c _ =>
      rw [scanFrom_concat] at h ⊢
      have hc : c = '[' := of_decide_eq_true h
      rw [hc]
      rfl

/-- Only a backslash that escapes what follows is not written. -/
theorem emit_eq_nil {dashes : Bool} {s : Scan} {c : Char} (h : emit dashes s c = []) :
    c = '\\' ∧ s.escaping = false := by
  unfold emit at h
  split_ifs at h with _ _ _ _ _ _ _ _ hback hescaping
  -- Each branch writes some character, but for that of the backslash.
  all_goals first
    | exact absurd h (List.cons_ne_nil _ _)
    | exact absurd h (by decide)
    | exact ⟨hback, Bool.not_eq_true _ ▸ hescaping⟩

/-- Only a mark behind an opening bracket is written as a caret that stands alone. -/
theorem emit_caret {dashes : Bool} {s : Scan} {c : Char}
    (h : (emit dashes s c).head? = some '^') : c = '!' ∧ s.afterOpening = true := by
  unfold emit at h
  split_ifs at h
  all_goals simp_all [wordBoundary, isOperator]

/-- The text ends where a class has been opened, or opened and negated. -/
def OpensClass (cs : List Char) (negated : Bool) : Prop :=
  ∃ before, ¬Escapes before ∧ cs = before ++ if negated then ['[', '!'] else ['[']

/-- A set has no character yet, and neither has the class that it is written for. -/
structure Vacant (cs : List Char) (negated : Bool) (acc : List SetItem) (stage : SetStage) :
    Prop where
  acc : acc = []
  stage : stage = if negated then .items else .opened
  opens : (scanFrom {} cs).escaping = false → OpensClass cs negated
  mark : (scanFrom {} cs).afterOpening = true → negated = false

/-- Where the reader stands behind what a text is written as, with the items of the row
    that it has read. -/
inductive Reads (cs : List Char) (items : List Regex) (s : State) : Prop where
  /-- Between two items, outside classes. -/
  | between (hrow : Row items s) (hdepth : (scanFrom {} cs).depth = 0)
  /-- In a set, inside a class. -/
  | inside {negated : Bool} {acc : List SetItem} {stage : SetStage}
    (hset : InStage items negated acc stage s)
    (hstage : stage.IsFilled acc ∨ Vacant cs negated acc stage)
    (hdepth : (scanFrom {} cs).depth = 1)
  /-- In a set, behind an empty class. -/
  | beyond (hset : Filled items s) (hdepth : (scanFrom {} cs).depth = 0)
    (hempty : HasEmptyClass cs)

/-- A row of plain trees that a text can be read as: there are no more stars in it than
    the text has, and as many unless a class is empty. -/
structure PlainRow (cs : List Char) (items : List Regex) : Prop where
  plain : ∀ r ∈ items, r.isPlain = true
  stars_le : items.count anyStar ≤ stars cs
  stars_eq : ¬HasEmptyClass cs → items.count anyStar = stars cs

/-- One more character, and what the reader makes of it. -/
theorem PlainRow.concat {cs : List Char} {c : Char} {items : List Regex} (h : PlainRow cs items)
    (new : List Regex) (hplain : ∀ r ∈ new, r.isPlain = true)
    (hle : new.count anyStar ≤ starsAt (scanFrom {} cs) c)
    (heq : ¬HasEmptyClass (cs ++ [c]) → new.count anyStar = starsAt (scanFrom {} cs) c) :
    PlainRow (cs ++ [c]) (new ++ items) := by
  refine ⟨fun r hr => ?_, ?_, fun hempty => ?_⟩
  · exact (List.mem_append.mp hr).elim (hplain r) (h.plain r)
  · have hitems := h.stars_le
    rw [List.count_append, stars_concat]
    omega
  · have hitems := h.stars_eq fun hcs => hempty (hcs.mono (List.prefix_append cs [c]))
    have hnew := heq hempty
    rw [List.count_append, stars_concat]
    omega

/-- What becomes of a state by one more character: the units that it is written as are
    refused, or the reader stands somewhere again. -/
def Follows (dashes : Bool) (cs : List Char) (c : Char) (s : State) : Prop :=
  ∃ ts : List Token, emit dashes (scanFrom {} cs) c = ts.flatMap Token.text ∧
    (∀ t ∈ ts, t ≠ .plain '\\') ∧
    (Refuses s ts ∨
      Leads s ts fun s' => ∃ items, Reads (cs ++ [c]) items s' ∧ PlainRow (cs ++ [c]) items)

/-- Outside classes, a character that opens or closes none is written as a token of
    flat wildcards is. -/
theorem emit_rest {dashes : Bool} {s : Scan} (hs : s.depth = 0) {c : Char}
    (hc : s.escaping = true ∨ c ≠ '[' ∧ c ≠ ']' ∧ c ≠ '\\') :
    ∃ t : Glob.Token, t.WellFormed dashes ∧
      emit dashes s c = (t.written dashes).flatMap Token.text ∧
      [t.tree dashes].count anyStar = starsAt s c := by
  obtain ⟨escaping, depth, b⟩ := s
  obtain rfl : depth = 0 := hs
  cases escaping with
  | true =>
      have hstars : starsAt ⟨true, 0, b⟩ c = 0 := if_neg fun h => by cases h.2.1
      rw [hstars]
      by_cases hword : dashes = true ∧ c = '-'
      · -- Where dashes begin words, a dash does so behind a backslash too.
        rcases hword with ⟨rfl, rfl⟩
        exact ⟨.dash, trivial, rfl, rfl⟩
      · have hwell : (Glob.Token.escaped c).WellFormed dashes := fun hdashes heq =>
          hword ⟨hdashes, heq⟩
        refine ⟨.escaped c, hwell, ?_, rfl⟩
        rw [Glob.emit_escaped hwell]
        exact (List.append_nil _).symm
  | false =>
      rcases hc.resolve_left nofun with ⟨hopen, hclose, hback⟩
      by_cases hstar : c = '*'
      · subst hstar
        exact ⟨.star, trivial, rfl, rfl⟩
      have hstars : starsAt ⟨false, 0, b⟩ c = 0 := if_neg fun h => hstar h.1
      rw [hstars]
      by_cases hquestion : c = '?'
      · subst hquestion
        exact ⟨.question, trivial, rfl, rfl⟩
      by_cases hdash : c = '-'
      · subst hdash
        cases dashes <;> exact ⟨.dash, trivial, rfl, rfl⟩
      have hspecial : Glob.isSpecial c = false := by
        simp only [Glob.isSpecial, hstar, hquestion, hopen, hclose, hback, hdash, decide_false,
          Bool.or_self]
      refine ⟨.literal c, hspecial, ?_, rfl⟩
      rw [Glob.emit_literal hspecial]
      exact (List.append_nil _).symm

/-- What the count of open classes becomes. -/
theorem depth_concat (cs : List Char) (c : Char) :
    (scanFrom {} (cs ++ [c])).depth =
      if (scanFrom {} cs).escaping = true then (scanFrom {} cs).depth
      else if c = '[' then (scanFrom {} cs).depth + 1
      else if c = ']' then (scanFrom {} cs).depth - 1
      else (scanFrom {} cs).depth := by
  rw [scanFrom_concat]
  rfl

theorem emit_bracket {dashes : Bool} {s : Scan} (hs : s.escaping = false) :
    emit dashes s '[' = ['['] ∧ emit dashes s ']' = [']'] := by
  constructor
  · show (if s.escaping = true then ['\\', '['] else ['[']) = ['[']
    rw [hs]
    rfl
  · show (if s.escaping = true then ['\\', ']'] else [']']) = [']']
    rw [hs]
    rfl

/-- A character that is written as no bracket of its own closes no set. -/
theorem units_of_emit {dashes : Bool} {s : Scan} {c : Char} (hc : ¬Closes dashes s c) :
    ∃ ts : List Token, emit dashes s c = ts.flatMap Token.text ∧
      (∀ t ∈ ts, t ≠ .plain '\\') ∧ ∀ t ∈ ts, t ≠ .plain ']' := by
  rcases emit_units dashes s c with ⟨ts, hemit, hts⟩
  exact ⟨ts, hemit, fun t ht => (hts t ht).1, fun t ht heq => hc ((hts t ht).2 heq)⟩

section

variable {dashes : Bool} {cs : List Char} {c : Char} {items : List Regex} {s : State}
  (hbalanced : Balanced (cs ++ [c])) (hrows : PlainRow cs items)

include hrows

/-- A character that is no star leaves the row as it is. -/
theorem PlainRow.same (hc : starsAt (scanFrom {} cs) c = 0) : PlainRow (cs ++ [c]) items :=
  hrows.concat [] nofun (Nat.zero_le _) fun _ => hc.symm

/-- A character behind an empty class leaves the row as it is, even a star. -/
theorem PlainRow.swallow (hempty : HasEmptyClass (cs ++ [c])) : PlainRow (cs ++ [c]) items :=
  hrows.concat [] nofun (Nat.zero_le _) fun hnot => absurd hempty hnot

/-- A set is another item. -/
theorem PlainRow.set (hc : starsAt (scanFrom {} cs) c = 0) (negated : Bool) (is : List SetItem) :
    PlainRow (cs ++ [c]) (setTree negated is :: items) := by
  have hcount : [setTree negated is].count anyStar = 0 := by
    unfold setTree
    split <;> rfl
  refine hrows.concat [setTree negated is] ?_ (by rw [hcount]; exact Nat.zero_le _) fun _ => ?_
  · intro r hr
    rw [List.mem_singleton.mp hr]
    exact Regex.isPlain_setTree negated is
  · rw [hcount, hc]

/-- Behind an empty class, the set that begins a word closes the one that is open. -/
theorem reads_word (hset : Filled items s) (hdepth : (scanFrom {} cs).depth = 0) :
    Follows true cs '-' s := by
  have hemit : emit true (scanFrom {} cs) '-' = wordBoundary.toList := by
    show (if (true && decide ((scanFrom {} cs).depth = 0)) = true then wordBoundary.toList
      else ['-']) = _
    rw [hdepth]
    rfl
  have hinner : Refuses s (['[', 'A', '-', 'Z', '0', '-', '9'].map Token.plain) ∨
      Leads s (['[', 'A', '-', 'Z', '0', '-', '9'].map Token.plain) (Filled items) :=
    hset.units (by decide)
  refine ⟨['[', 'A', '-', 'Z', '0', '-', '9'].map Token.plain ++ [Token.plain ']'],
    hemit.trans (by decide), by decide, ?_⟩
  -- The dash is written as a set. Its opening bracket and what follows are more characters of
  -- the set that is open, which its closing bracket ends.
  refine hinner.imp (·.append _) fun h => h.append fun s' ⟨negated, acc, stage, h', hfilled⟩ => ?_
  refine (h'.bracket hfilled).mono fun s'' ⟨is, hrow⟩ => ⟨_, .between hrow ?_, ?_⟩
  · rw [depth_concat, hdepth]
    exact ite_self _
  · exact hrows.set (if_neg fun h => absurd h.1 (by decide)) negated is

include hbalanced

/-- Outside classes, a character is an item of its own, opens a class or escapes the
    next one. -/
theorem reads_between (hrow : Row items s) (hdepth : (scanFrom {} cs).depth = 0) :
    Follows dashes cs c s := by
  have hnext := depth_concat cs c
  have hstar (hc : c ≠ '*') : starsAt (scanFrom {} cs) c = 0 := if_neg fun h => hc h.1
  by_cases hspecial : (scanFrom {} cs).escaping = true ∨ c ≠ '[' ∧ c ≠ ']' ∧ c ≠ '\\'
  · rcases emit_rest hdepth hspecial with ⟨t, ht, hemit, hcount⟩
    refine ⟨t.written dashes, hemit, fun u hu => Glob.written_ne_backslash ht hu, Or.inr ?_⟩
    refine (Glob.leads_token ht hrow).mono fun s' hs' => ⟨_, .between hs' ?_, ?_⟩
    · rw [hnext, hdepth]
      rcases hspecial with hescaping | ⟨hopen, hclose, _⟩
      · rw [if_pos hescaping]
      · rw [if_neg hopen, if_neg hclose, ite_self]
    · refine hrows.concat [t.tree dashes] ?_ (Nat.le_of_eq hcount) fun _ => hcount
      intro r hr
      rw [List.mem_singleton.mp hr]
      exact Glob.isPlain_tree dashes t
  · rw [not_or, Bool.not_eq_true] at hspecial
    rcases hspecial with ⟨hescaping, hbracket⟩
    rw [hescaping, if_neg Bool.false_ne_true] at hnext
    by_cases hopen : c = '['
    · subst hopen
      refine ⟨[.plain '['], (emit_bracket hescaping).1, by decide, Or.inr ?_⟩
      refine hrow.openSet.mono fun s' hset => ⟨items,
        .inside hset (Or.inr ⟨rfl, rfl, fun _ => ?_, fun _ => rfl⟩) ?_,
        hrows.same (hstar (by decide))⟩
      · exact ⟨cs, mt (escaping_scanFrom cs).mpr (by rw [hescaping]; decide), rfl⟩
      · rw [hnext, hdepth]
        rfl
    · by_cases hclose : c = ']'
      · -- A bracket that closes no class would make the wildcard unbalanced.
        have hle := hbalanced (cs ++ [c]) ((List.mem_inits _ _).mpr (List.prefix_refl _))
        rw [hnext, if_neg hopen, if_pos hclose, hdepth] at hle
        exact absurd hle (by decide)
      · obtain rfl : c = '\\' := by
          by_contra hback
          exact hbracket ⟨hopen, hclose, hback⟩
        have hemit : emit dashes (scanFrom {} cs) '\\' = [] := by
          show (if (scanFrom {} cs).escaping = true then ['\\', '\\'] else []) = []
          rw [hescaping]
          rfl
        refine ⟨[], hemit, nofun, Or.inr (Leads.nil ⟨items, .between hrow ?_, ?_⟩)⟩
        · rw [hnext, hdepth]
          rfl
        · exact hrows.same (hstar (by decide))

/-- Behind an empty class, a character is one of the set that is still open, or closes
    it. -/
theorem reads_beyond (hset : Filled items s) (hdepth : (scanFrom {} cs).depth = 0)
    (hempty : HasEmptyClass cs) : Follows dashes cs c s := by
  have hnext := depth_concat cs c
  have hempty' : HasEmptyClass (cs ++ [c]) := hempty.mono (List.prefix_append cs [c])
  have hsame : PlainRow (cs ++ [c]) items := hrows.swallow hempty'
  by_cases hword : c = '-' ∧ dashes = true
  · rcases hword with ⟨rfl, rfl⟩
    exact reads_word hrows hset hdepth
  have hle := hbalanced (cs ++ [c]) ((List.mem_inits _ _).mpr (List.prefix_refl _))
  have hcloses : ¬Closes dashes (scanFrom {} cs) c := by
    rintro (⟨rfl, hescaping⟩ | ⟨hdash, hdashes, _⟩)
    · rw [hnext, hescaping, hdepth] at hle
      exact absurd hle (by decide)
    · exact hword ⟨hdash, hdashes⟩
  rcases units_of_emit hcloses with ⟨ts, hemit, hback, hts⟩
  refine ⟨ts, hemit, hback, (hset.units hts).imp_right fun h => h.mono fun s' hset' => ?_⟩
  by_cases hopen : c = '[' ∧ (scanFrom {} cs).escaping = false
  · -- A class that is opened here is read into the same set.
    rcases hopen with ⟨rfl, hescaping⟩
    rcases hset' with ⟨negated, acc, stage, h', hfilled⟩
    refine ⟨items, .inside h' (Or.inl hfilled) ?_, hsame⟩
    rw [hnext, hescaping, hdepth]
    rfl
  · refine ⟨items, .beyond hset' ?_ hempty', hsame⟩
    rw [hnext]
    split_ifs with hescaping hbracket hclose
    · exact hdepth
    · exact absurd ⟨hbracket, Bool.not_eq_true _ ▸ hescaping⟩ hopen
    · exact absurd (Or.inl ⟨hclose, Bool.not_eq_true _ ▸ hescaping⟩) hcloses
    · exact hdepth

end

section

variable {dashes : Bool} {cs : List Char} {c : Char} {items : List Regex} {s : State}
  {negated : Bool} {acc : List SetItem} {stage : SetStage}
  (hset : InStage items negated acc stage s) (hrows : PlainRow cs items)
  (hdepth : (scanFrom {} cs).depth = 1)

include hset hrows hdepth

/-- Inside a class, the bracket closes its set, or is the first character of it. -/
theorem reads_bracket (hstage : stage.IsFilled acc ∨ Vacant cs negated acc stage)
    (hescaping : (scanFrom {} cs).escaping = false) : Follows dashes cs ']' s := by
  have hzero : (scanFrom {} (cs ++ [']'])).depth = 0 := by
    rw [depth_concat, hescaping, hdepth]
    rfl
  have hstar : starsAt (scanFrom {} cs) ']' = 0 := if_neg fun h => absurd h.1 (by decide)
  refine ⟨[.plain ']'], (emit_bracket hescaping).2, by decide, Or.inr ?_⟩
  rcases hstage with hfilled | hvacant
  · exact (hset.bracket hfilled).mono fun s' ⟨is, hrow⟩ =>
      ⟨_, .between hrow hzero, hrows.set hstar negated is⟩
  · -- The class is empty, and its bracket is a character of the set.
    have hempty : HasEmptyClass (cs ++ [']']) := by
      rcases hvacant.opens hescaping with ⟨before, hopen, rfl⟩
      refine ⟨before, (List.mem_inits _ _).mpr ?_, hopen, ?_⟩
      · rw [List.append_assoc]
        exact List.prefix_append _ _
      · cases negated with
        | false => exact Or.inl (by rw [List.append_assoc]; exact List.prefix_refl _)
        | true => exact Or.inr (by rw [List.append_assoc]; exact List.prefix_refl _)
    have hitems : stage = .opened ∨ stage = .items := by
      rw [hvacant.stage]
      cases negated with
      | false => exact Or.inl rfl
      | true => exact Or.inr rfl
    obtain rfl := hvacant.acc
    exact (hset.bracket_first hitems).mono fun s' hfilled =>
      ⟨items, .beyond hfilled hzero hempty, hrows.same hstar⟩

variable (hone : (scanFrom {} (cs ++ [c])).depth = 1)

include hone

/-- The mark behind the bracket that opens a class negates its set. -/
theorem reads_mark (hvacant : Vacant cs negated acc stage) (hc : c = '!')
    (hafter : (scanFrom {} cs).afterOpening = true) : Follows dashes cs c s := by
  subst hc
  obtain rfl : negated = false := hvacant.mark hafter
  obtain rfl : acc = [] := hvacant.acc
  obtain rfl : stage = .opened := hvacant.stage
  have hemit : emit dashes (scanFrom {} cs) '!' = ['^'] := by
    show (if (decide (0 < (scanFrom {} cs).depth) && (scanFrom {} cs).afterOpening) = true
      then ['^'] else ['!']) = ['^']
    rw [hdepth, hafter]
    rfl
  refine ⟨[.plain '^'], hemit, by decide, Or.inr ?_⟩
  refine hset.caret.mono fun s' hset' =>
    ⟨items, .inside hset' (Or.inr ⟨rfl, rfl, fun _ => ?_, fun h => ?_⟩) hone,
      hrows.same (if_neg fun h => absurd h.1 (by decide))⟩
  · rcases hvacant.opens (not_escaping_of_afterOpening hafter) with ⟨before, hopen, rfl⟩
    exact ⟨before, hopen, List.append_assoc _ _ _⟩
  · rw [scanFrom_concat] at h
    cases (show decide ('!' = '[') = true from h)

/-- Every other character inside a class is a character of its set, or escapes the next
    one. -/
theorem reads_listed (hstage : stage.IsFilled acc ∨ Vacant cs negated acc stage)
    (hcloses : ¬Closes dashes (scanFrom {} cs) c)
    (hmark : ¬(c = '!' ∧ (scanFrom {} cs).afterOpening = true ∧ ¬stage.IsFilled acc)) :
    Follows dashes cs c s := by
  have hsame : PlainRow (cs ++ [c]) items :=
    hrows.same (if_neg fun h => by rw [hdepth] at h; exact absurd h.2.2 (by decide))
  have hinside {s' : State} (h : Filled items s') :
      ∃ items, Reads (cs ++ [c]) items s' ∧ PlainRow (cs ++ [c]) items := by
    rcases h with ⟨negated', acc', stage', h, hfilled⟩
    exact ⟨items, .inside h (Or.inl hfilled) hone, hsame⟩
  rcases units_of_emit hcloses with ⟨ts, hemit, hback, hts⟩
  refine ⟨ts, hemit, hback, ?_⟩
  cases ts with
  | nil =>
      -- A backslash is not written, and leaves the set as it is.
      rcases emit_eq_nil hemit with ⟨rfl, hescaping⟩
      refine Or.inr (Leads.nil ⟨items, .inside hset (hstage.imp_right fun h => ?_) hone, hsame⟩)
      have hadvance : scanFrom {} (cs ++ ['\\']) = ⟨true, (scanFrom {} cs).depth, false⟩ := by
        rw [scanFrom_concat]
        simp only [advance, hescaping]
        rfl
      refine ⟨h.acc, h.stage, fun hnot => ?_, fun hafter => ?_⟩
      · rw [hadvance] at hnot
        cases hnot
      · rw [hadvance] at hafter
        cases hafter
  | cons t ts =>
      have hopened : stage = .opened → t ≠ .plain '^' := by
        rintro rfl rfl
        have hcaret : (emit dashes (scanFrom {} cs) c).head? = some '^' := by
          rw [hemit]
          rfl
        exact hmark ⟨(emit_caret hcaret).1, (emit_caret hcaret).2, id⟩
      rcases hset.unit (hts t List.mem_cons_self) hopened with hrefused | ⟨s', hrun, hfilled⟩
      · exact Or.inl (hrefused.append ts)
      · have hrest := hfilled.units fun u hu => hts u (List.mem_cons_of_mem _ hu)
        exact hrest.imp (·.behind hrun) fun h => (h.mono fun _ => hinside).behind hrun

omit hone

/-- Inside a class, a character is one of its set, closes it or escapes the next one. -/
theorem reads_inside (hshallow : Shallow (cs ++ [c]))
    (hstage : stage.IsFilled acc ∨ Vacant cs negated acc stage) : Follows dashes cs c s := by
  -- The bracket may end the set; any other character leaves the count where it is.
  by_cases hclose : c = ']' ∧ (scanFrom {} cs).escaping = false
  · rcases hclose with ⟨rfl, hescaping⟩
    exact reads_bracket hset hrows hdepth hstage hescaping
  have hone : (scanFrom {} (cs ++ [c])).depth = 1 := by
    -- Another bracket would nest a class, and the one that closes was seen to.
    have hle := hshallow (cs ++ [c]) ((List.mem_inits _ _).mpr (List.prefix_refl _))
    rw [depth_concat] at hle ⊢
    split_ifs at hle ⊢ with hescaping hopen hbracket
    · exact hdepth
    · rw [hdepth] at hle
      exact absurd hle (by decide)
    · exact absurd ⟨hbracket, Bool.not_eq_true _ ▸ hescaping⟩ hclose
    · exact hdepth
  by_cases hmark : c = '!' ∧ (scanFrom {} cs).afterOpening = true ∧ ¬stage.IsFilled acc
  · rcases hmark with ⟨hc, hafter, hnot⟩
    exact reads_mark hset hrows hdepth hone (hstage.resolve_left hnot) hc hafter
  · refine reads_listed hset hrows hdepth hone hstage ?_ hmark
    rintro (h | ⟨_, _, hzero⟩)
    · exact hclose h
    · rw [hdepth] at hzero
      exact absurd hzero (by decide)

end

/-- What is written for a text is refused, or the reader stands somewhere behind it. -/
theorem reads_text (dashes : Bool) {w : List Char} (hbalanced : Balanced w)
    (hshallow : Shallow w) :
    ∃ us : List Token, Writes dashes w us ∧
      (Refuses {} us ∨ Leads {} us fun s => ∃ items, Reads w items s ∧ PlainRow w items) := by
  induction w using List.reverseRecOn with
  | nil =>
      exact ⟨[], ⟨rfl, nofun⟩, Or.inr (Leads.nil ⟨[], .between Regex.Parser.row_start rfl,
        ⟨nofun, Nat.le_refl _, fun _ => rfl⟩⟩)⟩
  | append_singleton cs c ih =>
      have hprefix : cs <+: cs ++ [c] := List.prefix_append cs [c]
      rcases ih (hbalanced.mono hprefix) (hshallow.mono hprefix) with ⟨us, hwrites, hread⟩
      have hconcat {ts : List Token}
          (hemit : emit dashes (scanFrom {} cs) c = ts.flatMap Token.text)
          (hts : ∀ t ∈ ts, t ≠ .plain '\\') : Writes dashes (cs ++ [c]) (us ++ ts) := by
        refine ⟨?_, fun t ht => (List.mem_append.mp ht).elim (hwrites.whole t) (hts t)⟩
        rw [translateFrom_append, hwrites.text, List.flatMap_append, ← hemit]
        exact congrArg _ (List.append_nil _)
      rcases hread with hrefused | ⟨s, hrun, items, hreads, hrows⟩
      -- What has been refused stays refused, whatever is written behind it.
      · rcases emit_units dashes (scanFrom {} cs) c with ⟨ts, hemit, hts⟩
        exact ⟨us ++ ts, hconcat hemit fun t ht => (hts t ht).1, Or.inl (hrefused.append ts)⟩
      · have hfollows : Follows dashes cs c s := by
          cases hreads with
          | between hrow hdepth => exact reads_between hbalanced hrows hrow hdepth
          | inside hset hstage hdepth => exact reads_inside hset hrows hdepth hshallow hstage
          | beyond hset hdepth hempty => exact reads_beyond hbalanced hrows hset hdepth hempty
        rcases hfollows with ⟨ts, hemit, hback, hresult⟩
        exact ⟨us ++ ts, hconcat hemit hback, hresult.imp (·.behind hrun) (·.behind hrun)⟩

/-- If no class of a wildcard is nested and none is closed too often, the wildcard is
    silenced, or its tree is a row of single characters, sets, dots and stars of dots.
    There are no more stars in it than the wildcard has, and as many unless a class is
    empty. -/
theorem compile_shallow (dashes : Bool) {w : List Char} (hbalanced : Balanced w)
    (hshallow : Shallow w) :
    ∃ f, (compile dashes (String.ofList w)).outcome = .ok f ∧
      (f ≠ matchNothing → ∃ r, Regex.parse f.toList = .ok r ∧ PlainRow w r.toList) := by
  rcases reads_text dashes hbalanced hshallow with ⟨us, hwrites, hread⟩
  have hsilenced (h : Refuses {} us ∨ Leads {} us (·.mode.isStuck = true)) :
      ∃ f, (compile dashes (String.ofList w)).outcome = .ok f ∧
        (f ≠ matchNothing → ∃ r, Regex.parse f.toList = .ok r ∧ PlainRow w r.toList) :=
    ⟨matchNothing, hwrites.silenced h, fun hne => absurd rfl hne⟩
  rcases hread with hrefused | ⟨s, hrun, items, hreads, hrows⟩
  · exact hsilenced (Or.inl hrefused)
  · cases hreads with
    -- A set that is open at the end of the wildcard is malformed.
    | inside hset => exact hsilenced (Or.inr ⟨s, hrun, hset.isStuck⟩)
    | beyond hset => exact hsilenced (Or.inr ⟨s, hrun, hset.isStuck⟩)
    | between hrow hdepth =>
        rcases hwrites.accepted (Int.le_of_eq hdepth) ⟨s, hrun, hrow⟩ hrows.plain with
          ⟨houtcome, hparse, _⟩
        have hlist : (Regex.seq items.reverse).toList = items.reverse :=
          Regex.toList_seq fun r hr =>
            (Regex.isPlain_single (hrows.plain r (List.mem_reverse.mp hr))).2.2
        refine ⟨translate dashes (String.ofList w), ?_, fun _ => ⟨_, hparse, ?_⟩⟩
        · unfold compile
          rw [houtcome]
          rfl
        · rw [hlist]
          refine ⟨fun r hr => hrows.plain r (List.mem_reverse.mp hr), ?_, ?_⟩
          · rw [List.count_reverse]
            exact hrows.stars_le
          · rw [List.count_reverse]
            exact hrows.stars_eq

/-- A wildcard with operators, an escaped bracket in a class, and stars inside and
    outside classes. -/
theorem compile_shallow_operators :
    let w := "(a|b)*[!*\\]+]-*".toList
    Balanced w ∧ Shallow w ∧ ¬HasEmptyClass w ∧ stars w = 2 ∧
      ∃ f, (compile true (String.ofList w)).outcome = .ok f ∧
        (f ≠ matchNothing → ∃ r, Regex.parse f.toList = .ok r ∧ PlainRow w r.toList) :=
  ⟨by decide +kernel, by decide +kernel, by decide +kernel, by decide +kernel,
    compile_shallow true (by decide +kernel) (by decide +kernel)⟩

/-- Behind a class in a class, which the reader takes for one set, a plus repeats the
    set; and a star between two empty classes stands for itself. Neither wildcard closes
    a class too often, and both are accepted. -/
theorem compile_nested :
    (Balanced "[[]+]".toList ∧ (compile false "[[]+]").outcome = .ok "[[]+]" ∧
      "[[]+]" ≠ matchNothing ∧
      ∃ r, Regex.parse "[[]+]".toList = .ok r ∧ ¬∀ x ∈ r.toList, x.isPlain = true) ∧
    (Balanced "[]*[]".toList ∧ (compile false "[]*[]").outcome = .ok "[].*[]" ∧
      stars "[]*[]".toList = 1 ∧
      ∃ r, Regex.parse "[].*[]".toList = .ok r ∧ r.toList.count anyStar = 0) := by
  refine ⟨⟨by decide +kernel, by decide +kernel, by decide,
      .cat (.repetition 1 none .greedy (.literal '[')) (.literal ']'), by decide +kernel,
      by decide +kernel⟩,
    ⟨by decide +kernel, by decide +kernel, by decide +kernel,
      .set false [.single ']', .single '.', .single '*', .single '['], by decide +kernel,
      by decide +kernel⟩⟩

end Wildcard

end NamePatterns
