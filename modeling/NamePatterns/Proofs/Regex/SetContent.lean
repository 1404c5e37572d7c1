import NamePatterns.Proofs.Regex.OpenSet
import NamePatterns.Proofs.Regex.Reading

/-!
# What Stands in a Set

What the reader of regular expressions makes of a character set, whatever stands
between its brackets.

The characters of a set are taken from left to right. Two of them with a dash
between them are a range, all others stand for themselves, a dash at the end
included. A closing bracket is a character of the set where it comes first, and
ends the set elsewhere. So a set is read if no range in it runs backwards, and
then it is the set of these items; otherwise the text is refused.

The reader finds out step by step: a character may begin a range until the next
one is read. `InStage` says how far a set has been read, and one lemma for each
stage says what the next unit does. The content is read by induction along
`itemsOf`.

Two views of a set meet here. Where its content is known, the set is read as a
whole and becomes one item; that is used for classes whose members are listed.
Where only brackets are known, as in a class that a stray bracket has shifted,
it is enough that every unit is refused or leaves the set open, until the next
bracket closes it; that is what `Filled` is for.

## Main definitions

* `SetItem.isOrdered`: A range that does not run backwards.
* `itemsOf`: The items that the characters of a set amount to.
* `Parser.Refuses`: A run that is refused as malformed.
* `Parser.InStage`: The states inside a set that has been read to some stage.
* `Parser.IsMember`: The units that are characters of a set.
* `Parser.Filled`: The states inside a set that the next bracket closes.

## Theorems

* `Parser.InStage.first`, `Parser.InStage.dash`, `Parser.InStage.high`: A unit where
  an item may start, and the rest of a range.
* `Parser.InStage.content`: The content of a set and the bracket behind it.
* `Parser.Row.set_content`, `Parser.Row.set_map`: A whole set.
* `Parser.Row.set_open`: A set without the bracket that closes it.
* `Parser.InStage.caret`, `Parser.InStage.close`, `Parser.InStage.close_dash`:
  The caret in front, and the bracket behind whole items or behind a dash.
* `Parser.InStage.unit`, `Parser.InStage.bracket`: What units do inside a set that are
  known to close it or not.
-/

namespace NamePatterns

/-- Whether an item is no range that runs backwards. -/
def SetItem.isOrdered : SetItem → Bool
  | .single _ => true
  | .range low high => low ≤ high

namespace Regex

/-- The items that the characters of a set amount to. -/
def itemsOf : List Char → List SetItem
  | low :: '-' :: high :: cs => .range low high :: itemsOf cs
  | c :: cs => .single c :: itemsOf cs
  | [] => []

/-- A character that no dash and no other character follow stands for itself. -/
theorem itemsOf_single {c : Char} {cs : List Char} (h : ∀ high cs', cs ≠ '-' :: high :: cs') :
    itemsOf (c :: cs) = .single c :: itemsOf cs := by
  rw [itemsOf]
  exact h

namespace Parser

open State (setTree)

/-- A run from a state is refused as malformed. -/
def Refuses (s : State) (ts : List Token) : Prop :=
  ∃ e, run s ts = .error (.malformed e)

theorem Refuses.append {s : State} {ts : List Token} (h : Refuses s ts) (us : List Token) :
    Refuses s (ts ++ us) := by
  rcases h with ⟨e, hrun⟩
  refine ⟨e, ?_⟩
  rw [run_append, hrun]
  rfl

-- What is known of one run is carried over to another one that starts elsewhere and comes to
-- the same.
theorem Leads.congr {s s' : State} {ts ts' : List Token} {P : State → Prop} (h : Leads s' ts' P)
    (heq : run s ts = run s' ts') : Leads s ts P := by
  unfold Leads
  rw [heq]
  exact h

theorem Refuses.congr {s s' : State} {ts ts' : List Token} (h : Refuses s' ts')
    (heq : run s ts = run s' ts') : Refuses s ts := by
  unfold Refuses
  rw [heq]
  exact h

/-- Behind a run that succeeds, the next run starts where it ended. -/
theorem run_behind {s s' : State} {ts : List Token} (h : run s ts = .ok s') (us : List Token) :
    run s (ts ++ us) = run s' us := by
  rw [run_append, h]
  rfl

theorem Leads.behind {s s' : State} {ts us : List Token} {P : State → Prop} (h : Leads s' us P)
    (hrun : run s ts = .ok s') : Leads s (ts ++ us) P :=
  h.congr (run_behind hrun us)

theorem Refuses.behind {s s' : State} {ts us : List Token} (h : Refuses s' us)
    (hrun : run s ts = .ok s') : Refuses s (ts ++ us) :=
  h.congr (run_behind hrun us)

theorem refuses_of_act {s : State} {t : Token} {e : SyntaxError}
    (h : act s t = .error (.malformed e)) : Refuses s [t] := by
  refine ⟨e, ?_⟩
  show (step s t).bind _ = _
  rw [step, h]
  rfl

/-- States that take the next unit alike take the whole run alike. -/
theorem run_cons_congr {s s' : State} {t : Token} (h : step s t = step s' t) (ts : List Token) :
    run s (t :: ts) = run s' (t :: ts) := by
  simp only [run, List.foldlM_cons, h]

/-- The states inside a set that has been read to some stage, with the items
    around it and its own items, the last one first. -/
structure InStage (items : List Regex) (negated : Bool) (acc : List SetItem) (stage : SetStage)
    (s : State) : Prop where
  mode : ∃ start, s.mode = .set start negated acc stage
  level : s.level = { items := items }
  openGroups : s.openGroups = []
  tested : s.tested = []

/-- The units that are characters of a set. A dash that makes ranges stands
    without a backslash. -/
def IsMember : Token → Prop
  | .plain _ => True
  | .escaped c => State.isRefusedEscape c = false ∧ c ≠ '-'

namespace InStage

variable {items : List Regex} {negated : Bool} {acc : List SetItem} {s : State}

/-- A set that is being read is followed on with another stage. -/
theorem next {stage : SetStage} (h : InStage items negated acc stage s) (start : Nat) {t : Token}
    {negated' : Bool} {acc' : List SetItem} {stage' : SetStage}
    (hact : act s t = .ok { s with mode := .set start negated' acc' stage' }) :
    Leads s [t] (InStage items negated' acc' stage') :=
  leads_of_act _ hact ⟨⟨start, rfl⟩, h.level, h.openGroups, h.tested⟩

theorem isStuck {stage : SetStage} (h : InStage items negated acc stage s) :
    s.mode.isStuck = true := by
  rcases h.mode with ⟨start, hmode⟩
  rw [hmode]
  rfl

/-- A set that ends is an item of its row. -/
theorem ended {stage : SetStage} (h : InStage items negated acc stage s) {r : Regex}
    (hact : act s (.plain ']') = .ok (s.push r)) : Leads s [.plain ']'] (Row (r :: items)) := by
  refine leads_of_act _ hact ⟨Or.inl rfl, ?_, h.openGroups, h.tested⟩
  simp only [State.push, h.level]

/-- Where an item may start, a character may begin a range. The bracket is such a
    character while there is no other. -/
theorem first (h : InStage items negated acc .items s) {u : Token} (hu : IsMember u)
    (hclose : u = .plain ']' → acc = []) :
    Leads s [u] fun s' => ∃ place, InStage items negated acc (.pending u place) s' := by
  -- The unit does not end the set: it is no bracket, or the bracket comes first.
  have hnot : (decide (u = .plain ']') && !acc.isEmpty) = false := by
    by_cases heq : u = .plain ']'
    · rw [hclose heq]
      exact Bool.and_false _
    · rw [decide_eq_false heq, Bool.false_and]
  rcases h.mode with ⟨start, hmode⟩
  have hact : act s u = .ok { s with mode := .set start negated acc (.pending u s.pos) } := by
    simp only [act, hmode, State.set, State.setNext, hnot, Bool.false_eq_true, if_false]
    cases u with
    | plain c => rfl
    | escaped c => simp only [hu.1, Bool.false_eq_true, if_false]
  exact (h.next start hact).mono fun s' h' => ⟨s.pos, h'⟩

/-- Behind a character, a dash begins a range. -/
theorem dash {u : Token} {place : Nat} (h : InStage items negated acc (.pending u place) s) :
    Leads s [.plain '-'] (InStage items negated acc (.ranging u place)) := by
  rcases h.mode with ⟨start, hmode⟩
  refine h.next start ?_
  simp only [act, hmode, State.set, if_true]

/-- Behind the dash, a character ends a range, which must not run backwards. -/
theorem high {u : Token} {place : Nat} (h : InStage items negated acc (.ranging u place) s)
    {w : Token} (hw : IsMember w) (hclose : w ≠ .plain ']') :
    u.char ≤ w.char ∧ Leads s [w] (InStage items negated (.range u.char w.char :: acc) .items) ∨
      w.char < u.char ∧ Refuses s [w] := by
  rcases h.mode with ⟨start, hmode⟩
  by_cases hlt : w.char < u.char
  · refine Or.inr ⟨hlt, refuses_of_act (e := ⟨.badRange u.text w.text, some place⟩) ?_⟩
    simp only [act, hmode, State.set, if_neg hclose]
    cases w with
    | plain c => exact if_pos hlt
    | escaped c =>
        simp only [hw.1, Bool.false_eq_true, if_false]
        exact if_pos hlt
  · refine Or.inl ⟨Char.not_lt.mp hlt, h.next start ?_⟩
    simp only [act, hmode, State.set, if_neg hclose]
    cases w with
    | plain c => exact if_neg hlt
    | escaped c =>
        simp only [hw.1, Bool.false_eq_true, if_false]
        exact if_neg hlt

/-- Behind whole items, the bracket ends the set. -/
theorem close (h : InStage items negated acc .items s) (hne : acc ≠ []) :
    Leads s [.plain ']'] (Row (setTree negated acc.reverse :: items)) := by
  rcases h.mode with ⟨start, hmode⟩
  refine h.ended ?_
  cases acc with
  | nil => exact absurd rfl hne
  | cons i is =>
      simp only [act, hmode]
      rfl

/-- Behind the dash of a range, the bracket ends the set and leaves the dash a
    character. -/
theorem close_dash {u : Token} {place : Nat}
    (h : InStage items negated acc (.ranging u place) s) :
    Leads s [.plain ']']
      (Row (setTree negated (acc.reverse ++ [.single u.char, .single '-']) :: items)) := by
  rcases h.mode with ⟨start, hmode⟩
  refine h.ended ?_
  simp only [act, hmode, State.set, if_true, List.reverse_cons, List.append_assoc,
    List.singleton_append]

/-- A caret behind the bracket that opens a set negates it. -/
theorem caret (h : InStage items false [] .opened s) :
    Leads s [.plain '^'] (InStage items true [] .items) := by
  rcases h.mode with ⟨start, hmode⟩
  refine h.next start ?_
  simp only [act, hmode, State.set, if_true]

/-- A set that a caret does not negate has no items before the next unit is
    read. -/
theorem begin (h : InStage items negated acc .opened s) :
    ∃ s', InStage items negated acc .items s' ∧
      ∀ t ts, t ≠ .plain '^' → run s (t :: ts) = run s' (t :: ts) := by
  rcases h.mode with ⟨start, hmode⟩
  refine ⟨{ s with mode := .set start negated acc .items },
    ⟨⟨start, rfl⟩, h.level, h.openGroups, h.tested⟩, ?_⟩
  intro t ts ht
  refine run_cons_congr ?_ ts
  simp only [step, act, hmode, State.set, if_neg ht]
  rfl

/-- A character that begins no range is an item before the next unit is read. -/
theorem settle {u : Token} {place : Nat} (h : InStage items negated acc (.pending u place) s) :
    ∃ s', InStage items negated (.single u.char :: acc) .items s' ∧
      ∀ t ts, t ≠ .plain '-' → run s (t :: ts) = run s' (t :: ts) := by
  rcases h.mode with ⟨start, hmode⟩
  refine ⟨{ s with mode := .set start negated (.single u.char :: acc) .items },
    ⟨⟨start, rfl⟩, h.level, h.openGroups, h.tested⟩, ?_⟩
  intro t ts ht
  refine run_cons_congr ?_ ts
  -- Both take the unit where an item may start, and forget the mode.
  simp only [step, act, hmode, State.set, if_neg ht]
  rfl

/-- Two characters with a dash between them are a range, or are refused. -/
theorem range (h : InStage items negated acc .items s) {u w : Token} (hu : IsMember u)
    (hclose : u = .plain ']' → acc = []) (hw : IsMember w) (hend : w ≠ .plain ']') :
    u.char ≤ w.char ∧
        Leads s [u, .plain '-', w]
          (InStage items negated (.range u.char w.char :: acc) .items) ∨
      w.char < u.char ∧ Refuses s [u, .plain '-', w] := by
  rcases h.first hu hclose with ⟨s₁, hrun₁, place, h₁⟩
  rcases h₁.dash with ⟨s₂, hrun₂, h₂⟩
  rcases h₂.high hw hend with ⟨hle, hleads⟩ | ⟨hlt, hrefused⟩
  · exact Or.inl ⟨hle, (hleads.behind hrun₂).behind hrun₁⟩
  · exact Or.inr ⟨hlt, (hrefused.behind hrun₂).behind hrun₁⟩

/-- What stands in a set and the bracket behind it are a set of the items that the
    characters amount to, or are refused for a range that runs backwards. -/
theorem content (h : InStage items negated acc .items s) {us : List Token}
    (hus : ∀ u ∈ us, IsMember u) (hfirst : us.head? = some (.plain ']') → acc = [])
    (hclose : .plain ']' ∉ us.tail) (hne : us ≠ [] ∨ acc ≠ []) :
    (itemsOf (us.map Token.char)).all SetItem.isOrdered = true ∧
        Leads s (us ++ [.plain ']'])
          (Row (setTree negated (acc.reverse ++ itemsOf (us.map Token.char)) :: items)) ∨
      (itemsOf (us.map Token.char)).all SetItem.isOrdered = false ∧
        Refuses s (us ++ [.plain ']']) := by
  generalize hcs : us.map Token.char = cs
  fun_induction itemsOf cs generalizing us acc s with
  -- Three characters that are a range: the units they come from are told apart one after the
  -- other, and the middle one can only be a plain dash.
  | case1 low high cs ih =>
      obtain ⟨u, us', rfl, rfl, hcs'⟩ := List.map_eq_cons_iff.mp hcs
      obtain ⟨v, us'', rfl, hv, hcs''⟩ := List.map_eq_cons_iff.mp hcs'
      obtain ⟨w, us, rfl, rfl, hrest⟩ := List.map_eq_cons_iff.mp hcs''
      obtain rfl : v = .plain '-' := by
        have hmember := hus v (List.mem_cons_of_mem _ List.mem_cons_self)
        cases v with
        | plain c => exact congrArg Token.plain hv
        | escaped c => exact absurd hv hmember.2
      simp only [List.tail_cons, List.mem_cons, not_or] at hclose
      rcases hclose with ⟨_, hend, hclose⟩
      rw [List.all_cons]
      rcases h.range (hus u List.mem_cons_self) (fun heq => hfirst (by rw [heq]; rfl))
          (hus w (by simp only [List.mem_cons, true_or, or_true])) (Ne.symm hend) with
        ⟨hle, s', hrun, h'⟩ | ⟨hlt, hrefused⟩
      -- The range is read, and the rest of the set decides.
      · have hordered : (SetItem.range u.char w.char).isOrdered = true := decide_eq_true hle
        rw [hordered, Bool.true_and]
        rcases ih h' (fun x hx => hus x (by simp only [List.mem_cons, hx, or_true]))
            (fun heq => absurd (List.mem_of_mem_head? heq) hclose)
            (fun hmem => hclose (List.mem_of_mem_tail hmem)) (Or.inr (List.cons_ne_nil _ _)) hrest
          with ⟨hall, hleads⟩ | ⟨hall, hrefused⟩
        · rw [List.reverse_cons, List.append_assoc] at hleads
          exact Or.inl ⟨hall, hleads.behind hrun⟩
        · exact Or.inr ⟨hall, hrefused.behind hrun⟩
      · have hordered : (SetItem.range u.char w.char).isOrdered = false :=
          decide_eq_false (Char.not_le.mpr hlt)
        rw [hordered, Bool.false_and]
        exact Or.inr ⟨rfl, hrefused.append (us ++ [.plain ']'])⟩
  -- A character that is no start of a range: the last but one may still have a dash behind it.
  | case2 c cs hrange ih =>
      obtain ⟨u, us, rfl, rfl, hrest⟩ := List.map_eq_cons_iff.mp hcs
      rcases h.first (hus u List.mem_cons_self) (fun heq => hfirst (by rw [heq]; rfl)) with
        ⟨s', hrun, place, h'⟩
      rw [List.all_cons, SetItem.isOrdered, Bool.true_and]
      by_cases hdash : us.head? = some (.plain '-')
      · -- The dash is the last character, since it would begin a range.
        obtain ⟨us, rfl⟩ := List.head?_eq_some_iff.mp hdash
        obtain rfl : us = [] := by
          cases us with
          | nil => rfl
          | cons w ws => exact absurd hrest.symm (hrange _ _)
        obtain rfl : cs = ['-'] := hrest.symm
        exact Or.inl ⟨rfl, (h'.dash.cons fun _ h'' => h''.close_dash).behind hrun⟩
      · rcases h'.settle with ⟨s'', h'', hsame⟩
        have heq : run s' (us ++ [.plain ']']) = run s'' (us ++ [.plain ']']) := by
          cases us with
          -- The unit behind it is the closing bracket.
          | nil => exact hsame _ _ (by decide)
          | cons v vs => exact hsame _ _ fun heq => hdash (by rw [heq]; rfl)
        rcases ih h'' (fun x hx => hus x (List.mem_cons_of_mem _ hx))
            (fun heq => absurd (List.mem_of_mem_head? heq) hclose)
            (fun hmem => hclose (List.mem_of_mem_tail hmem)) (Or.inr (List.cons_ne_nil _ _)) hrest
          with ⟨hall, hleads⟩ | ⟨hall, hrefused⟩
        · rw [List.reverse_cons, List.append_assoc] at hleads
          exact Or.inl ⟨hall, (hleads.congr heq).behind hrun⟩
        · exact Or.inr ⟨hall, (hrefused.congr heq).behind hrun⟩
  | case3 =>
      obtain rfl : us = [] := List.map_eq_nil_iff.mp hcs
      refine Or.inl ⟨rfl, ?_⟩
      rw [List.append_nil]
      exact h.close (hne.resolve_left fun hnil => hnil rfl)

end InStage

/-- The bracket that opens a set. -/
theorem Row.openSet {items : List Regex} {s : State} (h : Row items s) :
    Leads s [.plain '['] (InStage items false [] .opened) := by
  refine leads_of_act { s with mode := .set s.pos false [] .opened } ?_
    ⟨⟨s.pos, rfl⟩, h.level, h.openGroups, h.tested⟩
  rw [h.act_eq_item (by decide) (by decide)]
  simp only [State.item, h.level, Bool.false_and]
  rfl

/-- The units that open a set. -/
def setHead (negated : Bool) : List Token :=
  .plain '[' :: if negated then [.plain '^'] else []

section

variable {items : List Regex} {s : State} {negated : Bool} {us : List Token}

/-- What opens a set leads to where its first item may start. -/
theorem Row.opened (h : Row items s) (hcaret : negated = false → us.head? ≠ some (.plain '^'))
    (hne : us ≠ []) : ∃ s', InStage items negated [] .items s' ∧
      ∀ ts, run s (setHead negated ++ us ++ ts) = run s' (us ++ ts) := by
  rcases h.openSet with ⟨s₁, hrun₁, h₁⟩
  -- Without a caret, the state behind the bracket is taken as one where an item may start;
  -- with it, the caret leads there.
  cases negated with
  | false =>
      rcases h₁.begin with ⟨s₂, h₂, hsame⟩
      refine ⟨s₂, h₂, fun ts => ?_⟩
      cases us with
      | nil => exact absurd rfl hne
      | cons u us =>
          have hbegin := hsame u (us ++ ts) fun heq => hcaret rfl (by rw [heq]; rfl)
          exact (run_behind hrun₁ (u :: (us ++ ts))).trans hbegin
  | true =>
      rcases h₁.caret with ⟨s₂, hrun₂, h₂⟩
      refine ⟨s₂, h₂, fun ts => ?_⟩
      exact (run_behind hrun₁ (.plain '^' :: (us ++ ts))).trans (run_behind hrun₂ (us ++ ts))

variable (h : Row items s) (hus : ∀ u ∈ us, IsMember u)
  (hcaret : negated = false → us.head? ≠ some (.plain '^')) (hclose : .plain ']' ∉ us.tail)
  (hne : us ≠ [])

include h hus hcaret hclose hne

/-- A set is one of the items that its characters amount to, or is refused for a
    range that runs backwards. -/
theorem Row.set_content :
    (itemsOf (us.map Token.char)).all SetItem.isOrdered = true ∧
        Leads s (setHead negated ++ us ++ [.plain ']'])
          (Row (setTree negated (itemsOf (us.map Token.char)) :: items)) ∨
      (itemsOf (us.map Token.char)).all SetItem.isOrdered = false ∧
        Refuses s (setHead negated ++ us ++ [.plain ']']) := by
  rcases h.opened hcaret hne with ⟨s', h', hsame⟩
  rcases h'.content hus (fun _ => rfl) hclose (Or.inl hne) with ⟨hall, hleads⟩ | ⟨hall, hrefused⟩
  · exact Or.inl ⟨hall, hleads.congr (hsame _)⟩
  · exact Or.inr ⟨hall, hrefused.congr (hsame _)⟩

/-- A set without the bracket that closes it is refused, or stays open. -/
theorem Row.set_open : Refuses s (setHead negated ++ us) ∨
    Leads s (setHead negated ++ us) (·.mode.isStuck = true) := by
  rcases h.opened hcaret hne with ⟨s', h', hsame⟩
  have hsame' := hsame []
  rw [List.append_nil, List.append_nil] at hsame'
  have hcontent := h'.content hus (fun _ => rfl) hclose (Or.inl hne)
  unfold Leads Refuses
  rw [hsame']
  -- What comes of the bracket behind the characters says what came of them.
  cases hrun : run s' us with
  | error e =>
      refine Or.inl ?_
      rcases hcontent with ⟨_, s'', hrun', _⟩ | ⟨_, e', hrun'⟩
      · rw [run_append, hrun] at hrun'
        cases hrun'
      · rw [run_append, hrun] at hrun'
        obtain rfl : e = .malformed e' := Except.error.inj hrun'
        exact ⟨e', rfl⟩
  | ok s'' =>
      refine Or.inr ⟨s'', rfl, ?_⟩
      obtain ⟨u, us, rfl⟩ := List.exists_cons_of_ne_nil hne
      rcases h'.first (hus u List.mem_cons_self) (fun _ => rfl) with ⟨s₁, hrun₁, place, h₁⟩
      -- The first character may be a bracket, which closes nothing; behind it only a bracket
      -- could lead out, and there is none.
      have hrest : run s₁ us = .ok s'' := by
        rw [← run_behind hrun₁ us]
        exact hrun
      refine run_stuck h₁.isStuck (fun t ht heq => ?_) hrest
      rw [heq] at ht
      exact hclose ht

end

/-- A set whose characters are written so that none closes or negates it is one of the
    items that they amount to, or is refused. -/
theorem Row.set_map {items : List Regex} {s : State} (h : Row items s) (negated : Bool)
    {unit : Char → Token} {cs : List Char} (hne : cs ≠ [])
    (hunit : ∀ c ∈ cs, (unit c).char = c ∧ IsMember (unit c) ∧ unit c ≠ .plain ']' ∧
      unit c ≠ .plain '^') :
    (itemsOf cs).all SetItem.isOrdered = true ∧
        Leads s (setHead negated ++ cs.map unit ++ [.plain ']'])
          (Row (setTree negated (itemsOf cs) :: items)) ∨
      (itemsOf cs).all SetItem.isOrdered = false ∧
        Refuses s (setHead negated ++ cs.map unit ++ [.plain ']']) := by
  have hmember : ∀ u ∈ cs.map unit, IsMember u ∧ u ≠ .plain ']' ∧ u ≠ .plain '^' := by
    intro u hu
    rcases List.mem_map.mp hu with ⟨c, hc, rfl⟩
    exact (hunit c hc).2
  have hchars : (cs.map unit).map Token.char = cs := by
    rw [List.map_map]
    exact (List.map_congr_left fun c hc => (hunit c hc).1).trans (List.map_id cs)
  have hcaret : negated = false → (cs.map unit).head? ≠ some (.plain '^') :=
    fun _ heq => (hmember _ (List.mem_of_mem_head? heq)).2.2 rfl
  have hread := h.set_content (fun u hu => (hmember u hu).1) hcaret
    (fun hmem => (hmember _ (List.mem_of_mem_tail hmem)).2.1 rfl)
    (fun heq => hne (List.map_eq_nil_iff.mp heq))
  rw [hchars] at hread
  exact hread

/-- Whether a set that has been read to some stage has a character, so that the next
    bracket closes it. -/
def SetStage.IsFilled (acc : List SetItem) : SetStage → Prop
  | .opened => False
  | .items => acc ≠ []
  | .pending .. | .ranging .. => True

/-- The states inside a set that the next bracket closes. -/
def Filled (items : List Regex) (s : State) : Prop :=
  ∃ negated acc stage, InStage items negated acc stage s ∧ stage.IsFilled acc

theorem Filled.isStuck {items : List Regex} {s : State} (h : Filled items s) :
    s.mode.isStuck = true := by
  rcases h with ⟨negated, acc, stage, h, _⟩
  exact h.isStuck

/-- Where an item may start, a unit that is no bracket is a character that may begin a
    range, or is refused. -/
theorem setNext_cases (s : State) (start : Nat) (negated : Bool) (acc : List SetItem) {t : Token}
    (ht : t ≠ .plain ']') :
    s.setNext start negated acc t
        = .ok { s with mode := .set start negated acc (.pending t s.pos) } ∨
      ∃ e, s.setNext start negated acc t = .error (.malformed e) := by
  unfold State.setNext
  rw [decide_eq_false ht, Bool.false_and, if_neg Bool.false_ne_true]
  cases t with
  | plain c => exact Or.inl rfl
  | escaped c =>
      by_cases hc : State.isRefusedEscape c = true
      · exact Or.inr ⟨_, if_pos hc⟩
      · exact Or.inl (if_neg hc)

namespace InStage

variable {items : List Regex} {negated : Bool} {acc : List SetItem} {stage : SetStage} {s : State}

/-- A unit inside a set that is no bracket and does not negate it is refused or a
    character of it. -/
theorem unit (h : InStage items negated acc stage s) {t : Token} (ht : t ≠ .plain ']')
    (hcaret : stage = .opened → t ≠ .plain '^') :
    Refuses s [t] ∨ Leads s [t] (Filled items) := by
  rcases h.mode with ⟨start, hmode⟩
  -- A unit goes on in the set, or is taken where an item may start; the four stages come to
  -- one of these two.
  have hfilled {acc' : List SetItem} {stage' : SetStage}
      (hact : act s t = .ok { s with mode := .set start negated acc' stage' })
      (hstage : stage'.IsFilled acc') : Leads s [t] (Filled items) :=
    (h.next start hact).mono fun _ h' => ⟨negated, acc', stage', h', hstage⟩
  have hnext (acc' : List SetItem) (hact : act s t = s.setNext start negated acc' t) :
      Refuses s [t] ∨ Leads s [t] (Filled items) := by
    rcases setNext_cases s start negated acc' ht with heq | ⟨e, heq⟩
    · exact Or.inr (hfilled (hact.trans heq) trivial)
    · exact Or.inl (refuses_of_act (hact.trans heq))
  cases stage with
  | opened =>
      refine hnext acc ?_
      simp only [act, hmode, State.set, if_neg (hcaret rfl)]
  | items =>
      refine hnext acc ?_
      simp only [act, hmode, State.set]
  | pending this place =>
      by_cases hdash : t = .plain '-'
      · subst hdash
        exact Or.inr (h.dash.mono fun _ h' => ⟨negated, acc, _, h', trivial⟩)
      · refine hnext (.single this.char :: acc) ?_
        simp only [act, hmode, State.set, if_neg hdash]
  | ranging this place =>
      have hact : act s t = s.set start negated acc (.ranging this place) t := by
        simp only [act, hmode]
      simp only [State.set, if_neg ht] at hact
      -- The end of a range is an item of its own, unless it is refused.
      cases t with
      | plain c =>
          by_cases hlt : c < this.char
          · exact Or.inl (refuses_of_act (hact.trans (if_pos hlt)))
          · exact Or.inr (hfilled (hact.trans (if_neg hlt)) (List.cons_ne_nil _ _))
      | escaped c =>
          by_cases hc : State.isRefusedEscape c = true
          · exact Or.inl (refuses_of_act (hact.trans (if_pos hc)))
          · by_cases hlt : c < this.char
            · exact Or.inl (refuses_of_act (hact.trans ((if_neg hc).trans (if_pos hlt))))
            · exact Or.inr (hfilled (hact.trans ((if_neg hc).trans (if_neg hlt)))
                (List.cons_ne_nil _ _))

/-- The bracket behind the one that opens a set, or behind the caret that negates it,
    is a character of the set. -/
theorem bracket_first (h : InStage items negated [] stage s)
    (hstage : stage = .opened ∨ stage = .items) : Leads s [.plain ']'] (Filled items) := by
  have hitems {s' : State} (h' : InStage items negated [] .items s') :
      Leads s' [.plain ']'] (Filled items) :=
    (h'.first (u := .plain ']') trivial fun _ => rfl).mono fun _ ⟨place, h''⟩ =>
      ⟨negated, [], .pending _ place, h'', trivial⟩
  rcases hstage with rfl | rfl
  · rcases h.begin with ⟨s', h', hsame⟩
    exact (hitems h').congr (hsame _ _ (by decide))
  · exact hitems h

/-- The next bracket closes a set that has a character. -/
theorem bracket (h : InStage items negated acc stage s) (hstage : stage.IsFilled acc) :
    Leads s [.plain ']'] fun s' => ∃ is, Row (setTree negated is :: items) s' := by
  cases stage with
  | opened => exact absurd hstage id
  | items => exact (h.close hstage).mono fun _ h' => ⟨_, h'⟩
  | pending this place =>
      rcases h.settle with ⟨s', h', hsame⟩
      have hleads := h'.close (List.cons_ne_nil _ _)
      exact (hleads.congr (hsame _ _ (by decide))).mono fun _ h'' => ⟨_, h''⟩
  | ranging this place => exact h.close_dash.mono fun _ h' => ⟨_, h'⟩

end InStage

/-- Units that are no brackets are refused or leave a set open that has a
    character. -/
theorem Filled.units {items : List Regex} {s : State} (h : Filled items s) {ts : List Token}
    (hts : ∀ t ∈ ts, t ≠ .plain ']') : Refuses s ts ∨ Leads s ts (Filled items) := by
  induction ts generalizing s with
  | nil => exact Or.inr (Leads.nil h)
  | cons t ts ih =>
      rcases h with ⟨negated, acc, stage, h, hstage⟩
      -- A set that has a character is behind its caret.
      have hopened : stage = .opened → t ≠ .plain '^' := by
        rintro rfl
        exact absurd hstage id
      rcases h.unit (hts t List.mem_cons_self) hopened with hrefused | ⟨s', hrun, h'⟩
      · exact Or.inl (hrefused.append ts)
      · have hrest := ih h' fun u hu => hts u (List.mem_cons_of_mem _ hu)
        exact hrest.imp (·.behind hrun) (·.behind hrun)

end Parser

end Regex

end NamePatterns
