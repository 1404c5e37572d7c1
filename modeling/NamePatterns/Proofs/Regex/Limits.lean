import Mathlib.Data.List.Induction
import NamePatterns.Proofs.Regex.Joining

/-!
# Limits of Regular Expressions

Which texts are refused because something is too large.

While a text is read, only the end of a count in braces can fail for a number
that is too large. The reading is inside such a count just if what was read
last is the start of one, behind something after which an item may start. At
the end, an assertion on what precedes can be too wide. Everything else that is
refused is malformed.

Two kinds of numbers can be too large here. A count of more digits than can be
converted, or one beyond the greatest count, is refused where its closing brace
is read. The width of an assertion on what precedes is known only when the tree
is whole, and is checked there. Neither is a fault of syntax, so neither is
caught where faults of syntax are.

To say which texts hold such a count, reading has to be undone: from the fact
that a count is being read when its end is refused, the braces and digits that
led there are recovered, together with the state before them. That is an
induction on the text from its end. The other direction reads the opening of a
count forward, from a state in which an item may start. The condition on that
state cannot be dropped: in a character set or a comment braces are ordinary
characters, whatever stands between them.

Of what all other units do, two facts suffice: they are not refused for a limit,
and they do not lead into a count. They are stated together, as `Tame`, and
proved once for each function of the automaton.

## Main definitions

* `tooLarge`: Whether the number that digits write is too large.
* `countOpening`, `countUnits`: Counts in braces as they are written.
* `IsCount`: The numbers of a count.
* `Mode.mayStartItem`: Whether an item may start.
* `Tame`: What neither exceeds a limit nor leads into a count.
* `Overruns`: A text with a count that is too large.
* `TooWide`: A tree with an assertion on what precedes that is too wide.
* `ExceedsLimit`: A text that is refused because something is too large.

## Theorems

* `act_cases`: What units do as far as counts go.
* `act_grows`, `act_countEnd`: What units do inside a count, and what its end
  does.
* `count?_error`, `closeBraces_beyondLimit`: Which numbers exceed the limit.
* `braces_spec`: What was read where a count is being read.
* `GrowsTo.run`, `run_countOpening`: Counts that are read unit by unit.
* `finish_mild`: The end of a text exceeds no limit.
* `run_beyondLimit_iff`: When the reading exceeds a limit.
* `parse_beyondLimit_iff`: When a text exceeds a limit.
-/

namespace NamePatterns

namespace Regex

namespace Parser

/-- Whether the number that digits write has too many of them or is too large. -/
def tooLarge (digits : List Char) : Bool :=
  decide (Text.digitLimit < digits.length) || decide (countLimit ≤ Text.digitsValue digits)

/-- The greatest number of a count as it is written, if there is one. -/
def greatestUnits : Option (List Char) → List Token
  | none => []
  | some ds => .plain ',' :: ds.map .plain

/-- A count in braces as it is written, without its end. -/
def countOpening (low : List Char) (high : Option (List Char)) : List Token :=
  .plain '\x7b' :: (low.map .plain ++ greatestUnits high)

/-- A count in braces as it is written. -/
def countUnits (low : List Char) (high : Option (List Char)) : List Token :=
  countOpening low high ++ [.plain '\x7d']

/-- The numbers of a count consist of digits. -/
def AreDigits (low : List Char) (high : Option (List Char)) : Prop :=
  (∀ c ∈ low, c.isDigit = true) ∧ ∀ ds, high = some ds → ∀ c ∈ ds, c.isDigit = true

/-- The numbers of a whole count: digits, of which some are there, or a comma. -/
def IsCount (low : List Char) (high : Option (List Char)) : Prop :=
  AreDigits low high ∧ (low ≠ [] ∨ high ≠ none)

/-- Whether an item may start. -/
def Mode.mayStartItem : Mode → Bool
  | .items | .repeated | .braces .. | .head _ .opened => true
  | .lineComment | .set .. | .head .. => false

/-- Whether a count in braces is being read. -/
def Mode.isCount : Mode → Bool
  | .braces .. => true
  | _ => false

/-- What is not refused for a number that is too large. -/
def Mild {α : Type} (x : Except Refusal α) : Prop :=
  ∀ e, x ≠ .error (.beyondLimit e)

/-- What is not refused for a number that is too large and does not lead into a
    count in braces. -/
def Tame (x : Except Refusal State) : Prop :=
  Mild x ∧ ∀ s, x = .ok s → s.mode.isCount = false

theorem Mild.ok {α : Type} (a : α) : Mild (.ok a : Except Refusal α) :=
  nofun

theorem Mild.fail {α : Type} (position : Nat) (fault : Fault) :
    Mild (Parser.fail position fault : Except Refusal α) :=
  nofun

theorem Mild.ite {α : Type} {p : Prop} [Decidable p] {x y : Except Refusal α} (hx : Mild x)
    (hy : Mild y) : Mild (if p then x else y) := by
  by_cases h : p
  · rw [if_pos h]
    exact hx
  · rw [if_neg h]
    exact hy

namespace Tame

variable {x y : Except Refusal State}

theorem ok {s : State} (h : s.mode.isCount = false) : Tame (.ok s) := by
  refine ⟨.ok s, ?_⟩
  intro s' hs'
  cases hs'
  exact h

theorem fail (position : Nat) (fault : Fault) : Tame (Parser.fail position fault) :=
  ⟨.fail position fault, nofun⟩

theorem ite {p : Prop} [Decidable p] (hx : p → Tame x) (hy : ¬p → Tame y) :
    Tame (if p then x else y) := by
  by_cases h : p
  · rw [if_pos h]
    exact hx h
  · rw [if_neg h]
    exact hy h

theorem bind {α : Type} {z : Except Refusal α} {f : α → Except Refusal State} (hz : Mild z)
    (hf : ∀ a, Tame (f a)) : Tame (z >>= f) := by
  cases z with
  | error e =>
      refine ⟨?_, nofun⟩
      intro e' he'
      exact hz e' (congrArg Except.error (Except.error.inj he'))
  | ok a => exact hf a

end Tame

namespace State

-- One lemma for each function of the automaton. The proofs follow its tests in their order, so
-- that a test which is added there adds a line here.
theorem bar_tame (s : State) : Tame s.bar := by
  unfold bar
  split
  · split
    · exact .ok rfl
    · exact .fail _ _
  · exact .ok rfl

theorem close_tame (s : State) : Tame s.close := by
  cases hopen : s.openGroups with
  | nil =>
      unfold close
      rw [hopen]
      exact .fail _ _
  | cons g gs =>
      rw [close_eq hopen]
      exact .ok rfl

theorem repeatLast_tame (s : State) (start low : Nat) (high : Option Nat) :
    Tame (s.repeatLast start low high) := by
  constructor
  · intro e
    unfold repeatLast
    split <;> nofun
  · intro s' hs'
    rcases repeatLast_ok.mp hs' with ⟨r, rs, _, _, rfl⟩
    rfl

theorem setGreed_tame (s : State) (greed : Greed) : Tame (.ok (s.setGreed greed)) := by
  rw [setGreed_eq]
  exact .ok rfl

/-- A unit where an item may start, unless it opens a count. -/
theorem item_tame (s : State) {t : Token} (ht : t ≠ .plain '\x7b') : Tame (s.item t) := by
  cases t with
  | escaped c => exact .ite (fun _ => .fail _ _) fun _ => .ok rfl
  | plain c =>
      have hc : c ≠ '\x7b' := fun heq => ht (by rw [heq])
      unfold item
      -- The tests are those of `State.item`, in their order.
      refine .ite (fun _ => s.bar_tame) fun _ => ?_
      refine .ite (fun _ => s.close_tame) fun _ => ?_
      refine .ite (fun _ => .ok rfl) fun _ => ?_
      refine .ite (fun _ => .ok rfl) fun _ => ?_
      refine .ite (fun _ => .ok rfl) fun _ => ?_
      refine .ite (fun _ => .ok rfl) fun _ => ?_
      refine .ite (fun _ => s.repeatLast_tame _ _ _) fun _ => ?_
      refine .ite (fun _ => s.repeatLast_tame _ _ _) fun _ => ?_
      refine .ite (fun _ => s.repeatLast_tame _ _ _) fun _ => ?_
      refine .ite (fun heq => absurd heq hc) fun _ => ?_
      refine .ite (fun _ => .ok rfl) fun _ => ?_
      refine .ite (fun _ => .ok rfl) fun _ => ?_
      exact .ite (fun _ => .ok rfl) fun _ => .ok rfl

/-- A brace where an item may start opens a count. -/
theorem item_brace (s : State) :
    s.item (.plain '\x7b') = .ok { s with mode := .braces s.pos [] none } := by
  unfold item
  cases s.level.verbose <;> rfl

theorem setNext_tame (s : State) (start : Nat) (negated : Bool) (items : List SetItem)
    (t : Token) : Tame (s.setNext start negated items t) := by
  unfold setNext
  refine .ite (fun _ => .ok rfl) fun _ => ?_
  cases t with
  | escaped c => exact .ite (fun _ => .fail _ _) fun _ => .ok rfl
  | plain c => exact .ok rfl

theorem set_tame (s : State) (start : Nat) (negated : Bool) (items : List SetItem)
    (stage : SetStage) (t : Token) : Tame (s.set start negated items stage t) := by
  cases stage with
  | opened => exact .ite (fun _ => .ok rfl) fun _ => s.setNext_tame _ _ _ _
  | items => exact s.setNext_tame _ _ _ _
  | pending this place => exact .ite (fun _ => .ok rfl) fun _ => s.setNext_tame _ _ _ _
  | ranging this place =>
      refine .ite (fun _ => .ok rfl) fun _ => ?_
      cases t with
      | escaped c =>
          refine .ite (fun _ => .fail _ _) fun _ => ?_
          exact .ite (fun _ => .fail _ _) fun _ => .ok rfl
      | plain c => exact .ite (fun _ => .fail _ _) fun _ => .ok rfl

theorem addFlag_tame (s : State) (start : Nat) (on : List Flag) (f : Flag) :
    Tame (s.addFlag start on f) := by
  refine .ite (fun _ => .fail _ _) fun _ => ?_
  exact .ite (fun _ => .fail _ _) fun _ => .ok rfl

theorem dropFlag_tame (s : State) (start : Nat) (on off : List Flag) (f : Flag) :
    Tame (s.dropFlag start on off f) :=
  .ite (fun _ => .fail _ _) fun _ => .ok rfl

/-- Letters of flags are looked up alike where flags are turned on and where they are turned
    off, so the lookup is peeled off once for both. -/
theorem flag_tame (s : State) (t : Token) {otherwise : Fault}
    {x : Flag → Except Refusal State} (hx : ∀ f, Tame (x f)) :
    Tame (match t, Flag.ofChar? t.char with
      | .plain _, some f => x f
      | _, _ => s.refuseFlag t otherwise) := by
  cases t with
  | escaped c => exact .fail _ _
  | plain c =>
      cases Flag.ofChar? (Token.plain c).char with
      | none => exact .fail _ _
      | some f => exact hx f

-- The characters that a question mark may be followed by, then the flags.
theorem question_tame (s : State) (start : Nat) (t : Token) : Tame (s.question start t) := by
  cases t with
  | escaped c => exact .fail _ _
  | plain c =>
      unfold question
      refine .ite (fun _ => .ok rfl) fun _ => ?_
      refine .ite (fun _ => .ok rfl) fun _ => ?_
      refine .ite (fun _ => .ok rfl) fun _ => ?_
      refine .ite (fun _ => .ok rfl) fun _ => ?_
      refine .ite (fun _ => .ok rfl) fun _ => ?_
      refine .ite (fun _ => .ok rfl) fun _ => ?_
      refine .ite (fun _ => .ok rfl) fun _ => ?_
      refine .ite (fun _ => .ok rfl) fun _ => ?_
      refine .ite (fun _ => .ok rfl) fun _ => ?_
      cases Flag.ofChar? c with
      | some f => exact s.addFlag_tame start [] f
      | none => exact .fail _ _

/-- A group that may not be asked for here is a fault of syntax and no limit. -/
theorem checkBehind_mild (s : State) (group : Nat) : Mild (s.checkBehind group) := by
  unfold checkBehind
  cases s.behindLimit with
  | none => exact .ok _
  | some limit => exact .ite (.fail _ _) (.ite (.fail _ _) (.ok _))

/-- There is a greatest number of groups, but a number beyond it is refused as one of no group. -/
theorem testNumbered_mild (s : State) (place : Nat) (name : List Char) :
    Mild (s.testNumbered place name) := by
  unfold testNumbered
  cases Text.integer? name with
  | none => exact .fail _ _
  | some n => exact .ite (.fail _ _) (.ite (.fail _ _) (.ite (.fail _ _) (.ok _)))

theorem closeName_tame (s : State) (start : Nat) (use : NameUse) (place : Nat)
    (name : List Char) : Tame (s.closeName start use place name) := by
  cases use with
  | define =>
      -- What is behind a refusal is never reached, but it has to be looked at.
      refine .ite (fun _ => .bind (.fail _ _) fun _ => ?_) fun _ => ?_
      all_goals
        cases s.groupNamed? name with
        | some former => exact .fail _ _
        | none => exact .ok rfl
  | refer =>
      refine .ite (fun _ => .bind (.fail _ _) fun _ => ?_) fun _ => ?_
      all_goals
        cases s.groupNamed? name with
        | none => exact .fail _ _
        | some group =>
            dsimp only
            cases s.closedWidth? group with
            | none => exact .fail _ _
            | some w => exact .bind (s.checkBehind_mild group) fun _ => .ok rfl
  | test =>
      refine .ite (fun _ => ?_) fun _ => ?_
      · cases s.groupNamed? name with
        | none => exact .bind (.fail _ _) fun _ => .bind (checkBehind_mild _ _) fun _ => .ok rfl
        | some group => exact .bind (.ok _) fun _ => .bind (checkBehind_mild _ _) fun _ => .ok rfl
      · refine .bind (s.testNumbered_mild place name) fun _ => ?_
        exact .bind (checkBehind_mild _ _) fun _ => .ok rfl

/-- A unit inside the head of a group, unless it opens a count. -/
theorem head_tame {s : State} (hmode : s.mode.isCount = false) (start : Nat) {h : Head}
    {t : Token} (ht : h = .opened → t ≠ .plain '\x7b') : Tame (s.head start h t) := by
  cases h with
  | opened => exact .ite (fun _ => .ok rfl) fun _ => item_tame _ (ht rfl)
  | question => exact s.question_tame start t
  | extension =>
      refine .ite (fun _ => .ok rfl) fun _ => ?_
      exact .ite (fun _ => .ok rfl) fun _ => .fail _ _
  | behind =>
      refine .ite (fun _ => .ok rfl) fun _ => ?_
      exact .ite (fun _ => .ok rfl) fun _ => .fail _ _
  | comment => exact .ite (fun _ => .ok rfl) fun _ => .ok hmode
  | name use place read =>
      refine .ite (fun _ => ?_) fun _ => .ok rfl
      exact .ite (fun _ => .fail _ _) fun _ => s.closeName_tame start use place _
  | flagsOn on =>
      refine .ite (fun _ => .fail _ _) fun _ => ?_
      refine .ite (fun _ => ?_) fun _ => s.flag_tame t fun f => s.addFlag_tame start on f
      refine .ite (fun _ => .fail _ _) fun _ => ?_
      exact .ite (fun _ => .ok rfl) fun _ => .ok rfl
  | minus on => exact s.flag_tame t fun f => s.dropFlag_tame start on [] f
  | flagsOff on off =>
      refine .ite (fun _ => ?_) fun _ => s.flag_tame t fun f => s.dropFlag_tame start on off f
      refine .ite (fun _ => .fail _ _) fun _ => ?_
      exact .ite (fun _ => .fail _ _) fun _ => .ok rfl

/-- A number is refused just if it is too large, and for no other reason. -/
theorem count?_error {ds : List Char} {e : Refusal} (h : count? ds = .error e) :
    tooLarge ds = true ∧ ∃ limit, e = .beyondLimit limit := by
  unfold count? at h
  by_cases hempty : ds.isEmpty = true
  · rw [if_pos hempty] at h
    cases h
  · rw [if_neg hempty] at h
    -- Digits are counted before they are converted, so there are two limits, met in this
    -- order.
    by_cases hdigits : Text.digitLimit < ds.length
    · rw [if_pos hdigits] at h
      cases h
      exact ⟨by rw [tooLarge, decide_eq_true hdigits, Bool.true_or], _, rfl⟩
    · rw [if_neg hdigits] at h
      by_cases hvalue : countLimit ≤ Text.digitsValue ds
      · simp only [if_pos hvalue] at h
        cases h
        exact ⟨by rw [tooLarge, decide_eq_true hvalue, Bool.or_true], _, rfl⟩
      · simp only [if_neg hvalue] at h
        cases h

theorem count?_of_tooLarge {ds : List Char} (h : tooLarge ds = true) :
    ∃ limit, count? ds = .error (.beyondLimit limit) := by
  -- No digits write no number, so there is nothing that could be too large.
  have hempty : ¬ds.isEmpty = true := by
    intro hempty
    rw [List.isEmpty_iff.mp hempty] at h
    exact absurd h (by decide)
  unfold count?
  rw [if_neg hempty]
  by_cases hdigits : Text.digitLimit < ds.length
  · exact ⟨_, if_pos hdigits⟩
  · have hvalue : countLimit ≤ Text.digitsValue ds := by
      rcases Bool.or_eq_true_iff.mp h with hd | hv
      · exact absurd (of_decide_eq_true hd) hdigits
      · exact of_decide_eq_true hv
    rw [if_neg hdigits]
    simp only [if_pos hvalue]
    exact ⟨_, rfl⟩

/-- Where both numbers of a count can be read, only the repetition is left to fail. -/
theorem closeBraces_tame {s : State} {start : Nat} {low : List Char} {high : Option (List Char)}
    {least greatest : Option Nat} (hleast : count? low.reverse = .ok least)
    (hgreatest : count? (high.getD low).reverse = .ok greatest) :
    Tame (s.closeBraces start low high) := by
  unfold closeBraces
  rw [hleast, hgreatest]
  cases greatest with
  | none => exact s.repeatLast_tame _ _ _
  | some n =>
      by_cases hlt : n < least.getD 0
      · simp only [bind, Except.bind, if_pos hlt]
        exact .fail _ _
      · simp only [bind, Except.bind, if_neg hlt]
        exact s.repeatLast_tame _ _ _

/-- The end of a count is refused for a number that is too large just if one of its
    numbers is. -/
theorem closeBraces_beyondLimit {s : State} {start : Nat} {low : List Char}
    {high : Option (List Char)} :
    (∃ e, s.closeBraces start low high = .error (.beyondLimit e)) ↔
      tooLarge low.reverse = true ∨ tooLarge (high.getD low).reverse = true := by
  constructor
  · rintro ⟨e, he⟩
    cases hleast : count? low.reverse with
    | error e' => exact Or.inl (count?_error hleast).1
    | ok least =>
        cases hgreatest : count? (high.getD low).reverse with
        | error e' => exact Or.inr (count?_error hgreatest).1
        | ok greatest => exact absurd he ((closeBraces_tame hleast hgreatest).1 e)
  · intro hlarge
    unfold closeBraces
    -- The first number is read before the second one, and its refusal comes first.
    cases hleast : count? low.reverse with
    | error e' =>
        rcases (count?_error hleast).2 with ⟨limit, rfl⟩
        exact ⟨limit, rfl⟩
    | ok least =>
        rcases hlarge with hlow | hhigh
        · rcases count?_of_tooLarge hlow with ⟨limit, hlimit⟩
          rw [hleast] at hlimit
          cases hlimit
        · rcases count?_of_tooLarge hhigh with ⟨limit, hlimit⟩
          rw [hlimit]
          exact ⟨limit, rfl⟩

/-- The end of a count leads out of it. -/
theorem closeBraces_ok {s s' : State} {start : Nat} {low : List Char}
    {high : Option (List Char)} (h : s.closeBraces start low high = .ok s') :
    s'.mode.isCount = false := by
  rcases Except.bind_ok.mp h with ⟨least, hleast, hrest⟩
  rcases Except.bind_ok.mp hrest with ⟨greatest, hgreatest, _⟩
  exact (closeBraces_tame hleast hgreatest).2 s' h

end State

/-- How numbers of a count, which are kept reversed, grow by a unit. -/
inductive Grows : List Char → Option (List Char) → Token → List Char → Option (List Char) → Prop
    where
  | low {low : List Char} {c : Char} (hc : c.isDigit = true) :
    Grows low none (.plain c) (c :: low) none
  | comma {low : List Char} : Grows low none (.plain ',') low (some [])
  | high {low ds : List Char} {c : Char} (hc : c.isDigit = true) :
    Grows low (some ds) (.plain c) low (some (c :: ds))

/-- Inside a count, a unit by which it grows makes it grow. -/
theorem act_grows {s : State} {start : Nat} {low low' : List Char} {high high' : Option (List Char)}
    {t : Token} (hmode : s.mode = .braces start low high) (h : Grows low high t low' high') :
    act s t = .ok { s with mode := .braces start low' high' } := by
  simp only [act, hmode]
  cases h with
  | low hc | high hc => simp only [State.braces, hc, if_true]
  | comma => rfl

/-- Where an item may start, a brace opens a count. -/
theorem act_brace {s : State} (h : s.mode.mayStartItem = true) :
    ∃ s' start, act s (.plain '\x7b') = .ok s' ∧ s'.mode = .braces start [] none := by
  cases hmode : s.mode with
  | items =>
      simp only [act, hmode]
      exact ⟨_, _, s.item_brace, rfl⟩
  | repeated =>
      simp only [act, hmode]
      exact ⟨_, _, s.item_brace, rfl⟩
  | braces start low high =>
      simp only [act, hmode]
      cases high <;> exact ⟨_, _, State.item_brace _, rfl⟩
  | head start head =>
      cases head with
      | opened =>
          simp only [act, hmode]
          exact ⟨_, _, State.item_brace _, rfl⟩
      | _ =>
          rw [hmode] at h
          cases h
  | _ =>
      rw [hmode] at h
      cases h

/-- What a unit does as far as counts in braces go: where an item may start it opens a count,
    inside a count it makes it grow or ends it, and in all other cases nothing that has to do
    with counts happens. Everything below is derived from these four cases, without another
    look at the automaton. -/
theorem act_cases (s : State) (t : Token) :
    (s.mode.mayStartItem = true ∧ t = .plain '\x7b' ∧
      ∃ s' start, act s t = .ok s' ∧ s'.mode = .braces start [] none) ∨
    (∃ start low high low' high', s.mode = .braces start low high ∧
      Grows low high t low' high') ∨
    (∃ start low high, s.mode = .braces start low high ∧ t = .plain '\x7d' ∧
      (low ≠ [] ∨ high ≠ none) ∧ act s t = s.closeBraces start low high) ∨
    Tame (act s t) := by
  -- The opening brace comes first, since it means the same in all four modes in which an item
  -- may start. Behind it the modes are told apart, and only a count has cases of its own.
  by_cases hopen : s.mode.mayStartItem = true ∧ t = .plain '\x7b'
  · rcases hopen with ⟨hstart, rfl⟩
    exact Or.inl ⟨hstart, rfl, act_brace hstart⟩
  · right
    cases hmode : s.mode with
    | braces start low high =>
        -- Inside a count, a unit makes it grow, ends it, or shows that it was none.
        have hbrace : t ≠ .plain '\x7b' := fun ht => hopen ⟨by rw [hmode]; rfl, ht⟩
        -- What turns out to be no count is read again as the characters it consists of.
        have hliteral : Tame ((s.pushLiterals (State.bracesText low high)).item t) :=
          State.item_tame _ hbrace
        cases t with
        | escaped c =>
            refine Or.inr (Or.inr ?_)
            simp only [act, hmode]
            exact hliteral
        | plain c =>
            by_cases hdigit : c.isDigit = true
            · left
              cases high with
              | none => exact ⟨start, low, none, _, _, rfl, .low hdigit⟩
              | some ds => exact ⟨start, low, some ds, _, _, rfl, .high hdigit⟩
            -- A second comma is no part of a count.
            · by_cases hcomma : (decide (c = ',') && high.isNone) = true
              · left
                rcases Bool.and_eq_true_iff.mp hcomma with ⟨hc, hnone⟩
                obtain rfl : c = ',' := of_decide_eq_true hc
                obtain rfl : high = none := Option.isNone_iff_eq_none.mp hnone
                exact ⟨start, low, none, _, _, rfl, .comma⟩
              · right
                have hact : act s (.plain c)
                    = if (decide (c = '\x7d') && !(low.isEmpty && high.isNone)) = true then
                        s.closeBraces start low high
                      else (s.pushLiterals (State.bracesText low high)).item (.plain c) := by
                  simp only [act, hmode, State.braces, if_neg hdigit, if_neg hcomma]
                -- Braces without a number or a comma are no count.
                by_cases hclose : (decide (c = '\x7d') && !(low.isEmpty && high.isNone)) = true
                · left
                  rw [hact, if_pos hclose]
                  rcases Bool.and_eq_true_iff.mp hclose with ⟨hc, hwritten⟩
                  obtain rfl : c = '\x7d' := of_decide_eq_true hc
                  refine ⟨start, low, high, rfl, rfl, ?_, rfl⟩
                  cases low with
                  | cons d ds => exact Or.inl (List.cons_ne_nil d ds)
                  | nil =>
                      cases high with
                      | some ds => exact Or.inr (Option.some_ne_none ds)
                      | none => cases hwritten
                · right
                  rw [hact, if_neg hclose]
                  exact hliteral
    | items =>
        refine Or.inr (Or.inr ?_)
        simp only [act, hmode]
        exact s.item_tame fun ht => hopen ⟨by rw [hmode]; rfl, ht⟩
    | repeated =>
        refine Or.inr (Or.inr ?_)
        simp only [act, hmode, State.afterRepetition]
        refine .ite (fun _ => s.setGreed_tame _) fun _ => ?_
        refine .ite (fun _ => s.setGreed_tame _) fun _ => ?_
        exact s.item_tame fun ht => hopen ⟨by rw [hmode]; rfl, ht⟩
    -- A comment ends with its line, and an item may start behind it; the unit itself opens
    -- nothing.
    | lineComment =>
        refine Or.inr (Or.inr ?_)
        simp only [act, hmode]
        refine .ok ?_
        by_cases ht : t = .plain '\n'
        · rw [if_pos ht]
          rfl
        · rw [if_neg ht, hmode]
          rfl
    | set start negated items stage =>
        refine Or.inr (Or.inr ?_)
        simp only [act, hmode]
        exact s.set_tame _ _ _ _ _
    | head start h =>
        refine Or.inr (Or.inr ?_)
        simp only [act, hmode]
        refine State.head_tame (by rw [hmode]; rfl) start fun hh ht => hopen ⟨?_, ht⟩
        rw [hmode, hh]
        rfl

theorem run_concat (s : State) (ts : List Token) (t : Token) :
    run s (ts ++ [t]) = (run s ts).bind fun s' => step s' t := by
  rw [run_append]
  cases run s ts with
  | error e => rfl
  | ok s' =>
      show (step s' t).bind _ = step s' t
      cases step s' t <;> rfl

/-- The units of a count grow with its numbers. -/
theorem countOpening_grows {low low' : List Char} {high high' : Option (List Char)} {t : Token}
    (h : Grows low high t low' high') :
    countOpening low'.reverse (high'.map List.reverse)
        = countOpening low.reverse (high.map List.reverse) ++ [t] := by
  cases h with
  | low hc =>
      simp only [countOpening, greatestUnits, List.reverse_cons, List.map_append, Option.map_none,
        List.append_nil, List.map_cons, List.map_nil, List.cons_append]
  | comma =>
      simp only [countOpening, greatestUnits, Option.map_none, Option.map_some, List.append_nil,
        List.reverse_nil, List.map_nil, List.cons_append]
  | high hc =>
      simp only [countOpening, greatestUnits, Option.map_some, List.reverse_cons, List.map_append,
        List.map_cons, List.map_nil, List.cons_append, List.append_assoc]

/-- The numbers of a count stay digits while they grow. -/
theorem AreDigits.grows {low low' : List Char} {high high' : Option (List Char)} {t : Token}
    (hd : AreDigits low high) (h : Grows low high t low' high') : AreDigits low' high' := by
  cases h with
  | low hc =>
      refine ⟨fun d hmem => ?_, nofun⟩
      rcases List.mem_cons.mp hmem with rfl | hmem
      · exact hc
      · exact hd.1 d hmem
  | comma =>
      refine ⟨hd.1, fun ds hds => ?_⟩
      cases hds
      nofun
  | high hc =>
      refine ⟨hd.1, fun ds hds => ?_⟩
      cases hds
      intro d hmem
      rcases List.mem_cons.mp hmem with rfl | hmem
      · exact hc
      · exact hd.2 _ rfl d hmem

theorem AreDigits.reverse {low : List Char} {high : Option (List Char)} (h : AreDigits low high) :
    AreDigits low.reverse (high.map List.reverse) := by
  refine ⟨fun c hc => h.1 c (List.mem_reverse.mp hc), ?_⟩
  intro ds hds c hc
  rcases Option.map_eq_some_iff.mp hds with ⟨es, hes, rfl⟩
  exact h.2 es hes c (List.mem_reverse.mp hc)

/-- Where a count is being read, what was read last is the start of a count, behind something
    after which an item may start. This is what undoes the reading: the state shows only the
    numbers, and the text that wrote them is recovered from them. -/
theorem braces_spec {ts : List Token} {s : State} (h : run {} ts = .ok s) {start : Nat}
    {low : List Char} {high : Option (List Char)} (hmode : s.mode = .braces start low high) :
    AreDigits low high ∧ ∃ pre s₀, run {} pre = .ok s₀ ∧ s₀.mode.mayStartItem = true ∧
      ts = pre ++ countOpening low.reverse (high.map List.reverse) := by
  -- What was read last decides, so the induction takes units from the end.
  induction ts using List.reverseRecOn generalizing s start low high with
  | nil =>
      cases h
      cases hmode
  | append_singleton ts t ih =>
      rw [run_concat] at h
      cases hrun : run {} ts with
      | error e =>
          rw [hrun] at h
          cases h
      | ok s₁ =>
          rw [hrun] at h
          rcases step_ok.mp h with ⟨s₂, hact, rfl⟩
          have hmode₂ : s₂.mode = .braces start low high := hmode
          -- Only opening a count and making it grow leave the reading inside of one.
          rcases act_cases s₁ t with
            ⟨hstart, rfl, s', start', hs', hmode'⟩ | hgrows | hclose | htame
          · rw [hact] at hs'
            cases hs'
            rw [hmode₂] at hmode'
            cases hmode'
            exact ⟨⟨nofun, nofun⟩, ts, s₁, hrun, hstart, rfl⟩
          · rcases hgrows with ⟨start', low₁, high₁, low', high', hmode₁, hg⟩
            rw [act_grows hmode₁ hg] at hact
            cases hact
            cases hmode₂
            rcases ih hrun hmode₁ with ⟨hd, pre, s₀, hpre, hstart, hts⟩
            refine ⟨hd.grows hg, pre, s₀, hpre, hstart, ?_⟩
            rw [countOpening_grows hg, hts, List.append_assoc]
          · rcases hclose with ⟨start', low₁, high₁, _, _, _, heq⟩
            rw [heq] at hact
            -- The end of a count leads out of it, so it was not the last unit, and the same
            -- goes for units that have nothing to do with counts.
            have hcount := State.closeBraces_ok hact
            rw [hmode₂] at hcount
            cases hcount
          · have hcount := htame.2 s₂ hact
            rw [hmode₂] at hcount
            cases hcount

/-- Numbers of a count that grow by several units. -/
inductive GrowsTo : List Char → Option (List Char) → List Token → List Char →
    Option (List Char) → Prop where
  | nil (low : List Char) (high : Option (List Char)) : GrowsTo low high [] low high
  | cons {low low₁ low' : List Char} {high high₁ high' : Option (List Char)} {t : Token}
    {ts : List Token} (h : Grows low high t low₁ high₁) (hrest : GrowsTo low₁ high₁ ts low' high') :
    GrowsTo low high (t :: ts) low' high'

namespace GrowsTo

variable {low low₁ low' : List Char} {high high₁ high' : Option (List Char)}
  {ts us : List Token}

theorem append (h : GrowsTo low high ts low₁ high₁) (hrest : GrowsTo low₁ high₁ us low' high') :
    GrowsTo low high (ts ++ us) low' high' := by
  induction h with
  | nil => exact hrest
  | cons hgrows _ ih => exact .cons hgrows (ih hrest)

/-- Before the comma digits go to the least number. -/
theorem lowDigits (low : List Char) {ds : List Char} (hds : ∀ c ∈ ds, c.isDigit = true) :
    GrowsTo low none (ds.map .plain) (ds.reverse ++ low) none := by
  induction ds generalizing low with
  | nil => exact .nil low none
  | cons c ds ih =>
      have hrest := ih (c :: low) fun d hd => hds d (List.mem_cons_of_mem _ hd)
      rw [List.reverse_cons, List.append_assoc]
      exact .cons (.low (hds c List.mem_cons_self)) hrest

/-- Behind the comma they go to the greatest one. -/
theorem highDigits (low es : List Char) {ds : List Char} (hds : ∀ c ∈ ds, c.isDigit = true) :
    GrowsTo low (some es) (ds.map .plain) low (some (ds.reverse ++ es)) := by
  induction ds generalizing es with
  | nil => exact .nil low (some es)
  | cons c ds ih =>
      have hrest := ih (c :: es) fun d hd => hds d (List.mem_cons_of_mem _ hd)
      rw [List.reverse_cons, List.append_assoc]
      exact .cons (.high (hds c List.mem_cons_self)) hrest

/-- Inside a count, units by which its numbers grow are read as such. -/
theorem run {s : State} {start : Nat} (hmode : s.mode = .braces start low high)
    (h : GrowsTo low high ts low' high') :
    ∃ s', Parser.run s ts = .ok s' ∧ s'.mode = .braces start low' high' := by
  induction h generalizing s with
  | nil => exact ⟨s, rfl, hmode⟩
  | @cons low low₁ low' high high₁ high' t ts hgrows _ ih =>
      have hstep := step_ok.mpr ⟨_, act_grows hmode hgrows, rfl⟩
      rcases ih (s := { s with pos := s.pos + t.width, mode := .braces start low₁ high₁ }) rfl with
        ⟨s', hrun, hmode'⟩
      refine ⟨s', ?_, hmode'⟩
      rw [run_cons, hstep]
      exact hrun

end GrowsTo

/-- Where an item may start, the start of a count leads into the count. -/
theorem run_countOpening {s : State} (hstart : s.mode.mayStartItem = true) {low : List Char}
    {high : Option (List Char)} (hd : AreDigits low high) :
    ∃ s' start, run s (countOpening low high) = .ok s' ∧
      s'.mode = .braces start low.reverse (high.map List.reverse) := by
  -- Numbers are kept reversed while they are read.
  have hgrows : GrowsTo [] none (low.map .plain ++ greatestUnits high) low.reverse
      (high.map List.reverse) := by
    have hlow : GrowsTo [] none (low.map .plain) low.reverse none := by
      have h := GrowsTo.lowDigits [] hd.1
      rw [List.append_nil] at h
      exact h
    refine hlow.append ?_
    cases high with
    | none => exact .nil _ none
    | some ds =>
        have h := GrowsTo.highDigits low.reverse [] (hd.2 ds rfl)
        rw [List.append_nil] at h
        exact .cons .comma h
  rcases act_brace hstart with ⟨s₁, start, hact, hmode⟩
  rcases hgrows.run (s := { s₁ with pos := s.pos + 1 }) hmode with ⟨s', hrun, hmode'⟩
  refine ⟨s', start, ?_, hmode'⟩
  show run s (.plain '\x7b' :: _) = _
  rw [run_cons, step_ok.mpr ⟨s₁, hact, rfl⟩]
  exact hrun

/-- Where reading fails, it fails at one unit, and everything before that is read. -/
theorem run_error {s : State} {ts : List Token} {e : Refusal} (h : run s ts = .error e) :
    ∃ pre t post s', ts = pre ++ t :: post ∧ run s pre = .ok s' ∧ act s' t = .error e := by
  induction ts generalizing s with
  | nil => cases h
  | cons t ts ih =>
      rw [run_cons] at h
      cases hact : act s t with
      | error e' =>
          rw [step, hact] at h
          cases h
          exact ⟨[], t, ts, s, rfl, rfl, hact⟩
      | ok s₁ =>
          have hstep := step_ok.mpr ⟨s₁, hact, rfl⟩
          rw [hstep] at h
          rcases ih h with ⟨pre, u, post, s', rfl, hrun, hfails⟩
          refine ⟨t :: pre, u, post, s', rfl, ?_, hfails⟩
          rw [run_cons, hstep]
          exact hrun

/-- Behind the start of a count, its end is the end of a count. -/
theorem act_countEnd {s : State} {start : Nat} {low : List Char} {high : Option (List Char)}
    (hmode : s.mode = .braces start low high) (hwritten : low ≠ [] ∨ high ≠ none) :
    act s (.plain '\x7d') = s.closeBraces start low high := by
  simp only [act, hmode]
  cases low with
  | cons c low => cases high <;> rfl
  | nil =>
      cases high with
      | some ds => rfl
      | none =>
          rcases hwritten with h | h
          · exact absurd rfl h
          · exact absurd rfl h

/-- A count with a number that is too large stands in a text where an item may start. -/
def Overruns (ts : List Token) : Prop :=
  ∃ pre low high post s, ts = pre ++ countUnits low high ++ post ∧ run {} pre = .ok s ∧
    s.mode.mayStartItem = true ∧ IsCount low high ∧
    (tooLarge low = true ∨ tooLarge (high.getD low) = true)

theorem getD_reverse (low : List Char) (high : Option (List Char)) :
    (high.map List.reverse).getD low.reverse = (high.getD low).reverse := by
  cases high <;> rfl

/-- The reading exceeds a limit just if a count has a number that is too large. -/
theorem run_beyondLimit_iff {ts : List Token} :
    (∃ e, run {} ts = .error (.beyondLimit e)) ↔ Overruns ts := by
  constructor
  · rintro ⟨e, he⟩
    rcases run_error he with ⟨pre, t, post, s, rfl, hrun, hact⟩
    -- Of the four cases, only the end of a count can be refused for a limit.
    rcases act_cases s t with ⟨_, _, s', start, hs', _⟩ | hgrows | hclose | htame
    · rw [hact] at hs'
      cases hs'
    · rcases hgrows with ⟨start, low, high, low', high', hmode, hg⟩
      rw [act_grows hmode hg] at hact
      cases hact
    · rcases hclose with ⟨start, low, high, hmode, rfl, hwritten, heq⟩
      rcases braces_spec hrun hmode with ⟨hdigits, pre', s₀, hpre', hstart, rfl⟩
      -- The numbers that are read here are those that the text shows.
      have hlarge := State.closeBraces_beyondLimit.mp ⟨e, heq.symm.trans hact⟩
      refine ⟨pre', low.reverse, high.map List.reverse, post, s₀, ?_, hpre', hstart,
        ⟨hdigits.reverse, ?_⟩, ?_⟩
      · simp only [countUnits, List.append_assoc, List.singleton_append]
      · rcases hwritten with hlow | hhigh
        · exact Or.inl fun hnil => hlow (List.reverse_eq_nil_iff.mp hnil)
        · exact Or.inr fun hnone => hhigh (Option.map_eq_none_iff.mp hnone)
      · rw [getD_reverse]
        exact hlarge
    · exact absurd hact (htame.1 e)
  · rintro ⟨pre, low, high, post, s, rfl, hpre, hstart, ⟨hdigits, hwritten⟩, hlarge⟩
    rcases run_countOpening hstart hdigits with ⟨s', start, hopening, hmode⟩
    have hwritten' : low.reverse ≠ [] ∨ high.map List.reverse ≠ none := by
      rcases hwritten with hlow | hhigh
      · exact Or.inl fun hnil => hlow (List.reverse_eq_nil_iff.mp hnil)
      · exact Or.inr fun hnone => hhigh (Option.map_eq_none_iff.mp hnone)
    -- Behind the opening, the closing brace is refused, whatever comes after it.
    have hclose : ∃ e, act s' (.plain '\x7d') = .error (.beyondLimit e) := by
      rw [act_countEnd hmode hwritten', State.closeBraces_beyondLimit, getD_reverse,
        List.reverse_reverse, List.reverse_reverse]
      exact hlarge
    rcases hclose with ⟨e, he⟩
    have hstep : step s' (.plain '\x7d') = .error (.beyondLimit e) := by
      rw [step, he]
      rfl
    refine ⟨e, ?_⟩
    rw [countUnits, List.append_assoc, List.append_assoc, run_append, hpre]
    show run s (countOpening low high ++ ([.plain '\x7d'] ++ post)) = _
    rw [run_append, hopening]
    show run s' (.plain '\x7d' :: post) = _
    rw [run_cons, hstep]
    rfl

/-- The end of a text is never refused for something that is too large. -/
theorem finish_mild (s : State) : Mild (finish s) := by
  intro e he
  -- What is left open at the end is a fault of syntax, and so is a number of no group.
  cases hend : s.mode.mayEnd with
  | true =>
      rw [finish_eq_ended hend] at he
      cases hopen : s.openGroups with
      | cons g gs =>
          rw [hopen] at he
          cases he
      | nil =>
          rw [hopen] at he
          cases hfind : s.tested.find? (s.groups.length < ·.1) with
          | none =>
              simp only [hfind] at he
              cases he
          | some x =>
              simp only [hfind] at he
              cases he
  | false =>
      unfold finish at he
      cases hmode : s.mode with
      | set start negated items stage =>
          rw [hmode] at he
          cases he
      | head start h =>
          rw [hmode] at he
          cases he
      | _ =>
          rw [hmode] at hend
          cases hend

end Parser

/-- Every assertion on what precedes has one width, and one of them is too wide. -/
def TooWide (r : Regex) : Prop :=
  (∀ w ∈ r.lookBehindWidths, w.isFixed = true) ∧
    ∃ w ∈ r.lookBehindWidths, Nat.pow 2 31 ≤ w.low

/-- A text with a count that is too large, or a whole tree with an assertion on
    what precedes that is too wide. -/
def ExceedsLimit (cs : List Char) : Prop :=
  ∃ ts, Token.ofChars? cs = some ts ∧ (Parser.Overruns ts ∨
    ∃ s r, Parser.run {} ts = .ok s ∧ Parser.finish s = .ok r ∧ TooWide r)

theorem checkLookBehinds_beyondLimit {r : Regex} :
    (∃ e, checkLookBehinds r = .error (.beyondLimit e)) ↔ TooWide r := by
  unfold checkLookBehinds TooWide
  -- Whether all widths are fixed is asked of the whole tree before any of them is compared, so
  -- a width that varies anywhere hides one that is too large.
  by_cases hvariable : r.lookBehindWidths.any (!·.isFixed) = true
  · simp only [if_pos hvariable]
    constructor
    · rintro ⟨e, he⟩
      cases he
    · rintro ⟨hfixed, _⟩
      rcases List.any_eq_true.mp hvariable with ⟨w, hw, hnot⟩
      rw [hfixed w hw] at hnot
      cases hnot
  · have hfixed (w : Width) (hw : w ∈ r.lookBehindWidths) : w.isFixed = true := by
      have hnot := mt List.any_eq_true.mpr hvariable
      exact Bool.not_eq_false _ |>.mp fun hfalse => hnot ⟨w, hw, by rw [hfalse]; rfl⟩
    by_cases hlarge : (r.lookBehindWidths.any fun w => Nat.pow 2 31 ≤ w.low) = true
    · simp only [if_neg hvariable, if_pos hlarge]
      rcases List.any_eq_true.mp hlarge with ⟨w, hw, hle⟩
      exact ⟨fun _ => ⟨hfixed, w, hw, of_decide_eq_true hle⟩, fun _ => ⟨_, rfl⟩⟩
    · simp only [if_neg hvariable, if_neg hlarge]
      constructor
      · rintro ⟨e, he⟩
        cases he
      · rintro ⟨_, w, hw, hle⟩
        exact absurd (List.any_eq_true.mpr ⟨w, hw, decide_eq_true hle⟩) hlarge

/-- Where the refusal of a text for a limit comes from. -/
theorem parse_beyondLimit {cs : List Char} {e : LimitError} :
    parse cs = .error (.beyondLimit e) ↔
      ∃ ts, Token.ofChars? cs = some ts ∧ (Parser.run {} ts = .error (.beyondLimit e) ∨
        ∃ s r, Parser.run {} ts = .ok s ∧ Parser.finish s = .ok r ∧
          checkLookBehinds r = .error (.beyondLimit e)) := by
  unfold parse
  cases hts : Token.ofChars? cs with
  | none =>
      constructor
      · intro h
        cases h
      · rintro ⟨ts, heq, _⟩
        cases heq
  | some ts =>
      -- Three steps can fail: the reading, its end and the check of the widths. The end never
      -- fails for a limit.
      simp only [Except.bind_error]
      constructor
      · rintro (hrun | ⟨s, hrun, hfinish | ⟨r, hr, hcheck | ⟨_, _, hpure⟩⟩⟩)
        · exact ⟨ts, rfl, Or.inl hrun⟩
        · exact absurd hfinish (Parser.finish_mild s e)
        · exact ⟨ts, rfl, Or.inr ⟨s, r, hrun, hr, hcheck⟩⟩
        · cases hpure
      · rintro ⟨ts', heq, hrun | ⟨s, r, hrun, hr, hcheck⟩⟩
        · cases heq
          exact Or.inl hrun
        · cases heq
          exact Or.inr ⟨s, hrun, Or.inr ⟨r, hr, Or.inl hcheck⟩⟩

/-- A text is refused for a limit just if it exceeds one. -/
theorem parse_beyondLimit_iff {cs : List Char} :
    (∃ e, parse cs = .error (.beyondLimit e)) ↔ ExceedsLimit cs := by
  constructor
  · rintro ⟨e, he⟩
    rcases parse_beyondLimit.mp he with ⟨ts, hts, hrun | ⟨s, r, hrun, hr, hcheck⟩⟩
    · exact ⟨ts, hts, Or.inl (Parser.run_beyondLimit_iff.mp ⟨e, hrun⟩)⟩
    · exact ⟨ts, hts, Or.inr ⟨s, r, hrun, hr, checkLookBehinds_beyondLimit.mp ⟨e, hcheck⟩⟩⟩
  · rintro ⟨ts, hts, hover | ⟨s, r, hrun, hr, hwide⟩⟩
    · rcases Parser.run_beyondLimit_iff.mpr hover with ⟨e, he⟩
      exact ⟨e, parse_beyondLimit.mpr ⟨ts, hts, Or.inl he⟩⟩
    · rcases checkLookBehinds_beyondLimit.mpr hwide with ⟨e, he⟩
      exact ⟨e, parse_beyondLimit.mpr ⟨ts, hts, Or.inr ⟨s, r, hrun, hr, he⟩⟩⟩

end Regex

end NamePatterns
