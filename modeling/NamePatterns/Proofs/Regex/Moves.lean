import Mathlib.Logic.Relation
import NamePatterns.Proofs.Regex.Operations

/-!
# What Units Are Made Of

Everything a unit does to the automaton is made of a few moves.

The automaton tells its modes and units apart in many cases, and ends each of
them in one of a dozen moves: it goes on in another mode, adds an item, changes
the last one, ends an alternative or a group, or opens a group. An invariant of
readings is therefore proved move by move, without a look at the cases.

The moves are a relation and not a type of instructions, because what is wanted
of them is only that an invariant survives each of them. A move says as much of
its two states as invariants have needed so far: that an item is simple, that a
group which is referred to is closed, that something succeeded. Refused units
make no move at all, so nothing has to be shown of them.

## Main definitions

* `Regex.isSimple`: A tree without parts that refers to no group.
* `Kind.isPlain`: A group of which nothing has to be remembered when it opens.
* `Move`: What is done at once.
* `MadeOf`: What succeeds by moves.

## Theorems

* `act_moves`: What a unit does consists of moves.
* `run_moves`: What a reading does consists of moves.
-/

namespace NamePatterns

namespace Regex

/-- Whether a tree has no parts and refers to no group. -/
def isSimple : Regex → Bool
  | literal _ | any | anyBut _ | set .. | lineStart | lineEnd => true
  | _ => false

namespace Parser

/-- Whether nothing has to be remembered when a group opens but what it is for. -/
def Kind.isPlain : Kind → Bool
  | .flagged _ | .atomic | .lookAhead _ | .conditional _ none => true
  | _ => false

/-- What is done to a state at once. -/
inductive Move : State → State → Prop where
  /-- The reading goes on in some mode. -/
  | goOn (s : State) (pos : Nat) (mode : Mode) : Move s { s with pos := pos, mode := mode }
  /-- A simple item is added. -/
  | push (s : State) {r : Regex} (h : r.isSimple = true) : Move s (s.push r)
  /-- A reference to a closed group is added. -/
  | refer (s : State) {group : Nat} {w : Width} (h : s.closedWidth? group = some w) :
    Move s (s.push (.backref group w))
  /-- The last item is repeated. -/
  | repeatLast {s s' : State} {start low : Nat} {high : Option Nat}
    (h : s.repeatLast start low high = .ok s') : Move s s'
  /-- A repetition is changed. -/
  | setGreed (s : State) (greed : Greed) : Move s (s.setGreed greed)
  /-- An alternative ends. -/
  | bar {s s' : State} (h : s.bar = .ok s') : Move s s'
  /-- A group ends. -/
  | close {s s' : State} (h : s.close = .ok s') : Move s s'
  /-- A plain group opens. -/
  | enter (s : State) (start : Nat) (verbose : Bool) {kind : Kind} (h : kind.isPlain = true) :
    Move s (s.enter start kind verbose)
  /-- A numbered group opens. -/
  | enterCapture (s : State) (start : Nat) (name : Option (List Char)) :
    Move s (s.enterCapture start name)
  /-- An assertion on what precedes opens. -/
  | enterLookBehind (s : State) (start : Nat) (negated : Bool) :
    Move s (s.enterLookBehind start negated)
  /-- The number that a condition asks for is noted. -/
  | note (s : State) (group place : Nat) : Move s (s.noted group place)

/-- One move after the other. -/
abbrev Moves : State → State → Prop :=
  Relation.ReflTransGen Move

/-- What leads from a state to another one, if it succeeds, consists of moves. -/
def MadeOf (s : State) (x : Except Refusal State) : Prop :=
  ∀ s', x = .ok s' → Moves s s'

namespace MadeOf

variable {s s₁ : State} {x y : Except Refusal State}

theorem moves (h : Moves s s₁) : MadeOf s (.ok s₁) := by
  intro s' hs'
  cases hs'
  exact h

theorem move (h : Move s s₁) : MadeOf s (.ok s₁) :=
  moves (.single h)

theorem goOn (s : State) (mode : Mode) : MadeOf s (.ok { s with mode := mode }) :=
  move (.goOn s s.pos mode)

/-- What is refused leads nowhere. -/
theorem fail (position : Nat) (fault : Fault) : MadeOf s (Parser.fail position fault) :=
  nofun

theorem ite {p : Prop} [Decidable p] (hx : MadeOf s x) (hy : MadeOf s y) :
    MadeOf s (if p then x else y) := by
  by_cases h : p
  · rw [if_pos h]
    exact hx
  · rw [if_neg h]
    exact hy

/-- Moves may come first. -/
theorem after (h : Moves s s₁) (hx : MadeOf s₁ x) : MadeOf s x :=
  fun s' hs' => h.trans (hx s' hs')

end MadeOf

namespace State

-- For every function of the automaton, that what it does consists of moves. Tests only choose
-- between moves, so what they test is not looked at.
/-- Characters are added one by one. -/
theorem pushLiterals_moves (s : State) (cs : List Char) : Moves s (s.pushLiterals cs) := by
  induction cs generalizing s with
  | nil => exact .refl
  | cons c cs ih => exact .head (.push s rfl) (ih (s.push (.literal c)))

/-- A count that the end of the text breaks off is added as the characters that it consists of. -/
theorem ended_moves (s : State) : Moves s s.ended := by
  unfold ended
  split
  · exact s.pushLiterals_moves _
  · exact .refl

theorem repeatLast_madeOf (s : State) (start low : Nat) (high : Option Nat) :
    MadeOf s (s.repeatLast start low high) :=
  fun _ h => .single (.repeatLast h)

/-- Whatever a set amounts to has no parts. -/
theorem setTree_isSimple (negated : Bool) (items : List SetItem) :
    (setTree negated items).isSimple = true := by
  unfold setTree
  split <;> rfl

/-- A unit where an item may start. -/
theorem item_madeOf (s : State) (t : Token) : MadeOf s (s.item t) := by
  cases t with
  | escaped c => exact .ite (.fail _ _) (.move (.push s rfl))
  | plain c =>
      unfold item
      -- The tests are those of `State.item`, in their order.
      refine .ite (fun _ h => .single (.bar h)) ?_
      refine .ite (fun _ h => .single (.close h)) ?_
      refine .ite (.goOn s _) ?_
      refine .ite (.goOn s _) ?_
      refine .ite (.goOn s _) ?_
      refine .ite (.goOn s _) ?_
      refine .ite (s.repeatLast_madeOf _ _ _) ?_
      refine .ite (s.repeatLast_madeOf _ _ _) ?_
      refine .ite (s.repeatLast_madeOf _ _ _) ?_
      refine .ite (.goOn s _) ?_
      refine .ite (.move (.push s rfl)) ?_
      refine .ite (.move (.push s rfl)) ?_
      exact .ite (.move (.push s rfl)) (.move (.push s rfl))

/-- A count at its end repeats the last item. -/
theorem closeBraces_madeOf (s : State) (start : Nat) (low : List Char)
    (high : Option (List Char)) : MadeOf s (s.closeBraces start low high) := by
  intro s' h
  rcases Except.bind_ok.mp h with ⟨least, _, hrest⟩
  rcases Except.bind_ok.mp hrest with ⟨greatest, _, hrepeat⟩
  -- The numbers are read before anything is done, and are no moves.
  cases greatest with
  | none => exact .single (.repeatLast hrepeat)
  | some n =>
      by_cases hlt : n < least.getD 0
      · simp only [if_pos hlt] at hrepeat
        cases hrepeat
      · simp only [if_neg hlt] at hrepeat
        exact .single (.repeatLast hrepeat)

theorem braces_madeOf (s : State) (start : Nat) (low : List Char) (high : Option (List Char))
    (t : Token) : MadeOf s (s.braces start low high t) := by
  -- What turns out to be no count is added as it was written.
  have hliteral : MadeOf s ((s.pushLiterals (bracesText low high)).item t) :=
    .after (s.pushLiterals_moves _) (item_madeOf _ t)
  cases t with
  | escaped c => exact hliteral
  | plain c =>
      refine .ite (.goOn s _) ?_
      refine .ite (.goOn s _) ?_
      exact .ite (s.closeBraces_madeOf start low high) hliteral

theorem setNext_madeOf (s : State) (start : Nat) (negated : Bool) (items : List SetItem)
    (t : Token) : MadeOf s (s.setNext start negated items t) := by
  refine .ite (.move (.push s (setTree_isSimple _ _))) ?_
  cases t with
  | escaped c => exact .ite (.fail _ _) (.goOn s _)
  | plain c => exact .goOn s _

theorem set_madeOf (s : State) (start : Nat) (negated : Bool) (items : List SetItem)
    (stage : SetStage) (t : Token) : MadeOf s (s.set start negated items stage t) := by
  cases stage with
  | opened => exact .ite (.goOn s _) (s.setNext_madeOf _ _ _ _)
  | items => exact s.setNext_madeOf _ _ _ _
  | pending this place => exact .ite (.goOn s _) (s.setNext_madeOf _ _ _ _)
  | ranging this place =>
      refine .ite (.move (.push s (setTree_isSimple _ _))) ?_
      cases t with
      | escaped c => exact .ite (.fail _ _) (.ite (.fail _ _) (.goOn s _))
      | plain c => exact .ite (.fail _ _) (.goOn s _)

theorem addFlag_madeOf (s : State) (start : Nat) (on : List Flag) (f : Flag) :
    MadeOf s (s.addFlag start on f) :=
  .ite (.fail _ _) (.ite (.fail _ _) (.goOn s _))

theorem dropFlag_madeOf (s : State) (start : Nat) (on off : List Flag) (f : Flag) :
    MadeOf s (s.dropFlag start on off f) :=
  .ite (.fail _ _) (.goOn s _)

/-- A letter in the head of a group is a flag, with which something is done, or is refused. -/
theorem flag_madeOf (s : State) (t : Token) {otherwise : Fault}
    {x : Flag → Except Refusal State} (hx : ∀ f, MadeOf s (x f)) :
    MadeOf s (match t, Flag.ofChar? t.char with
      | .plain _, some f => x f
      | _, _ => s.refuseFlag t otherwise) := by
  cases t with
  | escaped c => exact .fail _ _
  | plain c =>
      cases Flag.ofChar? (Token.plain c).char with
      | none => exact .fail _ _
      | some f => exact hx f

theorem enter_madeOf (s : State) (start : Nat) (verbose : Bool) {kind : Kind}
    (h : kind.isPlain = true) : MadeOf s (.ok (s.enter start kind verbose)) :=
  .move (.enter s start verbose h)

/-- Behind the question mark, a group of some kind opens at once, or more of its head follows. -/
theorem question_madeOf (s : State) (start : Nat) (t : Token) :
    MadeOf s (s.question start t) := by
  cases t with
  | escaped c => exact .fail _ _
  | plain c =>
      unfold question
      refine .ite (.goOn s _) ?_
      refine .ite (s.enter_madeOf start _ rfl) ?_
      refine .ite (.goOn s _) ?_
      refine .ite (s.enter_madeOf start _ rfl) ?_
      refine .ite (s.enter_madeOf start _ rfl) ?_
      refine .ite (.goOn s _) ?_
      refine .ite (.goOn s _) ?_
      refine .ite (s.enter_madeOf start _ rfl) ?_
      refine .ite (.goOn s _) ?_
      cases Flag.ofChar? c with
      | some f => exact s.addFlag_madeOf start [] f
      | none => exact .fail _ _

/-- A name at its end opens a group, refers to one, or asks for one. Only a group that is
    closed is referred to. -/
theorem closeName_madeOf (s : State) (start : Nat) (use : NameUse) (place : Nat)
    (name : List Char) : MadeOf s (s.closeName start use place name) := by
  intro s' h
  cases use with
  -- A name that is at its end opens a group, adds a reference or opens a condition.
  | define =>
      obtain ⟨_, _, rfl⟩ := closeName_define_ok.mp h
      exact .single (.enterCapture s start (some name))
  | refer =>
      obtain ⟨_, group, w, _, hwidth, _, rfl⟩ := closeName_refer_ok.mp h
      exact .single (.refer s hwidth)
  | test =>
      -- A condition asks for a group by its name or by its number, which is noted.
      by_cases hname : Text.isIdentifier name = true
      · obtain ⟨group, _, _, rfl⟩ := (closeName_test_ok hname).mp h
        exact .single (.enter s start _ rfl)
      · obtain ⟨group, _, _, rfl⟩ := (closeName_number_ok (Bool.not_eq_true _ ▸ hname)).mp h
        have hnote : Moves s (s.noted group place) := .single (.note s group place)
        exact hnote.tail (.enter _ start _ rfl)

theorem head_madeOf (s : State) (start : Nat) (h : Head) (t : Token) :
    MadeOf s (s.head start h t) := by
  cases h with
  | opened =>
      -- What is no question mark stands in the group already.
      have hcapture : Moves s (s.enterCapture start none) := .single (.enterCapture s start none)
      exact .ite (.goOn s _) (.after hcapture (item_madeOf _ t))
  | question => exact s.question_madeOf start t
  | extension => exact .ite (.goOn s _) (.ite (.goOn s _) (.fail _ _))
  | behind =>
      refine .ite (.move (.enterLookBehind s start false)) ?_
      exact .ite (.move (.enterLookBehind s start true)) (.fail _ _)
  -- A comment in parentheses is skipped unit by unit.
  | comment => exact .ite (.goOn s _) (.moves .refl)
  | name use place read =>
      exact .ite (.ite (.fail _ _) (s.closeName_madeOf start use place _)) (.goOn s _)
  | flagsOn on =>
      refine .ite (.fail _ _) ?_
      refine .ite ?_ (s.flag_madeOf t fun f => s.addFlag_madeOf start on f)
      exact .ite (.fail _ _) (.ite (s.enter_madeOf start _ rfl) (.goOn s _))
  | minus on => exact s.flag_madeOf t fun f => s.dropFlag_madeOf start on [] f
  | flagsOff on off =>
      refine .ite ?_ (s.flag_madeOf t fun f => s.dropFlag_madeOf start on off f)
      exact .ite (.fail _ _) (.ite (.fail _ _) (s.enter_madeOf start _ rfl))

/-- A sign behind a repetition changes it, and anything else is an item. -/
theorem afterRepetition_madeOf (s : State) (t : Token) : MadeOf s (s.afterRepetition t) :=
  .ite (.move (.setGreed s _)) (.ite (.move (.setGreed s _)) (s.item_madeOf t))

end State

/-- What a unit does consists of moves. -/
theorem act_moves {s s' : State} {t : Token} (h : act s t = .ok s') : Moves s s' := by
  revert s'
  show MadeOf s (act s t)
  unfold act
  split
  · exact s.item_madeOf t
  · exact s.afterRepetition_madeOf t
  -- Only the end of the line ends the comment.
  · by_cases hend : t = .plain '\n'
    · rw [if_pos hend]
      exact .goOn s _
    · rw [if_neg hend]
      exact .moves .refl
  · exact s.braces_madeOf _ _ _ t
  · exact s.set_madeOf _ _ _ _ t
  · exact s.head_madeOf _ _ t

/-- What a reading does consists of moves. -/
theorem run_moves {s s' : State} {ts : List Token} (h : run s ts = .ok s') : Moves s s' := by
  induction ts generalizing s with
  | nil =>
      obtain rfl : s = s' := Except.ok.inj h
      exact .refl
  | cons t ts ih =>
      obtain ⟨s₁, hstep, hrest⟩ := Except.bind_ok.mp h
      obtain ⟨s₂, hact, rfl⟩ := step_ok.mp hstep
      -- The position is set behind the unit at the end of each step.
      have hpos : Move s₂ { s₂ with pos := s.pos + t.width } := .goOn s₂ _ s₂.mode
      exact ((act_moves hact).tail hpos).trans (ih hrest)

end Parser

end Regex

end NamePatterns
