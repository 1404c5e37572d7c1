import NamePatterns.Proofs.Regex.Operations

/-!
# Escapes in Regular Expressions

When a text is refused for a backslash in it.

A backslash and the character behind it are one unit, wherever they stand. Such a unit is
refused for being an escape only where it would stand for a character, in a set or outside of
one, and only if that character is a letter or a digit. In the head of a group it may be refused
as well, but then for not belonging there, and in a comment it is skipped. A backslash that no
character follows is refused before anything is read.

So a text that splits into units none of which is a letter or a digit behind a backslash is
never refused for a backslash.

The property composes: it holds of a sequence of steps if it holds of each of
them, and of a choice if it holds of both sides. These rules are simp lemmas, so
a function of the automaton is shown to have the property by naming the
functions that it calls. What is left to see in each case is that the faults it
can end in are not faults of a backslash.

## Main definitions

* `Fault.isEscape`: A fault of a backslash.
* `Token.isRefused`: A letter or a digit behind a backslash.
* `Parser.Admits`: What is not refused for a backslash.

## Theorems

* `Parser.act_admits`, `Parser.run_admits`: What one unit and several units do.
* `parse_admits`: A text whose units are not refused for a backslash.
-/

namespace NamePatterns

namespace Regex

/-- Whether a fault is that of a backslash. -/
def Fault.isEscape : Fault → Bool
  | .badEscape _ | .escapeAtEnd => true
  | _ => false

/-- Whether a unit is a backslash and a character that may not stand behind one. -/
def Token.isRefused : Token → Bool
  | .plain _ => false
  | .escaped c => Parser.State.isRefusedEscape c

namespace Parser

/-- What is not refused for a backslash. -/
def Admits {α : Type} (x : Except Refusal α) : Prop :=
  ∀ e, x = .error (.malformed e) → e.fault.isEscape = false

section

variable {α β : Type} {position : Nat} {fault : Fault}

@[simp]
theorem admits_ok (a : α) : Admits (.ok a) :=
  nofun

@[simp]
theorem admits_pure (a : α) : Admits (pure a) :=
  nofun

@[simp]
theorem admits_beyondLimit (e : LimitError) :
    Admits (.error (.beyondLimit e) : Except Refusal α) :=
  nofun

/-- A fault is admitted unless it is that of a backslash. -/
@[simp]
theorem admits_fail :
    Admits (fail position fault : Except Refusal α) ↔ fault.isEscape = false := by
  constructor
  · intro h
    exact h _ rfl
  · intro h e he
    cases he
    exact h

@[simp]
theorem fail_bind {f : β → Except Refusal α} :
    (fail position fault >>= f) = fail position fault :=
  rfl

@[simp]
theorem admits_ite {p : Prop} [Decidable p] {x y : Except Refusal α} :
    Admits (if p then x else y) ↔ (p → Admits x) ∧ (¬p → Admits y) := by
  by_cases h : p <;> simp [h]

/-- Two steps admit what they do if the first one does, and the second one from wherever it
    starts. -/
@[simp]
theorem admits_bind {x : Except Refusal β} {f : β → Except Refusal α} :
    Admits (x >>= f) ↔ Admits x ∧ ∀ b, x = .ok b → Admits (f b) := by
  cases x with
  | error e =>
      -- What is refused at first is refused in the same way as a whole.
      have hsame : Admits (.error e >>= f) ↔ Admits (.error e : Except Refusal β) :=
        ⟨fun h e' he => h e' (congrArg _ (Except.error.inj he)),
          fun h e' he => h e' (congrArg _ (Except.error.inj he))⟩
      rw [hsame]
      exact ⟨fun h => ⟨h, nofun⟩, And.left⟩
  | ok b =>
      rw [Except.ok_bind]
      refine ⟨fun h => ⟨admits_ok b, fun b' hb => ?_⟩, fun h => h.2 b rfl⟩
      cases hb
      exact h

@[simp]
theorem admits_map {x : Except Refusal β} {f : β → α} : Admits (f <$> x) ↔ Admits x := by
  rw [← bind_pure_comp, admits_bind]
  exact ⟨And.left, fun h => ⟨h, fun b _ => admits_pure (f b)⟩⟩

end

namespace State

variable (s : State)

@[simp]
theorem bar_admits : Admits s.bar := by
  -- Only a third branch of a condition is refused here.
  unfold bar
  split
  · split <;> simp [Fault.isEscape]
  · simp

@[simp]
theorem close_admits : Admits s.close := by
  cases hopen : s.openGroups with
  | nil => simp [close, hopen, Fault.isEscape]
  | cons g gs => simp [close_eq hopen]

@[simp]
theorem repeatLast_admits (start low : Nat) (high : Option Nat) :
    Admits (s.repeatLast start low high) := by
  unfold repeatLast
  split <;> simp [Fault.isEscape]

@[simp]
theorem checkBehind_admits (group : Nat) : Admits (s.checkBehind group) := by
  unfold checkBehind
  split <;> simp [Fault.isEscape]

/-- A unit where an item may start. -/
theorem item_admits {t : Token} (ht : t.isRefused = false) : Admits (s.item t) := by
  -- The tests that a single character goes through lead to operations that admit anything.
  cases t with
  | escaped c =>
      have hc : isRefusedEscape c = false := ht
      simp [item, hc]
  | plain c => simp [item]

/-- The end of a count in braces. -/
theorem closeBraces_admits (start : Nat) (low : List Char) (high : Option (List Char)) :
    Admits (s.closeBraces start low high) := by
  have hcount (ds : List Char) : Admits (count? ds) := by
    simp [count?]
  unfold closeBraces
  refine admits_bind.mpr ⟨hcount _, fun least _ => ?_⟩
  refine admits_bind.mpr ⟨hcount _, fun greatest _ => ?_⟩
  cases greatest <;> simp [Fault.isEscape]

/-- What was no count after all is read as characters, and the unit then as an item, which is
    where an escape could be refused. -/
theorem braces_admits (start : Nat) (low : List Char) (high : Option (List Char)) {t : Token}
    (ht : t.isRefused = false) : Admits (s.braces start low high t) := by
  have hliteral := (s.pushLiterals (bracesText low high)).item_admits ht
  cases t with
  | escaped c => exact hliteral
  | plain c => simp [braces, closeBraces_admits, hliteral]

/-- A unit where an item of a set may start. -/
theorem setNext_admits (start : Nat) (negated : Bool) (items : List SetItem) {t : Token}
    (ht : t.isRefused = false) : Admits (s.setNext start negated items t) := by
  cases t with
  | escaped c =>
      have hc : isRefusedEscape c = false := ht
      simp [setNext, hc]
  | plain c => simp [setNext]

theorem set_admits (start : Nat) (negated : Bool) (items : List SetItem) (stage : SetStage)
    {t : Token} (ht : t.isRefused = false) : Admits (s.set start negated items stage t) := by
  have hnext (items' : List SetItem) := s.setNext_admits start negated items' ht
  cases stage with
  | opened => simp [set, hnext]
  | items => exact hnext items
  | pending this place => simp [set, hnext]
  -- At the end of a range, a class or a character that is too small may be refused, which is a
  -- fault of the range.
  | ranging this place =>
      cases t with
      | escaped c =>
          have hc : isRefusedEscape c = false := ht
          simp [set, hc, Fault.isEscape]
      | plain c => simp [set, Fault.isEscape]

theorem addFlag_admits (start : Nat) (on : List Flag) (f : Flag) :
    Admits (s.addFlag start on f) := by
  simp [addFlag, Fault.isEscape]

theorem dropFlag_admits (start : Nat) (on off : List Flag) (f : Flag) :
    Admits (s.dropFlag start on off f) := by
  simp [dropFlag, Fault.isEscape]

/-- Letters that are no flags are refused for that, also behind a backslash. -/
theorem refuseFlag_admits (t : Token) {otherwise : Fault} (h : otherwise.isEscape = false) :
    Admits (s.refuseFlag t otherwise) := by
  cases t with
  | escaped c => exact admits_fail.mpr h
  | plain c =>
      refine admits_fail.mpr ?_
      split
      · rfl
      · exact h

/-- A unit where flags are read that is one, or is refused for not being one. -/
theorem flag_admits (t : Token) {otherwise : Fault} (h : otherwise.isEscape = false)
    {x : Flag → Except Refusal State} (hx : ∀ f, Admits (x f)) :
    Admits (match t, Flag.ofChar? t.char with
      | .plain _, some f => x f
      | _, _ => s.refuseFlag t otherwise) := by
  split
  · exact hx _
  · exact s.refuseFlag_admits _ h

/-- What may not stand behind a question mark is refused as the head of a group. -/
theorem question_admits (start : Nat) (t : Token) : Admits (s.question start t) := by
  cases t with
  | escaped c => simp [question, Fault.isEscape]
  | plain c =>
      cases hflag : Flag.ofChar? c <;> simp [question, hflag, addFlag_admits, Fault.isEscape]

/-- A number that is none is a fault of the name. -/
theorem testNumbered_admits (place : Nat) (name : List Char) :
    Admits (s.testNumbered place name) := by
  unfold testNumbered
  split <;> simp [Fault.isEscape]

/-- The faults of names are no faults of a backslash. -/
theorem closeName_admits (start : Nat) (use : NameUse) (place : Nat) (name : List Char) :
    Admits (s.closeName start use place name) := by
  cases use with
  -- A name is bad, taken or unknown, whatever characters it consists of.
  | define => cases hgroup : s.groupNamed? name <;> simp [closeName, hgroup, Fault.isEscape]
  | refer =>
      cases hgroup : s.groupNamed? name with
      | none => simp [closeName, hgroup, Fault.isEscape]
      | some group =>
          cases hwidth : s.closedWidth? group <;>
            simp [closeName, hgroup, hwidth, Fault.isEscape]
  | test =>
      cases hgroup : s.groupNamed? name <;>
        simp [closeName, hgroup, testNumbered_admits, Fault.isEscape]

/-- A unit in the head of a group. -/
theorem head_admits (start : Nat) (h : Head) {t : Token} (ht : t.isRefused = false) :
    Admits (s.head start h t) := by
  cases h with
  | opened => simp [head, item_admits _ ht]
  | question => exact s.question_admits start t
  | extension | behind => simp [head, Fault.isEscape]
  | comment => simp [head]
  | name use place read => simp [head, closeName_admits, Fault.isEscape]
  | flagsOn on =>
      have hflag := s.flag_admits t (show Fault.flagsOnOpen.isEscape = false from rfl)
        (s.addFlag_admits start on)
      unfold head
      refine admits_ite.mpr ⟨fun _ => by simp [Fault.isEscape], fun _ => ?_⟩
      exact admits_ite.mpr ⟨fun _ => by simp [Fault.isEscape], fun _ => hflag⟩
  | minus on => exact s.flag_admits t rfl (s.dropFlag_admits start on [])
  | flagsOff on off =>
      have hflag := s.flag_admits t (show Fault.flagsOffOpen.isEscape = false from rfl)
        (s.dropFlag_admits start on off)
      unfold head
      exact admits_ite.mpr ⟨fun _ => by simp [Fault.isEscape], fun _ => hflag⟩

theorem afterRepetition_admits {t : Token} (ht : t.isRefused = false) :
    Admits (s.afterRepetition t) := by
  simp [afterRepetition, s.item_admits ht]

end State

/-- One unit. -/
theorem act_admits (s : State) {t : Token} (ht : t.isRefused = false) : Admits (act s t) := by
  unfold act
  cases s.mode with
  | items => exact s.item_admits ht
  | repeated => exact s.afterRepetition_admits ht
  | lineComment => exact admits_ok _
  | braces start low high => exact s.braces_admits start low high ht
  | set start negated items stage => exact s.set_admits start negated items stage ht
  | head start h => exact s.head_admits start h ht

/-- Several units, one after the other. -/
theorem run_admits (s : State) {ts : List Token} (hts : ∀ t ∈ ts, t.isRefused = false) :
    Admits (run s ts) := by
  induction ts generalizing s with
  | nil => exact admits_ok s
  | cons t ts ih =>
      -- The induction is for any state, since each unit leaves another one.
      rcases List.forall_mem_cons.mp hts with ⟨ht, hrest⟩
      have hstep : Admits (step s t) := admits_map.mpr (act_admits s ht)
      unfold run
      rw [List.foldlM_cons]
      exact admits_bind.mpr ⟨hstep, fun s' _ => ih s' hrest⟩

/-- The end of a text. -/
theorem finish_admits (s : State) : Admits (finish s) := by
  cases hend : s.mode.mayEnd with
  | true =>
      rw [finish_eq_ended hend]
      split
      · simp [Fault.isEscape]
      · split <;> simp [Fault.isEscape]
  | false =>
      -- A set or the head of a group is open, and that is what is refused.
      unfold finish
      cases hmode : s.mode with
      | set start negated items stage => simp [Fault.isEscape]
      | head start h =>
          cases h with
          | name use place read => cases read <;> simp [endOfHead, Fault.isEscape]
          | _ => simp [endOfHead, Fault.isEscape]
      | _ =>
          rw [hmode] at hend
          cases hend

end Parser

/-- A text whose units are not refused for a backslash is not. -/
theorem parse_admits {cs : List Char} {ts : List Token} (hts : Token.ofChars? cs = some ts)
    (h : ∀ t ∈ ts, t.isRefused = false) : Parser.Admits (parse cs) := by
  have hwidths (r : Regex) : Parser.Admits (checkLookBehinds r) := by
    unfold checkLookBehinds
    -- A width that varies is malformed, one that is too large is beyond a limit.
    refine Parser.admits_ite.mpr ⟨?_, fun _ => by simp⟩
    rintro _ e he
    cases he
    rfl
  simp [parse, hts, Parser.run_admits _ h, Parser.finish_admits, hwidths]

end Regex

end NamePatterns
