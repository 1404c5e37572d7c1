import NamePatterns.Proofs.Regex.Operations

/-!
# Sets That Stay Open

A text in which a bracket is opened and never closed is no regular expression.

A bracket opens a set wherever an item may start, is a member of a set that is
open already, and spoils the name in the head of a group, since no name holds a
bracket. From there only a closing bracket leads out: the set stays open, and
the name can only be refused. Everywhere else a bracket is refused at once. The
one place where it does nothing is a comment, of either kind.

The state of being stuck is an invariant of everything but a closing bracket: it
holds from the bracket on, whatever the units behind it are, until the reading
is refused or the text ends. Being refused is as good as being stuck here, so
`Sticks` allows both, and the end of the text rules out what is left.

Why no name holds a bracket is a fact about characters. It is evaluated once,
for the one character, and everything about names follows from it.

## Main definitions

* `Mode.inComment`: Whether a comment is being read.
* `Mode.isStuck`: Whether a set is open, or a name that holds a bracket.
* `Sticks`: What does not lead out of such a mode.

## Theorems

* `act_bracket`: What a bracket does outside comments.
* `act_stuck`: What every unit but a closing bracket does from there.
* `run_stuck`: The same for a run.
* `parse_openSet`: A text with a bracket that is never closed.
-/

namespace NamePatterns

namespace Text

/-- The sign that opens sets is neither a letter nor a digit of any script. -/
theorem bracket_spec :
    isIdentifierStart '[' = false ∧ isIdentifierPart '[' = false ∧ digitValue? '[' = none ∧
      isNumberSpace '[' = false := by
  decide +kernel

theorem isIdentifier_of_bracket {cs : List Char} (h : '[' ∈ cs) : isIdentifier cs = false := by
  rcases bracket_spec with ⟨hstart, hpart, _, _⟩
  cases cs with
  | nil => rfl
  | cons c cs =>
      simp only [isIdentifier]
      rcases List.mem_cons.mp h with rfl | hmem
      · rw [hstart, Bool.false_and]
      · have hall : cs.all isIdentifierPart = false :=
          List.all_eq_false.mpr ⟨'[', hmem, by rw [hpart]; exact Bool.false_ne_true⟩
        rw [hall, Bool.and_false]

theorem separatedDigits?_of_bracket {cs : List Char} (h : '[' ∈ cs) :
    separatedDigits? cs = none := by
  rcases bracket_spec with ⟨_, _, hdigit, _⟩
  -- The cases are those of the function: nothing, one character, digits with a line between
  -- them, and two characters of which the first one is no line.
  fun_induction separatedDigits? cs with
  | case1 => cases h
  | case2 c =>
      obtain rfl : '[' = c := List.mem_singleton.mp h
      rw [hdigit]
      rfl
  | case3 c cs ih =>
      rcases List.mem_cons.mp h with rfl | hmem
      · rw [hdigit]
        rfl
      · rcases List.mem_cons.mp hmem with hline | hmem
        · exact absurd hline (by decide)
        · rw [ih hmem]
          cases digitValue? c <;> rfl
  | case4 c cs _ _ ih =>
      rcases List.mem_cons.mp h with rfl | hmem
      · rw [hdigit]
        rfl
      · rw [ih hmem]
        cases digitValue? c <;> rfl

theorem mem_dropWhile {p : Char → Bool} {c : Char} {cs : List Char} (hc : p c = false)
    (h : c ∈ cs) : c ∈ cs.dropWhile p := by
  rw [← List.takeWhile_append_dropWhile (p := p) (l := cs)] at h
  rcases List.mem_append.mp h with hmem | hmem
  · have hp := List.all_eq_true.mp List.all_takeWhile c hmem
    rw [hc] at hp
    cases hp
  · exact hmem

theorem integer?_of_bracket {cs : List Char} (h : '[' ∈ cs) : integer? cs = none := by
  rcases bracket_spec with ⟨_, _, _, hspace⟩
  -- Neither the space around a number nor its sign takes the bracket away.
  have htrimmed : '[' ∈ ((cs.dropWhile isNumberSpace).reverse.dropWhile isNumberSpace).reverse :=
    List.mem_reverse.mpr (mem_dropWhile hspace (List.mem_reverse.mpr (mem_dropWhile hspace h)))
  unfold integer?
  generalize ((cs.dropWhile isNumberSpace).reverse.dropWhile isNumberSpace).reverse = ds
    at htrimmed
  dsimp only
  split
  · rfl
  · rename_i hsign
    split at hsign
    · rw [separatedDigits?_of_bracket (List.mem_of_ne_of_mem (by decide) htrimmed)] at hsign
      cases hsign
    · rw [separatedDigits?_of_bracket (List.mem_of_ne_of_mem (by decide) htrimmed)] at hsign
      cases hsign
    · rw [separatedDigits?_of_bracket htrimmed] at hsign
      cases hsign

end Text

namespace Regex

namespace Parser

/-- Whether what is read is part of a comment. -/
def Mode.inComment : Mode → Bool
  | .lineComment | .head _ .comment => true
  | _ => false

/-- Whether a set is open, or the name of a group that holds a bracket. -/
def Mode.isStuck : Mode → Bool
  | .set .. => true
  | .head _ (.name _ _ read) => read.contains '['
  | _ => false

/-- What is refused or leads to where a set is open, or a spoilt name. -/
def Sticks (x : Except Refusal State) : Prop :=
  ∀ s, x = .ok s → s.mode.isStuck = true

namespace Sticks

variable {x y : Except Refusal State}

theorem ok {s : State} (h : s.mode.isStuck = true) : Sticks (.ok s) := by
  intro s' hs'
  cases hs'
  exact h

theorem fail (position : Nat) (fault : Fault) : Sticks (Parser.fail position fault) :=
  nofun

theorem ite {p : Prop} [Decidable p] (hx : p → Sticks x) (hy : ¬p → Sticks y) :
    Sticks (if p then x else y) := by
  by_cases h : p
  · rw [if_pos h]
    exact hx h
  · rw [if_neg h]
    exact hy h

end Sticks

namespace State

variable (s : State)

/-- A bracket opens a set wherever an item may start. -/
theorem item_bracket : Sticks (s.item (.plain '[')) := by
  -- The tests before that of the bracket are for other characters, and fail.
  unfold item
  cases s.level.verbose <;> exact .ok rfl

theorem setNext_sticks (start : Nat) (negated : Bool) (items : List SetItem) {t : Token}
    (ht : t ≠ .plain ']') : Sticks (s.setNext start negated items t) := by
  unfold setNext
  rw [decide_eq_false ht, Bool.false_and, if_neg Bool.false_ne_true]
  cases t with
  | escaped c => exact .ite (fun _ => .fail _ _) fun _ => .ok rfl
  | plain c => exact .ok rfl

/-- Only a closing bracket ends a set. -/
theorem set_sticks (start : Nat) (negated : Bool) (items : List SetItem) (stage : SetStage)
    {t : Token} (ht : t ≠ .plain ']') : Sticks (s.set start negated items stage t) := by
  cases stage with
  | opened => exact .ite (fun _ => .ok rfl) fun _ => s.setNext_sticks _ _ _ ht
  | items => exact s.setNext_sticks _ _ _ ht
  | pending this place => exact .ite (fun _ => .ok rfl) fun _ => s.setNext_sticks _ _ _ ht
  | ranging this place =>
      refine .ite (fun heq => absurd heq ht) fun _ => ?_
      cases t with
      | escaped c =>
          refine .ite (fun _ => .fail _ _) fun _ => ?_
          exact .ite (fun _ => .fail _ _) fun _ => .ok rfl
      | plain c => exact .ite (fun _ => .fail _ _) fun _ => .ok rfl

/-- No name of a group holds a bracket, and no number does. -/
theorem closeName_sticks (start : Nat) (use : NameUse) (place : Nat) {name : List Char}
    (h : '[' ∈ name) : Sticks (s.closeName start use place name) := by
  have hidentifier := Text.isIdentifier_of_bracket h
  intro s' hs'
  cases use with
  | define =>
      have hname := (closeName_define_ok.mp hs').1
      rw [hidentifier] at hname
      cases hname
  | refer =>
      have hname := (closeName_refer_ok.mp hs').1
      rw [hidentifier] at hname
      cases hname
  | test =>
      rcases (closeName_number_ok hidentifier).mp hs' with ⟨group, hnumber, _⟩
      have hinteger := (testNumbered_ok.mp hnumber).1
      rw [Text.integer?_of_bracket h] at hinteger
      cases hinteger

/-- A bracket in the head of a group is refused, opens a set inside the group, or
    spoils a name. -/
theorem head_bracket (start : Nat) {h : Head} (hcomment : h ≠ .comment) :
    Sticks (s.head start h (.plain '[')) := by
  cases h with
  | opened =>
      simp only [head]
      rw [if_neg (by decide)]
      exact item_bracket _
  | comment => exact absurd rfl hcomment
  | name use place read =>
      have hnot : Token.plain '[' ≠ .plain use.terminator := by
        cases use <;> decide
      -- A bracket ends no name, so it is read as part of it.
      refine .ite (fun heq => absurd heq hnot) fun _ => .ok ?_
      show (['['] ++ read).contains '[' = true
      rw [List.contains_iff_mem]
      exact List.mem_cons_self
  | question | extension | behind | flagsOn | minus | flagsOff => exact .fail _ _

end State

/-- Outside comments, a bracket is refused or opens what only a closing bracket
    leads out of. -/
theorem act_bracket {s : State} (h : s.mode.inComment = false) :
    Sticks (act s (.plain '[')) := by
  unfold act
  cases hmode : s.mode with
  | items => exact s.item_bracket
  | repeated =>
      refine .ite (fun heq => absurd heq (by decide)) fun _ => ?_
      exact .ite (fun heq => absurd heq (by decide)) fun _ => s.item_bracket
  | lineComment =>
      rw [hmode] at h
      cases h
  | braces start low high =>
      -- A bracket ends no count, so what was read of it stands for itself.
      have hliteral : s.braces start low high (.plain '[')
          = (s.pushLiterals (State.bracesText low high)).item (.plain '[') := rfl
      show Sticks (s.braces start low high (.plain '['))
      rw [hliteral]
      exact State.item_bracket _
  | set start negated items stage => exact s.set_sticks _ _ _ _ (by decide)
  | head start h' =>
      refine s.head_bracket start ?_
      rintro rfl
      rw [hmode] at h
      cases h

/-- Once stuck, only a closing bracket leads out. -/
theorem act_stuck {s : State} {t : Token} (h : s.mode.isStuck = true) (ht : t ≠ .plain ']') :
    Sticks (act s t) := by
  unfold act
  cases hmode : s.mode with
  | set start negated items stage => exact s.set_sticks _ _ _ _ ht
  | head start h' =>
      rw [hmode] at h
      cases h' with
      | name use place read =>
          -- Whether the name ends here or goes on, the bracket is in it.
          have hread : '[' ∈ read := List.contains_iff_mem.mp h
          refine .ite (fun _ => .ite (fun _ => .fail _ _) fun _ => ?_) fun _ => .ok ?_
          · exact s.closeName_sticks _ _ _ (List.mem_reverse.mpr hread)
          · exact List.contains_iff_mem.mpr (List.mem_append_right _ hread)
      | _ => cases h
  | _ =>
      rw [hmode] at h
      cases h

theorem run_stuck {s s' : State} {ts : List Token} (h : s.mode.isStuck = true)
    (hts : ∀ t ∈ ts, t ≠ .plain ']') (hrun : run s ts = .ok s') : s'.mode.isStuck = true := by
  induction ts generalizing s with
  | nil =>
      obtain rfl : s = s' := Except.ok.inj hrun
      exact h
  | cons t ts ih =>
      obtain ⟨s₁, hstep, hrest⟩ := Except.bind_ok.mp hrun
      obtain ⟨s₂, hact, rfl⟩ := step_ok.mp hstep
      have hstuck := act_stuck h (hts t List.mem_cons_self) s₂ hact
      exact ih (s := { s₂ with pos := s.pos + t.width }) hstuck
        (fun u hu => hts u (List.mem_cons_of_mem _ hu)) hrest

end Parser

/-- A text with a bracket outside comments that is never closed is no regular
    expression. -/
theorem parse_openSet {cs : List Char} {before behind : List Token}
    (hts : Token.ofChars? cs = some (before ++ .plain '[' :: behind))
    (hcomment : ∀ s, Parser.run {} before = .ok s → s.mode.inComment = false)
    (hbehind : ∀ t ∈ behind, t ≠ .plain ']') (r : Regex) : parse cs ≠ .ok r := by
  intro hparse
  obtain ⟨ts, s, hts', hrun, hfinish, _⟩ := parse_ok.mp hparse
  rw [hts] at hts'
  cases hts'
  rw [Parser.run_append] at hrun
  -- If the text could be read, there would be a state before the bracket, one behind it, and
  -- one at the end, which is stuck.
  obtain ⟨s₁, hrun₁, hrest⟩ := Except.bind_ok.mp hrun
  obtain ⟨s₂, hstep, hrun₂⟩ := Except.bind_ok.mp hrest
  obtain ⟨s₃, hact, rfl⟩ := Parser.step_ok.mp hstep
  have hstuck := Parser.act_bracket (hcomment s₁ hrun₁) s₃ hact
  have hend := Parser.run_stuck (s := { s₃ with pos := s₁.pos + 1 }) hstuck hbehind hrun₂
  -- A text may not end where a set or a name is being read.
  have hmay := (Parser.finish_ok.mp hfinish).1
  cases hmode : s.mode with
  | set | head =>
      rw [hmode] at hmay
      cases hmay
  | _ =>
      rw [hmode] at hend
      cases hend

end Regex

end NamePatterns
