import NamePatterns.Proofs.Results
import NamePatterns.Regex.Parser

/-!
# What the Operations of the Reader Do

The operations of the automaton, each described once and for all, so that what
is proved about readings does not have to look at their cases.

The end of a group does the same for every kind of group: the level around it
gets one more item. What depends on the kind is the item, what becomes known
about numbered groups, and whether an assertion on what precedes is left.

The descriptions come in two kinds. Operations that always succeed are described
by an equation, in which the cases of the operation have become functions of
their own that later proofs need not open. Operations that can fail are
described by what has to hold for them to succeed and the state they lead to
then. In both kinds, the state is given as a whole, so that nothing is lost that
an invariant might want to know.

When the automaton changes, the descriptions here are what has to change with
it. What is proved about readings refers to them.

## Main definitions

* `Regex.isRepeatable`: Whether a tree can be repeated.
* `Regex.withGreed`: A repetition that chooses in another way.
* `Kind.enclose`, `Kind.groupsAfter`, `Kind.limitAfter`: What the end of a group
  depends on.
* `Mode.mayEnd`, `State.ended`: Where a text may end, and the state it ends in.
* `Width.mayPrecede`: Whether an assertion on what precedes may have a width.

## Theorems

* `State.repeatLast_ok`: When the last item is repeated.
* `State.setGreed_eq`: How a repetition is changed.
* `State.close_eq`: What the end of a group does.
* `State.pushLiterals_spec`: Characters that stand for themselves.
* `State.mem_noted`: Which numbers are noted.
* `State.checkBehind_ok`: Which groups may be asked for.
* `State.closeName_define_ok`, `State.closeName_refer_ok`,
  `State.closeName_test_ok`, `State.closeName_number_ok`: What names may be.
* `step_ok`, `act_bar`: One unit, and a bar.
* `finish_ok`: When a text may end.
* `parse_ok`: When a text is a regular expression.
-/

namespace NamePatterns

/-- Whether an assertion on what precedes may have a width. -/
def Width.mayPrecede (w : Width) : Bool :=
  w.isFixed && decide (w.low < Nat.pow 2 31)

namespace Regex

/-- Whether a tree can be repeated. -/
def isRepeatable : Regex → Bool
  | lineStart | lineEnd | repetition .. => false
  | _ => true

/-- A repetition that chooses among its counts in another way. -/
def withGreed (greed : Greed) : Regex → Regex
  | repetition low high _ r => repetition low high greed r
  | r => r

namespace Parser

/-- The item that a closed group is. -/
def Kind.enclose : Kind → Regex → Regex
  | .capture group, r => .capture group r
  | .flagged change, r => .flagged change r
  | .atomic, r => .atomic r
  | .lookAhead negated, r => .lookAhead negated r
  | .lookBehind negated _, r => .lookBehind negated r
  | .conditional group none, r => .conditional group r .empty
  | .conditional group (some yes), r => .conditional group yes r

/-- The numbered groups once a group of some width is closed. -/
def Kind.groupsAfter : Kind → Width → List GroupEntry → List GroupEntry
  | .capture group, w, groups => groups.modify (group - 1) ({ · with width := some w })
  | _, _, groups => groups

/-- What limits references once a group is closed. -/
def Kind.limitAfter : Kind → Option Nat → Option Nat
  | .lookBehind _ true, _ => none
  | _, limit => limit

namespace State

/-- The last item is repeated just if there is one that can be repeated. -/
theorem repeatLast_ok {s s' : State} {start low : Nat} {high : Option Nat} :
    s.repeatLast start low high = .ok s' ↔
      ∃ r rs, s.level.items = r :: rs ∧ r.isRepeatable = true ∧
        s' = { s with
          mode := .repeated
          level := { s.level with
            items := .repetition low high .greedy (seq r.dissolved) :: rs } } := by
  unfold repeatLast
  -- Nothing can be repeated at the start of a row.
  cases hitems : s.level.items with
  | nil =>
      constructor
      · intro h
        cases h
      · rintro ⟨r, rs, heq, _⟩
        cases heq
  | cons r rs =>
      constructor
      · intro h
        -- What may not be repeated is refused here, so the trees are told apart.
        cases r with
        | lineStart | lineEnd | repetition => cases h
        | _ => exact ⟨_, _, rfl, rfl, (Except.ok.inj h).symm⟩
      · rintro ⟨r', rs', heq, hr, rfl⟩
        rcases List.cons.inj heq with ⟨rfl, rfl⟩
        cases r with
        | lineStart | lineEnd | repetition => cases hr
        | _ => rfl

/-- The end of an alternative of the outermost level. -/
theorem bar_outermost {s : State} (h : s.openGroups = []) :
    s.bar = .ok { s with
      mode := .items
      level := { s.level with done := s.level.row :: s.level.done, items := [] } } := by
  unfold bar
  rw [h]

/-- Only the last item is changed, and only if it is a repetition. -/
theorem setGreed_eq (s : State) (greed : Greed) :
    s.setGreed greed = { s with
      mode := .items
      level := { s.level with items := s.level.items.modifyHead (withGreed greed) } } := by
  obtain ⟨pos, mode, ⟨done, items, verbose⟩, openGroups, groups, limit, tested⟩ := s
  cases items with
  | nil => rfl
  | cons r rs => cases r <;> rfl

/-- The end of a group adds what the group is to the level around it. -/
theorem close_eq {s : State} {g : OpenGroup} {gs : List OpenGroup} (h : s.openGroups = g :: gs) :
    s.close = .ok { s with
      mode := .items
      level := { g.outer with items := g.kind.enclose s.level.tree :: g.outer.items }
      openGroups := gs
      groups := g.kind.groupsAfter s.level.tree.width s.groups
      behindLimit := g.kind.limitAfter s.behindLimit } := by
  obtain ⟨pos, mode, level, openGroups, groups, limit, tested⟩ := s
  obtain ⟨kind, start, outer⟩ := g
  obtain rfl : openGroups = ⟨kind, start, outer⟩ :: gs := h
  -- Two kinds of group close in two ways each; the others compute as they stand.
  cases kind with
  | conditional group yes => cases yes <;> rfl
  | lookBehind negated outermost => cases outermost <;> rfl
  | _ => rfl

/-- The state once the number of a group that a condition asks for is noted. -/
def noted (s : State) (group place : Nat) : State :=
  { s with
    tested := if s.tested.any (·.1 == group) then s.tested else s.tested ++ [(group, place)] }

/-- What has been noted before is still noted. -/
theorem mem_noted_of_mem {s : State} {x : Nat × Nat} (h : x ∈ s.tested) (group place : Nat) :
    x ∈ (s.noted group place).tested := by
  unfold noted
  by_cases hany : s.tested.any (·.1 == group) = true
  · rw [if_pos hany]
    exact h
  · rw [if_neg hany]
    exact List.mem_append_left _ h

/-- The number is noted, here or before. -/
theorem exists_mem_noted (s : State) (group place : Nat) :
    ∃ x ∈ (s.noted group place).tested, x.1 = group := by
  unfold noted
  by_cases hany : s.tested.any (·.1 == group) = true
  · rw [if_pos hany]
    rcases List.any_eq_true.mp hany with ⟨x, hx, heq⟩
    exact ⟨x, hx, beq_iff_eq.mp heq⟩
  · rw [if_neg hany]
    exact ⟨(group, place), List.mem_append_right _ (List.mem_singleton.mpr rfl), rfl⟩

/-- Nothing else is noted. -/
theorem mem_noted {s : State} {x : Nat × Nat} {group place : Nat}
    (h : x ∈ (s.noted group place).tested) : x ∈ s.tested ∨ x.1 = group := by
  unfold noted at h
  by_cases hany : s.tested.any (·.1 == group) = true
  · rw [if_pos hany] at h
    exact Or.inl h
  · rw [if_neg hany] at h
    rcases List.mem_append.mp h with hmem | hmem
    · exact Or.inl hmem
    · rw [List.mem_singleton.mp hmem]
      exact Or.inr rfl

/-- Inside an assertion on what precedes, a group that is asked for has to be
    closed and below the limit. -/
theorem checkBehind_ok {s : State} {group : Nat} :
    s.checkBehind group = .ok () ↔
      ∀ limit, s.behindLimit = some limit → s.closedWidth? group ≠ none ∧ group < limit := by
  unfold checkBehind
  cases s.behindLimit with
  | none =>
      refine ⟨fun _ limit heq => ?_, fun _ => rfl⟩
      cases heq
  | some limit =>
      -- The group is looked up before it is compared with the limit.
      simp only [Option.some.injEq, forall_eq']
      cases hwidth : s.closedWidth? group with
      | none =>
          constructor
          · intro h
            cases h
          · intro h
            exact absurd rfl h.1
      | some w =>
          simp only [Option.isNone_some, Bool.false_eq_true, if_false]
          by_cases hlimited : limit ≤ group
          · rw [if_pos hlimited]
            constructor
            · intro h
              cases h
            · intro h
              omega
          · rw [if_neg hlimited]
            exact ⟨fun _ => ⟨Option.some_ne_none w, Nat.not_le.mp hlimited⟩, fun _ => rfl⟩

/-- A number that a condition asks for is noted. -/
theorem testNumbered_ok {s s' : State} {place group : Nat} {name : List Char} :
    s.testNumbered place name = .ok (group, s') ↔
      Text.integer? name = some (group : Int) ∧ 0 < group ∧ group < groupLimit ∧
        s' = s.noted group place := by
  unfold testNumbered noted
  cases hn : Text.integer? name with
  | none =>
      constructor
      · intro h
        cases h
      · intro h
        cases h.1
  | some n =>
      -- The sign is tested first, then zero, then the limit.
      constructor
      · intro h
        by_cases hnegative : n < 0
        · simp only [if_pos hnegative] at h
          cases h
        · by_cases hzero : n = 0
          · simp only [if_neg hnegative, if_pos hzero] at h
            cases h
          · by_cases hlimit : (groupLimit : Int) ≤ n
            · simp only [if_neg hnegative, if_neg hzero, if_pos hlimit] at h
              cases h
            · simp only [if_neg hnegative, if_neg hzero, if_neg hlimit] at h
              rcases Prod.mk.inj (Except.ok.inj h) with ⟨rfl, rfl⟩
              refine ⟨?_, ?_, ?_, ?_⟩
              · rw [Int.toNat_of_nonneg (Int.not_lt.mp hnegative)]
              · omega
              · omega
              · by_cases hany : s.tested.any (·.1 == n.toNat) = true
                · rw [if_pos hany, if_pos hany]
                · rw [if_neg hany, if_neg hany]
      · rintro ⟨hsome, hpos, hlimit, rfl⟩
        obtain rfl : n = (group : Int) := Option.some.inj hsome
        -- A number that is within the limits passes all three tests.
        have hnegative : ¬(group : Int) < 0 := by omega
        have hzero : ¬(group : Int) = 0 := by omega
        have hbelow : ¬(groupLimit : Int) ≤ (group : Int) := by omega
        simp only [if_neg hnegative, if_neg hzero, if_neg hbelow, Int.toNat_natCast]
        by_cases hany : s.tested.any (·.1 == group) = true
        · rw [if_pos hany, if_pos hany]
        · rw [if_neg hany, if_neg hany]

/-- A group gets a name that is an identifier and the name of no group so far. -/
theorem closeName_define_ok {s s' : State} {start place : Nat} {name : List Char} :
    s.closeName start .define place name = .ok s' ↔
      Text.isIdentifier name = true ∧ s.groupNamed? name = none ∧
        s' = s.enterCapture start (some name) := by
  cases hname : Text.isIdentifier name with
  | false =>
      simp only [closeName, hname]
      constructor
      · intro h
        cases h
      · intro h
        cases h.1
  | true =>
      simp only [closeName, hname]
      cases hgroup : s.groupNamed? name with
      | none =>
          constructor
          · intro h
            exact ⟨trivial, rfl, (Except.ok.inj h).symm⟩
          · rintro ⟨_, _, rfl⟩
            rfl
      | some former =>
          constructor
          · intro h
            cases h
          · intro h
            cases h.2.1

/-- What refers to a group names one that is closed and within the limit. -/
theorem closeName_refer_ok {s s' : State} {start place : Nat} {name : List Char} :
    s.closeName start .refer place name = .ok s' ↔
      Text.isIdentifier name = true ∧ ∃ group w, s.groupNamed? name = some group ∧
        s.closedWidth? group = some w ∧ s.checkBehind group = .ok () ∧
          s' = s.push (.backref group w) := by
  cases hname : Text.isIdentifier name with
  | false =>
      simp only [closeName, hname]
      constructor
      · intro h
        cases h
      · intro h
        cases h.1
  | true =>
      simp only [closeName, hname, true_and, Bool.not_true, Bool.false_eq_true, if_false]
      cases hgroup : s.groupNamed? name with
      | none =>
          constructor
          · intro h
            cases h
          · rintro ⟨group, w, heq, _⟩
            cases heq
      | some group =>
          cases hwidth : s.closedWidth? group with
          | none =>
              simp only [hwidth]
              constructor
              · intro h
                cases h
              · rintro ⟨group', w, heq, hw, _⟩
                cases heq
                rw [hwidth] at hw
                cases hw
          | some w =>
              simp only [hwidth]
              constructor
              · intro h
                rcases Except.bind_ok.mp h with ⟨_, hcheck, heq⟩
                exact ⟨group, w, rfl, hwidth, hcheck, (Except.ok.inj heq).symm⟩
              · rintro ⟨group', w', heq, hw, hcheck, rfl⟩
                cases heq
                rw [hwidth] at hw
                cases hw
                exact Except.bind_ok.mpr ⟨(), hcheck, rfl⟩

/-- What asks for a group by its name names one within the limit. -/
theorem closeName_test_ok {s s' : State} {start place : Nat} {name : List Char}
    (hname : Text.isIdentifier name = true) :
    s.closeName start .test place name = .ok s' ↔
      ∃ group, s.groupNamed? name = some group ∧ s.checkBehind group = .ok () ∧
        s' = s.enter start (.conditional group none) s.level.verbose := by
  simp only [closeName, hname, if_true]
  cases hgroup : s.groupNamed? name with
  | none =>
      constructor
      · intro h
        cases h
      · rintro ⟨group, heq, _⟩
        cases heq
  | some group =>
      simp only [pure_bind]
      constructor
      · intro h
        rcases Except.bind_ok.mp h with ⟨_, hcheck, heq⟩
        exact ⟨group, rfl, hcheck, (Except.ok.inj heq).symm⟩
      · rintro ⟨group', heq, hcheck, rfl⟩
        cases heq
        exact Except.bind_ok.mpr ⟨(), hcheck, rfl⟩

/-- What asks for a group by its number notes the number, which is within the
    limit. -/
theorem closeName_number_ok {s s' : State} {start place : Nat} {name : List Char}
    (hname : Text.isIdentifier name = false) :
    s.closeName start .test place name = .ok s' ↔
      ∃ group, s.testNumbered place name = .ok (group, s.noted group place) ∧
        (s.noted group place).checkBehind group = .ok () ∧
        s' = (s.noted group place).enter start (.conditional group none) s.level.verbose := by
  simp only [closeName, hname, Bool.false_eq_true, if_false]
  constructor
  · intro h
    rcases Except.bind_ok.mp h with ⟨⟨group, _⟩, hnumber, h⟩
    -- Noting the number never fails; the check is made in the state that has noted it.
    obtain rfl := (testNumbered_ok.mp hnumber).2.2.2
    rcases Except.bind_ok.mp h with ⟨_, hcheck, heq⟩
    exact ⟨group, hnumber, hcheck, (Except.ok.inj heq).symm⟩
  · rintro ⟨group, hnumber, hcheck, rfl⟩
    exact Except.bind_ok.mpr ⟨_, hnumber, Except.bind_ok.mpr ⟨(), hcheck, rfl⟩⟩

end State

/-- A unit does what it does, and the reading moves on. -/
theorem step_ok {s s' : State} {t : Token} :
    step s t = .ok s' ↔ ∃ s₁, act s t = .ok s₁ ∧ s' = { s₁ with pos := s.pos + t.width } := by
  unfold step
  cases hact : act s t with
  | error e =>
      constructor
      · intro h
        cases h
      · rintro ⟨s₁, heq, _⟩
        cases heq
  | ok s₁ =>
      constructor
      · intro h
        exact ⟨s₁, rfl, (Except.ok.inj h).symm⟩
      · rintro ⟨s₂, heq, rfl⟩
        cases heq
        rfl

/-- Whether a text may end where a mode is. -/
def Mode.mayEnd : Mode → Bool
  | .items | .repeated | .lineComment | .braces .. => true
  | .set .. | .head .. => false

/-- The state in which what was read of a count in braces stands for itself. -/
def State.ended (s : State) : State :=
  match s.mode with
  | .braces _ low high => s.pushLiterals (State.bracesText low high)
  | _ => s

/-- Characters that stand for themselves change the row that is read and nothing
    else. -/
theorem State.pushLiterals_spec (s : State) (cs : List Char) :
    (s.pushLiterals cs).openGroups = s.openGroups ∧ (s.pushLiterals cs).groups = s.groups ∧
      (s.pushLiterals cs).tested = s.tested ∧
        (s.pushLiterals cs).behindLimit = s.behindLimit := by
  induction cs generalizing s with
  | nil => exact ⟨rfl, rfl, rfl, rfl⟩
  | cons c cs ih => exact ih (s.push (.literal c))

theorem State.ended_spec (s : State) :
    s.ended.openGroups = s.openGroups ∧ s.ended.groups = s.groups ∧
      s.ended.tested = s.tested ∧ s.ended.behindLimit = s.behindLimit := by
  unfold State.ended
  split
  · exact s.pushLiterals_spec _
  · exact ⟨rfl, rfl, rfl, rfl⟩

/-- Where a text may end and no comment is read, a bar ends an alternative. -/
theorem act_bar {s : State} (h : s.mode.mayEnd = true) (hcomment : s.mode ≠ .lineComment) :
    act s (.plain '|') = s.ended.bar := by
  unfold act State.ended
  cases hmode : s.mode with
  | lineComment => exact absurd hmode hcomment
  | set | head =>
      rw [hmode] at h
      cases h
  | items | repeated => rfl
  | braces start low high => rfl

/-- The end of a text that may end, once braces are settled. -/
theorem finish_eq_ended {s : State} (h : s.mode.mayEnd = true) :
    finish s =
      match s.openGroups with
      | g :: _ => fail g.start .unterminatedGroup
      | [] =>
        match s.tested.find? (s.groups.length < ·.1) with
        | some (group, place) => fail place (.invalidReference group)
        | none => .ok s.ended.level.tree := by
  -- Settling braces changes neither what is open nor what is asked for, so the tests at the
  -- end come out the same before and after it.
  rcases s.ended_spec with ⟨hopen, hgroups, htested, _⟩
  rw [← hopen, ← hgroups, ← htested]
  unfold finish State.ended
  cases hmode : s.mode with
  | set | head =>
      rw [hmode] at h
      cases h
  | _ => rfl

/-- A text may end where nothing is open and all groups that are asked for are
    there; its tree is that of the outermost level. -/
theorem finish_ok {s : State} {r : Regex} :
    finish s = .ok r ↔
      s.mode.mayEnd = true ∧ s.openGroups = [] ∧ (∀ x ∈ s.tested, x.1 ≤ s.groups.length) ∧
        r = s.ended.level.tree := by
  -- The search is for a group that is asked for and missing.
  have hfind : s.tested.find? (s.groups.length < ·.1) = none ↔
      ∀ x ∈ s.tested, x.1 ≤ s.groups.length := by
    rw [List.find?_eq_none]
    simp only [decide_eq_true_eq, Nat.not_lt]
  cases hend : s.mode.mayEnd with
  | false =>
      constructor
      · intro h
        unfold finish at h
        cases hmode : s.mode with
        | set | head =>
            rw [hmode] at h
            cases h
        | _ =>
            rw [hmode] at hend
            cases hend
      · intro h
        cases h.1
  | true =>
      rw [finish_eq_ended hend, ← hfind]
      cases s.openGroups with
      | cons g gs =>
          constructor
          · intro h
            cases h
          · intro h
            cases h.2.1
      | nil =>
          cases s.tested.find? (s.groups.length < ·.1) with
          | some x =>
              constructor
              · intro h
                cases h
              · intro h
                cases h.2.2.1
          | none =>
              constructor
              · intro h
                exact ⟨rfl, rfl, rfl, (Except.ok.inj h).symm⟩
              · rintro ⟨_, _, _, rfl⟩
                rfl

end Parser

theorem checkLookBehinds_ok {r : Regex} :
    checkLookBehinds r = .ok () ↔ ∀ w ∈ r.lookBehindWidths, w.mayPrecede = true := by
  unfold checkLookBehinds Width.mayPrecede
  -- A width that varies is refused before one that is too large.
  by_cases hvariable : r.lookBehindWidths.any (!·.isFixed) = true
  · simp only [if_pos hvariable]
    constructor
    · intro h
      cases h
    · intro h
      rcases List.any_eq_true.mp hvariable with ⟨w, hw, hfixed⟩
      rw [Bool.not_eq_true'] at hfixed
      have hmay := h w hw
      rw [hfixed] at hmay
      cases hmay
  · by_cases hlarge : (r.lookBehindWidths.any fun w => Nat.pow 2 31 ≤ w.low) = true
    · simp only [if_neg hvariable, if_pos hlarge]
      constructor
      · intro h
        cases h
      · intro h
        rcases List.any_eq_true.mp hlarge with ⟨w, hw, hle⟩
        have hmay := (Bool.and_eq_true_iff.mp (h w hw)).2
        exact absurd (of_decide_eq_true hmay) (Nat.not_lt.mpr (of_decide_eq_true hle))
    · simp only [if_neg hvariable, if_neg hlarge, true_iff]
      intro w hw
      refine Bool.and_eq_true_iff.mpr ⟨?_, decide_eq_true ?_⟩
      · cases hfixed : w.isFixed with
        | true => rfl
        | false =>
            refine absurd (List.any_eq_true.mpr ⟨w, hw, ?_⟩) hvariable
            rw [hfixed]
            rfl
      · refine Nat.not_le.mp fun hle => hlarge ?_
        exact List.any_eq_true.mpr ⟨w, hw, decide_eq_true hle⟩

/-- A text is a regular expression if its units are read to their end and the
    assertions on what precedes have widths that they may have. -/
theorem parse_ok {cs : List Char} {r : Regex} :
    parse cs = .ok r ↔ ∃ ts s, Token.ofChars? cs = some ts ∧ Parser.run {} ts = .ok s ∧
      Parser.finish s = .ok r ∧ ∀ w ∈ r.lookBehindWidths, w.mayPrecede = true := by
  unfold parse
  cases hts : Token.ofChars? cs with
  | none =>
      constructor
      · intro h
        cases h
      · rintro ⟨ts, s, heq, _⟩
        cases heq
  | some ts =>
      constructor
      · intro h
        rcases Except.bind_ok.mp h with ⟨s, hs, h⟩
        rcases Except.bind_ok.mp h with ⟨r', hr, h⟩
        rcases Except.bind_ok.mp h with ⟨_, hcheck, h⟩
        cases h
        exact ⟨ts, s, rfl, hs, hr, checkLookBehinds_ok.mp hcheck⟩
      · rintro ⟨ts', s, heq, hs, hr, hwidths⟩
        cases heq
        have hcheck := checkLookBehinds_ok.mpr hwidths
        exact Except.bind_ok.mpr ⟨s, hs, Except.bind_ok.mpr ⟨r, hr,
          Except.bind_ok.mpr ⟨(), hcheck, rfl⟩⟩⟩

end Regex

end NamePatterns
