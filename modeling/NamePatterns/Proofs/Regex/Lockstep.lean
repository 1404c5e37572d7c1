import NamePatterns.Proofs.Regex.Behind

/-!
# Reading in Lockstep

A unit does the same behind other alternatives as alone, unless it clashes.

Where the reading of a text alone goes on, the reading of the same text behind
earlier groups goes on as well, and the two stay comparable. There are two
exceptions, and both are ends of names. A group that is given the name of an
earlier group is refused. And a number that a condition asks for counts all
groups: inside an assertion on what precedes, it can come to a group that is
still open, which is refused as well. Elsewhere it is read, but asks for another
group than alone, which is an exception where that is seen.

Names are where the two readings can part, since only names refer to groups. The
name of a group is looked up among all groups, so a group that is named as an
earlier one is found twice. A reference by name comes to the same group on both
sides, because a name that is found alone belongs to no earlier group. A number,
however, is taken as it stands. It asks for a group that may be an earlier one,
and nothing in the text says so.

Whether a unit clashes can be decided from the state of the reading alone and
the earlier groups. So it can be computed for given texts without reading them
behind each other.

## Main definitions

* `Follows`: The second of two readings does what the first one does.
* `NumberClashes`, `NameClashes`, `Clashes`: The exceptions, all of them decidable.

## Theorems

* `Behind.item`, `Behind.braces`, `Behind.set`, `Behind.head`: What units do, by
  what they continue.
* `Behind.closedWidth?_add`, `Behind.groupNamed?_earlier`,
  `Behind.groupNamed?_new`: How groups are looked up.
* `Behind.checkBehind_own`, `Behind.checkBehind_number`: References that are
  within the limit as they are alone.
* `Behind.closeName`, `Behind.closeName_clash`: Names at their end.
* `Behind.step`: A unit that does not clash.
* `Behind.step_clash`: A unit that clashes.
-/

namespace NamePatterns

namespace Regex

namespace Parser

/-- Whatever the first of two readings makes of a unit, the second one makes the
    same of it behind earlier groups and rows. -/
def Follows (seen : Nat → Nat) (earlier : List GroupEntry) (rows : List (List Regex))
    (x y : Except Refusal State) : Prop :=
  ∀ a', x = .ok a' → ∃ b', y = .ok b' ∧ Behind seen earlier rows a' b'

namespace Follows

variable {seen : Nat → Nat} {earlier : List GroupEntry} {rows : List (List Regex)}
  {x x' y y' : Except Refusal State}

theorem ok {a b : State} (h : Behind seen earlier rows a b) :
    Follows seen earlier rows (.ok a) (.ok b) := by
  intro a' ha
  cases ha
  exact ⟨b, rfl, h⟩

theorem failed (e : Refusal) : Follows seen earlier rows (.error e) y := by
  intro a' ha
  cases ha

/-- A choice by what both readings know. -/
theorem ite {p : Prop} [Decidable p] (hthen : p → Follows seen earlier rows x y)
    (helse : ¬p → Follows seen earlier rows x' y') :
    Follows seen earlier rows (if p then x else x') (if p then y else y') := by
  by_cases h : p
  · rw [if_pos h, if_pos h]
    exact hthen h
  · rw [if_neg h, if_neg h]
    exact helse h

end Follows

/-- Whether a number that is asked for is refused behind earlier groups though it
    is not refused alone: it is asked for inside an assertion on what precedes,
    and counting the earlier groups it is the number of a group that is still
    open. -/
def NumberClashes (earlier : List GroupEntry) (s : State) (n : Nat) : Prop :=
  s.behindLimit ≠ none ∧ earlier.length < n ∧ s.closedWidth? (n - earlier.length) = none

/-- Whether a name that is at its end is read in another way behind earlier groups
    than alone: it is the name of an earlier group, or a number that clashes or
    that is seen to be another one than with the earlier groups. -/
def NameClashes (seen : Nat → Nat) (earlier : List GroupEntry) (s : State) :
    NameUse → List Char → Prop
  | .define, name => some name ∈ earlier.map (·.name)
  | .refer, _ => False
  | .test, name =>
    Text.isIdentifier name = false ∧ ∃ n : Nat, Text.integer? name = some (n : Int) ∧
      (NumberClashes earlier s n ∨ seen n ≠ seen (n + earlier.length))

/-- The name that is being read, reversed, and what it is for. -/
def Mode.name? : Mode → Option (NameUse × List Char)
  | .head _ (.name use _ read) => some (use, read)
  | _ => none

theorem Mode.name?_eq_some_iff {m : Mode} {use : NameUse} {read : List Char} :
    m.name? = some (use, read) ↔ ∃ start place, m = .head start (.name use place read) := by
  constructor
  · intro h
    unfold Mode.name? at h
    split at h
    · cases h
      exact ⟨_, _, rfl⟩
    · cases h
  · rintro ⟨start, place, rfl⟩
    rfl

/-- Whether a unit ends a name that is read in another way behind earlier groups
    than alone. -/
def Clashes (seen : Nat → Nat) (earlier : List GroupEntry) (s : State) (t : Token) : Prop :=
  ∃ start use place read, s.mode = .head start (.name use place read) ∧
    t = .plain use.terminator ∧ NameClashes seen earlier s use read.reverse

section

variable (seen : Nat → Nat) (earlier : List GroupEntry) (s : State)

instance decidableNumberClashes (n : Nat) : Decidable (NumberClashes earlier s n) :=
  inferInstanceAs (Decidable (_ ∧ _ ∧ _))

/-- At most one number is written, so there is at most one to try. -/
instance decidableNameClashes :
    ∀ (use : NameUse) (name : List Char), Decidable (NameClashes seen earlier s use name)
  | .define, name => inferInstanceAs (Decidable (some name ∈ earlier.map (·.name)))
  | .refer, _ => isFalse id
  | .test, name =>
    decidable_of_iff
      (Text.isIdentifier name = false ∧ ∃ i ∈ Text.integer? name, 0 ≤ i ∧
        (NumberClashes earlier s i.toNat ∨ seen i.toNat ≠ seen (i.toNat + earlier.length)))
      (and_congr_right fun _ =>
        ⟨fun ⟨i, hi, hle, hn⟩ => ⟨i.toNat, (Int.toNat_of_nonneg hle).symm ▸ hi, hn⟩,
          fun ⟨n, hi, hn⟩ => ⟨n, hi, Int.natCast_nonneg n, hn⟩⟩)

/-- Only in the head of a group a name can be at its end. -/
instance decidableClashes (t : Token) : Decidable (Clashes seen earlier s t) :=
  decidable_of_iff
    (∃ x ∈ s.mode.name?, t = .plain x.1.terminator ∧ NameClashes seen earlier s x.1 x.2.reverse)
    ⟨fun ⟨_, hx, h⟩ =>
      let ⟨start, place, hmode⟩ := Mode.name?_eq_some_iff.mp hx
      ⟨start, _, place, _, hmode, h⟩,
      fun ⟨start, use, place, read, hmode, h⟩ =>
      ⟨(use, read), Mode.name?_eq_some_iff.mpr ⟨start, place, hmode⟩, h⟩⟩

end

namespace Behind

variable {seen : Nat → Nat} {earlier : List GroupEntry} {rows : List (List Regex)} {a b : State}

-- What follows are the functions of the automaton one by one, each with its tests in its own
-- order. All tests are on the unit and on what the two states share.
theorem item (h : Behind seen earlier rows a b) (t : Token) :
    Follows seen earlier rows (a.item t) (b.item t) := by
  cases t with
  | escaped c => exact .ite (fun _ => .failed _) fun _ => .ok (h.push rfl)
  | plain c =>
      unfold State.item
      rw [h.verbose]
      -- The tests are those of `State.item`, in their order.
      refine .ite (fun _ _ => h.bar) fun _ => ?_
      refine .ite (fun _ _ => h.close) fun _ => ?_
      refine .ite (fun _ => .ok (h.within .items nofun)) fun _ => ?_
      refine .ite (fun hcomment => .ok (h.within .lineComment fun _ => ?_)) fun _ => ?_
      · exact (Bool.and_eq_true_iff.mp hcomment).1
      refine .ite (fun _ => .ok (h.within (.set _ _ _ _ .opened) nofun)) fun _ => ?_
      refine .ite (fun _ => .ok (h.within (.head _ _ .opened) nofun)) fun _ => ?_
      refine .ite (fun _ _ => h.repeatLast) fun _ => ?_
      refine .ite (fun _ _ => h.repeatLast) fun _ => ?_
      refine .ite (fun _ _ => h.repeatLast) fun _ => ?_
      refine .ite (fun _ => .ok (h.within (.braces _ _ _ _) nofun)) fun _ => ?_
      refine .ite (fun _ => .ok (h.push rfl)) fun _ => ?_
      refine .ite (fun _ => .ok (h.push rfl)) fun _ => ?_
      exact .ite (fun _ => .ok (h.push rfl)) fun _ => .ok (h.push rfl)

theorem closeBraces (h : Behind seen earlier rows a b) (p q : Nat) (low : List Char)
    (high : Option (List Char)) :
    Follows seen earlier rows (a.closeBraces p low high) (b.closeBraces q low high) := by
  unfold State.closeBraces
  cases hleast : State.count? low.reverse with
  | error e => exact .failed e
  | ok least =>
      cases hgreatest : State.count? (high.getD low).reverse with
      | error e => exact .failed e
      | ok greatest =>
          cases greatest with
          | none => exact fun _ => h.repeatLast
          | some n =>
              by_cases hlt : n < least.getD 0
              · simp only [bind, Except.bind, if_pos hlt]
                exact .failed _
              · simp only [bind, Except.bind, if_neg hlt]
                exact fun _ => h.repeatLast

theorem braces (h : Behind seen earlier rows a b) (p q : Nat) (low : List Char)
    (high : Option (List Char)) (t : Token) :
    Follows seen earlier rows (a.braces p low high t) (b.braces q low high t) := by
  -- What is no count after all stands for itself, and the unit starts an item.
  have hliteral := (h.pushLiterals (State.bracesText low high)).item t
  cases t with
  | escaped c => exact hliteral
  | plain c =>
      unfold State.braces
      refine .ite (fun _ => .ok (h.within ?_ ?_)) fun _ => ?_
      · cases high <;> exact .braces _ _ _ _
      · cases high <;> nofun
      refine .ite (fun _ => .ok (h.within (.braces _ _ _ _) nofun)) fun _ => ?_
      exact .ite (fun _ => h.closeBraces p q low high) fun _ => hliteral

/-- A set holds no groups. -/
theorem outline_setTree (k : Nat) (negated : Bool) (items : List SetItem) :
    (State.setTree negated items).outline seen k = State.setTree negated items := by
  unfold State.setTree
  split <;> rfl

/-- A unit where an item of a set may start. -/
theorem setNext (h : Behind seen earlier rows a b) (p q : Nat) (negated : Bool)
    (items : List SetItem) (t : Token) :
    Follows seen earlier rows (a.setNext p negated items t) (b.setNext q negated items t) := by
  unfold State.setNext
  refine .ite (fun _ => .ok (h.push ?_)) fun _ => ?_
  · rw [outline_setTree, outline_setTree]
  cases t with
  | escaped c =>
      exact .ite (fun _ => .failed _) fun _ => .ok (h.within (.set _ _ _ _ (.pending _ _ _)) nofun)
  | plain c => exact .ok (h.within (.set _ _ _ _ (.pending _ _ _)) nofun)

theorem set (h : Behind seen earlier rows a b) (p q : Nat) (negated : Bool) (items : List SetItem)
    {stage stage' : SetStage} (hstage : stage.Alike stage') (t : Token) :
    Follows seen earlier rows (a.set p negated items stage t) (b.set q negated items stage' t) := by
  unfold State.set
  cases hstage with
  | opened =>
      exact .ite (fun _ => .ok (h.within (.set _ _ _ _ .items) nofun)) fun _ =>
        h.setNext p q negated items t
  | items => exact h.setNext p q negated items t
  | pending this =>
      exact .ite (fun _ => .ok (h.within (.set _ _ _ _ (.ranging _ _ _)) nofun)) fun _ =>
        h.setNext p q negated _ t
  | ranging this =>
      refine .ite (fun _ => .ok (h.push ?_)) fun _ => ?_
      · rw [outline_setTree, outline_setTree]
      cases t with
      | escaped c =>
          refine .ite (fun _ => .failed _) fun _ => ?_
          exact .ite (fun _ => .failed _) fun _ => .ok (h.within (.set _ _ _ _ .items) nofun)
      | plain c =>
          exact .ite (fun _ => .failed _) fun _ => .ok (h.within (.set _ _ _ _ .items) nofun)

theorem addFlag (h : Behind seen earlier rows a b) (p q : Nat) (on : List Flag) (f : Flag) :
    Follows seen earlier rows (a.addFlag p on f) (b.addFlag q on f) := by
  unfold State.addFlag
  refine .ite (fun _ => .failed _) fun _ => ?_
  exact .ite (fun _ => .failed _) fun _ => .ok (h.within (.head _ _ (.flagsOn _)) nofun)

theorem dropFlag (h : Behind seen earlier rows a b) (p q : Nat) (on off : List Flag) (f : Flag) :
    Follows seen earlier rows (a.dropFlag p on off f) (b.dropFlag q on off f) := by
  unfold State.dropFlag
  exact .ite (fun _ => .failed _) fun _ => .ok (h.within (.head _ _ (.flagsOff _ _)) nofun)

/-- A letter of a flag, where nothing else may stand. -/
theorem flag (_ : Behind seen earlier rows a b) (t : Token) {otherwise : Fault}
    {x y : Flag → Except Refusal State} (hflag : ∀ f, Follows seen earlier rows (x f) (y f)) :
    Follows seen earlier rows
      (match t, Flag.ofChar? t.char with
        | .plain _, some f => x f
        | _, _ => a.refuseFlag t otherwise)
      (match t, Flag.ofChar? t.char with
        | .plain _, some f => y f
        | _, _ => b.refuseFlag t otherwise) := by
  cases t with
  | escaped c => exact .failed _
  | plain c =>
      cases Flag.ofChar? (Token.plain c).char with
      | none => exact .failed _
      | some f => exact hflag f

theorem enterFlagged (h : Behind seen earlier rows a b) (p q : Nat) (on off : List Flag) :
    Behind seen earlier rows (a.enterFlagged p on off) (b.enterFlagged q on off) := by
  unfold State.enterFlagged
  rw [h.verbose]
  exact h.enter (.flagged _) p q _

/-- A unit behind the question mark that opens the head of a group. -/
theorem question (h : Behind seen earlier rows a b) (p q : Nat) (t : Token) :
    Follows seen earlier rows (a.question p t) (b.question q t) := by
  cases t with
  | escaped c => exact .failed _
  | plain c =>
      unfold State.question
      simp only [h.verbose]
      refine .ite (fun _ => .ok (h.within (.head _ _ .extension) nofun)) fun _ => ?_
      refine .ite (fun _ => .ok (h.enterFlagged p q [] [])) fun _ => ?_
      refine .ite (fun _ => .ok (h.within (.head _ _ .comment) nofun)) fun _ => ?_
      refine .ite (fun _ => .ok (h.enter (.lookAhead _) p q _)) fun _ => ?_
      refine .ite (fun _ => .ok (h.enter (.lookAhead _) p q _)) fun _ => ?_
      refine .ite (fun _ => .ok (h.within (.head _ _ .behind) nofun)) fun _ => ?_
      refine .ite (fun _ => .ok (h.within (.head _ _ (.name _ _ _ _)) nofun)) fun _ => ?_
      refine .ite (fun _ => .ok (h.enter .atomic p q _)) fun _ => ?_
      refine .ite (fun _ => .ok (h.within (.head _ _ (.minus _)) nofun)) fun _ => ?_
      cases Flag.ofChar? c with
      | some f => exact h.addFlag p q [] f
      | none => exact .failed _

/-- The width of a group, numbered behind the earlier ones. -/
theorem closedWidth?_add (h : Behind seen earlier rows a b) (n : Nat) :
    b.closedWidth? (n + 1 + earlier.length) = a.closedWidth? (n + 1) := by
  have hsucc : n + 1 + earlier.length = (earlier.length + n) + 1 := by omega
  have hindex : earlier.length + n - earlier.length = n := by omega
  rw [hsucc]
  simp only [State.closedWidth?, h.groups]
  rw [List.getElem?_append_right (Nat.le_add_right _ _), hindex]

/-- Earlier groups are closed. -/
theorem closedWidth?_earlier (h : Behind seen earlier rows a b) {n : Nat} (hpos : 0 < n)
    (hle : n ≤ earlier.length) : b.closedWidth? n ≠ none := by
  obtain ⟨m, rfl⟩ : ∃ m, n = m + 1 := ⟨n - 1, by omega⟩
  have hlt : m < earlier.length := hle
  simp only [State.closedWidth?, h.groups]
  rw [List.getElem?_append_left hlt, List.getElem?_eq_getElem hlt]
  exact h.closed _ (List.getElem_mem hlt)

/-- A name that an earlier group has is found there. -/
theorem groupNamed?_earlier (h : Behind seen earlier rows a b) {name : List Char}
    (hname : some name ∈ earlier.map (·.name)) : b.groupNamed? name ≠ none := by
  rcases List.mem_map.mp hname with ⟨e, he, heq⟩
  -- A search that finds nothing tells every group from the name, the earlier one too.
  intro hnone
  have hfind := Option.map_eq_none_iff.mp hnone
  rw [List.findIdx?_eq_none_iff] at hfind
  have hmem : e ∈ b.groups := by
    rw [h.groups]
    exact List.mem_append_left _ he
  have hfalse := hfind e hmem
  rw [heq, beq_self_eq_true] at hfalse
  cases hfalse

/-- A name that no earlier group has is found where it is found alone. -/
theorem groupNamed?_new (h : Behind seen earlier rows a b) {name : List Char}
    (hname : some name ∉ earlier.map (·.name)) :
    b.groupNamed? name = (a.groupNamed? name).map (· + earlier.length) := by
  have hearlier : earlier.findIdx? (·.name == some name) = none := by
    rw [List.findIdx?_eq_none_iff]
    intro e he
    exact beq_eq_false_iff_ne.mpr fun heq => hname (List.mem_map.mpr ⟨e, he, heq⟩)
  -- The earlier groups are searched first and found not to have the name.
  simp only [State.groupNamed?, h.groups, List.findIdx?_append, hearlier]
  cases a.groups.findIdx? (·.name == some name) with
  | none => rfl
  | some i =>
      refine congrArg some ?_
      show i + earlier.length + 1 = i + 1 + earlier.length
      omega

/-- A name that is found alone is the name of no earlier group. -/
theorem groupNamed?_some (h : Behind seen earlier rows a b) {name : List Char} {group : Nat}
    (hgroup : a.groupNamed? name = some group) :
    (∃ n, group = n + 1) ∧ b.groupNamed? name = some (group + earlier.length) := by
  rcases Option.map_eq_some_iff.mp hgroup with ⟨i, hi, rfl⟩
  rcases List.findIdx?_eq_some_iff_getElem.mp hi with ⟨hlt, heq, _⟩
  refine ⟨⟨i, rfl⟩, ?_⟩
  rw [h.groupNamed?_new, hgroup]
  · rfl
  -- Otherwise an own group had the name of an earlier one.
  · intro hmem
    rcases List.mem_map.mp hmem with ⟨e, he, hname⟩
    refine h.distinct e he (by rw [hname]; nofun) ?_
    rw [hname]
    exact List.mem_map.mpr ⟨_, List.getElem_mem hlt, beq_iff_eq.mp heq⟩

/-- A reference to a group of its own is within the limit just as alone. -/
theorem checkBehind_own (h : Behind seen earlier rows a b) {n : Nat}
    (ha : a.checkBehind (n + 1) = .ok ()) : b.checkBehind (n + 1 + earlier.length) = .ok () := by
  rw [State.checkBehind_ok] at ha ⊢
  intro limit hlimit
  rw [h.limit] at hlimit
  rcases Option.map_eq_some_iff.mp hlimit with ⟨own, hown, rfl⟩
  rcases ha own hown with ⟨hclosed, hlt⟩
  rw [h.closedWidth?_add]
  exact ⟨hclosed, Nat.add_lt_add_right hlt _⟩

/-- A number that is asked for and does not clash is within the limit just as
    alone. -/
theorem checkBehind_number (h : Behind seen earlier rows a b) {n : Nat}
    (ha : a.checkBehind n = .ok ()) (hclash : ¬NumberClashes earlier a n) :
    b.checkBehind n = .ok () := by
  rw [State.checkBehind_ok] at ha ⊢
  intro limit hlimit
  rw [h.limit] at hlimit
  rcases Option.map_eq_some_iff.mp hlimit with ⟨own, hown, rfl⟩
  rcases ha own hown with ⟨hclosed, hlt⟩
  have hpos : 0 < n := by
    rcases Nat.eq_zero_or_pos n with rfl | hpos
    · exact absurd rfl hclosed
    · exact hpos
  refine ⟨?_, by omega⟩
  -- The number is that of an earlier group, or of an own one behind the earlier ones.
  by_cases hle : n ≤ earlier.length
  · exact h.closedWidth?_earlier hpos hle
  · have hclosed' : a.closedWidth? (n - earlier.length) ≠ none := fun hopen =>
      hclash ⟨by rw [hown]; nofun, Nat.not_le.mp hle, hopen⟩
    obtain ⟨m, hm⟩ : ∃ m, n - earlier.length = m + 1 := ⟨n - earlier.length - 1, by omega⟩
    have hsum : n = m + 1 + earlier.length := by omega
    rw [hm] at hclosed'
    rw [hsum, h.closedWidth?_add]
    exact hclosed'

/-- A number that clashes is refused. -/
theorem checkBehind_clash (h : Behind seen earlier rows a b) {n : Nat}
    (hclash : NumberClashes earlier a n) : b.checkBehind n = fail (b.pos + 1) .openGroup := by
  rcases hclash with ⟨hlimit, hlt, hopen⟩
  obtain ⟨m, hm⟩ : ∃ m, n - earlier.length = m + 1 := ⟨n - earlier.length - 1, by omega⟩
  have hsum : n = m + 1 + earlier.length := by omega
  have hclosed : b.closedWidth? n = none := by
    rw [hm] at hopen
    rw [hsum, h.closedWidth?_add]
    exact hopen
  unfold State.checkBehind
  rw [h.limit, hclosed]
  cases hsome : a.behindLimit with
  | none => exact absurd hsome hlimit
  | some limit => rfl

/-- A number that a condition asks for is noted, to be compared with the number of groups at the
    end of the text. Behind earlier groups there are more of them, so it is never refused there
    for that. -/
theorem noted (h : Behind seen earlier rows a b) (n p q : Nat) :
    Behind seen earlier rows (a.noted n p) (b.noted n q) := by
  refine ⟨⟨h.sound.comment, h.sound.assertion, h.sound.unfinished⟩, h.mode, h.stack, h.groups,
    h.limit, ?_, h.closed, h.distinct⟩
  intro x hx
  rcases State.mem_noted hx with hmem | heq
  · rcases h.tested x hmem with hle | ⟨y, hy, hxy⟩
    · exact Or.inl hle
    · exact Or.inr ⟨y, State.mem_noted_of_mem hy n p, hxy⟩
  · rcases a.exists_mem_noted n p with ⟨y, hy, hyn⟩
    exact Or.inr ⟨y, hy, hyn.trans heq.symm⟩

/-- A name at its end, unless it clashes. -/
theorem closeName (h : Behind seen earlier rows a b) {use : NameUse} {name : List Char}
    (hclash : ¬NameClashes seen earlier a use name) (p q p' q' : Nat) :
    Follows seen earlier rows (a.closeName p use p' name) (b.closeName q use q' name) := by
  intro a' ha
  cases use with
  | define =>
      rcases State.closeName_define_ok.mp ha with ⟨hidentifier, hnone, rfl⟩
      refine ⟨_, State.closeName_define_ok.mpr ⟨hidentifier, ?_, rfl⟩, ?_⟩
      · rw [h.groupNamed?_new hclash, hnone]
        rfl
      -- The name is new on both sides, and belongs to the group from now on.
      · refine h.enterCapture (fun _ e he heq => hclash ?_) p q
        exact List.mem_map.mpr ⟨e, he, heq⟩
  | refer =>
      rcases State.closeName_refer_ok.mp ha with
        ⟨hidentifier, group, w, hgroup, hwidth, hcheck, rfl⟩
      rcases h.groupNamed?_some hgroup with ⟨⟨n, rfl⟩, hgroup'⟩
      refine ⟨_, State.closeName_refer_ok.mpr ⟨hidentifier, _, w, hgroup', ?_,
        h.checkBehind_own hcheck, rfl⟩, h.push rfl⟩
      rw [h.closedWidth?_add, hwidth]
  | test =>
      cases hidentifier : Text.isIdentifier name with
      -- A name is looked up and comes to the same group; a number is taken as it stands.
      | true =>
          rcases (State.closeName_test_ok hidentifier).mp ha with ⟨group, hgroup, hcheck, rfl⟩
          rcases h.groupNamed?_some hgroup with ⟨⟨n, rfl⟩, hgroup'⟩
          refine ⟨_, (State.closeName_test_ok hidentifier).mpr ⟨_, hgroup',
            h.checkBehind_own hcheck, rfl⟩, ?_⟩
          rw [h.verbose]
          exact h.enter (.conditional rfl rfl) p q _
      | false =>
          rcases (State.closeName_number_ok hidentifier).mp ha with
            ⟨n, hnumber, hcheck, rfl⟩
          rcases State.testNumbered_ok.mp hnumber with ⟨hn, hpos, hbelow, _⟩
          have hnoted := h.noted n p' q'
          refine ⟨_, (State.closeName_number_ok hidentifier).mpr ⟨n,
            State.testNumbered_ok.mpr ⟨hn, hpos, hbelow, rfl⟩, ?_, rfl⟩, ?_⟩
          · refine hnoted.checkBehind_number hcheck fun hnumber => hclash ?_
            exact ⟨hidentifier, n, hn, Or.inl hnumber⟩
          -- The number is the same on both sides, but not the group: what is seen of it has to
          -- agree.
          · have hgroup : seen n = seen (n + earlier.length) :=
              Decidable.byContradiction fun hne => hclash ⟨hidentifier, n, hn, Or.inr hne⟩
            rw [h.verbose]
            exact hnoted.enter (.conditional hgroup rfl) p q _

/-- A name that clashes, whatever conditions ask for, is refused. -/
theorem closeName_clash (h : Behind unseen earlier rows a b) {use : NameUse} {name : List Char}
    (hclash : NameClashes unseen earlier a use name) {p q p' q' : Nat} {a' : State}
    (ha : a.closeName p use p' name = .ok a') :
    ∃ e, b.closeName q use q' name = .error (.malformed e) := by
  cases use with
  | define =>
      rcases State.closeName_define_ok.mp ha with ⟨hidentifier, _, _⟩
      cases hgroup : b.groupNamed? name with
      | none => exact absurd hgroup (h.groupNamed?_earlier hclash)
      | some former =>
          refine ⟨⟨.redefinition name b.nextGroup former, some q'⟩, ?_⟩
          simp only [State.closeName, hidentifier, hgroup]
          rfl
  -- A reference by name never clashes.
  | refer => exact absurd hclash id
  | test =>
      rcases hclash with ⟨hidentifier, n, hn, hclash⟩
      have hnumber := hclash.resolve_right fun hseen => hseen rfl
      rcases (State.closeName_number_ok hidentifier).mp ha with ⟨m, htest, hcheck, _⟩
      rcases State.testNumbered_ok.mp htest with ⟨hm, hpos, hbelow, _⟩
      obtain rfl : n = m := by
        rw [hn] at hm
        exact Int.ofNat_inj.mp (Option.some.inj hm)
      have hnumber' : b.testNumbered q' name = .ok (n, b.noted n q') :=
        State.testNumbered_ok.mpr ⟨hn, hpos, hbelow, rfl⟩
      have hcheck' : (b.noted n q').checkBehind n = fail (b.pos + 1) .openGroup :=
        (h.noted n p' q').checkBehind_clash hnumber
      -- The number is read and noted first, and only then found to be that of an open group.
      refine ⟨⟨.openGroup, some (b.pos + 1)⟩, ?_⟩
      simp only [State.closeName, hidentifier, Bool.false_eq_true, if_false, hnumber', bind,
        Except.bind, hcheck']
      rfl

/-- A unit inside the head of a group, unless it ends a name that clashes. -/
theorem head (h : Behind seen earlier rows a b) {p q : Nat} {head head' : Head}
    (hhead : head.Alike head') (hmode : a.mode = .head p head) {t : Token}
    (hclash : ¬Clashes seen earlier a t) :
    Follows seen earlier rows (a.head p head t) (b.head q head' t) := by
  cases hhead with
  | opened =>
      refine .ite (fun _ => .ok (h.within (.head _ _ .question) nofun)) fun _ => ?_
      -- No question mark: this is a numbered group without a name, and the unit belongs to its
      -- content.
      exact (h.enterCapture (fun hne => absurd rfl hne) p q).item t
  | question => exact h.question p q t
  | extension =>
      refine .ite (fun _ => .ok (h.within (.head _ _ (.name _ _ _ _)) nofun)) fun _ => ?_
      refine .ite (fun _ => .ok (h.within (.head _ _ (.name _ _ _ _)) nofun)) fun _ => ?_
      exact .failed _
  | behind =>
      refine .ite (fun _ => .ok (h.enterLookBehind p q false)) fun _ => ?_
      refine .ite (fun _ => .ok (h.enterLookBehind p q true)) fun _ => ?_
      exact .failed _
  | comment => exact .ite (fun _ => .ok (h.within .items nofun)) fun _ => .ok h
  | name use p' q' read =>
      refine .ite (fun hend => ?_) fun _ => .ok (h.within (.head _ _ (.name _ _ _ _)) nofun)
      refine .ite (fun _ => .failed _) fun _ => ?_
      exact h.closeName (fun hname => hclash ⟨p, use, p', read, hmode, hend, hname⟩) p q p' q'
  | flagsOn on =>
      refine .ite (fun _ => .failed _) fun _ => ?_
      refine .ite (fun _ => ?_) fun _ => ?_
      · refine .ite (fun _ => .failed _) fun _ => ?_
        exact .ite (fun _ => .ok (h.enterFlagged p q on [])) fun _ =>
          .ok (h.within (.head _ _ (.minus on)) nofun)
      · exact h.flag t fun f => h.addFlag p q on f
  | minus on => exact h.flag t fun f => h.dropFlag p q on [] f
  | flagsOff on off =>
      refine .ite (fun _ => ?_) fun _ => ?_
      · refine .ite (fun _ => .failed _) fun _ => ?_
        exact .ite (fun _ => .failed _) fun _ => .ok (h.enterFlagged p q on off)
      · exact h.flag t fun f => h.dropFlag p q on off f

theorem afterRepetition (h : Behind seen earlier rows a b) (t : Token) :
    Follows seen earlier rows (a.afterRepetition t) (b.afterRepetition t) := by
  refine .ite (fun _ => .ok (h.setGreed _)) fun _ => ?_
  exact .ite (fun _ => .ok (h.setGreed _)) fun _ => h.item t

/-- A unit that does not clash does the same behind earlier groups and rows. -/
theorem step (h : Behind seen earlier rows a b) {t : Token} (hclash : ¬Clashes seen earlier a t) :
    Follows seen earlier rows (step a t) (step b t) := by
  have hact : Follows seen earlier rows (act a t) (act b t) := by
    -- Both states continue the same thing, so one case split on the comparison of the modes
    -- serves both.
    have hmode := h.mode
    unfold act
    generalize hm : a.mode = m at hmode
    generalize b.mode = m' at hmode
    cases hmode with
    | items => exact h.item t
    | repeated => exact h.afterRepetition t
    | lineComment =>
        refine .ok ?_
        by_cases ht : t = .plain '\n'
        · rw [if_pos ht, if_pos ht]
          exact h.within .items nofun
        · rw [if_neg ht, if_neg ht]
          exact h
    | braces p q low high => exact h.braces p q low high t
    | set p q negated items hstage => exact h.set p q negated items hstage t
    | head p q hhead => exact h.head hhead hm hclash
  intro a' ha
  rcases step_ok.mp ha with ⟨a₁, ha₁, rfl⟩
  rcases hact a₁ ha₁ with ⟨b₁, hb₁, hbehind⟩
  exact ⟨_, step_ok.mpr ⟨b₁, hb₁, rfl⟩, hbehind.moveOn _ _⟩

/-- A unit that clashes, whatever conditions ask for, is refused behind earlier
    groups. -/
theorem step_clash (h : Behind unseen earlier rows a b) {t : Token}
    (hclash : Clashes unseen earlier a t)
    {a' : State} (ha : Parser.step a t = .ok a') :
    ∃ e, Parser.step b t = .error (.malformed e) := by
  rcases hclash with ⟨p, use, p', read, hmode, rfl, hname⟩
  rcases step_ok.mp ha with ⟨a₁, ha₁, _⟩
  have hmodes := h.mode
  rw [hmode] at hmodes
  obtain ⟨q, q', hmode'⟩ : ∃ q q', b.mode = .head q (.name use q' read) := by
    generalize b.mode = m at hmodes
    cases hmodes with
    | head _ q hhead =>
        cases hhead with
        | name _ _ q' => exact ⟨q, q', rfl⟩
  -- Both states are at the end of the same name.
  have hact (s : State) {start place : Nat} (hs : s.mode = .head start (.name use place read)) :
      act s (.plain use.terminator)
        = if read.isEmpty then fail s.pos .missingName
          else s.closeName start use place read.reverse := by
    simp only [act, hs, State.head, if_true]
  rw [hact a hmode] at ha₁
  by_cases hempty : read.isEmpty = true
  · rw [if_pos hempty] at ha₁
    cases ha₁
  · rw [if_neg hempty] at ha₁
    rcases h.closeName_clash hname ha₁ with ⟨e, he⟩
    refine ⟨e, ?_⟩
    rw [Parser.step, hact b hmode', if_neg hempty, he]
    rfl

end Behind

end Parser

end Regex

end NamePatterns
