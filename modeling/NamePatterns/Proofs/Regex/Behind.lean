import NamePatterns.Proofs.Regex.Outline

/-!
# Reading Behind Other Alternatives

How the reading of a text behind other alternatives compares with the reading
of the text alone.

Two states are compared: one of a reading alone, and one of the reading of the
same text behind alternatives that have left rows and closed groups. They
agree on what is being read, up to places. On every level of nesting they hold
the same trees up to outlines, and on the outermost level the second one also
holds the rows that were there before. The second one has the same groups
behind the earlier ones, and every number that comes from counting groups is
greater by their number.

The comparison also keeps what is needed at the end of the text: that groups
are closed and assertions left once nothing is open any more, and that no
comment goes on on the outermost level.

Everything that the automaton does to a state is covered by one lemma each,
which says that the same done to both states leaves them comparable. Where it
can fail, the lemma starts from the state that the reading alone comes to and
gives the other one. What is refused alone is of no interest here: each of the
texts that are joined is a regular expression by itself.

Places are left out of the comparison. They differ by where the text starts, and
only refusals show them.

## Main definitions

* `Mode.Alike`, `Kind.Alike`, `Level.Alike`, `Stack`: Parts of states compared.
* `Sound`: What holds of a state whatever it is compared with.
* `Behind`: States compared.

## Theorems

* `Behind.within`, `Behind.push`, `Behind.bar`, `Behind.close`,
  `Behind.repeatLast`, `Behind.setGreed`, `Behind.enter`,
  `Behind.enterCapture`, `Behind.enterLookBehind`: What is done to both states
  leaves them comparable.
-/

namespace NamePatterns

namespace Regex

namespace Parser

/-- How far two character sets have been read, up to places. -/
inductive SetStage.Alike : SetStage → SetStage → Prop where
  | opened : Alike .opened .opened
  | items : Alike .items .items
  | pending (this : Token) (p q : Nat) : Alike (.pending this p) (.pending this q)
  | ranging (this : Token) (p q : Nat) : Alike (.ranging this p) (.ranging this q)

/-- How far the heads of two groups have been read, up to places. -/
inductive Head.Alike : Head → Head → Prop where
  | opened : Alike .opened .opened
  | question : Alike .question .question
  | extension : Alike .extension .extension
  | behind : Alike .behind .behind
  | comment : Alike .comment .comment
  | name (use : NameUse) (p q : Nat) (read : List Char) :
    Alike (.name use p read) (.name use q read)
  | flagsOn (on : List Flag) : Alike (.flagsOn on) (.flagsOn on)
  | minus (on : List Flag) : Alike (.minus on) (.minus on)
  | flagsOff (on off : List Flag) : Alike (.flagsOff on off) (.flagsOff on off)

/-- What the next token continues, up to places. -/
inductive Mode.Alike : Mode → Mode → Prop where
  | items : Alike .items .items
  | repeated : Alike .repeated .repeated
  | lineComment : Alike .lineComment .lineComment
  | braces (p q : Nat) (low : List Char) (high : Option (List Char)) :
    Alike (.braces p low high) (.braces q low high)
  | set (p q : Nat) (negated : Bool) (items : List SetItem) {stage stage' : SetStage}
    (h : stage.Alike stage') : Alike (.set p negated items stage) (.set q negated items stage')
  | head (p q : Nat) {h h' : Head} (hhead : h.Alike h') : Alike (.head p h) (.head q h')

/-- What two groups are for, where the second one is numbered behind `k`
    others. -/
inductive Kind.Alike (seen : Nat → Nat) (k : Nat) : Kind → Kind → Prop where
  | capture (n : Nat) : Alike seen k (.capture (n + 1)) (.capture (n + 1 + k))
  | flagged (change : FlagChange) : Alike seen k (.flagged change) (.flagged change)
  | atomic : Alike seen k .atomic .atomic
  | lookAhead (negated : Bool) : Alike seen k (.lookAhead negated) (.lookAhead negated)
  | lookBehind (negated outermost : Bool) :
    Alike seen k (.lookBehind negated outermost) (.lookBehind negated outermost)
  | conditional {group group' : Nat} {yes yes' : Option Regex}
    (hgroup : seen group' = seen (group + k))
    (hyes : yes'.map (outline seen 0) = yes.map (outline seen k)) :
    Alike seen k (.conditional group yes) (.conditional group' yes')

/-- Two levels with the same trees, where the second one has further rows that
    were there before, given as outlines. -/
structure Level.Alike (seen : Nat → Nat) (k : Nat) (rows : List (List Regex)) (a b : Level) :
    Prop where
  items : outlines seen 0 b.items = outlines seen k a.items
  done : b.done.map (outlines seen 0) = a.done.map (outlines seen k) ++ rows
  verbose : b.verbose = a.verbose

namespace Level.Alike

variable {seen : Nat → Nat} {k : Nat} {rows : List (List Regex)} {a b : Level}

/-- The rows that are being read. -/
theorem row (h : Level.Alike seen k rows a b) :
    outlines seen 0 b.row = outlines seen k a.row := by
  -- Items and rows are kept reversed while they are read, and put in order at the end of a
  -- level.
  have hreverse : outlines seen 0 b.items.reverse = outlines seen k a.items.reverse := by
    simp only [outlines, List.map_reverse]
    exact congrArg List.reverse h.items
  unfold Level.row
  rw [outlines_flatMap_dissolved, outlines_flatMap_dissolved, hreverse]

/-- All rows of levels that are at their end. -/
theorem allRows (h : Level.Alike seen k rows a b) :
    (b.row :: b.done).reverse.map (outlines seen 0)
      = rows.reverse ++ (a.row :: a.done).reverse.map (outlines seen k) := by
  rw [List.map_reverse, List.map_cons, h.row, h.done, List.map_reverse, List.map_cons]
  simp only [List.reverse_cons, List.reverse_append, List.append_assoc]

/-- The trees of levels that are at their end. -/
theorem tree (h : Level.Alike seen k [] a b) : b.tree.outline seen 0 = a.tree.outline seen k := by
  unfold Level.tree
  rw [outline_alternatives, outline_alternatives, h.allRows]
  rfl

theorem push (h : Level.Alike seen k rows a b) {r r' : Regex}
    (hr : r'.outline seen 0 = r.outline seen k) :
    Level.Alike seen k rows { a with items := r :: a.items } { b with items := r' :: b.items } := by
  refine ⟨?_, h.done, h.verbose⟩
  show r'.outline seen 0 :: outlines seen 0 b.items = r.outline seen k :: outlines seen k a.items
  rw [hr, h.items]

theorem bar (h : Level.Alike seen k rows a b) :
    Level.Alike seen k rows { a with done := a.row :: a.done, items := [] }
      { b with done := b.row :: b.done, items := [] } := by
  refine ⟨rfl, ?_, h.verbose⟩
  rw [List.map_cons, List.map_cons, h.row, h.done]
  rfl

end Level.Alike

section

variable {seen : Nat → Nat} {k : Nat}

/-- The last items of levels that have one. -/
theorem Level.Alike.items_cons {rows : List (List Regex)} {a b : Level}
    (h : Level.Alike seen k rows a b) {r : Regex} {rs : List Regex} (ha : a.items = r :: rs) :
    ∃ r' rs', b.items = r' :: rs' ∧ r'.outline seen 0 = r.outline seen k ∧
      outlines seen 0 rs' = outlines seen k rs := by
  have hitems := h.items
  rw [ha] at hitems
  rcases List.map_eq_cons_iff.mp hitems with ⟨r', rs', hb, hr, hrs⟩
  exact ⟨r', rs', hb, hr, hrs⟩

/-- Another last item. -/
theorem Level.Alike.replace {rows : List (List Regex)} {a b : Level}
    (h : Level.Alike seen k rows a b) {r x r' x' : Regex} {rs rs' : List Regex}
    (ha : a.items = r :: rs) (hb : b.items = r' :: rs')
    (hx : x'.outline seen 0 = x.outline seen k) :
    Level.Alike seen k rows { a with items := x :: rs } { b with items := x' :: rs' } := by
  rcases h.items_cons ha with ⟨y, ys, hy, _, hrs⟩
  rw [hb] at hy
  cases hy
  refine ⟨?_, h.done, h.verbose⟩
  show x'.outline seen 0 :: outlines seen 0 rs' = x.outline seen k :: outlines seen k rs
  rw [hx, hrs]

end

/-- Two levels and the groups around them, where the second ones are read behind
    rows on the outermost level, which skips no space. -/
inductive Stack (seen : Nat → Nat) (k : Nat) (rows : List (List Regex)) :
    Level → List OpenGroup → Level → List OpenGroup → Prop where
  /-- The outermost level. -/
  | outermost {a b : Level} (h : Level.Alike seen k rows a b) (hverbose : a.verbose = false) :
    Stack seen k rows a [] b []
  /-- A level inside a group. -/
  | inside {a b : Level} {g g' : OpenGroup} {gs gs' : List OpenGroup}
    (h : Level.Alike seen k [] a b) (hkind : Kind.Alike seen k g.kind g'.kind)
    (hrest : Stack seen k rows g.outer gs g'.outer gs') :
    Stack seen k rows a (g :: gs) b (g' :: gs')

namespace Stack

variable {seen : Nat → Nat} {k : Nat} {rows : List (List Regex)} {a b a' b' : Level}
  {gs gs' : List OpenGroup}

theorem level (h : Stack seen k rows a gs b gs') : ∃ before, Level.Alike seen k before a b := by
  cases h with
  | outermost h _ => exact ⟨rows, h⟩
  | inside h _ _ => exact ⟨[], h⟩

/-- A change of the innermost levels. -/
theorem change (h : Stack seen k rows a gs b gs')
    (hlevel : ∀ before, Level.Alike seen k before a b → Level.Alike seen k before a' b')
    (hverbose : a'.verbose = a.verbose) : Stack seen k rows a' gs b' gs' := by
  cases h with
  | outermost h hout => exact .outermost (hlevel _ h) (hverbose.trans hout)
  | inside h hkind hrest => exact .inside (hlevel _ h) hkind hrest

end Stack

/-- What holds of the states of a reading: a comment that ends with its line is
    read where space is skipped, an outermost assertion on what precedes is open
    while one limits references, and groups without a width are open. -/
structure Sound (s : State) : Prop where
  comment : s.mode = .lineComment → s.level.verbose = true
  assertion : s.behindLimit ≠ none →
    ∃ g ∈ s.openGroups, ∃ negated, g.kind = .lookBehind negated true
  unfinished : ∀ i e, s.groups[i]? = some e → e.width = none →
    ∃ g ∈ s.openGroups, g.kind = .capture (i + 1)

section

variable {seen : Nat → Nat} {k : Nat}

-- The end of a group encloses what was read in it, takes it off the list of open groups, and
-- may leave an assertion on what precedes. One lemma for each of these.
theorem Kind.Alike.enclose {kind kind' : Kind} (h : kind.Alike seen k kind')
    {r r' : Regex} (hr : r'.outline seen 0 = r.outline seen k) :
    (kind'.enclose r').outline seen 0 = (kind.enclose r).outline seen k := by
  cases h with
  | capture n =>
      show Regex.capture (n + 1 + k + 0) (r'.outline seen 0)
        = .capture (n + 1 + k) (r.outline seen k)
      rw [hr, Nat.add_zero]
  -- Whether a condition has met its bar is the same on both sides.
  | @conditional group group' yes yes' hgroup hyes =>
      cases yes with
      | none =>
          obtain rfl : yes' = none := Option.map_eq_none_iff.mp hyes
          simp only [Kind.enclose, outline, hr, hgroup, Nat.add_zero]
      | some y =>
          rcases Option.map_eq_some_iff.mp hyes with ⟨y', rfl, hy⟩
          simp only [Kind.enclose, outline, hr, hy, hgroup, Nat.add_zero]
  | _ => simp only [Kind.enclose, outline, hr]

theorem Kind.Alike.groupsAfter {earlier : List GroupEntry} {kind kind' : Kind}
    (h : kind.Alike seen earlier.length kind') (w : Width) (groups : List GroupEntry) :
    kind'.groupsAfter w (earlier ++ groups) = earlier ++ kind.groupsAfter w groups := by
  cases h with
  | capture n =>
      have hnumber : n + 1 + earlier.length - 1 = earlier.length + n := by omega
      simp only [Kind.groupsAfter, hnumber, Nat.add_sub_cancel]
      -- The changed entry is one of the own groups, which stand behind the earlier ones.
      refine List.ext_getElem? fun i => ?_
      rw [List.getElem?_modify]
      by_cases hi : i < earlier.length
      · have hne : earlier.length + n ≠ i := by omega
        rw [List.getElem?_append_left hi, List.getElem?_append_left hi]
        simp only [hne, if_false]
        cases earlier[i]? <;> rfl
      · have hle : earlier.length ≤ i := Nat.not_lt.mp hi
        rw [List.getElem?_append_right hle, List.getElem?_append_right hle, List.getElem?_modify]
        have hiff : earlier.length + n = i ↔ n = i - earlier.length := by omega
        simp only [hiff]
  | _ => rfl

theorem Kind.Alike.limitAfter {kind kind' : Kind} (h : kind.Alike seen k kind')
    (limit : Option Nat) :
    kind'.limitAfter (limit.map (· + k)) = (kind.limitAfter limit).map (· + k) := by
  cases h with
  | lookBehind negated outermost => cases outermost <;> rfl
  | _ => rfl

end

/-- Groups keep their names when one of them is closed. -/
theorem Kind.names_groupsAfter (kind : Kind) (w : Width) (groups : List GroupEntry) :
    (kind.groupsAfter w groups).map (·.name) = groups.map (·.name) := by
  cases kind with
  | capture n =>
      refine List.ext_getElem? fun i => ?_
      simp only [Kind.groupsAfter, List.getElem?_map, List.getElem?_modify]
      cases groups[i]? with
      | none => rfl
      | some e =>
          by_cases hi : n - 1 = i
          · simp only [hi, if_true]
            rfl
          · simp only [hi, if_false]
            rfl
  | _ => rfl

/-- What is left open by the end of a group is open around it. -/
theorem Sound.close {pos pos' : Nat} {mode : Mode} {level level' : Level} {g : OpenGroup}
    {gs : List OpenGroup} {groups : List GroupEntry} {limit : Option Nat}
    {tested : List (Nat × Nat)} {w : Width}
    (h : Sound ⟨pos, mode, level, g :: gs, groups, limit, tested⟩) :
    Sound ⟨pos', .items, level', gs, g.kind.groupsAfter w groups, g.kind.limitAfter limit,
      tested⟩ := by
  refine ⟨nofun, ?_, ?_⟩
  · intro hne
    -- The limit is left, so it is not the outermost assertion that is closed.
    have hlimit : limit ≠ none ∧ ∀ negated, g.kind ≠ .lookBehind negated true := by
      constructor
      · rintro rfl
        refine hne ?_
        -- An inner assertion on what precedes has left the limit as it was.
        cases g.kind with
        | lookBehind negated outermost => cases outermost <;> rfl
        | _ => rfl
      · intro negated hkind
        exact hne (by simp only [hkind, Kind.limitAfter])
    rcases h.assertion hlimit.1 with ⟨g', hg', negated, hkind⟩
    rcases List.mem_cons.mp hg' with rfl | hmem
    · exact absurd hkind (hlimit.2 negated)
    · exact ⟨g', hmem, negated, hkind⟩
  · intro i e he hwidth
    -- A group that has no width afterwards is not the one that is closed.
    have hold : groups[i]? = some e ∧ g.kind ≠ .capture (i + 1) := by
      cases hkind : g.kind with
      | capture n =>
          simp only [hkind, Kind.groupsAfter, List.getElem?_modify] at he
          rcases Option.map_eq_some_iff.mp he with ⟨e', he', heq⟩
          by_cases hi : n - 1 = i
          · rw [if_pos hi] at heq
            rw [← heq] at hwidth
            cases hwidth
          · rw [if_neg hi] at heq
            rw [← heq]
            refine ⟨he', fun hcapture => hi ?_⟩
            rw [Kind.capture.inj hcapture, Nat.add_sub_cancel]
      | _ =>
          simp only [hkind, Kind.groupsAfter] at he
          exact ⟨he, nofun⟩
    rcases h.unfinished i e hold.1 hwidth with ⟨g', hg', hkind⟩
    rcases List.mem_cons.mp hg' with rfl | hmem
    · exact absurd hkind hold.2
    · exact ⟨g', hmem, hkind⟩

/-- A state of a reading alone, and one of the reading of the same behind
    earlier groups and rows. -/
structure Behind (seen : Nat → Nat) (earlier : List GroupEntry) (rows : List (List Regex))
    (a b : State) : Prop where
  sound : Sound a
  mode : a.mode.Alike b.mode
  stack : Stack seen earlier.length rows a.level a.openGroups b.level b.openGroups
  groups : b.groups = earlier ++ a.groups
  limit : b.behindLimit = a.behindLimit.map (· + earlier.length)
  tested : ∀ x ∈ b.tested, x.1 ≤ earlier.length ∨ ∃ y ∈ a.tested, y.1 = x.1
  closed : ∀ e ∈ earlier, e.width ≠ none
  distinct : ∀ e ∈ earlier, e.name ≠ none → e.name ∉ a.groups.map (·.name)

namespace Behind

variable {seen : Nat → Nat} {earlier : List GroupEntry} {rows : List (List Regex)} {a b : State}

/-- Both states are left on the same level, with something else to continue. -/
theorem within (h : Behind seen earlier rows a b) {m m' : Mode} (hmode : m.Alike m')
    (hcomment : m = .lineComment → a.level.verbose = true) :
    Behind seen earlier rows { a with mode := m } { b with mode := m' } :=
  ⟨⟨hcomment, h.sound.assertion, h.sound.unfinished⟩, hmode, h.stack, h.groups, h.limit,
    h.tested, h.closed, h.distinct⟩

/-- Places are not compared. -/
theorem moveOn (h : Behind seen earlier rows a b) (n m : Nat) :
    Behind seen earlier rows { a with pos := n } { b with pos := m } :=
  ⟨⟨h.sound.comment, h.sound.assertion, h.sound.unfinished⟩, h.mode, h.stack, h.groups, h.limit,
    h.tested, h.closed, h.distinct⟩

theorem verbose (h : Behind seen earlier rows a b) : b.level.verbose = a.level.verbose := by
  rcases h.stack.level with ⟨before, hlevel⟩
  exact hlevel.verbose

/-- Both states get other trees on the same level. -/
theorem relevel (h : Behind seen earlier rows a b) {m m' : Mode} (hmode : m.Alike m')
    (hitems : m ≠ .lineComment) {l l' : Level}
    (hlevel : ∀ before, Level.Alike seen earlier.length before a.level b.level →
      Level.Alike seen earlier.length before l l') (hverbose : l.verbose = a.level.verbose) :
    Behind seen earlier rows { a with mode := m, level := l }
      { b with mode := m', level := l' } :=
  ⟨⟨fun heq => absurd heq hitems, h.sound.assertion, h.sound.unfinished⟩, hmode,
    h.stack.change hlevel hverbose, h.groups, h.limit, h.tested, h.closed, h.distinct⟩

theorem push (h : Behind seen earlier rows a b) {r r' : Regex}
    (hr : r'.outline seen 0 = r.outline seen earlier.length) :
    Behind seen earlier rows (a.push r) (b.push r') :=
  h.relevel .items nofun (fun _ hlevel => hlevel.push hr) rfl

theorem pushLiterals (h : Behind seen earlier rows a b) (cs : List Char) :
    Behind seen earlier rows (a.pushLiterals cs) (b.pushLiterals cs) := by
  induction cs generalizing a b with
  | nil => exact h
  | cons c cs ih => exact ih (h.push rfl)

theorem repeatLast (h : Behind seen earlier rows a b) {p q low : Nat} {high : Option Nat}
    {a' : State} (ha : a.repeatLast p low high = .ok a') :
    ∃ b', b.repeatLast q low high = .ok b' ∧ Behind seen earlier rows a' b' := by
  rcases State.repeatLast_ok.mp ha with ⟨r, rs, hitems, hr, rfl⟩
  rcases h.stack.level with ⟨before, hlevel⟩
  rcases hlevel.items_cons hitems with ⟨r', rs', hitems', hr', _⟩
  -- Whether a tree can be repeated can be seen from its outline.
  have hrepeatable : r'.isRepeatable = true := by
    rw [← @isRepeatable_outline seen 0, hr', isRepeatable_outline, hr]
  refine ⟨_, State.repeatLast_ok.mpr ⟨r', rs', hitems', hrepeatable, rfl⟩, ?_⟩
  refine h.relevel .repeated nofun ?_ rfl
  intro before hlevel
  refine hlevel.replace hitems hitems' ?_
  simp only [outline, outline_seq, ← dissolved_outline, hr']

theorem setGreed (h : Behind seen earlier rows a b) (greed : Greed) :
    Behind seen earlier rows (a.setGreed greed) (b.setGreed greed) := by
  rw [State.setGreed_eq, State.setGreed_eq]
  refine h.relevel .items nofun ?_ rfl
  intro before hlevel
  refine ⟨?_, hlevel.done, hlevel.verbose⟩
  rw [outlines_modifyHead, outlines_modifyHead, hlevel.items]

theorem bar (h : Behind seen earlier rows a b) {a' : State} (ha : a.bar = .ok a') :
    ∃ b', b.bar = .ok b' ∧ Behind seen earlier rows a' b' := by
  have hdone : Behind seen earlier rows
      { a with
        mode := .items
        level := { a.level with done := a.level.row :: a.level.done, items := [] } }
      { b with
        mode := .items
        level := { b.level with done := b.level.row :: b.level.done, items := [] } } :=
    h.relevel .items nofun (fun _ hlevel => hlevel.bar) rfl
  -- What a bar does depends on the innermost open group alone: behind a condition it ends the
  -- first of two branches, and anywhere else it ends a row.
  rcases h with ⟨hsound, _, hstack, hgroups, hlimit, htested, hclosed, hdistinct⟩
  obtain ⟨pos, mode, level, openGroups, groups, limit, tested⟩ := a
  obtain ⟨pos', mode', level', openGroups', groups', limit', tested'⟩ := b
  cases hstack with
  | outermost =>
      cases ha
      exact ⟨_, rfl, hdone⟩
  | @inside _ _ g g' gs gs' hlevel hkind hrest =>
      obtain ⟨kind, start, outer⟩ := g
      obtain ⟨kind', start', outer'⟩ := g'
      cases hkind with
      | @conditional group group' yes yes' hgroup hyes =>
          cases yes with
          | some r => cases ha
          | none =>
              obtain rfl : yes' = none := Option.map_eq_none_iff.mp hyes
              cases ha
              -- Only the group of the condition is replaced, and it is of neither kind that
              -- `Sound` asks for.
              refine ⟨_, rfl, ⟨⟨nofun, ?_, ?_⟩, .items, ?_, hgroups, hlimit, htested, hclosed,
                hdistinct⟩⟩
              · intro hne
                rcases hsound.assertion hne with ⟨g, hg, negated, hkind⟩
                rcases List.mem_cons.mp hg with rfl | hmem
                · cases hkind
                · exact ⟨g, List.mem_cons_of_mem _ hmem, negated, hkind⟩
              · intro i e he hwidth
                rcases hsound.unfinished i e he hwidth with ⟨g, hg, hkind⟩
                rcases List.mem_cons.mp hg with rfl | hmem
                · cases hkind
                · exact ⟨g, List.mem_cons_of_mem _ hmem, hkind⟩
              · refine .inside ⟨rfl, hlevel.done, hlevel.verbose⟩ (.conditional hgroup ?_) hrest
                simp only [Option.map_some, outline_seq, hlevel.row]
      | _ =>
          cases ha
          exact ⟨_, rfl, hdone⟩

theorem close (h : Behind seen earlier rows a b) {a' : State} (ha : a.close = .ok a') :
    ∃ b', b.close = .ok b' ∧ Behind seen earlier rows a' b' := by
  rcases h with ⟨hsound, _, hstack, hgroups, hlimit, htested, hclosed, hdistinct⟩
  obtain ⟨pos, mode, level, openGroups, groups, limit, tested⟩ := a
  obtain ⟨pos', mode', level', openGroups', groups', limit', tested'⟩ := b
  cases hstack with
  | outermost => cases ha
  | @inside _ _ g g' gs gs' hlevel hkind hrest =>
      rw [State.close_eq rfl] at ha
      cases ha
      have htree : level'.tree.outline seen 0 = level.tree.outline seen earlier.length :=
        hlevel.tree
      -- The width goes into the list of groups, so it has to be the same.
      have hwidth : level'.tree.width = level.tree.width := by
        rw [← @width_outline seen 0, htree, width_outline]
      refine ⟨_, State.close_eq rfl, ⟨hsound.close, .items, ?_, ?_, ?_, htested, hclosed, ?_⟩⟩
      · exact hrest.change (fun _ houter => houter.push (hkind.enclose htree)) rfl
      · show g'.kind.groupsAfter _ groups' = earlier ++ g.kind.groupsAfter _ groups
        rw [hwidth, show groups' = earlier ++ groups from hgroups, hkind.groupsAfter]
      · show g'.kind.limitAfter limit' = (g.kind.limitAfter limit).map _
        rw [show limit' = limit.map (· + earlier.length) from hlimit, hkind.limitAfter]
      · intro e he hname
        show e.name ∉ (g.kind.groupsAfter _ groups).map (·.name)
        rw [Kind.names_groupsAfter]
        exact hdistinct e he hname

/-- A group that is no numbered one and no assertion on what precedes. -/
theorem enter (h : Behind seen earlier rows a b) {kind kind' : Kind}
    (hkind : kind.Alike seen earlier.length kind') (p q : Nat) (verbose : Bool) :
    Behind seen earlier rows (a.enter p kind verbose) (b.enter q kind' verbose) := by
  refine ⟨⟨nofun, ?_, ?_⟩, .items, .inside ⟨rfl, rfl, rfl⟩ hkind h.stack, h.groups, h.limit,
    h.tested, h.closed, h.distinct⟩
  · intro hne
    rcases h.sound.assertion hne with ⟨g, hg, hlookBehind⟩
    exact ⟨g, List.mem_cons_of_mem _ hg, hlookBehind⟩
  · intro i e he hwidth
    rcases h.sound.unfinished i e he hwidth with ⟨g, hg, hcapture⟩
    exact ⟨g, List.mem_cons_of_mem _ hg, hcapture⟩

/-- A numbered group whose name, if it has one, is that of no earlier group. -/
theorem enterCapture (h : Behind seen earlier rows a b) {name : Option (List Char)}
    (hname : name ≠ none → ∀ e ∈ earlier, e.name ≠ name) (p q : Nat) :
    Behind seen earlier rows (a.enterCapture p name) (b.enterCapture q name) := by
  have hkind : Kind.Alike seen earlier.length (.capture a.nextGroup) (.capture b.nextGroup) := by
    -- The number of a group is how many there are, so it comes out behind the earlier ones.
    have hnext : b.nextGroup = a.groups.length + 1 + earlier.length := by
      simp only [State.nextGroup, h.groups, List.length_append]
      omega
    rw [hnext]
    exact .capture _
  have henter := h.enter hkind p q a.level.verbose
  unfold State.enterCapture
  rw [h.verbose]
  refine ⟨⟨nofun, henter.sound.assertion, ?_⟩, .items, henter.stack, ?_, h.limit, h.tested,
    h.closed, ?_⟩
  -- The new group has no width yet, and it is the one that is open innermost.
  · intro i e he hwidth
    rcases Nat.lt_trichotomy i a.groups.length with hlt | heq | hgt
    · exact henter.sound.unfinished i e ((List.getElem?_append_left hlt).symm.trans he) hwidth
    · refine ⟨_, List.mem_cons_self, ?_⟩
      rw [heq]
      rfl
    · have hnone : (a.groups ++ [⟨name, none⟩])[i]? = none := by
        refine List.getElem?_eq_none ?_
        simp only [List.length_append, List.length_singleton]
        omega
      rw [hnone] at he
      cases he
  -- The new entry is the last one of both lists.
  · show b.groups ++ [⟨name, none⟩] = earlier ++ (a.groups ++ [⟨name, none⟩])
    rw [h.groups, List.append_assoc]
  · intro e he hne hmem
    -- The name of the new group is no earlier one, and those of the others were none before.
    rw [List.map_append, List.mem_append] at hmem
    rcases hmem with hmem | hmem
    · exact h.distinct e he hne hmem
    · have heq : e.name = name := List.mem_singleton.mp hmem
      exact hname (heq ▸ hne) e he heq

theorem enterLookBehind (h : Behind seen earlier rows a b) (p q : Nat) (negated : Bool) :
    Behind seen earlier rows (a.enterLookBehind p negated) (b.enterLookBehind q negated) := by
  have hnone : b.behindLimit.isNone = a.behindLimit.isNone := by
    rw [h.limit, Option.isNone_map]
  have henter := h.enter (.lookBehind negated a.behindLimit.isNone) p q a.level.verbose
  unfold State.enterLookBehind
  rw [h.verbose, hnone]
  refine ⟨⟨nofun, ?_, henter.sound.unfinished⟩, .items, henter.stack, h.groups, ?_, h.tested,
    h.closed, h.distinct⟩
  · intro _
    cases hlimit : a.behindLimit with
    | none =>
        exact ⟨_, List.mem_cons_self, negated, rfl⟩
    | some n =>
        rcases h.sound.assertion (by rw [hlimit]; nofun) with ⟨g, hg, hkind⟩
        exact ⟨g, List.mem_cons_of_mem _ hg, hkind⟩
  -- Only the outermost assertion sets the limit, at the next number on either side.
  · show (b.behindLimit <|> some b.nextGroup) = (a.behindLimit <|> some a.nextGroup).map _
    have hnext : b.nextGroup = a.nextGroup + earlier.length := by
      simp only [State.nextGroup, h.groups, List.length_append]
      omega
    rw [h.limit, hnext]
    cases a.behindLimit <;> rfl

end Behind

end Parser

end Regex

end NamePatterns
