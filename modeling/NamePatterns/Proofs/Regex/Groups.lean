import Mathlib.Algebra.GroupWithZero.Nat
import NamePatterns.Proofs.Regex.Joining
import NamePatterns.Proofs.Regex.Moves

/-!
# Numbered Groups

A reading numbers as many groups as its tree has.

The automaton keeps an entry for every numbered group, and the tree has a node
for each of them once it is closed. While groups are open, the nodes that are
still missing are those of the open groups. Everything else that is done to a
state leaves the number of groups as it is: rows may be dissolved, what
alternatives share may be written once, and single characters may become a set,
but no numbered group is ever shared or lost.

The proof is about moves and not about units. What a unit does is a sequence of
moves (see `Moves`), of which there are few, and each of them adds one tree, one
group or one row. So the invariant is checked once for every kind of move, and
no other function of the automaton has to be looked at.

What this is for: texts that have no numbered groups never clash, so they can be
joined without a condition.

## Main definitions

* `Regex.groupCount`: How many numbered groups a tree has.
* `State.groupCount`: How many a state has, with those that are open.
* `Balanced`: A state with an entry for every group.

## Theorems

* `groupCount_alternatives`: How many groups alternatives have.
* `Move.balanced`: Every move keeps the entries complete.
* `IsWhole.length_groups`: The groups of a text that is a regular expression.
* `compatible_of_groups`: Texts without groups do not clash.
-/

namespace NamePatterns

namespace Regex

/-- How many numbered groups a tree has. -/
def groupCount : Regex → Nat
  | empty | literal _ | any | anyBut _ | set .. | lineStart | lineEnd | backref .. => 0
  | cat a b | alt a b | conditional _ a b => a.groupCount + b.groupCount
  | repetition _ _ _ r | flagged _ r | atomic r | lookAhead _ r | lookBehind _ r => r.groupCount
  | capture _ r => r.groupCount + 1

/-- How many numbered groups the trees of a row have. -/
def groupCounts (row : List Regex) : Nat :=
  (row.map groupCount).sum

theorem groupCounts_nil : groupCounts [] = 0 :=
  rfl

theorem groupCounts_cons (r : Regex) (row : List Regex) :
    groupCounts (r :: row) = r.groupCount + groupCounts row := by
  rw [groupCounts, List.map_cons, List.sum_cons]
  rfl

theorem groupCounts_append (row row' : List Regex) :
    groupCounts (row ++ row') = groupCounts row + groupCounts row' := by
  rw [groupCounts, List.map_append, List.sum_append]
  rfl

/-- Trees in a row have the groups of each of them. -/
theorem groupCount_seq (row : List Regex) : (seq row).groupCount = groupCounts row := by
  induction row with
  | nil => rfl
  | cons r row ih =>
      rw [groupCounts_cons, ← ih]
      cases row <;> rfl

theorem groupCounts_toList (r : Regex) : groupCounts r.toList = r.groupCount := by
  induction r with
  | cat a b iha ihb =>
      show groupCounts (a.toList ++ b.toList) = a.groupCount + b.groupCount
      rw [groupCounts_append, iha, ihb]
  | _ => rfl

/-- Dissolving a plain group leaves the groups in it. -/
theorem groupCounts_dissolved (r : Regex) : groupCounts r.dissolved = r.groupCount := by
  cases r with
  | flagged change r =>
      show groupCounts (if change = {} then r.toList else [flagged change r]) = r.groupCount
      by_cases hplain : change = {}
      · rw [if_pos hplain]
        exact groupCounts_toList r
      · rw [if_neg hplain]
        rfl
  | _ => rfl

theorem groupCounts_flatMap_dissolved (row : List Regex) :
    groupCounts (row.flatMap dissolved) = groupCounts row := by
  induction row with
  | nil => rfl
  | cons r row ih =>
      rw [List.flatMap_cons, groupCounts_append, groupCounts_dissolved, ih, groupCounts_cons]

theorem groupCounts_reverse (row : List Regex) : groupCounts row.reverse = groupCounts row := by
  rw [groupCounts, List.map_reverse, List.sum_reverse]
  rfl

/-- A simple tree has no groups, as it has no parts. -/
theorem groupCount_of_isSimple {r : Regex} (h : r.isSimple = true) : r.groupCount = 0 := by
  -- Only single characters, sets and anchors are simple; the other kinds of trees are ruled out
  -- one by one.
  cases r <;> first | rfl | cases h

/-- What can be shared has no groups. -/
theorem groupCount_of_isShareable {r : Regex} (h : r.isShareable = true) : r.groupCount = 0 := by
  cases r <;> first | rfl | cases h

/-- A row that merges into a set has no groups. -/
theorem groupCounts_of_setItems? {row : List Regex} {items : List SetItem}
    (h : setItems? row = some items) : groupCounts row = 0 := by
  unfold setItems? at h
  split at h
  · rfl
  · rfl
  · cases h

theorem groupCount_alternative (row : List Regex) :
    (alternative row).groupCount = groupCounts row := by
  unfold alternative
  split
  · rfl
  · exact groupCount_seq row

theorem groupCount_oneOf (rs : List Regex) : (oneOf rs).groupCount = groupCounts rs := by
  induction rs with
  | nil => rfl
  | cons r rs ih =>
      rw [groupCounts_cons, ← ih]
      cases rs <;> rfl

/-- However a choice between rows is written, it has the groups of all of them. -/
theorem groupCount_choice (rows : List (List Regex)) :
    (choice rows).groupCount = (rows.map groupCounts).sum := by
  unfold choice
  cases hitems : rows.mapM setItems? with
  -- Alternatives that do not merge keep their rows.
  | none =>
      show (oneOf (rows.map alternative)).groupCount = _
      rw [groupCount_oneOf, groupCounts, List.map_map]
      congr 1
      exact List.map_congr_left fun row _ => groupCount_alternative row
  | some items =>
      -- The rows are merged into one set, so each is a single character or a set.
      have hzero : ∀ n ∈ rows.map groupCounts, n = 0 := by
        intro n hn
        obtain ⟨row, hrow, rfl⟩ := List.mem_map.mp hn
        obtain ⟨is, his⟩ := setItems?_of_mapM hitems hrow
        exact groupCounts_of_setItems? his
      exact (List.sum_eq_zero_iff_forall_eq_nat.mpr hzero).symm

/-- Alternatives have the groups of their rows. -/
theorem groupCount_alternatives (rows : List (List Regex)) :
    (alternatives rows).groupCount = (rows.map groupCounts).sum := by
  cases rows with
  | nil => rfl
  | cons row others =>
      cases others with
      | nil =>
          simp only [alternatives, groupCount_seq, List.map_cons, List.map_nil, List.sum_cons,
            List.sum_nil, Nat.add_zero]
      | cons row' rows =>
          -- What rows share at their start is written once, in front of them.
          have hshared : groupCounts (sharedStart row (row' :: rows)) = 0 := by
            refine List.sum_eq_zero_iff_forall_eq_nat.mpr fun n hn => ?_
            obtain ⟨r, hr, rfl⟩ := List.mem_map.mp hn
            exact groupCount_of_isShareable (isShareable_of_mem_sharedStart hr)
          -- What is dropped from a row is what the rows share, so it has no groups.
          have hdrop : ∀ xs ∈ row :: row' :: rows,
              groupCounts (xs.drop (sharedStart row (row' :: rows)).length) = groupCounts xs := by
            intro xs hxs
            have hcounts := congrArg groupCounts (sharedStart_append_drop hxs)
            rw [groupCounts_append, hshared, Nat.zero_add] at hcounts
            exact hcounts
          simp only [alternatives]
          rw [groupCount_seq, groupCounts_append, hshared, Nat.zero_add, groupCounts_cons,
            groupCount_choice, List.map_map]
          exact congrArg List.sum (List.map_congr_left hdrop)

namespace Parser

/-- How many numbered groups a level has. -/
def Level.groupCount (l : Level) : Nat :=
  groupCounts l.items + (l.done.map groupCounts).sum

/-- How many numbered groups are known once a group is opened: itself, if it is
    numbered, and those of a branch that is finished. -/
def Kind.groupCount : Kind → Nat
  | .capture _ => 1
  | .conditional _ (some yes) => yes.groupCount
  | _ => 0

/-- How many numbered groups an open group has, and the level around it. -/
def OpenGroup.groupCount (g : OpenGroup) : Nat :=
  g.kind.groupCount + g.outer.groupCount

/-- How many numbered groups a state has. -/
def State.groupCount (s : State) : Nat :=
  s.level.groupCount + (s.openGroups.map OpenGroup.groupCount).sum

/-- There is an entry for every numbered group. -/
def Balanced (s : State) : Prop :=
  s.groups.length = s.groupCount

/-- The sum that is compared: the items of the row, the rows before it, and the open groups
    with what stands in front of them. -/
theorem balanced_iff {s : State} : Balanced s ↔ s.groups.length
    = groupCounts s.level.items + (s.level.done.map groupCounts).sum
      + (s.openGroups.map OpenGroup.groupCount).sum :=
  Iff.rfl

theorem Level.groupCounts_row (l : Level) : groupCounts l.row = groupCounts l.items := by
  rw [Level.row, groupCounts_flatMap_dissolved, groupCounts_reverse]

theorem Level.groupCount_tree (l : Level) : l.tree.groupCount = l.groupCount := by
  rw [Level.tree, groupCount_alternatives, List.map_reverse, List.sum_reverse, List.map_cons,
    List.sum_cons, l.groupCounts_row]
  rfl

/-- A group that ends adds itself, if it is numbered, to those in it. -/
theorem Kind.groupCount_enclose (kind : Kind) (r : Regex) :
    (kind.enclose r).groupCount = kind.groupCount + r.groupCount := by
  cases kind with
  | capture group => exact Nat.add_comm _ _
  | conditional group yes =>
      cases yes with
      | none => exact Nat.add_comm _ _
      | some yes => rfl
  | _ => exact (Nat.zero_add _).symm

/-- The entry of a group is made when it opens, so there are no more when it ends. -/
theorem Kind.length_groupsAfter (kind : Kind) (w : Width) (groups : List GroupEntry) :
    (kind.groupsAfter w groups).length = groups.length := by
  cases kind with
  | capture group => exact List.length_modify ..
  | _ => rfl

theorem Kind.groupCount_of_isPlain {kind : Kind} (h : kind.isPlain = true) :
    kind.groupCount = 0 := by
  unfold isPlain at h
  split at h <;> first | rfl | cases h

/-- A tree without groups that is added leaves the number of groups as it is. -/
theorem Balanced.push {s : State} (h : Balanced s) {r : Regex} (hr : r.groupCount = 0) :
    Balanced (s.push r) := by
  rw [balanced_iff] at h ⊢
  simp only [State.push, groupCounts_cons, hr, Nat.zero_add]
  exact h

/-- A group that is opened counts just if it gets an entry. -/
theorem State.groupCount_enter (s : State) (start : Nat) (kind : Kind) (verbose : Bool) :
    (s.enter start kind verbose).groupCount = kind.groupCount + s.groupCount := by
  show groupCounts [] + 0
    + (List.map OpenGroup.groupCount (⟨kind, start, s.level⟩ :: s.openGroups)).sum = _
  simp only [List.map_cons, List.sum_cons, groupCounts_nil, OpenGroup.groupCount,
    State.groupCount]
  omega

/-- Every move keeps the entries complete. -/
theorem Move.balanced {s s' : State} (h : Move s s') (hs : Balanced s) : Balanced s' := by
  cases h with
  -- Only the place and the mode change.
  | goOn pos mode => exact hs
  | push hr => exact hs.push (groupCount_of_isSimple hr)
  -- A reference refers to a group and is none.
  | refer hw => exact hs.push rfl
  | repeatLast h =>
      -- The item takes its groups along into the repetition.
      obtain ⟨r, rs, hitems, _, rfl⟩ := State.repeatLast_ok.mp h
      rw [balanced_iff] at hs ⊢
      rw [hitems, groupCounts_cons] at hs
      simp only [groupCounts_cons, Regex.groupCount, groupCount_seq, groupCounts_dissolved]
      exact hs
  | setGreed greed =>
      rw [State.setGreed_eq]
      rw [balanced_iff] at hs ⊢
      have hitems : groupCounts (s.level.items.modifyHead (withGreed greed))
          = groupCounts s.level.items := by
        cases s.level.items with
        | nil => rfl
        | cons r rs =>
            rw [List.modifyHead_cons, groupCounts_cons, groupCounts_cons]
            cases r <;> rfl
      simp only [hitems]
      exact hs
  | bar h =>
      -- The current alternative becomes a row, of the level or of a condition.
      have hrow : groupCounts s.level.row = groupCounts s.level.items := s.level.groupCounts_row
      unfold State.bar at h
      split at h
      · next group yes start outer rest hopen =>
          cases yes with
          | some yes => cases h
          | none =>
              cases h
              rw [balanced_iff] at hs ⊢
              rw [hopen] at hs
              simp only [List.map_cons, List.sum_cons, OpenGroup.groupCount, Kind.groupCount,
                groupCount_seq, hrow, groupCounts_nil] at hs ⊢
              omega
      · cases h
        rw [balanced_iff] at hs ⊢
        simp only [List.map_cons, List.sum_cons, hrow, groupCounts_nil]
        omega
  | close h =>
      -- What an open group counts for is what its tree counts once it is closed.
      cases hopen : s.openGroups with
      | nil =>
          unfold State.close at h
          rw [hopen] at h
          cases h
      | cons g gs =>
          rw [State.close_eq hopen] at h
          cases h
          rw [balanced_iff] at hs ⊢
          rw [hopen, List.map_cons, List.sum_cons] at hs
          simp only [groupCounts_cons, Kind.groupCount_enclose, Kind.length_groupsAfter,
            Level.groupCount_tree]
          simp only [OpenGroup.groupCount, Level.groupCount] at hs ⊢
          omega
  -- A plain group is none of those that are numbered, and has no finished branch yet.
  | enter start verbose hkind =>
      unfold Balanced
      rw [State.groupCount_enter, Kind.groupCount_of_isPlain hkind, Nat.zero_add]
      exact hs
  | enterCapture start name =>
      -- The new entry is that of the group itself.
      show (s.groups ++ [_]).length = (s.enter start (.capture s.nextGroup) _).groupCount
      rw [State.groupCount_enter, List.length_append, hs, Nat.add_comm]
      rfl
  | enterLookBehind start negated =>
      show s.groups.length = (s.enter start (.lookBehind negated _) _).groupCount
      rw [State.groupCount_enter, hs]
      exact (Nat.zero_add _).symm
  | note group place => exact hs

theorem Moves.balanced {s s' : State} (h : Moves s s') (hs : Balanced s) : Balanced s' := by
  induction h with
  | refl => exact hs
  | tail _ hmove ih => exact hmove.balanced ih

/-- A text that is a regular expression by itself ends with the groups of its
    tree. -/
theorem IsWhole.length_groups {ts : List Token} {s : State} (h : IsWhole ts s) :
    s.groups.length = (alternatives s.rows).groupCount := by
  obtain ⟨hrun, r, hfinish, _⟩ := h
  obtain ⟨_, hopen, _, _⟩ := finish_ok.mp hfinish
  -- A reading starts balanced, and no group is open in the end.
  have hbalanced : Balanced s.ended :=
    Moves.balanced ((run_moves hrun).trans s.ended_moves) rfl
  obtain ⟨hopenEnded, hgroups, _, _⟩ := s.ended_spec
  unfold Balanced State.groupCount at hbalanced
  rw [hgroups, hopenEnded, hopen, ← Level.groupCount_tree] at hbalanced
  exact hbalanced

/-- Where there are no earlier groups, a unit that is read does not clash. -/
theorem not_clashes_of_step {s s' : State} {t : Token} (h : step s t = .ok s') :
    ¬Clashes id [] s t := by
  rintro ⟨start, use, place, read, hmode, rfl, hclash⟩
  -- Without earlier groups there is no name to be taken, a reference never clashes, and a
  -- number that is asked for is the same on both sides. Only an open group is left, and that
  -- is refused alone too.
  cases use with
  | define => cases hclash
  | refer => exact hclash
  | test =>
      obtain ⟨hname, n, hn, hnumber | hseen⟩ := hclash
      · obtain ⟨hlimited, _, hwidth⟩ := hnumber
        obtain ⟨s₁, hact, _⟩ := step_ok.mp h
        -- The number that a condition asks for has been checked when the name ended.
        have hclose : s.closeName start .test place read.reverse = .ok s₁ := by
          unfold act at hact
          rw [hmode] at hact
          simp only [State.head, if_true] at hact
          by_cases hempty : read.isEmpty = true
          · rw [if_pos hempty] at hact
            cases hact
          · rw [if_neg hempty] at hact
            exact hact
        obtain ⟨group, htested, hcheck, _⟩ := (State.closeName_number_ok hname).mp hclose
        obtain ⟨hgroup, _⟩ := State.testNumbered_ok.mp htested
        obtain rfl : n = group := Int.natCast_inj.mp (Option.some.inj (hn.symm.trans hgroup))
        obtain ⟨limit, hlimit⟩ := Option.ne_none_iff_exists'.mp hlimited
        exact ((State.checkBehind_ok.mp hcheck) limit hlimit).1 hwidth
      · exact hseen rfl

/-- Where there are no earlier groups, a text that is read is undisturbed. -/
theorem undisturbed_of_run {s s' : State} {ts : List Token} (h : run s ts = .ok s') :
    Undisturbed id [] s ts := by
  induction ts generalizing s with
  | nil => exact trivial
  | cons t ts ih =>
      obtain ⟨s₁, hstep, hrest⟩ := Except.bind_ok.mp h
      refine ⟨not_clashes_of_step hstep, fun s₂ hs₂ => ?_⟩
      obtain rfl : s₁ = s₂ := Except.ok.inj (hstep.symm.trans hs₂)
      exact ih hrest

/-- Texts without groups are compatible. -/
theorem compatible_of_groups {tss : List (List Token)}
    (h : ∀ ts ∈ tss, ∃ s, run {} ts = .ok s ∧ s.groups = []) : Compatible id [] tss := by
  induction tss with
  | nil => exact trivial
  | cons ts tss ih =>
      obtain ⟨s, hrun, hgroups⟩ := h ts List.mem_cons_self
      refine ⟨undisturbed_of_run hrun, fun s' hs' => ?_⟩
      obtain rfl : s = s' := Except.ok.inj (hrun.symm.trans hs')
      rw [hgroups]
      exact ih fun us hus => h us (List.mem_cons_of_mem _ hus)

end Parser

end Regex

end NamePatterns
