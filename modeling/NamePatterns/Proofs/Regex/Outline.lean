import NamePatterns.Proofs.Regex.Operations
import NamePatterns.Proofs.Regex.Reading

/-!
# Outlines of Trees

Trees up to the numbers of their groups.

Behind other alternatives, a text is read as the same tree, but its groups get
greater numbers: the numbers of the groups that it opens and refers to by name
grow by as much as there are groups before them. Only conditions that ask for a
group by its number ask for the number that is written. The outline of a tree
has the numbers that it would have behind some groups. Of the groups that
conditions ask for, it keeps as much as is wanted: their numbers, or nothing.

Everything that is done with trees while a text is read commutes with taking
outlines, since only single characters, anchors and references are ever
compared.

That parsing alternatives also simplifies them is what makes this more than a
renumbering. What rows share at their start is taken out, and rows of single
characters are merged into a set, and both depend on which trees are equal.
Renumbering could make different trees equal or equal trees different. It does
neither where it matters: only trees that open no group are ever shared, and
among these a renumbered reference still tells its group.

## Main definitions

* `Regex.outline`: A tree behind some groups.
* `Regex.unseen`: Nothing of the groups that conditions ask for.

## Theorems

* `outline_alternatives`: Alternatives behind groups.
* `width_outline`, `lookBehindWidths_outline`: What an outline does not change.
* `mem_lookBehindWidths_alternatives`: Alternatives assert what the trees in
  their rows assert.
* `outline_inj_of_isShareable`, `sharedStart_outline`: What rows share at their
  start.
* `choice_outline`: A choice between rows.
* `lookBehindWidths_of_isShareable`: What can be shared asserts nothing.
-/

namespace NamePatterns

namespace Regex

/-- A tree whose groups are numbered behind `k` others. Of a group that a
    condition asks for, only what is seen of it is kept. -/
def outline (seen : Nat → Nat) (k : Nat) : Regex → Regex
  | empty => empty
  | literal c => literal c
  | any => any
  | anyBut c => anyBut c
  | set negated items => set negated items
  | lineStart => lineStart
  | lineEnd => lineEnd
  | cat a b => cat (a.outline seen k) (b.outline seen k)
  | alt a b => alt (a.outline seen k) (b.outline seen k)
  | repetition low high greed r => repetition low high greed (r.outline seen k)
  | capture group r => capture (group + k) (r.outline seen k)
  | flagged change r => flagged change (r.outline seen k)
  | atomic r => atomic (r.outline seen k)
  | lookAhead negated r => lookAhead negated (r.outline seen k)
  | lookBehind negated r => lookBehind negated (r.outline seen k)
  | backref group w => backref (group + k) w
  | conditional group yes no =>
    -- Trees that differ in the groups conditions ask for can be compared so.
    conditional (seen (group + k)) (yes.outline seen k) (no.outline seen k)

/-- Nothing is seen of the groups that conditions ask for. -/
def unseen : Nat → Nat := fun _ => 0

/-- The outlines of the trees of a row. -/
def outlines (seen : Nat → Nat) (k : Nat) (row : List Regex) : List Regex :=
  row.map (outline seen k)

variable {seen : Nat → Nat} {k : Nat}

/-- Behind no groups a tree stays as it is. -/
@[simp] theorem outline_id (r : Regex) : r.outline id 0 = r := by
  induction r with
  | cat a b iha ihb | alt a b iha ihb => simp only [outline, iha, ihb]
  | conditional group yes no ihyes ihno => simp only [outline, ihyes, ihno, Nat.add_zero, id]
  | repetition low high greed r ih => simp only [outline, ih]
  | capture group r ih | flagged change r ih | atomic r ih | lookAhead negated r ih
  | lookBehind negated r ih => simp only [outline, ih, Nat.add_zero]
  | _ => rfl

theorem outline_seq (rs : List Regex) : (seq rs).outline seen k = seq (outlines seen k rs) := by
  induction rs with
  | nil => rfl
  | cons r rs ih =>
      cases rs with
      | nil => rfl
      | cons r' rs' =>
          show cat (r.outline seen k) ((seq (r' :: rs')).outline seen k) = _
          rw [ih]
          rfl

theorem toList_outline (r : Regex) : (r.outline seen k).toList = outlines seen k r.toList := by
  induction r with
  | cat a b iha ihb =>
      show (a.outline seen k).toList ++ (b.outline seen k).toList
        = outlines seen k (a.toList ++ b.toList)
      rw [iha, ihb]
      exact List.map_append.symm
  | _ => rfl

/-- Whether a group changes flags, and so whether it is dissolved, is seen in its outline. -/
theorem dissolved_outline (r : Regex) :
    (r.outline seen k).dissolved = outlines seen k r.dissolved := by
  cases r with
  | flagged change r =>
      simp only [outline, dissolved]
      -- A group that changes no flags is dissolved, on both sides.
      by_cases h : change = {}
      · rw [if_pos h, if_pos h, toList_outline]
      · rw [if_neg h, if_neg h]
        rfl
  | _ => rfl

theorem outlines_flatMap_dissolved (rs : List Regex) :
    outlines seen k (rs.flatMap dissolved) = (outlines seen k rs).flatMap dissolved := by
  induction rs with
  | nil => rfl
  | cons r rs ih =>
      simp only [outlines, List.flatMap_cons, List.map_append, List.map_cons] at ih ⊢
      rw [dissolved_outline, ih]
      rfl

/-- Groups are as wide as before behind others. -/
@[simp] theorem width_outline (r : Regex) : (r.outline seen k).width = r.width := by
  induction r with
  | cat a b iha ihb | alt a b iha ihb => simp only [outline, width, iha, ihb]
  | conditional group yes no ihyes ihno => simp only [outline, width, ihyes, ihno]
  | repetition low high greed r ih => simp only [outline, width, ih]
  | capture group r ih | flagged change r ih | atomic r ih => simp only [outline, width, ih]
  | _ => rfl

/-- What precedes has to be as long as before behind other groups. -/
@[simp] theorem lookBehindWidths_outline (r : Regex) :
    (r.outline seen k).lookBehindWidths = r.lookBehindWidths := by
  induction r with
  | cat a b iha ihb | alt a b iha ihb => simp only [outline, lookBehindWidths, iha, ihb]
  | conditional group yes no ihyes ihno => simp only [outline, lookBehindWidths, ihyes, ihno]
  | lookBehind negated r ih => simp only [outline, lookBehindWidths, ih, width_outline]
  | repetition low high greed r ih => simp only [outline, lookBehindWidths, ih]
  | capture group r ih | flagged change r ih | atomic r ih | lookAhead negated r ih =>
      simp only [outline, lookBehindWidths, ih]
  | _ => rfl

/-- The same for a row. -/
theorem lookBehindWidths_outlines (seen : Nat → Nat) (k : Nat) (row : List Regex) :
    (outlines seen k row).flatMap lookBehindWidths = row.flatMap lookBehindWidths := by
  simp only [outlines, List.flatMap_map, lookBehindWidths_outline]

-- What the reader asks of a tree is answered by its outline.
@[simp] theorem isShareable_outline (r : Regex) :
    (r.outline seen k).isShareable = r.isShareable := by
  cases r <;> rfl

@[simp] theorem isRepeatable_outline (r : Regex) :
    (r.outline seen k).isRepeatable = r.isRepeatable := by
  cases r <;> rfl

theorem withGreed_outline (greed : Greed) (r : Regex) :
    (r.withGreed greed).outline seen k = (r.outline seen k).withGreed greed := by
  cases r <;> rfl

theorem outlines_modifyHead (greed : Greed) (rs : List Regex) :
    outlines seen k (rs.modifyHead (withGreed greed))
      = (outlines seen k rs).modifyHead (withGreed greed) := by
  cases rs with
  | nil => rfl
  | cons r rs => exact congrArg (· :: outlines seen k rs) (withGreed_outline greed r)

/-- Trees that can be written once are told apart by their outlines. -/
theorem outline_inj_of_isShareable {r x : Regex} (h : r.isShareable = true) :
    x.outline seen k = r.outline seen k ↔ x = r := by
  constructor
  · intro heq
    -- Only a reference is shareable and changed, and its number tells its group.
    cases r with
    | backref group w =>
        cases x with
        | backref group' w' =>
            simp only [outline, backref.injEq, Nat.add_right_cancel_iff] at heq
            rw [heq.1, heq.2]
        | _ => cases heq
    | empty | cat | alt | repetition | capture | flagged | atomic | lookAhead | lookBehind
    | conditional => cases h
    | _ => cases x <;> first | exact heq | cases heq
  · intro heq
    rw [heq]

/-- Rows share as much at their start. Only trees without groups are shared, and of these the
    outlines are different if the trees are. -/
theorem sharedStart_outline (row : List Regex) (rows : List (List Regex)) :
    sharedStart (outlines seen k row) (rows.map (outlines seen k))
      = outlines seen k (sharedStart row rows) := by
  induction row generalizing rows with
  | nil => rfl
  -- The first tree is shared behind groups just if it is shared without them.
  | cons r row ih =>
      have hall :
          (r.isShareable &&
              (rows.map (outlines seen k)).all (·.head? == some (r.outline seen k)))
            = (r.isShareable && rows.all (·.head? == some r)) := by
        cases hr : r.isShareable with
        | false => rfl
        | true =>
            rw [Bool.true_and, Bool.true_and, List.all_map]
            congr 1
            funext xs
            cases xs with
            | nil => rfl
            | cons x xs =>
                rw [Bool.eq_iff_iff]
                simp only [Function.comp_apply, outlines, List.map_cons, List.head?_cons,
                  beq_iff_eq, Option.some.injEq]
                exact outline_inj_of_isShareable hr
      -- What is left of the other rows is compared in the next step.
      have htails :
          (rows.map (outlines seen k)).map List.tail
            = (rows.map List.tail).map (outlines seen k) := by
        rw [List.map_map, List.map_map]
        congr 1
        funext xs
        exact List.map_tail.symm
      have hrest : sharedStart (outlines seen k row) ((rows.map (outlines seen k)).map List.tail)
          = outlines seen k (sharedStart row (rows.map List.tail)) := by
        rw [htails]
        exact ih _
      show sharedStart (r.outline seen k :: outlines seen k row) _ = _
      rw [sharedStart, sharedStart, isShareable_outline, hall, hrest]
      by_cases h : (r.isShareable && rows.all (·.head? == some r)) = true
      · rw [if_pos h, if_pos h]
        rfl
      · rw [if_neg h, if_neg h]
        rfl

/-- Rows merge into a set behind groups just as they do alone. -/
theorem setItems?_outline (row : List Regex) : setItems? (outlines seen k row) = setItems? row := by
  -- A row merges if it is one character or one set, so longer rows are told apart first.
  cases row with
  | nil => rfl
  | cons r row =>
      cases row with
      | nil =>
          cases r with
          | set negated items => cases negated <;> rfl
          | _ => rfl
      | cons r' row' =>
          cases r with
          | set negated items => cases negated <;> rfl
          | _ => rfl

/-- A row becomes one alternative in the same way. -/
theorem alternative_outline (row : List Regex) :
    (alternative row).outline seen k = alternative (outlines seen k row) := by
  cases row with
  | nil => rfl
  | cons r row =>
      cases row with
      | nil => cases r <;> rfl
      | cons r' row' =>
          have hseq := @outline_seq seen k (r :: r' :: row')
          cases r <;> exact hseq

theorem oneOf_outline (rs : List Regex) :
    (oneOf rs).outline seen k = oneOf (outlines seen k rs) := by
  induction rs with
  | nil => rfl
  | cons r rs ih =>
      cases rs with
      | nil => rfl
      | cons r' rs' =>
          show alt (r.outline seen k) ((oneOf (r' :: rs')).outline seen k) = _
          rw [ih]
          rfl

/-- A choice between the same rows is one between their outlines, also where it is written as a
    set. -/
theorem choice_outline (rows : List (List Regex)) :
    (choice rows).outline seen k = choice (rows.map (outlines seen k)) := by
  -- Characters and sets do not mention groups, so rows of them stay one set.
  have hitems : (rows.map (outlines seen k)).mapM setItems? = rows.mapM setItems? := by
    rw [List.mapM_map]
    congr 1
    funext row
    exact setItems?_outline row
  have hmap : outlines seen k (rows.map alternative)
      = (rows.map (outlines seen k)).map alternative := by
    simp only [outlines, List.map_map]
    congr 1
    funext row
    exact alternative_outline row
  unfold choice
  rw [hitems]
  cases rows.mapM setItems? with
  | some items => rfl
  | none => exact (oneOf_outline _).trans (congrArg oneOf hmap)

/-- Alternatives behind groups are alternatives of rows behind groups. -/
theorem outline_alternatives (rows : List (List Regex)) :
    (alternatives rows).outline seen k = alternatives (rows.map (outlines seen k)) := by
  cases rows with
  | nil => rfl
  | cons row rows =>
      cases rows with
      | nil => exact outline_seq row
      | cons row' rows' =>
          -- As many trees are shared behind groups, so the same ones are dropped.
          have hshared := @sharedStart_outline seen k row (row' :: rows')
          have hlength : (outlines seen k (sharedStart row (row' :: rows'))).length
              = (sharedStart row (row' :: rows')).length := List.length_map _
          have hdrop (n : Nat) : ((row :: row' :: rows').map (·.drop n)).map (outlines seen k)
              = ((row :: row' :: rows').map (outlines seen k)).map (·.drop n) := by
            rw [List.map_map, List.map_map]
            congr 1
            funext xs
            exact List.map_drop
          simp only [List.map_cons, alternatives] at hshared hdrop ⊢
          rw [hshared, hlength, outline_seq]
          simp only [outlines, List.map_append, List.map_cons, List.map_nil] at hdrop ⊢
          rw [choice_outline]
          simp only [outlines, List.map_cons]
          rw [← hdrop]

/-- What rows share starts each of them. -/
theorem sharedStart_prefix_of_mem {row xs : List Regex} {rows : List (List Regex)}
    (h : xs ∈ row :: rows) : sharedStart row rows <+: xs := by
  induction row generalizing rows xs with
  | nil => exact List.nil_prefix
  | cons r row ih =>
      unfold sharedStart
      by_cases hshared : (r.isShareable && rows.all (·.head? == some r)) = true
      · rw [if_pos hshared]
        rcases Bool.and_eq_true_iff.mp hshared with ⟨_, hall⟩
        rcases List.mem_cons.mp h with rfl | hxs
        · exact (List.prefix_cons_inj r).mpr (ih List.mem_cons_self)
        -- A tree is shared only if every row starts with it.
        · have hhead : xs.head? = some r := beq_iff_eq.mp (List.all_eq_true.mp hall xs hxs)
          rcases List.head?_eq_some_iff.mp hhead with ⟨tail, rfl⟩
          refine (List.prefix_cons_inj r).mpr (ih (List.mem_cons_of_mem _ ?_))
          exact List.mem_map.mpr ⟨r :: tail, hxs, rfl⟩
      · rw [if_neg hshared]
        exact List.nil_prefix

/-- What rows share and what is left of one of them make the row. -/
theorem sharedStart_append_drop {row xs : List Regex} {rows : List (List Regex)}
    (h : xs ∈ row :: rows) :
    sharedStart row rows ++ xs.drop (sharedStart row rows).length = xs := by
  rcases sharedStart_prefix_of_mem h with ⟨rest, hrest⟩
  rw [← hrest, List.drop_left]

/-- Only what can be shared is. -/
theorem isShareable_of_mem_sharedStart {row : List Regex} {rows : List (List Regex)} {r : Regex}
    (h : r ∈ sharedStart row rows) : r.isShareable = true := by
  induction row generalizing rows with
  | nil => cases h
  | cons x row ih =>
      unfold sharedStart at h
      by_cases hshared : (x.isShareable && rows.all (·.head? == some x)) = true
      · rw [if_pos hshared] at h
        rcases List.mem_cons.mp h with rfl | hrest
        · exact (Bool.and_eq_true_iff.mp hshared).1
        · exact ih hrest
      · rw [if_neg hshared] at h
        cases h

/-- What can be shared asserts nothing of what precedes it. -/
theorem lookBehindWidths_of_isShareable {r : Regex} (h : r.isShareable = true) :
    r.lookBehindWidths = [] := by
  cases r <;> first | rfl | cases h

theorem lookBehindWidths_oneOf (rs : List Regex) :
    (oneOf rs).lookBehindWidths = rs.flatMap lookBehindWidths := by
  induction rs with
  | nil => rfl
  | cons r rs ih =>
      cases rs with
      | nil => exact (List.append_nil _).symm
      | cons r' rs' =>
          show r.lookBehindWidths ++ (oneOf (r' :: rs')).lookBehindWidths = _
          rw [ih]
          rfl

theorem lookBehindWidths_alternative (row : List Regex) :
    (alternative row).lookBehindWidths = row.flatMap lookBehindWidths := by
  unfold alternative
  split
  · exact (List.append_nil _).symm
  · exact lookBehindWidths_seq row

/-- What merges into a set asserts nothing either. -/
theorem lookBehindWidths_of_setItems? {row : List Regex} {items : List SetItem}
    (h : setItems? row = some items) : row.flatMap lookBehindWidths = [] := by
  unfold setItems? at h
  split at h
  · rfl
  · rfl
  · cases h

theorem setItems?_of_mapM {rows : List (List Regex)} {items : List (List SetItem)}
    (h : rows.mapM setItems? = some items) {row : List Regex} (hrow : row ∈ rows) :
    ∃ is, setItems? row = some is := by
  induction rows generalizing items with
  | nil => cases hrow
  | cons xs rows ih =>
      rw [List.mapM_cons] at h
      rcases Option.bind_eq_some_iff.mp h with ⟨is, his, hrest⟩
      rcases Option.bind_eq_some_iff.mp hrest with ⟨items', hitems', _⟩
      rcases List.mem_cons.mp hrow with rfl | hmem
      · exact ⟨is, his⟩
      · exact ih hitems' hmem

/-- A choice asserts what its rows assert. -/
theorem mem_lookBehindWidths_choice {rows : List (List Regex)} {w : Width} :
    w ∈ (choice rows).lookBehindWidths ↔ ∃ row ∈ rows, w ∈ row.flatMap lookBehindWidths := by
  unfold choice
  cases hitems : rows.mapM setItems? with
  | some items =>
      constructor
      · intro hw
        cases hw
      · rintro ⟨row, hrow, hw⟩
        -- Rows that merge are single characters and sets, which assert nothing.
        rcases setItems?_of_mapM hitems hrow with ⟨is, his⟩
        rw [lookBehindWidths_of_setItems? his] at hw
        cases hw
  | none =>
      simp only [lookBehindWidths_oneOf, List.flatMap_map, lookBehindWidths_alternative]
      exact List.mem_flatMap

/-- Alternatives assert what the trees in their rows assert. -/
theorem mem_lookBehindWidths_alternatives {rows : List (List Regex)} {w : Width} :
    w ∈ (alternatives rows).lookBehindWidths ↔ ∃ row ∈ rows, w ∈ row.flatMap lookBehindWidths := by
  cases rows with
  | nil =>
      constructor
      · intro hw
        cases hw
      · rintro ⟨row, hrow, _⟩
        cases hrow
  | cons row rows =>
      cases rows with
      | nil =>
          simp only [alternatives, lookBehindWidths_seq, List.mem_singleton, exists_eq_left]
      | cons row' rows' =>
          -- What is shared asserts nothing on what precedes.
          have hshared : (sharedStart row (row' :: rows')).flatMap lookBehindWidths = [] :=
            List.flatMap_eq_nil_iff.mpr fun r hr =>
              lookBehindWidths_of_isShareable (isShareable_of_mem_sharedStart hr)
          -- What is dropped from a row is what the rows share.
          have hdrop (xs : List Regex) (hxs : xs ∈ row :: row' :: rows') :
              (xs.drop (sharedStart row (row' :: rows')).length).flatMap lookBehindWidths
                = xs.flatMap lookBehindWidths := by
            have hflat := congrArg (List.flatMap lookBehindWidths) (sharedStart_append_drop hxs)
            rw [List.flatMap_append, hshared, List.nil_append] at hflat
            exact hflat
          simp only [alternatives, lookBehindWidths_seq, List.flatMap_append, hshared,
            List.nil_append, List.flatMap_cons, List.flatMap_nil, List.append_nil,
            mem_lookBehindWidths_choice]
          constructor
          · rintro ⟨ys, hys, hw⟩
            rcases List.mem_map.mp hys with ⟨xs, hxs, rfl⟩
            exact ⟨xs, hxs, hdrop xs hxs ▸ hw⟩
          · rintro ⟨xs, hxs, hw⟩
            exact ⟨_, List.mem_map.mpr ⟨xs, hxs, rfl⟩, (hdrop xs hxs).symm ▸ hw⟩

end Regex

end NamePatterns
