import NamePatterns.Proofs.Regex.Joining
import NamePatterns.Proofs.Regex.Renumbering

/-!
# Matching Alternatives

Alternatives match as the first of their rows that matches does.

While a text is read, what all alternatives start with is written once in front
of the choice between them, and a choice between single characters becomes one
set. Neither changes what is found. What rows share sets no marks and matches in
one way at most, so trying the rows one after the other behind it is trying each
of them from the start. And where no marks are set before, an alternative that
fails leaves none behind for the next one.

So a tree that was read from several texts finds what the first of the texts
finds that finds anything, wherever the texts do not ask for each other's groups.

Everything is stated of what is found and not of the search itself, since the
search for alternatives and the searches for their rows do not leave the same
trails. Three simplifications have to be undone on the way: the shared start,
the set that single characters are merged into, and the test of the first
character before an alternative is entered. Each of them has a lemma that says
that it finds the same.

That a set of characters is tried once where the rows would be tried one after
the other is harmless only because the continuation is the same for all rows and
does not depend on which of them has matched.

Widths are compared in the same way. They are cut off at a limit, so that a row
is as wide as its trees together holds only up to the limit, and all of it is
phrased as lower bounds.

## Main definitions

* `Attempt.found`, `Regex.found`: Whether a match is found, and whether the groups
  are in order in it.

## Theorems

* `search_shareable`: What rows can share matches in one way at most.
* `found_oneOf`, `found_choice`, `found_alternatives`: What alternatives find.
* `found_outline`: What a tree finds behind groups.
* `fullMatch_true_iff`, `fullMatch_error_iff`: What becomes of a match that is found.
* `le_width_alternatives`: How wide alternatives are.
* `found_joinedRows`, `le_width_joinedRows`: Several texts as alternatives.
-/

namespace NamePatterns

namespace Regex

/-- Whether groups are in order in a match, if there is one. -/
def Attempt.found (a : Attempt) : Option Bool :=
  a.trail?.map Trail.isOrdered

/-- Whether groups are in order in the match that is found for a whole text, if
    there is one. -/
def found (r : Regex) (text : List Char) : Option Bool :=
  (r.attempt text).found

namespace Attempt

theorem Alike.found_eq {k : Nat} {strict : Prop} {a b : Attempt} (h : Alike k strict a b) :
    b.found = a.found := by
  cases h with
  | success h => exact congrArg some h.isOrdered
  | failure h => rfl

/-- What is found by one attempt or, failing that, by another one. -/
theorem found_orElse {a : Attempt} {next : Trail → Attempt} {o : Option Bool}
    (hnext : ∀ t, (next t).found = o) : (a.orElse next).found = a.found.or o := by
  cases a with
  | success t => rfl
  | failure t => exact hnext t

theorem found_onFailure (a : Attempt) (change : Trail → Trail) :
    (a.onFailure change).found = a.found := by
  cases a <;> rfl

end Attempt

theorem findSome?_congr {α β : Type} {f g : α → Option β} {xs : List α}
    (h : ∀ x ∈ xs, f x = g x) : xs.findSome? f = xs.findSome? g := by
  induction xs with
  | nil => rfl
  | cons x xs ih =>
      rw [List.findSome?_cons, List.findSome?_cons, h x List.mem_cons_self,
        ih fun y hy => h y (List.mem_cons_of_mem _ hy)]

section

variable {whole : List Char} {f : Flags} {rest : Rest} {t : Trail}

/-- What the trail has reached does not matter for what is found. -/
theorem found_search_congr (hrest : Rest.Alike 0 False rest rest) {u : Trail}
    (h : u.marks = t.marks) (repeated : Bool) (r : Regex) (ahead : Option (Char → Bool))
    (p : Place) :
    (search whole f repeated r ahead p u rest).found
      = (search whole f repeated r ahead p t rest).found := by
  -- Behind no groups, being alike means to have the same marks.
  have halike : t.Alike 0 False u := ⟨by rw [behindMarks_zero]; exact h, False.elim⟩
  have hsearch := search_alike (k := 0) whole f repeated r ahead False p t u rest rest halike hrest
  rw [outline_id] at hsearch
  exact hsearch.found_eq

/-- What rows can share leads to one place at most, and leaves the trail as it is. -/
theorem search_shareable {r : Regex} (h : r.isShareable = true) (p : Place) :
    ∃ o : Option Place, ∀ (ahead : Option (Char → Bool)) (t : Trail) (rest : Rest),
      t.marks = [] →
        search whole f false r ahead p t rest = o.elim (.failure t) fun q => rest q t := by
  -- A character leads to the place behind it, or nowhere.
  have htake (accepts : Char → Bool) :
      ∃ o : Option Place, ∀ (_ : Option (Char → Bool)) (t : Trail) (rest : Rest),
        t.marks = [] → takeChar accepts p t rest = o.elim (.failure t) fun q => rest q t := by
    cases p with
    | nil => exact ⟨none, fun _ _ _ _ => rfl⟩
    | cons c cs =>
        by_cases hc : accepts c = true
        · exact ⟨some cs, fun _ _ _ _ => if_pos hc⟩
        · exact ⟨none, fun _ _ _ _ => if_neg hc⟩
  cases r with
  | literal c | anyBut c | any | set negated items => exact htake _
  -- An anchor leads to the place where it stands, or nowhere.
  | lineStart =>
      by_cases hp : (p.length == whole.length
          || (f.multiline && p.previous? whole == some '\n')) = true
      · exact ⟨some p, fun _ _ _ _ => if_pos hp⟩
      · exact ⟨none, fun _ _ _ _ => if_neg hp⟩
  | lineEnd =>
      by_cases hp : (p.isEmpty || p == ['\n'] || (f.multiline && p.head? == some '\n')) = true
      · exact ⟨some p, fun _ _ _ _ => if_pos hp⟩
      · exact ⟨none, fun _ _ _ _ => if_neg hp⟩
  | backref group w =>
      refine ⟨none, fun _ t rest ht => ?_⟩
      -- No group is set, so a reference matches nothing.
      have hnone : t.matched? group = none := by
        unfold Trail.matched?
        rw [ht]
        rfl
      simp only [search, hnone]
      rfl
  | _ => cases h

/-- A row is its first tree and the rest of the row behind it. -/
theorem search_seq_cons (repeated : Bool) (r : Regex) (rs : List Regex) :
    ∃ ahead, ∀ (p : Place) (t : Trail) (rest : Rest),
      search whole f repeated (seq (r :: rs)) none p t rest
        = search whole f repeated r ahead p t fun q u =>
            search whole f repeated (seq rs) none q u rest := by
  cases rs with
  | nil => exact ⟨none, fun _ _ _ => rfl⟩
  | cons r' rs' => exact ⟨_, fun _ _ _ => rfl⟩

/-- Behind what rows can share, the rest of a row is tried at one place at most. -/
theorem search_seq_append {xs : List Regex} (h : ∀ x ∈ xs, x.isShareable = true) (p : Place) :
    ∃ o : Option Place, ∀ (ys : List Regex) (t : Trail) (rest : Rest), t.marks = [] →
      search whole f false (seq (xs ++ ys)) none p t rest
        = o.elim (.failure t) fun q => search whole f false (seq ys) none q t rest := by
  induction xs generalizing p with
  | nil => exact ⟨some p, fun _ _ _ _ => rfl⟩
  | cons x xs ih =>
      have hxs : ∀ y ∈ xs, y.isShareable = true := fun y hy => h y (List.mem_cons_of_mem _ hy)
      rcases @search_shareable whole f x (h x List.mem_cons_self) p with ⟨_ | q, ho⟩
      -- What is shared does not match here, so no row does.
      · refine ⟨none, fun ys t rest ht => ?_⟩
        rcases @search_seq_cons whole f false x (xs ++ ys) with ⟨ahead, hcons⟩
        rw [List.cons_append, hcons]
        exact ho ahead t _ ht
      · rcases ih hxs q with ⟨o, hrest⟩
        refine ⟨o, fun ys t rest ht => ?_⟩
        rcases @search_seq_cons whole f false x (xs ++ ys) with ⟨ahead, hcons⟩
        rw [List.cons_append, hcons]
        exact (ho ahead t _ ht).trans (hrest ys t rest ht)

/-- Testing first what a tree starts with does not change what the tree finds. -/
theorem found_enter (hrest : Rest.Alike 0 False rest rest) {u : Trail} (h : u.marks = t.marks)
    (r : Regex) (p : Place) :
    (enter (opening f r) (search whole f false r none) p u rest).found
      = (search whole f false r none p t rest).found := by
  unfold enter
  by_cases hr : (opening f r).excludes p = true
  · rw [if_pos hr, search_of_excludes hr]
    rfl
  · rw [if_neg hr]
    have hmarks : (u.goto p).marks = t.marks := h
    exact found_search_congr hrest hmarks false r none p

/-- Several trees find what the first of them finds that finds anything. -/
theorem found_oneOf (hrest : Rest.Alike 0 False rest rest) (r : Regex) (rs : List Regex)
    (p : Place) (ht : t.marks = []) :
    (search whole f false (oneOf (r :: rs)) none p t rest).found
      = (r :: rs).findSome? fun x => (search whole f false x none p t rest).found := by
  induction rs generalizing r with
  | nil =>
      rw [List.findSome?_cons]
      cases hr : (search whole f false r none p t rest).found with
      | none => exact hr
      | some b => exact hr
  | cons r' rs ih =>
      have hrestored (u : Trail) : (u.restored false t.marks).marks = t.marks := by
        rw [ht]
        exact u.restored_nil false
      -- A second alternative starts with the marks of the first one, which are none.
      have hsecond (u : Trail) :
          ((if (oneOf (r' :: rs)).isAlt then
              search whole f false (oneOf (r' :: rs)) none p (u.restored false t.marks) rest
            else
              enter (opening f (oneOf (r' :: rs))) (search whole f false (oneOf (r' :: rs)) none) p
                (u.restored false t.marks) rest).onFailure (·.restored false t.marks)).found
            = (r' :: rs).findSome? fun x => (search whole f false x none p t rest).found := by
        rw [Attempt.found_onFailure, ← ih]
        -- The test of the first character is made only where the last alternative is reached.
        by_cases halt : (oneOf (r' :: rs)).isAlt = true
        · rw [if_pos halt]
          exact found_search_congr hrest (hrestored u) false _ none p
        · rw [if_neg halt]
          exact found_enter hrest (hrestored u) _ p
      refine (Attempt.found_orElse hsecond).trans (Eq.trans ?_ List.findSome?_cons.symm)
      rw [found_enter hrest rfl]
      cases (search whole f false r none p t rest).found <;> rfl

/-- A row inside a choice finds what the row finds. -/
theorem found_alternative (row : List Regex) (p : Place) :
    search whole {} false (alternative row) none p t rest
      = search whole {} false (seq row) none p t rest := by
  unfold alternative
  split
  · rfl
  · rfl

theorem found_takeChar (accepts : Char → Bool) (c : Char) (cs : List Char) :
    (takeChar accepts (c :: cs) t rest).found
      = if accepts c = true then (rest cs t).found else none := by
  show (if accepts c = true then rest cs t else Attempt.failure t).found = _
  split <;> rfl

/-- Where case is not ignored, a set holds what its items hold. -/
theorem setMatches_plain (items : List SetItem) :
    setMatches {} false items = fun c => items.any (·.contains c) := by
  funext c
  show (items.any (·.contains c) != false) = items.any (·.contains c)
  cases items.any (·.contains c) <;> rfl

/-- A row that is one character or one set takes a character that an item holds. -/
theorem search_of_setItems? {row : List Regex} {items : List SetItem}
    (h : setItems? row = some items) (p : Place) :
    search whole {} false (seq row) none p t rest
      = takeChar (fun c => items.any (·.contains c)) p t rest := by
  unfold setItems? at h
  split at h
  · next c =>
      -- A character is a set of one item.
      have haccepts : literalMatches {} c = fun d => [SetItem.single c].any (·.contains d) := by
        funext d
        exact (Bool.or_false _).symm
      rw [← Option.some.inj h, ← haccepts]
      rfl
  · next is =>
      rw [← Option.some.inj h, ← setMatches_plain]
      rfl
  · cases h

/-- One set finds what the first of the rows finds whose items it has. -/
theorem found_sets {rows : List (List Regex)} {items : List (List SetItem)}
    (hitems : rows.mapM setItems? = some items) (p : Place) :
    (takeChar (fun c => items.flatten.any (·.contains c)) p t rest).found
      = rows.findSome? fun row => (search whole {} false (seq row) none p t rest).found := by
  induction rows generalizing items with
  | nil =>
      cases hitems
      cases p <;> rfl
  | cons row rows ih =>
      rw [List.mapM_cons] at hitems
      rcases Option.bind_eq_some_iff.mp hitems with ⟨is, his, hmap⟩
      rcases Option.bind_eq_some_iff.mp hmap with ⟨items', hitems', heq⟩
      cases heq
      rw [List.findSome?_cons, search_of_setItems? his, ← ih hitems']
      cases p with
      | nil => rfl
      | cons c cs =>
          simp only [found_takeChar, List.flatten_cons, List.any_append, Bool.or_eq_true]
          -- The first row takes the character, or what is found is left to the others.
          by_cases hfirst : is.any (·.contains c) = true
          · rw [if_pos (Or.inl hfirst), if_pos hfirst]
            cases (rest cs t).found with
            -- The set has found it as well; failing that, another row with the same character
            -- would fail behind it in the same way.
            | some b => rfl
            | none => exact (ite_self none).symm
          · rw [if_neg hfirst]
            simp only [hfirst, Bool.false_eq_true, false_or]

/-- A choice finds what the first of its rows finds that finds anything. -/
theorem found_choice (hrest : Rest.Alike 0 False rest rest) {rows : List (List Regex)}
    (hne : rows ≠ []) (p : Place) (ht : t.marks = []) :
    (search whole {} false (choice rows) none p t rest).found
      = rows.findSome? fun row => (search whole {} false (seq row) none p t rest).found := by
  unfold choice
  cases hitems : rows.mapM setItems? with
  | none =>
      obtain ⟨row, rows, rfl⟩ := List.exists_cons_of_ne_nil hne
      dsimp only
      rw [List.map_cons, found_oneOf hrest _ _ p ht, ← List.map_cons, List.findSome?_map]
      congr 1
      funext row
      exact congrArg Attempt.found (found_alternative row p)
  | some items =>
      -- Items that are there twice are written once, which the set does not show.
      have haccepts : setMatches {} false items.flatten.eraseDups
          = fun c => items.flatten.any (·.contains c) := by
        rw [setMatches_plain]
        funext c
        rw [Bool.eq_iff_iff]
        simp only [List.any_eq_true, List.mem_eraseDups]
      rw [← found_sets hitems p, ← haccepts]
      rfl

/-- Alternatives find what the first of their rows finds that finds anything. -/
theorem found_alternatives (hrest : Rest.Alike 0 False rest rest) {rows : List (List Regex)}
    (hne : rows ≠ []) (p : Place) (ht : t.marks = []) :
    (search whole {} false (alternatives rows) none p t rest).found
      = rows.findSome? fun row => (search whole {} false (seq row) none p t rest).found := by
  obtain ⟨row, others, rfl⟩ := List.exists_cons_of_ne_nil hne
  cases others with
  | nil =>
      rw [List.findSome?_cons]
      show (search whole {} false (seq row) none p t rest).found = _
      cases (search whole {} false (seq row) none p t rest).found <;> rfl
  | cons row' rows =>
      have hshareable : ∀ x ∈ sharedStart row (row' :: rows), x.isShareable = true :=
        fun x hx => isShareable_of_mem_sharedStart hx
      -- Each row is what all of them share and the rest of it.
      have hdrop (xs : List Regex) (hxs : xs ∈ row :: row' :: rows) :=
        (sharedStart_append_drop hxs).symm
      simp only [alternatives]
      generalize sharedStart row (row' :: rows) = shared at hshareable hdrop ⊢
      rcases @search_seq_append whole {} shared hshareable p with ⟨_ | q, ho⟩
      · rw [ho _ t rest ht]
        refine (List.findSome?_eq_none_iff.mpr fun xs hxs => ?_).symm
        rw [hdrop xs hxs, ho _ t rest ht]
        rfl
      · rw [ho _ t rest ht]
        show (search whole {} false (choice _) none q t rest).found = _
        rw [found_choice hrest (mt List.map_eq_nil_iff.mp hne) q ht, List.findSome?_map]
        refine findSome?_congr fun xs hxs => ?_
        show _ = (search whole {} false (seq xs) none p t rest).found
        rw [hdrop xs hxs, ho _ t rest ht, ← hdrop xs hxs]
        rfl

end

/-- Alternatives find in a whole text what the first of their rows finds that finds
    anything. -/
theorem found_eq_findSome? {rows : List (List Regex)} (hne : rows ≠ []) (text : List Char) :
    (alternatives rows).found text = rows.findSome? fun row => (seq row).found text :=
  found_alternatives atEnd_alike hne text rfl

/-- A tree behind groups finds what it finds alone. -/
theorem found_outline (k : Nat) (r : Regex) (text : List Char) :
    (r.outline id k).found text = r.found text := by
  have halike : Trail.Alike k True ⟨text, []⟩ ⟨text, []⟩ := ⟨rfl, fun _ => rfl⟩
  exact (search_alike text {} false r none True text _ _ _ _ halike atEnd_alike).found_eq

theorem verdict_true_iff {o : Option Trail} :
    verdict o = .ok true ↔ o.map Trail.isOrdered = some true := by
  cases o with
  | none => simp only [verdict, Option.map_none, Except.ok.injEq, Bool.false_eq_true, reduceCtorEq]
  | some t =>
      rw [verdict, Option.map_some]
      cases t.isOrdered with
      | true => simp only [if_true]
      | false => simp only [Bool.false_eq_true, if_false, reduceCtorEq, Option.some.injEq]

theorem verdict_error_iff {o : Option Trail} {e : LimitError} :
    verdict o = .error e ↔ e = .groupOrder ∧ o.map Trail.isOrdered = some false := by
  cases o with
  | none => simp only [verdict, Option.map_none, reduceCtorEq, and_false]
  | some t =>
      rw [verdict, Option.map_some]
      cases t.isOrdered with
      | true => simp only [if_true, reduceCtorEq, Option.some.injEq, and_false]
      | false =>
          simp only [Bool.false_eq_true, if_false, Except.error.injEq, and_true]
          exact eq_comm

/-- A name is matched where a match with its groups in order is found. -/
theorem fullMatch_true_iff {r : Regex} {text : List Char} :
    r.fullMatch text = .ok true ↔ r.width.low ≤ text.length ∧ r.found text = some true := by
  unfold fullMatch
  by_cases hshort : text.length < r.width.low
  · rw [if_pos hshort]
    constructor
    · intro h
      cases h
    · rintro ⟨hle, _⟩
      omega
  · rw [if_neg hshort, verdict_true_iff]
    exact ⟨fun hfound => ⟨Nat.not_lt.mp hshort, hfound⟩, fun h => h.2⟩

/-- Matching fails where a match with a group that ends before it starts is found. -/
theorem fullMatch_error_iff {r : Regex} {text : List Char} {e : LimitError} :
    r.fullMatch text = .error e ↔
      e = .groupOrder ∧ r.width.low ≤ text.length ∧ r.found text = some false := by
  unfold fullMatch
  by_cases hshort : text.length < r.width.low
  · rw [if_pos hshort]
    constructor
    · intro h
      cases h
    · rintro ⟨_, hle, _⟩
      omega
  · rw [if_neg hshort, verdict_error_iff]
    exact ⟨fun h => ⟨h.1, Nat.not_lt.mp hshort, h.2⟩, fun h => ⟨h.1, h.2.2⟩⟩

theorem width_low_lt (r : Regex) : r.width.low < countLimit := by
  have hclamped (low high : Nat) : (Width.clamped low high).low < countLimit := by
    -- No width is beyond the limit.
    show min low (countLimit - 1) < countLimit
    have hlimit : 0 < countLimit := by decide
    omega
  induction r with
  | cat a b iha ihb | repetition low high greed r ih | backref group w => exact hclamped _ _
  | alt a b iha ihb | conditional group a b iha ihb =>
      show min a.width.low b.width.low < countLimit
      omega
  | capture group r ih | flagged change r ih | atomic r ih => exact ih
  | literal c | any | anyBut c | set negated items =>
      show 1 < countLimit
      decide
  | _ =>
      show 0 < countLimit
      decide

/-- A row is as wide as its first tree and the rest of the row behind it. -/
theorem width_seq_cons (r : Regex) (rs : List Regex) :
    (seq (r :: rs)).width.low = min (r.width.low + (seq rs).width.low) (countLimit - 1) := by
  cases rs with
  | nil =>
      have hlt := r.width_low_lt
      show r.width.low = min (r.width.low + 0) (countLimit - 1)
      omega
  | cons r' rs' => rfl

/-- What several rows go on with decides how wide they are behind the same trees. -/
theorem le_width_seq_append {rows : List (List Regex)} (hne : rows ≠ []) {r : Regex}
    (h : ∀ n, n ≤ r.width.low ↔ ∀ row ∈ rows, n ≤ (seq row).width.low) (xs : List Regex) (n : Nat) :
    n ≤ (seq (xs ++ [r])).width.low ↔ ∀ row ∈ rows, n ≤ (seq (xs ++ row)).width.low := by
  induction xs generalizing n with
  | nil => exact h n
  | cons x xs ih =>
      -- Some row is there, which bounds what is shared by the limit too.
      obtain ⟨row₀, hrow₀⟩ := List.exists_mem_of_ne_nil rows hne
      simp only [List.cons_append, width_seq_cons, Nat.le_min]
      constructor
      · rintro ⟨hle, hlimit⟩ row hrow
        have := (ih (n - x.width.low)).mp (by omega) row hrow
        omega
      · intro hall
        have hlimit := (hall row₀ hrow₀).2
        have := (ih (n - x.width.low)).mpr fun row hrow => by
          have := (hall row hrow).1
          omega
        omega

theorem le_width_oneOf (r : Regex) (rs : List Regex) (n : Nat) :
    n ≤ (oneOf (r :: rs)).width.low ↔ ∀ x ∈ r :: rs, n ≤ x.width.low := by
  induction rs generalizing r with
  | nil => simp only [oneOf, List.mem_singleton, forall_eq]
  | cons r' rs ih =>
      show n ≤ min r.width.low (oneOf (r' :: rs)).width.low ↔ _
      simp only [Nat.le_min, ih, List.forall_mem_cons]

theorem width_alternative (row : List Regex) : (alternative row).width = (seq row).width := by
  unfold alternative
  split <;> rfl

theorem width_of_setItems? {row : List Regex} {items : List SetItem}
    (h : setItems? row = some items) : (seq row).width = Width.one := by
  unfold setItems? at h
  split at h
  · rfl
  · rfl
  · cases h

theorem le_width_choice {rows : List (List Regex)} (hne : rows ≠ []) (n : Nat) :
    n ≤ (choice rows).width.low ↔ ∀ row ∈ rows, n ≤ (seq row).width.low := by
  unfold choice
  cases hitems : rows.mapM setItems? with
  | none =>
      obtain ⟨row, rows, rfl⟩ := List.exists_cons_of_ne_nil hne
      simp only [List.map_cons, le_width_oneOf, List.forall_mem_cons, List.forall_mem_map,
        width_alternative]
  | some items =>
      -- Merged rows are one character wide each, and so is the set.
      have hone (row : List Regex) (hrow : row ∈ rows) : (seq row).width = Width.one := by
        rcases setItems?_of_mapM hitems hrow with ⟨is, his⟩
        exact width_of_setItems? his
      obtain ⟨row₀, hrow₀⟩ := List.exists_mem_of_ne_nil rows hne
      constructor
      · intro hn row hrow
        rw [hone row hrow]
        exact hn
      · intro hall
        have hn := hall row₀ hrow₀
        rw [hone row₀ hrow₀] at hn
        exact hn

/-- Alternatives are as wide as the least wide of their rows. -/
theorem le_width_alternatives {rows : List (List Regex)} (hne : rows ≠ []) (n : Nat) :
    n ≤ (alternatives rows).width.low ↔ ∀ row ∈ rows, n ≤ (seq row).width.low := by
  obtain ⟨row, others, rfl⟩ := List.exists_cons_of_ne_nil hne
  cases others with
  | nil => simp only [alternatives, List.mem_singleton, forall_eq]
  | cons row' rows =>
      have hdrop (xs : List Regex) (hxs : xs ∈ row :: row' :: rows) :=
        sharedStart_append_drop hxs
      simp only [alternatives]
      generalize sharedStart row (row' :: rows) = shared at hdrop ⊢
      -- From here on it does not matter what is shared, only that every row begins with it.
      have hne' := mt (List.map_eq_nil_iff (f := (List.drop shared.length))).mp hne
      rw [le_width_seq_append hne' (le_width_choice hne') shared n, List.forall_mem_map]
      constructor
      · intro hall xs hxs
        rw [← hdrop xs hxs]
        exact hall xs hxs
      · intro hall xs hxs
        rw [hdrop xs hxs]
        exact hall xs hxs

/-- Texts read one behind the other find what the first of them finds that finds
    anything. -/
theorem found_joinedRows (k : Nat) (ss : List Parser.State) (text : List Char) :
    ((Parser.joinedRows id k ss).findSome? fun row => (seq row).found text)
      = ss.findSome? fun s => (alternatives s.rows).found text := by
  induction ss generalizing k with
  | nil => rfl
  | cons s ss ih =>
      -- Behind the groups of the texts before it, a text finds what it finds alone.
      have hrows : (s.rows.map (outlines id k)).findSome? (fun row => (seq row).found text)
          = (alternatives s.rows).found text := by
        rw [found_eq_findSome? s.rows_ne_nil, List.findSome?_map]
        refine findSome?_congr fun row _ => ?_
        show (seq (outlines id k row)).found text = _
        rw [← outline_seq, found_outline]
      rw [Parser.joinedRows, List.findSome?_append, hrows, ih, List.findSome?_cons]
      cases (alternatives s.rows).found text <;> rfl

theorem le_width_joinedRows {k : Nat} {ss : List Parser.State} {n : Nat} :
    (∀ row ∈ Parser.joinedRows id k ss, n ≤ (seq row).width.low) ↔
      ∀ s ∈ ss, n ≤ (alternatives s.rows).width.low := by
  induction ss generalizing k with
  | nil => exact ⟨nofun, nofun⟩
  | cons s ss ih =>
      simp only [Parser.joinedRows, List.forall_mem_append, List.forall_mem_map, ih,
        List.forall_mem_cons, le_width_alternatives s.rows_ne_nil, ← outline_seq, width_outline]

end Regex

end NamePatterns
