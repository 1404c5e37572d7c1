import NamePatterns.Proofs.Regex.Outline
import NamePatterns.Regex.Match

/-!
# Searching Behind Groups

How the search for a tree behind other groups compares with the search for the
tree alone.

Behind `k` groups that are not set, all marks of a tree are set at numbers that
are greater by the same amount. Whatever a search does with its trail commutes
with that: it sets marks, cuts them back to how many there were, and looks them
up. So both searches come to the same, with marks behind those of `k` groups.

What a trail says of the place reached last matters only where a possessive
repetition fails, and there both searches have started from one place. So two
trails may differ in it, unless the comparison is strict. With no groups before
the tree, this says that a search depends on the marks of its trail alone.

The comparison is stated as a relation between searches, and not as an equation,
because a search takes what follows it as a continuation: two continuations that
behave alike need not be equal, and no equation says what becomes of them. Every
function of the search gets one lemma, which takes comparable parts to a
comparable whole. The induction over trees at the end only puts these together,
with one case for each kind of tree.

Failed attempts are compared as well as successful ones. A search that fails
leaves a trail too, and what is left on it can be seen later: a group that was
set in vain stays set wherever it is not put back.

## Main definitions

* `behindMarks`: Marks behind those of groups that are not set.
* `Trail.Alike`, `Attempt.Alike`, `Rest.Alike`, `Matcher.Alike`: Searches
  compared.

## Theorems

* `Matcher.Alike.repeatSingle`, `Matcher.Alike.repeatAny`: Repetitions.
* `search_alike`: Searches for a tree behind groups and alone.
-/

namespace NamePatterns

namespace Regex

/-- Marks behind those of `k` groups that are not set. Where there are none, none
    are there before them either. -/
def behindMarks (k : Nat) : List (Option Place) → List (Option Place)
  | [] => []
  | m :: ms => List.replicate (2 * k) none ++ m :: ms

/-- Where there is a mark at all, those of the groups before are there as well. -/
theorem behindMarks_of_ne_nil (k : Nat) {ms : List (Option Place)} (h : ms ≠ []) :
    behindMarks k ms = List.replicate (2 * k) none ++ ms := by
  cases ms with
  | nil => exact absurd rfl h
  | cons m ms => rfl

@[simp] theorem behindMarks_zero (ms : List (Option Place)) : behindMarks 0 ms = ms := by
  cases ms <;> rfl

/-- Marks that are looked up behind those of other groups. -/
theorem getElem?_behindMarks (k : Nat) (ms : List (Option Place)) (n : Nat) :
    (behindMarks k ms)[n + 2 * k]? = ms[n]? := by
  cases ms with
  | nil => rfl
  | cons m ms =>
      have hlength : (List.replicate (2 * k) (none : Option Place)).length = 2 * k :=
        List.length_replicate
      rw [behindMarks, List.getElem?_append_right (by omega), hlength, Nat.add_sub_cancel]

/-- Marks that are cut back to how many there were. -/
theorem take_behindMarks (k : Nat) (ms ns : List (Option Place)) :
    (behindMarks k ms).take (behindMarks k ns).length = behindMarks k (ms.take ns.length) := by
  cases ns with
  | nil => rfl
  | cons n ns =>
      cases ms with
      | nil => simp only [behindMarks, List.take_nil]
      | cons m ms =>
          simp only [behindMarks, List.length_append, List.length_replicate, List.length_cons,
            List.take_succ_cons]
          rw [List.take_append]
          simp only [List.length_replicate, Nat.add_sub_cancel_left, List.take_succ_cons]
          rw [List.take_of_length_le (by rw [List.length_replicate]; omega)]

/-- No mark of the groups before is out of order. -/
theorem inOrder_behindMarks (k : Nat) (ms : List (Option Place)) :
    Trail.inOrder (behindMarks k ms) = Trail.inOrder ms := by
  cases ms with
  | nil => rfl
  | cons m ms =>
      show Trail.inOrder (List.replicate (2 * k) none ++ m :: ms) = _
      -- Two marks that are not set are dropped for each group, which is how the test skips
      -- them.
      induction k with
      | zero => rfl
      | succ k ih => exact ih

/-- Trails of which the second one has the marks of the first one behind those of
    `k` groups and, where that is asked for, has reached the same place. -/
structure Trail.Alike (k : Nat) (strict : Prop) (t u : Trail) : Prop where
  marks : u.marks = behindMarks k t.marks
  reached : strict → u.reached = t.reached

namespace Trail.Alike

variable {k : Nat} {strict : Prop} {t u t' u' : Trail}

-- Going to a place makes a comparison strict, and everything else keeps what it was.
theorem weaken (h : Alike k True t u) : Alike k strict t u :=
  ⟨h.marks, fun _ => h.reached trivial⟩

/-- Whatever they have reached before, trails that go to one place have reached the same. -/
theorem goto (h : Alike k strict t u) (p : Place) : Alike k True (t.goto p) (u.goto p) :=
  ⟨h.marks, fun _ => rfl⟩

/-- A mark keeps its place behind the marks of the groups before, whether it is set again or
    for the first time. -/
theorem mark (h : Alike k strict t u) (n : Nat) (p : Place) :
    Alike k strict (t.mark n p) (u.mark (n + 2 * k) p) := by
  refine ⟨?_, ?_⟩
  · unfold Trail.mark
    -- Without marks there is nothing to fill up with, and the first mark fills up.
    by_cases hempty : t.marks = []
    · have hmarks : u.marks = [] := by rw [h.marks, hempty]; rfl
      rw [hempty, hmarks]
      simp only [List.length_nil, Nat.not_lt_zero, if_false, Nat.sub_zero, List.nil_append]
      rw [behindMarks_of_ne_nil k (by simp only [ne_eq, List.append_eq_nil_iff, List.cons_ne_self,
        and_false, not_false_eq_true]), ← List.append_assoc, List.replicate_append_replicate,
        Nat.add_comm n]
    · have hmarks := h.marks
      rw [behindMarks_of_ne_nil k hempty] at hmarks
      have hlength : u.marks.length = t.marks.length + 2 * k := by
        rw [hmarks, List.length_append, List.length_replicate, Nat.add_comm]
      -- A mark is set in place where there is one already; behind the last one the gap is
      -- filled up first, by as much on either side.
      by_cases hn : n < t.marks.length
      · rw [if_pos hn, if_pos (by omega)]
        have hset : t.marks.set n (some p) ≠ [] := by
          intro hnil
          have := congrArg List.length hnil
          rw [List.length_set, List.length_nil] at this
          omega
        rw [behindMarks_of_ne_nil k hset, hmarks,
          List.set_append_right _ _ (by rw [List.length_replicate]; omega),
          List.length_replicate, Nat.add_sub_cancel]
      · rw [if_neg hn, if_neg (by omega)]
        have hne : t.marks ++ List.replicate (n - t.marks.length) none ++ [some p] ≠ [] := by
          simp only [ne_eq, List.append_eq_nil_iff, List.cons_ne_self, and_false, not_false_eq_true]
        have hfill : n + 2 * k - u.marks.length = n - t.marks.length := by omega
        rw [behindMarks_of_ne_nil k hne, hfill, hmarks]
        simp only [List.append_assoc]
  · intro hstrict
    unfold Trail.mark
    split <;> split <;> exact h.reached hstrict

/-- The number of a group grows by `k`, and so the number of its first mark by twice as much. -/
theorem openGroup (h : Alike k strict t u) (group : Nat) (p : Place) :
    Alike k strict (t.openGroup group p) (u.openGroup (group + k) p) := by
  unfold Trail.openGroup
  rw [Nat.mul_add]
  exact h.mark _ p

theorem closeGroup (h : Alike k strict t u) (group : Nat) (p : Place) :
    Alike k strict (t.closeGroup group p) (u.closeGroup (group + k) p) := by
  unfold Trail.closeGroup
  -- A group has two marks, so `k` groups before it shift both by `2 * k`.
  rw [show 2 * (group + k) + 1 = 2 * group + 1 + 2 * k by omega]
  exact h.mark _ p

/-- Marks that are put back are alike if those that were saved are, and marks that are cut back
    are cut to as many. -/
theorem restored (h : Alike k strict t u) (putBack : Bool) {ms ns : List (Option Place)}
    (hms : ns = behindMarks k ms) :
    Alike k strict (t.restored putBack ms) (u.restored putBack ns) := by
  refine ⟨?_, h.reached⟩
  rw [hms]
  cases putBack with
  | true => rfl
  | false =>
      show u.marks.take (behindMarks k ms).length = behindMarks k (t.marks.take ms.length)
      rw [h.marks, take_behindMarks]

/-- A group has matched the same text, as its marks are looked up where they were set. -/
theorem matched? (h : Alike k strict t u) (group : Nat) :
    u.matched? (group + k) = t.matched? group := by
  unfold Trail.matched?
  rw [h.marks, Nat.mul_add, getElem?_behindMarks,
    show 2 * group + 2 * k + 1 = 2 * group + 1 + 2 * k by omega, getElem?_behindMarks]

theorem isOrdered (h : Alike k strict t u) : u.isOrdered = t.isOrdered := by
  unfold Trail.isOrdered
  rw [h.marks, inOrder_behindMarks]

end Trail.Alike

/-- Attempts of which the second one comes to what the first one comes to, behind
    `k` groups. A match has reached the same place. -/
inductive Attempt.Alike (k : Nat) (strict : Prop) : Attempt → Attempt → Prop where
  | success {t u : Trail} (h : t.Alike k True u) : Alike k strict (.success t) (.success u)
  | failure {t u : Trail} (h : t.Alike k strict u) : Alike k strict (.failure t) (.failure u)

/-- Continuations of which the second one goes on behind `k` groups as the first
    one does. -/
def Rest.Alike (k : Nat) (strict : Prop) (rest rest' : Rest) : Prop :=
  ∀ p t u, t.Alike k strict u → (rest p t).Alike k strict (rest' p u)

/-- Matchers of which the second one does behind `k` groups what the first one
    does. -/
def Matcher.Alike (k : Nat) (m m' : Matcher) : Prop :=
  ∀ (strict : Prop) p t u rest rest', t.Alike k strict u → Rest.Alike k strict rest rest' →
    (m p t rest).Alike k strict (m' p u rest')

section

variable {k : Nat} {strict : Prop}

namespace Attempt.Alike

variable {a b : Attempt}

theorem weaken (h : Alike k True a b) : Alike k strict a b := by
  cases h with
  | success h => exact .success h
  | failure h => exact .failure h.weaken

/-- A choice by what both searches know. -/
theorem ite {p : Prop} [Decidable p] {a' b' : Attempt} (hthen : p → Alike k strict a b)
    (helse : ¬p → Alike k strict a' b') :
    Alike k strict (if p then a else a') (if p then b else b') := by
  by_cases h : p
  · rw [if_pos h, if_pos h]
    exact hthen h
  · rw [if_neg h, if_neg h]
    exact helse h

/-- The second attempt is made on what the first one has left, so it is compared on every such
    pair. -/
theorem orElse (h : Alike k strict a b) {f g : Trail → Attempt}
    (hnext : ∀ t u, t.Alike k strict u → Alike k strict (f t) (g u)) :
    Alike k strict (a.orElse f) (b.orElse g) := by
  cases h with
  | success h => exact .success h
  | failure h => exact hnext _ _ h

/-- What a failure leaves is changed alike. -/
theorem onFailure (h : Alike k strict a b) {f g : Trail → Trail}
    (hchange : ∀ t u, t.Alike k strict u → (f t).Alike k strict (g u)) :
    Alike k strict (a.onFailure f) (b.onFailure g) :=
  h.orElse fun t u htu => .failure (hchange t u htu)

/-- What follows a match is only compared on trails that have reached the same place. -/
theorem andThen (h : Alike k strict a b) {f g : Trail → Attempt}
    (hnext : ∀ t u, t.Alike k True u → Alike k strict (f t) (g u)) :
    Alike k strict (a.andThen f) (b.andThen g) := by
  cases h with
  | success h => exact hnext _ _ h
  | failure h => exact .failure h

end Attempt.Alike

-- The two continuations that a search starts with; all others are built from these.
theorem accept_alike : Rest.Alike k strict accept accept :=
  fun p _ _ h => .success (h.goto p)

theorem atEnd_alike : Rest.Alike k strict atEnd atEnd := by
  intro p t u h
  cases p with
  | nil => exact .success (h.goto [])
  | cons c cs => exact .failure h

namespace Matcher.Alike

variable {m m' : Matcher}

theorem takeChar (accepts : Char → Bool) :
    Matcher.Alike k (Regex.takeChar accepts) (Regex.takeChar accepts) := by
  intro strict p t u rest rest' h hrest
  cases p with
  | nil => exact .failure h
  | cons c cs =>
      exact .ite (fun _ => hrest cs t u h) fun _ => .failure h

/-- The text of a group is taken character by character. -/
theorem takeText (f : Flags) (text : List Char) :
    Matcher.Alike k (Regex.takeText f text) (Regex.takeText f text) := by
  induction text with
  | nil => exact fun _ p t u _ _ h hrest => hrest p t u h
  | cons c cs ih =>
      intro strict p t u rest rest' h hrest
      exact takeChar _ strict p t u _ _ h fun q t' u' h' => ih strict q t' u' _ _ h' hrest

/-- Whether an alternative is entered depends on the next character, which both searches see. -/
theorem enter (h : Matcher.Alike k m m') (o : Opening) :
    Matcher.Alike k (Regex.enter o m) (Regex.enter o m') := by
  intro strict p t u rest rest' ht hrest
  refine .ite (fun _ => .failure ht) fun _ => ?_
  exact h strict p _ _ _ _ (ht.goto p).weaken hrest

/-- The rest from the first of some places where it succeeds. -/
theorem tryEach {strict : Prop} {rest rest' : Rest} (hrest : Rest.Alike k strict rest rest')
    {restore restore' : Trail → Trail}
    (hrestore : ∀ t u, t.Alike k strict u → (restore t).Alike k strict (restore' u))
    (places : List Place) {t u : Trail} (h : t.Alike k strict u) :
    (Regex.tryEach restore rest places t).Alike k strict
      (Regex.tryEach restore' rest' places u) := by
  -- Each place is tried with what the places before it have left on the trail.
  induction places generalizing t u with
  | nil => exact .failure h
  | cons q qs ih =>
      refine (hrest q _ _ (h.goto q).weaken).orElse ?_
      intro t' u' h'
      exact ih (hrestore t' u' h')

/-- The places to be tried are the same, and the trail is restored in between on both sides. -/
theorem tryUpward {strict : Prop} {rest rest' : Rest} (hrest : Rest.Alike k strict rest rest')
    (s : Single) {restore restore' : Trail → Trail}
    (hrestore : ∀ t u, t.Alike k strict u → (restore t).Alike k strict (restore' u))
    (places : List Place) {t u : Trail} (h : t.Alike k strict u) :
    (Regex.tryUpward s restore rest places t).Alike k strict
      (Regex.tryUpward s restore' rest' places u) := by
  induction places generalizing t u with
  | nil => exact .failure h
  | cons q qs ih =>
      refine (hrest q _ _ (h.goto q).weaken).orElse ?_
      intro t' u' h'
      exact ih ((hrestore t' u' h').goto _).weaken

/-- A repetition of single characters counts them first, which has nothing to do with the
    trail. -/
theorem repeatSingle (s : Single) (greed : Greed) (low : Nat) (high : Option Nat)
    (putBack : Bool) (ahead : Option (Char → Bool)) :
    Matcher.Alike k (Regex.repeatSingle s greed low high putBack ahead)
      (Regex.repeatSingle s greed low high putBack ahead) := by
  intro strict p t u rest rest' h hrest
  refine .ite (fun _ => .failure h) fun _ => ?_
  -- Which places are tried is decided by the text alone.
  dsimp only
  generalize stops s.accepts _ p low (high.getD p.length) [] = found
  obtain ⟨farthest, places⟩ := found
  have hgoto : Trail.Alike k strict (t.goto (if s.advances then farthest else p))
      (u.goto (if s.advances then farthest else p)) := (h.goto _).weaken
  have hrestore (t' u' : Trail) (h' : t'.Alike k strict u') :=
    h'.restored putBack hgoto.marks
  cases greed with
  | greedy => exact tryEach hrest hrestore places hgoto
  | lazy => exact tryUpward hrest s hrestore places.reverse hgoto
  -- Only the farthest place counts, so there is nothing to restore.
  | possessive =>
      cases places with
      | nil => exact .failure hgoto
      | cons q qs => exact hrest q _ _ hgoto

-- The turns of a repetition are counted, so the inductions are on their number, and the body
-- is a continuation of itself.
theorem repeatExactly (h : Matcher.Alike k m m') (n : Nat) :
    Matcher.Alike k (Regex.repeatExactly m n) (Regex.repeatExactly m' n) := by
  induction n with
  | zero => exact fun _ p t u _ _ ht hrest => hrest p t u ht
  | succ n ih =>
      intro strict p t u rest rest' ht hrest
      exact h strict p t u _ _ ht fun q t' u' h' => ih strict q t' u' _ _ h' hrest

theorem repeatGreedy (h : Matcher.Alike k m m') (fuel : Nat) (high last : Option Nat) :
    Matcher.Alike k (Regex.repeatGreedy m fuel high last)
      (Regex.repeatGreedy m' fuel high last) := by
  induction fuel generalizing high last with
  | zero => exact fun _ p t u _ _ ht hrest => hrest p t u ht
  | succ fuel ih =>
      intro strict p t u rest rest' ht hrest
      refine .ite (fun _ => hrest p t u ht) fun _ => ?_
      -- A further turn is tried before the rest is.
      refine (h strict p t u _ _ ht fun q t' u' h' => ih _ _ strict q t' u' _ _ h' hrest).orElse ?_
      intro t' u' h'
      exact hrest p _ _ (h'.restored true ht.marks)

/-- A lazy repetition tries the rest before every turn, and puts the trail back before it goes
    on. -/
theorem repeatLazy (h : Matcher.Alike k m m') (putBack : Bool) (fuel : Nat)
    (high last : Option Nat) :
    Matcher.Alike k (Regex.repeatLazy m putBack fuel high last)
      (Regex.repeatLazy m' putBack fuel high last) := by
  induction fuel generalizing high last with
  | zero => exact fun _ p t u _ _ ht hrest => hrest p t u ht
  | succ fuel ih =>
      intro strict p t u rest rest' ht hrest
      refine (hrest p t u ht).orElse ?_
      intro t' u' h'
      -- The body is tried only where the rest has failed.
      have hrestored := h'.restored putBack ht.marks
      refine .ite (fun _ => .failure hrestored) fun _ => ?_
      exact h strict p _ _ _ _ hrestored fun q t' u' h' => ih _ _ strict q t' u' _ _ h' hrest

/-- The turns of a possessive repetition are matched one by one, and what they have reached is
    the same. -/
theorem repeatAtomic (h : Matcher.Alike k m m') (n : Nat) {t u : Trail} (ht : t.Alike k True u) :
    (Regex.repeatAtomic m n t).Alike k True (Regex.repeatAtomic m' n u) := by
  induction n generalizing t u with
  | zero => exact .success ht
  | succ n ih =>
      -- The next turn starts from the place reached last, which is the same.
      unfold Regex.repeatAtomic
      rw [ht.reached trivial]
      exact (h True _ t u _ _ ht accept_alike).andThen fun t' u' h' => ih h'

/-- What a failed iteration has reached is the same since both have started from
    one place. -/
theorem repeatWhile (h : Matcher.Alike k m m') (fuel : Nat) (high last : Option Nat)
    {t u : Trail} (ht : t.Alike k True u) :
    (Regex.repeatWhile m fuel high last t).Alike k True
      (Regex.repeatWhile m' fuel high last u) := by
  induction fuel generalizing high last t u with
  | zero => exact ht
  | succ fuel ih =>
      -- Here the place reached last is read from the trail, so the comparison has to be
      -- strict.
      have hbody := h True t.reached t u _ _ ht accept_alike
      simp only [Regex.repeatWhile, ht.reached trivial]
      by_cases hstop : (decide (high = some 0) || decide (last = some t.reached.length)) = true
      · rw [if_pos hstop, if_pos hstop]
        exact ht
      · rw [if_neg hstop, if_neg hstop]
        generalize m t.reached t accept = a at hbody
        generalize m' t.reached u accept = b at hbody
        cases hbody with
        | success h' => exact ih _ _ h'
        | failure h' => exact h'.restored true ht.marks

theorem repeatPossessive (h : Matcher.Alike k m m') (bound low : Nat) (high : Option Nat) :
    Matcher.Alike k (Regex.repeatPossessive m bound low high)
      (Regex.repeatPossessive m' bound low high) := by
  intro strict p t u rest rest' ht hrest
  have hlow := (repeatAtomic h low (ht.goto p)).onFailure fun t' u' h' => h'.goto p
  refine hlow.weaken.andThen fun t' u' h' => ?_
  have hwhile := repeatWhile h bound (high.map (· - low)) none h'
  -- The rest goes on from the place that the turns have reached.
  dsimp only
  rw [hwhile.reached trivial]
  exact hrest _ _ _ hwhile.weaken

theorem repeatAny (h : Matcher.Alike k m m') (greed : Greed) (bound low : Nat)
    (high : Option Nat) (putBack : Bool) :
    Matcher.Alike k (Regex.repeatAny m greed bound low high putBack)
      (Regex.repeatAny m' greed bound low high putBack) := by
  intro strict p t u rest rest' ht hrest
  cases greed with
  | greedy =>
      -- The turns that have to be taken come first, then those that may be taken.
      refine Attempt.Alike.onFailure ?_ fun t' u' h' => (h'.goto p).weaken
      exact repeatExactly h low strict p t u _ _ ht fun q t' u' h' =>
        repeatGreedy h bound _ none strict q t' u' _ _ h' hrest
  | lazy =>
      refine Attempt.Alike.onFailure ?_ fun t' u' h' => (h'.goto p).weaken
      exact repeatExactly h low strict p t u _ _ ht fun q t' u' h' =>
        repeatLazy h putBack bound _ none strict q t' u' _ _ h' hrest
  | possessive => exact repeatPossessive h bound low high strict p t u rest rest' ht hrest

end Matcher.Alike

-- What a search asks of a tree before it starts does not depend on the numbers of groups.
@[simp] theorem single?_outline (seen : Nat → Nat) (f : Flags) (r : Regex) :
    single? f (r.outline seen k) = single? f r := by
  induction r generalizing f with
  | flagged change r ih => exact ih _
  | _ => rfl

@[simp] theorem opening_outline (seen : Nat → Nat) (f : Flags) (r : Regex) :
    opening f (r.outline seen k) = opening f r := by
  induction r generalizing f with
  | cat a b iha ihb => simp only [outline, opening, iha, ihb]
  | flagged change r ih => exact ih _
  | _ => rfl

@[simp] theorem isAlt_outline (seen : Nat → Nat) (r : Regex) :
    (r.outline seen k).isAlt = r.isAlt := by
  cases r <;> rfl

@[simp] theorem isEmpty_outline (seen : Nat → Nat) (r : Regex) :
    (r.outline seen k).isEmpty = r.isEmpty := by
  cases r <;> rfl

/-- What follows an assertion that holds, or that has to fail and does. -/
theorem Attempt.Alike.asserted {t u : Trail} (h : t.Alike k strict u) {rest rest' : Rest}
    (hrest : Rest.Alike k strict rest rest') (negated : Bool) (p : Place) {repeated : Bool}
    {a b : Attempt} :
    Attempt.Alike k strict a b →
    Attempt.Alike k strict
      (match a, negated with
        | .success t', false => rest p t'
        | .failure t', true => rest p (t'.restored repeated t.marks)
        | .success t', true | .failure t', false => .failure t')
      (match b, negated with
        | .success u', false => rest' p u'
        | .failure u', true => rest' p (u'.restored repeated u.marks)
        | .success u', true | .failure u', false => .failure u') := by
  intro hbody
  cases hbody with
  | success h' =>
      cases negated with
      | true => exact .failure h'.weaken
      | false => exact hrest p _ _ h'.weaken
  | failure h' =>
      cases negated with
      | true => exact hrest p _ _ (h'.restored repeated h.marks)
      | false => exact .failure h'

/-- The search for a tree behind groups does what the search for the tree alone does. The
    flags, the repetition around a tree and the character that has to come next are passed
    down, so the induction is for all of them. -/
theorem search_alike (whole : List Char) (f : Flags) (repeated : Bool) (r : Regex)
    (ahead : Option (Char → Bool)) :
    Matcher.Alike k (search whole f repeated r ahead)
      (search whole f repeated (r.outline id k) ahead) := by
  induction r generalizing f repeated ahead with
  | empty => exact fun _ p t u _ _ h hrest => hrest p t u h
  -- Single characters leave no marks, and what they accept has no numbers.
  | literal c | anyBut c | any | set negated items => exact .takeChar _
  | lineStart | lineEnd =>
      intro strict p t u rest rest' h hrest
      exact .ite (fun _ => hrest p t u h) fun _ => .failure h
  -- The second tree is part of what follows the first one.
  | cat a b iha ihb =>
      intro strict p t u rest rest' h hrest
      simp only [outline, search, opening_outline]
      exact iha f repeated _ strict p t u _ _ h fun q t' u' h' =>
        ihb f repeated ahead strict q t' u' _ _ h' hrest
  | alt a b iha ihb =>
      intro strict p t u rest rest' h hrest
      simp only [outline, search, opening_outline, isAlt_outline]
      -- The second tree is searched with the marks that there were before the first one.
      have hrestore (t' u' : Trail) (h' : t'.Alike k strict u') := h'.restored repeated h.marks
      refine (Matcher.Alike.enter (iha f repeated none) _ strict p t u _ _ h hrest).orElse ?_
      intro t' u' h'
      refine Attempt.Alike.onFailure ?_ hrestore
      refine .ite (fun _ => ?_) fun _ => ?_
      · exact ihb f repeated none strict p _ _ _ _ (hrestore t' u' h') hrest
      · exact Matcher.Alike.enter (ihb f repeated none) _ strict p _ _ _ _ (hrestore t' u' h') hrest
  | repetition low high greed r ih =>
      simp only [outline, search, single?_outline]
      cases single? f r with
      | some s => exact .repeatSingle s greed low high repeated ahead
      | none => exact .repeatAny (ih f _ none) greed _ low high repeated
  -- The numbers of the marks are those that the outline writes.
  | capture group r ih =>
      intro strict p t u rest rest' h hrest
      exact ih f repeated none strict p _ _ _ _ (h.openGroup group p) fun q t' u' h' =>
        hrest q _ _ (h'.closeGroup group q)
  | flagged change r ih => exact ih (f.change change) repeated ahead
  -- What the body has reached is where the rest goes on.
  | atomic r ih =>
      intro strict p t u rest rest' h hrest
      have hbody := ih f repeated none strict p t u _ _ h accept_alike
      refine (hbody.onFailure fun t' u' h' => (h'.goto p).weaken).andThen fun t' u' h' => ?_
      rw [h'.reached trivial]
      exact hrest _ t' u' h'.weaken
  | lookAhead negated r ih =>
      intro strict p t u rest rest' h hrest
      have hbody := ih f repeated none strict p _ _ _ _ (h.goto p).weaken accept_alike
      exact .asserted h hrest negated p hbody
  -- The width says where to start, and an outline has the same width.
  | lookBehind negated r ih =>
      intro strict p t u rest rest' h hrest
      simp only [outline, search, width_outline]
      cases p.back? whole r.width.low with
      | none =>
          cases negated with
          | true => exact hrest p t u h
          | false => exact .failure h
      | some q =>
          have hbody := ih f repeated none strict q _ _ _ _ (h.goto q).weaken accept_alike
          exact .asserted h hrest negated p hbody
  -- Both look up the marks of one group, found at its number behind the others.
  | backref group w =>
      intro strict p t u rest rest' h hrest
      simp only [outline, search, h.matched?]
      cases t.matched? group with
      | some text => exact Matcher.Alike.takeText f text strict p t u rest rest' h hrest
      | none => exact .failure h
  | conditional group yes no ihyes ihno =>
      intro strict p t u rest rest' h hrest
      simp only [outline, search, id, h.matched?, isEmpty_outline]
      cases t.matched? group with
      | some text => exact ihyes f repeated _ strict p t u rest rest' h hrest
      | none => exact ihno f repeated _ strict p t u rest rest' h hrest

end

end Regex

end NamePatterns
