import NamePatterns.Proofs.Regex.Groups
import NamePatterns.Proofs.Regex.Language
import NamePatterns.Proofs.Regex.Union

/-!
# Progress

A match takes at least as many characters as its tree is wide.

This holds of trees without numbered groups that are steady: no look-behind is
tried in an iteration of a possessive repetition. Where one is, the repetition
may go on from a place before the one where the iteration has started, since a
failed iteration leaves behind the place that it has reached, and what follows
is matched over again.

The proof follows a search as closely as it needs to. A matcher is described by
what it does to any continuation: if the continuation ends well wherever the
matcher may lead, the matcher ends well. Whether no marks are set, whether
enough characters are taken and whether no place before a certain one is reached
are three degrees of one description. The last one is what the iterations of
possessive repetitions are held to, and it holds where nothing looks back.

The description is stated for all continuations because a search has no result
of its own: it calls what follows, and backtracks when that fails. Quantifying
over what counts as a good end lets the same lemma serve for a whole match,
where nothing may be left of the text, and for an iteration or an assertion,
where only the place that is reached matters.

Numbered groups are left out since they would need the marks of a trail, and
with them references, whose width depends on what was matched.

## Main definitions

* `Regex.isSteady`: A tree without look-behinds in possessive iterations.
* `Care`: How closely a search is followed.
* `Attempt.Ends`: How an attempt ends.
* `Carries`: What a matcher does to any continuation.

## Theorems

* `Carries.repeatSingle`, `Carries.repeatGreedy`, `Carries.repeatLazy`,
  `Carries.repeatPossessive`: Repetitions.
* `search_carries`: What the search for a tree does.
* `found_of_groupless`: A match without numbered groups has its groups in order.
* `width_le_of_found`: No match is shorter than a steady tree is wide.
-/

namespace NamePatterns

namespace Regex

/-- Whether no look-behind is tried in an iteration of a possessive repetition,
    assertions apart. -/
def isSteady : Regex → Bool
  | empty | literal _ | any | anyBut _ | set .. | lineStart | lineEnd | backref .. |
    lookAhead .. | lookBehind .. => true
  | cat a b | alt a b | conditional _ a b => a.isSteady && b.isSteady
  | repetition _ _ greed r => r.isSteady && (greed != .possessive || r.lookBehindWidths.isEmpty)
  | capture _ r | flagged _ r | atomic r => r.isSteady

/-- How closely a search is followed. -/
inductive Care where
  /-- No marks are set. -/
  | marks
  /-- No marks are set, and enough characters are taken. -/
  | advance
  /-- Besides, no place is reached that more characters follow than given. -/
  | within (limit : Nat)

namespace Care

/-- Whether enough characters are taken between two places. -/
def Takes : Care → Place → Place → Nat → Prop
  | marks, _, _, _ => True
  | advance, p, q, n | within _, p, q, n => q.length + n ≤ p.length

/-- Whether a place may be reached. -/
def Covers : Care → Place → Prop
  | within limit, p => p.length ≤ limit
  | marks, _ | advance, _ => True

/-- Whether the search for a tree can be followed that closely. -/
def Allows : Care → Regex → Prop
  | marks, _ => True
  | advance, r => r.isSteady = true
  | within _, r => r.lookBehindWidths = []

/-- How closely a possessive iteration is followed, with so many characters
    left. -/
def iteration : Care → Nat → Care
  | marks, _ => marks
  | advance, limit | within _, limit => within limit

/-- How closely the inside of an assertion is followed. -/
def assertion : Care → Care
  | advance => marks
  | care => care

variable {care : Care} {p q r : Place} {m n : Nat}

-- The three degrees differ only in how much is demanded, so each law is a case split on them.
theorem takes_refl (care : Care) (p : Place) : care.Takes p p 0 := by
  cases care with
  | marks => trivial
  | advance | within limit => exact Nat.le_refl _

theorem Takes.trans (h : care.Takes p q m) (h' : care.Takes q r n) : care.Takes p r (m + n) := by
  cases care with
  | marks => trivial
  | advance | within limit =>
      simp only [Takes] at h h' ⊢
      omega

theorem Takes.weaken (h : care.Takes p q n) (hmn : m ≤ n) : care.Takes p q m := by
  cases care with
  | marks => trivial
  | advance | within limit =>
      simp only [Takes] at h ⊢
      omega

theorem takes_of_length (care : Care) (h : q.length + n ≤ p.length) : care.Takes p q n := by
  cases care with
  | marks => trivial
  | advance | within limit => exact h

theorem Covers.of_length (h : care.Covers p) (hlength : q.length ≤ p.length) :
    care.Covers q := by
  cases care with
  | marks | advance => trivial
  | within limit => exact Nat.le_trans hlength h

theorem Covers.of_takes (h : care.Covers p) (htakes : care.Takes p q n) : care.Covers q := by
  cases care with
  | marks | advance => trivial
  | within limit =>
      simp only [Takes] at htakes
      exact h.of_length (by omega)

/-- What an assertion has to be followed for allows no less than its tree. -/
theorem covers_assertion : care.assertion.Covers p ↔ care.Covers p := by
  cases care <;> exact Iff.rfl

variable {a b : Regex}

/-- What is allowed for a tree is allowed for a part of it. -/
theorem Allows.part (h : care.Allows a) (hsteady : a.isSteady = true → b.isSteady = true)
    (hwidths : a.lookBehindWidths = [] → b.lookBehindWidths = []) : care.Allows b := by
  cases care with
  | marks => trivial
  | advance => exact hsteady h
  | within limit => exact hwidths h

/-- What is allowed for a tree of two parts is allowed for both. -/
theorem Allows.parts {r : Regex} (h : care.Allows r)
    (hsteady : r.isSteady = (a.isSteady && b.isSteady))
    (hwidths : r.lookBehindWidths = a.lookBehindWidths ++ b.lookBehindWidths) :
    care.Allows a ∧ care.Allows b := by
  constructor
  · refine h.part (fun hr => ?_) fun hr => ?_
    · exact (Bool.and_eq_true_iff.mp (hsteady ▸ hr)).1
    · exact (List.append_eq_nil_iff.mp (hwidths ▸ hr)).1
  · refine h.part (fun hr => ?_) fun hr => ?_
    · exact (Bool.and_eq_true_iff.mp (hsteady ▸ hr)).2
    · exact (List.append_eq_nil_iff.mp (hwidths ▸ hr)).2

/-- A possessive iteration can be followed more closely. -/
theorem Allows.iteration {low : Nat} {high : Option Nat}
    (h : care.Allows (.repetition low high .possessive a)) (limit : Nat) :
    (care.iteration limit).Allows a := by
  cases care with
  | marks => trivial
  | advance =>
      have hempty := (Bool.and_eq_true_iff.mp h).2
      exact List.isEmpty_iff.mp hempty
  | within _ => exact h

/-- An assertion gives nothing to the rest but the trail, so the characters that are taken
    inside of it are not counted. -/
theorem Allows.lookAhead {negated : Bool} (h : care.Allows (.lookAhead negated a)) :
    care.assertion.Allows a := by
  cases care with
  | marks | advance => trivial
  | within limit => exact h

/-- Where nothing is looked back at, no assertion looks back. -/
theorem Allows.lookBehind {negated : Bool} (h : care.Allows (.lookBehind negated a)) :
    care.assertion = marks := by
  cases care with
  | marks | advance => rfl
  | within limit => cases h

theorem covers_iteration_self (p : Place) : (care.iteration p.length).Covers p := by
  cases care with
  | marks => trivial
  | advance | within limit => exact Nat.le_refl p.length

/-- What is followed as closely as an iteration takes no characters back. -/
theorem Covers.takes_of_iteration (h : (care.iteration p.length).Covers q) :
    care.Takes p q 0 := by
  cases care with
  | marks => trivial
  | advance | within limit => exact h

end Care

/-- A trail without marks whose place may be reached. -/
structure Trail.Clean (care : Care) (t : Trail) : Prop where
  marks : t.marks = []
  reached : care.Covers t.reached

namespace Trail.Clean

variable {care : Care} {t u : Trail} {p : Place}

theorem goto (h : t.Clean care) (hp : care.Covers p) : (t.goto p).Clean care :=
  ⟨h.marks, hp⟩

/-- Restoring marks where there were none leaves none. -/
theorem restored (hu : u.Clean care) (ht : t.marks = []) (putBack : Bool) :
    (u.restored putBack t.marks).Clean care := by
  refine ⟨?_, hu.reached⟩
  rw [ht]
  exact u.restored_nil putBack

theorem assertion : t.Clean care.assertion ↔ t.Clean care :=
  ⟨fun h => ⟨h.marks, Care.covers_assertion.mp h.reached⟩,
    fun h => ⟨h.marks, Care.covers_assertion.mpr h.reached⟩⟩

theorem iteration (h : t.Clean care) : t.Clean (care.iteration t.reached.length) :=
  ⟨h.marks, Care.covers_iteration_self t.reached⟩

theorem of_iteration (h : u.Clean (care.iteration p.length)) (hp : care.Covers p) :
    u.Clean care ∧ care.Takes p u.reached 0 :=
  have htakes := h.reached.takes_of_iteration
  ⟨⟨h.marks, hp.of_takes htakes⟩, htakes⟩

/-- Where no marks are set, no group has matched. -/
theorem matched? (h : t.Clean care) (group : Nat) : t.matched? group = none := by
  unfold Trail.matched?
  rw [h.marks]
  rfl

end Trail.Clean

/-- How an attempt ends: with a good match, or with a clean trail. -/
def Attempt.Ends (care : Care) (Good : Trail → Prop) : Attempt → Prop
  | success t => Good t
  | failure t => t.Clean care

namespace Attempt.Ends

variable {care : Care} {Good Good' : Trail → Prop} {a b : Attempt}

theorem ite {p : Prop} [Decidable p] (ha : p → a.Ends care Good) (hb : ¬p → b.Ends care Good) :
    (if p then a else b).Ends care Good := by
  by_cases h : p
  · rw [if_pos h]
    exact ha h
  · rw [if_neg h]
    exact hb h

theorem imp (h : a.Ends care Good') (hgood : ∀ t, Good' t → Good t) : a.Ends care Good := by
  cases a with
  | success t => exact hgood t h
  | failure t => exact h

theorem orElse (h : a.Ends care Good) {next : Trail → Attempt}
    (hnext : ∀ t, t.Clean care → (next t).Ends care Good) : (a.orElse next).Ends care Good := by
  cases a with
  | success t => exact h
  | failure t => exact hnext t h

theorem onFailure (h : a.Ends care Good) {change : Trail → Trail}
    (hchange : ∀ t, t.Clean care → (change t).Clean care) :
    (a.onFailure change).Ends care Good :=
  h.orElse hchange

theorem andThen (h : a.Ends care Good') {next : Trail → Attempt}
    (hnext : ∀ t, Good' t → (next t).Ends care Good) : (a.andThen next).Ends care Good := by
  cases a with
  | success t => exact hnext t h
  | failure t => exact h

end Attempt.Ends

/-- A matcher that takes so many characters carries every continuation to its end:
    if the continuation ends well wherever the matcher may lead, so does the
    matcher. -/
def Carries (care : Care) (n : Nat) (m : Matcher) : Prop :=
  ∀ (Good : Trail → Prop) (p : Place) (t : Trail) (rest : Rest), care.Covers p → t.Clean care →
    (∀ q u, care.Takes p q n → u.Clean care → (rest q u).Ends care Good) →
    (m p t rest).Ends care Good

namespace Carries

variable {care : Care} {k n : Nat} {m m' : Matcher}

theorem weaken (h : Carries care n m) (hkn : k ≤ n) : Carries care k m :=
  fun Good p t rest hp ht hrest =>
    h Good p t rest hp ht fun q u hq hu => hrest q u (hq.weaken hkn) hu

/-- What takes nothing goes on where it is. -/
theorem pass : Carries care 0 fun p t rest => rest p t :=
  fun _ p t _ _ ht hrest => hrest p t (care.takes_refl p) ht

/-- One matcher after the other. -/
theorem followed (h : Carries care k m) (h' : Carries care n m') :
    Carries care (k + n) fun p t rest => m p t fun q u => m' q u rest := by
  intro Good p t rest hp ht hrest
  -- The rest of the first matcher is the second one, wherever the first one leads.
  refine h Good p t _ hp ht fun q u hq hu => ?_
  refine h' Good q u rest (hp.of_takes hq) hu fun q' u' hq' hu' => ?_
  exact hrest q' u' (hq.trans hq') hu'

theorem takeChar (accepts : Char → Bool) : Carries care 1 (Regex.takeChar accepts) := by
  intro Good p t rest hp ht hrest
  cases p with
  | nil => exact ht
  | cons c cs =>
      exact .ite (fun _ => hrest cs t (care.takes_of_length (Nat.le_refl _)) ht) fun _ => ht

theorem enter (h : Carries care n m) (o : Opening) : Carries care n (Regex.enter o m) := by
  intro Good p t rest hp ht hrest
  exact .ite (fun _ => ht) fun _ => h Good p _ rest hp (ht.goto hp) hrest

section Single

variable {Good : Trail → Prop} {rest : Rest} {restore : Trail → Trail}

theorem tryEach (hrestore : ∀ t, t.Clean care → (restore t).Clean care) {places : List Place}
    (hplaces : ∀ q ∈ places, care.Covers q)
    (hrest : ∀ q ∈ places, ∀ u, u.Clean care → (rest q u).Ends care Good) {t : Trail}
    (ht : t.Clean care) : (Regex.tryEach restore rest places t).Ends care Good := by
  induction places generalizing t with
  | nil => exact ht
  | cons q qs ih =>
      have hq := hplaces q List.mem_cons_self
      -- A failure leaves a clean trail to the places that are tried next.
      refine (hrest q List.mem_cons_self _ (ht.goto hq)).orElse fun u hu => ?_
      exact ih (fun q' hq' => hplaces q' (List.mem_cons_of_mem _ hq'))
        (fun q' hq' => hrest q' (List.mem_cons_of_mem _ hq')) (hrestore u hu)

/-- A place that is tried going forward is one character on at most. -/
theorem length_reach (s : Single) (p : Place) : (s.reach p).length ≤ p.length := by
  cases p with
  | nil => exact Nat.le_refl _
  | cons c cs =>
      show (if s.advances && s.accepts c then cs else c :: cs).length ≤ _
      split
      · exact Nat.le_succ _
      · exact Nat.le_refl _

theorem tryUpward (s : Single) (hrestore : ∀ t, t.Clean care → (restore t).Clean care)
    {places : List Place} (hplaces : ∀ q ∈ places, care.Covers q)
    (hrest : ∀ q ∈ places, ∀ u, u.Clean care → (rest q u).Ends care Good) {t : Trail}
    (ht : t.Clean care) : (Regex.tryUpward s restore rest places t).Ends care Good := by
  induction places generalizing t with
  | nil => exact ht
  | cons q qs ih =>
      have hq := hplaces q List.mem_cons_self
      refine (hrest q List.mem_cons_self _ (ht.goto hq)).orElse fun u hu => ?_
      exact ih (fun q' hq' => hplaces q' (List.mem_cons_of_mem _ hq'))
        (fun q' hq' => hrest q' (List.mem_cons_of_mem _ hq'))
        ((hrestore u hu).goto (hq.of_length (length_reach s q)))

/-- Places that are found already do not change how far accepted characters lead. -/
theorem stops_fst (accepts : Char → Bool) (wanted : Place → Bool) (p : Place) (owed limit : Nat)
    (found : List Place) :
    (stops accepts wanted p owed limit found).1 = (stops accepts wanted p owed limit []).1 := by
  induction p generalizing owed limit found with
  | nil => rfl
  | cons c cs ih =>
      simp only [stops]
      split
      · rfl
      · exact (ih _ _ _).trans (ih _ _ _).symm

/-- The places that accepted characters lead to are behind the characters that are
    owed. -/
theorem length_stops (accepts : Char → Bool) (wanted : Place → Bool) (p : Place)
    (owed limit : Nat) :
    (stops accepts wanted p owed limit []).1.length ≤ p.length ∧
      ∀ q ∈ (stops accepts wanted p owed limit []).2, q.length + owed ≤ p.length := by
  induction p generalizing owed limit with
  | nil =>
      refine ⟨Nat.le_refl _, fun q hq => ?_⟩
      simp only [stops] at hq
      split at hq
      · next hwanted =>
          rw [Bool.and_eq_true, beq_iff_eq] at hwanted
          rw [List.mem_singleton.mp hq, hwanted.1]
          exact Nat.le_refl _
      · cases hq
  | cons c cs ih =>
      -- The place itself is among the wanted ones only if nothing is owed.
      have hhere : ∀ q ∈ if owed == 0 && wanted (c :: cs) then [c :: cs] else [],
          q.length + owed ≤ (c :: cs).length := by
        intro q hq
        split at hq
        · next hwanted =>
            rw [Bool.and_eq_true, beq_iff_eq] at hwanted
            rw [List.mem_singleton.mp hq, hwanted.1]
            exact Nat.le_refl _
        · cases hq
      simp only [stops]
      split
      · exact ⟨Nat.le_refl _, hhere⟩
      · have hnext := ih (owed - 1) (limit - 1)
        constructor
        · rw [stops_fst]
          exact Nat.le_succ_of_le hnext.1
        · intro q hq
          rw [stops_append] at hq
          rcases List.mem_append.mp hq with hq | hq
          · have hlength := hnext.2 q hq
            rw [List.length_cons]
            omega
          · exact hhere q hq

/-- A repetition of what takes one character. -/
theorem repeatSingle (s : Single) (greed : Greed) (low : Nat) (high : Option Nat) (putBack : Bool)
    (ahead : Option (Char → Bool)) :
    Carries care low (Regex.repeatSingle s greed low high putBack ahead) := by
  intro Good p t rest hp ht hrest
  refine .ite (fun _ => ht) fun _ => ?_
  dsimp only
  generalize hfound : stops s.accepts _ p low (high.getD p.length) [] = found
  have hstops := hfound ▸ length_stops s.accepts _ p low (high.getD p.length)
  obtain ⟨farthest, places⟩ := found
  -- All places that are tried are behind the start.
  have hplaces : ∀ q ∈ places, care.Covers q := fun q hq => by
    have hlength := hstops.2 q hq
    exact hp.of_length (by omega)
  have hrests : ∀ q ∈ places, ∀ u, u.Clean care → (rest q u).Ends care Good := fun q hq u hu =>
    hrest q u (care.takes_of_length (hstops.2 q hq)) hu
  have hgo : (t.goto (if s.advances then farthest else p)).Clean care := by
    refine ht.goto ?_
    split
    · exact hp.of_length hstops.1
    · exact hp
  generalize t.goto (if s.advances then farthest else p) = t' at hgo ⊢
  have hrestore (u : Trail) (hu : u.Clean care) : (u.restored putBack t'.marks).Clean care :=
    hu.restored hgo.marks putBack
  -- Whatever the order in which places are tried, all of them are good to go on from.
  cases greed with
  | greedy => exact tryEach hrestore hplaces hrests hgo
  | lazy =>
      exact tryUpward s hrestore (fun q hq => hplaces q (List.mem_reverse.mp hq))
        (fun q hq => hrests q (List.mem_reverse.mp hq)) hgo
  | possessive =>
      cases places with
      | nil => exact hgo
      | cons q qs => exact hrests q List.mem_cons_self t' hgo

end Single

section Repetitions

variable {body : Matcher}

theorem repeatExactly (h : Carries care n body) (count : Nat) :
    Carries care (count * n) (Regex.repeatExactly body count) := by
  induction count with
  | zero =>
      rw [Nat.zero_mul]
      exact pass
  | succ count ih =>
      rw [Nat.succ_mul, Nat.add_comm]
      exact h.followed ih

theorem repeatGreedy (h : Carries care 0 body) (fuel : Nat) (high last : Option Nat) :
    Carries care 0 (Regex.repeatGreedy body fuel high last) := by
  induction fuel generalizing high last with
  | zero => exact pass
  | succ fuel ih =>
      intro Good p t rest hp ht hrest
      -- The rest is tried where no further iteration leads anywhere.
      have hstay (u : Trail) (hu : u.Clean care) : (rest p u).Ends care Good :=
        hrest p u (care.takes_refl p) hu
      refine .ite (fun _ => hstay t ht) fun _ => ?_
      refine Attempt.Ends.orElse ?_ fun u hu => hstay _ (hu.restored ht.marks true)
      exact (h.followed (ih _ (some p.length))) Good p t rest hp ht hrest

theorem repeatLazy (h : Carries care 0 body) (putBack : Bool) (fuel : Nat)
    (high last : Option Nat) : Carries care 0 (Regex.repeatLazy body putBack fuel high last) := by
  induction fuel generalizing high last with
  | zero => exact pass
  | succ fuel ih =>
      intro Good p t rest hp ht hrest
      refine (hrest p t (care.takes_refl p) ht).orElse fun u hu => ?_
      have hu' := hu.restored ht.marks putBack
      refine .ite (fun _ => hu') fun _ => ?_
      exact (h.followed (ih _ (some p.length))) Good p _ rest hp hu' hrest

/-- A matcher that keeps to the first way in which it matches. -/
theorem accept (h : Carries care n body) {p : Place} {t : Trail} (hp : care.Covers p)
    (ht : t.Clean care) :
    (body p t Regex.accept).Ends care fun u => u.Clean care ∧ care.Takes p u.reached n :=
  h _ p t _ hp ht fun _ _ hq hu => ⟨hu.goto (hp.of_takes hq), hq⟩

/-- Iterations that have to be there. -/
theorem repeatAtomic (h : Carries care n body) (count : Nat) {t : Trail} (ht : t.Clean care) :
    (Regex.repeatAtomic body count t).Ends care fun u =>
      u.Clean care ∧ care.Takes t.reached u.reached (count * n) := by
  induction count generalizing t with
  | zero =>
      rw [Nat.zero_mul]
      exact ⟨ht, care.takes_refl _⟩
  | succ count ih =>
      -- The other iterations go on from the place that the first one has reached.
      refine (h.accept ht.reached ht).andThen fun u hu => ?_
      refine (ih hu.1).imp fun v hv => ⟨hv.1, ?_⟩
      rw [Nat.succ_mul, Nat.add_comm]
      exact hu.2.trans hv.2

/-- Further iterations do not reach a place before the one where they start, if each
    is held to that. -/
theorem repeatWhile (h : ∀ limit, Carries (care.iteration limit) 0 body) (fuel : Nat)
    (high last : Option Nat) {t : Trail} (ht : t.Clean care) :
    (Regex.repeatWhile body fuel high last t).Clean care ∧
      care.Takes t.reached (Regex.repeatWhile body fuel high last t).reached 0 := by
  induction fuel generalizing high last t with
  | zero => exact ⟨ht, care.takes_refl _⟩
  | succ fuel ih =>
      -- The iteration may not go back behind the place where it starts.
      have hends := (h t.reached.length).accept (Care.covers_iteration_self t.reached)
        ht.iteration
      unfold Regex.repeatWhile
      split
      · exact ⟨ht, care.takes_refl _⟩
      · generalize body t.reached t Regex.accept = a at hends ⊢
        cases a with
        | success u =>
            -- What the iteration keeps is turned back into what is kept outside of it.
            have hu := hends.1.of_iteration ht.reached
            have hmore := ih (high.map (· - 1)) (some t.reached.length) hu.1
            exact ⟨hmore.1, hu.2.trans hmore.2⟩
        | failure u =>
            -- What follows goes on from the place that the failed iteration has left.
            exact (hends.restored ht.marks true).of_iteration ht.reached

theorem repeatPossessive (h : Carries care n body)
    (hiteration : ∀ limit, Carries (care.iteration limit) 0 body) (bound low : Nat)
    (high : Option Nat) : Carries care (low * n) (Regex.repeatPossessive body bound low high) := by
  intro Good p t rest hp ht hrest
  refine Attempt.Ends.andThen
    ((h.repeatAtomic low (ht.goto hp)).onFailure fun u hu => hu.goto hp) fun u hu => ?_
  -- Iterations beyond those that have to be there may take nothing, so the width counts only
  -- the latter.
  have hmore := repeatWhile hiteration bound (high.map (· - low)) none hu.1
  exact hrest _ _ (hu.2.trans hmore.2) hmore.1

/-- A repetition of any tree. Only possessive iterations are followed more closely. -/
theorem repeatAny (h : Carries care n body) {greed : Greed}
    (hiteration : greed = .possessive → ∀ limit, Carries (care.iteration limit) 0 body)
    (bound low : Nat) (high : Option Nat) (putBack : Bool) :
    Carries care (low * n) (Regex.repeatAny body greed bound low high putBack) := by
  have hzero : Carries care 0 body := h.weaken (Nat.zero_le n)
  intro Good p t rest hp ht hrest
  cases greed with
  | greedy =>
      refine Attempt.Ends.onFailure ?_ fun u hu => hu.goto hp
      exact (h.repeatExactly low).followed (hzero.repeatGreedy bound _ none) Good p t rest hp ht
        hrest
  | lazy =>
      refine Attempt.Ends.onFailure ?_ fun u hu => hu.goto hp
      exact (h.repeatExactly low).followed (hzero.repeatLazy putBack bound _ none) Good p t rest
        hp ht hrest
  | possessive =>
      exact h.repeatPossessive (hiteration rfl) bound low high Good p t rest hp ht hrest

end Repetitions

end Carries

/-- What an assertion comes to is clean, and the rest goes on where the assertion
    stands. -/
theorem Attempt.Ends.asserted {care : Care} {Good : Trail → Prop} {a : Attempt} {p : Place}
    {t : Trail} {rest : Rest} (h : a.Ends care.assertion fun u => u.Clean care.assertion)
    (ht : t.marks = [])
    (hrest : ∀ u, u.Clean care → (rest p u).Ends care Good) (negated repeated : Bool) :
    Attempt.Ends care Good (match a, negated with
      | .success u, false => rest p u
      | .failure u, true => rest p (u.restored repeated t.marks)
      | .success u, true | .failure u, false => .failure u) := by
  cases a with
  | success u =>
      have hu := Trail.Clean.assertion.mp h
      cases negated with
      | false => exact hrest u hu
      | true => exact hu
  | failure u =>
      have hu := Trail.Clean.assertion.mp h
      cases negated with
      | false => exact hu
      | true => exact hrest _ (hu.restored ht repeated)

/-- The search for a tree without numbered groups takes as many characters as the
    tree is wide, as closely as it can be followed. -/
theorem search_carries {r : Regex} (hgroups : r.groupCount = 0) {care : Care}
    (hallows : care.Allows r) (whole : List Char) (f : Flags) (repeated : Bool)
    (ahead : Option (Char → Bool)) :
    Carries care r.width.low (search whole f repeated r ahead) := by
  induction r generalizing care f repeated ahead with
  | empty => exact .pass
  | literal c | anyBut c | any | set negated items => exact .takeChar _
  | lineStart | lineEnd =>
      intro Good p t rest hp ht hrest
      exact .ite (fun _ => hrest p t (care.takes_refl p) ht) fun _ => ht
  | cat a b iha ihb =>
      have hcounts := Nat.add_eq_zero_iff.mp hgroups
      have hparts := hallows.parts (a := a) (b := b) rfl rfl
      -- The width of both parts is cut off at a limit.
      refine Carries.weaken ?_ (Nat.min_le_left _ _)
      exact (iha hcounts.1 hparts.1 f repeated _).followed (ihb hcounts.2 hparts.2 f repeated ahead)
  | alt a b iha ihb =>
      have hcounts := Nat.add_eq_zero_iff.mp hgroups
      have hparts := hallows.parts (a := a) (b := b) rfl rfl
      -- The width of alternatives is that of the narrower one, which both of them reach.
      have hfirst := (iha hcounts.1 hparts.1 f repeated none).weaken (Nat.min_le_left _ b.width.low)
      have hsecond := (ihb hcounts.2 hparts.2 f repeated none).weaken
        (Nat.min_le_right a.width.low _)
      intro Good p t rest hp ht hrest
      have hrestore (u : Trail) (hu : u.Clean care) := hu.restored ht.marks repeated
      -- The second part is tried on what a failure of the first one leaves.
      refine ((hfirst.enter _) Good p t rest hp ht hrest).orElse fun u hu => ?_
      refine Attempt.Ends.onFailure ?_ hrestore
      refine .ite (fun _ => ?_) fun _ => ?_
      · exact hsecond Good p _ rest hp (hrestore u hu) hrest
      · exact (hsecond.enter _) Good p _ rest hp (hrestore u hu) hrest
  | repetition low high greed r ih =>
      have hbody := hallows.part (b := r) (fun h => (Bool.and_eq_true_iff.mp h).1) id
      refine Carries.weaken ?_ (Nat.min_le_left _ _)
      simp only [search]
      -- What takes one character is repeated without a search for each iteration.
      split
      · next s hs =>
          rw [width_single hs]
          show Carries care (low * 1) _
          rw [Nat.mul_one]
          exact .repeatSingle s greed low high repeated ahead
      · refine (ih hgroups hbody f _ none).repeatAny (fun hgreed limit => ?_) _ _ _ _
        -- Possessive iterations need the induction hypothesis for a closer care than the
        -- repetition itself; this is why the induction is for all degrees.
        subst hgreed
        exact (ih hgroups (hallows.iteration limit) f _ none).weaken (Nat.zero_le _)
  | capture group r ih => cases hgroups
  | flagged change r ih => exact ih hgroups (hallows.part id id) _ _ _
  | atomic r ih =>
      have hbody := ih hgroups (hallows.part id id) f repeated none
      intro Good p t rest hp ht hrest
      refine ((hbody.accept hp ht).onFailure fun u hu => hu.goto hp).andThen fun u hu => ?_
      exact hrest _ _ hu.2 hu.1
  | lookAhead negated r ih =>
      intro Good p t rest hp ht hrest
      have hbody := (ih hgroups hallows.lookAhead f repeated none).accept
        (Care.covers_assertion.mpr hp) (Trail.Clean.assertion.mpr (ht.goto hp))
      exact (hbody.imp fun _ hu => hu.1).asserted ht.marks
        (fun u => hrest p u (care.takes_refl p)) negated repeated
  | lookBehind negated r ih =>
      intro Good p t rest hp ht hrest
      have hstay (u : Trail) := hrest p u (care.takes_refl p)
      have hmarks := hallows.lookBehind
      simp only [search]
      cases p.back? whole r.width.low with
      | none =>
          cases negated with
          | false => exact ht
          | true => exact hstay t ht
      | some q =>
          -- Inside, only marks matter: the rest goes on from where the look-behind is.
          have hinside : Care.marks.Allows r := trivial
          have hgo : (t.goto q).Clean .marks := ⟨ht.marks, trivial⟩
          have hbody := (ih hgroups hinside f repeated none).accept (p := q) trivial hgo
          rw [← hmarks] at hbody
          exact (hbody.imp fun _ hu => hu.1).asserted ht.marks hstay negated repeated
  -- A reference to a group that has not matched fails.
  | backref group width =>
      intro Good p t rest hp ht hrest
      simp only [search, ht.matched? group]
      exact ht
  | conditional group yes no ihyes ihno =>
      have hcounts := Nat.add_eq_zero_iff.mp hgroups
      have hparts := hallows.parts (a := yes) (b := no) rfl rfl
      intro Good p t rest hp ht hrest
      -- No group has matched, so it is the second part that is searched for.
      simp only [search, ht.matched? group]
      exact (ihno hcounts.2 hparts.2 f repeated ahead).weaken (Nat.min_le_right _ _) Good p t rest
        hp ht hrest

section Whole

variable {r : Regex} {text : List Char} {ordered : Bool}

/-- A match of a whole text sets no marks and takes as many characters as the tree is
    wide. -/
theorem attempt_ends (hgroups : r.groupCount = 0) {care : Care} (hallows : care.Allows r)
    (hcovers : care.Covers text) :
    (r.attempt text).Ends care fun u => u.marks = [] ∧ care.Takes text [] r.width.low := by
  refine search_carries hgroups hallows text {} false none _ text ⟨text, []⟩ atEnd hcovers
    ⟨rfl, hcovers⟩ fun q u hq hu => ?_
  -- A match ends where nothing is left of the text.
  cases q with
  | nil => exact ⟨hu.marks, hq⟩
  | cons c cs => exact hu

/-- Where there are no numbered groups, none ends before it starts. -/
theorem found_of_groupless (hgroups : r.groupCount = 0) (h : r.found text = some ordered) :
    ordered = true := by
  have hends : (r.attempt text).Ends .marks _ := attempt_ends hgroups trivial trivial
  unfold found Attempt.found at h
  generalize r.attempt text = a at h hends
  cases a with
  | failure u => cases h
  | success u =>
      obtain rfl : u.isOrdered = ordered := Option.some.inj h
      unfold Trail.isOrdered
      rw [hends.1]
      rfl

/-- A steady tree without numbered groups is found in no text that is too short. -/
theorem width_le_of_found (hgroups : r.groupCount = 0) (hsteady : r.isSteady = true)
    (h : r.found text = some ordered) : r.width.low ≤ text.length := by
  have hends : (r.attempt text).Ends .advance _ := attempt_ends hgroups hsteady trivial
  unfold found Attempt.found at h
  generalize r.attempt text = a at h hends
  cases a with
  | failure u => cases h
  | success u =>
      have htakes : ([] : Place).length + r.width.low ≤ text.length := hends.2
      rwa [List.length_nil, Nat.zero_add] at htakes

end Whole

end Regex

end NamePatterns
