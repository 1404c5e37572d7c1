import Mathlib.Data.List.Forall2
import NamePatterns.Proofs.Regex.Lockstep

/-!
# Joining Regular Expressions

When texts that are regular expressions are one as alternatives.

The texts are read one behind the other. Each of them is read in lockstep with
its reading alone, behind the groups of those before it, as long as none of its
units clashes with these groups; the first one that clashes is refused. Where
none does, the bar that follows a text leaves the reading as at its start, with
more rows and more groups, and at the end the tree asserts what the rows of all
texts assert.

The induction on the list of texts carries an invariant from one bar to the
next: behind everything that was read so far, the reading stands as at its
start, with the rows and groups that were left. `Behind.next` restores it after
every text, and `Behind.finish` uses it up at the end. The refusal of texts that
clash is the same induction, up to the first text that clashes.

That a text clashes is not a property of the tree, since the tree is built only
if nothing clashes. It is a property of the reading of the text alone, unit by
unit, given what groups there were before. Both conditions that are built from
it are decidable.

## Main definitions

* `Undisturbed`: No unit of a text clashes.
* `Compatible`: No unit of several texts clashes.
* `IsWhole`: A text that is a regular expression by itself.
* `State.rows`, `joinedRows`: The rows of a text, and of several texts.

## Theorems

* `Behind.run`, `Behind.run_clash`: A whole text behind others.
* `Behind.next`: What follows a text.
* `Behind.outermost`, `Behind.settled`, `Behind.measured`: What is known where a
  text ends.
* `Behind.join`, `Behind.join_clash`: Several texts as alternatives.
* `parse_intercalate`, `parse_intercalate_clash`: What is joined of several texts.
-/

namespace NamePatterns

namespace Regex

namespace Parser

/-- No unit of a text clashes with earlier groups while the text is read alone
    from a state on. -/
def Undisturbed (seen : Nat → Nat) (earlier : List GroupEntry) : State → List Token → Prop
  | _, [] => True
  | s, t :: ts =>
    ¬Clashes seen earlier s t ∧ ∀ s', step s t = .ok s' → Undisturbed seen earlier s' ts

/-- No unit of several texts clashes with earlier groups or with the groups of
    the texts before it. -/
def Compatible (seen : Nat → Nat) : List GroupEntry → List (List Token) → Prop
  | _, [] => True
  | earlier, ts :: tss =>
    Undisturbed seen earlier {} ts ∧
      ∀ s, run {} ts = .ok s → Compatible seen (earlier ++ s.groups) tss

/-- Whatever is asked of the result of a reading is asked of one state at most. -/
instance decidableForallOk {p : State → Prop} [∀ s, Decidable (p s)] :
    ∀ x : Except Refusal State, Decidable (∀ s, x = .ok s → p s)
  | .error _ => isTrue nofun
  | .ok s => decidable_of_iff (p s) ⟨fun h _ hs => Except.ok.inj hs ▸ h, fun h => h s rfl⟩

/-- The text is read once, unit by unit, so that whether it clashes can be computed. -/
instance decidableUndisturbed (seen : Nat → Nat) (earlier : List GroupEntry) :
    ∀ (s : State) (ts : List Token), Decidable (Undisturbed seen earlier s ts)
  | _, [] => isTrue trivial
  | s, t :: ts =>
    have := fun s' => decidableUndisturbed seen earlier s' ts
    inferInstanceAs (Decidable (¬Clashes seen earlier s t ∧
      ∀ s', step s t = .ok s' → Undisturbed seen earlier s' ts))

instance decidableCompatible (seen : Nat → Nat) :
    ∀ (earlier : List GroupEntry) (tss : List (List Token)),
      Decidable (Compatible seen earlier tss)
  | _, [] => isTrue trivial
  | earlier, ts :: tss =>
    have := fun s : State => decidableCompatible seen (earlier ++ s.groups) tss
    inferInstanceAs (Decidable (Undisturbed seen earlier {} ts ∧
      ∀ s, run {} ts = .ok s → Compatible seen (earlier ++ s.groups) tss))

/-- A text that is a regular expression by itself, with the state it ends in. -/
def IsWhole (ts : List Token) (s : State) : Prop :=
  run {} ts = .ok s ∧ ∃ r, finish s = .ok r ∧ ∀ w ∈ r.lookBehindWidths, w.mayPrecede = true

/-- The rows of a text that ends in a state. -/
def State.rows (s : State) : List (List Regex) :=
  (s.ended.level.row :: s.ended.level.done).reverse

theorem State.rows_ne_nil (s : State) : s.rows ≠ [] :=
  mt List.reverse_eq_nil_iff.mp (List.cons_ne_nil _ _)

/-- The rows of several texts, given by the states that they end in alone, behind
    `k` groups. -/
def joinedRows (seen : Nat → Nat) : Nat → List State → List (List Regex)
  | _, [] => []
  | k, s :: ss => s.rows.map (outlines seen k) ++ joinedRows seen (k + s.groups.length) ss

theorem joinedRows_ne_nil (seen : Nat → Nat) (k : Nat) {ss : List State} (h : ss ≠ []) :
    joinedRows seen k ss ≠ [] := by
  obtain ⟨s, ss, rfl⟩ := List.exists_cons_of_ne_nil h
  intro hnil
  exact s.rows_ne_nil (List.map_eq_nil_iff.mp (List.append_eq_nil_iff.mp hnil).1)

/-- Rows whose assertions on what precedes have widths that they may have. -/
def Measured (rows : List (List Regex)) : Prop :=
  ∀ row ∈ rows, ∀ w ∈ row.flatMap lookBehindWidths, w.mayPrecede = true

theorem run_cons (s : State) (t : Token) (ts : List Token) :
    run s (t :: ts) = (step s t).bind fun s' => run s' ts :=
  rfl

namespace Behind

variable {seen : Nat → Nat} {earlier : List GroupEntry} {rows : List (List Regex)} {a b : State}

/-- A text that does not clash is read behind others as alone. -/
theorem run (h : Behind seen earlier rows a b) {ts : List Token}
    (hts : Undisturbed seen earlier a ts) : Follows seen earlier rows (run a ts) (run b ts) := by
  -- Every unit that is read alone is read behind the others, and leaves them comparable.
  induction ts generalizing a b with
  | nil => exact .ok h
  | cons t ts ih =>
      intro a' ha
      rw [run_cons] at ha
      cases hstep : Parser.step a t with
      | error e =>
          rw [hstep] at ha
          cases ha
      | ok a₁ =>
          rw [hstep] at ha
          rcases h.step hts.1 a₁ hstep with ⟨b₁, hb₁, hbehind⟩
          rcases ih hbehind (hts.2 a₁ hstep) a' ha with ⟨b', hb', hbehind'⟩
          refine ⟨b', ?_, hbehind'⟩
          rw [run_cons, hb₁]
          exact hb'

/-- A text that clashes, whatever conditions ask for, is refused behind others. -/
theorem run_clash (h : Behind unseen earlier rows a b) {ts : List Token}
    (hts : ¬Undisturbed unseen earlier a ts) {a' : State} (ha : Parser.run a ts = .ok a') :
    ∃ e, Parser.run b ts = .error (.malformed e) := by
  induction ts generalizing a b with
  | nil => exact absurd trivial hts
  | cons t ts ih =>
      rw [run_cons] at ha
      cases hstep : Parser.step a t with
      | error e =>
          rw [hstep] at ha
          cases ha
      | ok a₁ =>
          rw [hstep] at ha
          -- Up to the first unit that clashes, both readings go on.
          -- Either this unit clashes and is refused, or it is read and one of those behind it
          -- clashes.
          by_cases hclash : Clashes unseen earlier a t
          · rcases h.step_clash hclash hstep with ⟨e, he⟩
            refine ⟨e, ?_⟩
            rw [run_cons, he]
            rfl
          · rcases h.step hclash a₁ hstep with ⟨b₁, hb₁, hbehind⟩
            have hrest : ¬Undisturbed unseen earlier a₁ ts := by
              intro hundisturbed
              refine hts ⟨hclash, fun a₂ ha₂ => ?_⟩
              rw [hstep] at ha₂
              cases ha₂
              exact hundisturbed
            rcases ih hbehind hrest ha with ⟨e, he⟩
            refine ⟨e, ?_⟩
            rw [run_cons, hb₁]
            exact he

/-- Both states with what was read of a count in braces standing for itself. -/
theorem ended (h : Behind seen earlier rows a b) : Behind seen earlier rows a.ended b.ended := by
  have hmode := h.mode
  unfold State.ended
  generalize a.mode = m at hmode
  generalize b.mode = m' at hmode
  cases hmode with
  -- A count that is not finished stands for the characters it consists of.
  | braces p q low high => exact h.pushLiterals _
  | _ => exact h

theorem mayEnd (h : Behind seen earlier rows a b) : b.mode.mayEnd = a.mode.mayEnd := by
  have hmode := h.mode
  generalize a.mode = m at hmode
  generalize b.mode = m' at hmode
  cases hmode <;> rfl

/-- What is compared where nothing is open. -/
theorem outermost (h : Behind seen earlier rows a b) (hopen : a.openGroups = []) :
    b.openGroups = [] ∧ Level.Alike seen earlier.length rows a.level b.level ∧
      a.level.verbose = false := by
  have hstack := h.stack
  rw [hopen] at hstack
  generalize b.openGroups = gs at hstack
  cases hstack with
  | outermost hlevel hverbose => exact ⟨rfl, hlevel, hverbose⟩

/-- Where a text ends alone, no group of it is left without a width and nothing
    limits references. -/
theorem settled (h : Behind seen earlier rows a b) (hopen : a.openGroups = []) :
    (∀ e ∈ a.groups, e.width ≠ none) ∧ a.behindLimit = none := by
  constructor
  · intro e he hwidth
    rcases List.getElem?_of_mem he with ⟨i, hi⟩
    rcases h.sound.unfinished i e hi hwidth with ⟨g, hg, _⟩
    rw [hopen] at hg
    cases hg
  · cases hlimit : a.behindLimit with
    | none => rfl
    -- A limit means that an assertion is still open, and nothing is.
    | some n =>
        rcases h.sound.assertion (by rw [hlimit]; nofun) with ⟨g, hg, _⟩
        rw [hopen] at hg
        cases hg

/-- The rows of a text behind others assert what the rows before it and the text
    alone assert. -/
theorem measured {k : Nat} {l l' : Level} (h : Level.Alike seen k rows l l')
    (hrows : Measured rows) (hl : ∀ w ∈ l.tree.lookBehindWidths, w.mayPrecede = true) :
    Measured (l'.row :: l'.done) := by
  intro row hrow w hw
  -- A row behind others has the outline of a row that was there or of an own one.
  have hmem : outlines seen 0 row
      ∈ rows.reverse ++ (l.row :: l.done).reverse.map (outlines seen k) := by
    rw [← h.allRows]
    exact List.mem_map.mpr ⟨row, List.mem_reverse.mpr hrow, rfl⟩
  rw [← lookBehindWidths_outlines seen 0] at hw
  rcases List.mem_append.mp hmem with hbefore | hown
  · exact hrows _ (List.mem_reverse.mp hbefore) w hw
  · rcases List.mem_map.mp hown with ⟨own, hown, heq⟩
    rw [← heq, lookBehindWidths_outlines] at hw
    exact hl w (mem_lookBehindWidths_alternatives.mpr ⟨own, hown, hw⟩)

/-- Where a text ends alone, it ends behind others, with their rows before its own. -/
theorem finish (h : Behind seen earlier rows a b) (hrows : Measured rows) {ts : List Token}
    (ha : IsWhole ts a) :
    ∃ r, Parser.finish b = .ok r ∧ (∀ w ∈ r.lookBehindWidths, w.mayPrecede = true) ∧
      r.outline seen 0
        = alternatives (rows.reverse ++ a.rows.map (outlines seen earlier.length)) := by
  rcases ha with ⟨_, r, hfinish, hwidths⟩
  rcases finish_ok.mp hfinish with ⟨hend, hopen, htested, rfl⟩
  have hopenEnded : a.ended.openGroups = [] := a.ended_spec.1.trans hopen
  rcases h.ended.outermost hopenEnded with ⟨_, hlevel, _⟩
  refine ⟨_, finish_ok.mpr ⟨h.mayEnd.trans hend, (h.outermost hopen).1, ?_, rfl⟩, ?_, ?_⟩
  -- Numbers that are asked for are those of earlier groups, or asked for alone as well.
  · intro x hx
    rw [h.groups, List.length_append]
    rcases h.tested x hx with hle | ⟨y, hy, hxy⟩
    · omega
    · have := htested y hy
      omega
  · intro w hw
    rcases mem_lookBehindWidths_alternatives.mp hw with ⟨row, hrow, hw⟩
    exact measured hlevel hrows hwidths row (List.mem_reverse.mp hrow) w hw
  · exact (outline_alternatives _).trans (congrArg alternatives hlevel.allRows)

/-- Behind a text and a bar, the reading is at the start of the next text, with the
    rows of the text behind the rows before it. -/
theorem next (h : Behind seen earlier rows a b) (hrows : Measured rows) {ts : List Token}
    (ha : IsWhole ts a) :
    ∃ rows' b', Parser.step b (.plain '|') = .ok b' ∧ Measured rows' ∧
      rows'.reverse = rows.reverse ++ a.rows.map (outlines seen earlier.length) ∧
      Behind seen (earlier ++ a.groups) rows' {} b' := by
  rcases ha with ⟨_, r, hfinish, hwidths⟩
  rcases finish_ok.mp hfinish with ⟨hend, hopen, htested, rfl⟩
  have hopenEnded : a.ended.openGroups = [] := a.ended_spec.1.trans hopen
  rcases h.ended.outermost hopenEnded with ⟨hopenEnded', hlevel, hverbose⟩
  rcases h.settled hopen with ⟨hclosed, hlimit⟩
  -- On the outermost level no space is skipped, so no comment can run into the bar.
  have hcomment : b.mode ≠ .lineComment := by
    intro heq
    have hmode := h.mode
    rw [heq] at hmode
    generalize hm : a.mode = m at hmode
    cases hmode with
    | lineComment =>
        have hskips := h.sound.comment hm
        rw [(h.outermost hopen).2.2] at hskips
        cases hskips
  -- The text has ended alone, so outside of groups; there the bar ends a row.
  have hact : act b (.plain '|') = .ok { b.ended with
      mode := .items
      level := { b.ended.level with
        done := b.ended.level.row :: b.ended.level.done, items := [] } } := by
    rw [act_bar (h.mayEnd.trans hend) hcomment, State.bar_outermost hopenEnded']
  rcases b.ended_spec with ⟨_, hgroups', htested', hlimit'⟩
  refine ⟨(b.ended.level.row :: b.ended.level.done).map (outlines seen 0), _,
    step_ok.mpr ⟨_, hact, rfl⟩, ?_, ?_, ?_⟩
  · intro row hrow w hw
    rcases List.mem_map.mp hrow with ⟨own, hown, rfl⟩
    rw [lookBehindWidths_outlines] at hw
    exact measured hlevel hrows hwidths own hown w hw
  · rw [← List.map_reverse]
    exact hlevel.allRows
  -- The next text starts with nothing of its own, so all that has to be compared is what the
  -- texts before it have left.
  · refine ⟨⟨nofun, fun hne => absurd rfl hne, fun i e he => by cases he⟩, .items, ?_, ?_, ?_, ?_,
      ?_, fun e _ _ hmem => by cases hmem⟩
    · show Stack _ _ _ {} [] _ b.ended.openGroups
      rw [hopenEnded']
      exact .outermost ⟨rfl, rfl, hlevel.verbose.trans hverbose⟩ rfl
    · show b.ended.groups = earlier ++ a.groups ++ []
      rw [hgroups', h.groups, List.append_nil]
    · show b.ended.behindLimit = none
      rw [hlimit', h.limit, hlimit]
      rfl
    · intro x hx
      rw [show x ∈ b.ended.tested ↔ x ∈ b.tested by rw [htested']] at hx
      left
      rw [List.length_append]
      rcases h.tested x hx with hle | ⟨y, hy, hxy⟩
      · omega
      · have := htested y hy
        omega
    · intro e he
      rcases List.mem_append.mp he with hearlier | hown
      · exact h.closed e hearlier
      · exact hclosed e hown

end Behind

/-- The units of texts with bars between them. -/
def barred (tss : List (List Token)) : List Token :=
  [.plain '|'].intercalate tss

theorem barred_cons {ts us : List Token} {tss : List (List Token)} :
    barred (ts :: us :: tss) = ts ++ .plain '|' :: barred (us :: tss) := by
  simp only [barred, List.intercalate_cons_cons, List.append_assoc, List.singleton_append]

namespace Behind

variable {seen : Nat → Nat} {earlier : List GroupEntry} {rows : List (List Regex)} {b : State}

/-- Several texts of which none clashes are read as alternatives between their
    rows. -/
theorem join {ts : List Token} {tss : List (List Token)} {ss : List State}
    (h : Behind seen earlier rows {} b) (hrows : Measured rows)
    (hwhole : List.Forall₂ IsWhole (ts :: tss) ss)
    (hcompatible : Compatible seen earlier (ts :: tss)) :
    ∃ b' r, Parser.run b (barred (ts :: tss)) = .ok b' ∧ Parser.finish b' = .ok r ∧
      (∀ w ∈ r.lookBehindWidths, w.mayPrecede = true) ∧
      r.outline seen 0 = alternatives (rows.reverse ++ joinedRows seen earlier.length ss) := by
  induction tss generalizing earlier rows b ts ss with
  | nil =>
      rcases hwhole with _ | ⟨hs, hnone⟩
      cases hnone
      rcases h.run hcompatible.1 _ hs.1 with ⟨b', hb', hbehind⟩
      -- The last text is followed by no bar, and ends the whole.
      rcases hbehind.finish hrows hs with ⟨r, hr, hwidths, htree⟩
      refine ⟨b', r, ?_, hr, hwidths, ?_⟩
      · simp only [barred, List.intercalate_singleton]
        exact hb'
      · rw [htree, joinedRows, joinedRows, List.append_nil]
  | cons us tss ih =>
      rcases hwhole with _ | ⟨hs, hrest⟩
      rcases h.run hcompatible.1 _ hs.1 with ⟨b₁, hb₁, hbehind⟩
      rcases hbehind.next hrows hs with ⟨rows', b₂, hb₂, hrows', heq, hbehind'⟩
      -- The groups of this text are now among the earlier ones.
      rcases ih hbehind' hrows' hrest (hcompatible.2 _ hs.1) with ⟨b', r, hb', hr, hwidths, htree⟩
      refine ⟨b', r, ?_, hr, hwidths, ?_⟩
      · rw [barred_cons, run_append, hb₁]
        show Parser.run b₁ (.plain '|' :: _) = _
        rw [run_cons, hb₂]
        exact hb'
      · rw [htree, heq, List.length_append, joinedRows, List.append_assoc]

/-- Several texts of which one clashes, whatever conditions ask for, are refused as
    alternatives. -/
theorem join_clash {ts : List Token} {tss : List (List Token)} {ss : List State}
    (h : Behind unseen earlier rows {} b) (hrows : Measured rows)
    (hwhole : List.Forall₂ IsWhole (ts :: tss) ss)
    (hcompatible : ¬Compatible unseen earlier (ts :: tss)) :
    ∃ e, Parser.run b (barred (ts :: tss)) = .error (.malformed e) := by
  induction tss generalizing earlier rows b ts ss with
  | nil =>
      rcases hwhole with _ | ⟨hs, _⟩
      -- Nothing follows the last text, so it is the one that clashes.
      have hts : ¬Undisturbed unseen earlier {} ts := fun hts =>
        hcompatible ⟨hts, fun _ _ => trivial⟩
      simp only [barred, List.intercalate_singleton]
      exact h.run_clash hts hs.1
  | cons us tss ih =>
      rcases hwhole with _ | @⟨_, s, _, _, hs, hwholes⟩
      rw [barred_cons, run_append]
      by_cases hts : Undisturbed unseen earlier {} ts
      · rcases h.run hts s hs.1 with ⟨b₁, hb₁, hbehind⟩
        rcases hbehind.next hrows hs with ⟨rows', b₂, hb₂, hrows', _, hbehind'⟩
        -- The first text is read, so it is one of the others that clashes.
        have hrest : ¬Compatible unseen (earlier ++ s.groups) (us :: tss) := by
          intro hrest
          refine hcompatible ⟨hts, fun s' hs' => ?_⟩
          rw [hs.1] at hs'
          cases hs'
          exact hrest
        rcases ih hbehind' hrows' hwholes hrest with ⟨e, he⟩
        refine ⟨e, ?_⟩
        rw [hb₁]
        show Parser.run b₁ (.plain '|' :: _) = _
        rw [run_cons, hb₂]
        exact he
      · rcases h.run_clash hts hs.1 with ⟨e, he⟩
        refine ⟨e, ?_⟩
        rw [he]
        rfl

/-- The start of a text, behind nothing. -/
theorem start : Behind seen [] [] {} {} :=
  ⟨⟨nofun, fun hne => absurd rfl hne, fun i e he => by cases he⟩, .items,
    .outermost ⟨rfl, rfl, rfl⟩ rfl, rfl, rfl, fun x hx => (by cases hx), fun e he => (by cases he),
    fun e he => (by cases he)⟩

end Behind

end Parser

/-- The units of a text; none if it ends in a lone backslash. -/
def units (cs : List Char) : List Token :=
  (Token.ofChars? cs).getD []

theorem ofChars?_intercalate {css : List (List Char)}
    (h : ∀ cs ∈ css, ∃ ts, Token.ofChars? cs = some ts) :
    Token.ofChars? (['|'].intercalate css) = some (Parser.barred (css.map units)) := by
  induction css with
  | nil => rfl
  | cons cs css ih =>
      rcases h cs List.mem_cons_self with ⟨ts, hts⟩
      have hunits : units cs = ts := by rw [units, hts, Option.getD_some]
      have hrest := ih fun ds hds => h ds (List.mem_cons_of_mem _ hds)
      cases css with
      | nil =>
          rw [List.intercalate_singleton, hts, ← hunits]
          simp only [Parser.barred, List.map_cons, List.map_nil, List.intercalate_singleton]
      | cons ds css =>
          -- A bar is never escaped by the text before it, since that splits into units by
          -- itself.
          rw [List.intercalate_cons_cons, List.append_assoc, Token.ofChars?_append hts,
            Token.ofChars?_append (show Token.ofChars? ['|'] = some [.plain '|'] from rfl), hrest]
          simp only [List.map_cons, Parser.barred_cons, hunits]
          rfl

/-- A text that is a regular expression is whole, and its tree are its rows. -/
theorem isWhole_of_parse {cs : List Char} {r : Regex} (h : parse cs = .ok r) :
    ∃ s, Token.ofChars? cs = some (units cs) ∧ Parser.IsWhole (units cs) s ∧
      r = alternatives s.rows := by
  rcases parse_ok.mp h with ⟨ts, s, hts, hrun, hfinish, hwidths⟩
  have hunits : units cs = ts := by rw [units, hts, Option.getD_some]
  rw [hunits]
  exact ⟨s, hts, ⟨hrun, r, hfinish, hwidths⟩, (Parser.finish_ok.mp hfinish).2.2.2⟩

/-- Where texts that are regular expressions end. -/
theorem states_of_parse {css : List (List Char)} (h : ∀ cs ∈ css, ∃ r, parse cs = .ok r) :
    ∃ ss, List.Forall₂ Parser.IsWhole (css.map units) ss ∧
      List.Forall₂ (fun cs s => parse cs = .ok (alternatives s.rows)) css ss := by
  induction css with
  | nil => exact ⟨[], .nil, .nil⟩
  | cons cs css ih =>
      rcases h cs List.mem_cons_self with ⟨r, hr⟩
      rcases isWhole_of_parse hr with ⟨s, _, hwhole, rfl⟩
      rcases ih fun ds hds => h ds (List.mem_cons_of_mem _ hds) with ⟨ss, hwholes, htrees⟩
      exact ⟨s :: ss, .cons hwhole hwholes, .cons hr htrees⟩

section

variable {cs : List Char} {css : List (List Char)}

/-- Texts that are regular expressions each are one as alternatives if no unit of
    one of them clashes with the groups of those before it. -/
theorem parse_intercalate {seen : Nat → Nat} {ss : List Parser.State}
    (h : ∀ ds ∈ cs :: css, ∃ r, parse ds = .ok r)
    (hwholes : List.Forall₂ Parser.IsWhole ((cs :: css).map units) ss)
    (hcompatible : Parser.Compatible seen [] ((cs :: css).map units)) :
    ∃ r, parse (['|'].intercalate (cs :: css)) = .ok r ∧
      r.outline seen 0 = alternatives (Parser.joinedRows seen 0 ss) := by
  have hjoined := ofChars?_intercalate fun ds hds => by
    rcases h ds hds with ⟨r, hr⟩
    rcases isWhole_of_parse hr with ⟨_, hts, _⟩
    exact ⟨_, hts⟩
  rcases Parser.Behind.start.join (fun row hrow => by cases hrow) hwholes hcompatible with
    ⟨b, r, hrun, hfinish, hwidths, htree⟩
  exact ⟨r, parse_ok.mpr ⟨_, b, hjoined, hrun, hfinish, hwidths⟩, htree⟩

/-- They are malformed as alternatives if one of them clashes, whatever conditions
    ask for. -/
theorem parse_intercalate_clash (h : ∀ ds ∈ cs :: css, ∃ r, parse ds = .ok r)
    (hcompatible : ¬Parser.Compatible unseen [] ((cs :: css).map units)) :
    ∃ e, parse (['|'].intercalate (cs :: css)) = .error (.malformed e) := by
  have hjoined := ofChars?_intercalate fun ds hds => by
    rcases h ds hds with ⟨r, hr⟩
    rcases isWhole_of_parse hr with ⟨_, hts, _⟩
    exact ⟨_, hts⟩
  rcases states_of_parse h with ⟨ss, hwholes, _⟩
  rcases Parser.Behind.start.join_clash (fun row hrow => by cases hrow) hwholes hcompatible with
    ⟨e, he⟩
  -- A reading that is refused is refused as a whole, and its end is never reached.
  have hrun : Parser.run {} (Parser.barred ((cs :: css).map units)) = .error (.malformed e) := he
  refine ⟨e, ?_⟩
  unfold parse
  rw [hjoined]
  simp only [hrun]
  rfl

end

end Regex

end NamePatterns
