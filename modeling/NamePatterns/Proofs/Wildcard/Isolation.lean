import Mathlib.Control.Monad.Basic
import NamePatterns.Proofs.Log.Logged
import NamePatterns.Proofs.Regex.Union
import NamePatterns.Wildcard.List

/-!
# Wildcards in a List

When wildcards that are regular expressions alone are one as a list.

The regular expression of a list shares its groups among the wildcards. So a
list of wildcards that each compile can be refused as a whole, and then no
name is accepted any more, not even one that a wildcard of the list accepts.
This happens if and only if a wildcard gives a group the name of a group of an
earlier wildcard, or asks, inside an assertion on what precedes, for a number
that in the list is the number of a group that is still open there. A list is
never refused because a number is beyond a limit.

A list that is not refused can lose a name all the same: a condition that asks
for a group by its number asks for another group behind the groups of earlier
wildcards. Where there is none, every name that a wildcard accepts is accepted,
unless a match is found for it that no regular expression may have.

## Main definitions

* `Wildcard.Isolated`: Fragments that are a regular expression together, which
  can be computed.
* `Wildcard.Apart`: Fragments that mean together what they mean alone, which can
  be computed as well.
* `Wildcard.Keeps`: A regular expression that accepts what fragments accept.

## Theorems

* `Wildcard.parse_of_compile`: A fragment is a regular expression.
* `Wildcard.parse_joined`: What is joined of fragments.
* `Wildcard.joined_of_apart`: What is joined of fragments that are apart.
* `Wildcard.keeps_of_apart`: Fragments that are apart lose no name.
* `Wildcard.compileList_of_compile`: When a list is a regular expression, and when
  it loses no name.
* `Wildcard.compileList_sharedName`: Two wildcards that disturb each other.
-/

namespace NamePatterns

theorem NameMatcher.nothing_accepts (name : String) : nothing.accepts name = .ok false :=
  rfl

namespace Wildcard

open Regex (units)

/-- No unit of a fragment clashes with the groups of the fragments before it. -/
def Isolated (fs : List String) : Prop :=
  Regex.Parser.Compatible Regex.unseen [] (fs.map fun f => units f.toList)

/-- No unit of a fragment clashes with the groups of the fragments before it, and no
    condition behind groups of these asks for a group by its number. -/
def Apart (fs : List String) : Prop :=
  Regex.Parser.Compatible id [] (fs.map fun f => units f.toList)

instance decidableIsolated (fs : List String) : Decidable (Isolated fs) :=
  inferInstanceAs (Decidable (Regex.Parser.Compatible _ _ _))

instance decidableApart (fs : List String) : Decidable (Apart fs) :=
  inferInstanceAs (Decidable (Regex.Parser.Compatible _ _ _))

/-- Every name that a fragment accepts is accepted, or the match that is found for it
    is one that a fragment finds and that has a group that ends before it starts. -/
def Keeps (m : NameMatcher) (fs : List String) : Prop :=
  ∀ name, (∃ f ∈ fs, ∃ r, Regex.parse f.toList = .ok r ∧
      (NameMatcher.mk f r).accepts name = .ok true) →
    m.accepts name = .ok true ∨ m.accepts name = .error .groupOrder ∧
      ∃ f ∈ fs, ∃ r, Regex.parse f.toList = .ok r ∧ r.found name.toList = some false

theorem parse_matchNothing : Regex.parse matchNothing.toList = .ok (.lookAhead true .empty) :=
  rfl

/-- A fragment matches nothing, or it is what the wildcard is written as, if that is a regular
    expression. -/
theorem compile_fragment {dashes : Bool} {w f : String} (h : (compile dashes w).outcome = .ok f) :
    f = matchNothing ∨ f = translate dashes w ∧ ∃ r, Regex.parse f.toList = .ok r := by
  unfold compile at h
  cases ho : outcome dashes w with
  | error e =>
      rw [ho] at h
      cases h
  | ok o =>
      rw [ho] at h
      obtain rfl : o.fragment = f := Except.ok.inj h
      cases o with
      | unterminated => exact Or.inl rfl
      | rejected regex e => exact Or.inl rfl
      | accepted fragment =>
          right
          unfold outcome at ho
          -- Nothing else is accepted than what could be read.
          by_cases hopen : 0 < openClasses w
          · rw [if_pos hopen] at ho
            cases ho
          · rw [if_neg hopen] at ho
            cases hparse : Regex.parse (translate dashes w).toList with
            | ok r =>
                simp only [hparse] at ho
                cases ho
                exact ⟨rfl, r, hparse⟩
            | error e =>
                cases e with
                | malformed e =>
                    simp only [hparse] at ho
                    cases ho
                | beyondLimit e =>
                    simp only [hparse] at ho
                    cases ho

/-- A fragment is a regular expression. -/
theorem parse_of_compile {dashes : Bool} {w f : String} (h : (compile dashes w).outcome = .ok f) :
    ∃ r, Regex.parse f.toList = .ok r := by
  rcases compile_fragment h with rfl | ⟨_, hparse⟩
  · exact ⟨_, parse_matchNothing⟩
  · exact hparse

/-- What becomes of a list whose wildcards compile is decided by what is joined. -/
theorem compileList_outcome {dashes : Bool} {wildcards : String} {fs : List String}
    (h : (fragments dashes wildcards).outcome = .ok fs) :
    (compileList dashes wildcards).outcome =
      match Regex.parse ("|".intercalate fs).toList with
      | .ok tree => .ok ⟨"|".intercalate fs, tree⟩
      | .error (.malformed e) => .error (.rejected wildcards ("|".intercalate fs) e)
      | .error (.beyondLimit e) => .error (.beyondLimit e) := by
  have hjoined : (joined dashes wildcards).outcome = .ok ("|".intercalate fs) := by
    unfold joined
    rcases hfs : fragments dashes wildcards with ⟨records, outcome⟩
    rw [hfs] at h
    obtain rfl : outcome = .ok fs := h
    rfl
  unfold compileList
  rcases hregex : joined dashes wildcards with ⟨records, outcome⟩
  rw [hregex] at hjoined
  obtain rfl : outcome = .ok ("|".intercalate fs) := hjoined
  show (match Regex.parse ("|".intercalate fs).toList with
    | .ok tree => pure ⟨"|".intercalate fs, tree⟩
    | .error (.malformed e) => Logged.fail (.rejected wildcards ("|".intercalate fs) e)
    | .error (.beyondLimit e) => Logged.fail (.beyondLimit e) :
      Logged ListError NameMatcher).outcome = _
  cases Regex.parse ("|".intercalate fs).toList with
  | ok tree => rfl
  | error e => cases e <;> rfl

/-- Where a list is a regular expression, nothing takes its place. -/
theorem compileListOrNothing_of_ok {dashes : Bool} {wildcards : String} {m : NameMatcher}
    (h : (compileList dashes wildcards).outcome = .ok m) :
    compileListOrNothing dashes wildcards = ⟨(compileList dashes wildcards).records, .ok m⟩ := by
  simp only [compileListOrNothing, h]

/-- Where a list is refused, the matcher that accepts no name takes its place. -/
theorem compileListOrNothing_of_rejected {dashes : Bool} {wildcards ws regex : String}
    {e : Regex.SyntaxError}
    (h : (compileList dashes wildcards).outcome = .error (.rejected ws regex e)) :
    (compileListOrNothing dashes wildcards).outcome = .ok .nothing := by
  simp only [compileListOrNothing, h]

/-- The fragments of a list whose wildcards compile. -/
theorem fragments_of_compile {dashes : Bool} {wildcards : String}
    (h : ∀ w ∈ split wildcards, ∃ f, (compile dashes w).outcome = .ok f) :
    ∃ fs, (fragments dashes wildcards).outcome = .ok fs ∧
      (split wildcards).map (fun w => (compile dashes w).outcome) = fs.map .ok := by
  obtain ⟨fs, hfs⟩ := exists_map_ok_iff.mpr h
  exact ⟨fs, Logged.mapM_ok.mpr hfs, hfs⟩

theorem toList_joined (f : String) (fs : List String) :
    ("|".intercalate (f :: fs)).toList = ['|'].intercalate (f.toList :: fs.map String.toList) :=
  String.toList_intercalate

/-- Each of two lists that are related item by item has what the other one has. -/
theorem exists_of_forall₂ {α β : Type} {R : α → β → Prop} {xs : List α} {ys : List β}
    (h : List.Forall₂ R xs ys) :
    (∀ x ∈ xs, ∃ y ∈ ys, R x y) ∧ ∀ y ∈ ys, ∃ x ∈ xs, R x y := by
  induction h with
  | nil => exact ⟨nofun, nofun⟩
  | @cons x y xs ys hxy _ ih =>
      constructor
      · intro x' hx'
        rcases List.mem_cons.mp hx' with rfl | hmem
        · exact ⟨y, List.mem_cons_self, hxy⟩
        · rcases ih.1 x' hmem with ⟨y', hy', hrel⟩
          exact ⟨y', List.mem_cons_of_mem _ hy', hrel⟩
      · intro y' hy'
        rcases List.mem_cons.mp hy' with rfl | hmem
        · exact ⟨x, List.mem_cons_self, hxy⟩
        · rcases ih.2 y' hmem with ⟨x', hx', hrel⟩
          exact ⟨x', List.mem_cons_of_mem _ hx', hrel⟩

theorem map_units (f : String) (fs : List String) :
    (f :: fs).map (fun f => units f.toList) = (f.toList :: fs.map String.toList).map units := by
  simp only [List.map_cons, List.map_map]
  rfl

section

variable {f : String} {fs : List String}
  (hfs : ∀ g ∈ f :: fs, ∃ r, Regex.parse g.toList = .ok r)

include hfs

theorem parse_toList : ∀ cs ∈ f.toList :: fs.map String.toList, ∃ r, Regex.parse cs = .ok r := by
  intro cs hcs
  rcases List.mem_map.mp (show cs ∈ (f :: fs).map String.toList from hcs) with ⟨g, hg, rfl⟩
  exact hfs g hg

/-- What is joined of fragments that are regular expressions is one if and only if
    the fragments are isolated from each other, and malformed otherwise. -/
theorem parse_joined :
    (Isolated (f :: fs) → ∃ r, Regex.parse ("|".intercalate (f :: fs)).toList = .ok r) ∧
    (¬Isolated (f :: fs) →
      ∃ e, Regex.parse ("|".intercalate (f :: fs)).toList = .error (.malformed e)) := by
  unfold Isolated
  rw [toList_joined, map_units]
  constructor
  · intro hisolated
    -- Each fragment is read alone first; isolation lets its steps be repeated behind the bars.
    rcases Regex.states_of_parse (parse_toList hfs) with ⟨ss, hwholes, _⟩
    rcases Regex.parse_intercalate (parse_toList hfs) hwholes hisolated with ⟨r, hr, _⟩
    exact ⟨r, hr⟩
  · exact Regex.parse_intercalate_clash (parse_toList hfs)

/-- What is joined of fragments that are apart is a regular expression. It finds what
    the first of them finds that finds anything, and is as wide as the least wide of
    them. -/
theorem joined_of_apart (hapart : Apart (f :: fs)) :
    ∃ r rs, Regex.parse ("|".intercalate (f :: fs)).toList = .ok r ∧
      List.Forall₂ (fun g x => Regex.parse g.toList = .ok x) (f :: fs) rs ∧
      (∀ text, r.found text = rs.findSome? (·.found text)) ∧
      ∀ n, n ≤ r.width.low ↔ ∀ x ∈ rs, n ≤ x.width.low := by
  unfold Apart at hapart
  rw [map_units] at hapart
  rcases Regex.states_of_parse (parse_toList hfs) with ⟨ss, hwholes, htrees⟩
  rcases Regex.parse_intercalate (parse_toList hfs) hwholes hapart with ⟨r, hr, htree⟩
  rw [← toList_joined] at hr
  rw [Regex.outline_id] at htree
  have hne : ss ≠ [] := by
    rintro rfl
    cases htrees
  have hrows := Regex.Parser.joinedRows_ne_nil id 0 hne
  refine ⟨r, ss.map fun s => Regex.alternatives s.rows, hr, ?_, fun text => ?_, fun n => ?_⟩
  · rw [List.forall₂_map_right_iff]
    rw [← List.map_cons] at htrees
    exact List.forall₂_map_left_iff.mp htrees
  -- The fragments are tried one after the other, as they stand alone.
  · rw [htree, Regex.found_eq_findSome? hrows, Regex.found_joinedRows, List.findSome?_map]
    rfl
  -- The width is the least of the widths of the branches, whatever their groups are.
  · rw [htree, Regex.le_width_alternatives hrows, Regex.le_width_joinedRows, List.forall_mem_map]

/-- What is joined of fragments that are apart keeps what they accept. -/
theorem keeps_of_apart (hapart : Apart (f :: fs)) {source : String} {r : Regex}
    (hr : Regex.parse ("|".intercalate (f :: fs)).toList = .ok r) :
    Keeps ⟨source, r⟩ (f :: fs) := by
  rcases joined_of_apart hfs hapart with ⟨r', rs, hr', htrees, hjoined, hwidth⟩
  obtain rfl : r = r' := Except.ok.inj (hr.symm.trans hr')
  rcases exists_of_forall₂ htrees with ⟨htree, hfragment⟩
  rintro name ⟨g, hg, x, hx, haccepts⟩
  rcases Regex.fullMatch_true_iff.mp haccepts with ⟨hle, hfound⟩
  rcases htree g hg with ⟨y, hy, hparse⟩
  obtain rfl : x = y := Except.ok.inj (hx.symm.trans hparse)
  -- A name long enough for one fragment is long enough for the list.
  have hwide := Nat.le_trans ((hwidth _).mp (Nat.le_refl _) x hy) hle
  cases hfirst : r.found name.toList with
  | none =>
      rw [hjoined, List.findSome?_eq_none_iff] at hfirst
      have hnone := hfirst x hy
      rw [hfound] at hnone
      cases hnone
  | some ordered =>
      cases ordered with
      | true => exact Or.inl (Regex.fullMatch_true_iff.mpr ⟨hwide, hfirst⟩)
      -- The match that is found first belongs to another fragment, and matching stops there.
      | false =>
          refine Or.inr ⟨Regex.fullMatch_error_iff.mpr ⟨rfl, hwide, hfirst⟩, ?_⟩
          rw [hjoined] at hfirst
          rcases List.exists_of_findSome?_eq_some hfirst with ⟨z, hz, hcrossed⟩
          rcases hfragment z hz with ⟨g', hg', hparse'⟩
          exact ⟨g', hg', z, hparse', hcrossed⟩

end

/-- Each fragment of a list is that of one of its wildcards. -/
theorem exists_wildcard_of_mem {dashes : Bool} {wildcards : String} {fs : List String}
    (h : (split wildcards).map (fun w => (compile dashes w).outcome) = fs.map .ok) {f : String}
    (hf : f ∈ fs) : ∃ w ∈ split wildcards, (compile dashes w).outcome = .ok f := by
  have hmem : Except.ok f ∈ (split wildcards).map fun w => (compile dashes w).outcome := by
    rw [h]
    exact List.mem_map_of_mem hf
  exact List.mem_map.mp hmem

/-- The fragments of a list whose wildcards compile are regular expressions, and
    there is one at least. -/
theorem fragments_parse {dashes : Bool} {wildcards : String} {fs : List String}
    (h : (split wildcards).map (fun w => (compile dashes w).outcome) = fs.map .ok) :
    ∃ f fs', fs = f :: fs' ∧ ∀ g ∈ f :: fs', ∃ r, Regex.parse g.toList = .ok r := by
  cases fs with
  | nil => exact absurd (List.map_eq_nil_iff.mp h) (split_ne_nil wildcards)
  | cons f fs =>
      refine ⟨f, fs, rfl, fun g hg => ?_⟩
      rcases exists_wildcard_of_mem h hg with ⟨w, _, hw⟩
      exact parse_of_compile hw

/-- Every wildcard of a list may compile alone. Then the list is a regular
    expression, and nothing takes its place, if and only if the fragments are
    isolated from each other; if they are apart, it keeps what they accept.
    Otherwise it is refused for a fault of syntax, and what takes its place
    accepts no name. -/
theorem compileList_of_compile {dashes : Bool} {wildcards : String}
    (h : ∀ w ∈ split wildcards, ∃ f, (compile dashes w).outcome = .ok f) :
    ∃ fs, (split wildcards).map (fun w => (compile dashes w).outcome) = fs.map .ok ∧
      (Isolated fs → ∃ m, m.source = "|".intercalate fs ∧
        (compileList dashes wildcards).outcome = .ok m ∧
        compileListOrNothing dashes wildcards
          = ⟨(compileList dashes wildcards).records, .ok m⟩ ∧
        (Apart fs → Keeps m fs)) ∧
      (¬Isolated fs → ∃ e,
        (compileList dashes wildcards).outcome
          = .error (.rejected wildcards ("|".intercalate fs) e) ∧
        (compileListOrNothing dashes wildcards).outcome = .ok .nothing ∧
        ∀ name, NameMatcher.nothing.accepts name = .ok false) := by
  rcases fragments_of_compile h with ⟨_, houtcome, hcompiled⟩
  rcases fragments_parse hcompiled with ⟨f, fs, rfl, hfs⟩
  rcases parse_joined hfs with ⟨hjoined, hclash⟩
  have hlist := compileList_outcome houtcome
  refine ⟨f :: fs, hcompiled, ?_, ?_⟩
  · intro hisolated
    rcases hjoined hisolated with ⟨r, hr⟩
    rw [hr] at hlist
    exact ⟨_, rfl, hlist, compileListOrNothing_of_ok hlist, fun hapart =>
      keeps_of_apart hfs hapart hr⟩
  -- A clash is a fault of syntax, so the list falls silent and does not fail.
  · intro hisolated
    rcases hclash hisolated with ⟨e, he⟩
    rw [he] at hlist
    exact ⟨e, hlist, compileListOrNothing_of_rejected hlist, NameMatcher.nothing_accepts⟩

/-- Two wildcards with a named group each, under different names: their fragments
    are isolated and apart, so their list is accepted and keeps what they accept. -/
theorem compileList_of_compile_named :
    Isolated ["[[](?P<n>)]", "[[](?P<m>)]"] ∧ Apart ["[[](?P<n>)]", "[[](?P<m>)]"] ∧
    ∃ m, m.source = "[[](?P<n>)]|[[](?P<m>)]" ∧
      (compileList false "[[](?P<n>)] [[](?P<m>)]").outcome = .ok m ∧
      compileListOrNothing false "[[](?P<n>)] [[](?P<m>)]"
        = ⟨(compileList false "[[](?P<n>)] [[](?P<m>)]").records, .ok m⟩ ∧
      Keeps m ["[[](?P<n>)]", "[[](?P<m>)]"] := by
  have hsplit : split "[[](?P<n>)] [[](?P<m>)]" = ["[[](?P<n>)]", "[[](?P<m>)]"] := by
    decide +kernel
  have hn : (compile false "[[](?P<n>)]").outcome = .ok "[[](?P<n>)]" := by decide +kernel
  have hm : (compile false "[[](?P<m>)]").outcome = .ok "[[](?P<m>)]" := by decide +kernel
  have hisolated : Isolated ["[[](?P<n>)]", "[[](?P<m>)]"] := by decide +kernel
  have hapart : Apart ["[[](?P<n>)]", "[[](?P<m>)]"] := by decide +kernel
  have hcompile : ∀ w ∈ split "[[](?P<n>)] [[](?P<m>)]", ∃ f,
      (compile false w).outcome = .ok f := by
    rw [hsplit, List.forall_mem_cons, List.forall_mem_singleton]
    exact ⟨⟨_, hn⟩, _, hm⟩
  rcases compileList_of_compile hcompile with ⟨fs, hfs, hjoined, _⟩
  -- Each of the wildcards compiles to itself, which leaves these fragments only.
  obtain rfl : fs = ["[[](?P<n>)]", "[[](?P<m>)]"] := by
    rw [hsplit, List.map_cons, List.map_cons, List.map_nil, hn, hm] at hfs
    have hok : Function.Injective (Except.ok : String → Except Regex.LimitError String) :=
      fun _ _ => Except.ok.inj
    exact hok.list_map hfs.symm
  rcases hjoined hisolated with ⟨m, hsource, hlist, hkept, hkeeps⟩
  exact ⟨hisolated, hapart, m, hsource, hlist, hkept, hkeeps hapart⟩

/-- Behind a group, a condition that asks for the first group asks for that one. The
    fragments are isolated and not apart, and the list loses a name without being
    refused. -/
example :
    Isolated ["[[](x)]", "[[]()(?(1)a|b)]"] ∧ ¬Apart ["[[](x)]", "[[]()(?(1)a|b)]"] ∧
    (compileList false "[[]()(?(1)a|b)]").outcome.toOption.map (·.accepts "[a]")
      = some (.ok true) ∧
    (compileList false "[[](x)] [[]()(?(1)a|b)]").outcome.toOption.map (·.accepts "[a]")
      = some (.ok false) := by
  decide +kernel

/-- Two wildcards with groups of one name: either one accepts a name alone, and
    in their list both are lost. -/
theorem compileList_sharedName :
    (∀ w ∈ split "[[](?P<n>)] [[](?P<n>)]", (compile false w).outcome = .ok "[[](?P<n>)]") ∧
    (compileList false "[[](?P<n>)]").outcome.toOption.map (·.accepts "[]") = some (.ok true) ∧
    (compileList false "[[](?P<n>)] [[](?P<n>)]").outcome
      = .error (.rejected "[[](?P<n>)] [[](?P<n>)]" "[[](?P<n>)]|[[](?P<n>)]"
          ⟨.redefinition ['n'] 2 1, some 19⟩) ∧
    (compileListOrNothing false "[[](?P<n>)] [[](?P<n>)]").outcome = .ok .nothing := by
  decide +kernel

end Wildcard

end NamePatterns
