import NamePatterns.Proofs.Regex.Progress
import NamePatterns.Proofs.Wildcard.Isolation

/-!
# The Union of Wildcards

What the regular expression of a list accepts, where no wildcard numbers a group.

Without numbered groups there is nothing that wildcards could share. The list is
a regular expression, asking it for a name never fails, and it accepts whatever
a wildcard accepts.

It may accept more. A text is compared with the least length of a regular
expression before it is searched, and the list is only as long as its shortest
wildcard. So a match that takes fewer characters than its wildcard is wide,
which alone would never be looked for, is found in the list. There are such
matches: a look-behind that fails in an iteration of a possessive repetition
lets the repetition go on from an earlier place. Where the wildcards are steady
there are none, and the list accepts the union of what its wildcards accept.

## Main definitions

* `Wildcard.Groupless`: A wildcard whose fragment numbers no group.
* `Fragment.Accepts`, `Fragment.Finds`, `Fragment.Fits`, `Fragment.Steady`: What a
  fragment is, alone.
* `NameMatcher.Unites`: A regular expression that unites fragments.

## Theorems

* `Fragment.Finds.accepts`: A steady fragment accepts what it finds.
* `Wildcard.unites_of_groupless`: Fragments without groups are united.
* `Wildcard.compileList_blank`: The list of the one empty wildcard.
* `Wildcard.compileList_groupless`: Both for lists of wildcards.
* `Wildcard.compileList_movedBack`: A list that accepts a name that none of its
  wildcards accepts.
-/

namespace NamePatterns

namespace Fragment

variable {f name : String}

/-- A fragment accepts a whole name. -/
def Accepts (f name : String) : Prop :=
  ∃ r, Regex.parse f.toList = .ok r ∧ (NameMatcher.mk f r).accepts name = .ok true

/-- A fragment finds a match for a whole name, however long the name is. -/
def Finds (f name : String) : Prop :=
  ∃ r, Regex.parse f.toList = .ok r ∧ (r.found name.toList).isSome = true

/-- A name is no shorter than a fragment is wide. -/
def Fits (f name : String) : Prop :=
  ∃ r, Regex.parse f.toList = .ok r ∧ r.width.low ≤ name.toList.length

/-- A fragment tries no look-behind in an iteration of a possessive repetition. -/
def Steady (f : String) : Prop :=
  ∃ r, Regex.parse f.toList = .ok r ∧ r.isSteady = true

instance : Decidable (Accepts f name) :=
  inferInstanceAs (Decidable (∃ _, _ ∧ _))

theorem Accepts.finds (h : Accepts f name) : Finds f name := by
  rcases h with ⟨r, hr, hname⟩
  refine ⟨r, hr, ?_⟩
  rw [(Regex.fullMatch_true_iff.mp hname).2]
  rfl

theorem Accepts.fits (h : Accepts f name) : Fits f name := by
  rcases h with ⟨r, hr, hname⟩
  exact ⟨r, hr, (Regex.fullMatch_true_iff.mp hname).1⟩

/-- What a steady fragment without numbered groups finds is long enough for it. -/
theorem Finds.accepts {r : Regex} (h : Finds f name) (hr : Regex.parse f.toList = .ok r)
    (hgroups : r.groupCount = 0) (hsteady : Steady f) : Accepts f name := by
  rcases h with ⟨x, hx, hfound⟩
  obtain rfl : r = x := Except.ok.inj (hr.symm.trans hx)
  rcases hsteady with ⟨y, hy, hsteady⟩
  obtain rfl : r = y := Except.ok.inj (hr.symm.trans hy)
  rcases Option.isSome_iff_exists.mp hfound with ⟨ordered, hordered⟩
  -- A steady tree finds nothing that is shorter than it is wide.
  have hle := Regex.width_le_of_found hgroups hsteady hordered
  obtain rfl := Regex.found_of_groupless hgroups hordered
  exact ⟨r, hr, Regex.fullMatch_true_iff.mpr ⟨hle, hordered⟩⟩

end Fragment

/-- A matcher that never fails, keeps what fragments accept, and accepts nothing that
    they do not find. It accepts no more than they do if they are steady. -/
structure NameMatcher.Unites (m : NameMatcher) (fs : List String) : Prop where
  /-- No name makes the matcher fail. -/
  decides : ∀ name, ∃ b, m.accepts name = .ok b
  /-- A name is accepted if a fragment accepts it. -/
  keeps : ∀ name, (∃ f ∈ fs, Fragment.Accepts f name) → m.accepts name = .ok true
  /-- A name is accepted just if a fragment finds it and a fragment fits it. -/
  finds : ∀ name, m.accepts name = .ok true ↔
    (∃ f ∈ fs, Fragment.Finds f name) ∧ ∃ f ∈ fs, Fragment.Fits f name
  /-- A name is accepted just if a fragment accepts it, if all are steady. -/
  union : (∀ f ∈ fs, Fragment.Steady f) → ∀ name, m.accepts name = .ok true ↔
    ∃ f ∈ fs, Fragment.Accepts f name

namespace Wildcard

open Regex (units)

/-- A wildcard compiles to a fragment without numbered groups. -/
def Groupless (dashes : Bool) (w : String) : Prop :=
  ∃ f, (compile dashes w).outcome = .ok f ∧ ∃ r, Regex.parse f.toList = .ok r ∧ r.groupCount = 0

instance (dashes : Bool) (w : String) : Decidable (Groupless dashes w) :=
  inferInstanceAs (Decidable (∃ _, _ ∧ _))

/-- What holds of the tree of a fragment holds of a tree. -/
theorem exists_tree_iff {fs : List String} {rs : List Regex}
    (h : List.Forall₂ (fun f r => Regex.parse f.toList = .ok r) fs rs) (P : Regex → Prop) :
    (∃ f ∈ fs, ∃ r, Regex.parse f.toList = .ok r ∧ P r) ↔ ∃ r ∈ rs, P r := by
  rcases exists_of_forall₂ h with ⟨htree, hfragment⟩
  constructor
  · rintro ⟨f, hf, r, hr, hP⟩
    rcases htree f hf with ⟨x, hx, hparse⟩
    obtain rfl : r = x := Except.ok.inj (hr.symm.trans hparse)
    exact ⟨r, hx, hP⟩
  · rintro ⟨r, hr, hP⟩
    rcases hfragment r hr with ⟨f, hf, hparse⟩
    exact ⟨f, hf, r, hparse, hP⟩

section

variable {f : String} {fs : List String}
  (hfs : ∀ g ∈ f :: fs, ∃ r, Regex.parse g.toList = .ok r ∧ r.groupCount = 0)

include hfs

/-- Fragments without numbered groups are apart. -/
theorem apart_of_groupless : Apart (f :: fs) := by
  -- Fragments see of each other only the groups that are open or named, and there are none.
  refine Regex.Parser.compatible_of_groups fun ts hts => ?_
  rcases List.mem_map.mp hts with ⟨g, hg, rfl⟩
  rcases hfs g hg with ⟨r, hr, hgroups⟩
  rcases Regex.isWhole_of_parse hr with ⟨s, _, hwhole, rfl⟩
  refine ⟨s, hwhole.1, List.eq_nil_of_length_eq_zero ?_⟩
  rw [hwhole.length_groups, hgroups]

/-- What is joined of fragments without numbered groups unites them. -/
theorem unites_of_groupless : ∃ r, Regex.parse ("|".intercalate (f :: fs)).toList = .ok r ∧
    ∀ source, (NameMatcher.mk source r).Unites (f :: fs) := by
  have hparse (g : String) (hg : g ∈ f :: fs) : ∃ r, Regex.parse g.toList = .ok r := by
    rcases hfs g hg with ⟨r, hr, _⟩
    exact ⟨r, hr⟩
  rcases joined_of_apart hparse (apart_of_groupless hfs) with ⟨r, rs, hr, htrees, hjoined, hwidth⟩
  -- The trees that are joined are those of the fragments.
  have hgroups (x : Regex) (hx : x ∈ rs) : x.groupCount = 0 := by
    rcases (exists_of_forall₂ htrees).2 x hx with ⟨g, hg, hgparse⟩
    rcases hfs g hg with ⟨y, hy, hcount⟩
    rw [Except.ok.inj (hgparse.symm.trans hy), hcount]
  -- Every match that is found is found by a fragment, so it is in order.
  have hordered {text : List Char} {ordered : Bool} (h : r.found text = some ordered) :
      ordered = true := by
    rw [hjoined] at h
    rcases List.exists_of_findSome?_eq_some h with ⟨x, hx, hfound⟩
    exact Regex.found_of_groupless (hgroups x hx) hfound
  have hfound (text : List Char) :
      r.found text = some true ↔ ∃ x ∈ rs, (x.found text).isSome = true := by
    rw [← List.findSome?_isSome_iff, ← hjoined]
    constructor
    · intro h
      rw [h]
      rfl
    · intro h
      rcases Option.isSome_iff_exists.mp h with ⟨ordered, ho⟩
      rw [ho, hordered ho]
  -- The joined tree is as wide as the least wide one.
  have hfits (n : Nat) : r.width.low ≤ n ↔ ∃ x ∈ rs, x.width.low ≤ n := by
    rw [← Nat.not_lt, Nat.lt_iff_add_one_le, hwidth (n + 1)]
    simp only [not_forall, Nat.not_le, Nat.lt_add_one_iff, exists_prop]
  have haccepts (source name : String) : (NameMatcher.mk source r).accepts name = .ok true ↔
      (∃ g ∈ f :: fs, Fragment.Finds g name) ∧ ∃ g ∈ f :: fs, Fragment.Fits g name := by
    unfold Fragment.Finds Fragment.Fits
    rw [exists_tree_iff htrees, exists_tree_iff htrees, ← hfound, ← hfits, and_comm]
    exact Regex.fullMatch_true_iff
  have hkeeps (source name : String) (h : ∃ g ∈ f :: fs, Fragment.Accepts g name) :
      (NameMatcher.mk source r).accepts name = .ok true := by
    rcases h with ⟨g, hg, hname⟩
    exact (haccepts source name).mpr ⟨⟨g, hg, hname.finds⟩, g, hg, hname.fits⟩
  refine ⟨r, hr, fun source => ⟨fun name => ?_, hkeeps source, haccepts source, ?_⟩⟩
  · show ∃ b, r.fullMatch name.toList = .ok b
    cases hmatch : r.fullMatch name.toList with
    | ok b => exact ⟨b, rfl⟩
    | error e => cases hordered (Regex.fullMatch_error_iff.mp hmatch).2.2
  -- Steadiness turns what a fragment finds into what it accepts, and is used for that only.
  · refine fun hsteady name => ⟨fun hname => ?_, hkeeps source name⟩
    rcases ((haccepts source name).mp hname).1 with ⟨g, hg, hfinds⟩
    rcases hfs g hg with ⟨x, hx, hcount⟩
    exact ⟨g, hg, hfinds.accepts hx hcount (hsteady g hg)⟩

end

/-- A list of blanks has no words. -/
theorem words_of_blank {cs : List Char} (h : ∀ c ∈ cs, Text.isBlank c = true) :
    Text.words cs = [] := by
  induction cs with
  | nil => rfl
  | cons c cs ih =>
      have hc := h c List.mem_cons_self
      cases cs with
      | nil => exact if_pos hc
      | cons d cs =>
          rw [Text.words, if_pos hc]
          exact ih fun e he => h e (List.mem_cons_of_mem _ he)

/-- A list of blanks is the list of the one empty wildcard, which accepts the empty
    name. -/
theorem compileList_blank (dashes : Bool) {wildcards : String}
    (h : ∀ c ∈ wildcards.toList, Text.isBlank c = true) :
    split wildcards = [""] ∧ (compileList dashes wildcards).outcome = .ok ⟨"", .empty⟩ ∧
      ∀ name, (NameMatcher.mk "" .empty).accepts name = .ok (name == "") := by
  have hsplit : split wildcards = [""] := by
    unfold split
    rw [words_of_blank h]
  have hfragments : (fragments dashes wildcards).outcome = .ok [""] := by
    unfold fragments
    rw [hsplit]
    cases dashes <;> rfl
  refine ⟨hsplit, compileList_outcome hfragments, fun name => ?_⟩
  show Regex.empty.fullMatch name.toList = _
  cases hname : name.toList with
  | nil =>
      obtain rfl := String.toList_eq_nil_iff.mp hname
      rfl
  | cons c cs =>
      have hne : name ≠ "" := by
        rintro rfl
        cases hname
      rw [beq_eq_false_iff_ne.mpr hne]
      rfl

/-- Every wildcard of a list may compile to a fragment without numbered groups. Then
    the list is a regular expression that unites the fragments. A list of blanks is
    the list of the one empty wildcard, which accepts the empty name. -/
theorem compileList_groupless (dashes : Bool) (wildcards : String) :
    ((∀ w ∈ split wildcards, Groupless dashes w) →
      ∃ fs m, (split wildcards).map (fun w => (compile dashes w).outcome) = fs.map .ok ∧
        (compileList dashes wildcards).outcome = .ok m ∧ m.source = "|".intercalate fs ∧
        m.Unites fs) ∧
    ((∀ c ∈ wildcards.toList, Text.isBlank c = true) →
      split wildcards = [""] ∧ (compileList dashes wildcards).outcome = .ok ⟨"", .empty⟩ ∧
        ∀ name, (NameMatcher.mk "" .empty).accepts name = .ok (name == "")) := by
  refine ⟨fun h => ?_, compileList_blank dashes⟩
  have hcompile (w : String) (hw : w ∈ split wildcards) :
      ∃ f, (compile dashes w).outcome = .ok f := by
    rcases h w hw with ⟨f, hf, _⟩
    exact ⟨f, hf⟩
  rcases fragments_of_compile hcompile with ⟨_, houtcome, hcompiled⟩
  -- The list is split into one wildcard at least, so there is a first fragment.
  rcases fragments_parse hcompiled with ⟨f, fs, rfl, _⟩
  have hfs (g : String) (hg : g ∈ f :: fs) :
      ∃ r, Regex.parse g.toList = .ok r ∧ r.groupCount = 0 := by
    have hmem : Except.ok g ∈ (split wildcards).map fun w => (compile dashes w).outcome := by
      rw [hcompiled]
      exact List.mem_map_of_mem hg
    rcases List.mem_map.mp hmem with ⟨w, hw, hwg⟩
    rcases h w hw with ⟨g', hg', htree⟩
    obtain rfl : g' = g := Except.ok.inj (hg'.symm.trans hwg)
    exact htree
  rcases unites_of_groupless hfs with ⟨r, hr, hunites⟩
  have hlist := compileList_outcome houtcome
  rw [hr] at hlist
  exact ⟨f :: fs, _, hcompiled, hlist, rfl, hunites _⟩

/-- Two wildcards without groups, the first with a possessive repetition and the second
    with a look-behind; and a list of blanks. -/
theorem compileList_groupless_two :
    (∃ fs m,
      (split "[a[b](?:x|y)?+] [c[d](?<=d)]").map (fun w => (compile false w).outcome)
        = fs.map .ok ∧
      (compileList false "[a[b](?:x|y)?+] [c[d](?<=d)]").outcome = .ok m ∧
      m.source = "|".intercalate fs ∧ m.Unites fs) ∧
    split " \t" = [""] ∧ (compileList true " \t").outcome = .ok ⟨"", .empty⟩ ∧
      ∀ name, (NameMatcher.mk "" .empty).accepts name = .ok (name == "") :=
  ⟨(compileList_groupless false "[a[b](?:x|y)?+] [c[d](?<=d)]").1 (by decide +kernel),
    (compileList_groupless true " \t").2 (List.all_eq_true.mp (by decide +kernel))⟩

/-- A look-behind that fails in an iteration of a possessive repetition. Neither
    wildcard accepts the name, since the one that finds it is wider than the name is
    long; their list does. -/
theorem compileList_movedBack :
    (∀ w ∈ split "[a[b](?:(?<=y))?+a] x", Groupless false w) ∧
    (split "[a[b](?:(?<=y))?+a] x").map (fun w => (compile false w).outcome)
      = ["[a[b](?:(?<=y))?+a]", "x"].map .ok ∧
    (∀ f ∈ ["[a[b](?:(?<=y))?+a]", "x"], ¬Fragment.Accepts f "a]") ∧
    ∃ m, (compileList false "[a[b](?:(?<=y))?+a] x").outcome = .ok m ∧
      m.accepts "a]" = .ok true := by
  decide +kernel

end Wildcard

end NamePatterns
