import Mathlib.Data.List.Sort
import NamePatterns.Proofs.Project.Refresh

/-!
# Refreshing in Batches

Refreshing after changes of files does not depend on the order in which the
changes are told, on repetitions, or on spellings.

What a batch does to projects is said by the set of places that the changed
paths lead to: a given project whose file is at one of them holds what the file
says, any other project stays, and the answer has each project once for which
what is in force has changed. Since names are told apart by their last places
in the given list, the answer is determined by who is in it. So two batches
with the same places leave the same projects and give the same answer.

That the answer has nobody twice is not a matter of the sorting. A project that
is given several times is refreshed several times, and it is not reported again
since the second reading finds what is held already.

## Main definitions

* `Workspace.IsAmong`: A project's file is at one of some places.
* `Workspace.Refreshed`: What a batch has done.

## Theorems

* `Workspace.getElem?_lastPlace`: What stands at the last place.
* `Workspace.eq_of_pairwise_lastPlace`: An order by last places leaves no
  choice.
* `Workspace.mem_affected_iff`: Which projects are refreshed.
* `Workspace.refreshEach_total`: Projects can be refreshed if their files can be
  read.
* `Workspace.refreshEach_nodup`: Nobody is reported twice.
* `Workspace.refreshed_of_ok`, `Workspace.refreshChanged_total`: What a batch
  that succeeds has done, and when it succeeds.
* `Workspace.Refreshed.unique`: What a batch has done is determined.
* `Workspace.refreshChanged_exact`: What a batch does, whatever the order of the
  changes.
-/

namespace NamePatterns

namespace Workspace

section LastPlace

variable {names : List String} {a b : String}

/-- A name is at its last place. -/
theorem getElem?_lastPlace (h : a ∈ names) : names[lastPlace names a]? = some a := by
  induction names with
  | nil => cases h
  | cons n names ih =>
      -- The last place is behind the first name if the name comes again.
      by_cases ha : a ∈ names
      · rw [lastPlace, if_pos ha, List.getElem?_cons_succ]
        exact ih ha
      · rw [lastPlace, if_neg ha, List.getElem?_cons_zero]
        exact congrArg some ((List.mem_cons.mp h).resolve_right ha).symm

/-- Names are told apart by their last places. -/
theorem lastPlace_inj (ha : a ∈ names) (hb : b ∈ names)
    (h : lastPlace names a = lastPlace names b) : a = b := by
  have hsame : some a = some b := by
    rw [← getElem?_lastPlace ha, h, getElem?_lastPlace hb]
  exact Option.some.inj hsame

/-- Names without repetitions are in the order of their last places. -/
theorem pairwise_lastPlace (h : names.Nodup) :
    names.Pairwise fun a b => lastPlace names a < lastPlace names b := by
  -- Without repetitions, every place is the last one of the name there.
  have hplace : ∀ i (hi : i < names.length), lastPlace names names[i] = i := by
    intro i hi
    have hmem : names[i] ∈ names := List.getElem_mem hi
    have hlast : names[lastPlace names names[i]]? = some names[i] := getElem?_lastPlace hmem
    obtain ⟨hlt, heq⟩ := List.getElem?_eq_some_iff.mp hlast
    exact (List.Nodup.getElem_inj_iff h).mp heq
  rw [List.pairwise_iff_getElem]
  intro i j hi hj hij
  rw [hplace i hi, hplace j hj]
  exact hij

/-- Lists that are in the order of last places are the same if they have the
    same names. -/
theorem eq_of_pairwise_lastPlace {found found' : List String}
    (h : found.Pairwise fun a b => lastPlace names a < lastPlace names b)
    (h' : found'.Pairwise fun a b => lastPlace names a < lastPlace names b)
    (hmem : ∀ name, name ∈ found ↔ name ∈ found') : found = found' := by
  have hne : ∀ {x y : String}, lastPlace names x < lastPlace names y → x ≠ y :=
    fun hlt heq => Nat.ne_of_lt hlt (congrArg _ heq)
  -- They have no repetitions, so they are permutations, and the order decides.
  have hnodup : found.Nodup := h.imp hne
  have hnodup' : found'.Nodup := h'.imp hne
  have hperm : found.Perm found' := (List.perm_ext_iff_of_nodup hnodup hnodup').mpr hmem
  exact hperm.eq_of_pairwise (fun _ _ _ _ hab hba => absurd hab (Nat.lt_asymm hba)) h h'

end LastPlace

/-- Changed paths can be located together just if each of them can. -/
theorem located_eq_iff {fs : Files} {changed places : List Path} :
    located fs changed = (places, .ok ()) ↔ changed.map fs.locate = places.map .ok := by
  induction changed generalizing places with
  | nil =>
      rw [List.map_nil, eq_comm (a := []), List.map_eq_nil_iff]
      constructor
      · intro h
        exact (Prod.mk.inj h).1.symm
      · rintro rfl
        rfl
  | cons first changed ih =>
      cases hfirst : fs.locate first with
      | error e =>
          -- No list of places starts with one that is not there.
          simp only [located, hfirst, List.map_cons]
          constructor
          · intro h
            cases (Prod.mk.inj h).2
          · intro h
            cases places <;> cases h
      | ok path =>
          rcases hrest : located fs changed with ⟨paths, others⟩
          simp only [located, hfirst, List.map_cons, hrest, Prod.mk.injEq]
          rw [hrest] at ih
          constructor
          · rintro ⟨rfl, rfl⟩
            rw [ih.mp rfl, List.map_cons]
          · intro h
            cases places with
            | nil => cases h
            | cons path' places =>
                obtain ⟨hpath, hplaces⟩ := List.cons.inj h
                obtain ⟨rfl, rfl⟩ := Prod.mk.inj (ih.mpr hplaces)
                exact ⟨congrArg (· :: _) (Except.ok.inj hpath), rfl⟩

/-- The given projects can be located together just if each of them can. -/
theorem resolved_total_iff {fs : Files} {ws : Workspace} {names : List String} :
    (∃ paths, (names.filterMap ws.find?).mapM (Project.resolved fs) = .ok paths) ↔
      ∀ name ∈ names, ∀ p, ws.find? name = some p → ∃ path, p.resolved fs = .ok path := by
  simp only [Except.mapM_ok, exists_map_ok_iff, List.mem_filterMap]
  constructor
  · intro h name hname p hp
    exact h p ⟨name, hname, hp⟩
  · rintro h p ⟨name, hname, hp⟩
    exact h name hname p hp

/-- Refreshing projects succeeds if their files can be read. -/
theorem refreshEach_total {fs : Files} {ws : Workspace} {names : List String}
    (h : ∀ name ∈ names, ∀ p, ws.find? name = some p →
      ∃ c, (p.readFile fs none).outcome = .ok c) :
    ∃ found, (ws.refreshEach fs names).2.outcome = .ok found := by
  induction names generalizing ws with
  | nil => exact ⟨[], rfl⟩
  | cons first rest ih =>
      cases hfirst : ws.find? first with
      | none =>
          simp only [refreshEach, hfirst]
          exact ih fun name hname => h name (List.mem_cons_of_mem _ hname)
      | some p =>
          obtain ⟨c, hc⟩ := h first List.mem_cons_self p hfirst
          obtain ⟨path, hpath, _⟩ := Project.readFile_ok.mp hc
          -- Whether a file can be read does not depend on what was read before.
          have hrest : ∀ name ∈ rest, ∀ q, (ws.put first (p.hold c)).find? name = some q →
              ∃ d, (q.readFile fs none).outcome = .ok d := by
            intro name hname q hq
            rw [find?_put] at hq
            by_cases hsame : name = first
            · rw [if_pos hsame] at hq
              cases hq
              exact ⟨c, hc⟩
            · rw [if_neg hsame] at hq
              exact h name (List.mem_cons_of_mem _ hname) q hq
          obtain ⟨later, hlater⟩ := ih hrest
          simp only [refreshEach, hfirst, Project.refresh, Project.takeOver, hc, hpath, hlater]
          exact ⟨_, rfl⟩

/-- Nobody is reported twice. -/
theorem refreshEach_nodup {fs : Files} {ws : Workspace} {names found : List String}
    (h : (ws.refreshEach fs names).2.outcome = .ok found) : found.Nodup := by
  induction names generalizing ws found with
  | nil =>
      have hfound : [] = found := Except.ok.inj h
      rw [← hfound]
      exact List.nodup_nil
  | cons first rest ih =>
      rcases refreshEach_cons_ok h with
        ⟨_, hlater, _⟩ | ⟨q, c, later, _, hread, hlater, _, hfound⟩
      · exact ih hlater
      · rw [hfound]
        have hput : (ws.put first (q.hold c)).find? first = some (q.hold c) := by
          rw [find?_put, if_pos rfl]
        obtain ⟨hout, hin⟩ := refreshEach_ok hlater hput
        have hfresh : first ∉ later := by
          by_cases hrest : first ∈ rest
          · -- The second reading finds what the first one has left.
            obtain ⟨c', hread', _, hiff⟩ := hin hrest
            rw [Project.readFile_hold] at hread'
            obtain rfl : c = c' := Except.ok.inj (hread.symm.trans hread')
            rw [Project.changes_hold] at hiff
            exact fun hm => Bool.false_ne_true (hiff.mp hm)
          · exact (hout hrest).2
        cases q.changes c with
        | true => exact List.nodup_cons.mpr ⟨hfresh, ih hlater⟩
        | false => exact ih hlater

/-- The file of the project of a name is at one of some places. -/
def IsAmong (fs : Files) (ws : Workspace) (places : List Path) (name : String) : Prop :=
  ∃ p path, ws.find? name = some p ∧ p.resolved fs = .ok path ∧ path ∈ places

/-- The projects that are refreshed are the given ones whose files are among the
    changed ones. -/
theorem mem_affected_iff {fs : Files} {ws : Workspace} {names : List String}
    {places : List Path} {name : String} :
    name ∈ ws.affected fs names places ↔ name ∈ names ∧ ws.IsAmong fs places name := by
  rw [mem_affected]
  refine and_congr_right fun _ => ?_
  unfold isAt IsAmong
  cases hp : ws.find? name with
  | none =>
      constructor
      · rintro ⟨_, _, hat⟩
        cases hat
      · rintro ⟨_, _, hfind, _⟩
        cases hfind
  | some p =>
      simp only [Option.any_some, decide_eq_true_eq]
      constructor
      · rintro ⟨path, hpath, hat⟩
        cases hresolved : p.resolved fs with
        | error e =>
            rw [hresolved] at hat
            cases hat
        | ok at_ =>
            rw [hresolved] at hat
            cases hat
            exact ⟨p, path, rfl, hresolved, hpath⟩
      · rintro ⟨q, path, hfind, hresolved, hpath⟩
        cases hfind
        refine ⟨path, hpath, ?_⟩
        rw [hresolved]
        rfl

/-- What refreshing after changes of files has done, if the changed paths lead
    to some places: `ws'` is what has become of the projects, and `found` is the
    answer. -/
structure Refreshed (fs : Files) (ws : Workspace) (names : List String) (places : List Path)
    (ws' : Workspace) (found : List String) : Prop where
  /-- A given project whose file is at one of the places holds what the file
      says. -/
  read : ∀ {name p path}, name ∈ names → ws.find? name = some p → p.resolved fs = .ok path →
    path ∈ places →
    ∃ c, (Config.loadOrNone fs (some path)).outcome = .ok c ∧ ws'.find? name = some (p.hold c)
  /-- Any other project stays as it is. -/
  kept : ∀ {name}, ¬(name ∈ names ∧ ws.IsAmong fs places name) → ws'.find? name = ws.find? name
  /-- The answer has the projects that have been read and for which the wildcards
      in force are others than before. -/
  mem_found : ∀ {name}, name ∈ found ↔ name ∈ names ∧ ws.IsAmong fs places name ∧
    ∃ p p', ws.find? name = some p ∧ ws'.find? name = some p' ∧
      p'.effective.patterns ≠ p.effective.patterns
  /-- It has them in the order of their last places, so none of them twice. -/
  ordered : found.Pairwise fun a b => lastPlace names a < lastPlace names b

namespace Refreshed

variable {fs : Files} {ws ws₁ ws₂ : Workspace} {names found₁ found₂ : List String}
  {places places' : List Path}

/-- Only the set of the places matters. -/
theorem of_places (h : Refreshed fs ws names places ws₁ found₁)
    (hplaces : ∀ path, path ∈ places ↔ path ∈ places') :
    Refreshed fs ws names places' ws₁ found₁ := by
  have hamong : ∀ name, ws.IsAmong fs places name ↔ ws.IsAmong fs places' name := by
    intro name
    simp only [IsAmong, hplaces]
  constructor
  · intro name p path hname hp hpath hplace
    exact h.read hname hp hpath ((hplaces path).mpr hplace)
  · intro name hnot
    rw [← hamong] at hnot
    exact h.kept hnot
  · intro name
    rw [← hamong]
    exact h.mem_found
  · exact h.ordered

/-- What has become of the projects is determined. -/
theorem find?_eq (h₁ : Refreshed fs ws names places ws₁ found₁)
    (h₂ : Refreshed fs ws names places ws₂ found₂) (name : String) :
    ws₁.find? name = ws₂.find? name := by
  by_cases hname : name ∈ names ∧ ws.IsAmong fs places name
  · obtain ⟨hgiven, p, path, hp, hpath, hplace⟩ := hname
    obtain ⟨c₁, hload₁, hfind₁⟩ := h₁.read hgiven hp hpath hplace
    obtain ⟨c₂, hload₂, hfind₂⟩ := h₂.read hgiven hp hpath hplace
    rw [hload₁] at hload₂
    cases hload₂
    rw [hfind₁, hfind₂]
  · rw [h₁.kept hname, h₂.kept hname]

/-- What a batch has done is determined. -/
theorem unique (h₁ : Refreshed fs ws names places ws₁ found₁)
    (h₂ : Refreshed fs ws names places ws₂ found₂) :
    found₁ = found₂ ∧ ∀ name, ws₁.find? name = ws₂.find? name := by
  have hsame := find?_eq h₁ h₂
  refine ⟨eq_of_pairwise_lastPlace h₁.ordered h₂.ordered fun name => ?_, hsame⟩
  rw [h₁.mem_found, h₂.mem_found, hsame]

/-- If the given names have no repetitions, the answer has some of them in the
    same order. -/
theorem sublist (h : Refreshed fs ws names places ws₁ found₁) (hnodup : names.Nodup) :
    found₁.Sublist names := by
  have heq : found₁ = names.filter fun name => decide (name ∈ found₁) := by
    refine eq_of_pairwise_lastPlace h.ordered ((pairwise_lastPlace hnodup).filter _) ?_
    intro name
    rw [List.mem_filter, decide_eq_true_iff]
    exact ⟨fun hm => ⟨(h.mem_found.mp hm).1, hm⟩, fun hm => hm.2⟩
  rw [heq]
  exact List.filter_sublist

end Refreshed

/-- Names that no project has are neither given to one by refreshing nor
    reported. -/
theorem refreshEach_none {fs : Files} {ws : Workspace} {names found : List String}
    (h : (ws.refreshEach fs names).2.outcome = .ok found) {name : String}
    (hnone : ws.find? name = none) :
    (ws.refreshEach fs names).1.find? name = none ∧ name ∉ found := by
  induction names generalizing ws found with
  | nil =>
      have hfound : [] = found := Except.ok.inj h
      rw [← hfound]
      exact ⟨hnone, List.not_mem_nil⟩
  | cons first rest ih =>
      rcases refreshEach_cons_ok h with
        ⟨_, hlater, hafter⟩ | ⟨q, c, later, hfirst, _, hlater, hafter, hfound⟩
      · rw [hafter]
        exact ih hlater hnone
      · -- The first one is a project, so it has another name.
        have hne : name ≠ first := by
          rintro rfl
          rw [hnone] at hfirst
          cases hfirst
        have hput : (ws.put first (q.hold c)).find? name = none := by
          rw [find?_put, if_neg hne]
          exact hnone
        obtain ⟨hfind, hnot⟩ := ih hlater hput
        rw [hafter, hfound]
        refine ⟨hfind, ?_⟩
        cases q.changes c with
        | true => exact fun hm => hnot ((List.mem_cons.mp hm).resolve_left hne)
        | false => exact hnot

variable {fs : Files} {ws : Workspace} {names found : List String} {changed places : List Path}

/-- What is reported, sorted by last places, if it is among the given names. -/
theorem pairwise_mergeSort {reported : List String} (hnodup : reported.Nodup)
    (hgiven : ∀ name ∈ reported, name ∈ names) :
    (reported.mergeSort fun a b => lastPlace names a ≤ lastPlace names b).Pairwise
      fun a b => lastPlace names a < lastPlace names b := by
  have htrans : ∀ a b c : String, decide (lastPlace names a ≤ lastPlace names b) = true →
      decide (lastPlace names b ≤ lastPlace names c) = true →
      decide (lastPlace names a ≤ lastPlace names c) = true := by
    intro a b c hab hbc
    exact decide_eq_true (Nat.le_trans (of_decide_eq_true hab) (of_decide_eq_true hbc))
  have htotal : ∀ a b : String, (decide (lastPlace names a ≤ lastPlace names b) ||
      decide (lastPlace names b ≤ lastPlace names a)) = true := by
    intro a b
    simp only [Bool.or_eq_true, decide_eq_true_eq]
    exact Nat.le_total _ _
  have hsorted := List.pairwise_mergeSort htrans htotal reported
  have hperm := List.mergeSort_perm reported fun a b => lastPlace names a ≤ lastPlace names b
  have hdistinct := hperm.nodup_iff.mpr hnodup
  refine (hsorted.and hdistinct).imp_of_mem fun {a b} ha hb hab => ?_
  -- Nobody is reported twice, so no two of them have the same last place.
  have hle : lastPlace names a ≤ lastPlace names b := of_decide_eq_true hab.1
  have hne : lastPlace names a ≠ lastPlace names b := fun heq =>
    hab.2 (lastPlace_inj (hgiven a (hperm.mem_iff.mp ha)) (hgiven b (hperm.mem_iff.mp hb)) heq)
  omega

/-- A batch that succeeds has done what it should. -/
theorem refreshed_of_ok (hplaces : changed.map fs.locate = places.map .ok)
    (h : (ws.refreshChanged fs names changed).2.outcome = .ok found) :
    Refreshed fs ws names places (ws.refreshChanged fs names changed).1 found := by
  have hlocated := located_eq_iff.mpr hplaces
  have hstep : ∀ {name p}, ws.find? name = some p → _ := fun hp => refreshChanged_ok h hp
  simp only [hlocated, mem_affected_iff] at hstep
  obtain ⟨⟨paths, hpaths⟩, _, reported, heach, hsorted⟩ := refreshChanged_ok_iff.mp h
  -- Sorting changes nothing about who is reported.
  have hreported : ∀ {name}, name ∈ found ↔ name ∈ reported := by
    intro name
    rw [hsorted, List.mem_mergeSort]
  have hnone : ∀ {name}, ws.find? name = none →
      (ws.refreshChanged fs names changed).1.find? name = none ∧ name ∉ found := by
    intro name hp
    rw [refreshChanged_fst hpaths, hreported]
    exact refreshEach_none heach hp
  have hmem : ∀ {name}, name ∈ found ↔ name ∈ names ∧ ws.IsAmong fs places name ∧
      ∃ p p', ws.find? name = some p ∧ (ws.refreshChanged fs names changed).1.find? name = some p' ∧
        p'.effective.patterns ≠ p.effective.patterns := by
    intro name
    constructor
    · intro hfound
      cases hp : ws.find? name with
      | none => exact absurd hfound (hnone hp).2
      | some p =>
          by_cases hread : name ∈ names ∧ ws.IsAmong fs places name
          · obtain ⟨c, _, hfind, hiff⟩ := (hstep hp).2 hread
            have hne := (p.changes_iff c).mp (hiff.mp hfound)
            exact ⟨hread.1, hread.2, p, p.hold c, rfl, hfind, hne⟩
          · exact absurd hfound ((hstep hp).1 hread).2
    · rintro ⟨hname, hamong, p, p', hp, hp', hne⟩
      obtain ⟨c, _, hfind, hiff⟩ := (hstep hp).2 ⟨hname, hamong⟩
      rw [hfind] at hp'
      cases hp'
      exact hiff.mpr ((p.changes_iff c).mpr hne)
  constructor
  · intro name p path hname hp hpath hplace
    obtain ⟨c, hread, hfind, _⟩ := (hstep hp).2 ⟨hname, p, path, hp, hpath, hplace⟩
    obtain ⟨path', hpath', hload⟩ := Project.readFile_ok.mp hread
    rw [hpath] at hpath'
    cases hpath'
    exact ⟨c, hload, hfind⟩
  · intro name hnot
    cases hp : ws.find? name with
    | none => exact (hnone hp).1
    | some p => exact ((hstep hp).1 hnot).1
  · exact hmem
  · rw [hsorted]
    exact pairwise_mergeSort (refreshEach_nodup heach) fun name hname =>
      (hmem.mp (hreported.mpr hname)).1

/-- A batch succeeds if the given projects and the changed paths can be located,
    and the files that are at both can be read. -/
theorem refreshChanged_total
    (hgiven : ∀ name ∈ names, ∀ p, ws.find? name = some p → ∃ path, p.resolved fs = .ok path)
    (hplaces : changed.map fs.locate = places.map .ok)
    (hloads : ∀ name ∈ names, ∀ p path, ws.find? name = some p → p.resolved fs = .ok path →
      path ∈ places → ∃ c, (Config.loadOrNone fs (some path)).outcome = .ok c) :
    ∃ found, (ws.refreshChanged fs names changed).2.outcome = .ok found := by
  have hpaths : ∃ paths, (names.filterMap ws.find?).mapM (Project.resolved fs) = .ok paths :=
    resolved_total_iff.mpr hgiven
  have heach : ∃ reported,
      (ws.refreshEach fs (ws.affected fs names places)).2.outcome = .ok reported := by
    refine refreshEach_total fun name hname p hp => ?_
    obtain ⟨hmem, q, path, hq, hpath, hplace⟩ := mem_affected_iff.mp hname
    rw [hp] at hq
    cases hq
    obtain ⟨c, hload⟩ := hloads name hmem p path hp hpath hplace
    exact ⟨c, Project.readFile_ok.mpr ⟨path, hpath, hload⟩⟩
  obtain ⟨reported, hreported⟩ := heach
  have hlocated := located_eq_iff.mpr hplaces
  -- Locating is done for all of them, and refreshing for those that are affected.
  refine ⟨_, refreshChanged_ok_iff.mpr ⟨hpaths, ?_, reported, ?_, rfl⟩⟩
  · rw [hlocated]
  · rw [hlocated]
    exact hreported

/-- Let the given projects and the changed paths be where files can be, and let
    the files that are at both be such that they can be read. Then refreshing
    after the changes succeeds: every given project whose file is at one of the
    places of the changed paths holds what the file says, every other project
    stays, and the answer has each project once for which what is in force has
    changed, in the order of their last places, which is the given order if no
    name is given twice. Changed paths with the same set of places, in whatever
    order and spelling, give the same answer and leave the same projects. -/
theorem refreshChanged_exact
    (hgiven : ∀ name ∈ names, ∀ p, ws.find? name = some p → ∃ path, p.resolved fs = .ok path)
    (hplaces : changed.map fs.locate = places.map .ok)
    (hloads : ∀ name ∈ names, ∀ p path, ws.find? name = some p → p.resolved fs = .ok path →
      path ∈ places → ∃ c, (Config.loadOrNone fs (some path)).outcome = .ok c) :
    ∃ found, (ws.refreshChanged fs names changed).2.outcome = .ok found ∧
      Refreshed fs ws names places (ws.refreshChanged fs names changed).1 found ∧
      (names.Nodup → found.Sublist names) ∧
      ∀ changed' places' : List Path, changed'.map fs.locate = places'.map .ok →
        (∀ path, path ∈ places' ↔ path ∈ places) →
        (ws.refreshChanged fs names changed').2.outcome = .ok found ∧
        ∀ name, (ws.refreshChanged fs names changed').1.find? name
          = (ws.refreshChanged fs names changed).1.find? name := by
  obtain ⟨found, hfound⟩ := refreshChanged_total hgiven hplaces hloads
  have hdone := refreshed_of_ok hplaces hfound
  refine ⟨found, hfound, hdone, hdone.sublist, fun changed' places' hplaces' hsame => ?_⟩
  have hloads' : ∀ name ∈ names, ∀ p path, ws.find? name = some p → p.resolved fs = .ok path →
      path ∈ places' → ∃ c, (Config.loadOrNone fs (some path)).outcome = .ok c :=
    fun name hname p path hp hpath hplace =>
      hloads name hname p path hp hpath ((hsame path).mp hplace)
  obtain ⟨found', hfound'⟩ := refreshChanged_total hgiven hplaces' hloads'
  -- The other batch has the same places, so it has done what this one has.
  have hdone' := (refreshed_of_ok hplaces' hfound').of_places hsame
  obtain ⟨heq, hfind⟩ := hdone'.unique hdone
  rw [← heq]
  exact ⟨hfound', hfind⟩

/-- Two projects share a file, one of them is given twice, and the file is told
    to have changed in two spellings. -/
theorem refreshChanged_exact_shared :
    let here : Path := ⟨.root, ["proj"]⟩
    let file : Path := ⟨.relative, ["pytest.ini"]⟩
    let place : Path := ⟨.root, ["proj", "pytest.ini"]⟩
    let fs := (Files.empty ["proj"]).write file (Utf8.encode "[pytest]\npython_classes=X\n")
    let p : Project := ⟨here, file, none⟩
    let ws : Workspace := [("a", p), ("b", p)]
    let spelled : List Path := [file, ⟨.root, ["proj", "gone", "..", "pytest.ini"]⟩]
    let once := ws.refreshChanged fs ["a", "b", "a"] [file]
    let twice := ws.refreshChanged fs ["a", "b", "a"] spelled
    once.2.outcome = .ok ["b", "a"] ∧ Refreshed fs ws ["a", "b", "a"] [place] once.1 ["b", "a"] ∧
      twice.2.outcome = .ok ["b", "a"] ∧ ∀ name, twice.1.find? name = once.1.find? name := by
  intro here file place fs p ws spelled
  have hp : ∀ name ∈ ["a", "b", "a"], ws.find? name = some p := by decide +kernel
  have hpath : p.resolved fs = .ok place := by decide +kernel
  have hgiven : ∀ name ∈ ["a", "b", "a"], ∀ q, ws.find? name = some q →
      ∃ path, q.resolved fs = .ok path := by
    intro name hname q hq
    obtain rfl : p = q := Option.some.inj ((hp name hname).symm.trans hq)
    exact ⟨place, hpath⟩
  have hplaces : [file].map fs.locate = [place].map .ok := by decide +kernel
  obtain ⟨c, hload⟩ : ∃ c, (Config.loadOrNone fs (some place)).outcome = .ok c :=
    exists_of_isOk (by decide +kernel)
  have hloads : ∀ name ∈ ["a", "b", "a"], ∀ q path, ws.find? name = some q →
      q.resolved fs = .ok path → path ∈ [place] →
      ∃ c, (Config.loadOrNone fs (some path)).outcome = .ok c := by
    intro name _ q path _ _ hmem
    obtain rfl : path = place := List.mem_singleton.mp hmem
    exact ⟨c, hload⟩
  obtain ⟨found, hok, hdone, _, hother⟩ := refreshChanged_exact hgiven hplaces hloads
  have hpaths : (["a", "b", "a"].filterMap ws.find?).mapM (Project.resolved fs)
      = .ok [place, place, place] := by decide +kernel
  have heach : (ws.refreshEach fs (ws.affected fs ["a", "b", "a"] (located fs [file]).1)).2.outcome
      = .ok ["a", "b"] := by decide +kernel
  -- The project that is refreshed first comes last, since it is given once more.
  have hsorted : ["b", "a"] = ["a", "b"].mergeSort
      fun a b => lastPlace ["a", "b", "a"] a ≤ lastPlace ["a", "b", "a"] b := by
    simp [List.mergeSort, List.MergeSort.Internal.splitInTwo, lastPlace]
  have hfound : (ws.refreshChanged fs ["a", "b", "a"] [file]).2.outcome = .ok ["b", "a"] :=
    refreshChanged_ok_iff.mpr ⟨⟨_, hpaths⟩, by decide +kernel, _, heach, hsorted⟩
  obtain rfl : found = ["b", "a"] := Except.ok.inj (hok.symm.trans hfound)
  exact ⟨hok, hdone, hother spelled [place, place] (by decide +kernel) (by simp)⟩

end Workspace

end NamePatterns
