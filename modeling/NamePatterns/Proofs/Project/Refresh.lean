import NamePatterns.Project.Workspace
import NamePatterns.Proofs.Log.Logged

/-!
# Refreshing Projects

What a reading does to a project, and what refreshing several of them does to
a workspace.

Every way to read a configuration again ends in `Project.takeOver`. If it
succeeds, the project holds what was read, and the answer says whether the
wildcards in force are others than before. What a project reads does not depend
on what it holds, so reading twice from files that stay the same reads the same
twice, and the second reading changes nothing. A project that is refreshed
several times in one go is therefore reported just if the first reading has
changed it.

A batch is a recursion over names, and its lemmas have two cases for a project:
it is not among the names that are left, or it is. The second one needs both,
since a project may come again behind its first place; what was read then is
read again, and is not news.

## Theorems

* `Project.changes_iff`: A reading changes what is in force just if the
  wildcards differ.
* `Project.takeOver_ok`: A reading that succeeds.
* `Project.readFile_given_ok`, `Project.readFile_ok`: When the file of a project can be
  read.
* `Workspace.find?_put`: The project of a name after one was put.
* `Workspace.refreshEach_cons_ok`, `Workspace.refreshEach_ok`: Refreshing projects
  one after the other.
* `Workspace.refreshChanged_ok_iff`: When refreshing after changes of files
  succeeds, and with what.
* `Workspace.refreshChanged_ok`: What it does to each project.
-/

namespace NamePatterns

namespace Project

/-- A reading changes what is in force just if the wildcards are others than
    before. -/
theorem changes_iff (p : Project) (c : Option Config) :
    p.changes c = true ↔ (p.hold c).effective.patterns ≠ p.effective.patterns := by
  rw [hold_effective]
  simp only [changes, Config.agrees, Bool.not_eq_true', decide_eq_false_iff_not, ne_eq]

/-- Holding what is held already changes nothing. -/
theorem changes_hold (p : Project) (c : Option Config) : (p.hold c).changes c = false := by
  simp only [changes, hold_effective, Config.agrees, decide_true, Bool.not_true]

/-- A reading that succeeds is taken over, and the answer says whether it
    changes what is in force. -/
theorem takeOver_ok {fs : Files} {p p' : Project} {reading : Logged Failure (Option Config)}
    {result : Logged Failure Bool} {changed : Bool} (h : p.takeOver fs reading = (p', result))
    (hok : result.outcome = .ok changed) :
    ∃ c, reading.outcome = .ok c ∧ p' = p.hold c ∧ changed = p.changes c := by
  unfold takeOver at h
  cases hread : reading.outcome with
  | error e =>
      simp only [hread] at h
      rw [← (Prod.mk.inj h).2] at hok
      cases hok
  | ok c =>
      cases hpath : p.resolved fs with
      | error e =>
          simp only [hread, hpath] at h
          rw [← (Prod.mk.inj h).2] at hok
          cases hok
      | ok path =>
          simp only [hread, hpath] at h
          rcases Prod.mk.inj h with ⟨hp, hresult⟩
          rw [← hresult] at hok
          exact ⟨c, rfl, hp.symm, (Except.ok.inj hok).symm⟩

/-- A project reads what can be loaded from the place of its file, or of another file
    that is given. -/
theorem readFile_given_ok {fs : Files} {p : Project} {file : Option Path} {c : Option Config} :
    (p.readFile fs file).outcome = .ok c ↔
      ∃ path, file.elim (p.resolved fs) .ok = .ok path ∧
        (Config.loadOrNone fs (some path)).outcome = .ok c := by
  unfold readFile
  rw [Logged.outcome_bind, Except.bind_ok]
  simp only [Logged.liftExcept, Logged.mapError, Except.mapError_ok]

/-- A project's file is read if it can be located and loaded. -/
theorem readFile_ok {fs : Files} {p : Project} {c : Option Config} :
    (p.readFile fs none).outcome = .ok c ↔
      ∃ path, p.resolved fs = .ok path ∧
        (Config.loadOrNone fs (some path)).outcome = .ok c :=
  readFile_given_ok

/-- What a project reads does not depend on what it holds. -/
theorem readFile_hold (fs : Files) (file : Option Path) (p : Project) (c : Option Config) :
    (p.hold c).readFile fs file = p.readFile fs file :=
  rfl

end Project

namespace Workspace

/-- Dropping the entries of one name does not matter for another one. -/
theorem find?_filter_ne {name other : String} (h : name ≠ other) (ms : List (String × Project)) :
    (ms.filter fun m => m.1 != name).find? (fun m => m.1 = other)
      = ms.find? (fun m => m.1 = other) := by
  induction ms with
  | nil => rfl
  | cons m ms ih =>
      -- An entry of that name is dropped, and is not one of the other name.
      by_cases hm : m.1 = name
      · have hdrop : ¬(m.1 != name) = true := by
          rw [hm, bne_self_eq_false]
          exact Bool.false_ne_true
        have hother : decide (m.1 = other) = false := by
          rw [hm]
          exact decide_eq_false h
        rw [List.filter_cons, if_neg hdrop, ih, List.find?_cons]
        simp only [hother]
      · rw [List.filter_cons, if_pos (bne_iff_ne.mpr hm), List.find?_cons, List.find?_cons, ih]

/-- The project of a name after one was put under a name. -/
theorem find?_put (ws : Workspace) (name other : String) (p : Project) :
    (ws.put name p).find? other = if other = name then some p else ws.find? other := by
  by_cases h : other = name
  · subst h
    rw [if_pos rfl]
    simp only [find?, put, List.find?_cons_of_pos, decide_true, Option.map_some]
  · rw [if_neg h]
    have hne : ¬name = other := fun heq => h heq.symm
    simp only [find?, put, List.find?_cons, decide_eq_false hne, find?_filter_ne hne]

/-- Refreshing one project after the other starts with the first one, if there is
    one of that name, and reports it just if that changes what is in force. -/
theorem refreshEach_cons_ok {fs : Files} {ws : Workspace} {first : String}
    {rest found : List String} (h : (ws.refreshEach fs (first :: rest)).2.outcome = .ok found) :
    (ws.find? first = none ∧ (ws.refreshEach fs rest).2.outcome = .ok found ∧
      (ws.refreshEach fs (first :: rest)).1 = (ws.refreshEach fs rest).1) ∨
    ∃ q c later, ws.find? first = some q ∧ (q.readFile fs none).outcome = .ok c ∧
      ((ws.put first (q.hold c)).refreshEach fs rest).2.outcome = .ok later ∧
      (ws.refreshEach fs (first :: rest)).1 = ((ws.put first (q.hold c)).refreshEach fs rest).1 ∧
      found = if q.changes c then first :: later else later := by
  cases hfirst : ws.find? first with
  | none =>
      simp only [refreshEach, hfirst] at h ⊢
      exact Or.inl ⟨trivial, h, trivial⟩
  | some q =>
      right
      rcases hrefresh : q.refresh fs none with ⟨q', result⟩
      simp only [refreshEach, hfirst, hrefresh] at h ⊢
      cases houtcome : result.outcome with
      | error e =>
          simp only [houtcome] at h
          cases h
      | ok changed =>
          simp only [houtcome] at h ⊢
          rcases Project.takeOver_ok hrefresh houtcome with ⟨c, hread, rfl, rfl⟩
          rcases hothers : refreshEach fs (ws.put first (q.hold c)) rest with
            ⟨ws', records, outcome⟩
          simp only [hothers] at h
          cases outcome with
          | error e => cases h
          | ok later =>
              refine ⟨q, c, later, rfl, hread, ?_, ?_, (Except.ok.inj h).symm⟩
              · rw [hothers]
              · rw [hothers]

/-- Refreshing projects one after the other: a project that is not among them
    stays, and one that is among them, however often, holds what its file says
    and is reported just if that changes what is in force. -/
theorem refreshEach_ok {fs : Files} {ws : Workspace} {names found : List String}
    (h : (ws.refreshEach fs names).2.outcome = .ok found) {name : String} {p : Project}
    (hp : ws.find? name = some p) :
    (name ∉ names → (ws.refreshEach fs names).1.find? name = some p ∧ name ∉ found) ∧
    (name ∈ names → ∃ c, (p.readFile fs none).outcome = .ok c ∧
      (ws.refreshEach fs names).1.find? name = some (p.hold c) ∧
      (name ∈ found ↔ p.changes c = true)) := by
  induction names generalizing ws found p with
  | nil =>
      have hfound : [] = found := Except.ok.inj h
      subst hfound
      exact ⟨fun _ => ⟨hp, List.not_mem_nil⟩, fun hmem => by cases hmem⟩
  | cons first rest ih =>
      rcases refreshEach_cons_ok h with
        ⟨hfirst, hlater, hafter⟩ | ⟨q, c, later, hfirst, hread, hlater, hafter, hfound⟩
      -- The first name is that of no project, so it is another one.
      · have hne : name ≠ first := by
          rintro rfl
          rw [hp] at hfirst
          cases hfirst
        rcases ih hlater hp with ⟨hout, hin⟩
        rw [hafter]
        constructor
        · exact fun hmem => hout fun hr => hmem (List.mem_cons_of_mem _ hr)
        · exact fun hmem => hin ((List.mem_cons.mp hmem).resolve_left hne)
      · rw [hafter, hfound]
        by_cases hname : name = first
        · subst hname
          obtain rfl : q = p := by
            rw [hp] at hfirst
            exact (Option.some.inj hfirst).symm
          have hput : (ws.put name (q.hold c)).find? name = some (q.hold c) := by
            rw [find?_put, if_pos rfl]
          rcases ih hlater hput with ⟨hout, hin⟩
          refine ⟨fun hmem => absurd List.mem_cons_self hmem, fun _ => ⟨c, hread, ?_⟩⟩
          have hself : name ∈ (if q.changes c then name :: later else later) ↔
              q.changes c = true ∨ name ∈ later := by
            cases q.changes c with
            | true => exact ⟨fun _ => Or.inl rfl, fun _ => List.mem_cons_self⟩
            | false => exact ⟨Or.inr, fun hm => hm.resolve_left Bool.false_ne_true⟩
          rw [hself]
          by_cases hrest : name ∈ rest
          · -- Reading the same again changes nothing.
            rcases hin hrest with ⟨c', hread', hfind, hiff⟩
            rw [Project.readFile_hold] at hread'
            obtain rfl : c = c' := Except.ok.inj (hread.symm.trans hread')
            rw [Project.changes_hold] at hiff
            exact ⟨hfind, fun hm => hm.resolve_right fun hl => Bool.false_ne_true (hiff.mp hl),
              Or.inl⟩
          · rcases hout hrest with ⟨hfind, hnot⟩
            exact ⟨hfind, fun hm => hm.resolve_right hnot, Or.inl⟩
        · have hput : (ws.put first (q.hold c)).find? name = some p := by
            rw [find?_put, if_neg hname]
            exact hp
          have hreported :
              name ∈ (if q.changes c then first :: later else later) ↔ name ∈ later := by
            cases q.changes c with
            | true =>
                exact ⟨fun hm => (List.mem_cons.mp hm).resolve_left hname, List.mem_cons_of_mem _⟩
            | false => exact Iff.rfl
          have hlisted : name ∈ first :: rest ↔ name ∈ rest :=
            ⟨fun hm => (List.mem_cons.mp hm).resolve_left hname, List.mem_cons_of_mem _⟩
          rw [hlisted, hreported]
          exact ih hlater hput

/-- The projects that are refreshed are given ones whose files are among the
    changed ones. -/
theorem mem_affected (fs : Files) (ws : Workspace) (names : List String) (places : List Path)
    (name : String) :
    name ∈ ws.affected fs names places ↔
      name ∈ names ∧ ∃ place ∈ places, ws.isAt fs place name = true := by
  simp only [affected, List.mem_flatMap, List.mem_eraseDups, List.mem_filter]
  constructor
  · rintro ⟨place, hplace, hname, hat⟩
    exact ⟨hname, place, hplace, hat⟩
  · rintro ⟨hname, place, hplace, hat⟩
    exact ⟨place, hplace, hname, hat⟩

/-- Refreshing after changes of files succeeds just if all projects and all
    changed paths can be located and the projects can be refreshed. The answer
    is what was reported, in order. -/
theorem refreshChanged_ok_iff {fs : Files} {ws : Workspace} {names found : List String}
    {changed : List Path} :
    (ws.refreshChanged fs names changed).2.outcome = .ok found ↔
      (∃ paths, (names.filterMap ws.find?).mapM (Project.resolved fs) = .ok paths) ∧
      (located fs changed).2 = .ok () ∧
      ∃ reported,
        (ws.refreshEach fs (ws.affected fs names (located fs changed).1)).2.outcome
          = .ok reported ∧
        found = reported.mergeSort fun a b => lastPlace names a ≤ lastPlace names b := by
  unfold refreshChanged
  cases hlocate : (names.filterMap ws.find?).mapM (Project.resolved fs) with
  | error e =>
      refine iff_of_false nofun ?_
      rintro ⟨⟨_, h⟩, _⟩
      cases h
  | ok paths =>
      -- The projects are refreshed before it matters whether all changed paths were located.
      simp only [Logged.outcome_bind, Except.bind_ok, Logged.liftExcept, Except.mapError_ok]
      constructor
      · rintro ⟨reported, heach, _, hrest, hfound⟩
        exact ⟨⟨paths, rfl⟩, hrest, reported, heach, (Except.ok.inj hfound).symm⟩
      · rintro ⟨_, hrest, reported, heach, rfl⟩
        exact ⟨reported, heach, (), hrest, rfl⟩

/-- If all projects can be located, the projects are those that refreshing the
    affected ones leaves. -/
theorem refreshChanged_fst {fs : Files} {ws : Workspace} {names : List String} {paths : List Path}
    (h : (names.filterMap ws.find?).mapM (Project.resolved fs) = .ok paths)
    (changed : List Path) :
    (ws.refreshChanged fs names changed).1
      = (ws.refreshEach fs (ws.affected fs names (located fs changed).1)).1 := by
  simp only [refreshChanged, h]

/-- Refreshing after changes of files: a project whose file is among them holds
    what the file says, any other one stays, and the answer lists those for
    which what is in force has changed. -/
theorem refreshChanged_ok {fs : Files} {ws : Workspace} {names found : List String}
    {changed : List Path} (h : (ws.refreshChanged fs names changed).2.outcome = .ok found)
    {name : String} {p : Project} (hp : ws.find? name = some p) :
    (name ∉ ws.affected fs names (located fs changed).1 →
      (ws.refreshChanged fs names changed).1.find? name = some p ∧ name ∉ found) ∧
    (name ∈ ws.affected fs names (located fs changed).1 →
      ∃ c, (p.readFile fs none).outcome = .ok c ∧
        (ws.refreshChanged fs names changed).1.find? name = some (p.hold c) ∧
        (name ∈ found ↔ p.changes c = true)) := by
  rcases refreshChanged_ok_iff.mp h with ⟨⟨paths, hpaths⟩, _, reported, heach, rfl⟩
  rw [refreshChanged_fst hpaths]
  simp only [List.mem_mergeSort]
  exact refreshEach_ok heach hp

end Workspace

end NamePatterns
