import Mathlib.Control.Monad.Basic
import NamePatterns.Proofs.Project.Refresh

/-!
# Histories of Workspaces

What is reported over any run, and what stays the same where nothing is.

A session is a workspace and the files it looks at. Events change files,
refresh projects in one of the three ways, or ask whether a name is selected,
which derives regular expressions and keeps them. A run is a row of events none
of which fails, each with the projects that it reports as changed.

Whether an event reports a project is decided there and then: just if the
wildcards of the configuration in force are others than before. That nothing
reported means the same selection takes an invariant of the whole run, since
selections use kept regular expressions: what a project keeps is what its
configuration derives. It holds of a project that is created and is preserved
by every event.

## Main definitions

* `Held.Faithful`: What is kept is what is derived.
* `Project.Created`: How projects begin.
* `Session`, `Event`, `Session.step`, `Run`: Runs of a workspace.

## Theorems

* `Held.selects_of_faithful`: Kept regular expressions select what the
  configuration selects.
* `Config.selects_congr`: Only the wildcards count for what is selected.
* `Project.Faithful.inForce`, `Project.Faithful.used`: Using a configuration
  keeps its project faithful.
* `Session.step_spec`: What one event does to a project.
* `Run.faithful`: Projects stay faithful over a run.
* `Run.patterns_eq`: Wildcards stay the same where nothing is reported.
* `Run.reported_iff_changed`: Reports are exact, and selections stay the same
  between them.
-/

namespace NamePatterns

namespace Held

/-- What is kept is what the configuration derives. -/
def Faithful (h : Held) : Prop :=
  ∀ kind m, h.kept? kind = some m → (h.config.matcher kind).outcome = .ok m

theorem faithful_fresh (c : Config) : Faithful ⟨c, none, none⟩ := by
  intro kind m hkept
  cases kind <;> cases hkept

/-- A faithful configuration has the regular expression that is derived. -/
theorem matcher_outcome {h : Held} (hf : h.Faithful) (kind : NameKind) :
    (h.matcher kind).2.outcome = (h.config.matcher kind).outcome := by
  unfold matcher
  cases hkept : h.kept? kind with
  | some m => exact (hf kind m hkept).symm
  | none =>
      cases hderived : (h.config.matcher kind).outcome with
      | ok m => simp only [hderived]
      | error e => simp only [hderived]

/-- Needing a regular expression leaves the configuration as it is and keeps
    what is derived from it. -/
theorem matcher_faithful {h : Held} (hf : h.Faithful) (kind : NameKind) :
    (h.matcher kind).1.config = h.config ∧ (h.matcher kind).1.Faithful := by
  cases hkept : h.kept? kind with
  | some m =>
      rw [matcher_of_kept hkept]
      exact ⟨rfl, hf⟩
  | none =>
      simp only [matcher, hkept]
      cases hderived : (h.config.matcher kind).outcome with
      | error e => exact ⟨rfl, hf⟩
      | ok m =>
          constructor
          · cases kind <;> rfl
          -- What is kept for the other kind is kept as it was.
          · intro other m' hother
            cases kind <;> cases other
            · cases hother
              exact hderived
            · exact hf .function m' hother
            · exact hf .cls m' hother
            · cases hother
              exact hderived

/-- A faithful configuration selects what its wildcards select. -/
theorem selects_of_faithful {h : Held} (hf : h.Faithful) (name : String) (kind : NameKind) :
    (h.selects name kind).2.outcome = (h.config.selects name kind).outcome := by
  have hmatcher := matcher_outcome hf kind
  unfold selects Config.selects
  simp only [bind, Logged.bind]
  rw [hmatcher]
  cases (h.config.matcher kind).outcome with
  | ok m => rfl
  | error e => rfl

end Held

/-- Configurations with the same wildcards select the same names. -/
theorem Config.selects_congr {c d : Config} (h : c.patterns = d.patterns) (name : String)
    (kind : NameKind) : c.selects name kind = d.selects name kind := by
  have heffective : c.effective kind = d.effective kind := by
    simp only [effective, h]
  simp only [selects, matcher, heffective]

/-- A project begins by reading its file, whatever the files were then. -/
def Project.Created (p : Project) : Prop :=
  ∃ fs root configPath, (Project.create fs root configPath).outcome = .ok p

/-- What a project holds is faithful. -/
def Project.Faithful (p : Project) : Prop :=
  ∀ h, p.held = some h → h.Faithful

theorem Project.faithful_hold (p : Project) (c : Option Config) : (p.hold c).Faithful := by
  intro h hheld
  cases c with
  | none => cases hheld
  | some c =>
      cases hheld
      exact Held.faithful_fresh c

theorem Project.Created.faithful {p : Project} (h : p.Created) : p.Faithful := by
  rcases h with ⟨fs, root, configPath, hcreate⟩
  unfold create at hcreate
  simp only [bind, Logged.bind] at hcreate
  -- A project is created only if its file could be read, and then has derived nothing yet.
  cases hread : (readFile fs none ⟨root, configPath, none⟩).outcome with
  | error e =>
      rw [hread] at hcreate
      cases hcreate
  | ok c =>
      rw [hread] at hcreate
      cases hcreate
      exact faithful_hold _ c

/-- The configuration in force of a faithful project is faithful. -/
theorem Project.Faithful.inForce {p : Project} (hf : p.Faithful) :
    p.inForce.Faithful ∧ p.inForce.config = p.effective := by
  unfold Project.inForce Project.effective
  cases hheld : p.held with
  | none => exact ⟨Held.faithful_fresh _, rfl⟩
  | some h => exact ⟨hf h hheld, rfl⟩

/-- Using the configuration in force leaves it in force and the project
    faithful. -/
theorem Project.Faithful.used {p : Project} {h : Held} (hf : h.Faithful)
    (hconfig : h.config = p.effective) :
    (p.used h).Faithful ∧ (p.used h).effective = p.effective := by
  unfold Project.used Project.effective
  cases hheld : p.held with
  | none =>
      constructor
      · intro h' hh'
        cases hh'
      · rfl
  | some h₀ =>
      constructor
      · intro h' hh'
        cases hh'
        exact hf
      · simp only [Option.map_some]
        rw [hconfig]
        simp only [Project.effective, hheld]

/-- A workspace and the files it looks at. -/
structure Session where
  /-- The files. -/
  files : Files
  /-- The projects. -/
  projects : Workspace

/-- What can happen to a session. -/
inductive Event where
  /-- A file is written. -/
  | write (path : Path) (bytes : List UInt8)
  /-- A directory is made. -/
  | makeDirectory (path : Path)
  /-- A path is removed. -/
  | remove (path : Path)
  /-- A project is refreshed, from its file or from one that is given. -/
  | refresh (name : String) (file : Option Path)
  /-- A project is refreshed from contents. -/
  | refreshFromText (name : String) (content : Content) (format : ConfigFormat)
  /-- Projects are refreshed after changes of files. -/
  | refreshChanged (names : List String) (changed : List Path)
  /-- A project is asked whether a name is selected. -/
  | select (name : String) (tested : String) (kind : NameKind)

namespace Session

/-- The session with other projects after something was done to one of them,
    and the project if it is reported. -/
def refreshed (s : Session) (name : String) (f : Project → Project × Logged Project.Failure Bool) :
    Session × Except Project.Failure (List String) :=
  match s.projects.find? name with
  | none => (s, .ok [])
  | some p =>
    let (p, result) := f p
    ({ s with projects := s.projects.put name p },
      result.outcome.map fun changed => if changed then [name] else [])

/-- What an event does, and which projects it reports as changed. -/
def step (s : Session) : Event → Session × Except Project.Failure (List String)
  | .write path bytes => ({ s with files := s.files.write path bytes }, .ok [])
  | .makeDirectory path => ({ s with files := s.files.makeDirectory path }, .ok [])
  | .remove path => ({ s with files := s.files.remove path }, .ok [])
  | .refresh name file => s.refreshed name (Project.refresh s.files file)
  | .refreshFromText name content format =>
    s.refreshed name (Project.refreshFromText s.files content format)
  | .refreshChanged names changed =>
    let (projects, result) := s.projects.refreshChanged s.files names changed
    ({ s with projects := projects }, result.outcome)
  | .select name tested kind =>
    match s.projects.find? name with
    | none => (s, .ok [])
    | some p =>
      ({ s with projects := s.projects.put name (p.used (p.inForce.selects tested kind).1) },
        .ok [])

/-- What becomes of a project that is reported or not: it is faithful, and it
    is reported just if the wildcards in force are others than before. -/
def Tells (name : String) (p p' : Project) (reported : List String) : Prop :=
  p'.Faithful ∧ (name ∈ reported ↔ p'.effective.patterns ≠ p.effective.patterns)

theorem tells_same {name : String} {p : Project} (hp : p.Faithful) {reported : List String}
    (h : name ∉ reported) : Tells name p p reported :=
  ⟨hp, fun hm => absurd hm h, fun hne => absurd rfl hne⟩

theorem tells_hold {name : String} (p : Project) (c : Option Config) {reported : List String}
    (h : name ∈ reported ↔ p.changes c = true) : Tells name p (p.hold c) reported :=
  ⟨p.faithful_hold c, h.trans (p.changes_iff c)⟩

/-- What refreshing one project does to any project. -/
theorem refreshed_spec {s s' : Session} {target : String}
    {f : Project → Project × Logged Project.Failure Bool} {reported : List String}
    (hf : ∀ p, ∃ reading, f p = p.takeOver s.files reading)
    (h : s.refreshed target f = (s', .ok reported)) {name : String} {p : Project}
    (hp : s.projects.find? name = some p) (hfaithful : p.Faithful) :
    ∃ p', s'.projects.find? name = some p' ∧ Tells name p p' reported := by
  unfold refreshed at h
  cases htarget : s.projects.find? target with
  | none =>
      simp only [htarget] at h
      rcases Prod.mk.inj h with ⟨hs, hreported⟩
      rw [← hs, ← Except.ok.inj hreported]
      exact ⟨p, hp, tells_same hfaithful List.not_mem_nil⟩
  | some q =>
      simp only [htarget] at h
      rcases hq : f q with ⟨q', result⟩
      simp only [hq] at h
      rcases Prod.mk.inj h with ⟨hs, hreported⟩
      cases houtcome : result.outcome with
      | error e =>
          rw [houtcome] at hreported
          cases hreported
      | ok changed =>
          rw [houtcome] at hreported
          have hlist : (if changed then [target] else []) = reported := Except.ok.inj hreported
          rcases hf q with ⟨reading, hreading⟩
          rw [hreading] at hq
          rcases Project.takeOver_ok hq houtcome with ⟨c, _, hq', hchanged⟩
          rw [← hs, ← hlist]
          simp only [Workspace.find?_put]
          -- Only the project that is refreshed is put back as another one.
          by_cases hname : name = target
          · subst hname
            rw [hp] at htarget
            cases htarget
            refine ⟨q', if_pos rfl, ?_⟩
            rw [hq', hchanged]
            refine tells_hold p c ?_
            cases p.changes c with
            | true => exact ⟨fun _ => rfl, fun _ => List.mem_singleton.mpr rfl⟩
            | false =>
                constructor
                · intro hm
                  cases hm
                · intro hfalse
                  cases hfalse
          · refine ⟨p, ?_, tells_same hfaithful ?_⟩
            · rw [if_neg hname]
              exact hp
            · cases changed with
              | true => exact fun hm => hname (List.mem_singleton.mp hm)
              | false => exact List.not_mem_nil

/-- What one event does to any project. -/
theorem step_spec {s s' : Session} {e : Event} {reported : List String}
    (h : s.step e = (s', .ok reported)) {name : String} {p : Project}
    (hp : s.projects.find? name = some p) (hfaithful : p.Faithful) :
    ∃ p', s'.projects.find? name = some p' ∧ Tells name p p' reported := by
  cases e with
  -- What happens to files alone is not seen by any project until it reads again.
  | write path bytes | makeDirectory path | remove path =>
      rcases Prod.mk.inj h with ⟨hs', hreported⟩
      rw [← hs', ← Except.ok.inj hreported]
      exact ⟨p, hp, tells_same hfaithful List.not_mem_nil⟩
  | refresh target file =>
      exact refreshed_spec (fun q => ⟨q.readFile s.files file, rfl⟩) h hp hfaithful
  | refreshFromText target content format =>
      exact refreshed_spec (fun q => ⟨_, rfl⟩) h hp hfaithful
  | refreshChanged names changed =>
      simp only [step] at h
      rcases hchanged : s.projects.refreshChanged s.files names changed with ⟨projects, result⟩
      simp only [hchanged] at h
      rcases Prod.mk.inj h with ⟨hs', houtcome⟩
      have hok : (s.projects.refreshChanged s.files names changed).2.outcome = .ok reported := by
        rw [hchanged]
        exact houtcome
      rcases Workspace.refreshChanged_ok hok hp with ⟨hout, hin⟩
      rw [hchanged] at hout hin
      rw [← hs']
      -- Projects that no changed file affects are left alone.
      by_cases hname :
          name ∈ s.projects.affected s.files names (Workspace.located s.files changed).1
      · rcases hin hname with ⟨c, _, hfind, hiff⟩
        exact ⟨p.hold c, hfind, tells_hold p c hiff⟩
      · rcases hout hname with ⟨hfind, hnot⟩
        exact ⟨p, hfind, tells_same hfaithful hnot⟩
  | select target tested kind =>
      simp only [step] at h
      cases htarget : s.projects.find? target with
      | none =>
          simp only [htarget] at h
          rcases Prod.mk.inj h with ⟨hs', hreported⟩
          rw [← hs', ← Except.ok.inj hreported]
          exact ⟨p, hp, tells_same hfaithful List.not_mem_nil⟩
      | some q =>
          simp only [htarget] at h
          rcases Prod.mk.inj h with ⟨hs', hreported⟩
          rw [← hs', ← Except.ok.inj hreported]
          simp only [Workspace.find?_put]
          by_cases hname : name = target
          · subst hname
            rw [hp] at htarget
            cases htarget
            -- Asking keeps a regular expression, which is the one that is derived anyway.
            rcases hfaithful.inForce with ⟨hforce, hconfig⟩
            rcases Held.matcher_faithful hforce kind with ⟨hsame, hkept⟩
            rcases Project.Faithful.used hkept (hsame.trans hconfig) with ⟨hused, heffective⟩
            refine ⟨_, if_pos rfl, hused, ?_⟩
            constructor
            · intro hm
              cases hm
            · intro hne
              exact absurd (congrArg Config.patterns heffective) hne
          · rw [if_neg hname]
            exact ⟨p, hp, tells_same hfaithful List.not_mem_nil⟩

end Session

/-- A row of events none of which fails, each with the projects it reports. -/
inductive Run : Session → List (Event × List String) → Session → Prop where
  /-- Nothing happens. -/
  | nil (s : Session) : Run s [] s
  /-- An event, and what happens after it. -/
  | cons {s s' s'' : Session} {e : Event} {reported : List String}
    {events : List (Event × List String)} (h : s.step e = (s', .ok reported))
    (hrest : Run s' events s'') : Run s ((e, reported) :: events) s''

namespace Run

/-- A project that is faithful stays so over a run. -/
theorem faithful {s s' : Session} {events : List (Event × List String)} (h : Run s events s')
    {name : String} {p : Project} (hp : s.projects.find? name = some p)
    (hfaithful : p.Faithful) :
    ∃ p', s'.projects.find? name = some p' ∧ p'.Faithful := by
  induction h generalizing p with
  | nil s => exact ⟨p, hp, hfaithful⟩
  | cons hstep _ ih =>
      rcases Session.step_spec hstep hp hfaithful with ⟨p₁, hp₁, hfaithful₁, _⟩
      exact ih hp₁ hfaithful₁

/-- The wildcards in force stay the same over a run that does not report the
    project. -/
theorem patterns_eq {s s' : Session} {events : List (Event × List String)} (h : Run s events s')
    {name : String} {p : Project} (hp : s.projects.find? name = some p)
    (hfaithful : p.Faithful) (hquiet : ∀ x ∈ events, name ∉ x.2) :
    ∃ p', s'.projects.find? name = some p' ∧ p'.Faithful ∧
      p'.effective.patterns = p.effective.patterns := by
  induction h generalizing p with
  | nil s => exact ⟨p, hp, hfaithful, rfl⟩
  | cons hstep _ ih =>
      rcases Session.step_spec hstep hp hfaithful with ⟨p₁, hp₁, hfaithful₁, hiff⟩
      -- A change would have been reported.
      have hsame : p₁.effective.patterns = p.effective.patterns :=
        Decidable.byContradiction fun hne => hquiet _ List.mem_cons_self (hiff.mpr hne)
      rcases ih hp₁ hfaithful₁ fun x hx => hquiet x (List.mem_cons_of_mem _ hx) with
        ⟨p₂, hp₂, hfaithful₂, hsame₂⟩
      exact ⟨p₂, hp₂, hfaithful₂, hsame₂.trans hsame⟩

/-- Over any run of a session, for any project that was created as projects
    are: each event reports it just if the wildcards in force are others after
    the event than before; and between two points of the run with no report of
    it in between, it selects the same names of both kinds. -/
theorem reported_iff_changed {s₀ s s' : Session} {past events : List (Event × List String)}
    {name : String} {p₀ : Project} (hp₀ : s₀.projects.find? name = some p₀)
    (hcreated : p₀.Created) (hpast : Run s₀ past s) (hrun : Run s events s') :
    ∃ p, s.projects.find? name = some p ∧
      (∀ e s'' reported, s.step e = (s'', .ok reported) →
        ∃ p'', s''.projects.find? name = some p'' ∧
          (name ∈ reported ↔ p''.effective.patterns ≠ p.effective.patterns)) ∧
      ((∀ x ∈ events, name ∉ x.2) →
        ∃ p', s'.projects.find? name = some p' ∧ ∀ tested kind,
          (p'.inForce.selects tested kind).2.outcome
            = (p.inForce.selects tested kind).2.outcome) := by
  -- The past only serves to show that the project is faithful by now.
  rcases hpast.faithful hp₀ hcreated.faithful with ⟨p, hp, hfaithful⟩
  refine ⟨p, hp, ?_, ?_⟩
  · intro e s'' reported hstep
    rcases Session.step_spec hstep hp hfaithful with ⟨p'', hp'', _, hiff⟩
    exact ⟨p'', hp'', hiff⟩
  · intro hquiet
    rcases hrun.patterns_eq hp hfaithful hquiet with ⟨p', hp', hfaithful', hsame⟩
    refine ⟨p', hp', fun tested kind => ?_⟩
    -- Both selections are those of the configurations, which have the same wildcards.
    rcases hfaithful.inForce with ⟨hforce, hconfig⟩
    rcases hfaithful'.inForce with ⟨hforce', hconfig'⟩
    rw [Held.selects_of_faithful hforce', Held.selects_of_faithful hforce, hconfig, hconfig',
      Config.selects_congr hsame]

/-- A project without a file that is given other wildcards and asked once. -/
theorem reported_iff_changed_given :
    let p : Project := ⟨⟨.root, ["proj"]⟩, ⟨.relative, ["pytest.ini"]⟩, none⟩
    let s₀ : Session := ⟨Files.empty ["proj"], [("proj", p)]⟩
    let given := s₀.step (.refreshFromText "proj" (.text "[pytest]\npython_classes=X\n") .ini)
    let asked := given.1.step (.select "proj" "Xy" .cls)
    given.2 = .ok ["proj"] ∧ ∃ q, given.1.projects.find? "proj" = some q ∧
      (∀ e s'' reported, given.1.step e = (s'', .ok reported) →
        ∃ q', s''.projects.find? "proj" = some q' ∧
          ("proj" ∈ reported ↔ q'.effective.patterns ≠ q.effective.patterns)) ∧
      ((∀ x ∈ [(Event.select "proj" "Xy" .cls, ([] : List String))], "proj" ∉ x.2) →
        ∃ q', asked.1.projects.find? "proj" = some q' ∧ ∀ tested kind,
          (q'.inForce.selects tested kind).2.outcome
            = (q.inForce.selects tested kind).2.outcome) := by
  intro p s₀ given asked
  have hcreated : p.Created :=
    ⟨s₀.files, p.root, p.configPath, by decide +kernel⟩
  have hgiven : given.2 = .ok ["proj"] := by decide +kernel
  have hpast : Run s₀ [(_, ["proj"])] given.1 := .cons (Prod.ext rfl hgiven) (.nil _)
  have hrun : Run given.1 [(.select "proj" "Xy" .cls, [])] asked.1 := .cons rfl (.nil _)
  exact ⟨hgiven, reported_iff_changed rfl hcreated hpast hrun⟩

end Run

end NamePatterns
