import Mathlib.Tactic.Choose
import NamePatterns.Proofs.Wildcard.Limits

/-!
# Accesses to a Configuration

What is reported while a configuration is used, and how often.

A configuration can be asked for its two regular expressions, for names, and for
what is shown of it, in any order. Each access needs the regular expressions of one
kind or of both. The first access that needs one derives it, and reports the
wildcards that are rejected while doing so; what is derived is kept, so later
accesses report nothing about it and find the same.

The invariant of a row of accesses is that the regular expressions that are kept
are those that have been needed. It holds of a configuration that has not been
used, where nothing is kept, and each access extends it by what the access needs.

## Main definitions

* `Held.Access`, `Held.Answer`: What can be asked, and what is answered.
* `Held.Access.needs`: The kinds whose regular expressions an access needs.
* `Held.access`, `Held.accesses`: One access, and a row of them.
* `Held.reports`: What there is to report on the wildcards of a kind.
* `Held.Derives`, `Held.FallsBack`: What becomes of the list of a kind.
* `Held.Holds`: What is kept after some kinds have been needed.

## Theorems

* `Held.matcher_holds`, `Held.access_holds`: What one access reports and keeps.
* `Held.accesses_getElem?`: What an access after others reports and answers.
* `Held.records_accesses`: What a row of accesses reports altogether.
* `Held.matcher_ok_of_accesses`: What is derived where no access fails.
* `Held.accesses_report_once`: Each rejected wildcard is reported once.
-/

namespace NamePatterns

namespace Held

/-- What can be asked of a configuration. -/
inductive Access where
  /-- The regular expression for a kind of names. -/
  | matcher (kind : NameKind)
  /-- Whether a name is selected as one of a kind. -/
  | selects (name : String) (kind : NameKind)
  /-- What is shown of it. -/
  | describe

/-- What is answered. -/
inductive Answer where
  /-- A regular expression. -/
  | matcher (m : NameMatcher)
  /-- Whether a name is selected. -/
  | selected (b : Bool)
  /-- What is shown. -/
  | description (d : Description)

namespace Access

/-- The kinds whose regular expressions an access needs, in order. -/
def needs : Access → List NameKind
  | matcher kind | selects _ kind => [kind]
  | describe => [.cls, .function]

/-- What an access to a configuration answers, given its regular expressions. -/
def answer (c : Config) (m : NameKind → NameMatcher) :
    Access → Except Regex.LimitError Answer
  | matcher kind => .ok (.matcher (m kind))
  | selects name kind => ((m kind).accepts name).map .selected
  | describe => .ok (.description ⟨c, (m .cls).source, (m .function).source⟩)

end Access

/-- One access: what is held then, with the reports and the answer. -/
def access (h : Held) : Access → Held × Logged Regex.LimitError Answer
  | .matcher kind => ((h.matcher kind).1, do return .matcher (← (h.matcher kind).2))
  | .selects name kind => ((h.selects name kind).1, do return .selected (← (h.selects name kind).2))
  | .describe => (h.describe.1, do return .description (← h.describe.2))

/-- The reports and answers of accesses in a row. -/
def accesses (h : Held) : List Access → List (Logged Regex.LimitError Answer)
  | [] => []
  | a :: as => (h.access a).2 :: (h.access a).1.accesses as

/-- The reports on the wildcards of a kind. -/
def reports (c : Config) (kind : NameKind) : List Log.Record :=
  Wildcard.rejections kind.dashes (c.effective kind)

/-- The list of a kind is a regular expression. -/
def Derives (c : Config) (kind : NameKind) (m : NameMatcher) : Prop :=
  (Wildcard.compileList kind.dashes (c.effective kind)).outcome = .ok m

/-- A list falls back as a whole where its alternatives do not go together. -/
def FallsBack (c : Config) (kind : NameKind) : Prop :=
  ∃ wildcards regex e,
    (Wildcard.compileList kind.dashes (c.effective kind)).outcome
      = .error (.rejected wildcards regex e)

/-- What is kept are the regular expressions of the kinds that have been needed. -/
structure Holds (c : Config) (m : NameKind → NameMatcher) (seen : List NameKind) (h : Held) :
    Prop where
  config : h.config = c
  kept : ∀ kind, h.kept? kind = if kind ∈ seen then some (m kind) else none

variable {c : Config} {m : NameKind → NameMatcher} {seen : List NameKind} {h : Held}

theorem kept?_keep (h : Held) (kind other : NameKind) (found : NameMatcher) :
    (h.keep found kind).kept? other = if other = kind then some found else h.kept? other := by
  cases kind <;> cases other <;> rfl

theorem matcher_of_derives {kind : NameKind} (hm : Derives c kind (m kind)) :
    c.matcher kind = ⟨reports c kind, .ok (m kind)⟩ := by
  unfold Config.matcher
  rw [Wildcard.compileListOrNothing_of_ok hm, (Wildcard.compileList_ok hm).2]
  rfl

/-- A regular expression is derived and reported on where it has not been needed, and is
    kept in any case. -/
theorem matcher_holds (hh : Holds c m seen h) {kind : NameKind} (hm : Derives c kind (m kind)) :
    (h.matcher kind).2 = ⟨if kind ∈ seen then [] else reports c kind, .ok (m kind)⟩ ∧
      Holds c m (seen ++ [kind]) (h.matcher kind).1 := by
  have hkept := hh.kept kind
  by_cases hseen : kind ∈ seen
  -- What has been needed is kept already, so nothing is derived and nothing changes.
  · rw [if_pos hseen] at hkept
    rw [matcher_of_kept hkept, if_pos hseen]
    refine ⟨rfl, hh.config, fun other => (hh.kept other).trans ?_⟩
    by_cases hother : other ∈ seen <;> grind
  · rw [if_neg hseen] at hkept
    have hderived : h.matcher kind
        = (h.keep (m kind) kind, ⟨reports c kind, .ok (m kind)⟩) := by
      simp only [matcher, hkept, hh.config, matcher_of_derives hm]
    rw [hderived, if_neg hseen]
    refine ⟨rfl, ?_, fun other => ?_⟩
    · cases kind <;> exact hh.config
    · rw [kept?_keep, hh.kept other]
      grind

/-- What is reported where one kind is needed. -/
theorem flatMap_reports_cons (kind : NameKind) (kinds : List NameKind) :
    ((kind :: kinds).filter (· ∉ seen)).flatMap (reports c)
      = (if kind ∈ seen then [] else reports c kind)
        ++ (kinds.filter (· ∉ seen)).flatMap (reports c) := by
  by_cases hseen : kind ∈ seen <;> simp [hseen]

/-- An access reports on the regular expressions that it needs and that have not been
    needed, and keeps all that it needs. -/
theorem access_holds (hh : Holds c m seen h) (a : Access)
    (hm : ∀ kind ∈ a.needs, Derives c kind (m kind)) :
    (h.access a).2 = ⟨(a.needs.filter (· ∉ seen)).flatMap (reports c), a.answer c m⟩ ∧
      Holds c m (seen ++ a.needs) (h.access a).1 := by
  cases a with
  | matcher kind =>
      obtain ⟨hresult, hholds⟩ := matcher_holds hh (hm kind List.mem_cons_self)
      refine ⟨?_, hholds⟩
      simp only [access, Logged.bind_return, hresult, Access.needs, flatMap_reports_cons]
      simp [Access.answer, Except.map]
  | selects name kind =>
      obtain ⟨hresult, hholds⟩ := matcher_holds hh (hm kind List.mem_cons_self)
      refine ⟨?_, hholds⟩
      simp only [access, Logged.bind_return, selects, hresult, Logged.bind_ok, Access.needs,
        flatMap_reports_cons]
      rfl
  | describe =>
      -- The one for functions is needed when that for classes is kept.
      obtain ⟨hclasses, hholds⟩ := matcher_holds hh (hm .cls (by decide))
      obtain ⟨hfunctions, hholds'⟩ := matcher_holds hholds (hm .function (by decide))
      refine ⟨?_, ?_⟩
      · simp only [access, Logged.bind_return, describe, hclasses, hfunctions, hholds'.config,
          Access.needs, flatMap_reports_cons]
        simp [Access.answer, Except.map]
      · rw [List.append_assoc] at hholds'
        simp only [access, describe, hclasses]
        exact hholds'

/-- An access after others reports on the regular expressions that it is the first to
    need, and finds those that have been needed before. -/
theorem accesses_getElem? (hh : Holds c m seen h) (front : List Access) (a : Access)
    (back : List Access)
    (hm : ∀ kind ∈ (front ++ a :: back).flatMap Access.needs, Derives c kind (m kind)) :
    (h.accesses (front ++ a :: back))[front.length]?
      = some ⟨(a.needs.filter (· ∉ seen ++ front.flatMap Access.needs)).flatMap (reports c),
          a.answer c m⟩ := by
  induction front generalizing seen h with
  | nil =>
      have ha := access_holds hh a fun kind hkind => hm kind (by simp [hkind])
      simp [accesses, ha.1]
  | cons b front ih =>
      -- What is kept behind the first access is where the others begin.
      have hb := access_holds hh b fun kind hkind => hm kind (by simp [hkind])
      have hrest := ih hb.2 fun kind hkind =>
        hm kind (by simpa using Or.inr (by simpa using hkind))
      simpa only [accesses, List.cons_append, List.length_cons, List.getElem?_cons_succ,
        List.flatMap_cons, List.append_assoc] using hrest

theorem eraseDups_needs (a : Access) :
    (a.needs.filter (· ∉ seen)).eraseDups = a.needs.filter (· ∉ seen) := by
  -- No access needs a kind twice.
  cases a with
  | matcher kind | selects _ kind =>
      by_cases hseen : kind ∈ seen <;> simp [Access.needs, hseen, List.eraseDups_cons]
  | describe =>
      by_cases hclasses : NameKind.cls ∈ seen <;> by_cases hfunctions : NameKind.function ∈ seen <;>
        simp [Access.needs, hclasses, hfunctions, List.eraseDups_cons]

/-- Accesses in a row report on every regular expression that they need and that has not
    been needed before them, once and in the order in which they need them. -/
theorem records_accesses (hh : Holds c m seen h) (as : List Access)
    (hm : ∀ kind ∈ as.flatMap Access.needs, Derives c kind (m kind)) :
    (h.accesses as).flatMap Logged.records
      = ((as.flatMap Access.needs).filter (· ∉ seen)).eraseDups.flatMap (reports c) := by
  induction as generalizing seen h with
  | nil => rfl
  | cons a as ih =>
      have ha := access_holds hh a fun kind hkind => hm kind (by simp [hkind])
      have hrest := ih ha.2 fun kind hkind => hm kind (by simpa using Or.inr (by simpa using hkind))
      -- What this access needs is not reported on behind it.
      have hnew : ((as.flatMap Access.needs).filter (· ∉ seen)).removeAll
            (a.needs.filter (· ∉ seen))
          = (as.flatMap Access.needs).filter (· ∉ seen ++ a.needs) := by
        rw [List.filter_removeAll_filter, List.removeAll, List.filter_filter]
        exact List.filter_congr fun kind _ => by simp [Bool.and_comm]
      rw [accesses, List.flatMap_cons, hrest, ha.1, List.flatMap_cons, List.filter_append,
        List.eraseDups_append, eraseDups_needs, hnew, List.flatMap_append]

/-- An access leaves the configuration as it is and keeps what is derived from it. -/
theorem access_faithful (hf : h.Faithful) (a : Access) :
    (h.access a).1.config = h.config ∧ (h.access a).1.Faithful := by
  cases a with
  | matcher kind => exact matcher_faithful hf kind
  | selects name kind => exact matcher_faithful hf kind
  | describe =>
      obtain ⟨hconfig, hf'⟩ := matcher_faithful hf .cls
      simp only [access, describe]
      cases (h.matcher .cls).2.outcome with
      | error e => exact ⟨hconfig, hf'⟩
      | ok found =>
          obtain ⟨hconfig', hf''⟩ := matcher_faithful hf' .function
          exact ⟨hconfig'.trans hconfig, hf''⟩

/-- The regular expressions that an access needs are derived where it succeeds. -/
theorem matcher_ok_of_access (hf : h.Faithful) {a : Access} {x : Answer}
    (hx : (h.access a).2.outcome = .ok x) :
    ∀ kind ∈ a.needs, ∃ found, (h.config.matcher kind).outcome = .ok found := by
  cases a with
  | matcher kind =>
      simp only [access, Logged.outcome_bind, matcher_outcome hf] at hx
      obtain ⟨found, hfound, _⟩ := Except.bind_ok.mp hx
      simpa [Access.needs] using ⟨found, hfound⟩
  | selects name kind =>
      simp only [access, Logged.outcome_bind, selects, matcher_outcome hf] at hx
      obtain ⟨_, hselected, _⟩ := Except.bind_ok.mp hx
      obtain ⟨found, hfound, _⟩ := Except.bind_ok.mp hselected
      simpa [Access.needs] using ⟨found, hfound⟩
  | describe =>
      simp only [access, Logged.outcome_bind] at hx
      obtain ⟨d, hd, _⟩ := Except.bind_ok.mp hx
      obtain ⟨hclasses, hfunctions⟩ := describe_ok.mp ⟨d, hd⟩
      obtain ⟨hconfig, hf'⟩ := matcher_faithful hf .cls
      -- The second one is derived from the same configuration as the first.
      rw [matcher_outcome hf] at hclasses
      rw [matcher_outcome hf', hconfig] at hfunctions
      simpa [Access.needs] using ⟨hclasses, hfunctions⟩

/-- The regular expressions that accesses in a row need are derived where they all
    succeed. -/
theorem matcher_ok_of_accesses (hf : h.Faithful) {as : List Access}
    (hok : ∀ r ∈ h.accesses as, ∃ x, r.outcome = .ok x) :
    ∀ kind ∈ as.flatMap Access.needs, ∃ found, (h.config.matcher kind).outcome = .ok found := by
  induction as generalizing h with
  | nil => simp
  | cons a as ih =>
      obtain ⟨hconfig, hf'⟩ := access_faithful hf a
      obtain ⟨x, hx⟩ := hok _ List.mem_cons_self
      have hrest := ih hf' fun r hr => hok r (List.mem_cons_of_mem _ hr)
      rw [hconfig] at hrest
      intro kind hkind
      rcases List.mem_append.mp hkind with hkind | hkind
      · exact matcher_ok_of_access hf hx kind hkind
      · exact hrest kind hkind

/-- A list from which a regular expression is derived is one, unless it falls back as a
    whole. -/
theorem derives_of_matcher {kind : NameKind} {found : NameMatcher}
    (hfound : (c.matcher kind).outcome = .ok found) (hwhole : ¬FallsBack c kind) :
    Derives c kind found := by
  unfold Derives
  unfold Config.matcher at hfound
  cases hlist : (Wildcard.compileList kind.dashes (c.effective kind)).outcome with
  | ok m =>
      rw [Wildcard.compileListOrNothing_of_ok hlist] at hfound
      rw [← Except.ok.inj hfound]
  | error e =>
      cases e with
      | rejected ws regex e => exact absurd ⟨ws, regex, e, hlist⟩ hwhole
      | beyondLimit e =>
          simp only [Wildcard.compileListOrNothing, hlist] at hfound
          cases hfound

/-- The reports of accesses to a configuration none of which fails, where no list that they
    need falls back as a whole: each kind that is needed has one regular expression, which
    every access finds. The first access that needs it reports each wildcard of the list
    that is rejected, in order and once for every place that it has in the list, and
    nothing else is reported by any access. -/
theorem accesses_report_once (c : Config) (as : List Access)
    (hok : ∀ r ∈ accesses ⟨c, none, none⟩ as, ∃ x, r.outcome = .ok x)
    (hwhole : ∀ kind ∈ as.flatMap Access.needs, ¬FallsBack c kind) :
    ∃ m : NameKind → NameMatcher,
      (∀ kind ∈ as.flatMap Access.needs, Derives c kind (m kind)) ∧
      (accesses ⟨c, none, none⟩ as).flatMap Logged.records
        = (as.flatMap Access.needs).eraseDups.flatMap (reports c) ∧
      ∀ front a back, as = front ++ a :: back →
        (accesses ⟨c, none, none⟩ as)[front.length]?
          = some ⟨(a.needs.filter (· ∉ front.flatMap Access.needs)).flatMap (reports c),
              a.answer c m⟩ := by
  -- A kind that is never needed has no say, so any regular expression does for it.
  have hderived (kind : NameKind) :
      ∃ m, kind ∈ as.flatMap Access.needs → Derives c kind m := by
    by_cases hkind : kind ∈ as.flatMap Access.needs
    · obtain ⟨found, hfound⟩ := matcher_ok_of_accesses (faithful_fresh c) hok kind hkind
      exact ⟨found, fun _ => derives_of_matcher hfound (hwhole kind hkind)⟩
    · exact ⟨.nothing, fun h => absurd h hkind⟩
  choose m hm using hderived
  -- Nothing is kept before the first access.
  have hfresh : Holds c m [] ⟨c, none, none⟩ :=
    ⟨rfl, fun kind => by cases kind <;> rfl⟩
  refine ⟨m, hm, ?_, ?_⟩
  · simpa using records_accesses hfresh as hm
  · rintro front a back rfl
    simpa using accesses_getElem? hfresh front a back hm

/-- A configuration with wildcards for classes that are rejected and one with a class that
    stays open, of which both kinds are needed, some of them again. -/
theorem accesses_report_once_mixed :
    let c : Config := ⟨⟨some "Test* [] [z-a] [a []", none⟩, none⟩
    let as : List Access :=
      [.selects "test_a" .function, .describe, .matcher .cls, .selects "TestA" .cls]
    (reports c .cls).length = 3 ∧ (reports c .function).length = 0 ∧
    ∃ m : NameKind → NameMatcher,
      (∀ kind ∈ as.flatMap Access.needs, Derives c kind (m kind)) ∧
      (accesses ⟨c, none, none⟩ as).flatMap Logged.records
        = (as.flatMap Access.needs).eraseDups.flatMap (reports c) ∧
      ∀ front a back, as = front ++ a :: back →
        (accesses ⟨c, none, none⟩ as)[front.length]?
          = some ⟨(a.needs.filter (· ∉ front.flatMap Access.needs)).flatMap (reports c),
              a.answer c m⟩ := by
  intro c as
  have hall : ((accesses ⟨c, none, none⟩ as).all fun r => r.outcome.isOk) = true := by
    decide +kernel
  -- None of the accesses fails, and both lists are regular expressions; both are computed.
  have hok : ∀ r ∈ accesses ⟨c, none, none⟩ as, ∃ x, r.outcome = .ok x := fun r hr =>
    exists_of_isOk (List.all_eq_true.mp hall r hr)
  have hlist (kind : NameKind) :
      (Wildcard.compileList kind.dashes (c.effective kind)).outcome.isOk = true := by
    cases kind <;> decide +kernel
  have hwhole : ∀ kind ∈ as.flatMap Access.needs, ¬FallsBack c kind := by
    rintro kind - ⟨wildcards, regex, e, hrejected⟩
    obtain ⟨m, hm⟩ := exists_of_isOk (hlist kind)
    rw [hm] at hrejected
    cases hrejected
  exact ⟨by decide +kernel, by decide +kernel, accesses_report_once c as hok hwhole⟩

end Held

end NamePatterns
