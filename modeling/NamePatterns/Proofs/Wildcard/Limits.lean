import NamePatterns.Proofs.Project.History
import NamePatterns.Proofs.Regex.Limits
import NamePatterns.Proofs.Wildcard.Reports

/-!
# Limits of Wildcards

Which wildcards make what is asked of them fail.

A wildcard that is malformed falls silent, and so does a list. Nothing falls
silent for a number that is too large: a wildcard fails just if what it is
written as exceeds a limit, a list just if one of its wildcards fails, and a
configuration cannot be shown just if one of its lists fails. Joining adds
nothing to that, since what is joined of fragments that are regular expressions
is one or malformed. Besides, asking for a name fails where the match that is
found has a group that ends before it starts.

What may fail is thus told by the wildcards alone. It does not depend on what
has been derived from a configuration before, since what is kept is what would
be derived again, and failures are not kept. The condition on names is of
another kind: it is about the match that is found, and no wildcard is to blame
for it.

## Main definitions

* `Wildcard.ExceedsLimit`: A wildcard that exceeds a limit.
* `NameMatcher.Crosses`: A name whose match has a group that ends before it
  starts.
* `Held.WithinLimits`: A configuration none of whose wildcards of a kind
  exceeds a limit.

## Theorems

* `Wildcard.compile_ok_iff`: When a wildcard does not fail.
* `Wildcard.compileListOrNothing_ok_iff`: When a list does not fail.
* `NameMatcher.accepts_ok_iff`: When asking for a name does not fail.
* `Held.ok_iff_withinLimits`: When nothing fails on a configuration.
-/

namespace NamePatterns

namespace Wildcard

/-- No class of the wildcard stays open, and what it is written as exceeds a limit. -/
def ExceedsLimit (dashes : Bool) (w : String) : Prop :=
  openClasses w ≤ 0 ∧ Regex.ExceedsLimit (translate dashes w).toList

/-- A wildcard fails just if what it is written as exceeds a limit. -/
theorem compile_error_iff {dashes : Bool} {w : String} :
    (∃ e, (compile dashes w).outcome = .error e) ↔ ExceedsLimit dashes w := by
  unfold compile outcome ExceedsLimit
  -- A wildcard with an open class is never read as a regular expression.
  by_cases hopen : 0 < openClasses w
  · simp only [if_pos hopen]
    constructor
    · rintro ⟨e, he⟩
      cases he
    · rintro ⟨hle, _⟩
      omega
  · rw [← Regex.parse_beyondLimit_iff]
    simp only [if_neg hopen]
    have hle : openClasses w ≤ 0 := Int.not_lt.mp hopen
    -- Only the last of the three outcomes is a failure of the wildcard.
    cases hparse : Regex.parse (translate dashes w).toList with
    | ok r =>
        constructor
        · rintro ⟨e, he⟩
          cases he
        · rintro ⟨_, e, he⟩
          cases he
    | error refusal =>
        cases refusal with
        | malformed e =>
            constructor
            · rintro ⟨e', he⟩
              cases he
            · rintro ⟨_, e', he⟩
              cases he
        | beyondLimit e => exact ⟨fun _ => ⟨hle, e, rfl⟩, fun _ => ⟨e, rfl⟩⟩

/-- A wildcard becomes a regular expression just if it does not exceed a limit. -/
theorem compile_ok_iff {dashes : Bool} {w : String} :
    (∃ f, (compile dashes w).outcome = .ok f) ↔ ¬ExceedsLimit dashes w := by
  -- The two statements are each other's negation, since a wildcard either fails or not.
  rw [← compile_error_iff]
  cases (compile dashes w).outcome with
  | ok f =>
      constructor
      · rintro _ ⟨e, he⟩
        cases he
      · intro _
        exact ⟨f, rfl⟩
  | error e =>
      constructor
      · rintro ⟨f, hf⟩
        cases hf
      · intro hnone
        exact absurd ⟨e, rfl⟩ hnone

/-- A list whose wildcards compile is a regular expression, or nothing takes its
    place, but it does not fail. -/
theorem compileListOrNothing_of_compile {dashes : Bool} {wildcards : String}
    (h : ∀ w ∈ split wildcards, ∃ f, (compile dashes w).outcome = .ok f) :
    ∃ m, (compileListOrNothing dashes wildcards).outcome = .ok m := by
  rcases fragments_of_compile h with ⟨_, houtcome, hcompiled⟩
  rcases fragments_parse hcompiled with ⟨f, fs, rfl, hfs⟩
  rcases parse_joined hfs with ⟨hjoined, hclash⟩
  have hlist := compileList_outcome houtcome
  -- Joined fragments are a regular expression or malformed, and neither is a failure.
  by_cases hisolated : Isolated (f :: fs)
  · rcases hjoined hisolated with ⟨r, hr⟩
    rw [hr] at hlist
    exact ⟨_, congrArg Logged.outcome (compileListOrNothing_of_ok hlist)⟩
  · rcases hclash hisolated with ⟨e, he⟩
    rw [he] at hlist
    exact ⟨_, compileListOrNothing_of_rejected hlist⟩

/-- A list fails where one of its wildcards does. -/
theorem compileListOrNothing_of_error {dashes : Bool} {wildcards : String} {e : Regex.LimitError}
    (h : (fragments dashes wildcards).outcome = .error e) :
    (compileListOrNothing dashes wildcards).outcome = .error e := by
  simp only [compileListOrNothing, compileList_of_error h]

/-- A list does not fail just if none of its wildcards exceeds a limit. -/
theorem compileListOrNothing_ok_iff {dashes : Bool} {wildcards : String} :
    (∃ m, (compileListOrNothing dashes wildcards).outcome = .ok m) ↔
      ∀ w ∈ split wildcards, ¬ExceedsLimit dashes w := by
  constructor
  · rintro ⟨m, hm⟩ w hw
    rw [← compile_ok_iff]
    cases hfragments : (fragments dashes wildcards).outcome with
    | error e =>
        rw [compileListOrNothing_of_error hfragments] at hm
        cases hm
    | ok fs =>
        have hmap := Logged.mapM_ok.mp hfragments
        -- All fragments are there, that of this wildcard among them.
        have hmem : (compile dashes w).outcome ∈ fs.map Except.ok := by
          rw [← hmap]
          exact List.mem_map.mpr ⟨w, hw, rfl⟩
        rcases List.mem_map.mp hmem with ⟨f, _, hf⟩
        exact ⟨f, hf.symm⟩
  · intro h
    exact compileListOrNothing_of_compile fun w hw => compile_ok_iff.mpr (h w hw)

end Wildcard

/-- The match of a name that is found has a group that ends before it starts. -/
def NameMatcher.Crosses (m : NameMatcher) (name : String) : Prop :=
  m.tree.width.low ≤ name.toList.length ∧ m.tree.found name.toList = some false

/-- Asking for a name fails just if its match has a group that ends before it starts. -/
theorem NameMatcher.accepts_ok_iff {m : NameMatcher} {name : String} :
    (∃ b, m.accepts name = .ok b) ↔ ¬m.Crosses name := by
  unfold accepts Crosses
  constructor
  · rintro ⟨b, hb⟩ hcrosses
    rw [Regex.fullMatch_error_iff.mpr ⟨rfl, hcrosses⟩] at hb
    cases hb
  · intro hnot
    cases haccepts : m.tree.fullMatch name.toList with
    | ok b => exact ⟨b, rfl⟩
    | error e => exact absurd (Regex.fullMatch_error_iff.mp haccepts).2 hnot

namespace Held

/-- No wildcard of a kind exceeds a limit. -/
def WithinLimits (h : Held) (kind : NameKind) : Prop :=
  ∀ w ∈ Wildcard.split (h.config.effective kind), ¬Wildcard.ExceedsLimit kind.dashes w

theorem matcher_ok_iff {h : Held} (hf : h.Faithful) (kind : NameKind) :
    (∃ m, (h.matcher kind).2.outcome = .ok m) ↔ h.WithinLimits kind := by
  rw [matcher_outcome hf kind]
  exact Wildcard.compileListOrNothing_ok_iff

/-- A configuration is shown just if both regular expressions are derived. -/
theorem describe_ok {h : Held} :
    (∃ d, h.describe.2.outcome = .ok d) ↔
      (∃ m, (h.matcher .cls).2.outcome = .ok m) ∧
        ∃ m, ((h.matcher .cls).1.matcher .function).2.outcome = .ok m := by
  unfold describe
  -- The two regular expressions are derived one after the other, the second from what the
  -- first has left.
  rcases h.matcher .cls with ⟨h', classes⟩
  rcases hclasses : classes.outcome with e | c
  · simp only [hclasses]
    constructor
    · rintro ⟨d, hd⟩
      cases hd
    · rintro ⟨⟨m, hm⟩, _⟩
      cases hm
  · simp only [hclasses]
    rcases h'.matcher .function with ⟨h'', functions⟩
    rcases functions.outcome with e | f
    · dsimp only
      constructor
      · rintro ⟨d, hd⟩
        cases hd
      · rintro ⟨_, m, hm⟩
        cases hm
    · dsimp only
      exact ⟨fun _ => ⟨⟨c, rfl⟩, f, rfl⟩, fun _ => ⟨_, rfl⟩⟩

/-- A configuration is shown just if no wildcard of either kind exceeds a limit. -/
theorem describe_ok_iff {h : Held} (hf : h.Faithful) :
    (∃ d, h.describe.2.outcome = .ok d) ↔ ∀ kind, h.WithinLimits kind := by
  rcases matcher_faithful hf .cls with ⟨hconfig, hf'⟩
  -- The first matcher is kept before the second one is derived.
  have hsame : (h.matcher .cls).1.WithinLimits .function ↔ h.WithinLimits .function := by
    unfold WithinLimits
    rw [hconfig]
  rw [describe_ok, matcher_ok_iff hf, matcher_ok_iff hf', hsame]
  constructor
  · rintro ⟨hclasses, hfunctions⟩ kind
    cases kind with
    | cls => exact hclasses
    | function => exact hfunctions
  · intro hall
    exact ⟨hall .cls, hall .function⟩

/-- Asking for a name does not fail just if no wildcard of the kind exceeds a limit
    and the match does not cross. -/
theorem selects_ok_iff {h : Held} (hf : h.Faithful) (name : String) (kind : NameKind) :
    (∃ b, (h.selects name kind).2.outcome = .ok b) ↔
      h.WithinLimits kind ∧
        ∀ m, (h.config.matcher kind).outcome = .ok m → ¬m.Crosses name := by
  rw [selects_of_faithful hf, ← matcher_ok_iff hf, matcher_outcome hf]
  unfold Config.selects
  simp only [bind, Logged.bind]
  -- Without a regular expression there is nothing that could cross.
  rcases (h.config.matcher kind).outcome with e | m
  · constructor
    · rintro ⟨b, hb⟩
      cases hb
    · rintro ⟨⟨m, hm⟩, _⟩
      cases hm
  · constructor
    · rintro ⟨b, hb⟩
      refine ⟨⟨m, rfl⟩, fun m' hm' => ?_⟩
      cases hm'
      exact NameMatcher.accepts_ok_iff.mp ⟨b, hb⟩
    · rintro ⟨_, hcrosses⟩
      exact NameMatcher.accepts_ok_iff.mpr (hcrosses m rfl)

/-- A wildcard becomes a regular expression if and only if it does not exceed a
    limit. For a configuration, whatever has been derived from it so far, the
    regular expression of a kind is derived if and only if no wildcard of the kind
    exceeds a limit, it is shown if and only if no wildcard of either kind does,
    and asking for a name does not fail if and only if no wildcard of the kind
    does and the match that is found does not cross. -/
theorem ok_iff_withinLimits {h : Held} (hf : h.Faithful) :
    (∀ dashes w,
      (∃ f r, (Wildcard.compile dashes w).outcome = .ok f ∧ Regex.parse f.toList = .ok r) ↔
        ¬Wildcard.ExceedsLimit dashes w) ∧
    (∀ kind, (∃ m, (h.matcher kind).2.outcome = .ok m) ↔ h.WithinLimits kind) ∧
    ((∃ d, h.describe.2.outcome = .ok d) ↔ ∀ kind, h.WithinLimits kind) ∧
    ∀ name kind, (∃ b, (h.selects name kind).2.outcome = .ok b) ↔
      h.WithinLimits kind ∧
        ∀ m, (h.config.matcher kind).outcome = .ok m → ¬m.Crosses name := by
  refine ⟨fun dashes w => ?_, fun kind => matcher_ok_iff hf kind, describe_ok_iff hf,
    fun name kind => selects_ok_iff hf name kind⟩
  rw [← Wildcard.compile_ok_iff]
  constructor
  · rintro ⟨f, _, hcompile, _⟩
    exact ⟨f, hcompile⟩
  · rintro ⟨f, hcompile⟩
    -- A fragment is always a regular expression, so asking for one besides adds nothing.
    rcases Wildcard.parse_of_compile hcompile with ⟨r, hr⟩
    exact ⟨f, r, hcompile, hr⟩

/-- A configuration whose wildcards for classes have been used and whose wildcards
    for functions exceed a limit. -/
theorem ok_iff_withinLimits_used :
    let c : Config := ⟨⟨some "Test*", some "]\x7b4294967295\x7d"⟩, none⟩
    let h : Held := (Held.matcher ⟨c, none, none⟩ .cls).1
    h.classes.map NameMatcher.source = some "Test.*" ∧
    (∀ dashes w,
      (∃ f r, (Wildcard.compile dashes w).outcome = .ok f ∧ Regex.parse f.toList = .ok r) ↔
        ¬Wildcard.ExceedsLimit dashes w) ∧
    (∀ kind, (∃ m, (h.matcher kind).2.outcome = .ok m) ↔ h.WithinLimits kind) ∧
    ((∃ d, h.describe.2.outcome = .ok d) ↔ ∀ kind, h.WithinLimits kind) ∧
    ∀ name kind, (∃ b, (h.selects name kind).2.outcome = .ok b) ↔
      h.WithinLimits kind ∧
        ∀ m, (h.config.matcher kind).outcome = .ok m → ¬m.Crosses name := by
  intro c h
  exact ⟨by decide +kernel, ok_iff_withinLimits (matcher_faithful (faithful_fresh _) .cls).2⟩

/-- A wildcard that fails, with everything that is asked of a configuration with it. -/
theorem fails_repetition :
    let h : Held := ⟨⟨⟨none, some "]\x7b4294967295\x7d"⟩, none⟩, none, none⟩
    (Wildcard.compile false "]\x7b4294967295\x7d").outcome = .error .repetition ∧
    (h.matcher .function).2.outcome = .error .repetition ∧
    h.describe.2.outcome = .error .repetition ∧
    (h.selects "test_a" .function).2.outcome = .error .repetition := by
  decide +kernel

end Held

end NamePatterns
