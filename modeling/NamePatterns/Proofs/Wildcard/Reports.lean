import NamePatterns.Proofs.Wildcard.Isolation

/-!
# What Lists of Wildcards Report

Which records a list of wildcards leaves behind.

A wildcard is reported just if none of its classes stays open and what it is written
as is malformed. A list whose wildcards do not fail reports each of them that is, in
order and once for every place it has in the list, whether the list is refused or
not. Joining and reading what is joined adds nothing to that.

Both follow the order in which things are done. All wildcards are compiled
before any fragment is joined, and each of them leaves its record then; so what
a list reports is settled before it can be refused.

## Main definitions

* `Wildcard.rejection?`: The report on a wildcard, if there is one.
* `Wildcard.rejections`: The reports on the wildcards of a list.

## Theorems

* `Wildcard.compile_records`: What one wildcard reports.
* `Wildcard.compileList_records`: What a list reports.
* `Wildcard.compileList_ok`: What a list that is not refused is made of.
* `Wildcard.compileList_of_error`: A list fails where one of its wildcards does.
-/

namespace NamePatterns

namespace Wildcard

variable {dashes : Bool} {wildcards : String} {fs : List String}

/-- The report on a wildcard: there is one if no class stays open and what the wildcard is
    written as is malformed. -/
def rejection? (dashes : Bool) (w : String) : Option Log.Record :=
  if openClasses w ≤ 0 then
    match Regex.parse (translate dashes w).toList with
    | .error (.malformed e) => some (rejectionRecord w (translate dashes w) e)
    | _ => none
  else none

/-- The reports on the wildcards of a list, in order. -/
def rejections (dashes : Bool) (wildcards : String) : List Log.Record :=
  (split wildcards).filterMap (rejection? dashes)

/-- A wildcard reports nothing else than that it is rejected. -/
theorem compile_records (dashes : Bool) (w : String) :
    (compile dashes w).records = (rejection? dashes w).toList := by
  unfold compile outcome rejection?
  -- A class that stays open is silenced without a word.
  by_cases hopen : 0 < openClasses w
  · rw [if_pos hopen, if_neg (by omega)]
    rfl
  · rw [if_neg hopen, if_pos (by omega)]
    cases hparse : Regex.parse (translate dashes w).toList with
    | ok r => simp only [hparse]; rfl
    | error e => cases e <;> simp only [hparse] <;> rfl

/-- Wildcards that do not fail report each of them that is rejected. -/
theorem fragments_records (h : (fragments dashes wildcards).outcome = .ok fs) :
    (fragments dashes wildcards).records = rejections dashes wildcards := by
  unfold fragments at h ⊢
  rw [Logged.records_mapM h, rejections, List.filterMap_eq_flatMap_toList]
  exact congrArg (List.flatMap · _) (funext (compile_records dashes))

theorem joined_of_fragments (h : (fragments dashes wildcards).outcome = .ok fs) :
    joined dashes wildcards
      = ⟨(fragments dashes wildcards).records, .ok ("|".intercalate fs)⟩ := by
  unfold joined
  rw [Logged.bind_of_ok h]
  exact congrArg (Logged.mk · _) (List.append_nil _)

/-- A list whose wildcards do not fail reports each of them that is rejected, and nothing
    else. -/
theorem compileList_records (h : (fragments dashes wildcards).outcome = .ok fs) :
    (compileList dashes wildcards).records = rejections dashes wildcards := by
  have hjoined : ((joined dashes wildcards).mapError ListError.beyondLimit).outcome
      = .ok ("|".intercalate fs) := by
    rw [joined_of_fragments h]
    rfl
  have hrecords : ((joined dashes wildcards).mapError ListError.beyondLimit).records
      = rejections dashes wildcards := by
    rw [joined_of_fragments h, ← fragments_records h]
    rfl
  unfold compileList
  rw [Logged.bind_of_ok hjoined, hrecords]
  -- Reading what is joined reports nothing.
  cases Regex.parse ("|".intercalate fs).toList with
  | ok tree => exact List.append_nil _
  | error e => cases e <;> exact List.append_nil _

/-- A list fails where one of its wildcards does. -/
theorem compileList_of_error {e : Regex.LimitError}
    (h : (fragments dashes wildcards).outcome = .error e) :
    (compileList dashes wildcards).outcome = .error (.beyondLimit e) := by
  have hjoined : ((joined dashes wildcards).mapError ListError.beyondLimit).outcome
      = .error (.beyondLimit e) := by
    unfold joined
    rw [Logged.bind_of_error h]
    rfl
  unfold compileList
  rw [Logged.bind_of_error hjoined]

/-- A list that is a regular expression is what is joined of its fragments, and reports
    each wildcard that is rejected. -/
theorem compileList_ok {m : NameMatcher} (h : (compileList dashes wildcards).outcome = .ok m) :
    (∃ fs, (split wildcards).map (fun w => (compile dashes w).outcome) = fs.map .ok ∧
      (fragments dashes wildcards).outcome = .ok fs ∧ m.source = "|".intercalate fs) ∧
    (compileList dashes wildcards).records = rejections dashes wildcards := by
  cases hfragments : (fragments dashes wildcards).outcome with
  | error e =>
      rw [compileList_of_error hfragments] at h
      cases h
  | ok fs =>
      refine ⟨⟨fs, Logged.mapM_ok.mp hfragments, rfl, ?_⟩, compileList_records hfragments⟩
      rw [compileList_outcome hfragments] at h
      cases hparse : Regex.parse ("|".intercalate fs).toList with
      | ok tree =>
          rw [hparse] at h
          rw [← Except.ok.inj h]
      | error e =>
          rw [hparse] at h
          cases e <;> cases h

end Wildcard

end NamePatterns
