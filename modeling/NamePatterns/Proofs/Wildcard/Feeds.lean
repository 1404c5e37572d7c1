import NamePatterns.Proofs.Text.Feeds
import NamePatterns.Proofs.Wildcard.Limits
import NamePatterns.Proofs.Wildcard.Splitting

/-!
# Line Feeds in Wildcards

Where a line feed in a list of wildcards is left.

Wildcards are split at line feeds as at any other blank, so those of a list have none. Nothing
that a wildcard is written as brings one in. So what the fragments of a list are joined to has
none, whether it is a regular expression or not.

This is needed for the log: a refused list is reported together with its regular
expression, and a report takes one line only if what it shows does.

## Theorems

* `Wildcard.feeds_of_mem_split`: The wildcards of a list have no line feeds.
* `Wildcard.feeds_translate`: What a wildcard is written as has none of its own.
* `Wildcard.feeds_joined`, `Wildcard.feeds_source`: What a list comes to has none.
-/

namespace NamePatterns

namespace Wildcard

variable {dashes : Bool} {w wildcards : String} {m : NameMatcher}

open Text (feeds feeds_intercalate)

theorem newline_not_mem_emit {scan : Scan} {c : Char} (hc : c ≠ '\n') :
    '\n' ∉ emit dashes scan c := by
  have hsingle : '\n' ∉ [c] := fun h => hc (List.mem_singleton.mp h).symm
  unfold emit
  -- What is written is the character itself, one of a few others, or one behind a backslash.
  split_ifs
  all_goals first
    | exact hsingle
    | decide
    | exact List.not_mem_cons_of_ne_of_not_mem (by decide) hsingle

theorem newline_not_mem_translateFrom {cs : List Char} (h : '\n' ∉ cs) (scan : Scan) :
    '\n' ∉ translateFrom dashes scan cs := by
  induction cs generalizing scan with
  | nil => exact List.not_mem_nil
  | cons c cs ih =>
      obtain ⟨hc, hcs⟩ := not_or.mp (List.mem_cons.not.mp h)
      rw [translateFrom, List.mem_append]
      exact not_or.mpr ⟨newline_not_mem_emit (Ne.symm hc), ih hcs _⟩

/-- What a wildcard without line feeds is written as has none. -/
theorem feeds_translate (h : feeds w = 0) : feeds (translate dashes w) = 0 := by
  rw [feeds, List.count_eq_zero] at h ⊢
  rw [toList_translate]
  exact newline_not_mem_translateFrom h _

/-- The wildcards of a list have no line feeds, since these are blanks. -/
theorem feeds_of_mem_split (hw : w ∈ split wildcards) : feeds w = 0 := by
  refine List.count_eq_zero.mpr fun hfeed => ?_
  have hblank := not_blank_of_mem_split hw _ hfeed
  revert hblank
  decide

/-- The fragment of a wildcard without line feeds has none. -/
theorem feeds_fragment {f : String} (h : feeds w = 0) (hf : (compile dashes w).outcome = .ok f) :
    feeds f = 0 := by
  rcases compile_fragment hf with rfl | ⟨rfl, _⟩
  · rfl
  · exact feeds_translate h

/-- What the fragments of a list are joined to has no line feeds: the wildcards of the list have
    none, since a line feed is a blank. -/
theorem feeds_joined {fs : List String} (h : (fragments dashes wildcards).outcome = .ok fs) :
    feeds ("|".intercalate fs) = 0 := by
  refine feeds_intercalate rfl fun f hf => ?_
  -- Each fragment is that of a wildcard of the list, and the bars between them bring nothing
  -- in.
  obtain ⟨w, hw, hwf⟩ := exists_wildcard_of_mem (Logged.mapM_ok.mp h) hf
  exact feeds_fragment (feeds_of_mem_split hw) hwf

/-- The regular expression of a list has no line feeds. -/
theorem feeds_source (hm : (compileListOrNothing dashes wildcards).outcome = .ok m) :
    feeds m.source = 0 := by
  cases hlist : (compileList dashes wildcards).outcome with
  | error e =>
      cases e with
      -- What takes the place of a refused list is the same for all lists.
      | rejected ws regex e =>
          rw [compileListOrNothing_of_rejected hlist] at hm
          rw [← Except.ok.inj hm]
          rfl
      | beyondLimit e =>
          simp only [compileListOrNothing, hlist] at hm
          cases hm
  | ok m' =>
      rw [compileListOrNothing_of_ok hlist] at hm
      obtain rfl := Except.ok.inj hm
      obtain ⟨⟨fs, _, hfragments, hsource⟩, _⟩ := compileList_ok hlist
      rw [hsource]
      exact feeds_joined hfragments

end Wildcard

end NamePatterns
