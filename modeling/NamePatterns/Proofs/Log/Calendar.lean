import NamePatterns.Log.Timestamp

/-!
# Moments in the Calendar

The moments that have a text.

The calendar starts with the first day of the year one and ends with the last day of the year
9999. A year here starts in March, so the last two months of such a year belong to the next one
of the calendar.

The year comes from divisions by the lengths of days, years and cycles of 400
years. Since a cycle is always of the same length, the days of the first and of
the last year of the calendar are found by what is left within their cycles.

## Main definitions

* `Timestamp.InCalendar`: A moment lies in the calendar.

## Theorems

* `Timestamp.civil_year_iff`: The days of the calendar.
* `Timestamp.text_isOk_iff`: The moments in the calendar are those that have a text.
-/

namespace NamePatterns

namespace Timestamp

/-- A moment lies in the calendar: it is not before the year one and not after the year 9999. -/
def InCalendar (moment : Int) : Prop :=
  -62135596800 * second ≤ moment ∧ moment < 253402300800 * second

instance (moment : Int) : Decidable (InCalendar moment) :=
  inferInstanceAs (Decidable (_ ∧ _))

/-- The days from the first of the year one to the last of the year 9999. -/
theorem civil_year_iff (day : Int) :
    (1 ≤ (civil day).1 ∧ (civil day).1 ≤ 9999) ↔ -719162 ≤ day ∧ day < 2932897 := by
  unfold civil
  dsimp only
  have hcycle := Int.mul_fdiv_add_fmod (day + 719468) 146097
  generalize (day + 719468).fdiv 146097 = cycle at *
  have hpos : 0 ≤ (day + 719468).fmod 146097 := Int.fmod_nonneg_of_pos _ (by decide)
  have hlt : (day + 719468).fmod 146097 < 146097 := Int.fmod_lt_of_pos _ (by decide)
  generalize (day + 719468).fmod 146097 = rest at *
  obtain ⟨inCycle, rfl⟩ := Int.eq_ofNat_of_zero_le hpos
  rw [Int.toNat_natCast]
  generalize hyear : (inCycle - inCycle / 1460 + inCycle / 36524 - inCycle / 146096) / 365 = year
  -- Only the first and the last year of a cycle matter.
  have hlast : year ≤ 399 := by omega
  have hzero : year = 0 → inCycle ≤ 366 := by omega
  have hfirst : 1 ≤ year → 306 ≤ inCycle := by omega
  have hbefore : year ≤ 398 → inCycle < 146037 := by omega
  -- What is known of the year is enough, and its equation would only be split again.
  clear hyear
  generalize hinYear : inCycle - (365 * year + year / 4 - year / 100) = inYear
  have hinFirst : year = 0 → inYear = inCycle := by omega
  have hinLast : year = 399 → inYear = inCycle - 145731 := by omega
  clear hinYear
  -- January and February are the months that belong to the next year.
  have hnext : (if (if (5 * inYear + 2) / 153 < 10 then (5 * inYear + 2) / 153 + 3
      else (5 * inYear + 2) / 153 - 9) ≤ 2 then (1 : Int) else 0)
      = if 306 ≤ inYear ∧ inYear ≤ 366 then 1 else 0 := by
    split <;> split <;> omega
  rw [hnext]
  split <;> omega

/-- A moment lies in the calendar if its day does. -/
theorem inCalendar_iff (moment : Int) :
    InCalendar moment ↔
      -719162 ≤ moment.fdiv (second * 86400) ∧ moment.fdiv (second * 86400) < 2932897 := by
  have hday := Int.mul_fdiv_add_fmod moment (second * 86400)
  have hpos : 0 ≤ moment.fmod (second * 86400) := Int.fmod_nonneg_of_pos _ (by decide)
  have hlt : moment.fmod (second * 86400) < second * 86400 := Int.fmod_lt_of_pos _ (by decide)
  unfold InCalendar
  unfold second at *
  omega

/-- The seconds of a moment in the calendar fit into 64 bits. -/
theorem fits_of_inCalendar {moment : Int} (h : InCalendar moment) :
    fits 64 (moment.fdiv second) = true := by
  have hsecond := Int.mul_fdiv_add_fmod moment second
  have hpos : 0 ≤ moment.fmod second := Int.fmod_nonneg_of_pos _ (by decide)
  have hlt : moment.fmod second < second := Int.fmod_lt_of_pos _ (by decide)
  unfold InCalendar at h
  have hlow : -(Nat.pow 2 (64 - 1) : Int) = -9223372036854775808 := rfl
  have hhigh : (Nat.pow 2 (64 - 1) : Int) = 9223372036854775808 := rfl
  unfold fits
  rw [hlow, hhigh]
  unfold second at *
  simp only [Bool.and_eq_true, decide_eq_true_eq]
  omega

/-- The moments in the calendar are those that have a text. -/
theorem text_isOk_iff (moment : Int) : (text moment).isOk = true ↔ InCalendar moment := by
  have hcalendar := inCalendar_iff moment
  rw [← civil_year_iff] at hcalendar
  -- The seconds are checked first, and the year last; in the calendar no check fails.
  have hseconds : InCalendar moment → fits 64 (moment.fdiv second) = true := fits_of_inCalendar
  unfold text
  dsimp only
  generalize civil (moment.fdiv (second * 86400)) = date at *
  obtain ⟨year, month, dayOfMonth⟩ := date
  dsimp only at hcalendar ⊢
  constructor
  · intro hok
    rw [hcalendar]
    split at hok
    · cases hok
    split at hok
    · cases hok
    split at hok
    · cases hok
    · next hyear =>
        simp only [Bool.or_eq_true, decide_eq_true_eq] at hyear
        omega
  · intro hin
    obtain ⟨hlow, hhigh⟩ := hcalendar.mp hin
    have hfits : fits 32 (year - 1900) = true := by
      have hbound : (Nat.pow 2 (32 - 1) : Int) = 2147483648 := rfl
      unfold fits
      rw [hbound]
      simp only [Bool.and_eq_true, decide_eq_true_eq]
      omega
    rw [if_neg (by simp [hseconds hin]), if_neg (by simp [hfits]), if_neg]
    · rfl
    · simp only [Bool.or_eq_true, decide_eq_true_eq]
      omega

end Timestamp

end NamePatterns
