import NamePatterns.Proofs.Toml.Bounds

/-!
# Long Integers in TOML

Integers with more digits than are converted.

Only the digits of integers in base ten are counted. A run of digits that belongs to
a number with a fraction or a power, to a date or to a time is not converted as an
integer, and neither is an integer in another base.

Whether an integer is too long is seen from its run of digits. A run ends at the
first character that is neither a digit nor a separator (`length_digitRun_le`),
and this decides what else the text could be. A date has a dash behind its
fourth digit and a time has a colon behind its second one, far too early for a
run that is too long; a string starts with a quote. So no other reader takes the
text away, and the reader of numbers is refused for it in one way only.

## Main definitions

* `LongInteger`: A text that starts with an integer that is too long.

## Theorems

* `length_digitRun_le_countP`, `length_digitRun_le`: How long a run of digits is, and
  where it ends.
* `number?_tooManyDigits_iff`: When a number is refused.
* `LongInteger.lt_countP`: An integer that is too long has too many digits.
* `LongInteger.temporal?_eq_none`: An integer that is too long is no date or time.
* `scalar_tooManyDigits_iff`: When a value that holds no others is refused.
-/

namespace NamePatterns

namespace Toml

/-- A text starts with an integer in base ten, with or without a sign, that has so
    many digits, more than are converted: it starts with no zero, and neither a
    fraction nor a power of ten follows. -/
def LongInteger (count : Nat) (cs : List Char) : Prop :=
  ∃ sign unsigned, cs = sign ++ unsigned ∧ sign ∈ [[], ['+'], ['-']] ∧
    unsigned.head? ≠ some '0' ∧
    ∃ digits rest, digitRun Char.isDigit unsigned = (digits, rest) ∧ digits.length = count ∧
      Text.digitLimit < count ∧ fractionDigits? rest = none ∧ power? rest = none

section Numbers

variable {cs : List Char} {count : Nat}

/-- A run of digits has no more digits than there are. -/
theorem length_digitRun_le_countP (isDigit : Char → Bool) (cs : List Char) :
    (digitRun isDigit cs).1.length ≤ cs.countP isDigit := by
  -- The first character of a run counts on both sides.
  have hfirst {d : Char} {ds after : List Char} (hd : isDigit d = true)
      (hle : ds.length ≤ after.countP isDigit) :
      (d :: ds).length ≤ (d :: after).countP isDigit := by
    rw [List.countP_cons_of_pos hd]
    exact Nat.succ_le_succ hle
  fun_induction digitRun isDigit cs with
  | case1 | case3 | case4 | case5 | case8 => exact Nat.zero_le _
  | case2 d hd => exact hfirst hd (Nat.zero_le _)
  | case6 d e cs _ hd => exact hfirst (by simpa using hd) (Nat.zero_le _)
  | case7 d e cs _ hd _ ds rest hrun ih =>
      rw [hrun] at ih
      exact hfirst (by simpa using hd) (Nat.le_trans ih (List.sublist_cons_self _ _).countP_le)
  | case9 d e cs _ _ hd ds rest hrun ih =>
      rw [hrun] at ih
      exact hfirst (by simpa using hd) ih

/-- A run of digits ends before every character that is neither a digit nor a
    separator. -/
theorem length_digitRun_le {isDigit : Char → Bool} {c : Char} (hdigit : isDigit c = false)
    (hseparator : c ≠ '_') {i : Nat} (h : cs[i]? = some c) :
    (digitRun isDigit cs).1.length ≤ i := by
  -- The first character of a run is a digit, so the run ends further back.
  have hfirst {d : Char} {ds : List Char} (hd : isDigit d = true) {j : Nat}
      (hj : (d :: ds)[j]? = some c) : ∃ k, j = k + 1 ∧ ds[k]? = some c := by
    cases j with
    | zero =>
        obtain rfl : d = c := Option.some.inj hj
        rw [hd] at hdigit
        cases hdigit
    | succ k => exact ⟨k, rfl, hj⟩
  fun_induction digitRun isDigit cs generalizing i with
  | case1 | case3 | case4 | case5 | case8 => exact Nat.zero_le i
  | case2 d hd =>
      rcases hfirst hd h with ⟨k, rfl, _⟩
      exact Nat.succ_le_succ (Nat.zero_le k)
  | case6 d e cs _ hd =>
      rcases hfirst (by simpa using hd) h with ⟨k, rfl, _⟩
      exact Nat.succ_le_succ (Nat.zero_le k)
  | case7 d e cs _ hd _ ds rest hrun ih =>
      rcases hfirst (by simpa using hd) h with ⟨k, rfl, hk⟩
      cases k with
      | zero => exact absurd (Option.some.inj hk).symm hseparator
      | succ k =>
          have hle := ih hk
          rw [hrun] at hle
          exact Nat.le_succ_of_le (Nat.succ_le_succ hle)
  | case9 d e cs _ _ hd ds rest hrun ih =>
      rcases hfirst (by simpa using hd) h with ⟨k, rfl, hk⟩
      have hle := ih hk
      rw [hrun] at hle
      exact Nat.succ_le_succ hle

/-- What was read before a point, if it is more than a zero. -/
theorem wholePart_iff {digits rest : List Char} (hlong : Text.digitLimit < digits.length) :
    (match cs with
      | '0' :: rest => (['0'], rest)
      | _ => digitRun Char.isDigit cs) = (digits, rest) ↔
      cs.head? ≠ some '0' ∧ digitRun Char.isDigit cs = (digits, rest) := by
  split
  · constructor
    · intro h
      cases h
      exact absurd hlong (by decide)
    · rintro ⟨hhead, _⟩
      exact absurd rfl hhead
  · next hzero =>
      refine ⟨fun h => ⟨fun hhead => ?_, h⟩, And.right⟩
      rcases List.head?_eq_some_iff.mp hhead with ⟨after, rfl⟩
      exact hzero after rfl

/-- A fraction has digits. -/
theorem fractionDigits?_nonempty {digits rest : List Char}
    (h : fractionDigits? cs = some (digits, rest)) : digits ≠ [] := by
  unfold fractionDigits? at h
  split at h
  · split at h
    · cases h
    · next hdigits =>
        rintro rfl
        exact hdigits _ (Option.some.inj h)
  · cases h

/-- What was read behind a point, if there are no digits. -/
theorem fraction_eq_nil_iff {left rest : List Char} :
    (match fractionDigits? left with
      | some (digits, rest) => (digits, rest)
      | none => ([], left)) = ([], rest) ↔ fractionDigits? left = none ∧ rest = left := by
  cases hfraction : fractionDigits? left with
  | none => exact ⟨fun h => ⟨rfl, (Prod.mk.inj h).2.symm⟩, fun h => by rw [h.2]⟩
  | some found =>
      constructor
      · intro h
        exact absurd (Prod.mk.inj h).1 (fractionDigits?_nonempty hfraction)
      · rintro ⟨h, _⟩
        cases h

theorem decimal?_tooManyDigits_iff {negative : Bool} :
    decimal? negative cs = some (.error (.tooManyDigits ⟨count⟩)) ↔
      cs.head? ≠ some '0' ∧
      ∃ digits rest, digitRun Char.isDigit cs = (digits, rest) ∧ digits.length = count ∧
        Text.digitLimit < count ∧ fractionDigits? rest = none ∧ power? rest = none := by
  constructor
  · fun_cases decimal? negative cs with
    | case1 | case3 =>
        intro h
        cases h
    | case2 whole left hwhole _ afterFraction hpower hfraction =>
        intro h
        rcases fraction_eq_nil_iff.mp hfraction with ⟨hfraction, rfl⟩
        split at h
        · next hlong =>
            cases h
            rcases (wholePart_iff hlong).mp hwhole with ⟨hhead, hrun⟩
            exact ⟨hhead, whole, _, hrun, rfl, hlong, hfraction, hpower⟩
        · cases h
  · -- The digits are read as a whole, whatever else the number could have.
    rintro ⟨hhead, digits, rest, hrun, rfl, hlong, hfraction, hpower⟩
    have hpart := (wholePart_iff hlong).mpr ⟨hhead, hrun⟩
    fun_cases decimal? negative cs with
    | case1 whole left hwhole hempty =>
        obtain ⟨rfl, rfl⟩ := Prod.mk.inj (hwhole.symm.trans hpart)
        rw [List.isEmpty_iff.mp hempty] at hlong
        exact absurd hlong (by decide)
    | case2 whole left hwhole _ afterFraction hpower hfraction =>
        obtain ⟨rfl, rfl⟩ := Prod.mk.inj (hwhole.symm.trans hpart)
        rw [if_pos hlong]
    | case3 whole left hwhole _ afterFraction ds exponent afterPower _ hfound hnone _ =>
        obtain ⟨rfl, rfl⟩ := Prod.mk.inj (hwhole.symm.trans hpart)
        -- There is neither a fraction nor a power.
        rw [hfraction] at hfound
        obtain ⟨rfl, rfl⟩ := Prod.mk.inj hfound
        exact absurd rfl (hnone hpower)

/-- A run of digits that is too long is there, so it starts with a digit. -/
theorem exists_digit_of_run {digits rest : List Char}
    (h : digitRun Char.isDigit cs = (digits, rest)) (hlong : Text.digitLimit < digits.length) :
    ∃ c after, cs = c :: after ∧ c.isDigit = true := by
  have hsome : (digitRun Char.isDigit cs).1 ≠ [] := by
    rw [h]
    rintro rfl
    exact absurd hlong (by decide)
  revert hsome
  fun_cases digitRun Char.isDigit cs with
  | case1 | case3 | case4 | case5 | case8 => exact fun hsome => absurd rfl hsome
  | case2 c hc => exact fun _ => ⟨c, [], rfl, hc⟩
  | case6 c d cs _ hc | case7 c d cs _ hc | case9 c d cs _ _ hc =>
      exact fun _ => ⟨c, _, rfl, by simpa using hc⟩

/-- A number that starts with a digit other than zero is in base ten and has no sign. -/
theorem number?_of_digit {c : Char} {after : List Char} (hc : c.isDigit = true)
    (hzero : c ≠ '0') : number? (c :: after) = decimal? false (c :: after) := by
  have hminus : c ≠ '-' := by
    rintro rfl
    cases hc
  have hplus : c ≠ '+' := by
    rintro rfl
    cases hc
  generalize hcs : c :: after = cs
  fun_cases number? cs with
  | case1 _ inBase found hbased =>
      dsimp only [inBase] at hbased
      split at hbased
      · exact absurd (List.cons.inj hcs).1 hzero
      · exact absurd (List.cons.inj hcs).1 hzero
      · exact absurd (List.cons.inj hcs).1 hzero
      · cases hbased
  | case2 => exact absurd (List.cons.inj hcs).1 hminus
  | case3 => exact absurd (List.cons.inj hcs).1 hplus
  | case4 => rfl

/-- A number is refused just if it is an integer that is too long. -/
theorem number?_tooManyDigits_iff :
    number? cs = some (.error (.tooManyDigits ⟨count⟩)) ↔ LongInteger count cs := by
  constructor
  · fun_cases number? cs with
    | case1 =>
        intro h
        cases h
    | case2 rest =>
        intro h
        exact ⟨['-'], rest, rfl, by decide, decimal?_tooManyDigits_iff.mp h⟩
    | case3 rest =>
        intro h
        exact ⟨['+'], rest, rfl, by decide, decimal?_tooManyDigits_iff.mp h⟩
    | case4 =>
        intro h
        exact ⟨[], cs, rfl, by decide, decimal?_tooManyDigits_iff.mp h⟩
  · rintro ⟨sign, unsigned, rfl, hsign, hhead, hdigits⟩
    have hdecimal (b : Bool) : decimal? b unsigned = some (.error (.tooManyDigits ⟨count⟩)) :=
      decimal?_tooManyDigits_iff.mpr ⟨hhead, hdigits⟩
    -- Without a sign it has to be shown that no base is read: the first digit is no zero.
    simp only [List.mem_cons, List.not_mem_nil, or_false] at hsign
    rcases hsign with rfl | rfl | rfl
    · rcases hdigits with ⟨digits, rest, hrun, rfl, hlong, _⟩
      rcases exists_digit_of_run hrun hlong with ⟨c, after, rfl, hc⟩
      rw [List.nil_append, number?_of_digit hc fun h => hhead (congrArg some h)]
      exact hdecimal false
    · exact hdecimal false
    · exact hdecimal true

namespace LongInteger

/-- A few digits at the start of an integer that is too long are followed by another
    one, perhaps behind a separator. -/
theorem digits?_next (h : LongInteger count cs) {few n : Nat} {c : Char} {rest : List Char}
    (hfew : digits? few cs = some (n, c :: rest)) (hpos : 0 < few) (hle : few ≤ Text.digitLimit) :
    c.isDigit = true ∨ c = '_' := by
  unfold digits? at hfew
  dsimp only at hfew
  split at hfew
  · next htaken =>
      rw [Bool.and_eq_true, decide_eq_true_eq, List.all_eq_true] at htaken
      have hdrop : cs.drop few = c :: rest := (Prod.mk.inj (Option.some.inj hfew)).2
      by_cases hdigit : c.isDigit = true
      · exact Or.inl hdigit
      by_cases hseparator : c = '_'
      · exact Or.inr hseparator
      rcases h with ⟨sign, unsigned, rfl, hsign, _, digits, left, hrun, rfl, hlong, _⟩
      -- A sign is not among the digits, and without one the run would end too early.
      obtain ⟨k, rfl⟩ : ∃ k, few = k + 1 := ⟨few - 1, by omega⟩
      simp only [List.mem_cons, List.not_mem_nil, or_false] at hsign
      rcases hsign with rfl | rfl | rfl
      · have hat : unsigned[k + 1]? = some c := by
          rw [← List.head?_drop, ← List.nil_append unsigned, hdrop]
          rfl
        have hshort := length_digitRun_le (Bool.eq_false_iff.mpr hdigit) hseparator hat
        rw [hrun] at hshort
        exact absurd hlong (Nat.not_lt.mpr (Nat.le_trans hshort hle))
      · cases htaken.2 '+' List.mem_cons_self
      · cases htaken.2 '-' List.mem_cons_self
  · cases hfew

/-- An integer that is too long is no date and no time. -/
theorem temporal?_eq_none (h : LongInteger count cs) : temporal? cs = none := by
  -- A dash stands behind four digits of a date, where a digit or a separator is.
  have hdate : date? cs = none := by
    cases hfound : date? cs with
    | none => rfl
    | some found =>
        rcases Option.bind_eq_some_iff.mp hfound with ⟨⟨year, rest⟩, hyear, hmore⟩
        rcases Option.bind_eq_some_iff.mp hmore with ⟨after, hdash, _⟩
        rw [expect?_some hdash] at hyear
        rcases h.digits?_next hyear (by decide) (by decide) with hdigit | hseparator
        · cases hdigit
        · cases hseparator
  -- A colon stands behind two digits of a time.
  have htime : time? cs = none := by
    cases hfound : time? cs with
    | none => rfl
    | some found =>
        rcases Option.bind_eq_some_iff.mp hfound with ⟨⟨hour, rest⟩, hhour, hmore⟩
        rcases Option.bind_eq_some_iff.mp hmore with ⟨after, hcolon, _⟩
        rcases Option.bind_eq_some_iff.mp hhour with ⟨⟨n, rest'⟩, hdigits, hbounds⟩
        have hrest : rest' = rest := by
          dsimp only at hbounds
          split at hbounds
          · exact (Prod.mk.inj (Option.some.inj hbounds)).2
          · cases hbounds
        rw [hrest, expect?_some hcolon] at hdigits
        rcases h.digits?_next hdigits (by decide) (by decide) with hdigit | hseparator
        · cases hdigit
        · cases hseparator
  unfold temporal?
  rw [hdate, htime]
  rfl

/-- An integer that is too long has too many digits. -/
theorem lt_countP (h : LongInteger count cs) : Text.digitLimit < cs.countP Char.isDigit := by
  rcases h with ⟨sign, unsigned, rfl, _, _, digits, rest, hrun, rfl, hlong, _⟩
  have hle := length_digitRun_le_countP Char.isDigit unsigned
  rw [hrun] at hle
  have hunsigned := (List.sublist_append_right sign unsigned).countP_le (p := Char.isDigit)
  exact Nat.lt_of_lt_of_le hlong (Nat.le_trans hle hunsigned)

/-- An integer starts with a sign or a digit. -/
theorem exists_head (h : LongInteger count cs) :
    ∃ c after, cs = c :: after ∧ (c = '+' ∨ c = '-' ∨ c.isDigit = true) := by
  rcases h with ⟨sign, unsigned, rfl, hsign, _, digits, rest, hrun, rfl, hlong, _⟩
  simp only [List.mem_cons, List.not_mem_nil, or_false] at hsign
  rcases hsign with rfl | rfl | rfl
  · rcases exists_digit_of_run hrun hlong with ⟨c, after, rfl, hc⟩
    exact ⟨c, after, rfl, Or.inr (Or.inr hc)⟩
  · exact ⟨'+', unsigned, rfl, Or.inl rfl⟩
  · exact ⟨'-', unsigned, rfl, Or.inr (Or.inl rfl)⟩

/-- What starts with another character is no integer. -/
theorem not_cons {c : Char} {after : List Char} (hplus : c ≠ '+') (hminus : c ≠ '-')
    (hdigit : c.isDigit = false) : ¬LongInteger count (c :: after) := by
  intro h
  rcases h.exists_head with ⟨d, ds, hcs, hd⟩
  obtain rfl : c = d := (List.cons.inj hcs).1
  rw [hdigit] at hd
  rcases hd with hd | hd | hd
  · exact hplus hd
  · exact hminus hd
  · cases hd

/-- An integer is no string. -/
theorem stringValue_eq_none (h : LongInteger count cs) : stringValue cs = none := by
  unfold stringValue
  split
  · exact absurd h (not_cons (by decide) (by decide) (by decide))
  · exact absurd h (not_cons (by decide) (by decide) (by decide))
  · exact absurd h (not_cons (by decide) (by decide) (by decide))
  · exact absurd h (not_cons (by decide) (by decide) (by decide))
  · rfl

end LongInteger

/-- A value that holds no others is refused for its length just if it is an integer
    that is too long. -/
theorem scalar_tooManyDigits_iff :
    scalar cs = .error (.tooManyDigits ⟨count⟩) ↔ LongInteger count cs := by
  rw [← number?_tooManyDigits_iff]
  unfold scalar
  constructor
  · intro h
    split at h
    · next r htemporal =>
        exact absurd (Except.map_error.mp h) ((temporal?_leaves htemporal).ne_tooManyDigits _)
    · split at h
      · next r hnumber => rw [hnumber, h]
      · split at h <;> cases h
  · intro h
    rw [(number?_tooManyDigits_iff.mp h).temporal?_eq_none, h]

end Numbers

end Toml

end NamePatterns
