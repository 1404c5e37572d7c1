import Mathlib.Data.Bool.AllAny
import Mathlib.Data.List.Basic
import NamePatterns.Json.Reader
import NamePatterns.Json.Writer
import NamePatterns.Text.Integer

/-!
# Reading Back What Was Written as JSON

A value on one line is read as that value.

This holds for values that are made of texts, truth values, nulls, integers, lists and tables.
Numbers with a fraction are rounded when they are read, and points in time are written as
texts. A character of a text is escaped in one of two ways or stands for itself, and is read
back each time. Since no control is left standing, what is written really is one line.

An integer ends where there is no further digit, point or power, so values are read in front of
what can stand behind a value: nothing, a comma or the end of a list or a table.

Reading takes fuel, since a text is not made of the parts that it is read into.
What is written of a value has a character for each step at least, so its own
length is always enough; that bound is part of what the induction over values
carries.

## Main definitions

* `Json.Plain`: The values that are read back.
* `Json.Ends`: What can stand behind a value.
* `Json.Reads`: A value is read back.

## Theorems

* `Json.readChar?_escape`, `Json.readString_escape`: Characters and texts are read back.
* `Json.readNumber_toString`: Integers are read back.
* `Json.readItems_compactItems`, `Json.readMembers_compactMembers`: Items and
  members are read back.
* `Json.Plain.isShowable`: No integer of a plain value keeps it from being
  written.
* `Json.Plain.compact_eq`: Plain values are written.
* `Json.Plain.reads`, `Json.Plain.read?_compact`: Values are read back.
* `Json.Plain.le_of_mem`: What is written holds no control.
-/

namespace NamePatterns

namespace Json

/-- The values that are made of texts, truth values, nulls, integers that are not too long to be
    written, lists and tables. -/
inductive Plain : Value → Prop where
  | null : Plain .null
  | bool (b : Bool) : Plain (.bool b)
  | int (n : Int) (h : Text.IsShort n) : Plain (.int n)
  | text (s : String) : Plain (.text s)
  | list (vs : List Value) (h : ∀ v ∈ vs, Plain v) : Plain (.list vs)
  | table (ms : Table) (h : ∀ m ∈ ms, Plain m.2) : Plain (.table ms)

section Strings

variable {rest : List Char}

theorem hexValue?_hexDigit : ∀ d < 16, Text.hexValue? (Text.hexDigit d) = some d := by
  decide

/-- A number with four digits in base sixteen is read back. -/
theorem readUnit?_hex {n : Nat} (h : n < 65536) (rest : List Char) :
    readUnit? (Text.hex 4 n ++ rest) = some (n, rest) := by
  have hdigit (m : Nat) : Text.hexValue? (Text.hexDigit (m % 16)) = some (m % 16) :=
    hexValue?_hexDigit _ (Nat.mod_lt _ (by decide))
  simp only [Text.hex, List.nil_append, List.cons_append, readUnit?, hdigit, Option.bind_eq_bind,
    Option.bind_some, Option.pure_def, Option.some.injEq, Prod.mk.injEq, and_true]
  omega

/-- A character is escaped by a sign of its own, by its number, or stands for itself. -/
theorem escape_cases (c : Char) :
    (∃ sign, escape c = ['\\', sign] ∧ 0x20 ≤ sign.toNat ∧
      ∀ rest, readChar? ('\\' :: sign :: rest) = some (c, rest)) ∨
    (escape c = '\\' :: 'u' :: Text.hex 4 c.toNat ∧ c.toNat < 0x20) ∨
    (escape c = [c] ∧ c ≠ '"' ∧ c ≠ '\\' ∧ 0x20 ≤ c.toNat) := by
  -- Two of the controls are compared by their numbers.
  have hnumber {n : Nat} (hn : n.isValidChar) (h : (c.toNat == n) = true) : c = Char.ofNat n := by
    rw [← Char.ofNat_toNat c, beq_iff_eq.mp h]
  unfold escape
  split
  · next h => exact Or.inl ⟨'"', rfl, by decide, fun rest => by rw [beq_iff_eq.mp h]; rfl⟩
  split
  · next h => exact Or.inl ⟨'\\', rfl, by decide, fun rest => by rw [beq_iff_eq.mp h]; rfl⟩
  split
  · next h => exact Or.inl ⟨'n', rfl, by decide, fun rest => by rw [beq_iff_eq.mp h]; rfl⟩
  split
  · next h => exact Or.inl ⟨'r', rfl, by decide, fun rest => by rw [beq_iff_eq.mp h]; rfl⟩
  split
  · next h => exact Or.inl ⟨'t', rfl, by decide, fun rest => by rw [beq_iff_eq.mp h]; rfl⟩
  split
  · next h =>
      exact Or.inl ⟨'b', rfl, by decide, fun rest => by rw [hnumber (by decide) h]; rfl⟩
  split
  · next h =>
      exact Or.inl ⟨'f', rfl, by decide, fun rest => by rw [hnumber (by decide) h]; rfl⟩
  split
  · next h => exact Or.inr (Or.inl ⟨rfl, h⟩)
  · next hquote hback _ _ _ _ _ hcontrol =>
      exact Or.inr (Or.inr ⟨rfl, by simpa using hquote, by simpa using hback,
        Nat.not_lt.mp hcontrol⟩)

/-- A character that stands for itself is read as it is. -/
theorem readChar?_self {c : Char} (hquote : c ≠ '"') (hback : c ≠ '\\') (hcontrol : 0x20 ≤ c.toNat)
    (rest : List Char) : readChar? (c :: rest) = some (c, rest) := by
  rw [readChar?.eq_def]
  split <;> simp_all

/-- A character is read back. -/
theorem readChar?_escape (c : Char) (rest : List Char) :
    readChar? (escape c ++ rest) = some (c, rest) := by
  rcases escape_cases c with
    ⟨sign, hescape, -, hread⟩ | ⟨hescape, hcontrol⟩ | ⟨hescape, hquote, hback, hcontrol⟩
  · rw [hescape]
    exact hread rest
  -- A control is no half of a pair, so its four digits are all there is to read.
  · have hunit := readUnit?_hex (Nat.lt_trans hcontrol (by decide)) rest
    have hlow : ¬0xD800 ≤ c.toNat := by omega
    have hlow' : ¬0xDC00 ≤ c.toNat := by omega
    rw [hescape, List.cons_append, List.cons_append]
    show readEscapedUnit? _ = _
    simp [readEscapedUnit?, hunit, hlow, hlow']
  · rw [hescape]
    exact readChar?_self hquote hback hcontrol rest

/-- No character is written as the end of a text. -/
theorem head?_escape (c : Char) (rest : List Char) : (escape c ++ rest).head? ≠ some '"' := by
  rcases escape_cases c with ⟨sign, hescape, -⟩ | ⟨hescape, -⟩ | ⟨hescape, hquote, -⟩
  · simp [hescape]
  · simp [hescape]
  · simpa [hescape] using hquote

theorem escape_ne_nil (c : Char) : escape c ≠ [] := by
  rcases escape_cases c with ⟨sign, hescape, -⟩ | ⟨hescape, -⟩ | ⟨hescape, -⟩ <;> simp [hescape]

/-- One step in reading a text. -/
theorem readString_step {fuel : Nat} {cs rest : List Char} {c : Char}
    (hhead : cs.head? ≠ some '"') (hread : readChar? cs = some (c, rest)) :
    readString (fuel + 1) cs = (readString fuel rest).map fun p => (c :: p.1, p.2) := by
  rw [readString]
  · simp only [hread, Option.bind_eq_bind, Option.bind_some, Option.pure_def]
    cases readString fuel rest <;> rfl
  · rintro rest rfl
    exact hhead rfl

/-- A text is read back up to its closing quote. -/
theorem readString_escape {cs : List Char} {fuel : Nat} (hfuel : cs.length < fuel) :
    readString fuel (cs.flatMap escape ++ '"' :: rest) = some (cs, rest) := by
  induction cs generalizing fuel with
  | nil =>
      obtain ⟨fuel, rfl⟩ := Nat.exists_eq_add_one_of_ne_zero (Nat.ne_of_gt hfuel)
      rfl
  | cons c cs ih =>
      obtain ⟨fuel, rfl⟩ :=
        Nat.exists_eq_add_one_of_ne_zero (Nat.ne_of_gt (Nat.zero_lt_of_lt hfuel))
      rw [List.flatMap_cons, List.append_assoc,
        readString_step (head?_escape c _) (readChar?_escape c _),
        ih (Nat.lt_of_succ_lt_succ hfuel)]
      rfl

theorem length_le_escape (cs : List Char) : cs.length ≤ (cs.flatMap escape).length := by
  induction cs with
  | nil => exact Nat.le_refl 0
  | cons c cs ih =>
      have hpos := List.length_pos_iff.mpr (escape_ne_nil c)
      simp only [List.flatMap_cons, List.length_append, List.length_cons]
      omega

/-- A text is read back with as many steps as there are characters. -/
theorem readString_text (cs rest : List Char) :
    readString ((cs.flatMap escape ++ '"' :: rest).length + 1) (cs.flatMap escape ++ '"' :: rest)
      = some (cs, rest) := by
  refine readString_escape ?_
  have := length_le_escape cs
  simp only [List.length_append]
  omega

/-- What is written of a character holds no control. -/
theorem le_of_mem_escape {c d : Char} (h : d ∈ escape c) : 0x20 ≤ d.toNat := by
  have hhex : ∀ n < 32, (Text.hex 4 n).all (0x20 ≤ ·.toNat) = true := by
    decide
  rcases escape_cases c with
    ⟨sign, hescape, hsign, -⟩ | ⟨hescape, hcontrol⟩ | ⟨hescape, -, -, hcontrol⟩
  · rw [hescape] at h
    simp only [List.mem_cons, List.not_mem_nil, or_false] at h
    rcases h with rfl | rfl
    · decide
    · exact hsign
  · rw [hescape] at h
    simp only [List.mem_cons] at h
    rcases h with rfl | rfl | hmem
    · decide
    · decide
    · exact List.all_iff_forall_prop.mp (hhex c.toNat hcontrol) d hmem
  · rw [hescape] at h
    rw [List.mem_singleton.mp h]
    exact hcontrol

theorem le_of_mem_quote {s : String} {d : Char} (h : d ∈ quote s) : 0x20 ≤ d.toNat := by
  simp only [quote, List.cons_append, List.mem_cons, List.mem_append, List.mem_flatMap,
    List.not_mem_nil, or_false] at h
  rcases h with rfl | ⟨c, -, hmem⟩ | rfl
  · decide
  · exact le_of_mem_escape hmem
  · decide

end Strings

section Numbers

variable {rest : List Char}

/-- What can stand behind a value: nothing, a comma or the end of a list or a table. -/
def Ends (rest : List Char) : Prop :=
  ∀ c ∈ rest.head?, c = ',' ∨ c = ']' ∨ c = '\x7d'

theorem Ends.takeWhile_isDigit (h : Ends rest) : rest.takeWhile Char.isDigit = [] := by
  cases rest with
  | nil => rfl
  | cons c rest =>
      rcases h c rfl with rfl | rfl | rfl <;> rfl

/-- A number in base ten is read back. -/
theorem readDigits_toDigits (n : Nat) (h : Ends rest) :
    readDigits (Nat.toDigits 10 n ++ rest) = (n, (Nat.toDigits 10 n).length, rest) := by
  have hdigits : ∀ c ∈ Nat.toDigits 10 n, c.isDigit = true := fun c hc =>
    Nat.isDigit_of_mem_toDigits (by decide) (by decide) hc
  have htake : (Nat.toDigits 10 n ++ rest).takeWhile Char.isDigit = Nat.toDigits 10 n := by
    rw [List.takeWhile_append_of_pos hdigits, h.takeWhile_isDigit, List.append_nil]
  have hdrop : (Nat.toDigits 10 n ++ rest).dropWhile Char.isDigit = rest := by
    -- What is taken is the number, so what is left is the rest.
    have hwhole := List.takeWhile_append_dropWhile (p := Char.isDigit)
      (l := Nat.toDigits 10 n ++ rest)
    rw [htake] at hwhole
    exact List.append_cancel_left hwhole
  have hvalue : (Nat.toDigits 10 n).foldl (fun n d => n * 10 + (d.toNat - '0'.toNat)) 0 = n := by
    have hof := Nat.ofDigitChars_toDigits (b := 10) (n := n) (by decide) (by decide)
    rw [Nat.ofDigitChars_eq_foldl] at hof
    simpa only [Nat.mul_comm 10] using hof
  unfold readDigits
  rw [htake, hdrop]
  dsimp only
  rw [hvalue]

/-- A number that is written with a zero in front is zero. -/
theorem eq_zero_of_head?_toDigits (n : Nat) (h : (Nat.toDigits 10 n).head? = some '0') : n = 0 := by
  induction n using Nat.strongRecOn with
  | ind n ih =>
      rw [Nat.toDigits_eq_if (by decide)] at h
      split at h
      · next hlt =>
          have hall : ∀ n < 10, n.digitChar = '0' → n = 0 := by decide
          exact hall n hlt (Option.some.inj h)
      · next hge =>
          rw [List.head?_append_of_ne_nil _ Nat.toDigits_ne_nil] at h
          have hzero := ih (n / 10) (by omega) h
          omega

theorem readFraction_of_ends (h : Ends rest) : readFraction rest = some (none, rest) := by
  cases rest with
  | nil => rfl
  | cons c rest => rcases h c rfl with rfl | rfl | rfl <;> rfl

theorem readPower_of_ends (h : Ends rest) : readPower rest = some (none, rest) := by
  cases rest with
  | nil => rfl
  | cons c rest => rcases h c rfl with rfl | rfl | rfl <;> rfl

theorem readMagnitude_toDigits (negative : Bool) (n : Nat) (h : Ends rest) :
    readMagnitude negative (Nat.toDigits 10 n ++ rest)
      = some (.int (if negative then -(n : Int) else n), rest) := by
  have hpos : (Nat.toDigits 10 n).length ≠ 0 := Nat.ne_of_gt Nat.length_toDigits_pos
  -- A zero in front is refused if there is another digit, which there never is.
  have hzero : (Nat.toDigits 10 n).head? = some '0' → (Nat.toDigits 10 n).length = 1 := by
    intro hhead
    rw [eq_zero_of_head?_toDigits n hhead]
    rfl
  unfold readMagnitude
  rw [readDigits_toDigits n h, List.head?_append_of_ne_nil _ Nat.toDigits_ne_nil]
  dsimp only
  rw [if_neg (by simpa [Nat.toDigits_ne_nil] using hzero), readFraction_of_ends h]
  simp only [Option.bind_eq_bind, Option.bind_some, Option.pure_def, readPower_of_ends h]

/-- The text of an integer. -/
theorem toList_toString (n : Int) :
    (toString n).toList = if n < 0 then '-' :: Nat.toDigits 10 n.natAbs
      else Nat.toDigits 10 n.natAbs := by
  cases n with
  | ofNat m => simp [Int.toString_eq_repr, Int.repr, Nat.toList_repr]
  | negSucc m => simp [Int.toString_eq_repr, Int.repr, Nat.toList_repr, Int.negSucc_lt_zero]

/-- An integer starts with a dash or with a digit. -/
theorem toString_opens (n : Int) :
    ∃ c cs, (toString n).toList = c :: cs ∧ (c = '-' ∨ c.isDigit = true) := by
  rw [toList_toString]
  split
  · exact ⟨_, _, rfl, Or.inl rfl⟩
  · cases hds : Nat.toDigits 10 n.natAbs with
    | nil => exact absurd hds Nat.toDigits_ne_nil
    | cons d ds =>
        have hmem : d ∈ Nat.toDigits 10 n.natAbs := hds ▸ List.mem_cons_self
        exact ⟨d, ds, rfl, Or.inr (Nat.isDigit_of_mem_toDigits (by decide) (by decide) hmem)⟩

/-- An integer is read back. -/
theorem readNumber_toString (n : Int) (h : Ends rest) :
    readNumber ((toString n).toList ++ rest) = some (.int n, rest) := by
  rw [toList_toString]
  split
  · next hneg =>
      show readMagnitude true (Nat.toDigits 10 n.natAbs ++ rest) = _
      rw [readMagnitude_toDigits true _ h]
      simp only [if_true, Option.some.injEq, Prod.mk.injEq, Value.int.injEq, and_true]
      omega
  · next hnonneg =>
      -- Digits are no dash, so no sign is read.
      have hunsigned : readNumber (Nat.toDigits 10 n.natAbs ++ rest)
          = readMagnitude false (Nat.toDigits 10 n.natAbs ++ rest) := by
        rw [readNumber]
        intro cs hcs
        have hmem : '-' ∈ Nat.toDigits 10 n.natAbs := by
          cases hds : Nat.toDigits 10 n.natAbs with
          | nil => exact absurd hds Nat.toDigits_ne_nil
          | cons d ds =>
              rw [hds] at hcs
              rw [(List.cons.inj hcs).1]
              exact List.mem_cons_self
        exact absurd (Nat.isDigit_of_mem_toDigits (by decide) (by decide) hmem) (by decide)
      rw [hunsigned, readMagnitude_toDigits false _ h]
      simp only [Bool.false_eq_true, if_false, Option.some.injEq, Prod.mk.injEq, Value.int.injEq,
        and_true]
      omega

end Numbers

section Values

variable {v : Value} {vs : List Value} {ms : Table} {fuel : Nat} {rest : List Char}

/-- A value is read back, whatever stands behind it. -/
def Reads (v : Value) : Prop :=
  ∀ (fuel : Nat) (rest : List Char), (compactChars v).length ≤ fuel → Ends rest →
    readValue fuel (compactChars v ++ rest) = some (v, rest)

theorem skipSpace_of_ends (h : Ends rest) : skipSpace rest = rest := by
  cases rest with
  | nil => rfl
  | cons c rest => rcases h c rfl with rfl | rfl | rfl <;> rfl

theorem ends_compactItems (vs : List Value) (rest : List Char) :
    Ends (compactItems vs ++ rest) := by
  cases vs <;> simp [compactItems, Ends]

theorem ends_compactMembers (ms : Table) (rest : List Char) :
    Ends (compactMembers ms ++ rest) := by
  cases ms <;> simp [compactMembers, Ends]

/-- What a value starts with is no space and no end of a list. -/
theorem Plain.opens (h : Plain v) :
    ∃ c cs, compactChars v = c :: cs ∧ isSpace c = false ∧ c ≠ ']' := by
  cases h with
  | null => exact ⟨_, _, rfl, by decide, by decide⟩
  | bool b => cases b <;> exact ⟨_, _, rfl, by decide, by decide⟩
  | text s => exact ⟨_, _, rfl, by decide, by decide⟩
  | list vs =>
      refine ⟨'[', (compactChars (.list vs)).tail, ?_, by decide, by decide⟩
      cases vs <;> simp [compactChars]
  | table ms =>
      refine ⟨'\x7b', (compactChars (.table ms)).tail, ?_, by decide, by decide⟩
      cases ms <;> simp [compactChars]
  | int n =>
      obtain ⟨c, cs, hchars, hc⟩ := toString_opens n
      refine ⟨c, cs, hchars, ?_, ?_⟩
      · cases hspace : isSpace c with
        | false => rfl
        | true =>
            simp only [isSpace, Bool.or_eq_true, beq_iff_eq] at hspace
            rcases hspace with ((rfl | rfl) | rfl) | rfl <;> exact absurd hc (by decide)
      · rintro rfl
        exact absurd hc (by decide)

theorem Plain.skipSpace (h : Plain v) (rest : List Char) :
    skipSpace (compactChars v ++ rest) = compactChars v ++ rest := by
  obtain ⟨c, cs, hchars, hspace, -⟩ := h.opens
  rw [hchars, List.cons_append, Json.skipSpace, List.dropWhile_cons_of_neg (by simp [hspace])]

/-- The items of a list after the first are read back. -/
theorem readItems_compactItems (hplain : ∀ v ∈ vs, Plain v) (hreads : ∀ v ∈ vs, Reads v)
    (hfuel : (compactItems vs).length ≤ fuel) :
    readItems fuel (compactItems vs ++ rest) = some (vs, rest) := by
  induction vs generalizing fuel with
  | nil =>
      obtain ⟨fuel, rfl⟩ := Nat.exists_eq_add_one_of_ne_zero (Nat.ne_of_gt hfuel)
      rfl
  | cons v vs ih =>
      rw [compactItems] at hfuel ⊢
      simp only [List.length_cons, List.length_append] at hfuel
      obtain ⟨fuel, rfl⟩ : ∃ fewer, fuel = fewer + 1 := ⟨fuel - 1, by omega⟩
      -- An item is followed by a comma or by the end of the list, so it is read back alone.
      have hv := hreads v List.mem_cons_self fuel (compactItems vs ++ rest) (by omega)
        (ends_compactItems vs rest)
      have hvs : readItems fuel (compactItems vs ++ rest) = some (vs, rest) :=
        ih (fun w hw => hplain w (List.mem_cons_of_mem v hw))
          (fun w hw => hreads w (List.mem_cons_of_mem v hw)) (by omega)
      have hspace : Json.skipSpace (' ' :: (compactChars v ++ (compactItems vs ++ rest)))
          = compactChars v ++ (compactItems vs ++ rest) :=
        (hplain v List.mem_cons_self).skipSpace _
      simp only [List.cons_append, List.append_assoc, readItems, hspace, hv, hvs,
        skipSpace_of_ends (ends_compactItems vs rest), Option.bind_eq_bind, Option.bind_some,
        Option.pure_def]

/-- A member of a table is read back. -/
theorem readMember_compact (k : String) (hplain : Plain v) (hreads : Reads v)
    (hfuel : (compactChars v).length < fuel) (hends : Ends rest) :
    readMember fuel (quote k ++ ':' :: ' ' :: (compactChars v ++ rest)) = some ((k, v), rest) := by
  obtain ⟨fuel, rfl⟩ : ∃ fewer, fuel = fewer + 1 := ⟨fuel - 1, by omega⟩
  have hv := hreads fuel rest (Nat.le_of_lt_succ hfuel) hends
  have hspace : Json.skipSpace (' ' :: (compactChars v ++ rest)) = compactChars v ++ rest :=
    hplain.skipSpace rest
  have hcolon (cs : List Char) : Json.skipSpace (':' :: cs) = ':' :: cs := rfl
  simp only [quote, List.cons_append, List.append_assoc, List.nil_append, readMember,
    readString_text, hcolon, hspace, hv, Option.bind_eq_bind, Option.bind_some, Option.pure_def,
    String.ofList_toList]

/-- The members of a table after the first are read back. -/
theorem readMembers_compactMembers (hplain : ∀ m ∈ ms, Plain m.2) (hreads : ∀ m ∈ ms, Reads m.2)
    (hfuel : (compactMembers ms).length ≤ fuel) :
    readMembers fuel (compactMembers ms ++ rest) = some (ms, rest) := by
  induction ms generalizing fuel with
  | nil =>
      obtain ⟨fuel, rfl⟩ := Nat.exists_eq_add_one_of_ne_zero (Nat.ne_of_gt hfuel)
      rfl
  | cons m ms ih =>
      obtain ⟨k, v⟩ := m
      rw [compactMembers] at hfuel ⊢
      simp only [List.length_cons, List.length_append] at hfuel
      obtain ⟨fuel, rfl⟩ : ∃ fewer, fuel = fewer + 1 := ⟨fuel - 1, by omega⟩
      have hfirst : (compactChars v).length < fuel := by omega
      have hm := readMember_compact k (hplain _ List.mem_cons_self) (hreads _ List.mem_cons_self)
        hfirst (ends_compactMembers ms rest)
      have hms : readMembers fuel (compactMembers ms ++ rest) = some (ms, rest) :=
        ih (fun w hw => hplain w (List.mem_cons_of_mem _ hw))
          (fun w hw => hreads w (List.mem_cons_of_mem _ hw)) (by omega)
      have hspace (cs : List Char) : Json.skipSpace (' ' :: (quote k ++ cs)) = quote k ++ cs := rfl
      simp only [List.cons_append, List.append_assoc, readMembers, hspace, hm, hms,
        skipSpace_of_ends (ends_compactMembers ms rest), Option.bind_eq_bind, Option.bind_some,
        Option.pure_def]

/-- What is written of a value is not empty, so reading it takes a step. -/
theorem Plain.reads_of_step (h : Plain v)
    (hstep : ∀ (fuel : Nat) (rest : List Char), (compactChars v).length ≤ fuel + 1 → Ends rest →
      readValue (fuel + 1) (compactChars v ++ rest) = some (v, rest)) : Reads v := by
  intro fuel rest hfuel hends
  obtain ⟨c, cs, hchars, -⟩ := h.opens
  cases fuel with
  | zero =>
      rw [hchars] at hfuel
      exact absurd hfuel (Nat.not_succ_le_zero _)
  | succ fuel => exact hstep fuel rest hfuel hends

/-- What starts with a dash or with a digit is read as a number. -/
theorem readValue_of_digit {c : Char} (hc : c = '-' ∨ c.isDigit = true) (cs : List Char) :
    readValue (fuel + 1) (c :: cs) = readNumber (c :: cs) := by
  rw [readValue]
  all_goals
    rintro rest ⟨⟩
    exact absurd hc (by decide)

/-- What follows the start of a list and is not its end is read as an item. -/
theorem readValue_bracket {c : Char} (hspace : isSpace c = false) (hc : c ≠ ']')
    (cs : List Char) :
    readValue (fuel + 1) ('[' :: c :: cs) = (readValue fuel (c :: cs)).bind fun p =>
      (readItems fuel (skipSpace p.2)).bind fun q => some (.list (p.1 :: q.1), q.2) := by
  have hskip : Json.skipSpace (c :: cs) = c :: cs := List.dropWhile_cons_of_neg (by simp [hspace])
  simp only [readValue, hskip]
  split
  · next heq => exact absurd (List.cons.inj heq).1 hc
  · rfl

/-- What follows the start of a table and starts a text is read as a member. -/
theorem readValue_brace (cs : List Char) :
    readValue (fuel + 1) ('\x7b' :: '"' :: cs) = (readMember fuel ('"' :: cs)).bind fun p =>
      (readMembers fuel (skipSpace p.2)).bind fun q => some (.table (p.1 :: q.1), q.2) := by
  rw [readValue]
  rfl

/-- Every plain value is read back. -/
theorem Plain.reads (h : Plain v) : Reads v := by
  induction h with
  | null => exact Plain.null.reads_of_step fun fuel rest _ _ => rfl
  | bool b =>
      refine (Plain.bool b).reads_of_step fun fuel rest _ _ => ?_
      cases b <;> rfl
  | text s =>
      refine (Plain.text s).reads_of_step fun fuel rest _ _ => ?_
      simp only [compactChars, scalar, quote, List.cons_append, List.append_assoc, List.nil_append,
        readValue, readString_text, Option.map_some, String.ofList_toList]
  | int n hn =>
      refine (Plain.int n hn).reads_of_step fun fuel rest _ hends => ?_
      obtain ⟨c, cs, hchars, hc⟩ := toString_opens n
      have hread := readNumber_toString n hends
      show readValue (fuel + 1) ((toString n).toList ++ rest) = _
      rw [hchars, List.cons_append] at hread ⊢
      exact (readValue_of_digit hc _).trans hread
  | list vs h ih =>
      refine (Plain.list vs h).reads_of_step fun fuel rest hfuel hends => ?_
      cases vs with
      | nil => rfl
      | cons v vs =>
          simp only [compactChars, List.length_cons, List.length_append] at hfuel
          have hv := ih v List.mem_cons_self fuel (compactItems vs ++ rest) (by omega)
            (ends_compactItems vs rest)
          have hvs : readItems fuel (compactItems vs ++ rest) = some (vs, rest) :=
            readItems_compactItems (fun w hw => h w (List.mem_cons_of_mem v hw))
              (fun w hw => ih w (List.mem_cons_of_mem v hw)) (by omega)
          -- The first item does not start like the end of the list, so the list is not empty.
          obtain ⟨c, cs, hchars, hspace, hc⟩ := (h v List.mem_cons_self).opens
          simp only [compactChars, hchars, List.cons_append, List.append_assoc] at hv ⊢
          simp only [readValue_bracket hspace hc, hv, Option.bind_some,
            skipSpace_of_ends (ends_compactItems vs rest), hvs]
  | table ms h ih =>
      refine (Plain.table ms h).reads_of_step fun fuel rest hfuel hends => ?_
      cases ms with
      | nil => rfl
      | cons m ms =>
          obtain ⟨k, v⟩ := m
          simp only [compactChars, List.length_cons, List.length_append] at hfuel
          -- The closing bracket is a character as well, and leaves the step for the member.
          have hlast : 0 < (compactMembers ms).length := by
            cases ms <;> simp [compactMembers]
          have hfirst : (compactChars v).length < fuel := by omega
          have hm := readMember_compact k (h _ List.mem_cons_self) (ih _ List.mem_cons_self)
            hfirst (ends_compactMembers ms rest)
          have hms : readMembers fuel (compactMembers ms ++ rest) = some (ms, rest) :=
            readMembers_compactMembers (fun w hw => h w (List.mem_cons_of_mem _ hw))
              (fun w hw => ih w (List.mem_cons_of_mem _ hw)) (by omega)
          simp only [quote, List.cons_append, List.append_assoc, List.nil_append] at hm
          simp only [compactChars, quote, List.cons_append, List.append_assoc, List.nil_append,
            readValue_brace, hm, Option.bind_some,
            skipSpace_of_ends (ends_compactMembers ms rest), hms]

/-- Integers are all that can keep a value from being written, and those of a plain value are
    short enough. -/
theorem Plain.isShowable (h : Plain v) : v.isShowable = true := by
  induction h with
  | null => rfl
  | bool b => rfl
  | int n hshort =>
      rw [Value.isShowable]
      exact decide_eq_true hshort
  | text s => rfl
  | list vs _ ih => exact Value.areShowable_iff.mpr ih
  | table ms _ ih => exact Value.membersShowable_iff.mpr ih

/-- A plain value is written. -/
theorem Plain.compact_eq (h : Plain v) : compact v = .ok (String.ofList (compactChars v)) :=
  if_pos h.isShowable

/-- A text that is what is written of a plain value is read as that value. -/
theorem Plain.read?_compact {line : String} (h : Plain v) (hline : compact v = .ok line) :
    read? line = some v := by
  rw [h.compact_eq] at hline
  obtain rfl := Except.ok.inj hline
  have hspace := h.skipSpace []
  rw [List.append_nil] at hspace
  -- Fuel for every character and for the closing of every bracket is more than is used.
  have hread := h.reads (2 * (compactChars v).length + 2) [] (by omega) nofun
  rw [List.append_nil] at hread
  unfold read?
  simp only [String.toList_ofList, hspace, hread]
  rfl

theorem le_of_mem_compactItems {c : Char} (hitems : ∀ v ∈ vs, ∀ c ∈ compactChars v, 0x20 ≤ c.toNat)
    (hc : c ∈ compactItems vs) : 0x20 ≤ c.toNat := by
  induction vs with
  | nil =>
      rw [List.mem_singleton.mp hc]
      decide
  | cons v vs ih =>
      simp only [compactItems, List.cons_append, List.mem_cons, List.mem_append] at hc
      rcases hc with rfl | rfl | hmem | hmem
      · decide
      · decide
      · exact hitems v List.mem_cons_self c hmem
      · exact ih (fun w hw => hitems w (List.mem_cons_of_mem v hw)) hmem

theorem le_of_mem_compactMembers {c : Char}
    (hmembers : ∀ m ∈ ms, ∀ c ∈ compactChars m.2, 0x20 ≤ c.toNat) (hc : c ∈ compactMembers ms) :
    0x20 ≤ c.toNat := by
  induction ms with
  | nil =>
      rw [List.mem_singleton.mp hc]
      decide
  | cons m ms ih =>
      simp only [compactMembers, List.cons_append, List.mem_cons, List.mem_append] at hc
      rcases hc with rfl | rfl | (hmem | rfl | rfl | hmem) | hmem
      · decide
      · decide
      · exact le_of_mem_quote hmem
      · decide
      · decide
      · exact hmembers m List.mem_cons_self c hmem
      · exact ih (fun w hw => hmembers w (List.mem_cons_of_mem m hw)) hmem

/-- What is written of a plain value holds no control. -/
theorem Plain.le_of_mem {c : Char} (h : Plain v) (hc : c ∈ compactChars v) : 0x20 ≤ c.toNat := by
  induction h generalizing c with
  | null =>
      have hall : (compactChars .null).all (0x20 ≤ ·.toNat) = true := by decide
      exact List.all_iff_forall_prop.mp hall c hc
  | bool b =>
      have hall : ∀ b, (compactChars (.bool b)).all (0x20 ≤ ·.toNat) = true := by decide
      exact List.all_iff_forall_prop.mp (hall b) c hc
  | text s => exact le_of_mem_quote hc
  | int n =>
      have hmem : c = '-' ∨ c ∈ Nat.toDigits 10 n.natAbs := by
        have hchars : c ∈ (toString n).toList := hc
        rw [toList_toString] at hchars
        split at hchars
        · exact List.mem_cons.mp hchars
        · exact Or.inr hchars
      rcases hmem with rfl | hdigit
      · decide
      · have hdigit := Nat.isDigit_of_mem_toDigits (by decide) (by decide) hdigit
        simp only [Char.isDigit, Bool.and_eq_true, decide_eq_true_eq] at hdigit
        exact Nat.le_trans (by decide) (UInt32.le_iff_toNat_le.mp hdigit.1)
  | list vs h ih =>
      cases vs with
      | nil =>
          have hall : (compactChars (.list [])).all (0x20 ≤ ·.toNat) = true := by decide
          exact List.all_iff_forall_prop.mp hall c hc
      | cons v vs =>
          simp only [compactChars, List.cons_append, List.mem_cons, List.mem_append] at hc
          rcases hc with rfl | hmem | hmem
          · decide
          · exact ih v List.mem_cons_self hmem
          · exact le_of_mem_compactItems
              (fun w hw _ hmem => ih w (List.mem_cons_of_mem v hw) hmem) hmem
  | table ms h ih =>
      cases ms with
      | nil =>
          have hall : (compactChars (.table [])).all (0x20 ≤ ·.toNat) = true := by decide
          exact List.all_iff_forall_prop.mp hall c hc
      | cons m ms =>
          simp only [compactChars, List.cons_append, List.mem_cons, List.mem_append] at hc
          rcases hc with rfl | (hmem | rfl | rfl | hmem) | hmem
          · decide
          · exact le_of_mem_quote hmem
          · decide
          · decide
          · exact ih m List.mem_cons_self hmem
          · exact le_of_mem_compactMembers
              (fun w hw _ hmem => ih w (List.mem_cons_of_mem m hw) hmem) hmem

end Values

end Json

end NamePatterns
