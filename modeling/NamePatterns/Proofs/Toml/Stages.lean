import NamePatterns.Proofs.Toml.LongInteger

/-!
# Stages of Reading a TOML Document

Where values are read in a document, and which documents are refused since an integer
is too long.

A stage says what is read next, and from which text. It leads to another stage if
everything before that one is read without a fault. A document is refused for the
length of an integer just if its lines lead to a value that is such an integer. So an
integer does no harm in a comment, a string or a key, nor behind a place where the
document is malformed.

To come to a value is a path of steps, and to be refused is a fact about the
last of them. That the two agree is proved for one step first, with one lemma
for each kind of stage (`lines_refuses_iff`, `items_refuses_iff`,
`members_refuses_iff`, `value_refuses_iff`). The run is then an induction: on
the path from right to left, and on what is left to be read (`Stage.size`) from
left to right. Every step leaves less to read, apart from the step from items to
their first value, so items count as one more than a value of the same text.

## Main definitions

* `Stage`: What is read next.
* `Stage.Refuses`: The reading of a stage fails since an integer is too long.
* `Stage.Leads`: One stage leads to the next one.
* `Stage.ComesTo`: A stage comes to a value, step by step.
* `Reaches`: A document comes to a value.

## Theorems

* `Stage.Leads.shortens`: A step leads to an end of the text.
* `statement_tooManyDigits_iff`: When a statement is refused.
* `Stage.lines_refuses_iff`, `Stage.value_refuses_iff`,
  `Stage.items_refuses_iff`, `Stage.members_refuses_iff`: The same for each kind
  of stage.
* `Stage.step_refuses_iff`: A stage is refused if the next one is.
* `Stage.refuses_iff`: When a stage is refused.
* `Reaches.suffix`, `Reaches.countP_le`: A document comes to values that it holds.
* `parse_tooManyDigits_iff`: When a document is refused.
-/

namespace NamePatterns

namespace Toml

/-- What is read next, and the text that it is read from. -/
inductive Stage where
  /-- Lines, to be added to what has been read of the document. -/
  | lines (d : Draft) (cs : List Char)
  /-- A value. -/
  | value (cs : List Char)
  /-- Items of a list, of which there is one at least. -/
  | items (cs : List Char)
  /-- Members of an inline table behind those it has already. -/
  | members (marks : Marks) (t : Table) (cs : List Char)

namespace Stage

/-- The text that a stage reads. -/
def text : Stage → List Char
  | lines _ cs | value cs | items cs | members _ _ cs => cs

/-- The reading of a stage fails since an integer is too long. -/
def Refuses (e : Text.TooManyDigits) : Stage → Prop
  | lines d cs => readLines d cs = .error (.tooManyDigits e)
  | value cs => readValue cs = .error (.tooManyDigits e)
  | items cs => readItems cs = .error (.tooManyDigits e)
  | members marks t cs => readMembers marks t cs = .error (.tooManyDigits e)

/-- A stage leads to another one: what stands before that one is read without a
    fault. -/
inductive Leads : Stage → Stage → Prop
  /-- The value that a line sets a key to. -/
  | setting {d : Draft} {cs rest after : List Char} {c : Char} {k : Key}
      (hline : skipBlanks cs = c :: rest) (hstart : startsKey c = true)
      (hkey : key (c :: rest) = .ok (k, '=' :: after)) :
      Leads (lines d cs) (value (skipBlanks after))
  /-- The line behind a blank one. -/
  | blankLine {d : Draft} {cs rest : List Char} (hline : skipBlanks cs = '\n' :: rest) :
      Leads (lines d cs) (lines d rest)
  /-- The line behind a statement. -/
  | nextLine {d d' : Draft} {cs rest after : List Char}
      (hstatement : statement d (skipBlanks cs) = .ok (d', rest))
      (hend : skipComment (skipBlanks rest) = .ok ('\n' :: after)) :
      Leads (lines d cs) (lines d' after)
  /-- The items of a list that is not empty. -/
  | list {rest after : List Char} (hspace : skipSpace false rest = .ok after)
      (hopen : after.head? ≠ some ']') : Leads (value ('[' :: rest)) (items after)
  /-- The members of an inline table that is not empty. -/
  | table {rest : List Char} (hopen : (skipBlanks rest).head? ≠ some '\x7d') :
      Leads (value ('\x7b' :: rest)) (members {} [] (skipBlanks rest))
  /-- The first item. -/
  | item {cs : List Char} : Leads (items cs) (value cs)
  /-- The items behind the first one. -/
  | nextItem {cs rest after next : List Char} {v : Value} (hvalue : readValue cs = .ok (v, rest))
      (hcomma : skipSpace false rest = .ok (',' :: after))
      (hspace : skipSpace false after = .ok next) (hopen : next.head? ≠ some ']') :
      Leads (items cs) (items next)
  /-- The value of the first member. -/
  | member {marks : Marks} {t : Table} {cs rest : List Char} {k : Key}
      (hkey : key cs = .ok (k, '=' :: rest)) : Leads (members marks t cs) (value (skipBlanks rest))
  /-- The members behind the first one. -/
  | nextMember {marks : Marks} {t t' : Table} {cs rest after next : List Char} {k : Key} {v : Value}
      (hkey : key cs = .ok (k, '=' :: rest)) (hvalue : readValue (skipBlanks rest) = .ok (v, after))
      (hadd : addMember marks k v t = .ok t') (hcomma : skipBlanks after = ',' :: next) :
      Leads (members marks t cs) (members (marks.lock k v) t' (skipBlanks next))

/-- A stage comes to a value, step by step. -/
inductive ComesTo : Stage → List Char → Prop
  /-- The value is read next. -/
  | here (cs : List Char) : ComesTo (value cs) cs
  /-- The value is read after another stage. -/
  | step {x y : Stage} {cs : List Char} (hleads : x.Leads y) (h : y.ComesTo cs) : ComesTo x cs

/-- How much is left to be read. Items are read after the first of them is known to be
    there, but before it is read. -/
def size : Stage → Nat
  | items cs => 2 * cs.length + 1
  | lines _ cs | value cs | members _ _ cs => 2 * cs.length

theorem le_size (x : Stage) : 2 * x.text.length ≤ x.size := by
  cases x with
  | items cs => exact Nat.le_succ _
  | lines | value | members => exact Nat.le_refl _

theorem size_le (x : Stage) : x.size ≤ 2 * x.text.length + 1 := by
  cases x with
  | items cs => exact Nat.le_refl _
  | lines | value | members => exact Nat.le_succ _

section Leads

variable {x y : Stage}

/-- A stage leads to one that reads an end of its text and has less to read. -/
theorem Leads.shortens (h : x.Leads y) : y.text <:+ x.text ∧ y.size < x.size := by
  -- What stands before the other stage ends with a character.
  have hback {c : Char} {rest : List Char} (hx : c :: rest <:+ x.text) (hy : y.text <:+ rest) :
      y.text <:+ x.text ∧ y.size < x.size := by
    refine ⟨hy.trans (suffix_of_cons hx), ?_⟩
    have hxlength := hx.length_le
    have hylength := hy.length_le
    have hxsize := x.le_size
    have hysize := y.size_le
    rw [List.length_cons] at hxlength
    omega
  cases h with
  | setting hline _ hkey =>
      have hrest := (key_leaves _).suffix hkey
      rw [← hline] at hrest
      exact hback (hrest.trans (skipBlanks_suffix _)) (skipBlanks_suffix _)
  | blankLine hline => exact hback (hline ▸ skipBlanks_suffix _) (List.suffix_refl _)
  | nextLine hstatement hend =>
      have hrest := ((statement_leaves _ _).suffix hstatement).trans (skipBlanks_suffix _)
      have hafter := ((skipComment_leaves _).suffix hend).trans (skipBlanks_suffix _)
      exact hback (hafter.trans hrest) (List.suffix_refl _)
  | list hspace _ => exact hback (List.suffix_refl _) ((skipSpace_leaves _ _).suffix hspace)
  | table _ => exact hback (List.suffix_refl _) (skipBlanks_suffix _)
  | item => exact ⟨List.suffix_refl _, Nat.lt_succ_self _⟩
  | nextItem hvalue hcomma hspace _ =>
      have hafter := ((skipSpace_leaves _ _).suffix hcomma).trans (readValue_suffix hvalue)
      exact hback hafter ((skipSpace_leaves _ _).suffix hspace)
  | member hkey => exact hback ((key_leaves _).suffix hkey) (skipBlanks_suffix _)
  | nextMember hkey hvalue _ hcomma =>
      have hrest := suffix_of_cons ((key_leaves _).suffix hkey)
      have hafter := (readValue_suffix hvalue).trans ((skipBlanks_suffix _).trans hrest)
      have hnext := (hcomma ▸ skipBlanks_suffix _).trans hafter
      exact hback hnext (skipBlanks_suffix _)

/-- Where a stage comes to a value, the value is at the end of its text. -/
theorem ComesTo.suffix {cs : List Char} (h : x.ComesTo cs) : cs <:+ x.text := by
  induction h with
  | here => exact List.suffix_refl _
  | step hleads _ ih => exact ih.trans hleads.shortens.1

end Leads

end Stage

section Refusals

variable {cs : List Char} {e : Text.TooManyDigits}

theorem head?_ne_of_not_cons {c : Char} (h : ∀ rest, cs = c :: rest → False) :
    cs.head? ≠ some c := by
  intro hhead
  rcases List.head?_eq_some_iff.mp hhead with ⟨rest, hcs⟩
  exact h rest hcs

theorem keyValue_tooManyDigits_iff :
    keyValue cs = .error (.tooManyDigits e) ↔
      ∃ k after, key cs = .ok (k, '=' :: after) ∧
        readValue (skipBlanks after) = .error (.tooManyDigits e) := by
  constructor
  · intro h
    rcases (key_leaves cs).bind_tooManyDigits.mp h with ⟨⟨k, rest⟩, hkey, hmore⟩
    dsimp only at hmore
    split at hmore
    · next after =>
        rcases Except.bind_error.mp hmore with hvalue | ⟨v, _, hmore⟩
        · exact ⟨k, after, hkey, hvalue⟩
        · cases hmore
    · cases hmore
  · rintro ⟨k, after, hkey, hvalue⟩
    refine Except.bind_error.mpr (Or.inr ⟨_, hkey, ?_⟩)
    exact Except.bind_error.mpr (Or.inl hvalue)

/-- A statement is refused for the length of an integer just if it sets a key and its
    value is refused. -/
theorem statement_tooManyDigits_iff {d : Draft} :
    statement d cs = .error (.tooManyDigits e) ↔
      ∃ c rest k after, cs = c :: rest ∧ startsKey c = true ∧
        key (c :: rest) = .ok (k, '=' :: after) ∧
        readValue (skipBlanks after) = .error (.tooManyDigits e) := by
  constructor
  · intro h
    unfold statement at h
    split at h
    · cases h
    · exact absurd h ((tableHead_leaves _ _).ne_tooManyDigits e)
    · cases h
    · next c rest _ _ =>
        split at h
        · next hstart =>
            -- Placing what has been set can be malformed, but only its value can be too long.
            rcases Except.bind_error.mp h with hset | ⟨⟨⟨k, v⟩, after⟩, _, hmore⟩
            · rcases keyValue_tooManyDigits_iff.mp hset with ⟨k, after, hkey, hvalue⟩
              exact ⟨c, rest, k, after, rfl, hstart, hkey, hvalue⟩
            · rcases (placed_leaves [] _ _).bind_tooManyDigits.mp hmore with ⟨_, _, hmore⟩
              cases hmore
        · cases h
  · rintro ⟨c, rest, k, after, rfl, hstart, hkey, hvalue⟩
    unfold statement
    split
    · next hnil => cases hnil
    · next hhead =>
        rw [(List.cons.inj hhead).1] at hstart
        cases hstart
    · next hcomment =>
        rw [(List.cons.inj hcomment).1] at hstart
        cases hstart
    · next hcs =>
        rw [← hcs, if_pos (by rw [← (List.cons.inj hcs).1]; exact hstart)]
        refine Except.bind_error.mpr (Or.inl ?_)
        exact keyValue_tooManyDigits_iff.mpr ⟨k, after, hkey, hvalue⟩

namespace Stage

theorem lines_refuses_iff {d : Draft} :
    (lines d cs).Refuses e ↔ ∃ y, (lines d cs).Leads y ∧ y.Refuses e := by
  constructor
  · intro h
    cases hline : skipBlanks cs with
    | nil =>
        rw [Refuses, readLines_of_blank hline] at h
        cases h
    | cons c rest =>
        by_cases hfeed : c = '\n'
        · subst hfeed
          exact ⟨_, .blankLine hline, (readLines_blankLine hline).symm.trans h⟩
        rw [Refuses, readLines_statement hline hfeed] at h
        rcases Except.bind_error.mp h with hstatement | ⟨⟨d', left⟩, hstatement, hmore⟩
        · -- The line sets a key, and its value is refused.
          rcases statement_tooManyDigits_iff.mp hstatement with
            ⟨_, _, k, after, hcs, hstart, hkey, hvalue⟩
          obtain ⟨rfl, rfl⟩ := List.cons.inj hcs
          exact ⟨_, .setting hline hstart hkey, hvalue⟩
        · rcases (skipComment_leaves _).bind_tooManyDigits.mp hmore with ⟨after, hcomment, hmore⟩
          -- Only a line feed leads on from a line.
          split at hmore
          · cases hmore
          · exact ⟨_, .nextLine (hline ▸ hstatement) hcomment, hmore⟩
          · cases hmore
  · rintro ⟨y, hleads, hy⟩
    cases hleads with
    | @setting _ _ rest after c k hline hstart hkey =>
        have hfeed : c ≠ '\n' := by
          rintro rfl
          cases hstart
        refine (readLines_statement hline hfeed).trans (Except.bind_error.mpr (Or.inl ?_))
        exact statement_tooManyDigits_iff.mpr ⟨c, rest, k, after, rfl, hstart, hkey, hy⟩
    | blankLine hline => exact (readLines_blankLine hline).trans hy
    | nextLine hstatement hend =>
        cases hline : skipBlanks cs with
        | nil =>
            rw [hline] at hstatement
            cases hstatement
            cases hend
        | cons c rest =>
            rw [hline] at hstatement
            have hfeed : c ≠ '\n' := by
              rintro rfl
              cases hstatement
            refine (readLines_statement hline hfeed).trans ?_
            rw [hstatement]
            show (skipComment (skipBlanks _) >>= _) = _
            rw [hend]
            exact hy

theorem items_refuses_iff : (items cs).Refuses e ↔ ∃ y, (items cs).Leads y ∧ y.Refuses e := by
  constructor
  · intro h
    rcases Except.bind_error.mp (show (readValue cs >>= _) = _ from h) with
      hvalue | ⟨⟨v, rest⟩, hvalue, hmore⟩
    · exact ⟨_, .item, hvalue⟩
    -- Otherwise the first item has been read, and it is further ones that are refused.
    rcases (skipSpace_leaves _ _).bind_tooManyDigits.mp hmore with ⟨after, hspace, hmore⟩
    split at hmore
    · cases hmore
    · next after =>
        rcases (skipSpace_leaves _ _).bind_tooManyDigits.mp hmore with ⟨next, hspace', hmore⟩
        split at hmore
        · cases hmore
        · next hopen =>
            have hitems := readItems_next hvalue hspace hspace' (head?_ne_of_not_cons hopen)
            have hnext := Except.map_error.mp (hitems.symm.trans h)
            exact ⟨_, .nextItem hvalue hspace hspace' (head?_ne_of_not_cons hopen), hnext⟩
    · cases hmore
  · rintro ⟨y, hleads, hy⟩
    cases hleads with
    | item =>
        show (readValue cs >>= _) = _
        rw [show readValue cs = _ from hy]
        rfl
    | nextItem hvalue hcomma hspace hopen =>
        exact (readItems_next hvalue hcomma hspace hopen).trans (Except.map_error.mpr hy)

theorem members_refuses_iff {marks : Marks} {t : Table} :
    (members marks t cs).Refuses e ↔ ∃ y, (members marks t cs).Leads y ∧ y.Refuses e := by
  constructor
  · intro h
    rcases (key_leaves cs).bind_tooManyDigits.mp (show (key cs >>= _) = _ from h) with
      ⟨⟨k, rest⟩, hkey, hmore⟩
    dsimp only at hmore
    split at hmore
    · rw [Refuses, readMembers_member hkey] at h
      rcases Except.bind_error.mp h with hvalue | ⟨⟨v, after⟩, hvalue, hmore⟩
      · exact ⟨_, .member hkey, hvalue⟩
      -- Otherwise the first member has been added, and it is further ones.
      rcases (placed_leaves [] _ _).bind_tooManyDigits.mp hmore with ⟨t', hadd, hmore⟩
      split at hmore
      · cases hmore
      · next hcomma => exact ⟨_, .nextMember hkey hvalue (placed_ok.mp hadd) hcomma, hmore⟩
      · cases hmore
    · cases hmore
  · rintro ⟨y, hleads, hy⟩
    cases hleads with
    | member hkey =>
        exact (readMembers_member hkey).trans (Except.bind_error.mpr (Or.inl hy))
    | nextMember hkey hvalue hadd hcomma =>
        exact (readMembers_next hkey hvalue hadd hcomma).trans hy

theorem value_refuses_iff :
    (value cs).Refuses e ↔ LongInteger e.count cs ∨ ∃ y, (value cs).Leads y ∧ y.Refuses e := by
  constructor
  · intro h
    have hsteps : Toml.value (2 * cs.length + 1) cs = .error (.tooManyDigits e) := h
    unfold Toml.value at hsteps
    -- Strings are only refused as malformed, and Booleans never.
    split at hsteps
    · next r hstring =>
        exact absurd (Except.map_error.mp hsteps) ((stringValue_leaves hstring).ne_tooManyDigits e)
    · split at hsteps
      · cases hsteps
      · cases hsteps
      · next rest _ =>
          right
          rcases (skipSpace_leaves _ _).bind_tooManyDigits.mp hsteps with ⟨after, hspace, hmore⟩
          split at hmore
          · cases hmore
          · next hopen =>
              have hlist := readValue_list hspace (head?_ne_of_not_cons hopen)
              exact ⟨_, .list hspace (head?_ne_of_not_cons hopen),
                Except.map_error.mp (hlist.symm.trans h)⟩
      · next rest _ =>
          right
          split at hsteps
          · cases hsteps
          · next hopen =>
              have htable := readValue_table (head?_ne_of_not_cons hopen)
              exact ⟨_, .table (head?_ne_of_not_cons hopen),
                Except.map_error.mp (htable.symm.trans h)⟩
      · exact Or.inl (scalar_tooManyDigits_iff.mp hsteps)
  · rintro (hlong | ⟨y, hleads, hy⟩)
    · show Toml.value (2 * cs.length + 1) cs = _
      unfold Toml.value
      rw [hlong.stringValue_eq_none]
      -- No other kind of value starts with a sign or a digit.
      split
      · cases ‹none = some _›
      · split
        · exact absurd hlong (LongInteger.not_cons (by decide) (by decide) (by decide))
        · exact absurd hlong (LongInteger.not_cons (by decide) (by decide) (by decide))
        · exact absurd hlong (LongInteger.not_cons (by decide) (by decide) (by decide))
        · exact absurd hlong (LongInteger.not_cons (by decide) (by decide) (by decide))
        · exact scalar_tooManyDigits_iff.mpr hlong
    · cases hleads with
      | list hspace hopen => exact (readValue_list hspace hopen).trans (Except.map_error.mpr hy)
      | table hopen => exact (readValue_table hopen).trans (Except.map_error.mpr hy)

/-- A stage is refused for the length of an integer just if it is the reading of such
    an integer, or a stage that it leads to is refused. -/
theorem step_refuses_iff (x : Stage) :
    x.Refuses e ↔
      (∃ cs, x = value cs ∧ LongInteger e.count cs) ∨ ∃ y, x.Leads y ∧ y.Refuses e := by
  cases x with
  | value cs =>
      rw [value_refuses_iff]
      constructor
      · rintro (hlong | hnext)
        · exact Or.inl ⟨cs, rfl, hlong⟩
        · exact Or.inr hnext
      · rintro (⟨cs', hcs, hlong⟩ | hnext)
        · cases hcs
          exact Or.inl hlong
        · exact Or.inr hnext
  | lines d cs =>
      rw [lines_refuses_iff]
      exact ⟨Or.inr, fun h => h.resolve_left nofun⟩
  | items cs =>
      rw [items_refuses_iff]
      exact ⟨Or.inr, fun h => h.resolve_left nofun⟩
  | members marks t cs =>
      rw [members_refuses_iff]
      exact ⟨Or.inr, fun h => h.resolve_left nofun⟩

/-- A stage is refused for the length of an integer just if it comes to such an
    integer. -/
theorem refuses_iff (x : Stage) :
    x.Refuses e ↔ ∃ cs, x.ComesTo cs ∧ LongInteger e.count cs := by
  constructor
  · intro h
    -- Every step leaves less to read.
    generalize hsize : x.size = n
    induction n using Nat.strongRecOn generalizing x with
    | ind n ih =>
        rcases (step_refuses_iff x).mp h with ⟨cs, rfl, hlong⟩ | ⟨y, hleads, hy⟩
        · exact ⟨cs, .here cs, hlong⟩
        · have hlt : y.size < n := hsize ▸ hleads.shortens.2
          rcases ih y.size hlt y hy rfl with ⟨cs, hcomes, hlong⟩
          exact ⟨cs, .step hleads hcomes, hlong⟩
  · rintro ⟨cs, hcomes, hlong⟩
    induction hcomes with
    | here cs => exact (step_refuses_iff _).mpr (Or.inl ⟨cs, rfl, hlong⟩)
    | step hleads _ ih => exact (step_refuses_iff _).mpr (Or.inr ⟨_, hleads, ih hlong⟩)

end Stage

/-- A document comes to a value: a text whose lines end in single line feeds does. -/
def Reaches (text cs : List Char) : Prop :=
  (Stage.lines {} (withFeeds text)).ComesTo cs

/-- A document comes to values that it holds. -/
theorem Reaches.suffix {text cs : List Char} (h : Reaches text cs) : cs <:+ withFeeds text :=
  Stage.ComesTo.suffix h

theorem withFeeds_sublist (cs : List Char) : (withFeeds cs).Sublist cs := by
  fun_induction withFeeds cs with
  | case1 cs ih => exact .cons _ (.cons_cons _ ih)
  | case2 c cs _ ih => exact .cons_cons _ ih
  | case3 => exact .slnil

/-- What a document comes to has no more characters of a kind than the document. -/
theorem Reaches.countP_le {text cs : List Char} (h : Reaches text cs) (kind : Char → Bool) :
    cs.countP kind ≤ text.countP kind :=
  (h.suffix.sublist.trans (withFeeds_sublist text)).countP_le

/-- A document is refused for the length of an integer just if it comes to such an
    integer. -/
theorem parse_tooManyDigits_iff {text : List Char} :
    parse text = .error (.tooManyDigits e) ↔ ∃ cs, Reaches text cs ∧ LongInteger e.count cs := by
  refine Iff.trans ?_ (Stage.refuses_iff _)
  constructor
  · intro h
    rcases Except.bind_error.mp h with hlines | ⟨d, _, hmore⟩
    · exact hlines
    · cases hmore
  · intro h
    exact Except.bind_error.mpr (Or.inl h)

end Refusals

end Toml

end NamePatterns
