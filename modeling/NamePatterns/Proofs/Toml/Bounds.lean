import NamePatterns.Proofs.Toml.Reading

/-!
# Bounds of TOML Readers

The readers of values never come to the end of their bound.

Values, lists of items, members of tables and lines hold each other, and the
readers of them are bounded. Each of them leaves a shorter text to the next one,
so a bound by the length of the text is enough, and a greater one changes
nothing.

The readers call each other, so a bound is enough for one of them only if it is
enough for those that it calls. The bounds are chosen so that a call never asks
for more than is left: a value is bounded by twice the length of its text, and
items by one more, since they start with a value of the same text. One step of a
reader depends on the bound through its calls alone (`value_congr`,
`items_congr`, `members_congr`), and a single induction goes through the three
readers together (`values_stable`). The equations that follow are those of
readers without a bound.

## Main definitions

* `readValue`, `readItems`, `readMembers`, `readLines`: The readers with a bound
  that is enough.

## Theorems

* `values_stable`, `statements_stable`: A greater bound changes nothing.
* `value_eq_readValue`, `items_eq_readItems`, `members_eq_readMembers`,
  `statements_eq_readLines`: Every bound that is enough is as good.
-/

namespace NamePatterns

namespace Toml

/-- A value. -/
def readValue : Reader Value := fun cs =>
  value (valueBound cs) cs

/-- The items of a list that is not empty, and its end. -/
def readItems : Reader (List Value) := fun cs =>
  items (valueBound cs + 1) cs

/-- The members of an inline table behind those it has already, and its end. -/
def readMembers (marks : Marks) (t : Table) : Reader Table := fun cs =>
  members (valueBound cs + 1) marks t cs

/-- The lines of a document behind those that have been read. -/
def readLines (d : Draft) (cs : List Char) : Except Refusal Draft :=
  statements (cs.length + 1) d cs

section Steps

variable {fuel fuel' : Nat} {cs : List Char}

/-- What a reader leaves behind the first character of a text is shorter. -/
theorem length_lt_of_suffix {c : Char} {rest : List Char} (h : c :: rest <:+ cs) :
    rest.length < cs.length :=
  h.length_le

theorem value_congr
    (hitems : ∀ rest, rest.length < cs.length → items fuel rest = items fuel' rest)
    (hmembers : ∀ rest, rest.length < cs.length → ∀ marks t,
      members fuel marks t rest = members fuel' marks t rest) :
    value (fuel + 1) cs = value (fuel' + 1) cs := by
  unfold value
  split
  · rfl
  · split
    · rfl
    · rfl
    · next rest _ =>
        refine Except.bind_congr fun after hafter => ?_
        -- The bracket is read before the items, so their text is shorter.
        have hspace : after <:+ rest := (skipSpace_leaves false rest).suffix hafter
        split
        · rfl
        · rw [hitems after (Nat.lt_succ_of_le hspace.length_le)]
    · next rest _ =>
        have hblanks := (skipBlanks_suffix rest).length_le
        split
        · rfl
        · rw [hmembers _ (Nat.lt_succ_of_le hblanks)]
    · rfl

theorem items_congr (hvalue : value fuel cs = value fuel' cs)
    (hitems : ∀ rest, rest.length < cs.length → items fuel rest = items fuel' rest) :
    items (fuel + 1) cs = items (fuel' + 1) cs := by
  -- The first item is read from the same text.
  unfold items
  rw [hvalue]
  refine Except.bind_congr fun v hv => ?_
  have hleft : v.2 <:+ cs := (value_leaves fuel' cs).suffix hv
  refine Except.bind_congr fun after hafter => ?_
  have hspace : after <:+ v.2 := (skipSpace_leaves false v.2).suffix hafter
  split
  · rfl
  · next rest =>
      have hrest : rest.length < cs.length := length_lt_of_suffix (hspace.trans hleft)
      refine Except.bind_congr fun next hnext => ?_
      have hspace' : next <:+ rest := (skipSpace_leaves false rest).suffix hnext
      split
      · rfl
      · rw [hitems next (Nat.lt_of_le_of_lt hspace'.length_le hrest)]
  · rfl

theorem members_congr {marks : Marks} {t : Table}
    (hvalue : ∀ rest, rest.length < cs.length → value fuel rest = value fuel' rest)
    (hmembers : ∀ rest, rest.length < cs.length → ∀ marks t,
      members fuel marks t rest = members fuel' marks t rest) :
    members (fuel + 1) marks t cs = members (fuel' + 1) marks t cs := by
  unfold members
  refine Except.bind_congr fun k hk => ?_
  have hkey : k.2 <:+ cs := (key_leaves cs).suffix hk
  dsimp only
  split
  · next rest hequals =>
      -- The equals sign is read before the value, so the value's text is shorter.
      have hrest : rest.length < cs.length := length_lt_of_suffix (hequals ▸ hkey)
      have hblanks := skipBlanks_suffix rest
      rw [hvalue _ (Nat.lt_of_le_of_lt hblanks.length_le hrest)]
      refine Except.bind_congr fun v hv => ?_
      have hleft : v.2 <:+ skipBlanks rest := (value_leaves fuel' _).suffix hv
      refine Except.bind_congr fun t' _ => ?_
      have hafter : skipBlanks v.2 <:+ rest :=
        (skipBlanks_suffix v.2).trans (hleft.trans hblanks)
      split
      · rfl
      · next rest' hcomma =>
          have hrest' : rest'.length < rest.length := length_lt_of_suffix (hcomma ▸ hafter)
          have hnext := (skipBlanks_suffix rest').length_le
          -- Further members come behind a comma.
          exact hmembers _ (by omega) _ _
      · rfl
  · rfl

end Steps

/-- Bounds that are enough for a text lead to the same values, items and members. -/
theorem values_stable (fuel fuel' : Nat) :
    (∀ cs, valueBound cs ≤ fuel → valueBound cs ≤ fuel' → value fuel cs = value fuel' cs) ∧
    (∀ cs, valueBound cs + 1 ≤ fuel → valueBound cs + 1 ≤ fuel' →
      items fuel cs = items fuel' cs) ∧
    ∀ cs, valueBound cs + 1 ≤ fuel → valueBound cs + 1 ≤ fuel' → ∀ marks t,
      members fuel marks t cs = members fuel' marks t cs := by
  unfold valueBound
  induction fuel generalizing fuel' with
  | zero => exact ⟨fun cs h => by omega, fun cs h => by omega, fun cs h => by omega⟩
  | succ fuel ih =>
      cases fuel' with
      | zero => exact ⟨fun cs _ h => by omega, fun cs _ h => by omega, fun cs _ h => by omega⟩
      | succ fuel' =>
          -- Items start with a value of the same text, and all else is shorter.
          obtain ⟨hvalue, hitems, hmembers⟩ := ih fuel'
          refine ⟨fun cs h h' => ?_, fun cs h h' => ?_, fun cs h h' marks t => ?_⟩
          · exact value_congr (fun rest hlt => hitems rest (by omega) (by omega))
              fun rest hlt => hmembers rest (by omega) (by omega)
          · exact items_congr (hvalue cs (by omega) (by omega))
              fun rest hlt => hitems rest (by omega) (by omega)
          · exact members_congr (fun rest hlt => hvalue rest (by omega) (by omega))
              fun rest hlt => hmembers rest (by omega) (by omega)

/-- Bounds that are enough for a text lead to the same document. -/
theorem statements_stable (fuel fuel' : Nat) (d : Draft) {cs : List Char} (h : cs.length < fuel)
    (h' : cs.length < fuel') : statements fuel d cs = statements fuel' d cs := by
  induction fuel generalizing fuel' d cs with
  | zero => omega
  | succ fuel ih =>
      cases fuel' with
      | zero => omega
      | succ fuel' =>
          have hblanks := skipBlanks_suffix cs
          unfold statements
          split
          · rfl
          · next rest hfeed =>
              have hrest : rest.length < cs.length := length_lt_of_suffix (hfeed ▸ hblanks)
              exact ih fuel' d (by omega) (by omega)
          · refine Except.bind_congr fun r hr => ?_
            have hleft : r.2 <:+ cs := ((statement_leaves d _).suffix hr).trans hblanks
            refine Except.bind_congr fun after hafter => ?_
            have hcomment : after <:+ cs := ((skipComment_leaves _).suffix hafter).trans <|
              (skipBlanks_suffix r.2).trans hleft
            split
            · rfl
            · next rest =>
                have hrest : rest.length < cs.length := length_lt_of_suffix hcomment
                exact ih fuel' r.1 (by omega) (by omega)
            · rfl

section Enough

variable {fuel : Nat} {cs : List Char}

theorem value_eq_readValue (h : valueBound cs ≤ fuel) : value fuel cs = readValue cs :=
  (values_stable _ _).1 cs h (Nat.le_refl _)

theorem items_eq_readItems (h : valueBound cs < fuel) : items fuel cs = readItems cs :=
  (values_stable _ _).2.1 cs h (Nat.le_refl _)

theorem members_eq_readMembers (h : valueBound cs < fuel) (marks : Marks) (t : Table) :
    members fuel marks t cs = readMembers marks t cs :=
  (values_stable _ _).2.2 cs h (Nat.le_refl _) marks t

theorem statements_eq_readLines (h : cs.length < fuel) (d : Draft) :
    statements fuel d cs = readLines d cs :=
  statements_stable _ _ d h (Nat.lt_succ_self _)

theorem readValue_suffix {v : Value × List Char} (h : readValue cs = .ok v) : v.2 <:+ cs :=
  (value_leaves _ cs).suffix h

end Enough

section Equations

variable {cs rest after next : List Char} {v : Value} {k : Key} {marks : Marks} {t t' : Table}
  {d d' : Draft}

/-- A list that is not empty is made of its items. -/
theorem readValue_list (hspace : skipSpace false rest = .ok after)
    (hopen : after.head? ≠ some ']') :
    readValue ('[' :: rest) = (readItems after).map fun (vs, rest) => (.list vs, rest) := by
  have hafter : after <:+ rest := (skipSpace_leaves _ _).suffix hspace
  have hbound : valueBound after < 2 * ('[' :: rest).length := by
    have hle := hafter.length_le
    rw [valueBound, List.length_cons]
    omega
  unfold readValue value
  show (skipSpace false rest >>= _) = _
  rw [hspace, Except.ok_bind]
  split
  · exact absurd rfl hopen
  -- The bound that is left is enough for the items.
  · rw [items_eq_readItems hbound]
    cases readItems after <;> rfl

theorem value_table (fuel : Nat) (rest : List Char) :
    value (fuel + 1) ('\x7b' :: rest) = (do
      match skipBlanks rest with
      | '\x7d' :: rest => return (.table [], rest)
      | rest =>
        let (t, rest) ← members fuel {} [] rest
        return (.table t, rest)) :=
  rfl

/-- An inline table that is not empty is made of its members. -/
theorem readValue_table (hopen : (skipBlanks rest).head? ≠ some '\x7d') :
    readValue ('\x7b' :: rest)
      = (readMembers {} [] (skipBlanks rest)).map fun (t, rest) => (.table t, rest) := by
  have hbound : valueBound (skipBlanks rest) < 2 * ('\x7b' :: rest).length := by
    have hle := (skipBlanks_suffix rest).length_le
    rw [valueBound, List.length_cons]
    omega
  show value (2 * (_ :: rest).length + 1) _ = _
  rw [value_table]
  split
  · next hclosed =>
      rw [hclosed] at hopen
      exact absurd rfl hopen
  · rw [members_eq_readMembers hbound]
    cases readMembers {} [] (skipBlanks rest) <;> rfl

/-- Items go on behind a comma. -/
theorem readItems_next (hvalue : readValue cs = .ok (v, rest))
    (hcomma : skipSpace false rest = .ok (',' :: after))
    (hspace : skipSpace false after = .ok next) (hopen : next.head? ≠ some ']') :
    readItems cs = (readItems next).map fun (vs, rest) => (v :: vs, rest) := by
  have hafter := ((skipSpace_leaves _ _).suffix hcomma).trans (readValue_suffix hvalue)
  have hnext : next <:+ after := (skipSpace_leaves _ _).suffix hspace
  have hbound : valueBound next < valueBound cs := by
    have hlt := length_lt_of_suffix hafter
    have hle := hnext.length_le
    unfold valueBound
    omega
  have hsteps : readItems cs = items (valueBound cs + 1) cs := rfl
  rw [hsteps]
  unfold items
  show (readValue cs >>= _) = _
  rw [hvalue]
  show (skipSpace false rest >>= _) = _
  rw [hcomma]
  show (skipSpace false after >>= _) = _
  rw [hspace, Except.ok_bind]
  split
  · exact absurd rfl hopen
  · rw [items_eq_readItems hbound]
    cases readItems next <;> rfl

/-- The value of a member is read behind its key. -/
theorem readMembers_member (hkey : key cs = .ok (k, '=' :: rest)) :
    readMembers marks t cs = (do
      let (v, after) ← readValue (skipBlanks rest)
      let t ← placed after (addMember marks k v t)
      match skipBlanks after with
      | '\x7d' :: rest => return (t, rest)
      | ',' :: rest => readMembers (marks.lock k v) t (skipBlanks rest)
      | rest => fail rest .unclosedInlineTable) := by
  have hrest : rest.length < cs.length := length_lt_of_suffix ((key_leaves _).suffix hkey)
  have hblanks := (skipBlanks_suffix rest).length_le
  have hbound : valueBound (skipBlanks rest) ≤ valueBound cs := by
    unfold valueBound
    omega
  have hsteps : readMembers marks t cs = members (valueBound cs + 1) marks t cs := rfl
  rw [hsteps]
  unfold members
  rw [hkey]
  show (value (valueBound cs) (skipBlanks rest) >>= _) = _
  rw [value_eq_readValue hbound]
  refine Except.bind_congr fun v hv => Except.bind_congr fun t' _ => ?_
  have hleft : v.2.length ≤ rest.length := Nat.le_trans (readValue_suffix hv).length_le hblanks
  have hafter := (skipBlanks_suffix v.2).length_le
  have hmembers (next : List Char) (hnext : next.length < (skipBlanks v.2).length) :
      members (valueBound cs) (marks.lock k v.1) t' (skipBlanks next)
        = readMembers (marks.lock k v.1) t' (skipBlanks next) := by
    have hshort := (skipBlanks_suffix next).length_le
    refine members_eq_readMembers ?_ _ _
    unfold valueBound
    omega
  -- The two readings differ only in the members behind a comma.
  revert hmembers
  cases skipBlanks v.2 with
  | nil => exact fun _ => rfl
  | cons c next =>
      intro hmembers
      have hgoOn := hmembers next (Nat.lt_succ_self _)
      by_cases hclosed : c = '\x7d'
      · rw [hclosed]
        rfl
      · by_cases hcomma : c = ','
        · rw [hcomma]
          exact hgoOn
        · simp [hclosed, hcomma]

/-- Members go on behind a comma. -/
theorem readMembers_next (hkey : key cs = .ok (k, '=' :: rest))
    (hvalue : readValue (skipBlanks rest) = .ok (v, after))
    (hadd : addMember marks k v t = .ok t') (hcomma : skipBlanks after = ',' :: next) :
    readMembers marks t cs = readMembers (marks.lock k v) t' (skipBlanks next) := by
  rw [readMembers_member hkey, hvalue, Except.ok_bind]
  dsimp only
  rw [hadd, hcomma]
  rfl

/-- Nothing but blanks adds nothing. -/
theorem readLines_of_blank (hline : skipBlanks cs = []) : readLines d cs = .ok d := by
  show statements (cs.length + 1) d cs = _
  unfold statements
  rw [hline]

/-- Lines go on behind a blank one. -/
theorem readLines_blankLine (hline : skipBlanks cs = '\n' :: rest) :
    readLines d cs = readLines d rest := by
  have hrest : rest.length < cs.length := length_lt_of_suffix (hline ▸ skipBlanks_suffix cs)
  show statements (cs.length + 1) d cs = _
  unfold statements
  rw [hline]
  exact statements_eq_readLines hrest d

/-- A line that is not blank holds a statement. -/
theorem readLines_statement {c : Char} (hline : skipBlanks cs = c :: rest) (hfeed : c ≠ '\n') :
    readLines d cs = (do
      let (d, rest) ← statement d (c :: rest)
      match ← skipComment (skipBlanks rest) with
      | [] => return d
      | '\n' :: rest => readLines d rest
      | rest => fail rest .afterStatement) := by
  show statements (cs.length + 1) d cs = _
  unfold statements
  rw [hline]
  split
  · next hnil => cases hnil
  · next hblank => exact absurd (List.cons.inj hblank).1 hfeed
  · refine Except.bind_congr fun r hr => Except.bind_congr fun after hafter => ?_
    have hleft := (hline ▸ (statement_leaves d (c :: rest)).suffix hr).trans (skipBlanks_suffix cs)
    have hcomment := ((skipComment_leaves _).suffix hafter).trans <|
      (skipBlanks_suffix r.2).trans hleft
    -- The two readings differ only in the lines behind a line feed.
    cases after with
    | nil => rfl
    | cons c next =>
        have hnext : next.length < cs.length := length_lt_of_suffix hcomment
        by_cases hend : c = '\n'
        · rw [hend]
          exact statements_eq_readLines hnext r.1
        · simp [hend]

end Equations

end Toml

end NamePatterns
