import NamePatterns.Config.Defaults
import NamePatterns.Proofs.Text.Words
import NamePatterns.Proofs.Toml.Bounds

/-!
# Writing TOML Documents

TOML documents that set one option, read again.

Any text can be written as a string: quotes, backslashes and the controls that
may not stand in a string are escaped. A list of texts is written with commas
between them. The document opens the table of the options and sets one of them,
and is read as the tables that lead to it.

A document is read statement by statement, so its reading is put together from
three equations: the head of the table (`statement_head`), the line of the
option (`statement_option`) and the value on it (`readValue_quoted`,
`readValue_quotedList`). The equation of the line holds for any value whose text
is read as that value, so texts and lists share it. Nothing that is written is a
return (`escaped_allowed`), and so the ends of lines are as they were.

## Main definitions

* `Toml.quoted`, `Toml.quotedList`: A text as a string, and texts as a list.
* `Toml.optionText`: The document that sets an option.
* `Toml.optionTable`: What it is read as.

## Theorems

* `Toml.hexChar_hex`: A control is read back from its number.
* `Toml.escaped_cases`: What is written for a character.
* `Toml.basicRest_escaped`: A character is read back from what is written for
  it.
* `Toml.readValue_quoted`: A text is read back from its string.
* `Toml.readValue_quotedList`: Texts are read back from their list.
* `Toml.statement_head`, `Toml.statement_option`: The two lines of a document.
* `Toml.parse_optionText`: What the document is read as.
* `Toml.parse_text`, `Toml.parse_list`: The same for texts and for lists of texts.
-/

namespace NamePatterns

namespace Toml

/-- A character inside a string. -/
def escaped (c : Char) : List Char :=
  if c = '"' || c = '\\' then ['\\', c]
  else if isForbidden false c then '\\' :: 'u' :: Text.hex 4 c.toNat
  else [c]

/-- A text as a string. -/
def quoted (s : String) : List Char :=
  '"' :: s.toList.flatMap escaped ++ ['"']

/-- Texts as a list. -/
def quotedList (ss : List String) : List Char :=
  '[' :: [',', ' '].intercalate (ss.map quoted) ++ [']']

section Strings

variable {rest : List Char}

theorem hexChar_hex {n : Nat} (h : n < 128) (rest : List Char) :
    hexChar 4 (Text.hex 4 n ++ rest) = .ok (Char.ofNat n, rest) := by
  -- Only numbers of controls are written, so they are computed once and for all.
  have hall : ∀ n < 128, (Text.hex 4 n).length = 4 ∧
      ((Text.hex 4 n).filterMap Text.hexValue?).length = 4 ∧
      ((Text.hex 4 n).filterMap Text.hexValue?).foldl (fun n d => n * 16 + d) 0 = n := by
    decide +kernel
  obtain ⟨hlength, hvalues, hvalue⟩ := hall n h
  unfold hexChar
  rw [List.take_left' hlength, List.drop_left' hlength]
  dsimp only
  rw [hvalues, hvalue, if_neg (by decide), if_pos (by simp; omega)]

theorem lt_of_isForbidden {c : Char} (h : isForbidden false c = true) : c.toNat < 128 := by
  simp only [isForbidden, Bool.and_eq_true, Bool.or_eq_true, decide_eq_true_eq] at h
  omega

/-- A character is escaped in one of two ways, or stands for itself. -/
theorem escaped_cases (c : Char) :
    (c = '"' ∨ c = '\\') ∧ escaped c = ['\\', c] ∨
      c.toNat < 128 ∧ escaped c = '\\' :: 'u' :: Text.hex 4 c.toNat ∨
      (c ≠ '"' ∧ c ≠ '\\') ∧ isForbidden false c = false ∧ escaped c = [c] := by
  unfold escaped
  by_cases hsign : c = '"' ∨ c = '\\'
  · exact Or.inl ⟨hsign, by simp [hsign]⟩
  · rw [not_or] at hsign
    cases hforbidden : isForbidden false c with
    | true => exact Or.inr (Or.inl ⟨lt_of_isForbidden hforbidden, by simp [hsign]⟩)
    | false => exact Or.inr (Or.inr ⟨hsign, rfl, by simp [hsign]⟩)

/-- A character is read back from what is written for it. -/
theorem basicRest_escaped (fuel : Nat) (c : Char) (rest : List Char) :
    basicRest false (fuel + 1) (escaped c ++ rest)
      = (basicRest false fuel rest).map fun read => (c :: read.1, read.2) := by
  rcases escaped_cases c with ⟨rfl | rfl, heq⟩ | ⟨hsmall, heq⟩ | ⟨⟨hquote, hback⟩, hfree, heq⟩
  · rw [heq]
    show (basicRest false fuel rest >>= _) = _
    cases basicRest false fuel rest <;> rfl
  · rw [heq]
    show (basicRest false fuel rest >>= _) = _
    cases basicRest false fuel rest <;> rfl
  · rw [heq]
    show ((hexChar 4 (Text.hex 4 c.toNat ++ rest)).map (fun read => ([read.1], read.2))
      >>= _) = _
    rw [hexChar_hex hsmall, Char.ofNat_toNat]
    show (basicRest false fuel rest >>= _) = _
    cases basicRest false fuel rest <;> rfl
  -- A character that stands for itself is none that the reader knows by its sign.
  · rw [heq, List.singleton_append, basicRest]
    · rw [hfree]
      rfl
    · exact hquote
    · exact hback

theorem basicRest_quoted (s : List Char) {fuel : Nat} (h : s.length < fuel) (rest : List Char) :
    basicRest false fuel (s.flatMap escaped ++ '"' :: rest) = .ok (s, rest) := by
  induction s generalizing fuel with
  | nil =>
      cases fuel with
      | zero => exact absurd h (Nat.not_lt_zero _)
      | succ fuel => rfl
  | cons c s ih =>
      cases fuel with
      | zero => exact absurd h (Nat.not_lt_zero _)
      | succ fuel =>
          rw [List.flatMap_cons, List.append_assoc, basicRest_escaped,
            ih (Nat.lt_of_succ_lt_succ h)]
          rfl

theorem escaped_ne_nil (c : Char) : escaped c ≠ [] := by
  rcases escaped_cases c with ⟨_, heq⟩ | ⟨_, heq⟩ | ⟨_, _, heq⟩ <;>
    (rw [heq]; exact List.cons_ne_nil _ _)

theorem length_le_flatMap_escaped (s : List Char) : s.length ≤ (s.flatMap escaped).length := by
  induction s with
  | nil => exact Nat.le_refl _
  | cons c s ih =>
      have hpos := List.length_pos_iff.mpr (escaped_ne_nil c)
      rw [List.flatMap_cons, List.length_append, List.length_cons]
      omega

/-- What is written for a character starts with no quote. -/
theorem head?_escaped (c : Char) (rest : List Char) : (escaped c ++ rest).head? ≠ some '"' := by
  rcases escaped_cases c with ⟨_, heq⟩ | ⟨_, heq⟩ | ⟨⟨hquote, _⟩, _, heq⟩
  · rw [heq]
    simp
  · rw [heq]
    simp
  · rw [heq]
    simpa using hquote

/-- A single quote starts a string on one line. -/
theorem stringValue_of_head? {cs : List Char} (h : cs.head? ≠ some '"') :
    stringValue ('"' :: cs) = some (basicString cs) := by
  cases cs with
  | nil => rfl
  | cons c cs =>
      have hquote : c ≠ '"' := fun heq => h (congrArg some heq)
      -- Three quotes would start a string of several lines, so it is the second character that
      -- counts.
      unfold stringValue
      split
      · next heq => exact absurd (List.cons.inj (List.cons.inj heq).2).1 hquote
      · next heq => rw [(List.cons.inj heq).2]
      · next heq => cases heq
      · next heq => cases heq
      · next hnone _ _ => exact absurd rfl (hnone _)

/-- A text that is not empty is read back from its string. -/
theorem readValue_quoted {s : String} (h : s ≠ "") (rest : List Char) :
    readValue (quoted s ++ rest) = .ok (.text s, rest) := by
  have hstring : basicString (s.toList.flatMap escaped ++ '"' :: rest) = .ok (s.toList, rest) := by
    refine basicRest_quoted s.toList ?_ rest
    have hle := length_le_flatMap_escaped s.toList
    rw [List.length_append]
    omega
  have hshape : quoted s ++ rest = '"' :: (s.toList.flatMap escaped ++ '"' :: rest) := by
    simp [quoted]
  -- A text that starts with a quote as well would start a string of several lines.
  have hhead : (s.toList.flatMap escaped ++ '"' :: rest).head? ≠ some '"' := by
    obtain ⟨c, cs, hs⟩ := List.exists_cons_of_ne_nil fun hnil => h (String.toList_inj.mp hnil)
    rw [hs, List.flatMap_cons, List.append_assoc]
    exact head?_escaped c _
  rw [hshape]
  show value (_ + 1) _ = _
  unfold value
  rw [stringValue_of_head? hhead, hstring]
  show Except.ok (Value.text (String.ofList s.toList), rest) = _
  rw [String.ofList_toList]

end Strings

section Lists

variable {cs rest after : List Char} {v : Value}

/-- The items of a list end with a bracket. -/
theorem readItems_last (hvalue : readValue cs = .ok (v, rest))
    (hend : skipSpace false rest = .ok (']' :: after)) : readItems cs = .ok ([v], after) := by
  have hsteps : readItems cs = items (valueBound cs + 1) cs := rfl
  rw [hsteps]
  unfold items
  show (readValue cs >>= _) = _
  rw [hvalue]
  show (skipSpace false rest >>= _) = _
  rw [hend]
  rfl

/-- The first item starts with its quote. -/
theorem items_start {ss : List String} (hne : ss ≠ []) (rest : List Char) :
    ∃ next, [',', ' '].intercalate (ss.map quoted) ++ rest = '"' :: next := by
  obtain ⟨s, ss, rfl⟩ := List.exists_cons_of_ne_nil hne
  cases ss with
  | nil =>
      rw [List.map_singleton, List.intercalate_singleton]
      exact ⟨_, rfl⟩
  | cons t ss =>
      rw [List.map_cons, List.map_cons, List.intercalate_cons_cons]
      exact ⟨_, rfl⟩

theorem readItems_quoted {ss : List String} (hne : ss ≠ []) (h : ∀ s ∈ ss, s ≠ "")
    (rest : List Char) :
    readItems ([',', ' '].intercalate (ss.map quoted) ++ ']' :: rest)
      = .ok (ss.map .text, rest) := by
  induction ss with
  | nil => exact absurd rfl hne
  | cons s ss ih =>
      have hs := h s List.mem_cons_self
      cases ss with
      | nil =>
          rw [List.map_singleton, List.intercalate_singleton]
          exact readItems_last (readValue_quoted hs (']' :: rest)) rfl
      | cons t ss =>
          have hrest := ih (List.cons_ne_nil t ss) fun u hu => h u (List.mem_cons_of_mem s hu)
          obtain ⟨next, hnext⟩ := items_start (List.cons_ne_nil t ss) (']' :: rest)
          rw [hnext] at hrest
          have hsplit : [',', ' '].intercalate ((s :: t :: ss).map quoted) ++ ']' :: rest
              = quoted s ++ ',' :: ' ' :: '"' :: next := by
            rw [← hnext, List.map_cons, List.map_cons, List.intercalate_cons_cons]
            simp
          -- The blank behind the comma is skipped, and the next item starts with its quote.
          rw [hsplit, readItems_next (readValue_quoted hs _) rfl rfl (by simp), hrest]
          rfl

/-- Texts that are not empty are read back from their list. -/
theorem readValue_quotedList {ss : List String} (hne : ss ≠ []) (h : ∀ s ∈ ss, s ≠ "")
    (rest : List Char) :
    readValue (quotedList ss ++ rest) = .ok (.list (ss.map .text), rest) := by
  have hitems := readItems_quoted hne h rest
  obtain ⟨next, hnext⟩ := items_start hne (']' :: rest)
  have hshape : quotedList ss ++ rest = '[' :: '"' :: next := by
    rw [← hnext]
    simp [quotedList]
  have hspace : skipSpace false ('"' :: next) = .ok ('"' :: next) := rfl
  rw [hnext] at hitems
  rw [hshape, readValue_list hspace (by simp), hitems]
  rfl

end Lists

/-- The document that sets an option to a value that is written in some way. -/
def optionText (kind : NameKind) (written : List Char) : List Char :=
  "[tool.pytest.ini_options]".toList
    ++ '\n' :: (kind.key.toList ++ ' ' :: '=' :: ' ' :: (written ++ ['\n']))

/-- The tables that lead to an option with a value. -/
def optionTable (kind : NameKind) (v : Value) : Table :=
  [("tool", .table [("pytest", .table [("ini_options", .table [(kind.key, v)])])])]

theorem withFeeds_of_not_mem {cs : List Char} (h : '\r' ∉ cs) : withFeeds cs = cs := by
  induction cs with
  | nil => rfl
  | cons c cs ih =>
      have hc : c ≠ '\r' := fun heq => h (heq ▸ List.mem_cons_self)
      rw [withFeeds, ih fun hmem => h (List.mem_cons_of_mem c hmem)]
      rintro _ rfl
      exact absurd rfl hc

/-- The draft of a document that has opened the table of the options. -/
def optionsOpened : Draft :=
  ⟨[("tool", .table [("pytest", .table [("ini_options", .table [])])])],
    (({} : Marks).declare tomlTable), tomlTable⟩

theorem statement_head (rest : List Char) :
    statement {} ("[tool.pytest.ini_options]".toList ++ rest) = .ok (optionsOpened, rest) :=
  rfl

theorem setKey_option (kind : NameKind) (v : Value) :
    ∃ marks, optionsOpened.setKey [kind.key] v = .ok ⟨optionTable kind v, marks, tomlTable⟩ := by
  cases kind <;> exact ⟨_, rfl⟩

/-- A line that sets an option to a value. -/
theorem statement_option (kind : NameKind) {written rest : List Char} {v : Value}
    (hblank : skipBlanks (written ++ rest) = written ++ rest)
    (hvalue : readValue (written ++ rest) = .ok (v, rest)) :
    ∃ marks, statement optionsOpened (kind.key.toList ++ ' ' :: '=' :: ' ' :: (written ++ rest))
      = .ok (⟨optionTable kind v, marks, tomlTable⟩, rest) := by
  obtain ⟨marks, hset⟩ := setKey_option kind v
  -- The name of an option is a bare key, which ends at the blank.
  have hkey : key (kind.key.toList ++ ' ' :: '=' :: ' ' :: (written ++ rest))
      = .ok ([kind.key], '=' :: ' ' :: (written ++ rest)) := by
    cases kind <;> rfl
  have hkeyValue : keyValue (kind.key.toList ++ ' ' :: '=' :: ' ' :: (written ++ rest))
      = .ok (([kind.key], v), rest) := by
    have hskip : skipBlanks (' ' :: (written ++ rest)) = written ++ rest := hblank
    unfold keyValue
    rw [hkey, Except.ok_bind]
    show (value (valueBound (skipBlanks (' ' :: (written ++ rest))))
      (skipBlanks (' ' :: (written ++ rest))) >>= _) = _
    rw [hskip, value_eq_readValue (Nat.le_refl _), hvalue]
    rfl
  have hstatement : statement optionsOpened
      (kind.key.toList ++ ' ' :: '=' :: ' ' :: (written ++ rest))
      = keyValue (kind.key.toList ++ ' ' :: '=' :: ' ' :: (written ++ rest)) >>= fun entry => do
        return (← placed entry.2 (optionsOpened.setKey entry.1.1 entry.1.2), entry.2) := by
    cases kind <;> rfl
  refine ⟨marks, ?_⟩
  rw [hstatement, hkeyValue, Except.ok_bind]
  dsimp only
  rw [hset]
  rfl

/-- A statement ends with its line. -/
theorem readLines_line {d d' : Draft} {cs rest : List Char} {c : Char} (hc : isBlank c = false)
    (hfeed : c ≠ '\n') (h : statement d (c :: cs) = .ok (d', '\n' :: rest)) :
    readLines d (c :: cs) = readLines d' rest := by
  have hline : skipBlanks (c :: cs) = c :: cs := by
    rw [skipBlanks, List.dropWhile_cons, hc]
    rfl
  rw [readLines_statement hline hfeed, h]
  rfl

/-- The document that sets an option is read as the tables that lead to it. -/
theorem parse_optionText (kind : NameKind) {written : List Char} {v : Value}
    (hreturn : '\r' ∉ written) (hblank : skipBlanks (written ++ ['\n']) = written ++ ['\n'])
    (hvalue : readValue (written ++ ['\n']) = .ok (v, ['\n'])) :
    parse (optionText kind written) = .ok (optionTable kind v) := by
  obtain ⟨marks, hstatement⟩ := statement_option kind hblank hvalue
  -- No return is in the head, in the name of the option or in what is written.
  have hfeeds : withFeeds (optionText kind written) = optionText kind written := by
    have hhead : '\r' ∉ "[tool.pytest.ini_options]".toList := by decide +kernel
    have hkey : '\r' ∉ kind.key.toList := by cases kind <;> decide +kernel
    refine withFeeds_of_not_mem fun hmem => ?_
    rcases List.mem_append.mp hmem with hmem | hmem
    · exact hhead hmem
    · have hrest := List.mem_of_ne_of_mem (by decide) hmem
      rcases List.mem_append.mp hrest with hmem | hmem
      · exact hkey hmem
      · have hwritten := List.mem_of_ne_of_mem (by decide) <| List.mem_of_ne_of_mem (by decide) <|
          List.mem_of_ne_of_mem (by decide) hmem
        rcases List.mem_append.mp hwritten with hmem | hmem
        · exact hreturn hmem
        · exact absurd (List.mem_singleton.mp hmem) (by decide)
  have hhead : readLines {} (optionText kind written)
      = readLines optionsOpened (kind.key.toList ++ ' ' :: '=' :: ' ' :: (written ++ ['\n'])) :=
    readLines_line (by decide) (by decide) (statement_head _)
  have hoption : readLines optionsOpened
      (kind.key.toList ++ ' ' :: '=' :: ' ' :: (written ++ ['\n']))
      = readLines ⟨optionTable kind v, marks, tomlTable⟩ [] := by
    -- The names of all options start with the same letter, so the line is no blank one.
    obtain ⟨cs, hstart⟩ : ∃ cs, kind.key.toList ++ ' ' :: '=' :: ' ' :: (written ++ ['\n'])
        = 'p' :: cs := by
      cases kind <;> exact ⟨_, rfl⟩
    rw [hstart] at hstatement ⊢
    exact readLines_line (by decide) (by decide) hstatement
  unfold parse
  rw [hfeeds]
  show (readLines {} (optionText kind written)).map Draft.tables = _
  rw [hhead, hoption, readLines_of_blank rfl]
  rfl

section Written

variable {c : Char}

theorem escaped_allowed (c : Char) : ∀ d ∈ escaped c, isForbidden false d = false := by
  have hhex : ∀ n < 128, (Text.hex 4 n).any (isForbidden false) = false := by decide +kernel
  intro d hd
  rcases escaped_cases c with ⟨hsign, heq⟩ | ⟨hsmall, heq⟩ | ⟨_, hfree, heq⟩
  · rw [heq] at hd
    rcases List.mem_cons.mp hd with rfl | hd
    · decide
    · rw [List.mem_singleton.mp hd]
      rcases hsign with rfl | rfl <;> decide
  · rw [heq] at hd
    rcases List.mem_cons.mp hd with rfl | hd
    · decide
    · rcases List.mem_cons.mp hd with rfl | hd
      · decide
      · exact Text.any_eq_false.mp (hhex _ hsmall) d hd
  · rw [heq] at hd
    rw [List.mem_singleton.mp hd]
    exact hfree

theorem quoted_allowed {s : String} (hc : c ∈ quoted s) : isForbidden false c = false := by
  rcases List.mem_append.mp hc with hc | hc
  · rcases List.mem_cons.mp hc with rfl | hc
    · decide
    · obtain ⟨d, _, hd⟩ := List.mem_flatMap.mp hc
      exact escaped_allowed d c hd
  · rw [List.mem_singleton.mp hc]
    decide

theorem quotedList_allowed {ss : List String} (hc : c ∈ quotedList ss) :
    isForbidden false c = false := by
  rcases List.mem_append.mp hc with hc | hc
  · rcases List.mem_cons.mp hc with rfl | hc
    · decide
    · rcases Text.mem_intercalate hc with hc | ⟨w, hw, hc⟩
      · simp only [List.mem_cons, List.not_mem_nil, or_false] at hc
        rcases hc with rfl | rfl <;> decide
      · obtain ⟨s, _, rfl⟩ := List.mem_map.mp hw
        exact quoted_allowed hc
  · rw [List.mem_singleton.mp hc]
    decide

end Written

/-- The document that sets an option to a text. -/
theorem parse_text (kind : NameKind) {s : String} (h : s ≠ "") :
    parse (optionText kind (quoted s)) = .ok (optionTable kind (.text s)) := by
  have hreturn : '\r' ∉ quoted s := fun hmem => absurd (quoted_allowed hmem) (by decide)
  exact parse_optionText kind hreturn rfl (readValue_quoted h ['\n'])

/-- The document that sets an option to a list of texts. -/
theorem parse_list (kind : NameKind) {ss : List String} (hne : ss ≠ []) (h : ∀ s ∈ ss, s ≠ "") :
    parse (optionText kind (quotedList ss)) = .ok (optionTable kind (.list (ss.map .text))) := by
  have hreturn : '\r' ∉ quotedList ss := fun hmem => absurd (quotedList_allowed hmem) (by decide)
  exact parse_optionText kind hreturn rfl (readValue_quotedList hne h ['\n'])

end Toml

end NamePatterns
