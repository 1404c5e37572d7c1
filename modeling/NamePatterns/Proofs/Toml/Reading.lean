import NamePatterns.Proofs.Results
import NamePatterns.Toml.Document

/-!
# What TOML Readers Leave

Every reader takes a stretch from the start of a text and leaves the end of it.

Readers that are not for numbers have one more property in common: when they
refuse a text, it is malformed. Both are kept track of together, since a reader
is a row of readers, each of which goes on where the one before has stopped.

The lemmas are one for each reader, and each is proved from those of the readers
it is made of, in the order of the reader's steps: `Leaves.bind` for one reader
after the other, `Leaves.mono` where a reader starts further on, and
`Leaves.ite` for a test. Values, items and members call each other within a
bound, so there is one step lemma for each of them, and one induction on the
bound for all three (`values_leave`).

## Main definitions

* `IsMalformed`, `IsAny`: A refusal of what is malformed, and one of any kind.
* `Leaves`: A reader leaves an end of the text, or refuses it in one of some ways.

## Theorems

* `Leaves.bind`, `Leaves.map`: Readers in a row.
* `Leaves.bind_tooManyDigits`: Which of two readers refuses a number for its length.
* `skipComment_leaves`, `skipSpace_leaves`: What is skipped.
* `escape_leaves`, `basicRest_leaves`, `literalUntil_leaves`: What strings are
  made of.
* `stringValue_leaves`, `temporal?_leaves`, `key_leaves`: Strings, times and keys.
* `digitRun_suffix`, `decimal?_leaves`: Digits, and numbers in base ten.
* `value_succ_leaves`, `items_succ_leaves`, `members_succ_leaves`: One step of
  the readers that call each other.
* `number?_leaves`, `value_leaves`: Numbers and values.
* `tableHead_leaves`, `keyValue_leaves`: The head of a table, and a key with its
  value.
* `statement_leaves`: Statements.
-/

namespace NamePatterns

namespace Toml

/-- A refusal of what is malformed. -/
def IsMalformed (e : Refusal) : Prop :=
  ∃ f, e = .malformed f

/-- A refusal of any kind. -/
def IsAny (_ : Refusal) : Prop :=
  True

/-- The result of a reader leaves an end of the text that was read, or refuses it in
    one of some ways. -/
def Leaves {α : Type} (refuses : Refusal → Prop) (cs : List Char) (left : α → List Char) :
    Except Refusal α → Prop
  | .ok a => left a <:+ cs
  | .error e => refuses e

namespace Leaves

variable {α β : Type} {refuses : Refusal → Prop} {cs ds : List Char} {left : α → List Char}
  {left' : β → List Char} {x y : Except Refusal α}

theorem fail (rest : List Char) (fault : Fault) :
    Leaves IsMalformed cs left (Toml.fail rest fault) :=
  ⟨_, rfl⟩

theorem suffix (h : Leaves refuses cs left x) {a : α} (ha : x = .ok a) : left a <:+ cs := by
  subst ha
  exact h

/-- What leaves an end of an end leaves an end. -/
theorem mono (h : Leaves refuses ds left x) (hsuffix : ds <:+ cs) : Leaves refuses cs left x := by
  cases x with
  | ok a => exact h.trans hsuffix
  | error e => exact h

/-- What only refuses what is malformed does not refuse a number for its length. -/
theorem ne_tooManyDigits (h : Leaves IsMalformed cs left x) (e : Text.TooManyDigits) :
    x ≠ .error (.tooManyDigits e) := by
  rintro rfl
  rcases h with ⟨f, hf⟩
  cases hf

/-- Behind a reader that only refuses what is malformed, it is the next one that refuses a
    number for its length. -/
theorem bind_tooManyDigits (h : Leaves IsMalformed cs left x) {f : α → Except Refusal β}
    {e : Text.TooManyDigits} :
    x >>= f = .error (.tooManyDigits e) ↔ ∃ a, x = .ok a ∧ f a = .error (.tooManyDigits e) := by
  rw [Except.bind_error]
  exact or_iff_right (h.ne_tooManyDigits e)

/-- More may be refused. -/
theorem weaken (h : Leaves IsMalformed cs left x) : Leaves IsAny cs left x := by
  cases x with
  | ok a => exact h
  | error e => trivial

theorem ite {p : Prop} [Decidable p] (hx : p → Leaves refuses cs left x)
    (hy : ¬p → Leaves refuses cs left y) : Leaves refuses cs left (if p then x else y) := by
  by_cases h : p
  · rw [if_pos h]
    exact hx h
  · rw [if_neg h]
    exact hy h

/-- One reader after the other. -/
theorem bind (h : Leaves refuses cs left x) {f : α → Except Refusal β}
    (hf : ∀ a, x = .ok a → left a <:+ cs → Leaves refuses cs left' (f a)) :
    Leaves refuses cs left' (x >>= f) := by
  cases x with
  | ok a => exact hf a rfl h
  | error e => exact h

theorem map (h : Leaves refuses cs left x) {f : α → β} (hf : ∀ a, left' (f a) = left a) :
    Leaves refuses cs left' (x.map f) := by
  cases x with
  | ok a =>
      show left' (f a) <:+ cs
      rw [hf]
      exact h
  | error e => exact h

end Leaves

theorem skipBlanks_suffix (cs : List Char) : skipBlanks cs <:+ cs :=
  List.dropWhile_suffix _

/-- The text behind a character that a suffix starts with. -/
theorem suffix_of_cons {c : Char} {cs ds : List Char} (h : c :: cs <:+ ds) : cs <:+ ds :=
  (List.suffix_cons c cs).trans h

/-- The text behind a character and the blanks that follow it. -/
theorem skipBlanks_of_cons {c : Char} {cs ds : List Char} (h : c :: cs <:+ ds) :
    skipBlanks cs <:+ ds :=
  (skipBlanks_suffix cs).trans (suffix_of_cons h)

section Strings

variable {cs : List Char}

/-- A stretch is gone through to its end, and nothing of it is handed on. -/
theorem checkStretch_leaves (lines : Bool) (stretch rest : List Char) :
    Leaves IsMalformed cs (fun _ => []) (checkStretch lines stretch rest) := by
  induction stretch generalizing rest with
  | nil => exact List.nil_suffix
  | cons c stretch ih => exact .ite (fun _ => .fail _ _) fun _ => ih _

/-- A comment ends where its line does. -/
theorem skipComment_leaves (cs : List Char) : Leaves IsMalformed cs id (skipComment cs) := by
  unfold skipComment
  split
  · next rest =>
      refine (checkStretch_leaves _ _ _).bind fun _ _ _ => ?_
      exact (List.dropWhile_suffix _).trans (List.suffix_cons _ _)
  · exact List.suffix_refl cs

theorem splitAt?_suffix {terminator s rest : List Char}
    (h : splitAt? terminator cs = some (s, rest)) : rest <:+ cs := by
  induction cs generalizing s with
  | nil => cases h
  | cons c cs ih =>
      unfold splitAt? at h
      split at h
      · cases h
        exact List.drop_suffix _ _
      · rcases Option.map_eq_some_iff.mp h with ⟨⟨s', rest'⟩, hrest, heq⟩
        cases heq
        exact (ih hrest).trans (List.suffix_cons _ _)

/-- A literal string ends behind the first quotes that end it, as nothing is escaped in it. -/
theorem literalUntil_leaves (lines : Bool) (terminator cs : List Char) :
    Leaves IsMalformed cs Prod.snd (literalUntil lines terminator cs) := by
  unfold literalUntil
  split
  · exact .fail _ _
  · next s rest hsplit =>
      exact (checkStretch_leaves _ _ _).bind fun _ _ _ => splitAt?_suffix hsplit

/-- A number takes as many digits as its letter says. -/
theorem hexChar_leaves (digits : Nat) (cs : List Char) :
    Leaves IsMalformed cs Prod.snd (hexChar digits cs) := by
  refine .ite (fun _ => .fail _ _) fun _ => ?_
  exact .ite (fun _ => List.drop_suffix _ _) fun _ => .fail _ _

/-- What is escaped ends behind its letter, behind its digits, or behind the space that it
    swallows. -/
theorem escape_leaves (lines : Bool) (cs : List Char) :
    Leaves IsMalformed cs Prod.snd (escape lines cs) := by
  have hhex (digits : Nat) (c : Char) (rest : List Char) :
      Leaves IsMalformed (c :: rest) Prod.snd
        ((hexChar digits rest).map fun r => ([r.1], r.2)) :=
    ((hexChar_leaves digits rest).mono (List.suffix_cons c rest)).map fun _ => rfl
  unfold escape
  split
  case h_8 rest => exact hhex 4 _ rest
  case h_9 rest => exact hhex 8 _ rest
  case h_10 c rest _ _ _ _ _ _ _ _ _ =>
    refine .ite (fun _ => .ite (fun _ => ?_) fun _ => ?_) fun _ => .fail _ _
    · exact (List.dropWhile_suffix _).trans (List.suffix_cons _ _)
    · -- An escaped end of a line may have blanks before it.
      have hblanks := (skipBlanks_suffix rest).trans (List.suffix_cons c rest)
      split
      · exact List.nil_suffix
      · next feed => exact (List.dropWhile_suffix _).trans (suffix_of_cons (feed ▸ hblanks))
      · exact .fail _ _
  case h_11 => exact .fail _ _
  all_goals exact List.suffix_cons _ _

/-- A string ends behind its quotes, whatever is escaped in it. -/
theorem basicRest_leaves (lines : Bool) (fuel : Nat) (cs : List Char) :
    Leaves IsMalformed cs Prod.snd (basicRest lines fuel cs) := by
  fun_induction basicRest lines fuel cs with
  | case1 | case2 => exact .fail _ _
  | case3 => exact List.suffix_cons _ _
  -- Three quotes end a string of several lines.
  | case4 fuel hlines rest => exact ⟨['"', '"', '"'], rfl⟩
  -- A quote in a string of several lines is one of its characters.
  | case5 fuel rest hlines hquotes ih =>
      exact (ih.mono (List.suffix_cons '"' rest)).map fun _ => rfl
  | case6 fuel rest ih =>
      -- The string goes on behind what is escaped.
      refine ((escape_leaves lines rest).mono (List.suffix_cons _ _)).bind fun a _ ha => ?_
      refine ((ih a.2).mono ha).bind fun b _ hb => ?_
      exact hb
  | case7 => exact .fail _ _
  | case8 fuel c rest hquote hbackslash hallowed ih =>
      exact (ih.mono (List.suffix_cons c rest)).map fun _ => rfl

/-- Quotes that belong to a string are taken from its end. -/
theorem trailingQuotes_suffix (q : Char) (s cs : List Char) :
    (trailingQuotes q s cs).2 <:+ cs := by
  unfold trailingQuotes
  split
  · next c d rest =>
      split
      · exact List.suffix_refl _
      · split
        · exact List.suffix_cons _ _
        · exact ⟨[c, d], rfl⟩
  · split
    · exact List.suffix_refl _
    · exact List.nil_suffix
  · exact List.suffix_refl _

theorem skipFeed_suffix (cs : List Char) : skipFeed cs <:+ cs := by
  unfold skipFeed
  split
  · exact List.suffix_cons _ _
  · exact List.suffix_refl _

theorem basicString_leaves (cs : List Char) :
    Leaves IsMalformed cs Prod.snd (basicString cs) :=
  basicRest_leaves _ _ _

theorem literalString_leaves (cs : List Char) :
    Leaves IsMalformed cs Prod.snd (literalString cs) :=
  literalUntil_leaves _ _ _

/-- Strings of all four kinds. -/
theorem stringValue_leaves {r : Except Refusal (List Char × List Char)}
    (h : stringValue cs = some r) : Leaves IsMalformed cs Prod.snd r := by
  unfold stringValue at h
  -- Three quotes, one quote, three apostrophes, one apostrophe.
  split at h
  · next rest =>
      obtain rfl := Option.some.inj h
      have hopened : skipFeed rest <:+ '"' :: '"' :: '"' :: rest :=
        (skipFeed_suffix rest).trans ⟨['"', '"', '"'], rfl⟩
      refine ((basicRest_leaves true _ _).mono hopened).bind fun a _ ha => ?_
      exact (trailingQuotes_suffix _ _ _).trans ha
  · next rest _ =>
      obtain rfl := Option.some.inj h
      exact (basicString_leaves rest).mono (List.suffix_cons _ _)
  · next rest =>
      obtain rfl := Option.some.inj h
      have hopened : skipFeed rest <:+ '\'' :: '\'' :: '\'' :: rest :=
        (skipFeed_suffix rest).trans ⟨['\'', '\'', '\''], rfl⟩
      refine ((literalUntil_leaves true _ _).mono hopened).bind fun a _ ha => ?_
      exact (trailingQuotes_suffix _ _ _).trans ha
  · next rest _ =>
      obtain rfl := Option.some.inj h
      exact (literalString_leaves rest).mono (List.suffix_cons _ _)
  · cases h

end Strings

section Times

variable {cs rest : List Char}

theorem digits?_suffix {count n : Nat} (h : digits? count cs = some (n, rest)) : rest <:+ cs := by
  unfold digits? at h
  dsimp only at h
  split at h
  · cases h
    exact List.drop_suffix _ _
  · cases h

theorem twoDigits?_suffix {low high n : Nat} (h : twoDigits? low high cs = some (n, rest)) :
    rest <:+ cs := by
  rcases Option.bind_eq_some_iff.mp h with ⟨⟨n', rest'⟩, hdigits, hbounds⟩
  dsimp only at hbounds
  split at hbounds
  · cases hbounds
    exact digits?_suffix hdigits
  · cases hbounds

theorem expect?_some {c : Char} (h : expect? c cs = some rest) : cs = c :: rest := by
  cases cs with
  | nil => cases h
  | cons d cs =>
      unfold expect? at h
      dsimp only at h
      by_cases hd : d = c
      · rw [if_pos hd] at h
        rw [hd, Option.some.inj h]
      · rw [if_neg hd] at h
        cases h

theorem expect?_suffix {c : Char} (h : expect? c cs = some rest) : rest <:+ cs := by
  rw [expect?_some h]
  exact List.suffix_cons _ _

/-- A time ends behind its seconds, or behind the digits of their fraction. -/
theorem time?_suffix {t : TimeOfDay} (h : time? cs = some (t, rest)) : rest <:+ cs := by
  rcases Option.bind_eq_some_iff.mp h with ⟨⟨hour, cs₁⟩, h₁, h⟩
  rcases Option.bind_eq_some_iff.mp h with ⟨cs₂, h₂, h⟩
  rcases Option.bind_eq_some_iff.mp h with ⟨⟨minute, cs₃⟩, h₃, h⟩
  rcases Option.bind_eq_some_iff.mp h with ⟨cs₄, h₄, h⟩
  rcases Option.bind_eq_some_iff.mp h with ⟨⟨second, cs₅⟩, h₅, h⟩
  have hseconds : cs₅ <:+ cs :=
    (twoDigits?_suffix h₅).trans <| (expect?_suffix h₄).trans <| (twoDigits?_suffix h₃).trans <|
      (expect?_suffix h₂).trans (twoDigits?_suffix h₁)
  dsimp only at h
  -- A point belongs to the time only if digits follow it.
  split at h
  · next fraction =>
      split at h
      · cases h
        exact hseconds
      · cases h
        exact (List.dropWhile_suffix _).trans (suffix_of_cons hseconds)
  · cases h
    exact hseconds

theorem date?_suffix {d : Date} (h : date? cs = some (d, rest)) : rest <:+ cs := by
  rcases Option.bind_eq_some_iff.mp h with ⟨⟨year, cs₁⟩, h₁, h⟩
  rcases Option.bind_eq_some_iff.mp h with ⟨cs₂, h₂, h⟩
  rcases Option.bind_eq_some_iff.mp h with ⟨⟨month, cs₃⟩, h₃, h⟩
  rcases Option.bind_eq_some_iff.mp h with ⟨cs₄, h₄, h⟩
  rcases Option.bind_eq_some_iff.mp h with ⟨⟨day, cs₅⟩, h₅, h⟩
  cases h
  exact (twoDigits?_suffix h₅).trans <| (expect?_suffix h₄).trans <| (twoDigits?_suffix h₃).trans <|
    (expect?_suffix h₂).trans (digits?_suffix h₁)

/-- A sign belongs to an offset only if hours and minutes follow it. -/
theorem signedOffset_suffix {c : Char} {rest after : List Char} {n : Nat}
    (h : (do
      let (hours, rest) ← twoDigits? 0 23 rest
      let rest ← expect? ':' rest
      let (minutes, rest) ← twoDigits? 0 59 rest
      return (hours * 60 + minutes, rest) : Option (Nat × List Char)) = some (n, after)) :
    after <:+ c :: rest := by
  rcases Option.bind_eq_some_iff.mp h with ⟨⟨hours, cs₁⟩, h₁, h⟩
  rcases Option.bind_eq_some_iff.mp h with ⟨cs₂, h₂, h⟩
  rcases Option.bind_eq_some_iff.mp h with ⟨⟨minutes, cs₃⟩, h₃, h⟩
  cases h
  exact (twoDigits?_suffix h₃).trans <| (expect?_suffix h₂).trans <|
    (twoDigits?_suffix h₁).trans (List.suffix_cons _ _)

theorem offset_suffix (cs : List Char) : (offset cs).2 <:+ cs := by
  unfold offset
  dsimp only
  split
  · exact List.suffix_cons _ _
  · exact List.suffix_cons _ _
  · split
    · next h => exact signedOffset_suffix h
    · exact List.suffix_refl _
  · split
    · next h => exact signedOffset_suffix h
    · exact List.suffix_refl _
  · exact List.suffix_refl _

/-- A date may go on with a time and its offset. One that the calendar does not have is refused. -/
theorem temporal?_leaves {r : Except Refusal (Temporal × List Char)}
    (h : temporal? cs = some r) : Leaves IsMalformed cs Prod.snd r := by
  unfold temporal? at h
  split at h
  · next d rest hdate =>
      have hrest := date?_suffix hdate
      obtain rfl := Option.some.inj h
      refine .ite (fun _ => List.IsSuffix.trans ?_ hrest) fun _ => .fail _ _
      -- A time belongs to the date if a blank or a letter joins them.
      cases rest with
      | nil => exact List.suffix_refl _
      | cons c after =>
          dsimp only
          split
          · split
            · next t left htime =>
                exact (offset_suffix left).trans <|
                  (time?_suffix htime).trans (List.suffix_cons _ _)
            · exact List.suffix_refl _
          · exact List.suffix_refl _
  · rcases Option.map_eq_some_iff.mp h with ⟨⟨t, rest⟩, htime, rfl⟩
    exact time?_suffix htime

end Times

section Numbers

variable {cs rest : List Char}

/-- A separator belongs to a run only if a digit follows it. -/
theorem digitRun_suffix (isDigit : Char → Bool) (cs : List Char) :
    (digitRun isDigit cs).2 <:+ cs := by
  fun_induction digitRun isDigit cs with
  | case1 | case3 | case4 | case5 | case8 => exact List.suffix_refl _
  | case2 => exact List.nil_suffix
  | case6 => exact List.suffix_cons _ _
  -- A separator is read with the digit in front of it.
  | case7 c d cs hc hdigit hnext ds rest hrun ih =>
      rw [hrun] at ih
      exact ih.trans ⟨[c, '_'], rfl⟩
  | case9 c d cs hc hseparated hdigit ds rest hrun ih =>
      rw [hrun] at ih
      exact ih.trans (List.suffix_cons _ _)

theorem based?_suffix {base : Nat} {v : Value} (h : based? base cs = some (v, rest)) :
    rest <:+ cs := by
  have hrun := digitRun_suffix (fun c => (Text.hexValue? c).any (· < base)) cs
  unfold based? at h
  dsimp only at h
  split at h
  · cases h
  · next ds left _ hdigits =>
      cases h
      rwa [hdigits] at hrun

theorem fractionDigits?_suffix {ds : List Char} (h : fractionDigits? cs = some (ds, rest)) :
    rest <:+ cs := by
  unfold fractionDigits? at h
  split at h
  · next after =>
      have hrun := digitRun_suffix Char.isDigit after
      split at h
      · cases h
      · obtain hdigits := Option.some.inj h
        rw [hdigits] at hrun
        exact hrun.trans (List.suffix_cons _ _)
  · cases h

/-- A letter without digits behind it is no power. -/
theorem power?_suffix {n : Int} (h : power? cs = some (n, rest)) : rest <:+ cs := by
  revert h
  fun_cases power? cs with
  | case1 | case3 | case4 => nofun
  | case2 e after _ down unsigned hsign ds left _ hrun =>
      intro h
      cases h
      have hdigits := digitRun_suffix Char.isDigit unsigned
      rw [hrun] at hdigits
      -- A sign may stand before the exponent.
      have hunsigned : unsigned <:+ after := by
        split at hsign
        · cases hsign
          exact List.suffix_cons _ _
        · cases hsign
          exact List.suffix_cons _ _
        · cases hsign
          exact List.suffix_refl _
      exact (hdigits.trans hunsigned).trans (List.suffix_cons _ _)

/-- The digits before a point: a single zero, or a run that does not start with one. -/
theorem wholePart_suffix {whole : List Char}
    (h : (match cs with
      | '0' :: rest => (['0'], rest)
      | _ => digitRun Char.isDigit cs) = (whole, rest)) : rest <:+ cs := by
  split at h
  · cases h
    exact List.suffix_cons _ _
  · have hrun := digitRun_suffix Char.isDigit cs
    rwa [h] at hrun

/-- A number in base ten, which can be refused for its length. -/
theorem decimal?_leaves {negative : Bool} {r : Except Refusal (Value × List Char)}
    (h : decimal? negative cs = some r) : Leaves IsAny cs Prod.snd r := by
  revert h
  fun_cases decimal? negative cs with
  | case1 => nofun
  | case2 whole left hwhole =>
      intro h
      obtain rfl := Option.some.inj h
      exact .ite (fun _ => trivial) fun _ => wholePart_suffix hwhole
  | case3 whole left hwhole _ afterFraction ds exponent afterPower _ hfraction _ hpower =>
      intro h
      obtain rfl := Option.some.inj h
      -- Both a fraction and a power of ten may be missing.
      have hpoint : afterFraction <:+ left := by
        split at hfraction
        · next hdigits =>
            cases hfraction
            exact fractionDigits?_suffix hdigits
        · cases hfraction
          exact List.suffix_refl _
      have hexponent : afterPower <:+ afterFraction := by
        cases hdigits : power? afterFraction with
        | none =>
            rw [hdigits] at hpower
            cases hpower
            exact List.suffix_refl _
        | some found =>
            rw [hdigits] at hpower
            obtain rfl : found = _ := hpower
            exact power?_suffix hdigits
      exact (hexponent.trans hpoint).trans (wholePart_suffix hwhole)

theorem number?_leaves {r : Except Refusal (Value × List Char)} (h : number? cs = some r) :
    Leaves IsAny cs Prod.snd r := by
  revert h
  fun_cases number? cs with
  | case1 _ inBase found hbased =>
      intro h
      obtain rfl := Option.some.inj h
      show found.2 <:+ cs
      -- The letter behind a zero tells the base.
      dsimp only [inBase] at hbased
      split at hbased
      · exact (based?_suffix hbased).trans ⟨['0', 'x'], rfl⟩
      · exact (based?_suffix hbased).trans ⟨['0', 'o'], rfl⟩
      · exact (based?_suffix hbased).trans ⟨['0', 'b'], rfl⟩
      · cases hbased
  | case2 rest =>
      intro h
      exact (decimal?_leaves h).mono (List.suffix_cons _ _)
  | case3 rest =>
      intro h
      exact (decimal?_leaves h).mono (List.suffix_cons _ _)
  | case4 =>
      intro h
      exact decimal?_leaves h

theorem special?_suffix {v : Value} (h : special? cs = some (v, rest)) : rest <:+ cs := by
  unfold special? at h
  dsimp only at h
  split at h <;> cases h
  all_goals first | exact ⟨[_, _, _], rfl⟩ | exact ⟨[_, _, _, _], rfl⟩

end Numbers

section Keys

/-- A part of a key, with quotes or without. -/
theorem keyPart_leaves (cs : List Char) : Leaves IsMalformed cs Prod.snd (keyPart cs) := by
  unfold keyPart
  -- A literal string, a string with escapes, or a row of characters.
  split
  · next rest =>
      exact ((literalString_leaves rest).mono (List.suffix_cons _ _)).map fun _ => rfl
  · next rest =>
      exact ((basicString_leaves rest).mono (List.suffix_cons _ _)).map fun _ => rfl
  · split
    · exact .fail _ _
    · exact List.dropWhile_suffix _

theorem keyFrom_leaves (fuel : Nat) (cs : List Char) :
    Leaves IsMalformed cs Prod.snd (keyFrom fuel cs) := by
  induction fuel generalizing cs with
  | zero => exact .fail _ _
  | succ fuel ih =>
      refine (keyPart_leaves cs).bind fun part _ hpart => ?_
      have hblanks := (skipBlanks_suffix part.2).trans hpart
      dsimp only
      -- A point leads to further parts.
      split
      · next rest hdot =>
          rw [hdot] at hblanks
          have hrest := skipBlanks_of_cons hblanks
          refine ((ih _).mono hrest).bind fun parts _ hparts => ?_
          exact hparts
      · exact hblanks

theorem key_leaves (cs : List Char) : Leaves IsMalformed cs Prod.snd (key cs) :=
  keyFrom_leaves _ _

/-- Between the items of a list there may be comments and ends of lines. -/
theorem skipSpace_leaves (inComment : Bool) (cs : List Char) :
    Leaves IsMalformed cs id (skipSpace inComment cs) := by
  fun_induction skipSpace inComment cs with
  | case1 => exact List.nil_suffix
  | case2 cs ih => exact ih.mono (List.suffix_cons _ _)
  | case3 => exact .fail _ _
  | case4 c cs _ _ ih => exact ih.mono (List.suffix_cons _ _)
  | case5 _ c cs _ _ ih => exact ih.mono (List.suffix_cons _ _)
  | case6 _ cs _ _ ih => exact ih.mono (List.suffix_cons _ _)
  | case7 => exact List.suffix_refl _

/-- To say where a fault is reads nothing. -/
theorem placed_leaves {α : Type} (cs rest : List Char) (x : Except Fault α) :
    Leaves IsMalformed cs (fun _ => []) (placed rest x) := by
  cases x with
  | ok a => exact List.nil_suffix
  | error fault => exact .fail _ _

theorem placed_ok {α : Type} {rest : List Char} {x : Except Fault α} {a : α} :
    placed rest x = .ok a ↔ x = .ok a := by
  cases x with
  | ok b => exact ⟨fun h => congrArg Except.ok (Except.ok.inj h),
      fun h => congrArg Except.ok (Except.ok.inj h)⟩
  | error fault =>
      constructor
      · intro h
        cases h
      · intro h
        cases h

end Keys

section Values

/-- A value that holds no others can be an integer, and so be refused for its length. -/
theorem scalar_leaves (cs : List Char) : Leaves IsAny cs Prod.snd (scalar cs) := by
  unfold scalar
  -- Dates and times come first, since they start like numbers.
  split
  · next r htemporal => exact (temporal?_leaves htemporal).weaken.map fun _ => rfl
  · split
    · next r hnumber => exact number?_leaves hnumber
    · split
      · next r hspecial => exact special?_suffix hspecial
      · trivial

section Steps

variable {fuel : Nat}

/-- A value leaves an end of the text if the items and members in it do. -/
theorem value_succ_leaves
    (hitems : ∀ cs, Leaves IsAny cs Prod.snd (items fuel cs))
    (hmembers : ∀ marks t cs, Leaves IsAny cs Prod.snd (members fuel marks t cs))
    (cs : List Char) : Leaves IsAny cs Prod.snd (value (fuel + 1) cs) := by
  unfold value
  split
  · next r hstring => exact (stringValue_leaves hstring).weaken.map fun _ => rfl
  · split
    · exact ⟨['t', 'r', 'u', 'e'], rfl⟩
    · exact ⟨['f', 'a', 'l', 's', 'e'], rfl⟩
    · -- A list may be empty, as may be a table.
      next rest _ =>
        have hspace := (skipSpace_leaves false rest).weaken.mono (List.suffix_cons '[' rest)
        refine hspace.bind fun after _ hafter => ?_
        split
        · exact suffix_of_cons hafter
        · exact ((hitems _).mono hafter).bind fun vs _ hvs => hvs
    · next rest _ =>
        have hafter := (skipBlanks_suffix rest).trans (List.suffix_cons '\x7b' rest)
        split
        · next hclosed => exact suffix_of_cons (hclosed ▸ hafter)
        · exact ((hmembers _ _ _).mono hafter).bind fun t _ ht => ht
    · exact scalar_leaves cs

/-- The items of a list leave an end of the text if values do and further items do. -/
theorem items_succ_leaves
    (hvalue : ∀ cs, Leaves IsAny cs Prod.snd (value fuel cs))
    (hitems : ∀ cs, Leaves IsAny cs Prod.snd (items fuel cs)) (cs : List Char) :
    Leaves IsAny cs Prod.snd (items (fuel + 1) cs) := by
  unfold items
  refine (hvalue cs).bind fun v _ hv => ?_
  refine ((skipSpace_leaves false v.2).weaken.mono hv).bind fun after _ hafter => ?_
  -- The list ends, or goes on behind a comma, which may be the last one.
  split
  · exact suffix_of_cons hafter
  · next rest _ =>
      have hrest := suffix_of_cons hafter
      refine ((skipSpace_leaves false rest).weaken.mono hrest).bind fun next _ hnext => ?_
      split
      · exact suffix_of_cons hnext
      · exact ((hitems _).mono hnext).bind fun vs _ hvs => hvs
  · exact (Leaves.fail _ _).weaken

/-- The members of a table leave an end of the text if values do and further members
    do. -/
theorem members_succ_leaves
    (hvalue : ∀ cs, Leaves IsAny cs Prod.snd (value fuel cs))
    (hmembers : ∀ marks t cs, Leaves IsAny cs Prod.snd (members fuel marks t cs))
    (marks : Marks) (t : Table) (cs : List Char) :
    Leaves IsAny cs Prod.snd (members (fuel + 1) marks t cs) := by
  unfold members
  refine (key_leaves cs).weaken.bind fun k _ hk => ?_
  dsimp only
  split
  · next rest hequals =>
      rw [hequals] at hk
      have hrest := skipBlanks_of_cons hk
      refine ((hvalue _).mono hrest).bind fun v _ hv => ?_
      refine (placed_leaves cs v.2 _).weaken.bind fun t' _ _ => ?_
      have hafter := (skipBlanks_suffix v.2).trans hv
      -- The table ends, or goes on behind a comma.
      split
      · next hclosed => exact suffix_of_cons (hclosed ▸ hafter)
      · next rest' hcomma =>
          have hnext := skipBlanks_of_cons (hcomma ▸ hafter)
          exact (hmembers _ _ _).mono hnext
      · exact (Leaves.fail _ _).weaken
  · exact (Leaves.fail _ _).weaken

end Steps

/-- Values, items and members leave an end of the text, however far they are
    followed. -/
theorem values_leave (fuel : Nat) :
    (∀ cs, Leaves IsAny cs Prod.snd (value fuel cs)) ∧
    (∀ cs, Leaves IsAny cs Prod.snd (items fuel cs)) ∧
    ∀ marks t cs, Leaves IsAny cs Prod.snd (members fuel marks t cs) := by
  induction fuel with
  | zero => exact ⟨fun _ => trivial, fun _ => trivial, fun _ _ _ => trivial⟩
  | succ fuel ih =>
      obtain ⟨hvalue, hitems, hmembers⟩ := ih
      exact ⟨value_succ_leaves hitems hmembers, items_succ_leaves hvalue hitems,
        members_succ_leaves hvalue hmembers⟩

theorem value_leaves (fuel : Nat) (cs : List Char) :
    Leaves IsAny cs Prod.snd (value fuel cs) :=
  (values_leave fuel).1 cs

end Values

section Statements

theorem keyValue_leaves (cs : List Char) : Leaves IsAny cs Prod.snd (keyValue cs) := by
  refine (key_leaves cs).weaken.bind fun k _ hk => ?_
  dsimp only
  split
  · next rest hequals =>
      rw [hequals] at hk
      have hrest := skipBlanks_of_cons hk
      exact ((value_leaves _ _).mono hrest).bind fun v _ hv => hv
  · exact (Leaves.fail _ _).weaken

/-- The head of a table has no value in it, so it is only refused as malformed. -/
theorem tableHead_leaves (d : Draft) (cs : List Char) :
    Leaves IsMalformed cs Prod.snd (tableHead d cs) := by
  unfold tableHead
  dsimp only
  -- Two brackets name an array of tables, and one names a table.
  split
  · next rest =>
      have hrest := (skipBlanks_suffix rest).trans (List.suffix_cons '[' rest)
      refine ((key_leaves _).mono hrest).bind fun k _ hk => ?_
      refine (placed_leaves _ k.2 _).bind fun d' _ _ => ?_
      split
      · next hclosed => exact suffix_of_cons (suffix_of_cons (hclosed ▸ hk))
      · exact .fail _ _
  · refine ((key_leaves _).mono (skipBlanks_suffix cs)).bind fun k _ hk => ?_
    refine (placed_leaves _ k.2 _).bind fun d' _ _ => ?_
    split
    · next hclosed => exact suffix_of_cons (hclosed ▸ hk)
    · exact .fail _ _

/-- A statement can be refused for the value that it sets. -/
theorem statement_leaves (d : Draft) (cs : List Char) :
    Leaves IsAny cs Prod.snd (statement d cs) := by
  unfold statement
  -- Nothing, the head of a table, a comment, or a key with its value.
  split
  · exact List.suffix_refl _
  · next rest =>
      exact ((tableHead_leaves d rest).mono (List.suffix_cons _ _)).weaken
  · exact List.suffix_refl _
  · refine .ite (fun _ => ?_) fun _ => (Leaves.fail _ _).weaken
    refine (keyValue_leaves _).bind fun kv _ hkv => ?_
    exact (placed_leaves _ kv.2 _).weaken.bind fun _ _ _ => hkv

end Statements

end Toml

end NamePatterns
