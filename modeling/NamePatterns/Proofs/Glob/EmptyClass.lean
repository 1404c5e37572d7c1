import NamePatterns.Proofs.Wildcard.Meaning

/-!
# Degenerate Classes

When a class without items, or with a range that runs backwards, silences a
wildcard.

Nothing silences such a wildcard but the reader of regular expressions, and the
reader does not take a bracket that closes a class for the end of it if the class
is empty: there the bracket is a character. So an empty class stays open, what
stands behind it are characters of it, and the next bracket closes it, which may
be that of another class or the end of what a dash is written as where it begins
a word. Then it is a set like any other. If no bracket follows, or if a range of
what it came to hold runs backwards, the wildcard is silenced; a range that runs
backwards in another class silences it as well, unless that class stands in an
open one.

`isRead` follows the tokens of a wildcard in this way, and says exactly which
wildcards are not silenced.

The proof follows `isRead` as it recurses. Its argument says whether a class is
open and what it holds so far, and `Pending` says the same of the units that the
reader has not yet put together. An open class is read only when its bracket
comes, so the units are kept until then.

## Main definitions

* `Token.Writable`: The tokens whose classes may be empty or run backwards.
* `Token.isEmptyClass`, `Token.isForward`: The two ways to be degenerate.
* `Token.added`, `Token.closes`: What a token adds to an open class, and whether it
  closes it.
* `isRead`: Whether what is written for tokens is a regular expression.

## Theorems

* `wellFormed_iff`: The writable tokens that are not degenerate.
* `written_split`: The units of a token inside an open class.
* `Pending.add`, `Pending.closed`, `Pending.unclosed`: What becomes of an open class.
* `reads`: What is read for tokens, a class being open or not.
* `compile_degenerate`: When a wildcard with degenerate classes is silenced.
* `compile_degenerate_closed`: Empty classes that are closed all the same.
-/

namespace NamePatterns

namespace Glob

open Regex (itemsOf)
open Regex.Parser (IsMember Leads Refuses Row setHead)
open Regex.Parser.State (setTree)
open Wildcard (Selects Writes isOperator scanFrom)

/-- The tokens that can be written, whether their classes hold anything or not. -/
def Token.Writable (dashes : Bool) : Token → Prop
  | oneOf negated items =>
    (∀ i ∈ items, ItemListable i) ∧
      (negated = false → items.head?.map firstChar ≠ some '!')
  | t => t.WellFormed dashes

instance (dashes : Bool) (t : Token) : Decidable (t.Writable dashes) :=
  match t with
  | .oneOf negated items =>
    inferInstanceAs (Decidable ((∀ i ∈ items, ItemListable i) ∧
      (negated = false → items.head?.map firstChar ≠ some '!')))
  | .literal c => inferInstanceAs (Decidable ((Token.literal c).WellFormed dashes))
  | .star => inferInstanceAs (Decidable (Token.star.WellFormed dashes))
  | .question => inferInstanceAs (Decidable (Token.question.WellFormed dashes))
  | .dash => inferInstanceAs (Decidable (Token.dash.WellFormed dashes))
  | .escaped c => inferInstanceAs (Decidable ((Token.escaped c).WellFormed dashes))

/-- Whether a token is a class without items. -/
def Token.isEmptyClass : Token → Bool
  | oneOf _ items => items.isEmpty
  | _ => false

/-- Whether no range of a token runs backwards. -/
def Token.isForward : Token → Bool
  | oneOf _ items => items.all SetItem.isOrdered
  | _ => true

/-- The characters that a token adds to a class that is still open. -/
def Token.added (dashes : Bool) : Token → List Char
  | literal c | escaped c => [c]
  | star => ['.', '*']
  | question => ['.']
  | dash => if dashes then ['[', 'A', '-', 'Z', '0', '-', '9'] else ['-']
  | oneOf negated items =>
    '[' :: ((if negated then ['^'] else []) ++ items.flatMap itemText)

/-- Whether a token closes a class that is still open. -/
def Token.closes (dashes : Bool) : Token → Bool
  | dash => dashes
  | oneOf .. => true
  | _ => false

/-- Whether what is written for tokens is a regular expression, no class being open
    or one that holds some characters. -/
def isRead (dashes : Bool) : Option (List Char) → List Token → Bool
  | none, [] => true
  | some _, [] => false
  | none, t :: g =>
    -- The bracket of an empty class is its first character.
    if t.isEmptyClass then isRead dashes (some [']']) g
    else t.isForward && isRead dashes none g
  | some cs, t :: g =>
    if t.closes dashes then
      (itemsOf (cs ++ t.added dashes)).all SetItem.isOrdered && isRead dashes none g
    else isRead dashes (some (cs ++ t.added dashes)) g

/-- The well-formed tokens are the writable ones that are not degenerate. -/
theorem wellFormed_iff {dashes : Bool} {t : Token} :
    t.WellFormed dashes ↔
      t.Writable dashes ∧ t.isEmptyClass = false ∧ t.isForward = true := by
  cases t with
  | oneOf negated items =>
      simp only [Token.WellFormed, Token.Writable, Token.isEmptyClass, Token.isForward,
        List.isEmpty_eq_false_iff, List.all_eq_true]
      constructor
      · rintro ⟨hne, hitems, hmark⟩
        exact ⟨⟨fun i hi => (hitems i hi).listable, hmark⟩, hne,
          fun i hi => (itemWellFormed_iff.mp (hitems i hi)).2⟩
      · rintro ⟨⟨hlist, hmark⟩, hne, hordered⟩
        exact ⟨hne, fun i hi => itemWellFormed_iff.mpr ⟨hlist i hi, hordered i hi⟩, hmark⟩
  | _ => exact ⟨fun h => ⟨h, rfl, rfl⟩, fun h => h.1⟩

/-- A token is written as members of an open set that do not close it, and as the
    bracket that does if it closes it. -/
theorem written_split {dashes : Bool} {t : Token} (ht : t.Writable dashes) :
    ∃ us, t.written dashes = us ++ (if t.closes dashes then [.plain ']'] else []) ∧
      us.map Regex.Token.char = t.added dashes ∧ ∀ u ∈ us, IsMember u ∧ u ≠ .plain ']' := by
  -- A character is escaped or not, but it is no dash behind a backslash.
  have hone (c : Char) (b : Bool) (hdash : b = true → keepsBackslash c = true)
      (hclose : b = false → c ≠ ']') : ∀ u ∈ [if b then Regex.Token.escaped c else .plain c],
      IsMember u ∧ u ≠ .plain ']' := by
    intro u hu
    rw [List.mem_singleton.mp hu]
    cases b with
    | false => exact ⟨trivial, fun heq => hclose rfl (Regex.Token.plain.inj heq)⟩
    | true =>
        refine ⟨⟨isRefusedEscape_of_keepsBackslash (hdash rfl), ?_⟩, nofun⟩
        rintro rfl
        exact absurd (hdash rfl) (by decide)
  cases t with
  | literal c =>
      refine ⟨[if isOperator c then .escaped c else .plain c], rfl, ?_, hone c _ ?_ ?_⟩
      · cases isOperator c <;> rfl
      · intro hop
        simp only [keepsBackslash, hop, Bool.true_or]
      · rintro _ rfl
        cases (show isSpecial ']' = false from ht)
  | escaped c =>
      refine ⟨[if keepsBackslash c then .escaped c else .plain c], rfl, ?_,
        hone c _ id fun hkeeps => ?_⟩
      · cases keepsBackslash c <;> rfl
      · rintro rfl
        cases hkeeps
  | star => exact ⟨[.plain '.', .plain '*'], rfl, rfl, by simp [IsMember]⟩
  | question => exact ⟨[.plain '.'], rfl, rfl, by simp [IsMember]⟩
  | dash =>
      cases dashes with
      | false => exact ⟨[.plain '-'], rfl, rfl, by simp [IsMember]⟩
      | true =>
          refine ⟨['[', 'A', '-', 'Z', '0', '-', '9'].map .plain, by decide, by decide, ?_⟩
          simp [IsMember]
  | oneOf negated items =>
      refine ⟨setHead negated ++ (items.flatMap itemText).map listed,
        written_oneOf dashes negated items, ?_, fun u hu => ?_⟩
      · have hchars : ((items.flatMap itemText).map listed).map Regex.Token.char
            = items.flatMap itemText := by
          rw [List.map_map]
          exact (List.map_congr_left fun c hc => (spells_listed.item ht.1 hc).1).trans
            (List.map_id _)
        rw [List.map_append, hchars]
        cases negated <;> rfl
      · rcases List.mem_append.mp hu with hu | hu
        · cases negated <;> simp [setHead] at hu
          · exact hu ▸ ⟨trivial, by decide⟩
          · rcases hu with rfl | rfl <;> exact ⟨trivial, by decide⟩
        · rcases List.mem_map.mp hu with ⟨c, hc, rfl⟩
          exact ⟨(spells_listed.item ht.1 hc).2.1, (spells_listed.item ht.1 hc).2.2.1⟩

/-- The units that are still to be taken together with what follows: those of an open
    class that holds some characters. -/
def Pending : Option (List Char) → List Regex.Token → Prop
  | none, us => us = []
  | some cs, us => ∃ negated vs, us = setHead negated ++ .plain ']' :: vs ∧
    (∀ v ∈ vs, IsMember v ∧ v ≠ .plain ']') ∧ ']' :: vs.map Regex.Token.char = cs

namespace Pending

variable {cs : List Char} {us : List Regex.Token} (h : Pending (some cs) us)

include h

/-- What is written for a token is added to an open class, but for the bracket that
    closes it. -/
theorem add {dashes : Bool} {t : Token} (ht : t.Writable dashes) :
    ∃ vs, Pending (some (cs ++ t.added dashes)) vs ∧
      us ++ t.written dashes = vs ++ if t.closes dashes then [.plain ']'] else [] := by
  rcases h with ⟨negated, vs, rfl, hvs, rfl⟩
  rcases written_split ht with ⟨ws, hwritten, hchars, hws⟩
  refine ⟨setHead negated ++ .plain ']' :: (vs ++ ws), ⟨negated, vs ++ ws, rfl,
    fun u hu => (List.mem_append.mp hu).elim (hvs u) (hws u), ?_⟩, ?_⟩
  · rw [List.map_append, hchars]
    rfl
  · rw [hwritten]
    simp only [List.append_assoc, List.cons_append]

/-- An open class is what opens a set and characters of it, the bracket first. -/
theorem split : ∃ negated vs, us = setHead negated ++ vs ∧ (∀ v ∈ vs, IsMember v) ∧
    vs.head? ≠ some (.plain '^') ∧ .plain ']' ∉ vs.tail ∧ vs ≠ [] ∧
    vs.map Regex.Token.char = cs := by
  rcases h with ⟨negated, vs, rfl, hvs, hcs⟩
  refine ⟨negated, .plain ']' :: vs, rfl, fun v hv => ?_, nofun, fun hmem => (hvs _ hmem).2 rfl,
    List.cons_ne_nil _ _, hcs⟩
  rcases List.mem_cons.mp hv with rfl | hv
  · exact trivial
  · exact (hvs v hv).1

variable {items : List Regex} {s : Regex.Parser.State} (hs : Row items s)

include hs

/-- The next bracket closes an open class, which is then a set of the items that it
    took in, or is refused. -/
theorem closed :
    (itemsOf cs).all SetItem.isOrdered = true ∧
        (∃ negated, Leads s (us ++ [.plain ']']) (Row (setTree negated (itemsOf cs) :: items))) ∨
      (itemsOf cs).all SetItem.isOrdered = false ∧ Refuses s (us ++ [.plain ']']) := by
  rcases h.split with ⟨negated, vs, rfl, hvs, hcaret, hclose, hne, rfl⟩
  exact (hs.set_content hvs (fun _ => hcaret) hclose hne).imp_left
    fun hread => ⟨hread.1, negated, hread.2⟩

/-- An open class with nothing behind it is refused, or stays open. -/
theorem unclosed : Refuses s us ∨ Leads s us (·.mode.isStuck = true) := by
  rcases h.split with ⟨negated, vs, rfl, hvs, hcaret, hclose, hne, _⟩
  exact hs.set_open hvs (fun _ => hcaret) hclose hne

end Pending

/-- A run leads to a row of plain trees, or it is refused or leaves a set open. -/
def Ends (read : Bool) (s : Regex.Parser.State) (ts : List Regex.Token) : Prop :=
  if read then
    Leads s ts fun s' => ∃ items, Row items s' ∧ ∀ r ∈ items, r.isPlain = true
  else Refuses s ts ∨ Leads s ts (·.mode.isStuck = true)

theorem Ends.behind {read : Bool} {s s' : Regex.Parser.State} {ts us : List Regex.Token}
    (h : Ends read s' us) (hrun : Regex.Parser.run s ts = .ok s') : Ends read s (ts ++ us) := by
  unfold Ends at h ⊢
  cases read with
  | true => exact Leads.behind h hrun
  | false => exact h.imp (·.behind hrun) (·.behind hrun)

theorem ends_of_refuses {s : Regex.Parser.State} {ts : List Regex.Token} (h : Refuses s ts)
    (us : List Regex.Token) : Ends false s (ts ++ us) :=
  Or.inl (h.append us)

/-- What is written for tokens is read just as `isRead` says, behind a row of plain
    trees and what is still open. -/
theorem reads {dashes : Bool} {o : Option (List Char)} {g : List Token}
    (hg : ∀ t ∈ g, t.Writable dashes) {us : List Regex.Token} (hus : Pending o us)
    {items : List Regex} {s : Regex.Parser.State} (hs : Row items s)
    (hplain : ∀ r ∈ items, r.isPlain = true) :
    Ends (isRead dashes o g) s (us ++ g.flatMap (Token.written dashes)) := by
  have hlonger {items : List Regex} {r : Regex} (hplain : ∀ r ∈ items, r.isPlain = true)
      (hr : r.isPlain = true) : ∀ r' ∈ r :: items, r'.isPlain = true := by
    intro r' hr'
    rcases List.mem_cons.mp hr' with rfl | hr'
    · exact hr
    · exact hplain r' hr'
  -- The cases are the ends of the wildcard, a token where no class is open, and a token in an
  -- open class, each with the two ways it can go.
  fun_induction isRead dashes o g generalizing us items s with
  | case1 =>
      obtain rfl : us = [] := hus
      exact Leads.nil ⟨items, hs, hplain⟩
  | case2 cs =>
      rw [List.flatMap_nil, List.append_nil]
      exact hus.unclosed hs
  | case3 t g hempty ih =>
      obtain rfl : us = [] := hus
      have hrest : ∀ u ∈ g, u.Writable dashes := fun u hu => hg u (List.mem_cons_of_mem _ hu)
      cases t with
      | oneOf negated is =>
          obtain rfl : is = [] := List.isEmpty_iff.mp hempty
          have hpending : Pending (some [']']) ((Token.oneOf negated []).written dashes) :=
            ⟨negated, [], by rw [written_oneOf]; simp only [List.flatMap_nil, List.map_nil,
              List.append_nil], nofun, rfl⟩
          exact ih hrest hpending hs hplain
      | _ => cases hempty
  | case4 t g hempty ih =>
      obtain rfl : us = [] := hus
      have hrest : ∀ u ∈ g, u.Writable dashes := fun u hu => hg u (List.mem_cons_of_mem _ hu)
      have ht := hg t List.mem_cons_self
      rw [List.nil_append, List.flatMap_cons]
      by_cases hforward : t.isForward = true
      · have hwell : t.WellFormed dashes :=
          wellFormed_iff.mpr ⟨ht, Bool.not_eq_true _ ▸ hempty, hforward⟩
        rcases leads_token hwell hs with ⟨s', hrun, hs'⟩
        rw [hforward, Bool.true_and]
        exact (ih hrest rfl hs' (hlonger hplain (isPlain_tree dashes t))).behind hrun
      · rw [eq_false_of_ne_true hforward, Bool.false_and]
        cases t with
        | oneOf negated is =>
            have hne : is ≠ [] := fun heq => hempty (List.isEmpty_iff.mpr heq)
            rw [written_oneOf]
            rcases spells_listed.leads ht.1 hne hs negated with ⟨hall, _⟩ | ⟨_, hrefused⟩
            · exact absurd hall hforward
            · exact ends_of_refuses hrefused _
        | _ => exact absurd rfl hforward
  | case5 cs t g hcloses ih =>
      have hrest : ∀ u ∈ g, u.Writable dashes := fun u hu => hg u (List.mem_cons_of_mem _ hu)
      rcases hus.add (hg t List.mem_cons_self) with ⟨vs, hvs, hsplit⟩
      rw [List.flatMap_cons, ← List.append_assoc, hsplit, if_pos hcloses]
      rcases hvs.closed hs with ⟨hall, negated, s', hrun, hs'⟩ | ⟨hall, hrefused⟩
      · rw [hall, Bool.true_and]
        exact (ih hrest rfl hs' (hlonger hplain (Regex.isPlain_setTree _ _))).behind hrun
      · rw [hall, Bool.false_and]
        exact ends_of_refuses hrefused _
  | case6 cs t g hcloses ih =>
      have hrest : ∀ u ∈ g, u.Writable dashes := fun u hu => hg u (List.mem_cons_of_mem _ hu)
      rcases hus.add (hg t List.mem_cons_self) with ⟨vs, hvs, hsplit⟩
      rw [List.flatMap_cons, ← List.append_assoc, hsplit, if_neg hcloses, List.append_nil]
      exact ih hrest hvs hs hplain

/-- Tokens with degenerate classes are written one after the other as well. -/
theorem writes_writable {dashes : Bool} {g : List Token} (hg : ∀ t ∈ g, t.Writable dashes)
    (leftOver : Bool) :
    Writes dashes (text g leftOver) (g.flatMap (Token.written dashes)) ∧
      (scanFrom {} (text g leftOver)).depth ≤ 0 := by
  -- The scan does not see whether a class is degenerate: it counts brackets and no characters.
  have hscan : ∀ t ∈ g, ∀ s, AtRest s → Scans dashes s t.text (t.written dashes) AtRest := by
    intro t ht s hs
    have hwritable := hg t ht
    cases t with
    | oneOf negated items =>
        obtain ⟨escaping, depth, b⟩ := s
        obtain ⟨rfl, rfl⟩ : escaping = false ∧ depth = 0 := hs
        exact scan_oneOf hwritable.1 hwritable.2
    | _ => exact scan_token (wellFormed_iff.mpr ⟨hwritable, rfl, rfl⟩) hs
  have hscans := (scan_each hscan scan_start).leftOver (fun _ hs => hs) leftOver
  refine ⟨⟨hscans.text, fun u hu => ?_⟩, Int.le_of_eq hscans.ends⟩
  rcases List.mem_flatMap.mp hu with ⟨t, ht, hu⟩
  have hwritable := hg t ht
  cases t with
  | oneOf negated items => exact oneOf_ne_backslash hwritable.1 hu
  | _ => exact written_ne_backslash (wellFormed_iff.mpr ⟨hwritable, rfl, rfl⟩) hu

/-- A wildcard of tokens with degenerate classes is silenced just if what is written
    for them is not read, and then it selects no name. -/
theorem compile_degenerate {dashes : Bool} {g : List Token} (hg : ∀ t ∈ g, t.Writable dashes)
    (leftOver : Bool) :
    ((Wildcard.compile dashes (String.ofList (text g leftOver))).outcome = .ok matchNothing ↔
        isRead dashes none g = false) ∧
      (isRead dashes none g = false → ∀ name, ¬Selects dashes (text g leftOver) name) := by
  rcases writes_writable hg leftOver with ⟨hwrites, hdepth⟩
  have hends : Ends (isRead dashes none g) {} (g.flatMap (Token.written dashes)) :=
    reads (o := none) hg rfl Regex.Parser.row_start nofun
  have hsilenced : isRead dashes none g = false →
      (Wildcard.compile dashes (String.ofList (text g leftOver))).outcome = .ok matchNothing := by
    intro hread
    rw [hread] at hends
    exact hwrites.silenced hends
  refine ⟨⟨fun hnothing => ?_, hsilenced⟩, fun hread =>
    Wildcard.not_selects_of_silenced (hsilenced hread)⟩
  -- What is read is accepted as it is written, and a row of trees is never what matches
  -- nothing.
  refine eq_false_of_ne_true fun hread => ?_
  rw [hread] at hends
  rcases hends with ⟨s, hrun, items, hrow, hplain⟩
  rcases hwrites.accepted hdepth ⟨s, hrun, hrow⟩ hplain with ⟨houtcome, _, hne⟩
  unfold Wildcard.compile at hnothing
  rw [houtcome] at hnothing
  exact hne (Except.ok.inj hnothing)

/-- A range that runs backwards, behind an empty class that another one closes. -/
theorem compile_degenerate_backward :
    (∀ t ∈ [Token.oneOf true [], .star, .oneOf false [.single 'a'], .oneOf false [.range 'z' 'a']],
      t.Writable true) ∧
    (Wildcard.compile true "[!]*[a][z-a]").outcome = .ok matchNothing ∧
      ∀ name, ¬Selects true "[!]*[a][z-a]".toList name := by
  have hg : ∀ t ∈ [Token.oneOf true [], .star, .oneOf false [.single 'a'],
      .oneOf false [.range 'z' 'a']], t.Writable true := by decide
  have hread : isRead true none [Token.oneOf true [], .star, .oneOf false [.single 'a'],
      .oneOf false [.range 'z' 'a']] = false := by decide
  exact ⟨hg, (compile_degenerate hg false).1.mpr hread, (compile_degenerate hg false).2 hread⟩

/-- An empty class is closed by a dash that begins a word, and by the bracket of
    another class, which may be empty itself: then the wildcard is not silenced. -/
theorem compile_degenerate_closed :
    (∀ t ∈ [Token.oneOf false [], .dash], t.Writable true) ∧
      (Wildcard.compile true "[]-").outcome = .ok "[][A-Z0-9]" ∧
      Selects true (text [.oneOf false [], .dash] false) ['A'] ∧
      (Wildcard.compile false "[]*[]").outcome = .ok "[].*[]" ∧
      (Wildcard.compile false "[!]a[z-a]").outcome = .ok matchNothing ∧
      (Wildcard.compile false "[]a[b]").outcome = .ok "[]a[b]" := by
  refine ⟨by decide, by decide +kernel, ?_, by decide +kernel, by decide +kernel,
    by decide +kernel⟩
  exact ⟨"[][A-Z0-9]", .set false [.single ']', .single '[', .range 'A' 'Z', .range '0' '9'],
    by decide +kernel, by decide +kernel, by decide +kernel⟩

end Glob

end NamePatterns
