import Mathlib.Computability.Language
import NamePatterns.Regex.Match

/-!
# Languages of Plain Trees

What the trees match that wildcards without nested brackets are read as.

Such a tree is a row of single characters and of repetitions of single
characters, and it has a language in the plain sense: `Denotes` gives it, one
rule for each shape. The search that decides a match is written with a
continuation, so what is proved by induction on the tree speaks of the rest as
well. `Attempt.Settles` says that an attempt succeeds just if a condition
holds, and `Rest.Decides` that a continuation accepts the places of a language.
If the rest decides `M` and the tree denotes `L`, the search settles whether a
place is in `L * M`.

Repetitions look ahead: if a literal has to follow, they try only the places
where it does. `Fits` is the condition under which nothing is lost by that. It
holds since a tree that tests a literal first fails everywhere else.

No tree of this kind sets marks, so no group is ever out of order and the
answer is never an error.

Products of languages are those of Mathlib, so the laws of concatenation are not
proved again: a row of trees denotes the product of what its trees denote, and
reassociating the product is how the continuation of the first tree becomes the
tree behind it.

## Main definitions

* `oneChar`, `manyChars`: The languages of one accepted character, and of any
  number of them.
* `Denotes`: The language of a plain tree.
* `Attempt.Settles`, `Rest.Decides`: Searches that decide a condition.
* `Fits`: What has to follow does follow.

## Theorems

* `search_single`: A tree that takes one character takes one character.
* `mem_stops`: The places that a repetition tries.
* `tryEach_settles`: Trying places settles whether one of them is accepted.
* `repeatSingle_settles`: A repetition settles its language.
* `fits_opening`: Looking ahead loses nothing.
* `Denotes.search_settles`: A search settles the language of its tree.
* `Denotes.width_le`: A match is at least as long as the tree is wide.
* `Denotes.fullMatch_iff`: A plain tree matches its language.
-/

namespace NamePatterns

namespace Regex

/-- The texts of one accepted character. -/
def oneChar (accepts : Char → Bool) : Language Char :=
  {w | ∃ c, accepts c = true ∧ w = [c]}

/-- The texts of accepted characters. -/
def manyChars (accepts : Char → Bool) : Language Char :=
  {w | ∀ c ∈ w, accepts c = true}

theorem singleton_mem_oneChar {accepts : Char → Bool} {c : Char} :
    [c] ∈ oneChar accepts ↔ accepts c = true := by
  constructor
  · rintro ⟨d, hd, heq⟩
    rw [(List.cons.inj heq).1]
    exact hd
  · exact fun hc => ⟨c, hc, rfl⟩

theorem nil_mem_manyChars (accepts : Char → Bool) : [] ∈ manyChars accepts := by
  intro c hc
  cases hc

theorem cons_mem_manyChars {accepts : Char → Bool} {c : Char} {w : List Char} :
    c :: w ∈ manyChars accepts ↔ accepts c = true ∧ w ∈ manyChars accepts :=
  List.forall_mem_cons

/-- The language of a plain tree. -/
inductive Denotes : Regex → Language Char → Prop where
  /-- The empty row. -/
  | empty : Denotes .empty 1
  /-- One character. -/
  | single {r : Regex} {s : Single} (h : single? {} r = some s) : Denotes r (oneChar s.accepts)
  /-- Any number of characters. -/
  | star {r : Regex} {s : Single} (h : single? {} r = some s) :
    Denotes (.repetition 0 none .greedy r) (manyChars s.accepts)
  /-- One plain tree after the other. -/
  | cat {a b : Regex} {L M : Language Char} (ha : Denotes a L) (hb : Denotes b M) :
    Denotes (.cat a b) (L * M)

/-- A row denotes what its trees denote, one after the other. -/
theorem denotes_seq {rs : List Regex} {Ls : List (Language Char)}
    (h : List.Forall₂ Denotes rs Ls) : Denotes (seq rs) Ls.prod := by
  -- A row of one tree is that tree itself, and not a tree in front of the empty row.
  induction h with
  | nil => exact Denotes.empty
  | cons hr hrest ih =>
      rename_i r L rs Ls
      rw [List.prod_cons]
      cases hrest with
      | nil =>
          rw [List.prod_nil, mul_one]
          exact hr
      | cons _ _ => exact Denotes.cat hr ih

/-- An attempt that succeeds just if a condition holds, and sets no marks. -/
def Attempt.Settles (a : Attempt) (P : Prop) : Prop :=
  (P ∧ ∃ u, a = .success u ∧ u.marks = []) ∨ (¬P ∧ ∃ u, a = .failure u ∧ u.marks = [])

/-- A continuation that accepts the places of a language. -/
def Rest.Decides (rest : Rest) (L : Language Char) : Prop :=
  ∀ (p : Place) (t : Trail), t.marks = [] → (rest p t).Settles (p ∈ L)

/-- What has to follow does follow at all places of a language. -/
def Fits (ahead : Option (Char → Bool)) (L : Language Char) : Prop :=
  ∀ accepts, ahead = some accepts → ∀ p ∈ L, startsWith accepts p = true

namespace Attempt

theorem Settles.congr {a : Attempt} {P Q : Prop} (h : a.Settles P) (hPQ : P ↔ Q) :
    a.Settles Q := by
  rcases h with ⟨hP, hu⟩ | ⟨hP, hu⟩
  · exact Or.inl ⟨hPQ.mp hP, hu⟩
  · exact Or.inr ⟨fun hQ => hP (hPQ.mpr hQ), hu⟩

/-- Whether an attempt succeeds is one question. -/
theorem Settles.iff {a : Attempt} {P Q : Prop} (hP : a.Settles P) (hQ : a.Settles Q) :
    P ↔ Q := by
  rcases hP with ⟨hP, u, hu, _⟩ | ⟨hP, u, hu, _⟩ <;>
    rcases hQ with ⟨hQ, v, hv, _⟩ | ⟨hQ, v, hv, _⟩
  · exact ⟨fun _ => hQ, fun _ => hP⟩
  · rw [hu] at hv
    cases hv
  · rw [hu] at hv
    cases hv
  · exact ⟨fun h => absurd h hP, fun h => absurd h hQ⟩

theorem settles_failure {t : Trail} {P : Prop} (ht : t.marks = []) (hP : ¬P) :
    (failure t).Settles P :=
  Or.inr ⟨hP, t, rfl, ht⟩

/-- One attempt or, failing that, another one settles whether one of the two
    conditions holds. -/
theorem Settles.orElse {a : Attempt} {next : Trail → Attempt} {P Q : Prop} (ha : a.Settles P)
    (hnext : ∀ t, t.marks = [] → (next t).Settles Q) : (a.orElse next).Settles (P ∨ Q) := by
  rcases ha with ⟨hP, u, rfl, hu⟩ | ⟨hP, u, rfl, hu⟩
  · exact Or.inl ⟨Or.inl hP, u, rfl, hu⟩
  · exact (hnext u hu).congr ⟨Or.inr, fun h => h.resolve_left hP⟩

end Attempt

/-- A search for a tree that takes one character takes one character. -/
theorem search_single {whole : List Char} {f : Flags} {repeated : Bool} {r : Regex} {s : Single}
    (h : single? f r = some s) (ahead : Option (Char → Bool)) (p : Place) (t : Trail)
    (rest : Rest) : search whole f repeated r ahead p t rest = takeChar s.accepts p t rest := by
  induction r generalizing f with
  | literal c | anyBut c | any | set negated items =>
      rw [← Option.some.inj h]
      rfl
  | flagged change r ih => exact ih h
  -- No other tree takes a single character.
  | _ => exact absurd h.symm (Option.some_ne_none s)

/-- A tree that takes one character is one character wide. -/
theorem width_single {f : Flags} {r : Regex} {s : Single} (h : single? f r = some s) :
    r.width = Width.one := by
  induction r generalizing f with
  | literal c | anyBut c | any | set negated items => rfl
  | flagged change r ih => exact ih h
  | _ => exact absurd h.symm (Option.some_ne_none s)

/-- Taking one character settles whether there is an accepted one, and what
    the rest says of the place behind it. -/
theorem takeChar_settles {accepts : Char → Bool} {rest : Rest} {M : Language Char}
    (hrest : rest.Decides M) (p : Place) {t : Trail} (ht : t.marks = []) :
    (takeChar accepts p t rest).Settles (p ∈ oneChar accepts * M) := by
  cases p with
  | nil =>
      refine Attempt.settles_failure ht ?_
      rintro ⟨u, ⟨c, _, rfl⟩, v, _, hv⟩
      simp only [List.cons_append, reduceCtorEq] at hv
  | cons c cs =>
      -- A word of the product is one character and a word of the rest.
      have hiff : c :: cs ∈ oneChar accepts * M ↔ accepts c = true ∧ cs ∈ M := by
        constructor
        · rintro ⟨u, ⟨d, hd, rfl⟩, v, hv, heq⟩
          rcases List.cons.inj heq with ⟨rfl, rfl⟩
          exact ⟨hd, hv⟩
        · rintro ⟨hc, hcs⟩
          exact ⟨[c], ⟨c, hc, rfl⟩, cs, hcs, rfl⟩
      by_cases hc : accepts c = true
      · simp only [takeChar, if_pos hc]
        refine (hrest cs t ht).congr ?_
        rw [hiff]
        exact ⟨fun h => ⟨hc, h⟩, fun h => h.2⟩
      · simp only [takeChar, if_neg hc]
        refine Attempt.settles_failure ht ?_
        rw [hiff]
        exact fun h => hc h.1

/-- A place itself is tried just if it is wanted. -/
theorem mem_wanted (wanted : Place → Bool) (p q : Place) :
    q ∈ (if wanted p = true then [p] else []) ↔ wanted q = true ∧ q = p := by
  by_cases hw : wanted p = true
  · rw [if_pos hw, List.mem_singleton]
    exact ⟨fun h => ⟨h ▸ hw, h⟩, fun h => h.2⟩
  · rw [if_neg hw]
    constructor
    · intro h
      cases h
    · rintro ⟨hq, rfl⟩
      exact absurd hq hw

/-- The places that a repetition tries are the wanted ones that accepted
    characters lead to. -/
theorem mem_stops (accepts : Char → Bool) (wanted : Place → Bool) (p q : Place) (limit : Nat) :
    q ∈ (stops accepts wanted p 0 limit []).2 ↔
      wanted q = true ∧ ∃ u ∈ manyChars accepts, u.length ≤ limit ∧ u ++ q = p := by
  -- The places are found going forward, with one less to go each time.
  induction p generalizing limit with
  | nil =>
      simp only [stops, BEq.rfl, Bool.true_and, mem_wanted]
      refine and_congr_right fun _ => ?_
      constructor
      · rintro rfl
        exact ⟨[], nil_mem_manyChars accepts, Nat.zero_le _, rfl⟩
      · rintro ⟨u, _, _, heq⟩
        exact (List.append_eq_nil_iff.mp heq).2
  | cons c cs ih =>
      simp only [stops, BEq.rfl, Bool.true_and]
      by_cases hstop : (limit == 0 || !accepts c) = true
      · rw [if_pos hstop]
        simp only [mem_wanted]
        refine and_congr_right fun _ => ?_
        constructor
        · rintro rfl
          exact ⟨[], nil_mem_manyChars accepts, Nat.zero_le _, rfl⟩
        · rintro ⟨u, hu, hlen, heq⟩
          cases u with
          | nil => exact heq
          | cons d ds =>
              -- A character on the way would have to be accepted within the limit.
              exfalso
              rw [List.cons_append, List.cons.injEq] at heq
              rcases Bool.or_eq_true_iff.mp hstop with h0 | hc
              · rw [beq_iff_eq.mp h0, List.length_cons] at hlen
                omega
              · have hd := (cons_mem_manyChars.mp hu).1
                rw [heq.1] at hd
                rw [hd] at hc
                cases hc
      · rw [if_neg hstop]
        rw [Bool.or_eq_true_iff, not_or] at hstop
        have hlimit : limit ≠ 0 := fun h => hstop.1 (beq_iff_eq.mpr h)
        have hc : accepts c = true := by
          cases hac : accepts c with
          | true => rfl
          | false => exact absurd (by rw [hac]; rfl) hstop.2
        -- The places behind the character come before the place itself.
        rw [stops_append, List.mem_append, mem_wanted, Nat.zero_sub, ih]
        constructor
        · rintro (⟨hq, u, hu, hlen, heq⟩ | ⟨hq, rfl⟩)
          · refine ⟨hq, c :: u, cons_mem_manyChars.mpr ⟨hc, hu⟩, ?_, ?_⟩
            · rw [List.length_cons]
              omega
            · rw [List.cons_append, heq]
          · exact ⟨hq, [], nil_mem_manyChars accepts, Nat.zero_le _, rfl⟩
        · rintro ⟨hq, u, hu, hlen, heq⟩
          cases u with
          | nil => exact Or.inr ⟨hq, heq⟩
          | cons d ds =>
              rw [List.cons_append, List.cons.injEq] at heq
              rw [List.length_cons] at hlen
              exact Or.inl ⟨hq, ds, (cons_mem_manyChars.mp hu).2, by omega, heq.2⟩

/-- Trying places settles whether the rest accepts one of them. -/
theorem tryEach_settles {restore : Trail → Trail} {rest : Rest} {M : Language Char}
    (hrest : rest.Decides M) (hrestore : ∀ u, (restore u).marks = []) (places : List Place)
    {t : Trail} (ht : t.marks = []) :
    (tryEach restore rest places t).Settles (∃ q ∈ places, q ∈ M) := by
  induction places generalizing t with
  | nil =>
      refine Attempt.settles_failure ht ?_
      rintro ⟨q, hq, _⟩
      cases hq
  | cons q qs ih =>
      -- Each place is tried with no marks, whatever the attempts before it have left.
      have hfirst := hrest q (t.goto q) ht
      refine (hfirst.orElse fun u _ => ih (hrestore u)).congr ?_
      rw [List.exists_mem_cons_iff]

/-- A repetition of single characters settles its language. -/
theorem repeatSingle_settles {s : Single} {putBack : Bool} {ahead : Option (Char → Bool)}
    {rest : Rest} {M : Language Char} (hrest : rest.Decides M) (hfits : Fits ahead M) (p : Place)
    {t : Trail} (ht : t.marks = []) :
    (repeatSingle s .greedy 0 none putBack ahead p t rest).Settles
      (p ∈ manyChars s.accepts * M) := by
  -- Whatever is wanted, the places of the rest are among the wanted ones.
  have key (wanted : Place → Bool) (hwanted : ∀ q ∈ M, wanted q = true) :
      (∃ q ∈ (stops s.accepts wanted p 0 p.length []).2, q ∈ M) ↔ p ∈ manyChars s.accepts * M := by
    constructor
    · rintro ⟨q, hq, hM⟩
      rcases (mem_stops s.accepts wanted p q p.length).mp hq with ⟨_, u, hu, _, heq⟩
      exact ⟨u, hu, q, hM, heq⟩
    · rintro ⟨u, hu, q, hM, heq⟩
      refine ⟨q, (mem_stops s.accepts wanted p q p.length).mpr ⟨hwanted q hM, u, hu, ?_, heq⟩, hM⟩
      rw [← heq, List.length_append]
      omega
  simp only [repeatSingle, bne_self_eq_false, Bool.false_and, Bool.false_eq_true, if_false,
    Option.getD_none]
  have hmarks (q : Place) (u : Trail) : (u.restored putBack (t.goto q).marks).marks = [] := by
    rw [show (t.goto q).marks = [] from ht]
    exact Trail.restored_nil u putBack
  cases ahead with
  -- Nothing has to follow, so every place is wanted.
  | none =>
      refine (tryEach_settles hrest (hmarks _) _ ?_).congr (key _ ?_)
      · exact ht
      · intro q _
        rfl
  | some accepts =>
      refine (tryEach_settles hrest (hmarks _) _ ?_).congr (key _ ?_)
      · exact ht
      · intro q hq
        exact hfits accepts rfl q hq

/-- Looking ahead at what a tree tests first loses no place where the tree and
    the rest match. -/
theorem fits_opening {whole : List Char} {repeated : Bool} {b : Regex}
    {ahead : Option (Char → Bool)} {rest : Rest} {M N : Language Char} (hrest : rest.Decides M)
    (hfits : Fits ahead M)
    (hb : Rest.Decides (fun p t => search whole {} repeated b ahead p t rest) N) :
    Fits ((opening {} b).ahead ahead) N := by
  intro accepts heq p hp
  -- What is known of the tree is what a search for it comes to, so a search is started at the
  -- place.
  have hsearch := hb p ⟨p, []⟩ rfl
  cases ho : opening {} b with
  | nothing =>
      rw [ho] at heq
      simp only [search_of_nothing ho] at hsearch
      exact hfits accepts heq p ((hsearch.iff (hrest p ⟨p, []⟩ rfl)).mp hp)
  | literal test =>
      rw [ho] at heq
      cases heq
      by_contra hnot
      -- Where the test fails, so does the tree, and there is no word of it.
      have hexcludes : (opening {} b).excludes p = true := by
        rw [ho]
        simp only [Opening.excludes, Bool.not_eq_true', Bool.not_eq_true] at hnot ⊢
        exact hnot
      simp only [search_of_excludes hexcludes] at hsearch
      rcases hsearch with ⟨_, u, hu, _⟩ | ⟨hN, _⟩
      · cases hu
      · exact hN hp
  | set test =>
      rw [ho] at heq
      cases heq
  | other =>
      rw [ho] at heq
      cases heq

/-- A search for a plain tree settles whether its language leads to a place
    that the rest accepts. -/
theorem Denotes.search_settles {whole : List Char} {repeated : Bool} {r : Regex}
    {L : Language Char} (h : Denotes r L) {ahead : Option (Char → Bool)} {rest : Rest}
    {M : Language Char} (hrest : rest.Decides M) (hfits : Fits ahead M) :
    Rest.Decides (fun p t => search whole {} repeated r ahead p t rest) (L * M) := by
  induction h generalizing ahead rest M with
  | empty =>
      intro p t ht
      rw [one_mul]
      exact hrest p t ht
  | single hs =>
      intro p t ht
      simp only [search_single hs]
      exact takeChar_settles hrest p ht
  | star hs =>
      intro p t ht
      simp only [search, hs]
      exact repeatSingle_settles hrest hfits p ht
  | cat _ _ iha ihb =>
      intro p t ht
      -- What follows the first tree is the second one with the rest behind it.
      have hsecond := ihb hrest hfits
      simp only [search]
      rw [mul_assoc]
      exact iha hsecond (fits_opening hrest hfits hsecond) p t ht

/-- A match is at least as long as the tree is wide. -/
theorem Denotes.width_le {r : Regex} {L : Language Char} (h : Denotes r L) {w : List Char}
    (hw : w ∈ L) : r.width.low ≤ w.length := by
  induction h generalizing w with
  | empty => exact Nat.zero_le _
  | single hs =>
      rcases hw with ⟨c, _, rfl⟩
      rw [width_single hs]
      exact Nat.le_refl 1
  -- No characters are a word too.
  | star hs =>
      simp only [width, Width.times, Width.clamped, Nat.zero_mul, Nat.zero_min]
      exact Nat.zero_le _
  | cat _ _ iha ihb =>
      rcases hw with ⟨u, hu, v, hv, rfl⟩
      have hlu := iha hu
      have hlv := ihb hv
      rw [List.length_append]
      simp only [width, Width.add, Width.clamped]
      omega

/-- The continuation that accepts the end of the text decides the empty
    language. -/
theorem atEnd_decides : Rest.Decides atEnd 1 := by
  intro p t ht
  unfold atEnd
  rw [Language.mem_one]
  cases p with
  | nil => exact Or.inl ⟨rfl, _, rfl, ht⟩
  | cons c cs => exact Attempt.settles_failure ht (List.cons_ne_nil c cs)

/-- A plain tree matches its language, and there is always an answer. -/
theorem Denotes.fullMatch_iff {r : Regex} {L : Language Char} (h : Denotes r L)
    (text : List Char) :
    ∃ matched, r.fullMatch text = .ok matched ∧ (matched = true ↔ text ∈ L) := by
  -- Behind the whole tree there is only the end of the text, which decides the unit of the
  -- product.
  have hsearch : (r.attempt text).Settles (text ∈ L * 1) :=
    h.search_settles atEnd_decides (fun _ heq => by cases heq) text ⟨text, []⟩ rfl
  rw [mul_one] at hsearch
  unfold fullMatch
  by_cases hlen : text.length < r.width.low
  -- A text that is not even searched is too short for any word.
  · rw [if_pos hlen]
    refine ⟨false, rfl, ?_⟩
    constructor
    · intro hfalse
      cases hfalse
    · intro hmem
      have hle := h.width_le hmem
      omega
  · rw [if_neg hlen]
    rcases hsearch with ⟨hmem, u, hu, hmarks⟩ | ⟨hmem, u, hu, _⟩
    · refine ⟨true, ?_, fun _ => hmem, fun _ => rfl⟩
      rw [hu]
      simp only [Attempt.trail?, verdict, Trail.isOrdered, hmarks, Trail.inOrder, if_true]
    · refine ⟨false, ?_, ?_⟩
      · rw [hu]
        rfl
      · constructor
        · intro hfalse
          cases hfalse
        · exact fun h => absurd h hmem

end Regex

end NamePatterns
