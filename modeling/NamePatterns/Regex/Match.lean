import NamePatterns.Regex.Error
import NamePatterns.Regex.Repetition

/-!
# Matching

Whether a regular expression matches a whole text.

Each kind of tree is a matcher. Groups that match in one way only, and
assertions, run with the continuation that accepts every place, and keep the
first one it is offered. Alternatives are tried in their order; between two of
them, and after an assertion that has to fail, the marks are put back if the
tree stands in the body of a repetition, and merely cut back otherwise.

A text that is shorter than the tree's width is refused without a search, and
a match in which a group ends before it starts is an error.

## Main definitions

* `enter`: An alternative, tested before it is tried.
* `Regex.search`: The first way to match that the rest accepts.
* `Regex.attempt`: The first way in which a tree matches a whole text.
* `Regex.fullMatch`: Whether a tree matches a whole text.

## Theorems

* `search_of_excludes`: A tree fails where what it tests first does.
-/

namespace NamePatterns

namespace Regex

/-- An alternative: it is entered only where what it tests first does not
    fail. -/
def enter (o : Opening) (body : Matcher) : Matcher := fun p t rest =>
  if o.excludes p then .failure t else body p (t.goto p) rest

/-- Whether a tree is a choice between alternatives. -/
def isAlt : Regex → Bool
  | alt .. => true
  | _ => false

/-- Whether a tree is empty. -/
def isEmpty : Regex → Bool
  | empty => true
  | _ => false

/-- The first way to match in a whole text that the rest accepts. `repeated`
    says whether the tree stands in the body of a repetition that may try it
    again, and `ahead` is the literal that has to follow the tree, if there is
    one. -/
def search (whole : List Char) (f : Flags) (repeated : Bool) :
    Regex → (ahead : Option (Char → Bool)) → Matcher
  | empty, _, p, t, rest => rest p t
  | literal c, _, p, t, rest => takeChar (literalMatches f c) p t rest
  | anyBut c, _, p, t, rest => takeChar (fun d => !literalMatches f c d) p t rest
  | any, _, p, t, rest => takeChar (fun c => f.dotAll || c != '\n') p t rest
  | set negated items, _, p, t, rest => takeChar (setMatches f negated items) p t rest
  | lineStart, _, p, t, rest =>
    if p.length == whole.length || (f.multiline && p.previous? whole == some '\n') then rest p t
    else .failure t
  | lineEnd, _, p, t, rest =>
    if p.isEmpty || p == ['\n'] || (f.multiline && p.head? == some '\n') then rest p t
    else .failure t
  | cat a b, ahead, p, t, rest =>
    search whole f repeated a ((opening f b).ahead ahead) p t fun q t =>
      search whole f repeated b ahead q t rest
  | alt a b, _, p, t, rest =>
    let restore (u : Trail) : Trail := u.restored repeated t.marks
    (enter (opening f a) (search whole f repeated a none) p t rest).orElse fun u =>
      let u := restore u
      -- A second part that is a choice holds the alternatives that follow.
      (if b.isAlt then search whole f repeated b none p u rest
        else enter (opening f b) (search whole f repeated b none) p u rest).onFailure restore
  | repetition low high greed r, ahead, p, t, rest =>
    match single? f r with
    | some s => repeatSingle s greed low high repeated ahead p t rest
    | none =>
      let body := search whole f (repeated || greed != .possessive) r none
      repeatAny body greed (iterationBound whole) low high repeated p t rest
  | capture group r, _, p, t, rest =>
    search whole f repeated r none p (t.openGroup group p) fun q t => rest q (t.closeGroup group q)
  | flagged change r, ahead, p, t, rest => search whole (f.change change) repeated r ahead p t rest
  | atomic r, _, p, t, rest =>
    ((search whole f repeated r none p t accept).onFailure (·.goto p)).andThen fun t =>
      rest t.reached t
  | lookAhead negated r, _, p, t, rest =>
    match search whole f repeated r none p (t.goto p) accept, negated with
    | .success u, false => rest p u
    | .failure u, true => rest p (u.restored repeated t.marks)
    | .success u, true | .failure u, false => .failure u
  | lookBehind negated r, _, p, t, rest =>
    match p.back? whole r.width.low, negated with
    | none, false => .failure t
    | none, true => rest p t
    | some q, negated =>
      match search whole f repeated r none q (t.goto q) accept, negated with
      | .success u, false => rest p u
      | .failure u, true => rest p (u.restored repeated t.marks)
      | .success u, true | .failure u, false => .failure u
  | backref group _, _, p, t, rest =>
    match t.matched? group with
    | some text => takeText f text p t rest
    | none => .failure t
  | conditional group yes no, ahead, p, t, rest =>
    match t.matched? group with
    | some _ => search whole f repeated yes (if no.isEmpty then ahead else none) p t rest
    | none => search whole f repeated no ahead p t rest

/-- The first way in which a tree matches a whole text. -/
def attempt (r : Regex) (text : List Char) : Attempt :=
  search text {} false r none text ⟨text, []⟩ atEnd

/-- What a match amounts to, or that there is none. -/
def verdict : Option Trail → Except LimitError Bool
  | none => .ok false
  | some t => if t.isOrdered then .ok true else .error .groupOrder

/-- Whether a tree matches a whole text. A text below the least length of the
    tree is not searched. -/
def fullMatch (r : Regex) (text : List Char) : Except LimitError Bool :=
  if text.length < r.width.low then .ok false else verdict (r.attempt text).trail?

/-- A tree that tests nothing first is empty. -/
theorem search_of_nothing {whole : List Char} {f : Flags} {repeated : Bool} {r : Regex}
    (h : opening f r = .nothing) (ahead : Option (Char → Bool)) (p : Place) (t : Trail)
    (rest : Rest) : search whole f repeated r ahead p t rest = rest p t := by
  induction r generalizing f ahead p t rest with
  | empty => rfl
  | cat a b iha ihb =>
    have ha : opening f a = .nothing := by
      cases o : opening f a <;> simp_all [opening]
    have hb : opening f b = .nothing := by
      simpa [opening, ha] using h
    simp only [search, iha ha, ihb hb]
  | flagged change r ih => exact ih h ahead p t rest
  | literal c | set negated items => simp only [opening] at h; split at h <;> cases h
  | _ => cases h

/-- A tree fails where what it tests first does, and leaves nothing behind. -/
theorem search_of_excludes {whole : List Char} {f : Flags} {repeated : Bool} {r : Regex} {p : Place}
    (h : (opening f r).excludes p) (ahead : Option (Char → Bool)) (t : Trail)
    (rest : Rest) : search whole f repeated r ahead p t rest = .failure t := by
  induction r generalizing f ahead t rest with
  | literal c | set negated items =>
    simp only [opening] at h
    split at h
    · cases h
    · cases p <;> simp_all [search, takeChar, Opening.excludes, startsWith]
  | cat a b iha ihb =>
    cases o : opening f a with
    | nothing =>
      simp only [opening, o] at h
      simp only [search, search_of_nothing o]
      exact ihb h ahead t rest
    | literal _ | set _ | other =>
      simp only [opening, o] at h
      exact iha (o.symm ▸ h) _ t _
  | flagged change r ih => exact ih h ahead t rest
  | _ => cases h

end Regex

end NamePatterns
