import NamePatterns.Regex.Attempt

/-!
# Repetitions

Matchers several times in a row.

A repetition first takes the iterations it has to take. Further ones are
optional, and there is no next one after one that ended where it started.
Where each iteration consumes something, their number is at most the number of
characters left, so the square of the length of the text is a generous bound.

What takes exactly one character is repeated without trying: the places it can
lead to are found by counting, and the rest is tried from each of them. If a
literal has to follow, only places where it does are tried.

A possessive repetition takes each iteration in the first way it matches and
keeps to it. When an iteration fails, its marks are put back, and the
repetition goes on from the place that was reached last, which need not be the
place where that iteration started.

## Main definitions

* `stops`: The places that accepted characters lead to.
* `repeatSingle`: Repetitions of what takes exactly one character.
* `repeatGreedy`, `repeatLazy`, `repeatWhile`: Optional iterations.
* `repeatAny`: Repetitions of any other matcher.

## Theorems

* `stops_append`: Places that are found already come last.
-/

namespace NamePatterns

namespace Regex

/-- The last place that accepted characters lead to, up to a limit, and the
    wanted ones among the places on the way, the last first. Places where more
    characters are owed are left out. -/
def stops (accepts : Char → Bool) (wanted : Place → Bool) :
    Place → (owed limit : Nat) → (found : List Place) → Place × List Place
  | [], owed, _, found => ([], if owed == 0 && wanted [] then [] :: found else found)
  | p@(c :: cs), owed, limit, found =>
    let found := if owed == 0 && wanted p then p :: found else found
    if limit == 0 || !accepts c then (p, found)
    else stops accepts wanted cs (owed - 1) (limit - 1) found

/-- Places that are found already come last. -/
theorem stops_append (accepts : Char → Bool) (wanted : Place → Bool) (p : Place)
    (owed limit : Nat) (found : List Place) :
    (stops accepts wanted p owed limit found).2
      = (stops accepts wanted p owed limit []).2 ++ found := by
  induction p generalizing owed limit found with
  | nil => simp only [stops]; split <;> rfl
  | cons c cs ih =>
    simp only [stops]
    split
    · split <;> rfl
    · by_cases h : (owed == 0 && wanted (c :: cs)) = true
      · rw [if_pos h, if_pos h, ih, ih _ _ [c :: cs], List.append_assoc]
        rfl
      · rw [if_neg h, if_neg h, ih]

/-- The rest from the first of some places where it succeeds. -/
def tryEach (restore : Trail → Trail) (rest : Rest) : List Place → Trail → Attempt
  | [], t => .failure t
  | q :: qs, t => (rest q (t.goto q)).orElse fun t => tryEach restore rest qs (restore t)

/-- The place that counting one more character reaches. -/
def Single.reach (s : Single) (p : Place) : Place :=
  match p with
  | [] => p
  | c :: cs => if s.advances && s.accepts c then cs else p

/-- The rest from the first of some places where it succeeds, each of which is
    found by counting one more character. -/
def tryUpward (s : Single) (restore : Trail → Trail) (rest : Rest) :
    List Place → Trail → Attempt
  | [], t => .failure t
  | q :: qs, t =>
    (rest q (t.goto q)).orElse fun t =>
      tryUpward s restore rest qs ((restore t).goto (s.reach q))

/-- A repetition of what takes exactly one character. -/
def repeatSingle (s : Single) (greed : Greed) (low : Nat) (high : Option Nat) (putBack : Bool)
    (ahead : Option (Char → Bool)) : Matcher := fun p t rest =>
  if low != 0 && p.length < low then .failure t
  else
    let wanted : Place → Bool :=
      match greed, ahead with
      | .greedy, some accepts => startsWith accepts
      | _, _ => fun _ => true
    let (farthest, places) := stops s.accepts wanted p low (high.getD p.length) []
    let t := t.goto (if s.advances then farthest else p)
    let restore (u : Trail) : Trail := u.restored putBack t.marks
    match greed, places with
    | .greedy, _ => tryEach restore rest places t
    | .lazy, _ => tryUpward s restore rest places.reverse t
    | .possessive, [] => .failure t
    | .possessive, q :: _ => rest q t

/-- A number of iterations that have to be there. -/
def repeatExactly (body : Matcher) : Nat → Matcher
  | 0, p, t, rest => rest p t
  | n + 1, p, t, rest => body p t fun p t => repeatExactly body n p t rest

/-- Further iterations that need not be there, as many as possible first.
    `last` tells where the latest of them started: there is no next one if it
    ended there. -/
def repeatGreedy (body : Matcher) :
    (fuel : Nat) → (high : Option Nat) → (last : Option Nat) → Matcher
  | 0, _, _, p, t, rest => rest p t
  | fuel + 1, high, last, p, t, rest =>
    if high = some 0 || last = some p.length then rest p t
    else
      (body p t fun q u =>
        repeatGreedy body fuel (high.map (· - 1)) (some p.length) q u rest).orElse
          fun u => rest p (u.restored true t.marks)

/-- Further iterations that need not be there, as few as possible first. -/
def repeatLazy (body : Matcher) (putBack : Bool) :
    (fuel : Nat) → (high : Option Nat) → (last : Option Nat) → Matcher
  | 0, _, _, p, t, rest => rest p t
  | fuel + 1, high, last, p, t, rest =>
    (rest p t).orElse fun u =>
      let u := u.restored putBack t.marks
      if high = some 0 || last = some p.length then .failure u
      else
        body p u fun q u =>
          repeatLazy body putBack fuel (high.map (· - 1)) (some p.length) q u rest

/-- A number of iterations that have to be there, each in one way only. -/
def repeatAtomic (body : Matcher) : Nat → Trail → Attempt
  | 0, t => .success t
  | n + 1, t => (body t.reached t accept).andThen (repeatAtomic body n)

/-- Further iterations, each in one way only, until one fails or ends where it
    started. What a failed iteration has reached stays reached. -/
def repeatWhile (body : Matcher) :
    (fuel : Nat) → (high : Option Nat) → (last : Option Nat) → Trail → Trail
  | 0, _, _, t => t
  | fuel + 1, high, last, t =>
    if high = some 0 || last = some t.reached.length then t
    else
      match body t.reached t accept with
      | .success u =>
        repeatWhile body fuel (high.map (· - 1)) (some t.reached.length) u
      | .failure u => u.restored true t.marks

/-- A bound on the iterations of a repetition in a text. -/
def iterationBound (whole : List Char) : Nat :=
  (whole.length + 1) * (whole.length + 1)

/-- A repetition that gives up its other ways to match once it has matched. -/
def repeatPossessive (body : Matcher) (bound low : Nat) (high : Option Nat) : Matcher :=
  fun p t rest =>
    ((repeatAtomic body low (t.goto p)).onFailure (·.goto p)).andThen fun t =>
      let t := repeatWhile body bound (high.map (· - low)) none t
      rest t.reached t

/-- A repetition of any tree. -/
def repeatAny (body : Matcher) (greed : Greed) (bound low : Nat) (high : Option Nat)
    (putBack : Bool) : Matcher := fun p t rest =>
  let more := high.map (· - low)
  match greed with
  | .greedy =>
    (repeatExactly body low p t fun q t => repeatGreedy body bound more none q t rest).onFailure
      (·.goto p)
  | .lazy =>
    (repeatExactly body low p t fun q t =>
      repeatLazy body putBack bound more none q t rest).onFailure (·.goto p)
  | .possessive => repeatPossessive body bound low high p t rest

end Regex

end NamePatterns
