import NamePatterns.Proofs.Regex.Limits
import NamePatterns.Proofs.Text.Feeds

/-!
# What Faults Quote

The characters of a text that its refusal shows as they are.

Names are shown between quotes. An escape, the ends of a range and the head of a group are
shown as they were written. They come from the unit that reveals the fault, except for the
start of a range, which the automaton keeps until the range is read. So if all characters of a
text have a property, and so have the few signs that stand in the heads of groups, all that is
shown of the text as it is has that property. A text without line feeds is refused on one line.

What a later unit may show of an earlier one is part of the state, so the
property of the characters is an invariant of the state as well: `State.Holds`
says it of the start of a range, the only thing that is kept as it was written.
Everything else that is shown comes from the unit at hand.

Names are no concern here. They are quoted, and quoting escapes a line feed
whatever the name is.

## Main definitions

* `Fault.raw`: What a fault shows as it was written.
* `Refusal.Shows`: All that a refusal shows has a property.
* `Mode.raw`: What is kept to be shown later.
* `Keeps`: A step refuses or goes on with nothing but characters that have a property.

## Theorems

* `Parser.act_keeps`, `Parser.run_keeps`: What one unit and several units do.
* `parse_shows`: What the refusal of a text shows.
* `feeds_message_of_parse`: The refusal of a text without line feeds is worded without them.
-/

namespace NamePatterns

namespace Regex

/-- What a fault shows as it was written, and not between quotes. -/
def Fault.raw : Fault → List Char
  | .badEscape token => token
  | .badRange low high => low ++ high
  | .unknownExtension head => head
  | .unterminatedName terminator => [terminator]
  | _ => []

/-- All that a refusal shows as it was written has a property. -/
def Refusal.Shows (p : Char → Prop) : Refusal → Prop
  | .malformed e => ∀ c ∈ e.fault.raw, p c
  | .beyondLimit _ => True

namespace Parser

/-- What is kept to be shown if a range turns out to be none. -/
def Mode.raw : Mode → List Char
  | .set _ _ _ (.pending this _) | .set _ _ _ (.ranging this _) => this.text
  | _ => []

/-- The signs in the heads of groups that faults show. -/
def headSigns : List Char :=
  ['P', '<', '>', ')']

/-- A refusal shows nothing but characters that have a property, and what there is otherwise has
    a property of its own. -/
def Keeps {α : Type} (p : Char → Prop) (P : α → Prop) : Except Refusal α → Prop
  | .error e => e.Shows p
  | .ok a => P a

variable {p : Char → Prop}

namespace Keeps

variable {α β : Type} {P : α → Prop} {Q : β → Prop}

theorem ok {a : α} (h : P a) : Keeps p P (.ok a) :=
  h

/-- A refusal that shows nothing as it was written. -/
theorem fail {fault : Fault} (h : fault.raw = []) (position : Nat) :
    Keeps p P (Parser.fail position fault) := by
  show ∀ c ∈ fault.raw, p c
  rw [h]
  exact nofun

theorem ite {q : Prop} [Decidable q] {x y : Except Refusal α} (hx : q → Keeps p P x)
    (hy : ¬q → Keeps p P y) : Keeps p P (if q then x else y) := by
  by_cases h : q
  · rw [if_pos h]
    exact hx h
  · rw [if_neg h]
    exact hy h

theorem bind {z : Except Refusal β} {f : β → Except Refusal α} (hz : Keeps p Q z)
    (hf : ∀ b, Q b → Keeps p P (f b)) : Keeps p P (z >>= f) := by
  cases z with
  | error e => exact hz
  | ok b => exact hf b hz

end Keeps

/-- What a state keeps to be shown later has a property. -/
def State.Holds (p : Char → Prop) (s : State) : Prop :=
  ∀ c ∈ s.mode.raw, p c

/-- Nothing is kept outside of sets. -/
theorem holds_of_raw {s : State} (h : s.mode.raw = []) : s.Holds p := by
  unfold State.Holds
  rw [h]
  exact nofun

namespace State

-- The functions of the automaton, each in the order of its tests. Outside of sets nothing is
-- kept, so wherever one goes on there the invariant holds trivially.
theorem bar_keeps (s : State) : Keeps p (Holds p) s.bar := by
  unfold bar
  split
  · split
    · exact .ok (holds_of_raw rfl)
    · exact .fail rfl _
  · exact .ok (holds_of_raw rfl)

theorem close_keeps (s : State) : Keeps p (Holds p) s.close := by
  cases hopen : s.openGroups with
  | nil =>
      unfold close
      rw [hopen]
      exact .fail rfl _
  | cons g gs =>
      rw [close_eq hopen]
      exact .ok (holds_of_raw rfl)

theorem repeatLast_keeps (s : State) (start low : Nat) (high : Option Nat) :
    Keeps p (Holds p) (s.repeatLast start low high) := by
  unfold repeatLast
  split
  · exact .fail rfl _
  · exact .fail rfl _
  · exact .fail rfl _
  · exact .fail rfl _
  · exact .ok (holds_of_raw rfl)

/-- What is refused as an escape is shown as it was written. -/
theorem badEscape_keeps {P : State → Prop} {c : Char} (h : ∀ d ∈ (Token.escaped c).text, p d)
    (position : Nat) : Keeps p P (fail position (.badEscape ['\\', c])) :=
  h

theorem item_keeps (s : State) {t : Token} (ht : ∀ c ∈ t.text, p c) :
    Keeps p (Holds p) (s.item t) := by
  cases t with
  | escaped c => exact .ite (fun _ => badEscape_keeps ht _) fun _ => .ok (holds_of_raw rfl)
  | plain c =>
      unfold item
      refine .ite (fun _ => s.bar_keeps) fun _ => ?_
      refine .ite (fun _ => s.close_keeps) fun _ => ?_
      refine .ite (fun _ => .ok (holds_of_raw rfl)) fun _ => ?_
      refine .ite (fun _ => .ok (holds_of_raw rfl)) fun _ => ?_
      refine .ite (fun _ => .ok (holds_of_raw rfl)) fun _ => ?_
      refine .ite (fun _ => .ok (holds_of_raw rfl)) fun _ => ?_
      refine .ite (fun _ => s.repeatLast_keeps _ _ _) fun _ => ?_
      refine .ite (fun _ => s.repeatLast_keeps _ _ _) fun _ => ?_
      refine .ite (fun _ => s.repeatLast_keeps _ _ _) fun _ => ?_
      refine .ite (fun _ => .ok (holds_of_raw rfl)) fun _ => ?_
      refine .ite (fun _ => .ok (holds_of_raw rfl)) fun _ => ?_
      refine .ite (fun _ => .ok (holds_of_raw rfl)) fun _ => ?_
      exact .ite (fun _ => .ok (holds_of_raw rfl)) fun _ => .ok (holds_of_raw rfl)

theorem count?_keeps (ds : List Char) : Keeps p (fun _ => True) (count? ds) := by
  unfold count?
  refine .ite (fun _ => .ok trivial) fun _ => ?_
  refine .ite (fun _ => trivial) fun _ => ?_
  exact .ite (fun _ => trivial) fun _ => .ok trivial

theorem closeBraces_keeps (s : State) (start : Nat) (low : List Char)
    (high : Option (List Char)) : Keeps p (Holds p) (s.closeBraces start low high) := by
  unfold closeBraces
  refine .bind (count?_keeps _) fun least _ => .bind (count?_keeps _) fun greatest _ => ?_
  cases greatest with
  | none => exact s.repeatLast_keeps _ _ _
  | some n =>
      -- What is behind a refusal is never reached, but it has to be looked at.
      refine .ite (fun _ => ?_) fun _ => s.repeatLast_keeps _ _ _
      exact .bind (.fail rfl _) fun _ (_ : True) => s.repeatLast_keeps _ _ _

theorem braces_keeps (s : State) (start : Nat) (low : List Char) (high : Option (List Char))
    {t : Token} (ht : ∀ c ∈ t.text, p c) : Keeps p (Holds p) (s.braces start low high t) := by
  have hliteral := (s.pushLiterals (bracesText low high)).item_keeps ht
  cases t with
  | escaped c => exact hliteral
  | plain c =>
      unfold braces
      refine .ite (fun _ => ?_) fun _ => ?_
      · cases high <;> exact .ok (holds_of_raw rfl)
      refine .ite (fun _ => .ok (holds_of_raw rfl)) fun _ => ?_
      exact .ite (fun _ => s.closeBraces_keeps start low high) fun _ => hliteral

theorem setNext_keeps (s : State) (start : Nat) (negated : Bool) (items : List SetItem)
    {t : Token} (ht : ∀ c ∈ t.text, p c) :
    Keeps p (Holds p) (s.setNext start negated items t) := by
  unfold setNext
  refine .ite (fun _ => .ok (holds_of_raw rfl)) fun _ => ?_
  cases t with
  | escaped c => exact .ite (fun _ => badEscape_keeps ht _) fun _ => .ok ht
  | plain c => exact .ok ht

/-- A range that is none shows both of its ends: the one that was kept and the one just read. -/
theorem badRange_keeps {P : State → Prop} {this t : Token} (hthis : ∀ c ∈ this.text, p c)
    (ht : ∀ c ∈ t.text, p c) (position : Nat) :
    Keeps p P (fail position (.badRange this.text t.text)) :=
  fun c hc => (List.mem_append.mp hc).elim (hthis c) (ht c)

theorem set_keeps (s : State) (start : Nat) (negated : Bool) (items : List SetItem)
    {stage : SetStage} (hstage : ∀ c ∈ (Mode.set start negated items stage).raw, p c) {t : Token}
    (ht : ∀ c ∈ t.text, p c) : Keeps p (Holds p) (s.set start negated items stage t) := by
  cases stage with
  | opened => exact .ite (fun _ => .ok (holds_of_raw rfl)) fun _ => s.setNext_keeps _ _ _ ht
  | items => exact s.setNext_keeps _ _ _ ht
  -- A line makes the start of a range of what was kept; without one it becomes an item of the
  -- set, and the unit is kept in its place.
  | pending this place => exact .ite (fun _ => .ok hstage) fun _ => s.setNext_keeps _ _ _ ht
  | ranging this place =>
      refine .ite (fun _ => .ok (holds_of_raw rfl)) fun _ => ?_
      cases t with
      | escaped c =>
          refine .ite (fun _ => badEscape_keeps ht _) fun _ => ?_
          refine .ite (fun _ => badRange_keeps hstage ht _) fun _ => .ok (holds_of_raw rfl)
      | plain c =>
          exact .ite (fun _ => badRange_keeps hstage ht _) fun _ => .ok (holds_of_raw rfl)

theorem addFlag_keeps (s : State) (start : Nat) (on : List Flag) (f : Flag) :
    Keeps p (Holds p) (s.addFlag start on f) := by
  refine .ite (fun _ => .fail rfl _) fun _ => ?_
  exact .ite (fun _ => .fail rfl _) fun _ => .ok (holds_of_raw rfl)

theorem dropFlag_keeps (s : State) (start : Nat) (on off : List Flag) (f : Flag) :
    Keeps p (Holds p) (s.dropFlag start on off f) :=
  .ite (fun _ => .fail rfl _) fun _ => .ok (holds_of_raw rfl)

theorem flag_keeps (s : State) (t : Token) {otherwise : Fault} (hother : otherwise.raw = [])
    {x : Flag → Except Refusal State} (hx : ∀ f, Keeps p (Holds p) (x f)) :
    Keeps p (Holds p) (match t, Flag.ofChar? t.char with
      | .plain _, some f => x f
      | _, _ => s.refuseFlag t otherwise) := by
  cases t with
  | escaped c => exact .fail hother _
  | plain c =>
      cases Flag.ofChar? (Token.plain c).char with
      | some f => exact hx f
      | none =>
          refine .fail ?_ _
          split
          · rfl
          · exact hother

theorem question_keeps (s : State) (start : Nat) {t : Token} (ht : ∀ c ∈ t.text, p c) :
    Keeps p (Holds p) (s.question start t) := by
  cases t with
  | escaped c => exact ht
  | plain c =>
      unfold question
      refine .ite (fun _ => .ok (holds_of_raw rfl)) fun _ => ?_
      refine .ite (fun _ => .ok (holds_of_raw rfl)) fun _ => ?_
      refine .ite (fun _ => .ok (holds_of_raw rfl)) fun _ => ?_
      refine .ite (fun _ => .ok (holds_of_raw rfl)) fun _ => ?_
      refine .ite (fun _ => .ok (holds_of_raw rfl)) fun _ => ?_
      refine .ite (fun _ => .ok (holds_of_raw rfl)) fun _ => ?_
      refine .ite (fun _ => .ok (holds_of_raw rfl)) fun _ => ?_
      refine .ite (fun _ => .ok (holds_of_raw rfl)) fun _ => ?_
      refine .ite (fun _ => .ok (holds_of_raw rfl)) fun _ => ?_
      cases Flag.ofChar? c with
      | some f => exact s.addFlag_keeps start [] f
      | none => exact ht

theorem checkBehind_keeps (s : State) (group : Nat) :
    Keeps p (fun _ => True) (s.checkBehind group) := by
  unfold checkBehind
  cases s.behindLimit with
  | none => exact .ok trivial
  | some limit =>
      refine .ite (fun _ => .fail rfl _) fun _ => ?_
      exact .ite (fun _ => .fail rfl _) fun _ => .ok trivial

theorem testNumbered_keeps (s : State) (place : Nat) (name : List Char) :
    Keeps p (fun _ => True) (s.testNumbered place name) := by
  unfold testNumbered
  cases Text.integer? name with
  | none => exact .fail rfl _
  | some n =>
      refine .ite (fun _ => .fail rfl _) fun _ => ?_
      refine .ite (fun _ => .fail rfl _) fun _ => ?_
      exact .ite (fun _ => .fail rfl _) fun _ => .ok trivial

theorem closeName_keeps (s : State) (start : Nat) (use : NameUse) (place : Nat)
    (name : List Char) : Keeps p (Holds p) (s.closeName start use place name) := by
  cases use with
  | define =>
      refine .ite (fun _ => .bind (.fail rfl _) fun _ (_ : True) => ?_) fun _ => ?_
      all_goals
        cases s.groupNamed? name with
        | some former => exact .fail rfl _
        | none => exact .ok (holds_of_raw rfl)
  | refer =>
      refine .ite (fun _ => .bind (.fail rfl _) fun _ (_ : True) => ?_) fun _ => ?_
      all_goals
        cases s.groupNamed? name with
        | none => exact .fail rfl _
        | some group =>
            dsimp only
            cases s.closedWidth? group with
            | none => exact .fail rfl _
            | some w =>
                exact .bind (s.checkBehind_keeps group) fun _ _ => .ok (holds_of_raw rfl)
  | test =>
      -- By name or by number, a condition ends in the same check.
      have hcheck (group : Nat) (s' : State) : Keeps p (Holds p) (do
          s'.checkBehind group
          return s'.enter start (.conditional group none) s'.level.verbose) :=
        .bind (s'.checkBehind_keeps group) fun _ _ => .ok (holds_of_raw rfl)
      refine .ite (fun _ => ?_) fun _ => ?_
      · cases s.groupNamed? name with
        | none => exact .bind (.fail rfl _) fun x (_ : True) => hcheck x.1 x.2
        | some group => exact hcheck group s
      · exact .bind (s.testNumbered_keeps place name) fun x _ => hcheck x.1 x.2

theorem head_keeps (hsigns : ∀ c ∈ headSigns, p c) {s : State} (hs : s.Holds p) (start : Nat)
    {h : Head} {t : Token} (ht : ∀ c ∈ t.text, p c) : Keeps p (Holds p) (s.head start h t) := by
  -- What may not follow in the head of a group is shown with the sign before it.
  have hunknown {sign : Char} (hsign : sign ∈ headSigns) (position : Nat) :
      Keeps p (Holds p) (Parser.fail position (.unknownExtension (sign :: t.text))) :=
    List.forall_mem_cons.mpr ⟨hsigns sign hsign, ht⟩
  cases h with
  | opened => exact .ite (fun _ => .ok (holds_of_raw rfl)) fun _ => item_keeps _ ht
  | question => exact s.question_keeps start ht
  | extension =>
      refine .ite (fun _ => .ok (holds_of_raw rfl)) fun _ => ?_
      exact .ite (fun _ => .ok (holds_of_raw rfl)) fun _ => hunknown (by decide) _
  | behind =>
      refine .ite (fun _ => .ok (holds_of_raw rfl)) fun _ => ?_
      exact .ite (fun _ => .ok (holds_of_raw rfl)) fun _ => hunknown (by decide) _
  | comment => exact .ite (fun _ => .ok (holds_of_raw rfl)) fun _ => .ok hs
  | name use place read =>
      refine .ite (fun _ => ?_) fun _ => .ok (holds_of_raw rfl)
      exact .ite (fun _ => .fail rfl _) fun _ => s.closeName_keeps start use place _
  | flagsOn on =>
      refine .ite (fun _ => .fail rfl _) fun _ => ?_
      refine .ite (fun _ => ?_) fun _ => s.flag_keeps t rfl fun f => s.addFlag_keeps start on f
      refine .ite (fun _ => .fail rfl _) fun _ => ?_
      exact .ite (fun _ => .ok (holds_of_raw rfl)) fun _ => .ok (holds_of_raw rfl)
  | minus on => exact s.flag_keeps t rfl fun f => s.dropFlag_keeps start on [] f
  | flagsOff on off =>
      refine .ite (fun _ => ?_) fun _ =>
        s.flag_keeps t rfl fun f => s.dropFlag_keeps start on off f
      refine .ite (fun _ => .fail rfl _) fun _ => ?_
      exact .ite (fun _ => .fail rfl _) fun _ => .ok (holds_of_raw rfl)

theorem afterRepetition_keeps (s : State) {t : Token} (ht : ∀ c ∈ t.text, p c) :
    Keeps p (Holds p) (s.afterRepetition t) := by
  unfold afterRepetition
  rw [setGreed_eq, setGreed_eq]
  refine .ite (fun _ => .ok (holds_of_raw rfl)) fun _ => ?_
  exact .ite (fun _ => .ok (holds_of_raw rfl)) fun _ => s.item_keeps ht

end State

/-- One unit. -/
theorem act_keeps (hsigns : ∀ c ∈ headSigns, p c) {s : State} (hs : s.Holds p) {t : Token}
    (ht : ∀ c ∈ t.text, p c) : Keeps p (State.Holds p) (act s t) := by
  unfold act
  cases hmode : s.mode with
  | items => exact s.item_keeps ht
  | repeated => exact s.afterRepetition_keeps ht
  | lineComment =>
      refine .ok ?_
      split
      · exact holds_of_raw rfl
      · exact hs
  | braces start low high => exact s.braces_keeps start low high ht
  | set start negated items stage =>
      refine s.set_keeps start negated items ?_ ht
      rw [← hmode]
      exact hs
  | head start h => exact State.head_keeps hsigns hs start ht

/-- Several units, one after the other. -/
theorem run_keeps (hsigns : ∀ c ∈ headSigns, p c) {s : State} (hs : s.Holds p) {ts : List Token}
    (hts : ∀ t ∈ ts, ∀ c ∈ t.text, p c) : Keeps p (State.Holds p) (run s ts) := by
  induction ts generalizing s with
  | nil => exact .ok hs
  | cons t ts ih =>
      have hact := act_keeps hsigns hs (hts t List.mem_cons_self)
      have hrest {s' : State} (hs' : s'.Holds p) : Keeps p (State.Holds p) (run s' ts) :=
        ih hs' fun u hu => hts u (List.mem_cons_of_mem t hu)
      unfold run
      rw [List.foldlM_cons]
      -- Moving on changes the place alone, and no place is shown as it was written.
      refine Keeps.bind (Q := State.Holds p) ?_ fun s' hs' => hrest hs'
      unfold step
      cases hstep : act s t with
      | error e =>
          rw [hstep] at hact
          exact hact
      | ok s' =>
          rw [hstep] at hact
          exact hact

/-- What is shown if a text ends in the head of a group: at most the sign that ends a name. -/
theorem endOfHead_shows (hsigns : ∀ c ∈ headSigns, p c) (s : State) (start : Nat) (h : Head) :
    ∀ c ∈ (endOfHead s start h).1.raw, p c := by
  cases h with
  | name use place read =>
      have hterminator : p use.terminator := by
        refine hsigns _ ?_
        cases use <;> decide
      cases read with
      | nil => exact nofun
      | cons r rs => exact List.forall_mem_singleton.mpr hterminator
  | _ => exact nofun

/-- The end of a text. -/
theorem finish_keeps (hsigns : ∀ c ∈ headSigns, p c) (s : State) :
    Keeps p (fun _ => True) (finish s) := by
  cases hend : s.mode.mayEnd with
  | true =>
      -- What is left open is refused without being shown.
      rw [finish_eq_ended hend]
      cases s.openGroups with
      | cons g gs => exact .fail rfl _
      | nil =>
          dsimp only
          cases s.tested.find? (s.groups.length < ·.1) with
          | none => exact .ok trivial
          | some x => exact .fail rfl _
  | false =>
      unfold finish
      cases hmode : s.mode with
      | set start negated items stage => exact .fail rfl _
      | head start h => exact endOfHead_shows hsigns s start h
      | _ =>
          rw [hmode] at hend
          cases hend

end Parser

/-- What the refusal of a text shows as it was written has each property that all characters of
    the text have, and the signs in the heads of groups. -/
theorem parse_shows {p : Char → Prop} (hsigns : ∀ c ∈ Parser.headSigns, p c) {cs : List Char}
    (hcs : ∀ c ∈ cs, p c) {e : Refusal} (h : parse cs = .error e) : e.Shows p := by
  have hparse : Parser.Keeps p (fun _ => True) (parse cs) := by
    unfold parse
    cases htokens : Token.ofChars? cs with
    | none => exact .fail rfl _
    | some ts =>
        have hts : ∀ t ∈ ts, ∀ c ∈ t.text, p c := by
          intro t ht c hc
          refine hcs c ?_
          -- Units are made of the characters of the text and of nothing else.
          rw [← Token.text_ofChars? htokens]
          exact List.mem_flatMap_of_mem ht hc
        refine .bind (Parser.run_keeps hsigns (Parser.holds_of_raw rfl) hts) fun s _ => ?_
        refine .bind (Parser.finish_keeps hsigns s) fun r _ => ?_
        refine Parser.Keeps.bind (Q := fun _ => True) ?_ fun _ _ => .ok trivial
        unfold checkLookBehinds
        -- Widths are refused without a quotation.
        refine .ite (fun _ => List.forall_mem_nil p) fun _ => ?_
        exact .ite (fun _ => trivial) fun _ => .ok trivial
  rw [h] at hparse
  exact hparse

section

open Text (feeds feeds_append feeds_append_eq_zero feeds_ofList_eq_zero feeds_ofList_quote
  feeds_toString)

/-- A fault is worded without line feeds if none is shown as it was written. -/
theorem Fault.feeds_message {f : Fault} (h : '\n' ∉ f.raw) : feeds f.message = 0 := by
  -- What is shown as it was written, names between quotes, and numbers; the rest are fixed words,
  -- which are looked through as lists of characters.
  cases f with
  | badEscape token => exact feeds_append_eq_zero rfl (feeds_ofList_eq_zero h)
  | badRange low high =>
      obtain ⟨hlow, hhigh⟩ := not_or.mp (List.mem_append.not.mp h)
      have hfirst : feeds ("bad character range " ++ String.ofList low) = 0 :=
        feeds_append_eq_zero rfl (feeds_ofList_eq_zero hlow)
      exact feeds_append_eq_zero (feeds_append_eq_zero hfirst rfl) (feeds_ofList_eq_zero hhigh)
  | unknownExtension head => exact feeds_append_eq_zero rfl (feeds_ofList_eq_zero h)
  | unterminatedName terminator =>
      exact feeds_append_eq_zero (feeds_append_eq_zero rfl (feeds_ofList_eq_zero h)) rfl
  | badName name => exact feeds_append_eq_zero rfl (feeds_ofList_quote name)
  | unknownName name => exact feeds_append_eq_zero rfl (feeds_ofList_quote name)
  | redefinition name group former =>
      have hname : feeds ("redefinition of group name " ++ String.ofList (Text.quote name)) = 0 :=
        feeds_append_eq_zero rfl (feeds_ofList_quote name)
      have hgroup : feeds ("redefinition of group name " ++ String.ofList (Text.quote name)
          ++ " as group " ++ toString group) = 0 :=
        feeds_append_eq_zero (feeds_append_eq_zero hname rfl) (feeds_toString group)
      exact feeds_append_eq_zero (feeds_append_eq_zero hgroup rfl) (feeds_toString former)
  | invalidReference group => exact feeds_append_eq_zero rfl (feeds_toString group)
  | _ => exact feeds_ofList_eq_zero (by decide)

/-- The place of a fault brings in no line feeds. -/
theorem SyntaxError.feeds_message (text : String) (e : SyntaxError) :
    feeds (e.message text) = feeds e.fault.message := by
  obtain ⟨fault, position⟩ := e
  cases position with
  | none => rfl
  | some p =>
      have hplace : feeds (fault.message ++ " at position " ++ toString p)
          = feeds fault.message := by
        rw [feeds_append, feeds_append, feeds_toString]
        rfl
      unfold message
      dsimp only
      split
      -- A text of several lines also gets a line and a column, which are numbers too.
      · simp only [feeds_append] at hplace ⊢
        rw [hplace, feeds_toString, feeds_toString]
        rfl
      · exact hplace

/-- The refusal of a text without line feeds is worded without them. -/
theorem feeds_message_of_parse {text : String} (htext : feeds text = 0) {e : SyntaxError}
    (h : parse text.toList = .error (.malformed e)) : feeds (e.message text) = 0 := by
  have htext : ∀ c ∈ text.toList, c ≠ '\n' := by
    rintro c hc rfl
    exact List.count_eq_zero.mp htext hc
  have hsigns : ∀ c ∈ Parser.headSigns, c ≠ '\n' := by
    simp [Parser.headSigns]
  have hshows : ∀ c ∈ e.fault.raw, c ≠ '\n' := parse_shows hsigns htext h
  rw [SyntaxError.feeds_message]
  exact Fault.feeds_message fun hfeed => hshows _ hfeed rfl

end

end Regex

end NamePatterns
