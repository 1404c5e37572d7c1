import NamePatterns.Config.Load

/-!
# Following Paths

Where a path leads, and where it leads once its dots are resolved.

A path is followed from directory to directory, so the places above the one it
comes to are directories, and the dots have been followed out of places that
exist. A path without dots needs the same directories but for those places. So
whatever an absolute path leads to is still there when its dots are resolved.
The converse fails: a path may go through a place that does not exist and leave
it again by dots.

The last part of a path with an ending names no dots, so the ending stays.

`Reached` is the invariant of a walk. It says of a place what dots need: the
place above is a directory, and so the walk can be taken back one part at a
time. A place that is reached is then found again by its own parts, which have
no dots any more.

## Main definitions

* `Files.Reached`: A place without dots below directories only.
* `Files.configFile?`: The format and the bytes of a configuration file.
* `Files.Misses`: A path that leads to a configuration file only without its dots.

## Theorems

* `Files.walk?_ok`: Where parts lead.
* `Files.find?_resolve`, `Files.read?_resolve`: Resolving an absolute path keeps what it
  leads to.
* `ConfigFormat.ofPath?_resolve`: Resolving a path keeps the format that its ending tells.
* `Files.mem_of_locate`: What a path is located by.
* `Files.configFile?_resolve`: When a path and what it resolves to lead to the same
  configuration file.
-/

namespace NamePatterns

namespace Path

theorem follow_concat {part : String} (h : part ≠ "..") (place parts : List String) :
    follow place (parts ++ [part]) = follow place parts ++ [part] := by
  induction parts generalizing place with
  | nil =>
      simp only [List.nil_append, follow]
      rw [if_neg h, List.reverse_cons]
  | cons first parts ih =>
      simp only [List.cons_append, follow]
      by_cases hdots : first = ".."
      · rw [if_pos hdots, if_pos hdots, ih]
      · rw [if_neg hdots, if_neg hdots, ih]

theorem endingOf_dots : endingOf "..".toList = [] := by
  decide

/-- A path with an ending has a last part, which is still the last one when the dots
    are resolved. -/
theorem ending_resolve {working p : Path} (h : p.ending ≠ "") :
    (working.resolve p).ending = p.ending := by
  -- Only the last part has an ending, so the path is taken apart from its end.
  rcases List.eq_nil_or_concat p.parts with hparts | ⟨parts, part, hparts⟩
  · exfalso
    apply h
    simp only [ending, hparts]
    rfl
  · rw [List.concat_eq_append] at hparts
    have hlast : p.ending = String.ofList (endingOf part.toList) := by
      simp only [ending, hparts, List.getLast?_concat]
    -- The dots name no file, and have no ending.
    have hname : part ≠ ".." := by
      rintro rfl
      rw [hlast, endingOf_dots] at h
      exact h rfl
    obtain ⟨front, hjoin⟩ : ∃ front, (working.join p).parts = front ++ [part] := by
      unfold join
      split
      · exact ⟨parts, hparts⟩
      · exact ⟨working.parts ++ parts, by simp only [hparts, List.append_assoc]⟩
    have hresolved : (working.resolve p).parts = follow [] front ++ [part] := by
      simp only [resolve, hjoin, follow_concat hname]
    rw [hlast]
    simp only [ending, hresolved, List.getLast?_concat]

/-- Nothing is on a way but the parts that are followed, and those of the place it starts from. -/
theorem mem_follow {place parts : List String} {part : String} (h : part ∈ follow place parts) :
    part ∈ place ∨ part ∈ parts := by
  induction parts generalizing place with
  | nil => exact Or.inl (List.mem_reverse.mp h)
  | cons first parts ih =>
      unfold follow at h
      split at h
      · exact (ih h).imp List.mem_of_mem_tail (List.mem_cons_of_mem first)
      · rcases ih h with hplace | hparts
        · rcases List.mem_cons.mp hplace with rfl | hplace
          · exact Or.inr List.mem_cons_self
          · exact Or.inl hplace
        · exact Or.inr (List.mem_cons_of_mem first hparts)

theorem mem_parts_join {above below : Path} {part : String} (h : part ∈ (above.join below).parts) :
    part ∈ above.parts ∨ part ∈ below.parts := by
  unfold join at h
  split at h
  · exact Or.inr h
  · exact List.mem_append.mp h

end Path

/-- A path is located by parts of its own and of the working directory. -/
theorem Files.mem_of_locate {fs : Files} {p q : Path} (h : fs.locate p = .ok q) {part : String}
    (hpart : part ∈ q.parts) : part ∈ fs.working ∨ part ∈ p.parts := by
  unfold locate at h
  split at h
  · cases h
  · obtain rfl := Except.ok.inj h
    exact Path.mem_parts_join ((Path.mem_follow hpart).resolve_left List.not_mem_nil)

/-- Resolving a path keeps the format that its ending tells. -/
theorem ConfigFormat.ofPath?_resolve {working p : Path} {format : ConfigFormat}
    (h : ofPath? p = some format) : ofPath? (working.resolve p) = some format := by
  have hending : p.ending ≠ "" := by
    intro hempty
    have hnone : ofPath? p = none := by
      simp only [ofPath?, hempty]
      rfl
    rw [hnone] at h
    cases h
  simp only [ofPath?] at h ⊢
  rw [Path.ending_resolve hending]
  exact h

namespace Files

/-- A place is named without dots, and all places above it are directories. -/
structure Reached (fs : Files) (place : List String) : Prop where
  noDots : ".." ∉ place
  above : ∀ front part rest, place = front ++ part :: rest → fs.isDirectory front = true

variable {fs : Files} {place found : List String} {p : Path}

theorem reached_nil : fs.Reached [] := by
  refine ⟨List.not_mem_nil, ?_⟩
  intro front part rest h
  cases front <;> cases h

theorem Reached.concat (h : fs.Reached place) (hdirectory : fs.isDirectory place = true)
    {part : String} (hpart : part ≠ "..") : fs.Reached (place ++ [part]) := by
  constructor
  · intro hmem
    rcases List.mem_append.mp hmem with hmem | hmem
    · exact h.noDots hmem
    · exact hpart (List.mem_singleton.mp hmem).symm
  · intro front next rest heq
    rcases List.eq_nil_or_concat rest with rfl | ⟨rest, last, rfl⟩
    · obtain ⟨rfl, _⟩ := List.append_inj' heq rfl
      exact hdirectory
    · have hsplit : place ++ [part] = (front ++ next :: rest) ++ [last] := by
        rw [heq, List.concat_eq_append, List.append_assoc, List.cons_append]
      obtain ⟨rfl, _⟩ := List.append_inj' hsplit rfl
      exact h.above front next rest rfl

theorem Reached.dropLast (h : fs.Reached place) : fs.Reached place.dropLast := by
  constructor
  · exact fun hmem => h.noDots ((List.dropLast_sublist place).subset hmem)
  · intro front part rest heq
    rcases List.eq_nil_or_concat place with rfl | ⟨place, last, rfl⟩
    · cases front <;> cases heq
    · rw [List.concat_eq_append, List.dropLast_concat] at heq
      refine h.above front part (rest ++ [last]) ?_
      rw [heq, List.concat_eq_append, List.append_assoc, List.cons_append]

/-- Parts lead from a place to the place that they name, and it is reached. -/
theorem walk?_ok {parts : List String} (h : fs.Reached place)
    (hwalk : fs.walk? place parts = some found) :
    found = Path.follow place.reverse parts ∧ fs.Reached found ∧ (fs.node? found).isSome := by
  induction parts generalizing place with
  | nil =>
      simp only [walk?] at hwalk
      split at hwalk
      · next hsome =>
          cases hwalk
          exact ⟨(List.reverse_reverse found).symm, h, hsome⟩
      · cases hwalk
  | cons part parts ih =>
      simp only [walk?] at hwalk
      split at hwalk
      · cases hwalk
      · next hdirectory =>
          simp only [Bool.not_eq_true, Bool.not_eq_false'] at hdirectory
          simp only [Path.follow]
          by_cases hdots : part = ".."
          -- Dots take the last part of the place away, and leave one that was reached before.
          · rw [if_pos hdots] at hwalk ⊢
            rw [List.tail_reverse]
            exact ih h.dropLast hwalk
          · rw [if_neg hdots] at hwalk ⊢
            rw [← List.reverse_concat]
            exact ih (h.concat hdirectory hdots) hwalk

/-- A place that is reached is found by its own parts. -/
theorem walk?_of_reached {rest : List String} (h : fs.Reached (place ++ rest))
    (hsome : (fs.node? (place ++ rest)).isSome) :
    fs.walk? place rest = some (place ++ rest) := by
  induction rest generalizing place with
  | nil =>
      rw [List.append_nil] at hsome ⊢
      rw [walk?, if_pos hsome]
  | cons part rest ih =>
      have hdots : part ≠ ".." := by
        rintro rfl
        exact h.noDots (List.mem_append_right place List.mem_cons_self)
      have hnext : place ++ part :: rest = (place ++ [part]) ++ rest := by
        rw [List.append_assoc, List.singleton_append]
      simp only [walk?, h.above place part rest rfl, Bool.not_true, Bool.false_eq_true, if_false]
      rw [if_neg hdots, hnext]
      rw [hnext] at h hsome
      exact ih h hsome

/-- What an absolute path leads to is where the path without its dots leads. -/
theorem find?_resolve (habsolute : p.isAbsolute = true) (h : fs.find? p = some found) :
    fs.find? (fs.here.resolve p) = some found := by
  simp only [find?, habsolute, if_true] at h
  obtain ⟨hfound, hreached, hsome⟩ := walk?_ok reached_nil h
  have hparts : (fs.here.resolve p).parts = found := by
    simp only [Path.resolve, Path.join, habsolute, if_true]
    exact hfound.symm
  simp only [find?, Path.resolve_isAbsolute, if_true, hparts]
  exact @walk?_of_reached fs [] found hreached hsome

/-- What an absolute path can be read from can be read without its dots. -/
theorem read?_resolve {bytes : List UInt8} (habsolute : p.isAbsolute = true)
    (h : fs.read? p = some bytes) : fs.read? (fs.here.resolve p) = some bytes := by
  unfold read? at h ⊢
  cases hfind : fs.find? p with
  | none =>
      rw [hfind] at h
      cases h
  | some found =>
      rw [find?_resolve habsolute hfind]
      rw [hfind] at h
      exact h

/-- The format and the bytes of the configuration file that a path leads to. -/
def configFile? (fs : Files) (p : Path) : Option (ConfigFormat × List UInt8) :=
  match ConfigFormat.ofPath? p, fs.read? p with
  | some format, some bytes => some (format, bytes)
  | _, _ => none

/-- An absolute path that leads to no configuration file, though what it resolves to
    does: it goes through a place that is no directory, and leaves it by dots. -/
def Misses (fs : Files) (p : Path) : Prop :=
  p.isAbsolute = true ∧ fs.configFile? p = none ∧ fs.configFile? (fs.here.resolve p) ≠ none

instance (fs : Files) (p : Path) : Decidable (fs.Misses p) :=
  inferInstanceAs (Decidable (_ ∧ _ ∧ _))

/-- An absolute path and what it resolves to lead to the same configuration file,
    unless the path misses it. -/
theorem configFile?_resolve (habsolute : p.isAbsolute = true) (hmisses : ¬fs.Misses p) :
    fs.configFile? (fs.here.resolve p) = fs.configFile? p := by
  cases hfile : fs.configFile? p with
  | none => exact Decidable.by_contra fun hsome => hmisses ⟨habsolute, hfile, hsome⟩
  | some file =>
      unfold configFile? at hfile
      split at hfile
      · next format bytes hformat hbytes =>
          cases hfile
          simp only [configFile?, ConfigFormat.ofPath?_resolve hformat,
            read?_resolve habsolute hbytes]
      · cases hfile

end Files

end NamePatterns
