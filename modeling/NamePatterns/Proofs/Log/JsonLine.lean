import NamePatterns.Log.Entry
import NamePatterns.Proofs.Json.RoundTrip
import NamePatterns.Proofs.Log.Calendar
import NamePatterns.Proofs.Results
import NamePatterns.Proofs.Text.Words

/-!
# Log Lines as JSON

What a log line as JSON says is what was logged.

The fields of a record are built from loosely typed arguments. Of these, what is absent or null
is left out, and so is a table of details that is empty. A truth value and a text stay even if
they are false or empty. The rest is kept as it is, except for the name of a format, which may
be written in several ways and is kept in one. So building the fields again from what was kept
changes nothing.

The line is one object on one line, which is read as the moment, the level, the message, the
logger and the fields that were kept. There is a line just if the moment has a text, and it is
the line of a record, so the level has a name. Integers in the details are part of the arguments,
and are taken to be short enough to be written. A longer one keeps the line from being written.

What is kept is a function from fields to values. Looking a field up in a table
that is made of such a function gives its value back, whichever function it is;
that carries both halves of the round trip, and only the order of the fields is
left to be compared.

## Main definitions

* `ConfigFormat.NamedBy`: The ways to write the name of a format.
* `Log.Arguments`, `Log.Arguments.Given`: What the fields are built from.
* `Log.Arguments.kept`: The fields that are kept.

## Theorems

* `ConfigFormat.ofString_of_namedBy`: A format is known by each of its names.
* `Log.Fields.given?_toTable_having`: Each field is found in the table by its
  name.
* `Log.Arguments.Given.ofValues_eq`: The fields that are built are those that are kept.
* `Log.Arguments.given_toTable`: They can be built again from what was kept.
* `Log.Arguments.plain_payload`: What an entry shows is made of values that are
  read back.
* `Log.Arguments.toTable_kept`: Fields are written in the order in which they
  were kept.
* `Log.Arguments.exists_jsonLine`: The line of an entry, and what it is read as.
* `Log.Arguments.Given.read_jsonLine`: What a line says of what was logged.
* `Log.Arguments.no_jsonLine`: What keeps a line from being written.
-/

namespace NamePatterns

namespace Text

/-- A blank is no letter. -/
theorem lowerAscii_of_isBlank {c : Char} (h : isBlank c = true) : lowerAscii c = c := by
  unfold lowerAscii
  refine if_neg fun hletter => ?_
  simp only [Bool.and_eq_true, decide_eq_true_eq] at hletter
  have hlow : 65 ≤ c.toNat := UInt32.le_iff_toNat_le.mp hletter.1
  have hhigh : c.toNat ≤ 90 := UInt32.le_iff_toNat_le.mp hletter.2
  simp only [isBlank, Bool.or_eq_true, Bool.and_eq_true, decide_eq_true_eq, beq_iff_eq] at h
  omega

/-- A text whose lower case is a word has no blanks to be trimmed. -/
theorem trim_of_lower {cs : List Char} (h : IsWord (cs.map lowerAscii)) : trim cs = cs := by
  -- A blank stays a blank in lower case, so there was none before either.
  have hword : IsWord cs := by
    refine ⟨fun hnil => h.ne_nil (by rw [hnil, List.map_nil]), fun c hc => ?_⟩
    cases hblank : isBlank c with
    | false => rfl
    | true =>
        have hlower := h.not_blank _ (List.mem_map_of_mem hc)
        rw [lowerAscii_of_isBlank hblank, hblank] at hlower
        exact hlower
  have hleft := trimLeft_word_append hword []
  have hright := trimRight_append_word hword []
  rw [List.append_nil] at hleft
  rw [List.nil_append] at hright
  rw [trim, hleft, hright]

end Text

namespace ConfigFormat

/-- The ways to write the name of a format: in any case, behind a dot or not. -/
def NamedBy (f : ConfigFormat) (raw : String) : Prop :=
  raw.toList.map Text.lowerAscii ∈ [f.name.toList, '.' :: f.name.toList]

instance (f : ConfigFormat) (raw : String) : Decidable (f.NamedBy raw) :=
  inferInstanceAs (Decidable (_ ∈ _))

/-- A format is known by each of its names. -/
theorem ofString_of_namedBy {f : ConfigFormat} {raw : String} (h : f.NamedBy raw) :
    ofString raw = .ok f := by
  have hword : ∀ f : ConfigFormat, ∀ cs ∈ [f.name.toList, '.' :: f.name.toList],
      Text.IsWord cs := by
    intro f
    cases f <;> decide
  unfold ofString normalName
  rw [Text.trim_of_lower (hword f _ h), String.toList_ofList]
  rcases List.mem_pair.mp h with hplain | hdot
  · rw [hplain]
    cases f <;> rfl
  · rw [hdot]
    cases f <;> rfl

end ConfigFormat

/-- The value of a key is that of the first member with the key. -/
theorem Table.find?_eq (key : String) (t : Table) :
    t.find? key = (List.find? (fun m => m.1 = key) t).map (·.2) := by
  induction t with
  | nil => rfl
  | cons m t ih =>
      obtain ⟨k, v⟩ := m
      rw [find?]
      by_cases hk : k = key
      · rw [if_pos hk, List.find?_cons_of_pos (by simpa)]
        rfl
      · rw [if_neg hk, List.find?_cons_of_neg (by simpa), ih]

namespace Log

theorem Field.name_injective : Function.Injective Field.name := by
  intro a b h
  cases a <;> cases b <;> first | rfl | exact absurd h (by decide)

theorem Field.mem_all (field : Field) : field ∈ Field.all := by
  cases field <;> decide

namespace Fields

/-- The fields that have a value, in the order in which they are written. -/
def having (value : Field → Option Value) : Fields :=
  Field.all.filterMap fun field => (value field).map (field, ·)

variable {κ : Type} [DecidableEq κ] {key : Field → κ} {value : Field → Option Value}

/-- Among the fields that have a value, each has its own, whatever they are called by. -/
theorem find?_filterMap (hkey : Function.Injective key) (value : Field → Option Value)
    (field : Field) (fields : List Field) :
    List.find? (fun m => m.1 = key field) (fields.filterMap fun f => (value f).map (key f, ·))
      = if field ∈ fields then (value field).map (key field, ·) else none := by
  induction fields with
  | nil => rfl
  | cons f fields ih =>
      by_cases hf : f = field
      · subst hf
        cases hvalue : value f with
        | none =>
            rw [List.filterMap_cons_none (by rw [hvalue]; rfl), ih, hvalue]
            simp
        | some v =>
            rw [List.filterMap_cons_some (by rw [hvalue]; rfl)]
            simp
      · have hmem : field ∈ f :: fields ↔ field ∈ fields := by
          simp [Ne.symm hf]
        -- Different fields go by different names.
        have hne : key f ≠ key field := fun h => hf (hkey h)
        simp only [hmem]
        cases hvalue : value f with
        | none => rw [List.filterMap_cons_none (by rw [hvalue]; rfl), ih]
        | some v =>
            rw [List.filterMap_cons_some (by rw [hvalue]; rfl), List.find?_cons_of_neg (by simpa),
              ih]

/-- Each field has the value that it was given. -/
theorem find?_having (value : Field → Option Value) (field : Field) :
    find? (having value) field = value field := by
  unfold find? having
  have hfind := find?_filterMap Function.injective_id value field Field.all
  simp only [id_eq, if_pos field.mem_all] at hfind
  rw [hfind]
  cases value field <;> rfl

/-- The members of a table that the fields with a value come to. -/
theorem toTable_having (value : Field → Option Value) :
    (having value).toTable
      = Field.all.filterMap fun field => (value field).map (field.name, ·) := by
  unfold toTable
  simp only [find?_having]

/-- Each field can be found in the table by its name, unless its value is null. -/
theorem given?_toTable_having {value : Field → Option Value} (field : Field)
    (hnull : value field ≠ some .null) : given? (having value).toTable field = value field := by
  have hfind : Table.find? field.name (having value).toTable = value field := by
    rw [Table.find?_eq, toTable_having, find?_filterMap Field.name_injective,
      if_pos field.mem_all]
    cases value field <;> rfl
  unfold given?
  rw [hfind]
  cases hvalue : value field with
  | none => rfl
  | some v => cases v <;> first | rfl | exact absurd hvalue hnull

end Fields

/-- What the fields of a record are built from. -/
structure Arguments where
  /-- A path. -/
  path : Option String := none
  /-- A format. -/
  format : Option ConfigFormat := none
  /-- Wildcards. -/
  pattern : Option String := none
  /-- Whether something changed. -/
  changed : Option Bool := none
  /-- Anything else. -/
  details : Option Table := none

namespace Arguments

/-- Loosely typed values are these arguments. Each is absent or null if it is none, and the format
    is written in one of several ways. -/
structure Given (a : Arguments) (values : Table) : Prop where
  path : Fields.given? values .path = a.path.map .text
  format : a.format.elim (Fields.given? values .format = none) fun f =>
    ∃ raw, Fields.given? values .format = some (.text raw) ∧ f.NamedBy raw
  pattern : Fields.given? values .pattern = a.pattern.map .text
  changed : Fields.given? values .changed = a.changed.map .bool
  details : Fields.given? values .details = a.details.map .table
  plain : ∀ t ∈ a.details, Json.Plain (.table t)

/-- The value of a field that is kept. -/
def value (a : Arguments) (component : Component) : Field → Option Value
  | .component => some (.text component.name)
  | .path => a.path.map .text
  | .format => a.format.map fun f => .text f.name
  | .pattern => a.pattern.map .text
  | .changed => a.changed.map .bool
  | .details => (a.details.filter fun t => !t.isEmpty).map .table

/-- The fields that are kept: all that are given, except for details that are empty. -/
def kept (a : Arguments) (component : Component) : Fields :=
  Fields.having (a.value component)

variable {a : Arguments} {values : Table}

/-- The fields that have a value, one after the other. -/
theorem Fields.having_eq (value : Field → Option Value) :
    Fields.having value = Field.all.flatMap fun field => ((value field).map (field, ·)).toList :=
  List.filterMap_eq_flatMap_toList _ _

namespace Given

variable (h : a.Given values)

include h

theorem path_eq (component : Component) :
    Fields.path? values = .ok ((a.value component .path).map (Field.path, ·)).toList := by
  unfold Fields.path?
  rw [h.path]
  cases hpath : a.path <;> simp [value, hpath]

theorem format_eq (component : Component) :
    Fields.format? values = .ok ((a.value component .format).map (Field.format, ·)).toList := by
  have hgiven := h.format
  unfold Fields.format?
  cases hf : a.format with
  | none =>
      rw [hf] at hgiven
      rw [show Fields.given? values .format = none from hgiven]
      simp [value, hf]
  | some f =>
      rw [hf] at hgiven
      obtain ⟨raw, hraw, hnamed⟩ := hgiven
      -- A name is a text, which can always be shown.
      have hplain : (Value.text raw).plain? = .ok raw := rfl
      rw [hraw]
      simp only [hplain, Except.mapError, Except.ok_bind, ConfigFormat.ofString_of_namedBy hnamed,
        value, hf]
      rfl

theorem pattern_eq (component : Component) :
    Fields.pattern? values
      = .ok ((a.value component .pattern).map (Field.pattern, ·)).toList := by
  unfold Fields.pattern?
  rw [h.pattern]
  cases hpattern : a.pattern with
  | none => simp [value, hpattern]
  | some s =>
      simp only [value, hpattern]
      rfl

theorem changed_eq (component : Component) :
    Fields.changed values = ((a.value component .changed).map (Field.changed, ·)).toList := by
  unfold Fields.changed
  rw [h.changed]
  cases hchanged : a.changed <;> simp [value, hchanged, truth]

theorem details_eq (component : Component) :
    Fields.details values = ((a.value component .details).map (Field.details, ·)).toList := by
  unfold Fields.details
  rw [h.details]
  cases hdetails : a.details with
  | none => simp [value, hdetails]
  | some t =>
      -- An empty table counts as none, which is the one way for something given to be dropped.
      cases t with
      | nil => simp [value, hdetails]
      | cons m ms =>
          simp only [value, hdetails, Option.map_some]
          rfl

/-- The fields that are built are those that are kept. -/
theorem ofValues_eq (component : Component) :
    Fields.ofValues component values = .ok (a.kept component) := by
  unfold Fields.ofValues kept
  rw [h.path_eq component, h.format_eq component, h.pattern_eq component, h.changed_eq component,
    h.details_eq component, Fields.having_eq]
  refine congrArg Except.ok ?_
  simp only [Field.all, List.flatMap_cons, List.flatMap_nil, List.append_assoc, List.append_nil,
    List.cons_append]
  rfl

end Given

/-- The arguments without details that are empty. -/
def withoutEmpty (a : Arguments) : Arguments :=
  { a with details := a.details.filter fun t => !t.isEmpty }

/-- Details that are empty are not kept anyway. -/
theorem kept_withoutEmpty (a : Arguments) (component : Component) :
    a.withoutEmpty.kept component = a.kept component := by
  have hvalue : a.withoutEmpty.value component = a.value component := by
    funext field
    cases field with
    | details => simp [value, withoutEmpty, Option.filter_filter]
    | _ => rfl
  unfold kept
  rw [hvalue]

theorem value_ne_null (a : Arguments) (component : Component) (field : Field) :
    a.value component field ≠ some .null := by
  cases field <;> simp [value]

/-- What was kept can be given again. -/
theorem given_toTable (hplain : ∀ t ∈ a.details, Json.Plain (.table t)) (component : Component) :
    a.withoutEmpty.Given (a.kept component).toTable := by
  have hgiven (field : Field) : Fields.given? (a.kept component).toTable field
      = a.value component field :=
    Fields.given?_toTable_having field (a.value_ne_null component field)
  refine ⟨hgiven .path, ?_, hgiven .pattern, hgiven .changed, hgiven .details, ?_⟩
  · rw [hgiven]
    -- The name that is kept is one of those that a format is known by.
    have hself : ∀ f : ConfigFormat, f.NamedBy f.name := by
      intro f
      cases f <;> decide
    cases hformat : a.format with
    | none => simp [withoutEmpty, value, hformat]
    | some f => simpa [withoutEmpty, value, hformat] using hself f
  · intro t ht
    obtain ⟨hdetails, -⟩ := Option.mem_filter_iff.mp ht
    exact hplain t hdetails

theorem plain_value (hplain : ∀ t ∈ a.details, Json.Plain (.table t)) (component : Component)
    (field : Field) : ∀ v ∈ a.value component field, Json.Plain v := by
  intro v hv
  cases field with
  | component =>
      cases hv
      exact .text _
  | path =>
      obtain ⟨s, -, rfl⟩ := Option.map_eq_some_iff.mp hv
      exact .text s
  | format =>
      obtain ⟨f, -, rfl⟩ := Option.map_eq_some_iff.mp hv
      exact .text f.name
  | pattern =>
      obtain ⟨s, -, rfl⟩ := Option.map_eq_some_iff.mp hv
      exact .text s
  | changed =>
      obtain ⟨b, -, rfl⟩ := Option.map_eq_some_iff.mp hv
      exact .bool b
  | details =>
      obtain ⟨t, ht, rfl⟩ := Option.map_eq_some_iff.mp hv
      exact hplain t (Option.mem_filter_iff.mp ht).1

theorem plain_toTable (hplain : ∀ t ∈ a.details, Json.Plain (.table t)) (component : Component) :
    ∀ m ∈ (a.kept component).toTable, Json.Plain m.2 := by
  intro m hm
  rw [kept, Fields.toTable_having] at hm
  obtain ⟨field, -, hmember⟩ := List.mem_filterMap.mp hm
  obtain ⟨v, hv, rfl⟩ := Option.map_eq_some_iff.mp hmember
  exact plain_value hplain component field v hv

/-- What an entry shows is made of values that are read back, if its fields are. -/
theorem plain_payload {e : Entry} (herror : e.error = none)
    (hfields : ∀ m ∈ e.record.fields.toTable, Json.Plain m.2) (time : String) :
    Json.Plain (.table (e.payload time)) := by
  refine .table _ fun m hm => ?_
  unfold Entry.payload at hm
  rw [herror] at hm
  simp only [Option.map_none, Option.toList_none, List.append_nil, List.cons_append,
    List.nil_append, List.mem_cons] at hm
  rcases hm with rfl | rfl | rfl | rfl | hfield
  · exact .text _
  · exact .text _
  · exact .text _
  · exact .text _
  · exact hfields m hfield

/-- The line of an entry whose moment has a text and whose fields are read back: it has no control
    in it, and it is read as what the entry shows. -/
theorem exists_jsonLine {e : Entry} {time : String} (herror : e.error = none)
    (hfields : ∀ m ∈ e.record.fields.toTable, Json.Plain m.2)
    (htime : Timestamp.text e.moment = .ok time) :
    ∃ line, e.jsonLine = .ok line ∧ (∀ c ∈ line.toList, 0x20 ≤ c.toNat) ∧
      Json.read? line = some (.table (e.payload time)) := by
  have hplain : Json.Plain (.table (e.payload time)) := plain_payload herror hfields time
  have hcompact := hplain.compact_eq
  refine ⟨_, ?_, ?_, hplain.read?_compact hcompact⟩
  · rw [Entry.jsonLine, htime]
    simp only [Except.mapError, Except.ok_bind, hcompact]
  · intro c hc
    rw [String.toList_ofList] at hc
    exact hplain.le_of_mem hc

/-- Fields are written in their own order, in which they were kept. -/
theorem toTable_kept (a : Arguments) (component : Component) :
    (a.kept component).toTable = (a.kept component).map fun m => (m.1.name, m.2) := by
  rw [kept, Fields.toTable_having, Fields.having, List.map_filterMap]
  simp only [Option.map_map]
  rfl

namespace Given

/-- What a line as JSON says. The fields are those that are kept of the arguments, and building
    them again from these changes nothing. There is a record just if the level has a name. If the
    moment lies in the calendar there is a line. It holds no control, and it is read as an object
    of the moment, the level, the message, the logger and the fields that are kept. Otherwise there
    is no line. -/
theorem read_jsonLine (h : a.Given values) (component : Component) :
    Fields.ofValues component values = .ok (a.kept component) ∧
    Fields.ofValues component (a.kept component).toTable = .ok (a.kept component) ∧
    ∀ (logger : String) (level : Level) (message : String) (moment : Int),
      let d : Draft := ⟨logger, level, message, a.kept component⟩
      (¬Text.IsShort level → d.record? = .error .tooManyDigits) ∧
      (Text.IsShort level → ∃ r name, d.record? = .ok r ∧ level.name = .ok name ∧
        (¬Timestamp.InCalendar moment → ∃ fault, Entry.jsonLine ⟨r, moment, none⟩ = .error fault) ∧
        (Timestamp.InCalendar moment → ∃ time line, Timestamp.text moment = .ok time ∧
          Entry.jsonLine ⟨r, moment, none⟩ = .ok line ∧ (∀ c ∈ line.toList, 0x20 ≤ c.toNat) ∧
          Json.read? line = some (.table
            ([("timestamp", .text time), ("level", .text (Level.lower name)),
                ("message", .text message), ("logger", .text logger)] ++
              (a.kept component).map fun m => (m.1.name, m.2))))) := by
  have hagain := (given_toTable h.plain component).ofValues_eq component
  rw [kept_withoutEmpty] at hagain
  refine ⟨h.ofValues_eq component, hagain, fun logger level message moment => ?_⟩
  intro d
  -- Without a name of its level there is no record, so the moment matters only behind that.
  refine ⟨fun hlong => dif_neg hlong, fun hshort => ?_⟩
  have hname := Record.name_level ⟨logger, level, message, a.kept component, hshort⟩
  refine ⟨_, _, dif_pos hshort, hname, ?_⟩
  generalize hrecord : Record.mk logger level message (a.kept component) hshort = r
  have hfields : ∀ m ∈ r.fields.toTable, Json.Plain m.2 := by
    rw [← hrecord]
    exact plain_toTable h.plain component
  rw [← Timestamp.text_isOk_iff]
  cases htime : Timestamp.text moment with
  | error fault => exact ⟨fun _ => ⟨.moment fault, by rw [Entry.jsonLine, htime]; rfl⟩, nofun⟩
  | ok time =>
      refine ⟨fun hfault => absurd rfl hfault, fun _ => ?_⟩
      obtain ⟨line, hline, hcontrols, hread⟩ :=
        exists_jsonLine (e := ⟨r, moment, none⟩) rfl hfields htime
      refine ⟨time, line, rfl, hline, hcontrols, ?_⟩
      rw [hread, ← toTable_kept, Entry.payload]
      simp only [← hrecord, Option.map_none, Option.toList_none, List.append_nil]

/-- A path with quotes and a line feed, a format behind a dot, no wildcards, and a list in the
    details, at the start of 1970. -/
theorem read_jsonLine_details :
    let values : Table :=
      [("path", .text "\"a\\b\"\n"), ("format", .text ".Toml"), ("pattern", .null),
        ("changed", .bool false),
        ("details", .table [("é", .list [.int (-10), .text "\x01", .table []])])]
    ∃ fields r line, Fields.ofValues .config values = .ok fields ∧
      Draft.record? ⟨"t", 20, "x\ty", fields⟩ = .ok r ∧
      Entry.jsonLine ⟨r, 0, none⟩ = .ok line ∧
      (∀ c ∈ line.toList, 0x20 ≤ c.toNat) ∧
      Json.read? line = some (.table
        [("timestamp", .text "1970-01-01T00:00:00+00:00"), ("level", .text "info"),
          ("message", .text "x\ty"), ("logger", .text "t"), ("component", .text "config"),
          ("path", .text "\"a\\b\"\n"), ("format", .text "toml"), ("changed", .bool false),
          ("details", .table [("é", .list [.int (-10), .text "\x01", .table []])])]) := by
  intro values
  let a : Arguments :=
    { path := some "\"a\\b\"\n", format := some .toml, changed := some false
      details := some [("é", .list [.int (-10), .text "\x01", .table []])] }
  have hgiven : a.Given values := by
    refine ⟨rfl, ⟨".Toml", rfl, by decide⟩, rfl, rfl, rfl, ?_⟩
    rintro t ⟨⟩
    refine .table _ fun m hm => ?_
    rw [List.mem_singleton.mp hm]
    refine .list _ fun v hv => ?_
    simp only [List.mem_cons, List.not_mem_nil, or_false] at hv
    rcases hv with rfl | rfl | rfl
    · exact .int (-10) (by decide +kernel)
    · exact .text _
    · exact .table _ nofun
  obtain ⟨hfields, -, hlines⟩ := hgiven.read_jsonLine .config
  obtain ⟨-, hmade⟩ := hlines "t" 20 "x\ty" 0
  obtain ⟨r, name, hrecord, hname, -, hin⟩ := hmade (by decide +kernel)
  obtain ⟨time, line, htime, hline, hcontrols, hread⟩ := hin (by decide)
  have hsame : "1970-01-01T00:00:00+00:00" = time := by
    have hzero : Timestamp.text 0 = .ok "1970-01-01T00:00:00+00:00" := by
      decide +kernel
    exact Except.ok.inj (hzero.symm.trans htime)
  have hinfo : "INFO" = name := Except.ok.inj hname
  subst hsame hinfo
  exact ⟨_, r, line, hfields, hrecord, hline, hcontrols, hread⟩

end Given

/-- No line is written of an entry that was made at the start of the year 10000, and none of one
    with an integer in its details that is too long. There is not even a record with a level that
    is too long. -/
theorem no_jsonLine :
    let long : Int := Int.ofNat (Nat.pow 10 Text.digitLimit)
    let details : Value := .table [("n", .int long)]
    let entry (fields : Fields) (moment : Int) : Entry :=
      ⟨⟨"t", 20, "m", fields, by decide +kernel⟩, moment, none⟩
    (Fields.ofValues .config [] = .ok [(.component, .text "config")] ∧
      (entry [(.component, .text "config")] (253402300800 * Timestamp.second)).jsonLine
        = .error (.moment (.year 10000))) ∧
    (Fields.ofValues .config [("details", details)]
        = .ok [(.component, .text "config"), (.details, details)] ∧
      (entry [(.component, .text "config"), (.details, details)] 0).jsonLine
        = .error (.number .tooManyDigits)) ∧
    Draft.record? ⟨"t", long, "m", [(.component, .text "config")]⟩ = .error .tooManyDigits := by
  refine ⟨⟨rfl, by decide +kernel⟩, ⟨rfl, by decide +kernel⟩, ?_⟩
  exact dif_neg Text.not_isShort_pow

end Arguments

end Log

end NamePatterns
