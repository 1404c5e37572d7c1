import NamePatterns.Config

/-!
# Options in a Document

What a TOML document of any shape says about the wildcards.

A row of keys leads through the tables of the document to its options. The walk
ends early at a table that lacks the next key, where the document says nothing,
and at a key that has something else than a table, where it is refused. It is
refused for its options as well, just if one of them is neither absent nor null
nor a text nor a list of texts. Nothing else in the document matters: documents
that agree on the walk and on the two options come to the same.

The three ends are written down as rows of keys, and no two of them exclude each
other by definition; that only one can be the case follows from the walk, which
is a function of the document. What is known of a walk goes back to one lemma
about its parts.

## Main definitions

* `Table.Leads`: A row of keys that leads from table to table.
* `Table.Missing`, `Table.Blocked`: The two ways to end early.
* `Options.Gives`: The wildcards that an option gives.
* `Source.Agree`: Documents that agree on the walk and on the options.

## Theorems

* `Table.leads_or`: A walk arrives, or ends in one of the two ways.
* `Source.descend_append`: A walk goes on where a part of it has led.
* `Options.wildcards?_ok_iff`: Which values give wildcards.
* `Options.ofTable_ok`, `Options.ofTable_error_iff`: The wildcards in a table, and when it
  is refused.
* `Source.descend_agree`, `Source.ofDocument_agree`: Documents that agree on the
  walk and on the two options.
* `Source.ofDocument_complete`: What becomes of a document.
-/

namespace NamePatterns

namespace Table

/-- A row of keys leads from a table to another one, each key to a table. -/
inductive Leads : Table → List String → Table → Prop where
  /-- No keys lead anywhere else. -/
  | refl (t : Table) : Leads t [] t
  /-- The first key leads to a table, and the others from there. -/
  | step {t inner last : Table} {key : String} {keys : List String} :
      t.find? key = some (.table inner) → Leads inner keys last → Leads t (key :: keys) last

/-- A table says nothing for a key: the key is missing, or its value is null. -/
def Lacks (t : Table) (key : String) : Prop :=
  t.find? key = none ∨ t.find? key = some .null

/-- A table has something else than a table for a key. -/
def Blocks (t : Table) (key : String) : Prop :=
  ∃ v, t.find? key = some v ∧ v ≠ .null ∧ ∀ inner, v ≠ .table inner

/-- The keys lead to a table that says nothing for the next one. -/
def Missing (t : Table) (keys : List String) : Prop :=
  ∃ front key rest inner, keys = front ++ key :: rest ∧ Leads t front inner ∧ Lacks inner key

/-- The keys lead to a table that has something else than a table for the next one, which is
    the last of those that were walked. -/
def Blocked (t : Table) (keys walked : List String) : Prop :=
  ∃ front key rest inner, keys = front ++ key :: rest ∧ walked = front ++ [key] ∧
    Leads t front inner ∧ Blocks inner key

variable {t inner : Table} {key : String} {keys : List String}

theorem Missing.step (hkey : t.find? key = some (.table inner)) (h : Missing inner keys) :
    Missing t (key :: keys) := by
  obtain ⟨front, next, rest, last, rfl, hleads, hlacks⟩ := h
  exact ⟨key :: front, next, rest, last, rfl, .step hkey hleads, hlacks⟩

theorem Blocked.step {walked : List String} (hkey : t.find? key = some (.table inner))
    (h : Blocked inner keys walked) : Blocked t (key :: keys) (key :: walked) := by
  obtain ⟨front, next, rest, last, rfl, rfl, hleads, hblocks⟩ := h
  exact ⟨key :: front, next, rest, last, rfl, rfl, .step hkey hleads, hblocks⟩

/-- A table says nothing for a key, or has a table for it, or something else. -/
theorem lacks_or (t : Table) (key : String) :
    Lacks t key ∨ (∃ inner, t.find? key = some (.table inner)) ∨ Blocks t key := by
  cases hfind : t.find? key with
  | none => exact Or.inl (Or.inl hfind)
  | some v =>
      by_cases hnull : v = .null
      · rw [hnull] at hfind
        exact Or.inl (Or.inr hfind)
      -- Something is there for the key, and only a table lets the walk go on.
      · by_cases htable : ∃ inner, v = .table inner
        · obtain ⟨inner, rfl⟩ := htable
          exact Or.inr (Or.inl ⟨inner, rfl⟩)
        · exact Or.inr (Or.inr ⟨v, hfind, hnull, fun inner h => htable ⟨inner, h⟩⟩)

/-- A walk arrives, or ends early in one of the two ways. -/
theorem leads_or (t : Table) (keys : List String) :
    Missing t keys ∨ (∃ walked, Blocked t keys walked) ∨ ∃ last, Leads t keys last := by
  induction keys generalizing t with
  | nil => exact Or.inr (Or.inr ⟨t, .refl t⟩)
  | cons key keys ih =>
      -- The first key ends the walk, or the others go on from its table.
      rcases lacks_or t key with hlacks | ⟨inner, hkey⟩ | hblocks
      · exact Or.inl ⟨[], key, keys, t, rfl, .refl t, hlacks⟩
      · rcases ih inner with hmissing | ⟨walked, hblocked⟩ | ⟨last, hleads⟩
        · exact Or.inl (hmissing.step hkey)
        · exact Or.inr (Or.inl ⟨_, hblocked.step hkey⟩)
        · exact Or.inr (Or.inr ⟨last, .step hkey hleads⟩)
      · exact Or.inr (Or.inl ⟨[key], [], key, keys, t, rfl, rfl, .refl t, hblocks⟩)

end Table

namespace Options

/-- The wildcards that the value of an option gives, if it is there. -/
inductive Gives : Option Value → Option String → Prop where
  /-- The option is absent. -/
  | absent : Gives none none
  /-- It is null. -/
  | null : Gives (some .null) none
  /-- It is a text. -/
  | text (s : String) : Gives (some (.text s)) (some s)
  /-- It is a list of texts, which are joined by spaces. -/
  | list (ss : List String) : Gives (some (.list (ss.map .text))) (some (" ".intercalate ss))

/-- The option of a kind has a value that gives no wildcards. -/
def Wrong (t : Table) (kind : NameKind) (v : Value) : Prop :=
  t.find? kind.key = some v ∧ ∀ raw, ¬Gives (some v) raw

theorem texts?_eq_some_iff {vs : List Value} {ss : List String} :
    texts? vs = some ss ↔ vs = ss.map .text := by
  constructor
  · intro h
    induction vs generalizing ss with
    | nil =>
        obtain rfl : [] = ss := Option.some.inj h
        rfl
    | cons v vs ih =>
        cases v with
        | text s =>
            obtain ⟨rest, hrest, rfl⟩ := Option.map_eq_some_iff.mp h
            rw [List.map_cons, ih hrest]
        | _ => cases h
  · rintro rfl
    induction ss with
    | nil => rfl
    | cons s ss ih =>
        rw [List.map_cons, texts?, ih]
        rfl

/-- The values that give wildcards are null, the texts, and the lists of texts. -/
theorem wildcards?_ok_iff {v : Value} {raw : Option String} :
    wildcards? v = .ok raw ↔ Gives (some v) raw := by
  constructor
  · intro h
    cases v with
    | null =>
        obtain rfl : none = raw := Except.ok.inj h
        exact .null
    | text s =>
        obtain rfl : some s = raw := Except.ok.inj h
        exact .text s
    -- A list gives wildcards only if each of its values is a text.
    | list vs =>
        rw [wildcards?] at h
        cases htexts : texts? vs with
        | none =>
            rw [htexts] at h
            cases h
        | some ss =>
            rw [htexts] at h
            obtain rfl : some (" ".intercalate ss) = raw := Except.ok.inj h
            rw [texts?_eq_some_iff.mp htexts]
            exact .list ss
    | _ => cases h
  · intro h
    cases h with
    | null => rfl
    | text s => rfl
    | list ss => rw [wildcards?, texts?_eq_some_iff.mpr rfl]

section

variable {t : Table} {kind : NameKind}

theorem field?_ok_iff {raw : Option String} :
    field? t kind = .ok raw ↔ Gives (t.find? kind.key) raw := by
  unfold field?
  cases t.find? kind.key with
  | none =>
      constructor
      · intro h
        obtain rfl : none = raw := Except.ok.inj h
        exact .absent
      · intro h
        cases h
        rfl
  | some v => exact wildcards?_ok_iff

theorem field?_error_iff {v : Value} : field? t kind = .error v ↔ Wrong t kind v := by
  unfold field? Wrong
  cases hfind : t.find? kind.key with
  | none =>
      constructor
      · intro h
        cases h
      · rintro ⟨h, _⟩
        cases h
  | some w =>
      simp only [Option.getD_some, Option.some.injEq, ← wildcards?_ok_iff]
      constructor
      · intro h
        -- What is refused is the value itself, whatever is wrong inside of it.
        obtain rfl := wildcards?_error h
        exact ⟨rfl, fun raw hraw => by rw [h] at hraw; cases hraw⟩
      · rintro ⟨rfl, hnone⟩
        cases hwildcards : wildcards? w with
        | ok raw => exact absurd hwildcards (hnone raw)
        | error v => rw [wildcards?_error hwildcards]

end

/-- Both options give wildcards, and these are the wildcards in the table. -/
theorem ofTable_ok {t : Table} {classes functions : Option String}
    (hclasses : Gives (t.find? NameKind.cls.key) classes)
    (hfunctions : Gives (t.find? NameKind.function.key) functions) :
    ofTable t = .ok ⟨classes, functions⟩ := by
  rw [ofTable, field?_ok_iff.mpr hclasses, field?_ok_iff.mpr hfunctions]

/-- The options that a table is refused for are those that give no wildcards. -/
theorem ofTable_error {t : Table} {e : OptionsError} (h : ofTable t = .error e) :
    ∃ first others, e = .wrongValues first others ∧
      ∀ kind v, (kind, v) ∈ first :: others ↔ Wrong t kind v := by
  simp only [← field?_error_iff]
  unfold ofTable at h
  cases hclasses : field? t .cls with
  | ok classes =>
      cases hfunctions : field? t .function with
      | ok functions =>
          rw [hclasses, hfunctions] at h
          cases h
      | error w =>
          rw [hclasses, hfunctions] at h
          obtain rfl := Except.error.inj h
          refine ⟨_, _, rfl, fun kind v => ?_⟩
          cases kind <;> simp [hclasses, hfunctions, eq_comm]
  | error v =>
      cases hfunctions : field? t .function with
      | ok functions =>
          rw [hclasses, hfunctions] at h
          obtain rfl := Except.error.inj h
          refine ⟨_, _, rfl, fun kind w => ?_⟩
          cases kind <;> simp [hclasses, hfunctions, eq_comm]
      | error w =>
          -- Both are refused, and the one for functions is named behind the other.
          rw [hclasses, hfunctions] at h
          obtain rfl := Except.error.inj h
          refine ⟨_, _, rfl, fun kind w' => ?_⟩
          cases kind <;> simp [hclasses, hfunctions, eq_comm]

/-- A table is refused just if an option gives no wildcards. -/
theorem ofTable_error_iff {t : Table} :
    (∃ e, ofTable t = .error e) ↔ ∃ kind v, Wrong t kind v := by
  constructor
  · rintro ⟨e, he⟩
    obtain ⟨first, others, _, hnamed⟩ := ofTable_error he
    exact ⟨first.1, first.2, (hnamed _ _).mp List.mem_cons_self⟩
  · rintro ⟨kind, v, hwrong⟩
    rw [← field?_error_iff] at hwrong
    unfold ofTable
    cases kind with
    | cls =>
        rw [hwrong]
        cases field? t .function <;> exact ⟨_, rfl⟩
    | function =>
        rw [hwrong]
        cases field? t .cls <;> exact ⟨_, rfl⟩

/-- Tables with the same options have the same wildcards, or are refused alike. -/
theorem ofTable_congr {t t' : Table} (h : ∀ kind : NameKind, t.find? kind.key = t'.find? kind.key) :
    ofTable t = ofTable t' := by
  simp only [ofTable, field?, h]

end Options

namespace Source

open Table (Leads Lacks Blocks Missing Blocked)

/-- Two documents agree along the keys: both say nothing for the next key, or both have
    something else than a table for it, or both have tables that agree along the other keys.
    Where the keys lead, the two options are the same. -/
inductive Agree : List String → Table → Table → Prop where
  /-- The options are the same. -/
  | options {t t' : Table} :
      (∀ kind : NameKind, t.find? kind.key = t'.find? kind.key) → Agree [] t t'
  /-- Neither says anything for the next key. -/
  | lacks {t t' : Table} {key : String} {keys : List String} :
      Lacks t key → Lacks t' key → Agree (key :: keys) t t'
  /-- Both have something else than a table for the next key. -/
  | blocks {t t' : Table} {key : String} {keys : List String} :
      Blocks t key → Blocks t' key → Agree (key :: keys) t t'
  /-- Both have tables for the next key. -/
  | step {t t' inner inner' : Table} {key : String} {keys : List String} :
      t.find? key = some (.table inner) → t'.find? key = some (.table inner') →
        Agree keys inner inner' → Agree (key :: keys) t t'

section

variable {t inner : Table} {key : String} {keys walked : List String}

theorem descend_table (h : t.find? key = some (.table inner)) :
    descend walked (key :: keys) t = descend (walked ++ [key]) keys inner := by
  rw [descend, h]

theorem descend_lacks (h : Lacks t key) : descend walked (key :: keys) t = .ok none := by
  rw [descend]
  rcases h with h | h <;> rw [h]

theorem descend_blocks (h : Blocks t key) :
    descend walked (key :: keys) t = .error (walked ++ [key]) := by
  obtain ⟨v, hfind, hnull, htable⟩ := h
  rw [descend, hfind]
  cases v with
  | null => exact absurd rfl hnull
  | table inner => exact absurd rfl (htable inner)
  | _ => rfl

/-- A walk goes on where a part of it has led. -/
theorem descend_append {front : List String} (h : Leads t front inner) :
    descend walked (front ++ keys) t = descend (walked ++ front) keys inner := by
  induction h generalizing walked with
  | refl t => rw [List.nil_append, List.append_nil]
  | step hfind _ ih =>
      rw [List.cons_append, descend_table hfind, ih, List.append_assoc, List.singleton_append]

theorem descend_leads (h : Leads t keys inner) : descend walked keys t = .ok (some inner) := by
  have happend : descend walked (keys ++ []) t = descend (walked ++ keys) [] inner :=
    descend_append h
  rwa [List.append_nil] at happend

theorem descend_missing (h : Missing t keys) : descend walked keys t = .ok none := by
  obtain ⟨front, key, rest, last, rfl, hleads, hlacks⟩ := h
  rw [descend_append hleads, descend_lacks hlacks]

theorem descend_blocked (h : Blocked t keys walked) : descend [] keys t = .error walked := by
  obtain ⟨front, key, rest, last, rfl, rfl, hleads, hblocks⟩ := h
  rw [descend_append hleads, descend_blocks hblocks, List.nil_append]

end

/-- A document whose options are reached is read as they are. -/
theorem ofDocument_leads {document t : Table} (h : Leads document tomlTable t)
    (path : Option Path) :
    ofDocument document path = match Options.ofTable t with
      | .ok options => .ok (.toml (some options) path)
      | .error e => ConfigError.because path (.options e) := by
  cases hoptions : Options.ofTable t with
  | ok options => simp only [ofDocument, descend_leads h, hoptions]
  | error e => simp only [ofDocument, descend_leads h, hoptions]

theorem because_options_iff {path : Option Path} {e e' : OptionsError} :
    (ConfigError.because path (.options e) : Except ConfigError Source)
      = ConfigError.because path (.options e') ↔ e = e' := by
  simp only [ConfigError.because, Except.error.injEq, ConfigError.invalid.injEq,
    InvalidConfig.mk.injEq, InvalidCause.options.injEq, true_and]

/-- Walks through documents that agree end alike: they end early in the same way, or arrive
    at the same options. -/
theorem descend_agree {keys walked : List String} {t t' : Table} (h : Agree keys t t') :
    descend walked keys t = .ok none ∧ descend walked keys t' = .ok none ∨
      (∃ ks, descend walked keys t = .error ks ∧ descend walked keys t' = .error ks) ∨
      ∃ u u', descend walked keys t = .ok (some u) ∧ descend walked keys t' = .ok (some u') ∧
        ∀ kind : NameKind, u.find? kind.key = u'.find? kind.key := by
  induction h generalizing walked with
  | options h => exact Or.inr (Or.inr ⟨_, _, rfl, rfl, h⟩)
  | lacks h h' => exact Or.inl ⟨descend_lacks h, descend_lacks h'⟩
  | blocks h h' => exact Or.inr (Or.inl ⟨_, descend_blocks h, descend_blocks h'⟩)
  | step h h' _ ih =>
      rw [descend_table h, descend_table h']
      exact ih

/-- Documents that agree have the same wildcards, or are refused for the same cause,
    whatever else they contain. -/
theorem ofDocument_agree {document document' : Table} (h : Agree tomlTable document document')
    (path path' : Option Path) :
    (∃ options, ofDocument document path = .ok (.toml options path) ∧
      ofDocument document' path' = .ok (.toml options path')) ∨
    ∃ cause, ofDocument document path = ConfigError.because path cause ∧
      ofDocument document' path' = ConfigError.because path' cause := by
  unfold ofDocument
  rcases @descend_agree tomlTable [] _ _ h with
    ⟨ht, ht'⟩ | ⟨ks, ht, ht'⟩ | ⟨u, u', ht, ht', hsame⟩
  · rw [ht, ht']
    exact Or.inl ⟨none, rfl, rfl⟩
  · rw [ht, ht']
    exact Or.inr ⟨.notTable ks, rfl, rfl⟩
  · rw [ht, ht']
    dsimp only
    rw [Options.ofTable_congr hsame]
    cases Options.ofTable u' with
    | ok patterns => exact Or.inl ⟨some patterns, rfl, rfl⟩
    | error e => exact Or.inr ⟨.options e, rfl, rfl⟩

/-- What becomes of a document. Where the walk to the options ends at a table that says
    nothing for the next key, there are no options. Where it ends at something else than a
    table, the document is refused for the keys that were walked. Where it arrives, the
    document is refused for its options just if one of them gives no wildcards, and all
    such are named; otherwise it has the wildcards that the options give. One of the three
    is the case. Documents that agree on the walk and on the two options are equal as
    configurations, or both are refused for the same cause. -/
theorem ofDocument_complete (document : Table) (path : Option Path) :
    (Missing document tomlTable → ofDocument document path = .ok (.toml none path) ∧
      (toml none path).patterns = ⟨none, none⟩) ∧
    (∀ walked, Blocked document tomlTable walked →
      ofDocument document path = ConfigError.because path (.notTable walked) ∧
        (InvalidCause.notTable walked).message
          = "[" ++ ".".intercalate walked ++ "] must be a TOML table") ∧
    (∀ t, Leads document tomlTable t →
      ((∃ e, ofDocument document path = ConfigError.because path (.options e)) ↔
        ∃ kind v, Options.Wrong t kind v) ∧
      (∀ e, ofDocument document path = ConfigError.because path (.options e) →
        ∃ first others, e = .wrongValues first others ∧
          ∀ kind v, (kind, v) ∈ first :: others ↔ Options.Wrong t kind v) ∧
      ∀ classes functions, Options.Gives (t.find? NameKind.cls.key) classes →
        Options.Gives (t.find? NameKind.function.key) functions →
          ofDocument document path = .ok (.toml (some ⟨classes, functions⟩) path)) ∧
    (Missing document tomlTable ∨ (∃ walked, Blocked document tomlTable walked) ∨
      ∃ t, Leads document tomlTable t) ∧
    ∀ document', Agree tomlTable document document' → ∀ path',
      (∃ s s', ofDocument document path = .ok s ∧ ofDocument document' path' = .ok s' ∧
        (Config.ofSource s).agrees (Config.ofSource s') = true) ∨
      ∃ cause, ofDocument document path = ConfigError.because path cause ∧
        ofDocument document' path' = ConfigError.because path' cause := by
  refine ⟨fun h => ⟨?_, rfl⟩, fun walked h => ⟨?_, rfl⟩, fun t h => ?_,
    Table.leads_or document tomlTable, fun document' h path' => ?_⟩
  · rw [ofDocument, descend_missing h]
  · rw [ofDocument, descend_blocked h]
  -- Where the walk arrives, only the options can be refused.
  · have hrefused (e : OptionsError) :
        ofDocument document path = ConfigError.because path (.options e) ↔
          Options.ofTable t = .error e := by
      rw [ofDocument_leads h]
      cases Options.ofTable t with
      | ok patterns => exact ⟨(nomatch ·), (nomatch ·)⟩
      | error e' => exact because_options_iff.trans (Iff.of_eq (Except.error.injEq e' e)).symm
    refine ⟨?_, fun e he => Options.ofTable_error ((hrefused e).mp he),
      fun classes functions hc hf => ?_⟩
    · simp only [hrefused]
      exact Options.ofTable_error_iff
    · rw [ofDocument_leads h, Options.ofTable_ok hc hf]
  · rcases ofDocument_agree h path path' with ⟨options, hs, hs'⟩ | hcause
    · refine Or.inl ⟨_, _, hs, hs', ?_⟩
      unfold Config.agrees
      exact decide_eq_true rfl
    · exact Or.inr hcause

/-- A document with a list of texts and a null among its options, and another one that
    differs from it in everything else. -/
theorem ofDocument_complete_given :
    let options : Table := [("python_functions", .null),
      ("python_classes", .list [.text "Test*", .text "Check*"])]
    let document : Table := [("tool", .table [("pytest", .table [("ini_options", .table options)])])]
    let document' : Table := [("build", .int 1), ("tool", .table [("black", .list []),
      ("pytest", .table [("ini_options", .table (("addopts", .bool true) :: options))])])]
    Leads document tomlTable options ∧
      Options.Gives (options.find? NameKind.cls.key) (some "Test* Check*") ∧
      Options.Gives (options.find? NameKind.function.key) none ∧
      ofDocument document none = .ok (.toml (some ⟨some "Test* Check*", none⟩) none) ∧
      Agree tomlTable document document' ∧
      ∃ s s', ofDocument document none = .ok s ∧ ofDocument document' none = .ok s' ∧
        (Config.ofSource s).agrees (Config.ofSource s') = true := by
  intro options document document'
  have hleads : Leads document tomlTable options := .step rfl (.step rfl (.step rfl (.refl _)))
  have hclasses : Options.Gives (options.find? NameKind.cls.key) (some "Test* Check*") :=
    .list ["Test*", "Check*"]
  have hagree : Agree tomlTable document document' := by
    refine .step rfl rfl (.step rfl rfl (.step rfl rfl (.options fun kind => ?_)))
    cases kind <;> rfl
  obtain ⟨_, _, hoptions, _, hsame⟩ := ofDocument_complete document none
  have htaken := (hoptions _ hleads).2.2 _ _ hclasses .null
  refine ⟨hleads, hclasses, .null, htaken, hagree, ?_⟩
  rcases hsame _ hagree none with hagrees | ⟨cause, hcause, _⟩
  · exact hagrees
  · cases htaken.symm.trans hcause

end Source

end NamePatterns
