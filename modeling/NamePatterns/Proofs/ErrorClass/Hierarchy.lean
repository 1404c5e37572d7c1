import Mathlib.Data.List.Basic
import Mathlib.Logic.Relation
import NamePatterns.ErrorClass.Registry
import NamePatterns.Proofs.ErrorClass.Merging

/-!
# Hierarchies of Error Classes

Which code an error has in a hierarchy of classes.

Classes are declared one after the other, each from some of those that are there. Which
classes a class descends from follows from the bases alone, over any number of steps. The
lineage of a class names just these, and the lineage of each of them is found in it again, in
its own order. So a class stands in front of all classes that it descends from, in its own
lineage and in those of all its descendants. The code of a class is that of the first
registered one in its lineage, and no registered class that descends from this one can stand
behind it.

A lineage is a list of names, which alone says nothing about the classes behind
them. It is the hierarchy that gives each name one class, and the merge that
keeps the lineages of the bases. Both are facts about one declaration, and an
induction over the declarations makes them facts about all classes.

## Main definitions

* `ErrorClass.Declared`, `ErrorClass.Declared.Fits`: A class with its bases, and where it can
  be declared.
* `ErrorClass.Hierarchy`: Classes that are declared one after the other.
* `ErrorClass.Descends`: One class comes from another one over any number of steps.
* `ErrorClass.declared`: The classes that are known by name, with their bases.

## Theorems

* `ErrorClass.Hierarchy.lineage_sublist`: The lineage of an ancestor is found in that of its
  descendants.
* `ErrorClass.Hierarchy.descends_iff`: A lineage names what a class descends from.
* `ErrorClass.Hierarchy.mem_before`: A class stands in front of its ancestors.
* `ErrorClass.code_cases`: Whose code a class has.
* `ErrorClass.Hierarchy.code_nearest`: No registered class is nearer than the one whose code
  counts.
-/

namespace NamePatterns

namespace ErrorClass

/-- The class that all classes come from. -/
def object : ErrorClass := ⟨"object", []⟩

/-- A class with the classes that it is made from. -/
structure Declared where
  /-- The class. -/
  cls : ErrorClass
  /-- Its bases. -/
  bases : List ErrorClass
  deriving DecidableEq

/-- A class can be declared where there are classes: it has a name of its own, and is made from
    some of them. -/
structure Declared.Fits (ds : List Declared) (d : Declared) : Prop where
  fresh : ∀ e ∈ ds, e.cls.name ≠ d.cls.name
  some_base : d.bases ≠ []
  bases : ∀ b ∈ d.bases, ∃ e ∈ ds, e.cls = b
  derived : derive d.cls.name d.bases = .ok d.cls

/-- Classes that are declared one after the other, the latest first. -/
inductive Hierarchy : List Declared → Prop where
  /-- The class that all others come from. -/
  | root : Hierarchy [⟨object, []⟩]
  /-- One more class. -/
  | declare {ds : List Declared} {d : Declared} (hds : Hierarchy ds) (hd : d.Fits ds) :
    Hierarchy (d :: ds)

/-- One class is another one, or comes from it over any number of steps. -/
def Descends (ds : List Declared) : ErrorClass → ErrorClass → Prop :=
  Relation.ReflTransGen fun c b => ∃ d ∈ ds, d.cls = c ∧ b ∈ d.bases

namespace Hierarchy

variable {ds : List Declared} {d e : Declared} {a b c : ErrorClass}

/-- Classes of one name are the same. -/
theorem eq_of_name (h : Hierarchy ds) (hd : d ∈ ds) (he : e ∈ ds)
    (hname : d.cls.name = e.cls.name) : d = e := by
  induction h with
  | root => exact (List.mem_singleton.mp hd).trans (List.mem_singleton.mp he).symm
  | declare _ hnew ih =>
      rcases List.mem_cons.mp hd with rfl | hold
      · rcases List.mem_cons.mp he with rfl | hold
        · rfl
        · exact absurd hname.symm (hnew.fresh e hold)
      · rcases List.mem_cons.mp he with rfl | hold'
        · exact absurd hname (hnew.fresh d hold)
        · exact ih hold hold'

/-- The bases of a class are there, and its ancestors hold the lineage of each of them. -/
theorem of_mem_bases (h : Hierarchy ds) (hd : d ∈ ds) (hb : b ∈ d.bases) :
    (∃ e ∈ ds, e.cls = b) ∧ b.lineage.Sublist d.cls.ancestors := by
  induction h with
  | root =>
      obtain rfl := List.mem_singleton.mp hd
      cases hb
  | declare _ hnew ih =>
      rcases List.mem_cons.mp hd with rfl | hd
      · obtain ⟨e, he, hcls⟩ := hnew.bases b hb
        exact ⟨⟨e, List.mem_cons_of_mem _ he, hcls⟩, (derive_ok hnew.derived).2.1 b hb⟩
      · obtain ⟨⟨e, he, hcls⟩, hkept⟩ := ih hd
        exact ⟨⟨e, List.mem_cons_of_mem _ he, hcls⟩, hkept⟩

/-- Each ancestor of a class is in the lineage of one of its bases. -/
theorem of_mem_ancestors (h : Hierarchy ds) (hd : d ∈ ds) {n : String}
    (hn : n ∈ d.cls.ancestors) : ∃ b ∈ d.bases, n ∈ b.lineage := by
  induction h with
  | root =>
      obtain rfl := List.mem_singleton.mp hd
      cases hn
  | declare _ hnew ih =>
      rcases List.mem_cons.mp hd with rfl | hd
      · exact (derive_ok hnew.derived).2.2.1 n hn
      · exact ih hd

/-- The lineage of a class is found in that of its descendants, in its own order. -/
theorem lineage_sublist (h : Hierarchy ds) (hdescends : Descends ds c a) :
    a.lineage.Sublist c.lineage := by
  induction hdescends using Relation.ReflTransGen.head_induction_on with
  | refl => exact List.Sublist.refl _
  -- A class keeps the lineage of each of its bases, behind itself.
  | head hedge _ ih =>
      obtain ⟨d, hd, rfl, hb⟩ := hedge
      exact ih.trans ((h.of_mem_bases hd hb).2.cons _)

/-- A lineage names classes that are there and that its class descends from. -/
theorem exists_descends (h : Hierarchy ds) (hd : d ∈ ds) {n : String}
    (hn : n ∈ d.cls.lineage) : ∃ e ∈ ds, e.cls.name = n ∧ Descends ds d.cls e.cls := by
  -- The lineages of the bases are shorter than that of the class.
  induction hlength : d.cls.lineage.length using Nat.strongRecOn generalizing d with
  | _ length ih =>
      rcases List.mem_cons.mp hn with rfl | hn
      · exact ⟨d, hd, rfl, .refl⟩
      · obtain ⟨b, hb, hn⟩ := h.of_mem_ancestors hd hn
        obtain ⟨⟨base, hbase, rfl⟩, hkept⟩ := h.of_mem_bases hd hb
        -- The class stands in front of all of its ancestors, so its lineage is longer by one
        -- at least.
        have hshorter : base.cls.lineage.length < length := by
          rw [← hlength, lineage, List.length_cons]
          exact Nat.lt_succ_of_le hkept.length_le
        obtain ⟨e, he, hname, hdescends⟩ := ih _ hshorter hbase hn rfl
        exact ⟨e, he, hname, .head ⟨d, hd, rfl, hb⟩ hdescends⟩

/-- The lineage of a class names just the classes that it descends from. -/
theorem descends_iff (h : Hierarchy ds) (hd : d ∈ ds) (he : e ∈ ds) :
    Descends ds d.cls e.cls ↔ e.cls.name ∈ d.cls.lineage := by
  constructor
  · exact fun hdescends => (h.lineage_sublist hdescends).subset List.mem_cons_self
  · intro hmem
    obtain ⟨e', he', hname, hdescends⟩ := h.exists_descends hd hmem
    rw [h.eq_of_name he he' hname.symm]
    exact hdescends

/-- No name stands in a lineage twice. -/
theorem nodup_lineage (h : Hierarchy ds) (hd : d ∈ ds) : d.cls.lineage.Nodup := by
  induction h with
  | root =>
      obtain rfl := List.mem_singleton.mp hd
      decide
  | declare hds hnew ih =>
      rcases List.mem_cons.mp hd with rfl | hd
      · obtain ⟨_, _, hfrom, hnodup⟩ := derive_ok hnew.derived
        refine List.nodup_cons.mpr ⟨fun hmem => ?_, hnodup⟩
        -- The name would be that of a class that was there before.
        obtain ⟨b, hb, hmem⟩ := hfrom _ hmem
        obtain ⟨base, hbase, rfl⟩ := hnew.bases b hb
        obtain ⟨e, he, hsame, _⟩ := hds.exists_descends hbase hmem
        exact hnew.fresh e he hsame
      · exact ih hd

/-- In every lineage, a class stands in front of its own ancestors. -/
theorem mem_before (h : Hierarchy ds) (hd : d ∈ ds) {n : String} {before after : List String}
    (hsplit : d.cls.lineage = before ++ n :: after) (hdescends : Descends ds d.cls c)
    (hn : n ∈ c.ancestors) : c.name ∈ before := by
  have hpair : [c.name, n].Sublist (before ++ n :: after) :=
    hsplit ▸ ((List.singleton_sublist.mpr hn).cons_cons _).trans (h.lineage_sublist hdescends)
  have hnodup : (before ++ n :: after).Nodup := hsplit ▸ h.nodup_lineage hd
  obtain ⟨front, back, hfront, hbefore, hback⟩ := List.sublist_append_iff.mp hpair
  cases front with
  | nil =>
      -- The class would stand from the place of its ancestor on, and that once more behind it.
      obtain rfl : [c.name, n] = back := hfront
      have hagain : n ∈ after := by
        cases hback with
        | cons _ hback => exact hback.subset (List.mem_cons_of_mem _ List.mem_cons_self)
        | cons_cons _ hback => exact hback.subset List.mem_cons_self
      exact absurd hagain (List.nodup_cons.mp (List.nodup_append.mp hnodup).2.1).1
  | cons first rest =>
      obtain ⟨rfl, _⟩ := List.cons.inj hfront
      exact hbefore.subset List.mem_cons_self

end Hierarchy

/-- The code of a name is that of the registered class of this name. -/
theorem codeOf?_eq_some {name code : String} (h : codeOf? name = some code) :
    ∃ r ∈ registry, r.cls.name = name ∧ r.code = code := by
  obtain ⟨r, hfind, hcode⟩ := Option.map_eq_some_iff.mp h
  exact ⟨r, List.mem_of_find?_eq_some hfind, of_decide_eq_true (List.find?_some hfind :), hcode⟩

/-- The names of registered classes have codes. -/
theorem codeOf?_ne_none {r : Registered} (hr : r ∈ registry) : codeOf? r.cls.name ≠ none := by
  intro h
  have hfind := List.find?_eq_none.mp (Option.map_eq_none_iff.mp h) r hr
  exact hfind (decide_eq_true rfl)

/-- Registered classes of one name are the same. -/
theorem registered_eq_of_name :
    ∀ q ∈ registry, ∀ r ∈ registry, q.cls.name = r.cls.name → q = r := by
  decide

/-- A class has the code of the first registered class in its lineage, and the general one if
    there is none. -/
theorem code_cases (c : ErrorClass) :
    ((∀ r ∈ registry, r.cls.name ∉ c.lineage) ∧ c.code = generalCode) ∨
    ∃ r ∈ registry, ∃ before after, c.lineage = before ++ r.cls.name :: after ∧
      (∀ q ∈ registry, q.cls.name ∉ before) ∧ c.code = r.code := by
  unfold code
  cases hfind : c.lineage.findSome? codeOf? with
  | none =>
      refine Or.inl ⟨fun r hr hmem => ?_, rfl⟩
      exact codeOf?_ne_none hr (List.findSome?_eq_none_iff.mp hfind _ hmem)
  | some code =>
      obtain ⟨before, name, after, hsplit, hcode, hnone⟩ := List.findSome?_eq_some_iff.mp hfind
      obtain ⟨r, hr, rfl, rfl⟩ := codeOf?_eq_some hcode
      exact Or.inr ⟨r, hr, before, after, hsplit,
        fun q hq hmem => codeOf?_ne_none hq (hnone _ hmem), rfl⟩

namespace Hierarchy

variable {ds : List Declared} {d : Declared}

/-- In every hierarchy that has the registered classes, a class that descends from none of
    them has the general code. Any other class has the code of a registered class that it
    descends from, and from no registered class in between. If of any two registered classes
    that it descends from one descends from the other, then the one whose code it has descends
    from all of them. -/
theorem code_nearest (h : Hierarchy ds) (hregistry : ∀ r ∈ registry, ∃ d ∈ ds, d.cls = r.cls)
    (hd : d ∈ ds) :
    ((∀ r ∈ registry, ¬Descends ds d.cls r.cls) → d.cls.code = "PI000") ∧
    ((∃ r ∈ registry, Descends ds d.cls r.cls) →
      ∃ r ∈ registry, Descends ds d.cls r.cls ∧ d.cls.code = r.code ∧
        (∀ q ∈ registry, q ≠ r → Descends ds q.cls r.cls → ¬Descends ds d.cls q.cls) ∧
        ((∀ p ∈ registry, ∀ q ∈ registry, Descends ds d.cls p.cls → Descends ds d.cls q.cls →
            Descends ds p.cls q.cls ∨ Descends ds q.cls p.cls) →
          ∀ q ∈ registry, Descends ds d.cls q.cls → Descends ds r.cls q.cls)) := by
  have hnames {e : Declared} (he : e ∈ ds) {r : Registered} (hr : r ∈ registry) :
      Descends ds e.cls r.cls ↔ r.cls.name ∈ e.cls.lineage := by
    obtain ⟨a, ha, hcls⟩ := hregistry r hr
    rw [← hcls]
    exact h.descends_iff he ha
  -- Only a class without a registered name in its lineage has the general code.
  rcases code_cases d.cls with ⟨hnone, hcode⟩ | ⟨r, hr, before, after, hsplit, hfirst, hcode⟩
  · refine ⟨fun _ => hcode, fun ⟨r, hr, hdescends⟩ => ?_⟩
    exact absurd ((hnames hd hr).mp hdescends) (hnone r hr)
  · have hbelow : Descends ds d.cls r.cls := by
      rw [hnames hd hr, hsplit]
      exact List.mem_append_right _ List.mem_cons_self
    -- A registered class that descends from this one would stand in front of it.
    have hnearest : ∀ q ∈ registry, q ≠ r → Descends ds q.cls r.cls → ¬Descends ds d.cls q.cls := by
      intro q hq hne hqr hdq
      obtain ⟨a, ha, hcls⟩ := hregistry q hq
      rw [← hcls, hnames ha hr, lineage, hcls] at hqr
      have hmem := (List.mem_cons.mp hqr).resolve_left fun hname =>
        hne (registered_eq_of_name q hq r hr hname.symm)
      exact hfirst q hq (h.mem_before hd hsplit hdq hmem)
    refine ⟨fun hnone => absurd hbelow (hnone r hr), fun _ => ⟨r, hr, hbelow, hcode, hnearest, ?_⟩⟩
    intro hchain q hq hdq
    by_cases hsame : q = r
    · rw [hsame]
      exact .refl
    · exact (hchain r hr q hq hbelow hdq).resolve_right fun hqr => hnearest q hq hsame hqr hdq

end Hierarchy

instance (ds : List Declared) (d : Declared) : Decidable (d.Fits ds) :=
  decidable_of_iff
    ((∀ e ∈ ds, e.cls.name ≠ d.cls.name) ∧ d.bases ≠ [] ∧ (∀ b ∈ d.bases, ∃ e ∈ ds, e.cls = b) ∧
      derive d.cls.name d.bases = .ok d.cls)
    ⟨fun ⟨hfresh, hsome, hbases, hderived⟩ => ⟨hfresh, hsome, hbases, hderived⟩,
      fun h => ⟨h.fresh, h.some_base, h.bases, h.derived⟩⟩

/-- Whether classes are a hierarchy can be seen from the classes. -/
instance decidableHierarchy : (ds : List Declared) → Decidable (Hierarchy ds)
  | [] => isFalse nofun
  | [d] => decidable_of_iff (d = ⟨object, []⟩)
      ⟨fun h => h ▸ .root, fun h => by
        cases h with
        | root => rfl
        | declare hds _ => cases hds⟩
  | d :: e :: ds =>
    have := decidableHierarchy (e :: ds)
    decidable_of_iff (Hierarchy (e :: ds) ∧ d.Fits (e :: ds))
      ⟨fun ⟨hds, hd⟩ => .declare hds hd, fun h => by
        cases h with
        | declare hds hd => exact ⟨hds, hd⟩⟩

/-- The class of all that can be thrown. -/
def thrown : ErrorClass := ⟨"BaseException", object.lineage⟩

/-- Lookups that fail. -/
def lookup : ErrorClass := ⟨"LookupError", exception.lineage⟩

/-- The classes that are known by name, with their bases, and those that they come from. -/
def declared : List Declared :=
  [⟨patternCompile, [library]⟩, ⟨invalidConfig, [configParse]⟩, ⟨configRead, [configParse]⟩,
    ⟨configParse, [configValidation]⟩, ⟨configFieldType, [configValidation]⟩,
    ⟨configValidation, [validation]⟩, ⟨wrongType, [library, type]⟩, ⟨validation, [library, value]⟩,
    ⟨library, [exception]⟩, ⟨os, [exception]⟩, ⟨key, [lookup]⟩, ⟨lookup, [exception]⟩,
    ⟨type, [exception]⟩, ⟨value, [exception]⟩, ⟨exception, [thrown]⟩, ⟨thrown, [object]⟩,
    ⟨object, []⟩]

/-- The ancestors of the classes that are known by name follow from their bases. -/
theorem hierarchy_declared : Hierarchy declared ∧ ∀ c ∈ known, ∃ d ∈ declared, d.cls = c := by
  decide +kernel

/-- A class that is made from one that is not registered, from the one for files that cannot
    be read and from the one for wrong types. Of the last two neither descends from the other
    one, and the code is that of the first. -/
theorem Hierarchy.code_nearest_mixed :
    let helper : ErrorClass := ⟨"Helper", object.lineage⟩
    let mixed : ErrorClass := ⟨"Mixed", ["Helper", "ConfigReadError", "ConfigParseError",
      "ConfigValidationError", "PytestImpValidationError", "PytestImpTypeError", "PytestImpError",
      "ValueError", "TypeError", "Exception", "BaseException", "object"]⟩
    let ds := ⟨mixed, [helper, configRead, wrongType]⟩ :: ⟨helper, [object]⟩ :: declared
    Hierarchy ds ∧ (∀ r ∈ registry, ∃ d ∈ ds, d.cls = r.cls) ∧ mixed.code = "PI113" ∧
      Descends ds mixed wrongType ∧ ¬Descends ds configRead wrongType ∧
      ∃ r ∈ registry, mixed.code = r.code ∧
        ∀ q ∈ registry, q ≠ r → Descends ds q.cls r.cls → ¬Descends ds mixed q.cls := by
  intro helper mixed ds
  have hds : Hierarchy ds := by decide +kernel
  have hregistry : ∀ r ∈ registry, ∃ d ∈ ds, d.cls = r.cls := by decide +kernel
  have hmixed : (⟨mixed, [helper, configRead, wrongType]⟩ : Declared) ∈ ds := List.mem_cons_self
  have hread : (⟨configRead, [configParse]⟩ : Declared) ∈ ds := by decide +kernel
  have htype : (⟨wrongType, [library, type]⟩ : Declared) ∈ ds := by decide +kernel
  have hdescends : Descends ds mixed wrongType :=
    (hds.descends_iff hmixed htype).mpr (by decide +kernel)
  obtain ⟨_, hsome⟩ := hds.code_nearest hregistry hmixed
  obtain ⟨r, hr, _, hcode, hnearest, _⟩ :=
    hsome ⟨⟨wrongType, "pytestimp._internal.exceptions", "PI101"⟩, by decide +kernel, hdescends⟩
  refine ⟨hds, hregistry, by decide +kernel, hdescends, fun h => ?_, r, hr, hcode, hnearest⟩
  have hmem := (hds.descends_iff hread htype).mp h
  revert hmem
  decide +kernel

end ErrorClass

end NamePatterns
