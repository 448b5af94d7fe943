import Mathlib.Data.List.Duplicate
import Typeface.Catalog.Legacy
import Typeface.Proofs.Descriptor
import Typeface.Proofs.Value

/-!
# Views of a catalog

A catalog is built only from a table that names nothing twice.  So the first
entry that a scan finds under a name is the one entry of this name, and all
questions about a name have the same answer: it is mapped and resolves, or it is
reserved and contained but does not resolve, or it is absent.
-/

namespace Typeface

open Value

/-- The mapping stands for a descriptor. -/
structure Mapping.Describes (mapping : Mapping) (descriptor : Descriptor) : Prop where
  family : mapping.family = descriptor.family
  weight : mapping.weight = .weight descriptor.weight
  style : mapping.style = .style descriptor.style

/-- The name is a text, and the mapping, where there is one, has a weight and a style. -/
structure Entry.WellTyped (entry : Entry) : Prop where
  name : IsText entry.name
  mapping : ∀ mapping ∈ entry.mapping, ∃ descriptor, mapping.Describes descriptor

theorem Mapping.Describes.make {mapping : Mapping} {descriptor : Descriptor}
    (hdescribes : mapping.Describes descriptor) :
    Descriptor.make mapping.family mapping.weight mapping.style = .ok descriptor := by
  rw [hdescribes.family, hdescribes.weight, hdescribes.style]
  rfl

namespace Catalog

variable {values : List Value} {entries : List Entry} {catalog : Catalog} {name : Value}

/-! ## Repeated names -/

theorem mem_distinct_iff (htexts : ∀ value ∈ values, IsText value) {value : Value} :
    value ∈ distinct values ↔ value ∈ values := by
  induction values with
  | nil => simp [distinct]
  | cons first rest ih =>
    rw [List.forall_mem_cons] at htexts
    simp only [distinct, List.mem_cons, List.mem_filter, ih htexts.2, Bool.not_eq_true']
    constructor
    · exact Or.imp_right And.left
    · intro hmem
      by_cases hsame : value = first
      · exact .inl hsame
      · have hrest : value ∈ rest := hmem.resolve_left hsame
        have hother : equal first value = false := by
          rw [← Bool.not_eq_true, htexts.1.equal_iff]
          exact fun heq => hsame heq.symm
        exact .inr ⟨hrest, hother⟩

open Classical in
theorem mem_repeated_iff (htexts : ∀ value ∈ values, IsText value) {value : Value} :
    value ∈ repeated values ↔ values.Duplicate value := by
  have hcount : value ∈ values → values.countP (equal value) = values.count value := by
    intro hvalue
    apply List.countP_congr
    intro other _
    rw [(htexts value hvalue).equal_iff, beq_iff_eq]
    exact eq_comm
  rw [List.duplicate_iff_two_le_count, repeated, List.mem_filter, mem_distinct_iff htexts,
    decide_eq_true_iff]
  constructor
  · rintro ⟨hvalue, htwice⟩
    rwa [hcount hvalue] at htwice
  · intro htwice
    have hvalue : value ∈ values := List.count_pos_iff.mp (by omega)
    exact ⟨hvalue, by rwa [hcount hvalue]⟩

theorem repeated_eq_nil_iff (htexts : ∀ value ∈ values, IsText value) :
    repeated values = [] ↔ values.Nodup := by
  simp only [List.eq_nil_iff_forall_not_mem, mem_repeated_iff htexts,
    List.nodup_iff_forall_not_duplicate]

theorem raise_catalogIntegrity {Content : Type} (htexts : ∀ value ∈ values, IsText value) :
    (Failure.raise (.catalogIntegrity (.list values)) : Except Failure Content) =
      .error (.fault (.catalogIntegrity (.list values))) := by
  have hwritable : isWritable (.list values) = true := IsText.areWritable htexts
  have hspoken : ∀ reason, spoken (.list values) ≠ .error reason := by
    intro reason hspoken
    simp [spoken_eq_error_iff, display, written, hwritable] at hspoken
  rw [Failure.raise_eq_fault_iff]
  intro reason hmessage
  cases hshown : spoken (.list values) with
  | ok shown => simp [Fault.message, hshown, Except.map] at hmessage
  | error reason => exact hspoken reason hshown

theorem ofEntries_of_nodup (htexts : ∀ entry ∈ entries, IsText entry.name)
    (hnodup : (entries.map Entry.name).Nodup) :
    ofEntries entries = (.ok { entries }, [builtRecord { entries }]) := by
  have hnames : ∀ value ∈ names { entries }, IsText value := by
    simpa [names] using htexts
  have hrepeated : repeated (names { entries }) = [] := (repeated_eq_nil_iff hnames).mpr hnodup
  simp [ofEntries, IsText.areKeys hnames, hrepeated]

theorem ofEntries_of_not_nodup (htexts : ∀ entry ∈ entries, IsText entry.name)
    (hrepeats : ¬ (entries.map Entry.name).Nodup) :
    ofEntries entries =
      (.error (.fault (.catalogIntegrity (.list (repeated (entries.map Entry.name))))), []) := by
  have hnames : ∀ value ∈ names { entries }, IsText value := by
    simpa [names] using htexts
  have hrepeated : repeated (names { entries }) ≠ [] :=
    (repeated_eq_nil_iff hnames).not.mpr hrepeats
  have hfound : ∀ value ∈ repeated (names { entries }), IsText value := by
    intro value hvalue
    exact hnames value ((mem_repeated_iff hnames).mp hvalue).mem
  have hraise : (Failure.raise (.catalogIntegrity (.list (repeated (names { entries })))) :
      Except Failure Catalog) = _ := raise_catalogIntegrity hfound
  simp only [ofEntries, IsText.areKeys hnames, Bool.not_true, Bool.false_eq_true, if_false, hraise]
  rfl

/-- A table makes a catalog exactly if no name occurs in it twice. -/
theorem ofEntries_eq_ok_iff (htexts : ∀ entry ∈ entries, IsText entry.name) :
    (ofEntries entries).1 = .ok catalog ↔
      (entries.map Entry.name).Nodup ∧ catalog = { entries } := by
  by_cases hnodup : (entries.map Entry.name).Nodup
  · simp [ofEntries_of_nodup htexts hnodup, hnodup, eq_comm]
  · simp [ofEntries_of_not_nodup htexts hnodup, hnodup]

/-! ## One entry for each name -/

/-- The name stands in a table without a mapping. -/
def Reserved (entries : List Entry) (name : Value) : Prop :=
  ∃ entry ∈ entries, entry.name = name ∧ entry.mapping = none

/-- The scan passes over entries of other names and over reserved ones, and of the entries that are
left one only can have the name. -/
theorem mapping?_eq_some_iff (htexts : ∀ entry ∈ entries, IsText entry.name)
    (hnodup : (entries.map Entry.name).Nodup) {mapping : Mapping} :
    mapping? { entries } name = some mapping ↔
      ∃ entry ∈ entries, entry.name = name ∧ entry.mapping = some mapping := by
  have hscan : ∀ entry ∈ entries, ∀ found,
      (if equal entry.name name then entry.mapping else none) = some found ↔
        entry.name = name ∧ entry.mapping = some found := by
    intro entry hentry found
    rw [Option.ite_none_right_eq_some, (htexts entry hentry).equal_iff]
  constructor
  · intro hfound
    obtain ⟨entry, hentry, hmapping⟩ := List.exists_of_findSome?_eq_some hfound
    exact ⟨entry, hentry, (hscan entry hentry mapping).mp hmapping⟩
  · rintro ⟨entry, hentry, hentryName, hmapping⟩
    have hsome : (mapping? { entries } name).isSome = true := by
      rw [mapping?, List.findSome?_isSome_iff]
      refine ⟨entry, hentry, ?_⟩
      rw [(hscan entry hentry mapping).mpr ⟨hentryName, hmapping⟩]
      rfl
    obtain ⟨found, hfound⟩ := Option.isSome_iff_exists.mp hsome
    obtain ⟨other, hother, hotherMapping⟩ := List.exists_of_findSome?_eq_some hfound
    obtain ⟨hotherName, hotherMapping⟩ := (hscan other hother found).mp hotherMapping
    obtain rfl : entry = other :=
      List.inj_on_of_nodup_map hnodup hentry hother (hentryName.trans hotherName.symm)
    rw [hfound, ← hotherMapping, hmapping]

theorem mem_mappedNames_iff :
    name ∈ mappedNames { entries } ↔
      ∃ entry ∈ entries, entry.name = name ∧ ∃ mapping, entry.mapping = some mapping := by
  simp only [mappedNames, List.mem_map, List.mem_filter, Option.isSome_iff_exists]
  constructor
  · rintro ⟨entry, ⟨hentry, hmapped⟩, hname⟩
    exact ⟨entry, hentry, hname, hmapped⟩
  · rintro ⟨entry, hentry, hname, hmapped⟩
    exact ⟨entry, ⟨hentry, hmapped⟩, hname⟩

theorem contains_iff (htexts : ∀ entry ∈ entries, IsText entry.name) (hname : IsText name) :
    contains { entries } name = true ↔ name ∈ names { entries } := by
  simp only [contains, names, List.any_eq_true]
  constructor
  · rintro ⟨known, hknown, hequal⟩
    obtain ⟨entry, hentry, rfl⟩ := List.mem_map.mp hknown
    rwa [← (htexts entry hentry).equal_iff.mp hequal]
  · intro hmem
    exact ⟨name, hmem, hname.equal_iff.mpr rfl⟩

/-! ## Resolution -/

theorem raise_fontNotFound {Content : Type} (hname : IsText name) :
    (Failure.raise (.fontNotFound name (.text "Font")) : Except Failure Content) =
      .error (.fault (.fontNotFound name (.text "Font"))) := by
  obtain ⟨shown, hshown⟩ := hname.spoken
  simp [Failure.raise, Fault.message, hshown, bind, Except.bind, pure, Except.pure]

/-- A row of the table has the name, and its mapping stands for the descriptor. -/
def Maps (entries : List Entry) (name : Value) (descriptor : Descriptor) : Prop :=
  ∃ entry ∈ entries, entry.name = name ∧
    ∃ mapping, entry.mapping = some mapping ∧ mapping.Describes descriptor

section Built

variable (htyped : ∀ entry ∈ entries, entry.WellTyped) (hnodup : (entries.map Entry.name).Nodup)

include htyped hnodup

theorem resolve_of_maps {descriptor : Descriptor} (hmaps : Maps entries name descriptor) :
    resolve { entries } name = .ok descriptor := by
  obtain ⟨entry, hentry, hentryName, mapping, hmapping, hdescribes⟩ := hmaps
  have hfound : mapping? { entries } name = some mapping :=
    (mapping?_eq_some_iff (fun entry hentry => (htyped entry hentry).name) hnodup).mpr
      ⟨entry, hentry, hentryName, hmapping⟩
  simp only [resolve, hfound, hdescribes.make]

theorem resolve_of_not_maps (hmissing : ∀ descriptor, ¬ Maps entries name descriptor) :
    resolve { entries } name = Failure.raise (.fontNotFound name (.text "Font")) := by
  have hnone : mapping? { entries } name = none := by
    apply Option.eq_none_iff_forall_ne_some.mpr
    intro mapping hmapping
    rw [mapping?_eq_some_iff (fun entry hentry => (htyped entry hentry).name) hnodup] at hmapping
    obtain ⟨entry, hentry, hentryName, hmapped⟩ := hmapping
    obtain ⟨descriptor, hdescribes⟩ := (htyped entry hentry).mapping mapping hmapped
    exact hmissing descriptor ⟨entry, hentry, hentryName, mapping, hmapped, hdescribes⟩
  simp only [resolve, hnone]

theorem resolve_of_mem_mappedNames (hmem : name ∈ mappedNames { entries }) :
    ∃ entry mapping descriptor, entry ∈ entries ∧ entry.name = name ∧
      (∀ other ∈ entries, other.name = name → other = entry) ∧ entry.mapping = some mapping ∧
      mapping.Describes descriptor ∧ resolve { entries } name = .ok descriptor := by
  obtain ⟨entry, hentry, hentryName, mapping, hmapping⟩ := mem_mappedNames_iff.mp hmem
  obtain ⟨descriptor, hdescribes⟩ := (htyped entry hentry).mapping mapping hmapping
  refine ⟨entry, mapping, descriptor, hentry, hentryName, ?_, hmapping, hdescribes, ?_⟩
  · intro other hother hotherName
    exact List.inj_on_of_nodup_map hnodup hother hentry (hotherName.trans hentryName.symm)
  · exact resolve_of_maps htyped hnodup
      ⟨entry, hentry, hentryName, mapping, hmapping, hdescribes⟩

theorem resolve_of_not_mem_mappedNames (hname : IsText name)
    (hmem : name ∉ mappedNames { entries }) :
    resolve { entries } name = .error (.fault (.fontNotFound name (.text "Font"))) := by
  have hmissing : ∀ descriptor, ¬ Maps entries name descriptor := by
    rintro descriptor ⟨entry, hentry, hentryName, mapping, hmapping, _⟩
    exact hmem (mem_mappedNames_iff.mpr ⟨entry, hentry, hentryName, mapping, hmapping⟩)
  rw [resolve_of_not_maps htyped hnodup hmissing, raise_fontNotFound hname]

end Built

/-- What is contained without being mapped is reserved. -/
theorem reserved_iff (hnodup : (entries.map Entry.name).Nodup) :
    name ∈ names { entries } ∧ name ∉ mappedNames { entries } ↔ Reserved entries name := by
  constructor
  · rintro ⟨hmem, hunmapped⟩
    obtain ⟨entry, hentry, hentryName⟩ := List.mem_map.mp hmem
    refine ⟨entry, hentry, hentryName, ?_⟩
    apply Option.eq_none_iff_forall_ne_some.mpr
    intro mapping hmapping
    exact hunmapped (mem_mappedNames_iff.mpr ⟨entry, hentry, hentryName, mapping, hmapping⟩)
  · rintro ⟨entry, hentry, hentryName, hreserved⟩
    refine ⟨List.mem_map.mpr ⟨entry, hentry, hentryName⟩, ?_⟩
    intro hmem
    obtain ⟨other, hother, hotherName, mapping, hmapping⟩ := mem_mappedNames_iff.mp hmem
    obtain rfl : entry = other :=
      List.inj_on_of_nodup_map hnodup hentry hother (hentryName.trans hotherName.symm)
    rw [hreserved] at hmapping
    cases hmapping

/-- In a catalog that was built, a mapped name has one entry, and resolves to the descriptor of its
mapping; any other name is not found and gets the default.  A name is contained exactly if it is one
of the names, and is contained without being mapped exactly if it is reserved.  The entries keep the
order of the table, and the mapped names the order of the names. -/
theorem built_views_agree (entries : List Entry) (catalog : Catalog) (name fallback : Value)
    (htyped : ∀ entry ∈ entries, entry.WellTyped)
    (hbuilt : (ofEntries entries).1 = .ok catalog) (hname : IsText name) :
    (name ∈ catalog.mappedNames → ∃ entry mapping descriptor, entry ∈ entries ∧
      entry.name = name ∧ (∀ other ∈ entries, other.name = name → other = entry) ∧
      entry.mapping = some mapping ∧ mapping.Describes descriptor ∧
      catalog.resolve name = .ok descriptor ∧ catalog.get name fallback = .ok descriptor.value) ∧
    (name ∉ catalog.mappedNames →
      catalog.resolve name = .error (.fault (.fontNotFound name (.text "Font"))) ∧
      catalog.get name fallback = .ok fallback) ∧
    (catalog.contains name = true ↔ name ∈ catalog.names) ∧
    (name ∈ catalog.names ∧ name ∉ catalog.mappedNames ↔ Reserved entries name) ∧
    catalog.entries = entries ∧ catalog.size = entries.length ∧
    catalog.names = entries.map Entry.name ∧ catalog.mappedNames.Sublist catalog.names := by
  have htexts : ∀ entry ∈ entries, IsText entry.name := by
    intro entry hentry
    exact (htyped entry hentry).name
  obtain ⟨hnodup, rfl⟩ := (ofEntries_eq_ok_iff htexts).mp hbuilt
  refine ⟨?_, ?_, contains_iff htexts hname, reserved_iff hnodup, rfl, rfl, rfl, ?_⟩
  · intro hmem
    obtain ⟨entry, mapping, descriptor, hentry, hentryName, hone, hmapping, hdescribes, hresolve⟩ :=
      resolve_of_mem_mappedNames htyped hnodup hmem
    exact ⟨entry, mapping, descriptor, hentry, hentryName, hone, hmapping, hdescribes, hresolve,
      by simp only [get, hresolve]⟩
  · intro hmem
    have hresolve := resolve_of_not_mem_mappedNames htyped hnodup hname hmem
    exact ⟨hresolve, by simp only [get, hresolve]⟩
  · exact List.filter_sublist.map Entry.name

namespace Sample

def table : List Entry :=
  [builtIn "ArialBold" "Arial" .bold .normal, reserved "Unknown"]

theorem wellTyped : ∀ entry ∈ table, entry.WellTyped := by
  have hdescribes : ∃ descriptor, Mapping.Describes
      { family := .text (familyLocator "Arial"), weight := .weight .bold, style := .style .normal }
      descriptor :=
    ⟨{ family := .text (familyLocator "Arial"), weight := .bold, style := .normal }, rfl, rfl, rfl⟩
  simp only [table, List.forall_mem_cons]
  refine ⟨⟨.text _, ?_⟩, ⟨.text _, nofun⟩, nofun⟩
  intro mapping hmapping
  cases hmapping
  exact hdescribes

end Sample

/-- The reserved name is contained, and resolves like an absent one. -/
theorem built_views_agree_reserved :
    (∀ entry ∈ Sample.table, entry.WellTyped) ∧
      (ofEntries Sample.table).1 = .ok { entries := Sample.table } ∧ IsText (.text "Unknown") ∧
      contains { entries := Sample.table } (.text "Unknown") = true ∧
      resolve { entries := Sample.table } (.text "Unknown") =
        .error (.fault (.fontNotFound (.text "Unknown") (.text "Font"))) := by
  have hbuilt : (ofEntries Sample.table).1 = .ok { entries := Sample.table } := by
    rw [ofEntries_eq_ok_iff fun entry hentry => (Sample.wellTyped entry hentry).name]
    exact ⟨by simp [Sample.table, builtIn, reserved], rfl⟩
  have hname : IsText (.text "Unknown") := .text "Unknown"
  obtain ⟨_, hunmapped, hcontains, hreserved, _⟩ :=
    built_views_agree _ _ (.text "Unknown") .null Sample.wellTyped hbuilt hname
  obtain ⟨hmem, hnot⟩ := hreserved.mpr ⟨reserved "Unknown", by simp [Sample.table], rfl, rfl⟩
  exact ⟨Sample.wellTyped, hbuilt, hname, hcontains.mpr hmem, (hunmapped hnot).1⟩

end Catalog

end Typeface
