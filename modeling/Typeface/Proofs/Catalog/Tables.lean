import Mathlib
import Typeface.Proofs.Catalog

/-!
# Tables and their order

A table is refused exactly if two of its entries have one name.  The refusal
lists the names that occur more than once, each of them once and in the order in
which the table comes to them.  A table that is accepted has one entry for a
name, so that the order of its entries shows only where all names are listed.
-/

namespace Typeface

open Value

namespace Catalog

variable {values : List Value} {entries others : List Entry} {name : Value}

/-- Two entries at different places of a table have the name. -/
def NamedTwice (entries : List Entry) (name : Value) : Prop :=
  ∃ first second : Fin entries.length,
    first < second ∧ entries[first].name = name ∧ entries[second].name = name

/-- The first place of one value comes before every place of the other. -/
def FirstBefore (values : List Value) (left right : Value) : Prop :=
  ∃ before after, values = before ++ left :: after ∧ right ∉ before ∧ right ≠ left

/-! ## Names that occur more than once -/

theorem duplicate_names_iff : (entries.map Entry.name).Duplicate name ↔ NamedTwice entries name := by
  rw [List.duplicate_iff_exists_distinct_get]
  constructor
  · rintro ⟨first, second, hlt, hfirst, hsecond⟩
    refine ⟨first.cast (List.length_map _), second.cast (List.length_map _), hlt, ?_, ?_⟩
    · simpa using hfirst.symm
    · simpa using hsecond.symm
  · rintro ⟨first, second, hlt, rfl, hsecond⟩
    refine ⟨first.cast (List.length_map _).symm, second.cast (List.length_map _).symm, hlt, ?_, ?_⟩
    · simp
    · simpa using hsecond.symm

theorem not_nodup_names_iff :
    ¬ (entries.map Entry.name).Nodup ↔ ∃ name, NamedTwice entries name := by
  simp only [← List.exists_duplicate_iff_not_nodup, duplicate_names_iff]

theorem FirstBefore.cons {left right first : Value} (hbefore : FirstBefore values left right)
    (hright : right ≠ first) : FirstBefore (first :: values) left right := by
  obtain ⟨before, after, rfl, hnew, hne⟩ := hbefore
  refine ⟨first :: before, after, rfl, ?_, hne⟩
  rw [List.mem_cons, not_or]
  exact ⟨hright, hnew⟩

theorem firstBefore_irrefl (values : List Value) (value : Value) :
    ¬ FirstBefore values value value := by
  rintro ⟨_, _, _, _, hne⟩
  exact hne rfl

/-- Of values that are kept at their first places, the earlier ones stay in front. -/
theorem pairwise_distinct (htexts : ∀ value ∈ values, IsText value) :
    (distinct values).Pairwise (FirstBefore values) := by
  induction values with
  | nil => exact .nil
  | cons first rest ih =>
    rw [List.forall_mem_cons] at htexts
    have hother : ∀ value ∈ (distinct rest).filter fun other => !equal first other,
        value ≠ first := by
      rintro value hvalue rfl
      have hself : equal value value = true := htexts.1.equal_iff.mpr rfl
      simp [hself] at hvalue
    rw [distinct, List.pairwise_cons]
    constructor
    · intro value hvalue
      exact ⟨[], rest, rfl, List.not_mem_nil, hother value hvalue⟩
    · refine ((ih htexts.2).filter _).imp_of_mem ?_
      intro left right _ hright hbefore
      exact hbefore.cons (hother right hright)

theorem pairwise_repeated (htexts : ∀ value ∈ values, IsText value) :
    (repeated values).Pairwise (FirstBefore values) :=
  (pairwise_distinct htexts).filter _

theorem nodup_repeated (htexts : ∀ value ∈ values, IsText value) : (repeated values).Nodup := by
  refine (pairwise_repeated htexts).imp ?_
  rintro left right hbefore rfl
  exact firstBefore_irrefl _ _ hbefore

/-- A table is refused exactly if a name stands in two of its entries.  The refusal lists the names
of this sort and no others, each once and in the order of their first places, and nothing is logged.
Every other table is kept as it is, and the one record counts its entries and its mappings. -/
theorem ofEntries_refuses_iff (entries : List Entry)
    (htexts : ∀ entry ∈ entries, IsText entry.name) :
    ((∃ duplicates, (ofEntries entries).1 = .error (.fault (.catalogIntegrity duplicates))) ↔
      ∃ name, NamedTwice entries name) ∧
    (∀ failure, (ofEntries entries).1 = .error failure →
      ∃ names, failure = .fault (.catalogIntegrity (.list names)) ∧
        (∀ name, name ∈ names ↔ NamedTwice entries name) ∧ names.Nodup ∧
        names.Pairwise (FirstBefore (entries.map Entry.name)) ∧ (ofEntries entries).2 = []) ∧
    ((∀ name, ¬ NamedTwice entries name) →
      ofEntries entries = (.ok { entries },
        [{ severity := .debug
           source := "fontident.fonts.catalog"
           message := "Legacy font catalog built with " ++ Number.decimal entries.length ++
            " entries (" ++ Number.decimal (entries.countP fun entry => entry.mapping.isSome) ++
              " mapped)" }])) := by
  have hnames : ∀ value ∈ entries.map Entry.name, IsText value := by
    simpa using htexts
  rw [← not_nodup_names_iff, ← not_exists, ← not_nodup_names_iff, not_not]
  by_cases hnodup : (entries.map Entry.name).Nodup
  · have hmade := ofEntries_of_nodup htexts hnodup
    refine ⟨by simp [hmade, hnodup], by simp [hmade], fun _ => ?_⟩
    rw [hmade, builtRecord, size, mappedNames, List.length_map, ← List.countP_eq_length_filter]
    simp only [← HostText.ofText_append]
    rfl
  · have hrefused := ofEntries_of_not_nodup htexts hnodup
    refine ⟨by simp [hrefused, hnodup], ?_, fun hother => absurd hother hnodup⟩
    intro failure hfailure
    rw [hrefused] at hfailure
    cases hfailure
    refine ⟨_, rfl, ?_, nodup_repeated hnames, pairwise_repeated hnames, by rw [hrefused]⟩
    intro name
    rw [mem_repeated_iff hnames, duplicate_names_iff]

namespace Sample

/-- Two names twice, each of them mapped in one place and reserved in the other. -/
def repeating : List Entry :=
  [builtIn "Roboto" "Roboto" .regular .normal, reserved "Arial", reserved "Unknown",
    builtIn "Arial" "Arial" .bold .normal, reserved "Roboto"]

theorem texts_repeating : ∀ entry ∈ repeating, IsText entry.name := by
  simp only [repeating, List.forall_mem_cons]
  exact ⟨.text _, .text _, .text _, .text _, .text _, nofun⟩

end Sample

/-- The name that comes first is listed first, although the other one is complete before it. -/
theorem ofEntries_refuses_iff_repeating :
    (∀ entry ∈ Sample.repeating, IsText entry.name) ∧
      (ofEntries Sample.repeating).1 =
        .error (.fault (.catalogIntegrity (.list [.text "Roboto", .text "Arial"]))) ∧
      (∀ name, name ∈ [.text "Roboto", .text "Arial"] ↔ NamedTwice Sample.repeating name) ∧
      FirstBefore (Sample.repeating.map Entry.name) (.text "Roboto") (.text "Arial") := by
  have hrepeats : ¬ (Sample.repeating.map Entry.name).Nodup := by
    simp [Sample.repeating, builtIn, reserved]
  have hrefused : (ofEntries Sample.repeating).1 =
      .error (.fault (.catalogIntegrity (.list [.text "Roboto", .text "Arial"]))) := by
    rw [ofEntries_of_not_nodup Sample.texts_repeating hrepeats]
    simp [Sample.repeating, builtIn, reserved, repeated, distinct, equal]
  obtain ⟨names, hfailure, hmem, _, horder, _⟩ :=
    (ofEntries_refuses_iff Sample.repeating Sample.texts_repeating).2.1 _ hrefused
  cases hfailure
  exact ⟨Sample.texts_repeating, hrefused, hmem, by simpa using horder⟩

/-! ## Tables in another order -/

/-- A table without repeated names is scanned for a name with one result in any order. -/
theorem mapping?_of_perm (htexts : ∀ entry ∈ entries, IsText entry.name)
    (hnodup : (entries.map Entry.name).Nodup) (hperm : entries.Perm others) {mapping : Mapping}
    (hfound : mapping? { entries } name = some mapping) :
    mapping? { entries := others } name = some mapping := by
  obtain ⟨entry, hentry, hentryName, hmapping⟩ := (mapping?_eq_some_iff htexts hnodup).mp hfound
  have hothers : ∀ entry ∈ others, IsText entry.name := by
    intro entry hentry
    exact htexts entry (hperm.mem_iff.mpr hentry)
  rw [mapping?_eq_some_iff hothers ((hperm.map Entry.name).nodup_iff.mp hnodup)]
  exact ⟨entry, hperm.mem_iff.mp hentry, hentryName, hmapping⟩

theorem repeated_perm (htexts : ∀ entry ∈ entries, IsText entry.name)
    (hperm : entries.Perm others) :
    (repeated (entries.map Entry.name)).Perm (repeated (others.map Entry.name)) := by
  have hnames : ∀ value ∈ entries.map Entry.name, IsText value := by
    simpa using htexts
  have hmap : (entries.map Entry.name).Perm (others.map Entry.name) := hperm.map Entry.name
  have hothers : ∀ value ∈ others.map Entry.name, IsText value := by
    intro value hvalue
    exact hnames value (hmap.mem_iff.mpr hvalue)
  rw [List.perm_ext_iff_of_nodup (nodup_repeated hnames) (nodup_repeated hothers)]
  intro name
  classical
  rw [mem_repeated_iff hnames, mem_repeated_iff hothers, List.duplicate_iff_two_le_count,
    List.duplicate_iff_two_le_count, hmap.count_eq]

/-- Two tables of the same entries are both accepted, or both refused for the same names.  The
catalogs that they make answer every question about a name alike, whatever the name is and whatever
the mappings hold, and list the same names in their own orders. -/
theorem permuted_tables_agree (entries others : List Entry)
    (htexts : ∀ entry ∈ entries, IsText entry.name) (hperm : entries.Perm others) :
    ((∃ catalog, (ofEntries entries).1 = .ok catalog) ↔
      ∃ other, (ofEntries others).1 = .ok other) ∧
    (∀ failure, (ofEntries entries).1 = .error failure →
      ∃ names otherNames, failure = .fault (.catalogIntegrity (.list names)) ∧
        (ofEntries others).1 = .error (.fault (.catalogIntegrity (.list otherNames))) ∧
        names.Perm otherNames) ∧
    ∀ catalog other, (ofEntries entries).1 = .ok catalog → (ofEntries others).1 = .ok other →
      (∀ name, catalog.resolve name = other.resolve name ∧
        (∀ fallback, catalog.get name fallback = other.get name fallback) ∧
        catalog.contains name = other.contains name) ∧
      catalog.names.Perm other.names ∧ catalog.mappedNames.Perm other.mappedNames := by
  have hothers : ∀ entry ∈ others, IsText entry.name := by
    intro entry hentry
    exact htexts entry (hperm.mem_iff.mpr hentry)
  have hnodup_iff : (entries.map Entry.name).Nodup ↔ (others.map Entry.name).Nodup :=
    (hperm.map Entry.name).nodup_iff
  simp only [ofEntries_eq_ok_iff htexts, ofEntries_eq_ok_iff hothers]
  refine ⟨by simp [hnodup_iff], ?_, ?_⟩
  · intro failure hfailure
    have hrepeats : ¬ (entries.map Entry.name).Nodup := by
      intro hnodup
      simp [ofEntries_of_nodup htexts hnodup] at hfailure
    rw [ofEntries_of_not_nodup htexts hrepeats] at hfailure
    cases hfailure
    refine ⟨_, _, rfl, ?_, repeated_perm htexts hperm⟩
    rw [ofEntries_of_not_nodup hothers (hnodup_iff.not.mp hrepeats)]
  · rintro _ _ ⟨hnodup, rfl⟩ ⟨hothersNodup, rfl⟩
    refine ⟨?_, hperm.map Entry.name, (hperm.filter _).map Entry.name⟩
    intro name
    have hmapping : mapping? { entries } name = mapping? { entries := others } name := by
      apply Option.ext
      intro mapping
      exact ⟨mapping?_of_perm htexts hnodup hperm,
        mapping?_of_perm hothers hothersNodup hperm.symm⟩
    have hresolve : resolve { entries } name = resolve { entries := others } name := by
      simp only [resolve, hmapping]
    refine ⟨hresolve, ?_, (hperm.map Entry.name).any_eq⟩
    intro fallback
    simp only [get, hresolve]

/-- In a table and its reversal, a name is mapped, and one that differs from it in the case of a
letter is not found. -/
theorem permuted_tables_agree_reversed :
    (∀ entry ∈ Sample.table, IsText entry.name) ∧ Sample.table.Perm Sample.table.reverse ∧
      (ofEntries Sample.table).1 = .ok { entries := Sample.table } ∧
      ∃ other, (ofEntries Sample.table.reverse).1 = .ok other ∧
        other.resolve (.text "ArialBold") =
          .ok { family := .text (familyLocator "Arial"), weight := .bold, style := .normal } ∧
        other.resolve (.text "arialbold") =
          .error (.fault (.fontNotFound (.text "arialbold") (.text "Font"))) := by
  have htexts : ∀ entry ∈ Sample.table, IsText entry.name := by
    intro entry hentry
    exact (Sample.wellTyped entry hentry).name
  have hperm : Sample.table.Perm Sample.table.reverse := (List.reverse_perm _).symm
  have hmade : (ofEntries Sample.table).1 = .ok { entries := Sample.table } := by
    rw [ofEntries_eq_ok_iff htexts]
    exact ⟨by simp [Sample.table, builtIn, reserved], rfl⟩
  obtain ⟨haccepted, _, hagree⟩ := permuted_tables_agree _ _ htexts hperm
  obtain ⟨other, hother⟩ := haccepted.mp ⟨_, hmade⟩
  obtain ⟨hnames, _⟩ := hagree _ _ hmade hother
  refine ⟨htexts, hperm, hmade, other, hother, ?_, ?_⟩
  · rw [← (hnames (.text "ArialBold")).1]
    simp [resolve, mapping?, Sample.table, builtIn, equal, Descriptor.make, Descriptor.weightOf,
      Descriptor.styleOf, bind, Except.bind, pure, Except.pure]
  · rw [← (hnames (.text "arialbold")).1]
    simp [resolve, mapping?, Sample.table, builtIn, reserved, equal,
      raise_fontNotFound (.text "arialbold")]

end Catalog

end Typeface
