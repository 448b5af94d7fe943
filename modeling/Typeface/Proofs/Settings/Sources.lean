import Mathlib
import Typeface.Proofs.Text.Host
import Typeface.Settings.Sources

/-!
# Settings by name

The fields of a record are looked up among its sources name by name, so that
what is found for one of them does not depend on which others are asked for.
Without given fields and options, what is left is the environment in front of the
variables of the dotenv files.
-/

namespace Typeface

/-- The same name, but for the case of its letters. -/
def SameName (left right : String) : Prop :=
  Text.foldName left = Text.foldName right

instance (left right : String) : Decidable (SameName left right) :=
  inferInstanceAs (Decidable (Text.foldName left = Text.foldName right))

theorem Naming.same_anyCase_iff {left right : String} :
    Naming.anyCase.same left right = true ↔ SameName left right :=
  beq_iff_eq

theorem Naming.not_same_anyCase_iff {left right : String} :
    Naming.anyCase.same left right = false ↔ ¬ SameName left right := by
  rw [← Naming.same_anyCase_iff, Bool.not_eq_true]

theorem Naming.sameName_of_same {naming : Naming} {left right : String}
    (hsame : naming.same left right = true) : SameName left right := by
  cases naming with
  | anyCase => exact same_anyCase_iff.mp hsame
  | exact => exact congrArg Text.foldName (beq_iff_eq.mp hsame)

namespace Surroundings

/-- The text of a variable of the environment. -/
def exported? (surroundings : Surroundings) (name : String) : Option String :=
  (Variables.ofEnvironment surroundings.environment).find? .anyCase name

variable {surroundings : Surroundings} {name content : String}

/-- No two variables differ in nothing but the case of their letters. -/
def NamesApart (surroundings : Surroundings) : Prop :=
  surroundings.environment.Pairwise fun left right => ¬ SameName left.1 right.1

theorem exported?_eq_map_find? (surroundings : Surroundings) (name : String) :
    surroundings.exported? name =
      (surroundings.environment.reverse.find? fun entry =>
        Naming.anyCase.same entry.1 name).map (·.2) := by
  rw [exported?, Variables.find?, Variables.ofEnvironment, ← List.map_reverse, List.find?_map]
  simp only [Function.comp_def]
  cases surroundings.environment.reverse.find? fun entry => Naming.anyCase.same entry.1 name <;> rfl

theorem exported?_eq_none_iff :
    surroundings.exported? name = none ↔
      ∀ entry ∈ surroundings.environment, ¬ SameName entry.1 name := by
  simp only [exported?_eq_map_find?, Option.map_eq_none_iff, List.find?_eq_none, List.mem_reverse,
    Naming.same_anyCase_iff]

theorem exported?_eq_some_iff (hapart : surroundings.NamesApart) :
    surroundings.exported? name = some content ↔
      ∃ spelled, (spelled, content) ∈ surroundings.environment ∧ SameName spelled name := by
  rw [exported?_eq_map_find?, Option.map_eq_some_iff]
  constructor
  · rintro ⟨⟨spelled, content⟩, hfound, rfl⟩
    have hsame := List.find?_some hfound
    have hmem := List.mem_of_find?_eq_some hfound
    exact ⟨spelled, List.mem_reverse.mp hmem, Naming.same_anyCase_iff.mp hsame⟩
  · rintro ⟨spelled, hmem, hsame⟩
    obtain ⟨found, hfound⟩ : ∃ found, (surroundings.environment.reverse.find? fun entry =>
        Naming.anyCase.same entry.1 name) = some found := by
      rw [← Option.isSome_iff_exists, List.find?_isSome]
      exact ⟨_, List.mem_reverse.mpr hmem, Naming.same_anyCase_iff.mpr hsame⟩
    have hfoundSame := List.find?_some hfound
    rw [Naming.same_anyCase_iff] at hfoundSame
    have hfoundMem : found ∈ surroundings.environment :=
      List.mem_reverse.mp (List.mem_of_find?_eq_some hfound)
    refine ⟨found, hfound, ?_⟩
    -- another variable of the same name would not be apart from it
    by_contra hcontent
    have hother : found ≠ (spelled, content) := by
      intro heq
      exact hcontent (congrArg Prod.snd heq)
    have hsymmetric : Std.Symm fun left right : String × String => ¬ SameName left.1 right.1 :=
      ⟨fun _ _ hapart hsame => hapart hsame.symm⟩
    exact hapart.forall hfoundMem hmem hother (hfoundSame.trans hsame.symm)

end Surroundings

/-- No given field is an option of the loading itself: these have a low line in front. -/
def Fields.PlainNames (given : Fields) : Prop :=
  ∀ entry ∈ given, entry.1.toList.head? ≠ some '_'

theorem Fields.PlainNames.lookup_eq_none {given : Fields} (hplain : given.PlainNames)
    {option : String} (hoption : option.toList.head? = some '_') : given.lookup option = none := by
  rw [List.lookup_eq_none_iff]
  intro entry hentry
  rw [bne_iff_ne]
  rintro rfl
  exact hplain entry hentry hoption

/-- Whatever looks like an option among given fields is one that is described here. -/
def Fields.KnowsOptions (given : Fields) : Prop :=
  ∀ entry ∈ given, entry.1.toList.head? = some '_' → entry.1 ∈ Sources.options

theorem Fields.PlainNames.knowsOptions {given : Fields} (hplain : given.PlainNames) :
    given.KnowsOptions := by
  intro entry hentry hoption
  exact absurd hoption (hplain entry hentry)

theorem Sources.knowsOptions_iff {given : Fields} :
    Sources.knowsOptions given = true ↔ given.KnowsOptions := by
  simp only [Sources.knowsOptions, List.all_eq_true, Bool.or_eq_true, bne_iff_ne,
    List.contains_iff_mem, Fields.KnowsOptions]
  apply forall₂_congr
  intro entry _
  exact or_iff_not_imp_left.trans (imp_congr_left not_not)

theorem Variables.find?_of_sameName {held : Variables} {name other : String}
    (hsame : SameName name other) : held.find? .anyCase name = held.find? .anyCase other := by
  have hfold : Text.foldName name = Text.foldName other := hsame
  simp only [Variables.find?, Naming.same, hfold]

namespace Sources

variable {stem name : String} {surroundings : Surroundings} {held : Variables}

theorem heldBy?_of_stem {sources : Sources} (hstem : sources.stem = stem) :
    sources.heldBy? held name = held.find? sources.naming (stem ++ name) := by
  have hvariable : (sources.stem ++ (name : HostText)).plain? = some (stem ++ name) := by
    rw [hstem, ← HostText.ofText_append, HostText.plain?_ofText]
  simp only [heldBy?, hvariable]

theorem given?_eq_none_of_forall_ne {sources : Sources}
    (hkeys : ∀ entry ∈ sources.given, ¬ SameName entry.1 name) : sources.given? name = none := by
  have hlookup : sources.given.lookup name = none := by
    rw [List.lookup_eq_none_iff]
    intro entry hentry
    rw [bne_iff_ne]
    rintro rfl
    exact hkeys entry hentry rfl
  have hfind : (sources.given.find? fun entry => sources.naming.same entry.1 name) = none := by
    rw [List.find?_eq_none]
    intro entry hentry hsame
    exact hkeys entry hentry (Naming.sameName_of_same hsame)
  rw [given?, hlookup, hfind]
  rfl

/-- Sources that no option among the given fields bears on. -/
def plain (stem : String) (surroundings : Surroundings) (given : Fields) (dotenv : Variables) :
    Sources :=
  { stem, naming := .anyCase, given
    environment := Variables.ofEnvironment surroundings.environment, dotenv }

theorem gather_of_knowsOptions {given : Fields} (hknown : given.KnowsOptions) (stem : String)
    (surroundings : Surroundings) (choice : DotenvChoice) :
    gather stem surroundings given choice = gatherDescribed stem surroundings given choice :=
  if_pos (knowsOptions_iff.mpr hknown)

theorem gather_plain {given : Fields} (hplain : given.PlainNames) (stem : String)
    (surroundings : Surroundings) (choice : DotenvChoice) :
    gather stem surroundings given choice =
      (surroundings.dotenv choice).map (plain stem surroundings given) := by
  have hfile : given.lookup "_env_file" = none := hplain.lookup_eq_none rfl
  have hstem : given.lookup "_env_prefix" = none := hplain.lookup_eq_none rfl
  have hcase : given.lookup "_case_sensitive" = none := hplain.lookup_eq_none rfl
  have hempty : given.lookup "_env_ignore_empty" = none := hplain.lookup_eq_none rfl
  rw [gather_of_knowsOptions hplain.knowsOptions]
  cases hdotenv : surroundings.dotenv choice <;>
    simp [gatherDescribed, DotenvChoice.ofGiven, DotenvChoice.name, stemOf, isOn, hfile, hstem, hcase,
      hempty, hdotenv, bind, Except.bind, pure, Except.pure, Except.map, plain]

/-- Where there is no standard dotenv file, it makes no difference whether it is read. -/
theorem gather_standard (hdotenv : surroundings.dotenv .standard = .ok [])
    (hmissing : surroundings.isDotenvFile ".env" = false) (stem : String) (given : Fields) :
    gather stem surroundings given .standard = gather stem surroundings given .absent := by
  unfold gather gatherDescribed DotenvChoice.ofGiven
  cases given.lookup DotenvChoice.name with
  | some value => rfl
  | none =>
    have habsent : surroundings.dotenv .absent = .ok [] := rfl
    have hfiles : surroundings.dotenvFiles (.ok .standard) =
        surroundings.dotenvFiles (.ok .absent) := by
      simp [Surroundings.dotenvFiles, DotenvChoice.standard, hmissing]
    simp only [bind, Except.bind, hdotenv, habsent, hfiles]

/-- Sources without given fields. -/
def ofVariables (stem : String) (surroundings : Surroundings) (dotenv : Variables) : Sources :=
  { stem, naming := .anyCase, given := []
    environment := Variables.ofEnvironment surroundings.environment, dotenv }

theorem gather_nil (stem : String) (surroundings : Surroundings) (choice : DotenvChoice) :
    gather stem surroundings [] choice =
      (surroundings.dotenv choice).map (ofVariables stem surroundings) :=
  gather_plain (fun _ hentry => absurd hentry List.not_mem_nil) stem surroundings choice

theorem value?_ofVariables :
    (ofVariables stem surroundings held).value? name =
      ((surroundings.exported? (stem ++ name)).orElse fun _ =>
        held.find? .anyCase (stem ++ name)).map .text := by
  rw [value?, heldBy?_of_stem rfl, heldBy?_of_stem rfl]
  rfl

/-- What is read from the variables of one dotenv file is what is read from those of another exactly
if each setting that the environment leaves open reads the same. -/
theorem forall_read_iff_reads_alike {β : Type} {read : String → Option Value → β}
    {result : String → β} {names : List String} {named standard : Variables}
    (hstandard : ∀ name ∈ names,
      read name ((ofVariables stem surroundings standard).value? name) = result name) :
    (∀ name ∈ names, read name ((ofVariables stem surroundings named).value? name) =
        result name) ↔
      ∀ name ∈ names, surroundings.exported? (stem ++ name) = none →
        read name ((named.find? .anyCase (stem ++ name)).map .text) =
          read name ((standard.find? .anyCase (stem ++ name)).map .text) := by
  apply forall₂_congr
  intro name hname
  have hsetting := hstandard name hname
  rw [value?_ofVariables] at hsetting ⊢
  cases hexported : surroundings.exported? (stem ++ name) with
  | some text => simpa [hexported] using hsetting
  | none =>
    simp only [hexported, Option.orElse_none] at hsetting
    simp [hsetting]

/-- A setting that is asked for is found where its first source has it. -/
theorem lookup_fields (sources : Sources) (names : List String) (name : String) :
    (sources.fields names).lookup name = if name ∈ names then sources.value? name else none := by
  unfold fields
  induction names with
  | nil => rfl
  | cons first rest ih =>
    by_cases hfirst : name = first
    · subst hfirst
      cases hvalue : sources.value? name <;> simp [hvalue, ih]
    · have hother : (name == first) = false := beq_false_of_ne hfirst
      cases hvalue : sources.value? first <;> simp [hvalue, List.lookup_cons, hother, hfirst, ih]

theorem fields_congr {left right : Sources} {names : List String}
    (hvalue : ∀ name ∈ names, left.value? name = right.value? name) :
    left.fields names = right.fields names := by
  apply List.filterMap_congr
  intro name hname
  rw [hvalue name hname]

end Sources

end Typeface
