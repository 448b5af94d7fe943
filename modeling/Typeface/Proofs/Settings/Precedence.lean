import Mathlib
import Typeface.Proofs.Settings.Address
import Typeface.Proofs.Settings.Closure
import Typeface.Proofs.Settings.Isolation
import Typeface.Proofs.Settings.Sources

/-!
# Which source a setting comes from

A record that is loaded from a YAML file takes each setting from the file if a
key there names it, else from the environment, else from its default.  Keys are
matched like variables, in any letters; the exact spelling comes first.  Only
the value that is chosen so is checked: what another source holds does no harm,
and a setting has no part in the choice of another.
-/

namespace Typeface

/-- The value that a setting is to have: the one of a key in the mapping that is given, or else the
content of a variable, or else none. -/
inductive Chosen (given : Fields) (environment : List (String × String)) (stem name : String) :
    Option Value → Prop
  | named {value : Value} (hnamed : given.lookup name = some value) :
      Chosen given environment stem name (some value)
  /-- Where no key is the name itself, the first key counts that is the name in other letters. -/
  | respelled {before after : Fields} {key : String} {value : Value}
      (hnamed : given.lookup name = none) (hgiven : given = before ++ (key, value) :: after)
      (hkey : SameName key name) (hfirst : ∀ entry ∈ before, ¬ SameName entry.1 name) :
      Chosen given environment stem name (some value)
  | exported {spelled content : String} (hkeys : ∀ entry ∈ given, ¬ SameName entry.1 name)
      (hmem : (spelled, content) ∈ environment) (hsame : SameName spelled (stem ++ name)) :
      Chosen given environment stem name (some (.text content))
  | absent (hkeys : ∀ entry ∈ given, ¬ SameName entry.1 name)
      (hvariables : ∀ entry ∈ environment, ¬ SameName entry.1 (stem ++ name)) :
      Chosen given environment stem name none

namespace Sources

variable {stem name : String} {surroundings : Surroundings} {given : Fields} {value : Option Value}

theorem find?_key_eq_none_iff :
    (given.find? fun entry => Naming.anyCase.same entry.1 name) = none ↔
      ∀ entry ∈ given, ¬ SameName entry.1 name := by
  simp only [List.find?_eq_none, Naming.same_anyCase_iff]

theorem find?_key_eq_some_iff {key : String} {content : Value} :
    (given.find? fun entry => Naming.anyCase.same entry.1 name) = some (key, content) ↔
      SameName key name ∧ ∃ before after, given = before ++ (key, content) :: after ∧
        ∀ entry ∈ before, ¬ SameName entry.1 name := by
  simp only [List.find?_eq_some_iff_append, Naming.same_anyCase_iff, Bool.not_eq_true',
    Naming.not_same_anyCase_iff]

/-- Where no key names a setting, the environment is asked for it. -/
theorem value?_plain_of_forall_ne (hkeys : ∀ entry ∈ given, ¬ SameName entry.1 name) :
    (plain stem surroundings given []).value? name =
      (surroundings.exported? (stem ++ name)).map .text := by
  rw [value?, given?_eq_none_of_forall_ne hkeys, heldBy?_of_stem rfl, heldBy?_of_stem rfl]
  change ((surroundings.exported? (stem ++ name)).orElse fun _ => none).map Value.text = _
  cases surroundings.exported? (stem ++ name) <;> rfl

theorem value?_plain_of_chosen (hapart : surroundings.NamesApart)
    (hchosen : Chosen given surroundings.environment stem name value) :
    (plain stem surroundings given []).value? name = value := by
  cases hchosen with
  | named hnamed => simp [value?, given?, plain, hnamed]
  | respelled hnamed hgiven hkey hfirst =>
    have hfound := find?_key_eq_some_iff.mpr ⟨hkey, _, _, hgiven, hfirst⟩
    simp [value?, given?, plain, hnamed, hfound]
  | exported hkeys hmem hsame =>
    have hexported := (surroundings.exported?_eq_some_iff hapart).mpr ⟨_, hmem, hsame⟩
    rw [value?_plain_of_forall_ne hkeys, hexported]
    rfl
  | absent hkeys hvariables =>
    have hexported := surroundings.exported?_eq_none_iff.mpr hvariables
    rw [value?_plain_of_forall_ne hkeys, hexported]
    rfl

theorem exists_chosen (hapart : surroundings.NamesApart) (given : Fields) (stem name : String) :
    ∃ value, Chosen given surroundings.environment stem name value := by
  cases hnamed : given.lookup name with
  | some value => exact ⟨_, .named hnamed⟩
  | none =>
    cases hfound : given.find? fun entry => Naming.anyCase.same entry.1 name with
    | some entry =>
      obtain ⟨hkey, before, after, hgiven, hfirst⟩ := find?_key_eq_some_iff.mp hfound
      exact ⟨_, .respelled hnamed hgiven hkey hfirst⟩
    | none =>
      have hkeys := find?_key_eq_none_iff.mp hfound
      cases hexported : surroundings.exported? (stem ++ name) with
      | some content =>
        obtain ⟨spelled, hmem, hsame⟩ := (surroundings.exported?_eq_some_iff hapart).mp hexported
        exact ⟨_, .exported hkeys hmem hsame⟩
      | none => exact ⟨_, .absent hkeys (surroundings.exported?_eq_none_iff.mp hexported)⟩

/-- What is found among the sources is what is chosen, if variables have different names. -/
theorem value?_plain_eq_iff (hapart : surroundings.NamesApart) :
    (plain stem surroundings given []).value? name = value ↔
      Chosen given surroundings.environment stem name value := by
  constructor
  · rintro rfl
    obtain ⟨value, hchosen⟩ := exists_chosen hapart given stem name
    rwa [value?_plain_of_chosen hapart hchosen]
  · exact value?_plain_of_chosen hapart

end Sources

namespace ClientSettings

variable {surroundings : Surroundings} {given : Fields} {settings : ClientSettings}

/-- What a field of a name is to hold where a value is chosen for it, or none. -/
def Fills (name : String) : Option Value → Option Value → Prop
  | some value, held => ∃ result, taken name value = .ok result ∧ some result = held
  | none, held => defaults.toFields.lookup name = held

theorem reading_eq_ok_iff_fills {name : String} {chosen held : Option Value}
    (hname : name ∈ fieldNames) : reading name chosen = .ok held ↔ Fills name chosen held := by
  cases chosen with
  | none => simp [reading_none hname, Fills]
  | some value =>
    rw [reading_some value name hname, Checked.field, Fills]
    cases taken name value <;> simp [Except.map]

theorem not_exists_reading_iff {name : String} {chosen : Option Value} (hname : name ∈ fieldNames) :
    (¬ ∃ held, reading name chosen = .ok held) ↔
      ∃ value defect, chosen = some value ∧ taken name value = .error defect := by
  cases chosen with
  | none => simp [reading_none hname]
  | some value =>
    rw [reading_some value name hname, Checked.field]
    cases htaken : taken name value <;> simp [Except.map, htaken]

/-- Each field of the settings holds what is chosen for it, as the field takes it. -/
def HoldsChosen (surroundings : Surroundings) (given : Fields) (settings : ClientSettings) : Prop :=
  ∀ name ∈ fieldNames, ∀ value, Chosen given surroundings.environment stem name value →
    Fills name value (settings.toFields.lookup name)

/-- A value is chosen that its field does not take. -/
def RefusesChosen (surroundings : Surroundings) (given : Fields) : Prop :=
  ∃ name ∈ fieldNames, ∃ value defect,
    Chosen given surroundings.environment stem name (some value) ∧ taken name value = .error defect

theorem load_absent (hplain : given.PlainNames) :
    load surroundings given .absent =
      (ofFields ((Sources.plain stem surroundings given []).fields fieldNames)).orFail := by
  rw [load, Sources.gather_plain hplain]
  rfl

theorem load_absent_eq_ok_iff (hplain : given.PlainNames) (hapart : surroundings.NamesApart) :
    load surroundings given .absent = .ok settings ↔ HoldsChosen surroundings given settings := by
  rw [load_absent hplain, Checked.orFail_eq_ok_iff, ofFields_eq_ok_iff_reading]
  apply forall₂_congr
  intro name hname
  rw [Sources.lookup_fields, if_pos hname, reading_eq_ok_iff_fills hname]
  constructor
  · intro hfills value hchosen
    rwa [Sources.value?_plain_of_chosen hapart hchosen] at hfills
  · intro hfills
    apply hfills
    exact (Sources.value?_plain_eq_iff hapart).mp rfl

theorem not_exists_load_absent_iff (hplain : given.PlainNames)
    (hapart : surroundings.NamesApart) :
    (¬ ∃ settings, load surroundings given .absent = .ok settings) ↔
      RefusesChosen surroundings given := by
  simp only [load_absent hplain, Checked.orFail_eq_ok_iff, exists_ofFields_iff_reading, not_forall,
    exists_prop]
  apply exists_congr
  intro name
  apply and_congr_right
  intro hname
  rw [Sources.lookup_fields, if_pos hname, not_exists_reading_iff hname]
  simp only [Sources.value?_plain_eq_iff hapart]

end ClientSettings

namespace Settings

variable {α : Type} {surroundings : Surroundings} {load : Loader α} {path : HostText}
variable {given : Fields}

theorem fromYaml_of_gives (hgives : Gives surroundings path given) :
    fromYaml load surroundings path.value =
      blame (faultOf (Path.ofText path).text) (load surroundings given .absent) := by
  obtain ⟨node, hfound⟩ := probe_of_gives hgives
  have hfields : fieldsIn surroundings (.ofText path) = .ok given := hgives
  simp only [fromYaml, loadFile, HostText.hostText?_value]
  rw [loadText_found hfound, hfields]
  rfl

theorem fromYaml_eq_ok_iff_of_gives (hgives : Gives surroundings path given) {content : α} :
    fromYaml load surroundings path.value = .ok content ↔
      load surroundings given .absent = .ok content := by
  rw [fromYaml_of_gives hgives, blame_eq_ok_iff]

/-- What keeps a record from being loaded from fields is a fault of configuration. -/
theorem raised?_blame_eq_configLoad_iff {outcome : Except Failure α} (shown : HostText)
    (hfails : Failure.Fails Failure.IsOrdinary outcome) :
    raised? (blame (faultOf shown) outcome) = some .configLoad ↔
      ¬ ∃ content, outcome = .ok content := by
  cases outcome with
  | ok content => simp [blame, raised?]
  | error failure =>
    obtain ⟨mishap, rfl, hother⟩ := Failure.fails_error.mp hfails
    rw [blame_mishap hother]
    simp [raised?, Failure.fault?, Fault.kind]

end Settings

namespace Sample

/-- A directory with a YAML file and other files, all of some content. -/
def withYaml (content : String) (others environment : List (String × String)) : Surroundings :=
  { environment
    files :=
      { nodes := (["work"], .directory) :: (["work", "c.yaml"], .file (Text.toUtf8 content)) ::
          others.map fun other => (["work", other.1], .file (Text.toUtf8 other.2))
        working := ["work"] } }

theorem eq_ok_of_toOption {outcome : Except Failure ClientSettings} {settings : ClientSettings}
    (hsome : outcome.toOption = some settings) : outcome = .ok settings := by
  cases outcome with
  | error failure => cases hsome
  | ok found => exact congrArg Except.ok (Option.some.inj hsome)

/-- Mappings of one key each, one within the other, around a text or an empty mapping. -/
def chain : List String → Option String → Value
  | [], none => .dict []
  | [], some held => .text held
  | key :: keys, held => .dict [(.text key, chain keys held)]

def isChain : List String → Option String → Value → Bool
  | [], none, .dict [] => true
  | [], some held, .text found => found == held
  | key :: keys, held, .dict [(.text found, inner)] => found == key && isChain keys held inner
  | _, _, _ => false

theorem eq_chain_of_isChain {keys : List String} {held : Option String} {value : Value}
    (hchain : isChain keys held value = true) : value = chain keys held := by
  fun_induction isChain keys held value with
  | case1 => rfl
  | case2 held found => rw [chain, beq_iff_eq.mp hchain]
  | case3 held key keys found inner ih =>
    rw [Bool.and_eq_true, beq_iff_eq] at hchain
    rw [chain, hchain.1, ih hchain.2]
  | case4 => cases hchain

/-- Whether a YAML text spells a chain. -/
def spellsChain (depth : Nat) (content : String) (keys : List String) (held : Option String) :
    Bool :=
  match Text.utf8? (Text.toUtf8 content) with
  | none => false
  | some text =>
    match Yaml.decode depth (String.ofList (Dotenv.unifyLineEnds text.toList)) with
    | .ok value => isChain keys held value
    | .error _ => false

variable {content key : String} {path : HostText} {keys : List String} {held : Option String}
variable {surroundings : Surroundings}

theorem holds_chain (hread : surroundings.files.read (.ofText path) = .ok (Text.toUtf8 content))
    (hchain : spellsChain surroundings.yamlDepth content keys held = true) :
    Settings.Holds surroundings path (chain keys held) := by
  unfold spellsChain at hchain
  split at hchain
  · cases hchain
  next text htext =>
  split at hchain
  · next value hdecode =>
    rw [eq_chain_of_isChain hchain] at hdecode
    exact ⟨_, ⟨_, hread, by simp only [Settings.textOf, htext]⟩, hdecode⟩
  · cases hchain

theorem gives_chain (hread : surroundings.files.read (.ofText path) = .ok (Text.toUtf8 content))
    (hchain : spellsChain surroundings.yamlDepth content (key :: keys) held = true) :
    Settings.Gives surroundings path [(key, chain keys held)] := by
  obtain ⟨text, hreads, hdecode⟩ := holds_chain hread hchain
  rw [Settings.Gives, Settings.fieldsIn, Settings.decodeFile_of_reads hreads, hdecode]
  rfl

/-- The YAML file can be read, whatever is in it and beside it. -/
theorem read_withYaml (content : String) (others environment : List (String × String)) :
    (withYaml content others environment).files.read (.ofText "c.yaml") =
      .ok (Text.toUtf8 content) := by
  cbv

end Sample

end Typeface
