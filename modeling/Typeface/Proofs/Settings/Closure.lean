import Mathlib
import Typeface.Fault.Kind
import Typeface.Proofs.Settings.Options

/-!
# What can come of a settings file

A file that is missing, that is no YAML or that is empty has a fault of its own,
and a fourth fault stands for everything else that keeps a record from being
loaded.  These four take in all bytes that a file can hold and all variables
around it.  Only the look whether there is a file can fail otherwise: where the
disk refuses it, because a name is too long or a directory is closed, this is
reported as a failure of the system.  And among the options that a file may hold
are some that are not described here, which may end the program.
-/

namespace Typeface

open Failure

namespace Surroundings

/-- The disk refuses to look what is at the path. -/
inductive Unreachable (surroundings : Surroundings) (path : HostText) : Prop
  /-- A name on the path is too long for the disk, or the path is as a whole. -/
  | tooLong (hlocate : surroundings.files.locate (.ofText path) = .error .tooLong)
  /-- A directory on the path is not to be passed. -/
  | denied (hlocate : surroundings.files.locate (.ofText path) = .error .denied)

/-- Nothing is at the path, and the disk says so. -/
def Lacks (surroundings : Surroundings) (path : HostText) : Prop :=
  surroundings.files.at? (.ofText path) = none ∧ ¬ surroundings.Unreachable path

/-- The file at the path may be read and has a text. -/
def Reads (surroundings : Surroundings) (path : HostText) (text : String) : Prop :=
  ∃ bytes, surroundings.files.read (.ofText path) = .ok bytes ∧
    Settings.textOf surroundings bytes = .ok text

variable {surroundings : Surroundings} {path : HostText}

theorem probe_eq_some_iff {node : Node} :
    surroundings.probe (.ofText path) = .ok (some node) ↔
      surroundings.files.at? (.ofText path) = some node := by
  simp only [probe, FileTree.probe, FileTree.at?, Failure.ofMishap]
  cases surroundings.files.locate (.ofText path) with
  | ok place => simp
  | error obstacle => cases obstacle <;> simp

theorem unreachable_iff :
    surroundings.Unreachable path ↔
      surroundings.files.locate (.ofText path) = .error .tooLong ∨
        surroundings.files.locate (.ofText path) = .error .denied := by
  constructor
  · intro hunreachable
    cases hunreachable with
    | tooLong hlocate => exact .inl hlocate
    | denied hlocate => exact .inr hlocate
  · rintro (hlocate | hlocate)
    · exact .tooLong hlocate
    · exact .denied hlocate

theorem probe_eq_none_iff :
    surroundings.probe (.ofText path) = .ok none ↔ surroundings.Lacks path := by
  simp only [probe, FileTree.probe, FileTree.at?, Failure.ofMishap, Lacks, unreachable_iff]
  cases surroundings.files.locate (.ofText path) with
  | ok place => simp
  | error obstacle => cases obstacle <;> simp

theorem probe_eq_error_iff {failure : Failure} :
    surroundings.probe (.ofText path) = .error failure ↔
      surroundings.Unreachable path ∧ .mishap .operatingSystem = failure := by
  simp only [probe, FileTree.probe, Failure.ofMishap, unreachable_iff]
  cases surroundings.files.locate (.ofText path) with
  | ok place => simp
  | error obstacle => cases obstacle <;> simp

theorem Unreachable.at?_eq_none (hunreachable : surroundings.Unreachable path) :
    surroundings.files.at? (.ofText path) = none := by
  cases hunreachable with
  | tooLong hlocate => simp only [FileTree.at?, hlocate]
  | denied hlocate => simp only [FileTree.at?, hlocate]

/-- What may be read is there, and is a file. -/
theorem at?_of_read {bytes : Text.Bytes}
    (hread : surroundings.files.read (.ofText path) = .ok bytes) :
    surroundings.files.at? (.ofText path) = some (.file bytes) := by
  unfold FileTree.read at hread
  split at hread
  · cases hread
  next location hlocate =>
  simp only [FileTree.at?, hlocate]
  split at hread
  · cases hread
  · cases hread
  next content hnode =>
  split at hread
  · cases hread
    exact hnode
  · cases hread

theorem mayRead_of_read {bytes : Text.Bytes}
    (hread : surroundings.files.read (.ofText path) = .ok bytes) :
    surroundings.files.mayRead (.ofText path) = true := by
  unfold FileTree.read at hread
  split at hread
  · cases hread
  next location hlocate =>
  simp only [FileTree.mayRead, hlocate]
  split at hread
  · cases hread
  · cases hread
  split at hread
  · next hallowed => exact hallowed
  · cases hread

/-- What is there is a file that may be read, a file that may not, or a directory. -/
theorem read_of_at? {node : Node} (hfound : surroundings.files.at? (.ofText path) = some node) :
    (∃ bytes, surroundings.files.read (.ofText path) = .ok bytes) ∨
      surroundings.read (.ofText path) = .error .operatingSystem ∧
        (node = .directory ∨ surroundings.files.mayRead (.ofText path) = false) := by
  simp only [FileTree.at?, read, FileTree.read, FileTree.mayRead] at hfound ⊢
  cases hlocate : surroundings.files.locate (.ofText path) with
  | error obstacle => simp [hlocate] at hfound
  | ok location =>
    simp only [hlocate] at hfound ⊢
    rw [hfound]
    cases node with
    | directory => simp
    | file content => cases surroundings.files.allows .read location <;> simp

end Surroundings

namespace Settings

variable {α : Type} {surroundings : Surroundings} {build : Build α} {path shown : HostText}
variable {text : String} {value : Value} {entries : List (Value × Value)} {mishap : Mishap}
variable {content : α} {outcome : Except Failure α}

/-- All keys of a mapping are texts. -/
def NamesFields (entries : List (Value × Value)) : Prop :=
  ∀ entry ∈ entries, AppSettings.isText entry.1 = true

/-- The value is there, and is no mapping of texts. -/
def Misshapen (value : Value) : Prop :=
  value ≠ .null ∧ ∀ entries, value = .dict entries → ¬ NamesFields entries

/-- The file at a path holds a value in YAML. -/
def Holds (surroundings : Surroundings) (path : HostText) (value : Value) : Prop :=
  ∃ text, surroundings.Reads path text ∧ Yaml.decode surroundings.yamlDepth text = .ok value

/-- The file at a path has a text, but holds no value in YAML. -/
def Garbles (surroundings : Surroundings) (path : HostText) (mishap : Mishap) : Prop :=
  ∃ text, surroundings.Reads path text ∧ Yaml.decode surroundings.yamlDepth text = .error mishap

/-- The file at a path has no text, and something is wrong with it: that, or what is found in the
beginning of a long file before it is noticed. -/
def Undecoded (surroundings : Surroundings) (path : HostText) (mishap : Mishap) : Prop :=
  ∃ bytes, surroundings.files.read (.ofText path) = .ok bytes ∧ Text.utf8? bytes = none ∧
    flawOf surroundings bytes = mishap

/-- The record that the file at a path spells. -/
def Loads (surroundings : Surroundings) (build : Build α) (path : HostText) (content : α) : Prop :=
  ∃ entries, Holds surroundings path (.dict entries) ∧ NamesFields entries ∧
    build surroundings (Value.fields entries) = .ok content

/-- Options in the file at a path end the program. -/
def Exits (surroundings : Surroundings) (build : Build α) (path : HostText) : Prop :=
  ∃ entries, Holds surroundings path (.dict entries) ∧ NamesFields entries ∧
    build surroundings (Value.fields entries) = .error .exit

/-- There is something at the path that is neither empty nor refused as YAML, and that no record can
be loaded from. -/
inductive Unloadable (surroundings : Surroundings) (build : Build α) (path : HostText) :
    Mishap → Prop
  | directory (hfound : surroundings.files.at? (.ofText path) = some .directory) :
      Unloadable surroundings build path .operatingSystem
  | unreadable {bytes : Text.Bytes}
      (hfound : surroundings.files.at? (.ofText path) = some (.file bytes))
      (hdenied : surroundings.files.mayRead (.ofText path) = false) :
      Unloadable surroundings build path .operatingSystem
  | undecodable {mishap : Mishap} (hundecoded : Undecoded surroundings path mishap)
      (hother : mishap ≠ .malformedYaml) : Unloadable surroundings build path mishap
  /-- The text is YAML that stands for no value, such as a day that is in no calendar, or is nested
  too deep. -/
  | meaningless {mishap : Mishap} (hgarbles : Garbles surroundings path mishap)
      (hother : mishap ≠ .malformedYaml) : Unloadable surroundings build path mishap
  | misshapen {value : Value} (hholds : Holds surroundings path value) (hshape : Misshapen value) :
      Unloadable surroundings build path .wrongArgument
  | refused {entries : List (Value × Value)} {mishap : Mishap}
      (hholds : Holds surroundings path (.dict entries)) (hnames : NamesFields entries)
      (hbuild : build surroundings (Value.fields entries) = .error (.mishap mishap)) :
      Unloadable surroundings build path mishap

/-- What comes of loading a record from the file at a path. -/
inductive Fate (surroundings : Surroundings) (build : Build α) (path : HostText) :
    Except Failure α → Prop
  | unreachable (hunreachable : surroundings.Unreachable path) :
      Fate surroundings build path (.error (.mishap .operatingSystem))
  | missing (hlacks : surroundings.Lacks path) :
      Fate surroundings build path
        (.error (.fault (.configFileNotFound (Path.ofText path).text.value)))
  | malformed (hmalformed : Garbles surroundings path .malformedYaml ∨
        Undecoded surroundings path .malformedYaml) :
      Fate surroundings build path
        (.error (.caused (.invalidYaml (Path.ofText path).text.value none) .malformedYaml))
  | empty (hholds : Holds surroundings path .null) :
      Fate surroundings build path
        (.error (.fault (.emptyConfigFile (Path.ofText path).text.value)))
  | unloadable {mishap : Mishap} (hunloadable : Unloadable surroundings build path mishap) :
      Fate surroundings build path (.error (.caused (.configLoad none) mishap))
  | exited (hexits : Exits surroundings build path) : Fate surroundings build path (.error .exit)
  | loaded {content : α} (hloads : Loads surroundings build path content) :
      Fate surroundings build path (.ok content)

/-! ## Fields of a file -/

theorem fieldsOf_of_namesFields (hnames : NamesFields entries) :
    fieldsOf shown (.dict entries) = .ok (Value.fields entries) := by
  have hall : (entries.all fun entry => AppSettings.isText entry.1) = true :=
    List.all_eq_true.mpr hnames
  simp only [fieldsOf, hall, if_true]

theorem fieldsOf_of_misshapen (hshape : Misshapen value) :
    fieldsOf shown value = .error (.mishap .wrongArgument) := by
  obtain ⟨hgiven, hdict⟩ := hshape
  simp only [fieldsOf]
  split
  · exact absurd rfl hgiven
  · next entries =>
    have hall : ¬ (entries.all fun entry => AppSettings.isText entry.1) = true := by
      rw [List.all_eq_true]
      exact hdict entries rfl
    rw [if_neg hall]
    rfl
  · rfl

theorem raise_configFileNotFound (path : HostText) :
    (raise (.configFileNotFound path.value) : Except Failure α) =
      .error (.fault (.configFileNotFound path.value)) := by
  apply raise_of_message
  rw [Fault.message, HostText.spoken_value]
  rfl

theorem raise_emptyConfigFile (path : HostText) :
    (raise (.emptyConfigFile path.value) : Except Failure α) =
      .error (.fault (.emptyConfigFile path.value)) := by
  apply raise_of_message
  rw [Fault.message, HostText.spoken_value]
  rfl

theorem blame_mishap (hother : mishap ≠ .malformedYaml) :
    blame (faultOf shown) (.error (.mishap mishap) : Except Failure α) =
      .error (.caused (.configLoad none) mishap) := by
  cases mishap <;> first | rfl | exact absurd rfl hother

/-! ## One outcome each -/

/-- What is decoded is the text of a file that may be read. -/
theorem decodeFile_of_reads (hreads : surroundings.Reads path text) :
    decodeFile surroundings (.ofText path) = Yaml.decode surroundings.yamlDepth text := by
  obtain ⟨bytes, hread, htext⟩ := hreads
  simp only [decodeFile, Surroundings.read, hread, htext, bind, Except.bind]

theorem loadText_of_found {node : Node}
    (hfound : surroundings.files.at? (.ofText path) = some node) :
    loadText surroundings build path =
      blame (faultOf (Path.ofText path).text)
        ((fieldsIn surroundings (.ofText path)).bind (build surroundings)) :=
  loadText_found (Surroundings.probe_eq_some_iff.mpr hfound)

/-- What comes of a file that has a text. -/
theorem loadText_of_reads (hreads : surroundings.Reads path text) :
    loadText surroundings build path =
      blame (faultOf (Path.ofText path).text)
        (((asFailure (Yaml.decode surroundings.yamlDepth text)).bind
          (fieldsOf (Path.ofText path).text)).bind (build surroundings)) := by
  obtain ⟨_, hread, _⟩ := id hreads
  rw [loadText_of_found (Surroundings.at?_of_read hread), fieldsIn, decodeFile_of_reads hreads]

theorem loadText_of_flawed {node : Node}
    (hfound : surroundings.files.at? (.ofText path) = some node)
    (hdecode : decodeFile surroundings (.ofText path) = .error mishap) :
    loadText surroundings build path =
      blame (faultOf (Path.ofText path).text) (.error (.mishap mishap)) := by
  rw [loadText_of_found hfound, fieldsIn, hdecode]
  rfl

theorem loadText_of_garbles (hgarbles : Garbles surroundings path mishap) :
    loadText surroundings build path =
      blame (faultOf (Path.ofText path).text) (.error (.mishap mishap)) := by
  obtain ⟨text, hreads, hdecode⟩ := hgarbles
  obtain ⟨_, hread, _⟩ := id hreads
  rw [← decodeFile_of_reads hreads] at hdecode
  exact loadText_of_flawed (Surroundings.at?_of_read hread) hdecode

theorem loadText_of_undecoded (hundecoded : Undecoded surroundings path mishap) :
    loadText surroundings build path =
      blame (faultOf (Path.ofText path).text) (.error (.mishap mishap)) := by
  obtain ⟨bytes, hread, hbytes, rfl⟩ := hundecoded
  have hdecode : decodeFile surroundings (.ofText path) = .error (flawOf surroundings bytes) := by
    simp only [decodeFile, Surroundings.read, hread, textOf, hbytes, bind, Except.bind]
  exact loadText_of_flawed (Surroundings.at?_of_read hread) hdecode

/-- What is there but cannot be read cannot be loaded. -/
theorem loadText_of_unread {node : Node}
    (hfound : surroundings.files.at? (.ofText path) = some node)
    (hread : surroundings.read (.ofText path) = .error mishap) :
    loadText surroundings build path =
      blame (faultOf (Path.ofText path).text) (.error (.mishap mishap)) := by
  have hdecode : decodeFile surroundings (.ofText path) = .error mishap := by
    rw [decodeFile, hread]
    rfl
  exact loadText_of_flawed hfound hdecode

theorem loadText_of_holds (hholds : Holds surroundings path value) :
    loadText surroundings build path =
      blame (faultOf (Path.ofText path).text)
        ((fieldsOf (Path.ofText path).text value).bind (build surroundings)) := by
  obtain ⟨text, hreads, hdecode⟩ := hholds
  rw [loadText_of_reads hreads, hdecode]
  rfl

/-- What comes of a mapping of fields. -/
theorem loadText_of_names (hholds : Holds surroundings path (.dict entries))
    (hnames : NamesFields entries) :
    loadText surroundings build path =
      blame (faultOf (Path.ofText path).text) (build surroundings (Value.fields entries)) := by
  rw [loadText_of_holds hholds, fieldsOf_of_namesFields hnames]
  rfl

theorem loadText_of_unloadable (hfails : ∀ given, Fails StopsLoading (build surroundings given))
    (hunloadable : Unloadable surroundings build path mishap) :
    loadText surroundings build path = .error (.caused (.configLoad none) mishap) := by
  cases hunloadable with
  | directory hfound =>
    have hread : surroundings.read (.ofText path) = .error .operatingSystem := by
      rcases Surroundings.read_of_at? hfound with ⟨bytes, hread⟩ | ⟨hread, _⟩
      · rw [Surroundings.at?_of_read hread] at hfound
        cases hfound
      · exact hread
    rw [loadText_of_unread hfound hread]
    rfl
  | unreadable hfound hdenied =>
    have hread : surroundings.read (.ofText path) = .error .operatingSystem := by
      rcases Surroundings.read_of_at? hfound with ⟨bytes, hread⟩ | ⟨hread, _⟩
      · rw [Surroundings.mayRead_of_read hread] at hdenied
        cases hdenied
      · exact hread
    rw [loadText_of_unread hfound hread]
    rfl
  | undecodable hundecoded hother =>
    rw [loadText_of_undecoded hundecoded]
    exact blame_mishap hother
  | meaningless hgarbles hother =>
    rw [loadText_of_garbles hgarbles]
    exact blame_mishap hother
  | misshapen hholds hshape =>
    rw [loadText_of_holds hholds, fieldsOf_of_misshapen hshape]
    exact blame_mishap (by simp)
  | refused hholds hnames hbuild =>
    rcases hfails _ _ hbuild with ⟨_, hmishap, hother⟩ | hexit
    · cases hmishap
      rw [loadText_of_names hholds hnames, hbuild]
      exact blame_mishap hother
    · cases hexit

theorem loadText_of_fate (hfails : ∀ given, Fails StopsLoading (build surroundings given))
    (hfate : Fate surroundings build path outcome) : loadText surroundings build path = outcome := by
  cases hfate with
  | unreachable hunreachable =>
    exact loadText_unreachable (Surroundings.probe_eq_error_iff.mpr ⟨hunreachable, rfl⟩)
  | missing hlacks =>
    rw [loadText_missing (Surroundings.probe_eq_none_iff.mpr hlacks)]
    exact raise_configFileNotFound _
  | malformed hmalformed =>
    rcases hmalformed with hgarbles | hundecoded
    · rw [loadText_of_garbles hgarbles]
      rfl
    · rw [loadText_of_undecoded hundecoded]
      rfl
  | empty hholds =>
    rw [loadText_of_holds hholds, fieldsOf, raise_emptyConfigFile]
    rfl
  | unloadable hunloadable => exact loadText_of_unloadable hfails hunloadable
  | exited hexits =>
    obtain ⟨entries, hholds, hnames, hbuild⟩ := hexits
    rw [loadText_of_names hholds hnames, hbuild]
    rfl
  | loaded hloads =>
    obtain ⟨entries, hholds, hnames, hbuild⟩ := hloads
    rw [loadText_of_names hholds hnames, hbuild]
    rfl

/-! ## Some outcome always -/

theorem fate_of_reads (hfails : ∀ given, Fails StopsLoading (build surroundings given))
    (hreads : surroundings.Reads path text) : ∃ outcome, Fate surroundings build path outcome := by
  cases hdecode : Yaml.decode surroundings.yamlDepth text with
  | error mishap =>
    have hgarbles : Garbles surroundings path mishap := ⟨text, hreads, hdecode⟩
    by_cases hmalformed : mishap = .malformedYaml
    · rw [hmalformed] at hgarbles
      exact ⟨_, .malformed (.inl hgarbles)⟩
    · exact ⟨_, .unloadable (.meaningless hgarbles hmalformed)⟩
  | ok value =>
    have hholds : Holds surroundings path value := ⟨text, hreads, hdecode⟩
    by_cases hnull : value = .null
    · rw [hnull] at hholds
      exact ⟨_, .empty hholds⟩
    by_cases hdict : ∃ entries, value = .dict entries ∧ NamesFields entries
    · obtain ⟨entries, rfl, hnames⟩ := hdict
      cases hbuild : build surroundings (Value.fields entries) with
      | ok content => exact ⟨_, .loaded ⟨entries, hholds, hnames, hbuild⟩⟩
      | error failure =>
        rcases hfails _ _ hbuild with ⟨mishap, rfl, _⟩ | rfl
        · exact ⟨_, .unloadable (.refused hholds hnames hbuild)⟩
        · exact ⟨_, .exited ⟨entries, hholds, hnames, hbuild⟩⟩
    · have hshape : Misshapen value :=
        ⟨hnull, fun entries hvalue hnames => hdict ⟨entries, hvalue, hnames⟩⟩
      exact ⟨_, .unloadable (.misshapen hholds hshape)⟩

theorem exists_fate (hfails : ∀ given, Fails StopsLoading (build surroundings given))
    (path : HostText) : ∃ outcome, Fate surroundings build path outcome := by
  cases hprobe : surroundings.probe (.ofText path) with
  | error failure =>
    exact ⟨_, .unreachable (Surroundings.probe_eq_error_iff.mp hprobe).1⟩
  | ok found =>
    cases found with
    | none => exact ⟨_, .missing (Surroundings.probe_eq_none_iff.mp hprobe)⟩
    | some node =>
      have hfound := Surroundings.probe_eq_some_iff.mp hprobe
      rcases Surroundings.read_of_at? hfound with ⟨bytes, hread⟩ | ⟨_, hdirectory | hdenied⟩
      · cases hbytes : Text.utf8? bytes with
        | none =>
          have hundecoded : Undecoded surroundings path (flawOf surroundings bytes) :=
            ⟨bytes, hread, hbytes, rfl⟩
          by_cases hmalformed : flawOf surroundings bytes = .malformedYaml
          · rw [hmalformed] at hundecoded
            exact ⟨_, .malformed (.inr hundecoded)⟩
          · exact ⟨_, .unloadable (.undecodable hundecoded hmalformed)⟩
        | some decoded =>
          have hreads : surroundings.Reads path
              (String.ofList (Dotenv.unifyLineEnds decoded.toList)) :=
            ⟨bytes, hread, by simp [textOf, hbytes]⟩
          exact fate_of_reads hfails hreads
      · rw [hdirectory] at hfound
        exact ⟨_, .unloadable (.directory hfound)⟩
      · cases node with
        | directory => exact ⟨_, .unloadable (.directory hfound)⟩
        | file bytes => exact ⟨_, .unloadable (.unreadable hfound hdenied)⟩

/-- Loading comes to exactly one outcome, and this is the one of its fate. -/
theorem loadText_eq_iff (hfails : ∀ given, Fails StopsLoading (build surroundings given)) :
    loadText surroundings build path = outcome ↔ Fate surroundings build path outcome := by
  constructor
  · rintro rfl
    obtain ⟨outcome, hfate⟩ := exists_fate hfails path
    rwa [loadText_of_fate hfails hfate]
  · exact loadText_of_fate hfails

/-! ## Kinds of faults -/

/-- The kind of fault that an outcome is, if it is one. -/
def raised? : Except Failure α → Option Fault.Kind
  | .ok _ => none
  | .error failure => failure.fault?.map Fault.kind

section

variable (hfails : ∀ given, Fails StopsLoading (build surroundings given))
include hfails

theorem isIn_configuration_iff :
    (∀ failure, loadText surroundings build path = .error failure →
      failure.isIn .configuration = true) ↔
      ¬ surroundings.Unreachable path ∧ ¬ Exits surroundings build path := by
  constructor
  · intro hclosed
    constructor
    · intro hunreachable
      have hsystem := hclosed _ (loadText_of_fate hfails (.unreachable hunreachable))
      cases hsystem
    · intro hexits
      have hexit := hclosed _ (loadText_of_fate hfails (.exited hexits))
      cases hexit
  · rintro ⟨hreachable, hstays⟩ failure hfailed
    cases (loadText_eq_iff hfails).mp hfailed with
    | unreachable hunreachable => exact absurd hunreachable hreachable
    | exited hexits => exact absurd hexits hstays
    | missing | malformed | empty | unloadable => rfl

theorem raised?_eq_some_iff {kind : Fault.Kind} :
    raised? (loadText surroundings build path) = some kind ↔
      ∃ outcome, Fate surroundings build path outcome ∧ raised? outcome = some kind := by
  constructor
  · intro hraised
    exact ⟨_, (loadText_eq_iff hfails).mp rfl, hraised⟩
  · rintro ⟨outcome, hfate, hraised⟩
    rwa [loadText_of_fate hfails hfate]

theorem raised?_eq_configFileNotFound_iff :
    raised? (loadText surroundings build path) = some .configFileNotFound ↔
      surroundings.Lacks path := by
  rw [raised?_eq_some_iff hfails]
  constructor
  · rintro ⟨outcome, hfate, hraised⟩
    cases hfate with
    | missing hlacks => exact hlacks
    | unreachable | malformed | empty | unloadable | exited | loaded => cases hraised
  · intro hlacks
    exact ⟨_, .missing hlacks, rfl⟩

theorem raised?_eq_invalidYaml_iff :
    raised? (loadText surroundings build path) = some .invalidYaml ↔
      Garbles surroundings path .malformedYaml ∨ Undecoded surroundings path .malformedYaml := by
  rw [raised?_eq_some_iff hfails]
  constructor
  · rintro ⟨outcome, hfate, hraised⟩
    cases hfate with
    | malformed hmalformed => exact hmalformed
    | unreachable | missing | empty | unloadable | exited | loaded => cases hraised
  · intro hmalformed
    exact ⟨_, .malformed hmalformed, rfl⟩

theorem raised?_eq_emptyConfigFile_iff :
    raised? (loadText surroundings build path) = some .emptyConfigFile ↔
      Holds surroundings path .null := by
  rw [raised?_eq_some_iff hfails]
  constructor
  · rintro ⟨outcome, hfate, hraised⟩
    cases hfate with
    | empty hholds => exact hholds
    | unreachable | missing | malformed | unloadable | exited | loaded => cases hraised
  · intro hholds
    exact ⟨_, .empty hholds, rfl⟩

theorem raised?_eq_configLoad_iff :
    raised? (loadText surroundings build path) = some .configLoad ↔
      ∃ mishap, Unloadable surroundings build path mishap := by
  rw [raised?_eq_some_iff hfails]
  constructor
  · rintro ⟨outcome, hfate, hraised⟩
    cases hfate with
    | unloadable hunloadable => exact ⟨_, hunloadable⟩
    | unreachable | missing | malformed | empty | exited | loaded => cases hraised
  · rintro ⟨mishap, hunloadable⟩
    exact ⟨_, .unloadable hunloadable, rfl⟩

theorem loadText_eq_ok_iff :
    loadText surroundings build path = .ok content ↔ Loads surroundings build path content := by
  rw [loadText_eq_iff hfails]
  constructor
  · intro hfate
    cases hfate with
    | loaded hloads => exact hloads
  · exact .loaded

end

end Settings

namespace Settings

/-! ## Records -/

/-- The records that are loaded from files. -/
inductive RecordKind
  | application
  | client
  | release
  | asset

namespace RecordKind

abbrev Content : RecordKind → Type
  | application => AppSettings
  | client => ClientSettings
  | release => Release
  | asset => Asset

/-- How a record is built from the fields in a file.  Settings also look around, but not for the
standard dotenv file. -/
def build : (kind : RecordKind) → Build kind.Content
  | application => fun surroundings fields => AppSettings.load surroundings fields .absent
  | client => fun surroundings fields => ClientSettings.load surroundings fields .absent
  | release => fun _ fields => (Release.ofFields fields).orFail
  | asset => fun _ fields => (Asset.ofFields fields).orFail

theorem fails_build (kind : RecordKind) (surroundings : Surroundings) (given : Fields) :
    Fails StopsLoading (kind.build surroundings given) := by
  cases kind with
  | application => exact AppSettings.fails_load
  | client => exact ClientSettings.fails_load
  | release => exact (Checked.fails_orFail _).stopsLoading
  | asset => exact (Checked.fails_orFail _).stopsLoading

/-- Where options of the loading are given among the fields, they are ones that are described here.
Records other than settings have no options. -/
def KnowsOptions (surroundings : Surroundings) (given : Fields) : RecordKind → Prop
  | application => given.KnowsOptions ∧ AppSettings.NestsKnownOptions surroundings given
  | client => given.KnowsOptions
  | release | asset => True

theorem build_ne_exit {kind : RecordKind} {surroundings : Surroundings} {given : Fields}
    (hknown : kind.KnowsOptions surroundings given) :
    kind.build surroundings given ≠ .error .exit := by
  cases kind with
  | application => exact AppSettings.load_ne_exit hknown.1 hknown.2
  | client => exact (ClientSettings.fails_load_of_knowsOptions hknown).ne_exit
  | release => exact (Checked.fails_orFail _).ne_exit
  | asset => exact (Checked.fails_orFail _).ne_exit

end RecordKind

namespace Sample

def nameOf (length : Nat) : String :=
  String.ofList (List.replicate length 'a')

def surroundings : Surroundings :=
  { environment := [], files := { nodes := [(["work"], .directory)], working := ["work"] } }

/-- A directory with a file whose mapping has no entries. -/
def withEmptyMapping : Surroundings :=
  { environment := []
    files :=
      { nodes := [(["work"], .directory), (["work", "app.yaml"], .file (Text.toUtf8 "\x7b\x7d"))]
        working := ["work"] } }

end Sample

end Settings

end Typeface
