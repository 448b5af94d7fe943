import Mathlib
import Typeface.Proofs.Settings.Mishaps
import Typeface.Proofs.Settings.Routes

/-!
# Options that end the program

Options that are described here leave a loading with settings or a mishap.
Others may end the program, and then that is what comes of the loading: of
settings of the client at once, of settings of the application also where the
options stand among the settings of the client within them.
-/

namespace Typeface

open Failure

variable {surroundings : Surroundings} {given : Fields} {choice : DotenvChoice}

theorem ClientSettings.fails_load_of_knowsOptions (hknown : given.KnowsOptions) :
    Fails IsOrdinary (ClientSettings.load surroundings given choice) := by
  rw [load, Sources.gather_of_knowsOptions hknown]
  exact fails_bind (Sources.fails_gatherDescribed stem) fun _ => Checked.fails_orFail _

/-- Another option may end the program. -/
example : ClientSettings.load
    { environment := [], files := { nodes := [], working := [] }
      further := fun _ => .error .exited }
    [("_cli_parse_args", .bool true)] .absent = .error .exit := rfl

namespace AppSettings

/-- The sources of the settings of the application give fields for those of the client. -/
def Nests (surroundings : Surroundings) (given : Fields) (choice : DotenvChoice)
    (nested : Fields) : Prop :=
  ∃ sources value, Sources.gather stem surroundings given choice = .ok sources ∧
    nestedValue surroundings.jsonDepth sources = .ok value ∧ nestedFields? value = some nested

/-- The fields that come for the settings of the client have no options but those that are described
here. -/
def NestsKnownOptions (surroundings : Surroundings) (given : Fields) : Prop :=
  ∀ nested, Nests surroundings given .absent nested → nested.KnowsOptions

theorem fails_nestedValue (depth : Nat) (sources : Sources) :
    Fails IsOrdinary (nestedValue depth sources) := by
  apply fails_bind (fails_ofVariable _ _ _)
  intro inEnvironment
  apply fails_bind (fails_ofVariable _ _ _)
  intro inDotenv
  exact fails_ok _

theorem releasesField_eq_exit_iff {value : Option Value} :
    releasesField surroundings value = .error .exit ↔
      ∃ nested, nestedFields? value = some nested ∧
        ClientSettings.load surroundings nested .standard = .error .exit := by
  cases value with
  | none =>
    cases hload : ClientSettings.load surroundings [] .standard <;>
      simp [releasesField, nestedFields?, hload, Except.map]
  | some value =>
    cases value with
    | dict entries =>
      by_cases htexts : (entries.all fun entry => isText entry.1) = true
      · simp only [releasesField, clientOf, nestedFields?, htexts, if_true, Option.some.injEq,
          exists_eq_left']
        split
        · next hload => simp [hload]
        · next hload => simp [hload]
        · next hload => simp [hload]
        · next hload => simp [hload]
      · simp [releasesField, clientOf, nestedFields?, htexts, ofMishap]
    | _ => simp [releasesField, clientOf, nestedFields?]

theorem load_eq_exit_iff :
    load surroundings given choice = .error .exit ↔
      Sources.gather stem surroundings given choice = .error .exit ∨
        ∃ nested, Nests surroundings given choice nested ∧
          ClientSettings.load surroundings nested .standard = .error .exit := by
  have hvalue := fun sources => (fails_nestedValue surroundings.jsonDepth sources).ne_exit
  have hframe := fun (sources : Sources) releases =>
    (Checked.fails_orFail ((frameOf sources).also releases)).ne_exit
  simp only [load_eq, bind_eq_error_iff, hvalue, hframe, releasesField_eq_exit_iff, false_or,
    and_false, exists_false, or_false, Nests]
  apply or_congr_right
  constructor
  · rintro ⟨sources, hgather, value, hvalue, nested, hnested, hexit⟩
    exact ⟨nested, ⟨sources, value, hgather, hvalue, hnested⟩, hexit⟩
  · rintro ⟨nested, ⟨sources, value, hgather, hvalue, hnested⟩, hexit⟩
    exact ⟨sources, hgather, value, hvalue, nested, hnested, hexit⟩

theorem load_ne_exit (hknown : given.KnowsOptions) (hnested : NestsKnownOptions surroundings given) :
    load surroundings given .absent ≠ .error .exit := by
  rw [ne_eq, load_eq_exit_iff, Sources.gather_of_knowsOptions hknown]
  rintro (hgather | ⟨nested, hnests, hload⟩)
  · exact (Sources.fails_gatherDescribed stem).ne_exit hgather
  · exact (ClientSettings.fails_load_of_knowsOptions (hnested nested hnests)).ne_exit hload

end AppSettings

end Typeface
