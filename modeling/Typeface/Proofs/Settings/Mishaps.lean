import Typeface.Proofs.Failure
import Typeface.Settings.App

/-!
# Failures of loading

Whatever is wrong with the sources of settings, loading fails with a mishap, and
never with one that says that a text is no YAML.  Only options that are not
described here may end the program instead.
-/

namespace Typeface

open Failure

/-- A mishap other than a text that is no YAML. -/
def Failure.IsOrdinary (failure : Failure) : Prop :=
  ∃ mishap, failure = .mishap mishap ∧ mishap ≠ .malformedYaml

/-- A failure that may come of loading settings. -/
def Failure.StopsLoading (failure : Failure) : Prop :=
  failure.IsOrdinary ∨ failure = .exit

theorem Failure.Fails.stopsLoading {Content : Type} {outcome : Except Failure Content}
    (hfails : Fails IsOrdinary outcome) : Fails StopsLoading outcome :=
  fun failure hfailure => .inl (hfails failure hfailure)

theorem Failure.Fails.ne_exit {Content : Type} {outcome : Except Failure Content}
    (hfails : Fails IsOrdinary outcome) : outcome ≠ .error .exit := by
  intro hexit
  obtain ⟨mishap, hmishap, _⟩ := hfails _ hexit
  cases hmishap

variable {surroundings : Surroundings} {given : Fields} {choice : DotenvChoice}

theorem isOrdinary_mishap {mishap : Mishap} (hother : mishap ≠ .malformedYaml) :
    (Failure.mishap mishap).IsOrdinary :=
  ⟨mishap, rfl, hother⟩

theorem fails_ofMishap {Content : Type} {mishap : Mishap} (hother : mishap ≠ .malformedYaml) :
    Fails IsOrdinary (ofMishap mishap : Except Failure Content) :=
  fails_error.mpr (isOrdinary_mishap hother)

theorem Checked.fails_orFail {Content : Type} (check : Checked Content) :
    Fails IsOrdinary check.orFail := by
  cases check with
  | error complaints => exact fails_ofMishap (by simp)
  | ok content => exact fails_ok content

theorem DotenvChoice.fails_ofGiven : Fails IsOrdinary (ofGiven given choice) := by
  unfold ofGiven
  split
  · unfold ofValue
    split
    all_goals first
      | exact fails_ok _
      | exact fails_ofMishap (by simp)
      | split
        · exact fails_ok _
        · exact fails_ofMishap (by simp)
  · exact fails_ok _

namespace Surroundings

theorem fails_probe (path : Path) : Fails IsOrdinary (surroundings.probe path) := by
  unfold probe
  split
  · exact fails_ok _
  · exact fails_ofMishap (by simp)

theorem fails_expand (path : Path) : Fails IsOrdinary (surroundings.expand path) := by
  unfold expand
  split
  · exact fails_ok _
  · split
    · exact fails_ofMishap (by simp)
    · split
      · exact fails_ofMishap (by simp)
      · exact fails_ok _

theorem fails_variablesIn (path : Path) : Fails IsOrdinary (surroundings.variablesIn path) := by
  unfold variablesIn
  split
  · next mishap hread =>
    apply fails_ofMishap
    unfold read at hread
    split at hread <;> cases hread
    simp
  · split
    · exact fails_ofMishap (by simp)
    · exact fails_ok _

theorem fails_variablesOf (paths : List HostText) :
    Fails IsOrdinary (surroundings.variablesOf paths) := by
  induction paths with
  | nil => exact fails_ok _
  | cons path rest ih =>
    rw [variablesOf]
    apply fails_bind (fails_expand _)
    intro path
    apply fails_bind (fails_probe path)
    intro found
    split
    · apply fails_bind (fails_variablesIn path)
      intro held
      exact fails_bind ih fun others => fails_ok _
    · exact ih

theorem fails_dotenv : Fails IsOrdinary (surroundings.dotenv choice) := by
  unfold dotenv
  split
  · exact fails_variablesOf _
  · exact fails_ok _

end Surroundings

namespace Sources

theorem fails_stemOf (standIn : String) : Fails IsOrdinary (stemOf given standIn) := by
  unfold stemOf
  split
  · exact fails_ok _
  · exact fails_ok _
  · split
    · exact fails_ok _
    · exact fails_ofMishap (by simp)

theorem fails_gatherDescribed (stem : String) :
    Fails IsOrdinary (gatherDescribed stem surroundings given choice) := by
  refine fails_bind DotenvChoice.fails_ofGiven fun choice => ?_
  refine fails_bind Surroundings.fails_dotenv fun held => ?_
  refine fails_bind (fails_stemOf stem) fun stem => ?_
  split
  all_goals
    dsimp only
    split
    · exact fails_ok _
    · exact fails_ok _

theorem fails_gatherFurther {loading : Loading} (hdescribed : Fails IsOrdinary loading.described) :
    Fails StopsLoading (gatherFurther surroundings loading) := by
  unfold gatherFurther
  split
  · exact fails_ok _
  · exact (fails_bind hdescribed fun _ => fails_ofMishap (by simp)).stopsLoading
  · exact fails_error.mpr (.inr rfl)

theorem fails_gather (stem : String) :
    Fails StopsLoading (gather stem surroundings given choice) := by
  have hdescribed : Fails IsOrdinary (gatherDescribed stem surroundings given choice) :=
    fails_gatherDescribed stem
  rw [gather]
  split
  · exact hdescribed.stopsLoading
  · exact fails_gatherFurther hdescribed

end Sources

theorem ClientSettings.fails_load :
    Fails StopsLoading (ClientSettings.load surroundings given choice) :=
  fails_bind (Sources.fails_gather stem) fun _ => (Checked.fails_orFail _).stopsLoading

namespace AppSettings

theorem fails_ofVariable (depth : Nat) (naming : Naming) (text : Option String) :
    Fails IsOrdinary (ofVariable depth naming text) := by
  unfold ofVariable
  split
  · exact fails_ok _
  · split
    · exact fails_ok _
    · exact fails_ok _
    · exact fails_ofMishap (by simp)
    · exact fails_ofMishap (by simp)

theorem fails_clientOf (value : Value) : Fails StopsLoading (clientOf surroundings value) := by
  unfold clientOf
  split
  · next entries =>
    split
    · split
      · exact fails_ok _
      · exact fails_ok _
      · exact fails_ok _
      · next failure _ _ hload =>
        exact fails_error.mpr (ClientSettings.fails_load failure hload)
    · exact (fails_ofMishap (by simp)).stopsLoading
  · exact fails_ok _

theorem fails_releasesField (value : Option Value) :
    Fails StopsLoading (releasesField surroundings value) := by
  unfold releasesField
  split
  · exact fails_clientOf _
  · intro failure hfailure
    cases hload : ClientSettings.load surroundings [] .standard with
    | error reason =>
      rw [hload] at hfailure
      cases hfailure
      exact ClientSettings.fails_load _ hload
    | ok settings =>
      rw [hload] at hfailure
      cases hfailure

theorem fails_load : Fails StopsLoading (load surroundings given choice) := by
  refine fails_bind (Sources.fails_gather stem) fun sources => ?_
  refine fails_bind (fails_ofVariable _ _ _).stopsLoading fun inEnvironment => ?_
  refine fails_bind (fails_ofVariable _ _ _).stopsLoading fun inDotenv => ?_
  exact fails_bind (fails_releasesField _) fun releases => (Checked.fails_orFail _).stopsLoading

end AppSettings

end Typeface
