import Mathlib
import Typeface.Proofs.Catalog.Legacy
import Typeface.Proofs.Cli.Calls

/-!
# Resolution on the command line

The command that resolves a name shows what the library makes of the same text.
A text either resolves, or is refused by a fault that can be put into words, and
the command reports both.  So nothing escapes from it, although the library does
fail otherwise for names that are no texts.
-/

namespace Typeface

namespace Cli

open Catalog Descriptor

variable {name : String} {state : Client.State}

/-- The run is over, with these texts written and no failure left. -/
structure Ends (outcome : Outcome) (exitCode : Nat) (output errors : String) : Prop where
  exitCode : outcome.exitCode = exitCode
  output : outcome.output = output
  errors : outcome.errors = errors
  escaped : outcome.escaped = none

/-- The run shows what became of a resolution: the text and the boldness of the descriptor, or the
message of the fault. -/
inductive Shows (outcome : Outcome) : Except Failure Descriptor → Prop
  | found {descriptor : Descriptor} {text bold : String}
      (htext : descriptor.value.display = .ok text)
      (hbold : (descriptor.get .bold).display = .ok bold)
      (hends : Ends outcome 0 (text ++ "\n   Bold: " ++ bold ++ "\n") "") :
      Shows outcome (.ok descriptor)
  | refused {fault : Fault} {message : String} (hmessage : fault.message = .ok ↑message)
      (hends : Ends outcome 1 "" ("❌ " ++ message ++ "\n")) :
      Shows outcome (.error (.fault fault))

/-- The words that ask for a name, whatever it begins with. -/
def resolveWords (name : String) : List String := ["--", name]

def resolveOpening (name : String) : Opening :=
  { verbose := false, config := none, topic := .resolve, rest := resolveWords name }

theorem reaches_resolveWords {surroundings : Surroundings} {settings : AppSettings}
    (hprepare : prepare surroundings (resolveOpening name) = .ok settings) :
    Reaches surroundings ("resolve" :: resolveWords name) settings (.resolve name) := by
  refine ⟨resolveOpening name, ?_, hprepare, ?_⟩
  · rfl
  · rfl

/-! ## The command -/

theorem resolve_found {descriptor : Descriptor}
    (hresolve : ofLegacy (.text name) = .ok descriptor) :
    resolve name state = .done (descriptorLines descriptor) state := by
  simp only [resolve, hresolve]

theorem resolve_refused {fault : Fault} (hresolve : ofLegacy (.text name) = .error (.fault fault)) :
    resolve name state =
      { exitCode := 1, output := "", errors := s!"❌ {(messageOf (.fault fault)).reported}\n"
        escaped := none, state } := by
  simp only [resolve, hresolve]
  rfl

theorem message_fontNotFound (name : String) :
    (Fault.fontNotFound (.text name) (.text "Font")).message =
      .ok (HostText.ofText ("Found unknown Font '" ++ name ++ "'")) := by
  simp only [Fault.message, Value.spoken_text, bind, Except.bind, pure, Except.pure,
    HostText.ofText_append]
  rfl

/-- A text resolves, or it is not found. -/
theorem ofLegacy_text (name : String) :
    (∃ descriptor, Maps legacyEntries (.text name) descriptor ∧
      ofLegacy (.text name) = .ok descriptor) ∨
    ofLegacy (.text name) = .error (.fault (.fontNotFound (.text name) (.text "Font"))) := by
  have hasks : AsksFor (.text name) (.text name) := .text rfl
  by_cases hmaps : ∃ descriptor, Maps legacyEntries (.text name) descriptor
  · obtain ⟨descriptor, hmaps⟩ := hmaps
    refine .inl ⟨descriptor, hmaps, ?_⟩
    rw [ofLegacy_of_asksFor hasks, legacy_resolve_of_maps hmaps]
  · rw [not_exists] at hmaps
    exact .inr (ofLegacy_of_not_maps hasks (.text name) hmaps)

theorem exists_display_value {descriptor : Descriptor} {family : String}
    (hfamily : descriptor.family = .text family) :
    ∃ text, descriptor.value.display = .ok text := by
  rw [display_value, hfamily]
  exact ⟨_, rfl⟩

theorem exists_display_bold (descriptor : Descriptor) :
    ∃ bold, (descriptor.get .bold).display = .ok bold :=
  ⟨_, rfl⟩

theorem descriptorLines_eq {descriptor : Descriptor} {text bold : String}
    (htext : descriptor.value.display = .ok text)
    (hbold : (descriptor.get .bold).display = .ok bold) :
    descriptorLines descriptor = text ++ "\n   Bold: " ++ bold ++ "\n" := by
  have hget : (Value.bool descriptor.isBold).display = .ok bold := hbold
  simp only [descriptorLines, shown, Value.display?, htext, hget]
  rfl

theorem shows_resolve (name : String) (state : Client.State) (level : Severity) :
    Shows ((resolve name state).outcome level) (ofLegacy (.text name)) := by
  rcases ofLegacy_text name with ⟨descriptor, hmaps, hfound⟩ | hrefused
  · obtain ⟨family, hfamily⟩ := hmaps.family
    obtain ⟨bold, hbold⟩ := exists_display_bold descriptor
    obtain ⟨text, htext⟩ := exists_display_value hfamily
    rw [hfound, resolve_found hfound]
    apply Shows.found htext hbold
    exact ⟨rfl, descriptorLines_eq htext hbold, rfl, rfl⟩
  · rw [hrefused, resolve_refused hrefused]
    have hmessage := message_fontNotFound name
    have hshown : (messageOf (.fault (.fontNotFound (.text name) (.text "Font")))).reported =
        "Found unknown Font '" ++ name ++ "'" := by
      simp [messageOf, Failure.fault?, Fault.message?, hmessage, Except.toOption]
    apply Shows.refused hmessage
    refine ⟨rfl, rfl, ?_, rfl⟩
    simp only [Result.outcome, hshown]
    rfl

theorem shows_run {surroundings : Surroundings} {line : List String} {settings : AppSettings}
    (session : Session) (hreaches : Reaches surroundings line settings (.resolve name)) :
    Shows (run surroundings session line) (ofLegacy (.text name)) := by
  obtain ⟨level, hrun⟩ := run_eq_of_reaches session hreaches
  rw [hrun, perform]
  exact shows_resolve name _ level

/-- Every value has one answer: the row of the name that it asks for, or a refusal.  The answer is
what resolving it comes to, unless it is a refusal that cannot be put into words.  The reserved name
and names that are like one of the table but for case and blanks are not found.  A run that resolves
a name shows what the library makes of the text, and no name is out of its reach. -/
theorem legacy_names_resolve_iff (given : Value) (surroundings : Surroundings) (session : Session)
    (line : List String) (settings : AppSettings) (name : String) :
    Failure.Keeps (Answered given) (Scale.legacyFonts.Unspeakable given) (ofLegacy given) ∧
    (AsksFor given (.text "Unknown") →
      ofLegacy given = .error (.fault (.fontNotFound (.text "Unknown") (.text "Font")))) ∧
    (∀ content known, AsksFor given (.text content) → .text known ∈ Catalog.legacy.names →
      loose content = loose known → content ≠ known →
        ofLegacy given = .error (.fault (.fontNotFound (.text content) (.text "Font")))) ∧
    (Reaches surroundings line settings (.resolve name) →
      Shows (run surroundings session line) (ofLegacy (.text name))) ∧
    (prepare surroundings (resolveOpening name) = .ok settings →
      Reaches surroundings ("resolve" :: resolveWords name) settings (.resolve name)) := by
  refine ⟨keeps_ofLegacy given, ?_, ?_, shows_run session, reaches_resolveWords⟩
  · intro hasks
    exact ofLegacy_of_not_maps hasks (.text "Unknown") not_maps_unknown
  · intro content known
    exact ofLegacy_of_loose

namespace Sample

def arialBold : Descriptor :=
  { family := .text "rbxasset://fonts/families/Arial.json", weight := .bold, style := .normal }

end Sample

/-- The line resolves the name of a row, and the same letters in small letters are not found. -/
theorem legacy_names_resolve_iff_arialBold :
    Ends (run Sample.surroundings Sample.session ("resolve" :: resolveWords "ArialBold")) 0
        "rbxasset://fonts/families/Arial.json, Bold, Normal\n   Bold: True\n" "" ∧
      ofLegacy (.text "arial bold") =
        .error (.fault (.fontNotFound (.text "arial bold") (.text "Font"))) := by
  obtain ⟨_, _, hloose, hshows, _⟩ := legacy_names_resolve_iff (.text "arial bold")
    Sample.surroundings Sample.session ("resolve" :: resolveWords "ArialBold") Sample.settings
    "ArialBold"
  have hknown : .text "ArialBold" ∈ Catalog.legacy.names := by
    simp [Catalog.names, legacy, legacyEntries, builtIn]
  have hprepare : prepare Sample.surroundings (resolveOpening "ArialBold") = .ok Sample.settings := by
    cbv
  have hshown := hshows (reaches_resolveWords hprepare)
  have hmaps : Maps legacyEntries (.text "ArialBold") Sample.arialBold :=
    ⟨builtIn "ArialBold" "Arial" .bold .normal, by simp [legacyEntries], rfl, _, rfl, rfl, rfl, rfl⟩
  have hfound : ofLegacy (.text "ArialBold") = .ok Sample.arialBold := by
    rw [ofLegacy_of_asksFor (.text rfl), legacy_resolve_of_maps hmaps]
  constructor
  · rw [hfound] at hshown
    cases hshown with
    | found htext hbold hends =>
      cases htext
      cases hbold
      exact hends
  · apply hloose "arial bold" "ArialBold" (.text rfl) hknown
    · decide +kernel
    · decide

/-- A name that has no text is not reported as one that was not found. -/
theorem legacy_names_resolve_iff_untitled :
    Answered (Scale.legacyFonts.item Descriptor.Sample.untitled)
        (.error (.fault (.fontNotFound Descriptor.Sample.untitled (.text "Font")))) ∧
      ofLegacy (Scale.legacyFonts.item Descriptor.Sample.untitled) =
        .error (.mishap .noSuchAttribute) := by
  have hmissing : ∀ descriptor, ¬ Maps legacyEntries Descriptor.Sample.untitled descriptor := by
    intro descriptor hmaps
    obtain ⟨content, hcontent⟩ | ⟨codes, hcodes⟩ := hmaps.isText.cases
    · cases hcontent
    · cases hcodes
  refine ⟨.missing (.item _) hmissing, ?_⟩
  rw [ofLegacy_of_asksFor (.item _), legacy_resolve_of_not_maps hmissing]
  rfl

end Cli

end Typeface
