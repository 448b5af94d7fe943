import Mathlib
import Typeface.Proofs.Settings.Routes

/-!
# The address of the service

The scheme of an address is checked before the slashes at its end are dropped.
What is left begins with a web scheme still, unless slashes are all that
followed the scheme: then they go with those of the scheme, and the settings are
accepted with an address that would be refused if it were given back.
-/

namespace Typeface

namespace Text

variable {α : Type} {isOuter : α → Bool}

theorem trimRight_append (first second : List α) :
    trimRight isOuter (first ++ second) =
      if trimRight isOuter second = [] then trimRight isOuter first
      else first ++ trimRight isOuter second := by
  unfold trimRight
  rw [List.reverse_append, List.dropWhile_append]
  by_cases hnone : second.reverse.dropWhile isOuter = []
  · simp [hnone]
  · simp only [List.isEmpty_iff, hnone, List.reverse_eq_nil_iff, if_false, List.reverse_append,
      List.reverse_reverse]

theorem trimRight_trimRight (letters : List α) :
    trimRight isOuter (trimRight isOuter letters) = trimRight isOuter letters := by
  simp [trimRight, List.dropWhile_idempotent]

theorem getLast?_trimRight {letters : List α} {last : α}
    (hlast : (trimRight isOuter letters).getLast? = some last) : isOuter last = false := by
  have hhead := List.head?_dropWhile_not isOuter letters.reverse
  rw [trimRight, List.getLast?_reverse] at hlast
  simpa [hlast] using hhead

end Text

namespace ClientSettings

variable {text : HostText} {settings : ClientSettings} {surroundings : Surroundings}

theorem hasWebScheme_iff :
    hasWebScheme text = true ↔ ("https://" : HostText).codes <+: text.codes ∨
      ("http://" : HostText).codes <+: text.codes := by
  simp [hasWebScheme, HostText.startsWith]

theorem withoutEndSlashes_withoutEndSlashes (text : HostText) :
    withoutEndSlashes (withoutEndSlashes text) = withoutEndSlashes text :=
  HostText.eq_of_codes_eq (Text.trimRight_trimRight text.codes)

theorem getLast?_withoutEndSlashes (text : HostText) :
    (withoutEndSlashes text).codes.getLast? ≠ some Path.slash := by
  intro hlast
  exact absurd (Text.getLast?_trimRight hlast) (by decide)

/-- Without the slashes at its end, a text that begins with a scheme still does, or is what remains
of the scheme alone. -/
theorem prefix_or_eq_of_prefix {scheme bare : HostText} (hbare : withoutEndSlashes scheme = bare)
    (hscheme : scheme.codes <+: text.codes) :
    scheme.codes <+: (withoutEndSlashes text).codes ∨ withoutEndSlashes text = bare := by
  obtain ⟨rest, hrest⟩ := hscheme
  have hcodes : (withoutEndSlashes text).codes =
      Text.trimRight (· == Path.slash) (scheme.codes ++ rest) := by
    rw [withoutEndSlashes, hrest]
  rw [Text.trimRight_append] at hcodes
  split at hcodes
  · right
    rw [← hbare]
    exact HostText.eq_of_codes_eq hcodes
  · left
    rw [hcodes]
    exact List.prefix_append _ _

theorem hasWebScheme_withoutEndSlashes_iff (hscheme : hasWebScheme text = true) :
    hasWebScheme (withoutEndSlashes text) = true ↔
      withoutEndSlashes text ≠ "https:" ∧ withoutEndSlashes text ≠ "http:" := by
  constructor
  · intro hkept
    constructor
    · intro hbare
      exact absurd (hbare ▸ hkept) (by decide)
    · intro hbare
      exact absurd (hbare ▸ hkept) (by decide)
  · rintro ⟨hsecure, hplain⟩
    rw [hasWebScheme_iff] at hscheme ⊢
    rcases hscheme with hscheme | hscheme
    · have hbare : withoutEndSlashes "https://" = ("https:" : HostText) := by decide
      rcases prefix_or_eq_of_prefix hbare hscheme with hkept | hlost
      · exact .inl hkept
      · exact absurd hlost hsecure
    · have hbare : withoutEndSlashes "http://" = ("http:" : HostText) := by decide
      rcases prefix_or_eq_of_prefix hbare hscheme with hkept | hlost
      · exact .inr hkept
      · exact absurd hlost hplain

/-- An address without a slash at its end is accepted as it is exactly if it has a web scheme. -/
theorem serviceUrl_self_iff (haddress : withoutEndSlashes text = text) :
    serviceUrl text.value = .ok text ↔ hasWebScheme text = true := by
  rw [serviceUrl_eq_ok_iff, Coercion.text_value]
  constructor
  · rintro ⟨spelled, hspelled, hscheme, _⟩
    cases hspelled
    exact hscheme
  · intro hscheme
    exact ⟨text, rfl, hscheme, haddress⟩

theorem Sound.withoutEndSlashes_apiUrl (hsound : Sound settings) :
    withoutEndSlashes settings.apiUrl = settings.apiUrl := by
  obtain ⟨text, _, haddress⟩ := hsound.address
  rw [← haddress, withoutEndSlashes_withoutEndSlashes]

theorem Sound.hasWebScheme_iff (hsound : Sound settings) :
    hasWebScheme settings.apiUrl = true ↔
      settings.apiUrl ≠ "https:" ∧ settings.apiUrl ≠ "http:" := by
  obtain ⟨text, hscheme, haddress⟩ := hsound.address
  rw [← haddress]
  exact hasWebScheme_withoutEndSlashes_iff hscheme

end ClientSettings

open ClientSettings in
/-- Whatever route its settings come by, the address has no slash at its end and the list of
releases lies below it.  It has its web scheme, and the fields of the settings are accepted
unchanged wherever the dotenv files can be read, exactly if something followed the scheme. -/
theorem accepted_apiUrl {surroundings : Surroundings} {settings : ClientSettings}
    (haccepted : Accepted surroundings settings) :
    settings.apiUrl.codes.getLast? ≠ some Path.slash ∧
    settings.releasesUrl = settings.apiUrl ++
      HostText.ofText ("/repos/" ++ settings.owner ++ "/" ++ settings.repository ++ "/releases") ∧
    ((("https://" : HostText).codes <+: settings.apiUrl.codes ∨
        ("http://" : HostText).codes <+: settings.apiUrl.codes) ↔
      settings.apiUrl ≠ "https:" ∧ settings.apiUrl ≠ "http:") ∧
    ∀ choice, ClientSettings.load surroundings settings.toFields choice = .ok settings ↔
      (∃ held, surroundings.dotenv choice = .ok held) ∧
        settings.apiUrl ≠ "https:" ∧ settings.apiUrl ≠ "http:" := by
  have hsound := haccepted.sound
  have haddress := hsound.withoutEndSlashes_apiUrl
  refine ⟨?_, ?_, ?_, fun choice => ?_⟩
  · rw [← haddress]
    exact getLast?_withoutEndSlashes settings.apiUrl
  · rfl
  · rw [← ClientSettings.hasWebScheme_iff, hsound.hasWebScheme_iff]
  · rw [load_toFields_iff hsound, serviceUrl_self_iff haddress, hsound.hasWebScheme_iff]

namespace Sample

/-- A working directory with a dotenv file that names an owner. -/
def surroundings : Surroundings :=
  { environment := []
    files :=
      { nodes := [(["work"], .directory),
          (["work", ".env"], .file (Text.toUtf8 "RELEASES_OWNER=x"))]
        working := ["work"] } }

/-- The default settings with an owner and an address. -/
def addressed (owner apiUrl : String) : ClientSettings :=
  { owner, repository := "fontident", apiUrl, apiVersion := "2022-11-28"
    userAgent := "fontident/0.1.0", timeout := ClientSettings.defaultTimeout, chunkSize := 8192
    showProgress := true }

end Sample

theorem accepted_apiUrl_slashes :
    Accepted Sample.surroundings (Sample.addressed "x" "https://example.org/api") ∧
      ClientSettings.load Sample.surroundings
        (Sample.addressed "x" "https://example.org/api").toFields .absent =
        .ok (Sample.addressed "x" "https://example.org/api") := by
  have hload : ClientSettings.load Sample.surroundings
      [("api_url", .text "https://example.org/api//")] .standard =
      .ok (Sample.addressed "x" "https://example.org/api") := by cbv
  have haccepted : Accepted Sample.surroundings (Sample.addressed "x" "https://example.org/api") :=
    .built hload
  obtain ⟨_, _, _, hagain⟩ := accepted_apiUrl haccepted
  exact ⟨haccepted, (hagain .absent).mpr ⟨⟨[], rfl⟩, by decide⟩⟩

/-- A scheme with nothing behind it is accepted, loses its slashes, and is refused when it is given
back. -/
theorem accepted_apiUrl_bare :
    Accepted Sample.surroundings (Sample.addressed "x" "https:") ∧
      ¬ (("https://" : HostText).codes <+: ("https:" : HostText).codes ∨
        ("http://" : HostText).codes <+: ("https:" : HostText).codes) ∧
      ClientSettings.load Sample.surroundings (Sample.addressed "x" "https:").toFields .standard ≠
        .ok (Sample.addressed "x" "https:") := by
  have hload : ClientSettings.load Sample.surroundings [("api_url", .text "https://")] .standard =
      .ok (Sample.addressed "x" "https:") := by cbv
  have haccepted : Accepted Sample.surroundings (Sample.addressed "x" "https:") := .built hload
  have hsound := haccepted.sound
  refine ⟨haccepted, by decide, ?_⟩
  rw [Ne, ClientSettings.load_toFields_iff hsound,
    ClientSettings.serviceUrl_self_iff hsound.withoutEndSlashes_apiUrl]
  rintro ⟨_, hscheme⟩
  exact absurd hscheme (by decide)

end Typeface
