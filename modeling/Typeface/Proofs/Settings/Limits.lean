import Mathlib
import Typeface.Proofs.Settings.Routes

/-!
# Limits of the client's settings

A time limit is compared as the number that it means.  On whatever route settings
of the client come about, their time limit lies above zero, a piece has at least
one byte, and owner and repository are named.  The limits are all there is:
settings within them, with an address that is left of one with a web scheme, come
about in any surroundings.
-/

namespace Typeface

namespace Number.Binary64

variable {number : Binary64}

/-- What a number means, where it means something, between the two infinities. -/
def extended? : Binary64 → Option (WithBotTop ℚ)
  | nan => none
  | infinite true => some ⊥
  | infinite false => some ⊤
  | finite negative significand exponent =>
    let signed : ℚ := if negative then -significand else significand
    some (signed * 2 ^ exponent : ℚ)

/-- One number is greater than another.  `nan` is greater than none, and none is greater than it. -/
def Above (upper lower : Binary64) : Prop :=
  ∃ high low, upper.extended? = some high ∧ lower.extended? = some low ∧ low < high

theorem above_zero_iff_extended :
    number.Above zero ↔ ∃ high, number.extended? = some high ∧ (0 : ℚ) < high := by
  simp [Above, extended?, zero]

theorem above_zero_iff : number.Above zero ↔ number.isPositive = true := by
  rw [above_zero_iff_extended]
  cases number with
  | nan => simp [extended?, isPositive]
  | infinite negative =>
    have htop : ((0 : ℚ) : WithBotTop ℚ) < ⊤ := lt_top_iff_ne_top.mpr (WithBotTop.coe_ne_top 0)
    cases negative <;> simp [extended?, isPositive, htop]
  | finite negative significand exponent =>
    have hscale : (0 : ℚ) < 2 ^ exponent := zpow_pos two_pos exponent
    have hmagnitude : (0 : ℚ) ≤ significand * 2 ^ exponent :=
      mul_nonneg significand.cast_nonneg hscale.le
    cases negative with
    | true => simp [extended?, isPositive, hmagnitude]
    | false => simp [extended?, isPositive, mul_pos_iff_of_pos_right hscale, Nat.pos_iff_ne_zero]

theorem Above.ne_nan {lower : Binary64} (habove : number.Above lower) : number ≠ nan := by
  obtain ⟨high, _, hhigh, _⟩ := habove
  intro hnan
  rw [hnan] at hhigh
  cases hhigh

end Number.Binary64

namespace ClientSettings

open Typeface.Number

variable {settings : ClientSettings}

/-- The limits that settings of the client keep to. -/
structure WithinLimits (settings : ClientSettings) : Prop where
  timeout : settings.timeout.Above .zero
  chunkSize : 1 ≤ settings.chunkSize
  owner : settings.owner ≠ ""
  repository : settings.repository ≠ ""

theorem sound_iff_withinLimits :
    settings.Sound ↔ settings.WithinLimits ∧
      ∃ text, hasWebScheme text = true ∧ withoutEndSlashes text = settings.apiUrl := by
  constructor
  · intro hsound
    have htimeout : settings.timeout.Above .zero := Binary64.above_zero_iff.mpr hsound.timeout
    exact ⟨⟨htimeout, hsound.chunkSize, hsound.owner, hsound.repository⟩, hsound.address⟩
  · intro hlimits
    obtain ⟨⟨htimeout, hchunk, howner, hrepository⟩, haddress⟩ := hlimits
    exact ⟨howner, hrepository, haddress, Binary64.above_zero_iff.mp htimeout, hchunk⟩

/-- Sound settings load from their own fields, with an address that comes to theirs. -/
theorem load_of_sound (surroundings : Surroundings) (hsound : settings.Sound) :
    ∃ given, load surroundings given .absent = .ok settings := by
  obtain ⟨address, hscheme, haddress⟩ := hsound.address
  have hurl : serviceUrl address.value = .ok settings.apiUrl :=
    serviceUrl_eq_ok_iff.mpr ⟨address, Coercion.text_value address, hscheme, haddress⟩
  have haccepted : ofFields { settings with apiUrl := address }.toFields = .ok settings :=
    (ofFields_readdressed_iff hsound).mpr hurl
  have hdotenv : surroundings.dotenv .absent = .ok [] := rfl
  refine ⟨{ settings with apiUrl := address }.toFields, ?_⟩
  rw [load_toFields, hdotenv, Except.bind, haccepted, Checked.orFail]

end ClientSettings

/-- In all surroundings the settings of the client that some route ends in are those within the
limits, with an address that is left of one with a web scheme.  So none of them has `nan` for its
time limit. -/
theorem accepted_iff_withinLimits (surroundings : Surroundings) (settings : ClientSettings) :
    (Accepted surroundings settings ↔
      settings.WithinLimits ∧ ∃ text, ClientSettings.hasWebScheme text = true ∧
        ClientSettings.withoutEndSlashes text = settings.apiUrl) ∧
      (Accepted surroundings settings → settings.timeout ≠ .nan) := by
  rw [← ClientSettings.sound_iff_withinLimits]
  constructor
  · constructor
    · intro haccepted
      exact haccepted.sound
    · intro hsound
      obtain ⟨given, hload⟩ := ClientSettings.load_of_sound surroundings hsound
      exact .built hload
  · intro haccepted
    have habove : settings.timeout.Above .zero :=
      Number.Binary64.above_zero_iff.mpr haccepted.sound.timeout
    exact habove.ne_nan

end Typeface
