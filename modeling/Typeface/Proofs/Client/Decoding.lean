import Mathlib
import Typeface.Proofs.Client.Listing
import Typeface.Proofs.Client.Saving
import Typeface.Proofs.Json.Decoded

/-!
# Decoding the list of releases

A reply whose body is a list of releases gives these releases in order, and one
item that is no release discards them all.  Any other value is refused, except
that an object and a text list what they consist of, so that an empty one passes
for an empty list.
-/

namespace Typeface.Client

open Typeface.Json (Decoded IsName)

variable {value : Value} {items : List Value} {releases : List Release}

/-- A value that is a list with these releases as its items. -/
def Lists (value : Value) (releases : List Release) : Prop :=
  ∃ items, value = .list items ∧
    List.Forall₂ (fun item release => Release.ofValue item = .ok release) items releases

theorem releasesIn_eq_ok_iff :
    releasesIn items = .ok releases ↔
      List.Forall₂ (fun item release => Release.ofValue item = .ok release) items releases := by
  induction items generalizing releases with
  | nil => cases releases <;> simp [releasesIn]
  | cons item rest ih =>
    cases hitem : Release.ofValue item with
    | error complaints => cases releases <;> simp [releasesIn, hitem]
    | ok release =>
      cases hrest : releasesIn rest with
      | error mishap => cases releases <;> simp [releasesIn, hitem, ← ih, hrest]
      | ok found => cases releases <;> simp [releasesIn, hitem, ← ih, hrest]

/-- Texts are no releases, unless there are none of them. -/
theorem releasesIn_names (hitems : ∀ item ∈ items, IsName item) :
    releasesIn items = .ok releases ↔ items = [] ∧ releases = [] := by
  cases items with
  | nil => simp [releasesIn, eq_comm]
  | cons first rest =>
    have hfirst : ∃ complaints, Release.ofValue first = .error complaints := by
      obtain ⟨codes, rfl⟩ := hitems _ List.mem_cons_self
      unfold Value.ofCodes
      split <;> exact ⟨_, rfl⟩
    obtain ⟨complaints, hfirst⟩ := hfirst
    simp [releasesIn, hfirst]

/-- The characters of a text are no releases, but an empty text has none. -/
theorem releasesOf_name (hname : IsName value) :
    releasesOf value = .ok releases ↔ value = .text "" ∧ releases = [] := by
  rcases Value.IsText.cases hname with ⟨content, rfl⟩ | ⟨broken, rfl⟩
  · have hitems : ∀ item ∈ content.toList.map fun letter => Value.text (String.singleton letter),
        IsName item := by
      intro item hitem
      obtain ⟨letter, _, rfl⟩ := List.mem_map.mp hitem
      exact Value.IsText.text _
    simp [releasesOf, itemsOf, releasesIn_names hitems]
  · have hitems : ∀ item ∈ broken.codes.map fun (code : Nat) => Value.ofCodes [code],
        IsName item := by
      intro item hitem
      obtain ⟨code, _, rfl⟩ := List.mem_map.mp hitem
      exact ⟨_, rfl⟩
    have hcodes : broken.codes ≠ [] := by
      intro hnil
      have hbroken := broken.broken
      rw [hnil] at hbroken
      cases hbroken
    simp [releasesOf, itemsOf, releasesIn_names hitems, hcodes]

theorem releasesOf_eq_ok_iff (hdecoded : Decoded value) :
    releasesOf value = .ok releases ↔
      Lists value releases ∨ (value = .dict [] ∨ value = .text "") ∧ releases = [] := by
  cases hdecoded with
  | list _ => simp [releasesOf, itemsOf, Lists, releasesIn_eq_ok_iff]
  | @dict entries hnames _ =>
    have hkeys : ∀ item ∈ entries.map (·.1), IsName item := by
      intro item hitem
      obtain ⟨entry, hentry, rfl⟩ := List.mem_map.mp hitem
      exact hnames entry hentry
    simp [releasesOf, itemsOf, Lists, releasesIn_names hkeys]
  | string hname =>
    have hvalue : ¬ Lists value releases ∧ value ≠ .dict [] := by
      obtain ⟨codes, rfl⟩ := hname
      unfold Value.ofCodes
      split <;> simp [Lists]
    simp [releasesOf_name hname, hvalue.1, hvalue.2]
  | _ => simp [releasesOf, itemsOf, Lists]

/-- The first reply decides, where its status is no error and its body is JSON. -/
theorem fst_fetchReleases {settings : ClientSettings} {state : State} {reply : Reply}
    (hnext : state.session.script.head? = some (.reply reply))
    (hstatus : reply.statusTrouble? settings.releasesUrl = none)
    (hvalue : Json.decodeBytes state.depth reply.body = .ok value) :
    (fetchReleases settings state).1 = (releasesOf value).mapError (failed decoding) := by
  have hfrom : releasesFrom state.depth settings.releasesUrl (.reply reply) =
      (releasesOf value).mapError (failed decoding) := by
    simp only [releasesFrom, hstatus, decodeBody, hvalue]
    cases releasesOf value <;> rfl
  rw [fst_fetchReleases_eq_releasesFrom, State.next, hnext, Option.getD_some, hfrom]

namespace Sample

def replyOf (body : String) : Reply :=
  { status := 200, reason := none, headers := [], body := Text.toUtf8 body, pieces := none
    ending := none }

def replied (body : String) : State :=
  { session := .opened [.reply (replyOf body)], files, log := [] }

def listing : String :=
  "[\x7b\"id\":1,\"url\":\"u\",\"tag_name\":\"v1\"\x7d]"

def listed : Release :=
  { id := .number 1, url := "u", tag := "v1", name := none, body := none, draft := false
    prerelease := false, assets := [] }

end Sample

end Typeface.Client
