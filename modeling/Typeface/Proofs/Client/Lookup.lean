import Mathlib
import Typeface.Proofs.Client.Refusal
import Typeface.Proofs.Value

/-!
# Finding a release by its tag

Fetching the list fails with a refused request or not at all, whatever the
session brings, unless the exchange is one that the client does not guard
against: a failure of the system breaks it off, or its body nests too deep.
Looking for a tag adds one way to fail: no release of the list has it.  Where one
has, the first such release in the order of the list is found.
-/

namespace Typeface

namespace Client

/-- The failure is a refused request. -/
def IsRefusal (failure : Failure) : Prop :=
  ∃ action error, failure.fault? = some (.releaseRequest action error)

/-- A reply of good status arrives whose body is a list of these releases. -/
inductive Delivers (depth : Nat) : Exchange → List Release → Prop
  | body {reply : Reply} {value : Value} {releases : List Release}
      (hstatus : ¬ reply.HasErrorStatus) (hvalue : Json.decodeBytes depth reply.body = .ok value)
      (hlists : Lists value releases) : Delivers depth (.reply reply) releases

/-- The release is the first one with a tag. -/
def FirstTagged (tag : HostText) (releases : List Release) (release : Release) : Prop :=
  ∃ before after, releases = before ++ release :: after ∧ release.tag = tag ∧
    ∀ earlier ∈ before, earlier.tag ≠ tag

variable {settings : ClientSettings} {state : State} {exchange : Exchange} {failure : Failure}
variable {releases : List Release} {release : Release} {tag url : HostText} {depth : Nat}

theorem isRefusal_of_decodeBody {body : Text.Bytes}
    (hdeep : Json.decodeBytes depth body ≠ .error .tooDeep)
    (hbody : decodeBody depth body = .error failure) : IsRefusal failure := by
  unfold decodeBody at hbody
  cases hvalue : Json.decodeBytes depth body with
  | error problem =>
    rw [hvalue] at hbody
    cases problem with
    | tooDeep => exact absurd hvalue hdeep
    | _ =>
      cases hbody
      exact ⟨_, _, rfl⟩
  | ok value =>
    cases hreleases : releasesOf value with
    | ok releases => simp [hvalue, hreleases] at hbody
    | error mishap =>
      simp only [hvalue, hreleases] at hbody
      cases hbody
      exact ⟨_, _, rfl⟩

theorem isRefusal_of_releasesFrom (hguarded : ¬ Unguarded depth exchange)
    (hfrom : releasesFrom depth url exchange = .error failure) : IsRefusal failure := by
  cases exchange with
  | broken reason =>
    cases reason with
    | system message => exact absurd (.severed message) hguarded
    | other name => exact absurd (.foreign name) hguarded
    | _ =>
      cases hfrom
      exact ⟨_, _, rfl⟩
  | reply reply =>
    cases htrouble : reply.statusTrouble? url with
    | some trouble =>
      simp only [releasesFrom, htrouble] at hfrom
      cases hfrom
      exact ⟨_, _, rfl⟩
    | none =>
      simp only [releasesFrom, htrouble] at hfrom
      refine isRefusal_of_decodeBody (fun hdeep => hguarded ?_) hfrom
      exact .tooDeep (Reply.statusTrouble?_eq_none_iff.mp htrouble) hdeep

theorem releasesFrom_unguarded (hunguarded : Unguarded depth exchange) :
    ∃ mishap, releasesFrom depth url exchange = .error (.mishap mishap) := by
  cases hunguarded with
  | severed message => exact ⟨_, rfl⟩
  | foreign name => exact ⟨_, rfl⟩
  | tooDeep hstatus hbody =>
    refine ⟨.tooDeep, ?_⟩
    simp only [releasesFrom, Reply.statusTrouble?_eq_none_iff.mpr hstatus, decodeBody, hbody]

theorem not_isRefusal_mishap (mishap : Mishap) : ¬ IsRefusal (.mishap mishap) := by
  rintro ⟨action, error, hfault⟩
  cases hfault

theorem releasesFrom_delivers (hdelivers : Delivers depth exchange releases) :
    releasesFrom depth url exchange = .ok releases := by
  obtain ⟨hstatus, hvalue, hlists⟩ := hdelivers
  have hreleases := (releasesOf_eq_ok_iff (Json.decoded_of_decodeBytes hvalue)).mpr (.inl hlists)
  simp only [releasesFrom, Reply.statusTrouble?_eq_none_iff.mpr hstatus, decodeBody, hvalue,
    hreleases]

/-- The outcome of a look-up is that of the list, searched for the tag. -/
theorem fst_fetchRelease (settings : ClientSettings) (tag : Value) (state : State) :
    (fetchRelease settings tag state).1 =
      (releasesFrom state.depth settings.releasesUrl state.next).bind (findTag tag) := by
  rw [← fst_fetchReleases_eq_releasesFrom]
  simp only [fetchRelease]
  split
  · next hfetch => rw [hfetch]; rfl
  · next hfetch => rw [hfetch]; rfl

theorem findTag_eq_ok_iff :
    findTag tag.value releases = .ok release ↔ FirstTagged tag releases release := by
  have hfind : findTag tag.value releases = .ok release ↔
      (releases.find? fun release => release.tag.value.equal tag.value) = some release := by
    unfold findTag
    split
    · next hfound => simp [hfound]
    · next hnone => simp [hnone, Failure.raise_ne_ok]
  rw [hfind, List.find?_eq_some_iff_append]
  simp only [Bool.not_eq_true', ← Bool.not_eq_true, HostText.equal_value_iff, HostText.value_inj,
    FirstTagged]
  constructor
  · rintro ⟨hfound, before, after, hsplit, hearlier⟩
    exact ⟨before, after, hsplit, hfound, hearlier⟩
  · rintro ⟨before, after, hsplit, hfound, hearlier⟩
    exact ⟨hfound, before, after, hsplit, hearlier⟩

/-- A search without success fails for one reason: nothing has the tag. -/
theorem findTag_eq_error_iff :
    findTag tag.value releases = .error failure ↔
      (∀ release ∈ releases, release.tag ≠ tag) ∧
        failure = .fault (.releaseNotFound tag.value) := by
  have hraise : (Failure.raise (.releaseNotFound tag.value) : Except Failure Release) =
      .error (.fault (.releaseNotFound tag.value)) := by
    simp [Failure.raise, Fault.message, Except.map]
  cases hfind : releases.find? fun release => release.tag.value.equal tag.value with
  | some release =>
    have hequal : release.tag = tag := by simpa using List.find?_some hfind
    have hmem := List.mem_of_find?_eq_some hfind
    simp only [findTag, hfind, reduceCtorEq, false_iff, not_and]
    exact fun hnone => absurd hequal (hnone release hmem)
  | none =>
    have hnone : ∀ release ∈ releases, release.tag ≠ tag := by
      intro release hmem htag
      exact List.find?_eq_none.mp hfind release hmem (by simpa using htag)
    simp only [findTag, hfind, hraise, Except.error.injEq]
    exact ⟨fun hfailure => ⟨hnone, hfailure.symm⟩, fun hfailure => hfailure.2.symm⟩

theorem versionTag_value (version : HostText) :
    versionTag version.value = .ok (HostText.value ("v" ++ version)) := by
  rw [versionTag, HostText.spoken_value]
  rfl

end Client

end Typeface
