import Mathlib
import Typeface.Proofs.Client.Decoding

/-!
# What a refused list request blames

The message of a refusal names the action that failed, sending the request or
decoding the response.  The first is meant for exchanges that bring no usable
reply, the second for replies that hold no list of releases.  Two causes are
filed under the other action: a body that is no JSON counts as trouble of the
transport, and a failure of a value while the request is sent counts as one of
decoding.
-/

namespace Typeface

namespace Client

/-- No usable reply arrives: the transport has trouble, or the status is an error. -/
inductive Unanswered : Exchange → Prop
  | troubled (trouble : Trouble) : Unanswered (.broken (.trouble trouble))
  | refused {reply : Reply} (hstatus : reply.HasErrorStatus) : Unanswered (.reply reply)

/-- A reply of good status arrives whose body is no JSON, or JSON that is no list of releases. -/
inductive Undecodable (depth : Nat) : Exchange → Prop
  | body {reply : Reply} (hstatus : ¬ reply.HasErrorStatus)
      (hbody : ∀ value releases, Json.decodeBytes depth reply.body = .ok value →
        ¬ Lists value releases) : Undecodable depth (.reply reply)

/-- A reply of good status arrives whose body is no JSON at all. -/
inductive Garbled (depth : Nat) : Exchange → Prop
  | body {reply : Reply} (hstatus : ¬ reply.HasErrorStatus)
      (hbody : Json.decodeBytes depth reply.body = .error .malformed) : Garbled depth (.reply reply)

/-- The exchange breaks off with a failure of a value. -/
inductive Misvalued : Exchange → Prop
  | broken (message : HostText) : Misvalued (.broken (.value message))

def sendingOpening : String := "Failed to send releases request"

def decodingOpening : String := "Failed to decode releases response"

/-- The message of a refused request. -/
def refusal? : Except Failure (List Release) → Option HostText
  | .ok _ => none
  | .error failure =>
    match failure.fault? with
    | some (.releaseRequest action error) => (Fault.releaseRequest action error).message?
    | _ => none

/-- A message begins with an opening. -/
def BeginsWith (opening message : HostText) : Prop :=
  opening.codes <+: message.codes

variable {exchange : Exchange} {message : HostText} {depth : Nat}

theorem beginsWith_append (opening rest : HostText) : BeginsWith opening (opening ++ rest) :=
  List.prefix_append _ _

/-- A message that begins with one of the openings does not begin with the other. -/
theorem not_beginsWith_both (hsending : BeginsWith sendingOpening message) :
    ¬ BeginsWith decodingOpening message := by
  intro hdecoding
  rcases List.prefix_or_prefix_of_prefix hsending hdecoding with hfirst | hfirst
  · exact absurd hfirst (by decide)
  · exact absurd hfirst (by decide)

theorem refusal?_releaseRequest (action : String) (reason : Option HostText) (cause : Mishap) :
    ∃ rest : HostText, refusal? (.error
        (.caused (.releaseRequest (.text action) (reason.map HostText.value)) cause)) =
      some (HostText.ofText ("Failed to " ++ action) ++ rest) := by
  rw [HostText.ofText_append]
  cases reason with
  | none =>
    refine ⟨"", ?_⟩
    rw [HostText.append_empty]
    simp only [refusal?, Failure.fault?, Fault.message?, Fault.message, Fault.withReason,
      Value.spoken_text, Option.map_none, bind, Except.bind, Except.toOption]
  | some reason =>
    refine ⟨(": " : HostText) ++ reason, ?_⟩
    rw [← HostText.append_assoc]
    simp only [refusal?, Failure.fault?, Fault.message?, Fault.message, Fault.withReason,
      Value.spoken_text, HostText.spoken_value, Option.map_some, bind, Except.bind, Except.map,
      Except.toOption]

/-- A refusal says in its message which action failed. -/
theorem beginsWith_of_refused (action : String) (reason : Option HostText) {cause : Mishap}
    (hrefused : refusal? (.error
      (.caused (.releaseRequest (.text action) (reason.map HostText.value)) cause)) =
        some message) :
    BeginsWith (HostText.ofText ("Failed to " ++ action)) message := by
  obtain ⟨rest, hshown⟩ := refusal?_releaseRequest action reason cause
  obtain rfl := Option.some.inj (hshown.symm.trans hrefused)
  exact beginsWith_append _ _

theorem not_garbled_of_ne {reply : Reply}
    (hbody : Json.decodeBytes depth reply.body ≠ .error .malformed) :
    ¬ Garbled depth (.reply reply) := by
  rintro ⟨_, hmalformed⟩
  exact hbody hmalformed

/-- A body is refused because it is no JSON, or because what it holds is no list of releases. -/
theorem refusal?_decodeBody {reply : Reply} (hstatus : ¬ reply.HasErrorStatus)
    (hrefused : refusal? (decodeBody depth reply.body) = some message) :
    BeginsWith sendingOpening message ∧ Garbled depth (.reply reply) ∨
      BeginsWith decodingOpening message ∧ Undecodable depth (.reply reply) ∧
        ¬ Garbled depth (.reply reply) := by
  unfold decodeBody at hrefused
  cases hbody : Json.decodeBytes depth reply.body with
  | error problem =>
    rw [hbody] at hrefused
    cases problem with
    | malformed => exact .inl ⟨beginsWith_of_refused sending none hrefused, .body hstatus hbody⟩
    | oversized =>
      have hundecodable : Undecodable depth (.reply reply) :=
        .body hstatus fun value releases hvalue => by simp [hbody] at hvalue
      exact .inr ⟨beginsWith_of_refused decoding none hrefused, hundecodable,
        not_garbled_of_ne (by simp [hbody])⟩
    | tooDeep => cases hrefused
  | ok value =>
    cases hreleases : releasesOf value with
    | ok releases => simp [hbody, hreleases, refusal?] at hrefused
    | error mishap =>
      have hundecodable : Undecodable depth (.reply reply) := by
        refine .body hstatus fun other releases hother hlists => ?_
        obtain rfl : value = other := by simpa [hbody] using hother
        have hfound := (releasesOf_eq_ok_iff (Json.decoded_of_decodeBytes hbody)).mpr (.inl hlists)
        simp [hreleases] at hfound
      simp only [hbody, hreleases] at hrefused
      exact .inr ⟨beginsWith_of_refused decoding none hrefused, hundecodable,
        not_garbled_of_ne (by simp [hbody])⟩

theorem refusal?_releasesFrom {url : HostText}
    (hrefused : refusal? (releasesFrom depth url exchange) = some message) :
    BeginsWith sendingOpening message ∧ (Unanswered exchange ∨ Garbled depth exchange) ∨
      BeginsWith decodingOpening message ∧
        (Misvalued exchange ∨ Undecodable depth exchange ∧ ¬ Garbled depth exchange) := by
  cases exchange with
  | broken reason =>
    cases reason with
    | trouble trouble =>
      have hopening := beginsWith_of_refused sending (some trouble.message) hrefused
      exact .inl ⟨hopening, .inl (.troubled trouble)⟩
    | system reason => simp [releasesFrom, refusal?, Failure.fault?] at hrefused
    | other name => simp [releasesFrom, refusal?, Failure.fault?] at hrefused
    | value reason =>
      exact .inr ⟨beginsWith_of_refused decoding (some reason) hrefused, .inl (.broken reason)⟩
  | reply reply =>
    cases htrouble : reply.statusTrouble? url with
    | some trouble =>
      have hstatus := Reply.hasErrorStatus_of_statusTrouble? htrouble
      simp only [releasesFrom, htrouble] at hrefused
      have hopening := beginsWith_of_refused sending (some trouble.message) hrefused
      exact .inl ⟨hopening, .inl (.refused hstatus)⟩
    | none =>
      have hstatus := Reply.statusTrouble?_eq_none_iff.mp htrouble
      simp only [releasesFrom, htrouble] at hrefused
      exact (refusal?_decodeBody hstatus hrefused).imp (.imp_right .inr) (.imp_right .inr)

theorem not_undecodable_of_misvalued (hvalue : Misvalued exchange) :
    ¬ Undecodable depth exchange := by
  intro hbody
  cases hvalue
  cases hbody

theorem not_unanswered_of_undecodable (hbody : Undecodable depth exchange) :
    ¬ Unanswered exchange := by
  intro hmissing
  cases hbody with
  | body hstatus _ =>
    cases hmissing with
    | refused herror => exact hstatus herror

theorem undecodable_of_garbled (hgarbled : Garbled depth exchange) : Undecodable depth exchange := by
  obtain ⟨hstatus, hbody⟩ := hgarbled
  exact .body hstatus fun value releases hvalue => by simp [hbody] at hvalue

theorem not_misfiled_both (hsending : Unanswered exchange ∨ Garbled depth exchange) :
    ¬ (Misvalued exchange ∨ Undecodable depth exchange ∧ ¬ Garbled depth exchange) := by
  rintro (hvalue | ⟨hbody, hnot⟩)
  · rcases hsending with hmissing | hgarbled
    · cases hvalue
      cases hmissing
    · exact not_undecodable_of_misvalued hvalue (undecodable_of_garbled hgarbled)
  · exact hsending.elim (not_unanswered_of_undecodable hbody) hnot

/-- Which exchanges each of the two openings stands for. -/
theorem beginsWith_refusal_iff {url : HostText}
    (hrefused : refusal? (releasesFrom depth url exchange) = some message) :
    (BeginsWith sendingOpening message ↔ Unanswered exchange ∨ Garbled depth exchange) ∧
    (BeginsWith decodingOpening message ↔
      Misvalued exchange ∨ Undecodable depth exchange ∧ ¬ Garbled depth exchange) := by
  rcases refusal?_releasesFrom hrefused with ⟨hopening, hcause⟩ | ⟨hopening, hcause⟩
  · exact ⟨iff_of_true hopening hcause,
      iff_of_false (not_beginsWith_both hopening) (not_misfiled_both hcause)⟩
  · exact ⟨iff_of_false (fun hother => not_beginsWith_both hother hopening)
      (fun hother => not_misfiled_both hother hcause), iff_of_true hopening hcause⟩

theorem refusal?_of_misvalued (depth : Nat) (url : HostText) (hvalue : Misvalued exchange) :
    ∃ shown, refusal? (releasesFrom depth url exchange) = some shown := by
  obtain ⟨reason⟩ := hvalue
  obtain ⟨rest, hshown⟩ := refusal?_releaseRequest decoding (some reason) .wrongValue
  exact ⟨_, hshown⟩

theorem refusal?_of_garbled (url : HostText) (hgarbled : Garbled depth exchange) :
    ∃ shown, refusal? (releasesFrom depth url exchange) = some shown := by
  obtain ⟨hstatus, hbody⟩ := hgarbled
  obtain ⟨rest, hshown⟩ := refusal?_releaseRequest sending none notJson
  refine ⟨HostText.ofText ("Failed to " ++ sending) ++ rest, ?_⟩
  simp only [releasesFrom, Reply.statusTrouble?_eq_none_iff.mpr hstatus, decodeBody, hbody]
  exact hshown

end Client

end Typeface
