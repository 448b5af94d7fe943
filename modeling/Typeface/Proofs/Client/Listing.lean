import Typeface.Client
import Typeface.Proofs.Failure
import Typeface.Proofs.Value

/-!
# Fetching the list of releases

Trouble of the transport, an error status and a body that is no list of releases
all become one fault of the client.  Some outcomes pass through as they are, for
the list and for one release of it alike: a failure of the system, or one of an
unknown kind, that breaks the exchange off, and a body that nests too deep to be
read.
-/

namespace Typeface

/-- The status of the reply is an error. -/
def Reply.HasErrorStatus (reply : Reply) : Prop :=
  400 ≤ reply.status ∧ reply.status < 600

theorem Reply.statusTrouble?_eq_none_iff {reply : Reply} {url : HostText} :
    reply.statusTrouble? url = none ↔ ¬ reply.HasErrorStatus := by
  simp only [statusTrouble?, HasErrorStatus, Option.map_eq_none_iff]
  split
  · simp only [reduceCtorEq, false_iff]
    omega
  split
  · simp only [reduceCtorEq, false_iff]
    omega
  · simp only [true_iff]
    omega

theorem Reply.hasErrorStatus_of_statusTrouble? {reply : Reply} {url : HostText} {trouble : Trouble}
    (htrouble : reply.statusTrouble? url = some trouble) : reply.HasErrorStatus := by
  apply Classical.byContradiction
  intro hgood
  rw [statusTrouble?_eq_none_iff.mpr hgood] at htrouble
  cases htrouble

namespace Client

open Failure

/-- The client has no handler for the exchange: a failure of the system breaks it off, or one that
is neither trouble of the transport nor a failure of a value, or it brings a body that nests too
deep. -/
inductive Unguarded (depth : Nat) : Exchange → Prop
  | severed (message : HostText) : Unguarded depth (.broken (.system message))
  | foreign (name : String) : Unguarded depth (.broken (.other name))
  | tooDeep {reply : Reply} (hstatus : ¬ reply.HasErrorStatus)
      (hbody : Json.decodeBytes depth reply.body = .error .tooDeep) : Unguarded depth (.reply reply)

variable {depth : Nat} {exchange : Exchange}

theorem escapes_decodeBody (depth : Nat) (body : Text.Bytes) :
    escapes .release (decodeBody depth body) = true ↔
      Json.decodeBytes depth body = .error .tooDeep := by
  unfold decodeBody
  split
  · next hbody => simp [hbody, failed, isIn, fault?, Fault.group]
  · next hbody => simp [hbody, failed, isIn, fault?, Fault.group]
  · next hbody => simp [hbody, isIn, fault?]
  · next hbody =>
    rw [hbody]
    split <;> simp [failed, isIn, fault?, Fault.group]

theorem escapes_releasesFrom (depth : Nat) (url : HostText) (exchange : Exchange) :
    escapes .release (releasesFrom depth url exchange) = true ↔ Unguarded depth exchange := by
  cases exchange with
  | broken reason =>
    cases reason with
    | system message => exact iff_of_true rfl (.severed message)
    | other name => exact iff_of_true rfl (.foreign name)
    | trouble trouble =>
      have hguarded : ¬ Unguarded depth (.broken (.trouble trouble)) := by
        intro hunguarded
        cases hunguarded
      simp [releasesFrom, troubled, isIn, fault?, Fault.group, hguarded]
    | value message =>
      have hguarded : ¬ Unguarded depth (.broken (.value message)) := by
        intro hunguarded
        cases hunguarded
      simp [releasesFrom, isIn, fault?, Fault.group, hguarded]
  | reply reply =>
    simp only [releasesFrom]
    cases htrouble : reply.statusTrouble? url with
    | some trouble =>
      refine iff_of_false (by simp [troubled, isIn, fault?, Fault.group]) ?_
      intro hunguarded
      cases hunguarded with
      | tooDeep hstatus _ => exact hstatus (Reply.hasErrorStatus_of_statusTrouble? htrouble)
    | none =>
      rw [escapes_decodeBody]
      refine ⟨.tooDeep (Reply.statusTrouble?_eq_none_iff.mp htrouble), ?_⟩
      intro hunguarded
      cases hunguarded with
      | tooDeep _ hbody => exact hbody

/-- The exchange that the next request meets. -/
def State.next (state : State) : Exchange :=
  state.session.script.head?.getD Session.exhausted

theorem fst_fetchReleases_eq_releasesFrom (settings : ClientSettings) (state : State) :
    (fetchReleases settings state).1 =
      releasesFrom state.depth settings.releasesUrl state.next := by
  simp only [fetchReleases, State.record, State.request, Session.request, State.next]
  split
  · next hfrom => exact hfrom.symm
  · next hfrom => exact hfrom.symm

theorem escapes_fetchReleases (settings : ClientSettings) (state : State) :
    escapes .release (fetchReleases settings state).1 = true ↔
      Unguarded state.depth state.next := by
  rw [fst_fetchReleases_eq_releasesFrom]
  exact escapes_releasesFrom state.depth settings.releasesUrl state.next

theorem escapes_findTag (tag : HostText) (releases : List Release) :
    escapes .release (findTag tag.value releases) = false := by
  unfold findTag
  split
  · rfl
  · exact escapes_raise (by simp [Fault.message?, Fault.message, Except.map, Except.toOption]) rfl

theorem escapes_fetchRelease (settings : ClientSettings) (tag : HostText) (state : State) :
    escapes .release (fetchRelease settings tag.value state).1 = true ↔
      Unguarded state.depth state.next := by
  rw [← escapes_fetchReleases settings state]
  simp only [fetchRelease]
  split
  · next hfetch => simp [hfetch]
  · next hfetch => simp [hfetch, escapes_findTag]

end Client

end Typeface
