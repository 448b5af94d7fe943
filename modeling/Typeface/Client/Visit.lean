import Typeface.Client.Download

/-!
# Visits

A visit is a sequence of calls to the client.  It remembers the last release
that was found, which is the one that assets are downloaded from.
-/

namespace Typeface.Client

structure Visit where
  state : State
  current : Option Release

inductive Step
  | releasesUrl
  | fetchReleases
  | fetchRelease (tag : Value)
  | fetchVersion (version : Value)
  /-- Takes a release from elsewhere. -/
  | choose (value : Value)
  | download (name directory : Value)
  | close

inductive Answer
  | url (text : HostText)
  | releases (releases : List Release)
  | release (release : Release)
  | path (path : Path)
  | chosen
  | closed

namespace Visit

/-- What a step found becomes the current release. -/
def keep (visit : Visit) (found : Except Failure Release × State) :
    Except Failure Answer × Visit :=
  match found with
  | (.ok release, state) => (.ok (.release release), { state, current := some release })
  | (.error failure, state) => (.error failure, { visit with state })

def step (settings : ClientSettings) (visit : Visit) : Step → Except Failure Answer × Visit
  | .releasesUrl => (.ok (.url settings.releasesUrl), visit)
  | .fetchReleases =>
    match Client.fetchReleases settings visit.state with
    | (outcome, state) => (outcome.map .releases, { visit with state })
  | .fetchRelease tag => visit.keep (Client.fetchRelease settings tag visit.state)
  | .fetchVersion version => visit.keep (Client.fetchVersion settings version visit.state)
  | .choose value =>
    match (Release.ofValue value).orFail with
    | .ok release => (.ok .chosen, { visit with current := some release })
    | .error failure => (.error failure, visit)
  | .download name directory =>
    match visit.current with
    | none => (Failure.ofMishap .noSuchAttribute, visit)
    | some release =>
      match Client.download settings release name directory visit.state with
      | (outcome, state) => (outcome.map .path, { visit with state })
  | .close => (.ok .closed, { visit with state := visit.state.close })

/-- The outcome of each step, with the visit before and after it. -/
def run (settings : ClientSettings) (visit : Visit) :
    List Step → List (Except Failure Answer × Visit × Visit)
  | [] => []
  | first :: rest =>
    let (outcome, after) := visit.step settings first
    (outcome, visit, after) :: run settings after rest

end Visit

end Typeface.Client
