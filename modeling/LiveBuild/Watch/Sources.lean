import LiveBuild.Build.Event
import LiveBuild.Digest
import LiveBuild.Watch.Pending

/-!
# Watched sources

What a watch session knows of its sources decides which built modules are stale and which changed
sources are built again. A source is watched once an event names it. While a source is being
rebuilt, further changes of it are remembered as one. A source with the content of its last good
build is not built again.
-/

namespace LiveBuild

structure WatchedSources where
  /-- The number of the request that started the session. -/
  requestId : Nat
  pending : PendingChanges
  watched : PathSet := {}
  /-- The digest of each source as of its last good build. -/
  hashes : PathMap String := {}
  /-- The digest that a source had when its rebuild was scheduled. -/
  scheduled : PathMap String := {}
  rebuilding : PathSet := {}
  /-- Sources that changed again while they were being rebuilt. -/
  again : PathSet := {}
deriving Inhabited

namespace WatchedSources

def start (requestId window : Nat) : WatchedSources := { requestId, pending := { window } }

/-- The modules that an event makes stale: what was built, and all that import it. -/
def staleModules : BuildEvent → List Path
  | .fileBuilt _ dest _ parents => dest :: parents
  | _ => []

/-- The source that an event names, which is to be watched from then on. -/
def subject? : BuildEvent → Option Path
  | .fileBuilt source _ _ _ => some source
  | .error source? _ _ => source?
  | .built _ => none

def watch (s : WatchedSources) (accepts : Path → Bool) (source : Path) : WatchedSources :=
  if s.watched.contains source || !accepts source then s
  else { s with watched := s.watched.insert source }

/-- Record a good build: its digest is the one taken when it was scheduled, or else that of the file
as it is now. -/
def noteBuilt {σ : Type} [FileStore σ] (s : WatchedSources) (store : σ) (source : Path) :
    WatchedSources :=
  match s.scheduled.get? source with
  | some hash =>
      { s with scheduled := s.scheduled.erase source, hashes := s.hashes.insert source hash }
  | none =>
      match Digest.ofFile store source with
      | .ok hash => { s with hashes := s.hashes.insert source hash }
      | .error _ => s

/-- Forget the digest of a source that failed: the cause may lie outside of it. -/
def forget (s : WatchedSources) (source : Path) : WatchedSources :=
  { s with hashes := s.hashes.erase source, scheduled := s.scheduled.erase source }

def noteEvent {σ : Type} [FileStore σ] (s : WatchedSources) (store : σ) (accepts : Path → Bool) :
    BuildEvent → WatchedSources
  | .fileBuilt source _ _ _ => (s.watch accepts source).noteBuilt store source
  | .error (some source) _ _ => (s.watch accepts source).forget source
  | _ => s

/-- Take in a change; changes of sources that are not watched do not count. -/
def noteChange (s : WatchedSources) (change : PathChange) (now : Nat) : WatchedSources :=
  if s.watched.contains change.path then
    { s with pending := s.pending.add change.path change.kind now }
  else
    s

/-- Ask for a rebuild of a source; the answer says whether one is to be started. -/
def claim {σ : Type} [FileStore σ] (s : WatchedSources) (store : σ) (path : Path) :
    WatchedSources × Bool :=
  if s.rebuilding.contains path then
    ({ s with again := s.again.insert path }, false)
  else
    match Digest.ofFile store path with
    | .ok hash =>
        if s.hashes.get? path = some hash then
          (s, false)
        else
          ({ s with
            scheduled := s.scheduled.insert path hash
            rebuilding := s.rebuilding.insert path }, true)
    | .error _ => ({ s with rebuilding := s.rebuilding.insert path }, true)

/-- Ask for rebuilds of several sources; the answer holds those that are to be started. -/
def claimAll {σ : Type} [FileStore σ] (s : WatchedSources) (store : σ) :
    List Path → WatchedSources × List Path
  | [] => (s, [])
  | path :: rest =>
      let (s, isDue) := s.claim store path
      let (s, due) := s.claimAll store rest
      (s, if isDue then path :: due else due)

def endWindow {σ : Type} [FileStore σ] (s : WatchedSources) (store : σ) (now : Nat) :
    WatchedSources × List Path :=
  let (pending, ready) := s.pending.release now
  let changed := (ready.filter fun entry => entry.2.needsBuild).map (·.1)
  { s with pending }.claimAll store changed

/-- Take in the end of a rebuild. If its source changed meanwhile, it is scheduled once more. -/
def noteRebuilt {σ : Type} [FileStore σ] (s : WatchedSources) (store : σ) (path : Path) :
    WatchedSources × List Path :=
  let isAgain := s.again.contains path
  let s := { s with rebuilding := s.rebuilding.erase path, again := s.again.erase path }
  if isAgain then s.claimAll store [path] else (s, [])

def shown (paths : PathSet) : String :=
  "\x7b" ++ ", ".intercalate (paths.items.map fun p => Text.quoted p.text) ++ "\x7d"

def description (s : WatchedSources) : String :=
  "Invalidator \x7b request_id: " ++ toString s.requestId ++ ", watched: " ++ shown s.watched ++
    ", in_flight: " ++ shown s.rebuilding ++ " \x7d"

end WatchedSources

end LiveBuild
