import LiveBuild.Build.Session
import LiveBuild.Watch.Sources

/-!
# Watch sessions

A watch session makes one request for its entries and then rebuilds what changes. It serves four
sources of work, in any order: events of the build, changes of files, the end of a window of time,
and finished rebuilds.
-/

namespace LiveBuild

structure WatchSession where
  /-- Where the events of the session's own calls go. -/
  addressee : Addressee
  sources : WatchedSources
  events : List BuildEvent := []
  changes : List PathChange := []
  /-- The rebuilds that were started and not taken in yet: the call of each, and its path. -/
  rebuilds : List (Nat × Path) := []
  /-- Those of them that are over. -/
  rebuilt : List Nat := []
  isRunning : Bool := true
deriving Inhabited

/-- What a watch session lets others know. -/
structure WatchNotice where
  event : BuildEvent
  stale : List Path
  /-- The source that was handed to the watcher and accepted by it, if any. -/
  watched : Option Path
deriving Inhabited

namespace WatchSession

variable {σ : Type} [FileStore σ]

/-- Begin: the request for the entries is made at once and not waited for. -/
def start (build : BuildSession σ) (addressee : Addressee) (window : Nat) (entries : List Path) :
    BuildSession σ × WatchSession × Nat :=
  let (build, call) := build.call addressee (.compile entries)
  (build, { addressee, sources := .start addressee.id window }, call)

def rebuild (w : WatchSession) (build : BuildSession σ) : List Path → BuildSession σ × WatchSession
  | [] => (build, w)
  | path :: rest =>
      let (build, call) := build.call w.addressee (.rebuild path)
      rebuild { w with rebuilds := w.rebuilds ++ [(call, path)] } build rest

def takeEvent? (w : WatchSession) (store : σ) (accepts : Path → Bool) :
    Option (WatchSession × WatchNotice) :=
  match w.events with
  | [] => none
  | event :: events =>
      let sources := w.sources.noteEvent store accepts event
      let watched := (WatchedSources.subject? event).filter fun source =>
        sources.watched.contains source && !w.sources.watched.contains source
      some ({ w with events, sources }, ⟨event, WatchedSources.staleModules event, watched⟩)

def takeChange? (w : WatchSession) (now : Nat) : Option WatchSession :=
  match w.changes with
  | [] => none
  | change :: changes =>
      some { w with changes, sources := w.sources.noteChange change now }

/-- Act on the end of a window, if one is over. -/
def takeDeadline? (w : WatchSession) (build : BuildSession σ) (now : Nat) :
    Option (BuildSession σ × WatchSession) :=
  match w.sources.pending.deadline? with
  | some deadline =>
      if deadline ≤ now then
        let (sources, due) := w.sources.endWindow build.store now
        some ({ w with sources }.rebuild build due)
      else
        none
  | none => none

def takeRebuilt? (w : WatchSession) (build : BuildSession σ) :
    Option (BuildSession σ × WatchSession) :=
  match w.rebuilt with
  | [] => none
  | call :: rebuilt =>
      match w.rebuilds.find? fun entry => entry.1 == call with
      | none => some (build, { w with rebuilt })
      | some (_, path) =>
          let rebuilds := w.rebuilds.filter fun entry => entry.1 != call
          let (sources, due) := w.sources.noteRebuilt build.store path
          some ({ w with rebuilt, rebuilds, sources }.rebuild build due)

/-- Note that a call has ended; a rebuild that broke down is never taken in. -/
def endRebuild (w : WatchSession) (call : Nat) (isWhole : Bool) : WatchSession :=
  if w.rebuilds.any fun entry => entry.1 == call then
    if isWhole then { w with rebuilt := w.rebuilt ++ [call] }
    else { w with rebuilds := w.rebuilds.filter fun entry => entry.1 != call }
  else w

/-- End: rebuilds that are still going on are dropped where they are. -/
def stop (w : WatchSession) (build : BuildSession σ) : BuildSession σ × WatchSession :=
  (w.rebuilds.foldl (fun build entry => build.abort entry.1) build,
    { w with isRunning := false, events := [], changes := [], rebuilds := [], rebuilt := [] })

end WatchSession

end LiveBuild
