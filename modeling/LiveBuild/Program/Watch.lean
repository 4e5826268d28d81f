import LiveBuild.Json.Printer
import LiveBuild.Program.Basic
import LiveBuild.Service.Action
import LiveBuild.Watch.Directory

/-!
# Runs that watch

A run that watches makes one request to a worker and goes on for as long as it is let. Meanwhile
files are edited and time goes by; every event of the request is printed as one line.
-/

namespace LiveBuild

structure WatchRun where
  service : Service Disk
  watcher : DirectoryWatcher := {}
  output : List String := []

def BuildEvent.line (event : BuildEvent) : String := event.toJson.compact

namespace WatchRun

def disk (w : WatchRun) : Disk := w.service.build.store

def itemLines : Service.Item → List String
  | .event event => [event.line]
  | .response _ => []

/-- Go on until nothing can move; print what has arrived, and watch what is to be watched. -/
def turn (w : WatchRun) : WatchRun :=
  let (service, seen) := w.service.rest.observe
  { service
    watcher := seen.watched.foldl
      (fun watcher path => (watcher.watch service.build.store path).1) w.watcher
    output := w.output ++ seen.streams.flatMap fun (_, items, _) => items.flatMap itemLines }

def start (build : BuildSession Disk) (window : Nat) (files : List Path) : WatchRun :=
  let service := { Service.start build window with canWatch := DirectoryWatcher.canWatch }
  let service := service.connect (.live (some (.single false)) true) false
  turn { service := (service.request .watch files).1 }

def edit (w : WatchRun) (e : Disk.Edit) : WatchRun :=
  let (disk, events) := w.disk.edit e
  let service := { w.service with build := { w.service.build with store := disk } }
  turn { w with service := service.change (events.flatMap w.watcher.changes) }

def wait (w : WatchRun) (duration : Nat) : WatchRun :=
  turn { w with service := w.service.advance duration }

end WatchRun

end LiveBuild
