import LiveBuild.Files.Edit
import LiveBuild.Watch.Change

/-!
# Watching directories

A watcher that is given a path watches the directory of that path, not what lies deeper. So a file
that is replaced by another one goes on being watched. What happens in a watched directory is
reported as changes of paths below the spelling that the watcher was given, leaving out temporary
files.
-/

namespace LiveBuild

structure DirectoryWatcher where
  /-- The watched places, each with its spelling. -/
  watches : List (Disk.Place × Path) := []
  /-- The directories in the spellings that were asked for. -/
  directories : List Path := []
deriving Inhabited

namespace DirectoryWatcher

def directoryOf (p : Path) : Path := (p.parent?).getD p

/-- Why a directory cannot be watched. -/
def refusal (directory : Path) (e : DiskError) : Failure :=
  let reason := match e with
    | .missing => "No path was found."
    | e => e.message
  let shown := Text.quoted directory.text
  ⟨"watching " ++ shown, [reason ++ " about [" ++ shown ++ "]"]⟩

/-- Watch the directory of a path, unless it is watched already. -/
def watch (w : DirectoryWatcher) (disk : Disk) (p : Path) :
    DirectoryWatcher × Except Failure Unit :=
  let directory := directoryOf p
  if w.directories.any directory.same then (w, .ok ())
  else
    match disk.locate directory with
    | .error e => (w, .error (refusal directory e))
    | .ok place =>
        (⟨(w.watches.filter fun entry => entry.1 != place) ++ [(place, directory)],
          w.directories ++ [directory]⟩, .ok ())

def canWatch (disk : Disk) (p : Path) : Bool :=
  match disk.locate (directoryOf p) with
  | .ok _ => true
  | .error _ => false

/-- The path under which a place is reported, if its directory or the place itself is watched. -/
def pathOf? (w : DirectoryWatcher) (place : Disk.Place) : Option Path :=
  let inDirectory := do
    let name ← place.getLast?
    let (_, directory) ← w.watches.find? fun entry => entry.1 == place.dropLast
    return directory.join (Path.ofString name)
  inDirectory <|> (w.watches.find? fun entry => entry.1 == place).map (·.2)

/-- The paths that an event is about, each with what is noticed there. A move within watched
directories is noticed at either end, and then once more as a whole. -/
def notices (w : DirectoryWatcher) : Disk.Event → List (Path × FileNotice)
  | .created place => (w.pathOf? place).toList.map (·, .create)
  | .modified place => (w.pathOf? place).toList.map (·, .modify)
  | .removed place => (w.pathOf? place).toList.map (·, .remove)
  | .touched place => (w.pathOf? place).toList.map (·, .metadata)
  | .moved source target =>
      let ends := (w.pathOf? source).toList ++ (w.pathOf? target).toList
      (if ends.length = 2 then ends ++ ends else ends).map (·, .modify)

def changes (w : DirectoryWatcher) (e : Disk.Event) : List PathChange :=
  (w.notices e).filterMap fun (path, notice) =>
    if path.isTemporary then none else notice.change?.map fun kind => ⟨path, kind⟩

def description (w : DirectoryWatcher) : String :=
  "NotifyWatcher \x7b dirs: \x7b" ++
    ", ".intercalate (w.directories.map fun p => Text.quoted p.text) ++ "\x7d \x7d"

end DirectoryWatcher

end LiveBuild
