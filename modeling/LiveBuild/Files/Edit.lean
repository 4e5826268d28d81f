import LiveBuild.Files.Disk

/-!
# Edits of a disk

What other programs do to the files of a disk, and what the operating system tells of it to those
who watch. An edit that the disk refuses changes nothing and is not told of.
-/

namespace LiveBuild

namespace Disk

inductive Edit where
  | write (path : Path) (content : ByteArray)
  | append (path : Path) (content : ByteArray)
  /-- Move a file, over the one that may be at its new place. -/
  | rename (source target : Path)
  | remove (path : Path)
  | makeDirectory (path : Path)
  | removeDirectory (path : Path)
  | changeMode (path : Path)
  | read (path : Path)
deriving Inhabited

inductive Event where
  | created (place : Place)
  | modified (place : Place)
  | removed (place : Place)
  /-- Something about the place that leaves its content as it is. -/
  | touched (place : Place)
  | moved (source target : Place)
deriving DecidableEq, Repr, Inhabited

/-- A path to a name that is there or can be put there. -/
def placeFor (disk : Disk) (p : Path) : Except DiskError Place := do
  match ← disk.target p with
  | .existing place => return place
  | .name parent name _ => return parent ++ [name]

def isFileAt (disk : Disk) (place : Place) : Bool :=
  match disk.entry? place with
  | some (.file _) => true
  | _ => false

/-- The events of filling a file: an existing one is emptied first, also if it is empty already. -/
def writeEvents (disk : Disk) (place : Place) (content : ByteArray) : List Event :=
  if disk.isFileAt place || !content.isEmpty then
    (if disk.isFileAt place then [] else [.created place]) ++ [.modified place]
  else
    [.created place]

def write? (disk : Disk) (p : Path) (content : ByteArray) :
    Except DiskError (Disk × List Event) := do
  let place ← disk.placeFor p
  return (← disk.fill p content, disk.writeEvents place content)

def append? (disk : Disk) (p : Path) (content : ByteArray) :
    Except DiskError (Disk × List Event) := do
  let place ← disk.placeFor p
  match disk.entry? place with
  | some (.file old) =>
      return (← disk.fill p (old ++ content), if content.isEmpty then [] else [.modified place])
  | _ => return (← disk.fill p content, disk.writeEvents place content)

def rename? (disk : Disk) (source target : Path) : Except DiskError (Disk × List Event) := do
  let source ← disk.locate source
  let target ← disk.placeFor target
  if (disk.entry? target matches some .directory) && disk.isFileAt source then
    throw .isDirectory
  return (disk.move source target, if source = target then [] else [.moved source target])

def remove? (disk : Disk) (p : Path) : Except DiskError (Disk × List Event) := do
  let place ← disk.locate p
  if disk.isFileAt place then
    return (disk.drop place, [.removed place])
  else
    throw .isDirectory

def removeDirectory? (disk : Disk) (p : Path) : Except DiskError (Disk × List Event) := do
  let place ← disk.locate p
  disk.directoryAt place
  if (disk.namesIn place).isEmpty && !place.isEmpty then
    return (disk.drop place, [.removed place])
  else
    throw .taken

def makeDirectory? (disk : Disk) (p : Path) : Except DiskError (Disk × List Event) := do
  let place ← disk.placeFor p
  return (← disk.makeDirectory p, [.created place])

def touch? (disk : Disk) (p : Path) : Except DiskError (Disk × List Event) := do
  return (disk, [.touched (← disk.locate p)])

def attemptEdit (disk : Disk) : Edit → Except DiskError (Disk × List Event)
  | .write path content => disk.write? path content
  | .append path content => disk.append? path content
  | .rename source target => disk.rename? source target
  | .remove path => disk.remove? path
  | .makeDirectory path => disk.makeDirectory? path
  | .removeDirectory path => disk.removeDirectory? path
  | .changeMode path => disk.touch? path
  | .read path => disk.touch? path

/-- The disk after an edit, and what is told of it. -/
def edit (disk : Disk) (e : Edit) : Disk × List Event :=
  match disk.attemptEdit e with
  | .ok result => result
  | .error _ => (disk, [])

end Disk

end LiveBuild
