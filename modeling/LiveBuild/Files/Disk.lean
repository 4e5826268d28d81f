import LiveBuild.Files.Basic
import LiveBuild.Text.Quoted
import LiveBuild.Text.Utf8

/-!
# Disks

A disk holds files and directories at absolute places and has a working directory. Unlike a tree in
memory it takes a path apart piece by piece, the way an operating system does: every piece, also an
empty one or a dot, needs a directory in front of it, and two dots lead back up.
-/

namespace LiveBuild

/-- The answers of an operating system that refuses a request. -/
inductive DiskError where
  | missing
  | taken
  | notDirectory
  | isDirectory
  | nameTooLong
  | nulInName
  | notText
deriving DecidableEq, Repr, Inhabited

def DiskError.message : DiskError → String
  | missing => "No such file or directory (os error 2)"
  | taken => "File exists (os error 17)"
  | notDirectory => "Not a directory (os error 20)"
  | isDirectory => "Is a directory (os error 21)"
  | nameTooLong => "File name too long (os error 36)"
  | nulInName => "file name contained an unexpected NUL byte"
  | notText => "stream did not contain valid UTF-8"

def DiskError.failure (e : DiskError) : Failure := ⟨e.message, []⟩

/-- The names that lead from the root to a place. -/
abbrev Disk.Place := List String

inductive Disk.Entry where
  | file (content : ByteArray)
  | directory
deriving Inhabited

structure Disk where
  entries : List (Disk.Place × Disk.Entry) := []
  working : Disk.Place := []
deriving Inhabited

namespace Disk

def entry? (disk : Disk) (place : Place) : Option Entry :=
  if place.isEmpty then some .directory
  else (disk.entries.find? fun entry => entry.1 == place).map (·.2)

def put (disk : Disk) (place : Place) (entry : Entry) : Disk :=
  if disk.entries.any fun old => old.1 == place then
    { disk with entries := disk.entries.map fun old =>
        if old.1 == place then (place, entry) else old }
  else
    { disk with entries := disk.entries ++ [(place, entry)] }

def drop (disk : Disk) (place : Place) : Disk :=
  { disk with entries := disk.entries.filter fun old => !place.isPrefixOf old.1 }

/-- Move a place and everything below it, over whatever is at the new place. -/
def move (disk : Disk) (source target : Place) : Disk :=
  let disk := if source == target then disk else disk.drop target
  { disk with entries := disk.entries.map fun old =>
      if source.isPrefixOf old.1 then (target ++ old.1.drop source.length, old.2) else old }

def directoryAt (disk : Disk) (place : Place) : Except DiskError Unit :=
  match disk.entry? place with
  | some .directory => .ok ()
  | some (.file _) => .error .notDirectory
  | none => .error .missing

/-- Follow one piece of a path from a place that has to be a directory. -/
def step (disk : Disk) (place : Place) (piece : List Char) : Except DiskError Place := do
  disk.directoryAt place
  match piece with
  | [] => return place
  | ['.'] => return place
  | ['.', '.'] => return place.dropLast
  | _ =>
      let name := String.ofList piece
      if 255 < name.utf8ByteSize then
        throw .nameTooLong
      let next := place ++ [name]
      if (disk.entry? next).isSome then return next else throw .missing

def follow (disk : Disk) (place : Place) (pieces : List (List Char)) : Except DiskError Place :=
  pieces.foldlM disk.step place

/-- Where the pieces of a path begin, and what they are. -/
def start (disk : Disk) (p : Path) : Except DiskError (Place × List (List Char)) :=
  if p.isEmpty then .error .missing
  else if p.text.toList.any (· == '\x00') then .error .nulInName
  else if 4095 < p.text.utf8ByteSize then .error .nameTooLong
  else
    match p.text.toList with
    | '/' :: rest => .ok ([], Path.pieces rest)
    | text => .ok (disk.working, Path.pieces text)

def locate (disk : Disk) (p : Path) : Except DiskError Place := do
  let (place, pieces) ← disk.start p
  disk.follow place pieces

/-- A path as seen from its parent: the parent's place, the last name, and whether slashes follow
it. A path that ends in dots or has no name leads to a directory that exists already. -/
inductive Target where
  | name (parent : Place) (name : String) (slash : Bool)
  | existing (place : Place)
deriving Repr

def target (disk : Disk) (p : Path) : Except DiskError Target := do
  let (place, pieces) ← disk.start p
  let trailing := pieces.reverse.takeWhile (·.isEmpty)
  match pieces.reverse.dropWhile (·.isEmpty) with
  | [] => return .existing place
  | last :: before =>
      if last = ['.'] ∨ last = ['.', '.'] then
        return .existing (← disk.follow place pieces)
      else
        let parent ← disk.follow place before.reverse
        disk.directoryAt parent
        let name := String.ofList last
        if 255 < name.utf8ByteSize then
          throw .nameTooLong
        return .name parent name (!trailing.isEmpty)

def makeDirectory (disk : Disk) (p : Path) : Except DiskError Disk := do
  match ← disk.target p with
  | .existing _ => throw .taken
  | .name parent name _ =>
      let place := parent ++ [name]
      if (disk.entry? place).isSome then throw .taken else return disk.put place .directory

def isDirectory (disk : Disk) (p : Path) : Bool :=
  match disk.locate p with
  | .ok place => match disk.entry? place with
      | some .directory => true
      | _ => false
  | .error _ => false

def makeDirectories : Nat → Disk → Path → Disk × Except DiskError Unit
  | 0, disk, _ => (disk, .error .missing)
  | n + 1, disk, p =>
      if p.isEmpty then
        (disk, .ok ())
      else
        match disk.makeDirectory p with
        | .ok disk => (disk, .ok ())
        | .error .missing =>
            match p.parent? with
            | none => (disk, .error .missing)
            | some parent =>
                match makeDirectories n disk parent with
                | (disk, .error e) => (disk, .error e)
                | (disk, .ok ()) =>
                    match disk.makeDirectory p with
                    | .ok disk => (disk, .ok ())
                    | .error e => (disk, if disk.isDirectory p then .ok () else .error e)
        | .error e => (disk, if disk.isDirectory p then .ok () else .error e)

def fill (disk : Disk) (p : Path) (content : ByteArray) : Except DiskError Disk := do
  match ← disk.target p with
  | .existing _ => throw .isDirectory
  | .name parent name slash =>
      if slash then
        throw .isDirectory
      let place := parent ++ [name]
      match disk.entry? place with
      | some .directory => throw .isDirectory
      | _ => return disk.put place (.file content)

def kindOf? (disk : Disk) (p : Path) : Option FileKind :=
  match disk.locate p with
  | .ok place => (disk.entry? place).map fun
      | .file _ => .file
      | .directory => .directory
  | .error _ => none

def content (disk : Disk) (p : Path) : Except DiskError ByteArray := do
  match disk.entry? (← disk.locate p) with
  | some (.file content) => return content
  | some .directory => throw .isDirectory
  | none => throw .missing

def text (disk : Disk) (p : Path) : Except DiskError String := do
  match Utf8.decode (← disk.content p) with
  | .ok text => return text
  | .error _ => throw .notText

def attempt (verb : String) (p : Path) : String := verb ++ " " ++ Text.quoted p.text

def read (disk : Disk) (p : Path) : Except Failure ByteArray :=
  match disk.content p with
  | .ok content => .ok content
  | .error e => .error (e.failure.within (attempt "reading file" p))

def readText (disk : Disk) (p : Path) : Except Failure String :=
  match disk.text p with
  | .ok text => .ok text
  | .error e => .error (e.failure.within (attempt "reading file" p))

def namesIn (disk : Disk) (place : Place) : List String :=
  disk.entries.filterMap fun entry =>
    if entry.1.dropLast == place then entry.1.getLast? else none

def list (disk : Disk) (p : Path) : Except Failure (List Path) :=
  let names : Except DiskError (List String) := do
    let place ← disk.locate p
    disk.directoryAt place
    return disk.namesIn place
  match names with
  | .ok names => .ok (Path.sort (names.map fun name => p.join (Path.ofString name)))
  | .error e => .error (e.failure.within (attempt "reading dir" p))

def pathOf (place : Place) : Path := Path.ofComponents (.root :: place.map .name)

def canonicalize (disk : Disk) (p : Path) : Except Failure Path :=
  match disk.locate p with
  | .ok place => .ok (pathOf place)
  | .error e => .error (e.failure.within (attempt "canonicalizing" p))

def write (disk : Disk) (p : Path) (content : ByteArray) : Disk × Except Failure Unit :=
  let (disk, made) : Disk × Except Failure Unit :=
    match p.parent? with
    | none => (disk, .ok ())
    | some parent =>
        match makeDirectories (parent.components.length + 1) disk parent with
        | (disk, .ok ()) => (disk, .ok ())
        | (disk, .error e) => (disk, .error (e.failure.within (attempt "creating dir" parent)))
  match made with
  | .error e => (disk, .error e)
  | .ok () =>
      match disk.fill p content with
      | .ok disk => (disk, .ok ())
      | .error e => (disk, .error (e.failure.within (attempt "creating file" p)))

instance : FileStore Disk where
  size disk := disk.entries.length + 1
  kindOf? := kindOf?
  read := read
  readText := readText
  write := write
  list := list
  canonicalize := canonicalize

/-- All files with their places, in the order of the disk. -/
def files (disk : Disk) : List (Place × ByteArray) :=
  disk.entries.filterMap fun entry =>
    match entry.2 with
    | .file content => some (entry.1, content)
    | .directory => none

end Disk

end LiveBuild
