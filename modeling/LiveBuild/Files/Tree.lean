import LiveBuild.Files.Basic
import LiveBuild.Path.Map
import LiveBuild.Text.Quoted
import LiveBuild.Text.Utf8

/-!
# Trees in memory

A tree is a table from paths to entries, where a directory lists the names in it. Putting a file or
directory in makes the directories above it, and links each into the one above unless that place is
taken by a file.
-/

namespace LiveBuild

inductive FileTree.Entry where
  | file (content : ByteArray)
  | directory (names : List String)
deriving Inhabited

structure FileTree where
  entries : PathMap FileTree.Entry
deriving Inhabited

namespace FileTree

def empty : FileTree := ⟨PathMap.empty.insert (Path.ofString ".") (.directory [])⟩

/-- The directory that lists a path; a path of one name is listed by the current directory. -/
def directoryOf? (p : Path) : Option Path :=
  p.parent?.bind fun parent =>
    let parent := if parent.isEmpty then Path.ofString "." else parent
    if parent.same p then none else some parent

def ancestorsWithin : Nat → Path → List Path
  | 0, _ => []
  | n + 1, p =>
      match directoryOf? p with
      | none => []
      | some directory => directory :: ancestorsWithin n directory

def ancestors (p : Path) : List Path := ancestorsWithin (p.components.length + 1) p

def Entry.addName (name? : Option String) : Entry → Entry
  | .file content => .file content
  | .directory names =>
      match name? with
      | none => .directory names
      | some name => if names.contains name then .directory names else .directory (names ++ [name])

/-- Link a path into the nearest of the directories above it, making those that are missing. -/
def attach (tree : FileTree) (p : Path) : List Path → FileTree
  | [] => tree
  | parent :: above =>
      let tree :=
        if tree.entries.contains parent then tree
        else attach ⟨tree.entries.insert parent (.directory [])⟩ parent above
      ⟨tree.entries.modify parent (Entry.addName p.fileName?)⟩

def putFile (tree : FileTree) (p : Path) (content : ByteArray) : FileTree :=
  attach ⟨tree.entries.insert p (.file content)⟩ p (ancestors p)

def putDirectory (tree : FileTree) (p : Path) : FileTree :=
  if tree.entries.contains p then tree
  else attach ⟨tree.entries.insert p (.directory [])⟩ p (ancestors p)

def content? (tree : FileTree) (p : Path) : Option ByteArray :=
  match tree.entries.get? p with
  | some (.file content) => some content
  | _ => none

def textContent? (tree : FileTree) (p : Path) : Option String :=
  (tree.content? p).bind fun content => (Utf8.decode content).toOption

def filesBelow (tree : FileTree) (directory : Path) : List Path :=
  Path.sort (tree.entries.entries.filterMap fun entry =>
    match entry.2 with
    | .file _ => if entry.1.startsWith directory then some entry.1 else none
    | .directory _ => none)

def kindOf? (tree : FileTree) (p : Path) : Option FileKind :=
  (tree.entries.get? p).map fun
    | .file _ => .file
    | .directory _ => .directory

def read (tree : FileTree) (p : Path) : Except Failure ByteArray :=
  match tree.entries.get? p with
  | some (.file content) => .ok content
  | some (.directory _) => .error ⟨"Is a directory: " ++ Text.quoted p.text, []⟩
  | none => .error ⟨"File not found: " ++ Text.quoted p.text, []⟩

def readText (tree : FileTree) (p : Path) : Except Failure String := do
  let content ← tree.read p
  match Utf8.decode content with
  | .ok text => .ok text
  | .error e => .error ⟨"Invalid UTF-8 in " ++ Text.quoted p.text ++ ": " ++ e.message, []⟩

def list (tree : FileTree) (p : Path) : Except Failure (List Path) :=
  match tree.entries.get? p with
  | some (.directory names) => .ok (Path.sort (names.map fun name => p.join (Path.ofString name)))
  | _ => .error ⟨"Not a directory or not found: " ++ Text.quoted p.text, []⟩

instance : FileStore FileTree where
  size tree := tree.entries.size
  kindOf? := kindOf?
  read := read
  readText := readText
  write tree p content := (tree.putFile p content, .ok ())
  list := list
  canonicalize _ p := .ok p

end FileTree

end LiveBuild
