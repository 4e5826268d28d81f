import LiveBuild.Build.Options
import LiveBuild.Files.Basic

/-!
# Walks through directories

A walk finds the files below a directory. It passes over names that begin with a dot and over what
is excluded.
-/

namespace LiveBuild.Walk

variable {σ : Type} [FileStore σ]

def isHidden (p : Path) : Bool :=
  match p.fileName? with
  | some name => name.toList.head? == some '.'
  | none => true

/-- Whether a walk passes over a directory's entry. -/
def isSkipped (o : BuildOptions) (p : Path) : Bool :=
  isHidden p ||
    match p.relativeTo? o.baseDir with
    | some rest => o.excludes rest
    | none => false

/-- The files found so far together with those in the given directories and below them; `fuel`
bounds the number of directories. -/
def collect (store : σ) (o : BuildOptions) : Nat → List Path → List Path →
    Except BuildError (List Path)
  | _, found, [] => .ok found
  | 0, found, _ => .ok found
  | fuel + 1, found, directory :: others => do
      let entries ← (FileStore.list store directory).mapError fun f =>
        BuildError.io directory f.oneLine
      let (directories, files) := (entries.filter fun p => !isSkipped o p).partition
        (FileStore.isDirectory store)
      collect store o fuel (found ++ files) (directories.reverse ++ others)

def files (store : σ) (o : BuildOptions) (directory : Path) : Except BuildError (List Path) :=
  (collect store o (FileStore.size store + 1) [] [directory]).map Path.sort

end LiveBuild.Walk
