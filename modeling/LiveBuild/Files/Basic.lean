import LiveBuild.Failure
import LiveBuild.Path.Basic

/-!
# Stores of files

What a build needs from the place where its sources and outputs live. A store is a value: writing
returns the store afterwards, also when the write failed half way.
-/

namespace LiveBuild

inductive FileKind where
  | file
  | directory
deriving DecidableEq, Repr, Inhabited

class FileStore (σ : Type) where
  /-- No fewer than there are directories. -/
  size : σ → Nat
  kindOf? : σ → Path → Option FileKind
  read : σ → Path → Except Failure ByteArray
  readText : σ → Path → Except Failure String
  write : σ → Path → ByteArray → σ × Except Failure Unit
  list : σ → Path → Except Failure (List Path)
  canonicalize : σ → Path → Except Failure Path

namespace FileStore

variable {σ : Type} [FileStore σ]

def exists? (store : σ) (p : Path) : Bool := (kindOf? store p).isSome

def isFile (store : σ) (p : Path) : Bool := kindOf? store p == some .file

def isDirectory (store : σ) (p : Path) : Bool := kindOf? store p == some .directory

end FileStore

end LiveBuild
