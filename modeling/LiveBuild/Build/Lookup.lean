import LiveBuild.Build.Error
import LiveBuild.Files.Basic

/-!
# Looking up imports

A specifier is looked up from the importer's directory. With an extension it names one file; without
one it may leave out an extension, or the index file of a directory and its extension.
-/

namespace LiveBuild.Lookup

/-- What a specifier names, before any extension is tried. -/
def target (importer : Path) (specifier : String) : Path :=
  ((importer.parent?.getD (Path.ofString "")).join (Path.ofString specifier)).normalize

/-- The paths that a target can stand for, in the order in which they are tried. -/
def candidates (target : Path) (extensions : List String) : List Path :=
  if target.extension?.isSome then
    [target]
  else
    extensions.map target.append ++ extensions.map (target.join (Path.ofString "index")).append

def find {σ : Type} [FileStore σ] (store : σ) (importer : Path) (specifier : String)
    (extensions : List String) : Except BuildError Path :=
  match (candidates (target importer specifier) extensions).find? (FileStore.isFile store) with
  | some p => .ok p
  | none => .error (.resolution specifier importer)

/-- The path below a root, with forward slashes; where the spellings do not tell, the places they
lead to are compared. -/
def relativeText? {σ : Type} [FileStore σ] (store : σ) (root p : Path) : Option String :=
  match p.relativeTo? root with
  | some rest => some rest.slashed
  | none =>
      match FileStore.canonicalize store root, FileStore.canonicalize store p with
      | .ok root, .ok p => (p.relativeTo? root).map Path.slashed
      | _, _ => none

end LiveBuild.Lookup
