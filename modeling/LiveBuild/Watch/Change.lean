import LiveBuild.Path.Basic

/-!
# Changes of files
-/

namespace LiveBuild

inductive Change where
  | created
  | modified
  | removed
deriving DecidableEq, Repr, Inhabited

namespace Change

def needsBuild : Change → Bool
  | created => true
  | modified => true
  | removed => false

def name : Change → String
  | created => "created"
  | modified => "modified"
  | removed => "removed"

end Change

structure PathChange where
  path : Path
  kind : Change
deriving DecidableEq, Repr, Inhabited

/-- What a file system reports about a path. -/
inductive FileNotice where
  | create
  | remove
  | modify
  | metadata
  | access
  | other
deriving DecidableEq, Repr

/-- Accesses and changes of metadata leave a file as it was. -/
def FileNotice.change? : FileNotice → Option Change
  | create => some .created
  | remove => some .removed
  | modify => some .modified
  | metadata => none
  | access => none
  | other => none

/-- Backups and swap files of editors, and hidden files. -/
def Path.isTemporary (p : Path) : Bool :=
  let name := (p.fileName?.getD "").toList
  let extension := p.extension?.getD ""
  ["bck", "bak", "backup", "swp", "swo", "tmp"].contains extension ||
    name.getLast? == some '~' || name.head? == some '.'

end LiveBuild
