import LiveBuild.Path.Basic

/-!
Finite tables and ordered sets keyed by the places that paths name. A key keeps the spelling under
which it was first put in.
-/

namespace LiveBuild

structure PathMap (α : Type) where
  entries : List (Path × α) := []
deriving Inhabited

namespace PathMap

variable {α : Type}

def empty : PathMap α := {}

def find? (m : PathMap α) (p : Path) : Option (Path × α) :=
  m.entries.find? fun entry => entry.1.same p

def get? (m : PathMap α) (p : Path) : Option α := (m.find? p).map (·.2)

def contains (m : PathMap α) (p : Path) : Bool := (m.find? p).isSome

/-- Put a value under a place: in the entry that is there, else in a new last entry. -/
def insert (m : PathMap α) (p : Path) (value : α) : PathMap α :=
  if m.contains p then
    { entries := m.entries.map fun entry =>
        if entry.1.same p then (entry.1, value) else entry }
  else
    { entries := m.entries ++ [(p, value)] }

def modify (m : PathMap α) (p : Path) (f : α → α) : PathMap α :=
  { entries := m.entries.map fun entry =>
      if entry.1.same p then (entry.1, f entry.2) else entry }

def erase (m : PathMap α) (p : Path) : PathMap α :=
  { entries := m.entries.filter fun entry => !entry.1.same p }

def size (m : PathMap α) : Nat := m.entries.length

def isEmpty (m : PathMap α) : Bool := m.entries.isEmpty

def keys (m : PathMap α) : List Path := m.entries.map (·.1)

end PathMap

structure PathSet where
  items : List Path := []
deriving Inhabited, DecidableEq

namespace PathSet

def empty : PathSet := {}

def contains (s : PathSet) (p : Path) : Bool := s.items.any (·.same p)

/-- Insertion into an ordered list; a place that is there already stays as it is spelled. -/
def insertOrdered (p : Path) : List Path → List Path
  | [] => [p]
  | q :: rest =>
      match compare p.components q.components with
      | .lt => p :: q :: rest
      | .eq => q :: rest
      | .gt => q :: insertOrdered p rest

def insert (s : PathSet) (p : Path) : PathSet := { items := insertOrdered p s.items }

def erase (s : PathSet) (p : Path) : PathSet := { items := s.items.filter fun q => !q.same p }

def union (s t : PathSet) : PathSet := t.items.foldl insert s

def isEmpty (s : PathSet) : Bool := s.items.isEmpty

def ofList (paths : List Path) : PathSet := paths.foldl insert empty

end PathSet

end LiveBuild
