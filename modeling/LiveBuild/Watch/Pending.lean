import LiveBuild.Path.Map
import LiveBuild.Watch.Change

/-!
# Pending changes

A change is held back until its path has been quiet for a window of time, so that one save with
several changes is acted on once. Times are whole milliseconds and may run backwards, in which case
no time has passed.
-/

namespace LiveBuild

structure PendingChanges.Held where
  kind : Change
  lastSeen : Nat
deriving DecidableEq, Repr, Inhabited

structure PendingChanges where
  window : Nat
  held : PathMap PendingChanges.Held := {}
deriving Inhabited

namespace PendingChanges

/-- What two changes of one path amount to; a file that came and went never was. -/
def merge : Change → Change → Option Change
  | .removed, kind => some kind
  | .modified, .removed => some .removed
  | .created, .removed => none
  | kind, _ => some kind

/-- Record a change. It starts the window of its path anew. -/
def add (p : PendingChanges) (path : Path) (kind : Change) (now : Nat) : PendingChanges :=
  match p.held.get? path with
  | none => { p with held := p.held.insert path ⟨kind, now⟩ }
  | some old =>
      match merge old.kind kind with
      | some kind => { p with held := p.held.insert path ⟨kind, now⟩ }
      | none => { p with held := p.held.erase path }

def isReady (p : PendingChanges) (now : Nat) (held : Held) : Bool :=
  decide (p.window ≤ now - held.lastSeen)

def release (p : PendingChanges) (now : Nat) : PendingChanges × List (Path × Change) :=
  let (ready, waiting) := p.held.entries.partition fun entry => p.isReady now entry.2
  let ordered := ready.mergeSort fun a b => a.1.le b.1
  ({ p with held := ⟨waiting⟩ }, ordered.map fun entry => (entry.1, entry.2.kind))

def deadline? (p : PendingChanges) : Option Nat :=
  (p.held.entries.map fun entry => entry.2.lastSeen + p.window).min?

def holds (p : PendingChanges) (path : Path) : Bool := p.held.contains path

def size (p : PendingChanges) : Nat := p.held.size

def isEmpty (p : PendingChanges) : Bool := p.held.isEmpty

end PendingChanges

end LiveBuild
