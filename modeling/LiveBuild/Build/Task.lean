import LiveBuild.Build.Event
import LiveBuild.Build.Register
import LiveBuild.Build.SourceTransform

/-!
# Tasks of a build session

A call on a session is carried out by a task, which may start further tasks and wait for them. What
a task does next is its stage; between two stages anything else may happen.
-/

namespace LiveBuild

/-- A code file that is being built, and where its output goes. -/
structure BuildJob where
  source : Path
  dest : Path
deriving DecidableEq, Repr, Inhabited

inductive BuildTask.Stage where
  | claim (path : Path)
  /-- Look at a path, on behalf of the target that imports it, if any. -/
  | visit (path : Path) (requester : Option Path)
  | read (job : BuildJob)
  | transform (job : BuildJob) (text : String)
  /-- Find the imports of a transformed file, and start a task for each. -/
  | lookUp (job : BuildJob) (output : SourceOutput)
  /-- Wait for the tasks it started; for a file, its code is written then. -/
  | gather (pending : Option (BuildJob × String))
  | write (job : BuildJob) (code : String) (locals : Nat)
  /-- Tell the register and all subscribers how a build ended. -/
  | finish (job : BuildJob) (result : Except BuildError Nat)
  | done (count : Nat)
  /-- Broken down with its transform: nothing more happens here. -/
  | crashed
deriving Inhabited

/-- What a task has to do beyond its current path. -/
inductive BuildTask.Agenda where
  | single
  /-- The remaining entries of a request, and what its earlier ones have produced. -/
  | entries (rest : List Path) (total : Nat)
deriving Inhabited, Repr

structure BuildTask where
  id : Nat
  /-- The task that waits for this one, if any. -/
  parent : Option Nat
  /-- The number of the call that it works for. -/
  call : Nat
  addressee : Addressee
  agenda : BuildTask.Agenda := .single
  stage : BuildTask.Stage
deriving Inhabited

namespace BuildTask

/-- What a finished task has produced; a broken one counts for nothing. -/
def count? (t : BuildTask) : Option Nat :=
  match t.agenda, t.stage with
  | .single, .done count => some count
  | _, .crashed => some 0
  | _, _ => none

def isFinished (t : BuildTask) : Bool := t.count?.isSome

end BuildTask

end LiveBuild
