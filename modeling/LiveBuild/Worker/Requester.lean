import LiveBuild.Failure
import LiveBuild.Worker.Message

/-!
# Requesters

A requester numbers its requests and keeps a route for each request that is still listened to.
Responses go along the route of their number, or nowhere.
-/

namespace LiveBuild

structure BuildSummary where
  total : Nat := 0
  built : List BuildEvent := []
  errors : List BuildEvent := []
deriving DecidableEq, Repr, Inhabited

namespace BuildSummary

def isClean (r : BuildSummary) : Bool := r.errors.isEmpty

/-- Take in an event; the answer says whether it was the last one. -/
def add (r : BuildSummary) : BuildEvent → BuildSummary × Bool
  | .built total => ({ r with total }, true)
  | event@(.fileBuilt ..) => ({ r with built := r.built ++ [event] }, false)
  | event@(.error ..) => ({ r with errors := r.errors ++ [event] }, false)

end BuildSummary

inductive Requester.Listener where
  /-- Events wait to be read until the receiving end is dropped. -/
  | stream (arrived : List BuildEvent) (isHeld : Bool)
  | report (report : BuildSummary)
deriving DecidableEq, Repr, Inhabited

structure Requester where
  nextId : Nat := 1
  routes : List (Nat × Requester.Listener) := []
  /-- Whether the end of all responses has not come yet. Routes that are entered later stay. -/
  isRouting : Bool := true
deriving Inhabited, Repr

namespace Requester

def listener? (r : Requester) (id : Nat) : Option Listener :=
  (r.routes.find? fun route => route.1 == id).map (·.2)

def forget (r : Requester) (id : Nat) : Requester :=
  { r with routes := r.routes.filter fun route => route.1 != id }

def setListener (r : Requester) (id : Nat) (listener : Listener) : Requester :=
  { r with routes := r.routes.map fun route => if route.1 == id then (id, listener) else route }

def notRunning : Failure := ⟨"compile worker is not running", ["channel closed"]⟩

def stopped (id : Nat) : Failure :=
  ⟨"worker stopped before request " ++ toString id ++ " finished", []⟩

/-- Make a request. Its number is used up also when nobody takes requests any more. -/
def request (r : Requester) (isTaken : Bool) (listener : Listener) (command : RequestKind)
    (files : List Path) : Requester × Except Failure WorkRequest :=
  let id := r.nextId
  let r := { r with nextId := id + 1 }
  if isTaken then
    ({ r with routes := r.routes ++ [(id, listener)] }, .ok ⟨id, command, files⟩)
  else
    (r, .error notRunning)

/-- Route a response. A route whose listener has gone is taken away; a report that is complete
leaves its route too, and is the second part of the answer. -/
def deliver (r : Requester) (response : WorkResponse) :
    Requester × Option (Nat × BuildSummary) :=
  match r.listener? response.id with
  | none => (r, none)
  | some (.stream arrived isHeld) =>
      if isHeld then
        (r.setListener response.id (.stream (arrived ++ [response.event]) true), none)
      else
        (r.forget response.id, none)
  | some (.report report) =>
      let (report, isComplete) := report.add response.event
      if isComplete then
        (r.forget response.id, some (response.id, report))
      else
        (r.setListener response.id (.report report), none)

/-- The end of all responses: nobody is listened to any more. -/
def disconnect (r : Requester) : Requester := { r with routes := [], isRouting := false }

def openRequests (r : Requester) : Nat := r.routes.length

end Requester

end LiveBuild
