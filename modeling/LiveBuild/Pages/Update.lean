import LiveBuild.Failure
import LiveBuild.Json.Decode
import LiveBuild.Json.Printer
import LiveBuild.Pages.Changes
import LiveBuild.Pages.Route
import LiveBuild.Text.Quoted

/-!
# Updates for live clients

Every route that a change of the pages touches gets exactly one update: to reload, or to take in
changed code. The code of some routes wraps every other route; these always reload.
-/

namespace LiveBuild

inductive LiveUpdate.Action where
  | reload
  | change
deriving DecidableEq, Repr, Inhabited

def LiveUpdate.Action.name : LiveUpdate.Action → String
  | reload => "reload"
  | change => "change"

def LiveUpdate.Action.ofJson? (j : Json) : Option LiveUpdate.Action := do
  let name ← j.variantName?
  [LiveUpdate.Action.reload, .change].find? fun action => action.name == name

structure LiveUpdate where
  action : LiveUpdate.Action
  data : List String
deriving DecidableEq, Repr, Inhabited

namespace LiveUpdate

def toJson (update : LiveUpdate) : Json :=
  .object [("action", .text update.action.name), ("data", Json.strings update.data)]

def ofJson? (j : Json) : Option LiveUpdate := do
  match ← j.record? ["action", "data"] with
  | [some action, some data] => return ⟨← LiveUpdate.Action.ofJson? action, ← data.texts?⟩
  | _ => none

def line (update : LiveUpdate) : String := update.toJson.compact ++ "\n"

end LiveUpdate

structure UpdateRules where
  routeRoot : String
  /-- Routes that reload whenever their code changes. -/
  hardReload : TextSet
deriving Inhabited

namespace UpdateRules

def routes (rules : UpdateRules) (chunks : TextSet) : TextSet :=
  chunks.map fun name => Route.ofChunk name rules.routeRoot

/-- The updates for what changed: all reloads, then all changes of code, each in order of their
routes. -/
def updates (rules : UpdateRules) (changes : PageChanges) : List LiveUpdate :=
  let rehashed := rules.routes changes.rehashed
  let reload := (rules.routes changes.reshaped).union (rehashed.filter rules.hardReload.contains)
  let change := (rehashed.filter fun route => !rules.hardReload.contains route).difference reload
  reload.items.map (fun route => ⟨.reload, [route]⟩) ++
    change.items.map (fun route => ⟨.change, [route]⟩)

def shown (s : TextSet) : String :=
  "\x7b" ++ ", ".intercalate (s.items.map Text.quoted) ++ "\x7d"

def description (rules : UpdateRules) : String :=
  "Dispatcher \x7b route_root: " ++ Text.quoted rules.routeRoot ++ ", hard_reload: " ++
    shown rules.hardReload ++ " \x7d"

end UpdateRules

inductive UpdateSink where
  | lines (text : String)
  /-- A writer that cannot be written to. -/
  | broken (reason : String)
  | queue (received : List LiveUpdate)
  | closedQueue
deriving Inhabited

namespace UpdateSink

def put (sink : UpdateSink) (update : LiveUpdate) : Except Failure UpdateSink :=
  match sink with
  | lines text => .ok (lines (text ++ update.line))
  | broken reason => .error ⟨"writing notification", [reason]⟩
  | queue received => .ok (queue (received ++ [update]))
  | closedQueue => .error ⟨"notification receiver closed", ["channel closed"]⟩

/-- Deliver in order up to the first that cannot be delivered. -/
def putAll (sink : UpdateSink) : List LiveUpdate → UpdateSink × Except Failure Unit
  | [] => (sink, .ok ())
  | update :: rest =>
      match sink.put update with
      | .ok sink => sink.putAll rest
      | .error e => (sink, .error e)

def text : UpdateSink → String
  | lines text => text
  | _ => ""

def received : UpdateSink → List LiveUpdate
  | queue received => received
  | _ => []

end UpdateSink

/-- Deliver the updates for what changed, and return them. -/
def UpdateRules.announce (rules : UpdateRules) (sink : UpdateSink) (changes : PageChanges) :
    UpdateSink × Except Failure (List LiveUpdate) :=
  let updates := rules.updates changes
  let (sink, result) := sink.putAll updates
  (sink, result.map fun _ => updates)

end LiveBuild
