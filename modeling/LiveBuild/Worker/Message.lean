import LiveBuild.Build.Event

/-!
# Messages between a requester and a worker

Every request has a number, and every response repeats the number of the request that it belongs to,
so that one line of messages can serve many requests at once.
-/

namespace LiveBuild

inductive RequestKind where
  | build
  | watch
deriving DecidableEq, Repr, Inhabited

namespace RequestKind

def name : RequestKind → String
  | build => "build"
  | watch => "watch"

def ofName? (name : String) : Option RequestKind :=
  [build, watch].find? fun command => command.name == name

def ofJson? (j : Json) : Option RequestKind := j.variantName? >>= ofName?

end RequestKind

structure WorkRequest where
  id : Nat
  command : RequestKind
  files : List Path
deriving DecidableEq, Repr, Inhabited

namespace WorkRequest

def toJson (r : WorkRequest) : Json :=
  .object [("callbackId", .nat r.id), ("command", .text r.command.name),
    ("files", BuildEvent.paths r.files)]

def ofJson? (j : Json) : Option WorkRequest := do
  match ← j.record? ["callbackId", "command", "files"] with
  | [some id, some command, some files] =>
      return ⟨← id.nat64?, ← RequestKind.ofJson? command, ← BuildEvent.paths? files⟩
  | _ => none

end WorkRequest

structure WorkResponse where
  id : Nat
  event : BuildEvent
deriving DecidableEq, Repr, Inhabited

namespace WorkResponse

/-- The fields of the event stand beside the number of the request. -/
def toJson (r : WorkResponse) : Json := .object (("callbackId", .nat r.id) :: r.event.fields)

def ofJson? : Json → Option WorkResponse
  | .object fields => do
      let (ids, others) := fields.partition fun field => field.1 == "callbackId"
      match ids with
      | [(_, id)] =>
          if BuildEvent.isReadable (.object others) then
            return ⟨← id.nat64?, ← BuildEvent.ofFields? others⟩
          else
            none
      | _ => none
  | _ => none

end WorkResponse

end LiveBuild
