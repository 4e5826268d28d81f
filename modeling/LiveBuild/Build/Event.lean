import LiveBuild.Build.Error
import LiveBuild.Json.Decode

/-!
# Build events

What a build tells those who asked for it: a file is built, something failed, the request is
through. An event travels as an object with its kind under `event`.
-/

namespace LiveBuild

inductive BuildEvent where
  | fileBuilt (source dest : Path) (localDeps : Nat) (parents : List Path)
  | error (source? : Option Path) (message stack : String)
  | built (total : Nat)
deriving DecidableEq, Repr, Inhabited

namespace BuildEvent

/-- A failure of one file. The stack of a transform stands in for the message where there is one. -/
def forFile (path : Path) (e : BuildError) : BuildEvent :=
  let message := path.text ++ ": " ++ e.message
  let stack := match e with
    | .transform _ _ (some stack) => path.text ++ ": " ++ stack
    | _ => message
  .error (some path) message stack

def forRequest (f : Failure) : BuildEvent := .error none f.message f.report

def path (p : Path) : Json := .text p.text

def paths (ps : List Path) : Json := .array (ps.map path)

/-- The fields of an event, the kind first. -/
def fields : BuildEvent → List (String × Json)
  | fileBuilt source dest localDeps parents =>
      [("event", .text "file-built"), ("source", path source), ("dest", path dest),
        ("localDepCount", .nat localDeps), ("parents", paths parents)]
  | error source? message stack =>
      ("event", .text "error") :: (source?.map fun source => ("source", path source)).toList ++
        [("message", .text message), ("stack", .text stack)]
  | built total => [("event", .text "built"), ("totalCompiledFiles", .nat total)]

def toJson (event : BuildEvent) : Json := .object event.fields

def path? (j : Json) : Option Path := j.text?.map Path.ofString

def paths? (j : Json) : Option (List Path) := j.arrayOf? path?

/-- The kinds of events in the order in which they are numbered. -/
def kinds : List String := ["file-built", "error", "built"]

/-- The event of a kind, from a record of its other fields. -/
def ofKind? (kind : String) (body : Json) : Option BuildEvent :=
  if kind = "file-built" then do
    match ← body.record? ["source", "dest", "localDepCount", "parents"] with
    | [some source, some dest, some localDeps, some parents] =>
        return fileBuilt (← path? source) (← path? dest) (← localDeps.nat64?) (← paths? parents)
    | _ => none
  else if kind = "error" then do
    match ← body.record? ["source", "message", "stack"] with
    | [source, some message, some stack] =>
        let source? ← match source with
          | none => some none
          | some .null => some none
          | some source => (path? source).map some
        return error source? (← message.text?) (← stack.text?)
    | _ => none
  else if kind = "built" then do
    match ← body.record? ["totalCompiledFiles"] with
    | [some total] => return built (← total.nat64?)
    | _ => none
  else
    none

/-- The deepest nesting of a value whose kind has to be found before its fields are read. -/
def maxDepth : Nat := 127

def isReadable (j : Json) : Bool := j.isSound && decide (j.depth ≤ maxDepth)

/-- Split the one field that names the kind from the others. -/
def splitKind? (fields : List (String × Json)) : Option (Json × List (String × Json)) :=
  match fields.partition fun field => field.1 == "event" with
  | ([(_, kind)], others) => some (kind, others)
  | _ => none

/-- An event given as an object, or as an array that begins with its kind. -/
def ofJson? (j : Json) : Option BuildEvent :=
  if isReadable j then
    match j with
    | .object fields => do
        let (kind, others) ← splitKind? fields
        ofKind? (← kind.text?) (.object others)
    | .array (kind :: items) => do ofKind? (← kind.text?) (.array items)
    | _ => none
  else
    none

/-- An event whose fields stand among those of a larger object; there its kind may be a number. -/
def ofFields? (fields : List (String × Json)) : Option BuildEvent := do
  let (kind, others) ← splitKind? fields
  let kind ← match kind with
    | .text kind => some kind
    | .number (.natural n) => kinds[n]?
    | _ => none
  ofKind? kind (.object others)

end BuildEvent

end LiveBuild
