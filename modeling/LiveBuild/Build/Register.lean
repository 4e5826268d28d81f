import LiveBuild.Build.Graph
import LiveBuild.Path.Map

/-!
# The register of targets

One record per destination: whether it is being built, who is told when a build of it ends, and
which destinations import it, directly or through others. A record can be found under its
destination and under the source it was first built from. Import edges are kept in a graph, so that
a late importer becomes a parent of everything its import reaches.
-/

namespace LiveBuild

/-- Where the events of one request go: the number of the request, and the channel that takes
them. -/
structure Addressee where
  id : Nat
  channel : Nat := 0
deriving DecidableEq, Repr, Inhabited

inductive TargetStatus where
  | building
  | built
  | failed
deriving DecidableEq, Repr, Inhabited

namespace Register

structure Target where
  source : Path
  status : TargetStatus
  /-- One addressee per request, by request number. -/
  subscribers : List Addressee
  parents : PathSet
  node : Nat
deriving Inhabited

/-- The answer to a request for a target. -/
inductive Grant where
  | started
  /-- The record was there; the caller is told about it but does not build it. -/
  | joined
deriving DecidableEq, Repr

inductive Claim where
  | started (dest : Path)
  | underway
  | unknown
deriving DecidableEq, Repr

/-- Who is to be told that a build has ended, and what about. -/
structure Closing where
  source : Path
  addressees : List Addressee
  parents : List Path
deriving Inhabited

/-- Subscribers stay ordered by request number; a request is told through its latest addressee. -/
def subscribe (addressee : Addressee) : List Addressee → List Addressee
  | [] => [addressee]
  | first :: rest =>
      if addressee.id < first.id then addressee :: first :: rest
      else if addressee.id = first.id then addressee :: rest
      else first :: subscribe addressee rest

end Register

structure Register where
  targets : PathMap Register.Target := {}
  /-- From the source of a record to its destination. -/
  aliases : PathMap Path := {}
  imports : ImportGraph := {}
deriving Inhabited

namespace Register

def empty : Register := {}

/-- The destination under which a path is recorded: the path itself, or what its alias says. -/
def recordedAs? (r : Register) (p : Path) : Option Path :=
  if r.targets.contains p then some p else r.aliases.get? p

def target? (r : Register) (p : Path) : Option Target := (r.recordedAs? p).bind r.targets.get?

/-- What a target imported by the requester has for parents: the requester and its parents. -/
def inherited (r : Register) : Option Path → PathSet
  | none => PathSet.empty
  | some requester =>
      (((r.targets.get? requester).map (·.parents)).getD PathSet.empty).insert requester

def connect (r : Register) (importer imported : Path) : Register :=
  match r.targets.get? importer, r.targets.get? imported with
  | some source, some target => { r with imports := r.imports.addEdge source.node target.node }
  | _, _ => r

/-- Give parents to one target, which never becomes its own parent. -/
def adopt (r : Register) (parents : PathSet) (dest : Path) : Register :=
  { r with targets := r.targets.modify dest fun target =>
      { target with
        parents := target.parents.union ⟨parents.items.filter fun parent => !parent.same dest⟩ } }

def passDown (r : Register) (dest : Path) (parents : PathSet) : Register :=
  if parents.isEmpty then r
  else
    match r.targets.get? dest with
    | none => r
    | some target =>
        ((r.imports.reachable target.node).filterMap r.imports.label?).foldl
          (fun r reached => r.adopt parents reached) r

/-- Ask for a target on behalf of the target that imports it, if any. -/
def enroll (r : Register) (source dest : Path) (requester : Option Path) (addressee : Addressee) :
    Register × Grant :=
  let inherited := r.inherited requester
  if r.targets.contains dest then
    let r := { r with targets := r.targets.modify dest fun target =>
      { target with subscribers := subscribe addressee target.subscribers } }
    let r := match requester with
      | some requester => r.connect requester dest
      | none => r
    (r.passDown dest inherited, .joined)
  else
    let (imports, node) := r.imports.addNode dest
    let target : Target :=
      { source, status := .building, subscribers := [addressee], parents := inherited.erase dest,
        node }
    let r : Register :=
      { targets := r.targets.insert dest target, aliases := r.aliases.insert source dest, imports }
    let r := match requester with
      | some requester => r.connect requester dest
      | none => r
    (r, .started)

/-- Claim a target, given by destination or source, to build it again. Whoever asks is told. -/
def reopen (r : Register) (p : Path) (addressee : Addressee) : Register × Claim :=
  match r.recordedAs? p with
  | none => (r, .unknown)
  | some dest =>
      match r.targets.get? dest with
      | none => (r, .unknown)
      | some target =>
          let subscribers := subscribe addressee target.subscribers
          if target.status = .building then
            ({ r with targets := r.targets.modify dest fun target => { target with subscribers } },
              .underway)
          else
            ({ r with targets := r.targets.modify dest fun target =>
                { target with subscribers, status := .building } },
              .started dest)

def close (r : Register) (dest : Path) (succeeded : Bool) : Register × Option Closing :=
  match r.targets.get? dest with
  | none => (r, none)
  | some target =>
      let status := if succeeded then TargetStatus.built else .failed
      ({ r with targets := r.targets.modify dest fun target => { target with status } },
        some ⟨target.source, target.subscribers, target.parents.items⟩)

def importersOf (r : Register) (p : Path) : List Path :=
  ((r.target? p).map (·.parents.items)).getD []

def status? (r : Register) (p : Path) : Option TargetStatus := (r.target? p).map (·.status)

/-- How many requests are told of a target. -/
def audience (r : Register) (p : Path) : Nat :=
  ((r.target? p).map (·.subscribers.length)).getD 0

def size (r : Register) : Nat := r.targets.size

def isEmpty (r : Register) : Bool := r.targets.isEmpty

end Register

end LiveBuild
