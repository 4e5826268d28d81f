import LiveBuild.Build.Scripted
import LiveBuild.Watch.Session
import LiveBuild.Worker.Requester

/-!
# A build service

A service is one build session together with everything that makes calls on it: readers with calls
of their own, watch sessions, and a worker that serves requests. Events travel through numbered
channels; a channel leads to a stream that is read from outside, to a watch session, or to a
forwarder that tags events with the number of a worker's request.
-/

namespace LiveBuild

namespace Service

inductive StreamKey where
  | number (id : Nat)
  /-- The stream of a worker's responses as they are. -/
  | raw
deriving DecidableEq, Repr, Inhabited

inductive Item where
  | event (event : BuildEvent)
  | response (response : WorkResponse)
deriving Inhabited, Repr

structure Stream where
  key : StreamKey
  /-- What has arrived and was not read yet. -/
  items : List Item := []
  isHeld : Bool := true
  isEnded : Bool := false
  isEndRead : Bool := false
deriving Inhabited, Repr

inductive Sink where
  | stream (index : Nat)
  | watch (index : Nat)
  | forwarder (index : Nat)
deriving DecidableEq, Repr, Inhabited

/-- Passes the events of one request on to the worker's responses. -/
structure Forwarder where
  id : Nat
  channel : Nat
  queue : List BuildEvent := []
  isRunning : Bool := true
deriving Inhabited, Repr

/-- The name of a call for whoever waits for its end. -/
inductive Label where
  | compile (id : Nat)
  | rebuild (id : Nat)
  | handle (id : Nat)
  | watch (id : Nat)
  | build
deriving DecidableEq, Repr, Inhabited

/-- When a call was made, among all calls, and in which turn of the service. -/
structure Ticket where
  order : Nat
  turn : Nat
  label : Label
deriving DecidableEq, Repr, Inhabited

inductive Result where
  | count (count : Option Nat)
  | stopped
  | report (result : Except Failure BuildSummary)
deriving Inhabited

structure Watching where
  session : WatchSession
  /-- Where its events go once it has taken them in. -/
  outlet : Sink
  /-- Who waits for its end, unless it belongs to a worker. -/
  ticket : Option Ticket
  isStopping : Bool := false
deriving Inhabited

/-- How a worker gets watchers. -/
inductive WatcherSupply where
  | failing (message : String)
  | single (isUsed : Bool)
deriving Repr, Inhabited

/-- The far end of the line of requests and responses. -/
inductive Worker where
  /-- A worker that serves requests until nobody can make any. -/
  | live (watchers : Option WatcherSupply) (isRunning : Bool)
  /-- Ends that are used by hand. -/
  | manual (takes responds : Bool)
deriving Repr, Inhabited

inductive Near where
  | requester (requester : Requester) (isConnected : Bool)
  | raw (stream : Nat) (isConnected : Bool)
deriving Inhabited

structure Line where
  requests : List WorkRequest := []
  responses : List WorkResponse := []
  worker : Worker
  near : Near
  streams : List (Nat × Nat) := []
  /-- The builds that the requester waits for. -/
  builds : List (Nat × Ticket) := []
deriving Inhabited

end Service

open Service

structure Service (σ : Type) where
  build : BuildSession σ
  /-- How long a changed path has to be quiet. -/
  window : Nat
  /-- Whether a watcher takes a path, given the files. -/
  canWatch : σ → Path → Bool := fun _ _ => true
  /-- Paths that watchers refuse for now. -/
  refused : PathSet := {}
  now : Nat := 0
  turn : Nat := 0
  started : Nat := 0
  sinks : List Sink := []
  streams : List Stream := []
  /-- The channel of each request number that is used from outside. -/
  readers : List (Nat × Nat) := []
  calls : List (Nat × Ticket) := []
  watches : List Watching := []
  forwarders : List Forwarder := []
  line : Option Line := none
  finished : List (Ticket × Result) := []
  stale : List Path := []
  watched : List Path := []

namespace Service

variable {σ : Type}

def start (build : BuildSession σ) (window : Nat) : Service σ := { build, window }

def accepts (s : Service σ) (p : Path) : Bool :=
  !s.refused.contains p && s.canWatch s.build.store p

def modifyAt {α : Type} (items : List α) (index : Nat) (f : α → α) : List α :=
  items.mapIdx fun i item => if i = index then f item else item

def addSink (s : Service σ) (sink : Sink) : Service σ × Nat :=
  ({ s with sinks := s.sinks ++ [sink] }, s.sinks.length)

def addStream (s : Service σ) (key : StreamKey) : Service σ × Nat :=
  ({ s with streams := s.streams ++ [{ key }] }, s.streams.length)

/-- A new forwarder, and the channel that leads to it. -/
def addForwarder (s : Service σ) (id : Nat) : Service σ × Nat × Nat :=
  let index := s.forwarders.length
  let (s, channel) := s.addSink (.forwarder index)
  ({ s with forwarders := s.forwarders ++ [{ id, channel }] }, index, channel)

def ticket (s : Service σ) (label : Label) : Service σ × Ticket :=
  ({ s with started := s.started + 1 }, ⟨s.started, s.turn, label⟩)

def conclude (s : Service σ) (ticket : Ticket) (result : Result) : Service σ :=
  { s with finished := s.finished ++ [(ticket, result)] }

def Stream.put (stream : Stream) (item : Item) : Stream :=
  if stream.isHeld then { stream with items := stream.items ++ [item] } else stream

def putItem (s : Service σ) (index : Nat) (item : Item) : Service σ :=
  { s with streams := modifyAt s.streams index (·.put item) }

def endStream (s : Service σ) (index : Nat) : Service σ :=
  { s with streams := modifyAt s.streams index fun stream => { stream with isEnded := true } }

def deliver (s : Service σ) (event : BuildEvent) : Sink → Service σ
  | .stream index => s.putItem index (.event event)
  | .watch index =>
      { s with watches := modifyAt s.watches index fun w =>
          if w.session.isRunning then
            { w with session := { w.session with events := w.session.events ++ [event] } }
          else w }
  | .forwarder index =>
      { s with forwarders := modifyAt s.forwarders index fun f =>
          if f.isRunning then { f with queue := f.queue ++ [event] } else f }

end Service

end LiveBuild
