import LiveBuild.Service.Turn

/-!
# Acting on a service

What can be done to a service from outside, and what can be read off it afterwards.
-/

namespace LiveBuild.Service

variable {σ : Type}

/-- The channel of a request number that is used from outside; there is one for each number. -/
def reader (s : Service σ) (id : Nat) : Service σ × Addressee :=
  match s.readers.find? fun entry => entry.1 == id with
  | some (_, channel) => (s, ⟨id, channel⟩)
  | none =>
      let (s, index) := s.addStream (.number id)
      let (s, channel) := s.addSink (.stream index)
      ({ s with readers := s.readers ++ [(id, channel)] }, ⟨id, channel⟩)

def call (s : Service σ) (id : Nat) (request : BuildSession.Request) : Service σ :=
  let label := match request with
    | .compile _ => Label.compile id
    | .rebuild _ => .rebuild id
    | .handle _ _ => .handle id
  let (s, addressee) := s.reader id
  let (s, ticket) := s.ticket label
  let (build, call) := s.build.call addressee request
  { s with build, calls := s.calls ++ [(call, ticket)] }

/-- Start a watch session with a stream of its own. -/
def watchEntries [FileStore σ] (s : Service σ) (id : Nat) (entries : List Path) : Service σ :=
  let (s, index) := s.addStream (.number id)
  let (s, ticket) := s.ticket (.watch id)
  s.startWatch id entries (.stream index) (some ticket)

/-- Report changes to the watch session that was started last. -/
def change (s : Service σ) (changes : List PathChange) : Service σ :=
  { s with watches := modifyAt s.watches (s.watches.length - 1) fun w =>
      if w.session.isRunning then
        { w with session := { w.session with changes := w.session.changes ++ changes } }
      else w }

def advance (s : Service σ) (duration : Nat) : Service σ := { s with now := s.now + duration }

/-- Ask the watch sessions to end, other than those of a worker. -/
def stop (s : Service σ) : Service σ :=
  { s with watches := s.watches.map fun (w : Watching) =>
      if w.ticket.isSome then { w with isStopping := true } else w }

def hangUp (s : Service σ) (key : StreamKey) : Service σ :=
  let s := { s with streams := s.streams.map fun (stream : Stream) =>
    if stream.key = key then { stream with isHeld := false, items := [] } else stream }
  match s.line, key with
  | some line, .number id =>
      match line.near with
      | .requester requester isConnected =>
          match requester.listener? id with
          | some (.stream _ _) =>
              { s with line := some { line with
                  near := .requester (requester.setListener id (.stream [] false)) isConnected } }
          | _ => s
      | .raw _ _ => s
  | _, _ => s

/-- Put up a line to a worker, with a requester at its near end unless it is to be raw. -/
def connect (s : Service σ) (worker : Worker) (isRaw : Bool) : Service σ :=
  if isRaw then
    let (s, index) := s.addStream .raw
    { s with line := some { worker, near := .raw index true } }
  else
    { s with line := some { worker, near := .requester {} true } }

def Worker.takesRequests : Worker → Bool
  | .live _ _ => true
  | .manual takes _ => takes

/-- A duration in milliseconds, in seconds from one second on. -/
def duration (n : Nat) : String :=
  if n = 0 then "0ns"
  else if n < 1000 then toString n ++ "ms"
  else
    let thousandths := (Nat.toDigits 10 (1000 + n % 1000)).drop 1
    let fraction := (thousandths.reverse.dropWhile (· = '0')).reverse
    toString (n / 1000) ++ (if fraction.isEmpty then "" else "." ++ String.ofList fraction) ++ "s"

/-- What a worker has for serving requests to watch. -/
def supportDescription (watchers : Option WatcherSupply) (window : Nat) : String :=
  match watchers with
  | none => "None"
  | some _ => "Some(WatchSupport \x7b debounce: " ++ duration window ++ ", .. \x7d)"

def makeRequest (s : Service σ) (listener : Requester.Listener) (command : RequestKind)
    (files : List Path) : Service σ × Except Failure Nat :=
  match s.line with
  | none => (s, .error Requester.notRunning)
  | some line =>
      match line.near with
      | .raw _ _ => (s, .error Requester.notRunning)
      | .requester requester isConnected =>
          let (requester, result) :=
            requester.request line.worker.takesRequests listener command files
          let line := { line with near := .requester requester isConnected }
          match result with
          | .ok request =>
              ({ s with line := some { line with requests := line.requests ++ [request] } },
                .ok request.id)
          | .error f => ({ s with line := some line }, .error f)

def request (s : Service σ) (command : RequestKind) (files : List Path) :
    Service σ × Except Failure Nat :=
  match s.makeRequest (.stream [] true) command files with
  | (s, .ok id) =>
      let (s, index) := s.addStream (.number id)
      ({ s with line := s.line.map fun (line : Line) =>
          { line with streams := line.streams ++ [(id, index)] } }, .ok id)
  | failed => failed

/-- Make a request to build, and wait for the report. -/
def buildFiles (s : Service σ) (files : List Path) : Service σ :=
  let (s, ticket) := s.ticket .build
  match s.makeRequest (.report {}) .build files with
  | (s, .ok id) =>
      { s with line := s.line.map fun (line : Line) =>
          { line with builds := line.builds ++ [(id, ticket)] } }
  | (s, .error f) => s.conclude ticket (.report (.error f))

def sendRaw (s : Service σ) (request : WorkRequest) : Service σ :=
  { s with line := s.line.map fun (line : Line) =>
      { line with requests := line.requests ++ [request] } }

def forget (s : Service σ) (id : Nat) : Service σ :=
  match s.line with
  | some line =>
      match line.near with
      | .requester requester isConnected => s.closeRoutes line (requester.forget id) isConnected
      | .raw _ _ => s
  | none => s

def openRequests (s : Service σ) : Nat :=
  match s.line with
  | some line =>
      match line.near with
      | .requester requester _ => requester.openRequests
      | .raw _ _ => 0
  | none => 0

def disconnect (s : Service σ) : Service σ :=
  { s with line := s.line.map fun (line : Line) =>
      { line with near := match line.near with
          | .requester requester _ => .requester requester false
          | .raw index _ => .raw index false } }

/-- Take the requests that have come in at the far end. -/
def takeRequests (s : Service σ) : Service σ × List WorkRequest :=
  match s.line with
  | some line => ({ s with line := some { line with requests := [] } }, line.requests)
  | none => (s, [])

def Worker.responds : Worker → Bool
  | .live _ isRunning => isRunning
  | .manual _ responds => responds

/-- Respond by hand; the answer says whether anybody listens. -/
def respond (s : Service σ) (response : WorkResponse) : Service σ × Bool :=
  match s.line with
  | some line =>
      if line.worker.responds then
        ({ s with line := some { line with responses := line.responses ++ [response] } }, true)
      else
        (s, false)
  | none => (s, false)

def refuseRequests (s : Service σ) : Service σ :=
  { s with line := s.line.map fun (line : Line) =>
      match line.worker with
      | .manual _ responds => { line with worker := .manual false responds, requests := [] }
      | _ => line }

def quit (s : Service σ) : Service σ :=
  { s with line := s.line.map fun (line : Line) =>
      match line.worker with
      | .manual takes _ => { line with worker := .manual takes false }
      | _ => line }

/-- What has come out of a service since it was last looked at. -/
structure Observation where
  /-- The calls that have ended, in the order in which they were made. -/
  finished : List (Ticket × Result)
  /-- What the streams hold, and whether they have ended. -/
  streams : List (StreamKey × List Item × Bool)
  stale : List Path
  watched : List Path
  transformed : List Path
deriving Inhabited

def Stream.reading? (stream : Stream) : Option (StreamKey × List Item × Bool) :=
  let isEnd := stream.isEnded && !stream.isEndRead && stream.isHeld
  if stream.items.isEmpty && !isEnd then none else some (stream.key, stream.items, isEnd)

def Stream.cleared (stream : Stream) : Stream :=
  { stream with items := [], isEndRead := stream.isEndRead || stream.isEnded }

/-- Read everything there is to read; the service's next turn begins. -/
def observe (s : Service σ) : Service σ × Observation :=
  ({ s with
      turn := s.turn + 1
      finished := []
      streams := s.streams.map Stream.cleared
      stale := []
      watched := []
      build := { s.build with transformed := [] } },
    { finished := s.finished.mergeSort fun a b => decide (a.1.order ≤ b.1.order)
      streams := s.streams.filterMap Stream.reading?
      stale := s.stale
      watched := s.watched
      transformed := s.build.transformed })

end LiveBuild.Service
