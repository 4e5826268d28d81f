import LiveBuild.Service.Basic

/-!
# Turns of a service

After every action a service goes on until nothing can move: tasks of the build first, then events
on their way, then the worker's line, and the watch sessions last.
-/

namespace LiveBuild.Service

variable {σ : Type} [FileStore σ]

def handOut? (s : Service σ) : Option (Service σ) :=
  match s.build.sent with
  | [] => none
  | sent =>
      some (sent.foldl (fun s entry =>
        match s.sinks[entry.1.channel]? with
        | some sink => s.deliver entry.2 sink
        | none => s) { s with build := { s.build with sent := [] } })

def settleOutcome (s : Service σ) (outcome : BuildSession.Outcome) : Service σ :=
  let s : Service σ := { s with watches := s.watches.map fun w =>
    { w with session := w.session.endRebuild outcome.call outcome.count.isSome } }
  match s.calls.find? fun entry => entry.1 == outcome.call with
  | some (_, ticket) =>
      { s with calls := s.calls.filter fun entry => entry.1 != outcome.call }.conclude ticket
        (.count outcome.count)
  | none => s

def takeOutcomes? (s : Service σ) : Option (Service σ) :=
  match s.build.collect with
  | (_, []) => none
  | (build, outcomes) => some (outcomes.foldl settleOutcome { s with build })

/-- Whether the far end of the line still takes responses. -/
def takesResponses (s : Service σ) : Bool :=
  match s.line with
  | none => false
  | some line =>
      match line.near with
      | .requester _ _ => true
      | .raw index _ => (s.streams[index]?).any (·.isHeld)

def isChannelUsed (s : Service σ) (channel : Nat) : Bool :=
  (s.build.tasks.any fun task => task.addressee.channel == channel) ||
    (s.build.register.targets.entries.any fun entry =>
      entry.2.subscribers.any fun addressee => addressee.channel == channel) ||
    s.watches.any fun w =>
      w.session.isRunning &&
        match w.outlet with
        | .forwarder index => (s.forwarders[index]?).any (·.channel == channel)
        | _ => false

/-- Let one forwarder pass on an event or end. -/
def forward? (s : Service σ) : Option (Service σ) :=
  (List.range s.forwarders.length).findSome? fun index => do
    let f ← s.forwarders[index]?
    if !f.isRunning then
      none
    let line ← s.line
    match f.queue with
    | event :: queue =>
        if s.takesResponses then
          some { s with
            forwarders := modifyAt s.forwarders index fun f => { f with queue }
            line := some { line with responses := line.responses ++ [⟨f.id, event⟩] } }
        else
          some { s with forwarders := modifyAt s.forwarders index fun f =>
            { f with queue := [], isRunning := false } }
    | [] =>
        if s.isChannelUsed f.channel then
          none
        else
          some { s with forwarders := modifyAt s.forwarders index fun f =>
            { f with isRunning := false } }

/-- Report a failure of a worker's request as a whole. -/
def refuseRequest (s : Service σ) (forwarder : Nat) (f : Failure) : Service σ :=
  s.deliver (.forRequest f) (.forwarder forwarder)

/-- Start a watch session whose events go to an outlet. -/
def startWatch (s : Service σ) (id : Nat) (entries : List Path) (outlet : Sink)
    (ticket : Option Ticket) : Service σ :=
  let (s, channel) := s.addSink (.watch s.watches.length)
  let (build, session, _) := WatchSession.start s.build ⟨id, channel⟩ s.window entries
  { s with build, watches := s.watches ++ [{ session, outlet, ticket }] }

def setWorker (s : Service σ) (line : Line) (worker : Worker) : Service σ :=
  { s with line := some { line with worker } }

def serve (s : Service σ) (line : Line) (watchers : Option WatcherSupply)
    (request : WorkRequest) : Service σ :=
  let (s, forwarder, channel) := s.addForwarder request.id
  match request.command with
  | .build =>
      let (build, _) := s.build.call ⟨request.id, channel⟩ (.compile request.files)
      { s with build }
  | .watch =>
      match watchers with
      | none => s.refuseRequest forwarder ⟨"this worker does not support watch requests", []⟩
      | some (.failing message) => s.refuseRequest forwarder ⟨message, []⟩
      | some (.single true) => s.refuseRequest forwarder ⟨"watcher already created", []⟩
      | some (.single false) =>
          (s.setWorker line (.live (some (.single true)) true)).startWatch request.id request.files
            (.forwarder forwarder) none

def Line.hasSender (line : Line) : Bool :=
  match line.near with
  | .requester _ isConnected => isConnected || !line.builds.isEmpty
  | .raw _ isConnected => isConnected

/-- Let the worker take a request, or end when there can be no more. -/
def work? (s : Service σ) : Option (Service σ) := do
  let line ← s.line
  match line.worker with
  | .live watchers true =>
      match line.requests with
      | request :: requests =>
          let line := { line with requests }
          some ({ s with line := some line }.serve line watchers request)
      | [] =>
          if line.hasSender then
            none
          else
            let s := s.setWorker line (.live watchers false)
            some { s with watches := s.watches.map fun w =>
              if w.ticket.isNone then { w with isStopping := true } else w }
  | _ => none

def canRespond (s : Service σ) (line : Line) : Bool :=
  match line.worker with
  | .live _ isRunning => isRunning || s.forwarders.any (·.isRunning)
  | .manual _ responds => responds

/-- End the streams of requests that are not listened to any more, and the builds that wait for
nothing. -/
def closeRoutes (s : Service σ) (line : Line) (requester : Requester) (isConnected : Bool) :
    Service σ :=
  let isGone (id : Nat) : Bool := (requester.listener? id).isNone
  let ended := line.streams.filter fun entry => isGone entry.1
  let lost := line.builds.filter fun entry => isGone entry.1
  let line := { line with
    near := .requester requester isConnected
    streams := line.streams.filter fun entry => !isGone entry.1
    builds := line.builds.filter fun entry => !isGone entry.1 }
  let s := ended.foldl (fun s entry => s.endStream entry.2) { s with line := some line }
  lost.foldl (fun s entry =>
    s.conclude entry.2 (.report (.error (Requester.stopped entry.1)))) s

def routeResponse (s : Service σ) (line : Line) (requester : Requester) (isConnected : Bool)
    (response : WorkResponse) : Service σ :=
  let (requester, complete?) := requester.deliver response
  match complete? with
  | some (id, report) =>
      let s := match line.builds.find? fun entry => entry.1 == id with
        | some (_, ticket) => s.conclude ticket (.report (.ok report))
        | none => s
      let line := { line with builds := line.builds.filter fun entry => entry.1 != id }
      s.closeRoutes line requester isConnected
  | none =>
      let stream? := line.streams.find? fun entry => entry.1 == response.id
      match requester.listener? response.id, stream? with
      | some (.stream arrived isHeld), some (_, index) =>
          let s := arrived.foldl (fun s event => s.putItem index (.event event)) s
          s.closeRoutes line (requester.setListener response.id (.stream [] isHeld)) isConnected
      | _, _ => s.closeRoutes line requester isConnected

/-- Take in a response at the near end, or the end of all responses. -/
def receive? (s : Service σ) : Option (Service σ) := do
  let line ← s.line
  match line.responses with
  | response :: responses =>
      let line := { line with responses }
      match line.near with
      | .requester requester isConnected =>
          some (s.routeResponse line requester isConnected response)
      | .raw index _ => some ({ s with line := some line }.putItem index (.response response))
  | [] =>
      if s.canRespond line then
        none
      else
        match line.near with
        | .requester requester isConnected =>
            -- Routes that were entered after the end go with the last who can make requests.
            if requester.isRouting || !line.hasSender && !requester.routes.isEmpty then
              some (s.closeRoutes line requester.disconnect isConnected)
            else
              none
        | .raw index _ =>
            if (s.streams[index]?).any (·.isEnded) then none else some (s.endStream index)

def setWatch (s : Service σ) (index : Nat) (session : WatchSession) : Service σ :=
  { s with watches := modifyAt s.watches index fun w => { w with session } }

def watchEvent? (s : Service σ) (index : Nat) (w : Watching) : Option (Service σ) := do
  let (session, notice) ← w.session.takeEvent? s.build.store s.accepts
  let s := s.setWatch index session
  let s := { s with
    stale := s.stale ++ notice.stale
    watched := s.watched ++ notice.watched.toList }
  some (s.deliver notice.event w.outlet)

def endWatch? (s : Service σ) (index : Nat) (w : Watching) : Option (Service σ) :=
  if w.isStopping then
    let (build, session) := w.session.stop s.build
    let s := { s with build }.setWatch index session
    match w.outlet, w.ticket with
    | .stream stream, some ticket => some ((s.endStream stream).conclude ticket .stopped)
    | _, _ => some s
  else
    none

/-- Let one watch session serve one of the things that it waits for. -/
def watch? (s : Service σ) : Option (Service σ) :=
  (List.range s.watches.length).findSome? fun index => do
    let w ← s.watches[index]?
    if !w.session.isRunning then
      none
    let adopt (result : BuildSession σ × WatchSession) : Service σ :=
      { s with build := result.1 }.setWatch index result.2
    s.watchEvent? index w <|>
      (w.session.takeChange? s.now).map (s.setWatch index) <|>
      (w.session.takeDeadline? s.build s.now).map adopt <|>
      (w.session.takeRebuilt? s.build).map adopt <|>
      s.endWatch? index w

def step? (s : Service σ) : Option (Service σ) :=
  (s.build.next?).map (fun build => { s with build }) <|> s.handOut? <|> s.takeOutcomes? <|>
    s.forward? <|> s.work? <|> s.receive? <|> s.watch?

/-- Go on until nothing can move, at most `fuel` steps. -/
def settle : Nat → Service σ → Service σ
  | 0, s => s
  | fuel + 1, s =>
      match s.step? with
      | none => s
      | some s => settle fuel s

/-- More steps than anything that fits into memory asks for. -/
def ampleSteps : Nat := UInt64.size / 4

def rest (s : Service σ) : Service σ := s.settle ampleSteps

end LiveBuild.Service
