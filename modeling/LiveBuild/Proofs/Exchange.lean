import LiveBuild.Proofs.Requesters

/-!
# Requests and responses in any order

A requester makes requests and forgets them, their streams are hung up, and responses are put on the
line and routed, in any order. A request is made in three moves, and anything may happen in between:
it gets its number, its route is entered, and it is sent. What that does to one request is little:
its route is entered or taken away, its stream is hung up, or it hears an event.
-/

namespace LiveBuild

namespace Requester

variable {r : Requester} {id other : Nat} {listener : Listener}

def Listener.drained : Listener → Listener
  | .stream _ isHeld => .stream [] isHeld
  | .report summary => .report summary

/-- Every stream has been given what arrived for it. -/
def drained (r : Requester) : Requester :=
  { r with routes := r.routes.map fun route => (route.1, route.2.drained) }

/-- What arrived for a stream and was not given to it yet. -/
def arrived (r : Requester) (id : Nat) : List BuildEvent :=
  match r.listener? id with
  | some (.stream arrived _) => arrived
  | _ => []

def enter (r : Requester) (id : Nat) (listener : Listener) : Requester :=
  { r with routes := r.routes ++ [(id, listener)] }

theorem listener?_enter (r : Requester) (id : Nat) (listener : Listener) :
    (r.enter id listener).listener? other =
      (r.listener? other).or (if id = other then some listener else none) := by
  rw [listener?, enter, List.find?_append]
  by_cases h : id = other <;> cases hfind : r.routes.find? (fun route => route.1 == other) <;>
    simp [h, listener?, hfind]

@[simp] theorem listener?_forget_self (r : Requester) (id : Nat) :
    (r.forget id).listener? id = none := by
  simp [listener?, forget, List.find?_filter]

theorem listener?_drained (r : Requester) (id : Nat) :
    r.drained.listener? id = (r.listener? id).map Listener.drained := by
  rw [listener?, drained, List.find?_map, listener?, Option.map_map, Option.map_map]
  rfl

@[simp] theorem drained_drained (r : Requester) : r.drained.drained = r.drained := by
  have htwice : ∀ listener : Listener, listener.drained.drained = listener.drained := by
    intro listener
    cases listener <;> rfl
  simp [drained, htwice]

theorem drained_forget (r : Requester) (id : Nat) :
    (r.forget id).drained = r.drained.forget id := by
  simp [drained, forget, List.filter_map, Function.comp_def]

theorem drained_enter (r : Requester) (id : Nat) (listener : Listener) :
    (r.enter id listener).drained = r.drained.enter id listener.drained := by
  simp [drained, enter]

theorem drained_setListener (r : Requester) (id : Nat) (listener : Listener) :
    (r.setListener id listener).drained = r.drained.setListener id listener.drained := by
  simp only [drained, setListener, List.map_map]
  congr 2
  funext route
  by_cases hid : route.1 = id <;> simp [hid]

theorem setListener_setListener (r : Requester) (id : Nat) (first second : Listener) :
    (r.setListener id first).setListener id second = r.setListener id second := by
  simp only [setListener, List.map_map]
  congr 2
  funext route
  by_cases hid : route.1 = id <;> simp [hid]

theorem forget_enter (h : r.listener? id = none) (listener : Listener) :
    (r.enter id listener).forget id = r := by
  rw [listener?, Option.map_eq_none_iff, List.find?_eq_none] at h
  have hroutes : r.routes.filter (fun route => route.1 != id) = r.routes :=
    List.filter_eq_self.2 fun route hroute => by simpa using h route hroute
  simp [forget, enter, List.filter_append, hroutes]

theorem arrived_of_drained (h : r.drained = r) (id : Nat) : r.arrived id = [] := by
  rw [arrived, ← h, listener?_drained]
  cases r.listener? id with
  | none => rfl
  | some listener => cases listener <;> rfl

theorem arrived_congr {r' : Requester} (h : r'.listener? id = r.listener? id) :
    r'.arrived id = r.arrived id := by
  rw [arrived, arrived, h]

theorem drained_listener (h : r.drained = r) (hid : r.listener? id = some listener) :
    listener.drained = listener := by
  have hlistener := listener?_drained r id
  rw [h, hid] at hlistener
  exact (Option.some.inj hlistener).symm

theorem deliver_of_none {response : WorkResponse} (h : r.listener? response.id = none) :
    r.deliver response = (r, none) := by
  rw [deliver, h]

end Requester

/-- A requester and the line of its requests and responses. -/
structure Exchange where
  requester : Requester := {}
  /-- Requests that have got their number only. -/
  numbered : List Nat := []
  /-- Requests that are listened to and were not sent yet. -/
  entered : List Nat := []
  requests : List WorkRequest := []
  takesRequests : Bool := true
  responses : List WorkResponse := []
  responds : Bool := true
  /-- What the stream of each request was given. -/
  received : Nat → List BuildEvent := fun _ => []
  reported? : Nat → Option BuildSummary := fun _ => none

namespace Exchange

open Requester (Listener)

inductive Move where
  /-- A request is begun: it gets its number. -/
  | number
  | enter (id : Nat) (listener : Listener)
  /-- The request is sent. If nobody takes it, its route is taken away again. -/
  | submit (id : Nat) (command : RequestKind) (files : List Path)
  | forget (id : Nat)
  /-- The receiving end of a stream is dropped. -/
  | hangUp (id : Nat)
  /-- The worker takes a request. -/
  | take
  /-- The worker takes no requests any more. -/
  | refuse
  | respond (response : WorkResponse)
  /-- There will be no more responses. -/
  | quit
  /-- The next response is routed, or the end of all responses is noticed. -/
  | route

abbrev History := List (Exchange × Move)

variable {x y z e : Exchange} {move : Move} {moment : Exchange × Move}
  {history before during after later : History} {id : Nat} {listener : Listener}
  {command : RequestKind} {files : List Path} {event : BuildEvent} {summary : BuildSummary}

/-- Route a response, and give the streams what has arrived for them. -/
def deliver (x : Exchange) (response : WorkResponse) (responses : List WorkResponse) : Exchange :=
  let (requester, complete?) := x.requester.deliver response
  { x with
    requester := requester.drained
    responses
    received := fun id => x.received id ++ requester.arrived id
    reported? := match complete? with
      | some (id, report) => fun other => if other = id then some report else x.reported? other
      | none => x.reported? }

def make? (x : Exchange) : Move → Option Exchange
  | .number => some { x with
      requester := { x.requester with nextId := x.requester.nextId + 1 }
      numbered := x.numbered ++ [x.requester.nextId] }
  | .enter id listener =>
      if id ∈ x.numbered ∧ (listener = .stream [] true ∨ listener = .report {}) then
        some { x with
          requester := x.requester.enter id listener
          numbered := x.numbered.filter (· != id)
          entered := x.entered ++ [id] }
      else
        none
  | .submit id command files =>
      if id ∈ x.entered then
        let x := { x with entered := x.entered.filter (· != id) }
        if x.takesRequests then
          some { x with requests := x.requests ++ [⟨id, command, files⟩] }
        else
          some { x with requester := x.requester.forget id }
      else
        none
  | .forget id => some { x with requester := x.requester.forget id }
  | .hangUp id =>
      match x.requester.listener? id with
      | some (.stream _ _) =>
          some { x with requester := x.requester.setListener id (.stream [] false) }
      -- A report is read by the requester itself.
      | some (.report _) => none
      | none => some x
  | .take => some { x with requests := x.requests.tail }
  | .refuse => some { x with takesRequests := false, requests := [] }
  | .respond response =>
      if x.responds then some { x with responses := x.responses ++ [response] } else none
  | .quit => some { x with responds := false }
  | .route =>
      if x.requester.isRouting then
        match x.responses with
        | response :: responses => some (x.deliver response responses)
        | [] => if x.responds then none else some { x with requester := x.requester.disconnect }
      else
        none

/-- What each move does, and when it can be made. -/
inductive Makes (x : Exchange) : Move → Exchange → Prop
  | number : Makes x .number { x with
      requester := { x.requester with nextId := x.requester.nextId + 1 }
      numbered := x.numbered ++ [x.requester.nextId] }
  | enter {id : Nat} {listener : Listener} : id ∈ x.numbered →
      listener = .stream [] true ∨ listener = .report {} →
      Makes x (.enter id listener) { x with
        requester := x.requester.enter id listener
        numbered := x.numbered.filter (· != id)
        entered := x.entered ++ [id] }
  | send {id : Nat} {command : RequestKind} {files : List Path} : id ∈ x.entered →
      x.takesRequests = true → Makes x (.submit id command files) { x with
        entered := x.entered.filter (· != id), requests := x.requests ++ [⟨id, command, files⟩] }
  | fail {id : Nat} {command : RequestKind} {files : List Path} : id ∈ x.entered →
      x.takesRequests = false → Makes x (.submit id command files) { x with
        entered := x.entered.filter (· != id), requester := x.requester.forget id }
  | forget {id : Nat} : Makes x (.forget id) { x with requester := x.requester.forget id }
  | hangUp {id : Nat} {arrived : List BuildEvent} {isHeld : Bool} :
      x.requester.listener? id = some (.stream arrived isHeld) → Makes x (.hangUp id)
        { x with requester := x.requester.setListener id (.stream [] false) }
  | gone {id : Nat} : x.requester.listener? id = none → Makes x (.hangUp id) x
  | take : Makes x .take { x with requests := x.requests.tail }
  | refuse : Makes x .refuse { x with takesRequests := false, requests := [] }
  | respond {response : WorkResponse} : x.responds = true →
      Makes x (.respond response) { x with responses := x.responses ++ [response] }
  | quit : Makes x .quit { x with responds := false }
  | route {response : WorkResponse} {responses : List WorkResponse} :
      x.requester.isRouting = true → x.responses = response :: responses →
      Makes x .route (x.deliver response responses)
  | finish : x.requester.isRouting = true → x.responses = [] → x.responds = false →
      Makes x .route { x with requester := x.requester.disconnect }

theorem makes (h : x.make? move = some y) : Makes x move y := by
  cases move with
  | number | forget | take | refuse | quit =>
      obtain rfl := Option.some.inj h
      constructor
  | enter id listener =>
      simp only [make?, Option.ite_none_right_eq_some] at h
      obtain ⟨⟨hnumbered, hlistener⟩, h⟩ := h
      obtain rfl := Option.some.inj h
      exact .enter hnumbered hlistener
  | submit id command files =>
      simp only [make?, Option.ite_none_right_eq_some] at h
      obtain ⟨hentered, h⟩ := h
      split at h <;> obtain rfl := Option.some.inj h
      · exact .send hentered ‹_›
      · exact .fail hentered (Bool.eq_false_iff.2 ‹_›)
  | hangUp id =>
      rw [make?] at h
      split at h
      · obtain rfl := Option.some.inj h
        exact .hangUp ‹_›
      · contradiction
      · obtain rfl := Option.some.inj h
        exact .gone ‹_›
  | respond response =>
      simp only [make?, Option.ite_none_right_eq_some] at h
      obtain ⟨hresponds, h⟩ := h
      obtain rfl := Option.some.inj h
      exact .respond hresponds
  | route =>
      simp only [make?, Option.ite_none_right_eq_some] at h
      obtain ⟨hrouting, h⟩ := h
      split at h
      · obtain rfl := Option.some.inj h
        exact .route hrouting ‹_›
      · simp only [Option.ite_none_left_eq_some] at h
        obtain ⟨hresponds, h⟩ := h
        obtain rfl := Option.some.inj h
        exact .finish hrouting ‹_› (Bool.eq_false_iff.2 hresponds)

/-- A history leads from one exchange to another. -/
inductive Runs : Exchange → History → Exchange → Prop
  | start (x : Exchange) : Runs x [] x
  | next {x y z : Exchange} {move : Move} {later : History} : x.make? move = some y →
      Runs y later z → Runs x ((x, move) :: later) z

theorem Runs.split (h : Runs x history z) (hhistory : history = before ++ after) :
    ∃ y, Runs x before y ∧ Runs y after z := by
  induction before generalizing x history with
  | nil =>
      rw [List.nil_append] at hhistory
      exact ⟨x, .start x, hhistory ▸ h⟩
  | cons moment before ih =>
      subst hhistory
      cases h with
      | next hmake hlater =>
          obtain ⟨y, hbefore, hafter⟩ := ih hlater rfl
          exact ⟨y, .next hmake hbefore, hafter⟩

theorem Runs.append (h : Runs x before y) (hafter : Runs y after z) :
    Runs x (before ++ after) z := by
  induction h with
  | start => exact hafter
  | next hmake _ ih => exact .next hmake (ih hafter)

/-- A moment of a history was made of the exchange that the moments before it lead to. -/
theorem Runs.at_moment (h : Runs x history z) (hhistory : history = before ++ (e, move) :: after) :
    Runs x before e ∧ ∃ y, e.make? move = some y ∧ Runs y after z := by
  obtain ⟨e', hbefore, hrest⟩ := h.split hhistory
  cases hrest with
  | next hmake hafter => exact ⟨hbefore, _, hmake, hafter⟩

/-- Make some moves, if each can be made when it is its turn. -/
def replay? (x : Exchange) : List Move → Option (History × Exchange)
  | [] => some ([], x)
  | move :: moves =>
      match x.make? move with
      | none => none
      | some y => (replay? y moves).map fun found => ((x, move) :: found.1, found.2)

theorem exists_cons_of_replay? {moves : List Move}
    (h : x.replay? (move :: moves) = some (history, z)) : ∃ rest, history = (x, move) :: rest := by
  rw [replay?] at h
  cases hmake : x.make? move with
  | none => simp [hmake] at h
  | some y =>
      rw [hmake] at h
      obtain ⟨found, -, hfound⟩ := Option.map_eq_some_iff.1 h
      exact ⟨found.1, (Prod.mk.inj hfound).1.symm⟩

theorem runs_of_replay? {moves : List Move} (h : x.replay? moves = some (history, z)) :
    Runs x history z := by
  induction moves generalizing x history with
  | nil =>
      obtain ⟨rfl, rfl⟩ := Prod.mk.inj (Option.some.inj h)
      exact .start x
  | cons move moves ih =>
      rw [replay?] at h
      cases hmake : x.make? move with
      | none => simp [hmake] at h
      | some y =>
          rw [hmake] at h
          obtain ⟨⟨rest, last⟩, hfound, heq⟩ := Option.map_eq_some_iff.1 h
          obtain ⟨rfl, rfl⟩ := Prod.mk.inj heq
          exact .next hmake (ih hfound)

/-! ### What a history amounts to -/

/-- The numbers that were given, in the order of the requests. -/
def numbers (history : History) : List Nat :=
  history.filterMap fun moment =>
    match moment.2 with
    | .number => some moment.1.requester.nextId
    | _ => none

def responded (history : History) : List WorkResponse :=
  history.filterMap fun moment =>
    match moment.2 with
    | .respond response => some response
    | _ => none

def routed? (moment : Exchange × Move) : Option WorkResponse :=
  match moment.2 with
  | .route => moment.1.responses.head?
  | _ => none

/-- The events of the responses to a request that were routed. -/
def said (id : Nat) (history : History) : List BuildEvent :=
  ((history.filterMap routed?).filter fun response => response.id == id).map (·.event)

/-- Nobody is to hear of a request any more: it is forgotten, or could not be sent. -/
def withdraws (id : Nat) (moment : Exchange × Move) : Bool :=
  match moment.2 with
  | .forget other => other == id
  | .submit other _ _ => other == id && !moment.1.takesRequests
  | _ => false

/-- The stream of a request has no use for events any more. -/
def closes (id : Nat) (moment : Exchange × Move) : Bool :=
  withdraws id moment ||
    match moment.2 with
    | .hangUp other => other == id
    | _ => false

/-- The end of all responses is noticed. -/
def isEnd (moment : Exchange × Move) : Bool :=
  match moment.2 with
  | .route => moment.1.responses.isEmpty
  | _ => false

theorem said_append (id : Nat) (before after : History) :
    said id (before ++ after) = said id before ++ said id after := by
  simp [said]

theorem said_cons_of_routed (h : routed? moment = some ⟨id, event⟩) (later : History) :
    said id (moment :: later) = event :: said id later := by
  simp [said, h]

theorem said_cons_of_not_routed (h : ∀ event, routed? moment ≠ some ⟨id, event⟩)
    (later : History) : said id (moment :: later) = said id later := by
  cases hrouted : routed? moment with
  | none => simp [said, hrouted]
  | some response =>
      have hid : response.id ≠ id := by
        rintro rfl
        exact h _ hrouted
      simp [said, hrouted, hid]

theorem mem_said :
    event ∈ said id history ↔ ∃ moment ∈ history, routed? moment = some ⟨id, event⟩ := by
  simp only [said, List.mem_map, List.mem_filter, List.mem_filterMap, beq_iff_eq]
  constructor
  · rintro ⟨⟨number, other⟩, ⟨⟨moment, hmoment, hrouted⟩, rfl⟩, rfl⟩
    exact ⟨moment, hmoment, hrouted⟩
  · rintro ⟨moment, hmoment, hrouted⟩
    exact ⟨_, ⟨⟨moment, hmoment, hrouted⟩, rfl⟩, rfl⟩

/-! ### What a move does to one request -/

/-- How one request is listened to, and what has become of it. -/
structure Standing where
  listener? : Option Listener
  received : List BuildEvent
  reported? : Option BuildSummary

def standing (x : Exchange) (id : Nat) : Standing :=
  ⟨x.requester.listener? id, x.received id, x.reported? id⟩

namespace Standing

def closed (s : Standing) : Standing := { s with listener? := none }

def hungUp (s : Standing) : Standing :=
  { s with listener? := s.listener?.map fun _ => .stream [] false }

/-- Hear of an event. Who has hung up is noticed only then. -/
def heard (s : Standing) (event : BuildEvent) : Standing :=
  match s.listener? with
  | none => s
  | some (.stream _ true) => { s with received := s.received ++ [event] }
  | some (.stream _ false) => s.closed
  | some (.report summary) =>
      match summary.add event with
      | (summary, true) => { s with listener? := none, reported? := some summary }
      | (summary, false) => { s with listener? := some (.report summary) }

variable {s : Standing} {arrived : List BuildEvent}

theorem heard_of_none (h : s.listener? = none) (event : BuildEvent) : s.heard event = s := by
  rw [heard, h]

theorem heard_of_stream (h : s.listener? = some (.stream arrived true)) (event : BuildEvent) :
    s.heard event = { s with received := s.received ++ [event] } := by
  rw [heard, h]

theorem heard_of_report {next : BuildSummary} {isComplete : Bool}
    (h : s.listener? = some (.report summary)) (hadd : summary.add event = (next, isComplete)) :
    s.heard event =
      if isComplete then { s with listener? := none, reported? := some next }
      else { s with listener? := some (.report next) } := by
  rw [heard, h]
  cases isComplete <;> simp [hadd]

theorem closed_of_none (h : s.listener? = none) : s.closed = s := by
  rw [closed, ← h]

theorem hungUp_of_none (h : s.listener? = none) : s.hungUp = s := by
  rw [hungUp, h, Option.map_none, ← h]

/-- Nothing is given to the request any more. -/
def IsShut (s : Standing) : Prop :=
  ∀ listener, s.listener? = some listener → listener = .stream [] false

theorem isShut_closed (s : Standing) : s.closed.IsShut := fun _ => nofun

theorem isShut_hungUp (s : Standing) : s.hungUp.IsShut := by
  intro listener hlistener
  obtain ⟨-, -, rfl⟩ := Option.map_eq_some_iff.1 hlistener
  rfl

theorem IsShut.heard (h : s.IsShut) (event : BuildEvent) :
    (s.heard event).IsShut ∧ (s.heard event).received = s.received := by
  cases hlistener : s.listener? with
  | none =>
      rw [heard_of_none hlistener]
      exact ⟨h, rfl⟩
  | some listener =>
      obtain rfl := h listener hlistener
      rw [Standing.heard, hlistener]
      exact ⟨s.isShut_closed, rfl⟩

end Standing

/-- What a move does to one request. -/
inductive Effect (id : Nat) (x : Exchange) (move : Move) (y : Exchange) : Prop
  | entered {listener : Listener} : move = .enter id listener → id ∈ x.numbered →
      Effect id x move y
  | closed : withdraws id (x, move) = true ∨ isEnd (x, move) = true →
      y.standing id = (x.standing id).closed → Effect id x move y
  | hungUp : move = .hangUp id → (∀ summary, x.requester.listener? id ≠ some (.report summary)) →
      y.standing id = (x.standing id).hungUp → Effect id x move y
  | heard {event : BuildEvent} : routed? (x, move) = some ⟨id, event⟩ →
      closes id (x, move) = false → y.standing id = (x.standing id).heard event →
      Effect id x move y
  | beside : closes id (x, move) = false → (∀ event, routed? (x, move) ≠ some ⟨id, event⟩) →
      y.standing id = x.standing id → Effect id x move y

/-- Nothing but the entering of a route does anything to a request that has none. -/
theorem Effect.of_none (h : Effect id x move y) (hnone : (x.standing id).listener? = none)
    (hentered : ∀ listener, move = .enter id listener → id ∉ x.numbered) :
    y.standing id = x.standing id := by
  cases h with
  | entered hmove hnumbered => exact absurd hnumbered (hentered _ hmove)
  | closed _ heffect => rw [heffect, Standing.closed_of_none hnone]
  | hungUp _ _ heffect => rw [heffect, Standing.hungUp_of_none hnone]
  | heard _ _ heffect => rw [heffect, Standing.heard_of_none hnone]
  | beside _ _ heffect => exact heffect

theorem standing_deliver_self (h : x.requester.drained = x.requester) (id : Nat)
    (event : BuildEvent) (responses : List WorkResponse) :
    (x.deliver ⟨id, event⟩ responses).standing id = (x.standing id).heard event := by
  cases hlistener : x.requester.listener? id with
  | none =>
      rw [deliver, Requester.deliver_of_none hlistener]
      simp [standing, Standing.heard, hlistener, h, Requester.arrived_of_drained h]
  | some listener =>
      have hsame := Requester.drained_listener h hlistener
      cases listener with
      | stream arrived isHeld =>
          obtain rfl : arrived = [] := by simpa [Listener.drained] using hsame.symm
          cases isHeld with
          | true =>
              have hgiven := Requester.listener?_setListener hlistener (.stream [event] true)
              simp [deliver, standing, Standing.heard, Requester.deliver, hlistener,
                Requester.arrived, hgiven, Requester.listener?_drained, Listener.drained]
          | false =>
              simp [deliver, standing, Standing.heard, Standing.closed, Requester.deliver,
                hlistener, Requester.arrived, Requester.listener?_drained]
      | report summary =>
          cases hadd : summary.add event with
          | mk report isComplete =>
              cases isComplete with
              | true =>
                  simp [deliver, standing, Standing.heard, Requester.deliver, hlistener, hadd,
                    Requester.arrived, Requester.listener?_drained]
              | false =>
                  have hadded := Requester.listener?_setListener hlistener (.report report)
                  simp [deliver, standing, Standing.heard, Requester.deliver, hlistener, hadd,
                    hadded, Requester.arrived, Requester.listener?_drained, Listener.drained]

theorem standing_deliver_of_ne (h : x.requester.drained = x.requester) {response : WorkResponse}
    (hid : response.id ≠ id) (responses : List WorkResponse) :
    (x.deliver response responses).standing id = x.standing id := by
  obtain ⟨hlistener, hdone⟩ := Requester.deliver_of_ne (r := x.requester) hid response.event
  change (x.requester.deliver response).1.listener? id = x.requester.listener? id at hlistener
  have harrived := Requester.arrived_congr hlistener
  rw [Requester.arrived_of_drained h] at harrived
  have hkept : (x.requester.listener? id).map Listener.drained = x.requester.listener? id := by
    rw [← Requester.listener?_drained, h]
  cases hcomplete : (x.requester.deliver response).2 with
  | none =>
      simp [deliver, standing, hcomplete, harrived, Requester.listener?_drained, hlistener, hkept]
  | some done =>
      have hne : id ≠ done.1 := by
        rw [hdone done.1 done.2 hcomplete]
        exact hid.symm
      simp [deliver, standing, hcomplete, harrived, Requester.listener?_drained, hlistener, hkept,
        hne]

theorem effect (h : x.requester.drained = x.requester) (hmake : x.make? move = some y) (id : Nat) :
    Effect id x move y := by
  cases makes hmake with
  | number | take | refuse | quit | respond => exact .beside rfl (fun _ => nofun) rfl
  | @enter other listener hnumbered =>
      by_cases hid : other = id
      · subst hid
        exact .entered rfl hnumbered
      · refine .beside rfl (fun _ => nofun) ?_
        simp [standing, Requester.listener?_enter, hid]
  | send _ htakes => exact .beside (by simp [closes, withdraws, htakes]) (fun _ => nofun) rfl
  | @fail other _ _ _ htakes =>
      by_cases hid : other = id
      · subst hid
        refine .closed (.inl (by simp [withdraws, htakes])) ?_
        simp [standing, Standing.closed]
      · refine .beside (by simp [closes, withdraws, hid]) (fun _ => nofun) ?_
        simp [standing, Requester.listener?_forget_of_ne hid]
  | @forget other =>
      by_cases hid : other = id
      · subst hid
        refine .closed (.inl (by simp [withdraws])) ?_
        simp [standing, Standing.closed]
      · refine .beside (by simp [closes, withdraws, hid]) (fun _ => nofun) ?_
        simp [standing, Requester.listener?_forget_of_ne hid]
  | @hangUp other _ _ hlistener =>
      by_cases hid : other = id
      · subst hid
        refine .hungUp rfl (by simp [hlistener]) ?_
        simp [standing, Standing.hungUp, hlistener, Requester.listener?_setListener hlistener]
      · refine .beside (by simp [closes, withdraws, hid]) (fun _ => nofun) ?_
        simp [standing, Requester.listener?_setListener_of_ne hid]
  | @gone other hlistener =>
      by_cases hid : other = id
      · subst hid
        exact .hungUp rfl (by simp [hlistener]) (by simp [standing, Standing.hungUp, hlistener])
      · exact .beside (by simp [closes, withdraws, hid]) (fun _ => nofun) rfl
  | @route response responses _ hresponses =>
      by_cases hid : response.id = id
      · subst hid
        exact .heard (by simp [routed?, hresponses]) rfl
          (standing_deliver_self h response.id response.event responses)
      · refine .beside rfl (fun event hrouted => hid ?_) (standing_deliver_of_ne h hid responses)
        rw [routed?, hresponses] at hrouted
        rw [Option.some.inj hrouted]
  | finish _ hresponses =>
      exact .closed (.inr (by simp [isEnd, hresponses])) rfl

end Exchange

end LiveBuild
