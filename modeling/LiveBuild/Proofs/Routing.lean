import LiveBuild.Proofs.Exchange
import LiveBuild.Service.Action

/-!
# Responses find their requests

No two requests get the same number, and the stream of a request gets the events with its number
that are routed while it is listened to, in their order and nothing else. It is listened to from
before it is sent, so no answer to it comes too early.
-/

namespace LiveBuild

/-- Only routes change when a response is delivered. -/
theorem Requester.deliver_keeps (r : Requester) (response : WorkResponse) :
    (r.deliver response).1.nextId = r.nextId ∧
      (r.deliver response).1.isRouting = r.isRouting := by
  rw [deliver]
  split
  · exact ⟨rfl, rfl⟩
  · split <;> exact ⟨rfl, rfl⟩
  · dsimp only
    split <;> exact ⟨rfl, rfl⟩

namespace Exchange

open Requester (Listener)

variable {x y z e : Exchange} {move : Move} {moment : Exchange × Move}
  {history before during after later : History} {id : Nat} {listener : Listener}
  {command : RequestKind} {files : List Path} {event : BuildEvent} {summary : BuildSummary}

@[simp] theorem nextId_deliver (x : Exchange) (response : WorkResponse)
    (responses : List WorkResponse) :
    (x.deliver response responses).requester.nextId = x.requester.nextId :=
  (Requester.deliver_keeps _ _).1

@[simp] theorem isRouting_deliver (x : Exchange) (response : WorkResponse)
    (responses : List WorkResponse) :
    (x.deliver response responses).requester.isRouting = x.requester.isRouting :=
  (Requester.deliver_keeps _ _).2

/-! ### Every number is used once -/

/-- The number was given, and its route was entered. -/
def IsSpent (x : Exchange) (id : Nat) : Prop := id < x.requester.nextId ∧ id ∉ x.numbered

theorem IsSpent.next (h : x.IsSpent id) (hmake : x.make? move = some y) : y.IsSpent id := by
  obtain ⟨hlt, hnumbered⟩ := h
  cases makes hmake with
  | number =>
      refine ⟨Nat.lt_succ_of_lt hlt, fun hmem => ?_⟩
      rcases List.mem_append.1 hmem with hmem | hmem
      · exact hnumbered hmem
      · exact Nat.ne_of_lt hlt (List.mem_singleton.1 hmem)
  | enter => exact ⟨hlt, fun hmem => hnumbered (List.mem_filter.1 hmem).1⟩
  | route => exact ⟨by rwa [nextId_deliver], hnumbered⟩
  | _ => exact ⟨hlt, hnumbered⟩

theorem IsSpent.run (h : x.IsSpent id) (hrun : Runs x history y) : y.IsSpent id := by
  induction hrun with
  | start => exact h
  | next hmake _ ih => exact ih (h.next hmake)

/-- The route of a request is entered once. -/
theorem IsSpent.not_entered (h : x.IsSpent id) (hrun : Runs x history y) :
    ∀ moment ∈ history, ∀ listener, moment.2 ≠ .enter id listener := by
  rintro ⟨e, move⟩ hmoment listener rfl
  obtain ⟨before, after, hhistory⟩ := List.append_of_mem hmoment
  obtain ⟨hbefore, y', hmake, -⟩ := hrun.at_moment hhistory
  cases makes hmake with
  | enter hnumbered => exact (h.run hbefore).2 hnumbered

structure Valid (x : Exchange) : Prop where
  drained : x.requester.drained = x.requester
  given : ∀ id ∈ x.numbered, id < x.requester.nextId
  spent : ∀ id ∈ x.entered, x.IsSpent id
  fresh : ∀ id, x.requester.nextId ≤ id → x.requester.listener? id = none
  ended : x.requester.isRouting = false → x.responses = [] ∧ x.responds = false

theorem valid_start : Valid {} :=
  ⟨rfl, fun _ => nofun, fun _ => nofun, fun _ _ => rfl, nofun⟩

theorem drained_next (h : x.requester.drained = x.requester) (hmake : x.make? move = some y) :
    y.requester.drained = y.requester := by
  cases makes hmake with
  | number => exact congrArg (fun r => { r with nextId := x.requester.nextId + 1 }) h
  | @enter id listener _ hlistener =>
      have hfresh : listener.drained = listener := by rcases hlistener with rfl | rfl <;> rfl
      simp only [Requester.drained_enter, h, hfresh]
  | fail | forget => simp only [Requester.drained_forget, h]
  | hangUp => simp only [Requester.drained_setListener, h, Listener.drained]
  | route => exact Requester.drained_drained _
  | finish => rfl
  | send | gone | take | refuse | respond | quit => exact h

theorem nextId_le (hmake : x.make? move = some y) :
    x.requester.nextId ≤ y.requester.nextId := by
  cases makes hmake with
  | number => exact Nat.le_succ _
  | route => exact Nat.le_of_eq (nextId_deliver _ _ _).symm
  | _ => exact Nat.le_refl _

theorem Valid.next (h : x.Valid) (hmake : x.make? move = some y) : y.Valid := by
  have hspent : ∀ id ∈ x.entered, y.IsSpent id := fun id hid => (h.spent id hid).next hmake
  refine ⟨drained_next h.drained hmake, ?_, ?_, ?_, ?_⟩
  · cases makes hmake with
    | number =>
        intro id hid
        rcases List.mem_append.1 hid with hid | hid
        · exact Nat.lt_succ_of_lt (h.given id hid)
        · exact List.mem_singleton.1 hid ▸ Nat.lt_succ_self _
    | enter => exact fun id hid => h.given id (List.mem_filter.1 hid).1
    | route =>
        intro id hid
        rw [nextId_deliver]
        exact h.given id hid
    | _ => exact h.given
  · cases makes hmake with
    | @enter new _ hnumbered =>
        intro id hid
        rcases List.mem_append.1 hid with hid | hid
        · exact hspent id hid
        · obtain rfl := List.mem_singleton.1 hid
          exact ⟨h.given id hnumbered, by simp⟩
    | send | fail => exact fun id hid => hspent id (List.mem_filter.1 hid).1
    | _ => exact hspent
  · intro id hid
    have hid' := Nat.le_trans (nextId_le hmake) hid
    have hnone : (x.standing id).listener? = none := h.fresh id hid'
    have hkept := (effect h.drained hmake id).of_none hnone
      fun _ _ hnumbered => Nat.not_lt.2 hid' (h.given id hnumbered)
    exact (congrArg Standing.listener? hkept).trans hnone
  · intro hover
    cases makes hmake with
    | respond hresponds =>
        have hover := (h.ended hover).2
        simp [hresponds] at hover
    | route hrouting =>
        rw [isRouting_deliver, hrouting] at hover
        contradiction
    | finish _ hresponses hresponds => exact ⟨hresponses, hresponds⟩
    | quit => exact ⟨(h.ended hover).1, rfl⟩
    | _ => exact h.ended hover

theorem Valid.run (h : x.Valid) (hrun : Runs x history y) : y.Valid := by
  induction hrun with
  | start => exact h
  | next hmake _ ih => exact ih (h.next hmake)

theorem Valid.isSpent_of_enter (h : x.Valid) (hmake : x.make? (.enter id listener) = some y) :
    y.IsSpent id := by
  refine (h.next hmake).spent id ?_
  cases makes hmake with
  | enter => exact List.mem_append_right _ List.mem_cons_self

theorem Runs.isSpent_of_enter (h : Runs x history y) (hvalid : x.Valid)
    (hentered : (e, .enter id listener) ∈ history) : y.IsSpent id := by
  obtain ⟨before, after, hhistory⟩ := List.append_of_mem hentered
  obtain ⟨hbefore, z, hmake, hafter⟩ := h.at_moment hhistory
  exact ((hvalid.run hbefore).isSpent_of_enter hmake).run hafter

theorem listener?_of_withdraws (hmake : x.make? move = some y)
    (h : withdraws id (x, move) = true ∨ isEnd (x, move) = true) :
    y.requester.listener? id = none := by
  cases makes hmake with
  | fail _ htakes =>
      obtain rfl : _ = id := by simpa [withdraws, isEnd, htakes] using h
      exact Requester.listener?_forget_self _ _
  | forget =>
      obtain rfl : _ = id := by simpa [withdraws, isEnd] using h
      exact Requester.listener?_forget_self _ _
  | finish => rfl
  | send _ htakes => simp [withdraws, isEnd, htakes] at h
  | route _ hresponses => simp [withdraws, isEnd, hresponses] at h
  | _ => simp [withdraws, isEnd] at h

/-- The requests have the numbers that follow each other. -/
theorem Runs.numbers_eq (h : Runs x history y) :
    numbers history = List.range' x.requester.nextId (numbers history).length := by
  induction h with
  | start => rfl
  | @next x y z move later hmake _ ih =>
      have hcons : numbers ((x, move) :: later) = numbers [(x, move)] ++ numbers later :=
        List.filterMap_append (l := [_])
      cases makes hmake with
      | number =>
          change x.requester.nextId :: numbers later = _
          rw [ih]
          rfl
      | route =>
          rw [nextId_deliver] at ih
          exact ih
      | _ => exact ih

/-- What was put on the line has been routed or still waits, in its order. -/
theorem Runs.responded_eq (h : Runs x history y) :
    x.responses ++ responded history = history.filterMap routed? ++ y.responses := by
  induction h with
  | start => simp [responded]
  | @next x y z move later hmake _ ih =>
      cases makes hmake with
      | respond =>
          rw [List.append_assoc] at ih
          exact ih
      | @route response responses _ hresponses =>
          have hrouted : routed? (x, .route) = some response := by simp [routed?, hresponses]
          rw [List.filterMap_cons_some hrouted, hresponses, List.cons_append, List.cons_append]
          exact congrArg (response :: ·) ih
      | finish _ hresponses =>
          have hrouted : routed? (x, .route) = none := by simp [routed?, hresponses]
          rw [List.filterMap_cons_none hrouted]
          exact ih
      | _ => exact ih

/-! ### The line of a service -/

theorem filter_snoc_self {ids : List Nat} (h : id ∉ ids) :
    (ids ++ [id]).filter (· != id) = ids := by
  rw [List.filter_append, List.filter_eq_self.2]
  · simp
  · intro other hother
    simpa using ne_of_mem_of_not_mem hother h

/-- If nothing comes between the moves of a request, they are the request that a service makes. -/
theorem Valid.replay?_request (h : x.Valid)
    (hlistener : listener = .stream [] true ∨ listener = .report {}) :
    (x.replay? [.number, .enter x.requester.nextId listener,
        .submit x.requester.nextId command files]).map (·.2) =
      some { x with
        requester := (x.requester.request x.takesRequests listener command files).1
        requests := x.requests ++
          (x.requester.request x.takesRequests listener command files).2.toOption.toList } := by
  have hnumbered : x.requester.nextId ∉ x.numbered := fun hid => Nat.lt_irrefl _ (h.given _ hid)
  have hentered : x.requester.nextId ∉ x.entered := fun hid => Nat.lt_irrefl _ (h.spent _ hid).1
  have hforget := Requester.forget_enter
    (r := { x.requester with nextId := x.requester.nextId + 1 }) (h.fresh _ (Nat.le_refl _))
    listener
  cases htakes : x.takesRequests with
  | true =>
      simp [replay?, make?, hlistener, htakes, filter_snoc_self hnumbered,
        filter_snoc_self hentered, Requester.request, Requester.enter, Except.toOption]
  | false =>
      simp [replay?, make?, hlistener, htakes, filter_snoc_self hnumbered,
        filter_snoc_self hentered, Requester.request, hforget, Except.toOption]

section Service

open Service

variable {σ : Type} {line : Line} {r : Requester} {isConnected : Bool} {response : WorkResponse}

theorem line_foldl {α : Type} {f : Service σ → α → Service σ}
    (h : ∀ s a, (f s a).line = s.line) (as : List α) (s : Service σ) :
    (as.foldl f s).line = s.line := by
  induction as generalizing s with
  | nil => rfl
  | cons a as ih => exact (ih _).trans (h s a)

theorem line_closeRoutes (s : Service σ) (line : Line) (r : Requester) (isConnected : Bool) :
    ∃ last, (s.closeRoutes line r isConnected).line = some last ∧
      last.near = .requester r isConnected ∧ last.responses = line.responses := by
  have hlost := line_foldl (f := fun (s : Service σ) (entry : Nat × Ticket) =>
    s.conclude entry.2 (.report (.error (Requester.stopped entry.1)))) fun _ _ => rfl
  have hended := line_foldl (f := fun (s : Service σ) (entry : Nat × Nat) => s.endStream entry.2)
    fun _ _ => rfl
  rw [closeRoutes, hlost, hended]
  exact ⟨_, rfl, rfl, rfl⟩

/-- A service routes a response as an exchange does. -/
theorem line_routeResponse (s : Service σ) (hdrained : r.drained = r)
    (hstream : ∀ arrived isHeld, r.listener? response.id = some (.stream arrived isHeld) →
      ∃ entry ∈ line.streams, entry.1 = response.id) :
    ∃ last, (s.routeResponse line r isConnected response).line = some last ∧
      last.near = .requester (r.deliver response).1.drained isConnected ∧
      last.responses = line.responses := by
  rw [routeResponse]
  cases hlistener : r.listener? response.id with
  | none =>
      rw [Requester.deliver_of_none hlistener, hdrained]
      simp only [hlistener]
      exact line_closeRoutes _ _ _ _
  | some listener =>
      have hsame := Requester.drained_listener hdrained hlistener
      cases listener with
      | stream arrived isHeld =>
          obtain rfl : arrived = [] := by simpa [Listener.drained] using hsame.symm
          cases isHeld with
          | true =>
              obtain ⟨entry, hentry, hid⟩ := hstream [] true hlistener
              obtain ⟨found, hfound⟩ : ∃ found,
                  line.streams.find? (fun entry => entry.1 == response.id) = some found :=
                Option.isSome_iff_exists.1 (List.find?_isSome.2 ⟨entry, hentry, by simp [hid]⟩)
              have hgiven :=
                Requester.listener?_setListener hlistener (.stream [response.event] true)
              simp only [Requester.deliver, hlistener, if_true, List.nil_append, hgiven, hfound,
                Requester.drained_setListener, hdrained, Requester.setListener_setListener,
                Listener.drained]
              exact line_closeRoutes _ _ _ _
          | false =>
              simp only [Requester.deliver, hlistener, Bool.false_eq_true, if_false,
                Requester.drained_forget, hdrained, Requester.listener?_forget_self]
              exact line_closeRoutes _ _ _ _
      | report summary =>
          cases hadd : summary.add response.event with
          | mk next isComplete =>
              cases isComplete with
              | true =>
                  simp only [Requester.deliver, hlistener, hadd, if_true,
                    Requester.drained_forget, hdrained]
                  exact line_closeRoutes _ _ _ _
              | false =>
                  have hadded := Requester.listener?_setListener hlistener (.report next)
                  simp only [Requester.deliver, hlistener, hadd, Bool.false_eq_true, if_false,
                    hadded, Requester.drained_setListener, hdrained, Listener.drained]
                  exact line_closeRoutes _ _ _ _

end Service

/-! ### What becomes of one request -/

/-- Nothing is routed after the end. -/
theorem Runs.said_of_over (h : Runs x history y) (hover : x.requester.isRouting = false) :
    said id history = [] := by
  induction h with
  | start => rfl
  | @next x y z move later hmake _ ih =>
      cases makes hmake with
      | route hrouting | finish hrouting =>
          rw [hrouting] at hover
          contradiction
      | _ => exact ih hover

theorem said_takeWhile_of_nil (h : said id history = []) (p : Exchange × Move → Bool) :
    said id (history.takeWhile p) = [] := by
  rw [← List.takeWhile_append_dropWhile (p := p) (l := history), said_append] at h
  exact (List.append_eq_nil_iff.1 h).1

/-- A request without a route has no part in anything until one is entered for it. -/
theorem Runs.standing_of_none (h : Runs x history y) (hvalid : x.Valid)
    (hentered : ∀ moment ∈ history, ∀ listener, moment.2 ≠ .enter id listener)
    (hnone : (x.standing id).listener? = none) : y.standing id = x.standing id := by
  induction h with
  | start => rfl
  | @next x y z move later hmake _ ih =>
      obtain ⟨hmove, hlater⟩ := List.forall_mem_cons.1 hentered
      have hkept := (effect hvalid.drained hmake id).of_none hnone
        fun listener henter => absurd henter (hmove listener)
      rw [ih (hvalid.next hmake) hlater (hkept ▸ hnone), hkept]

theorem Runs.received_of_isShut (h : Runs x history y) (hvalid : x.Valid) (hspent : x.IsSpent id)
    (hshut : (x.standing id).IsShut) : y.received id = x.received id := by
  induction h with
  | start => rfl
  | @next x y z move later hmake _ ih =>
      have hkept : (y.standing id).IsShut ∧ (y.standing id).received = x.received id := by
        cases effect hvalid.drained hmake id with
        | entered _ hnumbered => exact absurd hnumbered hspent.2
        | closed _ heffect => exact heffect ▸ ⟨Standing.isShut_closed _, rfl⟩
        | hungUp _ _ heffect => exact heffect ▸ ⟨Standing.isShut_hungUp _, rfl⟩
        | heard _ _ heffect => exact heffect ▸ hshut.heard _
        | beside _ _ heffect => exact heffect ▸ ⟨hshut, rfl⟩
      exact (ih (hvalid.next hmake) (hspent.next hmake) hkept.1).trans hkept.2

/-- Once a request is withdrawn or the end has come, no more of what is routed is for it. -/
theorem said_takeWhile_of_closed (h : withdraws id (x, move) = true ∨ isEnd (x, move) = true)
    (hmake : x.make? move = some y) (hlater : Runs y later z) :
    said id (((x, move) :: later).takeWhile fun moment => !closes id moment) = [] := by
  rcases h with hwithdraws | hend
  · have hcloses : closes id (x, move) = true := by simp [closes, hwithdraws]
    rw [List.takeWhile_cons_of_neg (by simp [hcloses])]
    rfl
  · refine said_takeWhile_of_nil ?_ _
    cases makes hmake with
    | finish _ hresponses =>
        rw [said_cons_of_not_routed (by simp [routed?, hresponses])]
        exact hlater.said_of_over rfl
    | route _ hresponses => simp [isEnd, hresponses] at hend
    | _ => simp [isEnd] at hend

/-- A stream gets what is routed to its request until it is closed. -/
theorem Runs.received_of_stream (h : Runs x history y) (hvalid : x.Valid) (hspent : x.IsSpent id)
    (hopen : (x.standing id).listener? = some (.stream [] true)) :
    y.received id =
      x.received id ++ said id (history.takeWhile fun moment => !closes id moment) := by
  induction h with
  | start => simp [said]
  | @next x y z move later hmake hlater ih =>
      replace ih := ih (hvalid.next hmake) (hspent.next hmake)
      cases effect hvalid.drained hmake id with
      | entered _ hnumbered => exact absurd hnumbered hspent.2
      | closed hclosed heffect =>
          have hgone := hlater.standing_of_none (hvalid.next hmake)
            ((hspent.next hmake).not_entered hlater) (congrArg Standing.listener? heffect)
          rw [said_takeWhile_of_closed hclosed hmake hlater, List.append_nil]
          exact congrArg Standing.received (hgone.trans heffect)
      | hungUp hmove _ heffect =>
          have hcloses : closes id (x, move) = true := by simp [closes, hmove]
          have hshut := hlater.received_of_isShut (hvalid.next hmake) (hspent.next hmake)
            (heffect ▸ Standing.isShut_hungUp _)
          rw [List.takeWhile_cons_of_neg (by simp [hcloses]), hshut]
          exact (congrArg Standing.received heffect).trans (List.append_nil _).symm
      | @heard event hrouted hcloses heffect =>
          rw [Standing.heard_of_stream hopen] at heffect
          have hreceived : y.received id = x.received id ++ [event] :=
            congrArg Standing.received heffect
          rw [List.takeWhile_cons_of_pos (by simp [hcloses]), said_cons_of_routed hrouted,
            ih ((congrArg Standing.listener? heffect).trans hopen), hreceived, List.append_assoc,
            List.singleton_append]
      | beside hcloses hrouted heffect =>
          rw [List.takeWhile_cons_of_pos (by simp [hcloses]), said_cons_of_not_routed hrouted,
            ih (heffect ▸ hopen)]
          exact congrArg (· ++ _) (congrArg Standing.received heffect)

/-- A report takes in what is routed to its request until it is complete. -/
theorem Runs.reported_of_report (h : Runs x history y) (hvalid : x.Valid) (hspent : x.IsSpent id)
    (hopen : (x.standing id).listener? = some (.report summary))
    (hnone : (x.standing id).reported? = none) :
    y.reported? id =
      summary.complete? (said id (history.takeWhile fun moment => !closes id moment)) := by
  induction h generalizing summary with
  | start => exact hnone
  | @next x y z move later hmake hlater ih =>
      replace ih {next : BuildSummary} := @ih next (hvalid.next hmake) (hspent.next hmake)
      have hgone := hlater.standing_of_none (hvalid.next hmake)
        ((hspent.next hmake).not_entered hlater)
      cases effect hvalid.drained hmake id with
      | entered _ hnumbered => exact absurd hnumbered hspent.2
      | closed hclosed heffect =>
          rw [said_takeWhile_of_closed hclosed hmake hlater]
          have hlast := (hgone (congrArg Standing.listener? heffect)).trans heffect
          exact (congrArg Standing.reported? hlast).trans hnone
      | hungUp _ hreport => exact absurd hopen (hreport summary)
      | @heard event hrouted hcloses heffect =>
          rw [List.takeWhile_cons_of_pos (by simp [hcloses]), said_cons_of_routed hrouted,
            BuildSummary.complete?]
          cases hadd : summary.add event with
          | mk next isComplete =>
              rw [Standing.heard_of_report hopen hadd] at heffect
              cases isComplete with
              | true =>
                  have hlast := (hgone (congrArg Standing.listener? heffect)).trans heffect
                  exact congrArg Standing.reported? hlast
              | false =>
                  exact ih (congrArg Standing.listener? heffect)
                    ((congrArg Standing.reported? heffect).trans hnone)
      | beside hcloses hrouted heffect =>
          rw [List.takeWhile_cons_of_pos (by simp [hcloses]), said_cons_of_not_routed hrouted]
          exact ih (heffect ▸ hopen) (heffect ▸ hnone)

/-! ### Where a request comes from -/

theorem Runs.mem_numbers (h : Runs x history y) (hid : id ∈ y.numbered) :
    id ∈ x.numbered ∨ id ∈ numbers history := by
  induction h with
  | start => exact .inl hid
  | @next x y z move later hmake _ ih =>
      have hlater : id ∈ numbers later → id ∈ numbers ((x, move) :: later) := by
        intro hid
        obtain ⟨moment, hmoment, hnumber⟩ := List.mem_filterMap.1 hid
        exact List.mem_filterMap.2 ⟨moment, List.mem_cons_of_mem _ hmoment, hnumber⟩
      rcases ih hid with hid | hid
      · cases makes hmake with
        | number =>
            rcases List.mem_append.1 hid with hid | hid
            · exact .inl hid
            · exact .inr (List.mem_filterMap.2 ⟨_, List.mem_cons_self, by simp_all⟩)
        | enter => exact .inl (List.mem_filter.1 hid).1
        | _ => exact .inl hid
      · exact .inr (hlater hid)

theorem Runs.mem_entered (h : Runs x history y) (hid : id ∈ y.entered) :
    id ∈ x.entered ∨ ∃ e listener, (e, .enter id listener) ∈ history := by
  induction h with
  | start => exact .inl hid
  | @next x y z move later hmake _ ih =>
      rcases ih hid with hid | ⟨e, listener, hentered⟩
      · cases makes hmake with
        | enter =>
            rcases List.mem_append.1 hid with hid | hid
            · exact .inl hid
            · obtain rfl := List.mem_singleton.1 hid
              exact .inr ⟨x, _, List.mem_cons_self⟩
        | send | fail => exact .inl (List.mem_filter.1 hid).1
        | _ => exact .inl hid
      · exact .inr ⟨e, listener, List.mem_cons_of_mem _ hentered⟩

/-- Every response is to a request that was sent before. -/
def IsSolicited (history : History) : Prop :=
  ∀ before e response after, history = before ++ (e, .respond response) :: after →
    ∃ sender command files, (sender, .submit response.id command files) ∈ before ∧
      sender.takesRequests = true

/-- A request is sent only after its route is entered. -/
theorem Runs.entered_of_submit (h : Runs {} history x)
    (hhistory : history = before ++ (e, .submit id command files) :: after) :
    ∃ e' listener, (e', .enter id listener) ∈ before := by
  obtain ⟨hbefore, y, hmake, -⟩ := h.at_moment hhistory
  have hentered : id ∈ e.entered := by
    cases makes hmake with
    | send hentered | fail hentered => exact hentered
  rcases hbefore.mem_entered hentered with hid | hentered
  · nomatch hid
  · exact hentered

/-- So nothing can come for a request before it is listened to. -/
theorem IsSolicited.said_eq_nil (h : IsSolicited history) (hrun : Runs {} history x)
    (hhistory : history = before ++ after)
    (hentered : ∀ moment ∈ before, ∀ listener, moment.2 ≠ .enter id listener) :
    said id before = [] := by
  obtain ⟨e, hbefore, -⟩ := hrun.split hhistory
  refine List.eq_nil_iff_forall_not_mem.2 fun event hevent => ?_
  obtain ⟨moment, hmoment, hrouted⟩ := mem_said.1 hevent
  have hresponded : ⟨id, event⟩ ∈ responded before := by
    have hline := hbefore.responded_eq
    rw [List.nil_append] at hline
    rw [hline]
    exact List.mem_append_left _ (List.mem_filterMap.2 ⟨moment, hmoment, hrouted⟩)
  obtain ⟨⟨e', move⟩, hmoment', hrespond⟩ := List.mem_filterMap.1 hresponded
  obtain ⟨earlier, later, rfl⟩ := List.append_of_mem hmoment'
  cases move <;> simp only [reduceCtorEq, Option.some.injEq] at hrespond
  subst hrespond
  obtain ⟨sender, command, files, hsent, -⟩ := h earlier e' _ (later ++ after)
    (by rw [hhistory, List.append_assoc, List.cons_append])
  obtain ⟨first, rest, rfl⟩ := List.append_of_mem hsent
  have hsplit : history = first ++ (sender, .submit id command files) ::
      (rest ++ (e', .respond ⟨id, event⟩) :: later ++ after) := by
    simp [hhistory]
  obtain ⟨e'', listener, hmem⟩ := hrun.entered_of_submit hsplit
  exact hentered _ (List.mem_append_left _ (List.mem_append_left _ hmem)) listener rfl

/-- From when its route is entered, a request has what the responses to it amount to. -/
theorem Runs.answer_of_enter (h : Runs {} history x)
    (hhistory : history = before ++ (e, .enter id listener) :: during) :
    id ∈ numbers before ∧
      (∀ moment ∈ before ++ during, ∀ other, moment.2 ≠ .enter id other) ∧
      (IsSolicited history → said id before = []) ∧
      (listener = .stream [] true ∧
          x.received id = said id (during.takeWhile fun moment => !closes id moment) ∨
        listener = .report {} ∧ x.reported? id = BuildSummary.complete? {}
          (said id (during.takeWhile fun moment => !closes id moment))) := by
  obtain ⟨hbefore, e', hmake, hduring⟩ := h.at_moment hhistory
  have hvalid := (valid_start.run hbefore).next hmake
  have hspent := (valid_start.run hbefore).isSpent_of_enter hmake
  cases makes hmake with
  | enter hnumbered hlistener =>
      have hearlier : ∀ moment ∈ before, ∀ other, moment.2 ≠ .enter id other := by
        rintro ⟨e'', move⟩ hmoment other rfl
        exact (hbefore.isSpent_of_enter valid_start hmoment).2 hnumbered
      have hblank : e.standing id = ⟨none, [], none⟩ :=
        hbefore.standing_of_none valid_start hearlier rfl
      have hnone : e.requester.listener? id = none := congrArg Standing.listener? hblank
      have hroute : (e.requester.enter id listener).listener? id = some listener := by
        simp [Requester.listener?_enter, hnone]
      refine ⟨(hbefore.mem_numbers hnumbered).resolve_left nofun, ?_,
        fun hsolicited => hsolicited.said_eq_nil h hhistory hearlier, ?_⟩
      · intro moment hmoment
        rcases List.mem_append.1 hmoment with hmoment | hmoment
        · exact hearlier moment hmoment
        · exact hspent.not_entered hduring moment hmoment
      · rcases hlistener with rfl | rfl
        · refine .inl ⟨rfl, (hduring.received_of_stream hvalid hspent hroute).trans ?_⟩
          exact congrArg (· ++ _) (congrArg Standing.received hblank)
        · exact .inr ⟨rfl, hduring.reported_of_report hvalid hspent hroute
            (congrArg Standing.reported? hblank)⟩

/-- A request that is withdrawn leaves no route, and the end leaves none of those entered before. -/
theorem Runs.listener?_of_gone (h : Runs {} history x)
    (hhistory : history = before ++ (e, move) :: after)
    (hmove : withdraws id (e, move) = true ∨ isEnd (e, move) = true)
    (hentered : ∃ e' listener, (e', .enter id listener) ∈ before) :
    x.requester.listener? id = none := by
  obtain ⟨hbefore, y, hmake, hafter⟩ := h.at_moment hhistory
  obtain ⟨e', listener, hmem⟩ := hentered
  have hvalid := (valid_start.run hbefore).next hmake
  have hspent := (hbefore.isSpent_of_enter valid_start hmem).next hmake
  have hgone := listener?_of_withdraws hmake hmove
  have hlast := hafter.standing_of_none hvalid (hspent.not_entered hafter) hgone
  exact (congrArg Standing.listener? hlast).trans hgone

/-- A response that nobody listens for is taken off the line, and nothing else happens. -/
theorem Valid.make?_route_of_none (h : x.Valid) {response : WorkResponse}
    {responses : List WorkResponse} (hresponses : x.responses = response :: responses)
    (hnone : x.requester.listener? response.id = none) :
    x.make? .route = some { x with responses } := by
  have hrouting : x.requester.isRouting = true := by
    by_contra hover
    rw [(h.ended (Bool.eq_false_iff.2 hover)).1] at hresponses
    contradiction
  simp only [make?, if_pos hrouting, hresponses, deliver, Requester.deliver_of_none hnone,
    h.drained, Requester.arrived_of_drained h.drained, List.append_nil]

/-- No two requests get the same number, and as long as there are fewer than `2 ^ 64` of them, the
numbers fit into 64 bits. Responses are routed in the order in which they were put on the line. A
request is listened to from the moment in which its route is entered, and if responses come only to
requests that were sent, none of them is routed before. Its stream gets the events that are routed
with its number until it is forgotten, cannot be sent or is hung up; a report gets them until it is
complete. Requests without a route get nothing: those that were not entered, those that were
forgotten or could not be sent, and at the end of all responses every one entered until then. A
response to such a request changes nothing. -/
theorem responses_routed_by_number (h : Runs {} history x) :
    (numbers history).Nodup ∧
    ((numbers history).length < UInt64.size → ∀ id ∈ numbers history, id < UInt64.size) ∧
    responded history = history.filterMap routed? ++ x.responses ∧
    (∀ before e id listener during, history = before ++ (e, .enter id listener) :: during →
      id ∈ numbers before ∧
      (∀ moment ∈ before ++ during, ∀ other, moment.2 ≠ .enter id other) ∧
      (IsSolicited history → said id before = []) ∧
      (listener = .stream [] true ∧
          x.received id = said id (during.takeWhile fun moment => !closes id moment) ∨
        listener = .report {} ∧ x.reported? id = BuildSummary.complete? {}
          (said id (during.takeWhile fun moment => !closes id moment)))) ∧
    (∀ id, (∀ moment ∈ history, ∀ listener, moment.2 ≠ .enter id listener) →
      x.requester.listener? id = none ∧ x.received id = [] ∧ x.reported? id = none) ∧
    (∀ before e id command files after,
      history = before ++ (e, .submit id command files) :: after →
      (∃ e' listener, (e', .enter id listener) ∈ before) ∧
      (e.takesRequests = false → x.requester.listener? id = none)) ∧
    (∀ before e move after id, history = before ++ (e, move) :: after →
      move = .forget id ∨ isEnd (e, move) = true →
      (∃ e' listener, (e', .enter id listener) ∈ before) → x.requester.listener? id = none) ∧
    (∀ response responses, x.responses = response :: responses →
      x.requester.listener? response.id = none → x.make? .route = some { x with responses }) := by
  have hnumbers := h.numbers_eq
  refine ⟨?_, ?_, ?_, ?_, ?_, ?_, ?_, ?_⟩
  · rw [hnumbers]
    exact List.nodup_range'
  · intro hfew id hid
    rw [hnumbers] at hid
    have hlt := (List.mem_range'_1.1 hid).2
    change id < 1 + _ at hlt
    omega
  · simpa using h.responded_eq
  · exact fun before e id listener during hhistory => h.answer_of_enter hhistory
  · intro id hentered
    have hblank := h.standing_of_none valid_start hentered rfl
    exact ⟨congrArg Standing.listener? hblank, congrArg Standing.received hblank,
      congrArg Standing.reported? hblank⟩
  · intro before e id command files after hhistory
    have hentered := h.entered_of_submit hhistory
    refine ⟨hentered, fun htakes => h.listener?_of_gone hhistory (.inl ?_) hentered⟩
    simp [withdraws, htakes]
  · intro before e move after id hhistory hmove hentered
    refine h.listener?_of_gone hhistory (hmove.imp_left ?_) hentered
    rintro rfl
    simp [withdraws]
  · intro response responses hresponses hnone
    exact (valid_start.run h).make?_route_of_none hresponses hnone

/-! ### Two requests at once, and one that comes too late -/

/-- The second request is entered first. -/
def secondMoves : List Move := [.enter 2 (.stream [] true)]

/-- Four responses come, and the first request is forgotten between two that are for it. -/
def firstMoves : List Move :=
  [.enter 1 (.stream [] true), .submit 2 .watch ["b.js"], .submit 1 .build ["a.js"],
    .respond ⟨2, .built 1⟩, .respond ⟨1, .built 1⟩, .respond ⟨2, .built 2⟩, .respond ⟨1, .built 2⟩,
    .route, .route, .forget 1, .route, .route, .number, .refuse, .enter 3 (.stream [] true)]

theorem responses_routed_by_number_interleaved : ∃ (history : History) (x : Exchange),
    Runs {} history x ∧ (numbers history).Nodup ∧ x.received 2 = [.built 1, .built 2] ∧
      x.received 1 = [.built 1] ∧ x.requester.listener? 3 = none := by
  have hmoves : (replay? {} [.number, .number]).any (fun one =>
      (one.2.replay? secondMoves).any fun two =>
        (two.2.replay? firstMoves).any fun three =>
          (three.2.replay? [.submit 3 .build ["c.js"]]).any fun four =>
            decide (said 2 ((two.1 ++ three.1 ++ four.1).tail.takeWhile
                fun moment => !closes 2 moment) = [.built 1, .built 2]) &&
              decide (said 1 ((three.1 ++ four.1).tail.takeWhile
                fun moment => !closes 1 moment) = [.built 1]) &&
              !three.2.takesRequests) = true := by
    decide +kernel
  obtain ⟨⟨one, x₁⟩, h₁, hmoves⟩ := (Option.any_eq_true _ _).1 hmoves
  obtain ⟨⟨two, x₂⟩, h₂, hmoves⟩ := (Option.any_eq_true _ _).1 hmoves
  obtain ⟨⟨three, x₃⟩, h₃, hmoves⟩ := (Option.any_eq_true _ _).1 hmoves
  obtain ⟨⟨four, x₄⟩, h₄, hcheck⟩ := (Option.any_eq_true _ _).1 hmoves
  simp only [Bool.and_eq_true, decide_eq_true_eq, and_assoc, Bool.not_eq_true'] at hcheck
  obtain ⟨hsecond, hfirst, htakes⟩ := hcheck
  obtain ⟨two, rfl⟩ := exists_cons_of_replay? h₂
  obtain ⟨three, rfl⟩ := exists_cons_of_replay? h₃
  obtain ⟨four, rfl⟩ := exists_cons_of_replay? h₄
  have hrun := (runs_of_replay? h₁).append
    ((runs_of_replay? h₂).append ((runs_of_replay? h₃).append (runs_of_replay? h₄)))
  obtain ⟨hnodup, -, -, hentered, -, hsubmitted, -⟩ := responses_routed_by_number hrun
  refine ⟨_, _, hrun, hnodup, ?_, ?_, ?_⟩
  · obtain ⟨-, -, -, ⟨-, hreceived⟩ | ⟨hreport, -⟩⟩ := hentered one x₁ 2 (.stream [] true)
      (two ++ (x₂, .enter 1 (.stream [] true)) :: three ++ (x₃, .submit 3 .build ["c.js"]) :: four)
      (by simp)
    · rw [hreceived, ← hsecond]
      simp
    · contradiction
  · obtain ⟨-, -, -, ⟨-, hreceived⟩ | ⟨hreport, -⟩⟩ := hentered
      (one ++ (x₁, .enter 2 (.stream [] true)) :: two) x₂ 1 (.stream [] true)
      (three ++ (x₃, .submit 3 .build ["c.js"]) :: four) (by simp)
    · rw [hreceived, ← hfirst]
      simp
    · contradiction
  · have hsubmit := hsubmitted
      (one ++ (x₁, .enter 2 (.stream [] true)) :: two ++ (x₂, .enter 1 (.stream [] true)) :: three)
      x₃ 3 .build ["c.js"] four (by simp)
    exact hsubmit.2 htakes

end Exchange

end LiveBuild
