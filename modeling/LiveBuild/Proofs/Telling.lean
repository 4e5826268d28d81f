import LiveBuild.Proofs.SharedBuild
import LiveBuild.Proofs.Subscribers

/-!
# From the writing of an output to the event that tells of it

A build writes its output and tells of it afterwards; a watch session takes in what it was told in
that order. In between, either the task of the build is about to tell, or its event waits for the
session. Where everybody who asks for builds is one addressee, no build ends in silence.
-/

namespace LiveBuild

/-- The event tells that the file at a path was built. -/
def BuildEvent.isBuildOf (event : BuildEvent) (d : Path) : Bool :=
  match event with
  | .fileBuilt _ dest _ _ => dest.same d
  | _ => false

/-- A build has written its output to a path, and has not told of it yet. -/
def BuildTask.hasWritten (task : BuildTask) (d : Path) : Bool :=
  match task.stage with
  | .finish job (.ok _) => job.dest.same d
  | _ => false

theorem BuildTask.exists_finish {task : BuildTask} {d : Path} (h : task.hasWritten d = true) :
    ∃ job locals, task.stage = .finish job (.ok locals) ∧ job.dest.same d = true := by
  unfold hasWritten at h
  split at h
  · rename_i job locals hstage
    exact ⟨job, locals, hstage, h⟩
  · cases h

theorem BuildEvent.exists_stale {event : BuildEvent} {d : Path} (h : event.isBuildOf d = true) :
    ∃ p ∈ WatchedSources.staleModules event, p.same d = true := by
  cases event with
  | fileBuilt source dest locals parents => exact ⟨dest, List.mem_cons_self, h⟩
  | error | built => cases h

/-- Unless a watch session ends, it changes what it knows of its sources, may take in its first
event, and starts some rebuilds. -/
theorem WatchSession.serve_proceeds {σ : Type} [FileStore σ] {w v : WatchSession}
    {build after : BuildSession σ} {now : Nat} {own : WatchMove}
    (h : w.serve? build now own = some (after, v)) (hown : own ≠ .stop) :
    ∃ (u : WatchSession) (paths : List Path), (after, v) = u.rebuild build paths ∧
      u.addressee = w.addressee ∧ u.isRunning = w.isRunning ∧
      (u.events = w.events ∨
        ∃ accepts event, own = .event accepts ∧ w.events = event :: u.events) := by
  cases own with
  | event accepts =>
      obtain ⟨event, events, hevents, rfl, rfl⟩ := serve_event h
      exact ⟨_, [], rfl, rfl, rfl, .inr ⟨accepts, event, rfl, hevents⟩⟩
  | change =>
      obtain ⟨change, changes, -, rfl, rfl⟩ := serve_change h
      exact ⟨_, [], rfl, rfl, rfl, .inl rfl⟩
  | deadline => exact ⟨_, _, serve_deadline h, rfl, rfl, .inl rfl⟩
  | rebuilt =>
      obtain ⟨call, rebuilt, -, ⟨-, rfl, rfl⟩ | ⟨path, -, heq⟩⟩ := serve_rebuilt h
      · exact ⟨_, [], rfl, rfl, rfl, .inl rfl⟩
      · exact ⟨_, _, heq, rfl, rfl, .inl rfl⟩
  | stop => exact absurd rfl hown

namespace SharedBuild

variable {σ : Type} [FileStore σ] {x y : SharedBuild σ} {move : Move σ} {i : Nat} {d : Path}
  {w : WatchSession}

/-- Some build has written its output to a path, and has not told of it yet. -/
def HasWritten (x : SharedBuild σ) (d : Path) : Prop :=
  ∃ task ∈ x.build.tasks, task.hasWritten d = true

/-- An event that tells of a build of a path waits for a watch session. -/
def Awaits (x : SharedBuild σ) (i : Nat) (d : Path) : Prop :=
  ∃ w, x.watches[i]? = some w ∧ ∃ event ∈ w.events, event.isBuildOf d = true

def IsStopped (x : SharedBuild σ) (i : Nat) : Prop :=
  ∃ w, x.watches[i]? = some w ∧ w.isRunning = false

/-- The modules that a move makes stale: those of the event that a watch session takes in. -/
def stale (x : SharedBuild σ) : Move σ → List Path
  | .serve i (.event accepts) =>
      (((x.running? i).bind fun w => w.takeEvent? x.build.store accepts).map (·.2.stale)).getD []
  | _ => []

/-- What a move makes of the events of a watch session: it queues some, or the session takes in the
first of them, or the session ends. -/
inductive Continues (x : SharedBuild σ) (i : Nat) (move : Move σ) (w v : WatchSession) : Prop
  | hears {heard : List BuildEvent} (hrunning : v.isRunning = w.isRunning)
      (hevents : v.events = w.events ++ heard)
  | takes {event : BuildEvent} (hrunning : w.isRunning = true ∧ v.isRunning = true)
      (hevents : w.events = event :: v.events)
      (hstale : x.stale move = WatchedSources.staleModules event)
  | ends (hmove : move = .serve i .stop) (hrunning : w.isRunning = true)
      (hstopped : v.isRunning = false)

theorem continues_serve {own : WatchMove} {build : BuildSession σ} {v : WatchSession}
    (hw : x.watches[i]? = some w) (hrunning : w.isRunning = true)
    (h : w.serve? x.build x.now own = some (build, v)) : x.Continues i (.serve i own) w v := by
  by_cases hown : own = .stop
  · subst hown
    obtain ⟨-, rfl⟩ := WatchSession.serve_stop h
    exact .ends rfl hrunning rfl
  · obtain ⟨u, paths, heq, -, hstill, hevents⟩ := WatchSession.serve_proceeds h hown
    rw [WatchSession.rebuild_eq] at heq
    obtain ⟨-, rfl⟩ := Prod.mk.inj heq
    rcases hevents with hevents | ⟨accepts, event, rfl, hevents⟩
    · exact .hears hstill (by rw [hevents, List.append_nil])
    · refine .takes ⟨hrunning, hstill.trans hrunning⟩ hevents ?_
      rw [stale, running?_eq_some.2 ⟨hw, hrunning⟩, Option.bind_some, WatchSession.takeEvent?,
        hevents]
      rfl

theorem exists_continues (hw : x.watches[i]? = some w) (h : x.next? move = some y) :
    ∃ v, y.watches[i]? = some v ∧ x.Continues i move w v := by
  have hstays : x.Continues i move w w := .hears rfl (List.append_nil _).symm
  cases move with
  | request | edit | wait =>
      obtain rfl := Option.some.inj h
      exact ⟨w, hw, hstays⟩
  | watch addressee window entries =>
      obtain rfl := Option.some.inj h
      obtain ⟨hlt, -⟩ := List.getElem?_eq_some_iff.1 hw
      exact ⟨w, by rwa [List.getElem?_append_left hlt], hstays⟩
  | report j change =>
      obtain ⟨u, hu, rfl⟩ := Option.map_eq_some_iff.1 h
      by_cases hij : j = i
      · subst hij
        obtain rfl : w = u := Option.some.inj (hw.symm.trans (running?_eq_some.1 hu).1)
        exact ⟨{ w with changes := w.changes ++ [change] },
          by rw [List.getElem?_set_self', hw]; rfl, .hears rfl (List.append_nil _).symm⟩
      · exact ⟨w, by rwa [List.getElem?_set_ne hij], hstays⟩
  | build id =>
      obtain ⟨build, -, rfl⟩ := Option.map_eq_some_iff.1 h
      refine ⟨w.hear build.sent, by rw [handOut, List.getElem?_map, hw]; rfl, ?_⟩
      rw [WatchSession.hear]
      split
      · exact .hears rfl rfl
      · exact hstays
  | collect =>
      obtain rfl := Option.some.inj h
      obtain ⟨rebuilds, rebuilt, heq, -⟩ := w.foldl_endRebuild x.build.collect.2
      refine ⟨w.endRebuilds x.build.collect.2, by rw [List.getElem?_map, hw]; rfl, ?_⟩
      rw [WatchSession.endRebuilds, heq]
      exact .hears rfl (List.append_nil _).symm
  | serve j own =>
      obtain ⟨u, build, v, hu, hrunning, hserved, rfl⟩ := next_serve h
      by_cases hij : j = i
      · subst hij
        obtain rfl : w = u := Option.some.inj (hw.symm.trans hu)
        exact ⟨v, by rw [List.getElem?_set_self', hw]; rfl, continues_serve hw hrunning hserved⟩
      · exact ⟨w, by rwa [List.getElem?_set_ne hij], hstays⟩

theorem IsStopped.next (h : x.IsStopped i) (hnext : x.next? move = some y) : y.IsStopped i := by
  obtain ⟨w, hw, hstopped⟩ := h
  obtain ⟨v, hv, hcontinues⟩ := exists_continues hw hnext
  cases hcontinues with
  | hears hrunning => exact ⟨v, hv, hrunning.trans hstopped⟩
  | takes hrunning => simp [hstopped] at hrunning
  | ends _ hrunning => simp [hstopped] at hrunning

/-- An event that waits is taken in, or waits on, unless the session ends. -/
theorem Awaits.next (h : x.Awaits i d) (hnext : x.next? move = some y) :
    (∃ p ∈ x.stale move, p.same d = true) ∨ y.Awaits i d ∨ y.IsStopped i := by
  obtain ⟨w, hw, event, hevent, hbuild⟩ := h
  obtain ⟨v, hv, hcontinues⟩ := exists_continues hw hnext
  cases hcontinues with
  | hears _ hevents =>
      exact .inr (.inl ⟨v, hv, event, hevents ▸ List.mem_append_left _ hevent, hbuild⟩)
  | takes _ hevents hstale =>
      rw [hevents] at hevent
      rcases List.mem_cons.1 hevent with rfl | hevent
      · exact .inl (hstale ▸ BuildEvent.exists_stale hbuild)
      · exact .inr (.inl ⟨v, hv, event, hevent, hbuild⟩)
  | ends _ _ hstopped => exact .inr (.inr ⟨v, hv, hstopped⟩)

/-- A move writes the output of a path: a task of a build that belongs there has code to write, and
succeeds. -/
def Writes (x : SharedBuild σ) (move : Move σ) (d : Path) : Prop :=
  ∃ id task job code locals, move = .build id ∧ x.build.task? id = some task ∧
    task.stage = .write job code locals ∧ job.dest.same d = true ∧
    (FileStore.write x.build.store job.dest code.toUTF8).2 = .ok ()

theorem Writes.hasWritten (h : x.Writes move d) (hnext : x.next? move = some y) :
    y.HasWritten d := by
  obtain ⟨id, task, job, code, locals, rfl, htask, hstage, hdest, hwritten⟩ := h
  obtain ⟨build, hbuild, rfl⟩ := Option.map_eq_some_iff.1 hnext
  obtain rfl : x.build.write task job code locals = build := by
    simpa [BuildSession.step?, htask, hstage] using hbuild
  obtain ⟨hmem, -⟩ := BuildSession.mem_of_task? htask
  refine ⟨{ task with stage := .finish job (.ok locals) }, ?_, hdest⟩
  rw [handOut, BuildSession.write]
  simp only [hwritten]
  exact List.mem_map.2 ⟨task, hmem, if_pos rfl⟩

/-- All tasks work for one addressee, who is told of every output that one of them works on. -/
structure IsFor (a : Addressee) (s : BuildSession σ) : Prop where
  addressee : ∀ task ∈ s.tasks, task.addressee = a
  subscribed : ∀ task ∈ s.tasks, ∀ job, task.stage.job? = some job →
    a ∈ s.register.subscribersAt job.dest

section IsFor

variable {a : Addressee} {s : BuildSession σ}

omit [FileStore σ] in
theorem IsFor.call (h : IsFor a s) (request : BuildSession.Request) :
    IsFor a (s.call a request).1 where
  addressee task htask := by
    rcases List.mem_append.1 htask with htask | htask
    · exact h.addressee task htask
    · rw [List.mem_singleton.1 htask]
  subscribed task htask job hjob := by
    rcases List.mem_append.1 htask with htask | htask
    · exact h.subscribed task htask job hjob
    · rw [List.mem_singleton.1 htask] at hjob
      cases request <;> cases hjob

theorem IsFor.perform (h : IsFor a s) (horderly : s.Orderly) {task : BuildTask}
    {turn : BuildSession.Turn σ} (htask : task ∈ s.tasks) (hturn : s.Turns task turn) :
    IsFor a { s.perform task turn with sent := [] } where
  addressee u hu := by
    rcases (BuildSession.mem_tasks_perform horderly htask turn).1 hu with ⟨hu, -⟩ | rfl | hu
    · exact h.addressee u hu
    · exact h.addressee task htask
    · exact (BuildSession.mem_started hu).2.1.trans (h.addressee task htask)
  subscribed u hu job hjob := by
    have hkept : ∀ {d}, a ∈ s.register.subscribersAt d → a ∈ turn.register.subscribersAt d :=
      fun hd => by
        rw [← h.addressee task htask] at hd ⊢
        exact hturn.mem_subscribersAt_of_mem hd
    change a ∈ turn.register.subscribersAt job.dest
    rcases (BuildSession.mem_tasks_perform horderly htask turn).1 hu with ⟨hu, -⟩ | rfl | hu
    · exact hkept (h.subscribed u hu job hjob)
    · rcases hturn.job?_cases hjob with ⟨hgrants, -⟩ | ⟨hjob, -⟩
      · rw [← h.addressee task htask]
        exact hturn.mem_subscribersAt hgrants.attaches
      · exact hkept (h.subscribed task htask job hjob)
    · rw [hturn.job?_of_started hu] at hjob
      cases hjob

end IsFor

/-- A move of a watch session, or of somebody else whom its events reach; no session is stopped. -/
def Move.IsFor (a : Addressee) : Move σ → Prop
  | .request b _ | .watch b _ _ => b = a
  | .serve _ .stop => False
  | _ => True

omit [FileStore σ] in
theorem Move.IsFor.ne_stop {a : Addressee} {own : WatchMove}
    (h : (Move.serve i own : Move σ).IsFor a) : own ≠ .stop := by
  rintro rfl
  cases h

/-- Everybody who uses a build is one addressee, and the first watch session goes on. -/
structure Alone (a : Addressee) (x : SharedBuild σ) : Prop where
  lawful : Lawful x.build
  isFor : IsFor a x.build
  sessions : ∀ w ∈ x.watches, w.addressee = a
  running : ∃ w, x.watches[0]? = some w ∧ w.isRunning = true

variable {a : Addressee}

theorem alone_watch (store : σ) (options : BuildOptions) (sourceTransform : SourceTransform)
    (a : Addressee) (window : Nat) (entries : List Path) {x : SharedBuild σ}
    (h : (start store options sourceTransform).next? (.watch a window entries) = some x) :
    x.Alone a := by
  have hlawful : Lawful x.build := lawful_next (Lawful.start store options sourceTransform) h
  obtain rfl := Option.some.inj h
  have hnobody : IsFor a (BuildSession.start store options sourceTransform) :=
    ⟨fun _ htask => (nomatch htask), fun _ htask => (nomatch htask)⟩
  exact ⟨hlawful, hnobody.call _, fun w hw => List.mem_singleton.1 hw ▸ rfl, ⟨_, rfl, rfl⟩⟩

namespace Alone

theorem sessions_next (h : x.Alone a) (hmove : move.IsFor a) (hnext : x.next? move = some y) :
    ∀ v ∈ y.watches, v.addressee = a := by
  intro v hv
  obtain ⟨j, hj⟩ := List.mem_iff_getElem?.1 hv
  have hold : ∀ w, x.watches[j]? = some w → w.addressee = a :=
    fun w hw => h.sessions w (List.mem_of_getElem? hw)
  cases becomes_of_next h.lawful.sent hnext hj with
  | begin => exact hmove
  | @collect w hw =>
      obtain ⟨rebuilds, rebuilt, heq, -⟩ := w.foldl_endRebuild x.build.collect.2
      rw [WatchSession.endRebuilds, heq]
      exact hold w hw
  | @serve w v own hw _ hserved =>
      obtain ⟨u, paths, heq, haddressee, -⟩ := WatchSession.serve_proceeds hserved hmove.ne_stop
      rw [WatchSession.rebuild_eq] at heq
      obtain ⟨-, rfl⟩ := Prod.mk.inj heq
      exact haddressee.trans (hold w hw)
  | @stay w _ _ _ hw => exact hold w hw

theorem isFor_next (h : x.Alone a) (hmove : move.IsFor a) (hnext : x.next? move = some y) :
    IsFor a y.build := by
  cases move with
  | request b request | watch b window entries =>
      obtain rfl : b = a := hmove
      obtain rfl := Option.some.inj hnext
      exact h.isFor.call _
  | edit | wait =>
      obtain rfl := Option.some.inj hnext
      exact ⟨h.isFor.addressee, h.isFor.subscribed⟩
  | report j change =>
      obtain ⟨u, hu, rfl⟩ := Option.map_eq_some_iff.1 hnext
      exact h.isFor
  | build id =>
      obtain ⟨task, turn, htask, hturn, rfl⟩ := next_build hnext h.lawful.sent
      exact h.isFor.perform h.lawful.orderly (BuildSession.mem_of_task? htask).1 hturn
  | collect =>
      obtain rfl := Option.some.inj hnext
      exact ⟨fun task htask => h.isFor.addressee task (List.mem_filter.1 htask).1,
        fun task htask => h.isFor.subscribed task (List.mem_filter.1 htask).1⟩
  | serve j own =>
      obtain ⟨w, build, v, hw, -, hserved, rfl⟩ := next_serve hnext
      obtain ⟨u, paths, heq, haddressee, -⟩ := WatchSession.serve_proceeds hserved hmove.ne_stop
      obtain rfl : a = u.addressee :=
        (haddressee.trans (h.sessions w (List.mem_of_getElem? hw))).symm
      rw [(Prod.mk.inj heq).1]
      exact u.rebuild_induction (fun s _ hs => hs.call _) h.isFor paths

theorem next (h : x.Alone a) (hmove : move.IsFor a) (hnext : x.next? move = some y) :
    y.Alone a where
  lawful := lawful_next h.lawful hnext
  isFor := h.isFor_next hmove hnext
  sessions := h.sessions_next hmove hnext
  running := by
    obtain ⟨w, hw, hrunning⟩ := h.running
    obtain ⟨v, hv, hcontinues⟩ := exists_continues hw hnext
    cases hcontinues with
    | hears hsame => exact ⟨v, hv, hsame.trans hrunning⟩
    | takes hstill => exact ⟨v, hv, hstill.2⟩
    | ends hstop =>
        subst hstop
        cases hmove

/-- A build that has written its output goes on by telling the session. -/
theorem told (h : x.Alone a) (hmove : move.IsFor a) (hnext : x.next? move = some y) :
    ∀ task ∈ x.build.tasks, task.hasWritten d = true → task ∈ y.build.tasks ∨ y.Awaits 0 d := by
  intro u hu hbuilt
  obtain ⟨job, locals, hstage, hdest⟩ := BuildTask.exists_finish hbuilt
  have hjob : u.stage.job? = some job := by rw [hstage]; rfl
  cases move with
  | request | watch =>
      obtain rfl := Option.some.inj hnext
      exact .inl (List.mem_append_left _ hu)
  | edit | wait =>
      obtain rfl := Option.some.inj hnext
      exact .inl hu
  | report j change =>
      obtain ⟨w, hw, rfl⟩ := Option.map_eq_some_iff.1 hnext
      exact .inl hu
  | build id =>
      obtain ⟨task, turn, htask, hturn, rfl⟩ := next_build hnext h.lawful.sent
      obtain ⟨htask, -⟩ := BuildSession.mem_of_task? htask
      by_cases hne : u = task
      · subst hne
        refine .inr ?_
        obtain ⟨w, hw, hrunning⟩ := h.running
        have haddressee : w.addressee = a := h.sessions w (List.mem_of_getElem? hw)
        have hmem := h.isFor.subscribed u hu job hjob
        have htold := hturn.told_finish hstage (Register.contains_of_mem_subscribersAt hmem)
        let event := job.completion (x.build.register.importersOf job.dest) (.ok locals)
        have hheard : (a, event) ∈ turn.told.filter fun entry =>
            entry.1.channel == w.addressee.channel := by
          rw [htold]
          exact List.mem_filter.2 ⟨List.mem_map.2 ⟨a, hmem, rfl⟩, by simp [haddressee]⟩
        refine ⟨w.hear turn.told, by rw [List.getElem?_map, hw]; rfl, event, ?_, hdest⟩
        rw [WatchSession.hear, if_pos hrunning]
        exact List.mem_append_right _ (List.mem_map.2 ⟨_, hheard, rfl⟩)
      · exact .inl (BuildSession.mem_perform_of_job? h.lawful.orderly htask hturn hu hne hjob)
  | collect =>
      obtain rfl := Option.some.inj hnext
      exact .inl (BuildSession.mem_collect_of_job? hu hjob)
  | serve j own =>
      obtain ⟨w, build, v, -, -, hserved, rfl⟩ := next_serve hnext
      obtain ⟨s, paths, heq, -⟩ := WatchSession.serve_proceeds hserved hmove.ne_stop
      rw [WatchSession.rebuild_eq] at heq
      obtain ⟨rfl, -⟩ := Prod.mk.inj heq
      exact .inl (List.mem_append_left _ hu)

end Alone

end SharedBuild

end LiveBuild
