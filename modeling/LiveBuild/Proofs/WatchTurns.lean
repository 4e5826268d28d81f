import LiveBuild.Proofs.Claims
import LiveBuild.Proofs.TaskTree

/-!
# The turns of a watch session

A watch session serves one source of work at a time. What each of them comes to is said here once,
for any files and any build: which sources are claimed, which rebuilds are started for them, and
what is dropped at the end.
-/

namespace LiveBuild

/-- The sources of work of a watch session, and its end. -/
inductive WatchMove where
  /-- The next event is taken in, while the watcher accepts some paths. -/
  | event (accepts : Path → Bool)
  | change
  | deadline
  | rebuilt
  | stop

namespace PendingChanges

variable {c : PendingChanges}

theorem distinct_add (h : c.held.Distinct) (path : Path) (kind : Change) (now : Nat) :
    (c.add path kind now).held.Distinct := by
  rw [add]
  cases c.held.get? path with
  | none => exact h.insert path _
  | some old =>
      cases hmerge : merge old.kind kind with
      | none =>
          simp only [hmerge]
          exact h.filter _
      | some kept =>
          simp only [hmerge]
          exact h.insert path _

/-- Of each path one change at most is released. -/
theorem distinct_release (h : c.held.Distinct) (now : Nat) :
    (c.release now).1.held.Distinct ∧ Path.Distinct ((c.release now).2.map (·.1)) := by
  simp only [release, List.partition_eq_filter_filter]
  refine ⟨h.filter _, ?_⟩
  have hready := h.filter fun entry => c.isReady now entry.2
  have hsymm : ∀ a b : Path × Held, a.1.same b.1 = false → b.1.same a.1 = false :=
    fun a b hab => by rw [Path.same_comm, hab]
  rw [List.map_map]
  refine List.pairwise_map.2 ?_
  exact ((List.mergeSort_perm _ _).pairwise_iff (hsymm _ _)).2 (List.pairwise_map.1 hready)

end PendingChanges

namespace WatchedSources

variable {σ : Type} [FileStore σ] {s : WatchedSources} {store : σ} {paths : List Path} {p : Path}

theorem claimAll_cons (s : WatchedSources) (store : σ) (path : Path) (rest : List Path) :
    s.claimAll store (path :: rest) =
      (((s.claim store path).1.claimAll store rest).1,
        if (s.claim store path).2 then path :: ((s.claim store path).1.claimAll store rest).2
        else ((s.claim store path).1.claimAll store rest).2) := rfl

/-- What is due was not being rebuilt before. -/
theorem idle_of_due (s : WatchedSources) (store : σ) (paths : List Path) :
    ∀ path ∈ (s.claimAll store paths).2, s.rebuilding.contains path = false := by
  induction paths generalizing s with
  | nil => simp [claimAll]
  | cons first rest ih =>
      rw [claimAll_cons]
      rcases claim_cases s store first with ⟨-, hclaim⟩ | ⟨-, -, hclaim⟩ |
        ⟨hidle, scheduled, hclaim⟩
      · rw [hclaim]
        exact ih { s with again := s.again.insert first }
      · rw [hclaim]
        exact ih s
      · rw [hclaim]
        refine List.forall_mem_cons.2 ⟨hidle, fun path hpath => ?_⟩
        have hrest := ih _ path hpath
        rw [PathSet.contains_insert, Bool.or_eq_false_iff] at hrest
        exact hrest.2

theorem distinct_due (s : WatchedSources) (store : σ) (paths : List Path) :
    Path.Distinct (s.claimAll store paths).2 := by
  induction paths generalizing s with
  | nil => exact List.Pairwise.nil
  | cons first rest ih =>
      rw [claimAll_cons]
      rcases claim_cases s store first with ⟨-, hclaim⟩ | ⟨-, -, hclaim⟩ |
        ⟨-, scheduled, hclaim⟩
      · rw [hclaim]
        exact ih _
      · rw [hclaim]
        exact ih s
      · rw [hclaim]
        refine List.pairwise_cons.2 ⟨fun path hpath => ?_, ih _⟩
        have hidle := idle_of_due _ store rest path hpath
        rw [PathSet.contains_insert, Bool.or_eq_false_iff] at hidle
        exact hidle.1

/-- A claim is remembered exactly if its source was being rebuilt already. -/
theorem again_claimAll (hpaths : Path.Distinct paths) :
    (s.claimAll store paths).1.again.contains p = true ↔ s.again.contains p = true ∨
      (s.rebuilding.contains p = true ∧ ∃ path ∈ paths, path.same p = true) := by
  induction paths generalizing s with
  | nil => simp [claimAll]
  | cons first rest ih =>
      obtain ⟨hfirst, hrest⟩ := List.pairwise_cons.1 hpaths
      simp only [claimAll_cons, List.mem_cons, exists_eq_or_imp]
      rcases claim_cases s store first with ⟨hbusy, hclaim⟩ | ⟨hidle, -, hclaim⟩ |
        ⟨hidle, scheduled, hclaim⟩
      · rw [hclaim, ih hrest, PathSet.contains_insert, Bool.or_eq_true]
        by_cases hsame : first.same p
        · rw [PathSet.contains_congr (Path.same_iff.1 hsame)] at hbusy
          simp [hsame, hbusy]
        · simp [hsame]
      · rw [hclaim, ih hrest]
        by_cases hsame : first.same p
        · rw [PathSet.contains_congr (Path.same_iff.1 hsame)] at hidle
          simp [hidle]
        · simp [hsame]
      · rw [hclaim, ih hrest, PathSet.contains_insert, Bool.or_eq_true]
        by_cases hsame : first.same p
        -- The claim is due, and nothing further is asked for its place.
        · have hnone : ¬ ∃ path ∈ rest, path.same p = true := by
            rintro ⟨path, hpath, hpathp⟩
            have hfirstp : first.same path = true := by
              rw [Path.same_iff, Path.same_iff.1 hsame, Path.same_iff.1 hpathp]
            rw [hfirst path hpath] at hfirstp
            contradiction
          rw [PathSet.contains_congr (Path.same_iff.1 hsame)] at hidle
          simp [hsame, hidle, hnone]
        · simp [hsame]

end WatchedSources

namespace WatchSession

variable {σ : Type} {w v : WatchSession} {build after : BuildSession σ} {now : Nat}

/-- Take in what the build has sent to a session. -/
def hear (w : WatchSession) (sent : List (Addressee × BuildEvent)) : WatchSession :=
  if w.isRunning then
    { w with events := w.events ++
        (sent.filter fun entry => entry.1.channel == w.addressee.channel).map (·.2) }
  else w

/-- Note which calls of the build have ended. -/
def endRebuilds (w : WatchSession) (outcomes : List BuildSession.Outcome) : WatchSession :=
  outcomes.foldl (fun w outcome => w.endRebuild outcome.call outcome.count.isSome) w

/-- The rebuilds of some paths, if the next call has a number. -/
def newRebuilds (call : Nat) (paths : List Path) : List (Nat × Path) :=
  paths.mapIdx fun i path => (call + i, path)

theorem map_snd_newRebuilds (call : Nat) (paths : List Path) :
    (newRebuilds call paths).map (·.2) = paths := by
  induction paths generalizing call with
  | nil => rfl
  | cons path rest ih =>
      rw [newRebuilds, List.mapIdx_cons, List.map_cons]
      simpa [newRebuilds, Nat.add_assoc, Nat.add_comm 1] using ih (call + 1)

theorem le_of_mem_newRebuilds {call : Nat} {paths : List Path} {entry : Nat × Path}
    (h : entry ∈ newRebuilds call paths) : call ≤ entry.1 ∧ entry.1 < call + paths.length := by
  obtain ⟨i, hi, rfl⟩ := List.mem_mapIdx.1 h
  exact ⟨Nat.le_add_right _ _, Nat.add_lt_add_left hi _⟩

theorem pairwise_newRebuilds (call : Nat) (paths : List Path) :
    (newRebuilds call paths).Pairwise fun a b => a.1 ≠ b.1 := by
  rw [List.pairwise_iff_getElem]
  intro i j hi hj hij
  simp only [newRebuilds, List.getElem_mapIdx]
  omega

/-- The tasks that rebuild some paths. -/
def newTasks (w : WatchSession) (build : BuildSession σ) (paths : List Path) : List BuildTask :=
  paths.mapIdx fun i path =>
    ⟨build.nextTask + i, none, build.nextCall + i, w.addressee, .single, .claim path⟩

theorem rebuild_eq (w : WatchSession) (build : BuildSession σ) (paths : List Path) :
    w.rebuild build paths =
      ({ build with
        tasks := build.tasks ++ w.newTasks build paths
        nextTask := build.nextTask + paths.length
        nextCall := build.nextCall + paths.length },
      { w with rebuilds := w.rebuilds ++ newRebuilds build.nextCall paths }) := by
  induction paths generalizing w build with
  | nil => simp [rebuild, newTasks, newRebuilds]
  | cons path rest ih =>
      rw [rebuild]
      dsimp only
      rw [ih]
      simp [newTasks, newRebuilds, BuildSession.call, BuildSession.Request.agenda,
        BuildSession.Request.stage, List.mapIdx_cons, Nat.add_assoc, Nat.add_comm 1]

/-- What every call keeps is kept by rebuilds. -/
theorem rebuild_induction {P : BuildSession σ → Prop}
    (hcall : ∀ build path, P build → P (build.call w.addressee (.rebuild path)).1)
    (h : P build) (paths : List Path) : P (w.rebuild build paths).1 := by
  induction paths generalizing w build with
  | nil => exact h
  | cons path rest ih => exact ih hcall (hcall build path h)

theorem stop_build_eq (w : WatchSession) (build : BuildSession σ) :
    (w.stop build).1 =
      build.keepCalls fun call => !(w.rebuilds.any fun entry => entry.1 == call) := by
  rw [stop]
  generalize w.rebuilds = rebuilds
  induction rebuilds generalizing build with
  | nil =>
      have hall : build.tasks.filter (fun _ => true) = build.tasks := by simp
      simp [BuildSession.keepCalls, hall]
  | cons entry rest ih =>
      rw [List.foldl_cons, ih]
      simp only [BuildSession.keepCalls, BuildSession.abort, List.filter_filter, List.any_cons,
        Bool.not_or]
      congr 2
      funext task
      rw [Bool.and_comm, bne, Bool.beq_comm]

variable [FileStore σ]

/-- Serve one source of work, if it has something. -/
def serve? (w : WatchSession) (build : BuildSession σ) (now : Nat) :
    WatchMove → Option (BuildSession σ × WatchSession)
  | .event accepts => (w.takeEvent? build.store accepts).map fun taken => (build, taken.1)
  | .change => (w.takeChange? now).map fun w => (build, w)
  | .deadline => w.takeDeadline? build now
  | .rebuilt => w.takeRebuilt? build
  | .stop => some (w.stop build)

theorem serve_event {accepts : Path → Bool}
    (h : w.serve? build now (.event accepts) = some (after, v)) :
    ∃ event events, w.events = event :: events ∧ after = build ∧
      v = { w with events, sources := w.sources.noteEvent build.store accepts event } := by
  obtain ⟨taken, htaken, heq⟩ := Option.map_eq_some_iff.1 h
  obtain ⟨rfl, rfl⟩ := Prod.mk.inj heq
  rw [takeEvent?] at htaken
  cases hevents : w.events with
  | nil => simp [hevents] at htaken
  | cons event events =>
      rw [hevents] at htaken
      obtain rfl := Option.some.inj htaken
      exact ⟨event, events, rfl, rfl, rfl⟩

theorem serve_change (h : w.serve? build now .change = some (after, v)) :
    ∃ change changes, w.changes = change :: changes ∧ after = build ∧
      v = { w with changes, sources := w.sources.noteChange change now } := by
  obtain ⟨taken, htaken, heq⟩ := Option.map_eq_some_iff.1 h
  obtain ⟨rfl, rfl⟩ := Prod.mk.inj heq
  rw [takeChange?] at htaken
  cases hchanges : w.changes with
  | nil => simp [hchanges] at htaken
  | cons change changes =>
      rw [hchanges] at htaken
      obtain rfl := Option.some.inj htaken
      exact ⟨change, changes, rfl, rfl, rfl⟩

theorem serve_deadline (h : w.serve? build now .deadline = some (after, v)) :
    (after, v) = ({ w with sources := (w.sources.endWindow build.store now).1 }.rebuild build
      (w.sources.endWindow build.store now).2) := by
  rw [serve?, takeDeadline?] at h
  split at h
  · split at h
    · exact (Option.some.inj h).symm
    · contradiction
  · contradiction

/-- What ends is not known any more, or its path is freed before it is claimed again. -/
theorem serve_rebuilt (h : w.serve? build now .rebuilt = some (after, v)) :
    ∃ call rebuilt, w.rebuilt = call :: rebuilt ∧
      (((∀ entry ∈ w.rebuilds, entry.1 ≠ call) ∧ after = build ∧ v = { w with rebuilt }) ∨
        ∃ path, (call, path) ∈ w.rebuilds ∧
          (after, v) = ({ w with
            rebuilt
            rebuilds := w.rebuilds.filter fun entry => entry.1 != call
            sources := (w.sources.noteRebuilt build.store path).1 }.rebuild build
              (w.sources.noteRebuilt build.store path).2)) := by
  rw [serve?, takeRebuilt?] at h
  cases hrebuilt : w.rebuilt with
  | nil => simp [hrebuilt] at h
  | cons call rebuilt =>
      refine ⟨call, rebuilt, rfl, ?_⟩
      rw [hrebuilt] at h
      dsimp only at h
      cases hfind : w.rebuilds.find? fun entry => entry.1 == call with
      | none =>
          rw [hfind] at h
          obtain ⟨rfl, rfl⟩ := Prod.mk.inj (Option.some.inj h)
          refine Or.inl ⟨fun entry hentry hcall => ?_, rfl, rfl⟩
          simpa [hcall] using List.find?_eq_none.1 hfind entry hentry
      | some found =>
          obtain ⟨number, path⟩ := found
          rw [hfind] at h
          obtain rfl : number = call := by simpa using List.find?_some hfind
          exact Or.inr ⟨path, List.mem_of_find?_eq_some hfind, (Option.some.inj h).symm⟩

theorem serve_stop (h : w.serve? build now .stop = some (after, v)) :
    after = (build.keepCalls fun call => !(w.rebuilds.any fun entry => entry.1 == call)) ∧
    v = { w with
      isRunning := false
      events := []
      changes := []
      rebuilds := []
      rebuilt := [] } := by
  have hstop : w.stop build = (after, v) := Option.some.inj h
  rw [← stop_build_eq, hstop]
  exact ⟨rfl, (congrArg Prod.snd hstop).symm⟩

/-- What a watch session does to the build: nothing, or calls, or it drops its calls. -/
theorem serve_cases {move : WatchMove} (h : w.serve? build now move = some (after, v)) :
    (move ≠ .stop ∧ ∃ (u : WatchSession) (paths : List Path),
      after = (u.rebuild build paths).1) ∨
    (move = .stop ∧
      after = build.keepCalls fun call => !(w.rebuilds.any fun entry => entry.1 == call)) := by
  cases move with
  | event accepts =>
      obtain ⟨-, -, -, rfl, -⟩ := serve_event h
      exact Or.inl ⟨nofun, w, [], rfl⟩
  | change =>
      obtain ⟨-, -, -, rfl, -⟩ := serve_change h
      exact Or.inl ⟨nofun, w, [], rfl⟩
  | deadline => exact Or.inl ⟨nofun, _, _, congrArg Prod.fst (serve_deadline h)⟩
  | rebuilt =>
      obtain ⟨call, rebuilt, -, ⟨-, rfl, -⟩ | ⟨path, -, heq⟩⟩ := serve_rebuilt h
      · exact Or.inl ⟨nofun, w, [], rfl⟩
      · exact Or.inl ⟨nofun, _, _, congrArg Prod.fst heq⟩
  | stop => exact Or.inr ⟨rfl, (serve_stop h).1⟩

/-- Of the rebuilds that were started some may be dropped, and then some are started. -/
theorem serve_rebuilds {move : WatchMove} (h : w.serve? build now move = some (after, v)) :
    ∃ kept paths, v.rebuilds = kept ++ newRebuilds build.nextCall paths ∧
      kept.Sublist w.rebuilds ∧ build.nextCall + paths.length ≤ after.nextCall := by
  have hnew : ∀ (u : WatchSession) (paths : List Path), u.rebuilds.Sublist w.rebuilds →
      (after, v) = u.rebuild build paths →
      ∃ kept paths, v.rebuilds = kept ++ newRebuilds build.nextCall paths ∧
        kept.Sublist w.rebuilds ∧ build.nextCall + paths.length ≤ after.nextCall := by
    intro u paths hsub heq
    rw [rebuild_eq] at heq
    obtain ⟨rfl, rfl⟩ := Prod.mk.inj heq
    exact ⟨u.rebuilds, paths, rfl, hsub, Nat.le_refl _⟩
  cases move with
  | event accepts =>
      obtain ⟨event, events, -, rfl, rfl⟩ := serve_event h
      exact hnew { w with events, sources := _ } [] (List.Sublist.refl _) rfl
  | change =>
      obtain ⟨change, changes, -, rfl, rfl⟩ := serve_change h
      exact hnew { w with changes, sources := _ } [] (List.Sublist.refl _) rfl
  | deadline =>
      refine hnew _ _ ?_ (serve_deadline h)
      exact List.Sublist.refl _
  | rebuilt =>
      obtain ⟨call, rebuilt, -, ⟨-, rfl, rfl⟩ | ⟨path, -, heq⟩⟩ := serve_rebuilt h
      · exact hnew { w with rebuilt } [] (List.Sublist.refl _) rfl
      · exact hnew _ _ List.filter_sublist heq
  | stop =>
      obtain ⟨rfl, rfl⟩ := serve_stop h
      exact ⟨[], [], rfl, List.nil_sublist _, Nat.le_refl _⟩

end WatchSession

end LiveBuild
