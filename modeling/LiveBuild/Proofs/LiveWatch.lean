import LiveBuild.Proofs.Settlement
import LiveBuild.Proofs.WatchTurns

/-!
# A watch session at work

A watch session runs beside the build that it has requested, while sources are saved and time goes
by. Which of its sources of work is served next, and which task of the build goes on, is left open:
each is a move, and a run makes moves in any order.
-/

namespace LiveBuild

structure LiveWatch where
  build : BuildSession FileTree
  watch : WatchSession
  /-- Whether the watcher takes a path. -/
  accepts : Path → Bool
  now : Nat := 0

namespace LiveWatch

/-- The request for the entries has been made, and nothing has been done for it yet. -/
def start (tree : FileTree) (options : BuildOptions) (sourceTransform : SourceTransform)
    (addressee : Addressee) (window : Nat) (entries : List Path) (accepts : Path → Bool) :
    LiveWatch :=
  let started := WatchSession.start (.start tree options sourceTransform) addressee window entries
  { build := started.1, watch := started.2.1, accepts }

inductive Move where
  /-- A watched source is written, and its change is queued. -/
  | save (path : Path) (kind : Change) (content : ByteArray)
  | wait (duration : Nat)
  /-- One task of the build goes on; what it reports is queued. -/
  | build (task : Nat)
  /-- Calls of the build that are over are noted. -/
  | collect
  | event
  | change
  | deadline
  | rebuilt

/-- Queue what the build has reported. -/
def handOver (x : LiveWatch) (build : BuildSession FileTree) : LiveWatch :=
  { x with
    build := { build with sent := [] }
    watch := { x.watch with events := x.watch.events ++ build.sent.map (·.2) } }

/-- Make one move, if it can be made now. -/
def next? (x : LiveWatch) : Move → Option LiveWatch
  | .save path kind content =>
      if x.watch.sources.watched.contains path && kind.needsBuild &&
          !FileStore.isDirectory x.build.store path then
        some { x with
          build := { x.build with store := x.build.store.putFile path content }
          watch := { x.watch with changes := x.watch.changes ++ [⟨path, kind⟩] } }
      else
        none
  | .wait duration => some { x with now := x.now + duration }
  | .build task => (x.build.step? task).map x.handOver
  | .collect =>
      some { x with
        build := x.build.collect.1
        watch := x.build.collect.2.foldl
          (fun watch outcome => watch.endRebuild outcome.call outcome.count.isSome) x.watch }
  | .event =>
      (x.watch.takeEvent? x.build.store x.accepts).map fun taken => { x with watch := taken.1 }
  | .change => (x.watch.takeChange? x.now).map fun watch => { x with watch }
  | .deadline =>
      (x.watch.takeDeadline? x.build x.now).map fun taken =>
        { x with build := taken.1, watch := taken.2 }
  | .rebuilt =>
      (x.watch.takeRebuilt? x.build).map fun taken =>
        { x with build := taken.1, watch := taken.2 }

/-- Start one rebuild. -/
def request (x : LiveWatch) (path : Path) : LiveWatch :=
  { x with
    build := (x.build.call x.watch.addressee (.rebuild path)).1
    watch := { x.watch with rebuilds := x.watch.rebuilds ++ [(x.build.nextCall, path)] } }

theorem foldl_request (x : LiveWatch) (paths : List Path) :
    { x with
      build := (x.watch.rebuild x.build paths).1
      watch := (x.watch.rebuild x.build paths).2 : LiveWatch } = paths.foldl request x := by
  induction paths generalizing x with
  | nil => rfl
  | cons path rest ih => exact ih (x.request path)

variable {x y : LiveWatch} {move : Move} {due : List Path} {p path : Path}

section Moves

theorem next_save {kind : Change} {content : ByteArray}
    (h : x.next? (.save path kind content) = some y) :
    x.watch.sources.watched.contains path = true ∧ kind.needsBuild = true ∧
      x.build.store.kindOf? path ≠ some .directory ∧
      y = { x with
        build := { x.build with store := x.build.store.putFile path content }
        watch := { x.watch with changes := x.watch.changes ++ [⟨path, kind⟩] } } := by
  rw [next?] at h
  split at h
  · rename_i hguard
    simp only [Bool.and_eq_true, Bool.not_eq_true'] at hguard
    obtain ⟨⟨hwatched, hkind⟩, hdirectory⟩ := hguard
    refine ⟨hwatched, hkind, fun hdir => ?_, (Option.some.inj h).symm⟩
    simp [FileStore.isDirectory, FileStore.kindOf?, hdir] at hdirectory
  · contradiction

theorem next_event (h : x.next? .event = some y) :
    ∃ event events, x.watch.events = event :: events ∧
      y = { x with watch := { x.watch with
        events, sources := x.watch.sources.noteEvent x.build.store x.accepts event } } := by
  obtain ⟨⟨watch, notice⟩, htaken, rfl⟩ := Option.map_eq_some_iff.1 h
  have hserved : x.watch.serve? x.build x.now (.event x.accepts) = some (x.build, watch) := by
    rw [WatchSession.serve?, htaken, Option.map_some]
  obtain ⟨event, events, hevents, -, rfl⟩ := WatchSession.serve_event hserved
  exact ⟨event, events, hevents, rfl⟩

theorem next_change (h : x.next? .change = some y) :
    ∃ change changes, x.watch.changes = change :: changes ∧
      y = { x with watch := { x.watch with
        changes, sources := x.watch.sources.noteChange change x.now } } := by
  obtain ⟨watch, htaken, rfl⟩ := Option.map_eq_some_iff.1 h
  have hserved : x.watch.serve? x.build x.now .change = some (x.build, watch) := by
    rw [WatchSession.serve?, htaken, Option.map_some]
  obtain ⟨change, changes, hchanges, -, rfl⟩ := WatchSession.serve_change hserved
  exact ⟨change, changes, hchanges, rfl⟩

theorem next_build {id : Nat} (h : x.next? (.build id) = some y) (hsent : x.build.sent = []) :
    ∃ task turn, x.build.task? id = some task ∧ x.build.Turns task turn ∧
      y = { x with
        build := { x.build.perform task turn with sent := [] }
        watch := { x.watch with events := x.watch.events ++ turn.told.map (·.2) } } := by
  obtain ⟨build, hbuild, rfl⟩ := Option.map_eq_some_iff.1 h
  obtain ⟨task, turn, htask, hturn, rfl⟩ := BuildSession.exists_turn hbuild
  refine ⟨task, turn, htask, hturn, ?_⟩
  rw [handOver, BuildSession.sent_perform hsent]

/-- Rebuilds are only dropped if their tasks have broken down. -/
theorem next_collect (h : x.next? .collect = some y) :
    ∃ rebuilds rebuilt, y = { x with
        build := x.build.collect.1, watch := { x.watch with rebuilds, rebuilt } } ∧
      rebuilds.Sublist x.watch.rebuilds ∧
      ∀ entry ∈ x.watch.rebuilds, entry ∈ rebuilds ∨
        ∃ task ∈ x.build.tasks, task.parent = none ∧ task.call = entry.1 ∧
          task.stage = .crashed := by
  obtain ⟨rebuilds, rebuilt, heq, hsublist, hkept⟩ :=
    x.watch.foldl_endRebuild x.build.collect.2
  refine ⟨rebuilds, rebuilt, ?_, hsublist, fun entry hentry => ?_⟩
  · rw [← Option.some.inj h, heq]
  · exact (hkept entry hentry).imp_right BuildSession.exists_crashed_of_outcome

/-- The sources once the claims at the end of a window are made, and the claims that are due. -/
def endWindow (x : LiveWatch) : WatchedSources × List Path :=
  x.watch.sources.endWindow x.build.store x.now

theorem claimed_endWindow (x : LiveWatch) :
    ({ x.watch.sources with
      pending := (x.watch.sources.pending.release x.now).1 } : WatchedSources).Claimed x.build.store
      (((x.watch.sources.pending.release x.now).2.filter fun entry => entry.2.needsBuild).map (·.1))
      x.endWindow.1 x.endWindow.2 :=
  WatchedSources.claimed_claimAll _ _ _

theorem next_deadline (h : x.next? .deadline = some y) :
    y = x.endWindow.2.foldl request
      { x with watch := { x.watch with sources := x.endWindow.1 } } := by
  obtain ⟨⟨build, watch⟩, htaken, rfl⟩ := Option.map_eq_some_iff.1 h
  obtain ⟨rfl, rfl⟩ := Prod.mk.inj (WatchSession.serve_deadline htaken)
  exact foldl_request { x with watch := { x.watch with sources := x.endWindow.1 } } _

/-- A finished rebuild is either not known any more, or its path is free for the next one. -/
theorem next_rebuilt (h : x.next? .rebuilt = some y) :
    ∃ call rebuilt, x.watch.rebuilt = call :: rebuilt ∧
      (((∀ entry ∈ x.watch.rebuilds, entry.1 ≠ call) ∧
          y = { x with watch := { x.watch with rebuilt } }) ∨
        ∃ path, (call, path) ∈ x.watch.rebuilds ∧
          y = (x.watch.sources.noteRebuilt x.build.store path).2.foldl request
            { x with watch := { x.watch with
              rebuilt
              rebuilds := x.watch.rebuilds.filter fun entry => entry.1 != call
              sources := (x.watch.sources.noteRebuilt x.build.store path).1 } }) := by
  obtain ⟨⟨build, watch⟩, htaken, rfl⟩ := Option.map_eq_some_iff.1 h
  have hserved : x.watch.serve? x.build x.now .rebuilt = some (build, watch) := htaken
  obtain ⟨call, rebuilt, hrebuilt, ⟨hgone, rfl, rfl⟩ | ⟨path, hpath, heq⟩⟩ :=
    WatchSession.serve_rebuilt hserved
  · exact ⟨call, rebuilt, hrebuilt, Or.inl ⟨hgone, rfl⟩⟩
  · obtain ⟨rfl, rfl⟩ := Prod.mk.inj heq
    refine ⟨call, rebuilt, hrebuilt, Or.inr ⟨path, hpath, ?_⟩⟩
    exact foldl_request { x with watch := { x.watch with
      rebuilt
      rebuilds := x.watch.rebuilds.filter fun entry => entry.1 != call
      sources := (x.watch.sources.noteRebuilt x.build.store path).1 } } _

end Moves

/-- A path lies outside of the output directory. -/
def IsOutside (x : LiveWatch) (p : Path) : Prop := p.startsWith x.build.options.outDir = false

/-- No source is looked at in the output directory, and no asset takes the place of the output of a
source. -/
def Apart (x : LiveWatch) : Move → LiveWatch → Prop
  | .build id, y => ∀ task, x.build.task? id = some task →
      x.build.StaysApart task y.build.store
  | _, _ => True

/-- What is true of a watch session whose sources lie outside of the output directory, while some
claimed sources still wait for their rebuilds to be started. -/
structure Tracked (x : LiveWatch) (due : List Path) : Prop where
  regular : x.build.Regular
  sent : x.build.sent = []
  watched : ∀ p, x.watch.sources.watched.contains p = true → x.IsOutside p
  events : ∀ event ∈ x.watch.events, ∀ source, WatchedSources.subject? event = some source →
    x.IsOutside source
  changes : ∀ change ∈ x.watch.changes, change.kind.needsBuild = true ∧
    x.watch.sources.watched.contains change.path = true
  pending : x.watch.sources.pending.Builds fun p => x.watch.sources.watched.contains p = true
  waiting : ∀ path ∈ due, x.IsOutside path
  calls : ∀ task ∈ x.build.tasks, task.call < x.build.nextCall
  /-- The task of a rebuild never turns to another path. -/
  entries : ∀ entry ∈ x.watch.rebuilds, entry.1 < x.build.nextCall ∧ x.IsOutside entry.2 ∧
    ∀ root ∈ x.build.tasks, root.parent = none → root.call = entry.1 →
      root.agenda = .single ∧ x.build.Serves entry.2 root.stage
  distinct : x.watch.rebuilds.Pairwise fun a b => a.1 ≠ b.1
  rebuilding : ∀ p, x.watch.sources.rebuilding.contains p = true →
    (∃ entry ∈ x.watch.rebuilds, entry.2.same p = true) ∨ x.build.Forsaken p ∨
      ∃ path ∈ due, path.same p = true

theorem owners_request (x : LiveWatch) (path d : Path) :
    (x.request path).build.owners d ≤ x.build.owners d :=
  Nat.le_of_eq (BuildSession.owners_call _ _ _ d)

namespace Tracked

theorem request (h : x.Tracked (path :: due)) : (x.request path).Tracked due where
  regular := h.regular.call _ fun q hq => by
    obtain rfl := BuildTask.Stage.claim.inj hq
    exact h.waiting _ List.mem_cons_self
  sent := h.sent
  watched := h.watched
  events := h.events
  changes := h.changes
  pending := h.pending
  waiting q hq := h.waiting q (List.mem_cons_of_mem _ hq)
  calls task htask := by
    change task.call < x.build.nextCall + 1
    rcases List.mem_append.1 htask with htask | htask
    · exact Nat.lt_succ_of_lt (h.calls task htask)
    · rw [List.mem_singleton.1 htask]
      exact Nat.lt_succ_self _
  entries entry hentry := by
    change entry.1 < x.build.nextCall + 1 ∧ _
    rcases List.mem_append.1 hentry with hentry | hentry
    · obtain ⟨hlt, houtside, hroot⟩ := h.entries entry hentry
      refine ⟨Nat.lt_succ_of_lt hlt, houtside, fun root hmem hparent hcall => ?_⟩
      rcases List.mem_append.1 hmem with hmem | hmem
      · obtain ⟨hagenda, hserves⟩ := hroot root hmem hparent hcall
        exact ⟨hagenda, hserves.of_owners rfl (owners_request x path)⟩
      · rw [List.mem_singleton.1 hmem] at hcall
        exact absurd hcall.symm (Nat.ne_of_lt hlt)
    · rw [List.mem_singleton.1 hentry]
      refine ⟨Nat.lt_succ_self _, h.waiting _ List.mem_cons_self, fun root hmem hparent hcall => ?_⟩
      rcases List.mem_append.1 hmem with hmem | hmem
      · exact absurd hcall (Nat.ne_of_lt (h.calls root hmem))
      · rw [List.mem_singleton.1 hmem]
        exact ⟨rfl, rfl⟩
  distinct := by
    refine List.pairwise_append.2 ⟨h.distinct, List.pairwise_singleton _ _, fun a ha b hb => ?_⟩
    rw [List.mem_singleton.1 hb]
    exact Nat.ne_of_lt (h.entries a ha).1
  rebuilding q hq := by
    rcases h.rebuilding q hq with ⟨entry, hentry, hsame⟩ | hforsaken | ⟨path', hpath, hsame⟩
    · exact Or.inl ⟨entry, List.mem_append_left _ hentry, hsame⟩
    · exact Or.inr (Or.inl (hforsaken.of_owners rfl (owners_request x path)))
    · rcases List.mem_cons.1 hpath with rfl | hpath
      · exact Or.inl ⟨_, List.mem_append_right _ (List.mem_singleton.2 rfl), hsame⟩
      · exact Or.inr (Or.inr ⟨path', hpath, hsame⟩)

theorem requests (h : x.Tracked due) : (due.foldl LiveWatch.request x).Tracked [] := by
  induction due generalizing x with
  | nil => exact h
  | cons path rest ih => exact ih h.request

theorem wait (h : x.Tracked []) (duration : Nat) :
    ({ x with now := x.now + duration } : LiveWatch).Tracked [] :=
  { h with }

theorem save (h : x.Tracked []) {kind : Change} {content : ByteArray}
    (hnext : x.next? (.save path kind content) = some y) : y.Tracked [] := by
  obtain ⟨hwatched, hkind, hdirectory, rfl⟩ := next_save hnext
  refine { h with
    regular := h.regular.putFile hdirectory content
    changes := fun change hchange => ?_
    rebuilding := h.rebuilding }
  rcases List.mem_append.1 hchange with hchange | hchange
  · exact h.changes change hchange
  · rw [List.mem_singleton.1 hchange]
    exact ⟨hkind, hwatched⟩

theorem event (h : x.Tracked []) (hnext : x.next? .event = some y) : y.Tracked [] := by
  obtain ⟨event, events, hevents, rfl⟩ := next_event hnext
  obtain ⟨hpending, -, hrebuilding, hwatched⟩ :=
    x.watch.sources.noteEvent_spec x.build.store x.accepts event
  have hgrows : ∀ p, x.watch.sources.watched.contains p = true →
      (x.watch.sources.noteEvent x.build.store x.accepts event).watched.contains p = true := by
    intro p hp
    rw [hwatched, hp, Bool.true_or]
  refine { h with
    watched := fun p hp => ?_
    events := fun event hevent => h.events event (hevents ▸ List.mem_cons_of_mem _ hevent)
    changes := fun change hchange => ?_
    pending := ?_
    rebuilding := fun p hp => h.rebuilding p (hrebuilding ▸ hp) }
  · change (x.watch.sources.noteEvent x.build.store x.accepts event).watched.contains p = true at hp
    rw [hwatched, Bool.or_eq_true] at hp
    rcases hp with hp | hp
    · exact h.watched p hp
    · obtain ⟨source, hsource, hsame⟩ := (Option.any_eq_true _ _).1 hp
      rw [Bool.and_eq_true, Path.same_iff] at hsame
      rw [IsOutside, ← FileTree.startsWith_congr hsame.2]
      exact h.events event (hevents ▸ List.mem_cons_self) source hsource
  · exact ⟨(h.changes change hchange).1, hgrows _ (h.changes change hchange).2⟩
  · change (x.watch.sources.noteEvent x.build.store x.accepts event).pending.Builds _
    rw [hpending]
    exact h.pending.mono hgrows

theorem change (h : x.Tracked []) (hnext : x.next? .change = some y) : y.Tracked [] := by
  obtain ⟨change, changes, hchanges, rfl⟩ := next_change hnext
  obtain ⟨hkind, hpath⟩ := h.changes change (hchanges ▸ List.mem_cons_self)
  rw [WatchedSources.noteChange, if_pos hpath]
  exact { h with
    changes := fun change hchange => h.changes change (hchanges ▸ List.mem_cons_of_mem _ hchange)
    pending := h.pending.add hkind hpath }

theorem collect (h : x.Tracked []) (hnext : x.next? .collect = some y) : y.Tracked [] := by
  obtain ⟨rebuilds, rebuilt, rfl, hsublist, hkept⟩ := next_collect hnext
  have howners := BuildSession.owners_collect_le x.build
  refine { h with
    regular := h.regular.collect
    calls := fun task htask => h.calls task (List.mem_filter.1 htask).1
    entries := fun entry hentry => ?_
    distinct := h.distinct.sublist hsublist
    rebuilding := fun p hp => ?_ }
  · obtain ⟨hlt, houtside, hroot⟩ := h.entries entry (hsublist.subset hentry)
    refine ⟨hlt, houtside, fun root hmem hparent hcall => ?_⟩
    obtain ⟨hagenda, hserves⟩ := hroot root (List.mem_filter.1 hmem).1 hparent hcall
    exact ⟨hagenda, hserves.of_owners rfl howners⟩
  · rcases h.rebuilding p hp with ⟨entry, hentry, hsame⟩ | hforsaken | ⟨path, hpath, -⟩
    · rcases hkept entry hentry with hentry | ⟨root, hmem, hparent, hcall, hcrashed⟩
      · exact Or.inl ⟨entry, hentry, hsame⟩
      · have hserves := ((h.entries entry hentry).2.2 root hmem hparent hcall).2
        rw [hcrashed] at hserves
        have hforsaken : x.build.Forsaken p :=
          BuildSession.Forsaken.congr hserves (Path.same_iff.1 hsame)
        exact Or.inr (Or.inl (hforsaken.of_owners rfl howners))
    · exact Or.inr (Or.inl (hforsaken.of_owners rfl howners))
    · contradiction

theorem claimed (h : x.Tracked []) {s t : WatchedSources} {paths : List Path}
    (hclaimed : s.Claimed x.build.store paths t due)
    (hwatched : s.watched = x.watch.sources.watched)
    (hpending : s.pending.Builds fun p => x.watch.sources.watched.contains p = true)
    (hpaths : ∀ path ∈ paths, x.IsOutside path) {rebuilds : List (Nat × Path)}
    (hrebuilds : rebuilds.Sublist x.watch.rebuilds)
    (hrebuilding : ∀ p, s.rebuilding.contains p = true →
      (∃ entry ∈ rebuilds, entry.2.same p = true) ∨ x.build.Forsaken p) (rebuilt : List Nat) :
    ({ x with watch := { x.watch with sources := t, rebuilds, rebuilt } } : LiveWatch).Tracked
      due := by
  have heq : t.watched = x.watch.sources.watched := hclaimed.watched.trans hwatched
  refine { h with
    watched := fun p hp => h.watched p (heq ▸ hp)
    changes := fun change hchange => ?_
    pending := ?_
    waiting := fun path hpath => hpaths path (hclaimed.asked path hpath)
    entries := fun entry hentry => h.entries entry (hrebuilds.subset hentry)
    distinct := h.distinct.sublist hrebuilds
    rebuilding := fun p hp => ?_ }
  · change _ ∧ t.watched.contains change.path = true
    rw [heq]
    exact h.changes change hchange
  · change t.pending.Builds fun p => t.watched.contains p = true
    rw [hclaimed.pending, heq]
    exact hpending
  · rcases (hclaimed.rebuilding p).1 hp with hp | hdue
    · rcases hrebuilding p hp with hentry | hforsaken
      · exact Or.inl hentry
      · exact Or.inr (Or.inl hforsaken)
    · exact Or.inr (Or.inr hdue)

theorem eq_of_call (h : x.Tracked due) {a b : Nat × Path} (ha : a ∈ x.watch.rebuilds)
    (hb : b ∈ x.watch.rebuilds) (hcall : a.1 = b.1) : a = b := by
  by_contra hne
  have hsymm : Std.Symm fun a b : Nat × Path => a.1 ≠ b.1 := ⟨fun _ _ => Ne.symm⟩
  exact h.distinct.forall ha hb hne hcall

theorem rebuilding_cases (h : x.Tracked [])
    (hp : x.watch.sources.rebuilding.contains p = true) :
    (∃ entry ∈ x.watch.rebuilds, entry.2.same p = true) ∨ x.build.Forsaken p := by
  rcases h.rebuilding p hp with hentry | hforsaken | ⟨path, hpath, -⟩
  · exact Or.inl hentry
  · exact Or.inr hforsaken
  · contradiction

theorem deadline (h : x.Tracked []) :
    ({ x with watch := { x.watch with sources := x.endWindow.1 } } : LiveWatch).Tracked
      x.endWindow.2 := by
  obtain ⟨hheld, hready⟩ := h.pending.release x.now
  refine h.claimed (claimed_endWindow x) rfl hheld (fun path hpath => ?_) (List.Sublist.refl _)
    (fun p => h.rebuilding_cases) x.watch.rebuilt
  obtain ⟨entry, hentry, rfl⟩ := List.mem_map.1 hpath
  exact h.watched _ (hready entry (List.mem_filter.1 hentry).1).2

theorem rebuilding_freed (h : x.Tracked []) {call : Nat} (hpath : (call, path) ∈ x.watch.rebuilds)
    (p : Path) (hp : (x.watch.sources.freed path).rebuilding.contains p = true) :
    (∃ entry ∈ x.watch.rebuilds.filter fun entry => entry.1 != call, entry.2.same p = true) ∨
      x.build.Forsaken p := by
  change (x.watch.sources.rebuilding.erase path).contains p = true at hp
  rw [PathSet.contains_erase, Bool.and_eq_true, Bool.not_eq_true'] at hp
  refine (h.rebuilding_cases hp.2).imp_left fun ⟨entry, hentry, hsame⟩ => ?_
  refine ⟨entry, List.mem_filter.2 ⟨hentry, bne_iff_ne.2 fun hcall => ?_⟩, hsame⟩
  rw [h.eq_of_call hentry hpath hcall, hp.1] at hsame
  contradiction

theorem rebuilt (h : x.Tracked []) {call : Nat} (hpath : (call, path) ∈ x.watch.rebuilds)
    (rebuilt : List Nat) :
    ({ x with watch := { x.watch with
      rebuilt
      rebuilds := x.watch.rebuilds.filter fun entry => entry.1 != call
      sources := (x.watch.sources.noteRebuilt x.build.store path).1 } } : LiveWatch).Tracked
        (x.watch.sources.noteRebuilt x.build.store path).2 := by
  refine h.claimed (x.watch.sources.claimed_noteRebuilt x.build.store path) rfl h.pending
    (fun q hq => ?_) List.filter_sublist (h.rebuilding_freed hpath) rebuilt
  split at hq
  · rw [List.mem_singleton.1 hq]
    exact (h.entries _ hpath).2.1
  · contradiction

theorem build (h : x.Tracked []) {task : BuildTask} {turn : BuildSession.Turn FileTree}
    (htask : task ∈ x.build.tasks) (hturn : x.build.Turns task turn)
    (hapart : x.build.StaysApart task turn.store) :
    ({ x with
      build := { x.build.perform task turn with sent := [] }
      watch := { x.watch with events := x.watch.events ++ turn.told.map (·.2) } } :
        LiveWatch).Tracked [] := by
  have hregular := h.regular.perform htask hturn fun path requester hstage =>
    (hapart path requester hstage).1
  have hmem := fun u => BuildSession.mem_tasks_perform (u := u) h.regular.orderly htask turn
  refine { h with
    regular := hregular.congr rfl rfl ⟨hregular.orderly.ids, hregular.orderly.bound,
      hregular.orderly.family, hregular.orderly.single⟩ hregular.directory
      (fun _ hu => Or.inl hu) fun _ => Nat.le_refl _
    sent := rfl
    events := fun event hevent source hsource => ?_
    calls := fun u hu => ?_
    entries := fun entry hentry => ?_
    rebuilding := fun p hp => ?_ }
  · rcases List.mem_append.1 hevent with hevent | hevent
    · exact h.events event hevent source hsource
    · obtain ⟨message, hmessage, rfl⟩ := List.mem_map.1 hevent
      exact BuildSession.told_outside h.regular htask hturn hapart message hmessage source hsource
  · rcases (hmem u).1 hu with ⟨hu, -⟩ | rfl | hu
    · exact h.calls u hu
    · exact h.calls task htask
    · rw [(BuildSession.mem_started hu).2.2.1]
      exact h.calls task htask
  · obtain ⟨hlt, houtside, hroot⟩ := h.entries entry hentry
    refine ⟨hlt, houtside, fun root hu hparent hcall => ?_⟩
    rcases (hmem root).1 hu with ⟨hu, -⟩ | rfl | hu
    · obtain ⟨hagenda, hserves⟩ := hroot root hu hparent hcall
      exact ⟨hagenda, hserves.perform h.regular htask hturn⟩
    · obtain ⟨hagenda, hserves⟩ := hroot task htask hparent hcall
      exact ⟨hturn.agenda_eq hagenda, hserves.after h.regular htask hturn hagenda⟩
    · rw [(BuildSession.mem_started hu).1] at hparent
      contradiction
  · rcases h.rebuilding_cases hp with hentry | hforsaken
    · exact Or.inl hentry
    · exact Or.inr (Or.inl (hforsaken.perform h.regular htask hturn))

theorem next (h : x.Tracked []) (hnext : x.next? move = some y) (hapart : x.Apart move y) :
    y.Tracked [] := by
  cases move with
  | save path kind content => exact h.save hnext
  | wait duration =>
      obtain rfl := Option.some.inj hnext
      exact h.wait duration
  | build id =>
      obtain ⟨task, turn, hfound, hturn, rfl⟩ := next_build hnext h.sent
      exact h.build (BuildSession.mem_of_task? hfound).1 hturn (hapart task hfound)
  | collect => exact h.collect hnext
  | event => exact h.event hnext
  | change => exact h.change hnext
  | deadline =>
      rw [next_deadline hnext]
      exact h.deadline.requests
  | rebuilt =>
      obtain ⟨call, rebuilt, -, ⟨-, rfl⟩ | ⟨path, hpath, rfl⟩⟩ := next_rebuilt hnext
      · exact { h with }
      · exact (h.rebuilt hpath rebuilt).requests

end Tracked

/-- What a watch session takes for granted: directories are given from the root, and the base
directory is one. -/
structure IsRooted (tree : FileTree) (options : BuildOptions) : Prop where
  base : options.baseDir.isAbsolute = true
  out : options.outDir.isAbsolute = true
  directory : tree.kindOf? options.baseDir = some .directory

theorem tracked_start {tree : FileTree} {options : BuildOptions} (h : IsRooted tree options)
    (sourceTransform : SourceTransform) (addressee : Addressee) (window : Nat)
    (entries : List Path) (accepts : Path → Bool) :
    (start tree options sourceTransform addressee window entries accepts).Tracked [] := by
  have hregular := BuildSession.regular_start h.base h.out h.directory sourceTransform
  refine
    { regular := hregular.call addressee fun path hpath => nomatch hpath
      sent := rfl
      watched := fun p hp => nomatch hp
      events := fun event hevent => nomatch hevent
      changes := fun change hchange => nomatch hchange
      pending := fun entry hentry => nomatch hentry
      waiting := fun path hpath => nomatch hpath
      calls := fun task htask => ?_
      entries := fun entry hentry => nomatch hentry
      distinct := List.Pairwise.nil
      rebuilding := fun p hp => nomatch hp }
  rw [List.mem_singleton.1 htask]
  exact Nat.zero_lt_one

end LiveWatch

end LiveBuild
