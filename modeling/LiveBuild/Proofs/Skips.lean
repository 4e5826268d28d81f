import LiveBuild.Proofs.RebuildGuard
import LiveBuild.Proofs.Trees
import Mathlib

/-!
# Skipped rebuilds

A rebuild is skipped if its source has the digest that is kept of its last good build. That digest
is taken when a rebuild is asked for, or else when the session hears of the build; what is built is
what a task has read, at some other time. So the output of a source whose rebuild is skipped is the
right one exactly if the digests of the source at these two times agree.
-/

namespace LiveBuild

namespace FileTree

variable {tree : FileTree} {p q : Path}

/-- The digest that a file has, if it can be read. -/
def digest? (tree : FileTree) (p : Path) : Option String := (tree.content? p).map Digest.ofBytes

theorem toOption_ofFile (tree : FileTree) (p : Path) :
    (Digest.ofFile tree p).toOption = tree.digest? p := by
  change ((tree.read p).map Digest.ofBytes).toOption = _
  rw [read, digest?, content?]
  cases tree.entries.get? p with
  | none => rfl
  | some entry => cases entry <;> rfl

theorem ofFile_eq_ok {hash : String} :
    Digest.ofFile tree p = .ok hash ↔ tree.digest? p = some hash := by
  rw [← toOption_ofFile]
  cases Digest.ofFile tree p <;> simp [Except.toOption]

theorem digest?_congr (h : p.same q = true) : tree.digest? p = tree.digest? q := by
  rw [digest?, digest?, content?_congr (Path.same_iff.1 h)]

end FileTree

namespace WatchedSources

variable {s : WatchedSources} {tree : FileTree} {p : Path}

theorem matches_iff : s.Matches tree p ↔ ∃ hash, tree.digest? p = some hash ∧
    s.hashes.get? p = some hash := by
  simp only [Matches, FileTree.ofFile_eq_ok]

/-- The contents of a source whose digests a watch session holds. -/
structure Notes where
  /-- Taken when a rebuild was asked for that the session has not heard of yet. -/
  scheduled : Option ByteArray := none
  /-- Taken for the last good build. -/
  kept : Option ByteArray := none

namespace Notes

/-- Note an event while the source has some content. -/
def hear (p : Path) (content? : Option ByteArray) (n : Notes) : BuildEvent → Notes
  | .fileBuilt source _ _ _ =>
      if source.same p then ⟨none, n.scheduled.or (content?.or n.kept)⟩ else n
  | .error (some source) _ _ => if source.same p then {} else n
  | _ => n

/-- Note that a rebuild is asked for. -/
def schedule (content? : Option ByteArray) (n : Notes) : Notes :=
  { n with scheduled := content?.or n.scheduled }

end Notes

/-- The digests that are held of a source are those of some contents. -/
structure Holds (s : WatchedSources) (p : Path) (n : Notes) : Prop where
  scheduled : s.scheduled.get? p = n.scheduled.map Digest.ofBytes
  kept : s.hashes.get? p = n.kept.map Digest.ofBytes

variable {n : Notes}

theorem scheduled_claim (s : WatchedSources) (tree : FileTree) (path p : Path) :
    (s.claim tree path).1.scheduled.get? p =
      if (s.claim tree path).2 && path.same p then (tree.digest? p).or (s.scheduled.get? p)
      else s.scheduled.get? p := by
  rw [claim]
  split
  · simp
  · cases hdigest : Digest.ofFile tree path with
    | error f =>
        have hnone : tree.digest? path = none := by
          rw [← FileTree.toOption_ofFile, hdigest]
          rfl
        by_cases hsame : path.same p
        · simp [← FileTree.digest?_congr hsame, hnone]
        · simp [hsame]
    | ok hash =>
        have hsome := FileTree.ofFile_eq_ok.1 hdigest
        dsimp only
        split
        · simp
        · rw [PathMap.get?_insert]
          by_cases hsame : path.same p
          · simp [hsame, ← FileTree.digest?_congr hsame, hsome]
          · simp [hsame]

theorem scheduled_claimAll (s : WatchedSources) (tree : FileTree) (paths : List Path) (p : Path) :
    (s.claimAll tree paths).1.scheduled.get? p =
      if (s.claimAll tree paths).2.any (·.same p) then (tree.digest? p).or (s.scheduled.get? p)
      else s.scheduled.get? p := by
  induction paths generalizing s with
  | nil => rfl
  | cons first rest ih =>
      rw [claimAll_cons, ih, scheduled_claim]
      cases (s.claim tree first).2 with
      | false => simp
      | true =>
          by_cases hsame : first.same p <;> simp [hsame, ← Option.or_assoc]

theorem Holds.claimAll (h : s.Holds p n) (tree : FileTree) (paths : List Path) :
    (s.claimAll tree paths).1.Holds p
      (if (s.claimAll tree paths).2.any (·.same p) then n.schedule (tree.content? p) else n) := by
  have hkept : (s.claimAll tree paths).1.hashes.get? p = n.kept.map Digest.ofBytes := by
    rw [(claimed_claimAll s tree paths).hashes, h.kept]
  split
  · rename_i hdue
    refine ⟨?_, hkept⟩
    rw [scheduled_claimAll, if_pos hdue, h.scheduled, Notes.schedule, Option.map_or]
    rfl
  · rename_i hdue
    refine ⟨?_, hkept⟩
    rw [scheduled_claimAll, if_neg hdue, h.scheduled]

theorem get?_noteBuilt (s : WatchedSources) (tree : FileTree) (source p : Path) :
    (s.noteBuilt tree source).scheduled.get? p =
      (if source.same p then none else s.scheduled.get? p) ∧
    (s.noteBuilt tree source).hashes.get? p =
      if source.same p then (s.scheduled.get? p).or ((tree.digest? p).or (s.hashes.get? p))
      else s.hashes.get? p := by
  rw [noteBuilt]
  by_cases hsame : source.same p
  · rw [if_pos hsame, if_pos hsame, PathMap.get?_congr (Path.same_iff.1 hsame)]
    cases hscheduled : s.scheduled.get? p with
    | some hash => simp [PathMap.get?_erase, PathMap.get?_insert, hsame]
    | none =>
        rw [← FileTree.digest?_congr hsame, ← FileTree.toOption_ofFile]
        cases Digest.ofFile tree source with
        | ok hash => simp [PathMap.get?_insert, hsame, hscheduled, Except.toOption]
        | error f => simp [hscheduled, Except.toOption]
  · rw [if_neg hsame, if_neg hsame]
    cases s.scheduled.get? source with
    | some hash => simp [PathMap.get?_erase, PathMap.get?_insert, hsame]
    | none => cases Digest.ofFile tree source <;> simp [PathMap.get?_insert, hsame]

theorem Holds.noteEvent (h : s.Holds p n) (tree : FileTree) (accepts : Path → Bool)
    (event : BuildEvent) :
    (s.noteEvent tree accepts event).Holds p (n.hear p (tree.content? p) event) := by
  have hwatch : ∀ source, (s.watch accepts source).Holds p n := by
    intro source
    rw [watch]
    split
    · exact h
    · exact ⟨h.scheduled, h.kept⟩
  cases event with
  | fileBuilt source dest deps parents =>
      obtain ⟨hscheduled, hkept⟩ := hwatch source
      rw [WatchedSources.noteEvent, Notes.hear]
      have hget := get?_noteBuilt (s.watch accepts source) tree source p
      rw [hscheduled, hkept] at hget
      split
      · rename_i hsame
        rw [if_pos hsame, if_pos hsame] at hget
        refine ⟨hget.1, hget.2.trans ?_⟩
        rw [Option.map_or, Option.map_or]
        rfl
      · rename_i hsame
        rw [if_neg hsame, if_neg hsame] at hget
        exact ⟨hget.1, hget.2⟩
  | error source? message stack =>
      cases source? with
      | none => exact h
      | some source =>
          obtain ⟨hscheduled, hkept⟩ := hwatch source
          rw [WatchedSources.noteEvent, Notes.hear, forget]
          split
          · rename_i hsame
            exact ⟨by simp [PathMap.get?_erase, hsame], by simp [PathMap.get?_erase, hsame]⟩
          · rename_i hsame
            constructor
            · rw [PathMap.get?_erase, if_neg hsame, hscheduled]
            · rw [PathMap.get?_erase, if_neg hsame, hkept]
  | built total => exact h

end WatchedSources

namespace WatchSession

variable {w v : WatchSession} {build after : BuildSession FileTree} {now call : Nat} {p : Path}
  {move : WatchMove} {n : WatchedSources.Notes} {paths : List Path}

/-- A rebuild of a path is among those that were started from some call on. -/
def hasStarted (w : WatchSession) (call : Nat) (p : Path) : Bool :=
  w.rebuilds.any fun entry => decide (call ≤ entry.1) && entry.2.same p

theorem hasStarted_of_lt (h : ∀ entry ∈ w.rebuilds, entry.1 < call) :
    w.hasStarted call p = false := by
  refine List.any_eq_false.2 fun entry hentry => ?_
  simp [Nat.not_le_of_lt (h entry hentry)]

theorem hasStarted_rebuild (h : ∀ entry ∈ w.rebuilds, entry.1 < build.nextCall) :
    (w.rebuild build paths).2.hasStarted build.nextCall p = paths.any (·.same p) := by
  rw [rebuild_eq, hasStarted, List.any_append, ← hasStarted, hasStarted_of_lt h, Bool.false_or,
    Bool.eq_iff_iff, List.any_eq_true, List.any_eq_true,
    ← exists_newRebuilds build.nextCall (P := fun path => path.same p = true)]
  refine exists_congr fun entry => and_congr_right fun hentry => ?_
  rw [decide_eq_true (le_of_mem_newRebuilds hentry).1, Bool.true_and]

/-- What is served leaves the digests of a source as they were noted, or as they are noted now. -/
theorem holds_serve (h : w.sources.Holds p n)
    (hknown : ∀ entry ∈ w.rebuilds, entry.1 < build.nextCall)
    (hserved : w.serve? build now move = some (after, v))
    (hmove : ∀ accepts, move ≠ .event accepts) :
    v.sources.Holds p
      (if v.hasStarted build.nextCall p then n.schedule (build.store.content? p) else n) := by
  cases move with
  | event accepts => exact absurd rfl (hmove accepts)
  | change =>
      obtain ⟨change, changes, -, -, rfl⟩ := serve_change hserved
      rw [hasStarted_of_lt (by exact hknown), if_neg Bool.false_ne_true]
      change (w.sources.noteChange change now).Holds p n
      rw [WatchedSources.noteChange]
      split
      · exact ⟨h.scheduled, h.kept⟩
      · exact h
  | deadline =>
      have hclaimed := WatchedSources.Holds.claimAll (s := w.sources.released now) (n := n)
        ⟨h.scheduled, h.kept⟩ build.store (w.sources.changed now)
      obtain ⟨rfl, rfl⟩ := Prod.mk.inj (serve_deadline hserved)
      rw [hasStarted_rebuild (by exact hknown), rebuild_eq]
      exact hclaimed
  | rebuilt =>
      obtain ⟨call, rebuilt, -, ⟨-, -, rfl⟩ | ⟨path, -, heq⟩⟩ := serve_rebuilt hserved
      · rw [hasStarted_of_lt (by exact hknown), if_neg Bool.false_ne_true]
        exact h
      · have hclaimed := WatchedSources.Holds.claimAll (s := w.sources.freed path) (n := n)
          ⟨h.scheduled, h.kept⟩ build.store (if w.sources.again.contains path then [path] else [])
        rw [← WatchedSources.noteRebuilt_eq] at hclaimed
        obtain ⟨rfl, rfl⟩ := Prod.mk.inj heq
        have hleft : ∀ entry ∈ w.rebuilds.filter fun entry => entry.1 != call,
            entry.1 < build.nextCall :=
          fun entry hentry => hknown entry (List.mem_filter.1 hentry).1
        rw [hasStarted_rebuild (by exact hleft), rebuild_eq]
        exact hclaimed
  | stop =>
      obtain ⟨-, rfl⟩ := serve_stop hserved
      exact h

/-- A session has been told of a good build of a source, and has not taken it in yet or holds a
digest for it. -/
def HasHeard (w : WatchSession) (p : Path) : Prop :=
  w.sources.hashes.contains p = true ∨ ∃ source dest deps parents,
    BuildEvent.fileBuilt source dest deps parents ∈ w.events ∧ source.same p = true

theorem HasHeard.of_serve (h : v.HasHeard p)
    (hserved : w.serve? build now move = some (after, v)) : w.HasHeard p := by
  by_cases hevent : ∃ accepts, move = .event accepts
  · obtain ⟨accepts, rfl⟩ := hevent
    obtain ⟨event, events, hevents, -, rfl⟩ := serve_event hserved
    rcases h with h | ⟨source, dest, deps, parents, hmem, hsame⟩
    · rcases WatchedSources.contains_hashes_noteEvent h with
        ⟨source, dest, deps, parents, rfl, hsame⟩ | ⟨h, -⟩
      · exact Or.inr ⟨source, dest, deps, parents, hevents ▸ List.mem_cons_self, hsame⟩
      · exact Or.inl h
    · have hmem' := List.mem_cons_of_mem event hmem
      exact Or.inr ⟨source, dest, deps, parents, hevents ▸ hmem', hsame⟩
  · obtain ⟨hhashes, hevents⟩ := serve_of_ne_event hserved fun accepts heq => hevent ⟨accepts, heq⟩
    rw [HasHeard, hhashes] at h
    exact h.imp_right fun ⟨source, dest, deps, parents, hmem, hsame⟩ =>
      ⟨source, dest, deps, parents, hevents hmem, hsame⟩

end WatchSession

namespace BuildTask.Stage

/-- A task goes on with what it has read of a source. -/
def HasRead (p : Path) : Stage → Prop
  | .transform job _ => job.source.same p = true
  | .lookUp job _ => job.source.same p = true
  | .gather (some (job, _)) => job.source.same p = true
  | .write job _ _ => job.source.same p = true
  | .finish job (.ok _) => job.source.same p = true
  | _ => False

theorem HasRead.of_finish {p : Path} {job : BuildJob} {result : Except BuildError Nat}
    (h : HasRead p (.finish job result)) : job.source.same p = true := by
  cases result with
  | ok locals => exact h
  | error e => exact h.elim

theorem not_hasRead_request (p : Path) (request : BuildSession.Request) :
    ¬ request.stage.HasRead p := by
  cases request <;> exact fun h => h

end BuildTask.Stage

namespace BuildSession

variable {σ : Type} [FileStore σ] {s : BuildSession σ} {task : BuildTask} {turn : Turn σ} {p : Path}

/-- A task goes on with what it had read, or with what it reads now. -/
theorem Turns.hasRead (hturn : s.Turns task turn) (h : turn.stage.HasRead p) :
    task.stage.HasRead p ∨ ∃ job text, task.stage = .read job ∧ job.source.same p = true ∧
      FileStore.readText s.store job.source = .ok text := by
  cases hturn with
  | read hstage hread => exact Or.inr ⟨_, _, hstage, h, hread⟩
  | write hstage hresult =>
      rw [hstage]
      exact Or.inl h.of_finish
  | _ => simp_all [turnTo, BuildTask.Stage.HasRead]

/-- A source is reported as built by the task that has built it. -/
theorem Turns.finish_of_told (hturn : s.Turns task turn) {addressee : Addressee}
    {source dest : Path} {deps : Nat} {parents : List Path}
    (h : (addressee, .fileBuilt source dest deps parents) ∈ turn.told) :
    ∃ job locals, task.stage = .finish job (.ok locals) ∧ job.source = source := by
  cases hturn with
  | @finish job locals hstage =>
      refine ⟨job, locals, hstage, ?_⟩
      cases hclosing : (s.register.close job.dest true).2 <;> simp_all
  | _ => simp_all [turnTo, BuildEvent.forFile]

end BuildSession

namespace SharedBuild

/-- What a build has read of a source. -/
structure Readings where
  /-- What each task has read last. -/
  byTask : Nat → Option ByteArray := fun _ => none
  /-- What the last good build of the source was made from. -/
  built : Option ByteArray := none

namespace Readings

/-- A task goes on from some stage while the source has some content. -/
def turn (p : Path) (id : Nat) (content? : Option ByteArray) (r : Readings) :
    BuildTask.Stage → Readings
  | .read job =>
      if job.source.same p then { r with byTask := Function.update r.byTask id content? } else r
  | .finish job (.ok _) => if job.source.same p then { r with built := r.byTask id } else r
  | _ => r

def next (p : Path) (r : Readings) (moment : SharedBuild FileTree × Move FileTree) : Readings :=
  match moment.2 with
  | .build id =>
      (moment.1.build.task? id).elim r fun task =>
        r.turn p id (moment.1.build.store.content? p) task.stage
  | _ => r

end Readings

def readings (past : History FileTree) (p : Path) : Readings := past.foldl (Readings.next p) {}

/-- A rebuild of a path is started by a watch session. -/
def starts (x : SharedBuild FileTree) (move : Move FileTree) (i : Nat) (p : Path) : Bool :=
  (x.next? move).any fun y => (y.watches[i]?).any (·.hasStarted x.build.nextCall p)

/-- What a watch session notes of a source. -/
def note (i : Nat) (p : Path) (n : WatchedSources.Notes)
    (moment : SharedBuild FileTree × Move FileTree) : WatchedSources.Notes :=
  let content? := moment.1.build.store.content? p
  match moment.2 with
  | .serve j (.event _) =>
      if j = i then
        ((moment.1.watches[i]?).bind (·.events.head?)).elim n (n.hear p content?)
      else n
  | .serve j own =>
      if j = i ∧ moment.1.starts (.serve j own) i p then n.schedule content? else n
  | _ => n

def notes (past : History FileTree) (i : Nat) (p : Path) : WatchedSources.Notes :=
  past.foldl (note i p) {}

variable {first x y : SharedBuild FileTree} {past : History FileTree} {move : Move FileTree}
  {w v : WatchSession} {i : Nat} {p : Path}

theorem readings_snoc : readings (past ++ [(x, move)]) p = (readings past p).next p (x, move) := by
  rw [readings, List.foldl_append, ← readings]
  rfl

theorem notes_snoc : notes (past ++ [(x, move)]) i p = note i p (notes past i p) (x, move) := by
  rw [notes, List.foldl_append, ← notes]
  rfl

section Notes

theorem note_of_ne {n : WatchedSources.Notes} (h : ∀ own, move ≠ .serve i own) :
    note i p n (x, move) = n := by
  cases move with
  | serve j own =>
      have hji : j ≠ i := fun hji => h own (by rw [hji])
      cases own <;> simp [note, hji]
  | _ => rfl

theorem note_serve {n : WatchedSources.Notes} {own : WatchMove}
    (hnext : x.next? (.serve i own) = some y) (hv : y.watches[i]? = some v)
    (hmove : ∀ accepts, own ≠ .event accepts) : note i p n (x, .serve i own) =
      if v.hasStarted x.build.nextCall p then n.schedule (x.build.store.content? p) else n := by
  have hstarts : x.starts (.serve i own) i p = v.hasStarted x.build.nextCall p := by
    rw [starts, hnext, Option.any_some, hv, Option.any_some]
  cases own with
  | event accepts => exact absurd rfl (hmove accepts)
  | _ => simp [note, hstarts]

/-- A session that has not begun has noted nothing. -/
theorem Run.notes_eq (h : Run first past x) (hw : x.watches[i]? = none) :
    notes past i p = {} := by
  induction h with
  | start => rfl
  | @next past x y move hrun hnext ih =>
      have hx : x.watches[i]? = none := by
        rw [List.getElem?_eq_none_iff] at hw ⊢
        exact Nat.le_trans (length_le_next hnext) hw
      rw [notes_snoc, note_of_ne, ih hx]
      rintro own rfl
      obtain ⟨w, -, -, hw, -⟩ := next_serve hnext
      rw [hx] at hw
      contradiction

/-- The digests that a session holds are those of the contents that it has noted. -/
theorem Run.holds (h : Run first past x) (hfirst : Lawful first.build) (hnone : first.watches = [])
    (hv : x.watches[i]? = some v) : v.sources.Holds p (notes past i p) := by
  induction h generalizing v with
  | start => simp [hnone] at hv
  | @next past x y move hrun hnext ih =>
      rw [notes_snoc]
      cases becomes_of_next (hrun.lawful hfirst).sent hnext hv with
      | @begin addressee window entries hi =>
          have hserve : ∀ own, Move.watch addressee window entries ≠
              (.serve i own : Move FileTree) := fun _ => nofun
          have hfresh := hrun.notes_eq (p := p) (List.getElem?_eq_none (Nat.le_of_eq hi.symm))
          rw [note_of_ne hserve, hfresh]
          exact ⟨rfl, rfl⟩
      | @collect u hu =>
          have hserve : ∀ own, Move.collect ≠ (.serve i own : Move FileTree) := fun _ => nofun
          obtain ⟨rebuilds, rebuilt, heq, -⟩ := u.foldl_endRebuild x.build.collect.2
          obtain ⟨hscheduled, hkept⟩ := ih hu
          rw [note_of_ne hserve, WatchSession.endRebuilds, heq]
          exact ⟨hscheduled, hkept⟩
      | @serve u _ own hu _ hserved =>
          by_cases hevent : ∃ accepts, own = .event accepts
          · obtain ⟨accepts, rfl⟩ := hevent
            obtain ⟨event, events, hevents, hbuild, rfl⟩ := WatchSession.serve_event hserved
            have hnote := (ih hu).noteEvent x.build.store accepts event
            simpa [note, hu, hevents] using hnote
          · have hmove : ∀ accepts, own ≠ .event accepts :=
              fun accepts heq => hevent ⟨accepts, heq⟩
            have hknown := (hrun.charged hfirst hnone).known i
            rw [rebuildsOf_eq hu] at hknown
            rw [note_serve hnext hv hmove]
            exact WatchSession.holds_serve (ih hu) hknown hserved hmove
      | stay hu hserve =>
          obtain ⟨hscheduled, hkept⟩ := ih hu
          rw [note_of_ne hserve]
          exact ⟨hscheduled, hkept⟩

end Notes

section Readings

theorem Readings.next_of_ne {r : Readings} (h : ∀ id, move ≠ .build id) :
    r.next p (x, move) = r := by
  cases move with
  | build id => exact absurd rfl (h id)
  | _ => rfl

theorem readings_build {id : Nat} {task : BuildTask} (htask : x.build.task? id = some task) :
    readings (past ++ [(x, .build id)]) p =
      (readings past p).turn p id (x.build.store.content? p) task.stage := by
  rw [readings_snoc, Readings.next]
  dsimp only
  rw [htask, Option.elim_some]

namespace Readings

variable {r : Readings} {id other : Nat} {content? : Option ByteArray} {stage : BuildTask.Stage}

theorem byTask_turn_of_ne (h : other ≠ id) :
    (r.turn p id content? stage).byTask other = r.byTask other := by
  unfold turn
  split
  · split
    · exact Function.update_of_ne h _ _
    · rfl
  · split <;> rfl
  · rfl

theorem byTask_turn_of_hasRead (h : stage.HasRead p) :
    (r.turn p id content? stage).byTask = r.byTask := by
  unfold turn
  split
  · exact h.elim
  · split <;> rfl
  · rfl

theorem isSome_built_turn (hread : stage.HasRead p → (r.byTask id).isSome = true)
    (hbuilt : r.built.isSome = true ∨ ∃ job locals, stage = .finish job (.ok locals) ∧
      job.source.same p = true) :
    (r.turn p id content? stage).built.isSome = true := by
  unfold turn
  split
  · rcases hbuilt with hbuilt | ⟨job, locals, heq, -⟩
    · split <;> exact hbuilt
    · contradiction
  · rename_i job locals
    split
    · rename_i hsame
      exact hread hsame
    · rename_i hsame
      rcases hbuilt with hbuilt | ⟨job, locals, heq, hbuilt⟩
      · exact hbuilt
      · cases heq
        exact absurd hbuilt hsame
  · rename_i hfinish
    rcases hbuilt with hbuilt | ⟨job, locals, rfl, -⟩
    · exact hbuilt
    · exact absurd rfl (hfinish job locals)

end Readings

/-- What is told or remembered of a source, or goes on with it, is what has been read. -/
structure Sourced (past : History FileTree) (p : Path) (x : SharedBuild FileTree) : Prop where
  tasks : ∀ task ∈ x.build.tasks, task.stage.HasRead p →
    ((readings past p).byTask task.id).isSome = true
  watches : ∀ (i : Nat) (w : WatchSession), x.watches[i]? = some w → w.HasHeard p →
    (readings past p).built.isSome = true

namespace Sourced

theorem tasks_next (h : Sourced past p x) (hx : Lawful x.build) (hnext : x.next? move = some y) :
    ∀ task ∈ y.build.tasks, task.stage.HasRead p →
      ((readings (past ++ [(x, move)]) p).byTask task.id).isSome = true := by
  by_cases hbuild : ∃ id, move = .build id
  · obtain ⟨id, rfl⟩ := hbuild
    obtain ⟨task, turn, hfound, hturn, rfl⟩ := next_build hnext hx.sent
    obtain ⟨htask, rfl⟩ := BuildSession.mem_of_task? hfound
    rw [readings_build hfound]
    intro u hu hread
    rcases (BuildSession.mem_tasks_perform hx.orderly htask turn).1 hu with ⟨hu, hne, -⟩ | rfl | hu
    · rw [Readings.byTask_turn_of_ne hne]
      exact h.tasks u hu hread
    · rcases hturn.hasRead hread with hread | ⟨job, text, hstage, hsame, htext⟩
      · rw [Readings.byTask_turn_of_hasRead hread]
        exact h.tasks task htask hread
      · obtain ⟨content, hcontent, -⟩ := FileTree.readText_eq_ok.1 htext
        rw [FileTree.content?_congr (Path.same_iff.1 hsame)] at hcontent
        simp [hstage, Readings.turn, hsame, hcontent, BuildSession.Turn.after]
    · obtain ⟨path, requester, hstage⟩ :=
        hturn.spawned_visits _ (BuildSession.mem_started hu).2.2.2.2.2.2
      rw [hstage] at hread
      exact hread.elim
  · have hmove : ∀ id, move ≠ .build id := fun id heq => hbuild ⟨id, heq⟩
    rw [readings_snoc, Readings.next_of_ne hmove]
    refine build_induction (P := fun s => ∀ task ∈ s.tasks, task.stage.HasRead p →
        ((readings past p).byTask task.id).isSome = true) (fun s addressee request hs u hu => ?_)
      (fun id _ _ heq => absurd heq (hmove id)) (fun _ _ hs => hs)
      (fun s hs u hu => hs u (List.mem_filter.1 hu).1)
      (fun s keeps hs u hu => hs u (List.mem_filter.1 hu).1) hx.sent h.tasks hnext
    rcases List.mem_append.1 hu with hu | hu
    · exact hs u hu
    · rw [List.mem_singleton.1 hu]
      exact fun hread => absurd hread (BuildTask.Stage.not_hasRead_request p request)

theorem built_next (h : Sourced past p x) (hx : Lawful x.build) (hnext : x.next? move = some y)
    (hbuilt : (readings past p).built.isSome = true) :
    (readings (past ++ [(x, move)]) p).built.isSome = true := by
  by_cases hbuild : ∃ id, move = .build id
  · obtain ⟨id, rfl⟩ := hbuild
    obtain ⟨task, turn, hfound, -, -⟩ := next_build hnext hx.sent
    obtain ⟨htask, rfl⟩ := BuildSession.mem_of_task? hfound
    rw [readings_build hfound]
    exact Readings.isSome_built_turn (h.tasks task htask) (Or.inl hbuilt)
  · rwa [readings_snoc, Readings.next_of_ne fun id heq => hbuild ⟨id, heq⟩]

theorem built_of_tells (h : Sourced past p x) {source dest : Path} {deps : Nat}
    {parents : List Path} (htells : x.Tells move (.fileBuilt source dest deps parents))
    (hsame : source.same p = true) : (readings (past ++ [(x, move)]) p).built.isSome = true := by
  obtain ⟨id, task, turn, addressee, rfl, hfound, hturn, htold⟩ := htells
  obtain ⟨htask, rfl⟩ := BuildSession.mem_of_task? hfound
  obtain ⟨job, locals, hstage, rfl⟩ := hturn.finish_of_told htold
  rw [readings_build hfound]
  exact Readings.isSome_built_turn (h.tasks task htask) (Or.inr ⟨job, locals, hstage, hsame⟩)

theorem next (h : Sourced past p x) (hx : Lawful x.build) (hnext : x.next? move = some y) :
    Sourced (past ++ [(x, move)]) p y where
  tasks := h.tasks_next hx hnext
  watches i v hv hheard := by
    have hold : ∀ w, x.watches[i]? = some w → w.HasHeard p →
        (readings (past ++ [(x, move)]) p).built.isSome = true :=
      fun w hw hheard => h.built_next hx hnext (h.watches i w hw hheard)
    cases becomes_of_next hx.sent hnext hv with
    | begin => rcases hheard with hhash | ⟨_, _, _, _, hmem, -⟩ <;> contradiction
    | @collect u hu =>
        obtain ⟨rebuilds, rebuilt, heq, -⟩ := u.foldl_endRebuild x.build.collect.2
        rw [WatchSession.endRebuilds, heq] at hheard
        exact hold u hu hheard
    | serve hu _ hserved => exact hold _ hu (hheard.of_serve hserved)
    | @stay u _ events changes hu _ _ htold =>
        rcases hheard with hhash | ⟨source, dest, deps, parents, hmem, hsame⟩
        · exact hold u hu (Or.inl hhash)
        · rcases htold _ hmem with hmem | htells
          · exact hold u hu (Or.inr ⟨source, dest, deps, parents, hmem, hsame⟩)
          · exact h.built_of_tells htells hsame

end Sourced

theorem Run.sourced (h : Run first past x) (hfirst : Lawful first.build)
    (hempty : first.build.tasks = []) (hnone : first.watches = []) : Sourced past p x := by
  induction h with
  | start =>
      constructor
      · simp [hempty]
      · simp [hnone]
  | next hrun hnext ih => exact ih.next (hrun.lawful hfirst) hnext

end Readings

/-- **When a rebuild is rightly skipped.** A digest that a watch session holds of a source is that
of the content that it noted, when it asked for a rebuild or when it heard of the build, and the
last good build of the source was made from a content that was read. If a rebuild is skipped,
because the source has the digest that is held, then the source has the digest of what was read
exactly if what was noted has it. -/
theorem skip_iff {tree : FileTree} {options : BuildOptions} {sourceTransform : SourceTransform}
    {hash : String} (hrun : Run (start tree options sourceTransform) past x)
    (hw : x.watches[i]? = some w) (hhash : w.sources.hashes.get? p = some hash) :
    ∃ noted content, (notes past i p).kept = some noted ∧
      (readings past p).built = some content ∧ hash = Digest.ofBytes noted ∧
      (w.sources.Matches x.build.store p →
        (Digest.ofFile x.build.store p = .ok (Digest.ofBytes content) ↔
          Digest.ofBytes noted = Digest.ofBytes content)) := by
  have hfirst : Lawful (start tree options sourceTransform).build := .start _ _ _
  have hheld := (hrun.holds (p := p) hfirst rfl hw).kept
  rw [hhash] at hheld
  obtain ⟨noted, hnoted, rfl⟩ := Option.map_eq_some_iff.1 hheld.symm
  have hheard : w.HasHeard p := Or.inl (PathMap.contains_iff.2 ⟨_, hhash⟩)
  obtain ⟨content, hcontent⟩ :=
    Option.isSome_iff_exists.1 ((hrun.sourced hfirst rfl rfl).watches i w hw hheard)
  refine ⟨noted, content, hnoted, hcontent, rfl, fun ⟨found, hfound, hsame⟩ => ?_⟩
  rw [hhash] at hsame
  obtain rfl := Option.some.inj hsame
  simp [hfound]

section Solo

/-- Nothing is left to do, and the source has the digest that is held of it. -/
def isAtRest (x : SharedBuild FileTree) : Bool :=
  x.build.tasks.isEmpty && (x.watches[0]?).any fun w =>
    w.events.isEmpty && w.changes.isEmpty && w.rebuilds.isEmpty &&
      decide (w.sources.hashes.get? "/p/a.js" = x.build.store.digest? "/p/a.js")

/-- The source was built from its first text, and has some text now. -/
def wasBuiltBefore (text : String) (found : History FileTree × SharedBuild FileTree) : Bool :=
  decide ((readings found.1 "/p/a.js").built = some "0".toUTF8) &&
    decide (found.2.build.store.content? "/p/a.js" = some text.toUTF8) &&
    decide (found.2.build.store.content? "/p/out/a.js" = some "0".toUTF8)

theorem exists_skip (moves : List (Move FileTree)) (text : String)
    (h : (solo.replay? moves).any (fun found => isAtRest found.2 && wasBuiltBefore text found) =
      true) :
    ∃ past x w, solo.replay? moves = some (past, x) ∧ Run solo past x ∧ x.watches[0]? = some w ∧
      w.events = [] ∧ w.changes = [] ∧ w.rebuilds = [] ∧ x.build.tasks = [] ∧
      w.sources.hashes.get? "/p/a.js" = some (Digest.ofText text) ∧
      w.sources.Matches x.build.store "/p/a.js" ∧
      (readings past "/p/a.js").built = some "0".toUTF8 ∧
      x.build.store.content? "/p/a.js" = some text.toUTF8 ∧
      x.build.store.content? "/p/out/a.js" = some "0".toUTF8 := by
  obtain ⟨past, x, hreplay, hrun, hcheck⟩ := exists_replay _ h
  obtain ⟨hrest, hbuilt⟩ := (Bool.and_eq_true _ _).mp hcheck
  obtain ⟨hidle, hwatch⟩ := (Bool.and_eq_true _ _).mp hrest
  obtain ⟨w, hw, hwatch⟩ := (Option.any_eq_true _ _).1 hwatch
  simp only [Bool.and_eq_true, List.isEmpty_iff, decide_eq_true_eq, and_assoc] at hwatch hidle
  simp only [wasBuiltBefore, Bool.and_eq_true, decide_eq_true_eq, and_assoc] at hbuilt
  obtain ⟨hevents, hchanges, hrebuilds, hhash⟩ := hwatch
  have hdigest : x.build.store.digest? "/p/a.js" = some (Digest.ofText text) := by
    rw [FileTree.digest?, hbuilt.2.1]
    rfl
  have hmatches : w.sources.Matches x.build.store "/p/a.js" :=
    WatchedSources.matches_iff.2 ⟨_, hdigest, hhash.trans hdigest⟩
  exact ⟨past, x, w, hreplay, hrun, hw, hevents, hchanges, hrebuilds, hidle, hhash.trans hdigest,
    hmatches, hbuilt⟩

theorem skip_iff_noticeChange : ∃ past x w, Run solo past x ∧ x.watches[0]? = some w ∧
    w.sources.hashes.get? "/p/a.js" = some (Digest.ofText "0") ∧
    w.sources.Matches x.build.store "/p/a.js" ∧
    ∃ noted content, (notes past 0 "/p/a.js").kept = some noted ∧
      (readings past "/p/a.js").built = some content ∧ Digest.ofText "0" = Digest.ofBytes noted ∧
      (Digest.ofFile x.build.store "/p/a.js" = .ok (Digest.ofBytes content) ↔
        Digest.ofBytes noted = Digest.ofBytes content) ∧
      Digest.ofBytes noted = Digest.ofBytes content := by
  obtain ⟨past, x, w, -, hrun, hw, -, -, -, -, hhash, hmatches, hbuilt, -, -⟩ :=
    exists_skip (firstBuild ++ noticeChange) "0" (by decide +kernel)
  obtain ⟨noted, content, hnoted, hcontent, hdigest, hskip⟩ := skip_iff hrun hw hhash
  obtain rfl := Option.some.inj (hcontent.symm.trans hbuilt)
  exact ⟨past, x, w, hrun, hw, hhash, hmatches, noted, _, hnoted, hcontent, hdigest,
    hskip hmatches, hdigest.symm⟩

/-- The source is written after its first build has read it, and before the session hears of it. -/
def saveDuringBuild : List (Move FileTree) :=
  Move.watch ⟨1, 0⟩ 50 ["a.js"] :: List.replicate 3 (Move.build 0) ++
    Move.edit (·.putFile "/p/a.js" "1".toUTF8) :: List.replicate 6 (Move.build 0) ++
    [takeEvent, takeEvent, .collect] ++ noticeChange

/-- The rebuild of a source is skipped though its output is that of another text. -/
theorem not_built_of_skip_saveDuringBuild : ∃ past x w,
    solo.replay? saveDuringBuild = some (past, x) ∧ Run solo past x ∧ x.watches[0]? = some w ∧
      w.events = [] ∧ w.changes = [] ∧ w.rebuilds = [] ∧ x.build.tasks = [] ∧
      w.sources.hashes.get? "/p/a.js" = some (Digest.ofText "1") ∧
      w.sources.Matches x.build.store "/p/a.js" ∧
      (readings past "/p/a.js").built = some "0".toUTF8 ∧
      x.build.store.content? "/p/a.js" = some "1".toUTF8 ∧
      x.build.store.content? "/p/out/a.js" = some "0".toUTF8 :=
  exists_skip saveDuringBuild "1" (by decide +kernel)

end Solo

end SharedBuild

end LiveBuild
