import LiveBuild.Proofs.Releases
import LiveBuild.Proofs.SharedBuild

/-!
# Deadlines and releases

When the window of a change ends is told in two ways. The deadline is a sum, the earliest of those
of all pending changes; the release compares the time that has passed with the window. Both mean the
same moment, also when times run backwards, because a window takes time. So a watch session that
waits for the deadline wakes up for a change that is due, and for none too late.
-/

namespace LiveBuild

namespace PendingChanges

variable {c : PendingChanges} {now deadline : Nat} {held : Held}

theorem isReady_iff (hwindow : 0 < c.window) :
    c.isReady now held = true ↔ held.lastSeen + c.window ≤ now := by
  rw [isReady, decide_eq_true_eq]
  omega

theorem mem_entries_release {entry : Path × Held} :
    entry ∈ (c.release now).1.held.entries ↔
      entry ∈ c.held.entries ∧ c.isReady now entry.2 = false := by
  rw [entries_release, List.mem_filter, Bool.not_eq_true']

theorem deadline?_eq_some_iff : c.deadline? = some deadline ↔
    (∃ entry ∈ c.held.entries, entry.2.lastSeen + c.window = deadline) ∧
      ∀ entry ∈ c.held.entries, deadline ≤ entry.2.lastSeen + c.window := by
  rw [deadline?, List.min?_eq_some_iff, List.mem_map, List.forall_mem_map]

theorem deadline?_eq_none_iff : c.deadline? = none ↔ c.isEmpty = true := by
  rw [deadline?, List.min?_eq_none_iff, List.map_eq_nil_iff, isEmpty, PathMap.isEmpty,
    List.isEmpty_iff]

/-- The deadline has come once that of some change has. -/
theorem exists_deadline_le_iff : (∃ deadline, c.deadline? = some deadline ∧ deadline ≤ now) ↔
    ∃ entry ∈ c.held.entries, entry.2.lastSeen + c.window ≤ now := by
  constructor
  · rintro ⟨deadline, hdeadline, hle⟩
    obtain ⟨⟨entry, hmem, rfl⟩, -⟩ := deadline?_eq_some_iff.1 hdeadline
    exact ⟨entry, hmem, hle⟩
  · rintro ⟨entry, hmem, hle⟩
    cases hdeadline : c.deadline? with
    | none =>
        rw [deadline?_eq_none_iff, isEmpty, PathMap.isEmpty, List.isEmpty_iff] at hdeadline
        rw [hdeadline] at hmem
        contradiction
    | some deadline =>
        have hfirst := (deadline?_eq_some_iff.1 hdeadline).2 entry hmem
        exact ⟨deadline, rfl, Nat.le_trans hfirst hle⟩

theorem released_ne_nil_iff : (c.release now).2 ≠ [] ↔
    ∃ entry ∈ c.held.entries, c.isReady now entry.2 = true := by
  constructor
  · intro hne
    obtain ⟨released, hreleased⟩ := List.exists_mem_of_ne_nil _ hne
    obtain ⟨held, hmem, hready, -⟩ := mem_release.1 hreleased
    exact ⟨(released.1, held), hmem, hready⟩
  · rintro ⟨entry, hmem, hready⟩
    exact List.ne_nil_of_mem (mem_release.2 ⟨entry.2, hmem, hready, rfl⟩ :
      (entry.1, entry.2.kind) ∈ (c.release now).2)

/-- Something is released exactly once the deadline has come. -/
theorem released_iff_deadline_le (hwindow : 0 < c.window) : (c.release now).2 ≠ [] ↔
    ∃ deadline, c.deadline? = some deadline ∧ deadline ≤ now := by
  rw [exists_deadline_le_iff, released_ne_nil_iff]
  simp only [isReady_iff hwindow]

/-- What a release leaves is not due yet. -/
theorem lt_deadline_release (hwindow : 0 < c.window)
    (h : (c.release now).1.deadline? = some deadline) : now < deadline := by
  have hkept : (c.release now).1.window = c.window := by rw [entries_release]
  obtain ⟨⟨entry, hmem, rfl⟩, -⟩ := deadline?_eq_some_iff.1 h
  obtain ⟨-, hready⟩ := mem_entries_release.1 hmem
  rw [← Bool.not_eq_true, isReady_iff hwindow] at hready
  rw [hkept]
  exact Nat.lt_of_not_le hready

/-- Nothing pending, nothing released. -/
theorem release_of_isEmpty (h : c.isEmpty = true) (now : Nat) : c.release now = (c, []) := by
  rw [isEmpty, PathMap.isEmpty, List.isEmpty_iff] at h
  obtain ⟨window, ⟨entries⟩⟩ := c
  obtain rfl : entries = [] := h
  simp [release]

end PendingChanges

namespace WatchSession

open PendingChanges

variable {σ : Type} [FileStore σ] {w v : WatchSession} {build after : BuildSession σ} {now : Nat}
  {move : WatchMove}

theorem exists_serve_deadline_iff : (∃ served, w.serve? build now .deadline = some served) ↔
    ∃ deadline, w.sources.pending.deadline? = some deadline ∧ deadline ≤ now := by
  rw [serve?, takeDeadline?]
  cases w.sources.pending.deadline? with
  | none => simp
  | some deadline => by_cases hle : deadline ≤ now <;> simp [hle]

theorem pending_deadline (h : w.serve? build now .deadline = some (after, v)) :
    v.sources.pending = (w.sources.pending.release now).1 := by
  have hv := congrArg Prod.snd (serve_deadline h)
  rw [rebuild_eq] at hv
  obtain rfl : v = _ := hv
  exact (WatchedSources.claimed_claimAll _ _ _).pending

/-- Whatever a watch session does, it makes at most one report or release of what is pending. -/
theorem pending_serve (h : w.serve? build now move = some (after, v)) :
    v.sources.pending = w.sources.pending ∨
      ∃ call, v.sources.pending = w.sources.pending.act call := by
  cases move with
  | event accepts =>
      obtain ⟨event, events, -, -, rfl⟩ := serve_event h
      exact .inl (w.sources.noteEvent_spec build.store accepts event).1
  | change =>
      obtain ⟨change, changes, -, -, rfl⟩ := serve_change h
      dsimp only
      rw [WatchedSources.noteChange]
      split
      · exact .inr ⟨.add change.path change.kind now, rfl⟩
      · exact .inl rfl
  | deadline => exact .inr ⟨.release now, pending_deadline h⟩
  | rebuilt =>
      obtain ⟨call, rebuilt, -, ⟨-, -, rfl⟩ | ⟨path, -, heq⟩⟩ := serve_rebuilt h
      · exact .inl rfl
      · have hv := congrArg Prod.snd heq
        rw [rebuild_eq] at hv
        obtain rfl : v = _ := hv
        exact .inl (WatchedSources.claimed_noteRebuilt _ _ _).pending
  | stop =>
      obtain ⟨-, rfl⟩ := serve_stop h
      exact .inl rfl

end WatchSession

namespace SharedBuild

open PendingChanges

variable {σ : Type} [FileStore σ] {x y : SharedBuild σ} {past : History σ} {move : Move σ}
  {w v : WatchSession} {i : Nat} {store : σ} {options : BuildOptions}
  {sourceTransform : SourceTransform}

/-- What is pending in a watch session came about by reports and releases, in the window that the
session began with. -/
def Gathered (past : History σ) (w : WatchSession) : Prop :=
  ∃ z addressee window entries calls, (z, Move.watch addressee window entries) ∈ past ∧
    w.sources.pending = after window calls

theorem Run.gathered (h : Run (SharedBuild.start store options sourceTransform) past x)
    (hw : x.watches[i]? = some w) : Gathered past w := by
  induction h generalizing w with
  | start => simp [SharedBuild.start] at hw
  | @next past x y move hrun hnext ih =>
      have hgrows : ∀ {v : WatchSession}, x.watches[i]? = some v →
          (w.sources.pending = v.sources.pending ∨
            ∃ call, w.sources.pending = v.sources.pending.act call) →
          Gathered (past ++ [(x, move)]) w := by
        intro v hv hpending
        obtain ⟨z, addressee, window, entries, calls, hmem, hcalls⟩ := ih hv
        have hmem := List.mem_append_left [(x, move)] hmem
        rcases hpending with hpending | ⟨call, hpending⟩
        · exact ⟨z, addressee, window, entries, calls, hmem, hpending.trans hcalls⟩
        · exact ⟨z, addressee, window, entries, calls ++ [call], hmem, by
            rw [hpending, hcalls, after_snoc]⟩
      have hlawful := hrun.lawful (.start store options sourceTransform)
      cases becomes_of_next hlawful.sent hnext hw with
      | begin =>
          exact ⟨x, _, _, _, [], List.mem_append_right _ (List.mem_singleton_self _), rfl⟩
      | @collect v hv =>
          obtain ⟨rebuilds, rebuilt, heq, -⟩ := v.foldl_endRebuild x.build.collect.2
          refine hgrows hv (.inl ?_)
          rw [WatchSession.endRebuilds, heq]
      | serve hv _ hserved => exact hgrows hv (WatchSession.pending_serve hserved)
      | stay hv => exact hgrows hv (.inl rfl)

/-- The turn of the deadline can be taken exactly when there is something to release. -/
theorem exists_next_deadline_iff (hw : x.running? i = some w)
    (hwindow : 0 < w.sources.pending.window) :
    (∃ y, x.next? (.serve i .deadline) = some y) ↔ (w.sources.pending.release x.now).2 ≠ [] := by
  have hserve : (∃ served, w.serve? x.build x.now .deadline = some served) ↔
      ∃ deadline, w.sources.pending.deadline? = some deadline ∧ deadline ≤ x.now :=
    WatchSession.exists_serve_deadline_iff
  rw [released_iff_deadline_le hwindow, ← hserve, next?, hw, Option.bind_some]
  simp only [Option.map_eq_some_iff, exists_comm, exists_and_left, exists_eq', and_true]

def backwards : List Call := [.add "a" .modified 100, .add "b" .created 30]

/-- A change of the built source is reported, and its window passes. -/
def changeAwaited : List (Move FileTree) :=
  firstBuild ++ [.report 0 ⟨"/p/a.js", .modified⟩, .serve 0 .change, .wait 50]

/-- A change that is pending in the first watch session is due. -/
def isDue (x : SharedBuild FileTree) : Bool :=
  (x.running? 0).any fun w =>
    !(w.sources.pending.held.entries.filter (w.sources.pending.isReady x.now ·.2)).isEmpty

end SharedBuild

end LiveBuild
