import LiveBuild.Proofs.Histories
import LiveBuild.Proofs.WatchTurns
import Mathlib.Data.List.Induction

/-!
# What is released after a quiet window

Changes are reported and released in any order and at any times, also at times that run backwards.
However many reports of a path are merged, its last report since its last release decides whether
the release is due and whether it leaves something to build. Reports of other paths do not count.
-/

namespace LiveBuild

namespace PathMap

variable {α : Type} {m : PathMap α} {p q : Path} {v : α}

/-- The entry of one place alone. -/
def only (m : PathMap α) (p : Path) : PathMap α := ⟨m.entries.filter fun entry => entry.1.same p⟩

theorem same_of_same (h : q.same p = true) (k : Path) : k.same q = k.same p := by
  rw [Path.same_comm, Path.same_congr_left (Path.same_iff.1 h), Path.same_comm]

theorem find?_only (h : q.same p = true) : (m.only p).find? q = m.find? q := by
  simp only [find?, only, List.find?_filter, same_of_same h, Bool.and_self, Bool.decide_and,
    Bool.decide_eq_true]

theorem only_insert (q : Path) (v : α) :
    (m.insert q v).only p = if q.same p = true then (m.only p).insert q v else m.only p := by
  have hkey : ∀ entry : Path × α,
      (if entry.1.same q then (entry.1, v) else entry).1 = entry.1 := by
    intro entry
    split <;> rfl
  by_cases hsame : q.same p = true
  · have hcontains : (m.only p).contains q = m.contains q := by
      rw [contains, contains, find?_only hsame]
    rw [if_pos hsame, insert, insert, hcontains]
    split
    · simp only [only, List.filter_map, Function.comp_def, hkey]
    · simp [only, hsame]
  · rw [if_neg hsame, insert]
    split
    · simp only [only, List.filter_map, Function.comp_def, hkey]
      congr 1
      refine (List.map_congr_left fun entry hentry => ?_).trans (List.map_id _)
      obtain ⟨-, hp⟩ := List.mem_filter.1 hentry
      rw [if_neg, id]
      intro hq
      rw [Path.same_congr_left (Path.same_iff.1 hq)] at hp
      exact hsame hp
    · simp [only, hsame]

theorem only_erase (q : Path) :
    (m.erase q).only p = if q.same p = true then (m.only p).erase q else m.only p := by
  simp only [only, erase, List.filter_filter]
  split
  · simp only [Bool.and_comm]
  · rename_i hsame
    congr 1
    refine List.filter_congr fun entry _ => ?_
    by_cases hp : entry.1.same p = true
    · rw [hp, Path.same_congr_left (Path.same_iff.1 hp), Path.same_comm]
      simp [hsame]
    · simp [hp]

end PathMap

namespace PendingChanges

/-- What can be done with pending changes. -/
inductive Call where
  | add (path : Path) (kind : Change) (now : Nat)
  | release (now : Nat)

variable {c : PendingChanges} {window : Nat} {calls : List Call} {path key : Path}
  {kind : Change} {now time : Nat}

/-- A report concerns its own path, a release concerns all. -/
def Call.concerns (path : Path) : Call → Bool
  | .add key _ _ => key.same path
  | .release _ => true

def act (c : PendingChanges) : Call → PendingChanges
  | .add path kind now => c.add path kind now
  | .release now => (c.release now).1

/-- What is pending after some calls. -/
def after (window : Nat) (calls : List Call) : PendingChanges := calls.foldl act { window }

/-- A release at some time returns a path. -/
def Releases (c : PendingChanges) (now : Nat) (path : Path) : Prop :=
  ∃ entry ∈ (c.release now).2, entry.1.same path = true

/-- The last report of a path, which was not released since. -/
def IsLatest (window : Nat) (calls : List Call) (path : Path) (kind : Change) (time : Nat) : Prop :=
  ∃ before key later, calls = before ++ .add key kind time :: later ∧ key.same path = true ∧
    (∀ other kind now, .add other kind now ∈ later → other.same path = false) ∧
    ∀ earlier now rest, later = earlier ++ .release now :: rest →
      ¬ (after window (before ++ .add key kind time :: earlier)).Releases now path

section Steps

theorem get?_add_of_ne (h : key.same path = false) :
    (c.add key kind now).held.get? path = c.held.get? path := by
  rw [add]
  cases c.held.get? key with
  | none => simp only [PathMap.get?_insert, h, Bool.false_eq_true, if_false]
  | some old =>
      cases hmerge : merge old.kind kind with
      | none => simp only [hmerge, PathMap.get?_erase, h, Bool.false_eq_true, if_false]
      | some kept => simp only [hmerge, PathMap.get?_insert, h, Bool.false_eq_true, if_false]

/-- Whatever it is merged into, a report decides whether there is something to build. -/
theorem needsBuild_merge (old kind : Change) :
    (merge old kind).elim false Change.needsBuild = kind.needsBuild := by
  cases old <;> cases kind <;> rfl

theorem get?_add_of_same (c : PendingChanges) (kind : Change) (now : Nat)
    (h : key.same path = true) :
    (∃ kept : Change, (c.add key kind now).held.get? path = some ⟨kept, now⟩ ∧
        kept.needsBuild = kind.needsBuild) ∨
      ((c.add key kind now).held.get? path = none ∧ kind.needsBuild = false) := by
  rw [add]
  cases c.held.get? key with
  | none => exact Or.inl ⟨kind, by simp only [PathMap.get?_insert, h, if_true], rfl⟩
  | some old =>
      have hneeds := needsBuild_merge old.kind kind
      cases hmerge : merge old.kind kind with
      | none =>
          rw [hmerge] at hneeds
          exact Or.inr ⟨by simp only [hmerge, PathMap.get?_erase, h, if_true], hneeds.symm⟩
      | some kept =>
          rw [hmerge] at hneeds
          exact Or.inl ⟨kept, by simp only [hmerge, PathMap.get?_insert, h, if_true], hneeds⟩

theorem entries_release (c : PendingChanges) (now : Nat) : (c.release now).1 =
    { c with held := ⟨c.held.entries.filter fun entry => !c.isReady now entry.2⟩ } := by
  simp only [release, List.partition_eq_filter_filter, Function.comp_def]

theorem get?_release (h : c.held.Distinct) : (c.release now).1.held.get? path =
    (c.held.get? path).filter fun held => !c.isReady now held := by
  ext held
  rw [entries_release, (h.filter _).get?_eq_some_iff, Option.filter_eq_some_iff,
    h.get?_eq_some_iff]
  simp only [List.mem_filter]
  tauto

/-- A path is released if what is pending of it has waited for long enough. -/
theorem exists_released_iff (h : c.held.Distinct) (now : Nat) (path : Path) (P : Change → Prop) :
    (∃ entry ∈ (c.release now).2, entry.1.same path = true ∧ P entry.2) ↔
      ∃ held, c.held.get? path = some held ∧ c.isReady now held = true ∧ P held.kind := by
  simp only [mem_release, h.get?_eq_some_iff]
  constructor
  · rintro ⟨entry, ⟨held, hmem, hready, hkind⟩, hsame, hP⟩
    exact ⟨held, ⟨entry.1, hmem, hsame⟩, hready, hkind ▸ hP⟩
  · rintro ⟨held, ⟨k, hmem, hsame⟩, hready, hP⟩
    exact ⟨(k, held.kind), ⟨held, hmem, hready, rfl⟩, hsame, hP⟩

theorem releases_iff (h : c.held.Distinct) : c.Releases now path ↔
    ∃ held, c.held.get? path = some held ∧ c.isReady now held = true := by
  simpa [Releases] using exists_released_iff h now path fun _ => True

theorem not_holds_of_released (h : c.held.Distinct) {entry : Path × Change}
    (hentry : entry ∈ (c.release now).2) : (c.release now).1.holds entry.1 = false := by
  obtain ⟨held, hget, hready⟩ := (releases_iff h).1 ⟨entry, hentry, Path.same_self _⟩
  rw [holds, PathMap.contains_eq_false_iff, get?_release h, hget]
  simp [hready]

/-- What is released stands in path order, each path once. -/
theorem pairwise_release (h : c.held.Distinct) (now : Nat) :
    ((c.release now).2.map (·.1)).Pairwise fun a b =>
      compare a.components b.components = .lt := by
  have hdistinct := (distinct_release h now).2
  have hle : ((c.release now).2.map (·.1)).Pairwise fun a b => a.le b = true := by
    have hsorted (held : List (Path × Held)) : (held.mergeSort fun a b => a.1.le b.1).Pairwise
        fun a b => a.1.le b.1 = true := by
      refine List.pairwise_mergeSort ?_ ?_ held
      · exact fun _ _ _ => Path.le_trans
      · exact fun a b => Path.le_total a.1 b.1
    rw [release, List.map_map]
    exact List.pairwise_map.2 (hsorted _)
  exact Path.pairwise_lt hle hdistinct

end Steps

section Runs

theorem after_snoc (window : Nat) (calls : List Call) (call : Call) :
    after window (calls ++ [call]) = (after window calls).act call := by
  rw [after, List.foldl_append]
  rfl

theorem window_after (window : Nat) (calls : List Call) : (after window calls).window = window := by
  induction calls using List.reverseRecOn with
  | nil => rfl
  | append_singleton calls call ih =>
      rw [after_snoc]
      cases call with
      | add path kind now =>
          rw [act, add]
          split
          · exact ih
          · split <;> exact ih
      | release now => exact ih

theorem distinct_after (window : Nat) (calls : List Call) : (after window calls).held.Distinct := by
  induction calls using List.reverseRecOn with
  | nil => exact List.Pairwise.nil
  | append_singleton calls call ih =>
      rw [after_snoc]
      cases call with
      | add path kind now => exact distinct_add ih path kind now
      | release now => exact (distinct_release ih now).1

theorem isLatest_snoc_add {other : Change} :
    IsLatest window (calls ++ [.add key other now]) path kind time ↔
      if key.same path = true then other = kind ∧ now = time
      else IsLatest window calls path kind time := by
  constructor
  · rintro ⟨before, first, later, hcalls, hfirst, hadds, hreleases⟩
    rcases BuildSession.snoc_cases hcalls with ⟨rfl, hlast, rfl⟩ | ⟨rest, rfl, rfl⟩
    · obtain ⟨rfl, rfl, rfl⟩ := Call.add.inj hlast
      rw [if_pos hfirst]
      exact ⟨rfl, rfl⟩
    · rw [if_neg (Bool.eq_false_iff.1 (hadds key other now (by simp)))]
      refine ⟨before, first, rest, rfl, hfirst, ?_, fun earlier t tail hrest => ?_⟩
      · exact fun k o t hmem => hadds k o t (List.mem_append_left _ hmem)
      · exact hreleases earlier t (tail ++ [.add key other now]) (by rw [hrest]; simp)
  · intro h
    split at h
    · obtain ⟨rfl, rfl⟩ := h
      exact ⟨calls, key, [], rfl, ‹_›, by simp, by simp⟩
    · obtain ⟨before, first, later, rfl, hfirst, hadds, hreleases⟩ := h
      refine ⟨before, first, later ++ [.add key other now], by simp, hfirst, fun k o t hmem => ?_,
        fun earlier t rest hlater => ?_⟩
      · rcases List.mem_append.1 hmem with hmem | hmem
        · exact hadds k o t hmem
        · obtain ⟨rfl, -, -⟩ := Call.add.inj (List.mem_singleton.1 hmem)
          exact Bool.eq_false_iff.2 ‹_›
      · rcases BuildSession.snoc_cases hlater with ⟨-, hlast, -⟩ | ⟨rest, -, rfl⟩
        · contradiction
        · exact hreleases earlier t rest rfl

theorem isLatest_snoc_release :
    IsLatest window (calls ++ [.release now]) path kind time ↔
      IsLatest window calls path kind time ∧ ¬ (after window calls).Releases now path := by
  constructor
  · rintro ⟨before, first, later, hcalls, hfirst, hadds, hreleases⟩
    rcases BuildSession.snoc_cases hcalls with ⟨-, hlast, -⟩ | ⟨rest, rfl, rfl⟩
    · contradiction
    · refine ⟨⟨before, first, rest, rfl, hfirst, fun k o t hmem => ?_,
        fun earlier t tail hrest => ?_⟩, hreleases rest now [] rfl⟩
      · exact hadds k o t (List.mem_append_left _ hmem)
      · exact hreleases earlier t (tail ++ [.release now]) (by rw [hrest]; simp)
  · rintro ⟨⟨before, first, later, rfl, hfirst, hadds, hreleases⟩, hlast⟩
    refine ⟨before, first, later ++ [.release now], by simp, hfirst, fun k o t hmem => ?_,
      fun earlier t rest hlater => ?_⟩
    · rcases List.mem_append.1 hmem with hmem | hmem
      · exact hadds k o t hmem
      · exact absurd (List.mem_singleton.1 hmem) nofun
    · rcases BuildSession.snoc_cases hlater with ⟨rfl, hcall, -⟩ | ⟨rest, -, rfl⟩
      · obtain rfl := Call.release.inj hcall
        exact hlast
      · exact hreleases earlier t rest rfl

/-- There is something to build for a path exactly if its last report says so, and it has been quiet
since then. -/
theorem exists_held_iff : (∃ held, (after window calls).held.get? path = some held ∧
      held.kind.needsBuild = true ∧ held.lastSeen = time) ↔
    ∃ kind, IsLatest window calls path kind time ∧ kind.needsBuild = true := by
  induction calls using List.reverseRecOn with
  | nil =>
      constructor
      · rintro ⟨held, hget, -⟩
        exact absurd hget nofun
      · rintro ⟨kind, ⟨before, key, later, hcalls, -⟩, -⟩
        simp at hcalls
  | append_singleton calls call ih =>
      rw [after_snoc]
      cases call with
      | add key other now =>
          simp only [isLatest_snoc_add, act]
          by_cases hsame : key.same path = true
          · simp only [if_pos hsame]
            obtain ⟨kept, hget, hkept⟩ | ⟨hget, hkind⟩ :=
              get?_add_of_same (after window calls) other now hsame
            · simp [hget, hkept, and_comm]
            · simp [hget, hkind]
          · simp only [if_neg hsame, get?_add_of_ne (Bool.eq_false_iff.2 hsame)]
            exact ih
      | release now =>
          simp only [isLatest_snoc_release, act, get?_release (distinct_after window calls),
            releases_iff (distinct_after window calls), Option.filter_eq_some_iff]
          constructor
          · rintro ⟨held, ⟨hget, hready⟩, hneeds, hseen⟩
            obtain ⟨kind, hlatest, hkind⟩ := ih.1 ⟨held, hget, hneeds, hseen⟩
            refine ⟨kind, ⟨hlatest, ?_⟩, hkind⟩
            rintro ⟨other, hother, hdue⟩
            obtain rfl := Option.some.inj (hget.symm.trans hother)
            simp [hdue] at hready
          · rintro ⟨kind, ⟨hlatest, hkept⟩, hkind⟩
            obtain ⟨held, hget, hneeds, hseen⟩ := ih.2 ⟨kind, hlatest, hkind⟩
            refine ⟨held, ⟨hget, ?_⟩, hneeds, hseen⟩
            rw [Bool.not_eq_true', Bool.eq_false_iff]
            exact fun hdue => hkept ⟨held, hget, hdue⟩

end Runs

section Independence

/-- What is pending of one path alone. -/
def only (c : PendingChanges) (path : Path) : PendingChanges := { c with held := c.held.only path }

theorem only_add (c : PendingChanges) (key : Path) (kind : Change) (now : Nat) (path : Path) :
    (c.add key kind now).only path =
      if key.same path = true then (c.only path).add key kind now else c.only path := by
  have hget : key.same path = true → (c.held.only path).get? key = c.held.get? key := by
    intro hsame
    rw [PathMap.get?, PathMap.get?, PathMap.find?_only hsame]
  rw [add, add]
  cases hold : c.held.get? key with
  | none =>
      simp only [only, PathMap.only_insert]
      split
      · rename_i hsame
        simp only [hget hsame, hold]
      · rfl
  | some old =>
      cases hmerge : merge old.kind kind with
      | none =>
          simp only [only, PathMap.only_erase, hmerge]
          split
          · rename_i hsame
            simp only [hget hsame, hold, hmerge]
          · rfl
      | some kept =>
          simp only [only, PathMap.only_insert, hmerge]
          split
          · rename_i hsame
            simp only [hget hsame, hold, hmerge]
          · rfl

theorem only_release (c : PendingChanges) (now : Nat) (path : Path) :
    (c.release now).1.only path = ((c.only path).release now).1 := by
  rw [entries_release, entries_release]
  simp only [only, PathMap.only, List.filter_filter, Bool.and_comm]
  rfl

/-- What is pending of a path is what would be pending if no other path were ever reported. -/
theorem only_after (window : Nat) (calls : List Call) (path : Path) :
    (after window calls).only path = after window (calls.filter (·.concerns path)) := by
  induction calls using List.reverseRecOn with
  | nil => rfl
  | append_singleton calls call ih =>
      rw [after_snoc, List.filter_append]
      cases call with
      | add key kind now =>
          rw [act, only_add, ih]
          by_cases hsame : key.same path = true
          · rw [if_pos hsame, List.filter_cons_of_pos (by exact hsame), List.filter_nil, after_snoc,
              act]
          · rw [if_neg hsame, List.filter_cons_of_neg (by exact hsame), List.filter_nil,
              List.append_nil]
      | release now =>
          rw [act, only_release, ih, List.filter_cons_of_pos rfl, List.filter_nil, after_snoc, act]

theorem mem_release_only {entry : Path × Change} (h : entry.1.same path = true) :
    entry ∈ ((c.only path).release now).2 ↔ entry ∈ (c.release now).2 := by
  simp only [mem_release, only, PathMap.only, List.mem_filter, h, and_true]
  rfl

end Independence

/-- What is released of a path, and what stays pending, is decided by its own reports. -/
theorem releases_exactly (window : Nat) (calls : List Call) (now : Nat) :
    -- A path is released with something to build exactly if its last report says so and is old
    -- enough.
    (∀ path, (∃ entry ∈ ((after window calls).release now).2,
        entry.1.same path = true ∧ entry.2.needsBuild = true) ↔
      ∃ kind time, IsLatest window calls path kind time ∧ kind.needsBuild = true ∧
        window ≤ now - time) ∧
    -- The paths stand in order, each once, and none of them is pending any more.
    (((after window calls).release now).2.map (·.1)).Pairwise
      (fun a b => compare a.components b.components = .lt) ∧
    (∀ entry ∈ ((after window calls).release now).2,
      ((after window calls).release now).1.holds entry.1 = false) ∧
    -- Without the reports of other paths, the same is pending of a path and the same is released.
    ∀ path, (after window calls).held.find? path =
        (after window (calls.filter (·.concerns path))).held.find? path ∧
      ∀ entry : Path × Change, entry.1.same path = true →
        (entry ∈ ((after window calls).release now).2 ↔
          entry ∈ ((after window (calls.filter (·.concerns path))).release now).2) := by
  have hdistinct := distinct_after window calls
  refine ⟨fun path => ?_, pairwise_release hdistinct now,
    fun entry hentry => not_holds_of_released hdistinct hentry, fun path => ⟨?_, fun entry h => ?_⟩⟩
  · rw [exists_released_iff hdistinct now path (fun kind => kind.needsBuild = true)]
    simp only [isReady, window_after, decide_eq_true_eq]
    constructor
    · rintro ⟨held, hget, hdue, hneeds⟩
      obtain ⟨kind, hlatest, hkind⟩ := exists_held_iff.1 ⟨held, hget, hneeds, rfl⟩
      exact ⟨kind, held.lastSeen, hlatest, hkind, hdue⟩
    · rintro ⟨kind, time, hlatest, hkind, hdue⟩
      obtain ⟨held, hget, hneeds, rfl⟩ := exists_held_iff.2 ⟨kind, hlatest, hkind⟩
      exact ⟨held, hget, hdue, hneeds⟩
  · rw [← only_after]
    exact (PathMap.find?_only (Path.same_self path)).symm
  · rw [← only_after, mem_release_only h]

/-- A file that is modified, removed, made and removed again within one window is not built. -/
example : ((after 50 [.add "a" .modified 0, .add "a" .removed 10, .add "a" .created 20,
    .add "a" .removed 30]).release 100).2 = [] := by cbv

end PendingChanges

end LiveBuild
