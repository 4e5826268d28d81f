import LiveBuild.Proofs.PathTables
import LiveBuild.Watch.Session

/-!
# Claims of changed sources

A change is held back until its window is over, and then its source is claimed for a rebuild. The
claim is due at once, or remembered while the source is being rebuilt, or passed over because the
file has the digest of its last good build.
-/

namespace LiveBuild

namespace PendingChanges

variable {c : PendingChanges} {P : Path → Prop} {p path : Path} {kind : Change} {now : Nat}

/-- All changes that are held back leave something to build, at paths of some kind. -/
def Builds (c : PendingChanges) (P : Path → Prop) : Prop :=
  ∀ entry ∈ c.held.entries, entry.2.kind.needsBuild = true ∧ P entry.1

theorem Builds.mono {Q : Path → Prop} (h : c.Builds P) (hPQ : ∀ p, P p → Q p) : c.Builds Q :=
  fun entry hentry => ⟨(h entry hentry).1, hPQ _ (h entry hentry).2⟩

/-- Changes that leave something to build never cancel each other. -/
theorem merge_eq_some {old : Change} (hold : old.needsBuild = true)
    (hkind : kind.needsBuild = true) : merge old kind = some old := by
  cases old <;> cases kind <;> simp_all [merge, Change.needsBuild]

theorem Builds.add_eq (h : c.Builds P) (path : Path) (now : Nat)
    (hkind : kind.needsBuild = true) :
    ∃ kept : Change, kept.needsBuild = true ∧
      c.add path kind now = { c with held := c.held.insert path ⟨kept, now⟩ } := by
  rw [add]
  cases hget : c.held.get? path with
  | none => exact ⟨kind, hkind, rfl⟩
  | some old =>
      obtain ⟨key, hmem, -⟩ := PathMap.exists_mem_of_get? hget
      have hold := (h _ hmem).1
      exact ⟨old.kind, hold, by simp only [merge_eq_some hold hkind]⟩

theorem Builds.add (h : c.Builds P) (hkind : kind.needsBuild = true) (hpath : P path) :
    (c.add path kind now).Builds P := by
  obtain ⟨kept, hkept, hadd⟩ := h.add_eq path now hkind
  rw [hadd]
  intro entry hentry
  rcases PathMap.mem_insert hentry with hold | ⟨hvalue, rfl | ⟨old, hold, hkey⟩⟩
  · exact h entry hold
  · exact ⟨by rw [hvalue, hkept], hpath⟩
  · exact ⟨by rw [hvalue, hkept], hkey ▸ (h old hold).2⟩

theorem Builds.contains_add (h : c.Builds P) (path : Path) (now : Nat)
    (hkind : kind.needsBuild = true) :
    (c.add path kind now).held.contains p = (path.same p || c.held.contains p) := by
  obtain ⟨kept, -, hadd⟩ := h.add_eq path now hkind
  rw [hadd, PathMap.contains_insert]

theorem mem_release {entry : Path × Change} : entry ∈ (c.release now).2 ↔
    ∃ held, (entry.1, held) ∈ c.held.entries ∧ c.isReady now held = true ∧
      held.kind = entry.2 := by
  simp only [release, List.partition_eq_filter_filter, List.mem_map, List.mem_mergeSort,
    List.mem_filter]
  constructor
  · rintro ⟨⟨key, held⟩, ⟨hmem, hready⟩, rfl⟩
    exact ⟨held, hmem, hready, rfl⟩
  · rintro ⟨held, hmem, hready, hkind⟩
    exact ⟨(entry.1, held), ⟨hmem, hready⟩, by rw [hkind]⟩

theorem Builds.release (h : c.Builds P) (now : Nat) :
    (c.release now).1.Builds P ∧ ∀ entry ∈ (c.release now).2, entry.2.needsBuild = true ∧
      P entry.1 := by
  constructor
  · intro entry hentry
    simp only [PendingChanges.release, List.partition_eq_filter_filter] at hentry
    exact h entry (List.mem_filter.1 hentry).1
  · intro entry hentry
    obtain ⟨held, hmem, -, hkind⟩ := mem_release.1 hentry
    rw [← hkind]
    exact h _ hmem

theorem contains_release (h : c.held.contains p = true) (now : Nat) :
    (c.release now).1.held.contains p = true ∨
      ∃ entry ∈ (c.release now).2, entry.1.same p = true := by
  obtain ⟨⟨key, held⟩, hmem, hsame⟩ := PathMap.contains_iff_mem.1 h
  by_cases hready : c.isReady now held
  · exact Or.inr ⟨(key, held.kind), mem_release.2 ⟨held, hmem, hready, rfl⟩, hsame⟩
  · refine Or.inl (PathMap.contains_iff_mem.2 ⟨(key, held), ?_, hsame⟩)
    simp only [release, List.partition_eq_filter_filter]
    exact List.mem_filter.2 ⟨hmem, by simpa using hready⟩

end PendingChanges

namespace WatchedSources

variable {σ : Type} [FileStore σ] {s : WatchedSources} {store : σ} {p path : Path}

section Events

theorem contains_watch (accepts : Path → Bool) (source : Path) :
    (s.watch accepts source).watched.contains p =
      (s.watched.contains p || (accepts source && source.same p)) := by
  rw [watch]
  by_cases hcontains : s.watched.contains source = true
  · rw [if_pos (by rw [hcontains, Bool.true_or])]
    by_cases hsame : source.same p
    · rw [← PathSet.contains_congr (Path.same_iff.1 hsame), hcontains, Bool.true_or]
    · simp [hsame]
  · cases haccepts : accepts source with
    | false => simp
    | true => simp [hcontains, PathSet.contains_insert, Bool.or_comm]

theorem noteEvent_spec (s : WatchedSources) (store : σ) (accepts : Path → Bool)
    (event : BuildEvent) :
    (s.noteEvent store accepts event).pending = s.pending ∧
    (s.noteEvent store accepts event).again = s.again ∧
    (s.noteEvent store accepts event).rebuilding = s.rebuilding ∧
    ∀ p, (s.noteEvent store accepts event).watched.contains p =
      (s.watched.contains p ||
        (subject? event).any fun source => accepts source && source.same p) := by
  have hwatch : ∀ source, (s.watch accepts source).pending = s.pending ∧
      (s.watch accepts source).again = s.again ∧
      (s.watch accepts source).rebuilding = s.rebuilding := by
    intro source
    rw [watch]
    split <;> exact ⟨rfl, rfl, rfl⟩
  have hbuilt : ∀ (s : WatchedSources) source, (s.noteBuilt store source).pending = s.pending ∧
      (s.noteBuilt store source).again = s.again ∧
      (s.noteBuilt store source).rebuilding = s.rebuilding ∧
      (s.noteBuilt store source).watched = s.watched := by
    intro s source
    rw [noteBuilt]
    cases s.scheduled.get? source with
    | some hash => exact ⟨rfl, rfl, rfl, rfl⟩
    | none => cases Digest.ofFile store source <;> exact ⟨rfl, rfl, rfl, rfl⟩
  cases event with
  | fileBuilt source dest localDeps parents =>
      obtain ⟨hpending, hagain, hrebuilding⟩ := hwatch source
      obtain ⟨hpending', hagain', hrebuilding', hwatched⟩ := hbuilt (s.watch accepts source) source
      refine ⟨hpending'.trans hpending, hagain'.trans hagain, hrebuilding'.trans hrebuilding,
        fun p => ?_⟩
      rw [noteEvent, hwatched, contains_watch]
      rfl
  | error source? message stack =>
      cases source? with
      | none => exact ⟨rfl, rfl, rfl, fun p => (Bool.or_false _).symm⟩
      | some source =>
          obtain ⟨hpending, hagain, hrebuilding⟩ := hwatch source
          exact ⟨hpending, hagain, hrebuilding, fun p => contains_watch accepts source⟩
  | built total => exact ⟨rfl, rfl, rfl, fun p => (Bool.or_false _).symm⟩

end Events

/-- A file has the digest of its last good build. -/
def Matches (s : WatchedSources) (store : σ) (path : Path) : Prop :=
  ∃ hash, Digest.ofFile store path = .ok hash ∧ s.hashes.get? path = some hash

/-- What a claim leaves of the sources, apart from the digests. -/
structure Claimed (s : WatchedSources) (store : σ) (paths : List Path) (t : WatchedSources)
    (due : List Path) : Prop where
  pending : t.pending = s.pending
  watched : t.watched = s.watched
  hashes : t.hashes = s.hashes
  asked : ∀ path ∈ due, path ∈ paths
  again : ∀ p, s.again.contains p = true → t.again.contains p = true
  rebuilding : ∀ p, t.rebuilding.contains p = true ↔
    s.rebuilding.contains p = true ∨ ∃ path ∈ due, path.same p = true
  answered : ∀ path ∈ paths, path ∈ due ∨
    (t.again.contains path = true ∧ t.rebuilding.contains path = true) ∨
    (s.rebuilding.contains path = false ∧ s.Matches store path)

theorem claim_cases (s : WatchedSources) (store : σ) (path : Path) :
    (s.rebuilding.contains path = true ∧
      s.claim store path = ({ s with again := s.again.insert path }, false)) ∨
    (s.rebuilding.contains path = false ∧ s.Matches store path ∧
      s.claim store path = (s, false)) ∨
    (s.rebuilding.contains path = false ∧ ∃ scheduled, s.claim store path =
      ({ s with scheduled, rebuilding := s.rebuilding.insert path }, true)) := by
  rw [claim]
  split
  · rename_i hcontains
    exact Or.inl ⟨hcontains, rfl⟩
  · rename_i hcontains
    have hcontains : s.rebuilding.contains path = false := by simpa using hcontains
    cases hdigest : Digest.ofFile store path with
    | error f => exact Or.inr (Or.inr ⟨hcontains, s.scheduled, rfl⟩)
    | ok hash =>
        by_cases hhash : s.hashes.get? path = some hash
        · refine Or.inr (Or.inl ⟨hcontains, ⟨hash, hdigest, hhash⟩, ?_⟩)
          simp only [if_pos hhash]
        · refine Or.inr (Or.inr ⟨hcontains, s.scheduled.insert path hash, ?_⟩)
          simp only [if_neg hhash]

theorem claimed_claimAll (s : WatchedSources) (store : σ) (paths : List Path) :
    s.Claimed store paths (s.claimAll store paths).1 (s.claimAll store paths).2 := by
  induction paths generalizing s with
  | nil => exact ⟨rfl, rfl, rfl, fun _ h => h, fun _ h => h, by simp [claimAll], by simp⟩
  | cons first rest ih =>
      have hcons : s.claimAll store (first :: rest) =
          (((s.claim store first).1.claimAll store rest).1,
            if (s.claim store first).2 then first :: ((s.claim store first).1.claimAll store rest).2
            else ((s.claim store first).1.claimAll store rest).2) := rfl
      rw [hcons]
      rcases claim_cases s store first with ⟨hcontains, hclaim⟩ | ⟨hcontains, hmatches, hclaim⟩ |
        ⟨hcontains, scheduled, hclaim⟩
      · have hrest := ih { s with again := s.again.insert first }
        rw [hclaim]
        refine ⟨hrest.pending, hrest.watched, hrest.hashes,
          fun path hpath => List.mem_cons_of_mem _ (hrest.asked path hpath), fun p hp => ?_,
          hrest.rebuilding, List.forall_mem_cons.2 ⟨Or.inr (Or.inl ⟨?_, ?_⟩), hrest.answered⟩⟩
        · exact hrest.again p (by rw [PathSet.contains_insert, hp, Bool.or_true])
        · exact hrest.again first (by rw [PathSet.contains_insert, Path.same_self, Bool.true_or])
        · exact (hrest.rebuilding first).2 (Or.inl hcontains)
      · have hrest := ih s
        rw [hclaim]
        exact ⟨hrest.pending, hrest.watched, hrest.hashes,
          fun path hpath => List.mem_cons_of_mem _ (hrest.asked path hpath), hrest.again,
          hrest.rebuilding, List.forall_mem_cons.2
            ⟨Or.inr (Or.inr ⟨hcontains, hmatches⟩), hrest.answered⟩⟩
      · have hrest := ih { s with scheduled, rebuilding := s.rebuilding.insert first }
        rw [hclaim]
        refine ⟨hrest.pending, hrest.watched, hrest.hashes, fun path hpath => ?_, hrest.again,
          fun p => ?_, List.forall_mem_cons.2 ⟨Or.inl (by simp), fun path hpath => ?_⟩⟩
        · rcases List.mem_cons.1 hpath with rfl | hpath
          · exact List.mem_cons_self
          · exact List.mem_cons_of_mem _ (hrest.asked path hpath)
        · rw [hrest.rebuilding p, PathSet.contains_insert, Bool.or_eq_true, if_pos rfl]
          simp only [List.mem_cons, exists_eq_or_imp]
          tauto
        · rcases hrest.answered path hpath with hdue | hagain | ⟨hidle, hmatches⟩
          · exact Or.inl (List.mem_cons_of_mem _ hdue)
          · exact Or.inr (Or.inl hagain)
          · refine Or.inr (Or.inr ⟨?_, hmatches⟩)
            rw [PathSet.contains_insert, Bool.or_eq_false_iff] at hidle
            exact hidle.2

/-- The sources once the rebuild of one of them is over. -/
def freed (s : WatchedSources) (path : Path) : WatchedSources :=
  { s with rebuilding := s.rebuilding.erase path, again := s.again.erase path }

theorem claimed_noteRebuilt (s : WatchedSources) (store : σ) (path : Path) :
    (s.freed path).Claimed store (if s.again.contains path then [path] else [])
      (s.noteRebuilt store path).1 (s.noteRebuilt store path).2 := by
  rw [noteRebuilt]
  split
  · exact claimed_claimAll (s.freed path) store [path]
  · exact claimed_claimAll (s.freed path) store []

end WatchedSources

namespace WatchSession

theorem foldl_endRebuild (w : WatchSession) (outcomes : List BuildSession.Outcome) :
    ∃ rebuilds rebuilt, outcomes.foldl (fun w (outcome : BuildSession.Outcome) =>
        w.endRebuild outcome.call outcome.count.isSome) w = { w with rebuilds, rebuilt } ∧
      rebuilds.Sublist w.rebuilds ∧
      ∀ entry ∈ w.rebuilds, entry ∈ rebuilds ∨ ⟨entry.1, none⟩ ∈ outcomes := by
  induction outcomes generalizing w with
  | nil => exact ⟨w.rebuilds, w.rebuilt, rfl, List.Sublist.refl _, fun _ h => Or.inl h⟩
  | cons outcome outcomes ih =>
      obtain ⟨call, count⟩ := outcome
      rw [List.foldl_cons, endRebuild]
      split
      · cases count with
        | some count =>
            obtain ⟨rebuilds, rebuilt, heq, hsublist, hkept⟩ :=
              ih { w with rebuilt := w.rebuilt ++ [call] }
            exact ⟨rebuilds, rebuilt, heq, hsublist,
              fun entry hentry => (hkept entry hentry).imp_right (List.mem_cons_of_mem _)⟩
        | none =>
            obtain ⟨rebuilds, rebuilt, heq, hsublist, hkept⟩ :=
              ih { w with rebuilds := w.rebuilds.filter fun entry => entry.1 != call }
            refine ⟨rebuilds, rebuilt, heq, hsublist.trans List.filter_sublist,
              fun entry hentry => ?_⟩
            by_cases hcall : entry.1 = call
            · exact Or.inr (hcall ▸ List.mem_cons_self)
            · have hmem : entry ∈ w.rebuilds.filter fun entry => entry.1 != call :=
                List.mem_filter.2 ⟨hentry, bne_iff_ne.2 hcall⟩
              exact (hkept entry hmem).imp_right (List.mem_cons_of_mem _)
      · obtain ⟨rebuilds, rebuilt, heq, hsublist, hkept⟩ := ih w
        exact ⟨rebuilds, rebuilt, heq, hsublist,
          fun entry hentry => (hkept entry hentry).imp_right (List.mem_cons_of_mem _)⟩

end WatchSession

end LiveBuild
