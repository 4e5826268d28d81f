import LiveBuild.Proofs.SharedBuild

/-!
# The guard of the rebuilds

A watch session rebuilds a source once at a time. What changes while its rebuild goes on is
remembered as one, and asked for once more when the rebuild is taken in. The digest of a source is
remembered only while the last thing heard of it is that it was built.
-/

namespace LiveBuild

namespace WatchedSources

variable {σ : Type} [FileStore σ] {s : WatchedSources} {store : σ} {p path : Path} {now : Nat}

/-- The changed sources that are released at some time and leave something to build. -/
def changed (s : WatchedSources) (now : Nat) : List Path :=
  ((s.pending.release now).2.filter fun entry => entry.2.needsBuild).map (·.1)

def released (s : WatchedSources) (now : Nat) : WatchedSources :=
  { s with pending := (s.pending.release now).1 }

theorem endWindow_eq (s : WatchedSources) (store : σ) (now : Nat) :
    s.endWindow store now = (s.released now).claimAll store (s.changed now) := rfl

theorem distinct_changed (h : s.pending.held.Distinct) (now : Nat) :
    Path.Distinct (s.changed now) :=
  List.Pairwise.sublist (List.filter_sublist.map _) (PendingChanges.distinct_release h now).2

theorem noteRebuilt_eq (s : WatchedSources) (store : σ) (path : Path) :
    s.noteRebuilt store path =
      (s.freed path).claimAll store (if s.again.contains path then [path] else []) := by
  rw [noteRebuilt]
  split <;> rfl

/-- A digest that is remembered after an event was remembered before, or the event reports its
source as built. -/
theorem contains_hashes_noteEvent {accepts : Path → Bool} {event : BuildEvent}
    (h : (s.noteEvent store accepts event).hashes.contains p = true) :
    (∃ source dest deps parents, event = .fileBuilt source dest deps parents ∧
      source.same p = true) ∨
    (s.hashes.contains p = true ∧ (subject? event).any (·.same p) = false) := by
  have hwatch : ∀ source, (s.watch accepts source).hashes = s.hashes := by
    intro source
    rw [watch]
    split <;> rfl
  cases event with
  | fileBuilt source dest deps parents =>
      cases hsame : source.same p with
      | true => exact Or.inl ⟨source, dest, deps, parents, rfl, hsame⟩
      | false =>
          refine Or.inr ⟨?_, hsame⟩
          rw [noteEvent, noteBuilt] at h
          cases hscheduled : (s.watch accepts source).scheduled.get? source with
          | some hash =>
              simpa [hscheduled, PathMap.contains_insert, hsame, hwatch] using h
          | none =>
              cases hdigest : Digest.ofFile store source with
              | ok hash =>
                  simpa [hscheduled, hdigest, PathMap.contains_insert, hsame, hwatch] using h
              | error f => simpa [hscheduled, hdigest, hwatch] using h
  | error source? message stack =>
      cases source? with
      | none => exact Or.inr ⟨h, rfl⟩
      | some source =>
          rw [noteEvent, forget, hwatch, PathMap.contains_iff] at h
          obtain ⟨hash, hget⟩ := h
          rw [PathMap.get?_erase] at hget
          split at hget
          · contradiction
          · rename_i hsame
            exact Or.inr ⟨PathMap.contains_iff.2 ⟨hash, hget⟩, by simpa [subject?] using hsame⟩
  | built total => exact Or.inr ⟨h, rfl⟩

end WatchedSources

namespace BuildSession

variable {σ : Type} {s : BuildSession σ} {call : Nat}

/-- The task of a call is there. -/
def HasRoot (s : BuildSession σ) (call : Nat) : Prop :=
  ∃ root ∈ s.tasks, root.parent = none ∧ root.call = call

theorem HasRoot.mono {t : BuildSession σ} (h : s.HasRoot call)
    (htasks : ∀ task ∈ s.tasks, task.call = call → task ∈ t.tasks) : t.HasRoot call := by
  obtain ⟨root, hmem, hparent, hcall⟩ := h
  exact ⟨root, htasks root hmem hcall, hparent, hcall⟩

/-- A call that was made goes on after others are noted, or is among them. -/
theorem HasRoot.collect (h : s.HasRoot call) :
    s.collect.1.HasRoot call ∨ ∃ count, ⟨call, count⟩ ∈ s.collect.2 := by
  obtain ⟨root, hmem, hparent, rfl⟩ := h
  cases houtcome : outcome? root with
  | none => exact Or.inl ⟨root, List.mem_filter.2 ⟨hmem, by simp [houtcome]⟩, hparent, rfl⟩
  | some outcome =>
      refine Or.inr ⟨outcome.count, List.mem_filterMap.2 ⟨root, hmem, ?_⟩⟩
      rw [houtcome]
      unfold outcome? at houtcome
      split at houtcome <;> simp_all
      all_goals rw [← houtcome]

end BuildSession

namespace WatchSession

variable {σ : Type} [FileStore σ] {w v : WatchSession} {build after : BuildSession σ} {store : σ}
  {now : Nat} {paths : List Path} {a b entry : Nat × Path} {p : Path} {move : WatchMove}

theorem exists_newRebuilds (call : Nat) {P : Path → Prop} :
    (∃ entry ∈ newRebuilds call paths, P entry.2) ↔ ∃ path ∈ paths, P path := by
  conv_rhs => rw [← map_snd_newRebuilds call paths]
  simp only [List.mem_map, exists_exists_and_eq_and]

/-- The sources that are being rebuilt have one rebuild each, and what changed again is among
them. -/
structure Guard (w : WatchSession) : Prop where
  flight : ∀ p, w.sources.rebuilding.contains p = true ↔
    ∃ entry ∈ w.rebuilds, entry.2.same p = true
  places : Path.Distinct (w.rebuilds.map (·.2))
  again : ∀ p, w.sources.again.contains p = true → w.sources.rebuilding.contains p = true
  held : w.sources.pending.held.Distinct

theorem eq_of_call (h : w.rebuilds.Pairwise fun a b => a.1 ≠ b.1) (ha : a ∈ w.rebuilds)
    (hb : b ∈ w.rebuilds) (hcall : a.1 = b.1) : a = b := by
  by_contra hne
  have hsymm : Std.Symm fun a b : Nat × Path => a.1 ≠ b.1 := ⟨fun _ _ => Ne.symm⟩
  exact h.forall ha hb hne hcall

/-- Take in the end of a rebuild, and ask for rebuilds of some paths then. -/
def join (w : WatchSession) (build : BuildSession σ) (call : Nat) (path : Path)
    (rebuilt : List Nat) (asked : List Path) : BuildSession σ × WatchSession :=
  { w with
    rebuilt
    rebuilds := w.rebuilds.filter fun entry => entry.1 != call
    sources := ((w.sources.freed path).claimAll build.store asked).1 }.rebuild build
      ((w.sources.freed path).claimAll build.store asked).2

namespace Guard

theorem eq_of_place (h : w.Guard) (ha : a ∈ w.rebuilds) (hb : b ∈ w.rebuilds)
    (hsame : a.2.same b.2 = true) : a = b := by
  by_contra hne
  have hsymm : Std.Symm fun a b : Nat × Path => a.2.same b.2 = false :=
    ⟨fun a b hab => by rw [Path.same_comm, hab]⟩
  have hfalse := (List.pairwise_map.1 h.places).forall ha hb hne
  rw [hsame] at hfalse
  contradiction

theorem countP_eq (h : w.Guard) (p : Path) :
    w.rebuilds.countP (fun entry => entry.2.same p) =
      if w.sources.rebuilding.contains p then 1 else 0 := by
  have hle : w.rebuilds.countP (fun entry => entry.2.same p) ≤ 1 := by
    have hplaces := h.places.countP_le_one p
    rwa [List.countP_map] at hplaces
  have hpos := List.countP_pos_iff (l := w.rebuilds) (p := fun entry => entry.2.same p)
  rw [← h.flight] at hpos
  split
  · rename_i hcontains
    exact Nat.le_antisymm hle (hpos.2 hcontains)
  · rename_i hcontains
    exact Nat.eq_zero_of_not_pos (mt hpos.1 hcontains)

theorem claimAll (h : w.Guard) (hpaths : Path.Distinct paths) (store : σ) (call : Nat) :
    ({ w with
      sources := (w.sources.claimAll store paths).1
      rebuilds := w.rebuilds ++ newRebuilds call (w.sources.claimAll store paths).2 } :
        WatchSession).Guard where
  flight p := by
    change (w.sources.claimAll store paths).1.rebuilding.contains p = true ↔
      ∃ entry ∈ w.rebuilds ++ newRebuilds call _, entry.2.same p = true
    rw [(WatchedSources.claimed_claimAll w.sources store paths).rebuilding, h.flight,
      ← exists_newRebuilds call]
    simp [or_and_right, exists_or]
  places := by
    rw [List.map_append, map_snd_newRebuilds]
    refine List.pairwise_append.2 ⟨h.places, WatchedSources.distinct_due _ _ _,
      fun p hp path hpath => Bool.eq_false_iff.2 fun hsame => ?_⟩
    obtain ⟨entry, hentry, rfl⟩ := List.mem_map.1 hp
    have hidle := WatchedSources.idle_of_due _ _ _ path hpath
    rw [(h.flight path).2 ⟨entry, hentry, hsame⟩] at hidle
    contradiction
  again p hp := by
    rw [(WatchedSources.claimed_claimAll w.sources store paths).rebuilding]
    rcases (WatchedSources.again_claimAll hpaths).1 hp with hp | ⟨hp, -⟩
    · exact Or.inl (h.again p hp)
    · exact Or.inl hp
  held := by
    change (w.sources.claimAll store paths).1.pending.held.Distinct
    rw [(WatchedSources.claimed_claimAll w.sources store paths).pending]
    exact h.held

/-- Of the rebuilds after some claims, those have changed again that had, or that are claimed. -/
theorem again_claimAll (h : w.Guard) (hpaths : Path.Distinct paths) (store : σ) {call : Nat}
    (hentry : entry ∈ w.rebuilds ++ newRebuilds call (w.sources.claimAll store paths).2) :
    (w.sources.claimAll store paths).1.again.contains entry.2 = true ↔
      entry ∈ w.rebuilds ∧ (w.sources.again.contains entry.2 = true ∨
        ∃ path ∈ paths, path.same entry.2 = true) := by
  rw [WatchedSources.again_claimAll hpaths]
  rcases List.mem_append.1 hentry with hentry | hentry
  · have hflight := (h.flight entry.2).2 ⟨entry, hentry, Path.same_self _⟩
    simp [hentry, hflight]
  · have hdue : entry.2 ∈ (w.sources.claimAll store paths).2 := by
      rw [← map_snd_newRebuilds call (w.sources.claimAll store paths).2]
      exact List.mem_map_of_mem hentry
    have hidle := WatchedSources.idle_of_due _ _ _ _ hdue
    have hagain : w.sources.again.contains entry.2 ≠ true := fun hagain => by
      rw [h.again _ hagain] at hidle
      contradiction
    have hnew : entry ∉ w.rebuilds := fun hmem => by
      rw [(h.flight entry.2).2 ⟨entry, hmem, Path.same_self _⟩] at hidle
      contradiction
    simp [hagain, hidle, hnew]

theorem start (addressee : Addressee) (window : Nat) :
    ({ addressee, sources := .start addressee.id window } : WatchSession).Guard where
  flight p := by simp [WatchedSources.start, PathSet.contains]
  places := List.Pairwise.nil
  again p hp := by simp [WatchedSources.start, PathSet.contains] at hp
  held := List.Pairwise.nil

theorem released (h : w.Guard) (now : Nat) :
    ({ w with sources := w.sources.released now } : WatchSession).Guard :=
  { h with held := (PendingChanges.distinct_release h.held now).1 }

/-- The session when a rebuild is taken in, and its path is free for the next one. -/
theorem freed (h : w.Guard) (hcalls : w.rebuilds.Pairwise fun a b => a.1 ≠ b.1) {call : Nat}
    {path : Path} (hmem : (call, path) ∈ w.rebuilds) (rebuilt : List Nat) :
    ({ w with
      rebuilt
      rebuilds := w.rebuilds.filter fun entry => entry.1 != call
      sources := w.sources.freed path } : WatchSession).Guard where
  flight p := by
    change (w.sources.rebuilding.erase path).contains p = true ↔ _
    rw [PathSet.contains_erase, Bool.and_eq_true, h.flight, Bool.not_eq_true']
    simp only [List.mem_filter, bne_iff_ne]
    constructor
    · rintro ⟨hne, entry, hentry, hsame⟩
      refine ⟨entry, ⟨hentry, fun hcall => ?_⟩, hsame⟩
      rw [eq_of_call hcalls hentry hmem hcall, hne] at hsame
      contradiction
    · rintro ⟨entry, ⟨hentry, hne⟩, hsame⟩
      refine ⟨Bool.eq_false_iff.2 fun hpath => hne ?_, entry, hentry, hsame⟩
      rw [h.eq_of_place hentry hmem]
      rw [Path.same_iff, Path.same_iff.1 hsame, Path.same_iff.1 hpath]
  places := List.Pairwise.sublist (List.filter_sublist.map _) h.places
  again p hp := by
    change (w.sources.again.erase path).contains p = true at hp
    change (w.sources.rebuilding.erase path).contains p = true
    rw [PathSet.contains_erase, Bool.and_eq_true] at hp ⊢
    exact ⟨hp.1, h.again p hp.2⟩
  held := h.held

/-- When a rebuild is taken in, the others have changed again only if they had. -/
theorem join (h : w.Guard) (hcalls : w.rebuilds.Pairwise fun a b => a.1 ≠ b.1)
    (hknown : ∀ entry ∈ w.rebuilds, entry.1 < build.nextCall) {call : Nat} {path : Path}
    (hmem : (call, path) ∈ w.rebuilds) (rebuilt : List Nat) {asked : List Path}
    (hasked : asked.Sublist [path]) :
    (w.join build call path rebuilt asked).2.Guard ∧
      ∀ entry ∈ (w.join build call path rebuilt asked).2.rebuilds,
        (w.join build call path rebuilt asked).2.sources.again.contains entry.2 = true ↔
          entry ∈ w.rebuilds ∧ w.sources.again.contains entry.2 = true := by
  have hfreed := h.freed hcalls hmem rebuilt
  have hpaths : Path.Distinct asked := List.Pairwise.sublist hasked (List.pairwise_singleton _ _)
  rw [WatchSession.join, rebuild_eq]
  refine ⟨hfreed.claimAll hpaths build.store build.nextCall, fun entry hentry => ?_⟩
  rw [hfreed.again_claimAll hpaths build.store hentry]
  rcases List.mem_append.1 hentry with hentry | hentry
  · obtain ⟨hold, hne⟩ := List.mem_filter.1 hentry
    have haway : path.same entry.2 = false := by
      refine Bool.eq_false_iff.2 fun hsame => bne_iff_ne.1 hne ?_
      rw [← h.eq_of_place hmem hold hsame]
    have hnone : ¬ ∃ other ∈ asked, other.same entry.2 = true := by
      rintro ⟨other, hother, hsame⟩
      rw [List.mem_singleton.1 (hasked.subset hother), haway] at hsame
      contradiction
    simp [WatchedSources.freed, PathSet.contains_erase, haway, hold, hentry, hnone]
  · have hge := (le_of_mem_newRebuilds hentry).1
    have hold : entry ∉ w.rebuilds := fun hold => by
      have hlt := hknown entry hold
      omega
    have hkept : entry ∉ w.rebuilds.filter fun entry => entry.1 != call :=
      fun hkept => hold (List.mem_filter.1 hkept).1
    simp [hold, hkept]

/-- What is served keeps the guard, and a rebuild that goes on has changed again only if it had, or
if a change of its path is released now. -/
theorem serve (h : w.Guard) (hcalls : w.rebuilds.Pairwise fun a b => a.1 ≠ b.1)
    (hknown : ∀ entry ∈ w.rebuilds, entry.1 < build.nextCall)
    (hserved : w.serve? build now move = some (after, v)) (hgoes : move ≠ .stop) :
    v.Guard ∧ ∀ entry ∈ v.rebuilds, v.sources.again.contains entry.2 = true ↔
      entry ∈ w.rebuilds ∧ (w.sources.again.contains entry.2 = true ∨
        (move = .deadline ∧ ∃ path ∈ w.sources.changed now, path.same entry.2 = true)) := by
  -- Where nothing is claimed, the rebuilds and what has changed again stay as they are.
  have hstays : ∀ u : WatchSession, u.rebuilds = w.rebuilds → u.sources.again = w.sources.again →
      move ≠ .deadline → ∀ entry ∈ u.rebuilds, u.sources.again.contains entry.2 = true ↔
        entry ∈ w.rebuilds ∧ (w.sources.again.contains entry.2 = true ∨
          (move = .deadline ∧ ∃ path ∈ w.sources.changed now, path.same entry.2 = true)) := by
    intro u hrebuilds hagain hmove entry hentry
    rw [hrebuilds] at hentry
    rw [hagain]
    simp [hentry, hmove]
  cases move with
  | event accepts =>
      obtain ⟨event, events, -, rfl, rfl⟩ := serve_event hserved
      obtain ⟨hpending, hagain, hrebuilding, -⟩ :=
        w.sources.noteEvent_spec after.store accepts event
      refine ⟨⟨fun p => ?_, h.places, fun p hp => ?_, ?_⟩, hstays _ rfl hagain nofun⟩
      · rw [hrebuilding]
        exact h.flight p
      · rw [hagain] at hp
        rw [hrebuilding]
        exact h.again p hp
      · rw [hpending]
        exact h.held
  | change =>
      obtain ⟨change, changes, -, rfl, rfl⟩ := serve_change hserved
      rw [WatchedSources.noteChange]
      split
      · have hheld := PendingChanges.distinct_add h.held change.path change.kind now
        exact ⟨{ h with held := hheld }, hstays _ rfl rfl nofun⟩
      · exact ⟨{ h with }, hstays _ rfl rfl nofun⟩
  | deadline =>
      have heq := serve_deadline hserved
      rw [rebuild_eq, WatchedSources.endWindow_eq] at heq
      obtain ⟨rfl, rfl⟩ := Prod.mk.inj heq
      have hpaths := WatchedSources.distinct_changed h.held now
      refine ⟨(h.released now).claimAll hpaths build.store build.nextCall, fun entry hentry => ?_⟩
      rw [(h.released now).again_claimAll hpaths build.store hentry]
      simp [WatchedSources.released]
  | rebuilt =>
      obtain ⟨call, rebuilt, -, ⟨-, rfl, rfl⟩ | ⟨path, hmem, heq⟩⟩ := serve_rebuilt hserved
      · exact ⟨{ h with }, hstays _ rfl rfl nofun⟩
      · rw [WatchedSources.noteRebuilt_eq] at heq
        obtain rfl : v = (w.join build call path rebuilt _).2 := congrArg Prod.snd heq
        have hasked : (if w.sources.again.contains path then [path] else []).Sublist [path] := by
          split
          · exact List.Sublist.refl _
          · exact List.nil_sublist _
        obtain ⟨hguard, hagain⟩ := h.join hcalls hknown hmem rebuilt hasked
        exact ⟨hguard, fun entry hentry => by simpa using hagain entry hentry⟩
  | stop => exact absurd rfl hgoes

end Guard

theorem takeRebuilt?_eq (hcalls : w.rebuilds.Pairwise fun a b => a.1 ≠ b.1) {call : Nat}
    {path : Path} {rebuilt : List Nat} (hrebuilt : w.rebuilt = call :: rebuilt)
    (hmem : (call, path) ∈ w.rebuilds) : w.takeRebuilt? build =
      some (w.join build call path rebuilt
        (if w.sources.again.contains path then [path] else [])) := by
  have hsome : (w.rebuilds.find? fun entry => entry.1 == call).isSome = true :=
    List.find?_isSome.2 ⟨(call, path), hmem, beq_self_eq_true call⟩
  obtain ⟨found, hfound⟩ := Option.isSome_iff_exists.1 hsome
  obtain rfl : found = (call, path) :=
    eq_of_call hcalls (List.mem_of_find?_eq_some hfound) hmem
      (by simpa using List.find?_some hfound)
  rw [takeRebuilt?, hrebuilt]
  dsimp only
  rw [hfound]
  dsimp only
  rw [WatchedSources.noteRebuilt_eq]
  rfl

/-- Only events change which digests are remembered, and they are not put back. -/
theorem serve_of_ne_event (hserved : w.serve? build now move = some (after, v))
    (hmove : ∀ accepts, move ≠ .event accepts) :
    v.sources.hashes = w.sources.hashes ∧ v.events ⊆ w.events := by
  cases move with
  | event accepts => exact absurd rfl (hmove accepts)
  | change =>
      obtain ⟨change, changes, -, -, rfl⟩ := serve_change hserved
      refine ⟨?_, List.Subset.refl _⟩
      change (w.sources.noteChange change now).hashes = _
      rw [WatchedSources.noteChange]
      split <;> rfl
  | deadline =>
      have heq := serve_deadline hserved
      rw [rebuild_eq] at heq
      obtain ⟨-, rfl⟩ := Prod.mk.inj heq
      exact ⟨(WatchedSources.claimed_claimAll (w.sources.released now) build.store
        (w.sources.changed now)).hashes, List.Subset.refl _⟩
  | rebuilt =>
      obtain ⟨call, rebuilt, -, ⟨-, -, rfl⟩ | ⟨path, -, heq⟩⟩ := serve_rebuilt hserved
      · exact ⟨rfl, List.Subset.refl _⟩
      · rw [rebuild_eq] at heq
        obtain ⟨-, rfl⟩ := Prod.mk.inj heq
        exact ⟨(w.sources.claimed_noteRebuilt build.store path).hashes, List.Subset.refl _⟩
  | stop =>
      obtain ⟨-, rfl⟩ := serve_stop hserved
      exact ⟨rfl, List.nil_subset _⟩

/-- If no rebuild has broken down, those that are over are noted and none is dropped. -/
theorem endRebuilds_eq {outcomes : List BuildSession.Outcome}
    (h : ∀ entry ∈ w.rebuilds, ⟨entry.1, none⟩ ∉ outcomes) :
    ∃ ended, w.endRebuilds outcomes = { w with rebuilt := w.rebuilt ++ ended } ∧
      ∀ outcome ∈ outcomes, (∃ entry ∈ w.rebuilds, entry.1 = outcome.call) →
        outcome.call ∈ ended := by
  induction outcomes generalizing w with
  | nil => exact ⟨[], by simp [endRebuilds], by simp⟩
  | cons outcome outcomes ih =>
      obtain ⟨call, count⟩ := outcome
      have hrest : ∀ entry ∈ w.rebuilds, ⟨entry.1, none⟩ ∉ outcomes :=
        fun entry hentry hmem => h entry hentry (List.mem_cons_of_mem _ hmem)
      rw [endRebuilds, List.foldl_cons, ← endRebuilds, endRebuild]
      split
      · rename_i hany
        obtain ⟨entry, hentry, hcall⟩ := List.any_eq_true.1 hany
        cases count with
        | none =>
            refine absurd ?_ (h entry hentry)
            rw [beq_iff_eq.1 hcall]
            exact List.mem_cons_self
        | some count =>
            obtain ⟨ended, heq, hended⟩ := ih (w := { w with rebuilt := w.rebuilt ++ [call] }) hrest
            refine ⟨call :: ended, by simpa using heq,
              List.forall_mem_cons.2 ⟨fun _ => List.mem_cons_self, fun outcome houtcome hmem => ?_⟩⟩
            exact List.mem_cons_of_mem _ (hended outcome houtcome hmem)
      · rename_i hany
        obtain ⟨ended, heq, hended⟩ := ih hrest
        refine ⟨ended, heq, List.forall_mem_cons.2 ⟨fun hmem => absurd ?_ hany, hended⟩⟩
        simpa using hmem

omit [FileStore σ] in
theorem isRunning_endRebuilds (w : WatchSession) (outcomes : List BuildSession.Outcome) :
    (w.endRebuilds outcomes).isRunning = w.isRunning := by
  obtain ⟨rebuilds, rebuilt, heq, -⟩ := w.foldl_endRebuild outcomes
  rw [endRebuilds, heq]

omit [FileStore σ] in
theorem hasRoot_rebuild (w : WatchSession) (build : BuildSession σ) (paths : List Path) {call : Nat}
    (h : build.HasRoot call ∨ ∃ entry ∈ newRebuilds build.nextCall paths, entry.1 = call) :
    (w.rebuild build paths).1.HasRoot call := by
  rw [rebuild_eq]
  rcases h with hroot | ⟨entry, hentry, rfl⟩
  · exact hroot.mono fun _ htask _ => List.mem_append_left _ htask
  · obtain ⟨i, hi, rfl⟩ := List.mem_mapIdx.1 hentry
    exact ⟨_, List.mem_append_right _ (List.mem_mapIdx.2 ⟨i, hi, rfl⟩), rfl, rfl⟩

/-- Each rebuild of a session is a call of the build that goes on, or is over and noted. -/
def Alive (w : WatchSession) (build : BuildSession σ) : Prop :=
  ∀ entry ∈ w.rebuilds, entry.1 ∈ w.rebuilt ∨ build.HasRoot entry.1

omit [FileStore σ] in
theorem Alive.rebuild (h : w.Alive build) (paths : List Path) :
    (w.rebuild build paths).2.Alive (w.rebuild build paths).1 := by
  intro entry hentry
  have hroot : build.HasRoot entry.1 ∨
      (∃ other ∈ newRebuilds build.nextCall paths, other.1 = entry.1) →
      (w.rebuild build paths).1.HasRoot entry.1 := hasRoot_rebuild w build paths
  rw [rebuild_eq] at hentry ⊢
  rcases List.mem_append.1 hentry with hentry | hentry
  · exact (h entry hentry).imp_right fun h => by simpa only [rebuild_eq] using hroot (Or.inl h)
  · exact Or.inr (by simpa only [rebuild_eq] using hroot (Or.inr ⟨entry, hentry, rfl⟩))

theorem Alive.serve (h : w.Alive build) (hserved : w.serve? build now move = some (after, v)) :
    v.Alive after := by
  cases move with
  | event accepts =>
      obtain ⟨event, events, -, rfl, rfl⟩ := serve_event hserved
      exact h
  | change =>
      obtain ⟨change, changes, -, rfl, rfl⟩ := serve_change hserved
      exact h
  | deadline =>
      obtain ⟨rfl, rfl⟩ := Prod.mk.inj (serve_deadline hserved)
      refine Alive.rebuild ?_ _
      exact h
  | rebuilt =>
      obtain ⟨call, rebuilt, hrebuilt, hend⟩ := serve_rebuilt hserved
      have htaken : ∀ entry ∈ w.rebuilds, entry.1 ≠ call →
          entry.1 ∈ rebuilt ∨ build.HasRoot entry.1 := by
        intro entry hentry hne
        have halive := h entry hentry
        rw [hrebuilt, List.mem_cons] at halive
        exact halive.imp_left fun hmem => hmem.resolve_left hne
      rcases hend with ⟨hgone, rfl, rfl⟩ | ⟨path, -, heq⟩
      · exact fun entry hentry => htaken entry hentry (hgone entry hentry)
      · obtain ⟨rfl, rfl⟩ := Prod.mk.inj heq
        refine Alive.rebuild (fun entry hentry => ?_) _
        obtain ⟨hmem, hne⟩ := List.mem_filter.1 hentry
        exact htaken entry hmem (bne_iff_ne.1 hne)
  | stop =>
      obtain ⟨rfl, rfl⟩ := serve_stop hserved
      exact fun entry hentry => nomatch hentry

end WatchSession

namespace SharedBuild

variable {σ : Type} [FileStore σ] {first x y : SharedBuild σ} {past : History σ} {move : Move σ}
  {w v : WatchSession} {i : Nat} {p : Path}

/-- A change of a path was released while a rebuild of a watch session was not taken in. -/
def ReleasedDuring (past : History σ) (i call : Nat) (p : Path) : Prop :=
  ∃ z, (z, Move.serve i .deadline) ∈ past ∧ ∃ w, z.watches[i]? = some w ∧
    (∃ entry ∈ w.rebuilds, entry.1 = call) ∧
    ∃ path ∈ w.sources.changed z.now, path.same p = true

/-- No rebuild of a watch session has broken down. -/
def Unbroken (past : History σ) (i : Nat) : Prop :=
  ∀ moment ∈ past, ∀ root ∈ moment.1.build.tasks, root.parent = none →
    (∃ entry ∈ moment.1.rebuildsOf i, entry.1 = root.call) → root.stage ≠ .crashed

/-- The events that a watch session has taken in. -/
def handled (past : History σ) (i : Nat) : List BuildEvent :=
  past.filterMap fun moment =>
    match moment.2 with
    | .serve j (.event _) =>
        if j = i then (moment.1.watches[i]?).bind (·.events.head?) else none
    | _ => none

/-- Those of them that name a source. -/
def newsOf (past : History σ) (i : Nat) (p : Path) : List BuildEvent :=
  (handled past i).filter fun event => (WatchedSources.subject? event).any (·.same p)

omit [FileStore σ] in
theorem releasedDuring_snoc {call : Nat} : ReleasedDuring (past ++ [(x, move)]) i call p ↔
    ReleasedDuring past i call p ∨ (move = .serve i .deadline ∧ ∃ w, x.watches[i]? = some w ∧
      (∃ entry ∈ w.rebuilds, entry.1 = call) ∧
      ∃ path ∈ w.sources.changed x.now, path.same p = true) := by
  constructor
  · rintro ⟨z, hz, hreleased⟩
    rcases List.mem_append.1 hz with hz | hz
    · exact Or.inl ⟨z, hz, hreleased⟩
    · obtain ⟨rfl, hmove⟩ := Prod.mk.inj (List.mem_singleton.1 hz)
      exact Or.inr ⟨hmove.symm, hreleased⟩
  · rintro (⟨z, hz, hreleased⟩ | ⟨rfl, hreleased⟩)
    · exact ⟨z, List.mem_append_left _ hz, hreleased⟩
    · exact ⟨x, List.mem_append_right _ (List.mem_singleton.2 rfl), hreleased⟩

omit [FileStore σ] in
theorem releasedDuring_of_ne {call : Nat} (hmove : move ≠ .serve i .deadline) :
    ReleasedDuring (past ++ [(x, move)]) i call p ↔ ReleasedDuring past i call p := by
  rw [releasedDuring_snoc, or_iff_left fun h => hmove h.1]

theorem hasRoot_next (hx : Lawful x.build) (hcharged : x.Charged) (h : x.next? move = some y)
    (hcollect : move ≠ .collect) (hserve : ∀ own, move ≠ .serve i own) {entry : Nat × Path}
    (hentry : entry ∈ x.rebuildsOf i) (hroot : x.build.HasRoot entry.1) :
    y.build.HasRoot entry.1 := by
  cases move with
  | request addressee request =>
      obtain rfl := Option.some.inj h
      exact hroot.mono fun _ htask _ => List.mem_append_left _ htask
  | watch addressee window entries =>
      obtain rfl := Option.some.inj h
      exact hroot.mono fun _ htask _ => List.mem_append_left _ htask
  | edit change =>
      obtain rfl := Option.some.inj h
      exact hroot
  | report j change =>
      obtain ⟨u, -, rfl⟩ := Option.map_eq_some_iff.1 h
      exact hroot
  | wait duration =>
      obtain rfl := Option.some.inj h
      exact hroot
  | build id =>
      obtain ⟨task, turn, htask, -, rfl⟩ := next_build h hx.sent
      exact BuildSession.exists_root_perform hx.orderly (BuildSession.mem_of_task? htask).1 turn
        hroot
  | collect => exact absurd rfl hcollect
  | serve j own =>
      obtain ⟨u, build, u', hu, -, hserved, rfl⟩ := next_serve h
      rcases WatchSession.serve_cases hserved with ⟨-, u, paths, rfl⟩ | ⟨-, rfl⟩
      · exact u.hasRoot_rebuild x.build paths (Or.inl hroot)
      · refine hroot.mono fun task htask hcall => List.mem_filter.2 ⟨htask, ?_⟩
        have hij : i ≠ j := fun hij => hserve own (by rw [hij])
        rw [Bool.not_eq_true', List.any_eq_false]
        intro other hother hsame
        rw [hcall, beq_iff_eq] at hsame
        exact hcharged.apart i j hij entry hentry other (rebuildsOf_eq hu ▸ hother) hsame.symm

/-- What holds of a watch session none of whose rebuilds has broken down. -/
structure Guarded (past : History σ) (i : Nat) (x : SharedBuild σ) (w : WatchSession) : Prop where
  guard : w.Guard
  coalesced : ∀ entry ∈ w.rebuilds, w.sources.again.contains entry.2 = true ↔
    ReleasedDuring past i entry.1 entry.2
  alive : w.Alive x.build

namespace Guarded

theorem collect (h : Guarded past i x w) (hw : x.watches[i]? = some w)
    (hunbroken : Unbroken (past ++ [(x, .collect)]) i) (hnext : x.next? .collect = some y) :
    Guarded (past ++ [(x, .collect)]) i y (w.endRebuilds x.build.collect.2) := by
  obtain rfl := Option.some.inj hnext
  have hwhole : ∀ entry ∈ w.rebuilds,
      (⟨entry.1, none⟩ : BuildSession.Outcome) ∉ x.build.collect.2 := by
    intro entry hentry houtcome
    obtain ⟨root, hroot, hparent, hcall, hcrashed⟩ :=
      BuildSession.exists_crashed_of_outcome houtcome
    exact hunbroken (x, .collect) (List.mem_append_right _ (List.mem_singleton.2 rfl)) root hroot
      hparent ⟨entry, rebuildsOf_eq hw ▸ hentry, hcall.symm⟩ hcrashed
  obtain ⟨ended, heq, hended⟩ := WatchSession.endRebuilds_eq hwhole
  have hmove : Move.collect ≠ (.serve i .deadline : Move σ) := nofun
  rw [heq]
  refine ⟨{ h.guard with }, fun entry hentry => ?_, fun entry hentry => ?_⟩
  · rw [releasedDuring_of_ne hmove]
    exact h.coalesced entry hentry
  · rcases h.alive entry hentry with hmem | hroot
    · exact Or.inl (List.mem_append_left _ hmem)
    · rcases hroot.collect with hroot | ⟨count, houtcome⟩
      · exact Or.inr hroot
      · exact Or.inl (List.mem_append_right _ (hended _ houtcome ⟨entry, hentry, rfl⟩))

theorem serve (h : Guarded past i x w) (hw : x.watches[i]? = some w) (hcharged : x.Charged)
    (hpast : ∀ moment ∈ past, ∀ entry ∈ moment.1.rebuildsOf i, entry.1 < x.build.nextCall)
    {own : WatchMove} (hserved : w.serve? x.build x.now own = some (y.build, v))
    (hgoes : own ≠ .stop) : Guarded (past ++ [(x, .serve i own)]) i y v := by
  have hknown := rebuildsOf_eq hw ▸ hcharged.known i
  obtain ⟨hguard, hagain⟩ :=
    h.guard.serve (rebuildsOf_eq hw ▸ hcharged.distinct i) hknown hserved hgoes
  refine ⟨hguard, fun entry hentry => ?_, h.alive.serve hserved⟩
  rw [hagain entry hentry, releasedDuring_snoc]
  by_cases hold : entry ∈ w.rebuilds
  · rw [h.coalesced entry hold, and_iff_right hold]
    refine or_congr_right ⟨fun ⟨hown, hpath⟩ => ?_, fun ⟨hmove, w', hw', _, hpath⟩ => ?_⟩
    · exact ⟨by rw [hown], w, hw, ⟨entry, hold, rfl⟩, hpath⟩
    · obtain rfl := Option.some.inj (hw.symm.trans hw')
      exact ⟨(Move.serve.inj hmove).2, hpath⟩
  -- A rebuild that is started now was not known at any time before.
  · have hge : x.build.nextCall ≤ entry.1 := by
      obtain ⟨kept, paths, heq, hkept, -⟩ := WatchSession.serve_rebuilds hserved
      rcases List.mem_append.1 (heq ▸ hentry) with hmem | hmem
      · exact absurd (hkept.subset hmem) hold
      · exact (WatchSession.le_of_mem_newRebuilds hmem).1
    refine iff_of_false (fun h => hold h.1) ?_
    rintro (⟨z, hz, w', hw', ⟨other, hother, hcall⟩, -⟩ | ⟨-, w', hw', ⟨other, hother, hcall⟩, -⟩)
    · have hlt := hpast _ hz other (rebuildsOf_eq hw' ▸ hother)
      omega
    · have hlt := hcharged.known i other (rebuildsOf_eq hw' ▸ hother)
      omega

end Guarded

/-- A build in which no task has broken down, and whose transform never will. -/
def Sturdy (s : BuildSession σ) : Prop :=
  (∀ source text context, s.sourceTransform source text context ≠ .crash) ∧
    ∀ task ∈ s.tasks, task.stage ≠ .crashed

theorem sturdy_next (hx : Lawful x.build) (hsturdy : Sturdy x.build) (h : x.next? move = some y) :
    Sturdy y.build := by
  refine build_induction (fun s addressee request hs => ⟨hs.1, fun u hu => ?_⟩)
    (fun id task turn _ hfound hturn => ⟨hsturdy.1, fun u hu hcrashed => ?_⟩)
    (fun _ _ hs => hs) (fun s hs => ⟨hs.1, fun u hu => hs.2 u (List.mem_filter.1 hu).1⟩)
    (fun s keeps hs => ⟨hs.1, fun u hu => hs.2 u (List.mem_filter.1 hu).1⟩) hx.sent hsturdy h
  · rcases List.mem_append.1 hu with hu | hu
    · exact hs.2 u hu
    · rw [List.mem_singleton.1 hu]
      cases request <;> nofun
  · have htask := (BuildSession.mem_of_task? hfound).1
    rcases (BuildSession.mem_tasks_perform hx.orderly htask turn).1 hu with ⟨hu, -⟩ | rfl | hu
    · exact hsturdy.2 u hu hcrashed
    · obtain ⟨job, text, -, hcrash⟩ := hturn.crashed_iff.1 hcrashed
      exact hsturdy.1 _ _ _ hcrash
    · obtain ⟨path, requester, hstage⟩ :=
        hturn.spawned_visits _ (BuildSession.mem_started hu).2.2.2.2.2.2
      rw [hstage] at hcrashed
      contradiction

namespace Run

/-- Every call that a history knows of was made before the next one. -/
theorem known_past (h : Run first past x) (hfirst : Lawful first.build)
    (hnone : first.watches = []) (i : Nat) :
    ∀ moment ∈ past, ∀ entry ∈ moment.1.rebuildsOf i, entry.1 < x.build.nextCall := by
  induction h with
  | start => simp
  | next hrun hnext ih =>
      have hsent := (hrun.lawful hfirst).sent
      intro moment hmoment entry hentry
      refine Nat.lt_of_lt_of_le ?_ (nextCall_le hsent hnext)
      rcases List.mem_append.1 hmoment with hmoment | hmoment
      · exact ih moment hmoment entry hentry
      · rw [List.mem_singleton.1 hmoment] at hentry
        exact (hrun.charged hfirst hnone).known i entry hentry

theorem guarded (h : Run first past x) (hfirst : Lawful first.build) (hnone : first.watches = [])
    (hunbroken : Unbroken past i) (hw : x.watches[i]? = some w) (hrunning : w.isRunning = true) :
    Guarded past i x w := by
  induction h generalizing w with
  | start => simp [hnone] at hw
  | @next past x y move hrun hnext ih =>
      have hlawful := hrun.lawful hfirst
      have hcharged := hrun.charged hfirst hnone
      have hbefore : Unbroken past i :=
        fun moment hmoment => hunbroken moment (List.mem_append_left _ hmoment)
      cases becomes_of_next hlawful.sent hnext hw with
      | begin =>
          exact ⟨.start _ _, fun _ hentry => (nomatch hentry), fun _ hentry => (nomatch hentry)⟩
      | collect hu =>
          rw [WatchSession.isRunning_endRebuilds] at hrunning
          exact (ih hbefore hu hrunning).collect hu hunbroken hnext
      | serve hu hgoes hserved =>
          refine (ih hbefore hu hgoes).serve hu hcharged (hrun.known_past hfirst hnone i)
            hserved ?_
          rintro rfl
          obtain ⟨-, rfl⟩ := WatchSession.serve_stop hserved
          contradiction
      | stay hu hserve hcollect =>
          obtain ⟨hguard, hcoalesced, halive⟩ := ih hbefore hu hrunning
          refine ⟨{ hguard with }, fun entry hentry => ?_, fun entry hentry => ?_⟩
          · rw [releasedDuring_of_ne (hserve .deadline)]
            exact hcoalesced entry hentry
          · exact (halive entry hentry).imp_right
              (hasRoot_next hlawful hcharged hnext hcollect hserve (rebuildsOf_eq hu ▸ hentry))

/-- If no transform ever breaks down, no rebuild does. -/
theorem unbroken (h : Run first past x) (hfirst : Lawful first.build)
    (hsturdy : Sturdy first.build) (i : Nat) : Unbroken past i := by
  have hwhole : ∀ {past x}, Run first past x → Sturdy x.build := by
    intro past x h
    induction h with
    | start => exact hsturdy
    | next hrun hnext ih => exact sturdy_next (hrun.lawful hfirst) ih hnext
  intro moment hmoment root hroot _ _
  exact (h.forall_past (P := fun x => Sturdy x.build) hwhole moment hmoment).2 root hroot

end Run

omit [FileStore σ] in
theorem handled_of_ne (hmove : ∀ accepts, move ≠ .serve i (.event accepts)) :
    handled (past ++ [(x, move)]) i = handled past i := by
  have hnone : handled [(x, move)] i = [] := by
    cases move with
    | serve j own =>
        cases own with
        | event accepts =>
            have hji : j ≠ i := fun hji => hmove accepts (by rw [hji])
            simp [handled, hji]
        | _ => rfl
    | _ => rfl
  rw [handled, List.filterMap_append, ← handled, ← handled, hnone, List.append_nil]

omit [FileStore σ] in
theorem handled_event {accepts : Path → Bool} {event : BuildEvent} {events : List BuildEvent}
    (hw : x.watches[i]? = some w) (hevents : w.events = event :: events) :
    handled (past ++ [(x, .serve i (.event accepts))]) i = handled past i ++ [event] := by
  have hone : handled [(x, .serve i (.event accepts))] i = [event] := by
    simp [handled, hw, hevents]
  rw [handled, List.filterMap_append, ← handled, ← handled, hone]

omit [FileStore σ] in
theorem newsOf_of_ne (hmove : ∀ accepts, move ≠ .serve i (.event accepts)) :
    newsOf (past ++ [(x, move)]) i p = newsOf past i p := by
  rw [newsOf, handled_of_ne hmove, newsOf]

omit [FileStore σ] in
theorem newsOf_event {accepts : Path → Bool} {event : BuildEvent} {events : List BuildEvent}
    (hw : x.watches[i]? = some w) (hevents : w.events = event :: events) :
    newsOf (past ++ [(x, .serve i (.event accepts))]) i p = newsOf past i p ++
      if (WatchedSources.subject? event).any (·.same p) then [event] else [] := by
  rw [newsOf, handled_event hw hevents, List.filter_append, ← newsOf, List.filter_cons,
    List.filter_nil]

/-- A digest is remembered only while the last news of its source is that it was built. -/
theorem Run.news (h : Run first past x) (hfirst : Lawful first.build) (hnone : first.watches = [])
    (hw : x.watches[i]? = some w) (hp : w.sources.hashes.contains p = true) :
    ∃ source dest deps parents,
      (newsOf past i p).getLast? = some (.fileBuilt source dest deps parents) := by
  induction h generalizing w with
  | start => simp [hnone] at hw
  | @next past x y move hrun hnext ih =>
      cases becomes_of_next (hrun.lawful hfirst).sent hnext hw with
      | begin => contradiction
      | @collect u hu =>
          have hmove : ∀ accepts, Move.collect ≠ (.serve i (.event accepts) : Move σ) :=
            fun _ => nofun
          obtain ⟨rebuilds, rebuilt, heq, -⟩ := u.foldl_endRebuild x.build.collect.2
          rw [WatchSession.endRebuilds, heq] at hp
          rw [newsOf_of_ne hmove]
          exact ih hu hp
      | @serve u _ own hu _ hserved =>
          by_cases hevent : ∃ accepts, own = .event accepts
          · obtain ⟨accepts, rfl⟩ := hevent
            obtain ⟨event, events, hevents, -, rfl⟩ := WatchSession.serve_event hserved
            rw [newsOf_event hu hevents]
            rcases WatchedSources.contains_hashes_noteEvent hp with
              ⟨source, dest, deps, parents, rfl, hsame⟩ | ⟨hp, haway⟩
            · refine ⟨source, dest, deps, parents, ?_⟩
              rw [if_pos (by simpa [WatchedSources.subject?] using hsame), List.getLast?_concat]
            · rw [haway, if_neg Bool.false_ne_true, List.append_nil]
              exact ih hu hp
          · have hmove : ∀ accepts, own ≠ .event accepts :=
              fun accepts heq => hevent ⟨accepts, heq⟩
            rw [newsOf_of_ne fun accepts heq => hmove accepts (Move.serve.inj heq).2]
            rw [(WatchSession.serve_of_ne_event hserved hmove).1] at hp
            exact ih hu hp
      | stay hu hserve =>
          rw [newsOf_of_ne fun accepts => hserve (.event accepts)]
          exact ih hu hp

/-- **The guard of the rebuilds is exact.** In whatever order a watch session is served, next to any
number of others, as long as none of its rebuilds breaks down: the sources that it has marked as
being rebuilt have one rebuild each, a call that goes on or is over and waits to be taken in, and
all others have none; what is marked as changed again is among them. When a rebuild is taken in, its
path is asked for once more exactly if a change of it was released in the meantime, however many
there were. And a digest is remembered only if the last event of its source was that of a good
build. -/
theorem guard_is_exact {store : σ} {options : BuildOptions} {sourceTransform : SourceTransform}
    (hrun : Run (start store options sourceTransform) past x) (hw : x.watches[i]? = some w)
    (hrunning : w.isRunning = true) (hunbroken : Unbroken past i) :
    (∀ p, w.rebuilds.countP (fun entry => entry.2.same p) =
      if w.sources.rebuilding.contains p then 1 else 0) ∧
    (∀ entry ∈ w.rebuilds, entry.1 ∈ w.rebuilt ∨
      ∃ root ∈ x.build.tasks, root.parent = none ∧ root.call = entry.1) ∧
    (∀ p, w.sources.again.contains p = true → w.sources.rebuilding.contains p = true) ∧
    (∀ call rebuilt path, w.rebuilt = call :: rebuilt → (call, path) ∈ w.rebuilds →
      (ReleasedDuring past i call path →
        w.takeRebuilt? x.build = some (w.join x.build call path rebuilt [path])) ∧
      (¬ ReleasedDuring past i call path →
        w.takeRebuilt? x.build = some (w.join x.build call path rebuilt []))) ∧
    ∀ p, w.sources.hashes.contains p = true → ∃ source dest deps parents,
      (newsOf past i p).getLast? = some (.fileBuilt source dest deps parents) := by
  have hfirst : Lawful (start store options sourceTransform).build := .start _ _ _
  obtain ⟨hguard, hcoalesced, halive⟩ := hrun.guarded hfirst rfl hunbroken hw hrunning
  refine ⟨hguard.countP_eq, halive, hguard.again, fun call rebuilt path hrebuilt hmem => ?_,
    fun p => hrun.news hfirst rfl hw⟩
  have hcalls := rebuildsOf_eq hw ▸ (hrun.charged hfirst rfl).distinct i
  rw [WatchSession.takeRebuilt?_eq hcalls hrebuilt hmem]
  have hagain := hcoalesced _ hmem
  exact ⟨fun h => by rw [if_pos (hagain.2 h)], fun h => by rw [if_neg (mt hagain.1 h)]⟩

/-- A source is saved once more while its rebuild goes on. -/
def saveTwice : List (Move FileTree) :=
  firstBuild ++ save "1" ++ save "2" ++ List.replicate 7 (.build 1) ++ [.collect]

/-- A rebuild is over and not taken in yet, and its source has changed again. -/
def isOwed (x : SharedBuild FileTree) : Bool :=
  (x.watches[0]?).any fun w => w.isRunning && decide (w.rebuilt = [1]) &&
    decide (w.rebuilds = [(1, ("/p/a.js" : Path))]) && w.sources.again.contains "/p/a.js"

theorem guard_is_exact_saveTwice : ∃ past x w, Run solo past x ∧ x.watches[0]? = some w ∧
    w.isRunning = true ∧ Unbroken past 0 ∧ w.rebuilt = [1] ∧
    (1, ("/p/a.js" : Path)) ∈ w.rebuilds ∧
    ReleasedDuring past 0 1 "/p/a.js" ∧
    w.takeRebuilt? x.build = some (w.join x.build 1 "/p/a.js" [] ["/p/a.js"]) := by
  obtain ⟨past, x, -, hrun, hcheck⟩ := exists_replay (isOwed ·.2)
    (show (solo.replay? saveTwice).any (fun found => found.2.isOwed) = true by decide +kernel)
  obtain ⟨w, hw, hcheck⟩ := (Option.any_eq_true _ _).1 hcheck
  simp only [Bool.and_eq_true, decide_eq_true_eq] at hcheck
  obtain ⟨⟨⟨hrunning, hrebuilt⟩, hrebuilds⟩, hagain⟩ := hcheck
  have hmem : (1, ("/p/a.js" : Path)) ∈ w.rebuilds := by
    rw [hrebuilds]
    exact List.mem_cons_self
  have hfirst : Lawful solo.build := .start _ _ _
  have hunbroken : Unbroken past 0 := hrun.unbroken hfirst ⟨fun _ _ _ => nofun, nofun⟩ 0
  have hreleased : ReleasedDuring past 0 1 "/p/a.js" :=
    ((hrun.guarded hfirst rfl hunbroken hw hrunning).coalesced _ hmem).1 hagain
  obtain ⟨-, -, -, hjoin, -⟩ := guard_is_exact hrun hw hrunning hunbroken
  exact ⟨past, x, w, hrun, hw, hrunning, hunbroken, hrebuilt, hmem, hreleased,
    (hjoin 1 [] "/p/a.js" hrebuilt hmem).1 hreleased⟩

end SharedBuild

end LiveBuild
