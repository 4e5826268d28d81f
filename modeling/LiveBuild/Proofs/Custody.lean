import LiveBuild.Proofs.LiveWatch

/-!
# What becomes of a save

A save is in custody from the moment that its change is queued until a build has claimed its source:
as a queued change, as a change that is held back, as something to come back to after a rebuild
that is going on, or as a claim. It leaves custody when its source is settled, unless a move
overlooks it.
-/

namespace LiveBuild.LiveWatch

/-- A change of a path is still to be acted on. -/
inductive InCustody (x : LiveWatch) (due : List Path) (p : Path) : Prop
  | changed {change : PathChange} : change ∈ x.watch.changes → change.path.same p = true →
      InCustody x due p
  | held : x.watch.sources.pending.held.contains p = true → InCustody x due p
  | again {entry : Nat × Path} : x.watch.sources.again.contains p = true →
      entry ∈ x.watch.rebuilds → entry.2.same p = true → InCustody x due p
  | claimed {task : BuildTask} {path : Path} : task ∈ x.build.tasks →
      task.stage = .claim path → path.same p = true → InCustody x due p
  | due {path : Path} : path ∈ due → path.same p = true → InCustody x due p

/-- A move passes over a change of a path: because the file has the digest that was noted for its
last good build, or because the record is being built by another call. -/
def Overlooks (x : LiveWatch) (p : Path) : Move → Prop
  | .build id => ∃ task path, x.build.task? id = some task ∧ task.stage = .claim path ∧
      path.same p = true ∧ (x.build.register.reopen path task.addressee).2 = .underway
  | .deadline => ∃ entry ∈ (x.watch.sources.pending.release x.now).2,
      entry.2.needsBuild = true ∧ entry.1.same p = true ∧
        x.watch.sources.rebuilding.contains p = false ∧
          x.watch.sources.Matches x.build.store entry.1
  | .rebuilt => ∃ call rebuilt path, x.watch.rebuilt = call :: rebuilt ∧
      (call, path) ∈ x.watch.rebuilds ∧ path.same p = true ∧
        x.watch.sources.again.contains p = true ∧ x.watch.sources.Matches x.build.store path
  | _ => False

/-- A path is settled, or a change of it is still to be acted on. -/
def IsKept (x : LiveWatch) (due : List Path) (p : Path) : Prop :=
  x.build.Settled p ∨ x.InCustody due p

variable {x y : LiveWatch} {move : Move} {due : List Path} {p path : Path}

theorem InCustody.mono (h : x.InCustody due p)
    (hchanges : ∀ change ∈ x.watch.changes, change ∈ y.watch.changes)
    (hheld : x.watch.sources.pending.held.contains p = true →
      y.watch.sources.pending.held.contains p = true)
    (hagain : x.watch.sources.again.contains p = true →
      y.watch.sources.again.contains p = true)
    (hrebuilds : ∀ entry ∈ x.watch.rebuilds, entry ∈ y.watch.rebuilds)
    (htasks : ∀ task ∈ x.build.tasks, ∀ path, task.stage = .claim path →
      task ∈ y.build.tasks) : y.InCustody due p := by
  cases h with
  | changed hchange hsame => exact .changed (hchanges _ hchange) hsame
  | held hp => exact .held (hheld hp)
  | again hp hentry hsame => exact .again (hagain hp) (hrebuilds _ hentry) hsame
  | claimed htask hstage hsame => exact .claimed (htasks _ htask _ hstage) hstage hsame
  | due hpath hsame => exact .due hpath hsame

namespace IsKept

theorem request (h : x.IsKept (path :: due) p) (hx : x.Tracked (path :: due)) :
    (x.request path).IsKept due p := by
  rcases h with hsettled | hcustody
  · refine Or.inl (hsettled.congr hx.regular rfl rfl rfl (fun u hu => ?_) fun _ _ _ _ => ⟨rfl, rfl⟩)
    rcases List.mem_append.1 hu with hu | hu
    · exact Or.inl hu
    · rw [List.mem_singleton.1 hu]
      exact Or.inr rfl
  · cases hcustody with
    | changed hchange hsame => exact Or.inr (.changed hchange hsame)
    | held hp => exact Or.inr (.held hp)
    | again hp hentry hsame => exact Or.inr (.again hp (List.mem_append_left _ hentry) hsame)
    | claimed htask hstage hsame =>
        exact Or.inr (.claimed (List.mem_append_left _ htask) hstage hsame)
    | due hpath hsame =>
        rcases List.mem_cons.1 hpath with rfl | hpath
        · exact Or.inr (.claimed (List.mem_append_right _ (List.mem_singleton.2 rfl)) rfl hsame)
        · exact Or.inr (.due hpath hsame)

theorem requests (h : x.IsKept due p) (hx : x.Tracked due) :
    (due.foldl LiveWatch.request x).IsKept [] p := by
  induction due generalizing x with
  | nil => exact h
  | cons path rest ih => exact ih (h.request hx) hx.request

theorem save (h : x.IsKept [] p) (hx : x.Tracked []) {kind : Change} {content : ByteArray}
    (hnext : x.next? (.save path kind content) = some y) : y.IsKept [] p := by
  obtain ⟨hwatched, hkind, hdirectory, rfl⟩ := next_save hnext
  by_cases hsame : path.same p
  · exact Or.inr (.changed (List.mem_append_right _ (List.mem_singleton.2 rfl)) hsame)
  · rcases h with hsettled | hcustody
    · refine Or.inl (hsettled.congr hx.regular rfl rfl rfl (fun _ hu => Or.inl hu)
        fun q d hrecords hq => ?_)
      change (x.build.store.putFile path content).content? q = _ ∧
        (x.build.store.putFile path content).content? d = _
      rw [FileTree.content?_putFile, FileTree.content?_putFile, if_neg, if_neg]
      · exact ⟨rfl, rfl⟩
      · intro hd
        have houtside := hx.watched path hwatched
        rw [IsOutside, FileTree.startsWith_congr (Path.same_iff.1 hd),
          (hx.regular.placed_of_records hrecords).2] at houtside
        contradiction
      · rw [Path.same_iff, hq, ← Path.same_iff]
        exact hsame
    · exact Or.inr (hcustody.mono (fun _ hchange => List.mem_append_left _ hchange) id id
        (fun _ hentry => hentry) fun _ htask _ _ => htask)

theorem event (h : x.IsKept [] p) (hnext : x.next? .event = some y) : y.IsKept [] p := by
  obtain ⟨event, events, -, rfl⟩ := next_event hnext
  obtain ⟨hpending, hagain, -, -⟩ :=
    x.watch.sources.noteEvent_spec x.build.store x.accepts event
  refine h.imp_right fun hcustody => hcustody.mono (fun _ hchange => hchange) (fun hp => ?_)
    (fun hp => ?_) (fun _ hentry => hentry) fun _ htask _ _ => htask
  · exact hpending ▸ hp
  · exact hagain ▸ hp

theorem change (h : x.IsKept [] p) (hx : x.Tracked []) (hnext : x.next? .change = some y) :
    y.IsKept [] p := by
  obtain ⟨change, changes, hchanges, rfl⟩ := next_change hnext
  obtain ⟨hkind, hpath⟩ := hx.changes change (hchanges ▸ List.mem_cons_self)
  rw [WatchedSources.noteChange, if_pos hpath]
  have hheld := hx.pending.contains_add (p := p) change.path x.now hkind
  apply h.imp_right
  intro hcustody
  cases hcustody with
  | @changed found hfound hsame =>
      rw [hchanges] at hfound
      rcases List.mem_cons.1 hfound with rfl | hfound
      · exact .held (by rw [hheld, hsame, Bool.true_or])
      · exact .changed hfound hsame
  | held hp => exact .held (by rw [hheld, hp, Bool.or_true])
  | again hp hentry hsame => exact .again hp hentry hsame
  | claimed htask hstage hsame => exact .claimed htask hstage hsame
  | due hpath => contradiction

/-- Only what has broken down is dropped, and nobody comes back to that. -/
theorem collect (h : x.IsKept [] p) (hx : x.Tracked []) (hnext : x.next? .collect = some y) :
    y.IsKept [] p := by
  obtain ⟨rebuilds, rebuilt, rfl, -, hkept⟩ := next_collect hnext
  have hsettled : x.build.Settled p → x.build.collect.1.Settled p := fun hsettled =>
    hsettled.congr hx.regular rfl rfl rfl (fun _ hu => Or.inl (List.mem_filter.1 hu).1)
      fun _ _ _ _ => ⟨rfl, rfl⟩
  rcases h with h | hcustody
  · exact Or.inl (hsettled h)
  · cases hcustody with
    | changed hchange hsame => exact Or.inr (.changed hchange hsame)
    | held hp => exact Or.inr (.held hp)
    | @again entry hp hentry hsame =>
        rcases hkept entry hentry with hentry | ⟨root, hmem, hparent, hcall, hcrashed⟩
        · exact Or.inr (.again hp hentry hsame)
        · have hserves := ((hx.entries entry hentry).2.2 root hmem hparent hcall).2
          rw [hcrashed] at hserves
          have hforsaken : x.build.Forsaken p :=
            BuildSession.Forsaken.congr hserves (Path.same_iff.1 hsame)
          exact Or.inl (hsettled hforsaken.settled)
    | @claimed task path htask hstage hsame =>
        refine Or.inr (.claimed (List.mem_filter.2 ⟨htask, ?_⟩) hstage hsame)
        rw [BuildSession.outcome?, hstage]
        cases task.parent <;> cases task.agenda <;> rfl
    | due hpath => contradiction

/-- A source that is claimed is in custody, unless the claim is passed over. -/
theorem of_claimed {s t : WatchedSources} {paths : List Path}
    (hclaimed : s.Claimed x.build.store paths t due) {rebuilds : List (Nat × Path)}
    (hrebuilding : ∀ p, s.rebuilding.contains p = true →
      (∃ entry ∈ rebuilds, entry.2.same p = true) ∨ x.build.Forsaken p) (rebuilt : List Nat)
    (hpath : path ∈ paths) (hsame : path.same p = true) :
    ({ x with watch := { x.watch with sources := t, rebuilds, rebuilt } } : LiveWatch).IsKept
        due p ∨
      (s.rebuilding.contains p = false ∧ s.Matches x.build.store path) := by
  have hcomponents := Path.same_iff.1 hsame
  rcases hclaimed.answered path hpath with hdue | ⟨hagain, hbuilding⟩ | ⟨hidle, hmatches⟩
  · exact Or.inl (Or.inr (.due hdue hsame))
  · rw [PathSet.contains_congr hcomponents] at hagain hbuilding
    rcases (hclaimed.rebuilding p).1 hbuilding with hbuilding | ⟨path', hdue, hsame'⟩
    · rcases hrebuilding p hbuilding with ⟨entry, hentry, hsame'⟩ | hforsaken
      · exact Or.inl (Or.inr (.again hagain hentry hsame'))
      -- The rebuild that is waited for has broken down, so no build of it is ever good again.
      · exact Or.inl (Or.inl hforsaken.settled)
    · exact Or.inl (Or.inr (.due hdue hsame'))
  · rw [PathSet.contains_congr hcomponents] at hidle
    exact Or.inr ⟨hidle, hmatches⟩

theorem deadline (h : x.IsKept [] p) (hx : x.Tracked [])
    (hoverlooks : x.Overlooks p .deadline → x.build.Settled p) :
    ({ x with watch := { x.watch with sources := x.endWindow.1 } } : LiveWatch).IsKept
      x.endWindow.2 p := by
  have hclaimed := claimed_endWindow x
  rcases h with hsettled | hcustody
  · exact Or.inl hsettled
  · cases hcustody with
    | changed hchange hsame => exact Or.inr (.changed hchange hsame)
    | held hp =>
        rcases PendingChanges.contains_release hp x.now with hheld | ⟨entry, hentry, hsame⟩
        · exact Or.inr (.held (hclaimed.pending ▸ hheld))
        · have hkind := ((hx.pending.release x.now).2 entry hentry).1
          have hpath : entry.1 ∈ ((x.watch.sources.pending.release x.now).2.filter
              fun entry => entry.2.needsBuild).map (·.1) :=
            List.mem_map_of_mem (List.mem_filter.2 ⟨hentry, hkind⟩)
          rcases of_claimed hclaimed (fun p => hx.rebuilding_cases) x.watch.rebuilt hpath hsame with
            hkept | ⟨hidle, hmatches⟩
          · exact hkept
          · exact Or.inl (hoverlooks ⟨entry, hentry, hkind, hsame, hidle, hmatches⟩)
    | again hp hentry hsame => exact Or.inr (.again (hclaimed.again p hp) hentry hsame)
    | claimed htask hstage hsame => exact Or.inr (.claimed htask hstage hsame)
    | due hpath => contradiction

theorem rebuilt (h : x.IsKept [] p) (hx : x.Tracked []) {call : Nat} {rebuilt : List Nat}
    (hrebuilt : x.watch.rebuilt = call :: rebuilt) (hpath : (call, path) ∈ x.watch.rebuilds)
    (hoverlooks : x.Overlooks p .rebuilt → x.build.Settled p) :
    ({ x with watch := { x.watch with
      rebuilt
      rebuilds := x.watch.rebuilds.filter fun entry => entry.1 != call
      sources := (x.watch.sources.noteRebuilt x.build.store path).1 } } : LiveWatch).IsKept
        (x.watch.sources.noteRebuilt x.build.store path).2 p := by
  have hclaimed := x.watch.sources.claimed_noteRebuilt x.build.store path
  rcases h with hsettled | hcustody
  · exact Or.inl hsettled
  · cases hcustody with
    | changed hchange hsame => exact Or.inr (.changed hchange hsame)
    | held hp => exact Or.inr (.held (hclaimed.pending ▸ hp))
    | @again entry hp hentry hsame =>
        by_cases hpathp : path.same p
        · have hagain : x.watch.sources.again.contains path = true := by
            rw [PathSet.contains_congr (Path.same_iff.1 hpathp), hp]
          rcases of_claimed hclaimed (hx.rebuilding_freed hpath) rebuilt
            (by rw [if_pos hagain]; exact List.mem_singleton.2 rfl) hpathp with
            hkept | ⟨-, hmatches⟩
          · exact hkept
          · exact Or.inl (hoverlooks
              ⟨call, rebuilt, path, hrebuilt, hpath, hpathp, hp, hmatches⟩)
        · refine Or.inr (.again (hclaimed.again p ?_) (List.mem_filter.2 ⟨hentry, ?_⟩) hsame)
          · change (x.watch.sources.again.erase path).contains p = true
            simp [PathSet.contains_erase, hpathp, hp]
          · rw [bne_iff_ne]
            intro hcall
            rw [hx.eq_of_call hentry hpath hcall] at hsame
            exact hpathp hsame
    | claimed htask hstage hsame => exact Or.inr (.claimed htask hstage hsame)
    | due hpath => contradiction

theorem build (h : x.IsKept [] p) (hx : x.Tracked []) {id : Nat} {task : BuildTask}
    {turn : BuildSession.Turn FileTree} (hfound : x.build.task? id = some task)
    (hturn : x.build.Turns task turn) (hapart : x.build.StaysApart task turn.store)
    (hoverlooks : x.Overlooks p (.build id) → x.build.Settled p) :
    ({ x with
      build := { x.build.perform task turn with sent := [] }
      watch := { x.watch with events := x.watch.events ++ turn.told.map (·.2) } } :
        LiveWatch).IsKept [] p := by
  have htask := (BuildSession.mem_of_task? hfound).1
  have hsettled : x.build.Settled p → (x.build.perform task turn).Settled p :=
    fun hsettled => hsettled.perform hx.regular htask hturn hapart
  have hleft : (x.build.perform task turn).Settled p →
      ({ x.build.perform task turn with sent := [] } : BuildSession FileTree).Settled p :=
    fun h => ⟨h.work, h.rest⟩
  rcases h with h | hcustody
  · exact Or.inl (hleft (hsettled h))
  · cases hcustody with
    | changed hchange hsame => exact Or.inr (.changed hchange hsame)
    | held hp => exact Or.inr (.held hp)
    | again hp hentry hsame => exact Or.inr (.again hp hentry hsame)
    | @claimed u path hu hstage hsame =>
        by_cases hne : u = task
        · subst hne
          have hpath := hx.regular.claims u hu path hstage
          have hcomponents := Path.same_iff.1 hsame
          refine Or.inl (hleft ?_)
          cases hanswer : (x.build.register.reopen path u.addressee).2 with
          -- The other build may have read an older text: this is where a save can be overlooked.
          | underway => exact hsettled (hoverlooks ⟨u, path, hfound, hstage, hsame, hanswer⟩)
          | unknown =>
              exact hsettled (BuildSession.settled_of_unknown hx.regular hpath hanswer hcomponents)
          | started d =>
              exact BuildSession.settled_of_started hx.regular hu hturn hstage hanswer hcomponents
        · refine Or.inr (.claimed (BuildSession.mem_perform_of_ne hx.regular.orderly htask hturn hu
            hne ?_) hstage hsame)
          rw [BuildTask.count?, hstage]
          cases u.agenda <;> rfl
    | due hpath => contradiction

/-- No move loses a save, but a move can overlook one. -/
theorem next (h : x.IsKept [] p) (hx : x.Tracked []) (hnext : x.next? move = some y)
    (hapart : x.Apart move y) (hoverlooks : x.Overlooks p move → x.build.Settled p) :
    y.IsKept [] p := by
  cases move with
  | save path kind content => exact h.save hx hnext
  | wait duration =>
      obtain rfl := Option.some.inj hnext
      exact h.imp_right fun hcustody => hcustody.mono (fun _ hchange => hchange) id id
        (fun _ hentry => hentry) fun _ htask _ _ => htask
  | build id =>
      obtain ⟨task, turn, hfound, hturn, rfl⟩ := next_build hnext hx.sent
      exact h.build hx hfound hturn (hapart task hfound) hoverlooks
  | collect => exact h.collect hx hnext
  | event => exact h.event hnext
  | change => exact h.change hx hnext
  | deadline =>
      rw [next_deadline hnext]
      exact (h.deadline hx hoverlooks).requests hx.deadline
  | rebuilt =>
      obtain ⟨call, rebuilt, hrebuilt, ⟨-, rfl⟩ | ⟨path, hpath, rfl⟩⟩ := next_rebuilt hnext
      · exact h.imp_right fun hcustody => hcustody.mono (fun _ hchange => hchange) id id
          (fun _ hentry => hentry) fun _ htask _ _ => htask
      · exact (h.rebuilt hx hrebuilt hpath hoverlooks).requests (hx.rebuilt hpath rebuilt)

end IsKept

end LiveBuild.LiveWatch
