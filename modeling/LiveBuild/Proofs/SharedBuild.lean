import LiveBuild.Proofs.Histories
import LiveBuild.Proofs.Ownership
import LiveBuild.Proofs.WatchTurns

/-!
# A build that is shared

Any number of requests and of watch sessions use one build. They come when they like, files change
and are reported or not, time goes by, and the tasks of the build and the watch sessions are served
in any order; a watch session can be stopped at any moment. A history lists what happened, each time
with the state that it happened to.
-/

namespace LiveBuild

structure SharedBuild (σ : Type) where
  build : BuildSession σ
  watches : List WatchSession := []
  now : Nat := 0

namespace SharedBuild

inductive Move (σ : Type) where
  | request (addressee : Addressee) (request : BuildSession.Request)
  /-- A watch session begins. -/
  | watch (addressee : Addressee) (window : Nat) (entries : List Path)
  /-- Somebody else changes the files. -/
  | edit (change : σ → σ)
  /-- A watcher reports a change to its session. -/
  | report (session : Nat) (change : PathChange)
  | wait (duration : Nat)
  /-- One task of the build goes on; what it reports is queued. -/
  | build (task : Nat)
  /-- Calls of the build that are over are noted. -/
  | collect
  | serve (session : Nat) (move : WatchMove)

abbrev History (σ : Type) := List (SharedBuild σ × Move σ)

variable {σ : Type}

def start (store : σ) (options : BuildOptions) (sourceTransform : SourceTransform) :
    SharedBuild σ :=
  { build := .start store options sourceTransform }

/-- A watch session that was not stopped. -/
def running? (x : SharedBuild σ) (i : Nat) : Option WatchSession :=
  x.watches[i]?.filter (·.isRunning)

/-- The rebuilds that a watch session has started and not taken in yet. -/
def rebuildsOf (x : SharedBuild σ) (i : Nat) : List (Nat × Path) :=
  (x.watches[i]?).elim [] (·.rebuilds)

/-- Queue what the build has reported. -/
def handOut (x : SharedBuild σ) (build : BuildSession σ) : SharedBuild σ :=
  { x with
    build := { build with sent := [] }
    watches := x.watches.map (·.hear build.sent) }

variable [FileStore σ]

/-- Make one move, if it can be made now. -/
def next? (x : SharedBuild σ) : Move σ → Option (SharedBuild σ)
  | .request addressee request => some { x with build := (x.build.call addressee request).1 }
  | .watch addressee window entries =>
      let started := WatchSession.start x.build addressee window entries
      some { x with build := started.1, watches := x.watches ++ [started.2.1] }
  | .edit change => some { x with build := { x.build with store := change x.build.store } }
  | .report i change =>
      (x.running? i).map fun w =>
        { x with watches := x.watches.set i { w with changes := w.changes ++ [change] } }
  | .wait duration => some { x with now := x.now + duration }
  | .build task => (x.build.step? task).map x.handOut
  | .collect =>
      some { x with
        build := x.build.collect.1
        watches := x.watches.map (·.endRebuilds x.build.collect.2) }
  | .serve i move =>
      (x.running? i).bind fun w => (w.serve? x.build x.now move).map fun served =>
        { x with build := served.1, watches := x.watches.set i served.2 }

/-- A history leads from one state to another. -/
inductive Run (first : SharedBuild σ) : History σ → SharedBuild σ → Prop
  | start : Run first [] first
  | next {past : History σ} {x y : SharedBuild σ} {move : Move σ} : Run first past x →
      x.next? move = some y → Run first (past ++ [(x, move)]) y

/-- Make some moves, if each can be made when it is its turn. -/
def replay? (x : SharedBuild σ) : List (Move σ) → Option (History σ × SharedBuild σ)
  | [] => some ([], x)
  | move :: moves =>
      match x.next? move with
      | none => none
      | some y => (replay? y moves).map fun found => ((x, move) :: found.1, found.2)

theorem Run.replay {first x z : SharedBuild σ} {past later : History σ} {moves : List (Move σ)}
    (h : Run first past x) (hreplay : x.replay? moves = some (later, z)) :
    Run first (past ++ later) z := by
  induction moves generalizing past x later with
  | nil =>
      obtain ⟨rfl, rfl⟩ := Prod.mk.inj (Option.some.inj hreplay)
      rwa [List.append_nil]
  | cons move moves ih =>
      rw [replay?] at hreplay
      cases hnext : x.next? move with
      | none => simp [hnext] at hreplay
      | some y =>
          rw [hnext] at hreplay
          obtain ⟨⟨rest, last⟩, hfound, heq⟩ := Option.map_eq_some_iff.1 hreplay
          obtain ⟨rfl, rfl⟩ := Prod.mk.inj heq
          have hlater := ih (h.next hnext) hfound
          rwa [List.append_assoc] at hlater

variable {first x y : SharedBuild σ} {past : History σ} {move : Move σ} {w v : WatchSession}
  {i : Nat}

omit [FileStore σ] in
theorem rebuildsOf_eq (h : x.watches[i]? = some w) : x.rebuildsOf i = w.rebuilds := by
  rw [rebuildsOf, h, Option.elim_some]

omit [FileStore σ] in
theorem running?_eq_some : x.running? i = some w ↔ x.watches[i]? = some w ∧ w.isRunning = true :=
  Option.filter_eq_some_iff

section Moves

theorem next_build {id : Nat} (h : x.next? (.build id) = some y) (hsent : x.build.sent = []) :
    ∃ task turn, x.build.task? id = some task ∧ x.build.Turns task turn ∧
      y = { x with
        build := { x.build.perform task turn with sent := [] }
        watches := x.watches.map (·.hear turn.told) } := by
  obtain ⟨build, hbuild, rfl⟩ := Option.map_eq_some_iff.1 h
  obtain ⟨task, turn, htask, hturn, rfl⟩ := BuildSession.exists_turn hbuild
  refine ⟨task, turn, htask, hturn, ?_⟩
  rw [handOut, BuildSession.sent_perform hsent]

theorem next_serve {own : WatchMove} (h : x.next? (.serve i own) = some y) :
    ∃ w build v, x.watches[i]? = some w ∧ w.isRunning = true ∧
      w.serve? x.build x.now own = some (build, v) ∧
      y = { x with build, watches := x.watches.set i v } := by
  obtain ⟨w, hw, h⟩ := Option.bind_eq_some_iff.1 h
  obtain ⟨⟨build, v⟩, hserved, rfl⟩ := Option.map_eq_some_iff.1 h
  obtain ⟨hw, hrunning⟩ := running?_eq_some.1 hw
  exact ⟨w, build, v, hw, hrunning, hserved, rfl⟩

/-- A watch session that has begun is there from then on. -/
theorem length_le_next (h : x.next? move = some y) : x.watches.length ≤ y.watches.length := by
  cases move with
  | watch addressee window entries =>
      obtain rfl := Option.some.inj h
      simp
  | report i change =>
      obtain ⟨w, -, rfl⟩ := Option.map_eq_some_iff.1 h
      simp
  | build id =>
      obtain ⟨build, -, rfl⟩ := Option.map_eq_some_iff.1 h
      simp [handOut]
  | serve i own =>
      obtain ⟨w, build, v, -, -, -, rfl⟩ := next_serve h
      simp
  | _ =>
      obtain rfl := Option.some.inj h
      simp

/-- What holds of a build through calls, edits, and the dropping of calls, and through a turn of a
task that goes on, holds through a move. -/
theorem build_induction {P : BuildSession σ → Prop}
    (hcall : ∀ s addressee request, P s → P (s.call addressee request).1)
    (hturn : ∀ id task turn, move = .build id → x.build.task? id = some task →
      x.build.Turns task turn → P { x.build.perform task turn with sent := [] })
    (hedit : ∀ s store, P s → P { s with store })
    (hcollect : ∀ s, P s → P s.collect.1) (hkeep : ∀ s keeps, P s → P (s.keepCalls keeps))
    (hsent : x.build.sent = []) (hx : P x.build) (h : x.next? move = some y) : P y.build := by
  cases move with
  | request addressee request =>
      obtain rfl := Option.some.inj h
      exact hcall _ _ _ hx
  | watch addressee window entries =>
      obtain rfl := Option.some.inj h
      exact hcall _ _ _ hx
  | edit change =>
      obtain rfl := Option.some.inj h
      exact hedit _ _ hx
  | report i change =>
      obtain ⟨w, -, rfl⟩ := Option.map_eq_some_iff.1 h
      exact hx
  | wait duration =>
      obtain rfl := Option.some.inj h
      exact hx
  | build id =>
      obtain ⟨task, turn, htask, hturns, rfl⟩ := next_build h hsent
      exact hturn _ _ _ rfl htask hturns
  | collect =>
      obtain rfl := Option.some.inj h
      exact hcollect _ hx
  | serve i own =>
      obtain ⟨w, build, v, -, -, hserved, rfl⟩ := next_serve h
      rcases WatchSession.serve_cases hserved with ⟨-, u, paths, rfl⟩ | ⟨-, rfl⟩
      · exact u.rebuild_induction (fun s path hs => hcall s _ _ hs) hx paths
      · exact hkeep _ (fun call => !(w.rebuilds.any fun entry => entry.1 == call)) hx

/-- A task of the build goes on and reports an event. -/
def Tells (x : SharedBuild σ) (move : Move σ) (event : BuildEvent) : Prop :=
  ∃ id task turn addressee, move = .build id ∧ x.build.task? id = some task ∧
    x.build.Turns task turn ∧ (addressee, event) ∈ turn.told

/-- What a move makes of one watch session. -/
inductive Becomes (x y : SharedBuild σ) (i : Nat) : Move σ → WatchSession → Prop
  | begin {addressee : Addressee} {window : Nat} {entries : List Path} : i = x.watches.length →
      Becomes x y i (.watch addressee window entries)
        { addressee, sources := .start addressee.id window }
  | collect {w : WatchSession} : x.watches[i]? = some w →
      Becomes x y i .collect (w.endRebuilds x.build.collect.2)
  | serve {w v : WatchSession} {own : WatchMove} : x.watches[i]? = some w → w.isRunning = true →
      w.serve? x.build x.now own = some (y.build, v) → Becomes x y i (.serve i own) v
  /-- At most something more is queued. -/
  | stay {w : WatchSession} {move : Move σ} {events : List BuildEvent}
      {changes : List PathChange} : x.watches[i]? = some w → (∀ own, move ≠ .serve i own) →
      move ≠ .collect → (∀ event ∈ events, event ∈ w.events ∨ x.Tells move event) →
      Becomes x y i move { w with events, changes }

theorem becomes_of_next (hsent : x.build.sent = []) (h : x.next? move = some y)
    (hv : y.watches[i]? = some v) : Becomes x y i move v := by
  have hother : x.watches[i]? = some v → (∀ own, move ≠ .serve i own) → move ≠ .collect →
      Becomes x y i move v :=
    fun hv hserve hcollect => .stay (w := v) hv hserve hcollect fun _ => Or.inl
  cases move with
  | request addressee request =>
      obtain rfl := Option.some.inj h
      exact hother hv nofun nofun
  | watch addressee window entries =>
      obtain rfl := Option.some.inj h
      dsimp only at hv
      rw [List.getElem?_append] at hv
      split at hv
      · exact hother hv nofun nofun
      · obtain ⟨hlt, rfl⟩ := List.getElem?_eq_some_iff.1 hv
        rw [List.length_singleton] at hlt
        rw [List.getElem_singleton]
        exact .begin (by omega)
  | edit change =>
      obtain rfl := Option.some.inj h
      exact hother hv nofun nofun
  | report j change =>
      obtain ⟨u, hu, rfl⟩ := Option.map_eq_some_iff.1 h
      obtain ⟨hu, -⟩ := running?_eq_some.1 hu
      dsimp only at hv
      by_cases hij : j = i
      · subst hij
        rw [List.getElem?_set_self', hu] at hv
        obtain rfl := Option.some.inj hv
        exact .stay hu nofun nofun fun _ => Or.inl
      · rw [List.getElem?_set_ne hij] at hv
        exact hother hv nofun nofun
  | wait duration =>
      obtain rfl := Option.some.inj h
      exact hother hv nofun nofun
  | build id =>
      obtain ⟨task, turn, htask, hturn, rfl⟩ := next_build h hsent
      rw [List.getElem?_map] at hv
      obtain ⟨w, hw, rfl⟩ := Option.map_eq_some_iff.1 hv
      rw [WatchSession.hear] at hother ⊢
      split
      · refine .stay hw nofun nofun fun event hevent => ?_
        refine (List.mem_append.1 hevent).imp_right fun hheard => ?_
        obtain ⟨⟨addressee, event⟩, htold, rfl⟩ := List.mem_map.1 hheard
        exact ⟨id, task, turn, addressee, rfl, htask, hturn, (List.mem_filter.1 htold).1⟩
      · exact .stay (w := w) hw nofun nofun fun _ => Or.inl
  | collect =>
      obtain rfl := Option.some.inj h
      rw [List.getElem?_map] at hv
      obtain ⟨w, hw, rfl⟩ := Option.map_eq_some_iff.1 hv
      exact .collect hw
  | serve j own =>
      obtain ⟨w, build, u, hw, hrunning, hserved, rfl⟩ := next_serve h
      dsimp only at hv
      by_cases hij : j = i
      · subst hij
        rw [List.getElem?_set_self', hw] at hv
        obtain rfl := Option.some.inj hv
        exact .serve hw hrunning hserved
      · rw [List.getElem?_set_ne hij] at hv
        exact hother hv (fun own' heq => hij (Move.serve.inj heq).1) nofun

end Moves

/-- What is true of a build that is shared. -/
structure Lawful (s : BuildSession σ) : Prop where
  orderly : s.Orderly
  kindred : s.Kindred
  owned : s.Owned
  calls : ∀ task ∈ s.tasks, task.call < s.nextCall
  sent : s.sent = []

namespace Lawful

variable {s t : BuildSession σ}

omit [FileStore σ]

theorem start (store : σ) (options : BuildOptions) (sourceTransform : SourceTransform) :
    Lawful (.start store options sourceTransform) where
  orderly := ⟨List.Pairwise.nil, fun _ h => (nomatch h), fun _ h => (nomatch h),
    fun _ h => (nomatch h)⟩
  kindred _ h := nomatch h
  owned _ := Nat.zero_le _
  calls _ h := nomatch h
  sent := rfl

theorem call (h : Lawful s) (addressee : Addressee) (request : BuildSession.Request) :
    Lawful (s.call addressee request).1 where
  orderly := h.orderly.call addressee request
  kindred := h.kindred.call h.orderly addressee request
  owned d := by
    rw [BuildSession.owners_call]
    exact h.owned d
  calls task htask := by
    change task.call < s.nextCall + 1
    rcases List.mem_append.1 htask with htask | htask
    · exact Nat.lt_succ_of_lt (h.calls task htask)
    · rw [List.mem_singleton.1 htask]
      exact Nat.lt_succ_self _
  sent := h.sent

theorem edit (h : Lawful s) (store : σ) : Lawful { s with store } where
  orderly := ⟨h.orderly.ids, h.orderly.bound, h.orderly.family, h.orderly.single⟩
  kindred := h.kindred
  owned := h.owned
  calls := h.calls
  sent := h.sent

theorem collect (h : Lawful s) : Lawful s.collect.1 where
  orderly := h.orderly.collect
  kindred := h.kindred.mono fun _ htask => (List.mem_filter.1 htask).1
  owned d := Nat.le_trans (BuildSession.owners_collect_le s d) (h.owned d)
  calls task htask := h.calls task (List.mem_filter.1 htask).1
  sent := h.sent

theorem keepCalls (h : Lawful s) (keeps : Nat → Bool) : Lawful (s.keepCalls keeps) where
  orderly := h.orderly.keepCalls h.kindred keeps
  kindred := h.kindred.mono fun _ htask => (List.mem_filter.1 htask).1
  owned d := Nat.le_trans List.filter_sublist.countP_le (h.owned d)
  calls task htask := h.calls task (List.mem_filter.1 htask).1
  sent := h.sent

theorem perform [FileStore σ] (h : Lawful s) {task : BuildTask} {turn : BuildSession.Turn σ}
    (htask : task ∈ s.tasks) (hturn : s.Turns task turn) :
    Lawful { s.perform task turn with sent := [] } where
  orderly :=
    let ⟨hids, hbound, hfamily, hsingle⟩ := h.orderly.perform htask hturn
    ⟨hids, hbound, hfamily, hsingle⟩
  kindred := h.kindred.perform h.orderly htask turn
  owned := BuildSession.Owned.perform h.owned h.orderly htask hturn
  calls u hu := by
    change u.call < s.nextCall
    rcases (BuildSession.mem_tasks_perform h.orderly htask turn).1 hu with ⟨hu, -⟩ | rfl | hu
    · exact h.calls u hu
    · exact h.calls task htask
    · rw [(BuildSession.mem_started hu).2.2.1]
      exact h.calls task htask
  sent := rfl

end Lawful

theorem lawful_next (hx : Lawful x.build) (h : x.next? move = some y) : Lawful y.build :=
  build_induction (fun _ _ _ hs => hs.call _ _)
    (fun _ _ _ _ htask hturn => hx.perform (BuildSession.mem_of_task? htask).1 hturn)
    (fun _ _ hs => hs.edit _) (fun _ hs => hs.collect) (fun _ _ hs => hs.keepCalls _) hx.sent hx h

theorem nextCall_le (hsent : x.build.sent = []) (h : x.next? move = some y) :
    x.build.nextCall ≤ y.build.nextCall :=
  build_induction (P := fun s => x.build.nextCall ≤ s.nextCall)
    (fun _ _ _ hs => Nat.le_succ_of_le hs) (fun _ _ _ _ _ _ => Nat.le_refl _) (fun _ _ hs => hs)
    (fun _ hs => hs) (fun _ _ hs => hs) hsent (Nat.le_refl _) h

/-- A move may drop rebuilds of a watch session, and if it serves the session it may start some. -/
theorem rebuildsOf_next (hsent : x.build.sent = []) (h : x.next? move = some y) (i : Nat) :
    ∃ kept paths,
      y.rebuildsOf i = kept ++ WatchSession.newRebuilds x.build.nextCall paths ∧
      kept.Sublist (x.rebuildsOf i) ∧ x.build.nextCall + paths.length ≤ y.build.nextCall ∧
      (paths ≠ [] → ∃ own, move = .serve i own) := by
  -- Unless the session is served, what it has is a part of what it had.
  have hold : (y.rebuildsOf i).Sublist (x.rebuildsOf i) → ∃ kept paths,
      y.rebuildsOf i = kept ++ WatchSession.newRebuilds x.build.nextCall paths ∧
      kept.Sublist (x.rebuildsOf i) ∧ x.build.nextCall + paths.length ≤ y.build.nextCall ∧
      (paths ≠ [] → ∃ own, move = .serve i own) := fun hsub =>
    ⟨y.rebuildsOf i, [], by simp [WatchSession.newRebuilds], hsub, nextCall_le hsent h,
      fun hne => absurd rfl hne⟩
  cases hv : y.watches[i]? with
  | none =>
      apply hold
      rw [rebuildsOf, hv]
      exact List.nil_sublist _
  | some v =>
      rw [rebuildsOf_eq hv] at hold ⊢
      cases becomes_of_next hsent h hv with
      | begin => exact hold (List.nil_sublist _)
      | @collect w hw =>
          obtain ⟨rebuilds, rebuilt, heq, hsub, -⟩ := w.foldl_endRebuild x.build.collect.2
          apply hold
          rw [rebuildsOf_eq hw, WatchSession.endRebuilds, heq]
          exact hsub
      | @serve w _ own hw _ hserved =>
          obtain ⟨kept, paths, heq, hkept, hcalls⟩ := WatchSession.serve_rebuilds hserved
          exact ⟨kept, paths, heq, rebuildsOf_eq hw ▸ hkept, hcalls, fun _ => ⟨own, rfl⟩⟩
      | stay hw =>
          apply hold
          rw [rebuildsOf_eq hw]

/-- What the watch sessions have started: calls that have been made, each by one of them. -/
structure Charged (x : SharedBuild σ) : Prop where
  known : ∀ i, ∀ entry ∈ x.rebuildsOf i, entry.1 < x.build.nextCall
  distinct : ∀ i, (x.rebuildsOf i).Pairwise fun a b => a.1 ≠ b.1
  apart : ∀ i j, i ≠ j → ∀ a ∈ x.rebuildsOf i, ∀ b ∈ x.rebuildsOf j, a.1 ≠ b.1

theorem Charged.next (hx : x.Charged) (hsent : x.build.sent = [])
    (h : x.next? move = some y) : y.Charged := by
  refine ⟨fun i entry hentry => ?_, fun i => ?_, fun i j hij a ha b hb => ?_⟩
  · obtain ⟨kept, paths, heq, hkept, hcalls, -⟩ := rebuildsOf_next hsent h i
    rcases List.mem_append.1 (heq ▸ hentry) with hentry | hentry
    · exact Nat.lt_of_lt_of_le (hx.known i entry (hkept.subset hentry)) (nextCall_le hsent h)
    · exact Nat.lt_of_lt_of_le (WatchSession.le_of_mem_newRebuilds hentry).2 hcalls
  · obtain ⟨kept, paths, heq, hkept, -⟩ := rebuildsOf_next hsent h i
    rw [heq]
    refine List.pairwise_append.2 ⟨(hx.distinct i).sublist hkept,
      WatchSession.pairwise_newRebuilds _ _, fun a ha b hb => ?_⟩
    exact Nat.ne_of_lt (Nat.lt_of_lt_of_le (hx.known i a (hkept.subset ha))
      (WatchSession.le_of_mem_newRebuilds hb).1)
  · obtain ⟨kept, paths, heq, hkept, -, howner⟩ := rebuildsOf_next hsent h i
    obtain ⟨kept', paths', heq', hkept', -, howner'⟩ := rebuildsOf_next hsent h j
    rcases List.mem_append.1 (heq ▸ ha) with ha | ha <;>
      rcases List.mem_append.1 (heq' ▸ hb) with hb | hb
    · exact hx.apart i j hij a (hkept.subset ha) b (hkept'.subset hb)
    · exact Nat.ne_of_lt (Nat.lt_of_lt_of_le (hx.known i a (hkept.subset ha))
        (WatchSession.le_of_mem_newRebuilds hb).1)
    · exact (Nat.ne_of_lt (Nat.lt_of_lt_of_le (hx.known j b (hkept'.subset hb))
        (WatchSession.le_of_mem_newRebuilds ha).1)).symm
    -- Two sessions are not served at once.
    · have hpaths : ∀ {paths : List Path} {entry},
          entry ∈ WatchSession.newRebuilds x.build.nextCall paths → paths ≠ [] := by
        rintro paths entry hentry rfl
        contradiction
      obtain ⟨own, rfl⟩ := howner (hpaths ha)
      obtain ⟨own', heq⟩ := howner' (hpaths hb)
      exact absurd (Move.serve.inj heq).1 hij

namespace Run

theorem lawful (h : Run first past x) (hfirst : Lawful first.build) : Lawful x.build := by
  induction h with
  | start => exact hfirst
  | next _ hnext ih => exact lawful_next ih hnext

theorem charged (h : Run first past x) (hfirst : Lawful first.build) (hnone : first.watches = []) :
    x.Charged := by
  induction h with
  | start =>
      have hempty : ∀ i, first.rebuildsOf i = [] := by simp [rebuildsOf, hnone]
      exact ⟨by simp [hempty], by simp [hempty], by simp [hempty]⟩
  | next hrun hnext ih => exact ih.next (hrun.lawful hfirst).sent hnext

/-- A moment of a history is the state that the moments before it lead to. -/
theorem at_moment {z : SharedBuild σ} {earlier later : History σ} {moment : SharedBuild σ × Move σ}
    (h : Run first past z) (hpast : past = earlier ++ moment :: later) :
    Run first earlier moment.1 ∧ ∃ y, moment.1.next? moment.2 = some y ∧ Run y later z := by
  induction h generalizing later with
  | start => simp at hpast
  | @next past x z move hrun hnext ih =>
      rcases BuildSession.snoc_cases hpast with ⟨rfl, rfl, rfl⟩ | ⟨rest, rfl, hbefore⟩
      · exact ⟨hrun, z, hnext, .start⟩
      · obtain ⟨hearlier, y, hy, hlater⟩ := ih hbefore
        exact ⟨hearlier, y, hy, hlater.next hnext⟩

/-- What is true wherever a history leads was true in each of its moments. -/
theorem forall_past (h : Run first past x) {P : SharedBuild σ → Prop}
    (hP : ∀ {past x}, Run first past x → P x) : ∀ moment ∈ past, P moment.1 := by
  induction h with
  | start => simp
  | next hrun hnext ih =>
      intro moment hmoment
      rcases List.mem_append.1 hmoment with hmoment | hmoment
      · exact ih moment hmoment
      · rw [List.mem_singleton.1 hmoment]
        exact hP hrun

end Run

/-- The moves that are made are those that were given. -/
theorem map_snd_of_replay? {moves : List (Move σ)} (h : x.replay? moves = some (past, y)) :
    past.map (·.2) = moves := by
  induction moves generalizing x past with
  | nil =>
      obtain ⟨rfl, -⟩ := Prod.mk.inj (Option.some.inj h)
      rfl
  | cons move moves ih =>
      rw [replay?] at h
      split at h
      · contradiction
      · obtain ⟨⟨rest, last⟩, hfound, heq⟩ := Option.map_eq_some_iff.1 h
        obtain ⟨rfl, rfl⟩ := Prod.mk.inj heq
        rw [List.map_cons, ih hfound]

theorem exists_replay {moves : List (Move σ)} (check : History σ × SharedBuild σ → Bool)
    (h : (first.replay? moves).any check = true) :
    ∃ past x, first.replay? moves = some (past, x) ∧ Run first past x ∧ check (past, x) = true := by
  obtain ⟨⟨past, x⟩, hreplay, hcheck⟩ := (Option.any_eq_true _ _).1 h
  exact ⟨past, x, hreplay, Run.start.replay hreplay, hcheck⟩

section Solo

def soloTree : FileTree := FileTree.empty.putFile "/p/a.js" "0".toUTF8

def soloOptions : BuildOptions where
  baseDir := "/p"
  outDir := "/p/out"
  extensions := [".js"]
  resolveExtensions := [".js"]
  exclude := []
  assets := ⟨[], [], "", ""⟩
  extra := {}

/-- A build of one source, before anybody asks for it. -/
def solo : SharedBuild FileTree := start soloTree soloOptions .scan

def takeEvent : Move FileTree := .serve 0 (.event fun _ => true)

/-- A watch session begins, and its source is built and reported. -/
def firstBuild : List (Move FileTree) :=
  Move.watch ⟨1, 0⟩ 50 ["a.js"] :: List.replicate 9 (Move.build 0) ++
    [takeEvent, takeEvent, .collect]

/-- A change of the source is reported and acted on. -/
def noticeChange : List (Move FileTree) :=
  [.report 0 ⟨"/p/a.js", .modified⟩, .serve 0 .change, .wait 50, .serve 0 .deadline]

def save (text : String) : List (Move FileTree) :=
  .edit (·.putFile "/p/a.js" text.toUTF8) :: noticeChange

end Solo

end SharedBuild

end LiveBuild
