import LiveBuild.Proofs.Telling
import LiveBuild.Watch.Modules

/-!
# Loaded modules keep up with the build

The outputs of a build are loaded as modules, any of them at any moment, while builds write outputs
and watch sessions drop what their events make stale. From the writing of an output until the event
that tells of it is taken in, a loaded module may be out of date; while nothing of that is under
way, it is not.
-/

namespace LiveBuild

/-- What can be read at a path stays as it is. -/
def FileStore.Keeps {σ : Type} [FileStore σ] (store store' : σ) (d : Path) : Prop :=
  ∀ code, readText store d = .ok code → readText store' d = .ok code

namespace LoadedModules

variable {σ : Type} [FileStore σ] {m : LoadedModules} {store store' : σ} {d p : Path}

def dropAll (m : LoadedModules) (stale : List Path) : LoadedModules := stale.foldl drop m

omit [FileStore σ] in
theorem get?_dropAll (m : LoadedModules) (stale : List Path) (d : Path) :
    (m.dropAll stale).modules.get? d =
      if stale.any (·.same d) then none else m.modules.get? d := by
  induction stale generalizing m with
  | nil => rfl
  | cons p rest ih =>
      rw [dropAll, List.foldl_cons, ← dropAll, ih, drop, PathMap.get?_erase, List.any_cons]
      cases p.same d <;> simp

/-- If the module of a path is loaded, its code is what is read there now, and its digest is that of
the code. -/
def Current (m : LoadedModules) (store : σ) (d : Path) : Prop :=
  ∀ found, m.modules.get? d = some found →
    FileStore.readText store d = .ok found.code ∧ found.digest = Digest.ofText found.code

theorem Current.of_keeps (h : m.Current store d) (hkeeps : FileStore.Keeps store store' d) :
    m.Current store' d := fun found hfound =>
  ⟨hkeeps found.code (h found hfound).1, (h found hfound).2⟩

theorem Current.dropAll (h : m.Current store d) (stale : List Path) :
    (m.dropAll stale).Current store d := by
  intro found hfound
  rw [get?_dropAll] at hfound
  split at hfound
  · cases hfound
  · exact h found hfound

/-- What was dropped is not loaded. -/
theorem current_dropAll {stale : List Path} (h : ∃ p ∈ stale, p.same d = true) :
    (m.dropAll stale).Current store d := by
  intro found hfound
  rw [get?_dropAll, if_pos (List.any_eq_true.2 h)] at hfound
  cases hfound

/-- A load reads what is there, or leaves what is loaded already. -/
theorem Current.load (h : m.Current store d)
    (hread : p.same d = true → ∀ code, FileStore.readText store p = .ok code →
      FileStore.readText store d = .ok code) :
    (m.load store p).1.Current store d := by
  rw [LoadedModules.load]
  cases hget : m.modules.get? p with
  | some found => exact h
  | none =>
      cases hcode : FileStore.readText store p with
      | error e => exact h
      | ok code =>
          intro found hfound
          rw [PathMap.get?_insert] at hfound
          split at hfound
          · rename_i hsame
            obtain rfl := Option.some.inj hfound
            exact ⟨hread hsame code hcode, rfl⟩
          · exact h found hfound

end LoadedModules

/-- A shared build, with the modules that were loaded from its outputs. -/
structure ModuleHost (σ : Type) where
  shared : SharedBuild σ
  modules : LoadedModules := {}

namespace ModuleHost

inductive Move (σ : Type) where
  | load (dest : Path)
  | shared (move : SharedBuild.Move σ)

abbrev History (σ : Type) := List (ModuleHost σ × Move σ)

variable {σ : Type} [FileStore σ]

def next? (x : ModuleHost σ) : Move σ → Option (ModuleHost σ)
  | .load dest => some { x with modules := (x.modules.load x.shared.build.store dest).1 }
  | .shared move =>
      (x.shared.next? move).map fun shared => ⟨shared, x.modules.dropAll (x.shared.stale move)⟩

/-- A history leads from one state to another. -/
inductive Run (first : ModuleHost σ) : History σ → ModuleHost σ → Prop
  | start : Run first [] first
  | next {past : History σ} {x y : ModuleHost σ} {move : Move σ} : Run first past x →
      x.next? move = some y → Run first (past ++ [(x, move)]) y

variable {first x y : ModuleHost σ} {past : History σ} {move : Move σ} {i : Nat} {d : Path}

/-- What can be read at a path is changed by builds only, and a load reads what is there. -/
def Respects (d : Path) (x : ModuleHost σ) : Move σ → Prop
  | .load p => p.same d = true → ∀ code, FileStore.readText x.shared.build.store p = .ok code →
      FileStore.readText x.shared.build.store d = .ok code
  | .shared move => ∀ y, x.shared.next? move = some y →
      FileStore.Keeps x.shared.build.store y.build.store d ∨ x.shared.Writes move d

/-- A build that has written the output of a path then queues its event for a watch session. -/
def Tells (i : Nat) (d : Path) (x : ModuleHost σ) : Move σ → Prop
  | .load _ => True
  | .shared move => ∀ y, x.shared.next? move = some y → ∀ task ∈ x.shared.build.tasks,
      task.hasWritten d = true → task ∈ y.build.tasks ∨ y.Awaits i d

/-- The module of a path is as it has to be, or something is under way that will make it so. -/
def Settles (i : Nat) (d : Path) (x : ModuleHost σ) : Prop :=
  x.modules.Current x.shared.build.store d ∨ x.shared.HasWritten d ∨ x.shared.Awaits i d ∨
    x.shared.IsStopped i

theorem Settles.next (h : x.Settles i d) (hrespects : x.Respects d move)
    (htells : x.Tells i d move) (hnext : x.next? move = some y) : y.Settles i d := by
  cases move with
  | load p =>
      obtain rfl := Option.some.inj hnext
      exact h.imp_left fun hcurrent => hcurrent.load hrespects
  | shared move =>
      obtain ⟨shared, hshared, rfl⟩ := Option.map_eq_some_iff.1 hnext
      rcases hrespects shared hshared with hkeeps | hwrites
      · rcases h with hcurrent | ⟨task, htask, hbuilt⟩ | hawaits | hstopped
        · exact .inl ((hcurrent.of_keeps hkeeps).dropAll _)
        · exact .inr ((htells shared hshared task htask hbuilt).imp
            (fun hmem => ⟨task, hmem, hbuilt⟩) .inl)
        · rcases hawaits.next hshared with hstale | hawaits | hstopped
          · exact .inl (LoadedModules.current_dropAll hstale)
          · exact .inr (.inr (.inl hawaits))
          · exact .inr (.inr (.inr hstopped))
        · exact .inr (.inr (.inr (hstopped.next hshared)))
      -- Whatever is loaded now, the event of this build is still to come.
      · exact .inr (.inl (hwrites.hasWritten hshared))

theorem Run.settles (h : Run first past x) (hfirst : first.modules = {})
    (hrespects : ∀ moment ∈ past, moment.1.Respects d moment.2)
    (htells : ∀ moment ∈ past, moment.1.Tells i d moment.2) : x.Settles i d := by
  induction h with
  | start =>
      refine .inl fun found hfound => ?_
      rw [hfirst] at hfound
      cases hfound
  | next _ hnext ih =>
      obtain ⟨hrespects, hlast⟩ := List.forall_mem_append.1 hrespects
      obtain ⟨htells, htold⟩ := List.forall_mem_append.1 htells
      exact (ih hrespects htells).next (hlast _ List.mem_cons_self) (htold _ List.mem_cons_self)
        hnext

/-- One addressee stays all that a build works for. -/
theorem Run.alone {a : Addressee} (h : Run first past x) (hfirst : first.shared.Alone a)
    (hmoves : ∀ y move, (y, .shared move) ∈ past → move.IsFor a) :
    x.shared.Alone a ∧ ∀ moment ∈ past, moment.1.shared.Alone a := by
  induction h with
  | start => exact ⟨hfirst, fun _ hmoment => (nomatch hmoment)⟩
  | @next past y z move _ hnext ih =>
      obtain ⟨halone, hbefore⟩ := ih fun u move hmem => hmoves u move (List.mem_append_left _ hmem)
      have hpast : ∀ moment ∈ past ++ [(y, move)], moment.1.shared.Alone a :=
        List.forall_mem_append.2 ⟨hbefore, List.forall_mem_singleton.2 halone⟩
      cases move with
      | load p =>
          obtain rfl := Option.some.inj hnext
          exact ⟨halone, hpast⟩
      | shared own =>
          obtain ⟨shared, hshared, rfl⟩ := Option.map_eq_some_iff.1 hnext
          have hown := hmoves y own (List.mem_append_right _ (List.mem_singleton.2 rfl))
          exact ⟨halone.next hown hshared, hpast⟩

theorem Run.tells {a : Addressee} (h : Run first past x) (hfirst : first.shared.Alone a)
    (hmoves : ∀ y move, (y, .shared move) ∈ past → move.IsFor a) :
    ∀ moment ∈ past, moment.1.Tells 0 d moment.2 := by
  rintro ⟨y, move⟩ hmoment
  cases move with
  | load p => trivial
  | shared own =>
      have halone := (h.alone hfirst hmoves).2 _ hmoment
      exact fun z hnext => halone.told (hmoves y own hmoment) hnext

/-- **No stale module stays loaded.** In whatever order builds, watch sessions and loads go on:
while no build of a path is between its writing and its event, and no event of one waits for the
watch session, the module that is loaded for the path has the code that is there, and the digest of
that code. The builds have to tell the session of what they write, which they do where everybody
works for its addressee. -/
theorem loaded_modules_are_current (h : Run first past x) (hfirst : first.modules = {})
    (hrespects : ∀ moment ∈ past, moment.1.Respects d moment.2)
    (hwritten : ¬ x.shared.HasWritten d) :
    (∀ i, (∀ moment ∈ past, moment.1.Tells i d moment.2) → ¬ x.shared.IsStopped i →
      ¬ x.shared.Awaits i d → x.modules.Current x.shared.build.store d) ∧
    (∀ a, first.shared.Alone a → (∀ y move, (y, .shared move) ∈ past → move.IsFor a) →
      ¬ x.shared.Awaits 0 d → x.modules.Current x.shared.build.store d) := by
  have hcurrent : ∀ i, (∀ moment ∈ past, moment.1.Tells i d moment.2) → ¬ x.shared.IsStopped i →
      ¬ x.shared.Awaits i d → x.modules.Current x.shared.build.store d := by
    intro i htells hrunning hevents
    rcases h.settles hfirst hrespects htells with hcurrent | hbuilt | hawaits | hstopped
    · exact hcurrent
    · exact absurd hbuilt hwritten
    · exact absurd hawaits hevents
    · exact absurd hstopped hrunning
  refine ⟨hcurrent, fun a halone hmoves => hcurrent 0 (h.tells halone hmoves) ?_⟩
  rintro ⟨w, hw, hstopped⟩
  obtain ⟨v, hv, hrunning⟩ := (h.alone halone hmoves).1.running
  obtain rfl : v = w := Option.some.inj (hv.symm.trans hw)
  simp [hrunning] at hstopped

/-! ## A tree that one watch session works on -/

/-- Neither an edit nor an asset takes the place of an output. -/
def Spares (d : Path) (x : SharedBuild FileTree) : SharedBuild.Move FileTree → Prop
  | .edit change => FileStore.Keeps x.build.store (change x.build.store) d
  | .build id => ∀ task path requester y, x.build.task? id = some task →
      task.stage = .visit path requester → x.next? (.build id) = some y →
      FileStore.Keeps x.build.store y.build.store d
  | _ => True

theorem keeps_putFile {tree : FileTree} {p : Path} (h : ¬ p.same d = true) (content : ByteArray) :
    FileStore.Keeps tree (tree.putFile p content) d := by
  intro code hcode
  obtain ⟨old, hold, hdecode⟩ := FileTree.readText_eq_ok.1 hcode
  exact FileTree.readText_eq_ok.2 ⟨old, by rw [FileTree.content?_putFile, if_neg h, hold], hdecode⟩

/-- In a tree the builds of other outputs leave an output alone. -/
theorem written_next {x y : SharedBuild FileTree} {move : SharedBuild.Move FileTree}
    (hsent : x.build.sent = []) (hspares : Spares d x move) (hnext : x.next? move = some y) :
    FileStore.Keeps x.build.store y.build.store d ∨ x.Writes move d := by
  cases move with
  | request | watch | wait | collect =>
      obtain rfl := Option.some.inj hnext
      exact .inl fun _ => id
  | edit change =>
      obtain rfl := Option.some.inj hnext
      exact .inl hspares
  | report j change =>
      obtain ⟨w, hw, rfl⟩ := Option.map_eq_some_iff.1 hnext
      exact .inl fun _ => id
  | serve j own =>
      obtain ⟨w, build, v, -, -, hserved, rfl⟩ := SharedBuild.next_serve hnext
      rcases WatchSession.serve_cases hserved with ⟨-, u, paths, rfl⟩ | ⟨-, rfl⟩
      · rw [WatchSession.rebuild_eq]
        exact .inl fun _ => id
      · exact .inl fun _ => id
  | build id =>
      have hkeeps := fun task path requester => hspares task path requester y
      obtain ⟨task, turn, htask, hturn, rfl⟩ := SharedBuild.next_build hnext hsent
      rcases hturn.store_cases with hstore | ⟨path, requester, -, -, hstage, -⟩ |
        ⟨job, code, locals, hstage, hstore⟩
      · exact .inl fun code hcode => by
          change FileStore.readText turn.store d = _
          rwa [hstore]
      · exact .inl (hkeeps task path requester htask hstage hnext)
      · by_cases hdest : job.dest.same d = true
        · exact .inr ⟨id, task, job, code, locals, rfl, htask, hstage, hdest, rfl⟩
        · refine .inl fun text htext => ?_
          change FileStore.readText turn.store d = _
          rw [hstore]
          exact keeps_putFile hdest _ text htext

/-- In a tree a path is read alike in all its spellings. -/
theorem readText_of_same {tree : FileTree} {p : Path} (h : p.same d = true) (code : String)
    (hcode : FileStore.readText tree p = .ok code) : FileStore.readText tree d = .ok code := by
  obtain ⟨content, hcontent, hdecode⟩ := FileTree.readText_eq_ok.1 hcode
  exact FileTree.readText_eq_ok.2
    ⟨content, FileTree.content?_congr (Path.same_iff.1 h) ▸ hcontent, hdecode⟩

/-- In a tree every output is respected that neither an edit nor an asset takes the place of. -/
theorem respects_of_spares {x : ModuleHost FileTree} {move : Move FileTree}
    (hsent : x.shared.build.sent = [])
    (hspares : ∀ own, move = .shared own → Spares d x.shared own) : x.Respects d move := by
  cases move with
  | load p => exact fun hsame => readText_of_same hsame
  | shared own => exact fun y hnext => written_next hsent (hspares own rfl) hnext

section Reload

/-- Make some moves, if each can be made when it is its turn. -/
def replay? (x : ModuleHost σ) : List (Move σ) → Option (History σ × ModuleHost σ)
  | [] => some ([], x)
  | move :: moves =>
      match x.next? move with
      | none => none
      | some y => (replay? y moves).map fun found => ((x, move) :: found.1, found.2)

theorem Run.replay {first x z : ModuleHost σ} {past later : History σ} {moves : List (Move σ)}
    (h : Run first past x) (hreplay : x.replay? moves = some (later, z)) :
    Run first (past ++ later) z := by
  induction moves generalizing past x later with
  | nil =>
      obtain ⟨rfl, rfl⟩ := Prod.mk.inj (Option.some.inj hreplay)
      rwa [List.append_nil]
  | cons move moves ih =>
      rw [replay?] at hreplay
      cases hnext : x.next? move with
      | none => simp [hnext] at hreplay
      | some y =>
          rw [hnext] at hreplay
          obtain ⟨⟨rest, last⟩, hfound, heq⟩ := Option.map_eq_some_iff.1 hreplay
          obtain ⟨rfl, rfl⟩ := Prod.mk.inj heq
          have hlater := ih (h.next hnext) hfound
          rwa [List.append_assoc] at hlater

/-- A watch session has begun in a tree of one source, and no module is loaded. -/
def attended : ModuleHost FileTree :=
  ⟨(SharedBuild.solo.next? (.watch ⟨1, 0⟩ 50 ["a.js"])).getD SharedBuild.solo, {}⟩

def soloOutput : Path := "/p/out/a.js"

/-- The output of the source is built and loaded, the source is saved and built again, and the
output is loaded once before and once after the session has taken in that it was. -/
def reloads : List (Move FileTree) :=
  SharedBuild.firstBuild.tail.map Move.shared ++ [Move.load soloOutput] ++
    (SharedBuild.save "1" ++ List.replicate 6 (SharedBuild.Move.build 1)).map Move.shared ++
    [Move.load soloOutput, .shared (.build 1), .shared SharedBuild.takeEvent, .load soloOutput]

/-- What can be read as the output is read alike in another tree. -/
def isKept (tree tree' : FileTree) : Bool :=
  match FileStore.readText tree soloOutput with
  | .error _ => true
  | .ok code => decide (FileStore.readText tree' soloOutput = .ok code)

theorem keeps_of_isKept {tree tree' : FileTree} (h : isKept tree tree' = true) :
    FileStore.Keeps tree tree' soloOutput := by
  intro code hcode
  rw [isKept, hcode] at h
  exact of_decide_eq_true h

/-- A move of the session, and neither an edit nor an asset that takes the place of the output. -/
def isSpared (x : ModuleHost FileTree) : Move FileTree → Bool
  | .shared (.request _ _) | .shared (.watch _ _ _) | .shared (.serve _ .stop) => false
  | .shared (.edit change) => isKept x.shared.build.store (change x.shared.build.store)
  | .shared (.build id) => (x.shared.build.task? id).all fun task =>
      match task.stage with
      | .visit _ _ => (x.shared.next? (.build id)).all fun y =>
          isKept x.shared.build.store y.build.store
      | _ => true
  | _ => true

theorem spares_of_isSpared {x : ModuleHost FileTree} {move : SharedBuild.Move FileTree}
    {a : Addressee} (h : x.isSpared (.shared move) = true) :
    move.IsFor a ∧ Spares soloOutput x.shared move := by
  cases move with
  | request | watch => cases h
  | serve j own =>
      cases own with
      | stop => cases h
      | _ => exact ⟨trivial, trivial⟩
  | edit change => exact ⟨trivial, keeps_of_isKept h⟩
  | build id =>
      refine ⟨trivial, fun task path requester y htask hstage hnext => ?_⟩
      rw [isSpared, htask, Option.all_some, hstage, hnext] at h
      exact keeps_of_isKept h
  | _ => exact ⟨trivial, trivial⟩

/-- Nothing of the output is under way, and the module that is loaded has the code of the second
build. -/
def isReloaded (x : ModuleHost FileTree) : Bool :=
  (x.shared.running? 0).any (fun w => w.events.all fun event => !event.isBuildOf soloOutput) &&
    x.shared.build.tasks.all (fun task => !task.hasWritten soloOutput) &&
    (x.modules.modules.get? soloOutput).any fun found => decide (found.code = "1")

theorem isReloaded_iff {x : ModuleHost FileTree} (h : x.isReloaded = true) :
    ¬ x.shared.HasWritten soloOutput ∧ ¬ x.shared.IsStopped 0 ∧ ¬ x.shared.Awaits 0 soloOutput ∧
      ∃ found, x.modules.modules.get? soloOutput = some found ∧ found.code = "1" := by
  simp only [isReloaded, Bool.and_eq_true, Option.any_eq_true, List.all_eq_true, Bool.not_eq_true',
    decide_eq_true_eq] at h
  obtain ⟨⟨⟨w, hw, hevents⟩, hwritten⟩, hfound⟩ := h
  obtain ⟨hw, hrunning⟩ := SharedBuild.running?_eq_some.1 hw
  refine ⟨?_, ?_, ?_, hfound⟩
  · rintro ⟨task, htask, hbuilt⟩
    simp [hwritten task htask] at hbuilt
  · rintro ⟨v, hv, hstopped⟩
    obtain rfl : w = v := Option.some.inj (hw.symm.trans hv)
    simp [hrunning] at hstopped
  · rintro ⟨v, hv, event, hevent, hbuild⟩
    obtain rfl : w = v := Option.some.inj (hw.symm.trans hv)
    simp [hevents event hevent] at hbuild

theorem loaded_modules_are_current_reloads : ∃ past x found, Run attended past x ∧
    attended.modules = {} ∧ (∀ moment ∈ past, moment.1.Respects soloOutput moment.2) ∧
    ¬ x.shared.HasWritten soloOutput ∧
    ((∀ moment ∈ past, moment.1.Tells 0 soloOutput moment.2) ∧ ¬ x.shared.IsStopped 0) ∧
    (attended.shared.Alone ⟨1, 0⟩ ∧ ∀ y move, (y, .shared move) ∈ past → move.IsFor ⟨1, 0⟩) ∧
    ¬ x.shared.Awaits 0 soloOutput ∧
    x.modules.modules.get? soloOutput = some found ∧ found.code = "1" ∧
    FileStore.readText x.shared.build.store soloOutput = .ok found.code ∧
    found.digest = Digest.ofText found.code := by
  have hreplay : (attended.replay? reloads).any (fun found =>
      found.1.all (fun moment => moment.1.isSpared moment.2) && isReloaded found.2) = true := by
    decide +kernel
  obtain ⟨⟨past, x⟩, hpast, hcheck⟩ := (Option.any_eq_true _ _).1 hreplay
  obtain ⟨hspared, hreloaded⟩ := Bool.and_eq_true_iff.1 hcheck
  have hrun : Run attended past x := Run.start.replay hpast
  have halone : attended.shared.Alone ⟨1, 0⟩ :=
    SharedBuild.alone_watch _ _ _ _ 50 ["a.js"] rfl
  have hmoves : ∀ y move, (y, .shared move) ∈ past → move.IsFor ⟨1, 0⟩ := fun y move hmoment =>
    (spares_of_isSpared (List.all_eq_true.1 hspared _ hmoment)).1
  have hrespects : ∀ moment ∈ past, moment.1.Respects soloOutput moment.2 := by
    rintro ⟨y, move⟩ hmoment
    refine respects_of_spares ((hrun.alone halone hmoves).2 _ hmoment).lawful.sent ?_
    rintro own rfl
    exact (spares_of_isSpared (a := ⟨1, 0⟩) (List.all_eq_true.1 hspared _ hmoment)).2
  obtain ⟨hwritten, hrunning, hevents, found, hfound, hcode⟩ := isReloaded_iff hreloaded
  obtain ⟨-, hcurrent⟩ := loaded_modules_are_current hrun rfl hrespects hwritten
  exact ⟨past, x, found, hrun, rfl, hrespects, hwritten, ⟨hrun.tells halone hmoves, hrunning⟩,
    ⟨halone, hmoves⟩, hevents, hfound, hcode, hcurrent ⟨1, 0⟩ halone hmoves hevents found hfound⟩

/-- Until the session has taken in that the output was built again, its module is out of date. -/
example : (attended.replay? (reloads.take 25)).any (fun found =>
    (found.2.modules.modules.get? soloOutput).any (fun found => decide (found.code = "0")) &&
      decide (FileStore.readText found.2.shared.build.store soloOutput = .ok "1")) = true := by
  decide +kernel

end Reload

end ModuleHost

end LiveBuild
