import LiveBuild.Files.Disk
import LiveBuild.Proofs.Totals

/-!
# Totals that fall short

A build that fails before its imports are built has nothing to hand on. But the output is written
after that, and a build that cannot write it drops what its imports have counted. So a call returns
less than was built for it, by what was held by the builds whose output could not be written.
-/

namespace LiveBuild.BuildSession

section Shortfall

variable {σ : Type} [FileStore σ] {store : σ} {options : BuildOptions}
  {sourceTransform : SourceTransform} {past : History σ} {t : BuildSession σ} {call total : Nat}

/-- What was held by the builds of a call whose output could not be written. -/
def lostFor (past : History σ) (call : Nat) : List Nat :=
  ofCalls (fun other => other == call) (lost past)

theorem mem_lostFor {locals : Nat} : locals ∈ lostFor past call ↔
    ∃ moment ∈ past, ∃ task job code f, HasTurn moment task ∧ task.call = call ∧
      task.stage = .write job code locals ∧
      (FileStore.write moment.1.store job.dest code.toUTF8).2 = .error f := by
  simp only [lostFor, mem_ofCalls, lost, mem_noted, lost?_eq_some, beq_iff_eq]
  constructor
  · rintro ⟨_, ⟨moment, hmoment, task, hturn, rfl, job, code, f, hstage, hwrite⟩, rfl⟩
    exact ⟨moment, hmoment, task, job, code, f, hturn, rfl, hstage, hwrite⟩
  · rintro ⟨moment, hmoment, task, job, code, f, hturn, hcall, hstage, hwrite⟩
    exact ⟨call, ⟨moment, hmoment, task, hturn, hcall, job, code, f, hstage, hwrite⟩, rfl⟩

/-- **A total falls short by what was lost.** Whatever calls are made on a session, whatever becomes
of its files and whichever builds fail: what a call returns and what was held by its builds that
could not write their output make up the targets that were built for it and the assets that it has
put out. So the total is right exactly if those builds held nothing; a build that fails before its
imports are built takes nothing away. -/
theorem total_falls_short
    (hrun : Runs (BuildSession.start store options sourceTransform) past t)
    (hreturned : (⟨call, some total⟩ : Outcome) ∈ outcomes past t) :
    total + (lostFor past call).sum = (builtFor past call).length + (emittedFor past call).length ∧
    (total = (builtFor past call).length + (emittedFor past call).length ↔
      ∀ moment ∈ past, ∀ task job code locals f, HasTurn moment task → task.call = call →
        task.stage = .write job code locals →
        (FileStore.write moment.1.store job.dest code.toUTF8).2 = .error f → locals = 0) ∧
    ((builtFor past call).Pairwise fun p q => p.components ≠ q.components) ∧
    ∀ d, (∃ other ∈ builtFor past call, other.components = d.components) ↔
      Accomplished past call d := by
  have hsum : total + (lostFor past call).sum =
      (builtFor past call).length + (emittedFor past call).length := by
    rw [builtFor, List.length_map]
    exact hrun.total_add_lost hreturned
  have hright : total = (builtFor past call).length + (emittedFor past call).length ↔
      ∀ locals ∈ lostFor past call, locals = 0 := by
    rw [← hsum, ← List.sum_eq_zero_iff_forall_eq_nat]
    omega
  refine ⟨hsum, hright.trans ?_, hrun.pairwise_builtFor call, fun d => hrun.mem_builtFor_iff⟩
  constructor
  · intro hzero moment hmoment task job code locals f hturn hcall hstage hwrite
    exact hzero locals
      (mem_lostFor.2 ⟨moment, hmoment, task, job, code, f, hturn, hcall, hstage, hwrite⟩)
  · intro hzero locals hlocals
    obtain ⟨moment, hmoment, task, job, code, f, hturn, hcall, hstage, hwrite⟩ :=
      mem_lostFor.1 hlocals
    exact hzero moment hmoment task job code locals f hturn hcall hstage hwrite

end Shortfall

/-! ### An output that is taken by a directory -/

section Blocked

/-- A file imports another one, and a directory has the place of its output. -/
def blockedDisk : Disk :=
  { entries := [(["p"], .directory), (["p", "a.js"], .file "import './b'".toUTF8),
      (["p", "b.js"], .file "b".toUTF8), (["p", "out"], .directory),
      (["p", "out", "a.js"], .directory)] }

def blockedSession : BuildSession Disk :=
  start blockedDisk
    { baseDir := "/p", outDir := "/p/out", extensions := [".js"], resolveExtensions := [".js"],
      exclude := [], assets := ⟨[], [], "", ""⟩, extra := {} } .scan

def blockedMoves : List (Move Disk) :=
  Move.call ⟨1, 0⟩ (.compile ["a.js"]) :: List.replicate 5 (Move.step 0) ++
    List.replicate 7 (Move.step 1) ++ List.replicate 4 (Move.step 0) ++ [Move.collect]

def isBlocked (past : History Disk) (t : BuildSession Disk) : Bool :=
  decide (outcomes past t = [⟨0, some 0⟩]) && decide (lostFor past 0 = [1]) &&
    decide (builtFor past 0 = ["/p/out/b.js"]) && decide (emittedFor past 0 = []) &&
    t.store.entries.any (fun entry => entry.1 == ["p", "out", "b.js"])

theorem exists_blocked : ∃ past t, blockedSession.replay? blockedMoves = some (past, t) ∧
    Runs blockedSession past t ∧ outcomes past t = [⟨0, some 0⟩] ∧ lostFor past 0 = [1] ∧
    builtFor past 0 = ["/p/out/b.js"] ∧ emittedFor past 0 = [] ∧
    t.store.entries.any (fun entry => entry.1 == ["p", "out", "b.js"]) = true := by
  have hblocked : (blockedSession.replay? blockedMoves).any
      (fun found => isBlocked found.1 found.2) = true := by
    decide +kernel
  obtain ⟨⟨past, t⟩, hreplay, hcheck⟩ := (Option.any_eq_true _ _).1 hblocked
  have hreplay : blockedSession.replay? blockedMoves = some (past, t) := hreplay
  simp only [isBlocked, Bool.and_eq_true, decide_eq_true_eq, and_assoc] at hcheck
  exact ⟨past, t, hreplay, Runs.start.replay hreplay, hcheck⟩

theorem total_falls_short_blocked : ∃ past t, Runs blockedSession past t ∧
    (⟨0, some 0⟩ : Outcome) ∈ outcomes past t ∧
    0 + 1 = (builtFor past 0).length + (emittedFor past 0).length ∧
    Accomplished past 0 "/p/out/b.js" := by
  obtain ⟨past, t, -, hrun, houtcomes, hlost, hbuilt, -⟩ := exists_blocked
  have hreturned : (⟨0, some 0⟩ : Outcome) ∈ outcomes past t := by simp [houtcomes]
  obtain ⟨hsum, -, -, haccomplished⟩ := total_falls_short hrun hreturned
  rw [hlost] at hsum
  exact ⟨past, t, hrun, hreturned, hsum, (haccomplished _).1 ⟨_, by simp [hbuilt], rfl⟩⟩

/-- The import is built and its output is there, but the only request for it returns zero. -/
theorem not_counted_blocked : ∃ past t, blockedSession.replay? blockedMoves = some (past, t) ∧
    Runs blockedSession past t ∧ outcomes past t = [⟨0, some 0⟩] ∧
    builtFor past 0 = ["/p/out/b.js"] ∧
    t.store.entries.any (fun entry => entry.1 == ["p", "out", "b.js"]) = true ∧
    ¬ ∀ total, (⟨0, some total⟩ : Outcome) ∈ outcomes past t →
      total = (builtFor past 0).length + (emittedFor past 0).length := by
  obtain ⟨past, t, hreplay, hrun, houtcomes, -, hbuilt, hemitted, houtput⟩ := exists_blocked
  refine ⟨past, t, hreplay, hrun, houtcomes, hbuilt, houtput, fun hall => ?_⟩
  have hzero := hall 0 (by simp [houtcomes])
  simp [hbuilt, hemitted] at hzero

end Blocked

end LiveBuild.BuildSession
