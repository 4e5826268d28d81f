import LiveBuild.Build.Task
import LiveBuild.Worker.Requester
import Mathlib.Tactic.Common

/-!
# What a requester reports

A requester hears of a request whatever is told under its number, and takes it in until it is told
that the request is built. What is told to other requests makes no difference to a report, and what
comes later is not part of it.
-/

namespace LiveBuild

def BuildEvent.isFileBuilt : BuildEvent → Bool
  | .fileBuilt .. => true
  | _ => false

def BuildEvent.isError : BuildEvent → Bool
  | .error .. => true
  | _ => false

def BuildEvent.isBuilt : BuildEvent → Bool
  | .built _ => true
  | _ => false

/-- Take in events until one is the last. -/
def BuildSummary.complete? (summary : BuildSummary) : List BuildEvent → Option BuildSummary
  | [] => none
  | event :: rest =>
      match summary.add event with
      | (summary, true) => some summary
      | (summary, false) => summary.complete? rest

theorem BuildSummary.complete?_append (summary : BuildSummary) (total : Nat)
    {before : List BuildEvent} (h : ∀ event ∈ before, event.isBuilt = false)
    (after : List BuildEvent) :
    summary.complete? (before ++ .built total :: after) =
      some ⟨total, summary.built ++ before.filter BuildEvent.isFileBuilt,
        summary.errors ++ before.filter BuildEvent.isError⟩ := by
  induction before generalizing summary with
  | nil => simp [complete?, add]
  | cons event rest ih =>
      obtain ⟨hevent, hrest⟩ := List.forall_mem_cons.1 h
      cases event with
      | fileBuilt source dest localDeps parents =>
          simp [complete?, add, ih _ hrest, BuildEvent.isFileBuilt, BuildEvent.isError,
            List.filter_cons]
      | error source? message stack =>
          simp [complete?, add, ih _ hrest, BuildEvent.isFileBuilt, BuildEvent.isError,
            List.filter_cons]
      | built total => contradiction

/-- What was told to a request. -/
def heard (id : Nat) (told : List (Addressee × BuildEvent)) : List BuildEvent :=
  (told.filter fun message => message.1.id == id).map (·.2)

theorem heard_append (id : Nat) (told later : List (Addressee × BuildEvent)) :
    heard id (told ++ later) = heard id told ++ heard id later := by
  simp [heard]

theorem mem_heard {id : Nat} {told : List (Addressee × BuildEvent)} {event : BuildEvent} :
    event ∈ heard id told ↔ ∃ message ∈ told, message.1.id = id ∧ message.2 = event := by
  simp only [heard, List.mem_map, List.mem_filter, beq_iff_eq, and_assoc]

namespace Requester

variable {r : Requester} {id other : Nat} {listener : Listener}

/-- The report that a requester gives for a request while messages arrive. -/
def report? (r : Requester) (id : Nat) : List (Addressee × BuildEvent) → Option BuildSummary
  | [] => none
  | message :: rest =>
      match r.deliver ⟨message.1.id, message.2⟩ with
      | (r, some (done, report)) => if done = id then some report else r.report? id rest
      | (r, none) => r.report? id rest

theorem listener?_setListener (h : r.listener? id = some listener) (other : Listener) :
    (r.setListener id other).listener? id = some other := by
  obtain ⟨route, hroute, -⟩ := Option.map_eq_some_iff.1 h
  have hid : route.1 = id := by simpa using List.find?_some hroute
  rw [listener?, setListener, List.find?_map]
  have hsame : ((fun route : Nat × Listener => route.1 == id) ∘ fun route : Nat × Listener =>
      if route.1 == id then (id, other) else route) = fun route => route.1 == id := by
    funext route
    by_cases hroute : route.1 = id <;> simp [hroute]
  rw [hsame, hroute]
  simp [hid]

theorem listener?_setListener_of_ne (h : other ≠ id) (listener : Listener) :
    (r.setListener other listener).listener? id = r.listener? id := by
  rw [listener?, listener?, setListener, List.find?_map]
  have hsame : ((fun route : Nat × Listener => route.1 == id) ∘ fun route : Nat × Listener =>
      if route.1 == other then (other, listener) else route) = fun route => route.1 == id := by
    funext route
    by_cases hroute : route.1 = other <;> simp [hroute]
  rw [hsame]
  cases hfound : r.routes.find? fun route => route.1 == id with
  | none => rfl
  | some route =>
      have hid : route.1 = id := by simpa using List.find?_some hfound
      simp [hid, h.symm]

theorem listener?_forget_of_ne (h : other ≠ id) :
    (r.forget other).listener? id = r.listener? id := by
  rw [listener?, listener?, forget, List.find?_filter]
  congr 2
  funext route
  by_cases hroute : route.1 = id <;> simp [hroute, h.symm]

/-- Responses to other requests leave the listener of a request as it is. -/
theorem deliver_of_ne (h : other ≠ id) (event : BuildEvent) :
    (r.deliver ⟨other, event⟩).1.listener? id = r.listener? id ∧
      ∀ done report, (r.deliver ⟨other, event⟩).2 = some (done, report) → done = other := by
  rw [deliver]
  split
  · exact ⟨rfl, by simp⟩
  · split
    · exact ⟨listener?_setListener_of_ne h _, by simp⟩
    · exact ⟨listener?_forget_of_ne h, by simp⟩
  · dsimp only
    split
    · refine ⟨listener?_forget_of_ne h, fun done report hdone => ?_⟩
      exact (Prod.mk.inj (Option.some.inj hdone)).1.symm
    · exact ⟨listener?_setListener_of_ne h _, by simp⟩

/-- The report of a request depends on what it hears only. -/
theorem report?_eq {summary : BuildSummary} (h : r.listener? id = some (.report summary))
    (told : List (Addressee × BuildEvent)) :
    r.report? id told = summary.complete? (heard id told) := by
  induction told generalizing r summary with
  | nil => rfl
  | cons message rest ih =>
      rw [report?]
      by_cases hid : message.1.id = id
      · have hheard : heard id (message :: rest) = message.2 :: heard id rest := by
          simp [heard, hid]
        rw [hheard, BuildSummary.complete?, deliver, hid, h]
        dsimp only
        cases hadd : summary.add message.2 with
        | mk next isComplete =>
            cases isComplete with
            | true => simp
            | false => simpa using ih (listener?_setListener h _)
      · have hheard : heard id (message :: rest) = heard id rest := by
          simp [heard, hid]
        obtain ⟨hlistener, hdone⟩ := deliver_of_ne (r := r) hid message.2
        rw [hheard]
        split
        · rename_i next done report hdeliver
          rw [hdeliver] at hlistener hdone
          rw [if_neg, ih (hlistener.trans h)]
          rw [hdone done report rfl]
          exact hid
        · rename_i next hdeliver
          rw [hdeliver] at hlistener
          exact ih (hlistener.trans h)

end Requester

end LiveBuild
