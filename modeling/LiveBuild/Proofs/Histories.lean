import LiveBuild.Proofs.TaskTree

/-!
# Histories of a session

Calls are made on a session, its tasks go on one step at a time, its files change, and what has
returned is collected, in any order. A history lists what happened, each time with the session that
it happened to.
-/

namespace LiveBuild.BuildSession

inductive Move (σ : Type) where
  | call (addressee : Addressee) (request : Request)
  /-- A task goes on. -/
  | step (id : Nat)
  /-- Somebody else changes the files. -/
  | edit (store : σ)
  | collect

abbrev History (σ : Type) := List (BuildSession σ × Move σ)

variable {σ : Type} {first s t : BuildSession σ} {past earlier later : History σ}
  {moment : BuildSession σ × Move σ} {move : Move σ} {task u : BuildTask} {id : Nat}

/-- A task goes on in some moment of a history. -/
def HasTurn (moment : BuildSession σ × Move σ) (task : BuildTask) : Prop :=
  moment.2 = .step task.id ∧ moment.1.task? task.id = some task

theorem HasTurn.task?_eq (h : HasTurn (s, .step id) task) : s.task? id = some task := by
  obtain ⟨hmove, htask⟩ := h
  obtain rfl := Move.step.inj hmove
  exact htask

theorem hasTurn_of_task? (h : s.task? id = some task) : HasTurn (s, .step id) task := by
  obtain ⟨-, rfl⟩ := mem_of_task? h
  exact ⟨rfl, h⟩

theorem HasTurn.unique (h : HasTurn moment task) (h' : HasTurn moment u) : task = u := by
  have hid := Move.step.inj (h.1.symm.trans h'.1)
  exact Option.some.inj (h.2.symm.trans (hid ▸ h'.2))

/-- Those for whom calls were made. -/
def requesters (past : History σ) : List Addressee :=
  past.filterMap fun moment =>
    match moment.2 with
    | .call addressee _ => some addressee
    | _ => none

theorem requesters_append (past later : History σ) :
    requesters (past ++ later) = requesters past ++ requesters later := List.filterMap_append

theorem mem_requesters_snoc {addressee : Addressee} (h : addressee ∈ requesters past)
    (moment : BuildSession σ × Move σ) : addressee ∈ requesters (past ++ [moment]) := by
  rw [requesters_append]
  exact List.mem_append_left _ h

/-- A moment of a history with one more at its end is that one, or was there before it. -/
theorem snoc_cases {α : Type} {past earlier later : List α} {last moment : α}
    (h : past ++ [last] = earlier ++ moment :: later) :
    (past = earlier ∧ last = moment ∧ later = []) ∨
      ∃ rest, later = rest ++ [last] ∧ past = earlier ++ moment :: rest := by
  rcases List.eq_nil_or_concat later with rfl | ⟨rest, other, rfl⟩
  · obtain ⟨rfl, hlast⟩ := List.append_inj' h rfl
    exact .inl ⟨rfl, List.singleton_inj.1 hlast, rfl⟩
  · rw [List.concat_eq_append, ← List.cons_append, ← List.append_assoc] at h
    obtain ⟨rfl, hlast⟩ := List.append_inj' h rfl
    exact .inr ⟨rest, by rw [List.singleton_inj.1 hlast, List.concat_eq_append], rfl⟩

variable [FileStore σ]

def make? (s : BuildSession σ) : Move σ → Option (BuildSession σ)
  | .call addressee request => some (s.call addressee request).1
  | .step id => s.step? id
  | .edit store => some { s with store }
  | .collect => some s.collect.1

/-- A history leads from one session to another. -/
inductive Runs (first : BuildSession σ) : History σ → BuildSession σ → Prop
  | start : Runs first [] first
  | next {past : History σ} {s t : BuildSession σ} {move : Move σ} : Runs first past s →
      s.make? move = some t → Runs first (past ++ [(s, move)]) t

/-- Make some moves, if each can be made when it is its turn. -/
def replay? (s : BuildSession σ) : List (Move σ) → Option (History σ × BuildSession σ)
  | [] => some ([], s)
  | move :: moves =>
      match s.make? move with
      | none => none
      | some t => (replay? t moves).map fun found => ((s, move) :: found.1, found.2)

theorem exists_cons_of_replay? {moves : List (Move σ)}
    (h : s.replay? (move :: moves) = some (later, t)) : ∃ rest, later = (s, move) :: rest := by
  rw [replay?] at h
  cases hnext : s.make? move with
  | none => simp [hnext] at h
  | some x =>
      rw [hnext] at h
      obtain ⟨found, -, hfound⟩ := Option.map_eq_some_iff.1 h
      exact ⟨found.1, (Prod.mk.inj hfound).1.symm⟩

namespace Runs

/-- A history can be cut at any place. -/
theorem split (h : Runs first past t) (hpast : past = earlier ++ later) :
    ∃ s, Runs first earlier s ∧ Runs s later t := by
  induction h generalizing later with
  | start =>
      obtain ⟨rfl, rfl⟩ := List.append_eq_nil_iff.1 hpast.symm
      exact ⟨first, .start, .start⟩
  | @next past s t move hrun hnext ih =>
      rcases List.eq_nil_or_concat later with rfl | ⟨later, last, rfl⟩
      · rw [List.append_nil] at hpast
        exact ⟨t, hpast ▸ hrun.next hnext, .start⟩
      · rw [List.concat_eq_append, ← List.append_assoc] at hpast
        obtain ⟨hpast, hlast⟩ := List.append_inj' hpast rfl
        obtain ⟨x, hearlier, hlater⟩ := ih hpast
        rw [← List.singleton_inj.1 hlast, List.concat_eq_append]
        exact ⟨x, hearlier, hlater.next hnext⟩

theorem cons_inv (h : Runs first (moment :: later) t) :
    moment.1 = first ∧ ∃ s, first.make? moment.2 = some s ∧ Runs s later t := by
  obtain ⟨s, hone, hlater⟩ := h.split List.singleton_append.symm
  generalize hpast : [moment] = past at hone
  cases hone with
  | start => contradiction
  | @next past x y move hrun hnext =>
      rw [← List.nil_append [moment]] at hpast
      obtain ⟨rfl, hmoment⟩ := List.append_inj' hpast rfl
      obtain rfl := List.singleton_inj.1 hmoment
      generalize hnil : ([] : History σ) = past at hrun
      cases hrun with
      | start => exact ⟨rfl, s, hnext, hlater⟩
      | next => simp at hnil

/-- A moment of a history was made of the session that the moments before it lead to. -/
theorem at_moment (h : Runs first past t)
    (hpast : past = earlier ++ moment :: later) :
    Runs first earlier moment.1 ∧ ∃ s, moment.1.make? moment.2 = some s ∧ Runs s later t := by
  obtain ⟨x, hearlier, hlater⟩ := h.split hpast
  obtain ⟨rfl, hnext⟩ := hlater.cons_inv
  exact ⟨hearlier, hnext⟩

theorem replay {moves : List (Move σ)} (h : Runs first past s)
    (hreplay : s.replay? moves = some (later, t)) : Runs first (past ++ later) t := by
  induction moves generalizing past s later with
  | nil =>
      obtain ⟨rfl, rfl⟩ := Prod.mk.inj (Option.some.inj hreplay)
      rwa [List.append_nil]
  | cons move moves ih =>
      rw [replay?] at hreplay
      cases hnext : s.make? move with
      | none => simp [hnext] at hreplay
      | some x =>
          rw [hnext] at hreplay
          obtain ⟨⟨rest, last⟩, hfound, heq⟩ := Option.map_eq_some_iff.1 hreplay
          obtain ⟨rfl, rfl⟩ := Prod.mk.inj heq
          have hlater := ih (h.next hnext) hfound
          rwa [List.append_assoc] at hlater

end Runs

end LiveBuild.BuildSession
