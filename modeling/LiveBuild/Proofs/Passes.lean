import LiveBuild.Pages.History
import Mathlib.Data.List.Induction
import Mathlib.Tactic.Common

/-!
# Refused passes are invisible

A pass with errors is refused, and the history goes on as if it had never been offered: the good
passes get the answers that they get on their own, each compared with the good pass before it, and
the history keeps the pages of the last two of them.
-/

namespace LiveBuild

def PassReport.isGood (pass : PassReport) : Bool := pass.errors.isEmpty

namespace PassHistory

abbrev Answer := Except BuildError (Option PageChanges)

/-- Take passes in one after the other, and answer each. -/
def advanceAll (h : PassHistory) (isPage : String → Bool) :
    List PassReport → PassHistory × List Answer
  | [] => (h, [])
  | pass :: rest =>
      let (h, answer) := h.advance isPage pass
      let (h, answers) := h.advanceAll isPage rest
      (h, answer :: answers)

/-- A new history after some passes, and what was answered to each. -/
def record (isPage : String → Bool) (passes : List PassReport) : PassHistory × List Answer :=
  ({} : PassHistory).advanceAll isPage passes

/-- What is answered to the passes that are good. -/
def goodAnswers (passes : List PassReport) (answers : List Answer) : List Answer :=
  ((passes.zip answers).filter fun entry => entry.1.isGood).map (·.2)

/-- The pages after each of the passes that are good. -/
def goodStates (isPage : String → Bool) (passes : List PassReport) : List PageState :=
  (passes.filter (·.isGood)).map (·.pageState isPage)

variable {h : PassHistory} {isPage : String → Bool} {pass : PassReport} {passes : List PassReport}

theorem advance_of_not_isGood (hpass : pass.isGood = false) :
    h.advance isPage pass = (h, .error (.aborted pass.errors)) := by
  rw [PassReport.isGood] at hpass
  simp [advance, hpass]

theorem advance_of_isGood (hpass : pass.isGood = true) :
    h.advance isPage pass = (⟨h.current, some (pass.pageState isPage)⟩,
      .ok (PageState.changesSince? h.current (pass.pageState isPage))) := by
  rw [PassReport.isGood] at hpass
  simp [advance, hpass]

theorem advanceAll_cons (h : PassHistory) (isPage : String → Bool) (pass : PassReport)
    (rest : List PassReport) :
    h.advanceAll isPage (pass :: rest) =
      (((h.advance isPage pass).1.advanceAll isPage rest).1,
        (h.advance isPage pass).2 :: ((h.advance isPage pass).1.advanceAll isPage rest).2) := rfl

/-- Refused passes leave no trace in the history, nor in what is answered to the others. -/
theorem advanceAll_filter (h : PassHistory) (isPage : String → Bool) (passes : List PassReport) :
    h.advanceAll isPage (passes.filter (·.isGood)) =
      ((h.advanceAll isPage passes).1, goodAnswers passes (h.advanceAll isPage passes).2) := by
  induction passes generalizing h with
  | nil => rfl
  | cons pass rest ih =>
      cases hpass : pass.isGood with
      | false =>
          rw [List.filter_cons_of_neg (by simp [hpass]), ih, advanceAll_cons,
            advance_of_not_isGood hpass]
          simp [goodAnswers, hpass]
      | true =>
          rw [List.filter_cons_of_pos hpass, advanceAll_cons, advanceAll_cons, ih]
          simp [goodAnswers, hpass]

theorem advanceAll_append (h : PassHistory) (isPage : String → Bool)
    (before after : List PassReport) :
    h.advanceAll isPage (before ++ after) =
      (((h.advanceAll isPage before).1.advanceAll isPage after).1,
        (h.advanceAll isPage before).2 ++
          ((h.advanceAll isPage before).1.advanceAll isPage after).2) := by
  induction before generalizing h with
  | nil => rfl
  | cons pass rest ih => simp only [List.cons_append, advanceAll_cons, ih]

/-- A refused pass is told its own errors, whatever else is taken in. -/
theorem answer_of_not_isGood {k : Nat} (hk : passes[k]? = some pass)
    (hpass : pass.isGood = false) :
    (h.advanceAll isPage passes).2[k]? = some (.error (.aborted pass.errors)) := by
  induction passes generalizing h k with
  | nil => simp at hk
  | cons first rest ih =>
      cases k with
      | zero =>
          obtain rfl := Option.some.inj hk
          rw [advanceAll_cons, advance_of_not_isGood hpass]
          rfl
      | succ k => exact ih hk

/-- A refused pass leaves the history as the passes before it have left it. -/
theorem history_of_not_isGood {k : Nat} (hk : passes[k]? = some pass)
    (hpass : pass.isGood = false) :
    (h.advanceAll isPage (passes.take (k + 1))).1 = (h.advanceAll isPage (passes.take k)).1 := by
  rw [List.take_add_one, hk, Option.toList_some, advanceAll_append, advanceAll_cons,
    advance_of_not_isGood hpass]
  rfl

section Good

variable (hgood : ∀ pass ∈ passes, pass.isGood = true)

include hgood

/-- Each good pass is compared with the one before it, the first with what the history held. -/
theorem answer_of_isGood (k : Nat) :
    (h.advanceAll isPage passes).2[k]? = (passes.map (·.pageState isPage))[k]?.map fun state =>
      .ok (PageState.changesSince?
        ((h.current :: passes.map fun pass => some (pass.pageState isPage))[k]?.getD none)
        state) := by
  induction passes generalizing h k with
  | nil => rfl
  | cons pass rest ih =>
      obtain ⟨hpass, hrest⟩ := List.forall_mem_cons.1 hgood
      rw [advanceAll_cons, advance_of_isGood hpass]
      cases k with
      | zero => rfl
      | succ k => exact ih hrest k

theorem history_of_isGood :
    (record isPage passes).1 =
      ⟨(passes.map (·.pageState isPage)).reverse[1]?,
        (passes.map (·.pageState isPage)).reverse[0]?⟩ := by
  induction passes using List.reverseRecOn with
  | nil => rfl
  | append_singleton passes pass ih =>
      obtain ⟨hpasses, hpass⟩ := List.forall_mem_append.1 hgood
      rw [record, advanceAll_append, ← record, ih hpasses, advanceAll_cons,
        advance_of_isGood (hpass pass List.mem_cons_self)]
      simp [advanceAll]

end Good

/-- **Refused passes are invisible.** Of the passes that a new history is given, those with errors
are told their errors and leave the history as it was. The others get the answers, and leave the
history, that they get and leave on their own: no changes for the first, for every other one what it
changed since the good pass before it; and the history holds the pages after the last good pass and
after the last but one. -/
theorem refused_passes_invisible (isPage : String → Bool) (passes : List PassReport) :
    (∀ (k : Nat) (pass : PassReport), passes[k]? = some pass → pass.errors ≠ [] →
      (record isPage passes).2[k]? = some (.error (.aborted pass.errors)) ∧
      (record isPage (passes.take (k + 1))).1 =
        (record isPage (passes.take k)).1) ∧
    record isPage (passes.filter (·.isGood)) =
      ((record isPage passes).1,
        goodAnswers passes (record isPage passes).2) ∧
    (goodAnswers passes (record isPage passes).2)[0]? =
      (goodStates isPage passes)[0]?.map (fun _ => .ok none) ∧
    (∀ k : Nat, (goodAnswers passes (record isPage passes).2)[k + 1]? =
      (goodStates isPage passes)[k + 1]?.map fun state =>
        .ok ((goodStates isPage passes)[k]?.map fun before => before.changes state)) ∧
    (record isPage passes).1 =
      ⟨(goodStates isPage passes).reverse[1]?, (goodStates isPage passes).reverse[0]?⟩ := by
  have hgood : ∀ pass ∈ passes.filter (·.isGood), pass.isGood = true :=
    fun pass hpass => (List.mem_filter.1 hpass).2
  have halone : record isPage (passes.filter (·.isGood)) =
      ((record isPage passes).1, goodAnswers passes (record isPage passes).2) :=
    advanceAll_filter {} isPage passes
  have hanswer : ∀ k : Nat,
      (goodAnswers passes (record isPage passes).2)[k]? =
        (goodStates isPage passes)[k]?.map fun state => .ok (PageState.changesSince?
          (((none : Option PageState) :: (goodStates isPage passes).map some)[k]?.getD none)
          state) := by
    intro k
    have hk : (advanceAll {} isPage (passes.filter (·.isGood))).2[k]? = _ :=
      answer_of_isGood hgood k
    rw [← record, halone] at hk
    rw [hk, goodStates, List.map_map]
    rfl
  refine ⟨fun k pass hk herrors => ?_, halone, ?_, fun k => ?_, ?_⟩
  · have hpass : pass.isGood = false := by simpa [PassReport.isGood] using herrors
    exact ⟨answer_of_not_isGood hk hpass, history_of_not_isGood hk hpass⟩
  · exact hanswer 0
  · rw [hanswer, List.getElem?_cons_succ, List.getElem?_map]
    cases hstate : (goodStates isPage passes)[k + 1]? with
    | none => rfl
    | some state =>
        obtain ⟨before, hbefore⟩ : ∃ before, (goodStates isPage passes)[k]? = some before := by
          obtain ⟨hlt, -⟩ := List.getElem?_eq_some_iff.1 hstate
          exact ⟨_, List.getElem?_eq_getElem (Nat.lt_of_succ_lt hlt)⟩
        simp [hbefore, PageState.changesSince?]
  · rw [goodStates, ← history_of_isGood hgood, halone]

/-- Good passes with refused ones before, between and after them. -/
def interleaved : List PassReport :=
  [{ errors := ["syntax"] }, { chunks := ⟨[("a", "1")]⟩ }, { errors := ["syntax", "types"] },
    { chunks := ⟨[("a", "2")]⟩, errors := ["types"] }, { chunks := ⟨[("a", "3"), ("b", "1")]⟩ },
    { errors := ["disk"] }]

theorem refused_passes_invisible_interleaved :
    interleaved[3]? = some { chunks := ⟨[("a", "2")]⟩, errors := ["types"] } ∧
    (record (fun _ => true) interleaved).2[3]? = some (.error (.aborted ["types"])) ∧
    (record (fun _ => true) (interleaved.take 4)).1 =
      (record (fun _ => true) (interleaved.take 3)).1 ∧
    (goodAnswers interleaved (record (fun _ => true) interleaved).2)[1]? =
      some (.ok (some { added := ⟨["b"]⟩, rehashed := ⟨["a"]⟩ })) := by
  obtain ⟨hrefused, -, -, hgood, -⟩ := refused_passes_invisible (fun _ => true) interleaved
  obtain ⟨hanswer, hhistory⟩ :=
    hrefused 3 { chunks := ⟨[("a", "2")]⟩, errors := ["types"] } rfl (by decide)
  exact ⟨rfl, hanswer, hhistory, (hgood 0).trans rfl⟩

end PassHistory

end LiveBuild
