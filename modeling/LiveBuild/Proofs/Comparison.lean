import LiveBuild.Pages.Changes
import LiveBuild.Proofs.TextTables

/-!
# A comparison accounts for every chunk

The digests of a chunk before and after, and whether it failed, decide which sets name it. Nothing
keeps a chunk that is gone from having failed, or one that failed from being there with a new
digest: the sets are told apart in every combination, and what is in none of them is as it was.
-/

namespace LiveBuild

/-- No name is in both. -/
def TextSet.Disjoint (s t : TextSet) : Prop :=
  ∀ name, s.contains name = true → t.contains name = false

/-- Some set names the chunk. -/
def PageChanges.Names (c : PageChanges) (name : String) : Prop :=
  c.added.contains name = true ∨ c.removed.contains name = true ∨ c.failed.contains name = true ∨
    c.recovered.contains name = true ∨ c.rehashed.contains name = true

theorem PageChanges.isEmpty_iff (c : PageChanges) :
    c.isEmpty = true ↔ ∀ name, ¬ c.Names name := by
  simp only [isEmpty, Bool.and_eq_true, TextSet.isEmpty_iff, Names, not_or, Bool.not_eq_true]
  constructor
  · rintro ⟨⟨⟨⟨hadded, hremoved⟩, hfailed⟩, hrecovered⟩, hrehashed⟩ name
    exact ⟨hadded name, hremoved name, hfailed name, hrecovered name, hrehashed name⟩
  · intro h
    exact ⟨⟨⟨⟨fun name => (h name).1, fun name => (h name).2.1⟩, fun name => (h name).2.2.1⟩,
      fun name => (h name).2.2.2.1⟩, fun name => (h name).2.2.2.2⟩

namespace PageState

variable {previous current : PageState} {name : String}

theorem contains_added : (previous.changes current).added.contains name = true ↔
    previous.hashes.get? name = none ∧ ∃ new, current.hashes.get? name = some new := by
  rw [changes, TextSet.contains_iff, List.mem_filter, ← TextTable.contains_iff,
    TextTable.contains_iff_exists, Bool.not_eq_true', TextTable.contains_eq_false_iff, and_comm]

theorem contains_removed : (previous.changes current).removed.contains name = true ↔
    (∃ old, previous.hashes.get? name = some old) ∧ current.hashes.get? name = none := by
  rw [changes, TextSet.contains_iff, List.mem_filter, ← TextTable.contains_iff,
    TextTable.contains_iff_exists, Bool.not_eq_true', TextTable.contains_eq_false_iff]

theorem contains_recovered : (previous.changes current).recovered.contains name = true ↔
    previous.failed.contains name = true ∧ current.failed.contains name = false := by
  rw [changes, TextSet.contains_difference, Bool.and_eq_true, Bool.not_eq_true']

theorem contains_rehashed (hcurrent : current.hashes.Ordered) :
    (previous.changes current).rehashed.contains name = true ↔
      (∃ old new, previous.hashes.get? name = some old ∧ current.hashes.get? name = some new ∧
        old ≠ new) ∧ current.failed.contains name = false := by
  rw [changes, TextSet.contains_iff, List.mem_map]
  constructor
  · rintro ⟨⟨key, new⟩, hentry, rfl⟩
    obtain ⟨hmem, htest⟩ := List.mem_filter.1 hentry
    rw [Bool.and_eq_true, Bool.not_eq_true', Option.any_eq_true] at htest
    obtain ⟨⟨old, hold, hne⟩, hfailed⟩ := htest
    have hnew := (TextTable.get?_eq_some_iff hcurrent).2 hmem
    exact ⟨⟨old, new, hold, hnew, bne_iff_ne.1 hne⟩, hfailed⟩
  · rintro ⟨⟨old, new, hold, hnew, hne⟩, hfailed⟩
    refine ⟨(name, new), List.mem_filter.2 ⟨(TextTable.get?_eq_some_iff hcurrent).1 hnew, ?_⟩, rfl⟩
    rw [Bool.and_eq_true, Bool.not_eq_true', Option.any_eq_true]
    exact ⟨⟨old, hold, bne_iff_ne.2 hne⟩, hfailed⟩

/-- A name is in none of the sets exactly if it kept its digest, or has none, and never failed. -/
theorem not_names_iff (hcurrent : current.hashes.Ordered) :
    ¬ (previous.changes current).Names name ↔
      previous.hashes.get? name = current.hashes.get? name ∧
        previous.failed.contains name = false ∧ current.failed.contains name = false := by
  have hfailed : (previous.changes current).failed = current.failed := rfl
  rw [PageChanges.Names, contains_added, contains_removed, hfailed, contains_recovered,
    contains_rehashed hcurrent]
  cases previous.hashes.get? name <;> cases current.hashes.get? name <;>
    cases previous.failed.contains name <;> cases current.failed.contains name <;> simp

end PageState

/-- What two passes have to say about each chunk, and what a set of changes says. -/
structure PageChanges.Accounts (c : PageChanges) (previous current : PageState) : Prop where
  /-- A chunk is left out exactly if nothing became of it. -/
  left_out : ∀ name, ¬ c.Names name ↔
    previous.hashes.get? name = current.hashes.get? name ∧
      previous.failed.contains name = false ∧ current.failed.contains name = false
  added_removed : c.added.Disjoint c.removed
  added_rehashed : c.added.Disjoint c.rehashed
  removed_rehashed : c.removed.Disjoint c.rehashed
  failed_recovered : c.failed.Disjoint c.recovered
  failed_rehashed : c.failed.Disjoint c.rehashed
  rehashed : ∀ name, c.rehashed.contains name = true → ∃ old new,
    previous.hashes.get? name = some old ∧ current.hashes.get? name = some new ∧ old ≠ new
  /-- A chunk that only the current pass has was added, and no other. -/
  appeared : ∀ name, c.added.contains name = true ↔
    previous.hashes.get? name = none ∧ ∃ new, current.hashes.get? name = some new
  /-- A chunk that only the previous pass has was removed, and no other. -/
  vanished : ∀ name, c.removed.contains name = true ↔
    (∃ old, previous.hashes.get? name = some old) ∧ current.hashes.get? name = none
  /-- A chunk that both passes have with different digests was rehashed, unless it failed. -/
  altered : ∀ name old new, previous.hashes.get? name = some old →
    current.hashes.get? name = some new → old ≠ new →
      c.rehashed.contains name = true ∨ c.failed.contains name = true
  empty_iff : c.isEmpty = true ↔ previous.hashes = current.hashes ∧
    previous.failed.isEmpty = true ∧ current.failed.isEmpty = true

namespace PageState

variable {previous current : PageState}

/-- Two passes can always be compared, and the comparison accounts for every chunk. -/
theorem changes_account_for_chunks (hprevious : previous.hashes.Ordered)
    (hcurrent : current.hashes.Ordered) :
    ∃ changes, changesSince? (some previous) current = some changes ∧
      changes.Accounts previous current := by
  refine ⟨previous.changes current, rfl, ?_⟩
  refine {
    left_out := fun name => not_names_iff hcurrent
    added_removed := fun name hadded => Bool.eq_false_iff.2 fun hremoved => ?_
    added_rehashed := fun name hadded => Bool.eq_false_iff.2 fun hrehashed => ?_
    removed_rehashed := fun name hremoved => Bool.eq_false_iff.2 fun hrehashed => ?_
    failed_recovered := fun name hfailed => Bool.eq_false_iff.2 fun hrecovered => ?_
    failed_rehashed := fun name hfailed => Bool.eq_false_iff.2 fun hrehashed => ?_
    rehashed := fun name hrehashed => ((contains_rehashed hcurrent).1 hrehashed).1
    appeared := fun name => contains_added
    vanished := fun name => contains_removed
    altered := fun name old new hold hnew hne => ?_
    empty_iff := ?_ }
  · obtain ⟨hnone, -⟩ := contains_added.1 hadded
    obtain ⟨⟨old, hold⟩, -⟩ := contains_removed.1 hremoved
    exact Option.some_ne_none old (hold.symm.trans hnone)
  · obtain ⟨hnone, -⟩ := contains_added.1 hadded
    obtain ⟨⟨old, -, hold, -⟩, -⟩ := (contains_rehashed hcurrent).1 hrehashed
    exact Option.some_ne_none old (hold.symm.trans hnone)
  · obtain ⟨-, hnone⟩ := contains_removed.1 hremoved
    obtain ⟨⟨-, new, -, hnew, -⟩, -⟩ := (contains_rehashed hcurrent).1 hrehashed
    exact Option.some_ne_none new (hnew.symm.trans hnone)
  · exact Bool.eq_false_iff.1 (contains_recovered.1 hrecovered).2 hfailed
  · exact Bool.eq_false_iff.1 ((contains_rehashed hcurrent).1 hrehashed).2 hfailed
  · cases hfailed : current.failed.contains name with
    | true => exact Or.inr hfailed
    | false => exact Or.inl ((contains_rehashed hcurrent).2 ⟨⟨old, new, hold, hnew, hne⟩, hfailed⟩)
  · rw [PageChanges.isEmpty_iff, TextSet.isEmpty_iff, TextSet.isEmpty_iff]
    constructor
    · intro hempty
      have hkept := fun name => (not_names_iff hcurrent).1 (hempty name)
      exact ⟨TextTable.eq_of_get? hprevious hcurrent fun name => (hkept name).1,
        fun name => (hkept name).2.1, fun name => (hkept name).2.2⟩
    · rintro ⟨heq, hbefore, hafter⟩ name
      exact (not_names_iff hcurrent).2 ⟨by rw [heq], hbefore name, hafter name⟩

section Transitions

/-- Chunks that are about to change, to fail, to go and to stay, and one that is not there and has
failed. -/
def beforeTransitions : PageState where
  hashes := .ofList [("changes", "1"), ("fails", "1"), ("goes", "1"), ("stays", "1")]
  failed := .ofList ["changes", "goes", "missing"]

def afterTransitions : PageState where
  hashes := .ofList [("changes", "2"), ("comes", "2"), ("fails", "2"), ("stays", "1")]
  failed := .ofList ["comes", "fails", "missing"]

/-- A chunk can be rehashed and recovered at once, or removed and recovered, or added and failed. -/
theorem changes_account_for_transitions :
    beforeTransitions.hashes.Ordered ∧ afterTransitions.hashes.Ordered ∧
      ∃ changes, changesSince? (some beforeTransitions) afterTransitions = some changes ∧
        changes.Accounts beforeTransitions afterTransitions ∧
        changes = {
          added := ⟨["comes"]⟩
          removed := ⟨["goes"]⟩
          failed := ⟨["comes", "fails", "missing"]⟩
          recovered := ⟨["changes", "goes"]⟩
          rehashed := ⟨["changes"]⟩ } := by
  have hbefore : beforeTransitions.hashes.Ordered := TextTable.ordered_ofList _
  have hafter : afterTransitions.hashes.Ordered := TextTable.ordered_ofList _
  obtain ⟨changes, hchanges, haccounts⟩ := changes_account_for_chunks hbefore hafter
  refine ⟨hbefore, hafter, changes, hchanges, haccounts, ?_⟩
  rw [← Option.some.inj hchanges]
  decide

end Transitions

end PageState

end LiveBuild
