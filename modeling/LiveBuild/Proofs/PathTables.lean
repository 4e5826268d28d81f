import LiveBuild.Path.Map
import Mathlib.Tactic.Common

/-!
# Tables and sets of paths

What can be looked up in a table or found in a set after it was changed. Keys and members count by
the places that they name: two spellings of one place are one key.
-/

namespace LiveBuild

namespace Component

instance : Std.OrientedOrd Component where
  eq_swap {a b} := by
    change compareLex _ _ a b = (compareLex _ _ b a).swap
    exact Std.OrientedCmp.eq_swap

instance : Std.TransOrd Component where
  isLE_trans {a b c} hab hbc := by
    have htrans : Std.TransCmp (compareLex (compareOn fun c : Component => c.key.1)
        (compareOn fun c : Component => c.key.2)) := inferInstance
    exact htrans.isLE_trans hab hbc

instance : Std.LawfulEqOrd Component where
  compare_self {a} := by
    have hrefl : Std.ReflCmp (compareLex (compareOn fun c : Component => c.key.1)
        (compareOn fun c : Component => c.key.2)) := inferInstance
    exact hrefl.compare_self
  eq_of_compare {a b} h := by
    change compareLex _ _ a b = .eq at h
    simp only [compareLex_eq_eq, compareOn, Std.LawfulEqOrd.compare_eq_iff_eq] at h
    exact key_inj.1 (Prod.ext h.1 h.2)

end Component

namespace Path

@[simp]
theorem same_self (p : Path) : p.same p = true := same_iff.2 rfl

theorem same_comm (p q : Path) : p.same q = q.same p := by
  rw [Bool.eq_iff_iff, same_iff, same_iff, eq_comm]

theorem same_congr_left {p q : Path} (h : p.components = q.components) (k : Path) :
    p.same k = q.same k := by
  simp [same, h]

theorem compare_eq_iff {p q : Path} :
    compare p.components q.components = .eq ↔ p.components = q.components :=
  Std.LawfulEqOrd.compare_eq_iff_eq

theorem le_trans {p q r : Path} (hpq : p.le q = true) (hqr : q.le r = true) : p.le r = true :=
  Std.TransCmp.isLE_trans hpq hqr

theorem le_total (p q : Path) : (p.le q || q.le p) = true := by
  have hswap : compare q.components p.components = (compare p.components q.components).swap :=
    Std.OrientedCmp.eq_swap
  rw [le, le, hswap]
  cases compare p.components q.components <;> rfl

/-- No two of the paths name one place. -/
def Distinct (paths : List Path) : Prop := paths.Pairwise fun p q => p.same q = false

theorem Distinct.countP_le_one {paths : List Path} (h : Distinct paths) (p : Path) :
    paths.countP (·.same p) ≤ 1 := by
  induction paths with
  | nil => simp
  | cons first rest ih =>
      obtain ⟨hfirst, hrest⟩ := List.pairwise_cons.1 h
      rw [List.countP_cons]
      split
      · rename_i hsame
        have hnone : rest.countP (·.same p) = 0 := by
          refine List.countP_eq_zero.2 fun path hpath hpathp => ?_
          have hfirstpath : first.same path = true := by
            rw [same_iff, same_iff.1 hsame, same_iff.1 hpathp]
          rw [hfirst path hpath] at hfirstpath
          contradiction
        exact Nat.le_of_eq (by rw [hnone])
      · exact ih hrest

/-- In a sorted list without repetition each path stands strictly before the next. -/
theorem pairwise_lt {paths : List Path} (hsorted : paths.Pairwise fun p q => p.le q = true)
    (hdistinct : Distinct paths) :
    paths.Pairwise fun p q => compare p.components q.components = .lt := by
  refine (hsorted.and hdistinct).imp fun {p q} hboth => ?_
  obtain ⟨hpq, hne⟩ := hboth
  cases hcompare : compare p.components q.components with
  | lt => rfl
  | eq =>
      rw [same_iff.2 (compare_eq_iff.1 hcompare)] at hne
      contradiction
  | gt =>
      rw [le, hcompare] at hpq
      contradiction

theorem Distinct.perm {paths others : List Path} (h : Distinct paths) (hperm : paths.Perm others) :
    Distinct others :=
  hperm.pairwise h fun hpq => by rwa [same_comm]

theorem pairwise_sort_le (paths : List Path) : (sort paths).Pairwise fun p q => p.le q = true := by
  refine List.pairwise_mergeSort ?_ ?_ paths
  · exact fun _ _ _ => le_trans
  · exact le_total

theorem Distinct.pairwise_sort {paths : List Path} (h : Distinct paths) :
    (sort paths).Pairwise fun p q => compare p.components q.components = .lt :=
  pairwise_lt (pairwise_sort_le paths) (h.perm (List.mergeSort_perm paths le).symm)

end Path

namespace PathMap

variable {α : Type} {m : PathMap α} {p q : Path} {v w : α}

theorem contains_iff : m.contains p = true ↔ ∃ v, m.get? p = some v := by
  rw [contains, get?, Option.isSome_iff_exists]
  constructor
  · rintro ⟨entry, h⟩
    exact ⟨entry.2, by rw [h]; rfl⟩
  · rintro ⟨v, h⟩
    obtain ⟨entry, hentry, -⟩ := Option.map_eq_some_iff.1 h
    exact ⟨entry, hentry⟩

theorem contains_eq_false_iff : m.contains p = false ↔ m.get? p = none := by
  rw [contains, get?, Option.isSome_eq_false_iff, Option.map_eq_none_iff, Option.isNone_iff_eq_none]

theorem get?_congr (h : p.components = q.components) : m.get? p = m.get? q := by
  have hkey : ∀ entry : Path × α, entry.1.same p = entry.1.same q := by
    intro entry
    rw [Path.same_comm, Path.same_comm entry.1, Path.same_congr_left h]
  simp only [get?, find?, hkey]

theorem contains_congr (h : p.components = q.components) : m.contains p = m.contains q := by
  rw [Bool.eq_iff_iff, contains_iff, contains_iff, get?_congr h]

theorem exists_mem_of_get? (h : m.get? p = some v) :
    ∃ k, (k, v) ∈ m.entries ∧ k.components = p.components := by
  obtain ⟨⟨k, v'⟩, hfind, rfl⟩ := Option.map_eq_some_iff.1 h
  exact ⟨k, List.mem_of_find?_eq_some hfind, Path.same_iff.1 (by simpa using List.find?_some hfind)⟩

@[simp]
theorem get?_empty (p : Path) : (empty : PathMap α).get? p = none := rfl

theorem get?_mk_map (entries : List (Path × α)) (f : Path × α → α) (p : Path) :
    (⟨entries.map fun entry => (entry.1, f entry)⟩ : PathMap α).get? p =
      (entries.find? fun entry => entry.1.same p).map f := by
  simp only [get?, find?, List.find?_map, Option.map_map]
  rfl

theorem get?_modify (f : α → α) :
    (m.modify p f).get? q = if p.same q then (m.get? q).map f else m.get? q := by
  have hmodify : m.modify p f =
      ⟨m.entries.map fun entry => (entry.1, if entry.1.same p then f entry.2 else entry.2)⟩ := by
    simp only [modify]
    congr 1
    apply List.map_congr_left
    intro entry _
    split <;> rfl
  rw [hmodify, get?_mk_map, get?, find?]
  cases hfind : m.entries.find? fun entry => entry.1.same q with
  | none => simp
  | some entry =>
      have hentry : entry.1.components = q.components :=
        Path.same_iff.1 (by simpa using List.find?_some hfind)
      have hsame : entry.1.same p = p.same q := by
        rw [Path.same_congr_left hentry, Path.same_comm]
      by_cases hpq : p.same q <;> simp [hsame, hpq]

theorem contains_modify (f : α → α) : (m.modify p f).contains q = m.contains q := by
  rw [Bool.eq_iff_iff, contains_iff, contains_iff, get?_modify]
  split <;> simp

theorem get?_insert : (m.insert p v).get? q = if p.same q then some v else m.get? q := by
  by_cases hcontains : m.contains p
  · have hinsert : m.insert p v = m.modify p fun _ => v := by
      simp [insert, modify, hcontains]
    rw [hinsert, get?_modify]
    by_cases hpq : p.same q
    · obtain ⟨old, hold⟩ := contains_iff.1 hcontains
      rw [get?_congr (Path.same_iff.1 hpq)] at hold
      simp [hpq, hold]
    · simp [hpq]
  · have hnone : m.get? p = none := contains_eq_false_iff.1 (by simpa using hcontains)
    simp only [insert, hcontains, Bool.false_eq_true, ↓reduceIte]
    by_cases hpq : p.same q
    · have hfind : (m.entries.find? fun entry => entry.1.same q) = none := by
        rw [get?_congr (Path.same_iff.1 hpq)] at hnone
        exact Option.map_eq_none_iff.1 hnone
      simp [get?, find?, List.find?_append, hfind, hpq]
    · simp [get?, find?, List.find?_append, hpq]

/-- Of the entries of a table one at most is changed by an insertion, or it is the new one. -/
theorem mem_insert {entry : Path × α} (h : entry ∈ (m.insert p v).entries) :
    entry ∈ m.entries ∨ (entry.2 = v ∧ (entry.1 = p ∨ ∃ old ∈ m.entries, old.1 = entry.1)) := by
  rw [insert] at h
  split at h
  · obtain ⟨old, hold, rfl⟩ := List.mem_map.1 h
    split
    · exact Or.inr ⟨rfl, Or.inr ⟨old, hold, rfl⟩⟩
    · exact Or.inl hold
  · rcases List.mem_append.1 h with h | h
    · exact Or.inl h
    · obtain rfl := List.mem_singleton.1 h
      exact Or.inr ⟨rfl, Or.inl rfl⟩

theorem contains_iff_mem : m.contains p = true ↔ ∃ entry ∈ m.entries, entry.1.same p = true := by
  rw [contains, find?, List.find?_isSome]

theorem contains_insert : (m.insert p v).contains q = (p.same q || m.contains q) := by
  rw [Bool.eq_iff_iff, Bool.or_eq_true, contains_iff, contains_iff, get?_insert]
  by_cases hpq : p.same q <;> simp [hpq]

theorem get?_erase : (m.erase p).get? q = if p.same q then none else m.get? q := by
  simp only [get?, find?, erase, List.find?_filter]
  by_cases hpq : p.same q
  · rw [if_pos hpq, Option.map_eq_none_iff, List.find?_eq_none]
    intro entry _
    rw [Path.same_comm, Path.same_congr_left (Path.same_iff.1 hpq), Path.same_comm]
    simp
  · rw [if_neg hpq]
    congr 2
    funext entry
    by_cases hq : entry.1.same q
    · rw [Path.same_congr_left (Path.same_iff.1 hq), Path.same_comm]
      simp [hq, hpq]
    · simp [hq]

/-- Every place has one entry at most. -/
def Distinct (m : PathMap α) : Prop := Path.Distinct m.keys

@[simp]
theorem keys_modify (p : Path) (f : α → α) : (m.modify p f).keys = m.keys := by
  rw [modify, keys, List.map_map, keys]
  apply List.map_congr_left
  intro entry _
  rw [Function.comp_apply]
  split <;> rfl

theorem Distinct.modify (h : m.Distinct) (p : Path) (f : α → α) : (m.modify p f).Distinct := by
  rwa [Distinct, keys_modify]

theorem Distinct.insert (h : m.Distinct) (p : Path) (v : α) : (m.insert p v).Distinct := by
  rw [PathMap.insert]
  split
  · exact h.modify p fun _ => v
  · rename_i hcontains
    rw [Distinct, keys, List.map_append]
    refine List.pairwise_append.2 ⟨h, List.pairwise_singleton _ _, fun q hq p' hp => ?_⟩
    obtain ⟨entry, hentry, rfl⟩ := List.mem_map.1 hq
    obtain rfl := List.mem_singleton.1 hp
    rw [contains_iff_mem] at hcontains
    exact Bool.eq_false_iff.2 fun hsame => hcontains ⟨entry, hentry, hsame⟩

theorem Distinct.get?_eq_some_iff (h : m.Distinct) :
    m.get? p = some v ↔ ∃ k, (k, v) ∈ m.entries ∧ k.same p = true := by
  obtain ⟨entries⟩ := m
  rw [get?, find?]
  induction entries with
  | nil => simp
  | cons first rest ih =>
      obtain ⟨hfirst, hrest⟩ := List.pairwise_cons.1 h
      by_cases hsame : first.1.same p = true
      · -- No later entry names the place of the first.
        have hnone : ∀ k, (k, v) ∈ rest → k.same p = false := fun k hmem => by
          have hk := hfirst k (List.mem_map_of_mem hmem)
          rwa [Path.same_congr_left (Path.same_iff.1 hsame), Path.same_comm] at hk
        rw [List.find?_cons_of_pos (by exact hsame), Option.map_some, Option.some.injEq]
        constructor
        · rintro rfl
          exact ⟨first.1, List.mem_cons_self, hsame⟩
        · rintro ⟨k, hmem, hk⟩
          rcases List.mem_cons.1 hmem with rfl | hmem
          · rfl
          · rw [hnone k hmem] at hk
            contradiction
      · rw [List.find?_cons_of_neg (by exact hsame), ih hrest]
        refine exists_congr fun k => and_congr_left fun hk => ?_
        rw [List.mem_cons, or_iff_right]
        rintro rfl
        exact hsame hk

theorem Distinct.filter (h : m.Distinct) (keeps : Path × α → Bool) :
    (⟨m.entries.filter keeps⟩ : PathMap α).Distinct :=
  List.Pairwise.sublist (List.filter_sublist.map _) h

end PathMap

namespace PathSet

variable {s t : PathSet} {p q : Path}

theorem contains_iff : s.contains p = true ↔ ∃ k ∈ s.items, k.components = p.components := by
  simp only [contains, List.any_eq_true, Path.same_iff]

theorem contains_congr (h : p.components = q.components) : s.contains p = s.contains q := by
  rw [Bool.eq_iff_iff, contains_iff, contains_iff, h]

@[simp]
theorem contains_empty (p : Path) : empty.contains p = false := rfl

theorem exists_mem_insertOrdered (p q : Path) (items : List Path) :
    (∃ k ∈ insertOrdered p items, k.components = q.components) ↔
      p.components = q.components ∨ ∃ k ∈ items, k.components = q.components := by
  induction items with
  | nil => simp [insertOrdered]
  | cons first rest ih =>
      rw [insertOrdered]
      cases hcompare : compare p.components first.components with
      | lt => simp
      | gt => simp only [List.mem_cons, exists_eq_or_imp, ih, or_left_comm]
      | eq =>
          have heq : p.components = first.components := Path.compare_eq_iff.1 hcompare
          simp only [List.mem_cons, exists_eq_or_imp, heq]
          tauto

theorem contains_insert : (s.insert p).contains q = (p.same q || s.contains q) := by
  rw [Bool.eq_iff_iff, Bool.or_eq_true, contains_iff, contains_iff, Path.same_iff]
  exact exists_mem_insertOrdered p q s.items

theorem contains_erase : (s.erase p).contains q = (!p.same q && s.contains q) := by
  rw [Bool.eq_iff_iff, Bool.and_eq_true, contains_iff, contains_iff, Bool.not_eq_true',
    Bool.eq_false_iff, ne_eq, Path.same_iff]
  constructor
  · rintro ⟨k, hk, hkq⟩
    obtain ⟨hmem, hne⟩ := List.mem_filter.1 hk
    refine ⟨fun hpq => ?_, k, hmem, hkq⟩
    simp [Path.same, hkq, hpq] at hne
  · rintro ⟨hpq, k, hmem, hkq⟩
    refine ⟨k, List.mem_filter.2 ⟨hmem, ?_⟩, hkq⟩
    simpa [Path.same, hkq] using fun h => hpq h.symm

theorem contains_union : (s.union t).contains q = (s.contains q || t.contains q) := by
  obtain ⟨items⟩ := t
  induction items generalizing s with
  | nil => simp [union, contains]
  | cons first rest ih =>
      have hunion : s.union ⟨first :: rest⟩ = (s.insert first).union ⟨rest⟩ := rfl
      rw [hunion, ih, contains_insert]
      simp [contains, Bool.or_left_comm, Bool.or_assoc]

theorem isEmpty_iff : s.isEmpty = true ↔ ∀ p, s.contains p = false := by
  constructor
  · intro h p
    simp [contains, List.isEmpty_iff.1 h]
  · intro h
    rw [isEmpty, List.isEmpty_iff, List.eq_nil_iff_forall_not_mem]
    intro p hp
    have hcontains : s.contains p = true := contains_iff.2 ⟨p, hp, rfl⟩
    simp [h p] at hcontains

/-- The members stand in path order, each place once. -/
def Ordered (s : PathSet) : Prop :=
  s.items.Pairwise fun p q => compare p.components q.components = .lt

theorem ordered_empty : empty.Ordered := List.Pairwise.nil

theorem Ordered.insert (h : s.Ordered) (p : Path) : (s.insert p).Ordered := by
  obtain ⟨items⟩ := s
  change (insertOrdered p items).Pairwise _
  induction items with
  | nil => simp [insertOrdered]
  | cons first rest ih =>
      obtain ⟨hfirst, hrest⟩ := List.pairwise_cons.1 h
      rw [insertOrdered]
      cases hcompare : compare p.components first.components with
      | eq => exact h
      | lt =>
          refine List.pairwise_cons.2 ⟨fun q hq => ?_, h⟩
          rcases List.mem_cons.1 hq with rfl | hq
          · exact hcompare
          · exact Std.TransCmp.lt_trans hcompare (hfirst q hq)
      | gt =>
          refine List.pairwise_cons.2 ⟨fun q hq => ?_, ih hrest⟩
          have hmem := (exists_mem_insertOrdered p q rest).1 ⟨q, hq, rfl⟩
          rcases hmem with hpq | ⟨k, hk, hkq⟩
          · rw [← hpq]
            exact Std.OrientedCmp.gt_iff_lt.1 hcompare
          · rw [← hkq]
            exact hfirst k hk

theorem Ordered.erase (h : s.Ordered) (p : Path) : (s.erase p).Ordered :=
  List.Pairwise.filter _ h

theorem Ordered.union (h : s.Ordered) (t : PathSet) : (s.union t).Ordered := by
  obtain ⟨items⟩ := t
  induction items generalizing s with
  | nil => exact h
  | cons first rest ih => exact ih (h.insert first)

end PathSet

end LiveBuild
