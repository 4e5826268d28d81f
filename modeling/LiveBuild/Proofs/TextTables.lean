import LiveBuild.Text.Table
import Mathlib.Data.List.Induction
import Mathlib.Tactic.Common

/-!
# Tables and sets of texts

Whatever is put into a set or a table, its names stand in order. Such a table is known by what can
be looked up in it, and both are the same again when they are made from what they hold.
-/

namespace LiveBuild

namespace TextSet

variable {s t : TextSet} {name : String}

/-- The members stand in order, each once. -/
def Ordered (s : TextSet) : Prop := s.items.Pairwise (· < ·)

theorem ordered_empty : empty.Ordered := List.Pairwise.nil

theorem mem_insertOrdered {items : List String} {other : String} :
    other ∈ insertOrdered name items ↔ other = name ∨ other ∈ items := by
  induction items with
  | nil => simp [insertOrdered]
  | cons first rest ih =>
      rw [insertOrdered]
      split
      · simp
      · split
        · rename_i heq
          simp [heq]
        · simp [ih, or_left_comm]

theorem Ordered.insert (h : s.Ordered) (name : String) : (s.insert name).Ordered := by
  obtain ⟨items⟩ := s
  change (insertOrdered name items).Pairwise _
  induction items with
  | nil => exact List.pairwise_singleton _ _
  | cons first rest ih =>
      obtain ⟨hfirst, hrest⟩ := List.pairwise_cons.1 h
      rw [insertOrdered]
      split
      · rename_i hlt
        refine List.pairwise_cons.2 ⟨fun other hother => ?_, h⟩
        rcases List.mem_cons.1 hother with rfl | hother
        · exact hlt
        · exact String.lt_trans hlt (hfirst other hother)
      · rename_i hnot
        split
        · exact h
        · rename_i hne
          refine List.pairwise_cons.2 ⟨fun other hother => ?_, ih hrest⟩
          rcases mem_insertOrdered.1 hother with rfl | hother
          · exact String.not_le.1 fun hle => hne (String.le_antisymm hle (String.not_lt.1 hnot))
          · exact hfirst other hother

theorem Ordered.foldl_insert (h : s.Ordered) (names : List String) :
    (names.foldl TextSet.insert s).Ordered := by
  induction names generalizing s with
  | nil => exact h
  | cons first rest ih => exact ih (h.insert first)

theorem ordered_ofList (names : List String) : (ofList names).Ordered :=
  ordered_empty.foldl_insert names

theorem ordered_map (s : TextSet) (f : String → String) : (s.map f).Ordered := ordered_ofList _

theorem Ordered.union (h : s.Ordered) (t : TextSet) : (s.union t).Ordered := h.foldl_insert t.items

theorem Ordered.filter (h : s.Ordered) (keep : String → Bool) : (s.filter keep).Ordered :=
  List.Pairwise.filter keep h

theorem Ordered.difference (h : s.Ordered) (t : TextSet) : (s.difference t).Ordered :=
  h.filter fun name => !t.contains name

theorem Ordered.nodup (h : s.Ordered) : s.items.Nodup :=
  h.imp fun {a b} (hlt : a < b) (heq : a = b) => String.lt_irrefl b (heq ▸ hlt)

/-- A member behind all others is put at the end. -/
theorem insertOrdered_eq_append {items : List String} (h : ∀ other ∈ items, other < name) :
    insertOrdered name items = items ++ [name] := by
  induction items with
  | nil => rfl
  | cons first rest ih =>
      have hfirst : first < name := h first List.mem_cons_self
      have hne : name ≠ first := fun heq => String.lt_irrefl name (heq ▸ hfirst)
      rw [insertOrdered, if_neg (String.lt_asymm hfirst), if_neg hne,
        ih fun other hother => h other (List.mem_cons_of_mem _ hother)]
      rfl

theorem ofList_items (h : s.Ordered) : ofList s.items = s := by
  have hfold : ∀ before after : List String, (before ++ after).Pairwise (· < ·) →
      after.foldl TextSet.insert ⟨before⟩ = (⟨before ++ after⟩ : TextSet) := by
    intro before after
    induction after generalizing before with
    | nil => simp
    | cons first rest ih =>
        intro hpairwise
        have hbefore : ∀ other ∈ before, other < first := fun other hother =>
          (List.pairwise_append.1 hpairwise).2.2 other hother first List.mem_cons_self
        rw [List.foldl_cons, insert, insertOrdered_eq_append hbefore,
          ih _ (by simpa using hpairwise)]
        simp
  exact hfold [] s.items h

theorem contains_iff : s.contains name = true ↔ name ∈ s.items := by
  rw [contains, List.contains_iff_mem]

theorem contains_filter {keep : String → Bool} :
    (s.filter keep).contains name = (s.contains name && keep name) := by
  rw [Bool.eq_iff_iff, contains_iff, Bool.and_eq_true, contains_iff, filter, List.mem_filter]

theorem contains_difference :
    (s.difference t).contains name = (s.contains name && !t.contains name) := contains_filter

theorem contains_foldl_insert {names : List String} :
    (names.foldl TextSet.insert s).contains name = true ↔
      s.contains name = true ∨ name ∈ names := by
  induction names generalizing s with
  | nil => simp
  | cons first rest ih =>
      have hfirst : (s.insert first).contains name = true ↔
          name = first ∨ s.contains name = true := by
        rw [contains_iff, contains_iff]
        exact mem_insertOrdered
      rw [List.foldl_cons, ih, hfirst, List.mem_cons, or_comm (a := name = first), or_assoc]

theorem contains_union :
    (s.union t).contains name = true ↔ s.contains name = true ∨ t.contains name = true := by
  rw [union, contains_foldl_insert, contains_iff (s := t)]

theorem contains_map {f : String → String} :
    (s.map f).contains name = true ↔ ∃ other, s.contains other = true ∧ f other = name := by
  rw [map, ofList, contains_foldl_insert, contains_iff, List.mem_map]
  simp [empty, contains_iff]

theorem isEmpty_iff : s.isEmpty = true ↔ ∀ name, s.contains name = false := by
  rw [isEmpty, List.isEmpty_iff, List.eq_nil_iff_forall_not_mem]
  refine forall_congr' fun name => ?_
  rw [← contains_iff, Bool.not_eq_true]

end TextSet

namespace TextTable

variable {α : Type} {t u : TextTable α} {name : String} {value : α}

/-- The names stand in order, each once. -/
def Ordered (t : TextTable α) : Prop := TextSet.Ordered ⟨t.keys⟩

theorem ordered_iff : t.Ordered ↔ t.entries.Pairwise fun a b => a.1 < b.1 := List.pairwise_map

theorem ordered_empty : (empty : TextTable α).Ordered := List.Pairwise.nil

theorem keys_insert : (t.insert name value).keys = TextSet.insertOrdered name t.keys := by
  obtain ⟨entries⟩ := t
  change (insertOrdered name value entries).map _ = TextSet.insertOrdered name (entries.map _)
  induction entries with
  | nil => rfl
  | cons first rest ih =>
      rw [insertOrdered, List.map_cons, TextSet.insertOrdered]
      split
      · rfl
      · split
        · rename_i heq
          rw [List.map_cons, heq]
        · rw [List.map_cons, ih]

theorem Ordered.insert (h : t.Ordered) (name : String) (value : α) :
    (t.insert name value).Ordered := by
  rw [Ordered, keys_insert]
  exact TextSet.Ordered.insert h name

theorem ordered_ofList (entries : List (String × α)) : (ofList entries).Ordered := by
  have hfold : ∀ t : TextTable α, t.Ordered →
      (entries.foldl (fun t entry => t.insert entry.1 entry.2) t).Ordered := by
    induction entries with
    | nil => exact fun _ h => h
    | cons first rest ih => exact fun t h => ih _ (h.insert first.1 first.2)
  exact hfold _ ordered_empty

theorem insertOrdered_eq_append {entries : List (String × α)}
    (h : ∀ entry ∈ entries, entry.1 < name) :
    insertOrdered name value entries = entries ++ [(name, value)] := by
  induction entries with
  | nil => rfl
  | cons first rest ih =>
      have hfirst : first.1 < name := h first List.mem_cons_self
      have hne : name ≠ first.1 := fun heq => String.lt_irrefl name (heq ▸ hfirst)
      rw [insertOrdered, if_neg (String.lt_asymm hfirst), if_neg hne,
        ih fun entry hentry => h entry (List.mem_cons_of_mem _ hentry)]
      rfl

theorem ofList_entries (h : t.Ordered) : ofList t.entries = t := by
  have hfold : ∀ before after : List (String × α),
      (before ++ after).Pairwise (fun a b => a.1 < b.1) →
      after.foldl (fun t entry => t.insert entry.1 entry.2) ⟨before⟩ =
        (⟨before ++ after⟩ : TextTable α) := by
    intro before after
    induction after generalizing before with
    | nil => simp
    | cons first rest ih =>
        intro hpairwise
        have hbefore : ∀ entry ∈ before, entry.1 < first.1 := fun entry hentry =>
          (List.pairwise_append.1 hpairwise).2.2 entry hentry first List.mem_cons_self
        rw [List.foldl_cons, insert, insertOrdered_eq_append hbefore,
          ih _ (by simpa using hpairwise)]
        simp
  exact hfold [] t.entries (ordered_iff.1 h)

theorem get?_eq_some_iff (h : t.Ordered) :
    t.get? name = some value ↔ (name, value) ∈ t.entries := by
  obtain ⟨entries⟩ := t
  rw [get?]
  induction entries with
  | nil => simp
  | cons first rest ih =>
      obtain ⟨hfirst, hrest⟩ := List.pairwise_cons.1 h
      by_cases hname : first.1 = name
      · -- No later entry has the name of the first.
        have hnone : (name, value) ∉ rest := fun hmem =>
          String.lt_irrefl name (hname ▸ hfirst name (List.mem_map_of_mem hmem))
        obtain ⟨key, old⟩ := first
        obtain rfl : key = name := hname
        simp [hnone, eq_comm]
      · have hne : (name, value) ≠ first := fun heq => hname (heq ▸ rfl)
        simpa [List.find?_cons, hname, hne] using ih hrest

theorem get?_eq_none_iff : t.get? name = none ↔ name ∉ t.keys := by
  rw [get?, Option.map_eq_none_iff, List.find?_eq_none, keys, List.mem_map, not_exists]
  simp

theorem contains_iff : t.contains name = true ↔ name ∈ t.keys := by
  rw [contains, Option.isSome_iff_ne_none, ne_eq, get?_eq_none_iff, not_not]

theorem contains_iff_exists : t.contains name = true ↔ ∃ value, t.get? name = some value := by
  rw [contains, Option.isSome_iff_exists]

theorem contains_eq_false_iff : t.contains name = false ↔ t.get? name = none := by
  rw [contains, Option.isSome_eq_false_iff, Option.isNone_iff_eq_none]

theorem get?_insert (t : TextTable α) (name : String) (value : α) (other : String) :
    (t.insert name value).get? other = if name = other then some value else t.get? other := by
  obtain ⟨entries⟩ := t
  rw [insert, get?, get?]
  induction entries with
  | nil =>
      by_cases hname : name = other <;> simp [insertOrdered, hname]
  | cons first rest ih =>
      rw [insertOrdered]
      split
      · by_cases hname : name = other <;> simp [hname]
      · split
        · rename_i heq
          by_cases hname : name = other
          · simp [hname]
          · have hfirst : first.1 ≠ other := fun hfirst => hname (heq.trans hfirst)
            simp [hname, hfirst]
        · rename_i hne
          by_cases hfirst : first.1 = other
          · have hname : name ≠ other := fun hname => hne (hname.trans hfirst.symm)
            simp [hfirst, hname]
          · simpa [hfirst] using ih

/-- Of the values given for a name the last one is found. -/
theorem get?_ofList (entries : List (String × α)) (name : String) :
    (ofList entries).get? name =
      ((entries.filter (·.1 == name)).getLast?).map (·.2) := by
  induction entries using List.reverseRecOn with
  | nil => rfl
  | append_singleton entries entry ih =>
      have hconcat : ofList (entries ++ [entry]) = (ofList entries).insert entry.1 entry.2 := by
        rw [ofList, List.foldl_append]
        rfl
      rw [hconcat, get?_insert, ih, List.filter_append]
      by_cases hname : entry.1 = name <;> simp [hname]

/-- What can be looked up decides a table. -/
theorem eq_of_get? (ht : t.Ordered) (hu : u.Ordered) (h : ∀ name, t.get? name = u.get? name) :
    t = u := by
  have hnodup : ∀ {t : TextTable α}, t.Ordered → t.entries.Nodup := fun h =>
    (ordered_iff.1 h).imp fun {a b} (hlt : a.1 < b.1) (heq : a = b) =>
      String.lt_irrefl b.1 (heq ▸ hlt)
  have hmem : ∀ entry, entry ∈ t.entries ↔ entry ∈ u.entries := fun (name, value) => by
    rw [← get?_eq_some_iff ht, ← get?_eq_some_iff hu, h]
  have hperm : t.entries.Perm u.entries :=
    (List.perm_ext_iff_of_nodup (hnodup ht) (hnodup hu)).2 hmem
  have heq : t.entries = u.entries :=
    hperm.eq_of_pairwise (fun a b _ _ hab hba => absurd hba (String.lt_asymm hab))
      (ordered_iff.1 ht) (ordered_iff.1 hu)
  cases t
  cases u
  exact congrArg _ heq

end TextTable

end LiveBuild
