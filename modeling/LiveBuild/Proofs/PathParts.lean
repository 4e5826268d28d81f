import LiveBuild.Path.Basic
import Mathlib.Data.List.TakeDrop
import Mathlib.Tactic.Common

/-!
# The components of composed paths

A path is a text, and what it names is read off the pieces between its slashes. So what a join, a
parent or a changed extension names is found by following the pieces of the texts that they are cut
and put together from.
-/

namespace LiveBuild.Path

variable {text a b piece : List Char} {P Q : List (List Char)} {p q base : Path}

section Pieces

theorem pieces_ne_nil (text : List Char) : pieces text ≠ [] := by
  cases text with
  | nil => simp [pieces]
  | cons c rest =>
      rw [pieces]
      split
      · simp
      · split <;> simp

theorem pieces_append_slash (a b : List Char) : pieces (a ++ '/' :: b) = pieces a ++ pieces b := by
  induction a with
  | nil => simp [pieces]
  | cons c rest ih =>
      rw [List.cons_append, pieces, pieces]
      by_cases hc : c = '/'
      · rw [if_pos hc, if_pos hc, ih, List.cons_append]
      · rw [if_neg hc, if_neg hc, ih]
        cases hrest : pieces rest with
        | nil => exact absurd hrest (pieces_ne_nil rest)
        | cons first others => rfl

theorem pieces_of_not_mem (h : '/' ∉ text) : pieces text = [text] := by
  induction text with
  | nil => rfl
  | cons c rest ih =>
      rw [List.mem_cons, not_or] at h
      rw [pieces, if_neg (Ne.symm h.1), ih h.2]

theorem pieces_eq_cons (h : pieces text = piece :: Q) :
    '/' ∉ piece ∧ ((Q = [] ∧ text = piece) ∨
      ∃ rest, text = piece ++ '/' :: rest ∧ pieces rest = Q) := by
  induction text generalizing piece with
  | nil =>
      obtain ⟨rfl, rfl⟩ := List.cons.inj h
      simp
  | cons c rest ih =>
      rw [pieces] at h
      by_cases hc : c = '/'
      · rw [if_pos hc] at h
        obtain ⟨rfl, rfl⟩ := List.cons.inj h
        exact ⟨by simp, Or.inr ⟨rest, by rw [hc]; rfl, rfl⟩⟩
      · rw [if_neg hc] at h
        cases hrest : pieces rest with
        | nil => exact absurd hrest (pieces_ne_nil rest)
        | cons first others =>
            rw [hrest] at h
            obtain ⟨rfl, rfl⟩ := List.cons.inj h
            obtain ⟨hfirst, htext⟩ := ih hrest
            refine ⟨by simp [Ne.symm hc, hfirst], ?_⟩
            rcases htext with ⟨hothers, hrest⟩ | ⟨after, hrest, hafter⟩
            · exact Or.inl ⟨hothers, by rw [hrest]⟩
            · exact Or.inr ⟨after, by rw [hrest]; rfl, hafter⟩

theorem not_mem_of_mem_pieces (h : piece ∈ pieces text) : '/' ∉ piece := by
  induction hpieces : pieces text generalizing text with
  | nil => exact absurd hpieces (pieces_ne_nil text)
  | cons first others ih =>
      obtain ⟨hfirst, htext⟩ := pieces_eq_cons hpieces
      rw [hpieces] at h
      rcases List.mem_cons.1 h with rfl | h
      · exact hfirst
      · rcases htext with ⟨rfl, -⟩ | ⟨rest, -, hrest⟩
        · simp at h
        · exact @ih rest (by rwa [hrest]) hrest

/-- The text of some pieces with a slash behind each. -/
def closed (P : List (List Char)) : List Char := P.flatMap fun piece => piece ++ ['/']

theorem pieces_closed_append (h : ∀ piece ∈ P, '/' ∉ piece) (b : List Char) :
    pieces (closed P ++ b) = P ++ pieces b := by
  induction P with
  | nil => rfl
  | cons first rest ih =>
      have htext : closed (first :: rest) ++ b = first ++ '/' :: (closed rest ++ b) := by
        simp [closed]
      obtain ⟨hfirst, hrest⟩ := List.forall_mem_cons.1 h
      rw [htext, pieces_append_slash, pieces_of_not_mem hfirst, ih hrest]
      rfl

theorem text_of_pieces (h : pieces text = P ++ piece :: Q) :
    ∃ rest, text = closed P ++ (piece ++ rest) ∧ pieces (piece ++ rest) = piece :: Q := by
  induction P generalizing text with
  | nil =>
      obtain ⟨-, htext⟩ := pieces_eq_cons h
      rcases htext with ⟨-, rfl⟩ | ⟨rest, htext, -⟩
      · exact ⟨[], by simp [closed], by rw [List.append_nil]; exact h⟩
      · exact ⟨'/' :: rest, htext, by rw [← htext, h, List.nil_append]⟩
  | cons first others ih =>
      obtain ⟨-, htext⟩ := pieces_eq_cons h
      rcases htext with ⟨hnil, -⟩ | ⟨rest, rfl, hrest⟩
      · simp at hnil
      · obtain ⟨after, rfl, hpieces⟩ := ih hrest
        exact ⟨after, by simp [closed], hpieces⟩

end Pieces

section Components

/-- The component that only the beginning of a text can have. -/
def lead : List (List Char) → List Component
  | [] :: _ :: _ => [.root]
  | ['.'] :: _ => [.here]
  | _ => []

def leadSpan : List (List Char) → List Component.Span
  | [] :: _ :: _ => [⟨.root, 0, 1⟩]
  | ['.'] :: _ => [⟨.here, 0, 1⟩]
  | _ => []

/-- The components of pieces strictly inside a path. -/
def inner (P : List (List Char)) : List Component := P.filterMap Component.ofPiece?

@[simp]
theorem inner_append (P Q : List (List Char)) : inner (P ++ Q) = inner P ++ inner Q :=
  List.filterMap_append

theorem map_leadSpan (P : List (List Char)) : (leadSpan P).map (·.component) = lead P := by
  unfold leadSpan lead
  split <;> rfl

theorem map_spansOfPieces (start : Nat) (P : List (List Char)) :
    (spansOfPieces start P).map (·.component) = inner P := by
  induction P generalizing start with
  | nil => rfl
  | cons piece rest ih =>
      rw [spansOfPieces, inner, List.filterMap_cons]
      cases Component.ofPiece? piece with
      | none => exact ih _
      | some component => rw [List.map_cons, ih]; rfl

theorem spansOf_eq (text : List Char) :
    spansOf text = leadSpan (pieces text) ++ spansOfPieces 0 (pieces text) := by
  unfold spansOf
  split
  · rfl
  · rename_i rest
    have hpieces : pieces ('/' :: rest) = [] :: pieces rest := rfl
    rw [hpieces]
    cases hrest : pieces rest with
    | nil => exact absurd hrest (pieces_ne_nil rest)
    | cons first others => simp [leadSpan, spansOfPieces, Component.ofPiece?]
  · rename_i hnil hslash
    split
    · rename_i rest hpieces
      simp [hpieces, leadSpan, spansOfPieces, Component.ofPiece?]
    · rename_i hother
      suffices hlead : leadSpan (pieces text) = [] by rw [hlead, List.nil_append]
      unfold leadSpan
      split
      · rename_i first second others hpieces
        obtain ⟨-, htext⟩ := pieces_eq_cons hpieces
        rcases htext with ⟨hnone, -⟩ | ⟨rest, htext, -⟩
        · simp at hnone
        · exact absurd htext (hslash rest)
      · rename_i rest hpieces
        exact absurd hpieces (hother rest)
      · rfl

theorem componentsOf_eq (text : List Char) :
    componentsOf text = lead (pieces text) ++ inner (pieces text) := by
  rw [componentsOf, spansOf_eq, List.map_append, map_leadSpan, map_spansOfPieces]

/-- Only the first piece counts for the beginning, and whether another follows. -/
theorem leadSpan_append (hP : P ≠ []) {Q R : List (List Char)} (hQ : Q ≠ []) (hR : R ≠ []) :
    leadSpan (P ++ Q) = leadSpan (P ++ R) := by
  cases P with
  | nil => exact absurd rfl hP
  | cons first rest =>
      cases rest with
      | cons second others =>
          rw [List.cons_append, List.cons_append, List.cons_append, List.cons_append]
          unfold leadSpan
          split <;> simp_all
      | nil =>
          cases Q with
          | nil => exact absurd rfl hQ
          | cons second others =>
              cases R with
              | nil => exact absurd rfl hR
              | cons second' others' =>
                  rw [List.singleton_append, List.singleton_append]
                  unfold leadSpan
                  split <;> simp_all

theorem lead_append (hP : P ≠ []) {Q R : List (List Char)} (hQ : Q ≠ []) (hR : R ≠ []) :
    lead (P ++ Q) = lead (P ++ R) := by
  rw [← map_leadSpan, ← map_leadSpan, leadSpan_append hP hQ hR]

theorem leadSpan_of_ofPiece? {component : Component}
    (hpiece : Component.ofPiece? piece = some component) (Q : List (List Char)) :
    leadSpan (piece :: Q) = [] := by
  unfold leadSpan
  split <;> simp_all [Component.ofPiece?]

theorem leadSpan_append_cons (P : List (List Char)) {component : Component}
    (hpiece : Component.ofPiece? piece = some component) (Q : List (List Char)) :
    leadSpan (P ++ piece :: Q) = leadSpan (P ++ [piece]) := by
  cases P with
  | cons first rest => exact leadSpan_append (by simp) (by simp) (by simp)
  | nil =>
      rw [List.nil_append, List.nil_append, leadSpan_of_ofPiece? hpiece,
        leadSpan_of_ofPiece? hpiece]

theorem spansOfPieces_append (start : Nat) (P Q : List (List Char)) :
    spansOfPieces start (P ++ Q) =
      spansOfPieces start P ++ spansOfPieces (start + (closed P).length) Q := by
  induction P generalizing start with
  | nil => rfl
  | cons piece rest ih =>
      have hlength : start + (closed (piece :: rest)).length =
          start + piece.length + 1 + (closed rest).length := by
        simp [closed]
        omega
      rw [List.cons_append, spansOfPieces, spansOfPieces, ih, hlength]
      cases Component.ofPiece? piece <;> rfl

theorem spansOfPieces_eq_append {start : Nat} {A B : List Component.Span} {s : Component.Span}
    (h : spansOfPieces start P = A ++ s :: B) :
    ∃ before piece after, P = before ++ piece :: after ∧ spansOfPieces start before = A ∧
      Component.ofPiece? piece = some s.component ∧
      s = ⟨s.component, start + (closed before).length,
        start + (closed before).length + piece.length⟩ ∧
      inner after = B.map (·.component) := by
  induction P generalizing start A with
  | nil => simp [spansOfPieces] at h
  | cons piece rest ih =>
      rw [spansOfPieces] at h
      cases hpiece : Component.ofPiece? piece with
      | none =>
          rw [hpiece] at h
          obtain ⟨before, found, after, rfl, hA, hfound, hs, hB⟩ := ih h
          refine ⟨piece :: before, found, after, rfl, ?_, hfound, ?_, hB⟩
          · rw [spansOfPieces, hpiece, ← hA]
          · rw [hs]
            simp [closed]
            omega
      | some component =>
          rw [hpiece] at h
          cases A with
          | nil =>
              obtain ⟨rfl, hB⟩ := List.cons.inj h
              exact ⟨[], piece, rest, rfl, rfl, hpiece, by simp [closed],
                by rw [← hB, map_spansOfPieces]⟩
          | cons first A =>
              obtain ⟨hfirst, h⟩ := List.cons.inj h
              obtain ⟨before, found, after, rfl, hA, hfound, hs, hB⟩ := ih h
              refine ⟨piece :: before, found, after, rfl, ?_, hfound, ?_, hB⟩
              · rw [spansOfPieces, hpiece, hA, ← hfirst]
              · rw [hs]
                simp [closed]
                omega

end Components

section Spans

variable {A B : List Component.Span} {s : Component.Span}

theorem exists_piece (h : spansOfPieces 0 (pieces text) = A ++ s :: B) :
    ∃ before piece rest after, text = closed before ++ (piece ++ rest) ∧
      pieces text = before ++ piece :: after ∧ pieces (piece ++ rest) = piece :: after ∧
      spansOfPieces 0 before = A ∧ Component.ofPiece? piece = some s.component ∧
      s = ⟨s.component, (closed before).length, (closed before).length + piece.length⟩ ∧
      inner after = B.map (·.component) := by
  obtain ⟨before, piece, after, hpieces, hA, hpiece, hs, hB⟩ := spansOfPieces_eq_append h
  obtain ⟨rest, htext, hrest⟩ := text_of_pieces hpieces
  simp only [Nat.zero_add] at hs
  exact ⟨before, piece, rest, after, htext, hpieces, hrest, hA, hpiece, hs, hB⟩

theorem spansOf_eq_append (h : spansOf text = A ++ s :: B) :
    (∃ A', A = leadSpan (pieces text) ++ A' ∧ spansOfPieces 0 (pieces text) = A' ++ s :: B) ∨
      (A = [] ∧ leadSpan (pieces text) = [s]) := by
  rw [spansOf_eq] at h
  have hlead : leadSpan (pieces text) = [] ∨ ∃ first, leadSpan (pieces text) = [first] := by
    unfold leadSpan
    split <;> simp
  rcases hlead with hlead | ⟨first, hlead⟩
  · rw [hlead] at h
    exact Or.inl ⟨A, by rw [hlead]; rfl, h⟩
  · rw [hlead] at h ⊢
    cases A with
    | nil => exact Or.inr ⟨rfl, by rw [(List.cons.inj h).1]⟩
    | cons head A =>
        obtain ⟨rfl, hinner⟩ := List.cons.inj h
        exact Or.inl ⟨A, rfl, hinner⟩

theorem take_of_leadSpan (h : leadSpan (pieces text) = [s]) : spansOf (text.take s.stop) = [s] := by
  unfold leadSpan at h
  split at h
  · rename_i first second others hpieces
    obtain ⟨-, htext⟩ := pieces_eq_cons hpieces
    rcases htext with ⟨hnone, -⟩ | ⟨rest, rfl, -⟩
    · simp at hnone
    · rw [← List.singleton_inj.1 h]
      rfl
  · rename_i others hpieces
    obtain ⟨-, htext⟩ := pieces_eq_cons hpieces
    rcases htext with ⟨-, rfl⟩ | ⟨rest, rfl, -⟩ <;>
    · rw [← List.singleton_inj.1 h]
      rfl
  · simp at h

/-- The first component of a text begins where the text does. -/
theorem start_of_spansOf_cons (h : spansOf text = s :: B) : s.start = 0 := by
  unfold spansOf at h
  split at h
  · contradiction
  · rw [← (List.cons.inj h).1]
  · rename_i hnil hslash
    split at h
    · rw [← (List.cons.inj h).1]
    · rename_i hhere
      cases hpieces : pieces text with
      | nil => exact absurd hpieces (pieces_ne_nil text)
      | cons first others =>
          obtain ⟨-, htext⟩ := pieces_eq_cons hpieces
          have hfirst : first ≠ [] := by
            rintro rfl
            rcases htext with ⟨-, htext⟩ | ⟨rest, htext, -⟩
            · exact hnil htext
            · exact hslash rest htext
          rw [hpieces, spansOfPieces] at h
          split at h
          · rename_i hpiece
            unfold Component.ofPiece? at hpiece
            split at hpiece
            · contradiction
            · exact absurd hpieces (hhere others)
            · contradiction
            · contradiction
          · rw [← (List.cons.inj h).1]

/-- A text that is cut behind one of its components keeps those up to there. -/
theorem spansOf_take (h : spansOf text = A ++ s :: B) :
    spansOf (text.take s.stop) = A ++ [s] := by
  rcases spansOf_eq_append h with ⟨A', rfl, hinner⟩ | ⟨rfl, hlead⟩
  · obtain ⟨before, piece, rest, after, htext, hpieces, -, hA, hpiece, hs, -⟩ :=
      exists_piece hinner
    have hbefore : ∀ found ∈ before, '/' ∉ found := fun found hfound =>
      not_mem_of_mem_pieces (by simp [hpieces, hfound] : found ∈ pieces text)
    have hslash : '/' ∉ piece := not_mem_of_mem_pieces (by simp [hpieces] : piece ∈ pieces text)
    have htake : text.take s.stop = closed before ++ piece := by
      rw [htext, hs, ← List.append_assoc, List.take_left' (by simp)]
    have hpieces' : pieces (text.take s.stop) = before ++ [piece] := by
      rw [htake, pieces_closed_append hbefore, pieces_of_not_mem hslash]
    rw [spansOf_eq, hpieces', hpieces, leadSpan_append_cons before hpiece after,
      spansOfPieces_append, hA, List.append_assoc, Nat.zero_add, spansOfPieces, hpiece]
    rw [hs]
    rfl
  · exact take_of_leadSpan hlead

/-- A text that is cut before one of its components, but not at its beginning, keeps those from
there on. -/
theorem inner_drop (h : spansOf text = A ++ s :: B) (hA : A ≠ []) :
    inner (pieces (text.drop s.start)) = (s :: B).map (·.component) ∧
      (text.drop s.start).head? ≠ some '/' := by
  rcases spansOf_eq_append h with ⟨A', -, hinner⟩ | ⟨rfl, -⟩
  · obtain ⟨before, piece, rest, after, htext, hpieces, hrest, -, hpiece, hs, hB⟩ :=
      exists_piece hinner
    have hdrop : text.drop s.start = piece ++ rest := by
      rw [htext, hs, List.drop_left' rfl]
    have hslash : '/' ∉ piece := not_mem_of_mem_pieces (by simp [hpieces] : piece ∈ pieces text)
    rw [hdrop, hrest]
    refine ⟨by simp [inner, hpiece, ← hB], ?_⟩
    cases piece with
    | nil => simp [Component.ofPiece?] at hpiece
    | cons c piece =>
        rw [List.mem_cons, not_or] at hslash
        simpa using Ne.symm hslash.1
  · exact absurd rfl hA

/-- What a text keeps from an inner component on does not begin with a component of its own kind. -/
theorem lead_drop (h : spansOf text = A ++ s :: B) (hA : A ≠ []) :
    lead (pieces (text.drop s.start)) = [] := by
  rcases spansOf_eq_append h with ⟨A', -, hinner⟩ | ⟨rfl, -⟩
  · obtain ⟨before, piece, rest, after, htext, -, hrest, -, hpiece, hs, -⟩ := exists_piece hinner
    have hdrop : text.drop s.start = piece ++ rest := by
      rw [htext, hs, List.drop_left' rfl]
    rw [hdrop, hrest, ← map_leadSpan, leadSpan_of_ofPiece? hpiece, List.map_nil]
  · exact absurd rfl hA

end Spans

section Paths

theorem components_eq_pieces (p : Path) :
    p.components = lead (pieces p.text.toList) ++ inner (pieces p.text.toList) := by
  rw [p.components_eq, componentsOf_eq]

theorem ofPiece?_eq_name {name : String} (h : Component.ofPiece? piece = some (.name name)) :
    String.ofList piece = name := by
  unfold Component.ofPiece? at h
  split at h <;> simp_all

theorem ofPiece?_of_ne (hnil : piece ≠ []) (hhere : piece ≠ ['.']) (hup : piece ≠ ['.', '.']) :
    Component.ofPiece? piece = some (.name (String.ofList piece)) := by
  unfold Component.ofPiece?
  split <;> simp_all

/-- A text that stands for itself between slashes. -/
def IsName (name : String) : Prop :=
  '/' ∉ name.toList ∧ Component.ofPiece? name.toList = some (.name name)

theorem isName_of_mem {name : String} (h : Component.name name ∈ p.components) : IsName name := by
  rw [components_eq_pieces, List.mem_append] at h
  rcases h with h | h
  · unfold lead at h
    split at h <;> simp at h
  · obtain ⟨piece, hmem, hpiece⟩ := List.mem_filterMap.1 h
    have hname := ofPiece?_eq_name hpiece
    rw [IsName, ← hname, String.toList_ofList]
    exact ⟨not_mem_of_mem_pieces hmem, by rw [hpiece, hname]⟩

theorem isAbsolute_iff : p.isAbsolute = true ↔ p.components.head? = some .root := by
  rw [isAbsolute, components_eq_pieces]
  cases htext : p.text.toList with
  | nil => simp [pieces, lead, inner, Component.ofPiece?]
  | cons c rest =>
      rw [List.head?_cons, beq_iff_eq, Option.some.injEq]
      constructor
      · rintro rfl
        rw [pieces, if_pos rfl]
        cases hrest : pieces rest with
        | nil => exact absurd hrest (pieces_ne_nil rest)
        | cons first others => simp [lead]
      · intro h
        by_contra hc
        have hhead : ∀ component ∈ inner (pieces (c :: rest)), component ≠ .root := by
          rintro component hmem rfl
          obtain ⟨piece, -, hpiece⟩ := List.mem_filterMap.1 hmem
          unfold Component.ofPiece? at hpiece
          split at hpiece <;> simp at hpiece
        cases hlead : lead (pieces (c :: rest)) with
        | nil =>
            rw [hlead, List.nil_append] at h
            exact hhead _ (List.mem_of_mem_head? h) rfl
        | cons first others =>
            rw [hlead, List.cons_append, List.head?_cons, Option.some.injEq] at h
            subst h
            unfold lead at hlead
            split at hlead
            · rename_i hpieces
              obtain ⟨-, htext⟩ := pieces_eq_cons hpieces
              rcases htext with ⟨hnone, -⟩ | ⟨after, htext, -⟩
              · simp at hnone
              · exact hc (List.cons.inj htext).1
            · simp at hlead
            · simp at hlead

theorem components_join (hq : q.isAbsolute = false) (hp : p.isEmpty = false) :
    (p.join q).components = p.components ++ inner (pieces q.text.toList) := by
  rw [join, if_neg (by simp [hq]), hp, Bool.false_or]
  by_cases hlast : p.text.toList.getLast? = some '/'
  · obtain ⟨before, hbefore⟩ : ∃ before, p.text.toList = before ++ ['/'] := by
      obtain ⟨hne, hlast⟩ := List.getLast?_eq_some_iff.1 hlast
      exact ⟨_, hlast⟩
    rw [if_pos (by simp [hlast]), components_eq_pieces, components_eq_pieces p, text_ofString,
      String.toList_append, hbefore, List.append_assoc, List.singleton_append,
      pieces_append_slash, pieces_append_slash, inner_append, inner_append, ← List.append_assoc,
      lead_append (pieces_ne_nil before) (pieces_ne_nil q.text.toList) (pieces_ne_nil [])]
    simp [pieces, inner, Component.ofPiece?]
  · have htext : (p.text ++ "/" ++ q.text).toList = p.text.toList ++ '/' :: q.text.toList := by
      simp
    rw [if_neg (by simpa using hlast), components_eq_pieces, components_eq_pieces p,
      text_ofString, htext, pieces_append_slash, inner_append, ← List.append_assoc]
    congr 2
    -- The beginning of the whole is that of the left part, which is not empty.
    cases hpieces : pieces p.text.toList with
    | nil => exact absurd hpieces (pieces_ne_nil _)
    | cons first others =>
        cases others with
        | cons second others =>
            exact lead_append (P := [first]) (Q := second :: others ++ pieces q.text.toList)
              (R := second :: others) (by simp) (by simp) (by simp)
        | nil =>
            obtain ⟨-, htext⟩ := pieces_eq_cons hpieces
            have hfirst : first ≠ [] := by
              rintro rfl
              rcases htext with ⟨-, htext⟩ | ⟨rest, -, hrest⟩
              · simp [isEmpty, htext] at hp
              · exact pieces_ne_nil rest hrest
            unfold lead
            split <;> simp_all

theorem components_join_name {name : String} (h : IsName name) (d : Path) :
    (d.join (ofString name)).components = d.components ++ [.name name] := by
  obtain ⟨hslash, hname⟩ := h
  have hinner : inner (pieces name.toList) = [.name name] := by
    rw [pieces_of_not_mem hslash, inner, List.filterMap_cons, hname]
    rfl
  have hrelative : (ofString name).isAbsolute = false := by
    rw [isAbsolute, text_ofString]
    cases hchars : name.toList with
    | nil => rfl
    | cons c rest =>
        rw [hchars, List.mem_cons, not_or] at hslash
        simpa using Ne.symm hslash.1
  by_cases hempty : d.isEmpty
  · have htext : d.text = "" := String.toList_inj.1 (by simpa [isEmpty] using hempty)
    have hlead : lead (pieces name.toList) = [] := by
      rw [pieces_of_not_mem hslash, ← map_leadSpan, leadSpan_of_ofPiece? hname, List.map_nil]
    have hd : d.components = [] := by rw [components_eq_pieces, htext]; rfl
    rw [join, hrelative, hempty, hd, components_eq_pieces]
    simp [htext, hlead, hinner]
  · rw [components_join hrelative (by simpa using hempty), text_ofString, hinner]

theorem components_slice_zero {A B : List Component.Span} {s : Component.Span}
    (h : p.spans = A ++ s :: B) :
    (p.slice 0 s.stop).spans = A ++ [s] := by
  rw [spans, slice, text_ofString, String.toList_ofList, List.drop_zero, spansOf_take h]

theorem components_of_fileName? {name : String} (h : p.fileName? = some name) :
    p.components = p.components.dropLast ++ [.name name] := by
  have hlast : p.components.getLast? = some (.name name) := by
    rw [fileName?] at h
    split at h <;> simp_all
  obtain ⟨init, hinit⟩ := List.getLast?_eq_some_iff.1 hlast
  rw [hinit, List.dropLast_concat]

theorem ne_root_of_parent? (h : p.parent? = some q) : p.components ≠ [.root] := by
  intro hroot
  rw [components_eq_spans] at hroot
  obtain ⟨last, hspans, hlast⟩ := List.map_eq_singleton_iff.1 hroot
  simp [parent?, hspans, hlast] at h

theorem components_parent? (h : p.parent? = some q) : q.components = p.components.dropLast := by
  rw [parent?] at h
  cases hspans : p.spans.reverse with
  | nil => simp [hspans] at h
  | cons last before =>
      rw [hspans] at h
      dsimp only at h
      split at h
      · simp at h
      · cases before with
        | nil =>
            have hp : p.spans = [last] := by rw [← List.reverse_reverse p.spans, hspans]; rfl
            obtain rfl := Option.some.inj h
            rw [components_eq_spans p, hp]
            rfl
        | cons previous before =>
            have hp : p.spans = before.reverse ++ previous :: [last] := by
              rw [← List.reverse_reverse p.spans, hspans]
              simp
            obtain rfl := Option.some.inj h
            rw [components_eq_spans, components_slice_zero hp, components_eq_spans p, hp]
            simp

/-- What is left of a path behind a base that names anything is nothing, or what its spelling has
from the component behind the base on. -/
theorem relativeTo?_cases (hbase : base.components ≠ []) (h : p.relativeTo? base = some q) :
    (q.text.toList = [] ∧ p.components = base.components) ∨
      ∃ text A s B, spansOf text = A ++ s :: B ∧ A ≠ [] ∧ q.text.toList = text.drop s.start ∧
        p.components = base.components ++ (s :: B).map (·.component) := by
  rw [relativeTo?] at h
  by_cases hstarts : p.startsWith base
  · rw [if_pos hstarts] at h
    obtain ⟨rest, hrest⟩ := List.isPrefixOf_iff_prefix.1 hstarts
    have hdrop : (p.spans.drop base.components.length).map (·.component) = rest := by
      rw [List.map_drop, ← components_eq_spans, ← hrest, List.drop_left' rfl]
    rw [← hrest]
    cases hspans : p.spans.drop base.components.length with
    | nil =>
        rw [hspans] at h hdrop
        obtain rfl := Option.some.inj h
        exact .inl ⟨rfl, by rw [← hdrop, List.map_nil, List.append_nil]⟩
    | cons first others =>
        have hlast : (first :: others).getLast? = some ((first :: others).getLast (by simp)) :=
          List.getLast?_eq_some_getLast _
        dsimp only at h
        rw [hspans, List.head?_cons, hlast] at h
        obtain rfl := Option.some.inj h
        have hall : p.spans = p.spans.take base.components.length ++ first :: others := by
          rw [← hspans, List.take_append_drop]
        have hbefore : p.spans.take base.components.length ≠ [] := by
          intro hnil
          rw [List.take_eq_nil_iff, List.length_eq_zero_iff] at hnil
          rcases hnil with hnil | hnil
          · exact hbase hnil
          · rw [hnil] at hspans
            simp at hspans
        have hend : p.spans = (p.spans.take base.components.length ++
            (first :: others).dropLast) ++ (first :: others).getLast (by simp) :: [] := by
          rw [List.append_assoc, List.dropLast_concat_getLast, ← hall]
        have htake := spansOf_take hend
        rw [List.append_assoc, List.dropLast_concat_getLast] at htake
        refine .inr ⟨_, _, first, others, htake, hbefore, ?_, ?_⟩
        · rw [slice, text_ofString, String.toList_ofList]
        · rw [← hdrop, hspans]
  · simp [hstarts] at h

/-- What is left of a path behind a base that names anything. -/
theorem relativeTo?_eq_some (hbase : base.components ≠ []) (h : p.relativeTo? base = some q) :
    q.isAbsolute = false ∧ p.components = base.components ++ inner (pieces q.text.toList) := by
  rcases relativeTo?_cases hbase h with ⟨htext, hp⟩ | ⟨text, A, s, B, hspans, hA, htext, hp⟩
  · rw [isAbsolute, htext, hp]
    exact ⟨rfl, (List.append_nil _).symm⟩
  · obtain ⟨hinner, hhead⟩ := inner_drop hspans hA
    rw [isAbsolute, htext, hp, hinner]
    exact ⟨by simpa using hhead, rfl⟩

/-- Before a base that names nothing, a path is left as it is. -/
theorem components_of_relativeTo?_nil (hbase : base.components = [])
    (h : p.relativeTo? base = some q) : q.components = p.components := by
  rw [relativeTo?, startsWith, hbase, List.isPrefixOf_nil_left, if_pos rfl, List.length_nil,
    List.drop_zero] at h
  cases hspans : p.spans with
  | nil =>
      rw [hspans] at h
      obtain rfl := Option.some.inj h
      rw [components_eq_spans p, hspans]
      rfl
  | cons first others =>
      have hlast : (first :: others).getLast? = some ((first :: others).getLast (by simp)) :=
        List.getLast?_eq_some_getLast _
      have hend := List.dropLast_concat_getLast (List.cons_ne_nil first others)
      dsimp only at h
      rw [hspans, List.head?_cons, hlast] at h
      obtain rfl := Option.some.inj h
      rw [start_of_spansOf_cons hspans, components_eq_spans,
        components_slice_zero (hspans.trans hend.symm), hend, components_eq_spans p, hspans]

theorem components_of_relativeTo? (h : p.relativeTo? base = some q) :
    p.components = base.components ++ q.components := by
  by_cases hbase : base.components = []
  · rw [hbase, components_of_relativeTo?_nil hbase h, List.nil_append]
  rcases relativeTo?_cases hbase h with ⟨htext, hp⟩ | ⟨text, A, s, B, hspans, hA, htext, hp⟩
  · rw [components_eq_pieces q, htext, hp]
    exact (List.append_nil _).symm
  · rw [components_eq_pieces q, htext, lead_drop hspans hA, (inner_drop hspans hA).1, hp,
      List.nil_append]

theorem exists_relativeTo? (h : p.startsWith base = true) : ∃ q, p.relativeTo? base = some q := by
  rw [relativeTo?, if_pos h]
  dsimp only
  split <;> exact ⟨_, rfl⟩

theorem mem_text_of_relativeTo? {c : Char} (h : p.relativeTo? base = some q)
    (hc : c ∈ q.text.toList) : c ∈ p.text.toList := by
  rw [relativeTo?] at h
  split at h
  · dsimp only at h
    split at h
    · obtain rfl := Option.some.inj h
      rw [slice, text_ofString, String.toList_ofList] at hc
      exact List.take_subset _ _ (List.drop_subset _ _ hc)
    · obtain rfl := Option.some.inj h
      simp at hc
  · contradiction

theorem splitName_prefix (name : List Char) : (splitName name).1 <+: name := by
  have hspan := List.span_eq_takeWhile_dropWhile (fun c => decide (c ≠ '.')) name.reverse
  have hname : name = (name.reverse.dropWhile fun c => decide (c ≠ '.')).reverse ++
      (name.reverse.takeWhile fun c => decide (c ≠ '.')).reverse := by
    rw [← List.reverse_append, List.takeWhile_append_dropWhile, List.reverse_reverse]
  unfold splitName
  rw [hspan]
  split
  · exact List.prefix_rfl
  · exact List.prefix_rfl
  · rename_i suffix dot stem hdrop
    obtain ⟨-, hdrop⟩ := Prod.mk.inj hdrop
    rw [hname, hdrop, List.reverse_cons, List.append_assoc]
    exact List.prefix_append _ _

/-- A text whose last component is a name may get another one for it. -/
theorem exists_last {A : List Component.Span} {last : Component.Span} {name : String}
    (h : spansOf text = A ++ [last]) (hname : last.component = .name name) :
    ∃ before rest, text = before ++ (name.toList ++ rest) ∧ last.start = before.length ∧
      '/' ∉ name.toList ∧ ∀ piece component, '/' ∉ piece →
        Component.ofPiece? piece = some component →
        componentsOf (before ++ piece) = A.map (·.component) ++ [component] := by
  rcases spansOf_eq_append h with ⟨A', rfl, hinner⟩ | ⟨rfl, hlead⟩
  · obtain ⟨before, found, rest, after, htext, hpieces, -, hbefore, hfound, hs, -⟩ :=
      exists_piece hinner
    have hfoundname : name.toList = found := by
      rw [hname] at hfound
      rw [← ofPiece?_eq_name hfound, String.toList_ofList]
    have hslash : ∀ piece ∈ pieces text, '/' ∉ piece := fun piece => not_mem_of_mem_pieces
    rw [hpieces] at hslash
    refine ⟨closed before, rest, by rw [htext, hfoundname], by rw [hs], ?_, ?_⟩
    · rw [hfoundname]
      exact hslash found (by simp)
    · intro piece component hpieceslash hpiece
      have hlead : leadSpan (before ++ [piece]) = leadSpan (before ++ found :: after) := by
        cases before with
        | nil =>
            rw [List.nil_append, List.nil_append, leadSpan_of_ofPiece? hpiece,
              leadSpan_of_ofPiece? hfound]
        | cons first others => exact leadSpan_append (by simp) (by simp) (by simp)
      rw [componentsOf_eq, pieces_closed_append fun piece hmem => hslash piece (by simp [hmem]),
        pieces_of_not_mem hpieceslash, ← map_leadSpan, hlead, hpieces, ← hbefore, List.map_append,
        map_spansOfPieces, inner_append, List.append_assoc]
      simp [inner, hpiece]
  · unfold leadSpan at hlead
    split at hlead
    · rw [← List.singleton_inj.1 hlead] at hname
      simp at hname
    · rw [← List.singleton_inj.1 hlead] at hname
      simp at hname
    · simp at hlead

theorem components_withExtension {name : String} (h : p.fileName? = some name) :
    (p.withExtension "js").components = p.components.dropLast ++
      [.name (String.ofList ((splitName name.toList).1 ++ ['.', 'j', 's']))] := by
  obtain ⟨A, last, hspans, hA, hcomponent⟩ : ∃ A last, p.spans = A ++ [last] ∧
      A.map (·.component) = p.components.dropLast ∧ last.component = .name name := by
    have hinit := components_of_fileName? h
    rw [components_eq_spans] at hinit ⊢
    obtain ⟨A, C, hspans, hA, hC⟩ := List.map_eq_append_iff.1 hinit
    obtain ⟨last, rfl, hlast⟩ := List.map_eq_singleton_iff.1 hC
    exact ⟨A, last, hspans, hA, hlast⟩
  obtain ⟨before, rest, htext, hstart, hslash, hnew⟩ := exists_last hspans hcomponent
  obtain ⟨tail, htail⟩ := splitName_prefix name.toList
  rw [withExtension, hspans, List.getLast?_concat, h, ← hA]
  generalize hstem : (splitName name.toList).1 = stem at htail
  have htake : p.text.toList.take (last.start + stem.length) = before ++ stem := by
    rw [htext, hstart, ← htail, List.append_assoc, ← List.append_assoc before]
    exact List.take_left' (by simp)
  have hslash' : '/' ∉ stem ++ ['.', 'j', 's'] := by
    rw [← htail] at hslash
    simp only [List.mem_append, not_or] at hslash ⊢
    exact ⟨hslash.1, by decide⟩
  have hextended : Component.ofPiece? (stem ++ ['.', 'j', 's']) =
      some (.name (String.ofList (stem ++ ['.', 'j', 's']))) :=
    ofPiece?_of_ne (by simp) (fun heq => by simpa using congrArg List.getLast? heq)
      (fun heq => by simpa using congrArg List.getLast? heq)
  have htext' : ((p.slice 0 (last.start + stem.length)).text ++ "." ++ "js").toList =
      before ++ (stem ++ ['.', 'j', 's']) := by
    rw [slice, text_ofString, String.toList_append, String.toList_append, String.toList_ofList,
      List.drop_zero, htake, List.append_assoc, List.append_assoc]
    rfl
  rw [← hnew _ _ hslash' hextended, ← htext']
  dsimp only
  rw [if_neg (by decide), components_eq, text_ofString, hstem]

theorem startsWith_iff : p.startsWith base = true ↔ base.components <+: p.components :=
  List.isPrefixOf_iff_prefix

theorem components_of_isEmpty (h : p.isEmpty = true) : p.components = [] := by
  have htext : p.text = "" := String.toList_inj.1 (by simpa [isEmpty] using h)
  rw [components_eq_pieces, htext]
  rfl

theorem startsWith_join (hq : q.isAbsolute = false) (p : Path) :
    (p.join q).startsWith p = true := by
  rw [startsWith_iff]
  by_cases hempty : p.isEmpty
  · rw [components_of_isEmpty hempty]
    exact List.nil_prefix
  · rw [components_join hq (by simpa using hempty)]
    exact List.prefix_append _ _

end Paths

end LiveBuild.Path
