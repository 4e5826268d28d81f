import LiveBuild.Build.Imports
import LiveBuild.Proofs.WordCharacters
import Mathlib.Data.List.TakeDrop
import Mathlib.Data.List.TakeWhile
import Mathlib.Tactic.Common

/-!
# What the readers of import statements take

A reader takes the beginning of a text. It succeeds exactly if the text can be cut into the parts
that it reads one after the other, also where a character could belong to one part or to the next.
-/

namespace LiveBuild.Imports

open Unicode (isWord isSpace)

variable {cs rest spec taken clause : List Char} {test : Char → Bool}

section Runs

/-- Reading characters of a kind stops before the text. -/
def Stops (test : Char → Bool) (cs : List Char) : Prop := ∀ c ∈ cs.head?, test c = false

theorem stops_cons {c : Char} (h : test c = false) : Stops test (c :: cs) := by
  intro d hd
  obtain rfl := Option.some.inj hd
  exact h

theorem stops_append {a b : List Char} (h : Stops test a) (ha : a ≠ []) : Stops test (a ++ b) := by
  obtain ⟨c, a, rfl⟩ := List.exists_cons_of_ne_nil ha
  exact h

theorem stops_of_all {a : List Char} {other : Char → Bool} (h : ∀ c ∈ a, other c = true)
    (hother : ∀ c, other c = true → test c = false) : Stops test a :=
  fun c hc => hother c (h c (List.mem_of_mem_head? hc))

theorem span_eq_iff : cs.span test = (taken, rest) ↔
    cs = taken ++ rest ∧ (∀ c ∈ taken, test c = true) ∧ Stops test rest := by
  rw [List.span_eq_takeWhile_dropWhile, Prod.mk.injEq]
  constructor
  · rintro ⟨rfl, rfl⟩
    refine ⟨List.takeWhile_append_dropWhile.symm, fun c => List.mem_takeWhile_imp, fun c hc => ?_⟩
    have hhead := List.head?_dropWhile_not test cs
    rw [Option.mem_def.1 hc] at hhead
    simpa using hhead
  · rintro ⟨rfl, htaken, hrest⟩
    have hstop : rest.takeWhile test = [] ∧ rest.dropWhile test = rest := by
      cases rest with
      | nil => exact ⟨rfl, rfl⟩
      | cons c others =>
          have hc := hrest c rfl
          simp [hc]
    rw [List.takeWhile_append_of_pos htaken, List.dropWhile_append_of_pos htaken, hstop.1, hstop.2,
      List.append_nil]
    exact ⟨rfl, rfl⟩

theorem dropWhile_eq_iff : cs.dropWhile test = rest ↔
    ∃ taken, cs = taken ++ rest ∧ (∀ c ∈ taken, test c = true) ∧ Stops test rest := by
  constructor
  · rintro rfl
    exact ⟨_, span_eq_iff.1 (List.span_eq_takeWhile_dropWhile _ _)⟩
  · rintro ⟨taken, hspan⟩
    have h := span_eq_iff.2 hspan
    rw [List.span_eq_takeWhile_dropWhile, Prod.mk.injEq] at h
    exact h.2

/-- White space, or nothing. -/
def IsBlank (cs : List Char) : Prop := ∀ c ∈ cs, isSpace c = true

/-- White space that keeps two words apart. -/
def IsGap (cs : List Char) : Prop := cs ≠ [] ∧ IsBlank cs

/-- Word characters and dollar signs, at least one. -/
def IsIdentifier (cs : List Char) : Prop := cs ≠ [] ∧ ∀ c ∈ cs, isIdent c = true

theorem isBlank_nil : IsBlank [] := fun _ hc => nomatch hc

theorem isSpace_eq_false_of_isIdent {c : Char} (h : isIdent c = true) : isSpace c = false := by
  rw [isIdent, Bool.or_eq_true, decide_eq_true_eq] at h
  rcases h with h | rfl
  · exact Unicode.isSpace_eq_false_of_isWord h
  · rfl

theorem isIdent_eq_false_of_isSpace {c : Char} (h : isSpace c = true) : isIdent c = false := by
  rw [Bool.eq_false_iff]
  intro hident
  rw [isSpace_eq_false_of_isIdent hident] at h
  cases h

end Runs

section Words

theorem keyword?_eq_some_iff {word : String} :
    keyword? word cs = some rest ↔ cs = word.toList ++ rest := by
  rw [keyword?]
  split
  · rename_i hprefix
    obtain ⟨after, rfl⟩ := List.isPrefixOf_iff_prefix.1 hprefix
    rw [List.drop_left, Option.some.injEq, List.append_cancel_left_eq]
  · rename_i hprefix
    refine ⟨nofun, ?_⟩
    rintro rfl
    exact absurd (List.isPrefixOf_iff_prefix.2 (List.prefix_append _ _)) hprefix

theorem char?_eq_some_iff {c : Char} : char? c cs = some rest ↔ cs = c :: rest := by
  cases cs with
  | nil => simp [char?]
  | cons d others =>
      rw [char?, List.cons.injEq]
      by_cases hd : d = c <;> simp [hd]

theorem skipSpaces_eq_iff :
    skipSpaces cs = rest ↔ ∃ gap, cs = gap ++ rest ∧ IsBlank gap ∧ Stops isSpace rest :=
  dropWhile_eq_iff

theorem spaces?_eq_some_iff : spaces? cs = some rest ↔
    ∃ gap, IsGap gap ∧ cs = gap ++ rest ∧ Stops isSpace rest := by
  cases cs with
  | nil =>
      refine ⟨nofun, ?_⟩
      rintro ⟨gap, hgap, hcs, -⟩
      exact absurd (List.append_eq_nil_iff.1 hcs.symm).1 hgap.1
  | cons c others =>
      rw [spaces?]
      constructor
      · intro h
        by_cases hc : isSpace c = true
        · rw [if_pos hc, Option.some.injEq, skipSpaces_eq_iff] at h
          obtain ⟨gap, rfl, hgap, hrest⟩ := h
          exact ⟨c :: gap, ⟨by simp, List.forall_mem_cons.2 ⟨hc, hgap⟩⟩, rfl, hrest⟩
        · rw [if_neg hc] at h
          cases h
      · rintro ⟨gap, ⟨hne, hgap⟩, hcs, hrest⟩
        cases gap with
        | nil => exact absurd rfl hne
        | cons first gap =>
            obtain ⟨rfl, rfl⟩ := List.cons.inj hcs
            obtain ⟨hfirst, hgap⟩ := List.forall_mem_cons.1 hgap
            rw [if_pos hfirst, Option.some.injEq, skipSpaces_eq_iff]
            exact ⟨gap, rfl, hgap, hrest⟩

theorem isQuote_iff {c : Char} : isQuote c = true ↔ c = '"' ∨ c = '\'' := by
  rw [isQuote, Bool.or_eq_true, decide_eq_true_eq, decide_eq_true_eq]

/-- What may stand between quotes. -/
def IsSpecifier (spec : List Char) : Prop := spec ≠ [] ∧ ∀ c ∈ spec, isInner c = true

theorem quoted?_eq_some_iff : quoted? cs = some (spec, rest) ↔
    ∃ opening closing, cs = opening :: (spec ++ closing :: rest) ∧ isQuote opening = true ∧
      isQuote closing = true ∧ IsSpecifier spec := by
  cases cs with
  | nil => simp [quoted?]
  | cons opening others =>
      rw [quoted?]
      constructor
      · intro h
        split at h
        · rename_i hopening
          split at h
          · rename_i found closing after hspan
            split at h
            · rename_i hclosing
              rw [Bool.and_eq_true, Bool.not_eq_true', List.isEmpty_eq_false_iff] at hclosing
              obtain ⟨rfl, rfl⟩ := Prod.mk.inj (Option.some.inj h)
              obtain ⟨rfl, hinner, -⟩ := span_eq_iff.1 hspan
              exact ⟨opening, closing, rfl, hopening, hclosing.1, hclosing.2, hinner⟩
            · cases h
          · cases h
        · cases h
      · rintro ⟨first, closing, hcs, hopening, hclosing, hne, hinner⟩
        obtain ⟨rfl, rfl⟩ := List.cons.inj hcs
        have hstops : Stops isInner (closing :: rest) := stops_cons (by simp [isInner, hclosing])
        rw [if_pos hopening, span_eq_iff.2 ⟨rfl, hinner, hstops⟩]
        simp [hclosing, hne]

/-- A kind of characters without the quotes stops before a quoted text. -/
theorem stops_of_quoted? (h : quoted? cs = some (spec, rest)) (hdouble : test '"' = false)
    (hsingle : test '\'' = false) : Stops test cs := by
  obtain ⟨opening, closing, rfl, hopening, -⟩ := quoted?_eq_some_iff.1 h
  rcases isQuote_iff.1 hopening with rfl | rfl
  · exact stops_cons hdouble
  · exact stops_cons hsingle

theorem stops_isSpace_of_quoted? (h : quoted? cs = some (spec, rest)) : Stops isSpace cs :=
  stops_of_quoted? h rfl rfl

end Words

section Clauses

/-- What may stand between the keyword of an import and its specifier: a gap, or names and the
keyword `from`, each behind a gap. -/
def IsBinding (clause : List Char) : Prop :=
  IsGap clause ∨ ∃ gap names gap' gap'', clause =
    gap ++ (names ++ (gap' ++ ("from".toList ++ gap''))) ∧ IsGap gap ∧ names ≠ [] ∧ IsGap gap' ∧
      IsGap gap''

theorem isBinding_of_span {trailing words : List Char} :
    clause.reverse.span isSpace = (trailing, words) → isBinding clause =
      if trailing.isEmpty then false
      else match words with
        | [] => true
        | 'm' :: 'o' :: 'r' :: 'f' :: names =>
            2 < names.length && names.head?.any isSpace && names.getLast?.any isSpace
        | _ => false := by
  intro h
  rw [List.span_eq_takeWhile_dropWhile, Prod.mk.injEq] at h
  obtain ⟨rfl, rfl⟩ := h
  rfl

/-- Three characters or more, the first and the last of them blank, are blanks around something. -/
theorem isBlank_outside_iff {names : List Char} :
    (2 < names.length && names.head?.any isSpace && names.getLast?.any isSpace) = true ↔
      ∃ first inner last, names = first :: (inner ++ [last]) ∧ inner ≠ [] ∧ isSpace first = true ∧
        isSpace last = true := by
  rw [Bool.and_eq_true, Bool.and_eq_true, decide_eq_true_eq]
  constructor
  · rintro ⟨⟨hlength, hhead⟩, hlast⟩
    cases names with
    | nil => cases hhead
    | cons first others =>
        have hothers : others ≠ [] := by
          rintro rfl
          simp at hlength
        obtain ⟨inner, last, rfl⟩ : ∃ inner last, others = inner ++ [last] :=
          ⟨_, _, (List.dropLast_concat_getLast hothers).symm⟩
        refine ⟨first, inner, last, rfl, ?_, by simpa using hhead, ?_⟩
        · rintro rfl
          simp at hlength
        · rw [← List.cons_append, List.getLast?_concat] at hlast
          simpa using hlast
  · rintro ⟨first, inner, last, rfl, hinner, hfirst, hlast⟩
    have hlength := List.length_pos_iff.2 hinner
    refine ⟨⟨by simpa using hlength, by simpa using hfirst⟩, ?_⟩
    rw [← List.cons_append, List.getLast?_concat]
    simpa using hlast

theorem isBinding_sound (h : isBinding clause = true) : IsBinding clause := by
  rcases hspan : clause.reverse.span isSpace with ⟨trailing, words⟩
  rw [isBinding_of_span hspan] at h
  obtain ⟨hclause, htrailing, -⟩ := span_eq_iff.1 hspan
  rw [List.reverse_eq_iff, List.reverse_append] at hclause
  split at h
  · cases h
  · rename_i hne
    have hgap : IsGap trailing.reverse :=
      ⟨by simpa using hne, fun c hc => htrailing c (List.mem_reverse.1 hc)⟩
    split at h
    · rw [List.reverse_nil, List.nil_append] at hclause
      rw [hclause]
      exact .inl hgap
    · rename_i names
      obtain ⟨last, inner, first, rfl, hinner, hlast, hfirst⟩ := isBlank_outside_iff.1 h
      refine .inr ⟨[first], inner.reverse, [last], trailing.reverse, ?_, ?_, by simpa, ?_, hgap⟩
      · rw [hclause]
        simp
      · exact ⟨by simp, List.forall_mem_singleton.2 hfirst⟩
      · exact ⟨by simp, List.forall_mem_singleton.2 hlast⟩
    · cases h

theorem IsBinding.isBinding (h : IsBinding clause) : isBinding clause = true := by
  rcases h with ⟨hne, hblank⟩ | ⟨gap, names, gap', gap'', rfl, hgap, hnames, hgap', hgap''⟩
  · have hspan : clause.reverse.span isSpace = (clause.reverse, []) :=
      span_eq_iff.2 ⟨by simp, fun c hc => hblank c (List.mem_reverse.1 hc), by simp [Stops]⟩
    rw [isBinding_of_span hspan, if_neg (by simpa using hne)]
  · obtain ⟨first, gap, rfl⟩ := List.exists_cons_of_ne_nil hgap.1
    obtain ⟨gap', last, rfl⟩ : ∃ init last, gap' = init ++ [last] :=
      ⟨_, _, (List.dropLast_concat_getLast hgap'.1).symm⟩
    have hreverse :
        (first :: gap ++ (names ++ (gap' ++ [last] ++ ("from".toList ++ gap'')))).reverse =
          gap''.reverse ++ 'm' :: 'o' :: 'r' :: 'f' ::
            last :: (gap'.reverse ++ (names.reverse ++ gap.reverse) ++ [first]) := by
      simp
    have hspan := span_eq_iff.2 ⟨hreverse, fun c hc => hgap''.2 c (List.mem_reverse.1 hc),
      stops_cons rfl⟩
    rw [isBinding_of_span hspan, if_neg (by simpa using hgap''.1)]
    exact isBlank_outside_iff.2 ⟨_, _, _, rfl, by simp [hnames], hgap'.2 _ (by simp),
      hgap.2 _ (by simp)⟩

theorem importStatement?_eq_some_iff : importStatement? cs = some (spec, rest) ↔
    ∃ clause source, cs = "import".toList ++ (clause ++ source) ∧ IsBinding clause ∧
      (∀ c ∈ clause, isClause c = true) ∧ quoted? source = some (spec, rest) := by
  rw [importStatement?]
  simp only [Option.bind_eq_bind, Option.bind_eq_some_iff, keyword?_eq_some_iff]
  constructor
  · rintro ⟨middle, rfl, h⟩
    rcases hspan : middle.span isClause with ⟨clause, source⟩
    rw [hspan] at h
    obtain ⟨rfl, hclause, -⟩ := span_eq_iff.1 hspan
    dsimp only at h
    split at h
    · rename_i hbinding
      exact ⟨clause, source, rfl, isBinding_sound hbinding, hclause, h⟩
    · cases h
  · rintro ⟨clause, source, rfl, hbinding, hclause, hquoted⟩
    have hstops : Stops isClause source := stops_of_quoted? hquoted (by decide) (by decide)
    refine ⟨_, rfl, ?_⟩
    rw [span_eq_iff.2 ⟨rfl, hclause, hstops⟩]
    dsimp only
    rw [if_pos hbinding.isBinding, hquoted]

end Clauses

section Exports

theorem fromSource?_eq_some_iff : fromSource? cs = some (spec, rest) ↔
    ∃ gap gap' source, cs = gap ++ ("from".toList ++ (gap' ++ source)) ∧ IsBlank gap ∧ IsGap gap' ∧
      quoted? source = some (spec, rest) := by
  rw [fromSource?]
  simp only [Option.bind_eq_bind, Option.bind_eq_some_iff, keyword?_eq_some_iff,
    spaces?_eq_some_iff, skipSpaces_eq_iff]
  constructor
  · rintro ⟨middle, ⟨gap, rfl, hgap, -⟩, source, ⟨gap', hgap', rfl, -⟩, hquoted⟩
    exact ⟨gap, gap', source, rfl, hgap, hgap', hquoted⟩
  · rintro ⟨gap, gap', source, rfl, hgap, hgap', hquoted⟩
    exact ⟨_, ⟨gap, rfl, hgap, stops_cons rfl⟩, source,
      ⟨gap', hgap', rfl, stops_isSpace_of_quoted? hquoted⟩, hquoted⟩

/-- Behind a gap there is a specifier or the keyword `from`, but not both. -/
theorem fromSource?_eq_none {gap source : List Char} (hgap : IsBlank gap)
    (h : quoted? source = some (spec, rest)) : fromSource? (gap ++ source) = none := by
  rw [fromSource?, skipSpaces_eq_iff.2 ⟨gap, rfl, hgap, stops_isSpace_of_quoted? h⟩]
  obtain ⟨opening, closing, rfl, hopening, -⟩ := quoted?_eq_some_iff.1 h
  rcases isQuote_iff.1 hopening with rfl | rfl <;> rfl

/-- Where the source is given behind a name, what else is read as part of the name can only be the
keyword `from`. -/
theorem eq_from_of_fromSource? {name after : List Char} (hname : IsIdentifier name)
    (hafter : Stops isIdent after) (h : fromSource? (name ++ after) = some (spec, rest)) :
    name = "from".toList ∧ ∃ gap source, after = gap ++ source ∧ IsGap gap ∧
      quoted? source = some (spec, rest) := by
  obtain ⟨gap, gap', source, heq, hgap, hgap', hquoted⟩ := fromSource?_eq_some_iff.1 h
  have hnil : gap = [] := by
    obtain ⟨c, name, rfl⟩ := List.exists_cons_of_ne_nil hname.1
    cases gap with
    | nil => rfl
    | cons first gap =>
        obtain ⟨rfl, -⟩ := List.cons.inj heq
        have hfirst := hgap _ List.mem_cons_self
        rw [isSpace_eq_false_of_isIdent (hname.2 _ List.mem_cons_self)] at hfirst
        cases hfirst
  rw [hnil, List.nil_append] at heq
  have hspan := span_eq_iff.2 ⟨heq.symm, hname.2, hafter⟩
  have hfrom : ∀ c ∈ "from".toList, isIdent c = true := List.all_eq_true.1 (by decide)
  have hstops : Stops isIdent (gap' ++ source) :=
    stops_append (stops_of_all hgap'.2 fun c => isIdent_eq_false_of_isSpace) hgap'.1
  rw [span_eq_iff.2 ⟨rfl, hfrom, hstops⟩, Prod.mk.injEq] at hspan
  exact ⟨hspan.1.symm, gap', source, hspan.2.symm, hgap', hquoted⟩

theorem lends_iff {name : List Char} :
    (4 < name.length && ['m', 'o', 'r', 'f'].isPrefixOf name.reverse) = true ↔
      ∃ init, init ≠ [] ∧ name = init ++ "from".toList := by
  rw [Bool.and_eq_true, decide_eq_true_eq, List.isPrefixOf_iff_prefix]
  constructor
  · rintro ⟨hlength, init, hinit⟩
    have hname : name = init.reverse ++ "from".toList := by
      rw [← List.reverse_reverse name, ← hinit, List.reverse_append]
      rfl
    refine ⟨init.reverse, ?_, hname⟩
    intro hnil
    rw [hname, hnil] at hlength
    exact absurd hlength (by decide)
  · rintro ⟨init, hinit, rfl⟩
    have hlength := List.length_pos_iff.2 hinit
    refine ⟨?_, init.reverse, by simp⟩
    rw [List.length_append]
    exact Nat.lt_add_of_pos_left hlength

theorem exists_name_of_named? (h : named? cs = some (spec, rest)) :
    ∃ gap gap' name after, cs = gap ++ ("as".toList ++ (gap' ++ (name ++ after))) ∧ IsGap gap ∧
      IsGap gap' ∧ IsIdentifier name ∧ fromSource? after = some (spec, rest) := by
  rw [named?] at h
  simp only [Option.bind_eq_bind, Option.bind_eq_some_iff, keyword?_eq_some_iff,
    spaces?_eq_some_iff] at h
  obtain ⟨_, ⟨gap, hgap, rfl, -⟩, _, rfl, named, ⟨gap', hgap', rfl, -⟩, h⟩ := h
  rcases hspan : named.span isIdent with ⟨name, after⟩
  rw [hspan] at h
  obtain ⟨rfl, hname, -⟩ := span_eq_iff.1 hspan
  dsimp only at h
  split at h
  · cases h
  · rename_i hne
    have hne : name ≠ [] := by simpa using hne
    split at h
    · rename_i found hfound
      obtain rfl := Option.some.inj h
      exact ⟨gap, gap', name, after, rfl, hgap, hgap', ⟨hne, hname⟩, hfound⟩
    · split at h
      · rename_i hlends
        obtain ⟨init, hinit, rfl⟩ := lends_iff.1 hlends
        obtain ⟨source, hspaces, hquoted⟩ := Option.bind_eq_some_iff.1 h
        obtain ⟨gap'', hgap'', rfl, -⟩ := spaces?_eq_some_iff.1 hspaces
        refine ⟨gap, gap', init, "from".toList ++ (gap'' ++ source), by simp, hgap, hgap',
          ⟨hinit, fun c hc => hname c (List.mem_append_left _ hc)⟩, ?_⟩
        exact fromSource?_eq_some_iff.2 ⟨[], gap'', source, rfl, isBlank_nil, hgap'', hquoted⟩
      · cases h

/-- A name is read to its end first. If that leaves no keyword `from`, its last four characters may
be that keyword; no other part of it can, since a gap can follow only behind its end. -/
theorem named?_of_name {gap gap' name after : List Char} (hgap : IsGap gap) (hgap' : IsGap gap')
    (hname : IsIdentifier name) (hsource : fromSource? after = some (spec, rest)) :
    named? (gap ++ ("as".toList ++ (gap' ++ (name ++ after)))) = some (spec, rest) := by
  have hstops : Stops isSpace (name ++ after) :=
    stops_append (stops_of_all hname.2 fun c => isSpace_eq_false_of_isIdent) hname.1
  rw [named?]
  simp only [Option.bind_eq_bind, Option.bind_eq_some_iff, keyword?_eq_some_iff,
    spaces?_eq_some_iff]
  refine ⟨_, ⟨gap, hgap, rfl, stops_cons rfl⟩, _, rfl, _, ⟨gap', hgap', rfl, hstops⟩, ?_⟩
  rcases hafter : after.span isIdent with ⟨more, tail⟩
  obtain ⟨rfl, hmore, htail⟩ := span_eq_iff.1 hafter
  have hall : ∀ c ∈ name ++ more, isIdent c = true := List.forall_mem_append.2 ⟨hname.2, hmore⟩
  rw [span_eq_iff.2 ⟨(List.append_assoc _ _ _).symm, hall, htail⟩]
  dsimp only
  rw [if_neg (by simp [hname.1])]
  cases more with
  | nil =>
      rw [List.nil_append] at hsource
      rw [hsource]
  | cons c more =>
      obtain ⟨hfrom, gap'', source, rfl, hgap'', hquoted⟩ :=
        eq_from_of_fromSource? ⟨by simp, hmore⟩ htail hsource
      rw [fromSource?_eq_none hgap''.2 hquoted]
      dsimp only
      rw [if_pos (lends_iff.2 ⟨name, hname.1, by rw [hfrom]⟩),
        spaces?_eq_some_iff.2 ⟨gap'', hgap'', rfl, stops_isSpace_of_quoted? hquoted⟩]
      exact hquoted

theorem named?_eq_none (h : fromSource? cs = some (spec, rest)) : named? cs = none := by
  obtain ⟨gap, gap', source, rfl, hgap, -⟩ := fromSource?_eq_some_iff.1 h
  rw [Option.eq_none_iff_forall_ne_some]
  rintro ⟨spec', rest'⟩ hnamed
  obtain ⟨blank, blank', name, after, heq, hblank, -⟩ := exists_name_of_named? hnamed
  have hfrom : Stops isSpace ("from".toList ++ (gap' ++ source)) := stops_cons rfl
  have has : Stops isSpace ("as".toList ++ (blank' ++ (name ++ after))) := stops_cons rfl
  have hsame := skipSpaces_eq_iff.2 ⟨gap, rfl, hgap, hfrom⟩
  rw [skipSpaces_eq_iff.2 ⟨blank, heq, hblank.2, has⟩] at hsame
  cases hsame

/-- What an export gives away: everything, everything under a name, or names in braces. -/
def IsExported (exported : List Char) : Prop :=
  exported = ['*'] ∨
  (∃ gap gap' name, exported = '*' :: (gap ++ ("as".toList ++ (gap' ++ name))) ∧ IsGap gap ∧
    IsGap gap' ∧ IsIdentifier name) ∨
  ∃ names, exported = '\x7b' :: (names ++ ['\x7d']) ∧ '\x7d' ∉ names

theorem exists_exported_of_exportStatement? (h : exportStatement? cs = some (spec, rest)) :
    ∃ gap exported after, cs = "export".toList ++ (gap ++ (exported ++ after)) ∧ IsGap gap ∧
      IsExported exported ∧ fromSource? after = some (spec, rest) := by
  rw [exportStatement?] at h
  simp only [Option.bind_eq_bind, Option.bind_eq_some_iff, keyword?_eq_some_iff,
    spaces?_eq_some_iff] at h
  obtain ⟨_, rfl, exported, ⟨gap, hgap, rfl, -⟩, h⟩ := h
  split at h
  · rename_i after
    split at h
    · rename_i found hnamed
      obtain rfl := Option.some.inj h
      obtain ⟨gap', gap'', name, after, rfl, hgap', hgap'', hname, hsource⟩ :=
        exists_name_of_named? hnamed
      exact ⟨gap, '*' :: (gap' ++ ("as".toList ++ (gap'' ++ name))), after, by simp, hgap,
        .inr (.inl ⟨gap', gap'', name, rfl, hgap', hgap'', hname⟩), hsource⟩
    · exact ⟨gap, ['*'], after, rfl, hgap, .inl rfl, h⟩
  · rename_i after
    split at h
    · rename_i closing others hdrop
      obtain ⟨names, rfl, hnames, hclosing⟩ := dropWhile_eq_iff.1 hdrop
      have hclosing := hclosing closing rfl
      obtain rfl : closing = '\x7d' := by simpa using hclosing
      exact ⟨gap, '\x7b' :: (names ++ ['\x7d']), others, by simp, hgap,
        .inr (.inr ⟨names, rfl, fun hmem => by simpa using hnames _ hmem⟩), h⟩
    · cases h
  · cases h

theorem exportStatement?_of_isExported {gap exported after : List Char} (hgap : IsGap gap)
    (hexported : IsExported exported) (hsource : fromSource? after = some (spec, rest)) :
    exportStatement? ("export".toList ++ (gap ++ (exported ++ after))) = some (spec, rest) := by
  have hstops : Stops isSpace (exported ++ after) := by
    rcases hexported with rfl | ⟨_, _, _, rfl, -⟩ | ⟨_, rfl, -⟩ <;> exact stops_cons rfl
  rw [exportStatement?]
  simp only [Option.bind_eq_bind, Option.bind_eq_some_iff, keyword?_eq_some_iff,
    spaces?_eq_some_iff]
  refine ⟨_, rfl, exported ++ after, ⟨gap, hgap, rfl, hstops⟩, ?_⟩
  rcases hexported with rfl | ⟨gap', gap'', name, rfl, hgap', hgap'', hname⟩ | ⟨names, rfl, hnames⟩
  · simp only [List.singleton_append, named?_eq_none hsource, hsource]
  · have hassoc : (gap' ++ ("as".toList ++ (gap'' ++ name))) ++ after =
        gap' ++ ("as".toList ++ (gap'' ++ (name ++ after))) := by simp
    rw [List.cons_append, hassoc]
    simp only [named?_of_name hgap' hgap'' hname hsource]
  · have hdrop : (names ++ '\x7d' :: after).dropWhile (· ≠ '\x7d') = '\x7d' :: after := by
      refine dropWhile_eq_iff.2 ⟨names, rfl, fun c hc => ?_, stops_cons rfl⟩
      exact decide_eq_true fun heq => hnames (heq ▸ hc)
    rw [List.cons_append, List.append_assoc, List.singleton_append]
    simp only [hdrop, hsource]

end Exports

section Calls

theorem callStatement?_eq_some_iff {name : String} : callStatement? name cs = some (spec, rest) ↔
    ∃ gap gap' gap'' source, cs = name.toList ++ (gap ++ '(' :: (gap' ++ source)) ∧ IsBlank gap ∧
      IsBlank gap' ∧ IsBlank gap'' ∧ quoted? source = some (spec, gap'' ++ ')' :: rest) := by
  rw [callStatement?]
  simp only [Option.bind_eq_bind, Option.bind_eq_some_iff, keyword?_eq_some_iff,
    char?_eq_some_iff, skipSpaces_eq_iff, Option.pure_def, Option.some.injEq, Prod.mk.injEq]
  constructor
  · rintro ⟨middle, rfl, inside, ⟨gap, rfl, hgap, -⟩, ⟨found, behind⟩, hquoted, after,
      ⟨gap'', hbehind, hgap'', -⟩, rfl, rfl⟩
    obtain ⟨gap', hinside, hgap', -⟩ := skipSpaces_eq_iff.1 (Eq.refl (skipSpaces inside))
    obtain rfl : behind = _ := hbehind
    exact ⟨gap, gap', gap'', _, by rw [← hinside], hgap, hgap', hgap'', hquoted⟩
  · rintro ⟨gap, gap', gap'', source, rfl, hgap, hgap', hgap'', hquoted⟩
    have hsource := skipSpaces_eq_iff.2 ⟨gap', rfl, hgap', stops_isSpace_of_quoted? hquoted⟩
    exact ⟨_, rfl, _, ⟨gap, rfl, hgap, stops_cons rfl⟩, _, by rw [hsource]; exact hquoted, rest,
      ⟨gap'', rfl, hgap'', stops_cons rfl⟩, rfl, rfl⟩

end Calls

end LiveBuild.Imports
