import LiveBuild.Proofs.ImportReaders
import Mathlib.Data.Option.Basic

/-!
# Import statements

A statement is a text of one of a few forms. No text begins with two of them, so neither the order
in which the forms are tried nor how far a reader goes first decides what is found.
-/

namespace LiveBuild.Imports

open Unicode (isWord isSpace)

variable {cs rest spec text : List Char}

section Grammar

/-- A specifier in its quotes. -/
def IsQuoted (text spec : List Char) : Prop :=
  ∃ opening closing, text = opening :: (spec ++ [closing]) ∧ isQuote opening = true ∧
    isQuote closing = true ∧ IsSpecifier spec

/-- The text of a statement, and the specifier that it names. -/
inductive IsStatement : List Char → List Char → Prop
  | imports {clause quoted spec : List Char} (binding : IsBinding clause)
      (characters : ∀ c ∈ clause, isClause c = true) (source : IsQuoted quoted spec) :
      IsStatement ("import".toList ++ (clause ++ quoted)) spec
  | exports {gap exported blank gap' quoted spec : List Char} (apart : IsGap gap)
      (what : IsExported exported) (before : IsBlank blank) (behind : IsGap gap')
      (source : IsQuoted quoted spec) :
      IsStatement ("export".toList ++ (gap ++ (exported ++ (blank ++ ("from".toList ++
        (gap' ++ quoted)))))) spec
  | calls {name : String} {blank blank' blank'' quoted spec : List Char}
      (called : name = "import" ∨ name = "require") (before : IsBlank blank)
      (inside : IsBlank blank') (behind : IsBlank blank'') (source : IsQuoted quoted spec) :
      IsStatement (name.toList ++ (blank ++ '(' :: (blank' ++ (quoted ++ (blank'' ++ [')']))))) spec

theorem quoted?_eq_some_iff_isQuoted : quoted? cs = some (spec, rest) ↔
    ∃ quoted, IsQuoted quoted spec ∧ cs = quoted ++ rest := by
  rw [quoted?_eq_some_iff]
  constructor
  · rintro ⟨opening, closing, rfl, h⟩
    exact ⟨_, ⟨opening, closing, rfl, h⟩, by simp⟩
  · rintro ⟨quoted, ⟨opening, closing, rfl, h⟩, rfl⟩
    exact ⟨opening, closing, by simp, h⟩

theorem IsQuoted.quoted? {quoted : List Char} (h : IsQuoted quoted spec) (rest : List Char) :
    quoted? (quoted ++ rest) = some (spec, rest) :=
  quoted?_eq_some_iff_isQuoted.2 ⟨quoted, h, rfl⟩

theorem IsStatement.isSpecifier (h : IsStatement text spec) : IsSpecifier spec := by
  cases h with
  | imports _ _ source | exports _ _ _ _ source | calls _ _ _ _ source =>
      obtain ⟨_, _, -, -, -, hspec⟩ := source
      exact hspec

/-- A call has a bracket where an import has its specifier. -/
theorem importStatement?_eq_none {blank after : List Char} (hblank : IsBlank blank) :
    importStatement? ("import".toList ++ (blank ++ '(' :: after)) = none := by
  rw [Option.eq_none_iff_forall_ne_some]
  rintro ⟨spec, rest⟩ h
  obtain ⟨clause, source, heq, -, hclause, hquoted⟩ := importStatement?_eq_some_iff.1 h
  have hsource : Stops isClause source := stops_of_quoted? hquoted (by decide) (by decide)
  have hbracket : Stops isClause ('(' :: after) := stops_cons (by decide)
  have hall : ∀ c ∈ blank, isClause c = true := by
    intro c hc
    simp [isClause, hblank c hc]
  have hspan := span_eq_iff.2 ⟨List.append_cancel_left heq, hclause, hsource⟩
  rw [span_eq_iff.2 ⟨rfl, hall, hbracket⟩, Prod.mk.injEq] at hspan
  rw [← hspan.2] at hquoted
  cases hquoted

theorem isStatement_of_statement? (h : statement? cs = some (spec, rest)) :
    ∃ text, IsStatement text spec ∧ cs = text ++ rest := by
  have hcall : ∀ name, name = "import" ∨ name = "require" →
      callStatement? name cs = some (spec, rest) → ∃ text, IsStatement text spec ∧
        cs = text ++ rest := by
    intro name hname h
    obtain ⟨blank, blank', blank'', source, rfl, hblank, hblank', hblank'', hquoted⟩ :=
      callStatement?_eq_some_iff.1 h
    obtain ⟨quoted, hsource, rfl⟩ := quoted?_eq_some_iff_isQuoted.1 hquoted
    exact ⟨_, .calls hname hblank hblank' hblank'' hsource, by simp⟩
  simp only [statement?, Option.orElse_eq_some] at h
  rcases h with h | ⟨-, h | ⟨-, h | ⟨-, h⟩⟩⟩
  · obtain ⟨clause, source, rfl, hbinding, hclause, hquoted⟩ := importStatement?_eq_some_iff.1 h
    obtain ⟨quoted, hsource, rfl⟩ := quoted?_eq_some_iff_isQuoted.1 hquoted
    exact ⟨_, .imports hbinding hclause hsource, by simp⟩
  · obtain ⟨gap, exported, after, rfl, hgap, hexported, hfrom⟩ :=
      exists_exported_of_exportStatement? h
    obtain ⟨blank, gap', source, rfl, hblank, hgap', hquoted⟩ := fromSource?_eq_some_iff.1 hfrom
    obtain ⟨quoted, hsource, rfl⟩ := quoted?_eq_some_iff_isQuoted.1 hquoted
    exact ⟨_, .exports hgap hexported hblank hgap' hsource, by simp⟩
  · exact hcall "import" (.inl rfl) h
  · exact hcall "require" (.inr rfl) h

theorem statement?_of_isStatement (h : IsStatement text spec) (rest : List Char) :
    statement? (text ++ rest) = some (spec, rest) := by
  simp only [statement?, Option.orElse_eq_some]
  cases h with
  | imports binding characters source =>
      left
      exact importStatement?_eq_some_iff.2
        ⟨_, _, by simp, binding, characters, source.quoted? rest⟩
  | exports apart what before behind source =>
      have hsource := fromSource?_eq_some_iff.2 ⟨_, _, _, rfl, before, behind, source.quoted? rest⟩
      refine .inr ⟨rfl, .inl ?_⟩
      simpa using exportStatement?_of_isExported apart what hsource
  | @calls name blank blank' blank'' quoted _ called before inside behind source =>
      have hassoc :
          name.toList ++ (blank ++ '(' :: (blank' ++ (quoted ++ (blank'' ++ [')'])))) ++ rest =
            name.toList ++ (blank ++ '(' :: (blank' ++ (quoted ++ (blank'' ++ ')' :: rest)))) := by
        simp
      rw [hassoc]
      have hcall : callStatement? name
          (name.toList ++ (blank ++ '(' :: (blank' ++ (quoted ++ (blank'' ++ ')' :: rest))))) =
            some (spec, rest) :=
        callStatement?_eq_some_iff.2
          ⟨blank, blank', blank'', _, rfl, before, inside, behind, source.quoted? _⟩
      rcases called with rfl | rfl
      · exact .inr ⟨importStatement?_eq_none before, .inr ⟨rfl, .inl hcall⟩⟩
      · exact .inr ⟨rfl, .inr ⟨rfl, .inr ⟨rfl, hcall⟩⟩⟩

/-- What is found at the beginning of a text is the one statement that it begins with. -/
theorem statement?_eq_some_iff : statement? cs = some (spec, rest) ↔
    ∃ text, IsStatement text spec ∧ cs = text ++ rest := by
  constructor
  · exact isStatement_of_statement?
  · rintro ⟨text, h, rfl⟩
    exact statement?_of_isStatement h rest

end Grammar

end LiveBuild.Imports
