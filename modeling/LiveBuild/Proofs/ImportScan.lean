import LiveBuild.Proofs.ImportStatements
import Mathlib.Data.List.Infix
import Mathlib.Data.List.Nodup

/-!
# Scanning a source text for imports

A text is sealed if it ends with a statement and its line, and leaves no brace open. No statement
that is found begins in a sealed text and ends behind it, so such a text and what stands behind it
are scanned apart, and every form of an import is found behind it.
-/

namespace LiveBuild.Imports

open Unicode (isWord isSpace)

variable {cs rest spec text part more first names : List Char} {test : Char → Bool}

section Sealed

/-- A text that ends with a statement and its line, and in which each brace that opens is closed. -/
structure Sealed (text : List Char) : Prop where
  ends : [';', '\n'] <:+ text
  closes : ∀ before after, text = before ++ '\x7b' :: after → '\x7d' ∈ after

/-- Each brace with what stands behind it is an end of the text. -/
theorem sealed_iff : Sealed text ↔
    [';', '\n'] <:+ text ∧ ∀ tail ∈ text.tails, tail.head? = some '\x7b' → '\x7d' ∈ tail := by
  constructor
  · rintro ⟨hends, hcloses⟩
    refine ⟨hends, fun tail htail hhead => ?_⟩
    obtain ⟨before, rfl⟩ := (List.mem_tails _ _).1 htail
    obtain ⟨after, rfl⟩ := List.head?_eq_some_iff.1 hhead
    exact List.mem_cons_of_mem _ (hcloses before after rfl)
  · rintro ⟨hends, hcloses⟩
    refine ⟨hends, fun before after hsplit => ?_⟩
    have hmem := hcloses ('\x7b' :: after) ((List.mem_tails _ _).2 ⟨before, hsplit.symm⟩) rfl
    exact (List.mem_cons.1 hmem).resolve_left (by decide)

instance : Decidable (Sealed text) := decidable_of_iff _ sealed_iff.symm

theorem Sealed.getLast? (h : Sealed text) : text.getLast? = some '\n' := by
  obtain ⟨before, rfl⟩ := h.ends
  rw [List.getLast?_append]
  rfl

theorem Sealed.of_append (h : Sealed (part ++ more)) (hmore : more ≠ [])
    (hlast : part.getLast? ≠ some ';') : Sealed more := by
  refine ⟨?_, fun before after hsplit => h.closes (part ++ before) after (by simp [hsplit])⟩
  obtain ⟨before, hbefore⟩ := h.ends
  rcases List.append_eq_append_iff.1 hbefore with ⟨inside, rfl, hends⟩ | ⟨between, -, rfl⟩
  · rcases List.cons_eq_append_iff.1 hends with ⟨-, rfl⟩ | ⟨inside, rfl, hline⟩
    · exact List.suffix_rfl
    · rcases List.singleton_eq_append_iff.1 hline with ⟨rfl, -⟩ | ⟨-, rfl⟩
      · exact absurd List.getLast?_concat hlast
      · exact absurd rfl hmore
  · exact ⟨between, rfl⟩

/-- A text that no sealed text begins, and that does not end like one of which the last character is
missing. -/
structure Unbroken (text : List Char) : Prop where
  not_sealed : ∀ first, first <+: text → ¬ Sealed first
  last : text.getLast? ≠ some ';'

theorem Unbroken.append (hpart : Unbroken part) (hmore : Unbroken more) :
    Unbroken (part ++ more) := by
  constructor
  · rintro first ⟨rest, hfirst⟩ hsealed
    rcases List.append_eq_append_iff.1 hfirst with ⟨inside, rfl, -⟩ | ⟨between, rfl, rfl⟩
    · exact hpart.not_sealed first (List.prefix_append _ _) hsealed
    · cases between with
      | nil => exact hpart.not_sealed _ (by simp) hsealed
      | cons c between =>
          exact hmore.not_sealed _ (List.prefix_append _ _)
            (hsealed.of_append (List.cons_ne_nil _ _) hpart.last)
  · rw [List.getLast?_append, ne_eq, Option.or_eq_some_iff]
    rintro (hlast | ⟨-, hlast⟩)
    · exact hmore.last hlast
    · exact hpart.last hlast

theorem unbroken_of_not_mem (h : ';' ∉ text) : Unbroken text := by
  refine ⟨fun first hfirst hsealed => h ?_, fun hlast => h (List.mem_of_getLast? hlast)⟩
  exact hfirst.subset (hsealed.ends.subset List.mem_cons_self)

theorem unbroken_of_all (h : ∀ c ∈ text, test c = true) (htest : test ';' = false) :
    Unbroken text := by
  apply unbroken_of_not_mem
  intro hmem
  rw [h _ hmem] at htest
  cases htest

theorem Unbroken.cons {c : Char} (h : Unbroken text) (hc : c ≠ ';') : Unbroken (c :: text) := by
  have hfirst : Unbroken [c] := unbroken_of_not_mem (by simpa using hc.symm)
  exact hfirst.append h

/-- A semicolon may stand between quotes, but no line break behind it. -/
theorem IsQuoted.unbroken {quoted : List Char} (h : IsQuoted quoted spec) : Unbroken quoted := by
  obtain ⟨opening, closing, rfl, hopening, hclosing, -, hspec⟩ := h
  have hline : ∀ c, isQuote c = true → c ≠ '\n' := by
    rintro c hc rfl
    cases hc
  constructor
  · intro first hfirst hsealed
    have hmem : '\n' ∈ opening :: (spec ++ [closing]) :=
      hfirst.subset (hsealed.ends.subset (by simp))
    rw [List.mem_cons, List.mem_append, List.mem_singleton] at hmem
    rcases hmem with hmem | hmem | hmem
    · exact hline opening hopening hmem.symm
    · exact absurd (hspec _ hmem) (by decide)
    · exact hline closing hclosing hmem.symm
  · rw [← List.cons_append, List.getLast?_concat, ne_eq, Option.some.injEq]
    rintro rfl
    cases hclosing

/-- Names in braces leave their brace open up to its closing. -/
theorem unbroken_braces (h : '\x7d' ∉ names) : Unbroken ('\x7b' :: (names ++ ['\x7d'])) := by
  rw [← List.cons_append]
  constructor
  · intro first hfirst hsealed
    rcases List.prefix_concat_iff.1 hfirst with rfl | ⟨rest, hnames⟩
    · have hlast := hsealed.getLast?
      rw [List.getLast?_concat] at hlast
      cases hlast
    · rcases List.append_eq_cons_iff.1 hnames with ⟨rfl, -⟩ | ⟨first, rfl, rfl⟩
      · cases hsealed.getLast?
      · exact h (List.mem_append_left _ (hsealed.closes [] first rfl))
  · rw [List.getLast?_concat]
    decide

theorem IsExported.unbroken {exported : List Char} (h : IsExported exported) :
    Unbroken exported := by
  rcases h with rfl | ⟨gap, gap', name, rfl, hgap, hgap', hname⟩ | ⟨names, rfl, hnames⟩
  · exact unbroken_of_not_mem (by decide)
  · exact ((unbroken_of_all hgap.2 rfl).append ((unbroken_of_not_mem (by decide)).append
      ((unbroken_of_all hgap'.2 rfl).append (unbroken_of_all hname.2 (by decide))))).cons
        (by decide)
  · exact unbroken_braces hnames

theorem IsStatement.unbroken (h : IsStatement text spec) : Unbroken text := by
  cases h with
  | imports _ characters source =>
      exact (unbroken_of_not_mem (by decide)).append
        ((unbroken_of_all characters (by decide)).append source.unbroken)
  | exports apart what before behind source =>
      exact (unbroken_of_not_mem (by decide)).append ((unbroken_of_all apart.2 rfl).append
        (what.unbroken.append ((unbroken_of_all before rfl).append
          ((unbroken_of_not_mem (by decide)).append ((unbroken_of_all behind.2 rfl).append
            source.unbroken)))))
  | calls called before inside behind source =>
      have hclosing : Unbroken [')'] := unbroken_of_not_mem (by decide)
      have hinside := (unbroken_of_all inside rfl).append
        (source.unbroken.append ((unbroken_of_all behind rfl).append hclosing))
      have hcall := (unbroken_of_all before rfl).append (hinside.cons (show '(' ≠ ';' by decide))
      rcases called with rfl | rfl
      · exact (unbroken_of_not_mem (by decide)).append hcall
      · exact (unbroken_of_not_mem (by decide)).append hcall

/-- A statement that begins in a sealed text ends in it. -/
theorem Sealed.statement?_append (h : Sealed first) (second : List Char) :
    statement? (first ++ second) =
      (statement? first).map fun found => (found.1, found.2 ++ second) := by
  apply Option.ext
  rintro ⟨spec, rest⟩
  simp only [Option.map_eq_some_iff, Prod.exists, statement?_eq_some_iff, Prod.mk.injEq]
  constructor
  · rintro ⟨text, htext, heq⟩
    rcases List.append_eq_append_iff.1 heq with ⟨inside, rfl, -⟩ | ⟨between, rfl, rfl⟩
    · exact absurd h (htext.unbroken.not_sealed first (List.prefix_append _ _))
    · exact ⟨spec, between, ⟨text, htext, rfl⟩, rfl, rfl⟩
  · rintro ⟨_, between, ⟨text, htext, rfl⟩, rfl, rfl⟩
    exact ⟨text, htext, List.append_assoc _ _ _⟩

end Sealed

section Scans

variable {items others : List (List Char)} {item : List Char} {afterWord : Bool} {skip : Nat}

/-- What is left of a sealed text while it is read. -/
def IsEnding (text : List Char) : Prop := text = [] ∨ text = ['\n'] ∨ Sealed text

theorem IsEnding.tail {c : Char} (h : IsEnding (c :: text)) : IsEnding text := by
  rcases h with h | h | h
  · cases h
  · exact .inl (List.cons.inj h).2
  · rcases List.suffix_cons_iff.1 h.ends with hall | hends
    · exact .inr (.inl (List.cons.inj hall).2.symm)
    · refine .inr (.inr ⟨hends, fun before after hsplit => ?_⟩)
      exact h.closes (c :: before) after (by rw [hsplit, List.cons_append])

theorem IsEnding.eq_newline {c : Char} (h : IsEnding [c]) : c = '\n' := by
  rcases h with h | h | h
  · cases h
  · exact (List.cons.inj h).1
  · exact Option.some.inj h.getLast?

theorem IsEnding.statement?_append (h : IsEnding text) (second : List Char) (hne : text ≠ []) :
    statement? (text ++ second) =
      (statement? text).map fun found => (found.1, found.2 ++ second) := by
  rcases h with h | rfl | h
  · exact absurd h hne
  · rfl
  · exact h.statement?_append second

/-- The induction is on the text that is read. What is left of it stays an ending, in which every
statement that is found ends, so the characters to be skipped never run out of it. -/
theorem specifiers_append (second : List Char) (h : IsEnding text)
    (hword : text = [] → afterWord = false) (hskip : skip ≤ text.length) :
    specifiers afterWord skip (text ++ second) =
      specifiers afterWord skip text ++ specifiers false 0 second := by
  induction text generalizing afterWord skip with
  | nil =>
      rw [hword rfl, Nat.le_zero.1 hskip, specifiers]
      rfl
  | cons c text ih =>
      have hnext : text = [] → isWord c = false := by
        rintro rfl
        rw [h.eq_newline]
        decide
      rw [List.cons_append]
      cases skip with
      | succ skip =>
          rw [specifiers, specifiers, ih h.tail hnext (Nat.le_of_succ_le_succ hskip)]
      | zero =>
          have hfound : (if afterWord then none else statement? (c :: (text ++ second))) =
              (if afterWord then none else statement? (c :: text)).map
                fun found => (found.1, found.2 ++ second) := by
            split
            · rfl
            · exact h.statement?_append second (List.cons_ne_nil _ _)
          rw [specifiers, specifiers, hfound]
          cases (if afterWord then none else statement? (c :: text)) with
          | none => exact ih h.tail hnext (Nat.zero_le _)
          | some found =>
              dsimp only [Option.map_some]
              rw [List.length_append, List.length_append, Nat.add_sub_add_right,
                ih h.tail hnext (Nat.sub_le _ _), List.cons_append]

theorem mem_distinct : item ∈ distinct items ↔ item ∈ items := by
  induction items with
  | nil => rfl
  | cons first items ih =>
      rw [distinct, List.mem_cons, List.mem_filter, ih, List.mem_cons]
      by_cases hitem : item = first <;> simp [hitem]

theorem nodup_distinct (items : List (List Char)) : (distinct items).Nodup := by
  induction items with
  | nil => exact List.nodup_nil
  | cons first items ih =>
      rw [distinct, List.nodup_cons]
      exact ⟨by simp, ih.filter _⟩

theorem distinct_append (items others : List (List Char)) :
    distinct (items ++ others) =
      distinct items ++ (distinct others).filter (fun item => item ∉ items) := by
  induction items with
  | nil => exact (List.filter_eq_self.2 (by simp)).symm
  | cons first items ih =>
      rw [List.cons_append, distinct, ih, distinct, List.filter_append, List.filter_filter,
        List.cons_append]
      congr 2
      apply List.filter_congr
      intro item _
      simp

theorem mem_scan {spec source : String} :
    spec ∈ scan source ↔ spec.toList ∈ specifiers false 0 source.toList := by
  rw [scan, List.mem_map]
  constructor
  · rintro ⟨found, hfound, rfl⟩
    rw [String.toList_ofList]
    exact mem_distinct.1 hfound
  · intro h
    exact ⟨spec.toList, mem_distinct.2 h, String.ofList_toList⟩

/-- Only the specifiers of statements in a text are found in it. -/
theorem exists_isStatement_of_mem (h : item ∈ specifiers afterWord skip cs) :
    ∃ text, IsStatement text item ∧ text <:+: cs := by
  have hlater : ∀ {c : Char} {cs : List Char},
      (∃ text, IsStatement text item ∧ text <:+: cs) →
        ∃ text, IsStatement text item ∧ text <:+: c :: cs := by
    rintro c cs ⟨text, htext, hinfix⟩
    exact ⟨text, htext, List.infix_cons hinfix⟩
  induction cs generalizing afterWord skip with
  | nil => cases h
  | cons c cs ih =>
      cases skip with
      | succ skip => exact hlater (ih h)
      | zero =>
          rw [specifiers] at h
          split at h
          · rename_i found after hfound
            split at hfound
            · cases hfound
            · rcases List.mem_cons.1 h with rfl | h
              · obtain ⟨text, htext, heq⟩ := statement?_eq_some_iff.1 hfound
                exact ⟨text, htext, heq ▸ (List.prefix_append _ _).isInfix⟩
              · exact hlater (ih h)
          · exact hlater (ih h)

/-- A sealed text and what stands behind it are scanned apart. -/
theorem scan_append_of_sealed {first : String} (h : Sealed first.toList) (second : String) :
    scan (first ++ second) =
      scan first ++ (scan second).filter (fun spec => spec ∉ scan first) := by
  have hnew : ∀ item, decide (String.ofList item ∉ scan first) =
      decide (item ∉ specifiers false 0 first.toList) := by
    intro item
    simp only [mem_scan, String.toList_ofList]
  calc scan (first ++ second)
      = (distinct (specifiers false 0 first.toList ++ specifiers false 0 second.toList)).map
          String.ofList := by
        rw [scan, String.toList_append,
          specifiers_append _ (.inr (.inr h)) (fun _ => rfl) (Nat.zero_le _)]
    _ = scan first ++ ((distinct (specifiers false 0 second.toList)).filter
          (fun item => item ∉ specifiers false 0 first.toList)).map String.ofList := by
        rw [distinct_append, List.map_append, scan]
    _ = scan first ++ (scan second).filter (fun spec => spec ∉ scan first) := by
        rw [scan.eq_def second, List.filter_map]
        simp only [Function.comp_def, hnew]

theorem scan_append_of_sealed_exports :
    Sealed "export \x7b a \x7d from './a';\n".toList ∧
      scan ("export \x7b a \x7d from './a';\n" ++ "import './b'; import './a'") =
        scan "export \x7b a \x7d from './a';\n" ++
          (scan "import './b'; import './a'").filter
            (fun spec => spec ∉ scan "export \x7b a \x7d from './a';\n") :=
  ⟨by decide, scan_append_of_sealed (by decide) _⟩

end Scans

section Forms

/-- The forms in which a source names what it imports, each with what is free in it. -/
inductive Form where
  | named (clause : String)
  | bare
  | all
  | allAs (name : String)
  | listed (names : String)
  | dynamic
  | required

def Form.IsProper : Form → Prop
  | named clause => clause ≠ "" ∧ ∀ c ∈ clause.toList, isClause c = true
  | allAs name => name ≠ "" ∧ ∀ c ∈ name.toList, isIdent c = true
  | listed names => '\x7d' ∉ names.toList
  | bare | all | dynamic | required => True

instance : DecidablePred Form.IsProper
  | .named clause => decidable_of_iff (clause ≠ "" ∧ clause.toList.all isClause = true)
      (and_congr_right' List.all_eq_true)
  | .allAs name => decidable_of_iff (name ≠ "" ∧ name.toList.all isIdent = true)
      (and_congr_right' List.all_eq_true)
  | .listed names => inferInstanceAs (Decidable ('\x7d' ∉ names.toList))
  | .bare | .all | .dynamic | .required => .isTrue trivial

def Form.spelling (source : String) : Form → String
  | named clause => "import " ++ clause ++ " from " ++ source
  | bare => "import " ++ source
  | all => "export * from " ++ source
  | allAs name => "export * as " ++ name ++ " from " ++ source
  | listed names => "export \x7b" ++ names ++ "\x7d from " ++ source
  | dynamic => "import(" ++ source ++ ")"
  | required => "require(" ++ source ++ ")"

def inQuotes (quote : Char) (spec : String) : String :=
  String.singleton quote ++ spec ++ String.singleton quote

/-- A text that is not empty and has neither a quote nor a line break in it. -/
def IsPlain (spec : String) : Prop :=
  spec ≠ "" ∧ ∀ c ∈ spec.toList, c ≠ '"' ∧ c ≠ '\'' ∧ c ≠ '\n'

theorem isPlain_iff {spec : String} : IsPlain spec ↔ IsSpecifier spec.toList := by
  simp [IsPlain, IsSpecifier, isInner, isQuote, and_assoc]

instance : DecidablePred IsPlain := fun spec =>
  decidable_of_iff (spec.toList ≠ [] ∧ spec.toList.all isInner = true)
    ((and_congr_right' List.all_eq_true).trans isPlain_iff.symm)

theorem isGap_blank : IsGap [' '] := ⟨by simp, List.forall_mem_singleton.2 rfl⟩

theorem Form.isStatement {form : Form} {source : String} (h : form.IsProper)
    (hsource : IsQuoted source.toList spec) : IsStatement (form.spelling source).toList spec := by
  have hexports : ∀ exported, IsExported exported →
      IsStatement ("export ".toList ++ (exported ++ (" from ".toList ++ source.toList))) spec :=
    fun _ hexported => .exports isGap_blank hexported isGap_blank.2 isGap_blank hsource
  have hcalls : ∀ name, name = "import" ∨ name = "require" →
      IsStatement (name.toList ++ '(' :: (source.toList ++ [')'])) spec :=
    fun _ hname => .calls hname isBlank_nil isBlank_nil isBlank_nil hsource
  cases form with
  | named clause =>
      have hclause : clause.toList ≠ [] := by simpa using h.1
      have hall : ∀ c ∈ [' '] ++ (clause.toList ++ ([' '] ++ ("from".toList ++ [' ']))),
          isClause c = true := by
        have hblank : ∀ c ∈ [' '], isClause c = true := List.all_eq_true.1 (by decide)
        simp only [List.forall_mem_append]
        exact ⟨hblank, h.2, hblank, List.all_eq_true.1 (by decide), hblank⟩
      have hbinding : IsBinding ([' '] ++ (clause.toList ++ ([' '] ++ ("from".toList ++ [' '])))) :=
        .inr ⟨_, _, _, _, rfl, isGap_blank, hclause, isGap_blank, isGap_blank⟩
      have hstatement := IsStatement.imports hbinding hall hsource
      simpa [spelling, String.toList_append] using hstatement
  | bare =>
      have hblank : ∀ c ∈ [' '], isClause c = true := List.all_eq_true.1 (by decide)
      have hstatement := IsStatement.imports (.inl isGap_blank) hblank hsource
      simpa [spelling, String.toList_append] using hstatement
  | all => simpa [spelling, String.toList_append] using hexports ['*'] (.inl rfl)
  | allAs name =>
      have hname : IsIdentifier name.toList := ⟨by simpa using h.1, h.2⟩
      have hstatement := hexports _
        (.inr (.inl ⟨_, _, name.toList, rfl, isGap_blank, isGap_blank, hname⟩))
      simpa [spelling, String.toList_append] using hstatement
  | listed names =>
      have hstatement := hexports _ (.inr (.inr ⟨names.toList, rfl, h⟩))
      simpa [spelling, String.toList_append] using hstatement
  | dynamic => simpa [spelling, String.toList_append] using hcalls "import" (.inl rfl)
  | required => simpa [spelling, String.toList_append] using hcalls "require" (.inr rfl)

theorem isQuoted_inQuotes {quote : Char} {spec : String} (hquote : quote = '"' ∨ quote = '\'')
    (hspec : IsPlain spec) : IsQuoted (inQuotes quote spec).toList spec.toList := by
  have hquote := isQuote_iff.2 hquote
  exact ⟨quote, quote, by simp [inQuotes], hquote, hquote, isPlain_iff.1 hspec⟩

/-- A statement that stands behind a sealed text is found, whatever follows it. -/
theorem mem_scan_of_isStatement {before source spec after : String}
    (hbefore : before = "" ∨ Sealed before.toList) (h : IsStatement source.toList spec.toList) :
    spec ∈ scan (before ++ source ++ after) := by
  have hending : IsEnding before.toList := by
    rcases hbefore with rfl | hbefore
    · exact .inl rfl
    · exact .inr (.inr hbefore)
  have hfound := statement?_eq_some_iff.2 ⟨_, h, Eq.refl (source.toList ++ after.toList)⟩
  rw [mem_scan, String.append_assoc, String.toList_append, String.toList_append,
    specifiers_append _ hending (fun _ => rfl) (Nat.zero_le _)]
  apply List.mem_append_right
  cases hsource : source.toList ++ after.toList with
  | nil =>
      rw [hsource] at hfound
      cases hfound
  | cons c rest =>
      rw [hsource] at hfound
      rw [specifiers, if_neg Bool.false_ne_true, hfound]
      exact List.mem_cons_self

/-- Every form is found where it stands at the beginning or behind a sealed text, and what is found
is plain and found once. -/
theorem scan_finds_forms :
    (∀ (form : Form) (quote : Char) (before spec after : String), form.IsProper →
      (quote = '"' ∨ quote = '\'') → IsPlain spec → (before = "" ∨ Sealed before.toList) →
        spec ∈ scan (before ++ form.spelling (inQuotes quote spec) ++ after)) ∧
    ∀ source, (scan source).Nodup ∧ ∀ spec ∈ scan source, IsPlain spec := by
  refine ⟨?_, fun source => ⟨?_, ?_⟩⟩
  · intro form quote before spec after hform hquote hspec hbefore
    exact mem_scan_of_isStatement hbefore (Form.isStatement hform (isQuoted_inQuotes hquote hspec))
  · exact (nodup_distinct _).map fun _ _ => String.ofList_injective
  · intro spec hspec
    obtain ⟨text, htext, -⟩ := exists_isStatement_of_mem (mem_scan.1 hspec)
    exact isPlain_iff.2 htext.isSpecifier

theorem scan_finds_forms_named :
    (Form.named "from, \x7b from as from \x7d").IsProper ∧ IsPlain "./lib" ∧
      Sealed "export \x7b a \x7d;\n".toList ∧
      "./lib" ∈ scan ("export \x7b a \x7d;\n" ++
        (Form.named "from, \x7b from as from \x7d").spelling (inQuotes '"' "./lib") ++
          " from './other'") :=
  ⟨by decide, by decide, by decide,
    scan_finds_forms.1 _ _ _ _ _ (by decide) (.inl rfl) (by decide) (.inr (by decide))⟩

end Forms

end LiveBuild.Imports
