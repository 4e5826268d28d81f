import LiveBuild.Build.Lookup
import LiveBuild.Proofs.Outputs

/-!
# Places below a directory

A path lies below another one if it is that path followed by names. Normalising a path from the root
leaves nothing but names behind the root, and what is put together from there by listing a directory
or by looking up an import keeps that form. So a source in the base directory lies below it, and
what is written for it lies below the output directory.
-/

namespace LiveBuild

namespace Path

variable {p q base : Path} {names rest : List Component}

/-- Ordinary names, each of which stands for itself between slashes. -/
def AreNames (names : List Component) : Prop :=
  ∀ component ∈ names, ∃ name, component = .name name ∧ IsName name

/-- Steps up and ordinary names: what stands behind the beginning of a path. -/
def AreSteps (steps : List Component) : Prop :=
  ∀ component ∈ steps, component = .up ∨ ∃ name, component = .name name ∧ IsName name

/-- A path is another one followed by one or more names. -/
def IsBelow (p base : Path) : Prop :=
  ∃ names, names ≠ [] ∧ AreNames names ∧ p.components = base.components ++ names

/-- A path leads from the root through names only. -/
def IsNormal (p : Path) : Prop := ∃ names, AreNames names ∧ p.components = .root :: names

theorem AreNames.append (h : AreNames names) (h' : AreNames rest) : AreNames (names ++ rest) := by
  intro component hcomponent
  rcases List.mem_append.1 hcomponent with hcomponent | hcomponent
  · exact h component hcomponent
  · exact h' component hcomponent

theorem AreNames.areSteps (h : AreNames names) : AreSteps names :=
  fun component hcomponent => .inr (h component hcomponent)

theorem areSteps_inner (text : List Char) : AreSteps (inner (pieces text)) := by
  intro component hcomponent
  obtain ⟨piece, hmem, hpiece⟩ := List.mem_filterMap.1 hcomponent
  cases component with
  | name name =>
      have hname := ofPiece?_eq_name hpiece
      refine .inr ⟨name, rfl, ?_⟩
      rw [IsName, ← hname, String.toList_ofList]
      exact ⟨not_mem_of_mem_pieces hmem, by rw [hpiece, hname]⟩
  | up => exact .inl rfl
  | root => unfold Component.ofPiece? at hpiece; split at hpiece <;> simp at hpiece
  | here => unfold Component.ofPiece? at hpiece; split at hpiece <;> simp at hpiece

theorem areNames_singleton {name : String} (h : IsName name) : AreNames [.name name] := by
  rintro component hcomponent
  exact ⟨name, List.mem_singleton.1 hcomponent, h⟩

/-- Whatever names occur in a path stand for themselves. -/
theorem areNames_of_isName (h : ∀ component ∈ names, component.isName = true)
    (hsub : ∀ component ∈ names, component ∈ p.components) : AreNames names := by
  intro component hcomponent
  have hname := h component hcomponent
  cases component with
  | name name => exact ⟨name, rfl, isName_of_mem (hsub _ hcomponent)⟩
  | _ => exact absurd hname Bool.false_ne_true

theorem IsBelow.congr (h : p.IsBelow base) (hpq : p.components = q.components) :
    q.IsBelow base := by
  obtain ⟨names, hne, hnames, hp⟩ := h
  exact ⟨names, hne, hnames, hpq.symm.trans hp⟩

theorem IsBelow.startsWith (h : p.IsBelow base) : p.startsWith base = true := by
  obtain ⟨names, -, -, hp⟩ := h
  rw [startsWith_iff, hp]
  exact List.prefix_append _ _

theorem IsNormal.isAbsolute (h : p.IsNormal) : p.isAbsolute = true := by
  obtain ⟨names, -, hp⟩ := h
  rw [isAbsolute_iff, hp]
  rfl

theorem IsNormal.components_ne_nil (h : p.IsNormal) : p.components ≠ [] :=
  components_ne_nil_of_isAbsolute h.isAbsolute

/-- A normal path within a directory is the directory itself, or lies below it. -/
theorem IsNormal.isBelow (h : p.IsNormal) (hstarts : p.startsWith base = true)
    (hbase : base.components ≠ []) (hne : p.components ≠ base.components) : p.IsBelow base := by
  obtain ⟨names, hnames, hp⟩ := h
  obtain ⟨rest, hrest⟩ := startsWith_iff.1 hstarts
  refine ⟨rest, fun hnil => ?_, ?_, hrest.symm⟩
  · rw [hnil, List.append_nil] at hrest
    exact hne hrest.symm
  · cases hcomponents : base.components with
    | nil => exact absurd hcomponents hbase
    | cons first others =>
        rw [hp, hcomponents, List.cons_append] at hrest
        intro component hcomponent
        refine hnames component ?_
        rw [← (List.cons.inj hrest).2]
        exact List.mem_append_right _ hcomponent

section Normalising

theorem components_of_isAbsolute (h : p.isAbsolute = true) :
    ∃ rest, p.components = .root :: rest ∧ AreSteps rest := by
  have hhead := isAbsolute_iff.1 h
  cases hp : p.components with
  | nil => simp [hp] at hhead
  | cons first rest =>
      rw [hp, List.head?_cons, Option.some.injEq] at hhead
      subst hhead
      refine ⟨rest, rfl, fun component hcomponent => ?_⟩
      -- Behind the root there are inner components only.
      refine areSteps_inner p.text.toList component ?_
      have hall := components_eq_pieces p
      rw [hp] at hall
      cases hlead : lead (pieces p.text.toList) with
      | nil =>
          rw [hlead, List.nil_append] at hall
          rw [← hall]
          exact List.mem_cons_of_mem _ hcomponent
      | cons first others =>
          have hothers : others = [] := by
            unfold lead at hlead
            split at hlead <;> simp_all
          rw [hlead, hothers, List.singleton_append] at hall
          rwa [← (List.cons.inj hall).2]

/-- The stack of a normalisation that began with the root holds names above it. -/
theorem foldl_pushNormal {stack : List Component} (hstack : AreNames stack)
    (hrest : AreSteps rest) :
    ∃ names, AreNames names ∧
      rest.foldl pushNormal (stack ++ [.root]) = names ++ [.root] := by
  induction rest generalizing stack with
  | nil => exact ⟨stack, hstack, rfl⟩
  | cons component rest ih =>
      have hothers := fun other hother => hrest other (List.mem_cons_of_mem _ hother)
      rcases hrest component List.mem_cons_self with rfl | ⟨name, rfl, hname⟩
      · cases stack with
        | nil => exact ih hstack hothers
        | cons top below =>
            obtain ⟨name, rfl, -⟩ := hstack top List.mem_cons_self
            exact ih (fun other hother => hstack other (List.mem_cons_of_mem _ hother)) hothers
      · exact ih ((areNames_singleton hname).append hstack) hothers

theorem exists_normalComponents (h : p.isAbsolute = true) :
    ∃ names, AreNames names ∧ normalComponents p.components = .root :: names := by
  obtain ⟨rest, hp, hrest⟩ := components_of_isAbsolute h
  have hnil : AreNames [] := fun _ hcomponent => nomatch hcomponent
  obtain ⟨names, hnames, hfold⟩ := foldl_pushNormal hnil hrest
  refine ⟨names.reverse, fun component hcomponent => hnames component (by simpa using hcomponent),
    ?_⟩
  rw [normalComponents, hp, List.foldl_cons]
  change (rest.foldl pushNormal ([] ++ [.root])).reverse = _
  rw [hfold, List.reverse_append]
  rfl

theorem pieces_intercalate {parts : List (List Char)} (hne : parts ≠ [])
    (hslash : ∀ part ∈ parts, '/' ∉ part) : pieces (['/'].intercalate parts) = parts := by
  induction parts with
  | nil => exact absurd rfl hne
  | cons part others ih =>
      have hpart := hslash part List.mem_cons_self
      cases others with
      | nil => simpa using pieces_of_not_mem hpart
      | cons second others =>
          rw [List.intercalate_cons_cons, List.append_assoc, List.singleton_append,
            pieces_append_slash, pieces_of_not_mem hpart,
            ih (by simp) fun other hother => hslash other (List.mem_cons_of_mem _ hother)]
          rfl

theorem pieces_ofComponents (hne : names ≠ []) (hnames : AreNames names) :
    pieces (ofComponents (.root :: names)).text.toList =
      [] :: names.map fun component => component.text.toList := by
  have htext : (ofComponents (.root :: names)).text.toList =
      [] ++ '/' :: ['/'].intercalate (names.map fun component => component.text.toList) := by
    rw [ofComponents, text_ofString, String.toList_append, String.toList_intercalate, List.map_map]
    rfl
  rw [htext, pieces_append_slash, pieces_intercalate (by simpa using hne)]
  · rfl
  · intro part hpart
    obtain ⟨component, hcomponent, rfl⟩ := List.mem_map.1 hpart
    obtain ⟨name, rfl, hname⟩ := hnames component hcomponent
    exact hname.1

theorem inner_map_text {steps : List Component} (hsteps : AreSteps steps) :
    inner (steps.map fun component => component.text.toList) = steps := by
  induction steps with
  | nil => rfl
  | cons component steps ih =>
      have hrest := ih fun other hother => hsteps other (List.mem_cons_of_mem _ hother)
      have hpiece : Component.ofPiece? component.text.toList = some component := by
        rcases hsteps component List.mem_cons_self with rfl | ⟨name, rfl, hname⟩
        · rfl
        · exact hname.2
      rw [List.map_cons, inner, List.filterMap_cons, hpiece]
      exact congrArg _ hrest

theorem components_ofComponents (hnames : AreNames names) :
    (ofComponents (.root :: names)).components = .root :: names := by
  by_cases hne : names = []
  · subst hne
    rfl
  · rw [components_eq_pieces, pieces_ofComponents hne hnames]
    have hinner : inner ([] :: names.map fun component => component.text.toList) = names :=
      inner_map_text hnames.areSteps
    rw [hinner]
    cases hparts : names.map fun component => component.text.toList with
    | nil => exact absurd (List.map_eq_nil_iff.1 hparts) hne
    | cons first others => rfl

theorem exists_normalize (h : p.isAbsolute = true) :
    ∃ names, AreNames names ∧ p.normalize = ofComponents (.root :: names) ∧
      p.normalize.components = .root :: names := by
  obtain ⟨names, hnames, hnormal⟩ := exists_normalComponents h
  refine ⟨names, hnames, by rw [normalize, hnormal], ?_⟩
  rw [normalize, hnormal, components_ofComponents hnames]

/-- Normalising a path from the root leaves nothing but names behind the root. -/
theorem isNormal_normalize (h : p.isAbsolute = true) : p.normalize.IsNormal := by
  obtain ⟨names, hnames, -, hcomponents⟩ := exists_normalize h
  exact ⟨names, hnames, hcomponents⟩

/-- The normal paths are those from the root that normalising leaves in their place. -/
theorem isNormal_iff : p.IsNormal ↔
    p.isAbsolute = true ∧ p.normalize.components = p.components := by
  refine ⟨fun h => ⟨h.isAbsolute, ?_⟩, fun ⟨habsolute, hsame⟩ => ?_⟩
  · obtain ⟨names, hnames, hp⟩ := h
    have hfold : ∀ stack, names.foldl pushNormal stack = names.reverse ++ stack := by
      clear hp
      induction names with
      | nil => exact fun stack => rfl
      | cons component names ih =>
          intro stack
          obtain ⟨name, rfl, -⟩ := hnames component List.mem_cons_self
          have hrest := ih (fun other hother => hnames other (List.mem_cons_of_mem _ hother))
            (.name name :: stack)
          rw [List.foldl_cons, List.reverse_cons, List.append_assoc]
          exact hrest
    have hnormal : normalComponents p.components = .root :: names := by
      rw [hp, normalComponents, List.foldl_cons, hfold]
      simp [pushNormal]
    rw [normalize, hnormal, components_ofComponents hnames, hp]
  · obtain ⟨names, hnames, -, hnormal⟩ := exists_normalize habsolute
    exact ⟨names, hnames, hsame.symm.trans hnormal⟩

theorem isAbsolute_join (h : p.isAbsolute = true) (q : Path) : (p.join q).isAbsolute = true := by
  cases hq : q.isAbsolute with
  | true => rwa [join, if_pos hq]
  | false => exact isAbsolute_of_startsWith (startsWith_join hq p) h

end Normalising

section Putting

theorem IsNormal.join_name (h : p.IsNormal) {name : String} (hname : IsName name) :
    (p.join (ofString name)).IsNormal := by
  obtain ⟨names, hnames, hp⟩ := h
  refine ⟨names ++ [.name name], hnames.append (areNames_singleton hname), ?_⟩
  rw [components_join_name hname, hp]
  rfl

theorem pieces_append_text {P : List (List Char)} {text piece b : List Char}
    (h : pieces text = P ++ [piece]) (hb : '/' ∉ b) : pieces (text ++ b) = P ++ [piece ++ b] := by
  obtain ⟨rest, htext, hrest⟩ := text_of_pieces h
  have hpieces : ∀ piece ∈ pieces text, '/' ∉ piece := fun piece => not_mem_of_mem_pieces
  rw [h] at hpieces
  obtain ⟨hpiece, ⟨-, hnil⟩ | ⟨others, -, hothers⟩⟩ := pieces_eq_cons hrest
  · have hjoined : '/' ∉ piece ++ b := by simp [hpiece, hb]
    rw [htext, hnil, List.append_assoc,
      pieces_closed_append fun piece hmem => hpieces piece (List.mem_append_left _ hmem),
      pieces_of_not_mem hjoined]
  · exact absurd hothers (pieces_ne_nil others)

/-- A suffix becomes part of the last name, if that is how the spelling ends. -/
theorem components_append {P : List (List Char)} {name suffix : String}
    (h : pieces p.text.toList = P ++ [name.toList]) (hP : P ≠ []) (hname : IsName name)
    (hsuffix : '/' ∉ suffix.toList) :
    IsName (name ++ suffix) ∧
      (p.append suffix).components = p.components.dropLast ++ [.name (name ++ suffix)] := by
  obtain ⟨hslash, hpiece⟩ := hname
  have hnil : name.toList ≠ [] := by
    intro heq
    simp [heq, Component.ofPiece?] at hpiece
  have hhere : name.toList ≠ ['.'] := by
    intro heq
    simp [heq, Component.ofPiece?] at hpiece
  have hup : name.toList ≠ ['.', '.'] := by
    intro heq
    simp [heq, Component.ofPiece?] at hpiece
  have hextended : Component.ofPiece? (name.toList ++ suffix.toList) =
      some (.name (name ++ suffix)) := by
    rw [ofPiece?_of_ne, ← String.toList_append, String.ofList_toList]
    · simp [hnil]
    · intro heq
      rcases List.append_eq_singleton_iff.1 heq with ⟨heq, -⟩ | ⟨heq, -⟩
      · exact hnil heq
      · exact hhere heq
    · intro heq
      cases hchars : name.toList with
      | nil => exact hnil hchars
      | cons c others =>
          rw [hchars, List.cons_append, List.cons.injEq] at heq
          obtain ⟨rfl, heq⟩ := heq
          rcases List.append_eq_singleton_iff.1 heq with ⟨rfl, -⟩ | ⟨rfl, -⟩
          · exact hhere hchars
          · exact hup hchars
  refine ⟨⟨by simp [hslash, hsuffix], by rw [String.toList_append, hextended]⟩, ?_⟩
  have hpieces := pieces_append_text h hsuffix
  rw [components_eq_pieces, append, text_ofString, String.toList_append, hpieces,
    components_eq_pieces p, h, inner_append, inner_append, ← List.append_assoc,
    ← List.append_assoc, lead_append hP (R := [name.toList]) (by simp) (by simp)]
  have hinner : inner [name.toList] = [.name name] := by
    rw [inner, List.filterMap_cons, hpiece]
    rfl
  have hinner' : inner [name.toList ++ suffix.toList] = [.name (name ++ suffix)] := by
    rw [inner, List.filterMap_cons, hextended]
    rfl
  rw [hinner, hinner', List.dropLast_concat]

theorem IsNormal.of_dropLast {name : String} (h : p.IsNormal) (hp : p.components ≠ [.root])
    (hname : IsName name) (hq : q.components = p.components.dropLast ++ [.name name]) :
    q.IsNormal := by
  obtain ⟨names, hnames, hcomponents⟩ := h
  have hne : names ≠ [] := by
    rintro rfl
    exact hp hcomponents
  refine ⟨names.dropLast ++ [.name name], .append ?_ (areNames_singleton hname), ?_⟩
  · exact fun component hcomponent => hnames component (List.dropLast_subset _ hcomponent)
  · rw [hq, hcomponents, List.dropLast_cons_of_ne_nil hne]
    rfl

theorem IsNormal.exists_parent? (h : p.IsNormal) (hp : p.components ≠ [.root]) :
    ∃ d, p.parent? = some d ∧ d.isAbsolute = true := by
  obtain ⟨names, hnames, hcomponents⟩ := h
  have hne : names ≠ [] := by
    rintro rfl
    exact hp hcomponents
  suffices hparent : ∃ d, p.parent? = some d by
    obtain ⟨d, hd⟩ := hparent
    refine ⟨d, hd, ?_⟩
    rw [isAbsolute_iff, components_parent? hd, hcomponents, List.dropLast_cons_of_ne_nil hne]
    rfl
  have hlast : ∃ last before, p.spans.reverse = last :: before ∧ last.component ≠ .root := by
    cases hspans : p.spans.reverse with
    | nil =>
        rw [components_eq_spans, List.reverse_eq_nil_iff.1 hspans] at hcomponents
        simp at hcomponents
    | cons last before =>
        refine ⟨last, before, rfl, ?_⟩
        rw [List.reverse_eq_iff, List.reverse_cons] at hspans
        rw [components_eq_spans, hspans, List.map_append] at hcomponents
        have hmem : last.component ∈ names := by
          have hlast := congrArg List.getLast? hcomponents
          rw [List.map_singleton, List.getLast?_concat, List.getLast?_cons_of_ne_nil hne] at hlast
          exact List.mem_of_getLast? hlast.symm
        obtain ⟨name, hname, -⟩ := hnames _ hmem
        rw [hname]
        exact Component.noConfusion
  obtain ⟨last, before, hspans, hroot⟩ := hlast
  rw [parent?, hspans]
  dsimp only
  rw [if_neg hroot]
  cases before with
  | nil => exact ⟨_, rfl⟩
  | cons previous others => exact ⟨_, rfl⟩

end Putting

end Path

namespace Lookup

open LiveBuild.Path

variable {importer p q : Path} {specifier suffix : String} {extensions : List String}
  {names : List Component}

theorem isAbsolute_target (h : importer.IsNormal) (hne : importer.components ≠ [.root])
    (specifier : String) :
    ∃ names, AreNames names ∧ target importer specifier = ofComponents (.root :: names) ∧
      (target importer specifier).components = .root :: names := by
  obtain ⟨d, hd, habsolute⟩ := h.exists_parent? hne
  rw [target, hd]
  exact exists_normalize (isAbsolute_join habsolute _)

/-- The root with a suffix has no name at its end, or the suffix for its only one. -/
theorem isNormal_append_root (hp : p.text = "/") (hsuffix : '/' ∉ suffix.toList) :
    (p.append suffix).IsNormal ∨ (p.append suffix).fileName? = none := by
  have hpieces : pieces (p.append suffix).text.toList = [[], suffix.toList] := by
    rw [append, text_ofString, hp, String.toList_append]
    change pieces ([] ++ '/' :: suffix.toList) = _
    rw [pieces_append_slash, pieces_of_not_mem hsuffix]
    rfl
  have hcomponents : (p.append suffix).components =
      .root :: (Component.ofPiece? suffix.toList).toList := by
    have hnil : Component.ofPiece? [] = none := rfl
    rw [components_eq_pieces, hpieces]
    cases hpiece : Component.ofPiece? suffix.toList <;>
      simp [lead, Path.inner, hpiece, hnil]
  cases hpiece : Component.ofPiece? suffix.toList with
  | none => exact .inr (by rw [fileName?, hcomponents, hpiece]; rfl)
  | some component =>
      cases component with
      | name name =>
          have hname := ofPiece?_eq_name hpiece
          rw [String.ofList_toList] at hname
          subst hname
          exact .inl ⟨[.name suffix], areNames_singleton ⟨hsuffix, hpiece⟩, by
            rw [hcomponents, hpiece]; rfl⟩
      | _ => exact .inr (by rw [fileName?, hcomponents, hpiece]; rfl)

/-- A normal path with a suffix is normal, unless it is the root. -/
theorem isNormal_append {names : List Component} (hnames : AreNames names)
    (hsuffix : '/' ∉ suffix.toList) :
    ((ofComponents (.root :: names)).append suffix).IsNormal ∨
      ((ofComponents (.root :: names)).append suffix).fileName? = none := by
  by_cases hne : names = []
  · subst hne
    exact isNormal_append_root rfl hsuffix
  · left
    have hpieces := pieces_ofComponents hne hnames
    obtain ⟨init, last, rfl⟩ : ∃ init last, names = init ++ [last] :=
      ⟨_, _, (List.dropLast_append_getLast hne).symm⟩
    obtain ⟨name, rfl, hname⟩ := hnames last (by simp)
    rw [List.map_append, ← List.cons_append] at hpieces
    have happend := components_append (P := [] :: init.map fun component => component.text.toList)
      hpieces (by simp) hname hsuffix
    have hnormal : (ofComponents (.root :: (init ++ [.name name]))).IsNormal :=
      ⟨_, hnames, components_ofComponents hnames⟩
    refine hnormal.of_dropLast ?_ happend.1 happend.2
    rw [components_ofComponents hnames]
    simp

theorem isNormal_append_join (h : p.IsNormal) {name : String} (hname : IsName name)
    (hsuffix : '/' ∉ suffix.toList) : ((p.join (ofString name)).append suffix).IsNormal := by
  have hcomponents := components_join_name hname p
  have hpieces : ∃ P, P ≠ [] ∧
      pieces (p.join (ofString name)).text.toList = P ++ [name.toList] := by
    have hrelative : (ofString name).isAbsolute = false := by
      rw [isAbsolute, text_ofString, Bool.eq_false_iff]
      intro hhead
      exact hname.1 (List.mem_of_mem_head? (by simpa using hhead))
    rw [join, if_neg (by simp [hrelative])]
    by_cases hend : (p.isEmpty || p.text.toList.getLast? == some '/') = true
    · rw [if_pos hend, text_ofString, String.toList_append]
      have hslash : p.text.toList.getLast? = some '/' := by
        rcases Bool.or_eq_true_iff.1 hend with hempty | hslash
        · exact absurd (components_of_isEmpty hempty) h.components_ne_nil
        · simpa using hslash
      obtain ⟨before, hbefore⟩ := List.getLast?_eq_some_iff.1 hslash
      refine ⟨pieces before, pieces_ne_nil _, ?_⟩
      rw [hbefore, List.append_assoc, List.singleton_append, pieces_append_slash, text_ofString,
        pieces_of_not_mem hname.1]
    · refine ⟨pieces p.text.toList, pieces_ne_nil _, ?_⟩
      have htext : (p.text ++ "/" ++ (ofString name).text).toList =
          p.text.toList ++ '/' :: name.toList := by
        simp
      rw [if_neg hend, text_ofString, htext, pieces_append_slash, pieces_of_not_mem hname.1]
  obtain ⟨P, hP, hpieces⟩ := hpieces
  have happend := components_append hpieces hP hname hsuffix
  refine (h.join_name hname).of_dropLast ?_ happend.1 happend.2
  rw [hcomponents]
  intro heq
  have hlast := congrArg List.getLast? heq
  simp at hlast

/-- What an import of a normal path stands for is a normal path, or one without a name at its
end. -/
theorem isNormal_of_mem_candidates (h : importer.IsNormal) (hne : importer.components ≠ [.root])
    (hextensions : ∀ extension ∈ extensions, '/' ∉ extension.toList)
    (hq : q ∈ candidates (target importer specifier) extensions) :
    q.IsNormal ∨ q.fileName? = none := by
  obtain ⟨names, hnames, htarget, hcomponents⟩ := isAbsolute_target h hne specifier
  have hnormal : (target importer specifier).IsNormal := ⟨names, hnames, hcomponents⟩
  unfold candidates at hq
  split at hq
  · rw [List.mem_singleton.1 hq]
    exact .inl hnormal
  · rcases List.mem_append.1 hq with hq | hq
    · obtain ⟨extension, hextension, rfl⟩ := List.mem_map.1 hq
      rw [htarget]
      exact isNormal_append hnames (hextensions extension hextension)
    · obtain ⟨extension, hextension, rfl⟩ := List.mem_map.1 hq
      have hindex : IsName "index" := ⟨by decide, rfl⟩
      exact .inl (isNormal_append_join hnormal hindex (hextensions extension hextension))

theorem mem_candidates_of_find {σ : Type} [FileStore σ] {store : σ}
    (h : find store importer specifier extensions = .ok q) :
    q ∈ candidates (target importer specifier) extensions := by
  unfold find at h
  split at h
  · rename_i found hfound
    rw [← Except.ok.inj h]
    exact List.mem_of_find?_eq_some hfound
  · simp at h

end Lookup

namespace BuildOptions

open LiveBuild.Path

variable {o : BuildOptions} {p rest : Path}

/-- The place of a file has the same components behind the output directory as the file has behind
the base directory. -/
theorem components_placeFor (hbase : o.baseDir.components ≠ []) (h : o.belowBase p = .ok rest) :
    (o.placeFor rest).components = o.outDir.components ++ rest.components := by
  have hrelative := relativeTo?_of_belowBase h
  obtain ⟨habsolute, hinner⟩ := relativeTo?_eq_some hbase hrelative
  have hcomponents := components_of_relativeTo? hrelative
  rw [placeFor]
  cases hempty : o.outDir.isEmpty with
  | true =>
      have htext : o.outDir.text = "" := String.toList_inj.1 (by simpa [isEmpty] using hempty)
      have hjoin : o.outDir.join rest = rest := by
        rw [join, habsolute, hempty, htext]
        exact ext (by simp)
      rw [hjoin, components_of_isEmpty hempty, List.nil_append]
  | false =>
      rw [components_join habsolute hempty]
      exact congrArg _ (List.append_cancel_left (hinner.symm.trans hcomponents))

/-- What lies below the base directory has its place below the output directory. -/
theorem isBelow_placeFor (hbase : o.baseDir.components ≠ []) (h : o.belowBase p = .ok rest)
    (hp : p.IsBelow o.baseDir) : (o.placeFor rest).IsBelow o.outDir := by
  have hcomponents := components_of_relativeTo? (relativeTo?_of_belowBase h)
  obtain ⟨names, hne, hnames, hp⟩ := hp
  refine ⟨names, hne, hnames, ?_⟩
  rw [components_placeFor hbase h, List.append_cancel_left (hcomponents.symm.trans hp)]

/-- The code for a file below the base directory goes below the output directory. -/
theorem isBelow_codeOutput (hbase : o.baseDir.components ≠ []) (h : o.belowBase p = .ok rest)
    (hp : p.IsBelow o.baseDir) : (o.codeOutput rest).IsBelow o.outDir := by
  obtain ⟨names, hne, hnames, hplace⟩ := isBelow_placeFor hbase h hp
  obtain ⟨init, last, rfl⟩ : ∃ init last, names = init ++ [last] :=
    ⟨_, _, (List.dropLast_append_getLast hne).symm⟩
  obtain ⟨name, rfl, -⟩ := hnames last (by simp)
  have hfile : (o.placeFor rest).fileName? = some name := by
    rw [fileName?, hplace, ← List.append_assoc, List.getLast?_concat]
  have hcode := components_withExtension hfile
  rw [hplace, ← List.append_assoc, List.dropLast_concat, List.append_assoc] at hcode
  refine ⟨_, by simp, .append (fun component hcomponent => hnames component
    (List.mem_append_left _ hcomponent)) (areNames_singleton ?_), hcode⟩
  exact isName_of_mem (p := o.codeOutput rest) (by rw [codeOutput, hcode]; simp)

theorem mem_of_splitName {name extension : List Char} {c : Char}
    (h : (splitName name).2 = some extension) (hc : c ∈ extension) : c ∈ name := by
  have hspan := List.span_eq_takeWhile_dropWhile (fun c => decide (c ≠ '.')) name.reverse
  unfold splitName at h
  rw [hspan] at h
  split at h
  · simp at h
  · simp at h
  · rename_i suffix dot stem hdrop
    rw [← Option.some.inj h, ← (Prod.mk.inj hdrop).1, List.mem_reverse] at hc
    exact List.mem_reverse.1 (List.takeWhile_subset _ hc)

theorem not_mem_suffix? (p : Path) : '/' ∉ (p.suffix?.getD "").toList := by
  rw [suffix?, extension?]
  cases hname : p.fileName? with
  | none => simp
  | some name =>
      have hslash := (FileTree.isName_of_fileName? hname).1
      cases hextension : (splitName name.toList).2 with
      | none => simp [hextension]
      | some extension =>
          have hmem : '/' ∉ extension := fun hmem => hslash (mem_of_splitName hextension hmem)
          simp [hextension, hmem]

/-- The name that stands for a content is a name, whatever its extension. -/
theorem isName_assetName (content : ByteArray) (p : Path) :
    IsName (Digest.assetName content (p.suffix?.getD "")) := by
  have hdigits : ∃ c others, (Digest.short (Digest.ofBytes content)).toList = c :: others ∧
      c ≠ '.' ∧ '/' ∉ c :: others := by
    rw [Digest.short, String.toList_ofList]
    cases hdigits : (Digest.ofBytes content).toList.take Digest.shortLength with
    | nil =>
        rw [List.take_eq_nil_iff, Digest.ofBytes, Blake3.hex, String.toList_ofList] at hdigits
        generalize Blake3.Node.compress _ _ = words at hdigits
        have hwords : words.toList ≠ [] := by
          rw [← List.length_pos_iff, Vector.length_toList]
          exact Nat.succ_pos 7
        obtain ⟨word, hword⟩ := List.exists_mem_of_ne_nil _ hwords
        rcases hdigits with hzero | hnil
        · simp [Digest.shortLength] at hzero
        · have hdigits := List.flatMap_eq_nil_iff.1 hnil word hword
          simp [Blake3.wordDigits, Blake3.byteDigits] at hdigits
    | cons c others =>
        have hmem : ∀ x ∈ c :: others, x ∈ (Digest.ofBytes content).toList := fun x hx =>
          List.mem_of_mem_take (by rw [hdigits]; exact hx)
        refine ⟨c, others, rfl, ?_, fun hslash => ?_⟩
        · rintro rfl
          exact not_mem_hex (by decide) _ (hmem _ List.mem_cons_self)
        · exact not_mem_hex (by decide) _ (hmem _ hslash)
  obtain ⟨c, others, hdigits, hdot, hslash⟩ := hdigits
  have htext : (Digest.assetName content (p.suffix?.getD "")).toList =
      c :: (others ++ (p.suffix?.getD "").toList) := by
    rw [Digest.assetName, String.toList_append, hdigits, List.cons_append]
  have hpiece : Component.ofPiece? (c :: (others ++ (p.suffix?.getD "").toList)) =
      some (.name (String.ofList (c :: (others ++ (p.suffix?.getD "").toList)))) :=
    ofPiece?_of_ne (List.cons_ne_nil _ _) (fun heq => hdot (List.cons.inj heq).1)
      fun heq => hdot (List.cons.inj heq).1
  refine ⟨?_, ?_⟩
  · rw [htext, ← List.cons_append]
    simp only [List.mem_append, not_or]
    exact ⟨hslash, not_mem_suffix? p⟩
  · rw [← htext, String.ofList_toList] at hpiece
    exact hpiece

/-- A renamed asset lies below the output directory. -/
theorem isBelow_assetName (content : ByteArray) (p : Path) :
    (o.outDir.join (ofString (Digest.assetName content (p.suffix?.getD "")))).IsBelow o.outDir :=
  ⟨_, by simp, areNames_singleton (isName_assetName content p),
    components_join_name (isName_assetName content p) _⟩

end BuildOptions

end LiveBuild
