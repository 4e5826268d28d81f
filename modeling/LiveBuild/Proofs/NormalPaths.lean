import LiveBuild.Proofs.Places
import Mathlib.Data.List.Induction

/-!
# Normalisation and joining

Normalising runs over the components with a stack. What the stack holds in the end leads from any
other stack to where the components themselves would have led. So the parts of a joined path may be
normalised before they are put together, and what is normal stays as it is.
-/

namespace LiveBuild

namespace Path

variable {p q : Path} {names rest : List Component}

/-- Neither single dots, nor a double dot behind a name or the root. -/
structure IsReduced (p : Path) : Prop where
  not_here : .here ∉ p.components
  ups_first : ∃ ups rest, p.components = ups ++ rest ∧ (∀ component ∈ ups, component = .up) ∧
    .up ∉ rest
  not_absolute : .up ∈ p.components → p.isAbsolute = false

section Stacks

/-- A component on top of a normalised stack leads, from any other stack, to where the same
component leads behind all that the stack was made of. -/
theorem foldl_pushNormal_step (start stack : List Component) (component : Component) :
    (pushNormal stack component).reverse.foldl pushNormal start =
      pushNormal (stack.reverse.foldl pushNormal start) component := by
  cases component with
  | here => rfl
  | root => simp [pushNormal]
  | name name => simp [pushNormal]
  | up =>
      cases stack with
      | nil => rfl
      | cons top below => cases top <;> simp [pushNormal]

theorem foldl_normalComponents (start components : List Component) :
    (normalComponents components).foldl pushNormal start = components.foldl pushNormal start := by
  rw [normalComponents]
  induction components using List.reverseRecOn with
  | nil => rfl
  | append_singleton before component ih =>
      rw [List.foldl_concat, List.foldl_concat, foldl_pushNormal_step, ih]

theorem normalComponents_append (before after : List Component) :
    normalComponents (normalComponents before ++ normalComponents after) =
      normalComponents (before ++ after) := by
  rw [normalComponents, List.foldl_append, foldl_normalComponents, foldl_normalComponents,
    ← List.foldl_append, normalComponents]

theorem normalComponents_normalComponents (components : List Component) :
    normalComponents (normalComponents components) = normalComponents components := by
  rw [normalComponents, foldl_normalComponents, normalComponents]

/-- The stack of a normalisation that began with steps up, or with nothing, holds names above steps
up. -/
theorem foldl_pushNormal_ups {stack : List Component} (hstack : AreNames stack) (n : Nat)
    (hrest : AreSteps rest) : ∃ names m, AreNames names ∧
      rest.foldl pushNormal (stack ++ List.replicate n .up) = names ++ List.replicate m .up := by
  induction rest generalizing stack n with
  | nil => exact ⟨stack, n, hstack, rfl⟩
  | cons component rest ih =>
      have hothers := fun other hother => hrest other (List.mem_cons_of_mem _ hother)
      rcases hrest component List.mem_cons_self with rfl | ⟨name, rfl, hname⟩
      · cases stack with
        | nil =>
            have hup : pushNormal (List.replicate n .up) .up = List.replicate (n + 1) .up := by
              cases n <;> rfl
            rw [List.nil_append, List.foldl_cons, hup]
            exact ih hstack (n + 1) hothers
        | cons top below =>
            obtain ⟨name, rfl, -⟩ := hstack top List.mem_cons_self
            exact ih (fun other hother => hstack other (List.mem_cons_of_mem _ hother)) n hothers
      · exact ih ((areNames_singleton hname).append hstack) n hothers

end Stacks

section Normalized

theorem components_of_not_isAbsolute (h : p.isAbsolute = false) :
    p.components = inner (pieces p.text.toList) ∨
      p.components = .here :: inner (pieces p.text.toList) := by
  have hall := components_eq_pieces p
  cases hlead : lead (pieces p.text.toList) with
  | nil => exact .inl (by rw [hall, hlead, List.nil_append])
  | cons first others =>
      unfold lead at hlead
      split at hlead
      · rename_i hpieces
        have hroot : p.isAbsolute = true := isAbsolute_iff.2 (by rw [hall, hpieces]; rfl)
        rw [hroot] at h
        cases h
      · rename_i hpieces
        rw [hpieces] at hall ⊢
        exact .inr hall
      · cases hlead

/-- The single dot that a relative path may begin with does nothing on a stack. -/
theorem foldl_pushNormal_relative (h : p.isAbsolute = false) (start : List Component) :
    p.components.foldl pushNormal start =
      (inner (pieces p.text.toList)).foldl pushNormal start := by
  rcases components_of_not_isAbsolute h with hp | hp
  · rw [hp]
  · rw [hp, List.foldl_cons, pushNormal]

theorem exists_normalComponents_relative (h : p.isAbsolute = false) :
    ∃ names n, AreNames names ∧
      normalComponents p.components = List.replicate n .up ++ names := by
  have hnil : AreNames [] := fun _ hcomponent => nomatch hcomponent
  obtain ⟨names, n, hnames, hfold⟩ := foldl_pushNormal_ups hnil 0 (areSteps_inner p.text.toList)
  refine ⟨names.reverse, n, ?_, ?_⟩
  · intro component hcomponent
    exact hnames component (List.mem_reverse.1 hcomponent)
  · rw [List.nil_append, List.replicate_zero] at hfold
    rw [normalComponents, foldl_pushNormal_relative h, hfold, List.reverse_append,
      List.reverse_replicate]

/-- What spells a step is a piece of its own, and not the dot that a path may begin with. -/
theorem text_of_areSteps {steps : List Component} (hsteps : AreSteps steps) :
    ∀ part ∈ steps.map fun component => component.text.toList,
      '/' ∉ part ∧ part ≠ [] ∧ part ≠ ['.'] := by
  intro part hpart
  obtain ⟨component, hcomponent, rfl⟩ := List.mem_map.1 hpart
  rcases hsteps component hcomponent with rfl | ⟨name, rfl, hslash, hpiece⟩
  · decide
  · refine ⟨hslash, fun hnil => ?_, fun hdot => ?_⟩
    · rw [Component.text] at hnil
      rw [hnil] at hpiece
      cases hpiece
    · rw [Component.text] at hdot
      rw [hdot] at hpiece
      cases hpiece

theorem pieces_ofComponents_steps {steps : List Component} (hne : steps ≠ [])
    (hsteps : AreSteps steps) :
    pieces (ofComponents steps).text.toList =
      steps.map fun component => component.text.toList := by
  have htext : (ofComponents steps).text.toList =
      ['/'].intercalate (steps.map fun component => component.text.toList) := by
    rw [ofComponents, text_ofString, String.toList_intercalate, List.map_map]
    · rfl
    · rintro rest rfl
      rcases hsteps .root List.mem_cons_self with h | ⟨name, h, -⟩ <;> cases h
  rw [htext, pieces_intercalate (by simpa using hne)
    fun part hpart => (text_of_areSteps hsteps part hpart).1]

theorem components_ofComponents_steps {steps : List Component} (hsteps : AreSteps steps) :
    (ofComponents steps).components = steps := by
  cases steps with
  | nil => rfl
  | cons first others =>
      rw [components_eq_pieces, pieces_ofComponents_steps (List.cons_ne_nil _ _) hsteps,
        inner_map_text hsteps]
      obtain ⟨-, hne, hdot⟩ := text_of_areSteps hsteps first.text.toList (by simp)
      have hlead : lead ((first :: others).map fun component => component.text.toList) = [] := by
        rw [List.map_cons]
        unfold lead
        split <;> simp_all
      rw [hlead, List.nil_append]

theorem areSteps_replicate_append (hnames : AreNames names) (n : Nat) :
    AreSteps (List.replicate n .up ++ names) := by
  intro component hcomponent
  rcases List.mem_append.1 hcomponent with hcomponent | hcomponent
  · exact .inl (List.eq_of_mem_replicate hcomponent)
  · exact .inr (hnames component hcomponent)

/-- A normalised path is spelled so that it has the components it was made of. -/
theorem components_normalize (p : Path) :
    p.normalize.components = normalComponents p.components := by
  cases h : p.isAbsolute with
  | true =>
      obtain ⟨names, hnames, hnormal⟩ := exists_normalComponents h
      rw [normalize, hnormal, components_ofComponents hnames]
  | false =>
      obtain ⟨names, n, hnames, hnormal⟩ := exists_normalComponents_relative h
      rw [normalize, hnormal, components_ofComponents_steps (areSteps_replicate_append hnames n)]

theorem AreNames.not_mem (h : AreNames names) {component : Component}
    (hcomponent : component.isName = false) : component ∉ names := by
  intro hmem
  obtain ⟨name, rfl, -⟩ := h component hmem
  cases hcomponent

theorem isAbsolute_normalize (p : Path) : p.normalize.isAbsolute = p.isAbsolute := by
  cases h : p.isAbsolute with
  | true => exact (isNormal_normalize h).isAbsolute
  | false =>
      obtain ⟨names, n, hnames, hnormal⟩ := exists_normalComponents_relative h
      rw [Bool.eq_false_iff, ne_eq, isAbsolute_iff, components_normalize, hnormal]
      intro hroot
      rcases List.mem_append.1 (List.mem_of_mem_head? hroot) with hmem | hmem
      · cases List.eq_of_mem_replicate hmem
      · exact hnames.not_mem rfl hmem

theorem isReduced_normalize (p : Path) : p.normalize.IsReduced := by
  cases h : p.isAbsolute with
  | true =>
      obtain ⟨names, hnames, hnormal⟩ := exists_normalComponents h
      rw [← components_normalize] at hnormal
      have hother : ∀ component, component ≠ .root → component.isName = false →
          component ∉ p.normalize.components := by
        intro component hroot hname
        rw [hnormal, List.mem_cons, not_or]
        exact ⟨hroot, hnames.not_mem hname⟩
      have hup := hother .up (by simp) rfl
      exact ⟨hother .here (by simp) rfl, ⟨[], _, rfl, by simp, hup⟩, fun hmem => absurd hmem hup⟩
  | false =>
      obtain ⟨names, n, hnames, hnormal⟩ := exists_normalComponents_relative h
      rw [← components_normalize] at hnormal
      refine ⟨fun hhere => ?_, ⟨_, names, hnormal, fun _ => List.eq_of_mem_replicate,
        hnames.not_mem rfl⟩, fun _ => by rw [isAbsolute_normalize, h]⟩
      rw [hnormal] at hhere
      rcases List.mem_append.1 hhere with hmem | hmem
      · cases List.eq_of_mem_replicate hmem
      · exact hnames.not_mem rfl hmem

theorem normalize_eq_of_components
    (h : normalComponents p.components = normalComponents q.components) :
    p.normalize = q.normalize := by
  rw [normalize, normalize, h]

theorem normalize_normalize (p : Path) : p.normalize.normalize = p.normalize := by
  apply normalize_eq_of_components
  rw [components_normalize, normalComponents_normalComponents]

end Normalized

section Joined

/-- The dot that a relative path may begin with is lost in a join, and does nothing where it
stays. -/
theorem normalComponents_join (hq : q.isAbsolute = false) (p : Path) :
    normalComponents (p.join q).components = normalComponents (p.components ++ q.components) := by
  cases hempty : p.isEmpty with
  | true =>
      have htext : p.text = "" := String.toList_inj.1 (by simpa [isEmpty] using hempty)
      rw [components_of_isEmpty hempty, join, hq, hempty, htext]
      simp
  | false =>
      rw [components_join hq hempty, normalComponents, List.foldl_append,
        ← foldl_pushNormal_relative hq, ← List.foldl_append, normalComponents]

theorem normalize_join (p q : Path) :
    (p.join q).normalize = (p.normalize.join q.normalize).normalize := by
  apply normalize_eq_of_components
  cases hq : q.isAbsolute with
  | true =>
      rw [join, if_pos hq, join, if_pos (by rw [isAbsolute_normalize, hq]), components_normalize,
        normalComponents_normalComponents]
  | false =>
      rw [normalComponents_join hq, normalComponents_join (by rw [isAbsolute_normalize, hq]),
        components_normalize, components_normalize, normalComponents_append]

/-- Normalising before and after a join gives the same path, and what it gives is reduced and stays
as it is. -/
theorem normalize_canonical (p q : Path) :
    (p.join q).normalize = (p.normalize.join q.normalize).normalize ∧ p.normalize.IsReduced ∧
      p.normalize.normalize = p.normalize :=
  ⟨normalize_join p q, isReduced_normalize p, normalize_normalize p⟩

/-- The second `..` finds no name that is left to take back. -/
example : ((ofString "a/.").join (ofString "../../b")).normalize = ofString "../b" := by decide

end Joined

end Path

end LiveBuild
