import LiveBuild.Pages.Update
import LiveBuild.Proofs.TextTables

/-!
# Every affected route gets one update

Chunks of several sets can lead to one route. Whatever they are, the route is told once: to reload
if one of them changed its shape or its error state, or if its code wraps every other route, and
else to take in the changed code.
-/

namespace LiveBuild.UpdateRules

variable {rules : UpdateRules} {changes : PageChanges} {chunks : TextSet} {route : String}
  {update : LiveUpdate}

/-- Some chunk of a set maps to the route. -/
def Leads (rules : UpdateRules) (chunks : TextSet) (route : String) : Prop :=
  ∃ chunk, chunks.contains chunk = true ∧ Route.ofChunk chunk rules.routeRoot = route

/-- The route has to be loaded anew. -/
def Reloads (rules : UpdateRules) (changes : PageChanges) (route : String) : Prop :=
  (rules.Leads changes.added route ∨ rules.Leads changes.removed route ∨
      rules.Leads changes.failed route ∨ rules.Leads changes.recovered route) ∨
    (rules.hardReload.contains route = true ∧ rules.Leads changes.rehashed route)

/-- What the updates for some changes have to be. -/
structure Settles (rules : UpdateRules) (changes : PageChanges) (updates : List LiveUpdate) :
    Prop where
  /-- Over the whole list no route is named twice. -/
  once : (updates.flatMap (·.data)).Nodup
  reload_iff : ∀ route, (∃ update ∈ updates, update.action = .reload ∧ route ∈ update.data) ↔
    rules.Reloads changes route
  change_iff : ∀ route, (∃ update ∈ updates, update.action = .change ∧ route ∈ update.data) ↔
    rules.Leads changes.rehashed route ∧ ¬ rules.Reloads changes route
  affected : ∀ update ∈ updates, ∀ route ∈ update.data,
    rules.Reloads changes route ∨ rules.Leads changes.rehashed route
  /-- All reloads come first, each part in order of its routes. -/
  ordered : ∃ reloads changed : List String, reloads.Pairwise (· < ·) ∧ changed.Pairwise (· < ·) ∧
    updates = reloads.map (fun route => ⟨.reload, [route]⟩) ++
      changed.map (fun route => ⟨.change, [route]⟩)

theorem contains_routes : (rules.routes chunks).contains route = true ↔ rules.Leads chunks route :=
  TextSet.contains_map

theorem leads_reshaped : rules.Leads changes.reshaped route ↔
    rules.Leads changes.added route ∨ rules.Leads changes.removed route ∨
      rules.Leads changes.failed route ∨ rules.Leads changes.recovered route := by
  simp only [Leads, PageChanges.reshaped, TextSet.contains_union, or_and_right, exists_or, or_assoc]

/-- Routes that reload. -/
def reloads (rules : UpdateRules) (changes : PageChanges) : TextSet :=
  (rules.routes changes.reshaped).union
    ((rules.routes changes.rehashed).filter rules.hardReload.contains)

/-- Routes that take in changed code. -/
def softUpdates (rules : UpdateRules) (changes : PageChanges) : TextSet :=
  ((rules.routes changes.rehashed).filter fun route => !rules.hardReload.contains route).difference
    (rules.reloads changes)

theorem updates_eq : rules.updates changes =
    (rules.reloads changes).items.map (fun route => ⟨.reload, [route]⟩) ++
      (rules.softUpdates changes).items.map (fun route => ⟨.change, [route]⟩) := rfl

theorem ordered_reloads : (rules.reloads changes).Ordered :=
  (TextSet.ordered_map _ _).union _

theorem ordered_softUpdates : (rules.softUpdates changes).Ordered :=
  ((TextSet.ordered_map _ _).filter _).difference _

theorem contains_reloads :
    (rules.reloads changes).contains route = true ↔ rules.Reloads changes route := by
  rw [reloads, TextSet.contains_union, TextSet.contains_filter, Bool.and_eq_true, contains_routes,
    contains_routes, leads_reshaped, Reloads, and_comm]

theorem contains_softUpdates : (rules.softUpdates changes).contains route = true ↔
    rules.Leads changes.rehashed route ∧ ¬ rules.Reloads changes route := by
  rw [softUpdates, TextSet.contains_difference, TextSet.contains_filter, Bool.and_eq_true,
    Bool.and_eq_true, contains_routes, Bool.not_eq_true', Bool.not_eq_true', ← Bool.not_eq_true,
    ← Bool.not_eq_true, contains_reloads]
  -- A hard-reload route with changed code is among those that reload.
  constructor
  · rintro ⟨⟨hleads, -⟩, hnot⟩
    exact ⟨hleads, hnot⟩
  · rintro ⟨hleads, hnot⟩
    exact ⟨⟨hleads, fun hhard => hnot (.inr ⟨hhard, hleads⟩)⟩, hnot⟩

/-- What a route has to be told. -/
def Gets (rules : UpdateRules) (changes : PageChanges) (route : String) :
    LiveUpdate.Action → Prop
  | .reload => rules.Reloads changes route
  | .change => rules.Leads changes.rehashed route ∧ ¬ rules.Reloads changes route

theorem mem_updates : update ∈ rules.updates changes ↔
    ∃ route, rules.Gets changes route update.action ∧ update.data = [route] := by
  obtain ⟨action, data⟩ := update
  simp only [updates_eq, List.mem_append, List.mem_map, ← TextSet.contains_iff, contains_reloads,
    contains_softUpdates, LiveUpdate.mk.injEq]
  cases action <;> simp [Gets, eq_comm]

theorem exists_update_iff {action : LiveUpdate.Action} :
    (∃ update ∈ rules.updates changes, update.action = action ∧ route ∈ update.data) ↔
      rules.Gets changes route action := by
  constructor
  · rintro ⟨update, hupdate, rfl, hroute⟩
    obtain ⟨other, hgets, hdata⟩ := mem_updates.1 hupdate
    rw [hdata, List.mem_singleton] at hroute
    rwa [hroute]
  · intro hgets
    exact ⟨⟨action, [route]⟩, mem_updates.2 ⟨route, hgets, rfl⟩, rfl, List.mem_singleton_self route⟩

theorem flatMap_data_updates : (rules.updates changes).flatMap (·.data) =
    (rules.reloads changes).items ++ (rules.softUpdates changes).items := by
  rw [updates_eq, List.flatMap_append, List.flatMap_map, List.flatMap_map]
  simp

/-- The updates name every affected route once and no other, and the right one of the two. -/
theorem updates_settle_routes (rules : UpdateRules) (changes : PageChanges) :
    rules.Settles changes (rules.updates changes) := by
  refine {
    once := ?_
    reload_iff := fun route => exists_update_iff
    change_iff := fun route => exists_update_iff
    affected := fun update hupdate route hroute => ?_
    ordered := ⟨_, _, ordered_reloads, ordered_softUpdates, updates_eq⟩ }
  · rw [flatMap_data_updates]
    refine List.nodup_append.2 ⟨ordered_reloads.nodup, ordered_softUpdates.nodup, ?_⟩
    rintro reload hreload soft hsoft rfl
    exact (contains_softUpdates.1 (TextSet.contains_iff.2 hsoft)).2
      (contains_reloads.1 (TextSet.contains_iff.2 hreload))
  · have hgets := exists_update_iff.1 ⟨update, hupdate, rfl, hroute⟩
    cases haction : update.action with
    | reload =>
        rw [haction] at hgets
        exact .inl hgets
    | change =>
        rw [haction] at hgets
        exact .inr hgets.1

/-- A route that one chunk joins and of which another only has new code reloads, once. -/
example : (⟨"bundles/pages", {}⟩ : UpdateRules).updates {
      added := ⟨["bundles/pages/a.js"]⟩
      rehashed := ⟨["bundles/pages/a/index.js", "bundles/pages/b.js"]⟩ } =
    [⟨.reload, ["/a"]⟩, ⟨.change, ["/b"]⟩] := by
  decide

end LiveBuild.UpdateRules
