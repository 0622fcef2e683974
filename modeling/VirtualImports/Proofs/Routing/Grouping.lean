import VirtualImports.Proofs.Routing.Fates

/-!
Routing loses no name and makes up none.

* `bound_eq_routes`: a record binds what the routes bind that it holds;
* `pooled_group`: the records that grouping makes bind what the routes bind;
* `pooled_routed`: the records of a routed statement bind what becomes of its names.
-/
namespace VirtualImports

/-- The names that a record binds in the statement for a destination. -/
def Record.bound (destination : String) (record : Record) : List Bound :=
  record.named.map (fun binding =>
    ⟨binding.localName, record.typeOnly || binding.isType, destination, .named binding.imported⟩) ++
  record.defaultName.toList.map (fun name => ⟨name, record.typeOnly, destination, .default⟩) ++
  record.namespaceName.toList.map (fun name => ⟨name, record.typeOnly, destination, .wholeModule⟩)

theorem Record.bound_eq_routes (destination : String) (record : Record) :
    record.bound destination = (record.routes destination).map (Route.bound record.typeOnly) := by
  have entry (binding : Binding) : Route.bound record.typeOnly
      ⟨if binding.isType then .typed else .named, destination, binding.imported,
        binding.localName⟩ =
      ⟨binding.localName, record.typeOnly || binding.isType, destination,
        .named binding.imported⟩ := by
    cases binding.isType <;> rfl
  simp only [bound, routes, List.map_append, List.map_map, Function.comp_def, entry]
  simp [Route.bound, BindingKind.exported, BindingKind.isType]

namespace Routed

/-- The names that records bind together. -/
def pooled (records : Entries Record) : List Bound :=
  records.flatMap fun entry => entry.2.bound entry.1

/-- The records bind what the routes bind, each name once. -/
theorem pooled_group {typeOnly : Bool} {routes : List Route} (arranged : Arranged routes) :
    (pooled (group typeOnly routes)).Perm (routes.map (Route.bound typeOnly)) := by
  have each : pooled (group typeOnly routes) = ((group typeOnly routes).flatMap fun entry =>
      entry.2.routes entry.1).map (Route.bound typeOnly) := by
    rw [pooled, List.map_flatMap]
    refine List.flatMap_congr fun entry mem => ?_
    rw [Record.bound_eq_routes, typeOnly_of_mem_group entry mem]
  rw [each]
  exact (routes_group arranged).map _

end Routed

/-- The record of a whole statement binds its names, from another module. -/
theorem ImportStatement.bound_record (statement : ImportStatement) (destination : String) :
    statement.record.bound destination =
      statement.bound.map fun bound => { bound with module := destination } := by
  simp [record, Record.bound, bound, Function.comp_def]

/-- **Routing loses no name.** The records of a routed statement bind, each once, what becomes of
the names of the statement. -/
theorem Routing.pooled_routed {routing : Routing} (valid : routing.Valid)
    (statement : ImportStatement) :
    (Routed.pooled (routing.routed statement).records).Perm
      (statement.bound.filterMap routing.rebind?) := by
  cases routing with
  | module destination =>
    have moved (bound : Bound) : (module destination).rebind? bound =
        some { bound with module := destination } := by
      refine rebind?_of_explicit?_eq_none ?_
      cases bound.exported <;> rfl
    rw [routed_of_apply rfl, ImportStatement.toModule_eq, funext moved, List.filterMap_eq_map',
      ← ImportStatement.bound_record, Routed.pooled, List.flatMap_singleton]
  | symbols entries =>
    obtain ⟨map, built, resolves, same⟩ := eq_ofResolutions_of_apply (apply_eq_ok valid statement)
    have bound : ((symbols entries).routes statement).map (Route.bound statement.typeOnly) =
        statement.bound.filterMap (symbols entries).rebind? := by
      rw [routes, Routed.routes_map, List.map_filterMap, ImportStatement.bound_eq_requests,
        List.filterMap_map]
      refine List.filterMap_congr fun request mem => ?_
      exact SymbolMap.route_of_resolve valid built (resolves request mem) _ _
    rw [same, ← bound]
    exact Routed.pooled_group (arranged_routes _ statement)

end VirtualImports
