import Mathlib.Data.List.Induction
import VirtualImports.Proofs.Routing.Records

/-!
Grouping keeps the order of what it groups.

* `Record.routes`: a record taken apart into the routes that were put into it;
* `keys_group`: the records come in the order in which the routes first reach their destinations;
* `eq_gathered_of_mem_group`: each record is made of the routes to its destination, in their order;
* `routes_gathered`: routes that come as those of a statement do are taken out as they were put in;
* `routes_group`: so the records hold each route once.

A record has one place for a default name and one for a namespace, and neither keeps the name that
is imported. So the routes may have one of each, under one name, and these come last, as in a
statement.
-/
namespace VirtualImports

/-- The routes that a record holds: its entries, its default name and its namespace. -/
def Record.routes (destination : String) (record : Record) : List Route :=
  record.named.map (fun binding =>
    ⟨if binding.isType then .typed else .named, destination, binding.imported,
      binding.localName⟩) ++
  record.defaultName.toList.map (fun name => ⟨.default, destination, name, name⟩) ++
  record.namespaceName.toList.map (fun name => ⟨.wholeModule, destination, name, name⟩)

/-- Where a binding stands in a statement: an entry, then the default name, then the namespace. -/
def BindingKind.rank : BindingKind → Nat
  | named | typed => 0
  | default => 1
  | wholeModule => 2

/-- Entries come first and may be many. The others are single. -/
def BindingKind.Precedes (a b : BindingKind) : Prop :=
  a.rank < b.rank ∨ a.rank = 0 ∧ b.rank = 0

namespace Routed

/-- Routes in the order of a statement. A default name or a namespace has one name. -/
structure Arranged (routes : List Route) : Prop where
  order : routes.Pairwise fun a b => a.kind.Precedes b.kind
  own : ∀ route ∈ routes, route.kind.rank ≠ 0 → route.imported = route.localName

theorem Arranged.sublist {routes others : List Route} (h : Arranged routes)
    (sub : others.Sublist routes) : Arranged others :=
  ⟨h.order.sublist sub, fun route mem => h.own route (sub.subset mem)⟩

/-! ## One record -/

theorem typeOnly_addRoute (route : Route) (record : Record) :
    (addRoute route record).typeOnly = record.typeOnly := by
  unfold addRoute
  split <;> rfl

theorem typeOnly_of_mem_group {typeOnly : Bool} {routes : List Route} :
    ∀ entry ∈ group typeOnly routes, entry.2.typeOnly = typeOnly :=
  forall_mem_group (fun route _ => typeOnly_addRoute route _)
    fun route _ record old => (typeOnly_addRoute route record).trans old

/-- A route that comes behind those of a record is put behind them. -/
theorem routes_addRoute {route : Route} {record : Record}
    (behind : ∀ earlier ∈ record.routes route.destination, earlier.kind.Precedes route.kind)
    (own : route.kind.rank ≠ 0 → route.imported = route.localName) :
    (addRoute route record).routes route.destination =
      record.routes route.destination ++ [route] := by
  obtain ⟨kind, destination, imported, localName⟩ := route
  obtain ⟨named, defaultName, namespaceName, typeOnly⟩ := record
  -- no default name and no namespace is there yet, as nothing but a later part comes behind one
  have noWhole : namespaceName = none := by
    cases namespaceName with
    | none => rfl
    | some name =>
      have := behind ⟨.wholeModule, destination, name, name⟩ (by simp [Record.routes])
      cases kind <;> simp [BindingKind.Precedes, BindingKind.rank] at this
  have noDefault : kind ≠ .wholeModule → defaultName = none := by
    intro other
    cases defaultName with
    | none => rfl
    | some name =>
      have := behind ⟨.default, destination, name, name⟩ (by simp [Record.routes])
      cases kind <;> simp_all [BindingKind.Precedes, BindingKind.rank]
  subst noWhole
  cases kind with
  | named | typed => simp [addRoute, Record.routes, noDefault]
  | default =>
    obtain rfl : imported = localName := own (by simp [BindingKind.rank])
    simp [addRoute, Record.routes, noDefault]
  | wholeModule =>
    obtain rfl : imported = localName := own (by simp [BindingKind.rank])
    simp [addRoute, Record.routes]

/-- The record that the routes to a destination make. -/
def gathered (typeOnly : Bool) (routes : List Route) (destination : String) : Record :=
  (routes.filter (·.destination = destination)).foldl (fun record route => addRoute route record)
    (Record.empty typeOnly)

theorem gathered_concat (typeOnly : Bool) (routes : List Route) (route : Route)
    (destination : String) :
    gathered typeOnly (routes ++ [route]) destination =
      if route.destination = destination then
        addRoute route (gathered typeOnly routes destination)
      else gathered typeOnly routes destination := by
  rw [gathered, List.filter_append, List.foldl_append]
  by_cases same : route.destination = destination <;> simp [same, gathered]

/-- Arranged routes are taken out of a record as they were put in. -/
theorem routes_gathered {typeOnly : Bool} {routes : List Route} (arranged : Arranged routes)
    (destination : String) :
    (gathered typeOnly routes destination).routes destination =
      routes.filter (·.destination = destination) := by
  induction routes using List.reverseRecOn with
  | nil => rfl
  | append_singleton routes route ih =>
    have old := ih (arranged.sublist (List.sublist_append_left _ _))
    rw [gathered_concat, List.filter_append]
    split
    · rename_i same
      subst same
      have behind : ∀ earlier ∈ (gathered typeOnly routes route.destination).routes
          route.destination, earlier.kind.Precedes route.kind := by
        intro earlier mem
        rw [old] at mem
        exact (List.pairwise_append.1 arranged.order).2.2 earlier (List.mem_of_mem_filter mem) route
          (List.mem_singleton_self _)
      rw [routes_addRoute behind (arranged.own route (by simp)), old]
      simp
    · rename_i different
      simp [old, different]

/-! ## All records -/

theorem group_append (typeOnly : Bool) (routes : List Route) (route : Route) :
    group typeOnly (routes ++ [route]) =
      updateRecord route.destination typeOnly (addRoute route) (group typeOnly routes) := by
  rw [group, List.foldl_append]
  rfl

/-- The destinations come in the order in which they are first reached. -/
theorem keys_group (typeOnly : Bool) (routes : List Route) :
    (group typeOnly routes).keys = (routes.map Route.destination).eraseDups := by
  induction routes using List.reverseRecOn with
  | nil => rfl
  | append_singleton routes route ih =>
    rw [group_append, updateRecord, Entries.keys_set, List.map_append, List.map_singleton,
      eraseDups_concat, ih]
    simp [List.mem_eraseDups]

/-- There is a record for each destination of a route, and for no other. -/
theorem mem_keys_group {typeOnly : Bool} {routes : List Route} {destination : String} :
    destination ∈ (group typeOnly routes).keys ↔
      ∃ route ∈ routes, route.destination = destination := by
  rw [keys_group, List.mem_eraseDups, List.mem_map]

theorem nodup_keys_group (typeOnly : Bool) (routes : List Route) :
    (group typeOnly routes).keys.Nodup := by
  rw [keys_group]
  exact nodup_eraseDups _

theorem get?_group (typeOnly : Bool) (routes : List Route) (destination : String) :
    ((group typeOnly routes).get? destination).getD (Record.empty typeOnly) =
      gathered typeOnly routes destination := by
  induction routes using List.reverseRecOn with
  | nil => rfl
  | append_singleton routes route ih =>
    rw [group_append, updateRecord, Entries.get?_set, gathered_concat]
    by_cases same : route.destination = destination
    · subst same
      simp [ih]
    · simp [Ne.symm same, same, ih]

/-- Each record is made of the routes to its destination. -/
theorem eq_gathered_of_mem_group {typeOnly : Bool} {routes : List Route} {entry : String × Record}
    (mem : entry ∈ group typeOnly routes) : entry.2 = gathered typeOnly routes entry.1 := by
  rw [← get?_group, Entries.get?_of_mem (nodup_keys_group typeOnly routes) mem, Option.getD_some]

/-- **Grouping is lossless.** The records hold the routes that were grouped, each once. -/
theorem routes_group {typeOnly : Bool} {routes : List Route} (arranged : Arranged routes) :
    ((group typeOnly routes).flatMap fun entry => entry.2.routes entry.1).Perm routes := by
  induction routes using List.reverseRecOn with
  | nil => exact .nil
  | append_singleton routes route ih =>
    have before := arranged.sublist (List.sublist_append_left routes [route])
    have old : (((group typeOnly routes).get? route.destination).elim [] fun record =>
        record.routes route.destination) = routes.filter (·.destination = route.destination) := by
      rw [← routes_gathered before, ← get?_group typeOnly]
      cases (group typeOnly routes).get? route.destination <;> rfl
    have new : (gathered typeOnly (routes ++ [route]) route.destination).routes
        route.destination = _ := routes_gathered arranged route.destination
    rw [gathered_concat, if_pos rfl, ← get?_group, List.filter_append] at new
    have gain : ((addRoute route (((group typeOnly routes).get? route.destination).getD
          (Record.empty typeOnly))).routes route.destination).Perm
        ((((group typeOnly routes).get? route.destination).elim [] fun record =>
          record.routes route.destination) ++ [route]) := by
      rw [new, old]
      simp
    have grown := Entries.flatMap_set_perm (fun entry => Record.routes entry.1 entry.2) gain
    rw [group_append]
    exact grown.trans ((ih before).append_right _)

end Routed

end VirtualImports
