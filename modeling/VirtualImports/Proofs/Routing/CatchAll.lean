import VirtualImports.Proofs.Routing.RoundTrip

/-!
A whole statement routed to one module.

* `group_of_destination`: bindings routed to one module make one record;
* `ofResolutions_routesTo`: for a statement that binds something this is the record of the whole;
* `apply_catchAll`: a symbol map of nothing but a catch-all routes a statement as the name of its
  module does;
* `catchAll_reads_back`: the statement that comes of it reads back as the one it was made from,
  apart from the entries for types of a statement that is for types as a whole.
-/
namespace VirtualImports

open Text Statement

namespace Routed

/-! ## Grouping -/

/-- Bindings routed to one module make one record. -/
theorem group_of_destination {destination : String} {typeOnly : Bool} {routes : List Route}
    (ne : routes ≠ []) (same : ∀ route ∈ routes, route.destination = destination) :
    group typeOnly routes = [(destination,
      routes.foldl (fun record route => addRoute route record) (Record.empty typeOnly))] := by
  have step (route : Route) (hr : route.destination = destination) (record : Record) :
      updateRecord route.destination typeOnly (addRoute route) [(destination, record)] =
        [(destination, addRoute route record)] := by
    simp [updateRecord, hr, Entries.get?, Entries.set]
  have run : ∀ (rest : List Route) (record : Record), rest ⊆ routes →
      rest.foldl (fun records route =>
        updateRecord route.destination typeOnly (addRoute route) records) [(destination, record)] =
      [(destination, rest.foldl (fun record route => addRoute route record) record)] := by
    intro rest
    induction rest with
    | nil => exact fun _ _ => rfl
    | cons route rest ih =>
      intro record inside
      rw [List.foldl_cons, step route (same route (inside (by simp))),
        ih _ fun r hr => inside (by simp [hr])]
      rfl
  cases routes with
  | nil => exact absurd rfl ne
  | cons route rest =>
    have first : updateRecord route.destination typeOnly (addRoute route) [] =
        [(destination, addRoute route (Record.empty typeOnly))] := by
      simp [updateRecord, same route (by simp), Entries.get?, Entries.set]
    rw [group, List.foldl_cons, first, run rest _ fun r hr => by simp [hr]]
    rfl

end Routed

namespace ImportStatement

theorem isEmpty_record {statement : ImportStatement} (h : statement.bindings.WellNamed) :
    statement.record.isEmpty = statement.bindings.isEmpty := by
  rw [Record.isEmpty, filledName?_of_isName (names_record h).default,
    filledName?_of_isName (names_record h).wholeModule]
  cases hn : statement.bindings.named <;> cases ht : statement.bindings.types <;>
    simp [record, Bindings.isEmpty, hn, ht]

/-! ## The catch-all -/

/-- The routes of the bindings of a statement to one module, under their own names. -/
def routesTo (statement : ImportStatement) (destination : String) : List Route :=
  statement.requests.map fun request =>
    ⟨request.kind, destination, request.imported, request.localName⟩

theorem foldl_addRoute_entries (kind : BindingKind) (isType : Bool) (destination : String)
    (adds : ∀ (record : Record) (imported localName : String),
      Routed.addRoute ⟨kind, destination, imported, localName⟩ record =
        { record with named := record.named ++ [⟨imported, localName, isType⟩] })
    (entries : Entries String) (record : Record) :
    (entries.map fun entry => (⟨kind, destination, entry.2, entry.1⟩ : Route)).foldl
        (fun record route => Routed.addRoute route record) record =
      { record with
        named := record.named ++ entries.map fun entry => ⟨entry.2, entry.1, isType⟩ } := by
  induction entries generalizing record with
  | nil => simp
  | cons entry entries ih =>
    rw [List.map_cons, List.foldl_cons, ih, adds]
    simp

/-- Put into one record, the routes of a statement make the record of its bindings. -/
theorem foldl_addRoute_routesTo (statement : ImportStatement) (destination : String) :
    (statement.routesTo destination).foldl (fun record route => Routed.addRoute route record)
      (Record.empty statement.typeOnly) = statement.record := by
  obtain ⟨original, specifier, typeOnly, named, types, defaultName, namespaceName⟩ := statement
  have split : routesTo ⟨original, specifier, typeOnly, named, types, defaultName, namespaceName⟩
      destination =
      (named.map fun entry => (⟨.named, destination, entry.2, entry.1⟩ : Route)) ++
        (types.map fun entry => (⟨.typed, destination, entry.2, entry.1⟩ : Route)) ++
        defaultName.toList.map (fun name => (⟨.default, destination, name, name⟩ : Route)) ++
        namespaceName.toList.map (fun name => (⟨.wholeModule, destination, name, name⟩ : Route)) := by
    simp [routesTo, requests, Function.comp_def]
  rw [split]
  have addNamed := foldl_addRoute_entries .named false destination (fun _ _ _ => rfl) named
  have addTyped := foldl_addRoute_entries .typed true destination (fun _ _ _ => rfl) types
  simp only [List.foldl_append, addNamed, addTyped]
  cases defaultName <;> cases namespaceName <;> rfl

theorem routesTo_ne_nil {statement : ImportStatement} (filled : statement.bindings.isEmpty = false)
    (destination : String) : statement.routesTo destination ≠ [] := by
  intro none
  rw [routesTo, List.map_eq_nil_iff] at none
  exact requests_ne_nil filled none

/-- A statement that binds something comes to the same record binding by binding and as a whole. -/
theorem ofResolutions_routesTo {statement : ImportStatement}
    (filled : statement.bindings.isEmpty = false) (destination : String) :
    Routed.ofResolutions statement.typeOnly
        ((statement.routesTo destination).map Resolution.resolved) =
      Routed.toModule statement destination := by
  have routes : Routed.routes ((statement.routesTo destination).map Resolution.resolved) =
      statement.routesTo destination := by
    rw [Routed.routes, List.filterMap_map]
    exact List.filterMap_some
  have dropped : Routed.dropped ((statement.routesTo destination).map Resolution.resolved) = [] := by
    rw [Routed.dropped, List.filterMap_map]
    exact List.filterMap_eq_nil_iff.2 fun _ _ => rfl
  have one : ∀ route ∈ statement.routesTo destination, route.destination = destination := by
    intro route mem
    obtain ⟨request, _, rfl⟩ := List.mem_map.1 mem
    rfl
  rw [Routed.ofResolutions, routes, dropped,
    Routed.group_of_destination (routesTo_ne_nil filled destination) one, foldl_addRoute_routesTo]
  rfl

end ImportStatement

/-- A symbol map of nothing but a catch-all. -/
def Routing.catchAll (destination : String) : Routing :=
  .symbols [(catchAllKey, .shorthand destination)]

theorem SymbolMap.ofEntries_catchAll {destination : String} (named : destination ≠ "") :
    ofEntries [(catchAllKey, .shorthand destination)] =
      .ok ⟨[(catchAllKey, .shorthand destination)], some ⟨destination, none⟩⟩ := by
  have present : entry? [(catchAllKey, .shorthand destination)] catchAllKey =
      some (.shorthand destination) := by
    simp [Entries.get?, entry?, SymbolEntry.isPresent, named]
  rw [ofEntries, present]
  simp only [SymbolEntry.toSource_shorthand named]
  rfl

theorem IsName.ne_catchAllKey {name : String} (h : IsName name) : name ≠ catchAllKey := by
  rintro rfl
  exact absurd (h.continues '*' (by decide)) (by decide)

/-- A catch-all alone routes a binding to its module, under the binding's own names. -/
theorem SymbolMap.resolve_catchAll {destination : String} {request : Request}
    (imported : IsName request.imported) :
    resolve ⟨[(catchAllKey, .shorthand destination)], some ⟨destination, none⟩⟩ request =
      .ok (.resolved ⟨request.kind, destination, request.imported, request.localName⟩) := by
  have absent : entry? [(catchAllKey, .shorthand destination)] request.imported = none := by
    simp [Entries.get?, entry?, imported.ne_catchAllKey.symm]
  rcases resolve_cases ⟨[(catchAllKey, .shorthand destination)], some ⟨destination, none⟩⟩
    request with ⟨entry, _, present, _⟩ | ⟨_, eq⟩
  · rw [absent] at present
    cases present
  · exact eq

/-- **A catch-all stands for its module.** A symbol map of nothing but a catch-all routes a
statement as the name of its module does. -/
theorem Routing.apply_catchAll {destination : String} (named : destination ≠ "")
    {statement : ImportStatement} (names : statement.bindings.WellNamed)
    (filled : statement.bindings.isEmpty = false) :
    ((catchAll destination).apply statement).result = .ok (Routed.toModule statement destination) := by
  have lookUp : ∀ entry ∈ [(catchAllKey, SymbolEntry.shorthand destination)],
      ∃ source, entry.2.toSource = .ok source := by
    intro entry mem
    rw [List.mem_singleton.1 mem]
    exact ⟨_, SymbolEntry.toSource_shorthand named⟩
  obtain ⟨map, resolution, built, resolves, result⟩ := exists_resolution lookUp statement
  rw [SymbolMap.ofEntries_catchAll named] at built
  cases built
  have resolved : statement.requests.map resolution =
      (statement.routesTo destination).map Resolution.resolved := by
    rw [ImportStatement.routesTo, List.map_map]
    refine List.map_congr_left fun request mem => ?_
    have first := (ImportStatement.isName_of_mem_requests names mem).1
    have both := (resolves request).symm.trans (SymbolMap.resolve_catchAll first)
    exact Except.ok.inj both
  rw [catchAll, result, resolved, ImportStatement.ofResolutions_routesTo filled]

/-! ## The round trip -/

namespace ImportStatement

/-- The entries that come back from the record of a statement. -/
theorem readBack_record (statement : ImportStatement) :
    statement.record.readBack =
      { statement.bindings with
        named := Entries.ofSettings (statement.bindings.named ++
          if statement.typeOnly then statement.bindings.types else [])
        types := Entries.ofSettings
          (if statement.typeOnly then [] else statement.bindings.types) } := by
  obtain ⟨original, specifier, typeOnly, named, types, defaultName, namespaceName⟩ := statement
  rw [Record.readBack_eq]
  cases typeOnly <;> simp [record, Binding.entry, List.filter_map, Function.comp_def]

/-- Entries for types are lost from view where the whole statement is for types, and only there. -/
theorem sameSymbols_readBack {statement : ImportStatement} (names : statement.bindings.WellNamed)
    (text : List Char) (destination : String) :
    sameSymbols ⟨text, destination, statement.typeOnly, statement.record.readBack⟩ statement =
      true ↔ ¬ (statement.typeOnly = true ∧ statement.bindings.types ≠ []) := by
  obtain ⟨original, specifier, typeOnly, named, types, defaultName, namespaceName⟩ := statement
  have namedDistinct : (Entries.keys named).Nodup := names.namedDistinct
  have typesDistinct : (Entries.keys types).Nodup := names.typesDistinct
  rw [readBack_record]
  cases typeOnly with
  | false =>
    simp [sameSymbols, Bindings.same, Entries.ofSettings_of_nodup namedDistinct,
      Entries.ofSettings_of_nodup typesDistinct, Entries.sameMap_self namedDistinct,
      Entries.sameMap_self typesDistinct]
  | true =>
    cases types with
    | nil =>
      simp [sameSymbols, Bindings.same, Entries.ofSettings_of_nodup namedDistinct,
        Entries.sameMap_self namedDistinct]
      rfl
    | cons entry types =>
      simp [sameSymbols, Bindings.same, Entries.ofSettings, Entries.sameMap]

end ImportStatement

/-- **The round trip.** Routed by a catch-all alone, a statement that can be read comes out as one
statement for the destination, which reads back with the same default name, namespace and type
mark. Its entries come back as they were, but a statement that is for types as a whole has no marks
on its entries: those for types come back among the others. -/
theorem catchAll_reads_back {text : List Char} {original : ImportStatement} {destination : String}
    (readable : ImportStatement.read text = .ok original) (named : destination ≠ "")
    (unquoted : Unquoted destination.toList) :
    ∃ routing routed rendered again,
      Routing.ofValue? (.table [(catchAllKey, .text destination)]) = some routing ∧
      (routing.apply original).result = .ok routed ∧ routed.statements = [rendered] ∧
      ImportStatement.read rendered = .ok again ∧ again.specifier = destination ∧
      again.bindings.defaultName = original.bindings.defaultName ∧
      again.bindings.namespaceName = original.bindings.namespaceName ∧
      again.typeOnly = original.typeOnly ∧
      (original.typeOnly = false → again.bindings.named = original.bindings.named ∧
        again.bindings.types = original.bindings.types) ∧
      (original.typeOnly = true → again.bindings.types = [] ∧ again.bindings.named =
        Entries.ofSettings (original.bindings.named ++ original.bindings.types)) ∧
      (again.sameSymbols original = true ↔
        ¬ (original.typeOnly = true ∧ original.bindings.types ≠ [])) := by
  have names := ImportStatement.wellNamed_of_read readable
  have filled : original.bindings.isEmpty = false := by
    obtain ⟨_, _, clause, _⟩ := ImportStatement.exists_header_of_read readable
    exact (ImportStatement.scan_of_readClause clause).2.2
  obtain ⟨rendered, shape⟩ : ∃ rendered, original.record.statement? destination = some rendered :=
    ⟨_, Record.statement?_eq_some_iff.2 ⟨(ImportStatement.isEmpty_record names).trans filled, rfl⟩⟩
  have statements : (Routed.toModule original destination).statements = [rendered] := by
    rw [ImportStatement.toModule_eq, Routed.statements]
    exact List.filterMap_cons_some shape
  have namedKept : Entries.ofSettings original.bindings.named = original.bindings.named :=
    Entries.ofSettings_of_nodup names.namedDistinct
  have typesKept : Entries.ofSettings original.bindings.types = original.bindings.types :=
    Entries.ofSettings_of_nodup names.typesDistinct
  refine ⟨Routing.catchAll destination, _, rendered, _, rfl, Routing.apply_catchAll named names filled,
    statements, Record.read_statement named unquoted (ImportStatement.names_record names) shape, rfl,
    ?_, ?_, rfl, ?_, ?_, ImportStatement.sameSymbols_readBack names _ _⟩
  · rw [ImportStatement.readBack_record]
  · rw [ImportStatement.readBack_record]
  · intro typeOnly
    rw [ImportStatement.readBack_record]
    simp [typeOnly, namedKept, typesKept]
  · intro typeOnly
    rw [ImportStatement.readBack_record]
    simp [typeOnly]
    rfl

theorem catchAll_reads_back_sample :
    ∃ original, ImportStatement.read "import type, { type as as type } from 'm'".toList =
        .ok original ∧ Unquoted "x".toList ∧
      ∃ routing routed rendered again,
        Routing.ofValue? (.table [(catchAllKey, .text "x")]) = some routing ∧
        (routing.apply original).result = .ok routed ∧ routed.statements = [rendered] ∧
        ImportStatement.read rendered = .ok again ∧ again.specifier = "x" ∧
        again.sameSymbols original = true := by
  have readable : ImportStatement.read "import type, { type as as type } from 'm'".toList =
      .ok ⟨"import type, { type as as type } from 'm'".toList, "m", false,
        ⟨[], [("type", "as")], some "type", none⟩⟩ := by decide +kernel
  have unquoted : Unquoted "x".toList := by decide
  obtain ⟨routing, routed, rendered, again, made, run, one, back, specifier, _, _, _, _, _, same⟩ :=
    catchAll_reads_back readable (show "x" ≠ "" by decide) unquoted
  exact ⟨_, readable, unquoted, routing, routed, rendered, again, made, run, one, back, specifier,
    same.2 (by decide)⟩

/-- The marks of entries are lost where the whole statement is for types. -/
theorem catchAll_loses_marks :
    ∃ original routing routed rendered again,
      ImportStatement.read "import type { type A } from 'm'".toList = .ok original ∧
      Routing.ofValue? (.table [(catchAllKey, .text "x")]) = some routing ∧
      (routing.apply original).result = .ok routed ∧ routed.statements = [rendered] ∧
      ImportStatement.read rendered = .ok again ∧ again.sameSymbols original = false := by
  refine ⟨⟨"import type { type A } from 'm'".toList, "m", true, ⟨[], [("A", "A")], none, none⟩⟩,
    Routing.catchAll "x",
    ⟨[("x", ⟨[⟨"A", "A", true⟩], none, none, true⟩)], []⟩,
    "import type { A } from 'x';".toList,
    ⟨"import type { A } from 'x';".toList, "x", true, ⟨[("A", "A")], [], none, none⟩⟩,
    ?_, rfl, ?_, ?_, ?_, ?_⟩
  all_goals decide +kernel

end VirtualImports
