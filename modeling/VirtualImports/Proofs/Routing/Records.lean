import VirtualImports.Proofs.Clause.Names
import VirtualImports.Proofs.Routing.Resolving

/-!
The records that a statement is routed to.

* `forall_mem_group`: what the first route of a record establishes and more routes preserve holds of
  every record;
* `names_group`: grouping puts no names into the records but those of the routes;
* `names_record`: a statement routed to one module as a whole keeps its names;
* `exists_source_of_resolve`: a binding is routed to a source of the symbol map, under its own
  names or the source's symbol name;
* `exists_source_of_mem_records`: each record is for a source of the routing, and its names are
  those of the statement and the symbol names of sources.
-/
namespace VirtualImports

open Text

/-- All names of a record have a property. -/
structure Record.Names (p : String → Prop) (record : Record) : Prop where
  named : ∀ binding ∈ record.named, p binding.imported ∧ p binding.localName
  default : ∀ name ∈ record.defaultName, p name
  wholeModule : ∀ name ∈ record.namespaceName, p name

theorem Record.Names.empty (p : String → Prop) (typeOnly : Bool) :
    (Record.empty typeOnly).Names p := by
  constructor <;> simp [Record.empty]

theorem Record.Names.imp {p q : String → Prop} {record : Record} (h : record.Names p)
    (imp : ∀ name, p name → q name) : record.Names q :=
  ⟨fun binding mem => ⟨imp _ (h.named binding mem).1, imp _ (h.named binding mem).2⟩,
    fun name mem => imp _ (h.default name mem), fun name mem => imp _ (h.wholeModule name mem)⟩

namespace Routed

variable {p : String → Prop}

theorem names_addRoute {route : Route} {record : Record} (old : record.Names p)
    (imported : p route.imported) (localName : p route.localName) :
    (addRoute route record).Names p := by
  have added (isType : Bool) : ∀ binding ∈ record.named ++
      [⟨route.imported, route.localName, isType⟩], p binding.imported ∧ p binding.localName := by
    intro binding mem
    rcases List.mem_append.1 mem with mem | mem
    · exact old.named binding mem
    · rw [List.mem_singleton.1 mem]
      exact ⟨imported, localName⟩
  unfold addRoute
  split
  · exact ⟨added false, old.default, old.wholeModule⟩
  · exact ⟨added true, old.default, old.wholeModule⟩
  · refine ⟨old.named, ?_, old.wholeModule⟩
    rintro _ ⟨⟩
    exact localName
  · refine ⟨old.named, old.default, ?_⟩
    rintro _ ⟨⟩
    exact localName

/-- What holds of a record when its first route is put in, and stays when more are, holds of every
record that grouping makes. -/
theorem forall_mem_group {P : String × Record → Prop} {typeOnly : Bool} {routes : List Route}
    (first : ∀ route ∈ routes, P (route.destination, addRoute route (Record.empty typeOnly)))
    (more : ∀ route ∈ routes, ∀ record, P (route.destination, record) →
      P (route.destination, addRoute route record)) :
    ∀ entry ∈ group typeOnly routes, P entry := by
  suffices run : ∀ (rest : List Route) (records : Entries Record), rest ⊆ routes →
      (∀ entry ∈ records, P entry) →
      ∀ entry ∈ rest.foldl (fun records route =>
        updateRecord route.destination typeOnly (addRoute route) records) records, P entry from
    run routes [] (List.Subset.refl _) (by simp)
  intro rest
  induction rest with
  | nil => exact fun records _ old => old
  | cons route rest ih =>
    intro records inside old
    have mem : route ∈ routes := inside (by simp)
    refine ih _ (fun x hx => inside (by simp [hx])) ?_
    intro entry hentry
    rcases Entries.mem_set hentry with rfl | hentry
    · cases found : Entries.get? route.destination records with
      | none => exact first route mem
      | some record => exact more route mem record (old _ (Entries.mem_of_get? found))
    · exact old entry hentry

/-- Grouping makes records for the destinations of the routes only, with their names only. -/
theorem names_group {typeOnly : Bool} {routes : List Route}
    (names : ∀ route ∈ routes, p route.imported ∧ p route.localName) :
    ∀ entry ∈ group typeOnly routes,
      (∃ route ∈ routes, route.destination = entry.1) ∧ entry.2.Names p := by
  refine forall_mem_group ?_ ?_
  · intro route mem
    have added := names_addRoute (Record.Names.empty p typeOnly) (names route mem).1
      (names route mem).2
    exact ⟨⟨route, mem, rfl⟩, added⟩
  · rintro route mem record ⟨origin, old⟩
    exact ⟨origin, names_addRoute old (names route mem).1 (names route mem).2⟩

theorem mem_routes {resolutions : List Resolution} {route : Route} :
    route ∈ routes resolutions ↔ .resolved route ∈ resolutions := by
  simp only [routes, List.mem_filterMap]
  constructor
  · rintro ⟨resolution, mem, same⟩
    cases resolution <;> cases same
    exact mem
  · intro mem
    exact ⟨_, mem, rfl⟩

end Routed

namespace ImportStatement

theorem isName_of_mem_requests {statement : ImportStatement}
    (names : statement.bindings.WellNamed) {request : Request} (mem : request ∈ statement.requests) :
    IsName request.imported ∧ IsName request.localName := by
  simp only [requests, List.mem_append, List.mem_map, Option.mem_toList] at mem
  rcases mem with ((⟨entry, he, rfl⟩ | ⟨entry, he, rfl⟩) | ⟨name, hn, rfl⟩) | ⟨name, hn, rfl⟩
  · exact (names.named entry he).symm
  · exact (names.types entry he).symm
  · exact ⟨names.default name hn, names.default name hn⟩
  · exact ⟨names.wholeModule name hn, names.wholeModule name hn⟩

theorem requests_ne_nil {statement : ImportStatement}
    (filled : statement.bindings.isEmpty = false) : statement.requests ≠ [] := by
  intro none
  simp only [requests, List.append_eq_nil_iff, List.map_eq_nil_iff, Option.toList_eq_nil_iff] at none
  obtain ⟨⟨⟨named, types⟩, default⟩, wholeModule⟩ := none
  rw [Bindings.isEmpty, named, types, default, wholeModule] at filled
  cases filled

/-- The record that asks for all bindings of a statement. -/
def record (statement : ImportStatement) : Record where
  named :=
    statement.bindings.named.map (fun (localName, imported) => ⟨imported, localName, false⟩) ++
      statement.bindings.types.map (fun (localName, imported) => ⟨imported, localName, true⟩)
  defaultName := statement.bindings.defaultName
  namespaceName := statement.bindings.namespaceName
  typeOnly := statement.typeOnly

theorem toModule_eq (statement : ImportStatement) (destination : String) :
    Routed.toModule statement destination = ⟨[(destination, statement.record)], []⟩ :=
  rfl

theorem names_record {statement : ImportStatement} (h : statement.bindings.WellNamed) :
    statement.record.Names IsName where
  named := by
    intro binding mem
    rcases List.mem_append.1 mem with mem | mem
    · obtain ⟨entry, he, rfl⟩ := List.mem_map.1 mem
      exact (h.named entry he).symm
    · obtain ⟨entry, he, rfl⟩ := List.mem_map.1 mem
      exact (h.types entry he).symm
  default := h.default
  wholeModule := h.wholeModule

end ImportStatement

/-! ## Sources -/

/-- The sources that a routing can ask for. -/
def Routing.sources : Routing → List SymbolSource
  | .module destination => [⟨destination, none⟩]
  | .symbols entries => entries.filterMap fun entry => entry.2.toSource.toOption

theorem Routing.mem_sources {entries : Entries SymbolEntry} {entry : String × SymbolEntry}
    (mem : entry ∈ entries) {source : SymbolSource} (found : entry.2.toSource = .ok source) :
    source ∈ (symbols entries).sources :=
  List.mem_filterMap.2 ⟨entry, mem, by rw [found]; rfl⟩

namespace SymbolMap

theorem entries_of_ofEntries {entries : Entries SymbolEntry} {map : SymbolMap}
    (h : ofEntries entries = .ok map) : map.entries = entries := by
  unfold ofEntries at h
  split at h
  · cases h
    rfl
  · obtain ⟨_, _, rfl⟩ := Except.map_eq_ok.1 h
    rfl

theorem catchAll_mem_sources {entries : Entries SymbolEntry} {map : SymbolMap}
    (h : ofEntries entries = .ok map) {source : SymbolSource} (found : map.catchAll = some source) :
    source ∈ (Routing.symbols entries).sources := by
  unfold ofEntries at h
  split at h
  · cases h
    cases found
  · rename_i entry present
    obtain ⟨_, checked, rfl⟩ := Except.map_eq_ok.1 h
    cases found
    exact Routing.mem_sources (mem_of_entry present) checked

/-- A binding is routed to a source as what it is, under its own names or the source's symbol
name. -/
theorem exists_source_of_resolve {entries : Entries SymbolEntry} {map : SymbolMap}
    (built : ofEntries entries = .ok map) {request : Request} {route : Route}
    (h : map.resolve request = .ok (.resolved route)) :
    route.kind = request.kind ∧
      ∃ source ∈ (Routing.symbols entries).sources, route.destination = source.destination ∧
        (route.imported = request.imported ∨ route.imported ∈ source.symbol) ∧
        (route.localName = request.localName ∨ route.localName = request.imported) := by
  rcases map.resolve_cases request with ⟨entry, _, present, eq⟩ | ⟨_, eq⟩
  · obtain ⟨source, checked, same⟩ := Except.map_eq_ok.1 (eq.symm.trans h)
    rw [entries_of_ofEntries built] at present
    cases same
    have listed := Routing.mem_sources (mem_of_entry present) checked
    unfold routeTo
    split
    · rename_i symbol found
      exact ⟨rfl, source, listed, rfl, .inr found, .inr rfl⟩
    · exact ⟨rfl, source, listed, rfl, .inl rfl, .inl rfl⟩
  · have byCatchAll := Except.ok.inj (eq.symm.trans h)
    unfold resolveByCatchAll at byCatchAll
    split at byCatchAll
    · rename_i source found
      cases byCatchAll
      exact ⟨rfl, source, catchAll_mem_sources built found, rfl, .inl rfl, .inl rfl⟩
    · cases byCatchAll

end SymbolMap

/-- Each record is for a source of the routing. Its names come from the statement or are symbol
names of sources. -/
theorem Routing.exists_source_of_mem_records {routing : Routing} (valid : routing.Valid)
    {statement : ImportStatement} (names : statement.bindings.WellNamed) {p : String → Prop}
    (ofName : ∀ name, IsName name → p name)
    (ofSymbol : ∀ source ∈ routing.sources, ∀ symbol ∈ source.symbol, p symbol) :
    ∀ entry ∈ (routing.routed statement).records,
      (∃ source ∈ routing.sources, source.destination = entry.1) ∧ entry.2.Names p := by
  cases routing with
  | module destination =>
    intro entry mem
    rw [routed_of_apply rfl] at mem
    rw [List.mem_singleton.1 mem]
    exact ⟨⟨_, List.mem_singleton_self _, rfl⟩, (ImportStatement.names_record names).imp ofName⟩
  | symbols entries =>
    obtain ⟨map, resolution, built, resolves, result⟩ :=
      exists_resolution valid.lookUp statement
    have origin : ∀ route ∈ Routed.routes (statement.requests.map resolution),
        ∃ request ∈ statement.requests, ∃ source ∈ (symbols entries).sources,
          route.destination = source.destination ∧
          (route.imported = request.imported ∨ route.imported ∈ source.symbol) ∧
          (route.localName = request.localName ∨ route.localName = request.imported) := by
      intro route mem
      obtain ⟨request, hr, same⟩ := List.mem_map.1 (Routed.mem_routes.1 mem)
      exact ⟨request, hr, (SymbolMap.exists_source_of_resolve built (same ▸ resolves request)).2⟩
    intro entry mem
    rw [routed_of_apply result] at mem
    obtain ⟨⟨route, hr, same⟩, named⟩ := Routed.names_group (p := p) (by
      intro route hr
      obtain ⟨request, hq, source, hs, _, imported, localName⟩ := origin route hr
      obtain ⟨first, second⟩ := ImportStatement.isName_of_mem_requests names hq
      constructor
      · rcases imported with eq | symbol
        · exact eq ▸ ofName _ first
        · exact ofSymbol source hs _ symbol
      · rcases localName with eq | eq
        · exact eq ▸ ofName _ second
        · exact eq ▸ ofName _ first) entry mem
    obtain ⟨_, _, source, hs, destination, _⟩ := origin route hr
    exact ⟨⟨source, hs, destination.symm.trans same⟩, named⟩

end VirtualImports
