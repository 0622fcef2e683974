import VirtualImports.Proofs.Routing.Records

/-!
The names that a statement binds, and where a routing takes them.

* `Bound`: one name, with what it stands for;
* `redirect?`: where a name is looked up, by the entry for what is imported, or else by the
  catch-all;
* `rebind?`: the same with the name that is bound in the end, which is the imported one where its
  entry has a symbol of its own;
* `route_of_resolve`: this is what resolution makes of the bindings of a statement.
-/
namespace VirtualImports

/-- What is taken from a module: one of its exports, its default, or all of it. -/
inductive Exported
  | named (name : String)
  | default
  | wholeModule
  deriving DecidableEq, Repr

/-- One name that a statement binds. -/
structure Bound where
  localName : String
  forTypes : Bool
  module : String
  exported : Exported
  deriving DecidableEq, Repr

/-- The names that a statement binds. The mark of the statement makes all of them names for types,
the mark of an entry only that one. -/
def ImportStatement.bound (statement : ImportStatement) : List Bound :=
  statement.bindings.named.map (fun (localName, imported) =>
    ⟨localName, statement.typeOnly, statement.specifier, .named imported⟩) ++
  statement.bindings.types.map (fun (localName, imported) =>
    ⟨localName, true, statement.specifier, .named imported⟩) ++
  statement.bindings.defaultName.toList.map (fun name =>
    ⟨name, statement.typeOnly, statement.specifier, .default⟩) ++
  statement.bindings.namespaceName.toList.map (fun name =>
    ⟨name, statement.typeOnly, statement.specifier, .wholeModule⟩)

/-! ## Look-up -/

namespace Routing

/-- The source that a symbol map has under a key. -/
def lookUp? (routing : Routing) (key : String) : Option SymbolSource :=
  match routing with
  | module _ => none
  | symbols entries => (entries.get? key).bind fun entry => entry.toSource.toOption

/-- The module for all that has no entry of its own. -/
def fallback? (routing : Routing) : Option String :=
  match routing with
  | module destination => some destination
  | symbols _ => (routing.lookUp? catchAllKey).map SymbolSource.destination

/-- The entry for what is imported. Only a named export can have one. -/
def explicit? (routing : Routing) : Exported → Option SymbolSource
  | .named name => routing.lookUp? name
  | .default | .wholeModule => none

/-- Where a name comes from under a routing. An entry may give a symbol to import in place of the
one asked for. -/
def redirect? (routing : Routing) (bound : Bound) : Option Bound :=
  match routing.explicit? bound.exported with
  | some source =>
    some { bound with
      module := source.destination
      exported := (source.symbol.map Exported.named).getD bound.exported }
  | none => routing.fallback?.map fun destination => { bound with module := destination }

/-- The imported name, where its entry gives a symbol in its place. -/
def overridden? (routing : Routing) : Exported → Option String
  | .named name => (routing.lookUp? name).bind fun source => source.symbol.map fun _ => name
  | .default | .wholeModule => none

/-- The local name in the end: the imported name where a symbol takes its place. -/
def landing (routing : Routing) (bound : Bound) : String :=
  (routing.overridden? bound.exported).getD bound.localName

/-- What becomes of a name under a routing. -/
def rebind? (routing : Routing) (bound : Bound) : Option Bound :=
  (routing.redirect? bound).map fun redirected =>
    { redirected with localName := routing.landing bound }

theorem lookUp?_of_get? {entries : Entries SymbolEntry} {key : String} {entry : SymbolEntry}
    {source : SymbolSource} (found : entries.get? key = some entry)
    (checked : entry.toSource = .ok source) : (symbols entries).lookUp? key = some source := by
  simp [lookUp?, found, checked, Except.toOption]

theorem overridden?_eq_some_iff {routing : Routing} {exported : Exported} {name : String} :
    routing.overridden? exported = some name ↔ exported = .named name ∧
      ∃ source symbol, routing.lookUp? name = some source ∧ source.symbol = some symbol := by
  cases exported with
  | named imported =>
    simp only [overridden?, Option.bind_eq_some_iff, Option.map_eq_some_iff, Exported.named.injEq]
    constructor
    · rintro ⟨source, found, symbol, given, rfl⟩
      exact ⟨rfl, source, symbol, found, given⟩
    · rintro ⟨rfl, source, symbol, found, given⟩
      exact ⟨source, found, symbol, given, rfl⟩
  | default => simp [overridden?]
  | wholeModule => simp [overridden?]

theorem overridden?_named {routing : Routing} {exported : Exported} {name : String}
    (h : routing.overridden? exported = some name) :
    routing.overridden? (.named name) = some name := by
  rw [← (overridden?_eq_some_iff.1 h).1]
  exact h

theorem landing_of_overridden? {routing : Routing} {bound : Bound} {name : String}
    (h : routing.overridden? bound.exported = some name) : routing.landing bound = name := by
  rw [landing, h, Option.getD_some]

theorem landing_of_kept {routing : Routing} {bound : Bound}
    (h : routing.overridden? bound.exported = none) :
    routing.landing bound = bound.localName := by
  rw [landing, h, Option.getD_none]

/-- A named export with an entry goes to the module of the entry. If the entry has a symbol, the
imported name is what is bound. -/
theorem rebind?_of_lookUp? {routing : Routing} {bound : Bound} {name : String}
    {source : SymbolSource} (named : bound.exported = .named name)
    (found : routing.lookUp? name = some source) :
    routing.rebind? bound = some
      { localName := if source.symbol.isSome then name else bound.localName
        forTypes := bound.forTypes
        module := source.destination
        exported := .named (source.symbol.getD name) } := by
  obtain ⟨destination, symbol⟩ := source
  cases symbol <;>
    simp [rebind?, redirect?, landing, overridden?, explicit?, named, found]

/-- What has no entry goes to the catch-all under its own names. -/
theorem rebind?_of_explicit?_eq_none {routing : Routing} {bound : Bound}
    (absent : routing.explicit? bound.exported = none) :
    routing.rebind? bound =
      routing.fallback?.map fun destination => { bound with module := destination } := by
  have kept : routing.overridden? bound.exported = none := by
    refine Option.eq_none_iff_forall_ne_some.2 fun name overridden => ?_
    obtain ⟨named, source, _, found, _⟩ := overridden?_eq_some_iff.1 overridden
    rw [named, explicit?, found] at absent
    cases absent
  simp only [rebind?, redirect?, absent, landing_of_kept kept, Option.map_map, Function.comp_def]

end Routing

/-! ## Resolution -/

/-- In a valid symbol map no entry counts as absent. -/
theorem SymbolMap.entry?_of_valid {entries : Entries SymbolEntry}
    (valid : (Routing.symbols entries).Valid) (name : String) :
    entry? entries name = entries.get? name := by
  unfold entry?
  cases found : entries.get? name with
  | none => rfl
  | some entry =>
    exact Option.filter_some_pos (valid (name, entry) (Entries.mem_of_get? found)).isPresent

/-- The catch-all of a valid symbol map is the source under its key. -/
theorem SymbolMap.catchAll_of_valid {entries : Entries SymbolEntry} {map : SymbolMap}
    (valid : (Routing.symbols entries).Valid) (built : ofEntries entries = .ok map) :
    map.catchAll = (Routing.symbols entries).lookUp? catchAllKey := by
  rw [ofEntries, entry?_of_valid valid] at built
  cases found : entries.get? catchAllKey with
  | none =>
    rw [found] at built
    cases built
    simp [Routing.lookUp?, found]
  | some entry =>
    rw [found] at built
    obtain ⟨source, checked, rfl⟩ := Except.map_eq_ok.1 built
    exact (Routing.lookUp?_of_get? found checked).symm

/-- What a binding of a kind takes from its module. -/
def BindingKind.exported (kind : BindingKind) (imported : String) : Exported :=
  match kind with
  | named | typed => .named imported
  | default => .default
  | wholeModule => .wholeModule

def BindingKind.isType : BindingKind → Bool
  | typed => true
  | named | default | wholeModule => false

/-- The name that a request is for. -/
def Request.bound (typeOnly : Bool) (specifier : String) (request : Request) : Bound where
  localName := request.localName
  forTypes := typeOnly || request.kind.isType
  module := specifier
  exported := request.kind.exported request.imported

/-- The name that a route binds. -/
def Route.bound (typeOnly : Bool) (route : Route) : Bound where
  localName := route.localName
  forTypes := typeOnly || route.kind.isType
  module := route.destination
  exported := route.kind.exported route.imported

/-- The route of a binding that has one. -/
def Resolution.route? : Resolution → Option Route
  | resolved route => some route
  | unresolved _ => none

theorem Resolution.route?_eq_some_iff {resolution : Resolution} {route : Route} :
    resolution.route? = some route ↔ resolution = .resolved route := by
  cases resolution <;> simp [route?]

theorem ImportStatement.bound_eq_requests (statement : ImportStatement) :
    statement.bound =
      statement.requests.map (Request.bound statement.typeOnly statement.specifier) := by
  simp [bound, requests, Request.bound, BindingKind.exported, BindingKind.isType, Function.comp_def]

namespace SymbolMap

variable {entries : Entries SymbolEntry} {map : SymbolMap} {request : Request}

/-- **Resolution of one binding.** A valid symbol map gives a binding the route to where the routing
takes its name, and no route where the routing has no place for it. -/
theorem route_of_resolve (valid : (Routing.symbols entries).Valid)
    (built : ofEntries entries = .ok map) {resolution : Resolution}
    (h : map.resolve request = .ok resolution) (typeOnly : Bool) (specifier : String) :
    resolution.route?.map (Route.bound typeOnly) =
      (Routing.symbols entries).rebind? (request.bound typeOnly specifier) := by
  have lookUp (name : String) : entry? map.entries name = entries.get? name := by
    rw [entries_of_ofEntries built, entry?_of_valid valid]
  rcases map.resolve_cases request with ⟨entry, kind, present, eq⟩ | ⟨absent, eq⟩
  · -- the entry for the imported name counts, with its symbol if it has one
    obtain ⟨source, checked, rfl⟩ := Except.map_eq_ok.1 (eq.symm.trans h)
    have exported (name : String) : request.kind.exported name = .named name := by
      rcases kind with kind | kind <;> rw [kind] <;> rfl
    have found : (Routing.symbols entries).lookUp? request.imported = some source :=
      Routing.lookUp?_of_get? ((lookUp _).symm.trans present) checked
    rw [Routing.rebind?_of_lookUp? (exported request.imported) found]
    unfold routeTo
    cases source.symbol <;>
      simp [Resolution.route?, Route.bound, Request.bound, exported]
  · -- nothing but the catch-all is left
    cases Except.ok.inj (eq.symm.trans h)
    have unlisted : (Routing.symbols entries).explicit?
        (request.kind.exported request.imported) = none := by
      cases kind : request.kind with
      | named | typed =>
        have missing : entries.get? request.imported = none :=
          (lookUp _).symm.trans (absent (by simp [kind]))
        simp [BindingKind.exported, Routing.explicit?, Routing.lookUp?, missing]
      | default | wholeModule => rfl
    rw [Routing.rebind?_of_explicit?_eq_none unlisted, Routing.fallback?,
      ← catchAll_of_valid valid built, resolveByCatchAll]
    cases map.catchAll <;> rfl

end SymbolMap

end VirtualImports
