import VirtualImports.Configuration.Routing
import VirtualImports.Statement.Reading

/-!
Resolution of single bindings against a symbol map. A named binding is looked up by the name it
imports; a default or namespace binding has no such name. The catch-all takes what has no entry.
-/
namespace VirtualImports

inductive BindingKind
  | named
  | typed
  | default
  | wholeModule
  deriving DecidableEq, Repr

/-- One binding of a statement, to be routed. -/
structure Request where
  kind : BindingKind
  imported : String
  localName : String
  deriving DecidableEq, Repr

/-- The bindings of a statement in the order in which they are routed. -/
def ImportStatement.requests (statement : ImportStatement) : List Request :=
  statement.bindings.named.map (fun (localName, imported) => ⟨.named, imported, localName⟩) ++
  statement.bindings.types.map (fun (localName, imported) => ⟨.typed, imported, localName⟩) ++
  statement.bindings.defaultName.toList.map (fun name => ⟨.default, name, name⟩) ++
  statement.bindings.namespaceName.toList.map (fun name => ⟨.wholeModule, name, name⟩)

/-- A binding with its destination, and the names it has there and here. -/
structure Route where
  kind : BindingKind
  destination : String
  imported : String
  localName : String
  deriving DecidableEq, Repr

/-- A binding that nothing in the symbol map applies to, under the name it was looked up by. -/
structure Unresolved where
  kind : BindingKind
  name : String
  deriving DecidableEq, Repr

def Unresolved.reason (unresolved : Unresolved) : String :=
  match unresolved.kind with
  | .named | .typed =>
    "Symbol '" ++ unresolved.name ++ "' not found in config and no '*' catch-all defined."
  | .default =>
    "Default import '" ++ unresolved.name ++ "' cannot be routed without a '*' catch-all."
  | .wholeModule =>
    "Namespace import '* as " ++ unresolved.name ++ "' cannot be routed without a '*' catch-all."

inductive Resolution
  | resolved (route : Route)
  | unresolved (unresolved : Unresolved)
  deriving DecidableEq, Repr

/-- A symbol map with its catch-all entry already checked. -/
structure SymbolMap where
  entries : Entries SymbolEntry
  catchAll : Option SymbolSource

namespace SymbolMap

/-- The entry of a symbol, unless it is empty. -/
def entry? (entries : Entries SymbolEntry) (name : String) : Option SymbolEntry :=
  (Entries.get? name entries).filter SymbolEntry.isPresent

def ofEntries (entries : Entries SymbolEntry) : Except Invalid SymbolMap :=
  match entry? entries catchAllKey with
  | none => .ok ⟨entries, none⟩
  | some entry => entry.toSource.map fun source => ⟨entries, some source⟩

/-- What the catch-all makes of a binding. It takes no notice of a symbol name there. -/
def resolveByCatchAll (map : SymbolMap) (request : Request) : Resolution :=
  match map.catchAll with
  | some source =>
    .resolved ⟨request.kind, source.destination, request.imported, request.localName⟩
  | none => .unresolved ⟨request.kind, request.imported⟩

/-- A source with a symbol name of its own binds the imported name, whatever the local name
was. -/
def routeTo (source : SymbolSource) (request : Request) : Route :=
  match source.symbol with
  | some symbol => ⟨request.kind, source.destination, symbol, request.imported⟩
  | none => ⟨request.kind, source.destination, request.imported, request.localName⟩

def resolve (map : SymbolMap) (request : Request) : Except Invalid Resolution :=
  match request.kind with
  | .named | .typed =>
    match entry? map.entries request.imported with
    | some entry => entry.toSource.map fun source => .resolved (routeTo source request)
    | none => .ok (map.resolveByCatchAll request)
  | .default | .wholeModule => .ok (map.resolveByCatchAll request)

end SymbolMap

end VirtualImports
