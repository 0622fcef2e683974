import VirtualImports.Report.Attempt
import VirtualImports.Routing.Record
import VirtualImports.Routing.Resolution

/-!
Routed statements: the bindings of one statement grouped by destination, in the order in which
the destinations first come up, and the bindings that have none.
-/
namespace VirtualImports

structure Routed where
  records : Entries Record
  unresolved : List Unresolved
  deriving DecidableEq, Repr

namespace Routed

/-- Changes the record of a destination, which is made first if there is none. -/
def updateRecord (destination : String) (typeOnly : Bool) (change : Record → Record)
    (records : Entries Record) : Entries Record :=
  let record := (records.get? destination).getD (Record.empty typeOnly)
  records.set destination (change record)

def addRoute (route : Route) (record : Record) : Record :=
  match route.kind with
  | .named => { record with named := record.named ++ [⟨route.imported, route.localName, false⟩] }
  | .typed => { record with named := record.named ++ [⟨route.imported, route.localName, true⟩] }
  | .default => { record with defaultName := some route.localName }
  | .wholeModule => { record with namespaceName := some route.localName }

def routes (resolutions : List Resolution) : List Route :=
  resolutions.filterMap fun
    | .resolved route => some route
    | .unresolved _ => none

def dropped (resolutions : List Resolution) : List Unresolved :=
  resolutions.filterMap fun
    | .resolved _ => none
    | .unresolved unresolved => some unresolved

/-- Puts every route into the record of its destination. -/
def group (typeOnly : Bool) (routes : List Route) : Entries Record :=
  routes.foldl (fun records route => updateRecord route.destination typeOnly (addRoute route) records)
    []

def ofResolutions (typeOnly : Bool) (resolutions : List Resolution) : Routed :=
  ⟨group typeOnly (routes resolutions), dropped resolutions⟩

/-- The whole statement from one module, names unchanged. -/
def toModule (statement : ImportStatement) (destination : String) : Routed :=
  let bindings := statement.bindings
  ⟨[(destination,
      { named :=
          bindings.named.map (fun (localName, imported) => ⟨imported, localName, false⟩) ++
          bindings.types.map (fun (localName, imported) => ⟨imported, localName, true⟩)
        defaultName := bindings.defaultName
        namespaceName := bindings.namespaceName
        typeOnly := statement.typeOnly })], []⟩

/-- The statements for the destinations, in their order. -/
def statements (routed : Routed) : List (List Char) :=
  routed.records.filterMap fun (destination, record) => record.statement? destination

end Routed

/-- Each binding that is dropped is reported with the module it was asked from. -/
def Unresolved.log (specifier : String) (unresolved : Unresolved) : LogEntry :=
  Level.warning.log ("[MagicImports] " ++ unresolved.reason ++ " (" ++ specifier ++ ")")

def SymbolMap.attempt (map : SymbolMap) (specifier : String) (request : Request) :
    Attempt Invalid Resolution :=
  match map.resolve request with
  | .error invalid => .failed invalid
  | .ok (.resolved route) => .done (.resolved route)
  | .ok (.unresolved unresolved) => ⟨[unresolved.log specifier], .ok (.unresolved unresolved)⟩

/-- Routes the bindings of a statement. It fails only on an entry that is looked up and invalid;
the catch-all is always looked up, and first. -/
def Routing.apply (routing : Routing) (statement : ImportStatement) : Attempt Invalid Routed :=
  match routing with
  | .module destination => .done (Routed.toModule statement destination)
  | .symbols entries =>
    match SymbolMap.ofEntries entries with
    | .error invalid => .failed invalid
    | .ok map =>
      (Attempt.all (statement.requests.map (map.attempt statement.specifier))).map
        (Routed.ofResolutions statement.typeOnly)

end VirtualImports
