import VirtualImports.Configuration.Issue
import VirtualImports.Data.Value

/-!
Where the symbols of a virtual module come from: for each target either one module for all of
them, or a map from symbols to sources with an optional catch-all.
-/
namespace VirtualImports

/-- The key of the entry that stands for every symbol without one of its own. -/
def catchAllKey : String := "*"

/-- The module that a symbol comes from, and the name that it exports it under where that is not
the name asked for. -/
structure SymbolSource where
  destination : String
  symbol : Option String
  deriving DecidableEq, Repr

/-- What a symbol map holds for a symbol: a module name, a source, or data not yet checked. -/
inductive SymbolEntry
  | shorthand (destination : String)
  | checked (source : SymbolSource)
  | raw (value : Value)
  deriving Repr

inductive Routing
  | module (destination : String)
  | symbols (entries : Entries SymbolEntry)
  deriving Repr

def checkText : Value → Checked String
  | .text s => .ok s
  | _ => Checked.complain .notText

def checkFilledText (value : Value) : Checked String :=
  match checkText value with
  | .ok "" => Checked.complain .emptyText
  | result => result

/-- Text that may be left out or null. -/
def checkOptional {α : Type} (check : Value → Checked α) : Option Value → Checked (Option α)
  | none | some .null => .ok none
  | some value => (check value).map some

def checkRequired {α : Type} (check : Value → Checked α) : Option Value → Checked α
  | none => Checked.complain .missing
  | some value => check value

/-- A field that may stand under either of two keys. The first key counts where both are there,
and issues are placed under the key that was found, or under the first where none was. -/
def checkEither {α : Type} (key other : String) (check : Option Value → Checked α)
    (fields : Entries Value) : Checked α :=
  match Entries.get? key fields, Entries.get? other fields with
  | none, some value => Checked.within other (check (some value))
  | found, _ => Checked.within key (check found)

namespace SymbolSource

/-- A table with the module under `from` or `from_`. Other keys are ignored. -/
def check : Value → Checked SymbolSource
  | .table fields =>
    ((checkEither "from" "from_" (checkRequired checkFilledText) fields).both
      (Checked.within "symbol" (checkOptional checkFilledText (Entries.get? "symbol" fields)))).map
      fun (destination, symbol) => ⟨destination, symbol⟩
  | _ => Checked.complain (.notModel .symbolSource)

end SymbolSource

namespace SymbolEntry

def ofValue : Value → SymbolEntry
  | .text destination => shorthand destination
  | value => raw value

/-- Empty entries count as absent. -/
def isPresent : SymbolEntry → Bool
  | shorthand destination => destination != ""
  | checked _ => true
  | raw value => value.isPresent

/-- The source that an entry stands for. Unchecked data is checked only here. -/
def toSource : SymbolEntry → Except Invalid SymbolSource
  | shorthand "" => .error ⟨.symbolSource, [⟨["from_"], .emptyText⟩]⟩
  | shorthand destination => .ok ⟨destination, none⟩
  | checked source => .ok source
  | raw value => (SymbolSource.check value).orInvalid .symbolSource

def check (value : Value) : Checked SymbolEntry :=
  ((checkText value).map shorthand |> Checked.within "str").either
    ((SymbolSource.check value).map checked |> Checked.within "SymbolSource")

end SymbolEntry

namespace Routing

/-- The routing that unchecked data stands for: a module name or a map of entries. -/
def ofValue? : Value → Option Routing
  | .text destination => some (module destination)
  | .table fields => some (symbols (fields.map fun (name, value) => (name, SymbolEntry.ofValue value)))
  | _ => none

def check (value : Value) : Checked Routing :=
  ((checkText value).map module |> Checked.within "str").either
    ((match value with
      | .table fields => (Checked.entries SymbolEntry.check fields).map symbols
      | _ => Checked.complain .notTable) |>
      Checked.within "dict[str,union[str,SymbolSource]]")

end Routing

end VirtualImports
