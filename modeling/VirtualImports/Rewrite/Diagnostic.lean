import VirtualImports.Routing.Routed
import VirtualImports.Text.Quoted

/-!
Diagnostics: the statements and bindings that a rewrite had to leave out. Each goes with one
warning.
-/
namespace VirtualImports

inductive DiagnosticKind
  | unparseableStatement
  | unresolvedSymbol
  deriving DecidableEq, Repr

def DiagnosticKind.name : DiagnosticKind → String
  | unparseableStatement => "unparseable_statement"
  | unresolvedSymbol => "unresolved_symbol"

/-- One line about a diagnostic. -/
def DiagnosticKind.summary (kind : DiagnosticKind) (message : String) : String :=
  kind.name ++ ": " ++ message

inductive Problem
  | unreadable (cause : Statement.Unreadable)
  | unresolved (binding : Unresolved)
  deriving DecidableEq, Repr

/-- A problem with a statement of a module, which stands in the text as `original`. -/
structure Diagnostic where
  module : String
  original : List Char
  problem : Problem
  deriving DecidableEq, Repr

namespace Diagnostic

def kind (diagnostic : Diagnostic) : DiagnosticKind :=
  match diagnostic.problem with
  | .unreadable _ => .unparseableStatement
  | .unresolved _ => .unresolvedSymbol

def message (diagnostic : Diagnostic) : String :=
  match diagnostic.problem with
  | .unreadable cause => cause.fault.message
  | .unresolved binding => binding.reason

def symbol? (diagnostic : Diagnostic) : Option String :=
  match diagnostic.problem with
  | .unreadable _ => none
  | .unresolved binding => some binding.name

def summary (diagnostic : Diagnostic) : String :=
  diagnostic.kind.summary diagnostic.message

end Diagnostic

def Statement.Unreadable.log (cause : Statement.Unreadable) : LogEntry :=
  Level.warning.log ("[MagicImports] Skipping unparseable import: " ++
    Text.quoted cause.statement ++ " (" ++ cause.fault.message ++ ")")

end VirtualImports
