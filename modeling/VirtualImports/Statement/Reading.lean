import VirtualImports.Clause.Grammar
import VirtualImports.Statement.Header

/-!
Reading one import statement. Reading fails with a cause, and the cause has one wording.
-/
namespace VirtualImports

structure ImportStatement where
  original : List Char
  specifier : String
  typeOnly : Bool
  bindings : Bindings
  deriving DecidableEq, Repr

namespace Statement

inductive Fault
  | notAnImport
  | illegalCharacter (found : Clause.IllegalCharacter)
  | clause (fault : Clause.LocatedFault)
  | bindsNothing
  deriving DecidableEq, Repr

namespace Fault

/-- Clause faults tell the place where they show. -/
def position? : Fault → Option Nat
  | clause fault => some fault.position
  | _ => none

def reason : Fault → String
  | notAnImport => "Not an 'import ... from' statement"
  | illegalCharacter found => found.message
  | clause fault => fault.fault.message
  | bindsNothing => "Import clause binds no symbols"

def message (fault : Fault) : String :=
  match fault.position? with
  | some position => fault.reason ++ " (at clause offset " ++ toString position ++ ")"
  | none => fault.reason

end Fault

/-- A statement that cannot be read, as it was given, and why. -/
structure Unreadable where
  statement : List Char
  fault : Fault
  deriving DecidableEq, Repr

def readClause (clause : List Char) : Except Fault Bindings :=
  let scan := Clause.scan clause
  match scan.illegal with
  | some found => .error (.illegalCharacter found)
  | none =>
    match Clause.read scan.tokens with
    | .error fault => .error (.clause fault)
    | .ok bindings => if bindings.isEmpty then .error .bindsNothing else .ok bindings

end Statement

namespace ImportStatement

open Statement

/-- Reads a statement. Blanks around it do not matter, but `original` keeps them. -/
def read (statement : List Char) : Except Unreadable ImportStatement :=
  match Header.ofText? (Text.trim statement) with
  | none => .error ⟨statement, .notAnImport⟩
  | some header =>
    match readClause header.clause with
    | .error fault => .error ⟨statement, fault⟩
    | .ok bindings =>
      .ok ⟨statement, String.ofList header.specifier, header.typeOnly, bindings⟩

/-- The same names bound the same way, from whatever module. -/
def sameSymbols (a b : ImportStatement) : Bool :=
  a.bindings.same b.bindings && a.typeOnly == b.typeOnly

/-- The same symbols from the same module, written the same way. -/
def same (a b : ImportStatement) : Bool :=
  a.original == b.original && a.specifier == b.specifier && a.sameSymbols b

end ImportStatement

end VirtualImports
