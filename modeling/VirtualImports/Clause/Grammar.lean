import VirtualImports.Clause.Bindings
import VirtualImports.Clause.Token

/-!
The grammar of import clauses. A clause is a sequence of parts: a default name, a namespace
`* as N` and a brace list, each at most once and separated by commas. A default name may follow
the brace list without a comma.

The tokens are read one by one; `Phase` says what has just been read.
-/
namespace VirtualImports.Clause

inductive Fault
  | trailingComma
  | unexpected (text : String)
  | unexpectedName (name : String)
  | duplicateNamespace
  | duplicateList
  | asExpected
  | namespaceNameExpected
  | nestedBraces
  | unexpectedInList (text : String)
  | unbalancedBraces
  | malformedEntry (words : List String)
  deriving DecidableEq, Repr

def Fault.message : Fault → String
  | trailingComma => "Trailing comma in import clause"
  | unexpected text => "Unexpected '" ++ text ++ "'"
  | unexpectedName name => "Unexpected identifier '" ++ name ++ "'"
  | duplicateNamespace => "Duplicate namespace import"
  | duplicateList => "Duplicate named import list"
  | asExpected => "Expected 'as' after '*'"
  | namespaceNameExpected => "Expected namespace name after '* as'"
  | nestedBraces => "Nested braces in import clause"
  | unexpectedInList text => "Unexpected '" ++ text ++ "' in named imports"
  | unbalancedBraces => "Unbalanced braces in import clause"
  | malformedEntry words => "Malformed import specifier '" ++ " ".intercalate words ++ "'"

/-- A fault and the clause offset of the token that shows it. -/
structure LocatedFault where
  fault : Fault
  position : Nat
  deriving DecidableEq, Repr

/-- `type` in front of an entry marks a type only where two or four words leave an entry of one
or three; elsewhere it is a name. -/
def splitTypeMark : List String → Bool × List String
  | "type" :: rest => if rest.length = 1 ∨ rest.length = 3 then (true, rest) else (false, "type" :: rest)
  | words => (false, words)

/-- Adds the entry made of `words`, which ends at the token at `position`. An empty entry, as
after a trailing comma, adds nothing. -/
def addEntry (words : List String) (position : Nat) (bound : Bindings) :
    Except LocatedFault Bindings :=
  if words.isEmpty then .ok bound
  else
    let (isType, entry) := splitTypeMark words
    match entry with
    | [name] => .ok (bound.insert ⟨name, name, isType⟩)
    | [imported, "as", localName] => .ok (bound.insert ⟨imported, localName, isType⟩)
    | _ => .error ⟨.malformedEntry entry, position⟩

inductive Phase
  /-- A part is due, after the comma at the offset given or at the start of the clause. -/
  | due (comma : Option Nat)
  | afterPart
  | afterStar (star : Nat)
  | afterAs (position : Nat)
  /-- Inside the braces opened at an offset, after some words of the current entry. -/
  | inList (opened : Nat) (words : List String)
  deriving DecidableEq, Repr

structure Progress where
  phase : Phase
  listSeen : Bool
  bound : Bindings
  deriving DecidableEq, Repr

namespace Progress

def start : Progress := ⟨.due none, false, .empty⟩

/-- Reads the first token of a part. -/
def beginPart (progress : Progress) (token : Token) : Except LocatedFault Progress :=
  match token.lexeme with
  | .star =>
    if progress.bound.namespaceName.isSome then .error ⟨.duplicateNamespace, token.position⟩
    else .ok { progress with phase := .afterStar token.position }
  | .openBrace =>
    if progress.listSeen then .error ⟨.duplicateList, token.position⟩
    else .ok { progress with phase := .inList token.position [] }
  | .name name =>
    if progress.bound.defaultName.isSome then .error ⟨.unexpectedName name, token.position⟩
    else .ok ⟨.afterPart, progress.listSeen, { progress.bound with defaultName := some name }⟩
  | .closeBrace | .comma => .error ⟨.unexpected token.text, token.position⟩

/-- Reads a token inside the braces. -/
def stepList (progress : Progress) (opened : Nat) (words : List String) (token : Token) :
    Except LocatedFault Progress :=
  match token.lexeme with
  | .closeBrace =>
    (addEntry words token.position progress.bound).map fun bound => ⟨.afterPart, true, bound⟩
  | .comma =>
    (addEntry words token.position progress.bound).map fun bound =>
      ⟨.inList opened [], progress.listSeen, bound⟩
  | .name name => .ok { progress with phase := .inList opened (words ++ [name]) }
  | .openBrace => .error ⟨.nestedBraces, token.position⟩
  | .star => .error ⟨.unexpectedInList token.text, token.position⟩

def step (progress : Progress) (token : Token) : Except LocatedFault Progress :=
  match progress.phase with
  | .due _ => progress.beginPart token
  | .afterPart =>
    match token.lexeme with
    | .comma => .ok { progress with phase := .due (some token.position) }
    | .name _ =>
      if progress.listSeen then progress.beginPart token
      else .error ⟨.unexpected token.text, token.position⟩
    | _ => .error ⟨.unexpected token.text, token.position⟩
  | .afterStar star =>
    if token.lexeme = .name "as" then .ok { progress with phase := .afterAs token.position }
    else .error ⟨.asExpected, star⟩
  | .afterAs position =>
    match token.lexeme with
    | .name name =>
      .ok ⟨.afterPart, progress.listSeen, { progress.bound with namespaceName := some name }⟩
    | _ => .error ⟨.namespaceNameExpected, position⟩
  | .inList opened words => progress.stepList opened words token

/-- The clause may end after a part, or before the first one. -/
def finish (progress : Progress) : Except LocatedFault Bindings :=
  match progress.phase with
  | .due none | .afterPart => .ok progress.bound
  | .due (some comma) => .error ⟨.trailingComma, comma⟩
  | .afterStar star => .error ⟨.asExpected, star⟩
  | .afterAs position => .error ⟨.namespaceNameExpected, position⟩
  | .inList opened _ => .error ⟨.unbalancedBraces, opened⟩

end Progress

/-- Reads a clause from its tokens. -/
def read (tokens : List Token) : Except LocatedFault Bindings :=
  match tokens.foldlM Progress.step Progress.start with
  | .ok progress => progress.finish
  | .error fault => .error fault

end VirtualImports.Clause
