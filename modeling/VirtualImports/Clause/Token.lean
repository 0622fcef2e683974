import VirtualImports.Text.Blank
import VirtualImports.Text.Word

/-!
Tokens of an import clause, the text between `import` and `from`. Words such as `as` and `type`
are names here; the clause grammar tells them apart by position.
-/
namespace VirtualImports.Clause

open Text

inductive Lexeme
  | star
  | openBrace
  | closeBrace
  | comma
  | name (text : String)
  deriving DecidableEq, Repr

namespace Lexeme

def text : Lexeme → String
  | star => "*"
  | openBrace => "\x7b"
  | closeBrace => "\x7d"
  | comma => ","
  | name text => text

def ofPunctuation? (c : Char) : Option Lexeme :=
  if c = '*' then some star
  else if c = '{' then some openBrace
  else if c = '}' then some closeBrace
  else if c = ',' then some comma
  else none

end Lexeme

/-- A lexeme and the offset of its first character in the clause. -/
structure Token where
  lexeme : Lexeme
  position : Nat
  deriving DecidableEq, Repr

def Token.text (token : Token) : String :=
  token.lexeme.text

/-- The place where no token can start, with the text found there. -/
structure IllegalCharacter where
  position : Nat
  excerpt : List Char
  deriving DecidableEq, Repr

def IllegalCharacter.message (found : IllegalCharacter) : String :=
  "Illegal character at offset " ++ toString found.position ++ ": '" ++
    String.ofList found.excerpt ++ "'"

/-- The tokens up to the end of the text or to the first illegal character. -/
structure Scan where
  tokens : List Token
  illegal : Option IllegalCharacter
  deriving DecidableEq, Repr

def Scan.cons (token : Token) (scan : Scan) : Scan :=
  { scan with tokens := token :: scan.tokens }

/-- Names start with an ASCII letter, an underscore or a dollar sign. -/
def startsName (c : Char) : Bool :=
  c.isAlpha || c == '_' || c == '$'

/-- Names go on with word characters of any script and dollar signs. -/
def continuesName (c : Char) : Bool :=
  isWordChar c || c == '$'

def excerptLength : Nat := 10

theorem length_dropWhile_le (p : Char → Bool) (s : List Char) :
    (s.dropWhile p).length ≤ s.length :=
  (List.dropWhile_sublist p).length_le

def scanFrom (position : Nat) (s : List Char) : Scan :=
  match s with
  | [] => ⟨[], none⟩
  | c :: rest =>
    if isBlank c then scanFrom (position + 1) rest
    else
      match Lexeme.ofPunctuation? c with
      | some lexeme => (scanFrom (position + 1) rest).cons ⟨lexeme, position⟩
      | none =>
        if startsName c then
          let tail := rest.takeWhile continuesName
          (scanFrom (position + 1 + tail.length) (rest.dropWhile continuesName)).cons
            ⟨.name (String.ofList (c :: tail)), position⟩
        else ⟨[], some ⟨position, (c :: rest).take excerptLength⟩⟩
termination_by s.length
decreasing_by
  · simp
  · simp
  · simpa using Nat.lt_succ_of_le (length_dropWhile_le continuesName rest)

/-- Splits a clause into tokens. White space separates tokens and is dropped; a name takes as
many characters as it can. -/
def scan (clause : List Char) : Scan :=
  scanFrom 0 clause

end VirtualImports.Clause
