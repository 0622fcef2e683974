/-!
Replacements of spans of a text. The spans refer to the unchanged text, so the last is replaced
first.
-/
namespace VirtualImports

/-- New statements for the span from `start` to `stop`. No statements remove the span. -/
structure Replacement where
  original : List Char
  start : Int
  stop : Int
  statements : List (List Char)
  indent : List Char
  newline : List Char
  deriving DecidableEq, Repr

namespace Replacement

/-- The statements, each on a line of its own with the indentation of the first. -/
def render (replacement : Replacement) : List Char :=
  replacement.newline.intercalate (replacement.statements.map (replacement.indent ++ ·))

/-- The offset in a text of the given length. A negative one counts from the end. -/
def offset (length : Nat) (position : Int) : Nat :=
  if position < 0 then (length + position).toNat else position.toNat

def splice (code : List Char) (replacement : Replacement) : List Char :=
  code.take (offset code.length replacement.start) ++ replacement.render ++
    code.drop (offset code.length replacement.stop)

/-- Makes all replacements, from the last start to the first. -/
def applyAll (code : List Char) (replacements : List Replacement) : List Char :=
  (replacements.mergeSort fun a b => decide (b.start ≤ a.start)).foldl splice code

end Replacement

end VirtualImports
