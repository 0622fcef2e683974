/-!
Blank characters and trimming. The class is wider than core's `Char.isWhitespace`: it holds the
four information separators, the next-line character and the Unicode spaces.
-/
namespace VirtualImports.Text

/-- White space of any script. Zero-width spaces and the byte-order mark do not belong to it. -/
def isBlank (c : Char) : Bool :=
  let n := c.toNat
  (0x09 ≤ n && n ≤ 0x0D) || (0x1C ≤ n && n ≤ 0x20) || n == 0x85 || n == 0xA0 || n == 0x1680 ||
    (0x2000 ≤ n && n ≤ 0x200A) || n == 0x2028 || n == 0x2029 || n == 0x202F || n == 0x205F ||
    n == 0x3000

/-- A space or a tab: the only blanks allowed before a statement and after it. -/
def isSpaceOrTab (c : Char) : Bool :=
  c == ' ' || c == '\t'

def trimLeft (s : List Char) : List Char :=
  s.dropWhile isBlank

def trimRight (s : List Char) : List Char :=
  (s.reverse.dropWhile isBlank).reverse

def trim (s : List Char) : List Char :=
  trimRight (trimLeft s)

end VirtualImports.Text
