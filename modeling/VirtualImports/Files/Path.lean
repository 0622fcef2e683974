/-!
Paths in normal form: no empty parts and no `.` parts. A part `..` is kept, because what it leads
to depends on the files.
-/
namespace VirtualImports

/-- A path with root `/` or `//` is absolute; one with an empty root is relative. -/
structure Path where
  root : String
  parts : List String
  deriving DecidableEq, Repr

namespace Path

/-- The pieces of a text between its slashes. -/
def splitSlashes : List Char → List (List Char)
  | [] => [[]]
  | c :: rest =>
    if c = '/' then [] :: splitSlashes rest
    else
      match splitSlashes rest with
      | [] => [[c]]
      | piece :: pieces => (c :: piece) :: pieces

/-- Exactly two leading slashes are a root of their own; three or more are one. -/
def rootOf (s : List Char) : String :=
  match (s.takeWhile (· == '/')).length with
  | 0 => ""
  | 2 => "//"
  | _ => "/"

def ofText (text : String) : Path where
  root := rootOf text.toList
  parts := ((splitSlashes text.toList).map String.ofList).filter fun part => part != "" && part != "."

def toText (path : Path) : String :=
  if path.root = "" && path.parts.isEmpty then "."
  else path.root ++ "/".intercalate path.parts

def holdsNull (path : Path) : Bool :=
  path.parts.any fun part => part.toList.contains '\x00'

def isAbsolute (path : Path) : Bool :=
  path.root != ""

/-- The place that `other` names when it is looked at from `path`. -/
def join (path other : Path) : Path :=
  if other.isAbsolute then other else { path with parts := path.parts ++ other.parts }

def parent (path : Path) : Path :=
  { path with parts := path.parts.dropLast }

def name (path : Path) : String :=
  path.parts.getLast?.getD ""

/-- The last point of the name and what follows it, unless the point starts or ends the name. -/
def suffix (path : Path) : String :=
  let letters := path.name.toList
  let tail := (letters.reverse.takeWhile (· != '.')).reverse
  if tail.isEmpty || letters.length ≤ tail.length + 1 then ""
  else String.ofList ('.' :: tail)

/-- The order of paths below one directory, by their parts. -/
def partsLt : List String → List String → Bool
  | _, [] => false
  | [], _ :: _ => true
  | a :: as, b :: bs => decide (a < b) || (a == b && partsLt as bs)

end Path

end VirtualImports
