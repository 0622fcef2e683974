import VirtualImports.Files.Path
import VirtualImports.Text.Quoted

/-!
What can go wrong with a file, and its message.
-/
namespace VirtualImports

inductive FileFault
  | notFound
  | alreadyExists
  | notDirectory
  | isDirectory
  | nameTooLong
  /-- A path that holds the character U+0000 names nothing. -/
  | nullCharacter
  deriving DecidableEq, Repr

namespace FileFault

/-- The number that the system gives to a fault. A path that names nothing never reaches it. -/
def number? : FileFault → Option Nat
  | notFound => some 2
  | alreadyExists => some 17
  | notDirectory => some 20
  | isDirectory => some 21
  | nameTooLong => some 36
  | nullCharacter => none

def text : FileFault → String
  | notFound => "No such file or directory"
  | alreadyExists => "File exists"
  | notDirectory => "Not a directory"
  | isDirectory => "Is a directory"
  | nameTooLong => "File name too long"
  | nullCharacter => "embedded null byte"

end FileFault

/-- A fault and the path of the operation that met it. -/
structure FileError where
  fault : FileFault
  path : Path
  deriving DecidableEq, Repr

namespace FileError

/-- Whether the error comes from the system. -/
def isSystem (error : FileError) : Bool :=
  error.fault.number?.isSome

def message (error : FileError) : String :=
  match error.fault.number? with
  | some number =>
    "[Errno " ++ toString number ++ "] " ++ error.fault.text ++ ": " ++
      Text.quoted error.path.toText.toList
  | none => error.fault.text

end FileError

end VirtualImports
