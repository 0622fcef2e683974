import VirtualImports.Configuration.VirtualModule
import VirtualImports.Files.Path

/-!
Configurations: the virtual modules under their specifiers, the file for the type declarations
and the target to rewrite for.
-/
namespace VirtualImports

structure Configuration where
  modules : Entries VirtualModule
  declarationFile : Option Path
  target : Option String
  deriving Repr

/-- Every specifier of a virtual module starts with this. -/
def specifierStart : List Char := "virtual:".toList

/-- The specifier for the name of a module: trimmed, and with the start that all specifiers have.
-/
def specifierOf (name : String) : String :=
  let trimmed := Text.trim name.toList
  if specifierStart.isPrefixOf trimmed then String.ofList trimmed
  else String.ofList (specifierStart ++ trimmed)

namespace Configuration

def defaultDeclarationFile : Path :=
  Path.ofText "src/typings/magic-imports.d.ts"

/-- Puts modules under their specifiers. Two names for one specifier are refused. -/
def specifiers (seen : List String) : List (String × Value) → Checked (List (String × Value))
  | [] => .ok []
  | (name, value) :: rest =>
    let key := specifierOf name
    if seen.contains key then Checked.complain (.moduleDefinedTwice name key)
    else (specifiers (key :: seen) rest).map ((key, value) :: ·)

def checkModules : Value → Checked (Entries VirtualModule)
  | .table fields =>
    match specifiers [] fields with
    | .error issues => .error issues
    | .ok renamed => Checked.entries VirtualModule.check renamed
  | _ => Checked.complain .notTable

/-- False and null mean that no declarations are written, true means the usual file. -/
def checkDeclarationFile : Value → Checked (Option Path)
  | .null | .bool false => .ok none
  | .bool true => .ok (some defaultDeclarationFile)
  | .text path => .ok (some (Path.ofText path))
  | _ => Checked.complain .notPath

def check : Value → Checked Configuration
  | .table fields =>
    ((Checked.within "modules" (checkDefault [] checkModules (Entries.get? "modules" fields))).both
      ((Checked.within "shim_output_file"
        (checkDefault (some defaultDeclarationFile) checkDeclarationFile
          (Entries.get? "shim_output_file" fields))).both
      (Checked.within "target" (checkOptional checkText (Entries.get? "target" fields))))).map
      fun (modules, declarationFile, target) => ⟨modules, declarationFile, target⟩
  | _ => Checked.complain (.notModel .configuration)

/-- The configuration that raw data describes. -/
def ofValue (value : Value) : Except Invalid Configuration :=
  (check value).orInvalid .configuration

end Configuration

end VirtualImports
