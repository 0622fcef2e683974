import VirtualImports.Configuration.Routing
import VirtualImports.Text.Blank

/-!
One virtual module of a configuration: what its type declaration exports, and where its symbols
come from for each target.
-/
namespace VirtualImports

/-- What the declaration re-exports from one package: single names, each under a local name, and
everything if so set. -/
structure PackageSettings where
  reexportAll : Bool
  aliases : Entries String
  deriving DecidableEq, Repr

/-- In place of settings the mark `*` re-exports everything. -/
inductive PackageEntry
  | shorthand (text : String)
  | settings (settings : PackageSettings)
  deriving DecidableEq, Repr

inductive Declaration
  | package (name : String)
  | packages (entries : Entries PackageEntry)
  deriving DecidableEq, Repr

structure VirtualModule where
  declaration : Option Declaration
  targets : Entries Routing
  deriving Repr

def checkTable {α : Type} (check : Value → Checked α) : Value → Checked (Entries α)
  | .table fields => Checked.entries check fields
  | _ => Checked.complain .notTable

/-- Zero and one stand for truth values. Other numbers of 64 bits may have been meant as such, and
numbers outside that range may not. -/
def checkBoolNumber (n : Int) (inRange : Bool) : Checked Bool :=
  if n = 0 then .ok false
  else if n = 1 then .ok true
  else if inRange then Checked.complain .unreadableBool
  else Checked.complain .notBool

def trueWords : List String := ["1", "on", "t", "true", "y", "yes"]

def falseWords : List String := ["0", "off", "f", "false", "n", "no"]

/-- The least number of 64 bits counts as in range only where it is written as an integer. -/
def checkBool : Value → Checked Bool
  | .bool value => .ok value
  | .int n => checkBoolNumber n (-0x8000000000000000 ≤ n && n < 0x8000000000000000)
  | .real x =>
    match x.integer? with
    | some n => checkBoolNumber n (-0x8000000000000000 < n && n < 0x8000000000000000)
    | none => Checked.complain .notBool
  | .text s =>
    let word := String.ofList (s.toList.map Char.toLower)
    if trueWords.contains word then .ok true
    else if falseWords.contains word then .ok false
    else Checked.complain .unreadableBool
  | _ => Checked.complain .notBool

/-- A setting that takes a default where its key is left out. -/
def checkDefault {α : Type} (default : α) (check : Value → Checked α) : Option Value → Checked α
  | none => .ok default
  | some value => check value

def PackageSettings.check : Value → Checked PackageSettings
  | .table fields =>
    ((checkEither "reexportAll" "reexport_all" (checkDefault false checkBool) fields).both
      (Checked.within "aliases"
        (checkDefault [] (checkTable checkText) (Entries.get? "aliases" fields)))).map
      fun (reexportAll, aliases) => ⟨reexportAll, aliases⟩
  | _ => Checked.complain (.notModel .packageSettings)

def PackageEntry.check (value : Value) : Checked PackageEntry :=
  ((checkText value).map shorthand |> Checked.within "str").either
    ((PackageSettings.check value).map settings |> Checked.within "ShimPackageConfig")

namespace Declaration

def everythingMark : String := "*"

def checkShape (value : Value) : Checked Declaration :=
  ((checkText value).map package |> Checked.within "str").either
    ((checkTable PackageEntry.check value).map packages |>
      Checked.within "dict[str,union[str,ShimPackageConfig]]")

/-- The first package with a shorthand that is not the mark. -/
def badShorthand? : Declaration → Option (String × String)
  | package _ => none
  | packages entries =>
    entries.findSome? fun (name, entry) =>
      match entry with
      | .shorthand text => if text = everythingMark then none else some (name, text)
      | .settings _ => none

def check (value : Value) : Checked Declaration :=
  match checkShape value with
  | .error issues => .error issues
  | .ok declaration =>
    match declaration.badShorthand? with
    | some (name, text) => Checked.complain (.packageShorthand name text)
    | none => .ok declaration

end Declaration

/-- An entry that is text is taken as it is; any other must be settings. -/
def PackageEntry.ofValue : Value → Except Invalid PackageEntry
  | .text text => .ok (shorthand text)
  | value => ((PackageSettings.check value).orInvalid .packageSettings).map settings

/-- A declaration whose shorthands are left unchecked. -/
def Declaration.ofValue : Value → Except Invalid Declaration
  | .text name => .ok (package name)
  | .table fields =>
    (fields.mapM fun field : String × Value =>
      (PackageEntry.ofValue field.2).map fun entry => (field.1, entry)).map packages
  | _ => .error ⟨.virtualModule, [⟨["shim"], .notTable⟩]⟩

/-- Nothing but white space: no name of a module. -/
def isBlankName (name : String) : Bool :=
  name.toList.all Text.isBlank

/-- The first place in a target's routing where a module name is blank. -/
def Routing.blankName? (target : String) : Routing → Option Complaint
  | .module destination => if isBlankName destination then some (.blankTarget target) else none
  | .symbols entries =>
    entries.findSome? fun (name, entry) =>
      match entry with
      | .shorthand destination =>
        if isBlankName destination then some (.blankSymbol name target) else none
      | _ => none

def checkTargets (value : Value) : Checked (Entries Routing) :=
  match checkTable Routing.check value with
  | .error issues => .error issues
  | .ok targets =>
    match targets.findSome? fun (target, routing) => routing.blankName? target with
    | some complaint => Checked.complain complaint
    | none => .ok targets

def VirtualModule.check : Value → Checked VirtualModule
  | .table fields =>
    ((Checked.within "shim" (checkOptional Declaration.check (Entries.get? "shim" fields))).both
      (Checked.within "targets" (checkDefault [] checkTargets (Entries.get? "targets" fields)))).map
      fun (declaration, targets) => ⟨declaration, targets⟩
  | _ => Checked.complain (.notModel .virtualModule)

end VirtualImports
