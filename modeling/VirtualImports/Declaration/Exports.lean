import VirtualImports.Configuration.Basic

/-!
Type declarations of the virtual modules: what each exports, and the text of the declaration
file.
-/
namespace VirtualImports

/-- One export of a declared module: a name of a package under a local name, or all names. -/
inductive Export
  | name (exported localName package : String)
  | everything (package : String)
  deriving DecidableEq, Repr

/-- An export statement. An export under its own name is written once. -/
def Export.render : Export → List Char
  | name exported localName package =>
    "export \x7b ".toList ++
      (if localName = exported then exported.toList
        else exported.toList ++ " as ".toList ++ localName.toList) ++
      " \x7d from \"".toList ++ package.toList ++ "\";".toList
  | everything package => "export * from \"".toList ++ package.toList ++ "\";".toList

namespace PackageEntry

def toSettings : PackageEntry → PackageSettings
  | shorthand text => ⟨text = Declaration.everythingMark, []⟩
  | settings given => given

/-- The aliases in their order, then everything if so set. -/
def exports (package : String) (entry : PackageEntry) : List Export :=
  let settings := entry.toSettings
  settings.aliases.map (fun (localName, exported) => .name exported localName package) ++
    if settings.reexportAll then [.everything package] else []

end PackageEntry

namespace Declaration

def exports : Declaration → List Export
  | package name => [.everything name]
  | packages entries => entries.flatMap fun (name, entry) => entry.exports name

/-- The block that declares a module. -/
def render (specifier : String) (declaration : Declaration) : List Char :=
  "declare module \"".toList ++ specifier.toList ++ "\" \x7b\n".toList ++
    (declaration.exports.flatMap fun line => [' ', ' '] ++ line.render ++ ['\n']) ++ ['}', '\n']

end Declaration

namespace Configuration

/-- The modules that have a declaration. -/
def declared (configuration : Configuration) : List (String × Declaration) :=
  configuration.modules.filterMap fun (specifier, module) =>
    module.declaration.map fun declaration => (specifier, declaration)

def declarationHeader : List Char :=
  "// Generated by magic-imports. Do not edit by hand.\n".toList

/-- The text of the declaration file: the header, and a block for each declared module. -/
def declarationText (configuration : Configuration) : List Char :=
  declarationHeader ++
    configuration.declared.flatMap fun (specifier, declaration) =>
      '\n' :: declaration.render specifier

end Configuration

end VirtualImports
