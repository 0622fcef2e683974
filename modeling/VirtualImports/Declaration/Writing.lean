import VirtualImports.Configuration.Loading
import VirtualImports.Declaration.Exports

/-!
Writing the declaration file.
-/
namespace VirtualImports

/-- The path that declarations go to: the one asked for or else the configured one, below the
root directory unless it is absolute. -/
def Configuration.declarationPath? (configuration : Configuration) (root : Path)
    (output : Option Path) : Option Path :=
  (output.or configuration.declarationFile).map root.join

/-- The tree after an attempt to write the declarations, and the path written, if any. -/
structure DeclarationWrite where
  tree : FileTree
  result : Except FileError (Option Path)

/-- Writes the declarations, with the directories above the file that are missing. Nothing is
written when no file is configured. -/
def Configuration.writeDeclarations (configuration : Configuration) (tree : FileTree)
    (cwd : Location) (root : Path) (output : Option Path) : DeclarationWrite :=
  match configuration.declarationPath? root output with
  | none => ⟨tree, .ok none⟩
  | some path =>
    match tree.writeBelow cwd path (Text.Utf8.encode configuration.declarationText) with
    | (tree, none) => ⟨tree, .ok (some path)⟩
    | (tree, some error) => ⟨tree, .error error⟩

end VirtualImports
