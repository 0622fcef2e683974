import VirtualImports.Rewrite.Diagnostic
import VirtualImports.Rewrite.Replacement
import VirtualImports.Statement.Occurrence

/-!
The rewrite of one module: every statement of the module that can be read gets a replacement, and
every statement that cannot is left alone and reported.
-/
namespace VirtualImports

structure ModuleRewrite where
  replacements : List Replacement
  diagnostics : List Diagnostic
  deriving DecidableEq, Repr

namespace ModuleRewrite

/-- What becomes of one occurrence. -/
def ofOccurrence (specifier : String) (routing : Routing) (occurrence : Statement.Occurrence) :
    Attempt Invalid ModuleRewrite :=
  match ImportStatement.read occurrence.statement with
  | .error cause =>
    ⟨[cause.log], .ok ⟨[], [⟨specifier, occurrence.original, .unreadable cause⟩]⟩⟩
  | .ok statement =>
    (routing.apply statement).map fun routed =>
      { replacements :=
          [{ original := occurrence.original
             start := occurrence.start
             stop := occurrence.stop
             statements := routed.statements
             indent := occurrence.indent
             newline := occurrence.newline }]
        diagnostics := routed.unresolved.map fun binding =>
          ⟨specifier, occurrence.original, .unresolved binding⟩ }

/-- Several rewrites of one text as one. -/
def join (rewrites : List ModuleRewrite) : ModuleRewrite :=
  ⟨rewrites.flatMap replacements, rewrites.flatMap diagnostics⟩

def compute (code : List Char) (specifier : String) (routing : Routing) :
    Attempt Invalid ModuleRewrite :=
  (Attempt.all ((Statement.find specifier code).map (ofOccurrence specifier routing))).map join

end ModuleRewrite

/-- The text with the imports of one module rewritten. -/
def rewriteModule (code : List Char) (specifier : String) (routing : Routing) :
    Attempt Invalid (List Char) :=
  (ModuleRewrite.compute code specifier routing).map fun rewrite =>
    Replacement.applyAll code rewrite.replacements

end VirtualImports
