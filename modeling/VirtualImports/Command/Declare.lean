import VirtualImports.Command.Arguments
import VirtualImports.Command.Session
import VirtualImports.Declaration.Writing

/-!
The command `shim`: writes the type declarations of the virtual modules.
-/
namespace VirtualImports.Command

variable [Libraries]

/-- Writes the declarations below the root directory, from which the configuration is searched. -/
def declare (options : DeclareOptions) (root : Path) (session : Session) : Session × Ending :=
  match session.load root .unset options.configurationFile with
  | .error fault => session.endLoad fault
  | .ok configuration =>
    let written := configuration.writeDeclarations session.files session.cwd root options.output.value?
    let session := { session with files := written.tree }
    match written.result with
    | .error error =>
      if error.isSystem then
        session.finish [.log (Level.error.log ("Failed to write shim: " ++ error.message))] 1
      else (session, .crash (.file error))
    | .ok none =>
      (session.warn "Shim output is disabled (shim_output_file = false).", .exit 0)
    | .ok (some path) =>
      session.finish [.log (Level.success.log ("Type declarations written to [path]" ++ path.toText ++
        "[/path]"))] 0

end VirtualImports.Command
