import VirtualImports.Command.Arguments
import VirtualImports.Command.Session
import VirtualImports.Rewrite.Engine

/-!
The command `rewrite`: one file, to standard output or to another file, or a directory of source
files, to another directory.

The files of a directory are looked up once, when the command starts, and then read, rewritten
and written one after the other.
-/
namespace VirtualImports.Command

def defaultExtensions : List String :=
  [".ts", ".tsx", ".js", ".jsx", ".mjs", ".vue", ".svelte", ".astro"]

/-- The text of a source file, or the message why there is none. -/
def readSource (session : Session) (path : Path) : Except String (List Char) :=
  match session.files.read session.cwd path with
  | .error error => .error error.message
  | .ok bytes =>
    match Text.Utf8.decode bytes with
    | .error found => .error found.message
    | .ok code => .ok code

def diagnosticLines (rewritten : Rewritten) : List (DiagnosticKind × String) :=
  rewritten.diagnostics.map fun diagnostic => (diagnostic.kind, diagnostic.message)

def readComplaint (input : Path) (message : String) : LogEntry :=
  Level.error.log ("Failed to read " ++ input.toText ++ ": " ++ message)

def writeComplaint (output : Path) (message : String) : LogEntry :=
  Level.error.log ("Failed to write " ++ output.toText ++ ": " ++ message)

def rewroteNote (input output : Path) : LogEntry :=
  Level.success.log ("Rewrote: [path]" ++ input.toText ++ "[/path] -> [path]" ++ output.toText ++
    "[/path]")

variable [Libraries]

/-- Delivers a rewritten file, to standard output where no path is given. -/
def deliver (input : Path) (output : Option Path) (rewritten : Rewritten) (session : Session) :
    Session × Except Crash FileReport :=
  match output with
  | none => (session.printCode rewritten.code, .ok ⟨true, [], diagnosticLines rewritten⟩)
  | some path =>
    match session.files.writeBelow session.cwd path (Text.Utf8.encode rewritten.code) with
    | (files, some error) =>
      let session := { session with files := files }
      if error.isSystem then
        session.tell .error [.log (writeComplaint path error.message)] fun session =>
          (session, .ok ⟨false, [error.message], diagnosticLines rewritten⟩)
      else (session, .error (.file error))
    | (files, none) =>
      let session := { session with files := files }
      session.tell .error (if rewritten.changed then [.log (rewroteNote input path)] else [])
        fun session => (session, .ok ⟨true, [], diagnosticLines rewritten⟩)

/-- Rewrites one file. -/
def rewriteFile (engine : Engine) (input : Path) (output : Option Path) (session : Session) :
    Session × Except Crash FileReport :=
  match readSource session input with
  | .error message =>
    session.tell .error [.log (readComplaint input message)] fun session =>
      (session, .ok ⟨false, [message], []⟩)
  | .ok code =>
    let attempt := engine.run code
    session.tell .error (attempt.logs.map .log) fun session =>
      match attempt.result with
      | .error invalid => (session, .error (.routing invalid))
      | .ok rewritten => deliver input output rewritten session

/-- Rewrites the files of a directory, each given by the parts that lead to it, and reports on
each. -/
def rewriteFiles (engine : Engine) (input output : Path) (session : Session) :
    List (List String) → Session × Except Crash (Entries FileReport)
  | [] => (session, .ok [])
  | parts :: rest =>
    let relative : Path := ⟨"", parts⟩
    match rewriteFile engine (input.join relative) (some (output.join relative)) session with
    | (session, .error crash) => (session, .error crash)
    | (session, .ok report) =>
      match rewriteFiles engine input output session rest with
      | (session, .error crash) => (session, .error crash)
      | (session, .ok reports) => (session, .ok ((relative.toText, report) :: reports))

/-- The source files below a directory, by their suffixes. -/
def sources (session : Session) (input : Path) (extensions : List String) :
    List (List String) :=
  match session.files.locate session.cwd input with
  | .error _ => []
  | .ok top =>
    (session.files.filesBelow top).filter fun parts =>
      extensions.contains (Path.suffix ⟨"", parts⟩)

def directoryMessage : String :=
  "Directory rewriting requires --out destination directory."

def startNote (count : Nat) (input : Path) : LogEntry :=
  Level.info.log ("Processing " ++ toString count ++ " files from " ++ input.toText ++ "...")

def rewriteSingle (engine : Engine) (options : RewriteOptions) (session : Session) :
    Session × Ending :=
  match rewriteFile engine options.input options.output.value? session with
  | (session, .error crash) => (session, .crash crash)
  | (session, .ok report) =>
    if report.success then session.finish (summarize [(options.input.name, report)]) 0
    else (session, .exit 1)

def rewriteDirectory (engine : Engine) (options : RewriteOptions) (session : Session) :
    Session × Ending :=
  match options.output.value? with
  | none => session.finish [.log (Level.error.log directoryMessage)] 1
  | some output =>
    let found := sources session options.input
      (if options.extensions.isEmpty then defaultExtensions else options.extensions)
    if found.isEmpty then
      (session.warn ("No source files found in " ++ options.input.toText), .exit 0)
    else
      session.tell .crash [.log (startNote found.length options.input)] fun session =>
        match rewriteFiles engine options.input output session found with
        | (session, .error crash) => (session, .crash crash)
        | (session, .ok reports) => session.finish (summarize reports) 0

/-- Loads the configuration and rewrites what the input is. -/
def rewriteInput (options : RewriteOptions) (session : Session) : Session × Ending :=
  let searchPath :=
    if session.files.isDirectory session.cwd options.input then options.input
    else options.input.parent
  match session.load searchPath options.target options.configurationFile with
  | .error fault => session.endLoad fault
  | .ok configuration =>
    match Engine.make? configuration none with
    | none => session.finish [.log (Level.error.log Engine.noTargetMessage)] 1
    | some engine =>
      let session :=
        if configuration.modules.isEmpty then
          session.warn "No virtual modules configured; nothing to rewrite."
        else session
      if session.files.isFile session.cwd options.input then rewriteSingle engine options session
      else rewriteDirectory engine options session

/-- Runs the command. While one file is rewritten and no output is given, messages go to standard
error. -/
def rewrite (options : RewriteOptions) (session : Session) : Session × Ending :=
  if session.files.nameTooLong session.cwd options.input then
    (session, .crash (.file ⟨.nameTooLong, options.input⟩))
  else if !session.files.pathExists session.cwd options.input then
    session.finish [.log (Level.error.log ("Input not found: " ++ options.input.toText))] 1
  else if session.files.isFile session.cwd options.input && options.output.isUnset then
    let (after, ending) := rewriteInput options (session.activate .stderr)
    (after.activate session.screen.active, ending)
  else rewriteInput options session

end VirtualImports.Command
