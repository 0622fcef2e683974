import VirtualImports.Command.Plain
import VirtualImports.Command.Program

/-!
The program on the file system of the machine. It takes in the files that the arguments lead to,
runs the command on them, and then carries out what changed. Messages are shown as plain text. Nothing
is decided here.
-/
namespace VirtualImports.Host

/-- The part of the file system that has been taken in, and the locations that were looked at. -/
structure Snapshot where
  tree : FileTree
  seen : List Location

def Snapshot.empty : Snapshot := ⟨⟨[]⟩, []⟩

def textOf (location : Location) : String :=
  (absolutePath location).toText

/-- Takes in what is at a location. What cannot be read counts as missing. -/
def Snapshot.look (location : Location) (snapshot : Snapshot) : IO Snapshot := do
  if location = [] || snapshot.seen.contains location then return snapshot
  let place := (← IO.currentDir) / textOf location
  let seen := location :: snapshot.seen
  try
    if ← place.isDir then return ⟨snapshot.tree.set location .directory, seen⟩
    let bytes ← IO.FS.readBinFile place
    return ⟨snapshot.tree.set location (.file bytes.toList), seen⟩
  catch _ => return ⟨snapshot.tree, seen⟩

/-- Takes in a location and those on the way to it. -/
def Snapshot.lookAlong (location : Location) (snapshot : Snapshot) : IO Snapshot :=
  (upward location).reverse.foldlM (fun snapshot here => snapshot.look here) snapshot

/-- Takes in the locations that a path leads through. -/
def Snapshot.lookThrough (cwd : Location) (path : Path) (snapshot : Snapshot) : IO Snapshot :=
  (List.range (path.parts.length + 1)).foldlM
    (fun snapshot n => snapshot.lookAlong ({ path with parts := path.parts.take n }.resolve cwd))
    snapshot

/-- Takes in a location and everything below it. Links to directories are not followed. -/
partial def Snapshot.lookBelow (location : Location) (snapshot : Snapshot) : IO Snapshot := do
  let snapshot ← snapshot.look location
  let place := (← IO.currentDir) / textOf location
  if snapshot.tree.get? location != some .directory then return snapshot
  if (← place.symlinkMetadata).type matches .symlink then return snapshot
  (← place.readDir).foldlM
    (fun snapshot entry => snapshot.lookBelow (location ++ [entry.fileName])) snapshot

def Snapshot.lookForProjects (start : Location) (snapshot : Snapshot) : IO Snapshot :=
  (upward start).foldlM (fun snapshot directory => snapshot.lookAlong (directory ++ [projectFileName]))
    snapshot

/-- Takes in a file or a directory with everything in it. -/
def Snapshot.lookInto (cwd : Location) (path : Path) (snapshot : Snapshot) : IO Snapshot := do
  (← snapshot.lookThrough cwd path).lookBelow (path.resolve cwd)

def Snapshot.lookSetting (cwd : Location) (setting : Command.Setting Path) (snapshot : Snapshot) :
    IO Snapshot :=
  match setting.value? with
  | some path => snapshot.lookThrough cwd path
  | none => return snapshot

/-- Takes in the files that a command may look at because of its arguments. -/
def Snapshot.lookFor (cwd : Location) (arguments : List String) (snapshot : Snapshot) :
    IO Snapshot := do
  let snapshot ← snapshot.lookForProjects cwd
  match Command.parse arguments with
  | .ok (.rewrite options) =>
    let snapshot ← snapshot.lookInto cwd options.input
    let snapshot ← snapshot.lookForProjects (options.input.resolve cwd)
    let snapshot ← snapshot.lookSetting cwd options.configurationFile
    snapshot.lookSetting cwd options.output
  | .ok (.declare options) =>
    (← snapshot.lookSetting cwd options.configurationFile).lookSetting cwd options.output
  | .error _ => return snapshot

/-- Runs the program on what has been taken in. Where it would change a location that has not been
looked at, that is taken in too and the program runs again. -/
partial def settle (cwd : Location) (arguments : List String) (snapshot : Snapshot) :
    IO (FileTree × Session × Ending) := do
  let (session, ending) :=
    @Command.runProgram .plain arguments ⟨snapshot.tree, cwd, Screen.start⟩
  let changed := (snapshot.tree.changesFrom session.files).map Prod.fst
  if changed.all snapshot.seen.contains then return (snapshot.tree, session, ending)
  settle cwd arguments (← changed.foldlM (fun snapshot here => snapshot.lookAlong here) snapshot)

def carryOut (changes : List (Location × Node)) : IO Unit :=
  changes.forM fun (location, node) =>
    match node with
    | .directory => IO.FS.createDirAll (textOf location)
    | .file bytes => IO.FS.writeBinFile (textOf location) ⟨bytes.toArray⟩

def put (stream : Stream) (text : String) : IO Unit :=
  match stream with
  | .stdout => IO.print text
  | .stderr => IO.eprint text

def usage (stream : Stream) : IO Unit :=
  put stream Command.usageText

/-- The code that the program ends with. -/
def exitCode : Ending → IO UInt32
  | .exit code => return code.toUInt32
  | .crash crash => do
    put .stderr (@Crash.message .plain crash ++ "\n")
    return 1
  | .unmodelled => do
    put .stderr "The configuration holds half of a surrogate pair.\n"
    return 1

end VirtualImports.Host

open VirtualImports in
def main (arguments : List String) : IO UInt32 := do
  let cwd := (Path.ofText (← IO.currentDir).toString).parts
  let snapshot ← Host.Snapshot.empty.lookFor cwd arguments
  let (before, session, ending) ← Host.settle cwd arguments snapshot
  Host.carryOut (before.changesFrom session.files)
  session.screen.shown.forM fun (stream, message) =>
    Host.put stream (String.ofList (@Message.plain Libraries.plain.toMarkup message))
  match Command.parse arguments with
  | .error .help => Host.usage .stdout
  | .error .usage => Host.usage .stderr
  | _ => pure ()
  Host.exitCode ending
