import VirtualImports.Configuration.Basic
import VirtualImports.Files.FileTree
import VirtualImports.Text.Utf8
import VirtualImports.Toml.Reading

/-!
Loading a configuration: from a file that is named, or else from the nearest project file on the
way up from a directory.
-/
namespace VirtualImports

inductive ConfigurationFormat
  | toml
  | json
  deriving DecidableEq, Repr

/-- Why raw data cannot be taken as settings. -/
inductive SettingsFault
  /-- Neither a table nor a list of pairs. -/
  | notSettings
  /-- An item of the list has another length than two. -/
  | notPair (index length : Nat)
  deriving DecidableEq, Repr

inductive LoadFault
  /-- A configuration file is asked for and none is named. -/
  | unnamedFile
  | file (error : FileError)
  | encoding (found : Text.Utf8.Malformed)
  | syntaxError (format : ConfigurationFormat)
  /-- The file holds an integer with this many digits, which are too many. -/
  | longInteger (digits : Nat)
  /-- The file holds half of a surrogate pair in a string. What a command makes of it is left open. -/
  | loneSurrogate
  /-- The value `tool` of a TOML file is not a table. -/
  | toolNotTable
  | settings (fault : SettingsFault)
  | invalid (invalid : Invalid)
  deriving DecidableEq, Repr

namespace LoadFault

/-- Faults that a command reports. The others are of a kind that no command expects. -/
def isExpected : LoadFault → Bool
  | unnamedFile | toolNotTable | settings .notSettings => false
  | _ => true

/-- What is told of a fault. What the reader of a format or the check of a configuration says of it is
theirs to word. -/
def message (wording : LoadFault → String) (fault : LoadFault) : String :=
  match fault with
  | unnamedFile => "The configuration file has no name."
  | file error => error.message
  | encoding found => found.message
  | syntaxError _ => "Could not parse magic-imports configuration: " ++ wording fault
  | longInteger digits => ReadFault.longIntegerMessage digits
  | loneSurrogate => "The configuration holds half of a surrogate pair."
  | toolNotTable => "The value of 'tool' is not a table."
  | settings .notSettings => "The configuration is not a table."
  | settings (.notPair index length) =>
    "dictionary update sequence element #" ++ toString index ++ " has length " ++ toString length ++
      "; 2 is required"
  | invalid _ => "Invalid magic-imports configuration: " ++ wording fault

end LoadFault

/-- The name of the section for this program in a project file, below `tool`. -/
def sectionName : String := "magic_imports"

def projectFileName : String := "pyproject.toml"

/-- The settings in a TOML document: its section, or else what is given for a missing one. -/
def sectionOf (missing : Value) (document : List (String × Value)) : Except LoadFault Value :=
  match Entries.get? "tool" document with
  | none => .ok missing
  | some (.table tools) => .ok ((Entries.get? sectionName tools).getD missing)
  | some _ => .error .toolNotTable

def decodeText (bytes : List UInt8) : Except LoadFault (List Char) :=
  match Text.Utf8.decode bytes with
  | .ok text => .ok text
  | .error found => .error (.encoding found)

def LoadFault.ofReadFault (format : ConfigurationFormat) : ReadFault → LoadFault
  | .malformed => .syntaxError format
  | .longInteger digits => .longInteger digits
  | .loneSurrogate => .loneSurrogate

def readToml (bytes : List UInt8) : Except LoadFault (List (String × Value)) :=
  match decodeText bytes with
  | .error fault => .error fault
  | .ok text => (Toml.read text).mapError (LoadFault.ofReadFault .toml)

def readJson (bytes : List UInt8) : Except LoadFault Value :=
  match decodeText bytes with
  | .error fault => .error fault
  | .ok text => (Json.read text).mapError (LoadFault.ofReadFault .json)

def readFile (tree : FileTree) (cwd : Location) (path : Path) : Except LoadFault (List UInt8) :=
  match tree.read cwd path with
  | .ok bytes => .ok bytes
  | .error error => .error (.file error)

/-- The raw data of a configuration file. A name that ends in `.json` means JSON, any other TOML;
of a TOML file with a section for this program only the section counts. -/
def loadFile (tree : FileTree) (cwd : Location) (path : Path) : Except LoadFault Value :=
  match readFile tree cwd path with
  | .error fault => .error fault
  | .ok bytes =>
    if path.suffix = ".json" then readJson bytes
    else
      match readToml bytes with
      | .error fault => .error fault
      | .ok document => sectionOf (.table document) document

/-- The location that a path names, with every `..` taken back whether or not the directories are
there. -/
def Path.resolve (cwd : Location) (path : Path) : Location :=
  path.parts.foldl (fun here part => if part = ".." then here.dropLast else here ++ [part])
    (if path.isAbsolute then [] else cwd)

/-- A location and those above it, the nearest first. -/
def upward (location : Location) : List Location :=
  (List.range (location.length + 1)).map fun n => location.take (location.length - n)

def absolutePath (location : Location) : Path := ⟨"/", location⟩

/-- The nearest directory, from a location upwards, that holds a project file. -/
def projectDirectory? (tree : FileTree) (start : Location) : Option Location :=
  (upward start).find? fun directory =>
    tree.isFile [] (absolutePath (directory ++ [projectFileName]))

/-- Why no project file can be looked for from a path, if that is so. -/
def searchFault? (tree : FileTree) (cwd : Location) (start : Path) : Option FileError :=
  let nearest := absolutePath (start.resolve cwd ++ [projectFileName])
  if start.holdsNull then some ⟨.nullCharacter, start⟩
  else if tree.nameTooLong [] nearest then some ⟨.nameTooLong, nearest⟩
  else none

/-- The raw settings of the nearest project file and its directory. A project file without a
section, like a missing one, stands for no settings. -/
def searchSettings (tree : FileTree) (start : Location) :
    Except LoadFault (Value × Option Location) :=
  match projectDirectory? tree start with
  | none => .ok (.table [], none)
  | some directory =>
    match readFile tree [] (absolutePath (directory ++ [projectFileName])) with
    | .error fault => .error fault
    | .ok bytes =>
      match readToml bytes with
      | .error fault => .error fault
      | .ok document => (sectionOf (.table []) document).map fun raw => (raw, some directory)

def findSettings (tree : FileTree) (cwd : Location) (start : Path) :
    Except LoadFault (Value × Option Location) :=
  match searchFault? tree cwd start with
  | some error => .error (.file error)
  | none => searchSettings tree (start.resolve cwd)

/-- A list or a table cannot be a key. -/
def isKey : Value → Bool
  | .list _ | .table _ => false
  | _ => true

/-- The items of a sequence: of a list, the characters of a text, or the keys of a table. -/
def sequence? : Value → Option (List Value)
  | .list items => some items
  | .text s => some (s.toList.map fun c => .text (String.ofList [c]))
  | .table fields => some (fields.map fun (key, _) => .text key)
  | _ => none

/-- The settings that a sequence of pairs makes. Keys that are no text are settings of nothing. -/
def pairSettings (index : Nat) (settings : Entries Value) :
    List Value → Except LoadFault (Entries Value)
  | [] => .ok settings
  | item :: rest =>
    match sequence? item with
    | none => .error (.settings .notSettings)
    | some [.text key, value] => pairSettings (index + 1) (settings.set key value) rest
    | some [key, _] =>
      if isKey key then pairSettings (index + 1) settings rest
      else .error (.settings .notSettings)
    | some parts => .error (.settings (.notPair index parts.length))

/-- The settings in raw data: a table, or a sequence of keys and values. -/
def settingsOf (raw : Value) : Except LoadFault (Entries Value) :=
  match raw with
  | .table fields => .ok fields
  | raw =>
    match sequence? raw with
    | none => .error (.settings .notSettings)
    | some items => pairSettings 0 [] items

/-- What a caller may ask of a load. Values given here replace those of the file. -/
structure LoadRequest where
  searchPath : Option Path
  target : Option Value
  declarationFile : Option Value
  configurationFile : Option Path

def override (key : String) (value : Option Value) (settings : Entries Value) : Entries Value :=
  match value with
  | none => settings
  | some value => settings.set key value

/-- The raw data that a request leads to. -/
def loadRaw (tree : FileTree) (cwd : Location) (request : LoadRequest) : Except LoadFault Value :=
  match request.configurationFile with
  | some path => loadFile tree cwd path
  | none =>
    (findSettings tree cwd (request.searchPath.getD (absolutePath cwd))).map Prod.fst

def load (tree : FileTree) (cwd : Location) (request : LoadRequest) :
    Except LoadFault Configuration :=
  match loadRaw tree cwd request with
  | .error fault => .error fault
  | .ok raw =>
    match settingsOf raw with
    | .error fault => .error fault
    | .ok settings =>
      let settings := override "shim_output_file" request.declarationFile
        (override "target" request.target settings)
      match Configuration.ofValue (.table settings) with
      | .ok configuration => .ok configuration
      | .error invalid => .error (.invalid invalid)

end VirtualImports
