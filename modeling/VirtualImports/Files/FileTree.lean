import VirtualImports.Files.FileError

/-!
File trees without links, and the operations on them. A location is the list of names from the
root; the root is always a directory. What lies below a location that is no directory cannot be
reached.
-/
namespace VirtualImports

abbrev Location := List String

inductive Node
  | file (bytes : List UInt8)
  | directory
  deriving DecidableEq, Repr

structure FileTree where
  entries : List (Location × Node)
  deriving DecidableEq, Repr

namespace FileTree

def find? (location : Location) : List (Location × Node) → Option Node
  | [] => none
  | (place, node) :: rest => if place = location then some node else find? location rest

/-- What is at a location. -/
def get? (tree : FileTree) (location : Location) : Option Node :=
  if location = [] then some .directory else find? location tree.entries

def setEntry (location : Location) (node : Node) :
    List (Location × Node) → List (Location × Node)
  | [] => [(location, node)]
  | (place, old) :: rest =>
    if place = location then (place, node) :: rest else (place, old) :: setEntry location node rest

def set (tree : FileTree) (location : Location) (node : Node) : FileTree :=
  ⟨setEntry location node tree.entries⟩

/-- The most bytes that the name of a file may have. -/
def maxNameBytes : Nat := 255

/-- The location that the parts of a path lead to. Each step needs a directory to start from; `..`
leads to the directory above, and the root is above itself. -/
def walk (tree : FileTree) : Location → List String → Except FileFault Location
  | here, [] => .ok here
  | here, part :: parts =>
    match tree.get? here with
    | none => .error .notFound
    | some (.file _) => .error .notDirectory
    | some .directory =>
      if maxNameBytes < part.utf8ByteSize then .error .nameTooLong
      else tree.walk (if part = ".." then here.dropLast else here ++ [part]) parts

/-- The location of a path for a program that runs in `cwd`. -/
def locate (tree : FileTree) (cwd : Location) (path : Path) : Except FileFault Location :=
  if path.holdsNull then .error .nullCharacter
  else tree.walk (if path.isAbsolute then [] else cwd) path.parts

/-- Whether a path leads through a name that is too long. Then it cannot even be told whether there
is anything. -/
def nameTooLong (tree : FileTree) (cwd : Location) (path : Path) : Bool :=
  match tree.locate cwd path with
  | .error .nameTooLong => true
  | _ => false

def node? (tree : FileTree) (cwd : Location) (path : Path) : Option Node :=
  match tree.locate cwd path with
  | .ok location => tree.get? location
  | .error _ => none

def pathExists (tree : FileTree) (cwd : Location) (path : Path) : Bool :=
  (tree.node? cwd path).isSome

def isFile (tree : FileTree) (cwd : Location) (path : Path) : Bool :=
  match tree.node? cwd path with
  | some (.file _) => true
  | _ => false

def isDirectory (tree : FileTree) (cwd : Location) (path : Path) : Bool :=
  tree.node? cwd path = some .directory

def read (tree : FileTree) (cwd : Location) (path : Path) : Except FileError (List UInt8) :=
  match tree.locate cwd path with
  | .error fault => .error ⟨fault, path⟩
  | .ok location =>
    match tree.get? location with
    | none => .error ⟨.notFound, path⟩
    | some .directory => .error ⟨.isDirectory, path⟩
    | some (.file bytes) => .ok bytes

/-- Creates a file or replaces its bytes. -/
def write (tree : FileTree) (cwd : Location) (path : Path) (bytes : List UInt8) :
    Except FileError FileTree :=
  match tree.locate cwd path with
  | .error fault => .error ⟨fault, path⟩
  | .ok location =>
    match tree.get? location with
    | some .directory => .error ⟨.isDirectory, path⟩
    | _ => .ok (tree.set location (.file bytes))

/-- Creates one directory, whose parent must be there. -/
def makeDirectory (tree : FileTree) (cwd : Location) (path : Path) : Except FileError FileTree :=
  match tree.locate cwd path with
  | .error fault => .error ⟨fault, path⟩
  | .ok location =>
    match tree.get? location with
    | some _ => .error ⟨.alreadyExists, path⟩
    | none => .ok (tree.set location .directory)

/-- Creates a directory unless it is there. -/
def ensureDirectory (tree : FileTree) (cwd : Location) (path : Path) :
    FileTree × Option FileError :=
  match tree.makeDirectory cwd path with
  | .ok tree => (tree, none)
  | .error error =>
    if error.fault ≠ .notFound ∧ tree.isDirectory cwd path then (tree, none) else (tree, some error)

/-- Creates a directory and the missing ones above it. The tree is returned also where that fails,
with the directories that were made before. The counter is the number of parts of the path. -/
def ensureFrom (cwd : Location) : Nat → FileTree → Path → FileTree × Option FileError
  | 0, tree, path => tree.ensureDirectory cwd path
  | count + 1, tree, path =>
    match tree.ensureDirectory cwd path with
    | (tree, none) => (tree, none)
    | (tree, some error) =>
      if error.fault = .notFound then
        match ensureFrom cwd count tree path.parent with
        | (tree, none) => tree.ensureDirectory cwd path
        | (tree, some error) => (tree, some error)
      else (tree, some error)

def ensureDirectories (tree : FileTree) (cwd : Location) (path : Path) :
    FileTree × Option FileError :=
  ensureFrom cwd path.parts.length tree path

/-- Writes a file, making the directories above it first. -/
def writeBelow (tree : FileTree) (cwd : Location) (path : Path) (bytes : List UInt8) :
    FileTree × Option FileError :=
  match tree.ensureDirectories cwd path.parent with
  | (tree, some error) => (tree, some error)
  | (tree, none) =>
    match tree.write cwd path bytes with
    | .ok tree => (tree, none)
    | .error error => (tree, some error)

/-- What is new or different in a tree that came out of another one. -/
def changesFrom (before after : FileTree) : List (Location × Node) :=
  after.entries.filter fun (location, node) => before.get? location != some node

/-- The parts that lead from a directory to a file below it, if that is what an entry is. -/
def below? (tree : FileTree) (top : Location) (entry : Location × Node) : Option (List String) :=
  let parts := entry.1.drop top.length
  match tree.walk top parts with
  | .error _ => none
  | .ok location =>
    if location = entry.1 && top.isPrefixOf location then
      match tree.get? location with
      | some (.file _) => some parts
      | _ => none
    else none

/-- The files below a directory, each by the parts that lead there, in the order of the parts. -/
def filesBelow (tree : FileTree) (top : Location) : List (List String) :=
  (tree.entries.filterMap (tree.below? top)).eraseDups.mergeSort fun a b => !Path.partsLt b a

end FileTree

end VirtualImports
