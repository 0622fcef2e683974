import VirtualImports.Data.Value

/-!
Building a TOML document. Tables are opened by headers and by dotted keys, and marks remember
which of them may not be opened again or changed.
-/
namespace VirtualImports.Toml

abbrev Table := List (String × Value)

/-- Changes the table that a path leads to; tables that are missing on the way are made. A path
may lead through the last table of an array, if `throughArrays` allows it. -/
def changeAt (throughArrays : Bool) (change : Table → Option Table) :
    List String → Table → Option Table
  | [], table => change table
  | key :: path, table =>
    match Entries.get? key table with
    | none =>
      (changeAt throughArrays change path []).map fun inner => Entries.set key (.table inner) table
    | some (.table inner) =>
      (changeAt throughArrays change path inner).map fun inner =>
        Entries.set key (.table inner) table
    | some (.list items) =>
      match throughArrays, items.getLast? with
      | true, some (.table inner) =>
        (changeAt throughArrays change path inner).map fun inner =>
          Entries.set key (.list (items.dropLast ++ [.table inner])) table
      | _, _ => none
    | some _ => none

/-- Sets a key that is not there yet. -/
def addNew (key : String) (value : Value) (table : Table) : Option Table :=
  match Entries.get? key table with
  | some _ => none
  | none => some (Entries.set key value table)

/-- Adds an empty table to an array of tables, which is made if it is not there yet. -/
def addItem (key : String) (table : Table) : Option Table :=
  match Entries.get? key table with
  | none => some (Entries.set key (.list [.table []]) table)
  | some (.list items) => some (Entries.set key (.list (items ++ [.table []])) table)
  | some _ => none

inductive MarkKind
  /-- The table has been opened and may not be opened by a header again. -/
  | opened
  /-- The value is complete: nothing may be added to it. -/
  | complete
  deriving DecidableEq, Repr

/-- A deep mark holds for everything below its path. -/
structure Mark where
  path : List String
  kind : MarkKind
  deep : Bool
  deriving DecidableEq, Repr

def isMarked (marks : List Mark) (kind : MarkKind) (path : List String) : Bool :=
  !path.isEmpty && marks.any fun mark =>
    mark.kind == kind && (mark.path == path || (mark.deep && mark.path.isPrefixOf path))

def Value.isContainer : Value → Bool
  | .list _ | .table _ => true
  | _ => false

/-- A document in the making. `header` is the table that keys go to now; `dotted` are the tables
that dotted keys have opened since the last header. -/
structure Document where
  table : Table
  marks : List Mark
  dotted : List (List String)
  header : List String
  deriving Repr

namespace Document

def empty : Document := ⟨[], [], [], []⟩

/-- At a header, tables opened by dotted keys become closed to headers. -/
def settle (document : Document) : Document :=
  { document with
    marks := document.marks ++ document.dotted.map fun path => ⟨path, .opened, false⟩
    dotted := [] }

/-- The header `[path]`. -/
def openTable (path : List String) (document : Document) : Option Document :=
  let document := document.settle
  if isMarked document.marks .opened path || isMarked document.marks .complete path then none
  else
    (changeAt true some path document.table).map fun table =>
      { document with
        table := table
        marks := document.marks ++ [⟨path, .opened, false⟩]
        header := path }

/-- The header `[[path]]`. What was marked below the path belonged to an earlier item. -/
def openItem (path : List String) (document : Document) : Option Document :=
  let document := document.settle
  if isMarked document.marks .complete path then none
  else
    (changeAt true (addItem (path.getLast?.getD "")) path.dropLast document.table).map fun table =>
      { document with
        table := table
        marks := (document.marks.filter fun mark => !path.isPrefixOf mark.path) ++
          [⟨path, .opened, false⟩]
        header := path }

/-- The paths of the tables that a dotted key opens. -/
def containers (header : List String) (key : List String) : List (List String) :=
  (List.range (key.length - 1)).map fun i => header ++ key.take (i + 1)

/-- The line `key = value`. -/
def assign (key : List String) (value : Value) (document : Document) : Option Document :=
  let opened := containers document.header key
  let path := document.header ++ key
  if opened.any (isMarked document.marks .opened) ||
      isMarked document.marks .complete path.dropLast then none
  else
    (changeAt true (addNew (key.getLast?.getD "") value) path.dropLast document.table).map
      fun table =>
        { document with
          table := table
          marks :=
            if Value.isContainer value then document.marks ++ [⟨path, .complete, true⟩]
            else document.marks
          dotted := document.dotted ++ opened }

end Document

/-- Adds `key = value` to an inline table, of which `complete` are the finished values. -/
def assignInline (key : List String) (value : Value) (complete : List Mark) (table : Table) :
    Option (Table × List Mark) :=
  if isMarked complete .complete key then none
  else
    (changeAt false (addNew (key.getLast?.getD "") value) key.dropLast table).map fun table =>
      (table, if Value.isContainer value then complete ++ [⟨key, .complete, true⟩] else complete)

end VirtualImports.Toml
