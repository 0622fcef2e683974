import VirtualImports.Clause.Bindings

/-!
Records: what one destination module supplies, and the import statement that asks for it.
-/
namespace VirtualImports

structure Record where
  named : List Binding
  defaultName : Option String
  namespaceName : Option String
  typeOnly : Bool
  deriving DecidableEq, Repr

/-- A name that is there and not empty. -/
def filledName? (name : Option String) : Option String :=
  name.filter (· != "")

namespace Record

def empty (typeOnly : Bool) : Record := ⟨[], none, none, typeOnly⟩

def isEmpty (record : Record) : Bool :=
  record.named.isEmpty && (filledName? record.defaultName).isNone &&
    (filledName? record.namespaceName).isNone

end Record

/-- An entry of a brace list. The mark `type` is written only where the statement has none. -/
def Binding.render (marked : Bool) (binding : Binding) : List Char :=
  (if marked && binding.isType then "type ".toList else []) ++
    if binding.imported = binding.localName then binding.imported.toList
    else binding.imported.toList ++ " as ".toList ++ binding.localName.toList

namespace Record

def renderList (marked : Bool) (named : List Binding) : List Char :=
  ['{', ' '] ++ [',', ' '].intercalate (named.map (Binding.render marked)) ++ [' ', '}']

/-- The parts of the clause: the default name, the namespace and the brace list. -/
def parts (record : Record) : List (List Char) :=
  (filledName? record.defaultName).toList.map String.toList ++
  (filledName? record.namespaceName).toList.map (fun name => "* as ".toList ++ name.toList) ++
  if record.named.isEmpty then [] else [renderList (!record.typeOnly) record.named]

/-- The import statement for a record, unless nothing is left to import. -/
def statement? (destination : String) (record : Record) : Option (List Char) :=
  if record.isEmpty then none
  else
    some ("import ".toList ++ (if record.typeOnly then "type ".toList else []) ++
      [',', ' '].intercalate record.parts ++ " from '".toList ++ destination.toList ++ "';".toList)

end Record

end VirtualImports
