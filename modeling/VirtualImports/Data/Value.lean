import VirtualImports.Data.Binary64
import VirtualImports.Data.Entries

/-!
Raw configuration data: what a configuration file or a caller hands over before anything is
checked.
-/
namespace VirtualImports

/-- Tables keep the order of their keys. Texts hold characters, and half of a surrogate pair is none. A
`moment` is a date or a time of day as it was written; no setting is one. -/
inductive Value
  | null
  | bool (value : Bool)
  | int (value : Int)
  | real (value : Binary64)
  | text (value : String)
  | moment (written : String)
  | list (items : List Value)
  | table (fields : List (String × Value))
  deriving Repr, Inhabited

namespace Value

/-- Empty and zero values count as absent where a setting is optional. -/
def isPresent : Value → Bool
  | null => false
  | bool value => value
  | int value => value != 0
  | real value => !value.isZero
  | text value => value != ""
  | moment _ => true
  | list items => !items.isEmpty
  | table fields => !fields.isEmpty

end Value

end VirtualImports
