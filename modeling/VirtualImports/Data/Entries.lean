/-!
Entries: a finite map that keeps the order in which its keys were first set.
-/
namespace VirtualImports

abbrev Entries (α : Type) := List (String × α)

namespace Entries

variable {α : Type}

def get? (key : String) : Entries α → Option α
  | [] => none
  | (k, v) :: rest => if k = key then some v else get? key rest

/-- A new key goes to the end; a key that is present keeps its place and takes the new value. -/
def set (key : String) (value : α) : Entries α → Entries α
  | [] => [(key, value)]
  | (k, v) :: rest => if k = key then (k, value) :: rest else (k, v) :: set key value rest

def keys (entries : Entries α) : List String :=
  entries.map Prod.fst

/-- The entries of a list of settings, each made in turn. -/
def ofSettings (settings : List (String × α)) : Entries α :=
  settings.foldl (fun entries (key, value) => set key value entries) []

/-- Equal as maps: the same keys with the same values, in any order. -/
def sameMap [BEq α] (a b : Entries α) : Bool :=
  a.length == b.length && a.all fun (key, value) =>
    match get? key b with
    | some other => value == other
    | none => false

theorem get?_set (key other : String) (value : α) (entries : Entries α) :
    get? other (set key value entries) = if other = key then some value else get? other entries := by
  induction entries with
  | nil =>
    by_cases h : other = key
    · simp [set, get?, h]
    · simp [set, get?, h, Ne.symm h]
  | cons entry rest ih => grind [set, get?]

end Entries

end VirtualImports
