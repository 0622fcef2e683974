import VirtualImports.Data.Entries

/-!
What an import clause binds. The named entries map the local name to the name that the module
exports, so `{ A as B }` is the entry from `B` to `A`.
-/
namespace VirtualImports

/-- One entry of a brace list. -/
structure Binding where
  imported : String
  localName : String
  isType : Bool
  deriving DecidableEq, Repr

structure Bindings where
  named : Entries String
  types : Entries String
  defaultName : Option String
  namespaceName : Option String
  deriving DecidableEq, Repr

namespace Bindings

def empty : Bindings := ⟨[], [], none, none⟩

def isEmpty (bindings : Bindings) : Bool :=
  bindings.named.isEmpty && bindings.types.isEmpty && bindings.defaultName.isNone &&
    bindings.namespaceName.isNone

/-- Type entries have a map of their own. A local name that is bound again keeps its place. -/
def insert (binding : Binding) (bindings : Bindings) : Bindings :=
  if binding.isType then
    { bindings with types := bindings.types.set binding.localName binding.imported }
  else
    { bindings with named := bindings.named.set binding.localName binding.imported }

/-- The same names bound the same way. The order of the entries does not matter. -/
def same (a b : Bindings) : Bool :=
  a.named.sameMap b.named && a.types.sameMap b.types && a.defaultName == b.defaultName &&
    a.namespaceName == b.namespaceName

end Bindings

end VirtualImports
