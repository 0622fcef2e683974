/-!
What can be wrong with raw configuration data. An issue tells where it was found, by the path of
keys from the checked value, and what was found there. Checks collect every issue in the order of
the data.
-/
namespace VirtualImports

/-- The shapes that data is checked against. -/
inductive Model
  | configuration
  | virtualModule
  | symbolSource
  | packageSettings
  deriving DecidableEq, Repr

def Model.title : Model → String
  | configuration => "MagicImportsConfig"
  | virtualModule => "ModuleConfig"
  | symbolSource => "SymbolSource"
  | packageSettings => "ShimPackageConfig"

inductive Complaint
  | notText
  | emptyText
  | missing
  | notTable
  | notModel (model : Model)
  | notBool
  | unreadableBool
  | notPath
  | moduleDefinedTwice (name key : String)
  | packageShorthand (package shorthand : String)
  | blankTarget (target : String)
  | blankSymbol (name target : String)
  deriving DecidableEq, Repr

namespace Complaint

def code : Complaint → String
  | notText => "string_type"
  | emptyText => "string_too_short"
  | missing => "missing"
  | notTable => "dict_type"
  | notModel _ => "model_type"
  | notBool => "bool_type"
  | unreadableBool => "bool_parsing"
  | notPath => "path_type"
  | moduleDefinedTwice .. | packageShorthand .. | blankTarget .. | blankSymbol .. => "value_error"

def message : Complaint → String
  | notText => "Input should be a valid string"
  | emptyText => "String should have at least 1 character"
  | missing => "Field required"
  | notTable => "Input should be a valid dictionary"
  | notModel model => "Input should be a valid dictionary or instance of " ++ model.title
  | notBool => "Input should be a valid boolean"
  | unreadableBool => "Input should be a valid boolean, unable to interpret input"
  | notPath => "Input is not a valid path for <class 'pathlib.Path'>"
  | moduleDefinedTwice name key =>
    "Value error, Module '" ++ name ++ "' is defined twice (as '" ++ key ++ "')."
  | packageShorthand package shorthand =>
    "Value error, Shim entry for '" ++ package ++ "' must be '*' or a table, got '" ++ shorthand ++
      "'."
  | blankTarget target => "Value error, Target '" ++ target ++ "' routes to an empty module name."
  | blankSymbol name target =>
    "Value error, Symbol '" ++ name ++ "' of target '" ++ target ++
      "' routes to an empty module name."

end Complaint

structure Issue where
  place : List String
  complaint : Complaint
  deriving DecidableEq, Repr

/-- Data that does not fit its model. -/
structure Invalid where
  model : Model
  issues : List Issue
  deriving DecidableEq, Repr

/-- The outcome of checking a part of the data. -/
abbrev Checked (α : Type) := Except (List Issue) α

namespace Checked

variable {α β γ : Type}

/-- An issue with the checked value itself. -/
def complain (complaint : Complaint) : Checked α :=
  .error [⟨[], complaint⟩]

/-- Places the issues of a part under its key. -/
def within (key : String) : Checked α → Checked α
  | .ok value => .ok value
  | .error issues => .error (issues.map fun issue => { issue with place := key :: issue.place })

/-- Both parts, with the issues of both. -/
def both : Checked α → Checked β → Checked (α × β)
  | .ok a, .ok b => .ok (a, b)
  | .ok _, .error issues => .error issues
  | .error issues, .ok _ => .error issues
  | .error first, .error second => .error (first ++ second)

/-- The first alternative that fits. Where none does, the issues of both are told. -/
def either : Checked α → Checked α → Checked α
  | .ok a, _ => .ok a
  | .error _, .ok b => .ok b
  | .error first, .error second => .error (first ++ second)

/-- Every entry of a table under its key. -/
def entries (check : γ → Checked α) : List (String × γ) → Checked (List (String × α))
  | [] => .ok []
  | (key, value) :: rest =>
    (both (within key (check value)) (entries check rest)).map fun (a, more) => (key, a) :: more

def orInvalid (model : Model) : Checked α → Except Invalid α
  | .ok value => .ok value
  | .error issues => .error ⟨model, issues⟩

end Checked

end VirtualImports
