import VirtualImports.Proofs.Rewrite.Pass

/-!
Which entries of a symbol map count.

* `resolve_congr`: a binding is resolved by the catch-all and the entry for the name that it imports;
* `apply_congr`: so a statement is routed by the catch-all and the entries for the names in its brace
  list;
* `compute_symbols`: and a text is rewritten by those for the names that the readable statements of the
  module import;
* `rewriteModule_local`: no other entry has a part in what comes of the text, or in what is complained
  of.

Entries are checked where they are looked up and nowhere else, so that the two maps of a comparison
may hold anything under all other names.
-/
namespace VirtualImports

open Statement

variable {a b : Entries SymbolEntry}

namespace SymbolMap

/-- What a symbol map answers for a name: a source, or what is wrong with the entry. An empty entry
answers nothing. -/
def answer? (entries : Entries SymbolEntry) (name : String) :
    Option (Except Invalid SymbolSource) :=
  Option.map SymbolEntry.toSource <| entry? entries name

theorem answer?_congr {name : String} (same : a.get? name = b.get? name) :
    answer? a name = answer? b name := by
  rw [answer?, answer?, entry?, entry?, same]

/-- The catch-all is looked up before any binding is. -/
theorem ofEntries_eq (entries : Entries SymbolEntry) :
    ofEntries entries =
      ((answer? entries catchAllKey).elim (.ok none) (Except.map some)).map (mk entries) := by
  rw [ofEntries, answer?]
  cases entry? entries catchAllKey with
  | none => rfl
  | some entry =>
    dsimp only [Option.map_some, Option.elim_some]
    cases entry.toSource <;> rfl

variable {first second : SymbolMap} {request : Request}

theorem resolve_eq_of_own (own : request.kind = .named ∨ request.kind = .typed) :
    first.resolve request =
      (answer? first.entries request.imported).elim (.ok (first.resolveByCatchAll request))
        (Except.map fun source => .resolved (routeTo source request)) := by
  rw [answer?]
  rcases first.resolve_cases request with ⟨entry, _, found, eq⟩ | ⟨missing, eq⟩
  · rw [eq, found, Option.map_some, Option.elim_some]
  · rw [eq, missing own, Option.map_none, Option.elim_none]

theorem resolve_eq_of_other (other : ¬ (request.kind = .named ∨ request.kind = .typed)) :
    first.resolve request = .ok (first.resolveByCatchAll request) := by
  rcases first.resolve_cases request with ⟨_, own, _⟩ | ⟨_, eq⟩
  · exact absurd own other
  · exact eq

theorem resolveByCatchAll_congr (catchAll : first.catchAll = second.catchAll) (request : Request) :
    first.resolveByCatchAll request = second.resolveByCatchAll request := by
  rw [resolveByCatchAll, catchAll, resolveByCatchAll]

/-- A binding is resolved by the catch-all and the entry for the name that it imports. -/
theorem resolve_congr (catchAll : first.catchAll = second.catchAll)
    (own : request.kind = .named ∨ request.kind = .typed →
      answer? first.entries request.imported = answer? second.entries request.imported) :
    first.resolve request = second.resolve request := by
  have fallback := resolveByCatchAll_congr catchAll request
  by_cases kind : request.kind = .named ∨ request.kind = .typed
  · rw [resolve_eq_of_own kind, resolve_eq_of_own kind, own kind, fallback]
  · rw [resolve_eq_of_other kind, resolve_eq_of_other kind, fallback]

end SymbolMap

/-! ## Statements -/

/-- The names that the entries of a brace list import. -/
def ImportStatement.importedNames (statement : ImportStatement) : List String :=
  statement.bindings.named.map Prod.snd ++ statement.bindings.types.map Prod.snd

theorem ImportStatement.mem_importedNames {statement : ImportStatement} {request : Request}
    (mem : request ∈ statement.requests) (own : request.kind = .named ∨ request.kind = .typed) :
    request.imported ∈ statement.importedNames := by
  simp only [requests, List.mem_append, List.mem_map, Option.mem_toList] at mem
  rw [importedNames, List.mem_append]
  rcases mem with ((⟨entry, mem, rfl⟩ | ⟨entry, mem, rfl⟩) | ⟨_, _, rfl⟩) | ⟨_, _, rfl⟩
  · exact .inl (List.mem_map_of_mem mem)
  · exact .inr (List.mem_map_of_mem mem)
  · rcases own with own | own <;> cases own
  · rcases own with own | own <;> cases own

/-- A statement is routed by the catch-all and the entries for the names in its brace list. -/
theorem Routing.apply_congr {statement : ImportStatement}
    (agree : ∀ name, name = catchAllKey ∨ name ∈ statement.importedNames →
      SymbolMap.answer? a name = SymbolMap.answer? b name) :
    (symbols a).apply statement = (symbols b).apply statement := by
  -- the maps may differ in their entries, but not in the catch-all that is checked first
  have requests (catchAll : Option SymbolSource) :
      statement.requests.map (SymbolMap.attempt ⟨a, catchAll⟩ statement.specifier) =
        statement.requests.map (SymbolMap.attempt ⟨b, catchAll⟩ statement.specifier) := by
    refine List.map_congr_left fun request mem => ?_
    have same : SymbolMap.resolve ⟨a, catchAll⟩ request = SymbolMap.resolve ⟨b, catchAll⟩ request :=
      SymbolMap.resolve_congr rfl fun own =>
        agree _ (.inr (ImportStatement.mem_importedNames mem own))
    rw [SymbolMap.attempt, same, SymbolMap.attempt]
  simp only [apply, SymbolMap.ofEntries_eq, agree catchAllKey (.inl rfl)]
  cases (SymbolMap.answer? b catchAllKey).elim (.ok none) (Except.map some) with
  | error invalid => rfl
  | ok catchAll => simp only [Except.map, requests]

/-! ## Texts -/

/-- The names that the brace lists of a module's statements import, in a text: of the statements that
can be read. -/
def Statement.namesImported (specifier : String) (code : List Char) : List String :=
  (find specifier code).flatMap fun occurrence =>
    (ImportStatement.read occurrence.statement).toOption.elim [] ImportStatement.importedNames

variable {specifier : String} {code : List Char}

namespace ModuleRewrite

/-- A text is rewritten by the catch-all and the entries for the names that are imported there. It is
enough that the maps answer alike: an empty entry is as good as none. -/
theorem compute_symbols
    (agree : ∀ name, name = catchAllKey ∨ name ∈ namesImported specifier code →
      SymbolMap.answer? a name = SymbolMap.answer? b name) :
    compute code specifier (.symbols a) = compute code specifier (.symbols b) := by
  refine compute_congr fun occurrence found statement read => Routing.apply_congr ?_
  intro name asked
  refine agree name (asked.imp_right fun mem => ?_)
  exact List.mem_flatMap.2 ⟨occurrence, found, by rwa [read]⟩

end ModuleRewrite

/-- **Routing is local.** Two symbol maps that have the same under `*`, and under each name that a
readable statement of the module imports in its brace list, come to the same in full: the
replacements, the diagnostics and the warnings, or the warnings and the complaint about an entry. What
else the maps hold, and in which order, does not matter, nor whether it could pass a check. -/
theorem rewriteModule_local
    (agree : ∀ name, name = catchAllKey ∨ name ∈ namesImported specifier code →
      a.get? name = b.get? name) :
    ModuleRewrite.compute code specifier (.symbols a) =
        ModuleRewrite.compute code specifier (.symbols b) ∧
      rewriteModule code specifier (.symbols a) = rewriteModule code specifier (.symbols b) := by
  have same : ModuleRewrite.compute code specifier (.symbols a) =
      ModuleRewrite.compute code specifier (.symbols b) :=
    ModuleRewrite.compute_symbols fun name asked => SymbolMap.answer?_congr (agree name asked)
  exact ⟨same, by rw [rewriteModule, same, rewriteModule]⟩

/-- A statement that cannot be read, and one that imports `C`. -/
def localText : List Char :=
  "import { A B } from 'm'\nimport D, { C as A } from 'm'".toList

/-- The entry for `C` is a source without a module. -/
def faultyEntries : Entries SymbolEntry :=
  [("*", .shorthand "x"), ("C", .raw (.table [("symbol", .text "S")]))]

/-- The same entries turned round, with others that are as faulty. -/
def crowdedEntries : Entries SymbolEntry :=
  [("A", .raw (.int 1)), ("C", .raw (.table [("symbol", .text "S")])),
    ("D", .raw (.table [("from", .null)])), ("*", .shorthand "x")]

theorem rewriteModule_local_sample :
    (∀ name, name = catchAllKey ∨ name ∈ namesImported "m" localText →
      crowdedEntries.get? name = faultyEntries.get? name) ∧
    ModuleRewrite.compute localText "m" (.symbols crowdedEntries) =
      ModuleRewrite.compute localText "m" (.symbols faultyEntries) ∧
    (ModuleRewrite.compute localText "m" (.symbols crowdedEntries)).logs.length = 1 ∧
    (ModuleRewrite.compute localText "m" (.symbols crowdedEntries)).result =
      .error ⟨.symbolSource, [⟨["from"], .missing⟩]⟩ := by
  have names : namesImported "m" localText = ["C"] := by decide +kernel
  have agree : ∀ name, name = catchAllKey ∨ name ∈ namesImported "m" localText →
      crowdedEntries.get? name = faultyEntries.get? name := by
    intro name asked
    rw [names, List.mem_singleton] at asked
    rcases asked with rfl | rfl <;> rfl
  have same := (rewriteModule_local agree).1
  refine ⟨agree, same, ?_, ?_⟩
  · rw [same]
    decide +kernel
  · rw [same]
    decide +kernel

end VirtualImports
