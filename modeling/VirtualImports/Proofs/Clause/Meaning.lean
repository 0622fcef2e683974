import VirtualImports.Proofs.Clause.Reading

/-!
The grammar of clauses, and what clauses bind.

* `IsPart`, `IsClause`: the lexemes that are a part, and the parts that make up a clause;
* `Collects`, `Reads`: what entries and parts bind;
* `Reads.unique`, `Reads.isEmpty_eq_false`: they bind one thing, and a name unless all there is is a
  brace list without an entry;
* `Known.default`, `Known.wholeModule`, `Known.list`: what is known of the parts that have been read
  grows by one part.
-/
namespace VirtualImports.Clause

/-! ## Grammar -/

inductive PartKind
  | wholeModule
  | default
  | list
  deriving DecidableEq

/-- A part of a clause: `* as N`, a default name, or a brace list with what its entries bind. -/
inductive Part
  | wholeModule (name : String)
  | default (name : String)
  | list (bindings : List Binding)

namespace Part

def kind : Part → PartKind
  | wholeModule _ => .wholeModule
  | default _ => .default
  | list _ => .list

def bindings : Part → List Binding
  | list bindings => bindings
  | _ => []

/-- All parts bind a name but for a brace list without an entry. -/
def Binds : Part → Prop
  | list bindings => bindings ≠ []
  | _ => True

end Part

inductive IsPart : List Lexeme → Part → Prop
  | wholeModule (name : String) : IsPart [.star, .name "as", .name name] (.wholeModule name)
  | default (name : String) : IsPart [.name name] (.default name)
  | list {words : List (List String)} {entries : List (List Binding)}
      (each : List.Forall₂ IsEntry words entries) : IsPart (braced words) (.list entries.flatten)

/-- No kind of part comes twice. Parts have a comma between them, which may be missing in front of a
default name that follows a brace list. -/
inductive IsClause : List Lexeme → List Part → Prop
  | first {lexemes : List Lexeme} {part : Part} (here : IsPart lexemes part) :
      IsClause lexemes [part]
  | comma {before lexemes : List Lexeme} {parts : List Part} {part : Part}
      (earlier : IsClause before parts) (here : IsPart lexemes part)
      (new : part.kind ∉ parts.map Part.kind) :
      IsClause (before ++ [.comma] ++ lexemes) (parts ++ [part])
  | bare {before : List Lexeme} {parts : List Part} (earlier : IsClause before parts) (name : String)
      (behind : .list ∈ parts.map Part.kind) (new : .default ∉ parts.map Part.kind) :
      IsClause (before ++ [.name name]) (parts ++ [.default name])

/-- The settings of one of the two maps: local names, each with the name imported under it. -/
def settings (isType : Bool) (bindings : List Binding) : List (String × String) :=
  (bindings.filter fun binding => binding.isType == isType).map fun binding =>
    (binding.localName, binding.imported)

/-- What entries come to, one after the other: in each of the two maps a local name has the place
where it comes first, and the imported name with which it comes last. -/
structure Collects (bindings : List Binding) (bound : Bindings) : Prop where
  named : Entries.Latest (settings false bindings) bound.named
  types : Entries.Latest (settings true bindings) bound.types

structure Reads (parts : List Part) (bound : Bindings) : Prop where
  entries : Collects (parts.flatMap Part.bindings) bound
  default : ∀ name, bound.defaultName = some name ↔ .default name ∈ parts
  wholeModule : ∀ name, bound.namespaceName = some name ↔ .wholeModule name ∈ parts

/-! ## What parts bind -/

theorem Collects.insert {bindings : List Binding} {bound : Bindings} (h : Collects bindings bound)
    (binding : Binding) : Collects (bindings ++ [binding]) (bound.insert binding) := by
  obtain ⟨imported, localName, isType⟩ := binding
  have settings_concat (mark : Bool) :
      settings mark (bindings ++ [⟨imported, localName, isType⟩]) = settings mark bindings ++
        if isType = mark then [(localName, imported)] else [] := by
    by_cases same : isType = mark <;> simp [settings, List.filter_append, same]
  constructor
  · rw [settings_concat]
    cases isType with
    | false => exact h.named.set localName imported
    | true => simpa [Bindings.insert] using h.named
  · rw [settings_concat]
    cases isType with
    | false => simpa [Bindings.insert] using h.types
    | true => exact h.types.set localName imported

theorem Collects.eq_nil_iff {bindings : List Binding} {bound : Bindings}
    (h : Collects bindings bound) : bound.named = [] ∧ bound.types = [] ↔ bindings = [] := by
  rw [h.named.eq_nil_iff, h.types.eq_nil_iff]
  simp only [settings, List.map_eq_nil_iff, List.filter_eq_nil_iff, beq_iff_eq]
  constructor
  · rintro ⟨plain, marked⟩
    rw [List.eq_nil_iff_forall_not_mem]
    intro binding mem
    cases mark : binding.isType with
    | false => exact plain binding mem mark
    | true => exact marked binding mem mark
  · rintro rfl
    simp

theorem Collects.insertAll {bindings : List Binding} {bound : Bindings}
    (h : Collects bindings bound) (more : List Binding) :
    Collects (bindings ++ more) (bound.insertAll more) := by
  induction more generalizing bindings bound with
  | nil =>
    rw [List.append_nil]
    exact h
  | cons binding more ih =>
    rw [List.append_cons]
    exact ih (h.insert binding)

/-- Parts bind one thing only. -/
theorem Reads.unique {parts : List Part} {a b : Bindings} (ha : Reads parts a)
    (hb : Reads parts b) : a = b := by
  obtain ⟨named, types, defaultName, namespaceName⟩ := a
  obtain ⟨named', types', defaultName', namespaceName'⟩ := b
  have default : defaultName = defaultName' :=
    Option.ext fun name => (ha.default name).trans (hb.default name).symm
  have wholeModule : namespaceName = namespaceName' :=
    Option.ext fun name => (ha.wholeModule name).trans (hb.wholeModule name).symm
  have entries : named = named' := ha.entries.named.unique hb.entries.named
  have marked : types = types' := ha.entries.types.unique hb.entries.types
  rw [default, wholeModule, entries, marked]

/-- Something is bound if one of the parts binds a name. -/
theorem Reads.isEmpty_eq_false {parts : List Part} {bound : Bindings} (h : Reads parts bound) :
    bound.isEmpty = false ↔ ∃ part ∈ parts, part.Binds := by
  have empty : bound.isEmpty = true ↔ ∀ part ∈ parts, ¬ part.Binds := by
    simp only [Bindings.isEmpty, Bool.and_eq_true, List.isEmpty_iff, Option.isNone_iff_eq_none,
      h.entries.eq_nil_iff, Option.eq_none_iff_forall_ne_some, ne_eq, h.default, h.wholeModule,
      List.flatMap_eq_nil_iff]
    constructor
    · rintro ⟨⟨lists, default⟩, wholeModule⟩ part mem
      cases part with
      | wholeModule name => exact absurd mem (wholeModule name)
      | default name => exact absurd mem (default name)
      | list bindings => exact fun filled => filled (lists _ mem)
    · intro none
      refine ⟨⟨fun part mem => ?_, fun name mem => none _ mem trivial⟩,
        fun name mem => none _ mem trivial⟩
      cases part with
      | wholeModule name => rfl
      | default name => rfl
      | list bindings => exact not_not.1 (none _ mem)
  rw [← Bool.not_eq_true, empty]
  simp only [not_forall, not_not, exists_prop]

/-- What is known when some parts have been read. -/
structure Known (parts : List Part) (listSeen : Bool) (bound : Bindings) : Prop where
  reads : Reads parts bound
  seen : listSeen = true ↔ .list ∈ parts.map Part.kind

theorem known_nil : Known [] false .empty where
  reads := ⟨⟨Entries.latest_nil, Entries.latest_nil⟩, by simp [Bindings.empty], by simp [Bindings.empty]⟩
  seen := by simp

section
variable {parts : List Part} {listSeen : Bool} {bound : Bindings}

theorem mem_kinds_default : .default ∈ parts.map Part.kind ↔ ∃ name, .default name ∈ parts := by
  rw [List.mem_map]
  constructor
  · rintro ⟨part, mem, kind⟩
    cases part <;> cases kind
    exact ⟨_, mem⟩
  · rintro ⟨name, mem⟩
    exact ⟨_, mem, rfl⟩

theorem mem_kinds_wholeModule :
    .wholeModule ∈ parts.map Part.kind ↔ ∃ name, .wholeModule name ∈ parts := by
  rw [List.mem_map]
  constructor
  · rintro ⟨part, mem, kind⟩
    cases part <;> cases kind
    exact ⟨_, mem⟩
  · rintro ⟨name, mem⟩
    exact ⟨_, mem, rfl⟩

theorem Known.default_isSome (known : Known parts listSeen bound) :
    bound.defaultName.isSome = true ↔ .default ∈ parts.map Part.kind := by
  rw [Option.isSome_iff_exists, mem_kinds_default]
  simp only [known.reads.default]

theorem Known.wholeModule_isSome (known : Known parts listSeen bound) :
    bound.namespaceName.isSome = true ↔ .wholeModule ∈ parts.map Part.kind := by
  rw [Option.isSome_iff_exists, mem_kinds_wholeModule]
  simp only [known.reads.wholeModule]

theorem Known.default (known : Known parts listSeen bound)
    (new : .default ∉ parts.map Part.kind) (name : String) :
    Known (parts ++ [.default name]) listSeen { bound with defaultName := some name } where
  reads :=
    { entries := by simpa [Part.bindings] using ⟨known.reads.entries.named, known.reads.entries.types⟩
      default := by
        intro other
        have absent : .default other ∉ parts := fun mem => new (mem_kinds_default.2 ⟨other, mem⟩)
        simp [absent, eq_comm]
      wholeModule := by
        intro other
        simpa using known.reads.wholeModule other }
  seen := by simpa [Part.kind] using known.seen

theorem Known.wholeModule (known : Known parts listSeen bound)
    (new : .wholeModule ∉ parts.map Part.kind) (name : String) :
    Known (parts ++ [.wholeModule name]) listSeen { bound with namespaceName := some name } where
  reads :=
    { entries := by simpa [Part.bindings] using ⟨known.reads.entries.named, known.reads.entries.types⟩
      default := by
        intro other
        simpa using known.reads.default other
      wholeModule := by
        intro other
        have absent : .wholeModule other ∉ parts :=
          fun mem => new (mem_kinds_wholeModule.2 ⟨other, mem⟩)
        simp [absent, eq_comm] }
  seen := by simpa [Part.kind] using known.seen

theorem Known.list (known : Known parts listSeen bound) (bindings : List Binding) :
    Known (parts ++ [.list bindings]) true (bound.insertAll bindings) where
  reads :=
    { entries := by
        rw [List.flatMap_append, List.flatMap_singleton]
        exact known.reads.entries.insertAll bindings
      default := by
        intro other
        rw [(Bindings.names_insertAll bindings bound).1, known.reads.default]
        simp
      wholeModule := by
        intro other
        rw [(Bindings.names_insertAll bindings bound).2, known.reads.wholeModule]
        simp }
  seen := by simp [Part.kind]

end

end VirtualImports.Clause
