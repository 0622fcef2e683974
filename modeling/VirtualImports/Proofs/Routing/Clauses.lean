import VirtualImports.Proofs.Clause.Lexing
import VirtualImports.Proofs.Clause.Reading
import VirtualImports.Proofs.Routing.Rendering

/-!
The clause of a record, read back.

* `spells_clause`: the clause splits into the lexemes of the record;
* `exists_parts`: these lexemes bind the names of the record, part by part;
* `readBack_eq`: an entry for a type is one in what is read back unless the statement as a whole is
  for types;
* `readClause_clause`: so the clause can be read, and binds the names of the record.
-/
namespace VirtualImports

open Text Clause

theorem isName_type : IsName "type" :=
  ⟨'t', ['y', 'p', 'e'], rfl, by decide, List.all_eq_true.1 (by decide)⟩

theorem isName_as : IsName "as" :=
  ⟨'a', ['s'], rfl, by decide, List.all_eq_true.1 (by decide)⟩

/-- Names are not empty, so none of them is left out. -/
theorem filledName?_of_isName {name : Option String} (h : ∀ n ∈ name, IsName n) :
    filledName? name = name := by
  cases name with
  | none => rfl
  | some n => simp [filledName?, (h n rfl).ne_empty]

theorem Bindings.isEmpty_insert (binding : Binding) (bound : Bindings) :
    (bound.insert binding).isEmpty = false := by
  unfold Bindings.insert Bindings.isEmpty
  split <;> simp [Entries.set_ne_nil]

/-- The entry that a map of bindings has for it. -/
def Binding.entry (binding : Binding) : String × String :=
  (binding.localName, binding.imported)

/-! ## Splitting -/

theorem Binding.spells_render {binding : Binding} (imported : IsName binding.imported)
    (localName : IsName binding.localName) (marked : Bool) :
    Spells (binding.render marked) ((binding.words marked).map Lexeme.name) := by
  have mark : "type ".toList = "type".toList ++ [' '] := rfl
  have as : " as ".toList = ' ' :: ("as".toList ++ [' ']) := rfl
  have entry : Spells
      (if binding.imported = binding.localName then binding.imported.toList
        else binding.imported.toList ++ " as ".toList ++ binding.localName.toList)
      ((if binding.imported = binding.localName then [binding.imported]
        else [binding.imported, "as", binding.localName]).map Lexeme.name) := by
    by_cases same : binding.imported = binding.localName
    · rw [if_pos same, if_pos same]
      exact spells_name imported
    · rw [if_neg same, if_neg same, as, List.append_assoc, List.cons_append, List.append_assoc]
      have last : Spells (' ' :: binding.localName.toList) [.name binding.localName] :=
        (spells_name localName).blank (by decide)
      have middle := ((spells_name isName_as).append last (by simp; decide)).blank
        (show isBlank ' ' = true by decide)
      exact (spells_name imported).append middle (by simp; decide)
  unfold Binding.render Binding.words
  by_cases marks : (marked && binding.isType) = true
  · rw [if_pos marks, if_pos marks, mark, List.append_assoc]
    exact (spells_name isName_type).append (entry.blank (by decide)) (by simp; decide)
  · rw [if_neg marks, if_neg marks]
    exact entry

namespace Record

/-- The lexemes of the parts of the clause. -/
def partLexemes (record : Record) : List (List Lexeme) :=
  record.defaultName.toList.map (fun name => [.name name]) ++
  record.namespaceName.toList.map (fun name => [.star, .name "as", .name name]) ++
  if record.named.isEmpty then [] else [listLexemes (!record.typeOnly) record.named]

theorem spells_renderList {named : List Binding}
    (names : ∀ binding ∈ named, IsName binding.imported ∧ IsName binding.localName)
    (marked : Bool) : Spells (renderList marked named) (listLexemes marked named) := by
  have entries : List.Forall₂ Spells (named.map (Binding.render marked))
      (named.map fun binding => (binding.words marked).map Lexeme.name) := by
    rw [List.forall₂_map_left_iff, List.forall₂_map_right_iff, List.forall₂_same]
    exact fun binding mem =>
      Binding.spells_render (names binding mem).1 (names binding mem).2 marked
  have close : Spells [' ', '}'] [.closeBrace] :=
    (spells_nil.mark (by decide) (by decide)).blank (by decide)
  have inside := (spells_intercalate entries).append close (by simp; decide)
  rw [renderList, List.append_assoc]
  exact (inside.blank (by decide)).mark (by decide) (by decide)

/-- The clause of a record splits into the lexemes of its parts. -/
theorem spells_clause {record : Record} (names : record.Names IsName) :
    Spells record.clause ([.comma].intercalate record.partLexemes) := by
  have star : "* as ".toList = '*' :: ' ' :: ("as".toList ++ [' ']) := rfl
  refine spells_intercalate ?_
  rw [parts, partLexemes, filledName?_of_isName names.default,
    filledName?_of_isName names.wholeModule]
  refine List.rel_append (List.rel_append ?_ ?_) ?_
  · rw [List.forall₂_map_left_iff, List.forall₂_map_right_iff, List.forall₂_same]
    exact fun name mem => spells_name (names.default name (Option.mem_toList.1 mem))
  · rw [List.forall₂_map_left_iff, List.forall₂_map_right_iff, List.forall₂_same]
    intro name mem
    have last : Spells (' ' :: name.toList) [.name name] :=
      (spells_name (names.wholeModule name (Option.mem_toList.1 mem))).blank (by decide)
    have word := (spells_name isName_as).append last (by simp; decide)
    rw [star, List.cons_append, List.cons_append, List.append_assoc]
    exact (word.blank (by decide)).mark (by decide) (by decide)
  · split
    · exact .nil
    · exact .cons (spells_renderList names.named _) .nil

/-! ## Binding -/

/-- What the clause of a record binds: the names of the record, where an entry for a type counts as
one only if the statement as a whole is not for types. -/
def readBack (record : Record) : Bindings :=
  record.named.foldl (fun bound binding => bound.insert (binding.readBack (!record.typeOnly)))
    ⟨[], [], record.defaultName, record.namespaceName⟩

/-- Entries are put into the maps for names and for types, each in their order. -/
theorem foldl_insert (bindings : List Binding) (bound : Bindings) :
    bindings.foldl (fun bound binding => bound.insert binding) bound =
      { bound with
        named := ((bindings.filter fun binding => !binding.isType).map Binding.entry).foldl
          (fun entries (key, value) => entries.set key value) bound.named
        types := ((bindings.filter fun binding => binding.isType).map Binding.entry).foldl
          (fun entries (key, value) => entries.set key value) bound.types } := by
  induction bindings generalizing bound with
  | nil => rfl
  | cons binding bindings ih =>
    rw [List.foldl_cons, ih]
    cases mark : binding.isType <;> simp [Bindings.insert, mark, Binding.entry]

/-- The names that are read back, in the order of the record. -/
theorem readBack_eq (record : Record) :
    record.readBack =
      { named := Entries.ofSettings ((record.named.filter fun binding =>
          record.typeOnly || !binding.isType).map Binding.entry)
        types := Entries.ofSettings ((record.named.filter fun binding =>
          !record.typeOnly && binding.isType).map Binding.entry)
        defaultName := record.defaultName
        namespaceName := record.namespaceName } := by
  have entry (marked : Bool) : Binding.entry ∘ Binding.readBack marked = Binding.entry := rfl
  have marks : record.readBack = (record.named.map (Binding.readBack (!record.typeOnly))).foldl
      (fun bound binding => bound.insert binding)
      ⟨[], [], record.defaultName, record.namespaceName⟩ := by
    rw [List.foldl_map]
    rfl
  rw [marks, foldl_insert]
  simp only [List.filter_map, List.map_map, entry, Entries.ofSettings]
  cases record.typeOnly <;> rfl

theorem exists_parts (record : Record) :
    ∃ listSeen, Parts false .empty record.partLexemes listSeen record.readBack := by
  obtain ⟨named, defaultName, namespaceName, typeOnly⟩ := record
  have default : Parts false .empty (defaultName.toList.map fun name => [.name name]) false
      ⟨[], [], defaultName, none⟩ := by
    cases defaultName with
    | none => exact .nil
    | some name => exact .cons (fun _ => Progress.run_default name rfl) .nil
  have wholeModule : Parts false ⟨[], [], defaultName, none⟩
      (namespaceName.toList.map fun name => [.star, .name "as", .name name]) false
      ⟨[], [], defaultName, namespaceName⟩ := by
    cases namespaceName with
    | none => exact .nil
    | some name => exact .cons (fun _ => Progress.run_wholeModule name rfl) .nil
  cases named with
  | nil =>
    refine ⟨false, ?_⟩
    have parts := default.append wholeModule
    rw [← List.append_nil (_ ++ _)] at parts
    exact parts
  | cons binding named =>
    refine ⟨true, (default.append wholeModule).append ?_⟩
    exact .cons (fun _ => Progress.run_list (!typeOnly) (binding :: named)) .nil

theorem partLexemes_ne_nil {record : Record} (filled : record.isEmpty = false) :
    record.partLexemes ≠ [] := by
  obtain ⟨named, defaultName, namespaceName, typeOnly⟩ := record
  cases named <;> cases defaultName <;> cases namespaceName <;>
    simp_all [partLexemes, isEmpty, filledName?]

theorem isEmpty_readBack {record : Record} (filled : record.isEmpty = false) :
    record.readBack.isEmpty = false := by
  obtain ⟨named, defaultName, namespaceName, typeOnly⟩ := record
  rcases List.eq_nil_or_concat named with rfl | ⟨named, binding, rfl⟩
  · cases defaultName <;> cases namespaceName <;>
      simp_all [readBack, isEmpty, filledName?, Bindings.isEmpty]
  · rw [readBack]
    simp only [List.concat_eq_append, List.foldl_append, List.foldl_cons, List.foldl_nil,
      Bindings.isEmpty_insert]

/-- The clause of a record can be read, and binds its names. -/
theorem readClause_clause {record : Record} (filled : record.isEmpty = false)
    (names : record.Names IsName) : Statement.readClause record.clause = .ok record.readBack := by
  obtain ⟨tokens, scanned, lexemes⟩ := (spells_clause names).splits 0
  obtain ⟨listSeen, parts⟩ := exists_parts record
  have run := parts.run (partLexemes_ne_nil filled) none
  rw [← lexemes] at run
  have found : Clause.read tokens = .ok record.readBack := read_of_run run rfl
  rw [Statement.readClause, scan, scanned]
  simp only [found, isEmpty_readBack filled, Bool.false_eq_true, if_false]

end Record

end VirtualImports
