import VirtualImports.Proofs.Routing.LocalNames
import VirtualImports.Proofs.Routing.RoundTrip

/-!
Routing, printing and reading again keep what the names of a statement stand for.

* `bound_readBack`: what is read back from a record binds the names of the record;
* `exists_again`: so the statements for records, read again, bind the names of the records together;
* `readable_of_mem_routed`: all records of a routed statement can be printed and read;
* `statements_bind`: together the statements bind each name where it was looked up.
-/
namespace VirtualImports

open Text

namespace Record

/-! ## One record -/

/-- A record whose statement reads back as the record. -/
structure Readable (destination : String) (record : Record) : Prop where
  destined : destination ≠ ""
  unquoted : Unquoted destination.toList
  names : record.Names IsName
  distinct : (record.named.map Binding.localName).Nodup

/-- Nothing is bound by a record that has no statement. -/
theorem bound_of_statement?_eq_none {destination : String} {record : Record}
    (names : record.Names IsName) (h : record.statement? destination = none) :
    record.bound destination = [] := by
  have empty : record.isEmpty = true := by
    unfold statement? at h
    split at h
    · assumption
    · cases h
  rw [isEmpty, filledName?_of_isName names.default,
    filledName?_of_isName names.wholeModule] at empty
  simp only [Bool.and_eq_true, List.isEmpty_iff, Option.isNone_iff_eq_none] at empty
  obtain ⟨⟨named, default⟩, wholeModule⟩ := empty
  rw [bound, named, default, wholeModule]
  rfl

/-- What is read back from a record binds the names of the record. Entries for types come behind
the others, unless the whole statement is for types. -/
theorem bound_readBack {destination : String} {record : Record}
    (distinct : (record.named.map Binding.localName).Nodup) (text : List Char) :
    (ImportStatement.bound ⟨text, destination, record.typeOnly, record.readBack⟩).Perm
      (record.bound destination) := by
  have keys (keeps : Binding → Bool) :
      (((record.named.filter keeps).map Binding.entry).map Prod.fst).Nodup := by
    rw [List.map_map]
    exact distinct.sublist (List.filter_sublist.map Binding.localName)
  rw [readBack_eq, Entries.ofSettings_of_nodup (keys _), Entries.ofSettings_of_nodup (keys _)]
  unfold ImportStatement.bound bound
  refine List.Perm.append_right _ (List.Perm.append_right _ ?_)
  rw [List.map_map, List.map_map]
  have plain : ∀ binding ∈ record.named.filter fun binding => record.typeOnly || !binding.isType,
      (record.typeOnly || binding.isType) = record.typeOnly := by
    intro binding mem
    have kept := (List.mem_filter.1 mem).2
    cases mark : record.typeOnly <;> simp_all
  have marked : ∀ binding ∈ record.named.filter fun binding => !record.typeOnly && binding.isType,
      (record.typeOnly || binding.isType) = true := by
    intro binding mem
    have kept := (List.mem_filter.1 mem).2
    simp_all
  have split := List.filter_append_perm
    (fun binding : Binding => record.typeOnly || !binding.isType) record.named
  simp only [Bool.not_or, Bool.not_not] at split
  refine List.Perm.trans (List.Perm.of_eq ?_) (split.map _)
  rw [List.map_append]
  congr 1
  · refine List.map_congr_left fun binding mem => ?_
    rw [plain binding mem]
    rfl
  · refine List.map_congr_left fun binding mem => ?_
    rw [marked binding mem]
    rfl

end Record

/-! ## All records -/

/-- The statements for records that read back, read again, bind the names of the records. -/
theorem Routed.exists_again {records : Entries Record} (unresolved : List Unresolved)
    (readable : ∀ entry ∈ records, entry.2.Readable entry.1) :
    ∃ again, List.Forall₂ (fun text statement => ImportStatement.read text = .ok statement)
        (statements ⟨records, unresolved⟩) again ∧
      (again.flatMap ImportStatement.bound).Perm (pooled records) := by
  induction records with
  | nil => exact ⟨[], .nil, .nil⟩
  | cons entry records ih =>
    obtain ⟨destination, record⟩ := entry
    obtain ⟨again, read, same⟩ := ih fun entry mem => readable entry (List.mem_cons_of_mem _ mem)
    have first : record.Readable destination := readable (destination, record) List.mem_cons_self
    rw [pooled, List.flatMap_cons]
    cases shape : record.statement? destination with
    | none =>
      have skipped : statements ⟨(destination, record) :: records, unresolved⟩ =
          statements ⟨records, unresolved⟩ := List.filterMap_cons_none shape
      rw [skipped, Record.bound_of_statement?_eq_none first.names shape]
      exact ⟨again, read, same⟩
    | some text =>
      have printed : statements ⟨(destination, record) :: records, unresolved⟩ =
          text :: statements ⟨records, unresolved⟩ := List.filterMap_cons_some shape
      have back := Record.read_statement first.destined first.unquoted first.names shape
      rw [printed]
      refine ⟨_ :: again, .cons back read, ?_⟩
      rw [List.flatMap_cons]
      exact (Record.bound_readBack first.distinct text).append same

/-! ## Statements -/

namespace Routing

variable {routing : Routing}

theorem Valid.destination_ne_empty (valid : routing.Valid) :
    ∀ source ∈ routing.sources, source.destination ≠ "" := by
  intro source mem
  cases routing with
  | module destination =>
    rw [List.mem_singleton.1 mem]
    exact ne_empty_of_isBlankName valid
  | symbols entries =>
    obtain ⟨entry, he, made⟩ := List.mem_filterMap.1 mem
    obtain ⟨checked, found, named⟩ := (valid entry he).exists_source
    rw [found] at made
    cases made
    exact named

/-- All records of a routed statement read back, where none binds a name twice. -/
theorem readable_of_mem_routed (valid : routing.Valid) {statement : ImportStatement}
    (names : statement.bindings.WellNamed)
    (unquoted : ∀ source ∈ routing.sources, Unquoted source.destination.toList)
    (identifiers : ∀ source ∈ routing.sources, ∀ symbol ∈ source.symbol, IsName symbol)
    (distinct : (routing.routed statement).localNames.Nodup) :
    ∀ entry ∈ (routing.routed statement).records, entry.2.Readable entry.1 := by
  intro entry mem
  obtain ⟨⟨source, hs, same⟩, named⟩ :=
    exists_source_of_mem_records valid names (fun _ name => name) identifiers entry mem
  have own : entry.2.localNames.Nodup := (List.nodup_flatMap.1 distinct).1 entry mem
  rw [Record.localNames, List.append_assoc] at own
  constructor
  · exact same ▸ valid.destination_ne_empty source hs
  · exact same ▸ unquoted source hs
  · exact named
  · exact (List.nodup_append.1 own).1

/-- The local name is no part of where a name is looked up. -/
theorem localName_of_redirect? {bound redirected : Bound}
    (h : routing.redirect? bound = some redirected) : redirected.localName = bound.localName := by
  unfold redirect? at h
  split at h
  · cases h
    rfl
  · obtain ⟨destination, _, rfl⟩ := Option.map_eq_some_iff.1 h
    rfl

/-- Imported names with a symbol that are imported as themselves stay where they are. -/
theorem rebind?_of_own {bound : Bound}
    (own : ∀ name ∈ routing.overridden? bound.exported, bound.localName = name) :
    routing.rebind? bound = routing.redirect? bound := by
  have stays : routing.landing bound = bound.localName := by
    cases overridden : routing.overridden? bound.exported with
    | none => exact landing_of_kept overridden
    | some name => exact (landing_of_overridden? overridden).trans (own name overridden).symm
  unfold rebind?
  cases found : routing.redirect? bound with
  | none => rfl
  | some redirected =>
    rw [Option.map_some, stays, ← localName_of_redirect? found]

/-- Nor does any other binding take their name. -/
theorem uncontested_of_own {bound : List Bound} (distinct : (bound.map Bound.localName).Nodup)
    (own : ∀ b ∈ bound, ∀ name ∈ routing.overridden? b.exported, b.localName = name) :
    routing.Uncontested bound := by
  intro a ha name overridden b hb _ different
  have first := own a ha name overridden
  have apart : b.localName ≠ name := fun same =>
    different (List.inj_on_of_nodup_map distinct hb ha (same.trans first.symm))
  constructor
  · intro imported
    have both : routing.overridden? b.exported = some name := by
      rw [imported]
      exact overridden?_named overridden
    exact apart (own b hb name both)
  · exact fun _ => apart

/-- **Routing preserves bindings.** Take a statement that can be read, with distinct local names,
and a routing of a checked configuration, with modules without quotes and names as symbols. Where
each imported name that a symbol is for is imported as itself, the statements that come of it can
be read, and together bind each name that has a place to go to once, and nothing else: under its
local name, for types or not as before, from the module and as the export where it is looked up. -/
theorem statements_bind {text : List Char} {statement : ImportStatement}
    (readable : ImportStatement.read text = .ok statement)
    (distinct : (statement.bound.map Bound.localName).Nodup) {raw : Value} {module : VirtualModule}
    (checked : VirtualModule.check raw = .ok module) {target : String}
    (chosen : module.targets.get? target = some routing)
    (unquoted : ∀ source ∈ routing.sources, Unquoted source.destination.toList)
    (identifiers : ∀ source ∈ routing.sources, ∀ symbol ∈ source.symbol, IsName symbol)
    (own : ∀ bound ∈ statement.bound, ∀ name ∈ routing.overridden? bound.exported,
      bound.localName = name) :
    ∃ routed again, (routing.apply statement).result = .ok routed ∧
      List.Forall₂ (fun text statement => ImportStatement.read text = .ok statement)
        routed.statements again ∧
      (again.flatMap ImportStatement.bound).Perm (statement.bound.filterMap routing.redirect?) := by
  have valid : routing.Valid := VirtualModule.valid_of_check checked _ (Entries.mem_of_get? chosen)
  have names := ImportStatement.wellNamed_of_read readable
  have localNames : (routing.routed statement).localNames.Nodup := by
    rw [(localNames_routed valid statement).nodup_iff, nodup_landings_iff distinct]
    exact uncontested_of_own distinct own
  have records := readable_of_mem_routed valid names unquoted identifiers localNames
  obtain ⟨again, read, bound⟩ :=
    Routed.exists_again (routing.routed statement).unresolved records
  have redirected : statement.bound.filterMap routing.rebind? =
      statement.bound.filterMap routing.redirect? :=
    List.filterMap_congr fun b mem => rebind?_of_own (own b mem)
  refine ⟨_, again, apply_eq_ok valid statement, read, ?_⟩
  rw [← redirected]
  exact bound.trans (pooled_routed valid statement)

theorem sources_renamingSymbols : (symbols renamingSymbols).sources =
    [⟨"ui", some "Alert"⟩, ⟨"ui-types", some "Props"⟩, ⟨"rest", none⟩] := rfl

theorem identifiers_renamingSymbols : ∀ source ∈ (symbols renamingSymbols).sources,
    ∀ symbol ∈ source.symbol, IsName symbol := by
  have alert : IsName "Alert" :=
    ⟨'A', ['l', 'e', 'r', 't'], rfl, by decide, List.all_eq_true.1 (by decide)⟩
  have props : IsName "Props" :=
    ⟨'P', ['r', 'o', 'p', 's'], rfl, by decide, List.all_eq_true.1 (by decide)⟩
  intro source mem symbol given
  rw [sources_renamingSymbols] at mem
  simp only [List.mem_cons, List.not_mem_nil, or_false] at mem
  rcases mem with rfl | rfl | rfl
  · cases given
    exact alert
  · cases given
    exact props
  · cases given

/-- All kinds of bindings at once. The names with symbols are imported as themselves. -/
def mixedStatement : ImportStatement where
  original := "import D, * as N, { A, B as P2, type P } from 'virtual:ui'".toList
  specifier := "virtual:ui"
  typeOnly := false
  bindings := ⟨[("A", "A"), ("P2", "B")], [("P", "P")], some "D", some "N"⟩

theorem statements_bind_sample :
    ImportStatement.read mixedStatement.original = .ok mixedStatement ∧
      ∃ routed again, ((symbols renamingSymbols).apply mixedStatement).result = .ok routed ∧
        List.Forall₂ (fun text statement => ImportStatement.read text = .ok statement)
          routed.statements again ∧
        (again.flatMap ImportStatement.bound).Perm
          [⟨"A", false, "ui", .named "Alert"⟩, ⟨"P2", false, "rest", .named "B"⟩,
            ⟨"P", true, "ui-types", .named "Props"⟩, ⟨"D", false, "rest", .default⟩,
            ⟨"N", false, "rest", .wholeModule⟩] := by
  have readable : ImportStatement.read mixedStatement.original = .ok mixedStatement := by
    decide +kernel
  have distinct : (mixedStatement.bound.map Bound.localName).Nodup := by decide
  have unquoted : ∀ source ∈ (symbols renamingSymbols).sources,
      Unquoted source.destination.toList := by
    rw [sources_renamingSymbols]
    decide
  have own : ∀ bound ∈ mixedStatement.bound,
      ∀ name ∈ (symbols renamingSymbols).overridden? bound.exported, bound.localName = name := by
    decide
  obtain ⟨routed, again, run, read, bound⟩ := statements_bind readable distinct check_renamingTable
    (show Entries.get? "react" [("react", symbols renamingSymbols)] = some _ from rfl)
    unquoted identifiers_renamingSymbols own
  exact ⟨readable, routed, again, run, read, bound⟩

end Routing

end VirtualImports
