import VirtualImports.Proofs.Routing.Preservation

/-!
What is read back from the statements for the records of a routed statement.

* `unquoted_of_read`, `specifier_of_read`: a statement for a record can be read only if no quote is
  in it but those of its module, and is then for that module;
* `bound_readBack_subset`: it binds no names but those of the record;
* `bound_of_mem_routed`: these are names of the routed statement where the routing takes them;
* `names_of_mem_routed`: all of them are names if the exports that are asked for are.
-/
namespace VirtualImports

open Text Statement

namespace Record

variable {destination : String} {record : Record} {text : List Char} {again : ImportStatement}

/-- A statement for a record that can be read has no quotes but those around its module. -/
theorem unquoted_of_read (shape : record.statement? destination = some text)
    (back : ImportStatement.read text = .ok again) :
    Unquoted record.lead ∧ Unquoted destination.toList := by
  obtain ⟨_, rfl⟩ := statement?_eq_some_iff.1 shape
  obtain ⟨quote, _, two⟩ := ImportStatement.quotes_of_read back
  have word : quotes importWord = [] := rfl
  have phrase : quotes fromWord = [] := rfl
  have blank : quotes [' '] = [] := rfl
  have mark : isQuote '\'' = true := rfl
  -- the quotes around the module are two already
  have count := congrArg List.length two
  simp only [sourceText, quotes_append, word, phrase, blank, List.nil_append,
    quotes_cons_of_isQuote mark, List.length_append, List.length_cons, List.length_nil] at count
  constructor
  · rw [← quotes_eq_nil]
    exact List.length_eq_zero_iff.1 (by omega)
  · rw [← quotes_eq_nil]
    exact List.length_eq_zero_iff.1 (by omega)

/-- If it can be read, it comes back with the module that it was made for. -/
theorem specifier_of_read (named : destination ≠ "")
    (shape : record.statement? destination = some text)
    (back : ImportStatement.read text = .ok again) : again.specifier = destination := by
  obtain ⟨lead, unquoted⟩ := unquoted_of_read shape back
  obtain ⟨header, found, _, specifier, _⟩ := ImportStatement.exists_header_of_read back
  rw [(solid_statement shape).trim] at found
  obtain ⟨_, rfl⟩ := statement?_eq_some_iff.1 shape
  have keyword : after? ['i', 'm', 'p', 'o', 'r', 't'] (importWord ++
      (record.lead ++ sourceText destination.toList [' '] [';'] '\'')) =
        some (record.lead ++ sourceText destination.toList [' '] [';'] '\'') :=
    after?_append importWord _
  simp only [Header.ofText?, keyword, splitSource?_append (isSource_destination named unquoted) lead]
    at found
  obtain ⟨_, _, rfl⟩ := Option.map_eq_some_iff.1 found
  rw [specifier, String.ofList_toList]

/-- What is read back from a record binds no names but those of the record. -/
theorem bound_readBack_subset (destination : String) (record : Record) (text : List Char) :
    ImportStatement.bound ⟨text, destination, record.typeOnly, record.readBack⟩ ⊆
      record.bound destination := by
  intro bound mem
  rw [readBack_eq] at mem
  simp only [ImportStatement.bound, List.mem_append] at mem
  have entry {keeps : Binding → Bool} {entry : String × String}
      (he : entry ∈ Entries.ofSettings ((record.named.filter keeps).map Binding.entry)) :
      ∃ binding ∈ record.named, keeps binding = true ∧ binding.entry = entry := by
    obtain ⟨binding, hb, same⟩ := List.mem_map.1 (Entries.ofSettings_subset _ he)
    obtain ⟨listed, kept⟩ := List.mem_filter.1 hb
    exact ⟨binding, listed, kept, same⟩
  simp only [Record.bound, List.mem_append]
  rcases mem with ((mem | mem) | mem) | mem
  · obtain ⟨_, he, rfl⟩ := List.mem_map.1 mem
    obtain ⟨binding, listed, kept, rfl⟩ := entry he
    refine .inl (.inl (List.mem_map.2 ⟨binding, listed, ?_⟩))
    cases mark : record.typeOnly <;> simp_all [Binding.entry]
  · obtain ⟨_, he, rfl⟩ := List.mem_map.1 mem
    obtain ⟨binding, listed, kept, rfl⟩ := entry he
    refine .inl (.inl (List.mem_map.2 ⟨binding, listed, ?_⟩))
    simp_all [Binding.entry]
  · exact .inl (.inr mem)
  · exact .inr mem

/-- The names of a record, by what it binds. -/
theorem names_of_bound (destination : String)
    (locals : ∀ bound ∈ record.bound destination, IsName bound.localName)
    (exports : ∀ binding ∈ record.named, IsName binding.imported) : record.Names IsName where
  named := by
    intro binding mem
    refine ⟨exports binding mem, locals ⟨binding.localName, record.typeOnly || binding.isType,
      destination, .named binding.imported⟩ ?_⟩
    rw [Record.bound]
    exact List.mem_append_left _ (List.mem_append_left _ (List.mem_map.2 ⟨binding, mem, rfl⟩))
  default := by
    intro name mem
    refine locals ⟨name, record.typeOnly, destination, .default⟩ ?_
    simp [Record.bound, Option.mem_def.1 mem]
  wholeModule := by
    intro name mem
    refine locals ⟨name, record.typeOnly, destination, .wholeModule⟩ ?_
    simp [Record.bound, Option.mem_def.1 mem]

end Record

theorem ImportStatement.isName_of_mem_bound {statement : ImportStatement}
    (names : statement.bindings.WellNamed) {bound : Bound} (mem : bound ∈ statement.bound) :
    IsName bound.localName ∧ ∀ name, bound.exported = .named name → IsName name := by
  rw [bound_eq_requests] at mem
  obtain ⟨request, hr, rfl⟩ := List.mem_map.1 mem
  obtain ⟨imported, localName⟩ := isName_of_mem_requests names hr
  refine ⟨localName, fun name same => ?_⟩
  have exported : request.kind.exported request.imported = .named name := same
  cases kind : request.kind <;> rw [kind] at exported <;> cases exported <;> exact imported

namespace Routing

variable {routing : Routing} {statement : ImportStatement} {entry : String × Record}

/-- A local name in the end is one that the statement holds. -/
theorem isName_landing (names : statement.bindings.WellNamed) {bound : Bound}
    (mem : bound ∈ statement.bound) : IsName (routing.landing bound) := by
  obtain ⟨localName, exported⟩ := ImportStatement.isName_of_mem_bound names mem
  cases overridden : routing.overridden? bound.exported with
  | none =>
    rw [landing_of_kept overridden]
    exact localName
  | some name =>
    rw [landing_of_overridden? overridden]
    exact exported name (overridden?_eq_some_iff.1 overridden).1

/-- A record binds names of the statement, where the routing takes them. -/
theorem bound_of_mem_routed (valid : routing.Valid)
    (mem : entry ∈ (routing.routed statement).records) :
    entry.2.bound entry.1 ⊆ statement.bound.filterMap routing.rebind? := by
  intro bound listed
  have together : bound ∈ Routed.pooled (routing.routed statement).records :=
    List.mem_flatMap.2 ⟨entry, mem, listed⟩
  exact (pooled_routed valid statement).subset together

/-- The names of a record are names, unless a symbol that takes the place of one is none. -/
theorem names_of_mem_routed (valid : routing.Valid) (names : statement.bindings.WellNamed)
    (mem : entry ∈ (routing.routed statement).records)
    (exports : ∀ binding ∈ entry.2.named, IsName binding.imported) : entry.2.Names IsName := by
  refine Record.names_of_bound entry.1 (fun bound listed => ?_) exports
  obtain ⟨origin, ho, made⟩ := List.mem_filterMap.1 (bound_of_mem_routed valid mem listed)
  obtain ⟨redirected, _, rfl⟩ := Option.map_eq_some_iff.1 made
  exact isName_landing names ho

/-- The destination of a record is the module of a source. -/
theorem destination_ne_empty_of_mem_routed (valid : routing.Valid)
    (names : statement.bindings.WellNamed) (mem : entry ∈ (routing.routed statement).records) :
    entry.1 ≠ "" := by
  obtain ⟨⟨source, listed, same⟩, _⟩ := exists_source_of_mem_records (p := fun _ => True) valid
    names (fun _ _ => trivial) (fun _ _ _ _ => trivial) entry mem
  rw [← same]
  exact valid.destination_ne_empty source listed

end Routing

end VirtualImports
