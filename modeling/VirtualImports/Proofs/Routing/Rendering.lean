import VirtualImports.Proofs.Routing.Records
import VirtualImports.Proofs.Statement.Source

/-!
The statement for a record.

* `statement?_eq_some_iff`: the text of the statement is `import`, the clause between blanks and
  the `from` phrase of its destination;
* `forall_mem_lead`: what stands between `import` and the `from` phrase is made of the names of the
  record and the marks around them;
* `plain_lead`: so it neither opens a string nor ends a line;
* `exists_record_of_mem_statements`: what takes the place of a statement are statements for records;
* `line_of_mem_statements`: they are lines if no name that is brought in holds a line break.
-/
namespace VirtualImports

open Text Statement

namespace Record

/-- The clause of the statement for a record. -/
def clause (record : Record) : List Char :=
  [',', ' '].intercalate record.parts

/-- What stands between `import` and the `from` phrase. -/
def lead (record : Record) : List Char :=
  ' ' :: ((if record.typeOnly then "type ".toList else []) ++ record.clause ++ [' '])

theorem statement?_eq_some_iff {destination : String} {record : Record} {text : List Char} :
    record.statement? destination = some text ↔ record.isEmpty = false ∧
      text = importWord ++ (record.lead ++ sourceText destination.toList [' '] [';'] '\'') := by
  have opening : "import ".toList = importWord ++ [' '] := rfl
  have phrase : " from '".toList = ' ' :: (fromWord ++ [' ', '\'']) := rfl
  have closing : "';".toList = ['\'', ';'] := rfl
  unfold statement?
  cases record.isEmpty with
  | true => simp
  | false =>
    simp only [Bool.false_eq_true, if_false, Option.some.injEq, true_and, opening, phrase, closing,
      lead, clause, sourceText, List.append_assoc, List.cons_append, List.nil_append]
    exact eq_comm

end Record

theorem forall_mem_intercalate {p : Char → Prop} {sep : List Char} {parts : List (List Char)}
    (hs : ∀ c ∈ sep, p c) (hp : ∀ part ∈ parts, ∀ c ∈ part, p c) :
    ∀ c ∈ sep.intercalate parts, p c := by
  induction parts with
  | nil => simp
  | cons part parts ih =>
    cases parts with
    | nil =>
      rw [List.intercalate_singleton]
      exact hp part (by simp)
    | cons second parts =>
      rw [List.intercalate_cons_cons, List.forall_mem_append, List.forall_mem_append]
      exact ⟨⟨hp part (by simp), hs⟩, ih fun other mem => hp other (by simp [mem])⟩

theorem mem_of_mem_filledName? {name : Option String} {filled : String}
    (h : filled ∈ filledName? name) : filled ∈ name :=
  (Option.filter_eq_some_iff.1 h).1

/-- What a record writes around its names. -/
def Record.marks : List Char :=
  [' ', 't', 'y', 'p', 'e', 'a', 's', '*', ',', '{', '}']

section
variable {p : Char → Prop} (marks : ∀ c ∈ Record.marks, p c)
include marks

theorem Binding.forall_mem_render {binding : Binding} (imported : ∀ c ∈ binding.imported.toList, p c)
    (localName : ∀ c ∈ binding.localName.toList, p c) (marked : Bool) :
    ∀ c ∈ binding.render marked, p c := by
  have mark : "type ".toList ⊆ Record.marks := by decide
  have as : " as ".toList ⊆ Record.marks := by decide
  unfold Binding.render
  rw [List.forall_mem_append]
  constructor
  · split
    · exact fun c hc => marks c (mark hc)
    · simp
  · split
    · exact imported
    · rw [List.forall_mem_append, List.forall_mem_append]
      exact ⟨⟨imported, fun c hc => marks c (as hc)⟩, localName⟩

end

namespace Record

/-- The parts of a clause are the default name, the namespace and the list of entries. -/
theorem cases_of_mem_parts {record : Record} {part : List Char} (mem : part ∈ record.parts) :
    (∃ name ∈ record.defaultName, part = name.toList) ∨
    (∃ name ∈ record.namespaceName, part = "* as ".toList ++ name.toList) ∨
    part = renderList (!record.typeOnly) record.named := by
  rw [parts] at mem
  rcases List.mem_append.1 mem with mem | mem
  · rcases List.mem_append.1 mem with mem | mem
    · obtain ⟨name, filled, rfl⟩ := List.mem_map.1 mem
      exact .inl ⟨name, mem_of_mem_filledName? (Option.mem_toList.1 filled), rfl⟩
    · obtain ⟨name, filled, rfl⟩ := List.mem_map.1 mem
      exact .inr (.inl ⟨name, mem_of_mem_filledName? (Option.mem_toList.1 filled), rfl⟩)
  · split at mem
    · cases mem
    · exact .inr (.inr (List.mem_singleton.1 mem))

section
variable {p : Char → Prop} (marks : ∀ c ∈ Record.marks, p c)
include marks

theorem forall_mem_clause {record : Record}
    (names : record.Names fun name => ∀ c ∈ name.toList, p c) : ∀ c ∈ record.clause, p c := by
  have comma : [',', ' '] ⊆ Record.marks := by decide
  have star : "* as ".toList ⊆ Record.marks := by decide
  have opening : ['{', ' '] ⊆ Record.marks := by decide
  have closing : [' ', '}'] ⊆ Record.marks := by decide
  refine forall_mem_intercalate (fun c hc => marks c (comma hc)) ?_
  intro part mem
  rcases cases_of_mem_parts mem with ⟨name, hn, rfl⟩ | ⟨name, hn, rfl⟩ | rfl
  · exact names.default name hn
  · rw [List.forall_mem_append]
    exact ⟨fun c hc => marks c (star hc), names.wholeModule name hn⟩
  · rw [renderList, List.forall_mem_append, List.forall_mem_append]
    refine ⟨⟨fun c hc => marks c (opening hc), ?_⟩, fun c hc => marks c (closing hc)⟩
    refine forall_mem_intercalate (fun c hc => marks c (comma hc)) ?_
    intro entry he
    obtain ⟨binding, hb, rfl⟩ := List.mem_map.1 he
    exact Binding.forall_mem_render marks (names.named binding hb).1 (names.named binding hb).2 _

/-- What stands between `import` and the `from` phrase is made of the names and the marks around
them. -/
theorem forall_mem_lead {record : Record}
    (names : record.Names fun name => ∀ c ∈ name.toList, p c) : ∀ c ∈ record.lead, p c := by
  have blank : ' ' ∈ Record.marks := by decide
  have mark : "type ".toList ⊆ Record.marks := by decide
  rw [lead, List.forall_mem_cons, List.forall_mem_append, List.forall_mem_append]
  refine ⟨marks _ blank, ⟨?_, forall_mem_clause marks names⟩, ?_⟩
  · split
    · exact fun c hc => marks c (mark hc)
    · simp
  · rw [List.forall_mem_singleton]
    exact marks _ blank

end

/-- In front of the `from` phrase a statement neither opens a string nor ends a line. -/
theorem plain_lead {record : Record} (names : record.Names fun name => Plain name.toList) :
    Plain record.lead where
  unquoted := forall_mem_lead (by decide) (names.imp fun _ plain => plain.unquoted)
  flat := forall_mem_lead (by decide) (names.imp fun _ plain => plain.flat)

end Record

namespace Routing

variable {routing : Routing} {statement : ImportStatement}

/-- A statement that is put in the place of another is that of a record for one of the sources,
with the names of the statement and symbol names of the sources. -/
theorem exists_record_of_mem_statements (valid : routing.Valid)
    (names : statement.bindings.WellNamed) {p : String → Prop}
    (ofName : ∀ name, IsName name → p name)
    (ofSymbol : ∀ source ∈ routing.sources, ∀ symbol ∈ source.symbol, p symbol) {text : List Char}
    (mem : text ∈ (routing.routed statement).statements) :
    ∃ source ∈ routing.sources, ∃ record : Record, record.Names p ∧
      text = importWord ++ (record.lead ++ sourceText source.destination.toList [' '] [';'] '\'') := by
  obtain ⟨⟨destination, record⟩, listed, shape⟩ := List.mem_filterMap.1 mem
  obtain ⟨_, rfl⟩ := Record.statement?_eq_some_iff.1 shape
  obtain ⟨⟨source, hs, rfl⟩, named⟩ :=
    exists_source_of_mem_records valid names ofName ofSymbol _ listed
  exact ⟨source, hs, record, named, rfl⟩

/-- No name that the routing brings in holds a line break. -/
structure FlatNames (routing : Routing) : Prop where
  destinations : ∀ source ∈ routing.sources, ∀ c ∈ source.destination.toList, c ≠ '\n'
  symbols : ∀ source ∈ routing.sources, ∀ symbol ∈ source.symbol, ∀ c ∈ symbol.toList, c ≠ '\n'

/-- Then what takes the place of a statement are lines, closed by a quote and a semicolon. -/
theorem FlatNames.line_of_mem_statements (flat : routing.FlatNames) (valid : routing.Valid)
    (names : statement.bindings.WellNamed) {text : List Char}
    (mem : text ∈ (routing.routed statement).statements) :
    (∀ c ∈ text, c ≠ '\n') ∧ ∃ front, text = importWord ++ (front ++ ['\'', ';']) := by
  obtain ⟨source, hs, record, named, rfl⟩ := exists_record_of_mem_statements valid names
    (p := fun name => ∀ c ∈ name.toList, c ≠ '\n') (fun _ name => name.plain.flat) flat.symbols mem
  have word : ∀ c ∈ importWord, c ≠ '\n' := by decide
  have phrase : ∀ c ∈ fromWord, c ≠ '\n' := by decide
  constructor
  · simp only [sourceText, List.forall_mem_append, List.forall_mem_cons]
    exact ⟨word, Record.forall_mem_lead (by decide) named, phrase, by simp, by decide,
      flat.destinations source hs, by decide, by simp⟩
  · exact ⟨record.lead ++ (fromWord ++ ([' ', '\''] ++ source.destination.toList)),
      by simp [sourceText]⟩

end Routing

end VirtualImports
