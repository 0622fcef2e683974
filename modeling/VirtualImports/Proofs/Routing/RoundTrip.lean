import VirtualImports.Proofs.Routing.Clauses
import VirtualImports.Proofs.Statement.Quotes

/-!
Statements read back.

* `splitTypeKeyword?_lead`: the mark `type` of a statement is told from a default name `type`;
* `ofText?_statement`: the parts of a rendered statement are found again;
* `read_statement`: a rendered statement reads back as what its record binds;
* `statement?_reads_back`: with distinct local names that is the record itself.
-/
namespace VirtualImports

open Text Statement Clause

namespace Record

theorem exists_parts_cons {record : Record} (filled : record.isEmpty = false) :
    ∃ part parts, record.parts = part :: parts := by
  obtain ⟨named, defaultName, namespaceName, typeOnly⟩ := record
  cases named <;> cases hd : filledName? defaultName <;> cases hw : filledName? namespaceName <;>
    simp_all [parts, isEmpty]

/-- The clause of a record begins and ends with something other than a blank. -/
theorem solid_clause {record : Record} (filled : record.isEmpty = false)
    (names : record.Names IsName) : Solid record.clause := by
  refine solid_intercalate ?_ ?_
  · obtain ⟨part, parts, same⟩ := exists_parts_cons filled
    rw [same]
    simp
  intro part mem
  rcases cases_of_mem_parts mem with ⟨name, hn, rfl⟩ | ⟨name, hn, rfl⟩ | rfl
  · exact (names.default name hn).solid
  · have star : Solid ['*', ' ', 'a', 's'] := by decide
    exact star.join (names.wholeModule name hn).solid [' ']
  · have opening : Solid ['{'] := by decide
    have closing : Solid ['}'] := by decide
    have whole := opening.join closing (' ' ::
      ([',', ' '].intercalate (record.named.map (Binding.render (!record.typeOnly))) ++ [' ']))
    simpa [renderList] using whole

/-- The clause of a record begins with a default name, behind which it ends or goes on with a
comma, or else with a star or a brace. -/
theorem clause_cases {record : Record} (filled : record.isEmpty = false)
    (names : record.Names IsName) :
    (∃ name tail, IsName name ∧ record.clause = name.toList ++ tail ∧
      (tail = [] ∨ ∃ rest, tail = ',' :: rest)) ∨
    ∃ c rest, record.clause = c :: rest ∧ (c = '*' ∨ c = '{') := by
  have head (part : List Char) (parts : List (List Char)) : ∃ tail,
      [',', ' '].intercalate (part :: parts) = part ++ tail ∧
        (tail = [] ∨ ∃ rest, tail = ',' :: rest) := by
    cases parts with
    | nil => exact ⟨[], by simp, .inl rfl⟩
    | cons second parts =>
      refine ⟨',' :: ' ' :: [',', ' '].intercalate (second :: parts), ?_, .inr ⟨_, rfl⟩⟩
      rw [List.intercalate_cons_cons, List.append_assoc]
      rfl
  obtain ⟨part, parts, same⟩ := exists_parts_cons filled
  obtain ⟨tail, joined, next⟩ := head part parts
  have clause : record.clause = part ++ tail := by rw [Record.clause, same, joined]
  rw [Record.parts, filledName?_of_isName names.default,
    filledName?_of_isName names.wholeModule] at same
  cases hd : record.defaultName with
  | some name =>
    rw [hd] at same
    obtain ⟨rfl, _⟩ := List.cons.inj same
    exact .inl ⟨name, tail, names.default name hd, clause, next⟩
  | none =>
    refine .inr ?_
    cases hw : record.namespaceName with
    | some name =>
      rw [hd, hw] at same
      obtain ⟨rfl, _⟩ := List.cons.inj same
      exact ⟨'*', _, clause, .inl rfl⟩
    | none =>
      rw [hd, hw] at same
      by_cases empty : record.named.isEmpty = true
      · rw [if_pos empty] at same
        cases same
      · rw [if_neg empty] at same
        obtain ⟨rfl, _⟩ := List.cons.inj same
        exact ⟨'{', _, clause, .inr rfl⟩

/-- The mark `type` of a statement is told from a default name that begins with `type`. -/
theorem splitTypeKeyword?_lead {record : Record} (filled : record.isEmpty = false)
    (names : record.Names IsName) :
    splitTypeKeyword? record.lead = some (record.typeOnly, record.clause) := by
  have solid := solid_clause filled names
  have blank : ∀ c ∈ [' '], isBlank c = true := by decide
  unfold lead
  cases record.typeOnly with
  | true =>
    have shape : ' ' :: ("type ".toList ++ record.clause ++ [' ']) =
        [' '] ++ (typeWord ++ ([' '] ++ (record.clause ++ [' ']))) := by simp [typeWord]
    rw [if_pos rfl, shape]
    exact splitTypeKeyword?_marked (by simp) blank blank solid (by simp) blank (by simp)
  | false =>
    have ne : [' '] ≠ [] := by simp
    rw [if_neg (by decide), List.nil_append]
    refine splitTypeKeyword?_unmarked ne blank solid ne blank ?_
    intro rest split
    rcases clause_cases filled names with ⟨name, tail, isName, clause, next⟩ | ⟨c, more, clause, hc⟩
    · have stop : Stops continuesName (tail ++ [' ']) := by
        rcases next with rfl | ⟨rest, rfl⟩ <;> simp <;> decide
      rw [clause, List.append_assoc] at split
      rcases isName.cases_of_typeWord stop split with ⟨_, rfl⟩ | goesOn
      · rcases next with rfl | ⟨later, rfl⟩
        · exact .inl ⟨' ', by decide, rfl⟩
        · exact .inr ⟨',', rfl, by decide⟩
      · exact .inr goesOn
    · rw [clause] at split
      have first := (List.cons.inj split).1
      rcases hc with rfl | rfl <;> exact absurd first (by decide)

/-! ## Statements -/

variable {destination : String} {record : Record}

theorem isSource_destination (named : destination ≠ "") (unquoted : Unquoted destination.toList) :
    IsSource destination.toList [' '] [';'] '\'' where
  blanks := ⟨by simp, List.all_eq_true.1 (by decide)⟩
  quoted := by decide
  named := fun empty => named (String.toList_inj.1 empty)
  unquoted := unquoted
  terminated := by decide

/-- The parts of a rendered statement are found again. -/
theorem ofText?_statement (named : destination ≠ "") (unquoted : Unquoted destination.toList)
    (filled : record.isEmpty = false) (names : record.Names IsName) :
    Header.ofText? (importWord ++ (record.lead ++ sourceText destination.toList [' '] [';'] '\'')) =
      some ⟨record.typeOnly, record.clause, destination.toList⟩ := by
  have plain := (plain_lead (names.imp fun _ name => name.plain)).unquoted
  have keyword : after? ['i', 'm', 'p', 'o', 'r', 't'] (importWord ++
      (record.lead ++ sourceText destination.toList [' '] [';'] '\'')) =
        some (record.lead ++ sourceText destination.toList [' '] [';'] '\'') :=
    after?_append importWord _
  simp only [Header.ofText?, keyword,
    splitSource?_append (isSource_destination named unquoted) plain,
    splitTypeKeyword?_lead filled names, Option.map_some]

theorem solid_statement {text : List Char} (h : record.statement? destination = some text) :
    Solid text := by
  obtain ⟨_, rfl⟩ := statement?_eq_some_iff.1 h
  have word : Solid importWord := by decide
  have mark : Solid [';'] := by decide
  have split : importWord ++ (record.lead ++ sourceText destination.toList [' '] [';'] '\'') =
      importWord ++ (record.lead ++ (fromWord ++ ([' '] ++ '\'' :: (destination.toList ++ ['\'']))))
        ++ [';'] := by simp [sourceText]
  rw [split]
  exact word.join mark _

/-- A rendered statement reads back as what its record binds. -/
theorem read_statement (named : destination ≠ "") (unquoted : Unquoted destination.toList)
    (names : record.Names IsName) {text : List Char}
    (h : record.statement? destination = some text) :
    ImportStatement.read text = .ok ⟨text, destination, record.typeOnly, record.readBack⟩ := by
  have whole := (solid_statement h).trim
  obtain ⟨filled, rfl⟩ := statement?_eq_some_iff.1 h
  rw [ImportStatement.read, whole, ofText?_statement named unquoted filled names]
  simp only [readClause_clause filled names, String.ofList_toList]

/-- **Records read back.** The statement for a record that is not empty, with names that the clause
reader takes for words and distinct local names, reads back as the record: its module, default
name, namespace and type mark, and its entries in their order. Where the whole statement is for
types, the entries do not count as entries for types. -/
theorem statement?_reads_back (named : destination ≠ "") (unquoted : Unquoted destination.toList)
    (filled : record.isEmpty = false) (names : record.Names IsName)
    (distinct : (record.named.map Binding.localName).Nodup) :
    ∃ text statement, record.statement? destination = some text ∧
      ImportStatement.read text = .ok statement ∧ statement.specifier = destination ∧
      statement.bindings.defaultName = record.defaultName ∧
      statement.bindings.namespaceName = record.namespaceName ∧
      statement.typeOnly = record.typeOnly ∧
      (record.typeOnly = true →
        statement.bindings.named = record.named.map Binding.entry ∧
          statement.bindings.types = []) ∧
      (record.typeOnly = false →
        statement.bindings.named =
            (record.named.filter fun binding => !binding.isType).map Binding.entry ∧
          statement.bindings.types =
            (record.named.filter fun binding => binding.isType).map Binding.entry) := by
  have shape : record.statement? destination = some _ := statement?_eq_some_iff.2 ⟨filled, rfl⟩
  have keys (keeps : Binding → Bool) :
      (((record.named.filter keeps).map Binding.entry).map Prod.fst).Nodup := by
    rw [List.map_map]
    exact distinct.sublist (List.filter_sublist.map Binding.localName)
  refine ⟨_, _, shape, read_statement named unquoted names shape, rfl, ?_, ?_, rfl, ?_, ?_⟩
  · rw [readBack_eq]
  · rw [readBack_eq]
  · intro typeOnly
    rw [readBack_eq, Entries.ofSettings_of_nodup (keys _), Entries.ofSettings_of_nodup (keys _)]
    simp [typeOnly]
  · intro typeOnly
    rw [readBack_eq, Entries.ofSettings_of_nodup (keys _), Entries.ofSettings_of_nodup (keys _)]
    simp [typeOnly]

/-- A record of names that could be taken for keywords. -/
def sampleRecord : Record where
  named := [⟨"as", "as", true⟩, ⟨"type", "from", false⟩]
  defaultName := some "type"
  namespaceName := some "as"
  typeOnly := false

theorem names_sample : sampleRecord.Names IsName where
  named := by
    have from_ : IsName "from" := ⟨'f', ['r', 'o', 'm'], rfl, by decide, List.all_eq_true.1 (by decide)⟩
    intro binding mem
    simp only [sampleRecord, List.mem_cons, List.not_mem_nil, or_false] at mem
    rcases mem with rfl | rfl
    · exact ⟨isName_as, isName_as⟩
    · exact ⟨isName_type, from_⟩
  default := by
    rintro _ ⟨⟩
    exact isName_type
  wholeModule := by
    rintro _ ⟨⟩
    exact isName_as

theorem statement?_reads_back_sample :
    Unquoted "from".toList ∧ sampleRecord.isEmpty = false ∧
      (sampleRecord.named.map Binding.localName).Nodup ∧
      ∃ text statement, sampleRecord.statement? "from" = some text ∧
        ImportStatement.read text = .ok statement ∧
        statement.bindings.named = [("from", "type")] ∧
        statement.bindings.types = [("as", "as")] := by
  have unquoted : Unquoted "from".toList := by decide
  have filled : sampleRecord.isEmpty = false := by decide
  have distinct : (sampleRecord.named.map Binding.localName).Nodup := by decide
  obtain ⟨text, statement, shape, read, _, _, _, _, _, entries⟩ :=
    statement?_reads_back (show "from" ≠ "" by decide) unquoted filled names_sample distinct
  obtain ⟨named, types⟩ := entries rfl
  exact ⟨unquoted, filled, distinct, text, statement, shape, read, named, types⟩

end Record

end VirtualImports
