import VirtualImports.Proofs.Rewrite.OneModule
import VirtualImports.Proofs.Routing.CatchAll

/-!
Statements routed to one module, and from there to another.

* `statement?_readBack`: a statement that is read back from a rendered one is written, for whatever
  module, like the one that was rendered;
* `cut?_rendered`: in the place of a statement a rendered one is found again, on the same line;
* `rewriteModule_rerouted`: to rewrite a text for one module, and what comes of it for the next, is
  to rewrite it once.
-/
namespace VirtualImports

open Text Statement Engine ModuleRewrite

/-! ## Statements read back -/

namespace Record

/-- Where the statement as a whole is for types, the marks of its entries are not written. -/
theorem statement?_unmarked {record : Record} (typeOnly : record.typeOnly = true)
    (destination : String) :
    Record.statement? destination
        { record with named := record.named.map fun binding => { binding with isType := false } } =
      record.statement? destination := by
  have render (binding : Binding) :
      Binding.render false { binding with isType := false } = Binding.render false binding := rfl
  simp only [statement?, isEmpty, parts, renderList, List.isEmpty_map, List.map_map, typeOnly,
    Bool.not_true, Function.comp_def, render]

end Record

namespace ImportStatement

/-- No local name stands for an export and for a type. -/
def Apart (statement : ImportStatement) : Prop :=
  ∀ name ∈ statement.bindings.named.keys, name ∉ statement.bindings.types.keys

/-- What is read back from the statement of a record is written, for whatever module, like the
record. -/
theorem statement?_readBack {statement : ImportStatement} (names : statement.bindings.WellNamed)
    (apart : statement.Apart) (text : List Char) (specifier destination : String) :
    (record ⟨text, specifier, statement.typeOnly, statement.record.readBack⟩).statement?
        destination = statement.record.statement? destination := by
  have distinct : (statement.bindings.named ++ statement.bindings.types).keys.Nodup := by
    rw [Entries.keys, List.map_append, List.nodup_append]
    refine ⟨names.namedDistinct, names.typesDistinct, ?_⟩
    rintro name hn _ ht rfl
    exact apart name hn ht
  rw [readBack_record]
  cases typeOnly : statement.typeOnly with
  | false =>
    simp only [Bool.false_eq_true, if_false, List.append_nil,
      Entries.ofSettings_of_nodup names.namedDistinct,
      Entries.ofSettings_of_nodup names.typesDistinct, record, typeOnly]
  | true =>
    have marked : statement.record.typeOnly = true := typeOnly
    rw [← Record.statement?_unmarked marked]
    have none_typed : Entries.ofSettings ([] : Entries String) = [] := rfl
    simp [Entries.ofSettings_of_nodup distinct, none_typed, record, typeOnly, Function.comp_def]

/-- A statement that can be read is written for a module as one line. -/
theorem exists_statement_of_read {text : List Char} {statement : ImportStatement}
    (readable : read text = .ok statement) (destination : String) :
    ∃ line, statement.record.statement? destination = some line ∧
      ((Routing.module destination).routed statement).statements = [line] := by
  have filled : statement.record.isEmpty = false := by
    rw [isEmpty_record (wellNamed_of_read readable)]
    exact isEmpty_of_read readable
  refine ⟨_, Record.statement?_eq_some_iff.2 ⟨filled, rfl⟩, ?_⟩
  rw [Routing.routed_of_apply rfl, toModule_eq]
  simp only [Routed.statements, List.filterMap_cons, List.filterMap_nil,
    Record.statement?_eq_some_iff.2 ⟨filled, rfl⟩]

end ImportStatement

theorem IsName.clause {name : String} (h : IsName name) :
    ∀ c ∈ name.toList, isClauseChar c = true := fun c hc =>
  Clause.isClauseChar_of_isTokenChar (by simp [Clause.isTokenChar, h.continues c hc])

/-! ## Statements found again -/

/-- In the place of a statement, the statement for a record is found on the same line. -/
theorem Record.cut?_rendered {record : Record} (names : record.Names IsName) {destination : String}
    {text : List Char} (rendered : record.statement? destination = some text)
    {specifier frame mark rest : List Char} {quote : Char} {cut : Cut}
    (fits : cut.Fits specifier frame mark quote) (atEnd : AtLineEnd rest) :
    cut? destination.toList (cut.indent ++ text ++ (cut.trailing ++ rest)) =
      some { cut with statement := text, rest := rest } := by
  obtain ⟨filled, shape⟩ := statement?_eq_some_iff.1 rendered
  obtain ⟨blanks, shown, blank, ending, trailing⟩ := fits.tail.trailing_eq
  have solid := solid_clause filled names
  have framed : framesClause (record.lead ++ fromWord ++ [' ']) = true := by
    refine framesClause_iff.2 ⟨record.lead, [' '], rfl, by simp, by decide, ?_, ?_, ?_⟩
    · have length := List.length_pos_iff.2 solid.ne_nil
      simp only [lead, List.length_cons, List.length_append, List.length_nil]
      omega
    · exact ⟨' ', rfl, by decide⟩
    · have last : record.lead =
          (' ' :: ((if record.typeOnly then "type ".toList else []) ++ record.clause)) ++ [' '] := rfl
      exact ⟨' ', by rw [last, List.getLast?_concat, Option.mem_def], by decide⟩
  have clause : ∀ c ∈ record.lead ++ fromWord ++ [' '], isClauseChar c = true := by
    rw [List.forall_mem_append, List.forall_mem_append]
    exact ⟨⟨forall_mem_lead (by decide) (names.imp fun _ name => name.clause), by decide⟩, by decide⟩
  have tail : LineTail ([] ++ [';']) cut.trailing cut.newline := by
    rw [trailing]
    exact .marked (by simp) blank ending
  have found : Cut.Fits destination.toList (record.lead ++ fromWord ++ [' ']) [';'] '\''
      { cut with statement := text, rest := rest } :=
    ⟨fits.indent, clause, framed, by decide, tail, atEnd, by simp [shape, sourceText]⟩
  have whole := cut?_of_fits found
  rwa [Cut.text, List.append_assoc (cut.indent ++ text)] at whole

/-! ## Rewrites -/

/-- For a single module the statement of an occurrence is rendered as one line. -/
theorem rendering?_module {occurrence : Occurrence} {statement : ImportStatement}
    (readable : ImportStatement.read occurrence.statement = .ok statement)
    (specifier destination : String) :
    ∃ line, statement.record.statement? destination = some line ∧
      rendering? (specifier, .module destination) occurrence = some (occurrence.indent ++ line) := by
  obtain ⟨line, rendered, single⟩ := ImportStatement.exists_statement_of_read readable destination
  refine ⟨line, rendered, ?_⟩
  rw [rendering?_eq, readable]
  simp [Except.toOption, single]

/-- A statement routed to one module is found there, and becomes what it would have become if it had
been routed to the next. -/
theorem becomes_rendered {middle : String} (named : middle ≠ "") (plain : Plain middle.toList)
    {specifier destination : String} {frame mark : List Char} {quote : Char} {cut : Cut}
    (fits : cut.Fits specifier.toList frame mark quote) {position : Nat}
    {statement : ImportStatement}
    (readable : ImportStatement.read (cut.occurrence position).statement = .ok statement)
    (apart : statement.Apart) {text : List Char}
    (given : rendering? (specifier, .module middle) (cut.occurrence position) = some text) :
    ∃ final, rendering? (specifier, .module destination) (cut.occurrence position) = some final ∧
      Becomes rendering? (middle, .module destination) cut.trailing text final := by
  have names := ImportStatement.wellNamed_of_read readable
  obtain ⟨line, rendered, same⟩ := rendering?_module readable specifier middle
  obtain ⟨last, renderedLast, final⟩ := rendering?_module readable specifier destination
  rw [same, Option.some.injEq] at given
  subst given
  refine ⟨_, final, ?_⟩
  intro rest start atEnd
  have found := Record.cut?_rendered (ImportStatement.names_record names) rendered fits atEnd
  have head : headCut? [(middle, Routing.module destination)]
      (cut.indent ++ line ++ (cut.trailing ++ rest)) =
        some ((middle, .module destination), { cut with statement := line, rest := rest }) :=
    headCut?_of_cut? found
  -- the line is read back, and written as the statement would have been
  have trimmed : trim line = line := (Record.solid_statement rendered).trim
  have again : ImportStatement.read
      (Cut.occurrence { cut with statement := line, rest := rest } start).statement =
        .ok ⟨line, middle, statement.typeOnly, statement.record.readBack⟩ :=
    (congrArg ImportStatement.read trimmed).trans
      (Record.read_statement named plain.unquoted (ImportStatement.names_record names) rendered)
  obtain ⟨line', renderedAgain, replaced⟩ := rendering?_module again middle destination
  have written := ImportStatement.statement?_readBack names apart line middle destination
  rw [renderedAgain, renderedLast, Option.some.injEq] at written
  subst written
  refine ⟨start + (cut.indent ++ line ++ cut.trailing).length, ?_⟩
  simp only [Cut.occurrence] at replaced ⊢
  rw [pieces_of_cut head, revise, Cut.occurrence, replaced, Option.getD_some, List.append_assoc]

/-- Where no statement of a module can be read, the text stays as it is. -/
theorem rewriteModule_eq_self {routing : Routing} (applies : routing.Applies) {code : List Char}
    {specifier : String}
    (unreadable : ∀ occurrence ∈ find specifier code, isUnreadable occurrence = true) :
    (rewriteModule code specifier routing).result = .ok code := by
  have kept : revise rendering? (pieces [(specifier, routing)] 0 true code) =
      revise (fun _ _ => none) (pieces [(specifier, routing)] 0 true code) := by
    apply revise_congr
    rw [placed_pieces_singleton]
    intro x mem
    obtain ⟨occurrence, found, rfl⟩ := List.mem_map.1 mem
    have none_given := isNone_rendering? (specifier, routing) occurrence
    rw [unreadable occurrence found, Option.isNone_iff_eq_none] at none_given
    exact none_given
  rw [rewriteModule_eq_ok applies, kept, revise_none]

/-- A specifier that holds a quote has no statement that can be read. -/
theorem isUnreadable_of_quoted {specifier : String} (quoted : ¬ Unquoted specifier.toList)
    (code : List Char) : ∀ occurrence ∈ find specifier code, isUnreadable occurrence = true := by
  intro occurrence found
  obtain ⟨_, _, cut, located⟩ := exists_located found
  unfold isUnreadable
  cases readable : ImportStatement.read occurrence.statement with
  | error cause => rfl
  | ok statement =>
    rw [located.eq] at readable
    exact absurd (ImportStatement.unquoted_of_read located.found readable) quoted

theorem revise_rerouted {middle : String} (named : middle ≠ "") (plain : Plain middle.toList)
    {specifier : String} (other : middle ≠ specifier) (unquoted : Unquoted specifier.toList)
    {code : List Char} (absent : find middle code = [])
    (apart : ∀ occurrence ∈ find specifier code, ∀ statement,
      ImportStatement.read occurrence.statement = .ok statement → statement.Apart)
    (destination : String) :
    revise rendering? (pieces [(middle, .module destination)] 0 true
        (revise rendering? (pieces [(specifier, .module middle)] 0 true code))) =
      revise rendering? (pieces [(specifier, .module destination)] 0 true code) := by
  have swept : pieces [(specifier, Routing.module middle), (middle, .module destination)] 0 true
      code = pieces [(specifier, .module middle)] 0 true code :=
    pieces_of_passes (passes_of_findFrom_eq_nil absent)
  have met {module : String × Routing} {occurrence : Occurrence}
      (h : (module, occurrence) ∈ placed (pieces [(specifier, Routing.module middle),
        (middle, .module destination)] 0 true code)) :
      (specifier, Routing.module middle) = module ∧ occurrence ∈ find specifier code := by
    rw [swept, placed_pieces_singleton] at h
    obtain ⟨_, found, same⟩ := List.mem_map.1 h
    cases same
    exact ⟨rfl, found⟩
  rw [revise_relabel (specifier, .module destination) (.module middle), ← swept]
  refine revise_revise_of_becomes ?_ placeless_rendering? (by simp) plain ?_ ?_ 0
  · intro module mem
    rcases List.mem_pair.1 mem with rfl | rfl
    · exact unquoted
    · exact plain.unquoted
  · rintro ⟨module, occurrence⟩ mem kept
    obtain ⟨rfl, _⟩ := met mem
    rw [rendering?_eq, Option.map_eq_none_iff] at kept
    rw [if_neg (fun same => other same.symm), rendering?_eq, kept]
    rfl
  · intro module cut place mem cutHere text given
    obtain ⟨rfl, found⟩ := met mem
    obtain ⟨_, frame, mark, quote, fits⟩ := cut?_eq_some_iff.1 cutHere
    obtain ⟨r, replaced, _⟩ := Option.map_eq_some_iff.1 given
    obtain ⟨⟨statement, readable, _⟩, _⟩ := exists_statement_of_replacement? replaced
    exact becomes_rendered named plain fits readable (apart _ found statement readable) given

/-- **Routes compose.** Let a text hold no statement of a module, whose name is neither empty nor
holds quotes and line breaks. Rewrite the text for another module, of whose readable statements none
binds a local name both for an export and for a type, to that module, and what comes of it on to a
third. That is to rewrite the text to the third at once. -/
theorem rewriteModule_rerouted {middle : String} (named : middle ≠ "")
    (plain : Plain middle.toList) {specifier : String} (other : middle ≠ specifier)
    {code : List Char} (absent : find middle code = [])
    (apart : ∀ occurrence ∈ find specifier code, ∀ statement,
      ImportStatement.read occurrence.statement = .ok statement → statement.Apart)
    (destination : String) :
    ∃ once twice, (rewriteModule code specifier (.module middle)).result = .ok once ∧
      (rewriteModule once middle (.module destination)).result = .ok twice ∧
      (rewriteModule code specifier (.module destination)).result = .ok twice := by
  have applies := Routing.applies_module
  by_cases unquoted : Unquoted specifier.toList
  · refine ⟨_, _, rewriteModule_eq_ok (applies middle) code specifier, ?_,
      rewriteModule_eq_ok (applies destination) code specifier⟩
    rw [rewriteModule_eq_ok (applies destination),
      revise_rerouted named plain other unquoted absent apart]
  · have unreadable := isUnreadable_of_quoted unquoted code
    have none_found : ∀ occurrence ∈ find middle code, isUnreadable occurrence = true := by
      rw [absent]
      simp
    exact ⟨code, code, rewriteModule_eq_self (applies middle) unreadable,
      rewriteModule_eq_self (applies destination) none_found,
      rewriteModule_eq_self (applies destination) unreadable⟩

/-- The statement is for types as a whole, so that the mark of its second entry is lost on the
way. -/
def reroutedText : List Char :=
  "  import type \x7b A, type B as C \x7d from 'virtual:ui'\nrun()".toList

theorem find_reroutedText : find "virtual:ui" reroutedText =
    [⟨"  import type \x7b A, type B as C \x7d from 'virtual:ui'".toList,
      "import type \x7b A, type B as C \x7d from 'virtual:ui'".toList, 0, 50, [' ', ' '], ['\n']⟩] := by
  decide +kernel

theorem rewriteModule_rerouted_sample :
    find "via" reroutedText = [] ∧
      ∃ once twice, (rewriteModule reroutedText "virtual:ui" (.module "via")).result = .ok once ∧
        (rewriteModule once "via" (.module "it's")).result = .ok twice ∧
        (rewriteModule reroutedText "virtual:ui" (.module "it's")).result = .ok twice := by
  have absent : find "via" reroutedText = [] := by decide +kernel
  have apart : ∀ occurrence ∈ find "virtual:ui" reroutedText, ∀ statement,
      ImportStatement.read occurrence.statement = .ok statement → statement.Apart := by
    rw [find_reroutedText, List.forall_mem_singleton]
    intro statement readable
    have bound : ImportStatement.read
        "import type \x7b A, type B as C \x7d from 'virtual:ui'".toList =
          .ok ⟨"import type \x7b A, type B as C \x7d from 'virtual:ui'".toList, "virtual:ui", true,
            ⟨[("A", "A")], [("C", "B")], none, none⟩⟩ := by
      decide +kernel
    rw [bound] at readable
    cases readable
    unfold ImportStatement.Apart
    decide
  exact ⟨absent, rewriteModule_rerouted (by decide) (by decide) (by decide) absent apart "it's"⟩

end VirtualImports
