import VirtualImports.Proofs.Rewrite.OneModule
import VirtualImports.Proofs.Routing.Preservation
import VirtualImports.Proofs.Text.LineEndings

/-!
The line endings of a rewritten text.

* `Cut.Fits.ending_of_returned`: where lines end in returns, so does the line of a statement, unless
  it is the last one and has no ending at all;
* `isReturned_intercalate`: what takes the place of a statement ends its lines like that line;
* `rewriteModule_returned`: so lines end in returns after a rewrite as well, except where the last
  line of the text has no ending and gives way to several.
-/
namespace VirtualImports

open Text Statement Engine

namespace Statement

/-- In a text whose lines end in returns, the line of a statement ends in one, or it is the last
line and has no ending. Then the ending is taken to be a line feed. -/
theorem Cut.Fits.ending_of_returned {specifier frame mark : List Char} {quote : Char} {cut : Cut}
    (fits : cut.Fits specifier frame mark quote) {returned : Bool}
    (h : isReturned returned cut.text = true) :
    (cut.newline = ['\r', '\n'] ∧ cut.trailing.getLast? = some '\r') ∨
      (cut.newline = ['\n'] ∧ cut.rest = [] ∧ ∀ c ∈ cut.trailing, isSpaceOrTab c = true) := by
  obtain ⟨blanks, shown, hb, ending, trailing⟩ := fits.tail.trailing_eq
  rcases ending with ⟨rfl, newline⟩ | ⟨rfl, newline⟩
  · rw [List.append_nil] at trailing
    refine .inr ⟨newline, ?_, trailing ▸ hb⟩
    rcases fits.atEnd with empty | ⟨rest, below⟩
    · exact empty
    · -- the line feed would follow the quote, a semicolon or a blank
      exfalso
      have noReturn : ∀ c ∈ quote :: (mark ++ blanks), c ≠ '\r' := by
        rw [List.forall_mem_cons, List.forall_mem_append]
        refine ⟨?_, fits.tail.mark_ne_return, ?_⟩
        · rintro rfl
          exact absurd fits.quoted (by decide)
        · rintro c hc rfl
          exact absurd (hb _ hc) (by decide)
      have split : cut.text = (cut.indent ++ (importWord ++ (frame ++ (quote :: specifier)))) ++
          (quote :: (mark ++ blanks)) ++ '\n' :: rest := by
        rw [fits.text_eq, trailing, below]
        simp
      have last := isReturned_eq_true_iff.1 h _ rest split
      rw [returnAfter_append, returnAfter_of_forall_ne noReturn (by simp)] at last
      cases last
  · refine .inl ⟨newline, ?_⟩
    rw [trailing, List.getLast?_concat]

theorem isReturned_intercalate {lines : List (List Char)}
    (flat : ∀ line ∈ lines, ∀ c ∈ line, c ≠ '\n') (returned : Bool) :
    isReturned returned (['\r', '\n'].intercalate lines) = true := by
  induction lines generalizing returned with
  | nil => rfl
  | cons line lines ih =>
    have first := isReturned_flat (flat line (by simp))
    cases lines with
    | nil =>
      rw [List.intercalate_singleton]
      exact first returned
    | cons second lines =>
      have later := ih fun other mem => flat other (by simp [mem])
      rw [List.intercalate_cons_cons, isReturned_append, isReturned_append, first, later]
      simp [isReturned]

theorem isReturned_intercalate_feed {lines : List (List Char)}
    (closed : ∀ line ∈ lines, (∀ c ∈ line, c ≠ '\n') ∧ line.getLast? = some ';')
    (returned : Bool) :
    isReturned returned (['\n'].intercalate lines) = true ↔ lines.length ≤ 1 := by
  cases lines with
  | nil => simp [isReturned]
  | cons line lines =>
    obtain ⟨flat, last⟩ := closed line (by simp)
    cases lines with
    | nil =>
      rw [List.intercalate_singleton]
      simpa using isReturned_flat flat returned
    | cons second lines =>
      have unreturned : returnAfter returned line = false := returnAfter_of_getLast? last returned
      rw [List.intercalate_cons_cons, isReturned_append, isReturned_append, unreturned]
      simp [isReturned]

end Statement

/-! ## Rewrites -/

/-- If the occurrence ends the text, blanks aside, no more than one statement takes its place. -/
def SingleAtEnd (routing : Routing) (code : List Char) (occurrence : Occurrence) : Prop :=
  (∀ c ∈ code.drop occurrence.stop, isSpaceOrTab c = true) →
    ∀ statement, ImportStatement.read occurrence.statement = .ok statement →
      (routing.routed statement).statements.length ≤ 1

section
variable {routing : Routing} (valid : routing.Valid) (flat : routing.FlatNames)
  {specifier : String} {code : List Char} {returned : Bool}
include valid flat

theorem isReturned_rendering {frame mark : List Char} {quote : Char} {cut : Cut} {position : Nat}
    (fits : cut.Fits specifier.toList frame mark quote)
    (behind : code.drop position = cut.text) (h : isReturned returned cut.text = true) :
    isReturned returned ((rendering? (specifier, routing) (cut.occurrence position)).getD
        (cut.indent ++ cut.statement)) = true ↔
      SingleAtEnd routing code (cut.occurrence position) := by
  have rest : code.drop (cut.occurrence position).stop = cut.trailing ++ cut.rest := by
    rw [Cut.occurrence, ← List.drop_drop, behind, Cut.text, List.append_assoc, List.drop_left]
  unfold SingleAtEnd
  rw [rest, rendering?_eq]
  cases readable : ImportStatement.read (cut.occurrence position).statement with
  | error cause =>
    -- the statement stays as it is
    have stays : isReturned returned (cut.indent ++ cut.statement) = true := by
      rw [Cut.text, List.append_assoc, isReturned_append, Bool.and_eq_true] at h
      exact h.1
    simpa [Except.toOption] using stays
  | ok statement =>
    have names := ImportStatement.wellNamed_of_read readable
    have indent : ∀ c ∈ cut.indent, c ≠ '\n' :=
      fun c hc => ne_newline_of_isSpaceOrTab (fits.indent c hc)
    have closed : ∀ line ∈ (routing.routed statement).statements.map (cut.indent ++ ·),
        (∀ c ∈ line, c ≠ '\n') ∧ line.getLast? = some ';' := by
      intro line mem
      obtain ⟨text, ht, rfl⟩ := List.mem_map.1 mem
      obtain ⟨line, front, rfl⟩ := flat.line_of_mem_statements valid names ht
      rw [List.forall_mem_append]
      exact ⟨⟨indent, line⟩, by simp [List.getLast?_append]⟩
    simp only [Except.toOption, Option.map_some, Option.getD_some, Except.ok.injEq, forall_eq',
      Cut.occurrence]
    rcases fits.ending_of_returned h with ⟨newline, last⟩ | ⟨newline, empty, blank⟩
    · have notBlank : ¬ ∀ c ∈ cut.trailing ++ cut.rest, isSpaceOrTab c = true := by
        intro blank
        have mem := List.mem_of_getLast? last
        exact absurd (blank '\r' (List.mem_append_left _ mem)) (by decide)
      rw [newline]
      exact iff_of_true (isReturned_intercalate (fun line mem => (closed line mem).1) returned)
        fun blank => absurd blank notBlank
    · rw [newline, empty, List.append_nil, isReturned_intercalate_feed closed, List.length_map]
      exact ⟨fun single _ => single, fun single => single blank⟩

/-- A sweep leaves the lines of a text with returns if what ends the text is no more than one
statement. -/
theorem isReturned_revise (specifier : String) {position : Nat} {s : List Char}
    (behind : code.drop position = s) (h : isReturned returned s = true) (lineStart : Bool) :
    isReturned returned
        (revise rendering? (pieces [(specifier, routing)] position lineStart s)) = true ↔
      ∀ x ∈ placed (pieces [(specifier, routing)] position lineStart s),
        SingleAtEnd routing code x.2 := by
  fun_induction pieces [(specifier, routing)] position lineStart s generalizing returned with
  | case1 position lineStart s module cut found ih =>
    split at found
    · obtain ⟨inside, cutHere⟩ := headCut?_eq_some found
      obtain rfl := List.mem_singleton.1 inside
      have text := text_of_cut? cutHere
      obtain ⟨_, frame, mark, quote, fits⟩ := cut?_eq_some_iff.1 cutHere
      rw [← text] at behind h
      have rest : code.drop (position + (cut.indent ++ cut.statement ++ cut.trailing).length) =
          cut.rest := by
        rw [← List.drop_drop, behind, Cut.text, List.drop_left]
      -- whatever stands in front, the end of the line is what it was
      have keeps (front : List Char) :
          isReturned (returnAfter returned (front ++ cut.trailing)) cut.rest = true := by
        rcases fits.ending_of_returned h with ⟨_, last⟩ | ⟨_, empty, _⟩
        · have ends (a : List Char) : returnAfter returned (a ++ cut.trailing) = true := by
            rw [returnAfter_append, returnAfter_of_getLast? last]
            rfl
          rw [Cut.text, isReturned_append, Bool.and_eq_true, ends] at h
          rw [ends]
          exact h.2
        · rw [empty]
          rfl
      have line (state : Bool) : isReturned state cut.trailing = true :=
        isReturned_flat (fun c hc => fits.tail.plain.flat c (by simp [hc])) state
      rw [revise, placed, List.forall_mem_cons, isReturned_append, isReturned_append, line,
        Bool.and_true, Bool.and_eq_true]
      exact and_congr (isReturned_rendering valid flat fits behind h) (ih rest (keeps _))
    · cases found
  | case2 => simp [revise, placed, isReturned]
  | case3 position lineStart c rest found ih =>
    have next : code.drop (position + 1) = rest := by
      rw [← List.drop_drop, behind]
      rfl
    rw [isReturned, Bool.and_eq_true] at h
    rw [revise, placed, isReturned, h.1, Bool.true_and]
    exact ih next h.2

end

/-- **Line endings after a rewrite.** Take a text whose lines end in a carriage return and a line
feed, and a routing of a checked configuration that brings in no line breaks. The rewrite succeeds,
and the lines of the new text end like those of the old one exactly where no readable statement on
a last line without an ending gives way to several: these are put on lines that end in a line feed
alone. -/
theorem rewriteModule_returned {raw : Value} {module : VirtualModule}
    (checked : VirtualModule.check raw = .ok module) {target : String} {routing : Routing}
    (chosen : module.targets.get? target = some routing) (flat : routing.FlatNames)
    {code : List Char} (returned : Returned code) (specifier : String) :
    ∃ rewritten, (rewriteModule code specifier routing).result = .ok rewritten ∧
      (Returned rewritten ↔
        ∀ occurrence ∈ find specifier code, SingleAtEnd routing code occurrence) := by
  have valid : routing.Valid := VirtualModule.valid_of_check checked _ (Entries.mem_of_get? chosen)
  refine ⟨_, rewriteModule_eq_ok valid.applies code specifier, ?_⟩
  have swept := isReturned_revise valid flat specifier (show code.drop 0 = code from rfl)
    (isReturned_iff.2 returned) true
  rw [← isReturned_iff, swept, placed_pieces_singleton, List.forall_mem_map]
  rfl

theorem flatNames_renamingSymbols : (Routing.symbols Routing.renamingSymbols).FlatNames where
  destinations := by
    rw [Routing.sources_renamingSymbols]
    decide
  symbols := by
    rw [Routing.sources_renamingSymbols]
    decide

/-- A statement that gives way to two, with its line ending. -/
def returnedText : List Char :=
  "import \x7b A, B \x7d from 'virtual:ui'\r\n".toList

theorem find_returnedText : find "virtual:ui" returnedText =
    [⟨"import \x7b A, B \x7d from 'virtual:ui'".toList,
      "import \x7b A, B \x7d from 'virtual:ui'".toList, 0, 33, [], ['\r', '\n']⟩] := by
  decide +kernel

theorem rewriteModule_returned_sample :
    Returned returnedText ∧
      ∃ rewritten, (rewriteModule returnedText "virtual:ui"
          (.symbols Routing.renamingSymbols)).result = .ok rewritten ∧ Returned rewritten := by
  have returned : Returned returnedText := by decide
  obtain ⟨rewritten, run, iff⟩ := rewriteModule_returned Routing.check_renamingTable
    (show Entries.get? "react" [("react", Routing.symbols Routing.renamingSymbols)] = some _ from rfl)
    flatNames_renamingSymbols returned "virtual:ui"
  refine ⟨returned, rewritten, run, iff.2 ?_⟩
  rw [find_returnedText, List.forall_mem_singleton]
  intro blank
  exact absurd (blank '\r' (by decide)) (by decide)

/-- The last line has no ending, and gives way to two that are put apart by a line feed. -/
theorem rewriteModule_unreturned :
    VirtualModule.check Routing.renamingTable =
        .ok ⟨none, [("react", .symbols Routing.renamingSymbols)]⟩ ∧
      (Routing.symbols Routing.renamingSymbols).FlatNames ∧
      Returned "run()\r\nimport \x7b A, B \x7d from 'virtual:ui'".toList ∧
      (rewriteModule "run()\r\nimport \x7b A, B \x7d from 'virtual:ui'".toList "virtual:ui"
        (.symbols Routing.renamingSymbols)).result.toOption =
          some "run()\r\nimport \x7b Alert as A \x7d from 'ui';\nimport \x7b B \x7d from 'rest';".toList ∧
      ¬ Returned "run()\r\nimport \x7b Alert as A \x7d from 'ui';\nimport \x7b B \x7d from 'rest';".toList := by
  refine ⟨Routing.check_renamingTable, flatNames_renamingSymbols, by decide, ?_, by decide⟩
  decide +kernel

end VirtualImports
