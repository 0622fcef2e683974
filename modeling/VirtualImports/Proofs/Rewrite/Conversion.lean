import VirtualImports.Proofs.Rewrite.LineEndings
import VirtualImports.Proofs.Statement.LocatedReturns

/-!
The rewrite of a text with returns put in.

* `rendering?_withReturns`: what takes the place of a statement is the same with returns, unless the
  statement binds a default name `type` with a single line feed behind it;
* `revise_pieces_blank`: where returns make a statement of text that was none, it stays as it is and
  hides no other;
* `revise_withReturns`: so a sweep over the text with returns makes the same revision with returns, in
  which the statements with such a default name stay;
* `rewriteModule_withReturns`: returns can be put in before the rewrite or after it, just if there is
  no such statement.
-/
namespace VirtualImports

open Text Statement Engine

namespace Engine

/-- What takes the place of a statement in the text as well as in the text with returns. -/
def steadyRendering? (module : String × Routing) (occurrence : Occurrence) : Option (List Char) :=
  if LoneType occurrence.statement then none else rendering? module occurrence

section
variable {routing : Routing} (valid : routing.Valid) (flatNames : routing.FlatNames)
  {specifier : String} (flat : ∀ c ∈ specifier.toList, c ≠ '\n')
include valid flatNames flat

/-- What takes the place of a statement in the text with returns. -/
theorem rendering?_withReturns {frame mark : List Char} {quote : Char} {cut : Cut}
    (fits : cut.Fits specifier.toList frame mark quote) (noReturn : ∀ c ∈ cut.text, c ≠ '\r')
    (ended : lineStartAfter true cut.text = true) (start position : Nat) :
    rendering? (specifier, routing) (cut.withReturns.occurrence start) =
      (steadyRendering? (specifier, routing) (cut.occurrence position)).map withReturns := by
  have returned := fits.toOption_read_withReturns flat noReturn ended
  rw [rendering?_eq]
  by_cases lone : LoneType (trim cut.statement)
  · have stays : steadyRendering? (specifier, routing) (cut.occurrence position) = none := if_pos lone
    rw [if_pos lone] at returned
    rw [stays]
    exact congrArg _ returned
  have given : steadyRendering? (specifier, routing) (cut.occurrence position) =
      rendering? (specifier, routing) (cut.occurrence position) := if_neg lone
  rw [if_neg lone] at returned
  rw [given, rendering?_eq]
  simp only [Cut.occurrence] at returned ⊢
  rw [returned]
  cases readable : ImportStatement.read (trim cut.statement) with
  | error cause => rfl
  | ok statement =>
    have names := ImportStatement.wellNamed_of_read readable
    have same : routing.routed { statement with original := trim cut.withReturns.statement } =
        routing.routed statement := rfl
    have lines : ((routing.routed statement).statements.map (cut.indent ++ ·)).map withReturns =
        (routing.routed statement).statements.map (cut.indent ++ ·) := by
      rw [List.map_map]
      refine List.map_congr_left fun text mem => ?_
      have line := (flatNames.line_of_mem_statements valid names mem).1
      rw [Function.comp_apply, withReturns_append, fits.withReturns_indent, withReturns_flat line]
    simp only [Except.toOption, Option.map_some, same, (fits.ending_eq noReturn).1,
      withReturns_intercalate, lines]
    rfl

end

/-- Where a statement has nothing but blanks in front of its `from` and stays as it is, a sweep goes on
as if it were none. -/
theorem revise_pieces_blank {α : Type} {key : String × α}
    {new? : String × α → Occurrence → Option (List Char)} (flat : ∀ c ∈ key.1.toList, c ≠ '\n')
    {frame mark front blanks : List Char} {quote : Char} {cut : Cut}
    (fits : cut.Fits key.1.toList frame mark quote) (framed : Framed front blanks frame)
    (blank : ∀ c ∈ front, isBlank c = true) {c : Char} {rest : List Char} (text : cut.text = c :: rest)
    {position : Nat} (stays : new? key (cut.occurrence position) = none) :
    revise new? (pieces [key] position true (c :: rest)) =
      c :: revise new? (pieces [key] (position + 1) (c == '\n') rest) := by
  have head : headCut? [key] (c :: rest) = some (key, cut) :=
    headCut?_of_cut? (text ▸ cut?_of_fits fits)
  obtain ⟨line, whole⟩ : ∃ line, cut.indent ++ cut.statement ++ cut.trailing = c :: line := by
    rw [Cut.text] at text
    rcases List.append_eq_cons_iff.1 text with ⟨empty, _⟩ | ⟨line, whole, _⟩
    · simp [fits.statement] at empty
    · exact ⟨line, whole⟩
  have below : rest = line ++ cut.rest := by
    rw [Cut.text, whole] at text
    exact (List.cons.inj text).2.symm
  have ends : lineStartAfter (c == '\n') line = false := by
    have ends := fits.lineStartAfter_line true
    rwa [whole] at ends
  have length : position + 1 + line.length = position + (c :: line).length := by
    rw [List.length_cons]
    omega
  rw [pieces_of_cut head, revise, stays, Option.getD_none, Cut.occurrence, whole, below,
    revise_pieces_append (fits.passes_blank framed blank flat whole), ends, length]
  rfl

section
variable {routing : Routing} (valid : routing.Valid) (flatNames : routing.FlatNames)
  {specifier : String} (flat : ∀ c ∈ specifier.toList, c ≠ '\n')
include valid flatNames flat

/-- **A sweep over the text with returns.** It makes the same revision with returns, in which the
statements stay that bind a default name `type` with a single line feed behind it. -/
theorem revise_withReturns (start position : Nat) (lineStart : Bool) {s : List Char}
    (noReturn : ∀ c ∈ s, c ≠ '\r') (ended : lineStartAfter lineStart s = true) :
    revise rendering? (pieces [(specifier, routing)] start lineStart (withReturns s)) =
      withReturns (revise steadyRendering? (pieces [(specifier, routing)] position lineStart s)) := by
  fun_induction pieces [(specifier, routing)] position lineStart s generalizing start with
  | case1 position lineStart s module cut found ih =>
    split at found
    · rename_i starts
      subst starts
      obtain ⟨inside, cutHere⟩ := headCut?_eq_some found
      obtain rfl := List.mem_singleton.1 inside
      have text := text_of_cut? cutHere
      obtain ⟨_, frame, mark, quote, fits⟩ := cut?_eq_some_iff.1 cutHere
      have head : headCut? [(specifier, routing)] (withReturns s) =
          some ((specifier, routing), cut.withReturns) :=
        headCut?_of_cut? (cut?_withReturns flat noReturn ended cutHere)
      rw [← text] at noReturn ended
      obtain ⟨rest, below⟩ := fits.exists_rest ended
      have given := rendering?_withReturns valid flatNames flat fits noReturn ended start position
      have original : (cut.withReturns.occurrence start).original =
          withReturns (cut.occurrence position).original := by
        simp [Cut.occurrence, Cut.withReturns, fits.withReturns_indent]
      have later := ih (start + (cut.indent ++ withReturns cut.statement ++ cut.trailing).length)
        (fun c hc => noReturn c (by simp [Cut.text, hc])) (by
          rwa [Cut.text, lineStartAfter_append, fits.lineStartAfter_line] at ended)
      -- the return in front of the line feed belongs to the line of the statement
      rw [below, withReturns_newline, pieces_cons (by simp), revise, ← below] at later
      have length : start + (cut.withReturns.indent ++ cut.withReturns.statement ++
          cut.withReturns.trailing).length =
            start + (cut.indent ++ withReturns cut.statement ++ cut.trailing).length + 1 := by
        simp only [Cut.withReturns, List.length_append, List.length_cons, List.length_nil]
        omega
      have rest_eq : cut.withReturns.rest = '\n' :: withReturns rest := by
        rw [Cut.withReturns, below]
        rfl
      rw [pieces_of_cut head, revise, revise, given, original, Option.getD_map, withReturns_append,
        withReturns_append, fits.withReturns_trailing, ← later, length, rest_eq, Cut.withReturns]
      simp
    · cases found
  | case2 => rw [revise, withReturns_nil, pieces_nil]; rfl
  | case3 position lineStart c rest found ih =>
    have absent : lineStart = true → cut? specifier.toList (c :: rest) = none := by
      intro starts
      rwa [if_pos starts, headCut?_singleton, Option.map_eq_none_iff] at found
    have later (start : Nat) := ih start (fun d hd => noReturn d (by simp [hd])) ended
    by_cases newline : c = '\n'
    · subst newline
      have return_ : cut? specifier.toList ('\r' :: '\n' :: withReturns rest) = none := by
        simp [cut?, after?, isSpaceOrTab]
      have none_here : headCut? [(specifier, routing)] ('\r' :: '\n' :: withReturns rest) = none :=
        headCut?_of_eq_none return_
      rw [withReturns_newline, pieces_cons fun _ => none_here, revise, pieces_cons (by simp), revise,
        revise, withReturns_newline]
      exact congrArg (fun behind => '\r' :: '\n' :: behind) (later (start + 1 + 1))
    · rw [revise, withReturns_cons newline, withReturns_cons newline, ← later (start + 1)]
      cases lineStart with
      | false => rw [pieces_cons (by simp), revise]
      | true =>
        cases returned : cut? specifier.toList (c :: withReturns rest) with
        | none =>
          have none_here : headCut? [(specifier, routing)] (c :: withReturns rest) = none :=
            headCut?_of_eq_none returned
          rw [pieces_cons fun _ => none_here, revise]
        | some cut =>
          -- a statement with returns only: it cannot be read
          have text := text_of_cut? returned
          rw [← withReturns_cons newline] at returned
          obtain ⟨frame, mark, quote, front, blanks, fits, framed, blank⟩ :=
            framed_of_cut?_withReturns flat noReturn (absent rfl) returned
          have stays : rendering? (specifier, routing) (cut.occurrence start) = none := by
            rw [rendering?_eq, Option.map_eq_none_iff]
            exact fits.toOption_read_blank framed blank
          exact revise_pieces_blank flat fits framed blank text stays

end

section
variable {routing : Routing} (valid : routing.Valid) (flatNames : routing.FlatNames)
  {specifier : String}
include valid flatNames

/-- Nothing takes the place of a statement, or something whose first line holds a quote. -/
theorem rendering?_cases {occurrence : Occurrence} {text : List Char}
    (given : rendering? (specifier, routing) occurrence = some text) :
    text = [] ∨ ∃ line more, text = occurrence.indent ++ line ++ more ∧ (∀ c ∈ line, c ≠ '\n') ∧
      '\'' ∈ line := by
  rw [rendering?_eq] at given
  cases readable : ImportStatement.read occurrence.statement with
  | error cause =>
    rw [readable] at given
    cases given
  | ok statement =>
    have names := ImportStatement.wellNamed_of_read readable
    have closed : ∀ line ∈ (routing.routed statement).statements,
        (∀ c ∈ line, c ≠ '\n') ∧ ∃ front, line = importWord ++ (front ++ ['\'', ';']) :=
      fun line mem => flatNames.line_of_mem_statements valid names mem
    rw [readable] at given
    simp only [Except.toOption, Option.map_some, Option.some.injEq] at given
    subst given
    generalize (routing.routed statement).statements = lines at closed ⊢
    cases lines with
    | nil => exact .inl rfl
    | cons line lines =>
      obtain ⟨flat, front, shape⟩ := closed line (by simp)
      have quoted : '\'' ∈ line := by simp [shape]
      cases lines with
      | nil => exact .inr ⟨line, [], by simp, flat, quoted⟩
      | cons second lines =>
        refine .inr ⟨line, occurrence.newline ++ occurrence.newline.intercalate
          ((second :: lines).map (occurrence.indent ++ ·)), ?_, flat, quoted⟩
        rw [List.map_cons, List.map_cons, List.intercalate_cons_cons, List.append_assoc]

/-- What takes the place of a statement with `type` at the end of a line is something else. -/
theorem rendering?_ne_of_loneType {frame mark : List Char} {quote : Char} {cut : Cut}
    (fits : cut.Fits specifier.toList frame mark quote) (lone : LoneType (trim cut.statement))
    {position : Nat} {text : List Char}
    (given : rendering? (specifier, routing) (cut.occurrence position) = some text)
    {rest : List Char} (atEnd : AtLineEnd rest) (behind : List Char) :
    text ++ cut.trailing ++ rest ≠ cut.indent ++ cut.statement ++ behind := by
  obtain ⟨line, below, whole, plain⟩ := fits.exists_line_of_loneType lone
  have indent : ∀ c ∈ cut.indent, c ≠ '\n' :=
    fun c hc => ne_newline_of_isSpaceOrTab (fits.indent c hc)
  intro same
  rw [whole] at same
  rcases rendering?_cases valid flatNames given with rfl | ⟨first, more, rfl, flat, quoted⟩
  · -- the letters of `import` would trail the statement
    have opening : ∀ c ∈ cut.indent ++ importWord, c ≠ '\n' := by
      rw [List.forall_mem_append]
      exact ⟨indent, by decide⟩
    have split : (cut.indent ++ importWord) ++ (line ++ '\n' :: below ++ behind) =
        cut.trailing ++ rest := by simpa using same.symm
    have letter : 'i' ∈ cut.trailing := by
      rcases atEnd with rfl | ⟨rest, rfl⟩
      · rw [List.append_nil] at split
        rw [← split]
        simp [importWord]
      · exact (prefix_of_flat split opening).subset (by simp [importWord])
    rcases fits.tail.cases_of_mem (List.mem_append_right mark letter) with space | semicolon | return_
    · exact absurd space (by decide)
    · exact absurd semicolon (by decide)
    · exact absurd return_ (by decide)
  · -- the quote would stand in front of the line feed
    have split : (cut.indent ++ first) ++ (more ++ (cut.trailing ++ rest)) =
        (cut.indent ++ importWord ++ line) ++ '\n' :: (below ++ behind) := by
      simpa [Cut.occurrence] using same
    have inside := prefix_of_flat split (List.forall_mem_append.2 ⟨indent, flat⟩)
    have unquoted := plain _ (inside.subset (List.mem_append_right _ quoted))
    cases unquoted

/-- The revision that leaves the statements with `type` at the end of a line is the same just if there
is none. -/
theorem revise_steady_iff (position : Nat) (lineStart : Bool) (s : List Char) :
    revise steadyRendering? (pieces [(specifier, routing)] position lineStart s) =
        revise rendering? (pieces [(specifier, routing)] position lineStart s) ↔
      ∀ x ∈ placed (pieces [(specifier, routing)] position lineStart s), ¬ LoneType x.2.statement := by
  fun_induction pieces [(specifier, routing)] position lineStart s with
  | case1 position lineStart s module cut found ih =>
    split at found
    · obtain ⟨inside, cutHere⟩ := headCut?_eq_some found
      obtain rfl := List.mem_singleton.1 inside
      obtain ⟨_, frame, mark, quote, fits⟩ := cut?_eq_some_iff.1 cutHere
      rw [revise, revise, placed, List.forall_mem_cons]
      by_cases lone : LoneType (trim cut.statement)
      · have stays : steadyRendering? (specifier, routing) (cut.occurrence position) = none :=
          if_pos lone
        have readable := fits.isSome_of_loneType lone
        obtain ⟨text, given⟩ : ∃ text,
            rendering? (specifier, routing) (cut.occurrence position) = some text := by
          rw [← Option.isSome_iff_exists, rendering?_eq, Option.isSome_map]
          exact readable
        refine iff_of_false (fun same => ?_) fun none_lone => none_lone.1 lone
        rw [stays, given, Option.getD_none, Option.getD_some, List.append_assoc _ cut.trailing] at same
        exact rendering?_ne_of_loneType valid flatNames fits lone given
          (atLineEnd_revise.2 fits.atEnd) _ same.symm
      · have same : steadyRendering? (specifier, routing) (cut.occurrence position) =
            rendering? (specifier, routing) (cut.occurrence position) := if_neg lone
        rw [same, List.append_cancel_left_eq, ih]
        exact (and_iff_right lone).symm
    · cases found
  | case2 => simp [revise, placed]
  | case3 position lineStart c rest found ih =>
    rw [revise, revise, placed, List.cons.injEq, ih]
    exact and_iff_right rfl

end

end Engine

/-- **Returns before and after a rewrite.** Take a text that holds no carriage return and is empty or
ends in a line feed, a specifier without line feeds, and a routing of a checked configuration that
brings in none. The text can be rewritten, and so can the text with a return in front of every line
feed. The second rewrite makes the first one with returns exactly where no statement found in the text
binds a default name `type` with a single line feed between it and `from`. -/
theorem rewriteModule_withReturns {raw : Value} {module : VirtualModule}
    (checked : VirtualModule.check raw = .ok module) {target : String} {routing : Routing}
    (chosen : module.targets.get? target = some routing) (flatNames : routing.FlatNames)
    {specifier : String} (flat : ∀ c ∈ specifier.toList, c ≠ '\n') {code : List Char}
    (noReturn : ∀ c ∈ code, c ≠ '\r') (ended : code = [] ∨ code.getLast? = some '\n') :
    ∃ rewritten returned, (rewriteModule code specifier routing).result = .ok rewritten ∧
      (rewriteModule (withReturns code) specifier routing).result = .ok returned ∧
      (returned = withReturns rewritten ↔
        ∀ occurrence ∈ find specifier code, ¬ LoneType occurrence.statement) := by
  have valid : routing.Valid := VirtualModule.valid_of_check checked _ (Entries.mem_of_get? chosen)
  refine ⟨_, _, rewriteModule_eq_ok valid.applies code specifier,
    rewriteModule_eq_ok valid.applies (withReturns code) specifier, ?_⟩
  rw [revise_withReturns valid flatNames flat 0 0 true noReturn (lineStartAfter_eq_true_iff.2 ended),
    withReturns_inj, revise_steady_iff valid flatNames, placed_pieces_singleton, List.forall_mem_map]
  rfl

/-- A statement over several lines, whose first entry is called `type`. -/
def brokenText : List Char :=
  "import \x7b\n  type,\n  A\n\x7d\nfrom 'virtual:ui'\nrun()\n".toList

theorem find_brokenText : find "virtual:ui" brokenText =
    [⟨"import \x7b\n  type,\n  A\n\x7d\nfrom 'virtual:ui'".toList,
      "import \x7b\n  type,\n  A\n\x7d\nfrom 'virtual:ui'".toList, 0, 40, [], ['\n']⟩] := by
  decide +kernel

theorem rewriteModule_withReturns_sample :
    (∀ c ∈ "virtual:ui".toList, c ≠ '\n') ∧ (∀ c ∈ brokenText, c ≠ '\r') ∧
      brokenText.getLast? = some '\n' ∧
      ∃ rewritten, (rewriteModule brokenText "virtual:ui"
          (.symbols Routing.renamingSymbols)).result = .ok rewritten ∧
        (rewriteModule (withReturns brokenText) "virtual:ui"
          (.symbols Routing.renamingSymbols)).result = .ok (withReturns rewritten) := by
  have flat : ∀ c ∈ "virtual:ui".toList, c ≠ '\n' := by decide
  have noReturn : ∀ c ∈ brokenText, c ≠ '\r' := by decide
  have ended : brokenText.getLast? = some '\n' := by decide
  obtain ⟨rewritten, returned, run, runReturned, iff⟩ := rewriteModule_withReturns
    Routing.check_renamingTable
    (show Entries.get? "react" [("react", Routing.symbols Routing.renamingSymbols)] = some _ from rfl)
    flatNames_renamingSymbols flat noReturn (.inr ended)
  have ordinary : ∀ occurrence ∈ find "virtual:ui" brokenText, ¬ LoneType occurrence.statement := by
    rw [find_brokenText, List.forall_mem_singleton]
    decide +kernel
  exact ⟨flat, noReturn, ended, rewritten, run, by rw [runReturned, iff.2 ordinary]⟩

/-- With a return behind it, `type` is no default name any more. -/
theorem rewriteModule_loneType :
    VirtualModule.check Routing.renamingTable =
        .ok ⟨none, [("react", .symbols Routing.renamingSymbols)]⟩ ∧
      (Routing.symbols Routing.renamingSymbols).FlatNames ∧
      (rewriteModule "import type\nfrom 'virtual:ui'\n".toList "virtual:ui"
        (.symbols Routing.renamingSymbols)).result.toOption =
          some "import type from 'rest';\n".toList ∧
      (rewriteModule "import type\r\nfrom 'virtual:ui'\r\n".toList "virtual:ui"
        (.symbols Routing.renamingSymbols)).result.toOption =
          some "import type\r\nfrom 'virtual:ui'\r\n".toList ∧
      "import type\r\nfrom 'virtual:ui'\r\n".toList =
        withReturns "import type\nfrom 'virtual:ui'\n".toList ∧
      "import type\r\nfrom 'virtual:ui'\r\n".toList ≠
        withReturns "import type from 'rest';\n".toList := by
  refine ⟨Routing.check_renamingTable, flatNames_renamingSymbols, ?_, ?_, by decide, by decide⟩
  · decide +kernel
  · decide +kernel

end VirtualImports
