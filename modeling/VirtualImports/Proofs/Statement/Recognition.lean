import VirtualImports.Proofs.Statement.Quotes
import VirtualImports.Proofs.Statement.Revision

/-!
What a located statement is read as.

* `trim_unmarked`, `trim_marked`: without the blanks behind it, a located statement ends with its closing
  quote or a semicolon;
* `exists_source`: so it has the `from` phrase of the specifier that it was located by;
* `ofText?_sourced`, `toOption_read_sourced`: a statement is read as what it says in front of its `from`
  phrase;
* `toOption_read`: a located statement is read as what its frame holds in front of `from`, for the
  specifier that it was located by;
* `proper_of_source`, `proper_of_read`: this specifier is not empty and holds no quotes if the
  statement has a `from` phrase behind text without quotes, as one that can be read has.
-/
namespace VirtualImports.Statement

open Text

variable {specifier frame mark front blanks : List Char} {quote : Char} {cut : Cut}

/-- Blanks and a semicolon end a statement. -/
theorem isTerminator_mark (blank : ∀ c ∈ blanks, isBlank c = true) :
    isTerminator (blanks ++ [';']) = true := by
  have lead : trimLeft (blanks ++ [';']) = [';'] :=
    dropWhile_run blank (by rw [stops_cons]; decide)
  rw [isTerminator, lead]
  rfl

/-- Blanks behind the closing quote are trimmed off. -/
theorem Cut.Fits.trim_unmarked (fits : cut.Fits specifier frame mark quote)
    (blank : ∀ c ∈ mark, isSpaceOrTab c = true) : Solid (trim cut.statement) ∧
      trim cut.statement = importWord ++ (frame ++ quote :: specifier) ++ [quote] ∧
      cut.statement = trim cut.statement ++ mark := by
  have word : Solid importWord := by decide
  have close : Solid [quote] :=
    ⟨⟨quote, rfl, isBlank_of_isQuote fits.quoted⟩, ⟨quote, rfl, isBlank_of_isQuote fits.quoted⟩⟩
  have whole : cut.statement =
      importWord ++ (frame ++ quote :: specifier) ++ [quote] ++ mark := by
    simp [fits.statement]
  have solid := word.join close (frame ++ quote :: specifier)
  have trimmed : trim cut.statement = importWord ++ (frame ++ quote :: specifier) ++ [quote] := by
    rw [whole, trim, trimLeft, (solid.stops mark).dropWhile,
      solid.trimRight fun c hc => isBlank_of_isSpaceOrTab (blank c hc)]
  refine ⟨trimmed ▸ solid, trimmed, ?_⟩
  rw [trimmed]
  exact whole

/-- A semicolon ends a statement, so that there is nothing to trim off. -/
theorem Cut.Fits.trim_marked (fits : cut.Fits specifier frame (blanks ++ [';']) quote) :
    Solid (trim cut.statement) ∧ trim cut.statement = cut.statement := by
  have word : Solid importWord := by decide
  have mark : Solid [';'] := by decide
  have solid : Solid cut.statement := by
    have whole : cut.statement =
        importWord ++ (frame ++ quote :: (specifier ++ quote :: blanks)) ++ [';'] := by
      simp [fits.statement]
    rw [whole]
    exact word.join mark (frame ++ quote :: (specifier ++ quote :: blanks))
  rw [solid.trim]
  exact ⟨solid, rfl⟩

theorem Cut.Fits.exists_trimmed (fits : cut.Fits specifier frame mark quote) :
    ∃ tail, isTerminator tail = true ∧ Solid (trim cut.statement) ∧
      trim cut.statement = importWord ++ (frame ++ quote :: (specifier ++ quote :: tail)) := by
  rcases fits.tail.mark_cases with blank | ⟨blanks, blank, rfl⟩
  · obtain ⟨solid, trimmed, _⟩ := fits.trim_unmarked blank
    exact ⟨[], rfl, solid, by simp [trimmed]⟩
  · obtain ⟨solid, trimmed⟩ := fits.trim_marked
    refine ⟨blanks ++ [';'], isTerminator_mark fun c hc => isBlank_of_isSpaceOrTab (blank c hc), solid,
      ?_⟩
    rw [trimmed, fits.statement]
    simp

theorem Cut.Fits.exists_trim (fits : cut.Fits specifier frame mark quote) :
    ∃ blanks, cut.statement = trim cut.statement ++ blanks := by
  have word : Stops isBlank cut.statement := by
    rw [fits.statement]
    simp only [importWord, List.cons_append, stops_cons]
    decide
  obtain ⟨blanks, whole, _⟩ := exists_trimRight cut.statement
  exact ⟨blanks, by rwa [trim, trimLeft, word.dropWhile]⟩

/-- A located statement is `import`, what its frame holds in front of `from`, and the `from` phrase of
the specifier that it was located by. -/
theorem Cut.Fits.exists_source (fits : cut.Fits specifier frame mark quote)
    (framed : Framed front blanks frame) (named : specifier ≠ []) (unquoted : Unquoted specifier) :
    ∃ tail, IsSource specifier blanks tail quote ∧ Unquoted front ∧ Solid (trim cut.statement) ∧
      trim cut.statement = importWord ++ (front ++ sourceText specifier blanks tail quote) := by
  obtain ⟨tail, terminated, solid, trimmed⟩ := fits.exists_trimmed
  have plain : Unquoted front := by
    have clause := fits.clause
    rw [framed.eq] at clause
    exact fun c hc => isQuote_of_isClauseChar (clause c (by simp [hc]))
  refine ⟨tail, ⟨⟨framed.blanks_ne_nil, framed.blank⟩, fits.quoted, named, unquoted, terminated⟩,
    plain, solid, ?_⟩
  rw [trimmed, framed.eq]
  simp [sourceText]

/-- What a statement says in front of its `from`: whether it is for types as a whole, and what it
binds. -/
def readFront (front : List Char) : Option (Bool × Bindings) :=
  (splitTypeKeyword? front).bind fun (typeOnly, clause) =>
    (readClause clause).toOption.map (typeOnly, ·)

/-- The parts of a statement are what it says in front of its `from` phrase, and the specifier of that. -/
theorem ofText?_sourced {text tail : List Char} (source : IsSource specifier blanks tail quote)
    (plain : Unquoted front) (solid : Solid text)
    (shape : text = importWord ++ (front ++ sourceText specifier blanks tail quote)) :
    Header.ofText? (trim text) =
      (splitTypeKeyword? front).map fun (typeOnly, clause) => ⟨typeOnly, clause, specifier⟩ := by
  have keyword : after? ['i', 'm', 'p', 'o', 'r', 't'] (importWord ++
      (front ++ sourceText specifier blanks tail quote)) =
        some (front ++ sourceText specifier blanks tail quote) := after?_append importWord _
  rw [solid.trim, shape]
  simp only [Header.ofText?, keyword, splitSource?_append source plain]

/-- What a statement is read as, for the specifier of its `from` phrase. -/
theorem toOption_read_sourced {text tail : List Char} (source : IsSource specifier blanks tail quote)
    (plain : Unquoted front) (solid : Solid text)
    (shape : text = importWord ++ (front ++ sourceText specifier blanks tail quote)) :
    (ImportStatement.read text).toOption =
      (readFront front).map fun (typeOnly, bindings) =>
        ⟨text, String.ofList specifier, typeOnly, bindings⟩ := by
  rw [ImportStatement.read, ofText?_sourced source plain solid shape, readFront]
  cases splitTypeKeyword? front with
  | none => rfl
  | some parts =>
    obtain ⟨typeOnly, clause⟩ := parts
    simp only [Option.map_some, Option.bind_some]
    cases readClause clause <;> rfl

/-- **What a located statement is read as.** It is read as what its frame holds, for the specifier
that it was located by. -/
theorem Cut.Fits.toOption_read (fits : cut.Fits specifier frame mark quote)
    (framed : Framed front blanks frame) (named : specifier ≠ []) (unquoted : Unquoted specifier) :
    (ImportStatement.read (trim cut.statement)).toOption =
      (readFront front).map fun (typeOnly, bindings) =>
        ⟨trim cut.statement, String.ofList specifier, typeOnly, bindings⟩ := by
  obtain ⟨tail, source, plain, solid, text⟩ := fits.exists_source framed named unquoted
  exact toOption_read_sourced source plain solid text

/-- A statement has a `from` phrase behind text without quotes only if its quotes stand around a
specifier that is not empty and holds none. -/
theorem proper_of_source {text tail : List Char}
    (shape : text = importWord ++ (frame ++ quote :: (specifier ++ quote :: tail)))
    (plainFrame : Unquoted frame) (quoted : isQuote quote = true) (plainTail : Unquoted tail)
    {before phrase named : List Char} (split : text = importWord ++ (before ++ phrase))
    (plain : Unquoted before) (source : source? phrase = some named) :
    specifier ≠ [] ∧ Unquoted specifier := by
  obtain ⟨blanks, tail', quote', found, rfl⟩ := exists_sourceText source
  rw [shape] at split
  constructor
  · rintro rfl
    have front : Unquoted (before ++ (fromWord ++ blanks)) := by
      rw [unquoted_append, unquoted_append]
      exact ⟨plain, unquoted_fromWord, unquoted_of_isBlank found.blanks.2⟩
    have same : frame ++ quote :: quote :: tail = (before ++ (fromWord ++ blanks)) ++
        quote' :: (named ++ quote' :: tail') := by
      rw [List.append_cancel_left_eq] at split
      simpa [sourceText] using split
    -- behind the first quote stands a quote on one side, and a character of the name on the other
    obtain ⟨_, _, behind⟩ := append_cons_inj plainFrame quoted front found.quoted same
    obtain ⟨c, more, same⟩ := List.exists_cons_of_ne_nil found.named
    rw [same, List.cons_append] at behind
    have other := found.unquoted c (by simp [same])
    rw [← (List.cons.inj behind).1, quoted] at other
    cases other
  · -- there are two quotes, and they stand around the specifier
    have two := congrArg (fun s => (quotes s).length) split
    simp only [quotes_append, found.quotes_eq, quotes_cons_of_isQuote quoted,
      quotes_eq_nil.2 plainFrame, quotes_eq_nil.2 plainTail, quotes_eq_nil.2 plain,
      List.length_append, List.length_cons, List.length_nil] at two
    rw [← quotes_eq_nil]
    exact List.length_eq_zero_iff.1 (by omega)

/-- A located statement with a `from` phrase behind text without quotes is located by a name that is
not empty and holds no quotes. -/
theorem Cut.Fits.proper_of_source (fits : cut.Fits specifier frame mark quote)
    {before phrase named : List Char} (text : trim cut.statement = importWord ++ (before ++ phrase))
    (plain : Unquoted before) (source : source? phrase = some named) :
    specifier ≠ [] ∧ Unquoted specifier := by
  obtain ⟨tail, terminated, _, trimmed⟩ := fits.exists_trimmed
  exact Statement.proper_of_source trimmed
    (fun c hc => isQuote_of_isClauseChar (fits.clause c hc)) fits.quoted
    (unquoted_of_isTerminator terminated) text plain source

/-- A statement that can be read has a `from` phrase behind text without quotes. -/
theorem exists_source_of_read {text : List Char} {statement : ImportStatement}
    (readable : ImportStatement.read text = .ok statement) :
    ∃ before phrase named, trim text = importWord ++ (before ++ phrase) ∧ Unquoted before ∧
      source? phrase = some named := by
  obtain ⟨header, found, clause, _⟩ := ImportStatement.exists_header_of_read readable
  obtain ⟨before, blanks, tail, quote, source, marked, split⟩ := exists_parts_of_ofText? found
  refine ⟨before, _, _, split, ?_, source?_sourceText source⟩
  rw [← quotes_eq_nil, quotes_of_splitTypeKeyword? marked, quotes_eq_nil]
  exact Clause.unquoted_of_scan (ImportStatement.scan_of_readClause clause).1

/-- A statement is located by such a name if it can be read. -/
theorem Cut.Fits.proper_of_read (fits : cut.Fits specifier frame mark quote)
    {statement : ImportStatement}
    (readable : ImportStatement.read (trim cut.statement) = .ok statement) :
    specifier ≠ [] ∧ Unquoted specifier := by
  obtain ⟨_, _, solid, _⟩ := fits.exists_trimmed
  obtain ⟨before, phrase, named, split, plain, source⟩ := exists_source_of_read readable
  rw [solid.trim] at split
  exact fits.proper_of_source split plain source

end VirtualImports.Statement
