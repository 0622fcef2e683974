import VirtualImports.Proofs.Statement.Returns

/-!
Statements located in a text with returns.

* `cut?_withReturns`: a statement that is found in a text is found in it with returns;
* `framed_of_cut?_withReturns`: a statement that is found there only has nothing but blanks in front
  of its `from`;
* `toOption_read_withReturns`: statements are read alike, except that one that binds a default name
  `type` with a single line feed behind it cannot be read with returns.
-/
namespace VirtualImports.Statement

open Text

variable {specifier frame mark front blanks : List Char} {quote : Char} {cut : Cut}

/-! ## Frames -/

theorem Framed.withReturns (framed : Framed front blanks frame) :
    Framed (withReturns front) (withReturns blanks) (withReturns frame) where
  eq := by
    have word : Text.withReturns fromWord = fromWord := rfl
    rw [framed.eq, withReturns_append, withReturns_append, word]
  blanks_ne_nil := by
    rw [Ne, withReturns_eq_nil]
    exact framed.blanks_ne_nil
  blank := forall_mem_withReturns framed.blank fun _ => by decide
  length := framed.length.trans (length_le_withReturns front)
  head := (exists_head_withReturns (by decide)).2 framed.head
  last := by
    rw [getLast?_withReturns]
    exact framed.last

/-- A frame with returns was one without, or has nothing but blanks in front of its `from`: one or two
characters are too short for it, and returns make them longer. -/
theorem Framed.of_withReturns (framed : Framed front blanks (Text.withReturns frame)) :
    framesClause frame = true ∨ ∀ c ∈ front, isBlank c = true := by
  have split : Text.withReturns frame = front ++ (fromWord ++ blanks) := by
    rw [framed.eq, List.append_assoc]
  obtain ⟨lead, behind, rfl, rfl, source⟩ := exists_of_withReturns_eq_append split (by simp [fromWord])
  obtain ⟨word, spaces, rfl, same, rfl⟩ := exists_of_withReturns_eq_append source (by simp [fromWord])
  obtain rfl := eq_of_withReturns_flat same (by decide)
  have head : ∃ c ∈ lead.head?, isBlank c = true :=
    (exists_head_withReturns (by decide)).1 framed.head
  have last : ∃ c ∈ lead.getLast?, isBlank c = true := by
    have last := framed.last
    rwa [getLast?_withReturns] at last
  by_cases long : 3 ≤ lead.length
  · refine .inl (framesClause_iff.2 ⟨lead, spaces, (List.append_assoc _ _ _).symm, ?_, ?_, long, head,
      last⟩)
    · have ne := framed.blanks_ne_nil
      rwa [Ne, withReturns_eq_nil] at ne
    · exact fun c hc => framed.blank c (mem_withReturns hc)
  · refine .inr (forall_mem_withReturns ?_ fun _ => by decide)
    obtain ⟨c, hc, blankHead⟩ := head
    obtain ⟨d, hd, blankLast⟩ := last
    rcases lead with _ | ⟨a, _ | ⟨b, _ | ⟨_, _⟩⟩⟩
    · simp
    · simp_all
    · simp_all
    · simp at long

/-! ## Statements -/

theorem Cut.Fits.source_flat (fits : cut.Fits specifier frame mark quote)
    (flat : ∀ c ∈ specifier, c ≠ '\n') : ∀ c ∈ quote :: specifier ++ [quote], c ≠ '\n' := by
  rw [List.forall_mem_append, List.forall_mem_cons, List.forall_mem_singleton]
  exact ⟨⟨ne_newline_of_isQuote fits.quoted, flat⟩, ne_newline_of_isQuote fits.quoted⟩

/-- Where a statement stands in a text with returns, its pieces stand in the text, framed or not. -/
theorem Cut.Fits.exists_of_withReturns (fits : cut.Fits specifier frame mark quote)
    (flat : ∀ c ∈ specifier, c ≠ '\n') {s : List Char} (noReturn : ∀ c ∈ s, c ≠ '\r')
    (text : Text.withReturns s = cut.text) :
    ∃ inner trailing rest, frame = Text.withReturns inner ∧ LineTail mark trailing ['\n'] ∧
      AtLineEnd rest ∧ s = cut.indent ++ (importWord ++ (inner ++
        ((quote :: specifier ++ [quote]) ++ (mark ++ trailing ++ rest)))) := by
  obtain ⟨blanks, shown, blank, ending, trailing, other⟩ := fits.tail.exists_blanks
  have opening : ∀ c ∈ cut.indent ++ importWord, c ≠ '\n' := by
    rw [List.forall_mem_append]
    exact ⟨fun c hc => ne_newline_of_isSpaceOrTab (fits.indent c hc), by decide⟩
  have source := fits.source_flat flat
  have closing : ∀ c ∈ mark ++ blanks, c ≠ '\n' ∧ c ≠ '\r' := by
    rw [List.forall_mem_append]
    constructor
    · exact fun c hc => ⟨fits.tail.plain.flat c (by simp [hc]), fits.tail.mark_ne_return c hc⟩
    · refine fun c hc => ⟨ne_newline_of_isSpaceOrTab (blank c hc), ?_⟩
      rintro rfl
      exact absurd (blank _ hc) (by decide)
  have quote_ne_return : quote ≠ '\r' := by
    rintro rfl
    exact absurd fits.quoted (by decide)
  rw [fits.text_eq, trailing, ← List.append_assoc cut.indent, List.append_assoc mark,
    List.append_assoc blanks, ← List.append_assoc mark] at text
  obtain ⟨word, rest, rfl, same, behindWord⟩ := exists_of_withReturns_eq_append text
    fun last => by simp [importWord] at last
  obtain rfl := eq_of_withReturns_flat same opening
  obtain ⟨inner, rest, rfl, rfl, behindFrame⟩ := exists_of_withReturns_eq_append behindWord
    fun _ head => absurd head (by simp [ne_newline_of_isQuote fits.quoted])
  obtain ⟨quoted, rest, rfl, same, behindSource⟩ := exists_of_withReturns_eq_append behindFrame
    fun last => absurd last (by simp [List.getLast?_cons, quote_ne_return])
  obtain rfl := eq_of_withReturns_flat same source
  obtain ⟨closed, rest, rfl, same, below⟩ := exists_of_withReturns_eq_append behindSource
    fun last => absurd rfl (closing '\r' (List.mem_of_getLast? last)).2
  obtain rfl := eq_of_withReturns_flat same fun c hc => (closing c hc).1
  refine ⟨inner, blanks, rest, rfl, ?_, ?_, by simp⟩
  · simpa using other [] ['\n'] (.inl ⟨rfl, rfl⟩)
  -- what is left is empty or begins with a line feed, as it does not begin with a return
  cases rest with
  | nil => exact .inl rfl
  | cons c rest =>
    by_cases newline : c = '\n'
    · exact .inr ⟨rest, by rw [newline]⟩
    · exfalso
      rw [withReturns_cons newline] at below
      have plain : c ≠ '\r' := noReturn c (by simp)
      rcases ending with ⟨rfl, _⟩ | ⟨rfl, _⟩
      · rcases fits.atEnd with empty | ⟨_, feed⟩
        · simp [empty] at below
        · rw [feed] at below
          exact newline (List.cons.inj below).1
      · exact plain (List.cons.inj below).1

/-- A statement that is found with returns only has nothing but blanks in front of its `from`. -/
theorem framed_of_cut?_withReturns (flat : ∀ c ∈ specifier, c ≠ '\n') {s : List Char}
    (noReturn : ∀ c ∈ s, c ≠ '\r') (absent : cut? specifier s = none)
    (found : cut? specifier (Text.withReturns s) = some cut) :
    ∃ frame mark quote front blanks, cut.Fits specifier frame mark quote ∧
      Framed front blanks frame ∧ ∀ c ∈ front, isBlank c = true := by
  obtain ⟨text, frame, mark, quote, fits⟩ := cut?_eq_some_iff.1 found
  obtain ⟨front, blanks, framed⟩ := framesClause_iff.1 fits.framed
  obtain ⟨inner, trailing, rest, rfl, tail, atEnd, whole⟩ :=
    fits.exists_of_withReturns flat noReturn text
  refine ⟨_, mark, quote, front, blanks, fits, framed, ?_⟩
  rcases framed.of_withReturns with framedInner | blank
  · exfalso
    have clause : ∀ c ∈ inner, isClauseChar c = true :=
      fun c hc => fits.clause c (mem_withReturns hc)
    have shorter : Cut.Fits specifier inner mark quote
        ⟨cut.indent, importWord ++ inner ++ (quote :: specifier ++ [quote]) ++ mark, trailing, ['\n'],
          rest⟩ :=
      ⟨fits.indent, clause, framedInner, fits.quoted, tail, atEnd, rfl⟩
    have inText := cut?_of_fits shorter
    rw [shorter.text_eq, ← whole, absent] at inText
    cases inText
  · exact blank

/-- The same statement in the text with returns. -/
def Cut.withReturns (cut : Cut) : Cut where
  indent := cut.indent
  statement := Text.withReturns cut.statement
  trailing := cut.trailing ++ ['\r']
  newline := ['\r', '\n']
  rest := (Text.withReturns cut.rest).tail

theorem Cut.Fits.exists_rest (fits : cut.Fits specifier frame mark quote)
    (ended : lineStartAfter true cut.text = true) : ∃ rest, cut.rest = '\n' :: rest := by
  rcases fits.atEnd with empty | rest
  · rw [Cut.text, empty, List.append_nil, fits.lineStartAfter_line] at ended
    cases ended
  · exact rest

theorem Cut.Fits.withReturns_indent (fits : cut.Fits specifier frame mark quote) :
    Text.withReturns cut.indent = cut.indent :=
  withReturns_flat fun c hc => ne_newline_of_isSpaceOrTab (fits.indent c hc)

theorem Cut.Fits.withReturns_trailing (fits : cut.Fits specifier frame mark quote) :
    Text.withReturns cut.trailing = cut.trailing :=
  withReturns_flat fun c hc => fits.tail.plain.flat c (by simp [hc])

theorem Cut.Fits.text_withReturns (fits : cut.Fits specifier frame mark quote)
    (ended : lineStartAfter true cut.text = true) :
    cut.withReturns.text = Text.withReturns cut.text := by
  obtain ⟨rest, below⟩ := fits.exists_rest ended
  simp [Cut.text, Cut.withReturns, fits.withReturns_indent, fits.withReturns_trailing, below]

/-- A line without returns ends in a line feed, and with returns in both. -/
theorem Cut.Fits.ending_eq (fits : cut.Fits specifier frame mark quote)
    (noReturn : ∀ c ∈ cut.text, c ≠ '\r') :
    cut.newline = ['\n'] ∧ LineTail mark (cut.trailing ++ ['\r']) ['\r', '\n'] := by
  obtain ⟨blanks, shown, _, ending, trailing, other⟩ := fits.tail.exists_blanks
  rcases ending with ⟨rfl, newline⟩ | ⟨rfl, _⟩
  · rw [List.append_nil] at trailing
    rw [trailing]
    exact ⟨newline, other _ _ (.inr ⟨rfl, rfl⟩)⟩
  · exact absurd rfl (noReturn '\r' (by simp [Cut.text, trailing]))

theorem Cut.Fits.withReturns (fits : cut.Fits specifier frame mark quote)
    (flat : ∀ c ∈ specifier, c ≠ '\n') (noReturn : ∀ c ∈ cut.text, c ≠ '\r')
    (ended : lineStartAfter true cut.text = true) :
    cut.withReturns.Fits specifier (Text.withReturns frame) mark quote where
  indent := fits.indent
  clause := forall_mem_withReturns fits.clause fun _ => by decide
  framed := by
    obtain ⟨front, blanks, framed⟩ := framesClause_iff.1 fits.framed
    exact framesClause_iff.2 ⟨_, _, framed.withReturns⟩
  quoted := fits.quoted
  tail := (fits.ending_eq noReturn).2
  atEnd := by
    obtain ⟨rest, below⟩ := fits.exists_rest ended
    exact .inr ⟨Text.withReturns rest, by rw [Cut.withReturns, below]; rfl⟩
  statement := by
    have source := fits.source_flat flat
    have closing : ∀ c ∈ mark, c ≠ '\n' := fun c hc => fits.tail.plain.flat c (by simp [hc])
    have word : Text.withReturns importWord = importWord := rfl
    simp only [Cut.withReturns, fits.statement, withReturns_append, word, withReturns_flat source,
      withReturns_flat closing]

/-- A statement that is found in a text is found in it with returns. -/
theorem cut?_withReturns {s : List Char} (flat : ∀ c ∈ specifier, c ≠ '\n')
    (noReturn : ∀ c ∈ s, c ≠ '\r') (ended : lineStartAfter true s = true)
    (found : cut? specifier s = some cut) :
    cut? specifier (Text.withReturns s) = some cut.withReturns := by
  obtain ⟨rfl, frame, mark, quote, fits⟩ := cut?_eq_some_iff.1 found
  have returned := cut?_of_fits (fits.withReturns flat noReturn ended)
  rwa [fits.text_withReturns ended] at returned

/-! ## Readings -/

/-- Between `import` and `from`, blanks aside, stands `type` with a single line feed behind it. -/
def LoneType (statement : List Char) : Prop :=
  ∃ front phrase, LoneFront front ∧ (source? phrase).isSome = true ∧
    statement = importWord ++ (front ++ phrase)

/-- The same, by splitting the statement. -/
def isLoneType (statement : List Char) : Bool :=
  ((after? importWord statement).bind splitSource?).any fun (front, _) =>
    trimLeft front == typeWord ++ ['\n']

theorem LoneFront.unquoted (lone : LoneFront front) : Unquoted front := by
  obtain ⟨lead, blank, rfl⟩ := lone
  rw [unquoted_append]
  exact ⟨unquoted_of_isBlank blank, by decide⟩

theorem trimLeft_eq_iff : trimLeft front = typeWord ++ ['\n'] ↔ LoneFront front := by
  constructor
  · intro h
    refine ⟨front.takeWhile isBlank, fun c hc => List.mem_takeWhile_imp hc, ?_⟩
    rw [← h, trimLeft, List.takeWhile_append_dropWhile]
  · rintro ⟨lead, blank, rfl⟩
    have stop : Stops isBlank (typeWord ++ ['\n']) := by
      rw [typeWord, List.cons_append, stops_cons]
      decide
    rw [trimLeft, dropWhile_run blank stop]

theorem isLoneType_iff {statement : List Char} :
    isLoneType statement = true ↔ LoneType statement := by
  simp only [isLoneType, Option.any_eq_true, Option.bind_eq_some_iff, beq_iff_eq, Prod.exists]
  constructor
  · rintro ⟨front, named, ⟨rest, keyword, split⟩, lone⟩
    obtain ⟨phrase, rfl, found⟩ := exists_source_of_splitSource? split
    exact ⟨front, phrase, trimLeft_eq_iff.1 lone, by rw [found]; rfl, eq_append_of_after? keyword⟩
  · rintro ⟨front, phrase, lone, found, rfl⟩
    obtain ⟨named, found⟩ := Option.isSome_iff_exists.1 found
    obtain ⟨blanks, tail, quote, source, rfl⟩ := exists_sourceText found
    exact ⟨front, named, ⟨_, after?_append importWord _, splitSource?_append source lone.unquoted⟩,
      trimLeft_eq_iff.2 lone⟩

instance (statement : List Char) : Decidable (LoneType statement) :=
  decidable_of_iff _ isLoneType_iff

theorem Cut.Fits.loneType_iff (fits : cut.Fits specifier frame mark quote)
    (framed : Framed front blanks frame) (named : specifier ≠ []) (unquoted : Unquoted specifier) :
    LoneType (trim cut.statement) ↔ LoneFront front := by
  obtain ⟨tail, source, plain, _, text⟩ := fits.exists_source framed named unquoted
  rw [← isLoneType_iff, isLoneType, text, after?_append, Option.bind_some,
    splitSource?_append source plain, ← trimLeft_eq_iff]
  simp

/-- **Statements with returns.** A statement is read as in the text without them, unless it binds a
default name `type` with a single line feed behind it: then it cannot be read any more. -/
theorem Cut.Fits.toOption_read_withReturns (fits : cut.Fits specifier frame mark quote)
    (flat : ∀ c ∈ specifier, c ≠ '\n') (noReturn : ∀ c ∈ cut.text, c ≠ '\r')
    (ended : lineStartAfter true cut.text = true) :
    (ImportStatement.read (trim cut.withReturns.statement)).toOption =
      if LoneType (trim cut.statement) then none
      else (ImportStatement.read (trim cut.statement)).toOption.map fun statement =>
        { statement with original := trim cut.withReturns.statement } := by
  have returned := fits.withReturns flat noReturn ended
  obtain ⟨front, blanks, framed⟩ := framesClause_iff.1 fits.framed
  by_cases proper : specifier ≠ [] ∧ Unquoted specifier
  · obtain ⟨named, unquoted⟩ := proper
    rw [fits.toOption_read framed named unquoted,
      returned.toOption_read framed.withReturns named unquoted]
    split
    · rename_i lone
      rw [fits.loneType_iff framed named unquoted] at lone
      rw [(readFront_lone lone framed.head).2, Option.map_none]
    · rename_i ordinary
      rw [fits.loneType_iff framed named unquoted] at ordinary
      rw [readFront_withReturns framed.length ordinary, Option.map_map]
      rfl
  · -- neither statement can be read
    have unreadable {frame : List Char} {cut : Cut} (fits : cut.Fits specifier frame mark quote) :
        (ImportStatement.read (trim cut.statement)).toOption = none := by
      cases readable : ImportStatement.read (trim cut.statement) with
      | error cause => rfl
      | ok statement => exact absurd (fits.proper_of_read readable) proper
    rw [unreadable fits, unreadable returned]
    simp

/-- A statement that binds a default name `type` with a single line feed behind it can be read. -/
theorem Cut.Fits.isSome_of_loneType (fits : cut.Fits specifier frame mark quote)
    (lone : LoneType (trim cut.statement)) :
    (ImportStatement.read (trim cut.statement)).toOption.isSome = true := by
  obtain ⟨front, blanks, framed⟩ := framesClause_iff.1 fits.framed
  obtain ⟨before, phrase, loneBefore, found, text⟩ := id lone
  obtain ⟨name, found⟩ := Option.isSome_iff_exists.1 found
  obtain ⟨named, unquoted⟩ := fits.proper_of_source text loneBefore.unquoted found
  rw [fits.loneType_iff framed named unquoted] at lone
  rw [fits.toOption_read framed named unquoted, Option.isSome_map]
  exact (readFront_lone lone framed.head).1

/-- Such a statement goes on in a new line before its first quote. -/
theorem Cut.Fits.exists_line_of_loneType (fits : cut.Fits specifier frame mark quote)
    (lone : LoneType (trim cut.statement)) :
    ∃ line below, cut.indent ++ cut.statement =
        cut.indent ++ importWord ++ (line ++ '\n' :: below) ∧
      Unquoted (cut.indent ++ importWord ++ line) := by
  obtain ⟨blanks, whole⟩ := fits.exists_trim
  obtain ⟨_, phrase, ⟨lead, blank, rfl⟩, _, shape⟩ := lone
  refine ⟨lead ++ typeWord, phrase ++ blanks, ?_, ?_⟩
  · rw [whole, shape]
    simp
  · simp only [unquoted_append]
    exact ⟨⟨fun c hc => isQuote_of_isSpaceOrTab (fits.indent c hc), unquoted_importWord⟩,
      unquoted_of_isBlank blank, by decide⟩

/-- A statement with nothing but blanks in front of its `from` cannot be read. -/
theorem Cut.Fits.toOption_read_blank (fits : cut.Fits specifier frame mark quote)
    (framed : Framed front blanks frame) (blank : ∀ c ∈ front, isBlank c = true) :
    (ImportStatement.read (trim cut.statement)).toOption = none := by
  cases readable : ImportStatement.read (trim cut.statement) with
  | error cause => rfl
  | ok statement =>
    obtain ⟨named, unquoted⟩ := fits.proper_of_read readable
    rw [← readable, fits.toOption_read framed named unquoted, readFront_blank blank, Option.map_none]

/-- In such a statement no other one starts: its frame has no room for an `import`. -/
theorem Cut.Fits.passes_blank (fits : cut.Fits specifier frame mark quote)
    (framed : Framed front blanks frame) (blank : ∀ c ∈ front, isBlank c = true)
    (flat : ∀ c ∈ specifier, c ≠ '\n') {c : Char} {line : List Char}
    (whole : cut.indent ++ cut.statement ++ cut.trailing = c :: line) :
    Passes specifier (c == '\n') line cut.rest := by
  rintro x y rfl _ starts
  have text : (c :: x) ++ (y ++ cut.rest) = cut.text := by
    rw [Cut.text, whole]
    simp
  have short : (c :: x).length ≤ (cut.indent ++ cut.statement ++ cut.trailing).length := by
    rw [whole]
    simp
  rcases fits.line_inside text short starts with ⟨before, unquoted, behind⟩ | ⟨newline, _⟩
  · have opening : (c :: x) ++ before = cut.indent ++ importWord ++ frame := by
      have source : (quote :: specifier ++ [quote]) ++ (mark ++ cut.trailing ++ cut.rest) =
          quote :: (specifier ++ quote :: (mark ++ cut.trailing ++ cut.rest)) := by simp
      rw [behind, fits.text_eq, source, ← List.append_assoc (c :: x), ← List.append_assoc importWord,
        ← List.append_assoc cut.indent, ← List.append_assoc cut.indent] at text
      exact List.append_cancel_right text
    obtain ⟨inner, _, _, start⟩ := fits.exists_frame_start ⟨before, opening⟩ (by simp) starts
    have inFrame : before ⊆ frame := by
      rw [start, List.append_assoc (cut.indent ++ importWord), List.append_cancel_left_eq] at opening
      rw [← opening]
      exact List.subset_append_right inner before
    apply Option.eq_none_iff_forall_ne_some.2
    intro other found
    rw [behind] at found
    obtain ⟨same, frame', mark', opening', fits'⟩ := cut?_eq_some_iff.1 found
    rw [fits'.text_eq] at same
    have split : before ++ quote :: (specifier ++ quote :: (mark ++ cut.trailing ++ cut.rest)) =
        (other.indent ++ (importWord ++ frame')) ++
          opening' :: (specifier ++ opening' :: (mark' ++ other.trailing ++ other.rest)) := by
      simpa using same
    obtain ⟨rfl, _⟩ := append_cons_inj unquoted fits.quoted fits'.unquoted fits'.quoted split
    have letter : 'i' ∈ frame := inFrame (by simp [importWord])
    rw [framed.eq, List.mem_append, List.mem_append] at letter
    rcases letter with (letter | letter) | letter
    · exact absurd (blank _ letter) (by decide)
    · exact absurd letter (by decide)
    · exact absurd (framed.blank _ letter) (by decide)
  · exact absurd rfl (flat _ newline)

end VirtualImports.Statement
