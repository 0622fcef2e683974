import VirtualImports.Proofs.Statement.Finding
import VirtualImports.Proofs.Statement.Spacing
import VirtualImports.Proofs.Text.Pattern

/-!
Import statements as the matches of a pattern.

* `statementPattern`: the pattern, with greedy and lazy runs, optional parts and a group that is read
  again;
* `mem_ways_importPattern`, `eq_of_mem_ways_importPattern`: from `import` to the closing quote there may
  be many ways, but they lead to one place;
* `exists_ways_markPattern`, `head?_ways_mark`: only behind the closing quote does it matter which way
  comes first;
* `Cut.Fits.head?_ways`, `Located.exists_matchesAt`: the first way is how a line is cut.
-/
namespace VirtualImports.Statement

open Text

/-! ## The pattern -/

/-- The groups of the pattern. -/
inductive Part
  | indent
  | statement
  | quote
  | ending
  deriving DecidableEq

/-- What stands between `import` and the quote. An optional `type` is tried first, and as little of the
clause as possible. -/
def framePattern : Pattern Part :=
  .seq (.some isBlank) <|
  .seq (.maybe (.seq (.literal typeWord) (.some isBlank))) <|
  .seq (.someLazily isClauseChar) <|
  .seq (.some isBlank) <|
  .seq (.literal fromWord) (.some isBlank)

/-- The specifier between two quotes of one kind. -/
def sourcePattern (specifier : List Char) : Pattern Part :=
  .seq (.group .quote (.one isQuote)) <| .seq (.literal specifier) (.again .quote)

/-- The blanks behind the closing quote, and the semicolon. -/
def markPattern : Pattern Part :=
  .seq (.greedy isSpaceOrTab) (.maybe (.one (· == ';')))

/-- The end of the line. -/
def tailPattern : Pattern Part :=
  .seq (.greedy isSpaceOrTab) <| .seq (.group .ending (.maybe (.one (· == '\r')))) .lineEnd

/-- A statement up to its closing quote. -/
def importPattern (specifier : List Char) : Pattern Part :=
  .seq (.literal importWord) <| .seq framePattern (sourcePattern specifier)

/-- An import statement of a module, from the start of a line to the end of one. -/
def statementPattern (specifier : List Char) : Pattern Part :=
  .seq .lineStart <|
  .seq (.group .indent (.greedy isSpaceOrTab)) <|
  .seq (.group .statement (.seq (importPattern specifier) markPattern)) tailPattern

/-! ## Where its parts lead -/

variable {specifier : List Char} {place reached : Place Part}

/-- Blanks, something, blanks, `from` and blanks are a frame. -/
theorem framesClause_of_pieces {lead clause gap blanks : List Char} (hl : IsGap lead)
    (ne : clause ≠ []) (hg : IsGap gap) (hb : IsGap blanks) :
    framesClause (lead ++ clause ++ gap ++ fromWord ++ blanks) = true := by
  refine framesClause_iff.2 ⟨lead ++ clause ++ gap, blanks, rfl, hb.ne_nil, hb.blank, ?_, ?_, ?_⟩
  · have leads := List.length_pos_iff.2 hl.ne_nil
    have filled := List.length_pos_iff.2 ne
    have gaps := List.length_pos_iff.2 hg.ne_nil
    simp only [List.length_append]
    omega
  · obtain ⟨c, lead, rfl⟩ := List.exists_cons_of_ne_nil hl.ne_nil
    exact ⟨c, by simp, hl.blank c (by simp)⟩
  · obtain ⟨front, c, rfl⟩ := List.eq_nil_or_concat gap |>.resolve_left hg.ne_nil
    exact ⟨c, by simp, hg.blank c (by simp)⟩

/-- Every frame is of this kind. -/
theorem exists_pieces_of_framesClause {frame : List Char} (h : framesClause frame = true) :
    ∃ lead clause gap blanks, IsGap lead ∧ clause ≠ [] ∧ IsGap gap ∧ IsGap blanks ∧
      frame = lead ++ clause ++ gap ++ fromWord ++ blanks := by
  obtain ⟨front, blanks, rfl, ne, blank, length, ⟨c, hc, first⟩, d, hd, last⟩ := framesClause_iff.1 h
  obtain ⟨c', front, rfl⟩ := List.exists_cons_of_ne_nil (l := front) (by rintro rfl; simp at length)
  obtain ⟨clause, d', rfl⟩ := List.eq_nil_or_concat front |>.resolve_left
    (by rintro rfl; simp at length)
  rw [List.concat_eq_append] at length hd ⊢
  obtain rfl : c' = c := by simpa using hc
  obtain rfl : d' = d := by simpa [List.getLast?_cons] using hd
  refine ⟨[c'], clause, [d'], blanks, ⟨by simp, by simpa using first⟩, ?_,
    ⟨by simp, by simpa using last⟩, ⟨ne, blank⟩, by simp⟩
  rintro rfl
  simp at length

theorem mem_ways_framePattern : reached ∈ framePattern.ways place ↔
    ∃ frame rest, place.ahead = frame ++ rest ∧ framesClause frame = true ∧
      (∀ c ∈ frame, isClauseChar c = true) ∧ reached = place.past frame rest := by
  simp only [framePattern, mem_ways_seq, mem_ways_some, mem_ways_maybe, mem_ways_literal,
    mem_ways_someLazily]
  constructor
  · rintro ⟨_, ⟨lead, rest₁, ahead, neLead, blankLead, rfl⟩, marked, optional, _,
      ⟨clause, rest₂, behindMark, neClause, plain, rfl⟩, _,
      ⟨gap, rest₃, rfl, neGap, blankGap, rfl⟩, _, ⟨rest₄, rfl, rfl⟩,
      blanks, rest, rfl, ne, blank, rfl⟩
    obtain ⟨word, rest', rfl, plainWord, rfl⟩ : ∃ word rest', rest₁ = word ++ rest' ∧
        (∀ c ∈ word, isClauseChar c = true) ∧
        marked = (place.past lead rest₁).past word rest' := by
      rcases optional with ⟨_, ⟨_, rfl, rfl⟩, run, rest', rfl, _, blankRun, rfl⟩ | rfl
      · have word : ∀ c ∈ typeWord, isClauseChar c = true := List.all_eq_true.1 (by decide)
        refine ⟨typeWord ++ run, rest', by simp, ?_, Place.past_past ..⟩
        exact List.forall_mem_append.2 ⟨word, isClauseChar_of_forall_isBlank blankRun⟩
      · exact ⟨[], rest₁, rfl, by simp, by simp [Place.past]⟩
    obtain rfl : rest' = _ := behindMark
    refine ⟨lead ++ (word ++ clause) ++ gap ++ fromWord ++ blanks, rest, by simp [ahead],
      framesClause_of_pieces ⟨neLead, blankLead⟩ (by simp [neClause]) ⟨neGap, blankGap⟩
        ⟨ne, blank⟩, ?_, by simp [Place.past]⟩
    have source : ∀ c ∈ fromWord, isClauseChar c = true := List.all_eq_true.1 (by decide)
    simp only [List.forall_mem_append]
    exact ⟨⟨⟨⟨isClauseChar_of_forall_isBlank blankLead, plainWord, plain⟩,
      isClauseChar_of_forall_isBlank blankGap⟩, source⟩, isClauseChar_of_forall_isBlank blank⟩
  · rintro ⟨frame, rest, ahead, framed, plain, rfl⟩
    obtain ⟨lead, clause, gap, blanks, hl, ne, hg, hb, rfl⟩ := exists_pieces_of_framesClause framed
    simp only [List.forall_mem_append] at plain
    refine ⟨_, ⟨lead, clause ++ gap ++ fromWord ++ blanks ++ rest, by simp [ahead], hl.ne_nil,
        hl.blank, rfl⟩, _, .inr rfl, _,
      ⟨clause, gap ++ fromWord ++ blanks ++ rest, by simp [Place.past], ne, plain.1.1.1.2, rfl⟩, _,
      ⟨gap, fromWord ++ blanks ++ rest, by simp [Place.past], hg.ne_nil, hg.blank, rfl⟩, _,
      ⟨blanks ++ rest, by simp [Place.past], rfl⟩,
      blanks, rest, rfl, hb.ne_nil, hb.blank, by simp [Place.past]⟩

/-- The place behind the closing quote of the specifier. -/
def pastSource (specifier : List Char) (place : Place Part) (quote : Char)
    (rest : List Char) : Place Part where
  before := place.before ++ (quote :: specifier ++ [quote])
  ahead := rest
  groups := (.quote, ⟨place.before.length, [quote]⟩) :: place.groups

theorem mem_ways_sourcePattern : reached ∈ (sourcePattern specifier).ways place ↔
    ∃ quote rest, place.ahead = (quote :: specifier ++ [quote]) ++ rest ∧ isQuote quote = true ∧
      reached = pastSource specifier place quote rest := by
  simp only [sourcePattern, mem_ways_seq, mem_ways_group, mem_ways_one, mem_ways_literal,
    mem_ways_again]
  constructor
  · rintro ⟨_, ⟨_, ⟨quote, _, ahead, quoted, rfl⟩, rfl⟩, _, ⟨_, rfl, rfl⟩, span, rest, same, rfl, rfl⟩
    obtain rfl : span = ⟨place.before.length, [quote]⟩ := by
      simpa [Place.past, Place.close, eq_comm] using same
    exact ⟨quote, rest, by simp [ahead], quoted, by
      simp [Place.past, Place.close, pastSource]⟩
  · rintro ⟨quote, rest, ahead, quoted, rfl⟩
    refine ⟨_, ⟨_, ⟨quote, specifier ++ quote :: rest, by simp [ahead], quoted, rfl⟩, rfl⟩, _,
      ⟨quote :: rest, by simp [Place.past, Place.close], rfl⟩, ⟨place.before.length, [quote]⟩, rest,
      by simp [Place.past, Place.close], by simp [Place.past], ?_⟩
    simp [Place.past, Place.close, pastSource]

theorem mem_ways_importPattern : reached ∈ (importPattern specifier).ways place ↔
    ∃ frame quote rest, place.ahead =
        importWord ++ (frame ++ ((quote :: specifier ++ [quote]) ++ rest)) ∧
      framesClause frame = true ∧ (∀ c ∈ frame, isClauseChar c = true) ∧ isQuote quote = true ∧
      reached = pastSource specifier (place.past (importWord ++ frame) []) quote rest := by
  simp only [importPattern, mem_ways_seq, mem_ways_literal, mem_ways_framePattern,
    mem_ways_sourcePattern]
  constructor
  · rintro ⟨_, ⟨_, ahead, rfl⟩, _, ⟨frame, _, rfl, framed, plain, rfl⟩, quote, rest, rfl, quoted, rfl⟩
    exact ⟨frame, quote, rest, ahead, framed, plain, quoted, by
      simp [Place.past, pastSource]⟩
  · rintro ⟨frame, quote, rest, ahead, framed, plain, quoted, rfl⟩
    exact ⟨_, ⟨_, ahead, rfl⟩, _, ⟨frame, _, rfl, framed, plain, rfl⟩, quote, rest, rfl, quoted, by
      simp [Place.past, pastSource]⟩

/-- However the clause is split, the closing quote is the same. -/
theorem eq_of_mem_ways_importPattern {a b : Place Part}
    (ha : a ∈ (importPattern specifier).ways place)
    (hb : b ∈ (importPattern specifier).ways place) : a = b := by
  obtain ⟨frame, quote, rest, ahead, _, plain, quoted, rfl⟩ := mem_ways_importPattern.1 ha
  obtain ⟨frame', quote', rest', ahead', _, plain', quoted', rfl⟩ := mem_ways_importPattern.1 hb
  rw [ahead, List.append_cancel_left_eq, List.cons_append, List.cons_append, List.cons_append,
    List.cons_append] at ahead'
  obtain ⟨rfl, rfl, same⟩ := append_cons_inj (fun c hc => isQuote_of_isClauseChar (plain c hc)) quoted
    (fun c hc => isQuote_of_isClauseChar (plain' c hc)) quoted' ahead'
  rw [List.append_cancel_left_eq] at same
  rw [same]

/-- The blanks and the semicolon behind the closing quote are taken first, if they are there. -/
theorem exists_ways_markPattern (place : Place Part) : ∃ others,
    markPattern.ways place =
      place.past (closing place.ahead).1 (closing place.ahead).2 :: others := by
  obtain ⟨shorter, longest⟩ := exists_splits isSpaceOrTab place.ahead
  have first : ∃ others, (Pattern.maybe (.one (· == ';'))).ways
      (place.past (place.ahead.takeWhile isSpaceOrTab) (place.ahead.dropWhile isSpaceOrTab)) =
        place.past (closing place.ahead).1 (closing place.ahead).2 :: others := by
    rw [closing, Pattern.ways_maybe, Pattern.ways_one]
    cases place.ahead.dropWhile isSpaceOrTab with
    | nil => exact ⟨[], rfl⟩
    | cons c rest =>
      by_cases semicolon : c = ';'
      · subst semicolon
        refine ⟨[place.past (place.ahead.takeWhile isSpaceOrTab) (';' :: rest)], ?_⟩
        simp [Place.past]
      · refine ⟨[], ?_⟩
        simp [Place.past, semicolon]
  obtain ⟨others, first⟩ := first
  rw [markPattern, Pattern.ways_seq, Pattern.ways_greedy, longest, List.map_cons, List.flatMap_cons, first,
    List.cons_append]
  exact ⟨_, rfl⟩

/-- If a line ends behind a part of the blanks and the semicolon, it ends behind all of them. -/
theorem lineEnd?_of_mem_ways_markPattern {other : Place Part}
    (mem : other ∈ markPattern.ways place) (h : (lineEnd? other.ahead).isSome = true) :
    (lineEnd? (closing place.ahead).2).isSome = true := by
  simp only [markPattern, mem_ways_seq, mem_ways_greedy, mem_ways_maybe, mem_ways_one] at mem
  obtain ⟨_, ⟨run, rest, ahead, blank, rfl⟩, ⟨c, after, found, semicolon, rfl⟩ | rfl⟩ := mem
  · obtain rfl : c = ';' := by simpa using semicolon
    obtain rfl : rest = ';' :: after := found
    rw [ahead, closing_eq_of_mark blank]
    exact h
  · obtain ⟨⟨trailing, newline, behind⟩, found⟩ := Option.isSome_iff_exists.1 h
    obtain ⟨more, shown, hm, ending, atEnd, rfl, whole⟩ := lineEnd?_eq_some_iff.1 found
    obtain rfl : rest = more ++ shown ++ behind := whole
    have line := tail_iff.2 ⟨LineTail.unmarked (List.forall_mem_append.2 ⟨blank, hm⟩) ending, atEnd,
      show place.ahead = (run ++ more) ++ shown ++ behind by simp [ahead]⟩
    rw [line.2]
    rfl

/-- The place at the end of the line. -/
def pastLine (place : Place Part) (blanks shown rest : List Char) : Place Part where
  before := place.before ++ (blanks ++ shown)
  ahead := rest
  groups := (.ending, ⟨(place.before ++ blanks).length, shown⟩) :: place.groups

theorem mem_ways_tailPattern : reached ∈ tailPattern.ways place ↔
    ∃ blanks shown newline rest, (∀ c ∈ blanks, isSpaceOrTab c = true) ∧ LineEnding shown newline ∧
      AtLineEnd rest ∧ place.ahead = blanks ++ shown ++ rest ∧
      reached = pastLine place blanks shown rest := by
  simp only [tailPattern, mem_ways_seq, mem_ways_greedy, mem_ways_group, mem_ways_maybe,
    mem_ways_one, mem_ways_lineEnd]
  constructor
  · rintro ⟨_, ⟨blanks, rest, ahead, blank, rfl⟩, _, ⟨_, taken | rfl, rfl⟩, atEnd, rfl⟩
    · obtain ⟨c, behind, found, return_, rfl⟩ := taken
      obtain rfl : c = '\r' := by simpa using return_
      obtain rfl : rest = '\r' :: behind := found
      exact ⟨blanks, ['\r'], _, behind, blank, .inr ⟨rfl, rfl⟩, atEnd, by simp [ahead], by
        simp [Place.past, Place.close, pastLine]⟩
    · exact ⟨blanks, [], _, rest, blank, .inl ⟨rfl, rfl⟩, atEnd, by simp [ahead], by
        simp [Place.past, Place.close, pastLine]⟩
  · rintro ⟨blanks, shown, newline, rest, blank, ending, atEnd, ahead, rfl⟩
    refine ⟨place.past blanks (shown ++ rest), ⟨blanks, _, by simp [ahead], blank, rfl⟩, ?_⟩
    rcases ending with ⟨rfl, _⟩ | ⟨rfl, _⟩
    · exact ⟨_, ⟨_, .inr rfl, rfl⟩, atEnd, by simp [Place.past, Place.close, pastLine]⟩
    · exact ⟨_, ⟨_, .inl ⟨'\r', rest, rfl, by decide, rfl⟩, rfl⟩, atEnd, by
        simp [Place.past, Place.close, pastLine]⟩

/-- There is one way to the end of the line at most. -/
theorem head?_ways_tailPattern {trailing newline rest : List Char}
    (h : lineEnd? place.ahead = some (trailing, newline, rest)) :
    ∃ blanks shown, LineEnding shown newline ∧ trailing = blanks ++ shown ∧
      (tailPattern.ways place).head? = some (pastLine place blanks shown rest) := by
  obtain ⟨blanks, shown, blank, ending, atEnd, rfl, ahead⟩ := lineEnd?_eq_some_iff.1 h
  refine ⟨blanks, shown, ending, rfl, head?_of_forall_eq
    (mem_ways_tailPattern.2 ⟨blanks, shown, newline, rest, blank, ending, atEnd, ahead, rfl⟩) ?_⟩
  rintro _ mem
  obtain ⟨blanks', shown', newline', rest', blank', ending', atEnd', ahead', rfl⟩ :=
    mem_ways_tailPattern.1 mem
  have other := lineEnd?_eq_some_iff.2 ⟨blanks', shown', blank', ending', atEnd', rfl, ahead'⟩
  rw [h, Option.some.injEq, Prod.mk.injEq, Prod.mk.injEq] at other
  obtain ⟨same, rfl, rfl⟩ := other
  obtain rfl : shown' = shown := by
    rcases ending with ⟨rfl, rfl⟩ | ⟨rfl, rfl⟩ <;> rcases ending' with ⟨rfl, two⟩ | ⟨rfl, two⟩ <;>
      first | rfl | cases two
  rw [List.append_cancel_right_eq] at same
  rw [same]

theorem ways_tailPattern_eq_nil_iff :
    tailPattern.ways place = [] ↔ lineEnd? place.ahead = none := by
  constructor
  · intro none
    apply Option.eq_none_iff_forall_ne_some.2
    rintro ⟨trailing, newline, rest⟩ found
    obtain ⟨_, _, _, _, first⟩ := head?_ways_tailPattern found
    rw [none] at first
    cases first
  · intro none
    apply List.eq_nil_iff_forall_not_mem.2
    intro reached mem
    obtain ⟨blanks, shown, newline, rest, blank, ending, atEnd, ahead, rfl⟩ :=
      mem_ways_tailPattern.1 mem
    rw [lineEnd?_eq_some_iff.2 ⟨blanks, shown, blank, ending, atEnd, rfl, ahead⟩] at none
    cases none

/-! ## The first way -/

/-- What stands in front of the end of the line. -/
def bodyPattern (specifier : List Char) : Pattern Part :=
  .seq (.group .statement (.seq (importPattern specifier) markPattern)) tailPattern

/-- The place behind the blanks and the semicolon that a statement takes. -/
def pastMark (place : Place Part) : Place Part :=
  place.past (closing place.ahead).1 (closing place.ahead).2

theorem head?_ways_mark (place : Place Part) (start : Nat) :
    (((markPattern.ways place).map (Place.close .statement start)).flatMap
      tailPattern.ways).head? =
        (tailPattern.ways ((pastMark place).close .statement start)).head? := by
  obtain ⟨others, first⟩ := exists_ways_markPattern place
  rw [first, List.map_cons]
  refine head?_flatMap_first fun none => ?_
  rw [List.forall_mem_map]
  intro other mem
  rw [ways_tailPattern_eq_nil_iff, ← Option.not_isSome_iff_eq_none] at none ⊢
  have taken : other ∈ markPattern.ways place := by
    rw [first]
    exact List.mem_cons_of_mem _ mem
  exact fun ends => none (lineEnd?_of_mem_ways_markPattern taken ends)

/-- From `import` on, the statement goes up to its closing quote in one way only. -/
theorem head?_ways_bodyPattern {quoted : Place Part}
    (mem : quoted ∈ (importPattern specifier).ways place) :
    ((bodyPattern specifier).ways place).head? =
      (tailPattern.ways ((pastMark quoted).close .statement place.before.length)).head? := by
  obtain ⟨first, others, found⟩ := List.exists_cons_of_ne_nil (List.ne_nil_of_mem mem)
  have same (other : Place Part) (h : other ∈ first :: others) : other = quoted :=
    eq_of_mem_ways_importPattern (found ▸ h) mem
  obtain rfl := same first (by simp)
  have each : (bodyPattern specifier).ways place = (first :: others).flatMap fun quoted =>
      ((markPattern.ways quoted).map (Place.close .statement place.before.length)).flatMap
        tailPattern.ways := by
    simp only [bodyPattern, Pattern.ways_seq, Pattern.ways_group, found, List.map_flatMap,
      List.flatMap_assoc]
  rw [each, head?_flatMap_first, head?_ways_mark]
  intro none other h
  rw [same other (List.mem_cons_of_mem _ h)]
  exact none

/-- In front of `import` there are no blanks left. -/
theorem stops_of_ways_bodyPattern (h : (bodyPattern specifier).ways place ≠ []) :
    Stops isSpaceOrTab place.ahead := by
  obtain ⟨reached, goes⟩ := List.exists_mem_of_ne_nil _ h
  simp only [bodyPattern, mem_ways_seq, mem_ways_group] at goes
  obtain ⟨_, ⟨_, ⟨_, word, _⟩, _⟩, _⟩ := goes
  obtain ⟨_, _, _, ahead, _⟩ := mem_ways_importPattern.1 word
  rw [ahead, importWord, List.cons_append, stops_cons]
  decide

/-- The place behind the blanks at the start of the line. -/
def pastIndent (place : Place Part) : Place Part :=
  (place.past (place.ahead.takeWhile isSpaceOrTab) (place.ahead.dropWhile isSpaceOrTab)).close
    .indent place.before.length

theorem head?_ways_statementPattern (starts : lineStartAfter true place.before = true) :
    ((statementPattern specifier).ways place).head? =
      ((bodyPattern specifier).ways (pastIndent place)).head? := by
  have line : (statementPattern specifier).ways place =
      ((Pattern.greedy isSpaceOrTab).ways place).flatMap fun blanks =>
        (bodyPattern specifier).ways (blanks.close .indent place.before.length) := by
    simp [statementPattern, bodyPattern, Pattern.ways_seq, Pattern.ways_group, Pattern.ways_lineStart,
      starts, List.flatMap_map]
  rw [line]
  refine head?_flatMap_greedy fun run rest _ goesOn => ?_
  by_contra some
  exact goesOn (stops_of_ways_bodyPattern some)

/-! ## The match -/

/-- The pattern leads somewhere only where a line starts with a statement. -/
theorem exists_cut_of_mem_ways (h : reached ∈ (statementPattern specifier).ways place) :
    lineStartAfter true place.before = true ∧ ∃ cut, cut? specifier place.ahead = some cut := by
  rw [statementPattern, mem_ways_seq] at h
  obtain ⟨_, here, h⟩ := h
  obtain ⟨starts, rfl⟩ := mem_ways_lineStart.1 here
  refine ⟨starts, ?_⟩
  simp only [mem_ways_seq, mem_ways_group, mem_ways_greedy] at h
  obtain ⟨_, ⟨_, ⟨indent, _, ahead, blank, rfl⟩, rfl⟩, _, ⟨marked, ⟨quoted, word, taken⟩, rfl⟩,
    last⟩ := h
  obtain ⟨frame, quote, behind, rfl, framed, plain, isQuote, rfl⟩ := mem_ways_importPattern.1 word
  have ends : (lineEnd? marked.ahead).isSome = true := by
    rw [Option.isSome_iff_ne_none]
    exact fun none => List.ne_nil_of_mem last (ways_tailPattern_eq_nil_iff.2 none)
  have whole : (lineEnd? (closing behind).2).isSome = true :=
    lineEnd?_of_mem_ways_markPattern taken ends
  obtain ⟨⟨trailing, newline, rest⟩, line⟩ := Option.isSome_iff_exists.1 whole
  obtain ⟨tail, atEnd, split⟩ := tail_iff.1 ⟨rfl, line⟩
  refine ⟨⟨indent, _, trailing, newline, rest⟩, cut?_eq_some_iff.2 ⟨?_, frame, _, quote,
    ⟨blank, plain, framed, isQuote, tail, atEnd, rfl⟩⟩⟩
  simpa [Cut.text, ahead] using split

/-- **The match of a statement.** Of all ways to the end of the line the first is the one on which the
statement takes the blanks and the semicolon behind its closing quote. -/
theorem Cut.Fits.head?_ways {frame mark before : List Char} {quote : Char} {cut : Cut}
    (fits : cut.Fits specifier frame mark quote) (starts : lineStartAfter true before = true) :
    ∃ groups start shown,
      ((statementPattern specifier).ways ⟨before, cut.text, []⟩).head? =
        some ⟨before ++ (cut.indent ++ cut.statement ++ cut.trailing), cut.rest, groups⟩ ∧
      groups.lookup .indent = some ⟨before.length, cut.indent⟩ ∧
      groups.lookup .statement = some ⟨before.length + cut.indent.length, cut.statement⟩ ∧
      groups.lookup .ending = some ⟨start, shown⟩ ∧ LineEnding shown cut.newline := by
  let behind := mark ++ cut.trailing ++ cut.rest
  let shown := importWord ++ (frame ++ ((quote :: specifier ++ [quote]) ++ behind))
  have text : cut.text = cut.indent ++ shown := fits.text_eq
  have word : Stops isSpaceOrTab shown := by
    simp [shown, importWord]; decide
  have indent : pastIndent ⟨before, cut.text, []⟩ =
      ⟨before ++ cut.indent, shown, [(.indent, ⟨before.length, cut.indent⟩)]⟩ := by
    simp [pastIndent, Place.past, Place.close, text, takeWhile_run fits.indent word,
      dropWhile_run fits.indent word]
  have quoted := mem_ways_importPattern.2 ⟨frame, quote, behind,
    show (⟨before ++ cut.indent, shown, [(.indent, ⟨before.length, cut.indent⟩)]⟩ : Place Part).ahead =
      _ from rfl, fits.framed, fits.clause, fits.quoted, rfl⟩
  obtain ⟨closed, line⟩ := tail_iff.2 ⟨fits.tail, fits.atEnd, show behind = _ from rfl⟩
  let groups : List (Part × Span) :=
    [(.statement, ⟨before.length + cut.indent.length, cut.statement⟩),
      (.quote, ⟨(before ++ cut.indent ++ (importWord ++ frame)).length, [quote]⟩),
      (.indent, ⟨before.length, cut.indent⟩)]
  have marked : Place.close .statement (before ++ cut.indent).length
      (pastMark (pastSource specifier
        (Place.past ⟨before ++ cut.indent, shown, [(.indent, ⟨before.length, cut.indent⟩)]⟩
          (importWord ++ frame) []) quote behind)) =
      ⟨before ++ cut.indent ++ cut.statement, (closing behind).2, groups⟩ := by
    simp [Place.close, pastMark, pastSource, Place.past, closed, fits.statement, groups]
  have atTail : lineEnd? (⟨before ++ cut.indent ++ cut.statement, (closing behind).2,
      groups⟩ : Place Part).ahead = some (cut.trailing, cut.newline, cut.rest) := line
  obtain ⟨blanks, ending, isEnding, split, first⟩ := head?_ways_tailPattern atTail
  rw [head?_ways_statementPattern starts, indent, head?_ways_bodyPattern quoted, marked, first]
  refine ⟨(.ending, ⟨(before ++ cut.indent ++ cut.statement ++ blanks).length, ending⟩) :: groups, _,
    ending, ?_, rfl, rfl, rfl, isEnding⟩
  simp [pastLine, split]

/-- The match of the pattern for a module at a position of a text. -/
def MatchesAt (specifier code : List Char) (position : Nat) (found : Match Part) : Prop :=
  (statementPattern specifier).matchAt? code position = some found

/-- What a group of a match has taken. -/
def span (part : Part) (found : Match Part) : Span :=
  (found.groups.lookup part).getD ⟨0, []⟩

/-- The occurrence that is read off a match. -/
def occurrenceOf (code : List Char) (found : Match Part) : Occurrence where
  original := (code.drop found.start).take ((span .statement found).stop - found.start)
  statement := trim (span .statement found).text
  start := found.start
  stop := (span .statement found).stop
  indent := (span .indent found).text
  newline := if (span .ending found).text.isEmpty then ['\n'] else ['\r', '\n']

section
variable {code : List Char} {position : Nat} {occurrence : Occurrence}

/-- Where the pattern matches, a line starts with a statement. -/
theorem MatchesAt.exists_located {found : Match Part}
    (h : MatchesAt specifier code position found) :
    ∃ before after cut occurrence,
      Located specifier code before after cut occurrence ∧ before.length = position := by
  obtain ⟨reached, first, -⟩ := Option.map_eq_some_iff.1 h
  obtain ⟨starts, cut, here⟩ := exists_cut_of_mem_ways (List.mem_of_mem_head? first)
  refine ⟨_, _, cut, _, ⟨(List.take_append_drop position code).symm, starts, here, rfl⟩, ?_⟩
  have inside : position < code.length := by
    by_contra outside
    rw [List.drop_eq_nil_of_le (by omega), cut?_nil] at here
    cases here
  rw [List.length_take]
  omega

/-- Where a line starts with a statement, the pattern matches it. -/
theorem Located.exists_matchesAt {before after : List Char} {cut : Cut}
    (located : Located specifier code before after cut occurrence) :
    ∃ found, MatchesAt specifier code before.length found ∧
      occurrenceOf code found = occurrence ∧ found.stop = occurrence.stop + cut.trailing.length := by
  obtain ⟨rfl, starts, here, rfl⟩ := located
  obtain ⟨rfl, frame, mark, quote, fits⟩ := cut?_eq_some_iff.1 here
  obtain ⟨groups, start, shown, first, indent, statement, last, ending⟩ := fits.head?_ways starts
  refine ⟨⟨before.length, (before ++ (cut.indent ++ cut.statement ++ cut.trailing)).length, groups⟩,
    ?_, ?_, ?_⟩
  · rw [MatchesAt, Pattern.matchAt?, List.take_left, List.drop_left, first]
    rfl
  · have newline : (if shown.isEmpty then ['\n'] else ['\r', '\n']) = cut.newline := by
      rcases ending with ⟨rfl, same⟩ | ⟨rfl, same⟩ <;> rw [same] <;> rfl
    have length : before.length + cut.indent.length + cut.statement.length - before.length =
        (cut.indent ++ cut.statement).length := by
      rw [List.length_append]
      omega
    simp only [occurrenceOf, span, indent, statement, last, Option.getD_some, Span.stop, newline,
      List.drop_left, Cut.text, length, List.append_assoc _ cut.trailing, List.take_left,
      Cut.occurrence]
    rw [List.length_append, Nat.add_assoc]
  · simp only [Cut.occurrence, List.length_append]
    omega

end

end VirtualImports.Statement
