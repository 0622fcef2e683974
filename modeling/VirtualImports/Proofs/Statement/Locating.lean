import VirtualImports.Proofs.Statement.Matching
import VirtualImports.Proofs.Statement.Sweep

/-!
Statements as they are located.

* `exists_leftmost_findFrom`: a search for whatever starts just where statements start finds the
  statements;
* `Spelling`: how a line that starts with a statement is spelled, told by its first quote and with no
  choice between ways to match it;
* `spelledAt_iff`: the lines that are cut are those that are spelled so;
* `find_leftmost`: the matches of the pattern, the lines so spelled and the statements that are found
  are the same.
-/
namespace VirtualImports.Statement

open Text

section
variable {specifier code : List Char} {occurrence : Occurrence}

/-! ## The search -/

/-- Behind a statement no line starts before its own line ends. -/
theorem Located.not_starts_behind {before after before' : List Char} {cut : Cut}
    (located : Located specifier code before after cut occurrence) (inside : before' <+: code)
    (low : occurrence.stop ≤ before'.length)
    (high : before'.length ≤ occurrence.stop + cut.trailing.length) :
    lineStartAfter true before' = false := by
  obtain ⟨_, frame, mark, quote, fits⟩ := cut?_eq_some_iff.1 located.found
  let front := before ++ (cut.indent ++ importWord ++ frame ++ (quote :: specifier))
  have shown : before ++ occurrence.original = front ++ quote :: mark := by
    rw [located.original_eq, fits.statement]
    simp [front]
  have whole : code = (before ++ occurrence.original) ++ cut.trailing ++ cut.rest := by
    rw [located.code_eq, List.append_assoc _ cut.trailing]
  have stop : occurrence.stop = (before ++ occurrence.original).length := by
    rw [located.stop_eq, located.start_eq, List.length_append]
  have statement : before ++ occurrence.original <+: before' :=
    List.prefix_of_prefix_length_le ⟨cut.trailing ++ cut.rest, by simp [whole]⟩ inside (stop ▸ low)
  have line : before' <+: (before ++ occurrence.original) ++ cut.trailing := by
    refine List.prefix_of_prefix_length_le inside ⟨cut.rest, whole.symm⟩ ?_
    rw [List.length_append, ← stop]
    exact high
  obtain ⟨tail, rfl⟩ := statement
  rw [List.prefix_append_right_inj] at line
  have inLine : quote :: (mark ++ tail) <+: quote :: (mark ++ cut.trailing) :=
    List.cons_prefix_cons.2 ⟨rfl, (List.prefix_append_right_inj mark).2 line⟩
  have flat : ∀ c ∈ quote :: (mark ++ tail), c ≠ '\n' := fun c hc =>
    fits.closing_flat c (inLine.subset hc)
  rw [shown, List.append_assoc, List.cons_append, lineStartAfter_append,
    lineStartAfter_flat flat (by simp)]

section
variable {α : Type} {startsAt : Nat → α → Prop} {stop : α → Nat} {view : α → Occurrence}

/-- A search for what starts just where statements do finds the statements. -/
theorem exists_leftmost_findFrom
    (only : ∀ position x, startsAt position x → ∃ before after cut occurrence,
      Located specifier code before after cut occurrence ∧ before.length = position)
    (each : ∀ before after cut occurrence, Located specifier code before after cut occurrence →
      ∃ x, startsAt before.length x ∧ view x = occurrence ∧ occurrence.stop ≤ stop x ∧
        stop x ≤ occurrence.stop + cut.trailing.length)
    {before s : List Char} (split : code = before ++ s) {lineStart : Bool} {position : Nat}
    (line : lineStart = lineStartAfter true before) (length : position = before.length) :
    ∃ found, Leftmost startsAt stop position found ∧
      found.map view = findFrom specifier position lineStart s := by
  fun_induction findFrom specifier position lineStart s generalizing before with
  | case1 position lineStart s cut found ih =>
    obtain ⟨starts, here⟩ : lineStart = true ∧ cut? specifier s = some cut := by
      split at found
      · rename_i starts
        exact ⟨starts, found⟩
      · cases found
    let text := cut.indent ++ cut.statement ++ cut.trailing
    have located : Located specifier code before s cut (cut.occurrence position) :=
      ⟨split, line ▸ starts, here, by rw [length]⟩
    have behind : code = (before ++ text) ++ cut.rest := by
      rw [split, append_of_cut? here, List.append_assoc before]
    have flat : false = lineStartAfter true (before ++ text) := by
      obtain ⟨_, frame, mark, quote, fits⟩ := cut?_eq_some_iff.1 here
      rw [lineStartAfter_append, fits.lineStartAfter_line]
    obtain ⟨x, starting, shown, low, high⟩ := each _ _ _ _ located
    obtain ⟨others, search, views⟩ := ih behind flat (by simp [length, text])
    rw [← length] at starting
    have lineEnd : (cut.occurrence position).stop + cut.trailing.length = position + text.length := by
      simp only [Cut.occurrence, text, List.length_append]
      omega
    rw [lineEnd] at high
    refine ⟨x :: others, .next (Nat.le_refl _) (by omega) starting (search.back high ?_), ?_⟩
    · intro place above below y other
      obtain ⟨front, after, _, _, otherLocated, rfl⟩ := only _ _ other
      have none := located.not_starts_behind ⟨after, otherLocated.split.symm⟩ (by omega) (by omega)
      rw [otherLocated.starts] at none
      cases none
    · rw [List.map_cons, shown, views]
  | case2 position lineStart found =>
    refine ⟨[], .done fun place above x other => ?_, rfl⟩
    obtain ⟨front, after, _, _, otherLocated, rfl⟩ := only _ _ other
    have whole := congrArg List.length (split.symm.trans otherLocated.split)
    have nothing : after = [] := by
      simp only [List.length_append, List.length_nil] at whole
      exact List.length_eq_zero_iff.1 (by omega)
    rw [nothing] at otherLocated
    have here := otherLocated.found
    rw [cut?_nil] at here
    cases here
  | case3 position lineStart c rest found ih =>
    have behind : code = (before ++ [c]) ++ rest := by rw [split, List.append_assoc]; rfl
    have flat : (c == '\n') = lineStartAfter true (before ++ [c]) := by
      rw [lineStartAfter_append]
      rfl
    obtain ⟨others, search, views⟩ := ih behind flat (by simp [length])
    refine ⟨others, search.back (by omega) ?_, views⟩
    intro place above below x other
    obtain ⟨front, after, _, _, otherLocated, here⟩ := only _ _ other
    obtain ⟨rfl, rfl⟩ := List.append_inj (otherLocated.split.symm.trans split) (by omega)
    rw [line, if_pos otherLocated.starts, otherLocated.found] at found
    cases found

theorem exists_leftmost_find {specifier : String}
    (only : ∀ position x, startsAt position x → ∃ before after cut occurrence,
      Located specifier.toList code before after cut occurrence ∧ before.length = position)
    (each : ∀ before after cut occurrence,
      Located specifier.toList code before after cut occurrence →
      ∃ x, startsAt before.length x ∧ view x = occurrence ∧ occurrence.stop ≤ stop x ∧
        stop x ≤ occurrence.stop + cut.trailing.length) :
    ∃ found, Leftmost startsAt stop 0 found ∧ found.map view = find specifier code :=
  exists_leftmost_findFrom only each (List.nil_append code).symm rfl rfl

end

end

/-! ## The first quote -/

/-- A line that starts with a statement, in its pieces: the blanks in front, those around the clause, and
those behind `from`; the quote; what stands between the closing quote and the end of the line; and the text
from there. -/
structure Spelling where
  indent : List Char
  lead : List Char
  clause : List Char
  gap : List Char
  sourceGap : List Char
  quote : Char
  blanks : List Char
  semicolon : Bool
  more : List Char
  returned : Bool
  rest : List Char

namespace Spelling

/-- What stands between `import` and the first quote. -/
def frame (spelling : Spelling) : List Char :=
  spelling.lead ++ spelling.clause ++ spelling.gap ++ fromWord ++ spelling.sourceGap

/-- What belongs to the statement behind its closing quote. -/
def mark (spelling : Spelling) : List Char :=
  if spelling.semicolon then spelling.blanks ++ [';'] else spelling.blanks ++ spelling.more

def statement (specifier : List Char) (spelling : Spelling) : List Char :=
  importWord ++ spelling.frame ++ (spelling.quote :: specifier ++ [spelling.quote]) ++ spelling.mark

def text (specifier : List Char) (spelling : Spelling) : List Char :=
  spelling.indent ++ importWord ++ spelling.frame ++
    (spelling.quote :: specifier ++ [spelling.quote]) ++ spelling.blanks ++
    (if spelling.semicolon then [';'] else []) ++ spelling.more ++
    (if spelling.returned then ['\r'] else []) ++ spelling.rest

/-- The blanks are such, the clause is something between two of them, and in front of the quote there is
neither a quote nor a semicolon. -/
structure Proper (spelling : Spelling) : Prop where
  indent : ∀ c ∈ spelling.indent, isSpaceOrTab c = true
  lead : IsGap spelling.lead
  clause : spelling.clause ≠ []
  gap : IsGap spelling.gap
  sourceGap : IsGap spelling.sourceGap
  plain : ∀ c ∈ spelling.frame, isQuote c = false ∧ c ≠ ';'
  quoted : isQuote spelling.quote = true
  blanks : ∀ c ∈ spelling.blanks, isSpaceOrTab c = true
  more : ∀ c ∈ spelling.more, isSpaceOrTab c = true
  rest : spelling.rest = [] ∨ ∃ below, spelling.rest = '\n' :: below

/-- The statement as an occurrence at a position: it stops behind the semicolon, or else behind the blanks
that follow the closing quote. -/
def occurrence (specifier : List Char) (spelling : Spelling) (position : Nat) : Occurrence where
  original := spelling.indent ++ spelling.statement specifier
  statement := trim (spelling.statement specifier)
  start := position
  stop := position + (spelling.indent ++ spelling.statement specifier).length
  indent := spelling.indent
  newline := if spelling.returned then ['\r', '\n'] else ['\n']

/-- The same pieces, as a line is cut. -/
def cut (specifier : List Char) (spelling : Spelling) : Cut where
  indent := spelling.indent
  statement := spelling.statement specifier
  trailing := (if spelling.semicolon then spelling.more else []) ++
    (if spelling.returned then ['\r'] else [])
  newline := if spelling.returned then ['\r', '\n'] else ['\n']
  rest := spelling.rest

@[simp]
theorem cut_indent (specifier : List Char) (spelling : Spelling) :
    (spelling.cut specifier).indent = spelling.indent :=
  rfl

theorem text_eq (specifier : List Char) (spelling : Spelling) :
    spelling.text specifier = (spelling.cut specifier).text := by
  cases h : spelling.semicolon <;> simp [text, cut, Cut.text, statement, mark, h]

theorem Proper.fits {spelling : Spelling} (proper : spelling.Proper) (specifier : List Char) :
    (spelling.cut specifier).Fits specifier spelling.frame spelling.mark spelling.quote := by
  have ending : LineEnding (if spelling.returned then ['\r'] else [])
      (if spelling.returned then ['\r', '\n'] else ['\n']) := by
    cases spelling.returned
    · exact .inl ⟨rfl, rfl⟩
    · exact .inr ⟨rfl, rfl⟩
  refine ⟨proper.indent, fun c hc => ?_, framesClause_of_pieces proper.lead proper.clause proper.gap
    proper.sourceGap, proper.quoted, ?_, proper.rest, rfl⟩
  · obtain ⟨quote, semicolon⟩ := proper.plain c hc
    simp [isClauseChar, quote, semicolon]
  · cases h : spelling.semicolon
    · simpa [cut, mark, h] using
        LineTail.unmarked (List.forall_mem_append.2 ⟨proper.blanks, proper.more⟩) ending
    · simpa [cut, mark, h] using LineTail.marked proper.blanks proper.more ending

end Spelling

/-- Every line that can be cut is spelled so. -/
theorem Cut.Fits.exists_spelling {specifier frame mark : List Char} {quote : Char} {cut : Cut}
    (fits : cut.Fits specifier frame mark quote) :
    ∃ spelling : Spelling, spelling.Proper ∧ spelling.cut specifier = cut := by
  obtain ⟨lead, clause, gap, sourceGap, hl, hc, hg, hs, rfl⟩ :=
    exists_pieces_of_framesClause fits.framed
  have plain : ∀ c ∈ lead ++ clause ++ gap ++ fromWord ++ sourceGap, isQuote c = false ∧ c ≠ ';' := by
    intro c mem
    simpa [isClauseChar] using fits.clause c mem
  obtain ⟨indent, statement, trailing, newline, rest⟩ := cut
  obtain ⟨hi, -, -, quoted, tail, atEnd, rfl⟩ := fits
  dsimp only at hi tail atEnd
  cases tail with
  | @marked blanks more shown newline hb hm ending =>
    refine ⟨⟨indent, lead, clause, gap, sourceGap, quote, blanks, true, more, !shown.isEmpty, rest⟩,
      ⟨hi, hl, hc, hg, hs, plain, quoted, hb, hm, atEnd⟩, ?_⟩
    rcases ending with ⟨rfl, rfl⟩ | ⟨rfl, rfl⟩ <;> rfl
  | @unmarked blanks shown newline hb ending =>
    refine ⟨⟨indent, lead, clause, gap, sourceGap, quote, mark, false, [], !trailing.isEmpty, rest⟩,
      ⟨hi, hl, hc, hg, hs, plain, quoted, hb, by simp, atEnd⟩, ?_⟩
    rcases ending with ⟨rfl, rfl⟩ | ⟨rfl, rfl⟩ <;> simp [Spelling.cut, Spelling.statement,
      Spelling.mark, Spelling.frame]

variable {specifier code : List Char} {position : Nat} {occurrence : Occurrence}

/-- At the position a line starts, and is spelled as a statement of the module. -/
def SpelledAt (specifier code : List Char) (position : Nat) (occurrence : Occurrence) : Prop :=
  ∃ before spelling, code = before ++ Spelling.text specifier spelling ∧ before.length = position ∧
    (before = [] ∨ before.getLast? = some '\n') ∧ spelling.Proper ∧
    occurrence = spelling.occurrence specifier position

theorem spelledAt_iff : SpelledAt specifier code position occurrence ↔
    ∃ before after cut, Located specifier code before after cut occurrence ∧
      before.length = position := by
  constructor
  · rintro ⟨before, spelling, split, length, line, proper, rfl⟩
    refine ⟨before, _, spelling.cut specifier, ⟨split, lineStartAfter_eq_true_iff.2 line, ?_, ?_⟩,
      length⟩
    · exact cut?_eq_some_iff.2 ⟨spelling.text_eq specifier, _, _, _, proper.fits specifier⟩
    · rw [length]
      rfl
  · rintro ⟨before, after, cut, ⟨split, starts, found, rfl⟩, length⟩
    obtain ⟨rfl, frame, mark, quote, fits⟩ := cut?_eq_some_iff.1 found
    obtain ⟨spelling, proper, rfl⟩ := fits.exists_spelling
    exact ⟨before, spelling, by rw [split, spelling.text_eq], length,
      lineStartAfter_eq_true_iff.1 starts, proper, by rw [length]; rfl⟩

theorem Located.unique {before after before' after' : List Char} {cut cut' : Cut}
    {other : Occurrence} (a : Located specifier code before after cut occurrence)
    (b : Located specifier code before' after' cut' other) (same : before.length = before'.length) :
    occurrence = other := by
  obtain ⟨rfl, rfl⟩ := List.append_inj (a.split.symm.trans b.split) same
  obtain rfl : cut = cut' := Option.some.inj (a.found.symm.trans b.found)
  rw [a.eq, b.eq]

/-- The pattern matches where a line is spelled as a statement. -/
theorem exists_matchesAt_iff : (∃ found, MatchesAt specifier code position found) ↔
    ∃ occurrence, SpelledAt specifier code position occurrence := by
  constructor
  · rintro ⟨found, here⟩
    obtain ⟨before, after, cut, occurrence, located, length⟩ := here.exists_located
    exact ⟨occurrence, spelledAt_iff.2 ⟨before, after, cut, located, length⟩⟩
  · rintro ⟨occurrence, spelled⟩
    obtain ⟨before, after, cut, located, rfl⟩ := spelledAt_iff.1 spelled
    obtain ⟨found, here, _⟩ := located.exists_matchesAt
    exact ⟨found, here⟩

/-- The statements that are found are read off the matches of the pattern. -/
theorem exists_matches (specifier : String) (code : List Char) :
    ∃ found, (∀ other, Leftmost (MatchesAt specifier.toList code) Match.stop 0 other ↔
      other = found) ∧ found.map (occurrenceOf code) = find specifier code := by
  have each (before after : List Char) (cut : Cut) (occurrence : Occurrence)
      (located : Located specifier.toList code before after cut occurrence) :
      ∃ x, MatchesAt specifier.toList code before.length x ∧ occurrenceOf code x = occurrence ∧
        occurrence.stop ≤ x.stop ∧ x.stop ≤ occurrence.stop + cut.trailing.length := by
    obtain ⟨found, here, shown, stop⟩ := located.exists_matchesAt
    exact ⟨found, here, shown, by omega, by omega⟩
  have only (position : Nat) (x : Match Part) (h : MatchesAt specifier.toList code position x) :
      ∃ before after cut occurrence,
        Located specifier.toList code before after cut occurrence ∧ before.length = position :=
    h.exists_located
  obtain ⟨found, search, views⟩ := exists_leftmost_find only each
  refine ⟨found, fun other => ⟨fun again => ?_, fun same => same ▸ search⟩, views⟩
  exact again.unique (fun place x y hx hy => Option.some.inj (hx.symm.trans hy)) search

/-- The statements that are found are spelled so, each the first one behind the one before it. -/
theorem leftmost_spelledAt_iff (specifier : String) (code : List Char) {found : List Occurrence} :
    Leftmost (SpelledAt specifier.toList code) Occurrence.stop 0 found ↔
      found = find specifier code := by
  have only (position : Nat) (x : Occurrence) (h : SpelledAt specifier.toList code position x) :
      ∃ before after cut occurrence,
        Located specifier.toList code before after cut occurrence ∧ before.length = position := by
    obtain ⟨before, after, cut, located, length⟩ := spelledAt_iff.1 h
    exact ⟨before, after, cut, x, located, length⟩
  have each (before after : List Char) (cut : Cut) (occurrence : Occurrence)
      (located : Located specifier.toList code before after cut occurrence) :
      ∃ x, SpelledAt specifier.toList code before.length x ∧ id x = occurrence ∧
        occurrence.stop ≤ x.stop ∧ x.stop ≤ occurrence.stop + cut.trailing.length :=
    ⟨occurrence, spelledAt_iff.2 ⟨before, after, cut, located, rfl⟩, rfl, Nat.le_refl _,
      Nat.le_add_right ..⟩
  obtain ⟨all, search, views⟩ := exists_leftmost_find only each
  rw [List.map_id] at views
  subst views
  constructor
  · intro again
    refine again.unique (fun place x y hx hy => ?_) search
    obtain ⟨_, _, _, a, la⟩ := spelledAt_iff.1 hx
    obtain ⟨_, _, _, b, lb⟩ := spelledAt_iff.1 hy
    exact a.unique b (la.trans lb.symm)
  · rintro rfl
    exact search

/-- **Locating.** The pattern matches just where a line starts that is spelled as a statement of the module:
`import`, a clause between blanks and `from` without quotes and semicolons, and the name behind the first
quote. To take its matches one after the other is to take each time the first such line that is left, and
both give the statements that are found. -/
theorem find_leftmost (specifier : String) (code : List Char) :
    (∀ position, (∃ found, MatchesAt specifier.toList code position found) ↔
      ∃ occurrence, SpelledAt specifier.toList code position occurrence) ∧
    (∃ found, (∀ other, Leftmost (MatchesAt specifier.toList code) Match.stop 0 other ↔
      other = found) ∧ found.map (occurrenceOf code) = find specifier code) ∧
    ∀ found, Leftmost (SpelledAt specifier.toList code) Occurrence.stop 0 found ↔
      found = find specifier code :=
  ⟨fun _ => exists_matchesAt_iff, exists_matches specifier code,
    fun _ => leftmost_spelledAt_iff specifier code⟩

end VirtualImports.Statement
