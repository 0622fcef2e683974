import VirtualImports.Proofs.Text.Runs
import VirtualImports.Statement.Occurrence

/-!
The shape of a located statement.

* `cut?_eq_some_iff`: a cut is found exactly where the text is an indentation, `import`, a frame
  without quotes and semicolons, the quoted specifier and a tail up to the end of the line;
* `eq_append_of_cut?_quote`: the specifier stands behind the first quote of the text;
* `cut?_eq_none_inside`: within the statement of one module no line starts a statement of
  another.
-/
namespace VirtualImports.Statement

open Text

def importWord : List Char := ['i', 'm', 'p', 'o', 'r', 't']

/-- The end of the text, or a line break. -/
def AtLineEnd (s : List Char) : Prop :=
  s = [] ∨ ∃ rest, s = '\n' :: rest

/-- The ending of a line as written in front of its line break, and in full. -/
def LineEnding (shown newline : List Char) : Prop :=
  (shown = [] ∧ newline = ['\n']) ∨ (shown = ['\r'] ∧ newline = ['\r', '\n'])

/-- What stands between the closing quote and the line break: the part that belongs to the
statement, and the part that does not. Blanks without a semicolon belong to the statement. -/
inductive LineTail : List Char → List Char → List Char → Prop
  | marked {blanks more shown newline : List Char} (hb : ∀ c ∈ blanks, isSpaceOrTab c = true)
      (hm : ∀ c ∈ more, isSpaceOrTab c = true) (ending : LineEnding shown newline) :
      LineTail (blanks ++ [';']) (more ++ shown) newline
  | unmarked {blanks shown newline : List Char} (hb : ∀ c ∈ blanks, isSpaceOrTab c = true)
      (ending : LineEnding shown newline) : LineTail blanks shown newline

theorem AtLineEnd.stops {p : Char → Bool} {s : List Char} (h : AtLineEnd s)
    (hp : p '\n' = false) : Stops p s := by
  rcases h with rfl | ⟨rest, rfl⟩ <;> simp [hp]

theorem LineEnding.stops {shown newline s : List Char} (h : LineEnding shown newline)
    (hs : AtLineEnd s) : Stops isSpaceOrTab (shown ++ s) := by
  rcases h with ⟨rfl, _⟩ | ⟨rfl, _⟩
  · exact hs.stops (by decide)
  · simp; decide

theorem lineEnd?_eq_some_iff {s trailing newline rest : List Char} :
    lineEnd? s = some (trailing, newline, rest) ↔
      ∃ blanks shown, (∀ c ∈ blanks, isSpaceOrTab c = true) ∧ LineEnding shown newline ∧
        AtLineEnd rest ∧ trailing = blanks ++ shown ∧ s = trailing ++ rest := by
  constructor
  · intro h
    have whole := append_of_lineEnd? h
    have blank : ∀ c ∈ s.takeWhile isSpaceOrTab, isSpaceOrTab c = true :=
      fun c hc => List.mem_takeWhile_imp hc
    simp only [lineEnd?] at h
    split at h <;> simp only [Option.some.injEq, Prod.mk.injEq, reduceCtorEq] at h
    · obtain ⟨rfl, rfl, rfl⟩ := h
      exact ⟨_, [], blank, .inl ⟨rfl, rfl⟩, .inl rfl, by simp, whole⟩
    · obtain ⟨rfl, rfl, rfl⟩ := h
      exact ⟨_, [], blank, .inl ⟨rfl, rfl⟩, .inr ⟨_, rfl⟩, by simp, whole⟩
    · obtain ⟨rfl, rfl, rfl⟩ := h
      exact ⟨_, ['\r'], blank, .inr ⟨rfl, rfl⟩, .inl rfl, rfl, whole⟩
    · obtain ⟨rfl, rfl, rfl⟩ := h
      exact ⟨_, ['\r'], blank, .inr ⟨rfl, rfl⟩, .inr ⟨_, rfl⟩, rfl, whole⟩
  · rintro ⟨blanks, shown, hb, ending, atEnd, rfl, rfl⟩
    have stop := ending.stops atEnd
    simp only [lineEnd?, List.append_assoc, takeWhile_run hb stop, dropWhile_run hb stop]
    rcases ending with ⟨rfl, rfl⟩ | ⟨rfl, rfl⟩ <;> rcases atEnd with rfl | ⟨rest, rfl⟩ <;> simp

theorem closing_eq_of_mark {blanks rest : List Char} (hb : ∀ c ∈ blanks, isSpaceOrTab c = true) :
    closing (blanks ++ ';' :: rest) = (blanks ++ [';'], rest) := by
  have stop : Stops isSpaceOrTab (';' :: rest) := by simp; decide
  simp only [closing, takeWhile_run hb stop, dropWhile_run hb stop]

theorem closing_eq_of_stops {blanks rest : List Char} (hb : ∀ c ∈ blanks, isSpaceOrTab c = true)
    (stop : Stops isSpaceOrTab rest) (hs : rest.head? ≠ some ';') :
    closing (blanks ++ rest) = (blanks, rest) := by
  simp only [closing, takeWhile_run hb stop, dropWhile_run hb stop]
  split <;> simp_all

/-- The end of the line of a statement, read behind the closing quote. -/
theorem tail_iff {s mark trailing newline rest : List Char} :
    (closing s).1 = mark ∧ lineEnd? (closing s).2 = some (trailing, newline, rest) ↔
      LineTail mark trailing newline ∧ AtLineEnd rest ∧ s = mark ++ trailing ++ rest := by
  constructor
  · rintro ⟨rfl, h⟩
    have whole := closing_append s
    obtain ⟨more, shown, hm, ending, atEnd, rfl, line⟩ := lineEnd?_eq_some_iff.1 h
    rw [line] at whole
    refine ⟨?_, atEnd, by simpa using whole.symm⟩
    have blank : ∀ c ∈ s.takeWhile isSpaceOrTab, isSpaceOrTab c = true :=
      fun c hc => List.mem_takeWhile_imp hc
    have stop := stops_dropWhile isSpaceOrTab s
    clear whole
    unfold closing at line ⊢
    split at line
    · exact .marked blank hm ending
    · -- without a semicolon the blanks are all taken, so none are left over
      dsimp only at line ⊢
      rw [line] at stop
      cases more with
      | nil => exact .unmarked blank ending
      | cons c more => simp [hm c (by simp)] at stop
  · rintro ⟨tail, atEnd, rfl⟩
    rw [List.append_assoc]
    cases tail with
    | marked hb hm ending =>
      rw [List.append_assoc, List.singleton_append, closing_eq_of_mark hb]
      exact ⟨rfl, lineEnd?_eq_some_iff.2 ⟨_, _, hm, ending, atEnd, rfl, rfl⟩⟩
    | unmarked hb ending =>
      have head : (trailing ++ rest).head? ≠ some ';' := by
        rcases ending with ⟨rfl, _⟩ | ⟨rfl, _⟩ <;> rcases atEnd with rfl | ⟨rest, rfl⟩ <;> simp
      rw [closing_eq_of_stops hb (ending.stops atEnd) head]
      exact ⟨rfl, lineEnd?_eq_some_iff.2 ⟨[], _, by simp, ending, atEnd, rfl, rfl⟩⟩

/-- The pieces of a cut: its statement is `import`, the frame, the specifier between two quotes of
one kind, and the mark that ends it. -/
structure Cut.Fits (specifier frame mark : List Char) (quote : Char) (cut : Cut) : Prop where
  indent : ∀ c ∈ cut.indent, isSpaceOrTab c = true
  clause : ∀ c ∈ frame, isClauseChar c = true
  framed : framesClause frame = true
  quoted : isQuote quote = true
  tail : LineTail mark cut.trailing cut.newline
  atEnd : AtLineEnd cut.rest
  statement : cut.statement = importWord ++ frame ++ (quote :: specifier ++ [quote]) ++ mark

/-- The text that a cut is made from. -/
def Cut.text (cut : Cut) : List Char :=
  cut.indent ++ cut.statement ++ cut.trailing ++ cut.rest

theorem shown_of_quotedSpecifier? {specifier s shown rest : List Char}
    (h : quotedSpecifier? specifier s = some (shown, rest)) :
    ∃ quote, isQuote quote = true ∧ shown = quote :: specifier ++ [quote] := by
  unfold quotedSpecifier? at h
  split at h
  · cases h
  · rename_i quote body
    split at h
    · rename_i hq
      split at h
      · cases h
      · simp only [Option.some.injEq, Prod.mk.injEq] at h
        exact ⟨quote, hq, h.1.symm⟩
    · cases h

theorem quotedSpecifier?_append {quote : Char} (hq : isQuote quote = true)
    (specifier rest : List Char) :
    quotedSpecifier? specifier ((quote :: specifier ++ [quote]) ++ rest) =
      some (quote :: specifier ++ [quote], rest) := by
  have found : after? (specifier ++ [quote]) (specifier ++ quote :: rest) = some rest := by
    simpa using after?_append (specifier ++ [quote]) rest
  simp [quotedSpecifier?, hq, found]

theorem isClauseChar_of_isQuote {c : Char} (h : isQuote c = true) : isClauseChar c = false := by
  simp [isClauseChar, h]

theorem isQuote_of_isClauseChar {c : Char} (h : isClauseChar c = true) : isQuote c = false := by
  simp only [isClauseChar, Bool.and_eq_true, Bool.not_eq_true'] at h
  exact h.1

theorem isClauseChar_of_isBlank {c : Char} (h : isBlank c = true) : isClauseChar c = true := by
  have other : c ≠ ';' := by
    rintro rfl
    revert h
    decide
  simp [isClauseChar, isQuote_of_isBlank h, other]

theorem isClauseChar_of_forall_isBlank {s : List Char} (h : ∀ c ∈ s, isBlank c = true) :
    ∀ c ∈ s, isClauseChar c = true :=
  fun c hc => isClauseChar_of_isBlank (h c hc)

theorem Cut.Fits.text_eq {specifier frame mark : List Char} {quote : Char} {cut : Cut}
    (fits : cut.Fits specifier frame mark quote) :
    cut.text = cut.indent ++ (importWord ++ (frame ++
      ((quote :: specifier ++ [quote]) ++ (mark ++ cut.trailing ++ cut.rest)))) := by
  simp [Cut.text, fits.statement]

theorem cut?_of_fits {specifier frame mark : List Char} {quote : Char} {cut : Cut}
    (fits : cut.Fits specifier frame mark quote) : cut? specifier cut.text = some cut := by
  have statement := fits.statement
  rw [fits.text_eq]
  obtain ⟨indent, clause, framed, hq, tail, atEnd, _⟩ := fits
  generalize hb : mark ++ cut.trailing ++ cut.rest = behind
  obtain ⟨closed, line⟩ := tail_iff.2 ⟨tail, atEnd, hb.symm⟩
  have source := quotedSpecifier?_append hq specifier behind
  have stop : Stops isClauseChar ((quote :: specifier ++ [quote]) ++ behind) := by
    simp [isClauseChar_of_isQuote hq]
  generalize (quote :: specifier ++ [quote]) ++ behind = shown at source stop
  have keyword : after? ['i', 'm', 'p', 'o', 'r', 't'] (importWord ++ (frame ++ shown)) =
      some (frame ++ shown) := after?_append importWord _
  have word : Stops isSpaceOrTab (importWord ++ (frame ++ shown)) := by
    simp [importWord]; decide
  simp only [cut?, takeWhile_run indent word, dropWhile_run indent word, keyword,
    Option.bind_eq_bind, Option.bind_some, takeWhile_run clause stop, dropWhile_run clause stop,
    framed, if_true, source, line, closed]
  rw [← importWord, ← statement]

theorem fits_of_cut? {specifier s : List Char} {cut : Cut} (h : cut? specifier s = some cut) :
    ∃ frame mark quote, cut.Fits specifier frame mark quote := by
  unfold cut? at h
  simp only [Option.bind_eq_bind, Option.bind_eq_some_iff] at h
  obtain ⟨afterKeyword, keyword, h⟩ := h
  split at h
  · rename_i framed
    simp only [Option.bind_eq_some_iff, Option.some.injEq] at h
    obtain ⟨⟨shown, behind⟩, source, ⟨trailing, newline, rest⟩, line, rfl⟩ := h
    obtain ⟨quote, hq, rfl⟩ := shown_of_quotedSpecifier? source
    obtain ⟨tail, atEnd, _⟩ := tail_iff.1 ⟨rfl, line⟩
    exact ⟨_, _, quote, fun c hc => List.mem_takeWhile_imp hc,
      fun c hc => List.mem_takeWhile_imp hc, framed, hq, tail, atEnd, rfl⟩
  · cases h

/-- **What a cut is.** A statement of a module is found at the start of a line exactly where the
text has its shape. -/
theorem cut?_eq_some_iff {specifier s : List Char} {cut : Cut} :
    cut? specifier s = some cut ↔
      s = cut.text ∧ ∃ frame mark quote, cut.Fits specifier frame mark quote := by
  constructor
  · intro h
    exact ⟨append_of_cut? h, fits_of_cut? h⟩
  · rintro ⟨rfl, frame, mark, quote, fits⟩
    exact cut?_of_fits fits

theorem text_of_cut? {specifier s : List Char} {cut : Cut} (h : cut? specifier s = some cut) :
    cut.text = s :=
  (append_of_cut? h).symm

/-- A statement is cut from its line whatever line follows. -/
theorem cut?_of_rest {specifier : List Char} {cut : Cut} (h : cut? specifier cut.text = some cut)
    {rest : List Char} (atEnd : AtLineEnd rest) :
    cut? specifier (Cut.text { cut with rest := rest }) = some { cut with rest := rest } := by
  obtain ⟨_, frame, mark, quote, fits⟩ := cut?_eq_some_iff.1 h
  exact cut?_eq_some_iff.2 ⟨rfl, frame, mark, quote, ⟨fits.indent, fits.clause, fits.framed,
    fits.quoted, fits.tail, atEnd, fits.statement⟩⟩

theorem unquoted_importWord : Unquoted importWord := by decide

theorem Cut.Fits.unquoted {specifier frame mark : List Char} {quote : Char} {cut : Cut}
    (fits : cut.Fits specifier frame mark quote) :
    Unquoted (cut.indent ++ (importWord ++ frame)) := by
  simp only [unquoted_append]
  exact ⟨fun c hc => isQuote_of_isSpaceOrTab (fits.indent c hc), unquoted_importWord,
    fun c hc => isQuote_of_isClauseChar (fits.clause c hc)⟩

/-- The specifier of a statement stands behind the first quote of the text. -/
theorem eq_append_of_cut?_quote {specifier before after : List Char} {quote : Char} {cut : Cut}
    (h : cut? specifier (before ++ quote :: after) = some cut) (hb : Unquoted before)
    (hq : isQuote quote = true) : ∃ behind, after = specifier ++ quote :: behind := by
  obtain ⟨text, frame, mark, opening, fits⟩ := cut?_eq_some_iff.1 h
  rw [fits.text_eq] at text
  have split : before ++ quote :: after = (cut.indent ++ (importWord ++ frame)) ++
      opening :: (specifier ++ opening :: (mark ++ cut.trailing ++ cut.rest)) := by
    simpa using text
  obtain ⟨_, rfl, rest⟩ := append_cons_inj hb hq fits.unquoted fits.quoted split
  exact ⟨_, rest⟩

/-- The mark that ends a statement are blanks, or blanks with a semicolon. -/
theorem LineTail.mark_cases {mark trailing newline : List Char}
    (h : LineTail mark trailing newline) :
    (∀ c ∈ mark, isSpaceOrTab c = true) ∨
      ∃ blanks, (∀ c ∈ blanks, isSpaceOrTab c = true) ∧ mark = blanks ++ [';'] := by
  cases h with
  | marked hb hm ending => exact .inr ⟨_, hb, rfl⟩
  | unmarked hb ending => exact .inl hb

theorem LineTail.cases_of_mem_mark {mark trailing newline : List Char}
    (h : LineTail mark trailing newline) {c : Char} (mem : c ∈ mark) :
    isSpaceOrTab c = true ∨ c = ';' := by
  rcases h.mark_cases with blank | ⟨blanks, blank, rfl⟩
  · exact .inl (blank c mem)
  · rcases List.mem_append.1 mem with mem | mem
    · exact .inl (blank c mem)
    · exact .inr (List.mem_singleton.1 mem)

theorem LineTail.mark_ne_return {mark trailing newline : List Char}
    (h : LineTail mark trailing newline) : ∀ c ∈ mark, c ≠ '\r' := by
  rintro c mem rfl
  rcases h.cases_of_mem_mark mem with blank | semicolon
  · exact absurd blank (by decide)
  · exact absurd semicolon (by decide)

theorem LineTail.cases_of_mem {mark trailing newline : List Char}
    (h : LineTail mark trailing newline) {c : Char} (mem : c ∈ mark ++ trailing) :
    isSpaceOrTab c = true ∨ c = ';' ∨ c = '\r' := by
  have shown {shown newline : List Char} (ending : LineEnding shown newline) (mem : c ∈ shown) :
      c = '\r' := by
    rcases ending with ⟨rfl, _⟩ | ⟨rfl, _⟩
    · cases mem
    · exact List.mem_singleton.1 mem
  rcases List.mem_append.1 mem with before | behind
  · rcases h.cases_of_mem_mark before with blank | semicolon
    · exact .inl blank
    · exact .inr (.inl semicolon)
  cases h with
  | marked hb hm ending =>
    rcases List.mem_append.1 behind with more | last
    · exact .inl (hm c more)
    · exact .inr (.inr (shown ending last))
  | unmarked hb ending => exact .inr (.inr (shown ending behind))

theorem LineTail.plain {mark trailing newline : List Char} (h : LineTail mark trailing newline) :
    Plain (mark ++ trailing) := by
  constructor
  · intro c mem
    rcases h.cases_of_mem mem with blank | rfl | rfl
    · exact isQuote_of_isSpaceOrTab blank
    · decide
    · decide
  · intro c mem
    rcases h.cases_of_mem mem with blank | rfl | rfl
    · exact ne_newline_of_isSpaceOrTab blank
    · decide
    · decide

theorem Cut.Fits.closing_flat {specifier frame mark : List Char} {quote : Char} {cut : Cut}
    (fits : cut.Fits specifier frame mark quote) :
    ∀ c ∈ quote :: (mark ++ cut.trailing), c ≠ '\n' :=
  List.forall_mem_cons.2 ⟨ne_newline_of_isQuote fits.quoted, fits.tail.plain.flat⟩

/-- What follows the closing quote starts with a blank or a semicolon, if there is anything. -/
theorem LineTail.head {mark trailing newline rest : List Char}
    (h : LineTail mark trailing newline) (atEnd : AtLineEnd rest) :
    ∀ c ∈ (mark ++ trailing ++ rest).head?, isBlank c = true ∨ c = ';' := by
  have ending {shown newline : List Char} (he : LineEnding shown newline) :
      ∀ c ∈ (shown ++ rest).head?, isBlank c = true ∨ c = ';' := by
    rcases he with ⟨rfl, _⟩ | ⟨rfl, _⟩ <;> rcases atEnd with rfl | ⟨rest, rfl⟩ <;> simp <;> decide
  cases h with
  | @marked blanks more shown newline hb hm he =>
    cases blanks with
    | nil => simp
    | cons b blanks => simpa using .inl (isBlank_of_isSpaceOrTab (hb b (by simp)))
  | unmarked hb he =>
    cases mark with
    | nil => exact ending he
    | cons b blanks => simpa using .inl (isBlank_of_isSpaceOrTab (hb b (by simp)))

/-- A line that starts within a statement starts in front of its first quote, or else within its
specifier. -/
theorem Cut.Fits.line_inside {specifier frame mark x rest : List Char} {quote : Char} {cut : Cut}
    (fits : cut.Fits specifier frame mark quote) (text : x ++ rest = cut.text)
    (short : x.length ≤ (cut.indent ++ cut.statement ++ cut.trailing).length)
    (starts : lineStartAfter true x = true) :
    (∃ before, Unquoted before ∧
      rest = before ++ quote :: (specifier ++ quote :: (mark ++ cut.trailing ++ cut.rest))) ∨
    ('\n' ∈ specifier ∧ ∃ before, before <:+ specifier ∧
      rest = before ++ quote :: (mark ++ cut.trailing ++ cut.rest)) := by
  have split : x ++ rest = (cut.indent ++ (importWord ++ frame)) ++
      (quote :: (specifier ++ quote :: (mark ++ cut.trailing ++ cut.rest))) := by
    rw [text, fits.text_eq]; simp
  rcases List.append_eq_append_iff.1 split with ⟨before, hx, hrest⟩ | ⟨inner, hx, hrest⟩
  · have unquoted := fits.unquoted
    rw [hx, unquoted_append] at unquoted
    exact .inl ⟨before, unquoted.2, hrest⟩
  cases inner with
  | nil => exact .inl ⟨[], by simp, hrest.symm⟩
  | cons c inner =>
    simp only [List.cons_append, List.cons.injEq] at hrest
    obtain ⟨rfl, hrest⟩ := hrest
    have newline : '\n' ∈ inner := by
      by_contra absent
      have flat : ∀ d ∈ quote :: inner, d ≠ '\n' := List.forall_mem_cons.2
        ⟨ne_newline_of_isQuote fits.quoted, fun d hd => ne_of_mem_of_not_mem hd absent⟩
      rw [hx, lineStartAfter_append, lineStartAfter_flat flat (by simp)] at starts
      cases starts
    rcases List.append_eq_append_iff.1 hrest.symm with ⟨more, hs, behind⟩ | ⟨more, hi, behind⟩
    · refine .inr ⟨?_, more, ⟨inner, hs.symm⟩, behind⟩
      rw [hs]; exact List.mem_append_left _ newline
    cases more with
    | nil =>
      rw [List.append_nil] at hi
      exact .inr ⟨hi ▸ newline, [], List.nil_suffix, behind.symm⟩
    | cons d more =>
      -- behind the closing quote no line starts before the statement's own line ends
      exfalso
      simp only [List.cons_append, List.cons.injEq] at behind
      obtain ⟨rfl, behind⟩ := behind
      have inLine : more <+: mark ++ cut.trailing ++ cut.rest := ⟨rest, behind.symm⟩
      have inTail : more <+: mark ++ cut.trailing := by
        refine List.prefix_of_prefix_length_le inLine ⟨cut.rest, rfl⟩ ?_
        rw [hx, hi, fits.statement] at short
        simp only [List.length_append, List.length_cons, List.length_nil] at short ⊢
        omega
      have flat : ∀ e ∈ quote :: more, e ≠ '\n' := fun e he =>
        fits.closing_flat e (List.cons_subset_cons quote inTail.subset he)
      rw [hx, hi, ← List.cons_append, ← List.append_assoc, lineStartAfter_append,
        lineStartAfter_flat flat (by simp)] at starts
      cases starts

/-- At the end of the line of a statement, the name does not stand in front of a quote. -/
def OffLineEnd (name : List Char) : Prop :=
  ∀ mark trailing newline rest quote behind, LineTail mark trailing newline → AtLineEnd rest →
    isQuote quote = true → mark ++ trailing ++ rest ≠ name ++ quote :: behind

/-- A name that begins with something other than a blank or a semicolon. -/
theorem offLineEnd_of_head {name : List Char}
    (head : ∃ c ∈ name.head?, isBlank c = false ∧ c ≠ ';') : OffLineEnd name := by
  intro mark trailing newline rest quote behind tail atEnd _ same
  obtain ⟨c, hc, plain, semicolon⟩ := head
  have first := tail.head atEnd c
  rw [same, List.head?_append, Option.mem_def.1 hc] at first
  simp [plain, semicolon] at first

/-- A name without line breaks: the quote would stand on the line. -/
theorem offLineEnd_of_flat {name : List Char} (flat : ∀ c ∈ name, c ≠ '\n') : OffLineEnd name := by
  intro mark trailing newline rest quote behind tail atEnd quoted same
  have word : ∀ c ∈ name ++ [quote], c ≠ '\n' := by
    rw [List.forall_mem_append, List.forall_mem_singleton]
    exact ⟨flat, ne_newline_of_isQuote quoted⟩
  have inside : quote ∈ mark ++ trailing := by
    have split : (mark ++ trailing) ++ rest = (name ++ [quote]) ++ behind := by simpa using same
    rcases List.append_eq_append_iff.1 split with ⟨more, longer, below⟩ | ⟨more, longer, _⟩
    · cases more with
      | nil =>
        rw [List.append_nil] at longer
        rw [← longer]
        simp
      | cons c more =>
        rcases atEnd with rfl | ⟨rest, rfl⟩
        · cases below
        · obtain ⟨rfl, _⟩ := List.cons.inj below
          exact absurd rfl (word '\n' (by rw [longer]; simp))
    · simp [longer]
  rw [tail.plain.unquoted quote inside] at quoted
  cases quoted

/-- **A statement belongs to one module.** Where a line starts within the statement of a module,
no statement of another module starts. Behind a line that starts within the specifier only the end
of a line is left, where the other specifier would have to stand. -/
theorem cut?_eq_none_inside {first second x rest : List Char} {cut : Cut}
    (h : cut? first (x ++ rest) = some cut)
    (short : x.length ≤ (cut.indent ++ cut.statement ++ cut.trailing).length)
    (starts : lineStartAfter true x = true) (hf : Unquoted first) (hs : Unquoted second)
    (ne : first ≠ second)
    (apart : '\n' ∈ first → OffLineEnd second) : cut? second rest = none := by
  apply Option.eq_none_iff_forall_ne_some.2
  intro other found
  obtain ⟨text, frame, mark, quote, fits⟩ := cut?_eq_some_iff.1 h
  rcases fits.line_inside text short starts with
    ⟨before, unquoted, rfl⟩ | ⟨newline, before, inside, rfl⟩
  · -- both statements have the same first quote
    obtain ⟨_, same⟩ := eq_append_of_cut?_quote found unquoted fits.quoted
    exact ne (append_cons_inj hf fits.quoted hs fits.quoted same).1
  · obtain ⟨_, same⟩ := eq_append_of_cut?_quote found (fun c hc => hf c (inside.subset hc))
      fits.quoted
    exact apart newline _ _ _ _ _ _ fits.tail fits.atEnd fits.quoted same

end VirtualImports.Statement
