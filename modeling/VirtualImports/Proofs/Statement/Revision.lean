import VirtualImports.Proofs.Statement.Source
import VirtualImports.Proofs.Statement.Sweep

/-!
Statements after a revision: some statements of a text have given way to other text.

* `framesClause_append`: what stands in front of a frame belongs to it if it begins with a blank;
* `exists_rest_of_revise`: up to the next statement a text and its revision are the same;
* `cut?_revise_eq_none`: where no statement started, none starts in the revision;
* `Foreign.passes`: in foreign text no statement starts;
* `findFrom_revise`: a revision that brings in foreign statements only leaves the statements that
  it does not touch, and no others.
-/
namespace VirtualImports.Statement

open Text

/-! ## Frames -/

/-- A frame is what stands in front of its `from`, between blanks, and the blanks behind it. -/
structure Framed (front blanks frame : List Char) : Prop where
  eq : frame = front ++ fromWord ++ blanks
  blanks_ne_nil : blanks ≠ []
  blank : ∀ c ∈ blanks, isBlank c = true
  length : 3 ≤ front.length
  head : ∃ c ∈ front.head?, isBlank c = true
  last : ∃ c ∈ front.getLast?, isBlank c = true

theorem framesClause_iff {s : List Char} :
    framesClause s = true ↔ ∃ front blanks, Framed front blanks s := by
  have reversed (front : List Char) : (front ++ fromWord).reverse =
      ['m', 'o', 'r', 'f'] ++ front.reverse := by simp [fromWord]
  constructor
  · intro h
    obtain ⟨blanks, whole, blank, _⟩ := exists_trimRight s
    simp only [framesClause] at h
    split at h
    · cases h
    rename_i longer
    split at h
    · cases h
    rename_i front found
    simp only [Bool.and_eq_true, decide_eq_true_eq, Option.getD_eq_iff, Option.map_eq_some_iff,
      Bool.false_eq_true, and_false, or_false] at h
    obtain ⟨⟨length, last⟩, head⟩ := h
    have trimmed : trimRight s = front.reverse ++ fromWord := by
      have turned := congrArg List.reverse (eq_append_of_after? found)
      rw [List.reverse_reverse] at turned
      simpa [fromWord] using turned
    refine ⟨front.reverse, blanks, ?_, ?_, blank, by simpa, ?_, ?_⟩
    · rw [← trimmed, ← whole]
    · rintro rfl
      rw [List.append_nil] at whole
      exact longer (congrArg List.length whole.symm)
    · simpa using head
    · simpa using last
  · rintro ⟨front, blanks, rfl, ne, blank, length, ⟨c, hc, headBlank⟩, d, hd, lastBlank⟩
    have stop : Stops isBlank (front ++ fromWord).reverse := by
      rw [reversed, List.cons_append, stops_cons]; decide
    have trimmed : trimRight (front ++ fromWord ++ blanks) = front ++ fromWord :=
      trimRight_append stop blank
    have longer : (front ++ fromWord).length ≠ (front ++ fromWord ++ blanks).length := by
      have := List.length_pos_iff.2 ne
      simp only [List.length_append]
      omega
    rw [Option.mem_def] at hc hd
    simp only [framesClause, trimmed, if_neg longer, reversed, after?_append, List.length_reverse,
      List.head?_reverse, List.getLast?_reverse, hc, hd, Option.map_some, Option.getD_some,
      headBlank, lastBlank, length, decide_true, Bool.and_self]

theorem head_of_framesClause {s : List Char} (h : framesClause s = true) :
    ∃ c ∈ s.head?, isBlank c = true := by
  obtain ⟨front, blanks, rfl, _, _, length, ⟨c, hc, blank⟩, _⟩ := framesClause_iff.1 h
  refine ⟨c, ?_, blank⟩
  rw [Option.mem_def] at hc ⊢
  rw [List.append_assoc, List.head?_append, hc, Option.some_or]

/-- What stands in front of a frame belongs to it if it begins with a blank. -/
theorem framesClause_append {a s : List Char} (h : framesClause s = true)
    (head : ∃ c ∈ a.head?, isBlank c = true) : framesClause (a ++ s) = true := by
  obtain ⟨front, blanks, rfl, ne, blank, length, _, d, hd, lastBlank⟩ := framesClause_iff.1 h
  obtain ⟨c, hc, headBlank⟩ := head
  rw [Option.mem_def] at hc hd
  refine framesClause_iff.2 ⟨a ++ front, blanks, by simp, ne, blank, ?_, ⟨c, ?_, headBlank⟩, d, ?_,
    lastBlank⟩
  · rw [List.length_append]
    omega
  · simp [List.head?_append, hc]
  · simp [List.getLast?_append, hd]

/-! ## Revisions -/

variable {α : Type}

/-- The text made of the pieces, where some of the statements give way to something else. -/
def revise (new? : String × α → Occurrence → Option (List Char)) : List (Piece α) → List Char
  | [] => []
  | .gap c :: rest => c :: revise new? rest
  | .statement module occurrence trailing :: rest =>
    (new? module occurrence).getD occurrence.original ++ trailing ++ revise new? rest

section
variable {modules : List (String × α)} {new? : String × α → Occurrence → Option (List Char)}

theorem pieces_nil (position : Nat) (lineStart : Bool) :
    pieces modules position lineStart [] = [] := by
  have absent : headCut? modules [] = none := headCut?_eq_none.2 fun _ _ => cut?_nil
  rw [pieces]
  split
  · rename_i found
    split at found
    · rw [absent] at found
      cases found
    · cases found
  · rfl

theorem pieces_cons {c : Char} {rest : List Char} {lineStart : Bool}
    (h : lineStart = true → headCut? modules (c :: rest) = none) (position : Nat) :
    pieces modules position lineStart (c :: rest) =
      .gap c :: pieces modules (position + 1) (c == '\n') rest := by
  rw [pieces]
  split
  · rename_i found
    split at found
    · rename_i starts
      rw [h starts] at found
      cases found
    · cases found
  · rfl

/-- Up to the next line a text and its revision are the same. -/
theorem exists_rest_of_revise_flat {line behind s : List Char} {position : Nat}
    (h : revise new? (pieces modules position false s) = line ++ behind)
    (flat : ∀ c ∈ line, c ≠ '\n') :
    ∃ rest next, s = line ++ rest ∧ behind = revise new? (pieces modules next false rest) := by
  induction line generalizing s position with
  | nil => exact ⟨s, position, rfl, h.symm⟩
  | cons c line ih =>
    cases s with
    | nil =>
      rw [pieces_nil] at h
      cases h
    | cons d s =>
      rw [pieces_cons (by simp), revise, List.cons_append, List.cons.injEq] at h
      obtain ⟨rfl, h⟩ := h
      have inside : (d == '\n') = false := by simpa using flat d (by simp)
      rw [inside] at h
      obtain ⟨rest, next, rfl, same⟩ := ih h fun e he => flat e (by simp [he])
      exact ⟨rest, next, rfl, same⟩

/-- Up to the next statement a text and its revision are the same. -/
theorem exists_rest_of_revise {front behind s : List Char} {position : Nat} {lineStart : Bool}
    (h : revise new? (pieces modules position lineStart s) = front ++ behind) :
    (∃ rest next, s = front ++ rest ∧
      (lineStartAfter lineStart front = true → headCut? modules rest = none) ∧
      behind = revise new? (pieces modules next (lineStartAfter lineStart front) rest)) ∨
    ∃ before rest found, before <+: front ∧ s = before ++ rest ∧
      lineStartAfter lineStart before = true ∧ headCut? modules rest = some found := by
  induction front generalizing s position lineStart with
  | nil =>
    by_cases starts : lineStart = true
    · cases found : headCut? modules s with
      | none => exact .inl ⟨s, position, rfl, fun _ => found, h.symm⟩
      | some x => exact .inr ⟨[], s, x, List.nil_prefix, rfl, starts, found⟩
    · exact .inl ⟨s, position, rfl, fun h => absurd h starts, h.symm⟩
  | cons c front ih =>
    cases found : (if lineStart then headCut? modules s else none) with
    | some x =>
      split at found
      · rename_i starts
        exact .inr ⟨[], s, x, List.nil_prefix, rfl, starts, found⟩
      · cases found
    | none =>
      cases s with
      | nil =>
        rw [pieces_nil] at h
        cases h
      | cons d s =>
        have here : lineStart = true → headCut? modules (d :: s) = none := by
          intro starts
          rwa [if_pos starts] at found
        rw [pieces_cons here, revise, List.cons_append, List.cons.injEq] at h
        obtain ⟨rfl, h⟩ := h
        rcases ih h with ⟨rest, next, rfl, absent, same⟩ | ⟨before, rest, x, pre, rfl, starts, hx⟩
        · exact .inl ⟨rest, next, rfl, absent, same⟩
        · exact .inr ⟨d :: before, rest, x, List.cons_prefix_cons.2 ⟨rfl, pre⟩, rfl, starts, hx⟩

theorem atLineEnd_revise {position : Nat} {s : List Char} :
    AtLineEnd (revise new? (pieces modules position false s)) ↔ AtLineEnd s := by
  cases s with
  | nil => rw [pieces_nil]; rfl
  | cons c s =>
    rw [pieces_cons (by simp), revise]
    simp [AtLineEnd]

/-- A line start in front of the quote of a statement lies within its frame. -/
theorem Cut.Fits.exists_frame_start {specifier frame mark before : List Char} {quote : Char}
    {cut : Cut} (fits : cut.Fits specifier frame mark quote)
    (pre : before <+: cut.indent ++ importWord ++ frame) (ne : before ≠ [])
    (starts : lineStartAfter true before = true) :
    ∃ front, front ≠ [] ∧ front <+: frame ∧ before = cut.indent ++ importWord ++ front := by
  have flat : ∀ c ∈ cut.indent ++ importWord, c ≠ '\n' := by
    intro c hc
    rcases List.mem_append.1 hc with hc | hc
    · exact ne_newline_of_isSpaceOrTab (fits.indent c hc)
    · rintro rfl
      revert hc
      decide
  have noStart {x : List Char} (hx : x <+: cut.indent ++ importWord) (filled : x ≠ []) :
      lineStartAfter true x = false :=
    lineStartAfter_flat (fun c hc => flat c (hx.subset hc)) filled true
  obtain ⟨more, whole⟩ := pre
  rcases List.append_eq_append_iff.1 whole with ⟨x, hx, _⟩ | ⟨front, hx, hframe⟩
  · rw [noStart ⟨x, hx.symm⟩ ne] at starts
    cases starts
  · refine ⟨front, ?_, ⟨more, hframe.symm⟩, hx⟩
    rintro rfl
    rw [List.append_nil] at hx
    rw [noStart ⟨[], by simp [hx]⟩ ne] at starts
    cases starts

/-- What stands in front of a statement belongs to it if it could begin one. -/
theorem exists_cut_of_prepend {specifier indent front s : List Char} {cut : Cut}
    (h : cut? specifier s = some cut) (blank : ∀ c ∈ indent, isSpaceOrTab c = true)
    (clause : ∀ c ∈ front, isClauseChar c = true) (head : ∃ c ∈ front.head?, isBlank c = true) :
    ∃ longer, cut? specifier (indent ++ importWord ++ front ++ s) = some longer := by
  obtain ⟨rfl, frame, mark, quote, fits⟩ := cut?_eq_some_iff.1 h
  have word : ∀ c ∈ importWord, isClauseChar c = true := List.all_eq_true.1 (by decide)
  have spaces : ∀ c ∈ cut.indent, isClauseChar c = true := fun c hc =>
    isClauseChar_of_isBlank (isBlank_of_isSpaceOrTab (fits.indent c hc))
  let longer : Cut :=
    { cut with
      indent := indent
      statement := importWord ++ (front ++ (cut.indent ++ importWord ++ frame)) ++
        (quote :: specifier ++ [quote]) ++ mark }
  refine ⟨longer, cut?_eq_some_iff.2 ⟨?_, front ++ (cut.indent ++ importWord ++ frame), mark, quote,
    ⟨blank, ?_, ?_, fits.quoted, fits.tail, fits.atEnd, rfl⟩⟩⟩
  · simp [longer, Cut.text, fits.statement]
  · intro c hc
    simp only [List.mem_append] at hc
    rcases hc with hc | (hc | hc) | hc
    · exact clause c hc
    · exact spaces c hc
    · exact word c hc
    · exact fits.clause c hc
  · rw [← List.append_assoc]
    refine framesClause_append fits.framed ?_
    obtain ⟨c, hc, hb⟩ := head
    refine ⟨c, ?_, hb⟩
    rw [Option.mem_def] at hc ⊢
    rw [List.head?_append, hc, Option.some_or]

/-- **A revision starts no statement.** Where a line of a text starts no statement, it starts none
after other statements have given way. -/
theorem cut?_revise_eq_none {key : String × α} (mem : key ∈ modules) (plain : Plain key.1.toList)
    {s : List Char} (absent : headCut? modules s = none) (position : Nat) :
    cut? key.1.toList (revise new? (pieces modules position true s)) = none := by
  apply Option.eq_none_iff_forall_ne_some.2
  intro cut found
  obtain ⟨text, frame, mark, quote, fits⟩ := cut?_eq_some_iff.1 found
  have quoteFlat : (quote == '\n') = false := by
    simpa using ne_newline_of_isQuote fits.quoted
  have split : revise new? (pieces modules position true s) =
      (cut.indent ++ importWord ++ frame) ++
        quote :: (key.1.toList ++ quote :: (mark ++ cut.trailing) ++ cut.rest) := by
    rw [text, fits.text_eq]; simp
  rcases exists_rest_of_revise split with
    ⟨rest, next, rfl, none_starts, behind⟩ | ⟨before, rest, ⟨module, other⟩, pre, rfl, starts, hx⟩
  · -- no statement in front of the quote has given way, nor on its line: the text had the shape
    cases rest with
    | nil =>
      rw [pieces_nil] at behind
      cases behind
    | cons c rest =>
      rw [pieces_cons none_starts, revise, List.cons.injEq] at behind
      obtain ⟨rfl, behind⟩ := behind
      rw [quoteFlat] at behind
      have flat : ∀ c ∈ key.1.toList ++ quote :: (mark ++ cut.trailing), c ≠ '\n' := by
        intro c hc
        rcases List.mem_append.1 hc with hc | hc
        · exact plain.flat c hc
        · exact fits.closing_flat c hc
      obtain ⟨rest, _, rfl, last⟩ := exists_rest_of_revise_flat behind.symm flat
      have same := cut?_of_rest (text ▸ found) (atLineEnd_revise.1 (last ▸ fits.atEnd))
      have shown : Cut.text { cut with rest := rest } = cut.indent ++ importWord ++ frame ++
          quote :: (key.1.toList ++ quote :: (mark ++ cut.trailing) ++ rest) := by
        simp [Cut.text, fits.statement]
      rw [shown, headCut?_eq_none.1 absent key mem] at same
      cases same
  · -- the first statement to give way stood in the frame: it started where the text starts
    obtain ⟨inside, cutOther⟩ := headCut?_eq_some hx
    have ne : before ≠ [] := by
      rintro rfl
      rw [List.nil_append, hx] at absent
      cases absent
    obtain ⟨front, filled, ⟨more, rfl⟩, rfl⟩ := fits.exists_frame_start pre ne starts
    have head : ∃ c ∈ front.head?, isBlank c = true := by
      obtain ⟨c, hc, blank⟩ := head_of_framesClause fits.framed
      refine ⟨c, ?_, blank⟩
      obtain ⟨d, front, rfl⟩ := List.exists_cons_of_ne_nil filled
      simpa using hc
    obtain ⟨longer, hl⟩ := exists_cut_of_prepend cutOther fits.indent
      (fun c hc => fits.clause c (by simp [hc])) head
    rw [headCut?_eq_none.1 absent module inside] at hl
    cases hl

/-! ## Foreign text -/

/-- A line whose first quote opens the name of something other than one of the modules. -/
def ForeignLine (modules : List (String × α)) (line : List Char) : Prop :=
  ∃ before name behind quote, line = before ++ quote :: (name ++ quote :: behind) ∧
    isQuote quote = true ∧ Plain before ∧ Plain name ∧ Plain behind ∧
    ∀ module ∈ modules, name ≠ module.1.toList

/-- Foreign lines put together, with the ending of lines that the text has. -/
def Foreign (modules : List (String × α)) (text : List Char) : Prop :=
  ∃ lines shown newline, LineEnding shown newline ∧ (∀ line ∈ lines, ForeignLine modules line) ∧
    text = newline.intercalate lines

theorem ForeignLine.cut?_eq_none {line : List Char} (h : ForeignLine modules line)
    {key : String × α} (mem : key ∈ modules) (plain : Plain key.1.toList) (rest : List Char) :
    cut? key.1.toList (line ++ rest) = none := by
  obtain ⟨before, name, behind, quote, rfl, hq, hb, hn, _, other⟩ := h
  apply Option.eq_none_iff_forall_ne_some.2
  intro cut found
  rw [List.append_assoc, List.cons_append, List.append_assoc] at found
  obtain ⟨_, same⟩ := eq_append_of_cut?_quote found hb.unquoted hq
  exact other key mem (append_cons_inj hn.unquoted hq plain.unquoted hq same).1

/-- The line of a statement may end the other way. -/
theorem LineTail.exists_blanks {mark trailing newline : List Char}
    (h : LineTail mark trailing newline) : ∃ blanks shown, (∀ c ∈ blanks, isSpaceOrTab c = true) ∧
      LineEnding shown newline ∧ trailing = blanks ++ shown ∧
      ∀ shown' newline', LineEnding shown' newline' → LineTail mark (blanks ++ shown') newline' := by
  cases h with
  | marked hb hm ending => exact ⟨_, _, hm, ending, rfl, fun _ _ other => .marked hb hm other⟩
  | unmarked hb ending => exact ⟨[], _, by simp, ending, rfl, fun _ _ other => .unmarked hb other⟩

theorem LineTail.trailing_eq {mark trailing newline : List Char}
    (h : LineTail mark trailing newline) : ∃ blanks shown,
      (∀ c ∈ blanks, isSpaceOrTab c = true) ∧ LineEnding shown newline ∧
        trailing = blanks ++ shown := by
  obtain ⟨blanks, shown, blank, ending, eq, _⟩ := h.exists_blanks
  exact ⟨blanks, shown, blank, ending, eq⟩

/-- No statement starts where only the end of a line is left. -/
theorem LineTail.cut?_eq_none {mark trailing newline rest : List Char}
    (h : LineTail mark trailing newline) (atEnd : AtLineEnd rest) (specifier : List Char) :
    cut? specifier (trailing ++ rest) = none := by
  obtain ⟨blanks, shown, hb, ending, rfl⟩ := h.trailing_eq
  rw [List.append_assoc, cut?, dropWhile_run hb (ending.stops atEnd)]
  rcases ending with ⟨rfl, _⟩ | ⟨rfl, _⟩ <;> rcases atEnd with rfl | ⟨rest, rfl⟩ <;> simp [after?]

/-- At the end of a line nothing is met, whether a line starts there or not. -/
theorem findFrom_lineEnd {rest : List Char} (atEnd : AtLineEnd rest) (specifier : List Char)
    (lineStart : Bool) (position : Nat) :
    findFrom specifier position lineStart rest = findFrom specifier position false rest := by
  rcases atEnd with rfl | ⟨rest, rfl⟩
  · rw [findFrom_nil, findFrom_nil]
  · have absent : cut? specifier ('\n' :: rest) = none := cut?_lineBreak
    rw [findFrom_cons fun _ => absent, findFrom_cons (by simp)]

/-- A line break is no start of a statement. -/
theorem LineEnding.passes {shown newline : List Char} (h : LineEnding shown newline)
    (specifier rest : List Char) : Passes specifier false newline rest := by
  intro before after split ne starts
  rcases h with ⟨_, rfl⟩ | ⟨_, rfl⟩
  · cases before with
    | nil => cases starts
    | cons c before => simp_all
  · cases before with
    | nil => cases starts
    | cons c before =>
      cases before with
      | nil =>
        obtain ⟨rfl, _⟩ := List.cons.inj split
        cases starts
      | cons d before => simp_all

theorem LineEnding.lineStartAfter_newline {shown newline : List Char}
    (h : LineEnding shown newline) (lineStart : Bool) :
    lineStartAfter lineStart newline = true := by
  rcases h with ⟨_, rfl⟩ | ⟨_, rfl⟩ <;> rfl

theorem ForeignLine.ne_nil {line : List Char} (h : ForeignLine modules line) : line ≠ [] := by
  obtain ⟨_, _, _, _, rfl, _⟩ := h
  simp

theorem ForeignLine.flat {line : List Char} (h : ForeignLine modules line) :
    ∀ c ∈ line, c ≠ '\n' := by
  obtain ⟨before, name, behind, quote, rfl, hq, hb, hn, hc, _⟩ := h
  intro c mem
  simp only [List.mem_append, List.mem_cons] at mem
  rcases mem with mem | rfl | mem | rfl | mem
  · exact hb.flat c mem
  · exact ne_newline_of_isQuote hq
  · exact hn.flat c mem
  · exact ne_newline_of_isQuote hq
  · exact hc.flat c mem

/-- In foreign text in the place of a statement, no statement starts. -/
theorem Foreign.passes {text mark trailing newline rest : List Char}
    (h : Foreign modules text) (tail : LineTail mark trailing newline) (atEnd : AtLineEnd rest)
    {key : String × α} (mem : key ∈ modules) (plain : Plain key.1.toList) :
    Passes key.1.toList true (text ++ trailing) rest := by
  obtain ⟨lines, shown, ending, hl, foreign, rfl⟩ := h
  have last (lineStart : Bool) : Passes key.1.toList lineStart trailing rest :=
    passes_line (fun c hc => tail.plain.flat c (by simp [hc]))
      fun _ => tail.cut?_eq_none atEnd key.1.toList
  induction lines with
  | nil => exact last true
  | cons line lines ih =>
    have first := foreign line (by simp)
    have here (more : List Char) : Passes key.1.toList true line more :=
      passes_line first.flat fun _ => first.cut?_eq_none mem plain more
    cases lines with
    | nil =>
      rw [List.intercalate_singleton]
      exact (here _).append (last _)
    | cons second lines =>
      have later := ih fun l hl => foreign l (by simp [hl])
      rw [List.intercalate_cons_cons, List.append_assoc, List.append_assoc]
      refine (here _).append ?_
      rw [lineStartAfter_flat first.flat first.ne_nil]
      refine (hl.passes _ _).append ?_
      rw [hl.lineStartAfter_newline]
      exact later

/-- Foreign text in the place of a statement is passed over. -/
theorem Foreign.findFrom_eq {text mark trailing newline rest : List Char}
    (h : Foreign modules text) (tail : LineTail mark trailing newline) (atEnd : AtLineEnd rest)
    {key : String × α} (mem : key ∈ modules) (plain : Plain key.1.toList) (position : Nat) :
    findFrom key.1.toList position true (text ++ (trailing ++ rest)) =
      findFrom key.1.toList (position + (text ++ trailing).length) false rest := by
  rw [← List.append_assoc, findFrom_append (h.passes tail atEnd mem plain),
    findFrom_lineEnd atEnd]

/-! ## What is found in a revision -/

/-- The text of an occurrence, with its indentation and without. -/
def Occurrence.texts (occurrence : Occurrence) : List Char × List Char :=
  (occurrence.original, occurrence.statement)

/-- **What a revision leaves.** Where all text that is brought in is foreign, the statements of a
module found in the revision are those that did not give way, with the same texts in the same
order. -/
theorem findFrom_revise (plain : ∀ module ∈ modules, Plain module.1.toList)
    (foreign : ∀ module ∈ modules, ∀ cut position text, cut? module.1.toList cut.text = some cut →
      new? module (cut.occurrence position) = some text → Foreign modules text)
    {key : String × α} (mem : key ∈ modules) (start position : Nat) (lineStart : Bool)
    (s : List Char) :
    (findFrom key.1.toList start lineStart
        (revise new? (pieces modules position lineStart s))).map Occurrence.texts =
      (occurrencesOf key.1 ((placed (pieces modules position lineStart s)).filter
        fun x => (new? x.1 x.2).isNone)).map Occurrence.texts := by
  fun_induction pieces modules position lineStart s generalizing start with
  | case1 position lineStart s module cut found ih =>
    split at found
    · rename_i starts
      obtain ⟨inside, cutHere⟩ := headCut?_eq_some found
      rw [← text_of_cut? cutHere] at cutHere
      obtain ⟨_, frame, mark, quote, fits⟩ := cut?_eq_some_iff.1 cutHere
      rw [placed, revise, starts, List.filter_cons]
      generalize hr : revise new? (pieces modules _ false cut.rest) = rest at ih ⊢
      have atEnd : AtLineEnd rest := hr ▸ atLineEnd_revise.2 fits.atEnd
      cases given : new? module (cut.occurrence position) with
      | none =>
        -- the statement stays: it is met in the revision as it was in the text
        have kept := cut?_of_rest cutHere atEnd
        have text : cut.indent ++ cut.statement ++ cut.trailing ++ rest =
            Cut.text { cut with rest := rest } := rfl
        simp only [Option.getD_none, Cut.occurrence, text, Option.isNone_none, if_true,
          occurrencesOf]
        by_cases same : module.1 = key.1
        · rw [if_pos same, findFrom_of_cut (same ▸ kept), List.map_cons, List.map_cons, ih]
          rfl
        · have ne : module.1.toList ≠ key.1.toList := fun eq => same (String.toList_inj.1 eq)
          rw [if_neg same, findFrom_text kept (plain _ inside).unquoted (plain _ mem) ne, ih]
      | some text =>
        have passed := (foreign module inside cut position text cutHere given).findFrom_eq
          fits.tail atEnd mem (plain _ mem) start
        simp only [Option.getD_some, Option.isNone_some, Bool.false_eq_true, if_false]
        rw [List.append_assoc, passed, ih]
    · cases found
  | case2 => rw [revise, findFrom_nil]; rfl
  | case3 position lineStart c rest found ih =>
    have absent : lineStart = true → headCut? modules (c :: rest) = none := by
      intro starts
      rwa [if_pos starts] at found
    have none_here : lineStart = true → cut? key.1.toList
        (c :: revise new? (pieces modules (position + 1) (c == '\n') rest)) = none := by
      intro starts
      have revised : cut? key.1.toList
          (revise new? (pieces modules position true (c :: rest))) = none :=
        cut?_revise_eq_none mem (plain _ mem) (absent starts) position
      rwa [pieces_cons (fun _ => absent starts), revise] at revised
    rw [placed, revise, findFrom_cons none_here, ih]

end

end VirtualImports.Statement
