import VirtualImports.Proofs.Statement.Recognition
import VirtualImports.Proofs.Statement.TypeMark

/-!
Finding statements and reading them, two recognisers that agree.

* `isSome_splitTypeKeyword?`: the text in front of `from` holds a clause for the one exactly where it
  does for the other;
* `Cut.Fits.exists_header`: so a statement that is found has the parts of one, with the specifier that
  it was found by;
* `fits_of_read`: a statement that can be read, and ends on the line of its closing quote, can be found;
* `find_agrees`: both together.
-/
namespace VirtualImports.Statement

open Text

variable {specifier frame mark front clause : List Char} {quote : Char} {cut : Cut}

/-! ## The clause -/

/-- Three blanks make up an empty clause. -/
theorem splitTypeKeyword?_blank (blank : ∀ c ∈ front, isBlank c = true) :
    splitTypeKeyword? front = if 3 ≤ front.length then some (false, []) else none := by
  have lead : front.takeWhile isBlank = front := by simpa using takeWhile_run blank stops_nil
  have body : front.dropWhile isBlank = [] := by simpa using dropWhile_run blank stops_nil
  rw [splitTypeKeyword?, lead, body]
  cases front <;> rfl

/-- Without blanks on one side there is no clause. -/
theorem splitTypeKeyword?_eq_none {lead core gap : List Char} (hl : ∀ c ∈ lead, isBlank c = true)
    (solid : Solid core) (hg : ∀ c ∈ gap, isBlank c = true) (bare : lead = [] ∨ gap = []) :
    splitTypeKeyword? (lead ++ (core ++ gap)) = none := by
  rw [splitTypeKeyword?, takeWhile_run hl (solid.stops gap), dropWhile_run hl (solid.stops gap),
    solid.trimRight hg]
  rcases bare with rfl | rfl
  · rfl
  · simp [solid.ne_nil]

/-- Between blanks there is one, whatever it is. -/
theorem isSome_splitTypeKeyword?_framed {lead core gap : List Char} (neLead : lead ≠ [])
    (hl : ∀ c ∈ lead, isBlank c = true) (solid : Solid core) (neGap : gap ≠ [])
    (hg : ∀ c ∈ gap, isBlank c = true) :
    (splitTypeKeyword? (lead ++ (core ++ gap))).isSome = true := by
  rw [splitTypeKeyword?_framed neLead hl solid neGap hg]
  split
  · rfl
  · split
    · split
      · rfl
      · split <;> rfl
    · rfl

/-- In front of `from` there is a clause for the reader where there is one for the finder. -/
theorem isSome_splitTypeKeyword? : (splitTypeKeyword? front).isSome = true ↔
    3 ≤ front.length ∧ (∃ c ∈ front.head?, isBlank c = true) ∧
      ∃ c ∈ front.getLast?, isBlank c = true := by
  rcases blank_or_solid front with blank | ⟨lead, core, gap, rfl, hl, solid, hg⟩
  · rw [splitTypeKeyword?_blank blank]
    by_cases long : 3 ≤ front.length
    · have ne : front ≠ [] := by
        rintro rfl
        simp at long
      rw [if_pos long]
      exact iff_of_true rfl ⟨long,
        ⟨_, List.head?_eq_some_head ne, blank _ (List.head_mem ne)⟩,
        ⟨_, List.getLast?_eq_some_getLast ne, blank _ (List.getLast_mem ne)⟩⟩
    · rw [if_neg long]
      exact iff_of_false (by simp) fun framed => long framed.1
  · by_cases bare : lead = [] ∨ gap = []
    · rw [splitTypeKeyword?_eq_none hl solid hg bare]
      obtain ⟨c, hc, first⟩ := solid.first
      obtain ⟨d, hd, last⟩ := solid.last
      rw [Option.mem_def] at hc hd
      rcases bare with rfl | rfl <;> simp [hc, hd, first, last]
    · obtain ⟨neLead, neGap⟩ := not_or.1 bare
      have long := List.length_pos_iff.2 solid.ne_nil
      have split := isSome_splitTypeKeyword?_framed neLead hl solid neGap hg
      obtain ⟨b, lead, rfl⟩ := List.exists_cons_of_ne_nil neLead
      obtain ⟨gap, d, rfl⟩ := List.eq_nil_or_concat gap |>.resolve_left neGap
      refine iff_of_true split ⟨?_, ⟨b, rfl, hl b (by simp)⟩, d, by
        simp [List.getLast?_cons], hg d (by simp)⟩
      simp only [List.length_append, List.length_cons, List.concat_eq_append, List.length_nil]
      omega

theorem mem_trim {s : List Char} {c : Char} (mem : c ∈ s) : isBlank c = true ∨ c ∈ trim s := by
  rcases blank_or_solid s with blank | ⟨lead, core, gap, rfl, hl, solid, hg⟩
  · exact .inl (blank c mem)
  rw [solid.trim_between hl hg]
  simp only [List.mem_append] at mem
  rcases mem with mem | mem | mem
  · exact .inl (hl c mem)
  · exact .inr mem
  · exact .inl (hg c mem)

/-- What stands in front of `from` are blanks, the mark and the clause. -/
theorem mem_of_splitTypeKeyword? {typeOnly : Bool}
    (h : splitTypeKeyword? front = some (typeOnly, clause)) {c : Char} (mem : c ∈ front) :
    isBlank c = true ∨ c ∈ typeWord ∨ c ∈ clause := by
  rcases blank_or_solid front with blank | ⟨lead, core, gap, rfl, hl, solid, hg⟩
  · exact .inl (blank c mem)
  by_cases bare : lead = [] ∨ gap = []
  · rw [splitTypeKeyword?_eq_none hl solid hg bare] at h
    cases h
  · obtain ⟨neLead, neGap⟩ := not_or.1 bare
    rw [splitTypeKeyword?_framed neLead hl solid neGap hg] at h
    rcases List.mem_append.1 mem with before | inside
    · exact .inl (hl c before)
    rcases List.mem_append.1 inside with within | behind
    · split at h
      · cases h
        exact .inr (.inr within)
      · rename_i rest keyword
        rw [eq_append_of_after? keyword] at inside
        rcases List.mem_append.1 inside with word | behind
        · exact .inr (.inl word)
        rcases mem_trim behind with blank | inner
        · exact .inl blank
        have filled : (!(trimRight (trimLeft rest)).isEmpty) = true := by
          simpa [trim] using List.ne_nil_of_mem inner
        rw [if_pos filled] at h
        split at h
        · cases h
          exact .inr (.inr inner)
        · cases h
          exact .inr (.inr within)
    · exact .inl (hg c behind)

/-! ## Statements that are found -/

/-- A statement that is found has the parts of one. -/
theorem Cut.Fits.exists_header (fits : cut.Fits specifier frame mark quote) (named : specifier ≠ [])
    (unquoted : Unquoted specifier) :
    ∃ header, Header.ofText? (trim (trim cut.statement)) = some header ∧
      header.specifier = specifier := by
  obtain ⟨front, blanks, framed⟩ := framesClause_iff.1 fits.framed
  obtain ⟨tail, source, plain, solid, shape⟩ := fits.exists_source framed named unquoted
  obtain ⟨⟨typeOnly, clause⟩, marked⟩ := Option.isSome_iff_exists.1
    (isSome_splitTypeKeyword?.2 ⟨framed.length, framed.head, framed.last⟩)
  exact ⟨⟨typeOnly, clause, specifier⟩, by rw [ofText?_sourced source plain solid shape, marked]; rfl,
    rfl⟩

/-- What has the parts of a statement is told to be one, whatever its clause. -/
theorem ne_notAnImport_of_read {s : List Char} {header : Header} {unreadable : Unreadable}
    (found : Header.ofText? (trim s) = some header)
    (refused : ImportStatement.read s = .error unreadable) : unreadable.fault ≠ .notAnImport := by
  rw [ImportStatement.read, found] at refused
  dsimp only at refused
  split at refused
  · rename_i fault clause
    cases refused
    rintro rfl
    unfold readClause at clause
    dsimp only at clause
    split at clause
    · cases clause
    · split at clause
      · cases clause
      · split at clause <;> cases clause
  · cases refused

/-! ## Statements that can be read -/

/-- Behind the last quote there are spaces and tabs, and then nothing but a semicolon. -/
def EndsInLine (s : List Char) : Prop :=
  ∃ front quote blanks mark, s = front ++ quote :: (blanks ++ mark) ∧ isQuote quote = true ∧
    (∀ c ∈ blanks, isSpaceOrTab c = true) ∧ (mark = [] ∨ mark = [';'])

/-- What follows the last of a kind of characters is determined. -/
theorem append_cons_inj_last {a a' b b' : List Char} {c c' : Char} (hb : Unquoted b)
    (hc : isQuote c = true) (hb' : Unquoted b') (hc' : isQuote c' = true)
    (same : a ++ c :: b = a' ++ c' :: b') : b = b' := by
  have turned : b.reverse ++ c :: a.reverse = b'.reverse ++ c' :: a'.reverse := by
    simpa using congrArg List.reverse same
  have unquoted {s : List Char} (h : Unquoted s) : ∀ d ∈ s.reverse, isQuote d = false :=
    fun d hd => h d (List.mem_reverse.1 hd)
  exact List.reverse_inj.1 (append_cons_inj (unquoted hb) hc (unquoted hb') hc' turned).1

/-- What follows the last quote ends the line of the statement. -/
theorem EndsInLine.lineTail {s tail : List Char} (ends : EndsInLine s) (shape : s = front ++ quote :: tail)
    (quoted : isQuote quote = true) (plain : Unquoted tail) : LineTail tail [] ['\n'] := by
  obtain ⟨before, closing, blanks, mark, last, isClosing, blank, semicolon⟩ := ends
  have plainMark : Unquoted (blanks ++ mark) := by
    rw [unquoted_append]
    refine ⟨fun c hc => isQuote_of_isSpaceOrTab (blank c hc), ?_⟩
    rcases semicolon with rfl | rfl <;> decide
  obtain rfl := append_cons_inj_last plain quoted plainMark isClosing (shape.symm.trans last)
  have ending : LineEnding [] ['\n'] := .inl ⟨rfl, rfl⟩
  rcases semicolon with rfl | rfl
  · rw [List.append_nil]
    exact .unmarked blank ending
  · exact .marked blank (List.forall_mem_nil _) ending

/-- In front of the `from` of a statement that can be read there is nothing that no clause can hold. -/
theorem isClauseChar_of_splitTypeKeyword? {typeOnly : Bool}
    (h : splitTypeKeyword? front = some (typeOnly, clause))
    (legal : (Clause.scan clause).illegal = none) : ∀ c ∈ front, isClauseChar c = true := by
  intro c hc
  have word : ∀ c ∈ typeWord, isClauseChar c = true := List.all_eq_true.1 (by decide)
  rcases mem_of_splitTypeKeyword? h hc with blank | mark | inside
  · exact isClauseChar_of_isBlank blank
  · exact word c mark
  · exact Clause.isClauseChar_of_isTokenChar (Clause.isTokenChar_of_scan legal c inside)

/-- A statement that can be read is cut from its text as a whole, if it ends on the line of its closing
quote. -/
theorem fits_of_read {s : List Char} {statement : ImportStatement} (trimmed : trim s = s)
    (ends : EndsInLine s) (readable : ImportStatement.read s = .ok statement) :
    ∃ frame mark quote,
      Cut.Fits statement.specifier.toList frame mark quote ⟨[], s, [], ['\n'], []⟩ := by
  obtain ⟨header, found, clause, specifier, _⟩ := ImportStatement.exists_header_of_read readable
  rw [trimmed] at found
  obtain ⟨before, blanks, mark, quote, source, marked, shape⟩ := exists_parts_of_ofText? found
  have quotes : s = (importWord ++ (before ++ (fromWord ++ (blanks ++ quote :: header.specifier)))) ++
      quote :: mark := by
    simp [shape, sourceText]
  have tail := ends.lineTail quotes source.quoted (unquoted_of_isTerminator source.terminated)
  have framed : framesClause (before ++ fromWord ++ blanks) = true := by
    obtain ⟨length, first, last⟩ := isSome_splitTypeKeyword?.1 (Option.isSome_of_mem marked)
    exact framesClause_iff.2 ⟨before, blanks, rfl, source.blanks.1, source.blanks.2, length, first,
      last⟩
  have plain : ∀ c ∈ before ++ fromWord ++ blanks, isClauseChar c = true := by
    have phrase : ∀ c ∈ fromWord, isClauseChar c = true := List.all_eq_true.1 (by decide)
    rw [List.forall_mem_append, List.forall_mem_append]
    exact ⟨⟨isClauseChar_of_splitTypeKeyword? marked (ImportStatement.scan_of_readClause clause).1,
      phrase⟩, isClauseChar_of_forall_isBlank source.blanks.2⟩
  refine ⟨_, mark, quote, List.forall_mem_nil _, plain, framed, source.quoted, tail, .inl rfl, ?_⟩
  rw [specifier, String.toList_ofList, shape]
  simp [sourceText]

/-- **Finding and reading agree.** Whatever is found as a statement of a module has the parts of a
statement of that module, and is read as one if its clause can be read. Conversely a statement that can be
read, without blanks around it, is found for its module as the whole of its text, if its semicolon is on
the line of the closing quote. -/
theorem find_agrees {specifier : String} (named : specifier ≠ "")
    (unquoted : Unquoted specifier.toList) :
    (∀ code, ∀ occurrence ∈ find specifier code,
      (∃ header, Header.ofText? (trim occurrence.statement) = some header ∧
        header.specifier = specifier.toList) ∧
      (∀ unreadable, ImportStatement.read occurrence.statement = .error unreadable →
        unreadable.fault ≠ .notAnImport) ∧
      ∀ statement, ImportStatement.read occurrence.statement = .ok statement →
        statement.specifier = specifier) ∧
    ∀ s statement, trim s = s → ImportStatement.read s = .ok statement →
      statement.specifier = specifier → EndsInLine s →
        find specifier s = [⟨s, s, 0, s.length, [], ['\n']⟩] := by
  constructor
  · intro code occurrence mem
    obtain ⟨before, after, cut, located⟩ := exists_located mem
    obtain ⟨_, frame, mark, quote, fits⟩ := cut?_eq_some_iff.1 located.found
    have statement : occurrence.statement = trim cut.statement := by
      rw [located.eq]
      rfl
    obtain ⟨header, found, same⟩ := fits.exists_header (by simpa using named) unquoted
    rw [← statement] at found
    refine ⟨⟨header, found, same⟩, fun _ refused => ne_notAnImport_of_read found refused, ?_⟩
    intro statement readable
    obtain ⟨other, again, _, specifier, _⟩ := ImportStatement.exists_header_of_read readable
    rw [found, Option.some.injEq] at again
    rw [specifier, ← again, same, String.ofList_toList]
  · rintro s statement trimmed readable rfl ends
    obtain ⟨frame, mark, quote, fits⟩ := fits_of_read trimmed ends readable
    have here := cut?_of_fits fits
    have text : Cut.text ⟨[], s, [], ['\n'], []⟩ = s := by simp [Cut.text]
    rw [text] at here
    rw [find, findFrom_of_cut here, findFrom_nil, Cut.occurrence]
    simp [trimmed]

/-- A statement with its semicolon apart, on the same line. -/
def spacedImport : List Char :=
  "import type \x7b A \x7d from 'm' ;".toList

theorem find_agrees_sample :
    EndsInLine spacedImport ∧
      find "m" spacedImport = [⟨spacedImport, spacedImport, 0, spacedImport.length, [], ['\n']⟩] ∧
      ∃ header, Header.ofText? (trim spacedImport) = some header ∧ header.specifier = ['m'] := by
  have ends : EndsInLine spacedImport :=
    ⟨"import type \x7b A \x7d from 'm".toList, '\'', [' '], [';'], by decide, by decide, by decide,
      .inr rfl⟩
  have readable : ImportStatement.read spacedImport =
      .ok ⟨spacedImport, "m", true, [("A", "A")], [], none, none⟩ := by
    decide +kernel
  have named : "m" ≠ "" := by decide
  have unquoted : Unquoted "m".toList := by decide
  obtain ⟨found, located⟩ := find_agrees named unquoted
  have here := located spacedImport _ (by decide +kernel) readable rfl ends
  exact ⟨ends, here, (found spacedImport _ (here ▸ List.mem_singleton_self _)).1⟩

end VirtualImports.Statement
