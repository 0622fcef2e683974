import VirtualImports.Proofs.Statement.Locating

/-!
Statements with other text in front of them.

* `Located.exists_mem_find`: a statement is found unless another one that is found covers its start;
* `LeavesOpen`, `SplitsName`: how text in front of a statement can run into it;
* `covers_iff`: a line start is covered in just these two ways;
* `find_behind`: so a statement is found behind other text just where neither is the case.
-/
namespace VirtualImports.Statement

open Text

section
variable {specifier : String} {code before after : List Char} {cut : Cut}
  {occurrence a b : Occurrence}

/-- A statement is found, or one that is found starts before it and stops behind its start. -/
theorem Located.exists_mem_find (located : Located specifier.toList code before after cut occurrence) :
    occurrence ∈ find specifier code ∨
      ∃ other ∈ find specifier code, other.start < before.length ∧ before.length < other.stop := by
  have spelled : SpelledAt specifier.toList code before.length occurrence :=
    spelledAt_iff.2 ⟨before, after, cut, located, rfl⟩
  have search := (leftmost_spelledAt_iff specifier code).2 rfl
  obtain ⟨other, mem, start, there, least, covers⟩ := search.exists_mem spelled (Nat.zero_le _)
  obtain ⟨before', _, _, otherLocated, rfl⟩ := spelledAt_iff.1 there
  by_cases same : before'.length = before.length
  · exact .inl (otherLocated.unique located same ▸ mem)
  · refine .inr ⟨other, mem, ?_, covers.resolve_left same⟩
    rw [otherLocated.start_eq]
    omega

/-- Two statements that are found do not overlap. -/
theorem stop_le_start_of_mem_find (ha : a ∈ find specifier code) (hb : b ∈ find specifier code)
    (before : a.start < b.start) : a.stop ≤ b.start := by
  obtain ⟨i, hi, rfl⟩ := List.getElem_of_mem ha
  obtain ⟨j, hj, rfl⟩ := List.getElem_of_mem hb
  have inOrder : (find specifier code).Pairwise fun a b => a.stop ≤ b.start :=
    pairwise_findFrom 0 true code
  have apart := List.pairwise_iff_getElem.1 inOrder
  rcases Nat.lt_trichotomy i j with behind | rfl | early
  · exact apart i j hi hj behind
  · exact absurd before (Nat.lt_irrefl _)
  · have stop := apart j i hj hi early
    obtain ⟨_, _, _, located⟩ := exists_located hb
    rw [located.stop_eq] at stop
    omega

end

/-- The text ends in a line that starts with `import` and goes on without a quote or a semicolon: it may
yet become a statement. -/
def LeavesOpen (text : List Char) : Prop :=
  ∃ before indent front, text = before ++ (indent ++ importWord ++ front) ∧
    (before = [] ∨ before.getLast? = some '\n') ∧ (∀ c ∈ indent, isSpaceOrTab c = true) ∧
    (∃ c ∈ front.head?, isBlank c = true) ∧ ∀ c ∈ front, isClauseChar c = true

/-- A statement that starts a line behind `before` has `text` end within its quotes, behind a line break in
its name. -/
structure CutsName (specifier text behind before : List Char) (spelling : Spelling)
    (named : List Char) : Prop where
  split : text = before ++ (spelling.indent ++ importWord ++ spelling.frame ++ spelling.quote :: named)
  whole : text ++ behind = before ++ spelling.text specifier
  line : before = [] ∨ before.getLast? = some '\n'
  proper : spelling.Proper
  inName : named <+: specifier
  broken : '\n' ∈ named

theorem CutsName.length_lt {specifier text behind before named : List Char} {spelling : Spelling}
    (h : CutsName specifier text behind before spelling named) : before.length < text.length := by
  rw [h.split]
  simp only [List.length_append, List.length_cons]
  omega

/-- The text ends within the name of a statement that starts in it, and no text in front of this statement
runs into it in turn. -/
def SplitsName (specifier : String) (text behind : List Char) : Prop :=
  ∃ before spelling named, ∃ _ : CutsName specifier.toList text behind before spelling named,
    ¬ LeavesOpen before ∧ ¬ SplitsName specifier before (spelling.text specifier.toList)
termination_by text.length
decreasing_by exact CutsName.length_lt ‹_›

theorem splitsName_iff {specifier : String} {text behind : List Char} :
    SplitsName specifier text behind ↔ ∃ before spelling named,
      CutsName specifier.toList text behind before spelling named ∧ ¬ LeavesOpen before ∧
        ¬ SplitsName specifier before (spelling.text specifier.toList) := by
  rw [SplitsName]
  simp only [exists_prop]

variable {specifier : List Char}

/-- A statement that starts in front of a line and stops behind its start has left the text in front of
that line open, or has its name split there. -/
theorem Located.covers_cases {text behind before after : List Char} {cut : Cut}
    {occurrence : Occurrence}
    (located : Located specifier (text ++ behind) before after cut occurrence)
    (line : lineStartAfter true text = true) (early : occurrence.start < text.length)
    (covers : text.length < occurrence.stop) :
    LeavesOpen text ∨ ∃ spelling named, CutsName specifier text behind before spelling named ∧
      spelling.text specifier = after := by
  obtain ⟨rfl, _, _, _, fitting⟩ := cut?_eq_some_iff.1 located.found
  obtain ⟨spelling, proper, rfl⟩ := fitting.exists_spelling
  have fits := proper.fits specifier
  obtain ⟨inner, rfl, split, starts, short⟩ := located.exists_inside rfl line early.le covers
  have ne : inner ≠ [] := by
    rintro rfl
    rw [located.start_eq, List.append_nil] at early
    exact Nat.lt_irrefl _ early
  have whole := fits.text_eq
  rcases fits.line_inside split short.le starts with ⟨rest, _, same⟩ | ⟨_, rest, suffix, same⟩
  · -- the first quote stands behind the line start
    have front : inner ++ rest = spelling.indent ++ importWord ++ spelling.frame := by
      rw [← split, same] at whole
      exact List.append_cancel_right (show (inner ++ rest) ++ spelling.quote :: _ =
        _ ++ spelling.quote :: _ by simpa using whole)
    obtain ⟨open_, filled, inFrame, rfl⟩ := fits.exists_frame_start ⟨rest, front⟩ ne starts
    obtain ⟨c, open_, rfl⟩ := List.exists_cons_of_ne_nil filled
    obtain ⟨d, hd, blank⟩ := head_of_framesClause fits.framed
    obtain ⟨more, inFrame⟩ := inFrame
    rw [← inFrame] at hd
    obtain rfl : c = d := by simpa using hd
    refine .inl ⟨before, spelling.indent, c :: open_, rfl,
      lineStartAfter_eq_true_iff.1 located.starts, proper.indent, ⟨c, by simp, blank⟩,
      fun e he => fits.clause e ?_⟩
    rw [← inFrame]
    exact List.mem_append_left _ he
  · obtain ⟨named, rfl⟩ := suffix
    have front : inner = spelling.indent ++ importWord ++ spelling.frame ++ spelling.quote :: named := by
      rw [← split, same] at whole
      exact List.append_cancel_right (show inner ++ (rest ++ spelling.quote :: _) =
        _ ++ (rest ++ spelling.quote :: _) by simpa using whole)
    have broken : '\n' ∈ named := by
      by_contra flat
      have last : ∀ c ∈ spelling.quote :: named, c ≠ '\n' := List.forall_mem_cons.2
        ⟨ne_newline_of_isQuote fits.quoted, fun c hc => ne_of_mem_of_not_mem hc flat⟩
      rw [front, lineStartAfter_append, lineStartAfter_flat last (by simp)] at starts
      cases starts
    refine .inr ⟨spelling, named, ⟨by rw [front], ?_, lineStartAfter_eq_true_iff.1 located.starts,
      proper, List.prefix_append .., broken⟩, spelling.text_eq _⟩
    rw [List.append_assoc, split, spelling.text_eq]

/-- Behind a line start that it covers, a statement goes on beyond the next quote. -/
theorem Located.lt_stop_of_unquoted {front tail behind before after : List Char} {cut : Cut}
    {occurrence : Occurrence}
    (located : Located specifier (front ++ tail ++ behind) before after cut occurrence)
    (line : lineStartAfter true front = true) (plain : Unquoted tail)
    (least : occurrence.start ≤ front.length) (covers : front.length < occurrence.stop) :
    (front ++ tail).length < occurrence.stop := by
  obtain ⟨rfl, frame, mark, quote, fits⟩ := cut?_eq_some_iff.1 located.found
  obtain ⟨inner, rfl, code, starts, short⟩ :=
    located.exists_inside (List.append_assoc ..) line least covers
  rw [located.stop_eq, located.start_eq, located.original_eq]
  obtain ⟨rest, more, same⟩ : ∃ rest more,
      tail ++ behind = rest ++ quote :: (more ++ (cut.trailing ++ cut.rest)) := by
    rcases fits.line_inside code short.le starts with ⟨rest, _, same⟩ | ⟨_, rest, _, same⟩
    · exact ⟨rest, specifier ++ quote :: mark, by simpa using same⟩
    · exact ⟨rest, mark, by simpa using same⟩
  have low : tail.length ≤ rest.length := by
    rcases List.append_eq_append_iff.1 same with ⟨between, rfl, _⟩ | ⟨between, rfl, split⟩
    · simp
    · cases between with
      | nil => simp
      | cons c between =>
        obtain ⟨rfl, _⟩ := List.cons.inj split
        have quoted := fits.quoted
        rw [plain quote (by simp)] at quoted
        cases quoted
  have whole := congrArg List.length code
  rw [same] at whole
  simp only [Cut.text, List.length_append, List.length_cons] at whole ⊢
  omega

/-- Text that may yet become a statement runs into the one behind it. -/
theorem exists_covers_of_leavesOpen {specifier : String} {text behind : List Char} {cut : Cut}
    (leaves : LeavesOpen text) (found : cut? specifier.toList behind = some cut) :
    ∃ other ∈ find specifier (text ++ behind),
      other.start < text.length ∧ text.length < other.stop := by
  obtain ⟨before, indent, front, rfl, starts, blank, head, clause⟩ := leaves
  obtain ⟨longer, here⟩ := exists_cut_of_prepend found blank clause head
  have line := lineStartAfter_eq_true_iff.2 starts
  have located : Located specifier.toList (before ++ (indent ++ importWord ++ front) ++ behind)
      before _ longer (longer.occurrence before.length) := ⟨List.append_assoc .., line, here, rfl⟩
  have plain : Unquoted (indent ++ importWord ++ front) := by
    rw [unquoted_append, unquoted_append]
    exact ⟨⟨fun c hc => isQuote_of_isSpaceOrTab (blank c hc), unquoted_importWord⟩,
      fun c hc => isQuote_of_isClauseChar (clause c hc)⟩
  have inside : before.length < (before ++ (indent ++ importWord ++ front)).length := by
    simp only [importWord, List.length_append, List.length_cons]
    omega
  obtain ⟨other, mem, least, covers⟩ : ∃ other ∈ find specifier (before ++ (indent ++ importWord ++
      front) ++ behind), other.start ≤ before.length ∧ before.length < other.stop := by
    rcases located.exists_mem_find with mem | ⟨other, mem, early, covers⟩
    · have filled := List.length_pos_iff.2 located.original_ne_nil
      refine ⟨_, mem, located.start_eq.le, ?_⟩
      rw [located.stop_eq, located.start_eq]
      omega
    · exact ⟨other, mem, early.le, covers⟩
  obtain ⟨_, _, _, otherLocated⟩ := exists_located mem
  exact ⟨other, mem, by omega, otherLocated.lt_stop_of_unquoted line plain least covers⟩

/-- The next quote closes a name that the text ends in, so its statement goes on behind the text. -/
theorem CutsName.exists_located {text behind before named : List Char} {spelling : Spelling}
    (h : CutsName specifier text behind before spelling named) :
    ∃ occurrence, Located specifier (text ++ behind) before (spelling.text specifier)
      (spelling.cut specifier) occurrence ∧ text.length < occurrence.stop := by
  have found : cut? specifier (spelling.text specifier) = some (spelling.cut specifier) :=
    cut?_eq_some_iff.2 ⟨spelling.text_eq specifier, _, _, _, h.proper.fits specifier⟩
  have located : Located specifier (text ++ behind) before (spelling.text specifier)
      (spelling.cut specifier) ((spelling.cut specifier).occurrence before.length) :=
    ⟨h.whole, lineStartAfter_eq_true_iff.2 h.line, found, rfl⟩
  refine ⟨_, located, ?_⟩
  have short := h.inName.length_le
  rw [located.stop_eq, located.start_eq, located.original_eq, h.split]
  simp only [Spelling.cut, Spelling.statement, List.length_append, List.length_cons]
  omega

/-- **What covers a line start.** A statement that is found covers it just where the text in front of it
leaves a line open, or has a name split. -/
theorem covers_iff {specifier : String} {text behind : List Char} {cut : Cut}
    (found : cut? specifier.toList behind = some cut) (line : lineStartAfter true text = true) :
    (∃ other ∈ find specifier (text ++ behind), other.start < text.length ∧
      text.length < other.stop) ↔ LeavesOpen text ∨ SplitsName specifier text behind := by
  induction length : text.length using Nat.strongRecOn generalizing text behind cut with
  | ind _ ih =>
    subst length
    constructor
    · rintro ⟨other, mem, early, covers⟩
      obtain ⟨before, after, _, located⟩ := exists_located mem
      rcases located.covers_cases line early covers with leaves | ⟨spelling, named, cuts, rfl⟩
      · exact .inl leaves
      refine .inr (splitsName_iff.2 ⟨before, spelling, named, cuts, not_or.1 fun blocked => ?_⟩)
      -- nothing that is found covers the start of another one
      obtain ⟨third, thirdMem, thirdEarly, thirdCovers⟩ :=
        (ih before.length cuts.length_lt located.found located.starts rfl).2 blocked
      rw [← cuts.whole] at thirdMem
      rw [← located.start_eq] at thirdEarly thirdCovers
      exact absurd (stop_le_start_of_mem_find thirdMem mem thirdEarly) (Nat.not_le.2 thirdCovers)
    · rintro (leaves | splits)
      · exact exists_covers_of_leavesOpen leaves found
      obtain ⟨before, spelling, named, cuts, free⟩ := splitsName_iff.1 splits
      obtain ⟨other, located, covers⟩ := cuts.exists_located
      rcases located.exists_mem_find with mem | third
      · exact ⟨other, mem, located.start_eq ▸ cuts.length_lt, covers⟩
      · rw [cuts.whole] at third
        exact absurd ((ih before.length cuts.length_lt located.found located.starts rfl).1 third)
          (not_or.2 free)

/-- **A statement behind other text.** A statement that is found at the start of a text is found behind
any lines in front of it, unless these end in one that may yet become a statement, or within the name of
one. -/
theorem find_behind {specifier : String} {text s : List Char} {first : Occurrence}
    (found : first ∈ find specifier s) (starts : first.start = 0)
    (line : text = [] ∨ text.getLast? = some '\n') :
    (∃ found ∈ find specifier (text ++ s), found.start = text.length) ↔
      ¬ LeavesOpen text ∧ ¬ SplitsName specifier text s := by
  obtain ⟨front, after, cut, located⟩ := exists_located found
  obtain rfl : front = [] := List.length_eq_zero_iff.1 (located.start_eq.symm.trans starts)
  obtain rfl : s = after := located.split
  have newLine := lineStartAfter_eq_true_iff.2 line
  have behind : Located specifier.toList (text ++ s) text s cut (cut.occurrence text.length) :=
    ⟨rfl, newLine, located.found, rfl⟩
  rw [← not_or, ← covers_iff located.found newLine]
  constructor
  · rintro ⟨here, mem, atEnd⟩ ⟨other, otherMem, early, covers⟩
    have apart := stop_le_start_of_mem_find otherMem mem (by omega)
    omega
  · intro free
    rcases behind.exists_mem_find with mem | other
    · exact ⟨_, mem, behind.start_eq⟩
    · exact absurd other free

def namedImport : List Char :=
  "import \x7b A \x7d from 'm'".toList

theorem find_namedImport :
    find "m" namedImport = [⟨namedImport, namedImport, 0, 21, [], ['\n']⟩] := by
  decide +kernel

theorem find_behind_sample :
    (∃ first ∈ find "m" namedImport, first.start = 0) ∧ "run()\n".toList.getLast? = some '\n' ∧
      ((∃ found ∈ find "m" ("run()\n".toList ++ namedImport), found.start = 6) ↔
        ¬ LeavesOpen "run()\n".toList ∧ ¬ SplitsName "m" "run()\n".toList namedImport) := by
  have first : ⟨namedImport, namedImport, 0, 21, [], ['\n']⟩ ∈ find "m" namedImport := by
    rw [find_namedImport]
    exact List.mem_singleton_self _
  exact ⟨⟨_, first, rfl⟩, by decide, find_behind first rfl (.inr (by decide))⟩

/-- A line that renames a namespace is taken for the start of the statement on the next line. -/
theorem find_behind_alias :
    find "m" namedImport = [⟨namedImport, namedImport, 0, namedImport.length, [], ['\n']⟩] ∧
      (ImportStatement.read namedImport).toOption =
        some ⟨namedImport, "m", false, [("A", "A")], [], none, none⟩ ∧
      "import fs = Foo.bar\n".toList.getLast? = some '\n' ∧
      find "m" ("import fs = Foo.bar\n".toList ++ namedImport) =
        [⟨"import fs = Foo.bar\n".toList ++ namedImport, "import fs = Foo.bar\n".toList ++ namedImport,
          0, 41, [], ['\n']⟩] ∧
      ¬ ∃ found ∈ find "m" ("import fs = Foo.bar\n".toList ++ namedImport),
        found.start = "import fs = Foo.bar\n".toList.length := by
  have covered : find "m" ("import fs = Foo.bar\n".toList ++ namedImport) =
      [⟨"import fs = Foo.bar\n".toList ++ namedImport, "import fs = Foo.bar\n".toList ++ namedImport,
        0, 41, [], ['\n']⟩] := by
    decide +kernel
  refine ⟨find_namedImport, by decide +kernel, by decide, covered, ?_⟩
  rw [covered]
  decide

end VirtualImports.Statement
