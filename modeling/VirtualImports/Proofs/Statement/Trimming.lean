import VirtualImports.Proofs.Statement.Finding
import VirtualImports.Proofs.Statement.Recognition

/-!
The blanks behind a statement.

* `looseBlanks`: the spaces and tabs that follow a statement without a semicolon on its line;
* `Located.original_eq_append`: what is found of a statement is its indentation, the statement and these;
* `find_trimmed`: so it ends where the statement ends just if there are none.
-/
namespace VirtualImports.Statement

open Text

/-- The spaces and tabs behind a statement, unless a semicolon parts them from it. -/
def looseBlanks (code : List Char) (occurrence : Occurrence) : List Char :=
  if occurrence.statement.getLast? = some ';' then []
  else (code.drop (occurrence.start + (occurrence.indent ++ occurrence.statement).length)).takeWhile
    isSpaceOrTab

variable {specifier code before after : List Char} {cut : Cut} {occurrence : Occurrence}

/-- Without a semicolon the blanks behind the closing quote all belong to the mark. -/
theorem LineTail.takeWhile_eq {mark trailing newline rest : List Char}
    (tail : LineTail mark trailing newline) (atEnd : AtLineEnd rest)
    (blank : ∀ c ∈ mark, isSpaceOrTab c = true) :
    (mark ++ (trailing ++ rest)).takeWhile isSpaceOrTab = mark := by
  cases tail with
  | marked =>
    have semicolon : isSpaceOrTab ';' = true := blank ';' (by simp)
    exact absurd semicolon (by decide)
  | unmarked hb ending => exact takeWhile_run hb (ending.stops atEnd)

/-- Blanks belong to what is found of a statement, if they follow its closing quote. -/
theorem Located.original_eq_append (located : Located specifier code before after cut occurrence) :
    Solid occurrence.statement ∧
      occurrence.original = occurrence.indent ++ occurrence.statement ++ looseBlanks code occurrence := by
  obtain ⟨rfl, frame, mark, quote, fits⟩ := cut?_eq_some_iff.1 located.found
  obtain ⟨rfl, _, _, rfl⟩ := located
  rcases fits.tail.mark_cases with blank | ⟨blanks, _, rfl⟩
  · obtain ⟨solid, trimmed, statement⟩ := fits.trim_unmarked blank
    have behind : (before ++ cut.text).drop (before.length + (cut.indent ++ trim cut.statement).length) =
        mark ++ (cut.trailing ++ cut.rest) := by
      have text : before ++ cut.text = (before ++ (cut.indent ++ trim cut.statement)) ++
          (mark ++ (cut.trailing ++ cut.rest)) := by
        simp only [Cut.text, List.append_assoc]
        rw [← List.append_assoc (trim cut.statement), ← statement]
      rw [text, ← List.length_append, List.drop_left]
    have unmarked : (trim cut.statement).getLast? ≠ some ';' := by
      rw [trimmed, List.getLast?_concat, Ne, Option.some.injEq]
      rintro rfl
      exact absurd fits.quoted (by decide)
    refine ⟨solid, ?_⟩
    rw [looseBlanks, Cut.occurrence, if_neg unmarked]
    simp only [behind]
    rw [fits.tail.takeWhile_eq fits.atEnd blank, List.append_assoc, ← statement]
  · obtain ⟨solid, trimmed⟩ := fits.trim_marked
    have marked : (trim cut.statement).getLast? = some ';' := by
      rw [trimmed, fits.statement, ← List.append_assoc, List.getLast?_concat]
    refine ⟨solid, ?_⟩
    rw [looseBlanks, Cut.occurrence, if_pos marked, List.append_nil, trimmed]

/-- **Trimming.** What is found of a statement is the indentation, the statement and the blanks behind it
that no semicolon parts from it. It has no blanks at its end, and ends where the statement ends, just if
there are no such blanks. -/
theorem find_trimmed {specifier : String} (found : occurrence ∈ find specifier code) :
    trimRight occurrence.original = occurrence.indent ++ occurrence.statement ∧
      occurrence.original =
        occurrence.indent ++ occurrence.statement ++ looseBlanks code occurrence ∧
      (trimRight occurrence.original = occurrence.original ∧
          occurrence.original = occurrence.indent ++ occurrence.statement ↔
        looseBlanks code occurrence = []) := by
  obtain ⟨before, after, cut, located⟩ := exists_located found
  obtain ⟨solid, whole⟩ := located.original_eq_append
  have blank : ∀ c ∈ looseBlanks code occurrence, isBlank c = true := by
    intro c hc
    unfold looseBlanks at hc
    split at hc
    · cases hc
    · exact isBlank_of_isSpaceOrTab (List.mem_takeWhile_imp hc)
  have trimmed : trimRight occurrence.original = occurrence.indent ++ occurrence.statement := by
    rw [whole, trimRight_append (solid.stops_reverse occurrence.indent) blank]
  refine ⟨trimmed, whole, ?_⟩
  rw [trimmed, eq_comm, and_self, whole, List.append_right_eq_self]

theorem find_trimmed_sample :
    ∃ occurrence ∈ find "x" "import \x7b A \x7d from 'x'; \n".toList,
      trimRight occurrence.original = occurrence.original ∧
        occurrence.original = occurrence.indent ++ occurrence.statement := by
  have found : ⟨"import \x7b A \x7d from 'x';".toList, "import \x7b A \x7d from 'x';".toList, 0, 22,
      [], ['\n']⟩ ∈ find "x" "import \x7b A \x7d from 'x'; \n".toList := by
    decide +kernel
  exact ⟨_, found, (find_trimmed found).2.2.2 (by decide)⟩

/-- Without the semicolon the blank at the end of the line is found with the statement. -/
theorem find_untrimmed :
    find "x" "import \x7b A \x7d from 'x' \n".toList =
        [⟨"import \x7b A \x7d from 'x' ".toList, "import \x7b A \x7d from 'x'".toList, 0, 22, [],
          ['\n']⟩] ∧
      ¬ ∀ occurrence ∈ find "x" "import \x7b A \x7d from 'x' \n".toList,
        trimRight occurrence.original = occurrence.original ∧
          occurrence.original = occurrence.indent ++ occurrence.statement := by
  have found : find "x" "import \x7b A \x7d from 'x' \n".toList =
      [⟨"import \x7b A \x7d from 'x' ".toList, "import \x7b A \x7d from 'x'".toList, 0, 22, [],
        ['\n']⟩] := by
    decide +kernel
  refine ⟨found, ?_⟩
  rw [found, List.forall_mem_singleton]
  decide

end VirtualImports.Statement
