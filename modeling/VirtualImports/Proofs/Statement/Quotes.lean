import VirtualImports.Proofs.Statement.Shape
import VirtualImports.Proofs.Statement.Source
import VirtualImports.Statement.Reading

/-!
The quotes of a statement that can be read.

* `isTokenChar_of_scan`: a clause that splits into tokens is made of blanks, marks and names;
* `quotes_of_read`: a statement that can be read holds no quotes but the two of its specifier;
* `unquoted_of_read`: so the specifier that a located statement was found by holds none.
-/
namespace VirtualImports

namespace Clause

open Text Statement

/-- The characters that a clause can be made of. -/
def isTokenChar (c : Char) : Bool :=
  isBlank c || (Lexeme.ofPunctuation? c).isSome || continuesName c

theorem continuesName_of_startsName {c : Char} (h : startsName c = true) :
    continuesName c = true := by
  have letter : c.isAlpha = true → isWordChar c = true := by
    intro alpha
    have ascii : c.toNat < 0x80 := by
      have := isAlpha_iff.1 alpha
      omega
    rw [isWordChar_of_ascii ascii]
    simp [Char.isAlphanum, alpha]
  simp only [startsName, Bool.or_eq_true, beq_iff_eq] at h
  rcases h with (h | rfl) | rfl
  · simp [continuesName, letter h]
  · decide
  · decide

theorem isTokenChar_of_scan {position : Nat} {s : List Char}
    (h : (scanFrom position s).illegal = none) : ∀ c ∈ s, isTokenChar c = true := by
  fun_induction scanFrom position s with
  | case1 => simp
  | case2 position c rest blank ih =>
    simpa [isTokenChar, blank] using ih h
  | case3 position c rest blank lexeme mark ih =>
    simpa [isTokenChar, mark] using ih h
  | case4 position c rest blank mark start tail ih =>
    intro d hd
    rcases List.mem_cons.1 hd with rfl | hd
    · simp [isTokenChar, continuesName_of_startsName start]
    rw [← List.takeWhile_append_dropWhile (p := continuesName) (l := rest)] at hd
    rcases List.mem_append.1 hd with hd | hd
    · simp [isTokenChar, List.mem_takeWhile_imp hd]
    · exact ih h d hd
  | case5 => cases h

theorem isQuote_of_isTokenChar {c : Char} (h : isTokenChar c = true) : isQuote c = false := by
  cases hq : isQuote c
  · rfl
  · simp only [isQuote, Bool.or_eq_true, beq_iff_eq] at hq
    rcases hq with rfl | rfl <;> revert h <;> decide

theorem isClauseChar_of_isTokenChar {c : Char} (h : isTokenChar c = true) :
    isClauseChar c = true := by
  have other : c ≠ ';' := by
    rintro rfl
    exact absurd h (by decide)
  simp [isClauseChar, isQuote_of_isTokenChar h, other]

theorem unquoted_of_scan {clause : List Char} (h : (scan clause).illegal = none) :
    Unquoted clause :=
  fun c hc => isQuote_of_isTokenChar (isTokenChar_of_scan h c hc)

end Clause

namespace Statement

open Text

theorem quotes_of_splitTypeKeyword? {s clause : List Char} {typeOnly : Bool}
    (h : splitTypeKeyword? s = some (typeOnly, clause)) : quotes s = quotes clause := by
  rw [← quotes_dropWhile_isBlank]
  unfold splitTypeKeyword? at h
  dsimp only at h
  generalize s.dropWhile isBlank = body at h ⊢
  split at h
  · cases h
  split at h
  · rename_i empty
    rw [List.isEmpty_iff.1 empty]
    split at h <;> simp_all
  split at h
  · cases h
  split at h
  · simp only [Option.some.injEq, Prod.mk.injEq] at h
    rw [← h.2, quotes_trimRight]
  · rename_i rest keyword
    have marked : quotes (trimRight (trimLeft rest)) = quotes body := by
      rw [eq_append_of_after? keyword, quotes_append, quotes_trimRight, quotes_trimLeft]
      rfl
    split at h
    · split at h
      · simp only [Option.some.injEq, Prod.mk.injEq] at h
        rw [← h.2, marked]
      · rename_i absent
        have empty : trimRight (trimLeft rest) = [] := by simpa using absent
        rw [empty] at marked
        split at h <;> simp only [Option.some.injEq, Prod.mk.injEq] at h
        · rw [← h.2, marked]
        · rw [← h.2, quotes_trimRight]
    · simp only [Option.some.injEq, Prod.mk.injEq] at h
      rw [← h.2, quotes_trimRight]

/-- The parts of a statement that can be read. -/
theorem exists_parts_of_ofText? {s : List Char} {header : Header}
    (h : Header.ofText? s = some header) :
    ∃ before blanks tail quote, IsSource header.specifier blanks tail quote ∧
      splitTypeKeyword? before = some (header.typeOnly, header.clause) ∧
      s = importWord ++ (before ++ sourceText header.specifier blanks tail quote) := by
  unfold Header.ofText? at h
  split at h
  · cases h
  rename_i rest keyword
  split at h
  · cases h
  rename_i before specifier split
  obtain ⟨⟨typeOnly, clause⟩, marked, rfl⟩ := Option.map_eq_some_iff.1 h
  obtain ⟨phrase, rfl, found⟩ := exists_source_of_splitSource? split
  obtain ⟨blanks, tail, quote, source, rfl⟩ := exists_sourceText found
  exact ⟨before, blanks, tail, quote, source, marked, eq_append_of_after? keyword⟩

end Statement

namespace ImportStatement

open Text Statement

/-- What a statement that can be read was read from. -/
theorem exists_header_of_read {s : List Char} {statement : ImportStatement}
    (h : read s = .ok statement) :
    ∃ header, Header.ofText? (trim s) = some header ∧
      readClause header.clause = .ok statement.bindings ∧
      statement.specifier = String.ofList header.specifier ∧
      statement.typeOnly = header.typeOnly := by
  unfold read at h
  split at h
  · cases h
  rename_i header found
  split at h
  · cases h
  rename_i bindings clause
  cases h
  exact ⟨header, found, clause, rfl, rfl⟩

theorem scan_of_readClause {clause : List Char} {bindings : Bindings}
    (h : readClause clause = .ok bindings) :
    (Clause.scan clause).illegal = none ∧
      Clause.read (Clause.scan clause).tokens = .ok bindings ∧ bindings.isEmpty = false := by
  unfold readClause at h
  dsimp only at h
  split at h
  · cases h
  rename_i legal
  split at h
  · cases h
  rename_i bound found
  split at h
  · cases h
  · rename_i filled
    cases h
    exact ⟨legal, found, by simpa using filled⟩

/-- A statement that can be read holds no quotes but the two of its specifier. -/
theorem quotes_of_read {s : List Char} {statement : ImportStatement}
    (h : read s = .ok statement) : ∃ quote, isQuote quote = true ∧ quotes s = [quote, quote] := by
  obtain ⟨header, found, clause, _⟩ := exists_header_of_read h
  obtain ⟨before, blanks, tail, quote, source, marked, text⟩ := exists_parts_of_ofText? found
  have plain : quotes before = [] := by
    rw [quotes_of_splitTypeKeyword? marked, quotes_eq_nil]
    exact Clause.unquoted_of_scan (scan_of_readClause clause).1
  refine ⟨quote, source.quoted, ?_⟩
  rw [← quotes_trim, text, quotes_append, quotes_append, plain, source.quotes_eq]
  rfl

/-- The specifier that a statement was found by holds no quotes if the statement can be read. -/
theorem unquoted_of_read {specifier text : List Char} {cut : Cut} {statement : ImportStatement}
    (found : cut? specifier text = some cut) (h : read (trim cut.statement) = .ok statement) :
    Unquoted specifier := by
  obtain ⟨_, frame, mark, quote, fits⟩ := cut?_eq_some_iff.1 found
  obtain ⟨opening, _, two⟩ := quotes_of_read h
  rw [← quotes_eq_nil]
  have count := congrArg List.length two
  rw [quotes_trim, fits.statement] at count
  simp only [quotes_append, List.cons_append, quotes_cons_of_isQuote fits.quoted,
    List.length_append, List.length_cons, List.length_nil, quotes_eq_nil.2, unquoted_nil] at count
  exact List.length_eq_zero_iff.1 (by omega)

end ImportStatement

end VirtualImports
