import VirtualImports.Proofs.Clause.Acceptance
import VirtualImports.Proofs.Statement.Returns

/-!
Statements, and the blanks between their tokens.

* `splits_spaced`: with blanks between them tokens split as they should;
* `readFront_front`: what is said in front of `from` is what the tokens say behind the mark, or what
  they say as a whole where there is no mark;
* `toOption_read_text`: a statement is read so whatever its blanks are;
* `read_layouts`: they matter only behind a word `type` with a comma or nothing behind it.
-/
namespace VirtualImports.Statement

open Text Clause

/-- Blanks, and at least one. -/
structure IsGap (s : List Char) : Prop where
  ne_nil : s ≠ []
  blank : ∀ c ∈ s, isBlank c = true

/-! ## Layouts -/

/-- A statement with its blanks: the tokens of the clause, each behind its blanks, the blanks in front
of `from` and behind it, the specifier in its quotes, and the blanks in front of the semicolon where
there is one. -/
structure Layout where
  pieces : List (List Char × Lexeme)
  gap : List Char
  sourceGap : List Char
  quote : Char
  specifier : List Char
  mark : Option (List Char)

def spaced (pieces : List (List Char × Lexeme)) : List Char :=
  pieces.flatMap fun (blanks, lexeme) => blanks ++ lexeme.text.toList

namespace Layout

def lexemes (layout : Layout) : List Lexeme :=
  layout.pieces.map Prod.snd

/-- What stands between `import` and `from`. -/
def front (layout : Layout) : List Char :=
  spaced layout.pieces ++ layout.gap

def tail (layout : Layout) : List Char :=
  match layout.mark with
  | none => []
  | some blanks => blanks ++ [';']

def text (layout : Layout) : List Char :=
  importWord ++ (layout.front ++
    sourceText layout.specifier layout.sourceGap layout.tail layout.quote)

/-- The blanks behind the first token. -/
def behindFirst (layout : Layout) : List Char :=
  match layout.pieces with
  | _ :: (blanks, _) :: _ => blanks
  | _ => layout.gap

end Layout

/-- Two words have a blank between them. -/
def WordsApart (a b : List Char × Lexeme) : Prop :=
  a.2.isWord = true → b.2.isWord = true → b.1 ≠ []

/-- The blanks are such, and there is one behind `import`, in front of `from` and behind it, and
between two words. -/
structure Layout.Proper (layout : Layout) : Prop where
  blank : ∀ piece ∈ layout.pieces, ∀ c ∈ piece.1, isBlank c = true
  words : ∀ name, .name name ∈ layout.lexemes → IsName name
  lead : ∀ piece ∈ layout.pieces.head?, piece.1 ≠ []
  apart : layout.pieces.IsChain WordsApart
  gap : IsGap layout.gap
  sourceGap : IsGap layout.sourceGap
  quoted : isQuote layout.quote = true
  mark : ∀ blanks ∈ layout.mark, ∀ c ∈ blanks, isBlank c = true

/-- The same statement but for its blanks. -/
structure Layout.SameTokens (a b : Layout) : Prop where
  lexemes : a.lexemes = b.lexemes
  quote : a.quote = b.quote
  specifier : a.specifier = b.specifier
  mark : a.mark.isSome = b.mark.isSome

theorem Layout.SameTokens.symm {a b : Layout} (h : a.SameTokens b) : b.SameTokens a :=
  ⟨h.lexemes.symm, h.quote.symm, h.specifier.symm, h.mark.symm⟩

/-! ## Splitting -/

variable {pieces : List (List Char × Lexeme)} {first : Lexeme} {blanks gap : List Char}

theorem solid_lexeme (isName : ∀ name, first = .name name → IsName name) :
    Solid first.text.toList := by
  cases first with
  | name name => exact (isName name rfl).solid
  | _ => decide

/-- The text of a token that is no word does not go on with a word, and does not begin one. -/
theorem stops_lexeme (mark : first.isWord = false) (rest : List Char) :
    Stops continuesName (first.text.toList ++ rest) := by
  cases first with
  | name name => cases mark
  | star => exact stops_cons.2 (by decide)
  | openBrace => exact stops_cons.2 (by decide)
  | closeBrace => exact stops_cons.2 (by decide)
  | comma => exact stops_cons.2 (by decide)

theorem stops_blanks (ne : blanks ≠ []) (blank : ∀ c ∈ blanks, isBlank c = true)
    (rest : List Char) : Stops continuesName (blanks ++ rest) := by
  obtain ⟨c, more, rfl⟩ := List.exists_cons_of_ne_nil ne
  rw [List.cons_append, stops_cons, ← Bool.not_eq_true]
  intro goesOn
  have plain := isBlank_of_continuesName goesOn
  rw [blank c List.mem_cons_self] at plain
  cases plain

theorem stops_spaced {lead : List Char} (apart : ((lead, first) :: pieces).IsChain WordsApart)
    (blank : ∀ piece ∈ pieces, ∀ c ∈ piece.1, isBlank c = true) (word : first.isWord = true)
    {rest : List Char} (stop : Stops continuesName rest) :
    Stops continuesName (spaced pieces ++ rest) := by
  cases pieces with
  | nil => exact stop
  | cons next pieces =>
    obtain ⟨blanks, lexeme⟩ := next
    have blankHere := blank (blanks, lexeme) List.mem_cons_self
    rw [spaced, List.flatMap_cons, List.append_assoc, List.append_assoc]
    by_cases none : blanks = []
    · subst none
      have mark : lexeme.isWord = false := by
        rw [← Bool.not_eq_true]
        exact fun other => (List.isChain_cons_cons.1 apart).1 word other rfl
      exact stops_lexeme mark _
    · exact stops_blanks none blankHere _

/-- With blanks between them tokens split as they should. -/
theorem splits_spaced {lead : List Char} (apart : ((lead, first) :: pieces).IsChain WordsApart)
    (blank : ∀ piece ∈ pieces, ∀ c ∈ piece.1, isBlank c = true)
    (words : ∀ name, .name name ∈ first :: pieces.map Prod.snd → IsName name) :
    Splits (first.text.toList ++ spaced pieces) (first :: pieces.map Prod.snd) := by
  induction pieces generalizing lead first with
  | nil =>
    refine splits_nil.lexeme (fun name same => words name (by simp [same])) fun _ => stops_nil
  | cons next pieces ih =>
    obtain ⟨blanks, lexeme⟩ := next
    have later : Splits (spaced ((blanks, lexeme) :: pieces)) (lexeme :: pieces.map Prod.snd) := by
      rw [spaced, List.flatMap_cons, List.append_assoc]
      refine (ih (List.isChain_cons_cons.1 apart).2 ?_ ?_).blanks (blank _ List.mem_cons_self)
      · exact fun piece mem => blank piece (List.mem_cons_of_mem _ mem)
      · exact fun name mem => words name (List.mem_cons_of_mem _ mem)
    refine later.lexeme (fun name same => words name (by simp [same])) fun word => ?_
    have stop : Stops continuesName (spaced ((blanks, lexeme) :: pieces) ++ []) :=
      stops_spaced apart blank word stops_nil
    rwa [List.append_nil] at stop

/-- A clause begins and ends with a token. -/
theorem solid_spaced (words : ∀ name, .name name ∈ first :: pieces.map Prod.snd → IsName name) :
    Solid (first.text.toList ++ spaced pieces) := by
  have here : Solid first.text.toList := solid_lexeme fun name same => words name (by simp [same])
  induction pieces generalizing first with
  | nil =>
    rw [spaced, List.flatMap_nil, List.append_nil]
    exact here
  | cons next pieces ih =>
    obtain ⟨blanks, lexeme⟩ := next
    have later : ∀ name, .name name ∈ lexeme :: pieces.map Prod.snd → IsName name :=
      fun name mem => words name (List.mem_cons_of_mem _ mem)
    rw [spaced, List.flatMap_cons, List.append_assoc, ← List.append_assoc]
    exact here.join (ih later (solid_lexeme fun name same => later name (by simp [same]))) blanks

/-! ## Reading -/

/-- What lexemes bind as a clause. -/
def readLexemes (lexemes : List Lexeme) : Option Bindings :=
  (readTokens (lexemes.map fun lexeme => ⟨lexeme, 0⟩)).toOption

theorem toOption_readTokens (tokens : List Token) :
    (readTokens tokens).toOption =
      (Clause.read tokens).toOption.filter fun bindings => !bindings.isEmpty := by
  unfold readTokens
  cases Clause.read tokens with
  | error fault => rfl
  | ok bindings => cases empty : bindings.isEmpty <;> simp [Except.toOption, Option.filter, empty]

/-- A clause binds what its lexemes bind. -/
theorem toOption_readClause_of_splits {text : List Char} {lexemes : List Lexeme}
    (h : Splits text lexemes) : (readClause text).toOption = readLexemes lexemes := by
  obtain ⟨tokens, scanned, same⟩ := h 0
  have placed : (lexemes.map fun lexeme => (⟨lexeme, 0⟩ : Token)).map Token.lexeme = lexemes := by
    rw [List.map_map]
    exact List.map_id _
  rw [toOption_readClause, scan, scanned, readLexemes, toOption_readTokens,
    toOption_read_of_lexemes (placed.trans same.symm)]
  rfl

theorem readLexemes_nil : readLexemes [] = none := rfl

theorem readLexemes_comma (rest : List Lexeme) : readLexemes (.comma :: rest) = none := rfl

theorem readLexemes_closeBrace (rest : List Lexeme) : readLexemes (.closeBrace :: rest) = none := rfl

theorem readLexemes_name_closeBrace (name : String) (rest : List Lexeme) :
    readLexemes (.name name :: .closeBrace :: rest) = none := rfl

/-- Whether `type` in front of these pieces is the mark. -/
def marksFollowing (gap : List Char) : List (List Char × Lexeme) → Prop
  | [] => 2 ≤ gap.length
  | (blanks, next) :: _ => blanks ≠ [] ∨ next = .openBrace ∨ next = .star

/-- The first word is the mark of the statement. -/
def Layout.Marked (layout : Layout) : Prop :=
  ∃ lead rest, layout.pieces = (lead, .name "type") :: rest ∧ marksFollowing layout.gap rest

/-- The first token of a clause without the mark stays in it. -/
theorem readFront_unmarked {lead : List Char}
    (proper : ∀ piece ∈ (lead, first) :: pieces, ∀ c ∈ piece.1, isBlank c = true)
    (words : ∀ name, .name name ∈ first :: pieces.map Prod.snd → IsName name) (ne : lead ≠ [])
    (apart : ((lead, first) :: pieces).IsChain WordsApart) (isGap : IsGap gap)
    (unmarked : first = .name "type" → ¬ marksFollowing gap pieces) :
    readFront (lead ++ (first.text.toList ++ spaced pieces ++ gap)) =
      (readLexemes (first :: pieces.map Prod.snd)).map (false, ·) := by
  have blankLead : ∀ c ∈ lead, isBlank c = true := proper (lead, first) List.mem_cons_self
  have blank : ∀ piece ∈ pieces, ∀ c ∈ piece.1, isBlank c = true :=
    fun piece mem => proper piece (List.mem_cons_of_mem _ mem)
  have split : splitTypeKeyword? (lead ++ (first.text.toList ++ spaced pieces ++ gap)) =
      some (false, first.text.toList ++ spaced pieces) := by
    refine splitTypeKeyword?_unmarked ne blankLead (solid_spaced words) isGap.ne_nil isGap.blank ?_
    intro rest split
    rw [List.append_assoc] at split
    cases first with
    | name name =>
      have stop : Stops continuesName (spaced pieces ++ gap) := by
        refine stops_spaced apart blank rfl ?_
        have behind := stops_blanks isGap.ne_nil isGap.blank []
        rwa [List.append_nil] at behind
      rcases (words name (by simp)).cases_of_typeWord stop split with ⟨rfl, rfl⟩ | goesOn
      · replace unmarked := unmarked rfl
        cases pieces with
        | nil =>
          obtain ⟨c, more, rfl⟩ := List.exists_cons_of_ne_nil isGap.ne_nil
          simp only [marksFollowing, List.length_cons] at unmarked
          have single : more = [] := List.length_eq_zero_iff.1 (by omega)
          subst single
          exact .inl ⟨c, isGap.blank c List.mem_cons_self, rfl⟩
        | cons next pieces =>
          obtain ⟨blanks, lexeme⟩ := next
          simp only [marksFollowing, not_or, not_not] at unmarked
          obtain ⟨rfl, brace, star⟩ := unmarked
          refine .inr ?_
          cases lexeme with
          | name other => exact absurd rfl ((List.isChain_cons_cons.1 apart).1 rfl rfl)
          | openBrace => exact absurd rfl brace
          | star => exact absurd rfl star
          | closeBrace => exact ⟨'}', rfl, by decide⟩
          | comma => exact ⟨',', rfl, by decide⟩
      · exact .inr goesOn
    | star => cases split
    | openBrace => cases split
    | closeBrace => cases split
    | comma => cases split
  simp only [readFront, split, Option.bind_some,
    toOption_readClause_of_splits (splits_spaced apart blank words)]

/-- Behind the mark the clause begins. -/
theorem readFront_marked {lead : List Char}
    (proper : ∀ piece ∈ (lead, .name "type") :: pieces, ∀ c ∈ piece.1, isBlank c = true)
    (words : ∀ name, .name name ∈ pieces.map Prod.snd → IsName name) (ne : lead ≠ [])
    (apart : ((lead, .name "type") :: pieces).IsChain WordsApart) (isGap : IsGap gap)
    (marked : marksFollowing gap pieces) :
    readFront (lead ++ ("type".toList ++ spaced pieces ++ gap)) =
      (readLexemes (pieces.map Prod.snd)).map (true, ·) := by
  have blankLead : ∀ c ∈ lead, isBlank c = true := proper (lead, _) List.mem_cons_self
  have word : "type".toList = typeWord := rfl
  rw [word, List.append_assoc]
  cases pieces with
  | nil =>
    rw [spaced, List.flatMap_nil, List.nil_append]
    simp only [readFront, splitTypeKeyword?_alone ne blankLead marked isGap.blank,
      Option.bind_some, toOption_readClause_of_splits splits_nil, List.map_nil]
  | cons next pieces =>
    obtain ⟨blanks, lexeme⟩ := next
    have blankNext : ∀ c ∈ blanks, isBlank c = true := proper (blanks, lexeme) (by simp)
    have follows : blanks = [] →
        ∃ c ∈ (lexeme.text.toList ++ spaced pieces).head?, followsMark c = true := by
      intro none
      rcases marked with filled | rfl | rfl
      · exact absurd none filled
      · exact ⟨'{', rfl, by decide⟩
      · exact ⟨'*', rfl, by decide⟩
    have shape : spaced ((blanks, lexeme) :: pieces) ++ gap =
        blanks ++ (lexeme.text.toList ++ spaced pieces ++ gap) := by
      simp [spaced]
    have splits := splits_spaced (List.isChain_cons_cons.1 apart).2
      (fun piece mem => proper piece (by simp [mem])) words
    rw [shape]
    simp only [readFront, splitTypeKeyword?_marked ne blankLead blankNext (solid_spaced words)
      isGap.ne_nil isGap.blank follows, Option.bind_some, toOption_readClause_of_splits splits,
      List.map_cons]

open Classical in
/-- What is said in front of `from` does not depend on the blanks but for the mark. -/
theorem Layout.readFront_front {layout : Layout} (proper : layout.Proper) :
    readFront layout.front =
      if layout.Marked then (readLexemes layout.lexemes.tail).map (true, ·)
      else (readLexemes layout.lexemes).map (false, ·) := by
  obtain ⟨pieces, gap, sourceGap, quote, specifier, mark⟩ := layout
  obtain ⟨blank, words, lead, apart, isGap, -, -, -⟩ := proper
  dsimp only [Layout.front, Layout.lexemes] at *
  cases pieces with
  | nil =>
    have unmarked : ¬ Layout.Marked ⟨[], gap, sourceGap, quote, specifier, mark⟩ := by
      rintro ⟨_, _, same, _⟩
      cases same
    rw [if_neg unmarked, spaced, List.flatMap_nil, List.nil_append, readFront_blank isGap.blank]
    rfl
  | cons piece pieces =>
    obtain ⟨blanks, first⟩ := piece
    have ne : blanks ≠ [] := lead (blanks, first) rfl
    have shape : spaced ((blanks, first) :: pieces) ++ gap =
        blanks ++ (first.text.toList ++ spaced pieces ++ gap) := by
      simp [spaced]
    rw [shape]
    split
    · rename_i marked
      obtain ⟨_, _, same, follows⟩ := marked
      cases same
      exact readFront_marked blank (fun name mem => words name (List.mem_cons_of_mem _ mem)) ne apart
        isGap follows
    · rename_i unmarked
      refine readFront_unmarked blank words ne apart isGap ?_
      rintro rfl follows
      exact unmarked ⟨_, _, rfl, follows⟩

theorem Layout.unquoted_front {layout : Layout} (proper : layout.Proper) :
    Unquoted layout.front := by
  obtain ⟨pieces, gap, sourceGap, quote, specifier, mark⟩ := layout
  obtain ⟨blank, words, -, -, isGap, -, -, -⟩ := proper
  dsimp only [Layout.front, Layout.lexemes] at *
  rw [unquoted_append]
  refine ⟨?_, unquoted_of_isBlank isGap.blank⟩
  intro c hc
  obtain ⟨⟨blanks, lexeme⟩, mem, hc⟩ := List.mem_flatMap.1 hc
  rcases List.mem_append.1 hc with hc | hc
  · exact isQuote_of_isBlank (blank _ mem c hc)
  · cases lexeme with
    | name name =>
      have isName := words name (List.mem_map_of_mem (f := Prod.snd) mem)
      exact isName.plain.unquoted c hc
    | star => exact (by decide : Unquoted ['*']) c hc
    | openBrace => exact (by decide : Unquoted ['{']) c hc
    | closeBrace => exact (by decide : Unquoted ['}']) c hc
    | comma => exact (by decide : Unquoted [',']) c hc

theorem Layout.solid_text {layout : Layout} (proper : layout.Proper) : Solid layout.text := by
  have word : Solid importWord := by decide
  have close : Solid [layout.quote] :=
    solid_of_all (by simp) (by simpa using isBlank_of_isQuote proper.quoted)
  have mark : Solid [';'] := by decide
  cases marked : layout.mark with
  | none =>
    have solid := word.join close (layout.front ++
      (fromWord ++ (layout.sourceGap ++ layout.quote :: layout.specifier)))
    simpa [Layout.text, Layout.tail, sourceText, marked] using solid
  | some blanks =>
    have solid := word.join mark (layout.front ++ (fromWord ++ (layout.sourceGap ++
      layout.quote :: (layout.specifier ++ layout.quote :: blanks))))
    simpa [Layout.text, Layout.tail, sourceText, marked] using solid

theorem Layout.isTerminator_tail {layout : Layout} (proper : layout.Proper) :
    isTerminator layout.tail = true := by
  unfold Layout.tail
  split
  · rfl
  · exact isTerminator_mark (proper.mark _ ‹_›)

/-- A statement is read as what it says in front of `from`, if there is a specifier in its quotes. -/
theorem Layout.toOption_read_text {layout : Layout} (proper : layout.Proper) :
    (ImportStatement.read layout.text).toOption =
      if layout.specifier ≠ [] ∧ Unquoted layout.specifier then
        (readFront layout.front).map fun (typeOnly, bindings) =>
          ⟨layout.text, String.ofList layout.specifier, typeOnly, bindings⟩
      else none := by
  have plain := Layout.unquoted_front proper
  have terminated := Layout.isTerminator_tail proper
  split
  · rename_i named
    have source : IsSource layout.specifier layout.sourceGap layout.tail layout.quote :=
      ⟨⟨proper.sourceGap.ne_nil, proper.sourceGap.blank⟩, proper.quoted, named.1, named.2, terminated⟩
    exact toOption_read_sourced source plain (Layout.solid_text proper) rfl
  · rename_i improper
    cases readable : ImportStatement.read layout.text with
    | error unreadable => rfl
    | ok statement =>
      obtain ⟨before, phrase, named, split, plainBefore, source⟩ := exists_source_of_read readable
      rw [(Layout.solid_text proper).trim] at split
      have plainFrame : Unquoted (layout.front ++ (fromWord ++ layout.sourceGap)) := by
        rw [unquoted_append, unquoted_append]
        exact ⟨plain, unquoted_fromWord, unquoted_of_isBlank proper.sourceGap.blank⟩
      have shape : layout.text = importWord ++ (layout.front ++ (fromWord ++ layout.sourceGap) ++
          layout.quote :: (layout.specifier ++ layout.quote :: layout.tail)) := by
        simp [Layout.text, sourceText]
      exact absurd (proper_of_source shape plainFrame proper.quoted
        (unquoted_of_isTerminator terminated) split plainBefore source) improper

/-! ## Two layouts of one statement -/

/-- Both statements are read, and bind the same symbols of the same module, or none is. -/
def Agree (a b : Except Unreadable ImportStatement) : Prop :=
  Option.Rel (fun a b => a.sameSymbols b = true ∧ a.specifier = b.specifier) a.toOption b.toOption

/-- `a` can be read for its word `type` is a default name, and in `b` the blanks behind this word make
a mark of it: a blank in front of the comma, or two in front of `from`. -/
def Torn (a b : Layout) : Prop :=
  (∃ statement, ImportStatement.read a.text = .ok statement) ∧
    ((a.lexemes = [.name "type"] ∧ a.behindFirst.length = 1 ∧ 2 ≤ b.behindFirst.length) ∨
      ((∃ rest, a.lexemes = .name "type" :: .comma :: rest) ∧ a.behindFirst = [] ∧
        b.behindFirst ≠ []))

variable {a b : Layout}

theorem agree_of_unread {a b : Except Unreadable ImportStatement} (unread : b.toOption = none) :
    (Agree a b ↔ a.toOption = none) ∧ (Agree b a ↔ a.toOption = none) := by
  unfold Agree
  rw [unread]
  cases a.toOption <;> simp

/-- Where both say the same in front of `from`, they agree. -/
theorem agree_of_front (ha : a.Proper) (hb : b.Proper) (same : a.SameTokens b)
    (front : readFront a.front = readFront b.front) :
    Agree (ImportStatement.read a.text) (ImportStatement.read b.text) := by
  have readA := Layout.toOption_read_text ha
  have readB := Layout.toOption_read_text hb
  rw [← same.specifier, ← front] at readB
  rw [Agree, readB]
  split at readB
  · rename_i named
    rw [if_pos named] at readA
    rw [if_pos named, readA]
    cases said : readFront a.front with
    | none => exact .none
    | some parts =>
      obtain ⟨typeOnly, bindings⟩ := parts
      rw [said, Option.map_some] at readA
      have names := ImportStatement.wellNamed_of_read (Except.toOption_eq_some.1 readA)
      refine .some ⟨?_, rfl⟩
      simp [ImportStatement.sameSymbols, names.same_self]
  · rename_i improper
    rw [if_neg improper] at readA
    rw [if_neg improper, readA]
    exact .none

theorem Layout.marked_iff : a.Marked ↔
    (a.lexemes = [.name "type"] ∧ 2 ≤ a.behindFirst.length) ∨
      ∃ next rest, a.lexemes = .name "type" :: next :: rest ∧
        (a.behindFirst ≠ [] ∨ next = .openBrace ∨ next = .star) := by
  obtain ⟨pieces, gap, sourceGap, quote, specifier, mark⟩ := a
  match pieces with
  | [] => simp [Layout.Marked, Layout.lexemes]
  | [(lead, first)] => simp [Layout.Marked, Layout.lexemes, Layout.behindFirst, marksFollowing]
  | (lead, first) :: (blanks, next) :: rest =>
    simp [Layout.Marked, Layout.lexemes, Layout.behindFirst, marksFollowing]

/-- Behind a word with no other token behind it stand the blanks in front of `from`. -/
theorem Layout.behindFirst_ne_nil_of_single (ha : a.Proper) {first : Lexeme}
    (single : a.lexemes = [first]) : a.behindFirst ≠ [] := by
  obtain ⟨pieces, gap, sourceGap, quote, specifier, mark⟩ := a
  match pieces with
  | [_] => exact ha.gap.ne_nil
  | [] => cases single
  | _ :: _ :: _ => simp [Layout.lexemes] at single

theorem Layout.behindFirst_ne_nil_of_words (ha : a.Proper) {first next : String}
    {rest : List Lexeme} (words : a.lexemes = .name first :: .name next :: rest) :
    a.behindFirst ≠ [] := by
  obtain ⟨pieces, gap, sourceGap, quote, specifier, mark⟩ := a
  match pieces with
  | (_, _) :: (_, _) :: _ =>
    simp only [Layout.lexemes, List.map_cons, List.cons.injEq] at words
    obtain ⟨isFirst, isNext, -⟩ := words
    exact (List.isChain_cons_cons.1 ha.apart).1 (by rw [isFirst]; rfl) (by rw [isNext]; rfl)
  | [] => cases words
  | [_] => simp [Layout.lexemes] at words

theorem Torn.marks (torn : Torn a b) (same : a.SameTokens b) : ¬ a.Marked ∧ b.Marked := by
  rw [Layout.marked_iff, Layout.marked_iff, ← same.lexemes]
  rcases torn.2 with ⟨single, one, two⟩ | ⟨⟨rest, comma⟩, none, filled⟩
  · rw [single]
    refine ⟨?_, .inl ⟨rfl, two⟩⟩
    rintro (⟨_, two⟩ | ⟨_, _, other, _⟩)
    · omega
    · cases other
  · rw [comma]
    refine ⟨?_, .inr ⟨_, _, rfl, .inl filled⟩⟩
    rintro (⟨other, _⟩ | ⟨_, _, other, follows⟩)
    · cases other
    · cases other
      simp [none] at follows

/-- What is a name in `a` and a mark in `b` leaves nothing in `b` that could be read. If `a` can be read,
it is torn. -/
theorem marks_of_unmarked (ha : a.Proper) (hb : b.Proper) (same : a.SameTokens b)
    (unmarked : ¬ a.Marked) (marked : b.Marked) :
    (ImportStatement.read b.text).toOption = none ∧
      (Torn a b ↔ ∃ statement, ImportStatement.read a.text = .ok statement) := by
  have readA := Layout.readFront_front ha
  have readB := Layout.readFront_front hb
  rw [if_neg unmarked] at readA
  rw [if_pos marked, ← same.lexemes] at readB
  rw [Layout.toOption_read_text hb, readB]
  rw [Layout.marked_iff] at unmarked
  rw [Layout.marked_iff, ← same.lexemes] at marked
  simp only [not_or, not_and, not_le, not_exists] at unmarked
  rcases marked with ⟨single, two⟩ | ⟨next, rest, two, follows⟩
  · have one := List.length_pos_iff.2 (Layout.behindFirst_ne_nil_of_single ha single)
    have less := unmarked.1 single
    refine ⟨?_, fun torn => torn.1, fun readable => ⟨readable, .inl ⟨single, by omega, two⟩⟩⟩
    simp [single, readLexemes_nil]
  · obtain ⟨none, brace, star⟩ := unmarked.2 next rest two
    rw [not_not] at none
    have filled : b.behindFirst ≠ [] := by simpa [brace, star] using follows
    cases next with
    | name next => exact absurd none (Layout.behindFirst_ne_nil_of_words ha two)
    | star => exact absurd rfl star
    | openBrace => exact absurd rfl brace
    | closeBrace =>
      -- neither is a clause
      have neither : ¬ ∃ statement, ImportStatement.read a.text = .ok statement := by
        rintro ⟨statement, readable⟩
        have found := Layout.toOption_read_text ha
        rw [readable, readA, two] at found
        simp [readLexemes_name_closeBrace, Except.toOption] at found
      refine ⟨?_, fun torn => torn.1, fun readable => absurd readable neither⟩
      simp [two, readLexemes_closeBrace]
    | comma =>
      refine ⟨?_, fun torn => torn.1, fun readable =>
        ⟨readable, .inr ⟨⟨rest, two⟩, none, filled⟩⟩⟩
      simp [two, readLexemes_comma]

/-- **Spacing.** Two statements with the same tokens but other blanks are both read, and bind the same
symbols of the same module, or are both not read, unless the blanks behind a word `type` make a default
name in one and a mark in the other. -/
theorem read_layouts (ha : a.Proper) (hb : b.Proper) (same : a.SameTokens b) :
    Agree (ImportStatement.read a.text) (ImportStatement.read b.text) ↔ ¬ (Torn a b ∨ Torn b a) := by
  have apart (torn : Torn a b ∨ Torn b a) : ¬ (a.Marked ↔ b.Marked) := by
    rcases torn with torn | torn
    · obtain ⟨name, mark⟩ := torn.marks same
      exact fun alike => name (alike.2 mark)
    · obtain ⟨name, mark⟩ := torn.marks same.symm
      exact fun alike => name (alike.1 mark)
  by_cases alike : a.Marked ↔ b.Marked
  · refine iff_of_true (agree_of_front ha hb same ?_) fun torn => apart torn alike
    rw [Layout.readFront_front ha, Layout.readFront_front hb, same.lexemes]
    by_cases marked : a.Marked
    · rw [if_pos marked, if_pos (alike.1 marked)]
    · rw [if_neg marked, if_neg fun other => marked (alike.2 other)]
  · by_cases marked : a.Marked
    · obtain ⟨unread, torn⟩ := marks_of_unmarked hb ha same.symm (by tauto) marked
      have other : ¬ Torn a b := fun torn => (torn.marks same).1 marked
      rw [(agree_of_unread unread).2, Except.toOption_eq_none, torn]
      simp [other]
    · obtain ⟨unread, torn⟩ := marks_of_unmarked ha hb same marked (by tauto)
      have other : ¬ Torn b a := fun torn => marked (torn.marks same.symm).2
      rw [(agree_of_unread unread).1, Except.toOption_eq_none, torn]
      simp [other]

/-- A default name `type` and a brace list, with these blanks in front of the comma and behind it. -/
def typeAndList (blanks behind : List Char) : Layout :=
  ⟨[([' '], .name "type"), (blanks, .comma), (behind, .openBrace), ([' '], .name "A"),
    ([' '], .closeBrace)], [' '], [' '], '"', ['x'], none⟩

theorem proper_typeAndList {blanks behind : List Char} (blank : ∀ c ∈ blanks, isBlank c = true)
    (blankBehind : ∀ c ∈ behind, isBlank c = true) : (typeAndList blanks behind).Proper := by
  have space : ∀ c ∈ [' '], isBlank c = true := by decide
  have isGap : IsGap [' '] := ⟨by decide, space⟩
  have words : ∀ name, Lexeme.name name ∈ (typeAndList blanks behind).lexemes → IsName name := by
    simp only [typeAndList, Layout.lexemes, List.map_cons, List.map_nil, List.mem_cons,
      List.not_mem_nil, or_false, reduceCtorEq, false_or, Lexeme.name.injEq]
    rintro name (rfl | rfl)
    · exact ⟨'t', ['y', 'p', 'e'], rfl, by decide, by decide⟩
    · exact ⟨'A', [], rfl, by decide, by decide⟩
  have quoted : isQuote '"' = true := by decide
  refine ⟨?_, words, ?_, ?_, isGap, isGap, quoted, by simp [typeAndList]⟩
  · simpa [typeAndList] using ⟨space ' ' (by simp), blank, blankBehind, space ' ' (by simp)⟩
  · simp [typeAndList]
  · simp [typeAndList, WordsApart, Lexeme.isWord]

theorem read_layouts_sample :
    Agree (ImportStatement.read (typeAndList [] [' ']).text)
        (ImportStatement.read (typeAndList [] ['\n', ' ']).text) ∧
      ¬ Agree (ImportStatement.read (typeAndList [] [' ']).text)
        (ImportStatement.read (typeAndList [' '] [' ']).text) := by
  have tight : (typeAndList [] [' ']).Proper := proper_typeAndList (by decide) (by decide)
  have broken : (typeAndList [] ['\n', ' ']).Proper := proper_typeAndList (by decide) (by decide)
  have loose : (typeAndList [' '] [' ']).Proper := proper_typeAndList (by decide) (by decide)
  constructor
  · refine (read_layouts tight broken ⟨rfl, rfl, rfl, rfl⟩).2 ?_
    simp [Torn, typeAndList, Layout.behindFirst, Layout.lexemes]
  · rw [read_layouts tight loose ⟨rfl, rfl, rfl, rfl⟩, not_not]
    have readable : ImportStatement.read (typeAndList [] [' ']).text =
        .ok ⟨(typeAndList [] [' ']).text, "x", false, [("A", "A")], [], some "type", none⟩ := by
      decide +kernel
    exact .inl ⟨⟨_, readable⟩, .inr ⟨⟨_, rfl⟩, rfl, by decide⟩⟩

/-- A default name `type` and nothing else, with these blanks behind it. -/
def typeAlone (gap : List Char) : Layout :=
  ⟨[([' '], .name "type")], gap, [' '], '"', ['x'], none⟩

/-- A default name `type` binds with one blank behind it, and does not with two. -/
theorem typeAlone_disagree :
    (typeAlone [' ']).Proper ∧ (typeAlone [' ', ' ']).Proper ∧
      (typeAlone [' ']).SameTokens (typeAlone [' ', ' ']) ∧
      ¬ Agree (ImportStatement.read (typeAlone [' ']).text)
        (ImportStatement.read (typeAlone [' ', ' ']).text) := by
  have proper {gap : List Char} (isGap : IsGap gap) : (typeAlone gap).Proper := by
    have word : IsName "type" := ⟨'t', ['y', 'p', 'e'], rfl, by decide, by decide⟩
    have quoted : isQuote '"' = true := by decide
    have space : IsGap [' '] := ⟨by decide, by decide⟩
    refine ⟨?_, ?_, ?_, ?_, isGap, space, quoted, by simp [typeAlone]⟩
    · simpa [typeAlone] using (by decide : isBlank ' ' = true)
    · simpa [typeAlone, Layout.lexemes] using word
    · simp [typeAlone]
    · simp [typeAlone]
  have one : (ImportStatement.read (typeAlone [' ']).text).toOption =
      some ⟨(typeAlone [' ']).text, "x", false, [], [], some "type", none⟩ := by decide +kernel
  have two : (ImportStatement.read (typeAlone [' ', ' ']).text).toOption = none := by
    decide +kernel
  refine ⟨proper ⟨by decide, by decide⟩, proper ⟨by decide, by decide⟩, ⟨rfl, rfl, rfl, rfl⟩, ?_⟩
  rw [Agree, one, two]
  nofun

end VirtualImports.Statement
