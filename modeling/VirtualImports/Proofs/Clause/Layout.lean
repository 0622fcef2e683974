import VirtualImports.Proofs.Clause.Lexing

/-!
How the tokens of a clause lie in its text.

* `exists_layout`: a text is tokens with blanks between them, up to its end or to a character with
  which no token begins;
* `scanFrom_of_layout`: a text that is tokens and blanks is split into these tokens;
* `Layout.tiles`: the tokens lie apart, in order, and what is between them is blank;
* `splits_joined`: lexemes joined by spaces are split into these lexemes;
* `scan_lossless`: all of this for a clause.
-/
namespace VirtualImports.Clause

open Text

/-- The word of a name is one. -/
def Lexeme.WellFormed (lexeme : Lexeme) : Prop :=
  ∀ name, lexeme = .name name → IsName name

/-- The offset behind a token. -/
def Token.stop (token : Token) : Nat :=
  token.position + token.text.toList.length

/-- A character of the text belongs to a token. -/
def Token.Covers (token : Token) (offset : Nat) : Prop :=
  token.position ≤ offset ∧ offset < token.stop

/-- From an offset on, a text is tokens and blanks, up to the offset `stop` and what is left of the text
there. A name goes on as long as it can. -/
inductive Layout (stop : Nat) (rest : List Char) : Nat → List Char → List Token → Prop
  | done : Layout stop rest stop rest []
  | blank {start : Nat} {c : Char} {text : List Char} {tokens : List Token}
      (blank : isBlank c = true) (later : Layout stop rest (start + 1) text tokens) :
      Layout stop rest start (c :: text) tokens
  | token {start : Nat} {lexeme : Lexeme} {text : List Char} {tokens : List Token}
      (wellFormed : lexeme.WellFormed) (longest : lexeme.isWord = true → Stops continuesName text)
      (later : Layout stop rest (start + lexeme.text.toList.length) text tokens) :
      Layout stop rest start (lexeme.text.toList ++ text) (⟨lexeme, start⟩ :: tokens)

/-- A character that is not blank, and with which no token begins. -/
def IsIllegal (c : Char) : Prop :=
  isBlank c = false ∧ ∀ lexeme : Lexeme, lexeme.WellFormed → lexeme.text.toList.head? ≠ some c

/-- Nothing is left, or a text that begins with an illegal character. -/
inductive Stuck (stop : Nat) : List Char → Option IllegalCharacter → Prop
  | done : Stuck stop [] none
  | illegal {c : Char} {text : List Char} (found : IsIllegal c) :
      Stuck stop (c :: text) (some ⟨stop, (c :: text).take excerptLength⟩)

/-! ## Lexemes -/

section Lexemes

variable {lexeme : Lexeme} {c : Char}

theorem wellFormed_of_mark (mark : lexeme.isWord = false) : lexeme.WellFormed := by
  rintro name rfl
  cases mark

theorem cases_of_ofPunctuation? (mark : Lexeme.ofPunctuation? c = some lexeme) :
    lexeme.isWord = false ∧ lexeme.text.toList = [c] := by
  unfold Lexeme.ofPunctuation? at mark
  split_ifs at mark with star opens closes comma
  all_goals
    subst c
    cases mark
    exact ⟨rfl, rfl⟩

/-- A lexeme that is no word is read off its character. -/
theorem exists_ofPunctuation? (mark : lexeme.isWord = false) :
    ∃ c, lexeme.text.toList = [c] ∧ Lexeme.ofPunctuation? c = some lexeme ∧ isBlank c = false := by
  cases lexeme with
  | star => exact ⟨'*', rfl, rfl, by decide⟩
  | openBrace => exact ⟨'{', rfl, rfl, by decide⟩
  | closeBrace => exact ⟨'}', rfl, rfl, by decide⟩
  | comma => exact ⟨',', rfl, rfl, by decide⟩
  | name name => cases mark

theorem Lexeme.WellFormed.length_pos (h : lexeme.WellFormed) : 0 < lexeme.text.toList.length := by
  cases lexeme with
  | name name =>
    obtain ⟨c, tail, same, _⟩ := h name rfl
    rw [Lexeme.text, same]
    exact Nat.succ_pos _
  | _ => decide

theorem isIllegal_of (plain : isBlank c = false) (mark : Lexeme.ofPunctuation? c = none)
    (start : startsName c = false) : IsIllegal c := by
  refine ⟨plain, fun lexeme wellFormed first => ?_⟩
  cases word : lexeme.isWord with
  | false =>
    obtain ⟨d, text, own, _⟩ := exists_ofPunctuation? word
    rw [text] at first
    cases first
    rw [mark] at own
    cases own
  | true =>
    cases lexeme with
    | name name =>
      obtain ⟨d, tail, same, starts, _⟩ := wellFormed name rfl
      rw [Lexeme.text, same] at first
      cases first
      rw [start] at starts
      cases starts
    | _ => cases word

end Lexemes

/-! ## Layouts -/

variable {start stop : Nat} {text rest : List Char} {tokens : List Token}

/-- **What is scanned.** A text is tokens and blanks up to its end or to an illegal character. -/
theorem exists_layout (start : Nat) (text : List Char) :
    ∃ stop rest, Layout stop rest start text (scanFrom start text).tokens ∧
      Stuck stop rest (scanFrom start text).illegal := by
  fun_induction scanFrom start text with
  | case1 start => exact ⟨start, [], .done, .done⟩
  | case2 start c text blank ih =>
    obtain ⟨stop, rest, layout, stuck⟩ := ih
    exact ⟨stop, rest, .blank blank layout, stuck⟩
  | case3 start c text plain lexeme mark ih =>
    obtain ⟨stop, rest, layout, stuck⟩ := ih
    obtain ⟨noWord, same⟩ := cases_of_ofPunctuation? mark
    have step : Layout stop rest start (lexeme.text.toList ++ text)
        (⟨lexeme, start⟩ :: (scanFrom (start + 1) text).tokens) := by
      refine .token (wellFormed_of_mark noWord) (fun word => ?_) ?_
      · rw [noWord] at word
        cases word
      · rw [same]
        exact layout
    rw [same] at step
    exact ⟨stop, rest, step, stuck⟩
  | case4 start c text plain mark starts tail ih =>
    obtain ⟨stop, rest, layout, stuck⟩ := ih
    have spelled : (Lexeme.name (String.ofList (c :: tail))).text.toList = c :: tail :=
      String.toList_ofList
    have step : Layout stop rest start
        ((Lexeme.name (String.ofList (c :: tail))).text.toList ++ text.dropWhile continuesName)
        (⟨.name (String.ofList (c :: tail)), start⟩ ::
          (scanFrom (start + 1 + tail.length) (text.dropWhile continuesName)).tokens) := by
      refine .token ?_ (fun _ => stops_dropWhile continuesName text) ?_
      · rintro _ ⟨⟩
        exact ⟨c, tail, String.toList_ofList, starts, fun d mem => List.mem_takeWhile_imp mem⟩
      · rw [spelled, List.length_cons, Nat.add_comm tail.length, ← Nat.add_assoc]
        exact layout
    rw [spelled, List.cons_append, List.takeWhile_append_dropWhile] at step
    exact ⟨stop, rest, step, stuck⟩
  | case5 start c text plain mark starts =>
    exact ⟨start, c :: text, .done,
      .illegal (isIllegal_of (Bool.not_eq_true _ ▸ plain) mark (Bool.not_eq_true _ ▸ starts))⟩

/-- A text that is tokens and blanks is scanned as these tokens. -/
theorem scanFrom_of_layout (h : Layout stop [] start text tokens) :
    scanFrom start text = ⟨tokens, none⟩ := by
  induction h with
  | done => exact scanFrom_nil stop
  | blank blank _ ih => rw [scanFrom_blank blank, ih]
  | @token start lexeme text tokens wellFormed longest _ ih =>
    cases word : lexeme.isWord with
    | false =>
      obtain ⟨c, same, mark, plain⟩ := exists_ofPunctuation? word
      rw [same, List.length_singleton] at ih
      rw [same, List.singleton_append, scanFrom_mark mark plain, ih]
      rfl
    | true =>
      cases lexeme with
      | name name =>
        obtain ⟨c, tail, same, starts, continues⟩ := wellFormed name rfl
        have spelled : String.ofList (c :: tail) = name := by rw [← same, String.ofList_toList]
        rw [Lexeme.text, same, List.length_cons, Nat.add_comm tail.length, ← Nat.add_assoc] at ih
        rw [Lexeme.text, same, List.cons_append, scanFrom_name starts continues (longest word), ih,
          spelled]
        rfl
      | _ => cases word

namespace Layout

/-- The text in front of what is left has the same tokens. -/
theorem exists_taken (h : Layout stop rest start text tokens) :
    ∃ taken, text = taken ++ rest ∧ stop = start + taken.length ∧
      Layout stop [] start taken tokens := by
  induction h with
  | done => exact ⟨[], rfl, rfl, .done⟩
  | @blank start c text tokens blank _ ih =>
    obtain ⟨taken, rfl, length, layout⟩ := ih
    refine ⟨c :: taken, rfl, ?_, .blank blank layout⟩
    rw [length, List.length_cons]
    omega
  | @token start lexeme text tokens wellFormed longest _ ih =>
    obtain ⟨taken, rfl, length, layout⟩ := ih
    refine ⟨lexeme.text.toList ++ taken, (List.append_assoc _ _ _).symm, ?_,
      .token wellFormed (fun word => (longest word).of_append) layout⟩
    rw [length, List.length_append]
    omega

theorem le (h : Layout stop rest start text tokens) : start ≤ stop := by
  obtain ⟨taken, _, length, _⟩ := h.exists_taken
  omega

end Layout

/-! ## Offsets -/

/-- Tokens lie in a part of a text, in order and apart, each where it is written. No name could be
longer. What is between the tokens is blank. -/
structure Tiles (start stop : Nat) (text : List Char) (tokens : List Token) : Prop where
  within : ∀ token ∈ tokens, start ≤ token.position ∧ token.position < token.stop ∧ token.stop ≤ stop
  ordered : tokens.Pairwise fun a b => a.stop ≤ b.position
  written : ∀ token ∈ tokens, token.lexeme.WellFormed ∧ ∃ before after,
    text = before ++ (token.text.toList ++ after) ∧ before.length = token.position ∧
      (token.lexeme.isWord = true → Stops continuesName after)
  gaps : ∀ offset c, start ≤ offset → offset < stop → text[offset]? = some c →
    (∃ token ∈ tokens, token.Covers offset) ∨ isBlank c = true

theorem Tiles.blank {before : List Char} {c : Char}
    (h : Tiles (before.length + 1) stop (before ++ c :: text) tokens) (blank : isBlank c = true) :
    Tiles before.length stop (before ++ c :: text) tokens := by
  refine ⟨fun token mem => ?_, h.ordered, h.written, fun offset d from_ below found => ?_⟩
  · obtain ⟨first, rest⟩ := h.within token mem
    exact ⟨Nat.le_of_succ_le first, rest⟩
  · rcases Nat.eq_or_lt_of_le from_ with rfl | later
    · rw [List.getElem?_append_right (Nat.le_refl _), Nat.sub_self, List.getElem?_cons_zero] at found
      cases found
      exact .inr blank
    · exact h.gaps offset d later below found

theorem Tiles.token {before : List Char} {lexeme : Lexeme} (wellFormed : lexeme.WellFormed)
    (longest : lexeme.isWord = true → Stops continuesName text)
    (le : before.length + lexeme.text.toList.length ≤ stop)
    (h : Tiles (before.length + lexeme.text.toList.length) stop
      (before ++ (lexeme.text.toList ++ text)) tokens) :
    Tiles before.length stop (before ++ (lexeme.text.toList ++ text))
      (⟨lexeme, before.length⟩ :: tokens) := by
  have length := wellFormed.length_pos
  have own : (⟨lexeme, before.length⟩ : Token).stop = before.length + lexeme.text.toList.length := rfl
  refine ⟨?_, List.pairwise_cons.2 ⟨fun other mem => own ▸ (h.within other mem).1, h.ordered⟩, ?_,
    fun offset c from_ below found => ?_⟩
  · rw [List.forall_mem_cons, own]
    refine ⟨⟨Nat.le_refl _, Nat.lt_add_of_pos_right length, le⟩, fun other mem => ?_⟩
    obtain ⟨first, rest⟩ := h.within other mem
    exact ⟨Nat.le_trans (Nat.le_add_right _ _) first, rest⟩
  · rw [List.forall_mem_cons]
    exact ⟨⟨wellFormed, before, text, rfl, rfl, longest⟩, h.written⟩
  · by_cases inside : offset < before.length + lexeme.text.toList.length
    · exact .inl ⟨_, List.mem_cons_self, from_, inside⟩
    · refine (h.gaps offset c (Nat.not_lt.1 inside) below found).imp_left ?_
      rintro ⟨other, mem, covers⟩
      exact ⟨other, List.mem_cons_of_mem _ mem, covers⟩

/-- **Where the tokens are.** -/
theorem Layout.tiles (h : Layout stop rest start text tokens) :
    ∀ before, before.length = start → Tiles start stop (before ++ text) tokens := by
  induction h with
  | done => exact fun before _ => ⟨by simp, .nil, by simp, fun offset c from_ below => by omega⟩
  | @blank start c text tokens blank _ ih =>
    rintro before rfl
    have later := ih (before ++ [c]) (by simp)
    rw [List.append_assoc, List.singleton_append] at later
    exact later.blank blank
  | @token start lexeme text tokens wellFormed longest layout ih =>
    rintro before rfl
    have later := ih (before ++ lexeme.text.toList) (by simp)
    rw [List.append_assoc] at later
    exact later.token wellFormed longest layout.le

/-! ## Joined lexemes -/

/-- Spaces keep lexemes apart. -/
theorem splits_joined {lexemes : List Lexeme} (h : ∀ lexeme ∈ lexemes, lexeme.WellFormed) :
    Splits ([' '].intercalate (lexemes.map fun lexeme => lexeme.text.toList)) lexemes := by
  induction lexemes with
  | nil => exact splits_nil
  | cons lexeme lexemes ih =>
    rw [List.forall_mem_cons] at h
    have later := ih h.2
    cases lexemes with
    | nil =>
      have alone := splits_nil.lexeme h.1 fun _ => stops_nil
      rw [List.append_nil] at alone
      rwa [List.map_singleton, List.intercalate_singleton]
    | cons next lexemes =>
      rw [List.map_cons, List.map_cons, List.intercalate_cons_cons, List.append_assoc]
      exact (later.blank (by decide)).lexeme h.1 fun _ => stops_cons.2 (by decide)

/-! ## Clauses -/

/-- How far a text has been scanned: to its end, or to the illegal character. -/
def Scan.reach (scan : Scan) (text : List Char) : Nat :=
  match scan.illegal with
  | none => text.length
  | some found => found.position

/-- **Scanning loses nothing.** The tokens lie in the text in order and apart, each where it is written
and as long as it can be, with blanks between them. There is no error if and only if tokens and blanks
are the whole text. Otherwise it is found at the first character behind the tokens and the blanks that
follow them, and the text in front of it has the same tokens. Lexemes that are joined by spaces are
scanned as these lexemes. -/
theorem scan_lossless (clause : List Char) :
    Tiles 0 ((scan clause).reach clause) clause (scan clause).tokens ∧
    ((scan clause).illegal = none ↔ ∀ offset c, clause[offset]? = some c →
      (∃ token ∈ (scan clause).tokens, token.Covers offset) ∨ isBlank c = true) ∧
    (∀ found, (scan clause).illegal = some found →
      (∃ c, clause[found.position]? = some c ∧ IsIllegal c) ∧
      scan (clause.take found.position) = ⟨(scan clause).tokens, none⟩) ∧
    ∀ lexemes : List Lexeme, (∀ lexeme ∈ lexemes, lexeme.WellFormed) →
      ∃ tokens, scan ([' '].intercalate (lexemes.map fun lexeme => lexeme.text.toList)) =
        ⟨tokens, none⟩ ∧ tokens.map Token.lexeme = lexemes := by
  obtain ⟨stop, rest, layout, stuck⟩ := exists_layout 0 clause
  have tiles : Tiles 0 stop clause (scan clause).tokens := layout.tiles [] rfl
  obtain ⟨taken, split, length, before⟩ := layout.exists_taken
  rw [Nat.zero_add] at length
  have scanned : scan taken = ⟨(scan clause).tokens, none⟩ := scanFrom_of_layout before
  have joined (lexemes : List Lexeme) (wellFormed : ∀ lexeme ∈ lexemes, lexeme.WellFormed) :=
    splits_joined wellFormed 0
  refine and_assoc.1 (and_assoc.1 ⟨?_, joined⟩)
  change Stuck stop rest (scan clause).illegal at stuck
  generalize found : (scan clause).illegal = illegal at stuck
  cases stuck with
  | done =>
    rw [List.append_nil] at split
    subst split length
    have reach : (scan clause).reach clause = clause.length := by rw [Scan.reach, found]
    refine ⟨⟨reach ▸ tiles, iff_of_true rfl fun offset c there => ?_⟩, nofun⟩
    have inside := (List.getElem?_eq_some_iff.1 there).1
    exact tiles.gaps offset c (Nat.zero_le _) inside there
  | @illegal c text own =>
    have reach : (scan clause).reach clause = stop := by rw [Scan.reach, found]
    have there : clause[stop]? = some c := by
      rw [split, length, List.getElem?_append_right (Nat.le_refl _), Nat.sub_self,
        List.getElem?_cons_zero]
    refine ⟨⟨reach ▸ tiles, iff_of_false nofun fun covered => ?_⟩, ?_⟩
    · rcases covered stop c there with ⟨token, mem, _, below⟩ | blank
      · have := (tiles.within token mem).2.2
        omega
      · rw [own.1] at blank
        cases blank
    · rintro _ ⟨⟩
      refine ⟨⟨c, there, own⟩, ?_⟩
      rw [split, length, List.take_left]
      exact split ▸ scanned

/-- A letter beyond ASCII may go on with a name, but begins none. -/
theorem scan_lossless_sample :
    (scan "Xé, é".toList).illegal = some ⟨4, ['é']⟩ ∧
      (∃ c, "Xé, é".toList[4]? = some c ∧ IsIllegal c) ∧
      scan "Xé, ".toList = ⟨(scan "Xé, é".toList).tokens, none⟩ ∧
      (∀ lexeme ∈ [Lexeme.star, .name "as", .name "Xé"], lexeme.WellFormed) ∧
      ∃ tokens, scan "* as Xé".toList = ⟨tokens, none⟩ ∧
        tokens.map Token.lexeme = [.star, .name "as", .name "Xé"] := by
  have illegal : (scan "Xé, é".toList).illegal = some ⟨4, ['é']⟩ := by decide +kernel
  obtain ⟨there, same⟩ := (scan_lossless "Xé, é".toList).2.2.1 _ illegal
  have wellFormed : ∀ lexeme ∈ [Lexeme.star, .name "as", .name "Xé"], lexeme.WellFormed := by
    simp only [List.forall_mem_cons]
    refine ⟨nofun, ?_, ?_, by simp⟩
    · rintro _ ⟨⟩
      exact ⟨'a', ['s'], rfl, by decide, by decide⟩
    · rintro _ ⟨⟩
      exact ⟨'X', ['é'], rfl, by decide, by decide +kernel⟩
  exact ⟨illegal, there, same, wellFormed, (scan_lossless []).2.2.2 _ wellFormed⟩

end VirtualImports.Clause
