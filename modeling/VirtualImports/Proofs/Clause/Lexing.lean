import Mathlib.Data.List.Forall2
import VirtualImports.Proofs.Clause.Names
import VirtualImports.Proofs.Statement.TypeMark

/-!
Texts that spell lexemes.

* `isBlank_of_continuesName`: no character of a name is blank;
* `IsName.cases_of_typeWord`: a name that begins with `type` is told from the mark;
* `Spells`: a text that splits into certain lexemes wherever it stands;
* `spells_name`, `Spells.append`: a name is one lexeme, and texts may be joined where the second
  does not go on with the last name of the first.
-/
namespace VirtualImports.Clause

open Text

/-! ## Characters of names -/

/-- The blank characters beyond ASCII are no word characters. -/
theorem inRanges_of_isBlank {c : Char} (h : isBlank c = true) (beyond : ¬ c.toNat < 0x80) :
    inRanges alphanumericRanges c.toNat = false := by
  have spaces : ∀ n ∈ [0x85, 0xA0, 0x1680, 0x2000, 0x2001, 0x2002, 0x2003, 0x2004, 0x2005, 0x2006,
      0x2007, 0x2008, 0x2009, 0x200A, 0x2028, 0x2029, 0x202F, 0x205F, 0x3000],
      inRanges alphanumericRanges n = false := by decide +kernel
  apply spaces
  simp only [isBlank, Bool.or_eq_true, Bool.and_eq_true, decide_eq_true_eq, beq_iff_eq] at h
  simp only [List.mem_cons, List.not_mem_nil, or_false]
  omega

/-- No character of a name is blank. -/
theorem isBlank_of_continuesName {c : Char} (h : continuesName c = true) : isBlank c = false := by
  by_contra blank
  rw [Bool.not_eq_false] at blank
  simp only [continuesName, isWordChar, Bool.or_eq_true, beq_iff_eq] at h
  rcases h with (h | rfl) | rfl
  · by_cases ascii : c.toNat < 0x80
    · rw [isAlphanumeric, if_pos ascii] at h
      simp only [Char.isAlphanum, Bool.or_eq_true, isAlpha_iff, isDigit_iff] at h
      simp only [isBlank, Bool.or_eq_true, Bool.and_eq_true, decide_eq_true_eq, beq_iff_eq] at blank
      omega
    · rw [isAlphanumeric, if_neg ascii, inRanges_of_isBlank blank ascii] at h
      cases h
  · revert blank; decide
  · revert blank; decide

theorem ofPunctuation?_of_startsName {c : Char} (h : startsName c = true) :
    Lexeme.ofPunctuation? c = none := by
  have ne {d : Char} (hd : startsName d = false) : c ≠ d := by
    rintro rfl
    rw [h] at hd
    cases hd
  rw [Lexeme.ofPunctuation?, if_neg (ne (by decide)), if_neg (ne (by decide)),
    if_neg (ne (by decide)), if_neg (ne (by decide))]

end Clause

open Text Statement

theorem Statement.solid_of_all {s : List Char} (ne : s ≠ []) (h : ∀ c ∈ s, isBlank c = false) :
    Solid s := by
  constructor
  · exact ⟨s.head ne, List.head?_eq_some_head ne, h _ (List.head_mem ne)⟩
  · exact ⟨s.getLast ne, List.getLast?_eq_some_getLast ne, h _ (List.getLast_mem ne)⟩

namespace IsName

variable {name : String}

theorem solid (h : IsName name) : Solid name.toList := by
  refine solid_of_all ?_ fun c hc => Clause.isBlank_of_continuesName (h.continues c hc)
  obtain ⟨c, tail, same, _⟩ := h
  rw [same]
  simp

/-- A name that begins with `type` is this word, or goes on behind it in a way in which nothing goes
on behind the mark. -/
theorem cases_of_typeWord (h : IsName name) {tail rest : List Char}
    (stop : Stops Clause.continuesName tail) (split : name.toList ++ tail = typeWord ++ rest) :
    name = "type" ∧ rest = tail ∨ ∃ c ∈ rest.head?, followsMark c = false := by
  have letters : ∀ c ∈ typeWord, Clause.continuesName c = true := by decide
  -- the name ends where its characters do
  have word := congrArg (List.takeWhile Clause.continuesName) split
  have behind := congrArg (List.dropWhile Clause.continuesName) split
  rw [takeWhile_run h.continues stop, List.takeWhile_append_of_pos letters] at word
  rw [dropWhile_run h.continues stop, List.dropWhile_append_of_pos letters] at behind
  cases more : rest.takeWhile Clause.continuesName with
  | nil =>
    rw [more, List.append_nil] at word
    refine .inl ⟨String.toList_inj.1 word, ?_⟩
    rw [← List.takeWhile_append_dropWhile (p := Clause.continuesName) (l := rest), more, ← behind]
    rfl
  | cons c more' =>
    have goesOn : Clause.continuesName c = true := List.mem_takeWhile_imp (more ▸ List.mem_cons_self)
    have head : rest.head? = some c := by
      rw [← List.takeWhile_append_dropWhile (p := Clause.continuesName) (l := rest), more]
      rfl
    refine .inr ⟨c, head, ?_⟩
    simp only [followsMark, Clause.isBlank_of_continuesName goesOn, Bool.false_or,
      Bool.or_eq_false_iff, beq_eq_false_iff_ne, ne_eq]
    constructor <;> rintro rfl <;> exact absurd goesOn (by decide)

end IsName

namespace Clause

/-! ## Spelling -/

theorem scanFrom_nil (position : Nat) : scanFrom position [] = ⟨[], none⟩ := by
  rw [scanFrom.eq_def]

theorem scanFrom_blank {c : Char} (blank : isBlank c = true) (position : Nat) (rest : List Char) :
    scanFrom position (c :: rest) = scanFrom (position + 1) rest := by
  rw [scanFrom.eq_def]
  simp only [blank, if_true]

theorem scanFrom_mark {c : Char} {lexeme : Lexeme} (mark : Lexeme.ofPunctuation? c = some lexeme)
    (blank : isBlank c = false) (position : Nat) (rest : List Char) :
    scanFrom position (c :: rest) = (scanFrom (position + 1) rest).cons ⟨lexeme, position⟩ := by
  rw [scanFrom.eq_def]
  simp only [blank, Bool.false_eq_true, if_false, mark]

theorem scanFrom_name {c : Char} {tail rest : List Char} (start : startsName c = true)
    (more : ∀ d ∈ tail, continuesName d = true) (stop : Stops continuesName rest)
    (position : Nat) :
    scanFrom position (c :: (tail ++ rest)) =
      (scanFrom (position + 1 + tail.length) rest).cons
        ⟨.name (String.ofList (c :: tail)), position⟩ := by
  rw [scanFrom.eq_def]
  simp only [isBlank_of_continuesName (continuesName_of_startsName start), Bool.false_eq_true,
    if_false, ofPunctuation?_of_startsName start, start, if_true, takeWhile_run more stop,
    dropWhile_run more stop]

/-- The text splits into the lexemes, up to its end. -/
def Splits (text : List Char) (lexemes : List Lexeme) : Prop :=
  ∀ position, ∃ tokens, scanFrom position text = ⟨tokens, none⟩ ∧
    tokens.map Token.lexeme = lexemes

theorem splits_nil : Splits [] [] := by
  intro position
  exact ⟨[], scanFrom_nil position, rfl⟩

theorem Splits.blank {c : Char} {text : List Char} {lexemes : List Lexeme}
    (h : Splits text lexemes) (blank : isBlank c = true) : Splits (c :: text) lexemes := by
  intro position
  obtain ⟨tokens, scanned, same⟩ := h (position + 1)
  exact ⟨tokens, by rw [scanFrom_blank blank, scanned], same⟩

theorem Splits.mark {c : Char} {lexeme : Lexeme} {text : List Char} {lexemes : List Lexeme}
    (h : Splits text lexemes) (mark : Lexeme.ofPunctuation? c = some lexeme)
    (blank : isBlank c = false) : Splits (c :: text) (lexeme :: lexemes) := by
  intro position
  obtain ⟨tokens, scanned, same⟩ := h (position + 1)
  refine ⟨⟨lexeme, position⟩ :: tokens, ?_, by rw [List.map_cons, same]⟩
  rw [scanFrom_mark mark blank, scanned]
  rfl

theorem Splits.name {name : String} {text : List Char} {lexemes : List Lexeme}
    (h : Splits text lexemes) (isName : IsName name) (stop : Stops continuesName text) :
    Splits (name.toList ++ text) (.name name :: lexemes) := by
  intro position
  obtain ⟨c, tail, same, start, more⟩ := isName
  obtain ⟨tokens, scanned, map⟩ := h (position + 1 + tail.length)
  have spelled : String.ofList (c :: tail) = name := by rw [← same, String.ofList_toList]
  refine ⟨⟨.name name, position⟩ :: tokens, ?_, by rw [List.map_cons, map]⟩
  rw [same, List.cons_append, scanFrom_name start more stop, scanned, spelled]
  rfl

theorem Splits.blanks {blanks text : List Char} {lexemes : List Lexeme}
    (h : Splits text lexemes) (blank : ∀ c ∈ blanks, isBlank c = true) :
    Splits (blanks ++ text) lexemes := by
  induction blanks with
  | nil => exact h
  | cons c blanks ih =>
    exact (ih fun d hd => blank d (List.mem_cons_of_mem c hd)).blank (blank c List.mem_cons_self)

def Lexeme.isWord : Lexeme → Bool
  | name _ => true
  | _ => false

theorem Splits.lexeme {lexeme : Lexeme} {text : List Char} {lexemes : List Lexeme}
    (h : Splits text lexemes) (isName : ∀ name, lexeme = .name name → IsName name)
    (stop : lexeme.isWord = true → Stops continuesName text) :
    Splits (lexeme.text.toList ++ text) (lexeme :: lexemes) := by
  cases lexeme with
  | star => exact h.mark (c := '*') rfl (by decide)
  | openBrace => exact h.mark (c := '{') rfl (by decide)
  | closeBrace => exact h.mark (c := '}') rfl (by decide)
  | comma => exact h.mark (c := ',') rfl (by decide)
  | name name => exact h.name (isName name rfl) (stop rfl)

/-- The text splits into the lexemes wherever it stands in front of something that does not go on
with its last name. -/
def Spells (text : List Char) (lexemes : List Lexeme) : Prop :=
  ∀ rest more, Stops continuesName rest → Splits rest more →
    Splits (text ++ rest) (lexemes ++ more)

theorem Spells.splits {text : List Char} {lexemes : List Lexeme} (h : Spells text lexemes) :
    Splits text lexemes := by
  have := h [] [] (by simp) splits_nil
  simpa using this

theorem spells_name {name : String} (h : IsName name) : Spells name.toList [.name name] :=
  fun _ _ stop splits => splits.name h stop

theorem spells_nil : Spells [] [] :=
  fun _ _ _ splits => splits

theorem Spells.append {a b : List Char} {x y : List Lexeme} (first : Spells a x)
    (second : Spells b y) (stop : Stops continuesName b) : Spells (a ++ b) (x ++ y) := by
  intro rest more hr splits
  rw [List.append_assoc, List.append_assoc]
  refine first _ _ ?_ (second _ _ hr splits)
  cases b with
  | nil => exact hr
  | cons c b => simpa using stop

theorem Spells.blank {c : Char} {text : List Char} {lexemes : List Lexeme} (h : Spells text lexemes)
    (blank : isBlank c = true) : Spells (c :: text) lexemes :=
  fun rest more hr splits => (h rest more hr splits).blank blank

theorem Spells.mark {c : Char} {lexeme : Lexeme} {text : List Char} {lexemes : List Lexeme}
    (h : Spells text lexemes) (mark : Lexeme.ofPunctuation? c = some lexeme)
    (blank : isBlank c = false) : Spells (c :: text) (lexeme :: lexemes) :=
  fun rest more hr splits => (h rest more hr splits).mark mark blank

/-- Texts joined by commas spell their lexemes with commas between them. -/
theorem spells_intercalate {parts : List (List Char)} {lexemes : List (List Lexeme)}
    (h : List.Forall₂ Spells parts lexemes) :
    Spells ([',', ' '].intercalate parts) ([.comma].intercalate lexemes) := by
  induction h with
  | nil => exact spells_nil
  | @cons part lexeme parts lexemes first later ih =>
    cases later with
    | nil =>
      rw [List.intercalate_singleton, List.intercalate_singleton]
      exact first
    | cons second later =>
      rw [List.intercalate_cons_cons, List.intercalate_cons_cons, List.append_assoc,
        List.append_assoc]
      refine first.append ?_ (by simp; decide)
      exact (ih.blank (by decide)).mark (by decide) (by decide)

end VirtualImports.Clause
