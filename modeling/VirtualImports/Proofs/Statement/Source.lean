import VirtualImports.Proofs.Text.Runs
import VirtualImports.Statement.Header

/-!
The `from` phrase that ends a statement.

* `source?_sourceText`, `exists_sourceText`: the texts that are such a phrase;
* `splitSource?_append`: the phrase behind a text without quotes is found, and no other.
-/
namespace VirtualImports.Statement

open Text

def fromWord : List Char := ['f', 'r', 'o', 'm']

/-- The pieces of a `from` phrase that goes up to the end of the statement. -/
structure IsSource (specifier blanks tail : List Char) (quote : Char) : Prop where
  blanks : blanks ≠ [] ∧ ∀ c ∈ blanks, isBlank c = true
  quoted : isQuote quote = true
  named : specifier ≠ []
  unquoted : Unquoted specifier
  terminated : isTerminator tail = true

def sourceText (specifier blanks tail : List Char) (quote : Char) : List Char :=
  fromWord ++ (blanks ++ quote :: (specifier ++ quote :: tail))

theorem source?_sourceText {specifier blanks tail : List Char} {quote : Char}
    (h : IsSource specifier blanks tail quote) :
    source? (sourceText specifier blanks tail quote) = some specifier := by
  obtain ⟨⟨ne, blank⟩, hq, named, unquoted, terminated⟩ := h
  obtain ⟨b, blanks, rfl⟩ := List.exists_cons_of_ne_nil ne
  have keyword (s : List Char) : after? ['f', 'r', 'o', 'm'] (fromWord ++ s) = some s :=
    after?_append fromWord s
  have lead (s : List Char) : trimLeft (b :: blanks ++ quote :: s) = quote :: s :=
    dropWhile_run blank (by simp [isBlank_of_isQuote hq])
  have plain : ∀ c ∈ specifier, (!isQuote c) = true := by simpa [Unquoted] using unquoted
  have stop : Stops (fun c => !isQuote c) (quote :: tail) := by simp [hq]
  have head : (((b :: blanks) ++ quote :: (specifier ++ quote :: tail)).head?.map isBlank).getD
      false = true := by simp [blank b (by simp)]
  simp only [source?, sourceText, keyword, lead, takeWhile_run plain stop, dropWhile_run plain stop,
    head, if_true]
  simp [hq, named, terminated]

theorem exists_sourceText {specifier s : List Char} (h : source? s = some specifier) :
    ∃ blanks tail quote, IsSource specifier blanks tail quote ∧
      s = sourceText specifier blanks tail quote := by
  unfold source? at h
  split at h
  · cases h
  rename_i rest keyword
  rw [Option.ite_none_right_eq_some] at h
  obtain ⟨head, h⟩ := h
  split at h
  · cases h
  rename_i quote body lead
  dsimp only at h
  split at h
  · cases h
  rename_i close tail found
  rw [Option.ite_none_right_eq_some] at h
  obtain ⟨conditions, h⟩ := h
  simp only [Bool.and_eq_true, beq_iff_eq, Bool.not_eq_true'] at conditions
  obtain ⟨⟨⟨hq, rfl⟩, named⟩, terminated⟩ := conditions
  rw [Option.some.injEq] at h
  subst h
  refine ⟨rest.takeWhile isBlank, tail, close, ⟨⟨?_, ?_⟩, hq, ?_, ?_, terminated⟩, ?_⟩
  · intro none
    cases rest with
    | nil => simp at head
    | cons c rest => simp_all
  · exact fun c hc => List.mem_takeWhile_imp hc
  · simpa using named
  · intro c hc
    simpa using List.mem_takeWhile_imp hc
  · have whole := List.takeWhile_append_dropWhile (p := isBlank) (l := rest)
    have body := List.takeWhile_append_dropWhile (p := fun c => !isQuote c) (l := body)
    rw [found] at body
    rw [← trimLeft, lead, ← body] at whole
    rw [sourceText, whole, fromWord]
    exact eq_append_of_after? keyword

theorem unquoted_of_isTerminator {s : List Char} (h : isTerminator s = true) : Unquoted s := by
  rw [← quotes_eq_nil, ← quotes_trimLeft]
  unfold isTerminator at h
  split at h
  · rename_i rest lead
    rw [lead, quotes_eq_nil, unquoted_cons]
    exact ⟨by decide, unquoted_of_isBlank (by simpa using h)⟩
  · rw [List.isEmpty_iff.1 h]; rfl

theorem unquoted_fromWord : Unquoted fromWord := by decide

theorem IsSource.quotes_eq {specifier blanks tail : List Char} {quote : Char}
    (h : IsSource specifier blanks tail quote) :
    quotes (sourceText specifier blanks tail quote) = [quote, quote] := by
  have none {s : List Char} (hs : Unquoted s) : quotes s = [] := quotes_eq_nil.2 hs
  simp [sourceText, quotes_cons_of_isQuote h.quoted, none unquoted_fromWord,
    none (unquoted_of_isBlank h.blanks.2), none h.unquoted,
    none (unquoted_of_isTerminator h.terminated)]

theorem exists_source_of_splitSource? {s before specifier : List Char}
    (h : splitSource? s = some (before, specifier)) :
    ∃ phrase, s = before ++ phrase ∧ source? phrase = some specifier := by
  induction s generalizing before with
  | nil => cases h
  | cons c s ih =>
    rw [splitSource?] at h
    split at h
    · rename_i found
      simp only [Option.some.injEq, Prod.mk.injEq] at h
      obtain ⟨rfl, rfl⟩ := h
      exact ⟨c :: s, rfl, found⟩
    · obtain ⟨⟨front, _⟩, split, h⟩ := Option.map_eq_some_iff.1 h
      simp only [Prod.mk.injEq] at h
      obtain ⟨rfl, rfl⟩ := h
      obtain ⟨phrase, rfl, found⟩ := ih split
      exact ⟨phrase, rfl, found⟩

/-- A phrase is no phrase with more text in front: up to the first quote there is one `f`. -/
theorem source?_eq_none_of_append {specifier blanks tail front : List Char} {quote : Char}
    (h : IsSource specifier blanks tail quote) (ne : front ≠ []) (unquoted : Unquoted front) :
    source? (front ++ sourceText specifier blanks tail quote) = none := by
  apply Option.eq_none_iff_forall_ne_some.2
  intro other found
  obtain ⟨blanks', tail', quote', h', same⟩ := exists_sourceText found
  have split : (front ++ (fromWord ++ blanks)) ++ quote :: (specifier ++ quote :: tail) =
      (fromWord ++ blanks') ++ quote' :: (other ++ quote' :: tail') := by
    simpa [sourceText] using same
  have mine : Unquoted (front ++ (fromWord ++ blanks)) := by
    simp only [unquoted_append]
    exact ⟨unquoted, unquoted_fromWord, unquoted_of_isBlank h.blanks.2⟩
  have theirs : Unquoted (fromWord ++ blanks') := by
    simp only [unquoted_append]
    exact ⟨unquoted_fromWord, unquoted_of_isBlank h'.blanks.2⟩
  have first := (append_cons_inj mine h.quoted theirs h'.quoted split).1
  obtain ⟨c, front, rfl⟩ := List.exists_cons_of_ne_nil ne
  have letters := congrArg (List.count 'f') first
  have head := congrArg List.head? first
  simp only [fromWord, List.cons_append, List.head?_cons, Option.some.injEq] at head
  subst head
  have count {s : List Char} (hs : ∀ c ∈ s, isBlank c = true) : s.count 'f' = 0 :=
    List.count_eq_zero.2 fun mem => by simpa [isBlank] using hs 'f' mem
  simp [fromWord, count h.blanks.2, count h'.blanks.2] at letters

/-- The phrase behind a text without quotes is found, and no other. -/
theorem splitSource?_append {specifier blanks tail before : List Char} {quote : Char}
    (h : IsSource specifier blanks tail quote) (unquoted : Unquoted before) :
    splitSource? (before ++ sourceText specifier blanks tail quote) =
      some (before, specifier) := by
  induction before with
  | nil =>
    rw [List.nil_append]
    have found := source?_sourceText h
    rw [sourceText, fromWord, List.cons_append] at found ⊢
    rw [splitSource?, found]
  | cons c before ih =>
    rw [List.cons_append, splitSource?, ← List.cons_append,
      source?_eq_none_of_append h (by simp) unquoted]
    rw [unquoted_cons] at unquoted
    simp [ih unquoted.2]

end VirtualImports.Statement
