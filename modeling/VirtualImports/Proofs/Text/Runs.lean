import Mathlib.Data.List.TakeWhile
import VirtualImports.Statement.Header

/-!
Runs of characters of one class, and the classes that the statement readers tell apart.

* `takeWhile_run`, `dropWhile_run`: a run is taken and left as a whole where the text does not go
  on with a character of the class;
* `append_cons_inj`: the first character of a class splits a text in one way only;
* `lineStartAfter`: whether a line starts behind a piece of text.
-/
namespace VirtualImports.Text

open Statement

section
variable {p : Char → Bool}

/-- The text does not go on with a character of the class. -/
def Stops (p : Char → Bool) (s : List Char) : Prop :=
  ∀ c ∈ s.head?, p c = false

@[simp] theorem stops_nil : Stops p [] := by simp [Stops]

@[simp] theorem stops_cons {c : Char} {s : List Char} : Stops p (c :: s) ↔ p c = false := by
  simp [Stops]

theorem Stops.of_append {a b : List Char} (h : Stops p (a ++ b)) : Stops p a := by
  cases a with
  | nil => exact stops_nil
  | cons c a => exact stops_cons.2 (stops_cons.1 h)

theorem Stops.takeWhile {s : List Char} (h : Stops p s) : s.takeWhile p = [] := by
  cases s with
  | nil => rfl
  | cons c s => simp_all

theorem Stops.dropWhile {s : List Char} (h : Stops p s) : s.dropWhile p = s := by
  cases s with
  | nil => rfl
  | cons c s => simp_all

theorem takeWhile_run {run rest : List Char} (all : ∀ c ∈ run, p c = true) (h : Stops p rest) :
    (run ++ rest).takeWhile p = run := by
  rw [List.takeWhile_append_of_pos all, h.takeWhile, List.append_nil]

theorem dropWhile_run {run rest : List Char} (all : ∀ c ∈ run, p c = true) (h : Stops p rest) :
    (run ++ rest).dropWhile p = rest := by
  rw [List.dropWhile_append_of_pos all, h.dropWhile]

theorem stops_dropWhile (p : Char → Bool) (s : List Char) : Stops p (s.dropWhile p) := by
  intro c hc
  have := List.head?_dropWhile_not p s
  rw [Option.mem_def] at hc
  simpa [hc] using this

/-- The first character of a class splits a text in one way only. -/
theorem append_cons_inj {a a' b b' : List Char} {c c' : Char} (ha : ∀ x ∈ a, p x = false)
    (hc : p c = true) (ha' : ∀ x ∈ a', p x = false) (hc' : p c' = true)
    (h : a ++ c :: b = a' ++ c' :: b') : a = a' ∧ c = c' ∧ b = b' := by
  have run (x y : List Char) (d : Char) (hx : ∀ z ∈ x, p z = false) (hd : p d = true) :
      (x ++ d :: y).takeWhile (fun z => !p z) = x :=
    takeWhile_run (by simpa using hx) (by simp [hd])
  have same : a = a' := by rw [← run a b c ha hc, h, run a' b' c' ha' hc']
  subst same
  simpa using h

end

section
variable {c : Char}

theorem isAlpha_iff :
    c.isAlpha = true ↔ (65 ≤ c.toNat ∧ c.toNat ≤ 90) ∨ (97 ≤ c.toNat ∧ c.toNat ≤ 122) := by
  change (decide (65 ≤ c.val ∧ c.val ≤ 90) || (decide (97 ≤ c.val) && decide (c.val ≤ 122))) = true
    ↔ _
  simp only [Bool.or_eq_true, Bool.and_eq_true, decide_eq_true_eq, UInt32.le_iff_toNat_le]
  rfl

theorem isDigit_iff : c.isDigit = true ↔ 48 ≤ c.toNat ∧ c.toNat ≤ 57 := by
  simp only [Char.isDigit, Bool.and_eq_true, decide_eq_true_eq, UInt32.le_iff_toNat_le, Char.toNat]
  rfl

theorem isBlank_of_isSpaceOrTab (h : isSpaceOrTab c = true) : isBlank c = true := by
  simp only [isSpaceOrTab, Bool.or_eq_true, beq_iff_eq] at h
  rcases h with rfl | rfl <;> decide

theorem isBlank_of_isQuote (h : isQuote c = true) : isBlank c = false := by
  simp only [isQuote, Bool.or_eq_true, beq_iff_eq] at h
  rcases h with rfl | rfl <;> decide

theorem isQuote_of_isBlank (h : isBlank c = true) : isQuote c = false := by
  cases hq : isQuote c
  · rfl
  · simp [isBlank_of_isQuote hq] at h

theorem isQuote_of_isSpaceOrTab (h : isSpaceOrTab c = true) : isQuote c = false :=
  isQuote_of_isBlank (isBlank_of_isSpaceOrTab h)

theorem ne_newline_of_isSpaceOrTab (h : isSpaceOrTab c = true) : c ≠ '\n' := by
  rintro rfl; simp [isSpaceOrTab] at h

theorem ne_newline_of_isQuote (h : isQuote c = true) : c ≠ '\n' := by
  rintro rfl; simp [isQuote] at h

end

-- found first: the search may else find an instance that runs through all characters
instance (priority := 2000) forallMemDecidable {p : Char → Prop} [DecidablePred p] (s : List Char) :
    Decidable (∀ c ∈ s, p c) :=
  List.decidableBAll _ s

/-- Text that begins and ends with something other than a blank. -/
structure Solid (s : List Char) : Prop where
  first : ∃ c ∈ s.head?, isBlank c = false
  last : ∃ c ∈ s.getLast?, isBlank c = false

theorem solid_iff {s : List Char} :
    Solid s ↔ s.head?.any (!isBlank ·) = true ∧ s.getLast?.any (!isBlank ·) = true := by
  simp only [Option.any_eq_true, Bool.not_eq_true']
  exact ⟨fun h => ⟨h.first, h.last⟩, fun h => ⟨h.1, h.2⟩⟩

instance (s : List Char) : Decidable (Solid s) :=
  decidable_of_iff _ solid_iff.symm

theorem Solid.ne_nil {s : List Char} (h : Solid s) : s ≠ [] := by
  rintro rfl
  obtain ⟨c, hc, _⟩ := h.first
  cases hc

theorem Solid.stops {s : List Char} (h : Solid s) (rest : List Char) :
    Stops isBlank (s ++ rest) := by
  obtain ⟨c, hc, plain⟩ := h.first
  rw [Option.mem_def] at hc
  intro d hd
  rw [Option.mem_def, List.head?_append, hc, Option.some_or, Option.some.injEq] at hd
  exact hd ▸ plain

/-- Blanks behind text that does not end in one are trimmed off, and nothing else. -/
theorem trimRight_append {s blanks : List Char} (h : Stops isBlank s.reverse)
    (blank : ∀ c ∈ blanks, isBlank c = true) : trimRight (s ++ blanks) = s := by
  rw [trimRight, List.reverse_append, dropWhile_run (by simpa using blank) h, List.reverse_reverse]

theorem Solid.stops_reverse {s : List Char} (h : Solid s) (front : List Char) :
    Stops isBlank (front ++ s).reverse := by
  obtain ⟨c, hc, plain⟩ := h.last
  intro d hd
  rw [Option.mem_def] at hc hd
  rw [List.head?_reverse, List.getLast?_append, hc, Option.some_or, Option.some.injEq] at hd
  exact hd ▸ plain

theorem Solid.trimRight {s blanks : List Char} (h : Solid s)
    (blank : ∀ c ∈ blanks, isBlank c = true) : trimRight (s ++ blanks) = s :=
  trimRight_append (h.stops_reverse []) blank

/-- What is left by trimming does not end in a blank, and only blanks are trimmed off. -/
theorem exists_trimRight (s : List Char) : ∃ blanks, s = trimRight s ++ blanks ∧
    (∀ c ∈ blanks, isBlank c = true) ∧ Stops isBlank (trimRight s).reverse := by
  refine ⟨(s.reverse.takeWhile isBlank).reverse, ?_, ?_, ?_⟩
  · rw [trimRight, ← List.reverse_append, List.takeWhile_append_dropWhile, List.reverse_reverse]
  · intro c hc
    exact List.mem_takeWhile_imp (List.mem_reverse.1 hc)
  · rw [trimRight, List.reverse_reverse]
    exact stops_dropWhile isBlank _

theorem trim_eq_nil {blanks : List Char} (blank : ∀ c ∈ blanks, isBlank c = true) :
    trim blanks = [] := by
  have left : trimLeft blanks = [] := by
    simpa [trimLeft] using dropWhile_run blank stops_nil
  rw [trim, left]
  rfl

/-- Blanks on both sides of solid text are trimmed off, and nothing else. -/
theorem Solid.trim_between {core lead gap : List Char} (h : Solid core)
    (blankLead : ∀ c ∈ lead, isBlank c = true) (blankGap : ∀ c ∈ gap, isBlank c = true) :
    Text.trim (lead ++ (core ++ gap)) = core := by
  rw [Text.trim, trimLeft, dropWhile_run blankLead (h.stops gap), h.trimRight blankGap]

theorem Solid.trim {s : List Char} (h : Solid s) : trim s = s := by
  have none : ∀ c ∈ ([] : List Char), isBlank c = true := by simp
  simpa using h.trim_between none none

/-- A text is made of blanks, or is solid text between blanks. -/
theorem blank_or_solid (s : List Char) : (∀ c ∈ s, isBlank c = true) ∨
    ∃ lead core gap, s = lead ++ (core ++ gap) ∧ (∀ c ∈ lead, isBlank c = true) ∧ Solid core ∧
      ∀ c ∈ gap, isBlank c = true := by
  have whole := List.takeWhile_append_dropWhile (p := isBlank) (l := s)
  have lead : ∀ c ∈ s.takeWhile isBlank, isBlank c = true := fun _ hc => List.mem_takeWhile_imp hc
  have stop := stops_dropWhile isBlank s
  obtain ⟨gap, body, blank, last⟩ := exists_trimRight (s.dropWhile isBlank)
  rw [body] at whole stop
  cases core : trimRight (s.dropWhile isBlank) with
  | nil =>
    refine .inl ?_
    rw [← whole, core, List.nil_append, List.forall_mem_append]
    exact ⟨lead, blank⟩
  | cons c core' =>
    rw [core] at whole stop last
    refine .inr ⟨_, c :: core', gap, whole.symm, lead, ⟨⟨c, rfl, stop c rfl⟩, ?_⟩, blank⟩
    obtain ⟨front, d, same⟩ := List.eq_nil_or_concat (c :: core') |>.resolve_left (by simp)
    rw [same] at last ⊢
    exact ⟨d, by simp, last d (by simp)⟩

/-- Trimming leaves nothing, or text that begins and ends with something other than a blank. -/
theorem trim_eq_nil_or_solid (s : List Char) : trim s = [] ∨ Solid (trim s) := by
  rcases blank_or_solid s with blank | ⟨lead, core, gap, rfl, lead_blank, solid, gap_blank⟩
  · exact .inl (trim_eq_nil blank)
  · refine .inr ?_
    rwa [solid.trim_between lead_blank gap_blank]

theorem Solid.join {a b : List Char} (ha : Solid a) (hb : Solid b) (between : List Char) :
    Solid (a ++ between ++ b) := by
  constructor
  · obtain ⟨c, hc, plain⟩ := ha.first
    rw [Option.mem_def] at hc
    exact ⟨c, by simp [List.head?_append, hc], plain⟩
  · obtain ⟨c, hc, plain⟩ := hb.last
    rw [Option.mem_def] at hc
    exact ⟨c, by simp [List.getLast?_append, hc], plain⟩

theorem solid_intercalate {sep : List Char} {parts : List (List Char)} (ne : parts ≠ [])
    (h : ∀ part ∈ parts, Solid part) : Solid (sep.intercalate parts) := by
  induction parts with
  | nil => exact absurd rfl ne
  | cons part parts ih =>
    cases parts with
    | nil =>
      rw [List.intercalate_singleton]
      exact h part (by simp)
    | cons second parts =>
      rw [List.intercalate_cons_cons]
      exact (h part (by simp)).join (ih (by simp) fun p hp => h p (by simp [hp])) sep

/-- Nothing in the text is a quote. -/
def Unquoted (s : List Char) : Prop :=
  ∀ c ∈ s, isQuote c = false

instance (s : List Char) : Decidable (Unquoted s) :=
  forallMemDecidable s

@[simp] theorem unquoted_nil : Unquoted [] := by simp [Unquoted]

@[simp] theorem unquoted_cons {c : Char} {s : List Char} :
    Unquoted (c :: s) ↔ isQuote c = false ∧ Unquoted s := by
  simp [Unquoted]

@[simp] theorem unquoted_append {a b : List Char} :
    Unquoted (a ++ b) ↔ Unquoted a ∧ Unquoted b := by
  simp only [Unquoted, List.mem_append, or_imp, forall_and]

theorem unquoted_of_isBlank {s : List Char} (h : ∀ c ∈ s, isBlank c = true) : Unquoted s :=
  fun c hc => isQuote_of_isBlank (h c hc)

/-- Text that neither opens a string nor ends a line. -/
structure Plain (s : List Char) : Prop where
  unquoted : Unquoted s
  flat : ∀ c ∈ s, c ≠ '\n'

theorem plain_iff {s : List Char} : Plain s ↔ Unquoted s ∧ ∀ c ∈ s, c ≠ '\n' :=
  ⟨fun h => ⟨h.unquoted, h.flat⟩, fun h => ⟨h.1, h.2⟩⟩

instance (s : List Char) : Decidable (Plain s) :=
  decidable_of_iff _ plain_iff.symm

@[simp] theorem plain_nil : Plain [] := by simp [plain_iff]

@[simp] theorem plain_append {a b : List Char} : Plain (a ++ b) ↔ Plain a ∧ Plain b := by
  simp only [plain_iff, unquoted_append, List.mem_append, or_imp, forall_and]
  constructor
  · rintro ⟨⟨ua, ub⟩, fa, fb⟩
    exact ⟨⟨ua, fa⟩, ub, fb⟩
  · rintro ⟨⟨ua, fa⟩, ub, fb⟩
    exact ⟨⟨ua, ub⟩, fa, fb⟩

/-- The quotes of a text, in order. -/
def quotes (s : List Char) : List Char :=
  s.filter isQuote

@[simp] theorem quotes_append (a b : List Char) : quotes (a ++ b) = quotes a ++ quotes b :=
  List.filter_append ..

theorem quotes_cons_of_isQuote {c : Char} {s : List Char} (h : isQuote c = true) :
    quotes (c :: s) = c :: quotes s :=
  List.filter_cons_of_pos h

theorem quotes_eq_nil {s : List Char} : quotes s = [] ↔ Unquoted s := by
  simp [quotes, Unquoted, List.filter_eq_nil_iff]

theorem quotes_dropWhile_isBlank (s : List Char) : quotes (s.dropWhile isBlank) = quotes s := by
  have blank : quotes (s.takeWhile isBlank) = [] :=
    quotes_eq_nil.2 (unquoted_of_isBlank fun c hc => List.mem_takeWhile_imp hc)
  have whole := congrArg quotes (List.takeWhile_append_dropWhile (p := isBlank) (l := s))
  rwa [quotes_append, blank, List.nil_append] at whole

theorem quotes_reverse (s : List Char) : quotes s.reverse = (quotes s).reverse :=
  List.filter_reverse ..

@[simp] theorem quotes_trimRight (s : List Char) : quotes (trimRight s) = quotes s := by
  rw [trimRight, quotes_reverse, quotes_dropWhile_isBlank, quotes_reverse, List.reverse_reverse]

@[simp] theorem quotes_trimLeft (s : List Char) : quotes (trimLeft s) = quotes s :=
  quotes_dropWhile_isBlank s

@[simp] theorem quotes_trim (s : List Char) : quotes (trim s) = quotes s := by
  simp [trim]

/-- A line starts behind the text, or behind what stands before it where it is empty. -/
def lineStartAfter (lineStart : Bool) : List Char → Bool
  | [] => lineStart
  | c :: rest => lineStartAfter (c == '\n') rest

theorem lineStartAfter_append (lineStart : Bool) (a b : List Char) :
    lineStartAfter lineStart (a ++ b) = lineStartAfter (lineStartAfter lineStart a) b := by
  induction a generalizing lineStart with
  | nil => rfl
  | cons c a ih => exact ih _

theorem lineStartAfter_of_false {a : List Char} (h : lineStartAfter false a = true)
    (lineStart : Bool) : lineStartAfter lineStart a = true := by
  cases a with
  | nil => cases h
  | cons c a => exact h

/-- Behind text without a line break no line starts. -/
theorem lineStartAfter_flat {a : List Char} (flat : ∀ c ∈ a, c ≠ '\n') (ne : a ≠ [])
    (lineStart : Bool) : lineStartAfter lineStart a = false := by
  induction a generalizing lineStart with
  | nil => exact absurd rfl ne
  | cons c a ih =>
    have hc : (c == '\n') = false := by simpa using flat c (by simp)
    rw [lineStartAfter, hc]
    cases a with
    | nil => rfl
    | cons d a => exact ih (fun e he => flat e (by simp [he])) (by simp) false

/-- Text without a line break stands in front of the first one. -/
theorem prefix_of_flat {line behind a b : List Char} (h : line ++ behind = a ++ '\n' :: b)
    (flat : ∀ c ∈ line, c ≠ '\n') : line <+: a := by
  rcases List.append_eq_append_iff.1 h with ⟨more, longer, _⟩ | ⟨more, longer, below⟩
  · exact ⟨more, longer.symm⟩
  · cases more with
    | nil => exact ⟨[], by simp [longer]⟩
    | cons c more =>
      obtain ⟨rfl, _⟩ := List.cons.inj below
      exact absurd rfl (flat '\n' (by simp [longer]))

/-- A line starts behind the text if there is none, or if it ends in a line break. -/
theorem lineStartAfter_eq_true_iff {a : List Char} :
    lineStartAfter true a = true ↔ a = [] ∨ a.getLast? = some '\n' := by
  rcases List.eq_nil_or_concat a with rfl | ⟨front, last, rfl⟩
  · simp [lineStartAfter]
  · rw [List.concat_eq_append, lineStartAfter_append]
    simp [lineStartAfter]

end VirtualImports.Text
