import VirtualImports.Proofs.Text.Runs

/-!
Patterns that are matched by trial.

From a place in a text a pattern has ways to go on, listed in the order in which they are tried: a
greedy run takes as many characters as it can first, a lazy run as few. The first way to the end of the
pattern is its match, as in a search that goes back where it is stuck.

* `Pattern.ways_seq` and the like: the ways of a pattern from those of its parts;
* `mem_ways_seq` and the like: where they lead, whatever their order;
* `exists_splits`: a greedy run takes all characters of its class first;
* `head?_flatMap_first`: where the first way fails only if all do, no other way is needed;
* `Leftmost.unique`: what is found by taking the first place that is left, again and again, is
  determined.
-/
namespace VirtualImports.Text

open Statement

/-- Patterns with groups that go by the names in `κ`. -/
inductive Pattern (κ : Type)
  | literal (text : List Char)
  | one (p : Char → Bool)
  | greedy (p : Char → Bool)
  | lazily (p : Char → Bool)
  | maybe (inner : Pattern κ)
  | seq (first second : Pattern κ)
  | group (key : κ) (inner : Pattern κ)
  | again (key : κ)
  | lineStart
  | lineEnd

/-- A piece of a text, and where it starts. -/
structure Span where
  start : Nat
  text : List Char

def Span.stop (span : Span) : Nat :=
  span.start + span.text.length

/-- A place in a text, with what the groups on the way to it have taken, the latest first. -/
structure Place (κ : Type) where
  before : List Char
  ahead : List Char
  groups : List (κ × Span)

variable {κ : Type}

/-- The place behind a piece of the text. -/
def Place.past (place : Place κ) (piece rest : List Char) : Place κ :=
  { place with before := place.before ++ piece, ahead := rest }

theorem Place.past_past (place : Place κ) (a b x y : List Char) :
    (place.past a x).past b y = place.past (a ++ b) y := by
  simp [Place.past]

/-- The place with one more group, which has taken what was read since `start`. -/
def Place.close (key : κ) (start : Nat) (place : Place κ) : Place κ :=
  { place with groups := (key, ⟨start, place.before.drop start⟩) :: place.groups }

/-- The runs of a class at the start of a text, each with what it leaves, the longest first. -/
def splits (p : Char → Bool) : List Char → List (List Char × List Char)
  | [] => [([], [])]
  | c :: s =>
    if p c then ((splits p s).map fun (run, rest) => (c :: run, rest)) ++ [([], c :: s)]
    else [([], c :: s)]

namespace Pattern

/-- One character of a class at least, and as many as there are at first. -/
def some (p : Char → Bool) : Pattern κ :=
  .seq (.one p) (.greedy p)

/-- One character of a class at least, and only one at first. -/
def someLazily (p : Char → Bool) : Pattern κ :=
  .seq (.one p) (.lazily p)

def waysOfLiteral (text : List Char) (place : Place κ) : List (Place κ) :=
  ((after? text place.ahead).map (place.past text)).toList

/-- The places to which a pattern leads from a place, in the order in which they are tried. -/
def ways [DecidableEq κ] : Pattern κ → Place κ → List (Place κ)
  | literal text, place => waysOfLiteral text place
  | one p, place =>
    match place.ahead with
    | [] => []
    | c :: rest => if p c then [place.past [c] rest] else []
  | greedy p, place => (splits p place.ahead).map fun (run, rest) => place.past run rest
  | lazily p, place => (splits p place.ahead).reverse.map fun (run, rest) => place.past run rest
  | maybe inner, place => inner.ways place ++ [place]
  | seq first second, place => (first.ways place).flatMap second.ways
  | group key inner, place => (inner.ways place).map (Place.close key place.before.length)
  | again key, place =>
    match place.groups.lookup key with
    | none => []
    | .some span => waysOfLiteral span.text place
  | lineStart, place => if lineStartAfter true place.before then [place] else []
  | lineEnd, place =>
    match place.ahead with
    | [] => [place]
    | c :: _ => if c = '\n' then [place] else []

variable [DecidableEq κ] (place : Place κ)

theorem ways_literal (text : List Char) :
    (literal text).ways place = waysOfLiteral text place := rfl

theorem ways_one (p : Char → Bool) : (one p).ways place =
    match place.ahead with
    | [] => []
    | c :: rest => if p c then [place.past [c] rest] else [] := rfl

theorem ways_greedy (p : Char → Bool) : (greedy p).ways place =
    (splits p place.ahead).map fun (run, rest) => place.past run rest := rfl

theorem ways_lazily (p : Char → Bool) : (lazily p).ways place =
    (splits p place.ahead).reverse.map fun (run, rest) => place.past run rest := rfl

theorem ways_maybe (inner : Pattern κ) : (maybe inner).ways place = inner.ways place ++ [place] :=
  rfl

theorem ways_seq (first second : Pattern κ) :
    (seq first second).ways place = (first.ways place).flatMap second.ways := rfl

theorem ways_group (key : κ) (inner : Pattern κ) :
    (group key inner).ways place = (inner.ways place).map (Place.close key place.before.length) :=
  rfl

theorem ways_again (key : κ) : (again key).ways place =
    match place.groups.lookup key with
    | none => []
    | .some span => waysOfLiteral span.text place := rfl

theorem ways_lineStart :
    lineStart.ways place = if lineStartAfter true place.before then [place] else [] := rfl

theorem ways_lineEnd : lineEnd.ways place =
    match place.ahead with
    | [] => [place]
    | c :: _ => if c = '\n' then [place] else [] := rfl

end Pattern

/-! ## Where the ways lead -/

theorem mem_splits {p : Char → Bool} {s run rest : List Char} :
    (run, rest) ∈ splits p s ↔ s = run ++ rest ∧ ∀ c ∈ run, p c = true := by
  induction s generalizing run with
  | nil =>
    simp only [splits, List.mem_singleton, Prod.mk.injEq, List.nil_eq_append_iff]
    constructor
    · rintro ⟨rfl, rfl⟩
      simp
    · exact fun h => h.1
  | cons c s ih =>
    cases run with
    | nil =>
      have here : (([] : List Char), rest) ∈ [([], c :: s)] ↔ c :: s = rest := by
        rw [List.mem_singleton, Prod.mk.injEq, eq_comm (a := rest)]
        simp
      by_cases h : p c = true <;> simpa [splits, h] using here
    | cons d run =>
      by_cases h : p c = true
      · simp only [splits, h, if_true, List.mem_append, List.mem_map, Prod.exists, Prod.mk.injEq,
          List.cons.injEq, List.mem_singleton, reduceCtorEq, false_and, or_false,
          List.cons_append, List.forall_mem_cons]
        constructor
        · rintro ⟨run, rest, mem, ⟨rfl, rfl⟩, rfl⟩
          obtain ⟨rfl, all⟩ := ih.1 mem
          exact ⟨⟨rfl, rfl⟩, h, all⟩
        · rintro ⟨⟨rfl, rfl⟩, _, all⟩
          exact ⟨run, rest, ih.2 ⟨rfl, all⟩, ⟨rfl, rfl⟩, rfl⟩
      · simp only [splits, h, List.cons_append, List.forall_mem_cons]
        simp only [Bool.false_eq_true, if_false, List.mem_singleton, Prod.mk.injEq, reduceCtorEq,
          false_and, false_iff, List.cons.injEq]
        rintro ⟨⟨rfl, _⟩, other, _⟩
        exact h other

/-- A greedy run takes all characters of its class first. -/
theorem exists_splits (p : Char → Bool) (s : List Char) :
    ∃ shorter, splits p s = (s.takeWhile p, s.dropWhile p) :: shorter := by
  induction s with
  | nil => exact ⟨[], rfl⟩
  | cons c s ih =>
    obtain ⟨shorter, longest⟩ := ih
    by_cases h : p c = true <;> simp [splits, h, longest]

variable {place reached : Place κ}

theorem mem_waysOfLiteral {text : List Char} : reached ∈ Pattern.waysOfLiteral text place ↔
    ∃ rest, place.ahead = text ++ rest ∧ reached = place.past text rest := by
  simp only [Pattern.waysOfLiteral, Option.mem_toList, Option.map_eq_some_iff]
  constructor
  · rintro ⟨rest, found, rfl⟩
    exact ⟨rest, eq_append_of_after? found, rfl⟩
  · rintro ⟨rest, ahead, rfl⟩
    exact ⟨rest, ahead ▸ after?_append text rest, rfl⟩

/-- A character and a run of the class behind it are a run with one character at least. -/
theorem exists_run_cons {p : Char → Bool} :
    (∃ between, (∃ c rest, place.ahead = c :: rest ∧ p c = true ∧ between = place.past [c] rest) ∧
      ∃ run rest, between.ahead = run ++ rest ∧ (∀ c ∈ run, p c = true) ∧
        reached = between.past run rest) ↔
    ∃ run rest, place.ahead = run ++ rest ∧ run ≠ [] ∧ (∀ c ∈ run, p c = true) ∧
      reached = place.past run rest := by
  constructor
  · rintro ⟨_, ⟨c, _, ahead, hc, rfl⟩, run, rest, rfl, all, rfl⟩
    exact ⟨c :: run, rest, ahead, by simp, List.forall_mem_cons.2 ⟨hc, all⟩, place.past_past ..⟩
  · rintro ⟨run, rest, ahead, ne, all, rfl⟩
    obtain ⟨c, run, rfl⟩ := List.exists_cons_of_ne_nil ne
    obtain ⟨hc, all⟩ := List.forall_mem_cons.1 all
    refine ⟨place.past [c] (run ++ rest), ⟨c, _, ahead, hc, rfl⟩, run, rest, rfl, all, ?_⟩
    rw [Place.past_past]
    rfl

variable [DecidableEq κ]

@[simp] theorem mem_ways_literal {text : List Char} :
    reached ∈ (Pattern.literal text).ways place ↔
      ∃ rest, place.ahead = text ++ rest ∧ reached = place.past text rest := by
  rw [Pattern.ways_literal]
  exact mem_waysOfLiteral

@[simp] theorem mem_ways_one {p : Char → Bool} : reached ∈ (Pattern.one p).ways place ↔
    ∃ c rest, place.ahead = c :: rest ∧ p c = true ∧ reached = place.past [c] rest := by
  rw [Pattern.ways_one]
  split
  · rename_i none
    simp [none]
  · rename_i c rest found
    simp [found, and_assoc]

@[simp] theorem mem_ways_greedy {p : Char → Bool} : reached ∈ (Pattern.greedy p).ways place ↔
    ∃ run rest, place.ahead = run ++ rest ∧ (∀ c ∈ run, p c = true) ∧
      reached = place.past run rest := by
  simp only [Pattern.ways_greedy, List.mem_map, Prod.exists, mem_splits, and_assoc, eq_comm]

@[simp] theorem mem_ways_lazily {p : Char → Bool} : reached ∈ (Pattern.lazily p).ways place ↔
    ∃ run rest, place.ahead = run ++ rest ∧ (∀ c ∈ run, p c = true) ∧
      reached = place.past run rest := by
  simp only [Pattern.ways_lazily, List.mem_map, List.mem_reverse, Prod.exists, mem_splits, and_assoc,
    eq_comm]

@[simp] theorem mem_ways_maybe {inner : Pattern κ} :
    reached ∈ (Pattern.maybe inner).ways place ↔
      reached ∈ inner.ways place ∨ reached = place := by
  simp [Pattern.ways_maybe]

@[simp] theorem mem_ways_seq {first second : Pattern κ} :
    reached ∈ (Pattern.seq first second).ways place ↔
      ∃ between ∈ first.ways place, reached ∈ second.ways between := by
  simp [Pattern.ways_seq]

@[simp] theorem mem_ways_group {key : κ} {inner : Pattern κ} :
    reached ∈ (Pattern.group key inner).ways place ↔
      ∃ last ∈ inner.ways place, reached = last.close key place.before.length := by
  simp [Pattern.ways_group, eq_comm]

@[simp] theorem mem_ways_again {key : κ} : reached ∈ (Pattern.again key).ways place ↔
    ∃ span rest, place.groups.lookup key = some span ∧ place.ahead = span.text ++ rest ∧
      reached = place.past span.text rest := by
  rw [Pattern.ways_again]
  split
  · rename_i none
    simp [none]
  · rename_i span found
    simp [found, mem_waysOfLiteral]

@[simp] theorem mem_ways_lineStart : reached ∈ Pattern.lineStart.ways place ↔
    lineStartAfter true place.before = true ∧ reached = place := by
  simp [Pattern.ways_lineStart]

@[simp] theorem mem_ways_some {p : Char → Bool} : reached ∈ (Pattern.some p).ways place ↔
    ∃ run rest, place.ahead = run ++ rest ∧ run ≠ [] ∧ (∀ c ∈ run, p c = true) ∧
      reached = place.past run rest := by
  simp only [Pattern.some, mem_ways_seq, mem_ways_one, mem_ways_greedy]
  exact exists_run_cons

@[simp] theorem mem_ways_someLazily {p : Char → Bool} :
    reached ∈ (Pattern.someLazily p).ways place ↔
      ∃ run rest, place.ahead = run ++ rest ∧ run ≠ [] ∧ (∀ c ∈ run, p c = true) ∧
        reached = place.past run rest := by
  simp only [Pattern.someLazily, mem_ways_seq, mem_ways_one, mem_ways_lazily]
  exact exists_run_cons

@[simp] theorem mem_ways_lineEnd : reached ∈ Pattern.lineEnd.ways place ↔
    (place.ahead = [] ∨ ∃ rest, place.ahead = '\n' :: rest) ∧ reached = place := by
  rw [Pattern.ways_lineEnd]
  split
  · rename_i none
    simp [none]
  · rename_i c rest found
    by_cases h : c = '\n' <;> simp [found, h]

/-! ## Which way comes first -/

/-- Where the first way fails only if all others do, it is as good as all of them. -/
theorem head?_flatMap_first {α β : Type} {f : α → List β} {first : α} {others : List α}
    (best : f first = [] → ∀ other ∈ others, f other = []) :
    ((first :: others).flatMap f).head? = (f first).head? := by
  rw [List.flatMap_cons]
  cases h : f first with
  | nil =>
    rw [List.nil_append, List.flatMap_eq_nil_iff.2 (best h)]
  | cons b bs => rfl

/-- A greedy run is taken as a whole, if nothing can follow it where the class goes on. -/
theorem head?_flatMap_greedy {α : Type} {p : Char → Bool} {f : Place κ → List α}
    (stuck : ∀ run rest, place.ahead = run ++ rest → ¬ Stops p rest → f (place.past run rest) = []) :
    (((Pattern.greedy p).ways place).flatMap f).head? =
      (f (place.past (place.ahead.takeWhile p) (place.ahead.dropWhile p))).head? := by
  obtain ⟨shorter, longest⟩ := exists_splits p place.ahead
  rw [Pattern.ways_greedy, longest, List.map_cons]
  refine head?_flatMap_first fun none other mem => ?_
  obtain ⟨⟨run, rest⟩, split, rfl⟩ := List.mem_map.1 mem
  obtain ⟨ahead, all⟩ := mem_splits.1 (longest ▸ List.mem_cons_of_mem _ split)
  by_cases stop : Stops p rest
  · rw [ahead, takeWhile_run all stop, dropWhile_run all stop] at none
    exact none
  · exact stuck run rest ahead stop

/-- A list that holds one thing only begins with it. -/
theorem head?_of_forall_eq {α : Type} {l : List α} {a : α} (mem : a ∈ l)
    (same : ∀ b ∈ l, b = a) : l.head? = some a := by
  cases l with
  | nil => cases mem
  | cons b l => rw [List.head?_cons, same b (by simp)]

/-! ## Matches in a text -/

/-- A match: where it starts and stops, and what its groups have taken. -/
structure Match (κ : Type) where
  start : Nat
  stop : Nat
  groups : List (κ × Span)

/-- The match of a pattern at a position of a text. -/
def Pattern.matchAt? (pattern : Pattern κ) (code : List Char) (position : Nat) :
    Option (Match κ) :=
  (pattern.ways ⟨code.take position, code.drop position, []⟩).head?.map fun place =>
    ⟨position, place.before.length, place.groups⟩

/-- What is found from a position on, where the first place at which anything starts is taken each
time, and the search goes on where that stops. -/
inductive Leftmost {α : Type} (startsAt : Nat → α → Prop) (stop : α → Nat) : Nat → List α → Prop
  | done {position : Nat} (none : ∀ place, position ≤ place → ∀ x, ¬ startsAt place x) :
    Leftmost startsAt stop position []
  | next {position place : Nat} {x : α} {rest : List α} (behind : position ≤ place)
      (first : ∀ earlier, position ≤ earlier → earlier < place → ∀ y, ¬ startsAt earlier y)
      (here : startsAt place x) (others : Leftmost startsAt stop (stop x) rest) :
    Leftmost startsAt stop position (x :: rest)

namespace Leftmost

variable {α : Type} {startsAt : Nat → α → Prop} {stop : α → Nat} {position : Nat} {xs ys : List α}

/-- Where one thing at most starts at each place, the search has one outcome. -/
theorem unique (one : ∀ place x y, startsAt place x → startsAt place y → x = y)
    (a : Leftmost startsAt stop position xs) (b : Leftmost startsAt stop position ys) : xs = ys := by
  induction a generalizing ys with
  | done none =>
    cases b with
    | done => rfl
    | next behind first here others => exact absurd here (none _ behind _)
  | next behind first here others ih =>
    cases b with
    | done none => exact absurd here (none _ behind _)
    | next behind' first' here' others' =>
      have same := Nat.le_antisymm
        (Nat.not_lt.1 fun earlier => first _ behind' earlier _ here')
        (Nat.not_lt.1 fun earlier => first' _ behind earlier _ here)
      subst same
      obtain rfl := one _ _ _ here here'
      rw [ih others']

/-- The search may as well begin further ahead, if nothing starts on the way. -/
theorem back {later : Nat} (ahead : position ≤ later)
    (none : ∀ place, position ≤ place → place < later → ∀ x, ¬ startsAt place x)
    (h : Leftmost startsAt stop later xs) : Leftmost startsAt stop position xs := by
  cases h with
  | done last =>
    refine .done fun place behind x => ?_
    by_cases early : place < later
    · exact none place behind early x
    · exact last place (by omega) x
  | next behind first here others =>
    refine .next (by omega) (fun place hp early => ?_) here others
    by_cases before : place < later
    · exact none place hp before
    · exact first place (by omega) early

/-- Whatever starts somewhere is found, or else something is that starts before it and stops behind
its start. -/
theorem exists_mem {place : Nat} {x : α} (h : Leftmost startsAt stop position xs)
    (here : startsAt place x) (behind : position ≤ place) :
    ∃ found ∈ xs, ∃ start, startsAt start found ∧ start ≤ place ∧
      (start = place ∨ place < stop found) := by
  induction h with
  | done none => exact absurd here (none _ behind _)
  | @next position start found rest _ first starts others ih =>
    have least : start ≤ place := Nat.not_lt.1 fun earlier => first _ behind earlier _ here
    by_cases inside : start = place ∨ place < stop found
    · exact ⟨found, by simp, start, starts, least, inside⟩
    · obtain ⟨other, mem, rest⟩ := ih (by omega)
      exact ⟨other, by simp [mem], rest⟩

end Leftmost

end VirtualImports.Text
