import Mathlib.Data.List.Nodup
import VirtualImports.Rewrite.Replacement

/-!
Replacing spans of a text, read as one substitution.

* `weave`: the text between the spans with something in their place, from left to right;
* `weave_span`, `weave_original`: with the texts that stood there it is the whole text;
* `applyAll_eq_weave`: replacing the last span first comes to weaving in the renderings, in
  whatever order the replacements are given;
* `length_weave`: the text grows by what the renderings are longer than their spans;
* `exists_weave_between`: what stands between the spans is left, as far on as the spans in front of
  it have grown.
-/
namespace VirtualImports.Replacement

/-- Spans that lie within the text and follow one another, each ending before the next starts. -/
structure InOrder (code : List Char) (replacements : List Replacement) : Prop where
  within : ∀ r ∈ replacements, 0 ≤ r.start ∧ r.start ≤ r.stop ∧ r.stop ≤ code.length
  apart : replacements.Pairwise fun a b => a.start < b.start ∧ a.stop ≤ b.start

/-- The text from a position on: what stands between the spans, unchanged, and in the place of
each span the text chosen for it. -/
def weave (code : List Char) (text : Replacement → List Char) :
    Nat → List Replacement → List Char
  | position, [] => code.drop position
  | position, r :: rest =>
    (code.drop position).take (r.start.toNat - position) ++ text r ++
      weave code text r.stop.toNat rest

theorem InOrder.tail {code : List Char} {r : Replacement} {rest : List Replacement}
    (h : InOrder code (r :: rest)) : InOrder code rest :=
  ⟨fun s hs => h.within s (by simp [hs]), h.apart.tail⟩

/-- What stands in the span of a replacement. -/
def span (code : List Char) (r : Replacement) : List Char :=
  (code.drop r.start.toNat).take (r.stop.toNat - r.start.toNat)

theorem weave_congr {code : List Char} {text other : Replacement → List Char}
    {replacements : List Replacement} (same : ∀ r ∈ replacements, text r = other r)
    (position : Nat) :
    weave code text position replacements = weave code other position replacements := by
  induction replacements generalizing position with
  | nil => rfl
  | cons r rest ih => rw [weave, weave, same r (by simp), ih fun s hs => same s (by simp [hs])]

/-- With what stands in the spans, weaving gives the text back. -/
theorem weave_span {code : List Char} {replacements : List Replacement}
    (h : InOrder code replacements) (position : Nat)
    (behind : ∀ r ∈ replacements, (position : Int) ≤ r.start) :
    weave code (span code) position replacements = code.drop position := by
  induction replacements generalizing position with
  | nil => rfl
  | cons r rest ih =>
    obtain ⟨lo, order, hi⟩ := h.within r (by simp)
    have front : position ≤ r.start.toNat := by
      have := behind r (by simp)
      omega
    have next : ∀ s ∈ rest, (r.stop.toNat : Int) ≤ s.start := by
      intro s hs
      have := ((List.pairwise_cons.1 h.apart).1 s hs).2
      omega
    have gap : (code.drop position).drop (r.start.toNat - position) = code.drop r.start.toNat := by
      rw [List.drop_drop, Nat.add_sub_cancel' front]
    have inside : (code.drop r.start.toNat).drop (r.stop.toNat - r.start.toNat) =
        code.drop r.stop.toNat := by
      rw [List.drop_drop, Nat.add_sub_cancel' (Int.toNat_le_toNat order)]
    rw [weave, ih h.tail _ next, span, List.append_assoc, ← inside, List.take_append_drop, ← gap,
      List.take_append_drop]

/-- With the texts that stood in the spans, weaving gives the text back. -/
theorem weave_original {code : List Char} {replacements : List Replacement}
    (h : InOrder code replacements) (same : ∀ r ∈ replacements, r.original = r.span code)
    (position : Nat) (behind : ∀ r ∈ replacements, (position : Int) ≤ r.start) :
    weave code original position replacements = code.drop position := by
  rw [weave_congr same, weave_span h position behind]

theorem offset_of_nonneg {length : Nat} {position : Int} (h : 0 ≤ position) :
    offset length position = position.toNat := by
  rw [offset, if_neg (by omega)]

theorem applyAll_nil (code : List Char) : applyAll code [] = code := by
  rw [applyAll, List.mergeSort_nil, List.foldl_nil]

/-- The spans behind a position are replaced first, and leave the text in front of it alone. -/
theorem foldl_splice_reverse {code : List Char} {replacements : List Replacement}
    (h : InOrder code replacements) (position : Nat)
    (behind : ∀ r ∈ replacements, (position : Int) ≤ r.start) :
    replacements.reverse.foldl splice code =
      code.take position ++ weave code render position replacements := by
  induction replacements generalizing position with
  | nil => exact (List.take_append_drop position code).symm
  | cons r rest ih =>
    obtain ⟨lo, order, hi⟩ := h.within r (by simp)
    have next : ∀ s ∈ rest, (r.stop.toNat : Int) ≤ s.start := by
      intro s hs
      have := ((List.pairwise_cons.1 h.apart).1 s hs).2
      omega
    have front : position ≤ r.start.toNat := by
      have := behind r (by simp)
      omega
    have length : (code.take r.stop.toNat).length = r.stop.toNat := by
      rw [List.length_take]; omega
    have keep : (code.take r.stop.toNat ++ weave code render r.stop.toNat rest).take
        r.start.toNat =
          code.take position ++ (code.drop position).take (r.start.toNat - position) := by
      rw [List.take_append_of_le_length (by omega), List.take_take, Nat.min_eq_left (by omega),
        ← List.take_add, Nat.add_sub_cancel' front]
    have drop : (code.take r.stop.toNat ++ weave code render r.stop.toNat rest).drop
        r.stop.toNat = weave code render r.stop.toNat rest := by
      rw [List.drop_append_of_le_length (by omega), List.drop_eq_nil_of_le (by omega)]
      rfl
    rw [List.reverse_cons, List.foldl_append, ih h.tail r.stop.toNat next]
    simp only [List.foldl_cons, List.foldl_nil, splice, offset_of_nonneg lo,
      offset_of_nonneg (Int.le_trans lo order), keep, drop, weave, List.append_assoc]

/-- Sorted from the last start to the first, the replacements are those in the order of the text
turned round. -/
theorem mergeSort_eq_reverse {code : List Char} {replacements ordered : List Replacement}
    (perm : replacements.Perm ordered) (h : InOrder code ordered) :
    replacements.mergeSort (fun a b => decide (b.start ≤ a.start)) = ordered.reverse := by
  have sorted : (replacements.mergeSort fun a b => decide (b.start ≤ a.start)).Pairwise
      fun a b => decide (b.start ≤ a.start) = true := List.pairwise_mergeSort
    (by simp only [decide_eq_true_eq]; omega)
    (by simp only [Bool.or_eq_true, decide_eq_true_eq]; omega) replacements
  have reversed : ordered.reverse.Pairwise fun a b => decide (b.start ≤ a.start) = true := by
    rw [List.pairwise_reverse]
    exact h.apart.imp fun {a b} hab => by simpa using Int.le_of_lt hab.1
  have distinct : (ordered.map start).Nodup :=
    List.pairwise_map.2 (h.apart.imp fun hab => Int.ne_of_lt hab.1)
  have back : (replacements.mergeSort fun a b => decide (b.start ≤ a.start)).Perm
      ordered.reverse :=
    (List.mergeSort_perm _ _).trans (perm.trans (List.reverse_perm ordered).symm)
  refine back.eq_of_pairwise ?_ sorted reversed
  intro a b ha hb ab ba
  simp only [decide_eq_true_eq] at ab ba
  exact List.inj_on_of_nodup_map distinct (List.mem_reverse.1 (back.subset ha))
    (List.mem_reverse.1 hb) (Int.le_antisymm ba ab)

/-- **Replacing is one substitution.** Where the spans do not overlap, replacing them one by one
from the last to the first comes to weaving all renderings into the unchanged text, in whatever
order the replacements are given. -/
theorem applyAll_eq_weave {code : List Char} {replacements ordered : List Replacement}
    (perm : replacements.Perm ordered) (h : InOrder code ordered) :
    applyAll code replacements = weave code render 0 ordered := by
  rw [applyAll, mergeSort_eq_reverse perm h, foldl_splice_reverse h 0 fun r hr => (h.within r hr).1]
  rfl

/-! ## Lengths -/

/-- What the text gains where a span gives way to its rendering. -/
def growth (r : Replacement) : Int :=
  r.render.length - (r.stop - r.start)

/-- What the text gains by all of them. -/
def gain : List Replacement → Int
  | [] => 0
  | r :: rest => r.growth + gain rest

/-- How far a place in the text is moved: by what the spans in front of it grow. -/
def shift (replacements : List Replacement) (position : Nat) : Int :=
  gain (replacements.filter fun r => r.start < (position : Int))

theorem length_weave {code : List Char} {replacements : List Replacement}
    (h : InOrder code replacements) {position : Nat} (inside : position ≤ code.length)
    (behind : ∀ r ∈ replacements, (position : Int) ≤ r.start) :
    ((weave code render position replacements).length : Int) =
      code.length - position + gain replacements := by
  induction replacements generalizing position with
  | nil =>
    simp only [weave, List.length_drop, gain]
    omega
  | cons r rest ih =>
    obtain ⟨lo, order, hi⟩ := h.within r (by simp)
    have front := behind r (by simp)
    have next : ∀ s ∈ rest, (r.stop.toNat : Int) ≤ s.start := by
      intro s hs
      have := ((List.pairwise_cons.1 h.apart).1 s hs).2
      omega
    have later := ih h.tail (show r.stop.toNat ≤ code.length by omega) next
    simp only [weave, List.length_append, List.length_take, List.length_drop, gain, growth]
    push_cast
    omega

/-- Where no span starts the text goes on as it is. -/
theorem weave_skip {code : List Char} {text : Replacement → List Char} {position next : Nat}
    (order : position ≤ next) {replacements : List Replacement}
    (behind : ∀ r ∈ replacements, (next : Int) ≤ r.start) :
    weave code text position replacements =
      (code.drop position).take (next - position) ++ weave code text next replacements := by
  have rest : code.drop next = (code.drop position).drop (next - position) := by
    rw [List.drop_drop, Nat.add_sub_cancel' order]
  cases replacements with
  | nil => rw [weave, weave, rest, List.take_append_drop]
  | cons r replacements =>
    have := behind r (by simp)
    have far : r.start.toNat - position = (next - position) + (r.start.toNat - next) := by omega
    rw [weave, weave, far, List.take_add, rest]
    simp only [List.append_assoc]

/-- Spans that end by a position are woven into the text in front of it. -/
theorem weave_append {code : List Char} {text : Replacement → List Char}
    {front back : List Replacement} (h : InOrder code (front ++ back)) {position middle : Nat}
    (order : position ≤ middle) (behind : ∀ r ∈ front, (position : Int) ≤ r.start)
    (ends : ∀ r ∈ front, r.stop ≤ middle) (starts : ∀ r ∈ back, (middle : Int) ≤ r.start) :
    weave code text position (front ++ back) =
      weave (code.take middle) text position front ++ weave code text middle back := by
  induction front generalizing position with
  | nil => rw [List.nil_append, weave_skip order starts, weave, List.drop_take]
  | cons r front ih =>
    obtain ⟨lo, span, hi⟩ := h.within r (by simp)
    have stop := ends r (by simp)
    have next : ∀ s ∈ front, (r.stop.toNat : Int) ≤ s.start := by
      intro s hs
      have := ((List.pairwise_cons.1 h.apart).1 s (List.mem_append_left _ hs)).2
      omega
    have gap : (code.drop position).take (r.start.toNat - position) =
        ((code.take middle).drop position).take (r.start.toNat - position) := by
      rw [List.drop_take, List.take_take, Nat.min_eq_left (by omega)]
    rw [List.cons_append, weave, weave, gap,
      ih h.tail (by omega) next fun s hs => ends s (by simp [hs])]
    simp only [List.append_assoc]

/-- **What stands between the spans is left.** It moves by what the spans in front of it have grown. -/
theorem exists_weave_between {code : List Char} {front back : List Replacement}
    (h : InOrder code (front ++ back)) {start stop : Nat} (order : start ≤ stop)
    (inside : stop ≤ code.length) (ends : ∀ r ∈ front, r.stop ≤ start)
    (starts : ∀ r ∈ back, (stop : Int) ≤ r.start) :
    ∃ before after, weave code render 0 (front ++ back) =
        before ++ (code.drop start).take (stop - start) ++ after ∧
      (before.length : Int) = start + gain front := by
  have behind : ∀ r ∈ front, (0 : Int) ≤ r.start := fun r hr =>
    (h.within r (List.mem_append_left _ hr)).1
  have within : InOrder (code.take start) front := by
    refine ⟨fun r hr => ?_, (List.pairwise_append.1 h.apart).1⟩
    obtain ⟨lo, span, _⟩ := h.within r (List.mem_append_left _ hr)
    have := ends r hr
    rw [List.length_take]
    omega
  refine ⟨weave (code.take start) render 0 front, weave code render stop back, ?_, ?_⟩
  · rw [weave_append h (Nat.zero_le start) behind ends fun r hr => ?_, weave_skip order starts,
      List.append_assoc]
    have := starts r hr
    omega
  · rw [length_weave within (Nat.zero_le _) behind, List.length_take]
    omega

end VirtualImports.Replacement
