import Mathlib.Algebra.BigOperators.Group.List.Basic
import Mathlib.Algebra.Ring.Int.Defs
import Mathlib.Data.List.Chain
import VirtualImports.Proofs.Rewrite.Weaving

/-!
Replacing spans, whoever gives them.

* `inOrder_of_isChain`: spans each of which ends before the next one starts are in order throughout;
* `sum_growth`: what a text gains does not depend on the order of its replacements;
* `applyAll_simultaneous`: the replacements are made as if at once.

The spans may touch and may be empty. The replacements may be given in any order.
-/
namespace VirtualImports.Replacement

/-- One span starts first, and ends by the place where the other starts. -/
def Precedes (a b : Replacement) : Prop :=
  a.start < b.start ∧ a.stop ≤ b.start

instance (a b : Replacement) : Decidable (a.Precedes b) :=
  inferInstanceAs (Decidable (_ ∧ _))

variable {code : List Char} {replacements ordered : List Replacement}

/-- Spans that each precede the next are in order throughout, for a span does not end before it
starts. -/
theorem inOrder_of_isChain
    (within : ∀ r ∈ ordered, 0 ≤ r.start ∧ r.start ≤ r.stop ∧ r.stop ≤ code.length)
    (chain : ordered.IsChain Precedes) : InOrder code ordered := by
  have behind : ordered.IsChain fun a b => a.Precedes b ∧ b.start ≤ b.stop :=
    chain.imp_of_mem_imp fun a b _ hb precedes => ⟨precedes, (within b hb).2.1⟩
  -- without the second part this would not be transitive
  have : Trans (fun a b : Replacement => a.Precedes b ∧ b.start ≤ b.stop)
      (fun a b => a.Precedes b ∧ b.start ≤ b.stop)
      (fun a b => a.Precedes b ∧ b.start ≤ b.stop) := by
    refine ⟨fun {a b c} hab hbc => ⟨⟨?_, ?_⟩, hbc.2⟩⟩
    · exact Int.lt_trans hab.1.1 hbc.1.1
    · exact Int.le_trans hab.1.2 (Int.le_trans hab.2 hbc.1.2)
  exact ⟨within, (List.isChain_iff_pairwise.1 behind).imp fun both => both.1⟩

theorem gain_eq_sum (replacements : List Replacement) :
    gain replacements = (replacements.map growth).sum := by
  induction replacements with
  | nil => rfl
  | cons r rest ih => rw [gain, ih, List.map_cons, List.sum_cons]

/-- What a text gains does not depend on the order of its replacements. -/
theorem sum_growth (perm : replacements.Perm ordered) :
    (replacements.map growth).sum = gain ordered := by
  rw [gain_eq_sum]
  exact (perm.map growth).sum_eq

/-- **Replacements are made as if at once.** Where the spans lie in the text and, taken in the order
of their starts, each ends by the start of the next, the new text is what stands between the spans,
unchanged, with the renderings in between. With what stood in the spans it was the old one. It is the
same in whatever order the replacements are given, and longer by what the renderings are longer than
their spans. -/
theorem applyAll_simultaneous (perm : replacements.Perm ordered)
    (within : ∀ r ∈ replacements, 0 ≤ r.start ∧ r.start ≤ r.stop ∧ r.stop ≤ code.length)
    (chain : ordered.IsChain Precedes) :
    applyAll code replacements = weave code render 0 ordered ∧
      weave code (span code) 0 ordered = code ∧
      (∀ other, other.Perm replacements → applyAll code other = applyAll code replacements) ∧
      ((applyAll code replacements).length : Int) =
        code.length + (replacements.map growth).sum := by
  have order : InOrder code ordered :=
    inOrder_of_isChain (fun r mem => within r (perm.mem_iff.2 mem)) chain
  have woven := applyAll_eq_weave perm order
  have behind : ∀ r ∈ ordered, ((0 : Nat) : Int) ≤ r.start := fun r mem => (order.within r mem).1
  refine ⟨woven, ?_, ?_, ?_⟩
  · exact weave_span order 0 behind
  · intro other same
    rw [woven]
    exact applyAll_eq_weave (same.trans perm) order
  · rw [woven, length_weave order (Nat.zero_le _) behind, sum_growth perm]
    omega

/-- Two spans that touch, a third that is removed, and a place for something new. -/
def shuffledReplacements : List Replacement :=
  [⟨"45".toList, 4, 6, ["four".toList], [], ['\n']⟩, ⟨"01".toList, 0, 2, [], [], ['\n']⟩,
    ⟨[], 9, 9, ["eight".toList], [' '], ['\n']⟩,
    ⟨"23".toList, 2, 4, ["two".toList, "three".toList], [' '], ['\n']⟩]

def straightReplacements : List Replacement :=
  [⟨"01".toList, 0, 2, [], [], ['\n']⟩,
    ⟨"23".toList, 2, 4, ["two".toList, "three".toList], [' '], ['\n']⟩,
    ⟨"45".toList, 4, 6, ["four".toList], [], ['\n']⟩, ⟨[], 9, 9, ["eight".toList], [' '], ['\n']⟩]

theorem applyAll_simultaneous_sample :
    shuffledReplacements.Perm straightReplacements ∧
      (∀ r ∈ shuffledReplacements,
        0 ≤ r.start ∧ r.start ≤ r.stop ∧ r.stop ≤ "0123456789".toList.length) ∧
      straightReplacements.IsChain Precedes ∧
      applyAll "0123456789".toList shuffledReplacements = " two\n threefour678 eight9".toList ∧
      applyAll "0123456789".toList straightReplacements = " two\n threefour678 eight9".toList := by
  have perm : shuffledReplacements.Perm straightReplacements := by decide
  have within : ∀ r ∈ shuffledReplacements,
      0 ≤ r.start ∧ r.start ≤ r.stop ∧ r.stop ≤ "0123456789".toList.length := by decide
  have chain : straightReplacements.IsChain Precedes := by decide
  obtain ⟨woven, _, others, _⟩ := applyAll_simultaneous perm within chain
  have text : weave "0123456789".toList render 0 straightReplacements =
      " two\n threefour678 eight9".toList := by decide
  exact ⟨perm, within, chain, woven.trans text, (others _ perm.symm).trans (woven.trans text)⟩

end VirtualImports.Replacement
