import VirtualImports.Proofs.Text.Runs

/-!
The two endings of lines: a line feed alone, or with a carriage return in front of it.

* `Returned`: every line of a text ends in both;
* `isReturned_iff`, `isReturned_append`: this can be told character by character, and piece by piece;
* `withReturns`: the text with a carriage return in front of every line feed;
* `withReturns_inj`: which tells texts apart;
* `exists_of_withReturns_eq_append`: it splits where the text does;
* `takeWhile_withReturns`, `dropWhile_withReturns`: runs are the same in it for classes that do not
  tell the two characters apart.
-/
namespace VirtualImports.Text

/-! ## Texts with returns -/

/-- Every line feed has a carriage return in front of it. -/
def Returned (s : List Char) : Prop :=
  ∀ before after, s = before ++ '\n' :: after → before.getLast? = some '\r'

/-- A text ends in a carriage return, or what stands before it does where it is empty. -/
def returnAfter (returned : Bool) : List Char → Bool
  | [] => returned
  | c :: rest => returnAfter (c == '\r') rest

/-- Every line feed has a carriage return in front of it. One stands in front of the text if
`returned` says so. -/
def isReturned (returned : Bool) : List Char → Bool
  | [] => true
  | c :: rest => (c != '\n' || returned) && isReturned (c == '\r') rest

theorem returnAfter_append (returned : Bool) (a b : List Char) :
    returnAfter returned (a ++ b) = returnAfter (returnAfter returned a) b := by
  induction a generalizing returned with
  | nil => rfl
  | cons c a ih => exact ih _

theorem returnAfter_of_getLast? {s : List Char} {c : Char} (h : s.getLast? = some c)
    (returned : Bool) : returnAfter returned s = (c == '\r') := by
  obtain ⟨front, rfl⟩ := List.getLast?_eq_some_iff.1 h
  rw [returnAfter_append]
  rfl

/-- Text without carriage returns does not end in one. -/
theorem returnAfter_of_forall_ne {s : List Char} (h : ∀ c ∈ s, c ≠ '\r') (ne : s ≠ [])
    (returned : Bool) : returnAfter returned s = false := by
  rw [returnAfter_of_getLast? (List.getLast?_eq_some_getLast ne), beq_eq_false_iff_ne]
  exact h _ (List.getLast_mem ne)

theorem returnAfter_eq_true_iff {s : List Char} :
    returnAfter false s = true ↔ s.getLast? = some '\r' := by
  cases last : s.getLast? with
  | none =>
    rw [List.getLast?_eq_none_iff.1 last]
    simp [returnAfter]
  | some c => simp [returnAfter_of_getLast? last]

theorem isReturned_append (returned : Bool) (a b : List Char) :
    isReturned returned (a ++ b) =
      (isReturned returned a && isReturned (returnAfter returned a) b) := by
  induction a generalizing returned with
  | nil => rfl
  | cons c a ih => rw [List.cons_append, isReturned, isReturned, returnAfter, ih, Bool.and_assoc]

/-- A line is in order whatever stands in front of it. -/
theorem isReturned_flat {s : List Char} (flat : ∀ c ∈ s, c ≠ '\n') (returned : Bool) :
    isReturned returned s = true := by
  induction s generalizing returned with
  | nil => rfl
  | cons c s ih =>
    have hc : (c != '\n') = true := by simpa using flat c (by simp)
    rw [isReturned, hc, Bool.true_or, Bool.true_and]
    exact ih (fun d hd => flat d (by simp [hd])) _

theorem isReturned_eq_true_iff {returned : Bool} {s : List Char} :
    isReturned returned s = true ↔
      ∀ before after, s = before ++ '\n' :: after → returnAfter returned before = true := by
  constructor
  · rintro h before after rfl
    rw [isReturned_append, isReturned] at h
    simp only [Bool.and_eq_true, bne_self_eq_false, Bool.false_or] at h
    exact h.2.1
  · intro h
    induction s generalizing returned with
    | nil => rfl
    | cons c s ih =>
      rw [isReturned, Bool.and_eq_true, Bool.or_eq_true, bne_iff_ne]
      constructor
      · by_cases newline : c = '\n'
        · exact .inr (h [] s (by rw [newline]; rfl))
        · exact .inl newline
      · refine ih ?_
        rintro before after rfl
        exact h (c :: before) after rfl

theorem isReturned_iff {s : List Char} : isReturned false s = true ↔ Returned s := by
  simp only [isReturned_eq_true_iff, returnAfter_eq_true_iff]
  rfl

instance (s : List Char) : Decidable (Returned s) :=
  decidable_of_iff _ isReturned_iff

/-! ## Returns put in -/

/-- The text with a carriage return in front of every line feed. -/
def withReturns (s : List Char) : List Char :=
  s.flatMap fun c => if c = '\n' then ['\r', '\n'] else [c]

@[simp] theorem withReturns_nil : withReturns [] = [] := rfl

@[simp] theorem withReturns_newline (s : List Char) :
    withReturns ('\n' :: s) = '\r' :: '\n' :: withReturns s := rfl

theorem withReturns_cons {c : Char} (h : c ≠ '\n') (s : List Char) :
    withReturns (c :: s) = c :: withReturns s := by
  rw [withReturns, List.flatMap_cons, if_neg h]
  rfl

@[simp] theorem withReturns_append (a b : List Char) :
    withReturns (a ++ b) = withReturns a ++ withReturns b :=
  List.flatMap_append

theorem withReturns_flat {s : List Char} (flat : ∀ c ∈ s, c ≠ '\n') : withReturns s = s := by
  induction s with
  | nil => rfl
  | cons c s ih => rw [withReturns_cons (flat c (by simp)), ih fun d hd => flat d (by simp [hd])]

theorem mem_withReturns {s : List Char} {c : Char} (h : c ∈ s) : c ∈ withReturns s := by
  rw [withReturns, List.mem_flatMap]
  refine ⟨c, h, ?_⟩
  split <;> simp_all

theorem forall_mem_withReturns {p : Char → Prop} {s : List Char} (h : ∀ c ∈ s, p c)
    (both : p '\n' → p '\r') : ∀ c ∈ withReturns s, p c := by
  intro c mem
  obtain ⟨d, hd, hc⟩ := List.mem_flatMap.1 mem
  have pd := h d hd
  split at hc
  · rename_i newline
    subst newline
    rcases List.mem_cons.1 hc with rfl | hc
    · exact both pd
    · rwa [List.mem_singleton.1 hc]
  · rwa [List.mem_singleton.1 hc]

theorem length_le_withReturns (s : List Char) : s.length ≤ (withReturns s).length := by
  induction s with
  | nil => exact Nat.le_refl _
  | cons c s ih =>
    by_cases newline : c = '\n'
    · subst newline
      simp only [withReturns_newline, List.length_cons]
      omega
    · rw [withReturns_cons newline, List.length_cons, List.length_cons]
      omega

theorem withReturns_eq_nil {s : List Char} : withReturns s = [] ↔ s = [] := by
  constructor
  · intro h
    have length := length_le_withReturns s
    rw [h] at length
    exact List.length_eq_zero_iff.1 (Nat.le_zero.1 length)
  · rintro rfl
    rfl

theorem head?_withReturns_ne (s : List Char) : (withReturns s).head? ≠ some '\n' := by
  cases s with
  | nil => simp
  | cons c s =>
    by_cases newline : c = '\n'
    · rw [newline, withReturns_newline]
      simp
    · rw [withReturns_cons newline]
      simpa using newline

/-- Two texts are the same if they are with returns. -/
theorem withReturns_inj {a b : List Char} : withReturns a = withReturns b ↔ a = b := by
  refine ⟨fun h => ?_, congrArg withReturns⟩
  induction a generalizing b with
  | nil => exact (withReturns_eq_nil.1 h.symm).symm
  | cons c a ih =>
    cases b with
    | nil => exact withReturns_eq_nil.1 h
    | cons d b =>
      by_cases feed : c = '\n' <;> by_cases feed' : d = '\n'
      · subst feed feed'
        rw [withReturns_newline, withReturns_newline, List.cons.injEq, List.cons.injEq] at h
        rw [ih h.2.2]
      · subst feed
        rw [withReturns_newline, withReturns_cons feed', List.cons.injEq] at h
        exact absurd (by rw [← h.2]; rfl) (head?_withReturns_ne b)
      · subst feed'
        rw [withReturns_newline, withReturns_cons feed, List.cons.injEq] at h
        exact absurd (by rw [h.2]; rfl) (head?_withReturns_ne a)
      · rw [withReturns_cons feed, withReturns_cons feed', List.cons.injEq] at h
        rw [h.1, ih h.2]

theorem withReturns_intercalate (sep : List Char) (parts : List (List Char)) :
    withReturns (sep.intercalate parts) = (withReturns sep).intercalate (parts.map withReturns) := by
  induction parts with
  | nil => rfl
  | cons part parts ih =>
    cases parts with
    | nil => simp
    | cons second parts =>
      rw [List.intercalate_cons_cons, withReturns_append, withReturns_append, ih, List.map_cons,
        List.map_cons, List.map_cons, List.intercalate_cons_cons]

/-- A place where the text with returns can be split is one where the text can be. -/
theorem exists_of_withReturns_eq_append {s a b : List Char} (h : withReturns s = a ++ b)
    (between : a.getLast? = some '\r' → b.head? = some '\n' → False) :
    ∃ x y, s = x ++ y ∧ withReturns x = a ∧ withReturns y = b := by
  induction s generalizing a with
  | nil =>
    obtain ⟨rfl, rfl⟩ := List.append_eq_nil_iff.1 h.symm
    exact ⟨[], [], rfl, rfl, rfl⟩
  | cons c s ih =>
    cases a with
    | nil => exact ⟨[], c :: s, rfl, rfl, h⟩
    | cons d a =>
      by_cases newline : c = '\n'
      · subst newline
        rw [withReturns_newline, List.cons_append] at h
        obtain ⟨rfl, below⟩ := List.cons.inj h
        cases a with
        | nil =>
          rw [List.nil_append] at below
          exact absurd (by rw [← below]; rfl) (between rfl)
        | cons e a =>
          rw [List.cons_append] at below
          obtain ⟨rfl, behind⟩ := List.cons.inj below
          have later : a.getLast? = some '\r' → b.head? = some '\n' → False := by
            intro last
            refine between ?_
            simp [List.getLast?_cons, last]
          obtain ⟨x, y, rfl, rfl, rfl⟩ := ih behind later
          exact ⟨'\n' :: x, y, rfl, rfl, rfl⟩
      · rw [withReturns_cons newline, List.cons_append] at h
        obtain ⟨rfl, below⟩ := List.cons.inj h
        have later : a.getLast? = some '\r' → b.head? = some '\n' → False := by
          intro last
          refine between ?_
          simp [List.getLast?_cons, last]
        obtain ⟨x, y, rfl, rfl, rfl⟩ := ih below later
        exact ⟨c :: x, y, rfl, withReturns_cons newline x, rfl⟩

/-- Text without line feeds comes from itself only. -/
theorem eq_of_withReturns_flat {s a : List Char} (h : withReturns s = a)
    (flat : ∀ c ∈ a, c ≠ '\n') : s = a := by
  rw [← h, withReturns_flat]
  intro c hc
  exact flat c (h ▸ mem_withReturns hc)

theorem getLast?_withReturns (s : List Char) : (withReturns s).getLast? = s.getLast? := by
  rcases List.eq_nil_or_concat s with rfl | ⟨front, last, rfl⟩
  · rfl
  · rw [List.concat_eq_append, withReturns_append, List.getLast?_concat]
    by_cases newline : last = '\n'
    · rw [newline, withReturns_newline]
      simp
    · rw [withReturns_cons newline]
      simp

section
variable {p : Char → Bool} (same : p '\r' = p '\n')
include same

theorem takeWhile_withReturns (s : List Char) :
    (withReturns s).takeWhile p = withReturns (s.takeWhile p) := by
  induction s with
  | nil => rfl
  | cons c s ih =>
    by_cases newline : c = '\n'
    · subst newline
      cases hp : p '\n' <;> simp [hp, same, ih]
    · rw [withReturns_cons newline]
      cases hp : p c <;> simp [hp, ih, withReturns_cons newline]

theorem dropWhile_withReturns (s : List Char) :
    (withReturns s).dropWhile p = withReturns (s.dropWhile p) := by
  induction s with
  | nil => rfl
  | cons c s ih =>
    by_cases newline : c = '\n'
    · subst newline
      cases hp : p '\n' <;> simp [hp, same, ih]
    · rw [withReturns_cons newline]
      cases hp : p c <;> simp [hp, ih, withReturns_cons newline]

theorem head?_withReturns (s : List Char) :
    (withReturns s).head?.map p = s.head?.map p := by
  cases s with
  | nil => rfl
  | cons c s =>
    by_cases newline : c = '\n'
    · subst newline
      simp [same]
    · simp [withReturns_cons newline]

theorem exists_head_withReturns {s : List Char} :
    (∃ c ∈ (withReturns s).head?, p c = true) ↔ ∃ c ∈ s.head?, p c = true := by
  cases s with
  | nil => rfl
  | cons c s =>
    by_cases newline : c = '\n'
    · subst newline
      simp [same]
    · simp [withReturns_cons newline]

end

end VirtualImports.Text
