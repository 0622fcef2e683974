import Mathlib.Data.List.Basic
import VirtualImports.Proofs.Configuration.Acceptance
import VirtualImports.Text.Utf8

/-!
Decoding takes bytes for what their text is encoded as.

* `Pending.Leads`: whatever completes a pending character, its bytes so far begin its code;
* `leads_announce?`, `Pending.Leads.step`: a first byte does so, and each byte that may follow keeps
  it;
* `encode_of_decode`: decoded text is encoded as the bytes that it was decoded from.
-/
namespace VirtualImports.Text.Utf8

theorem toNat_ofNat_of_valid {n : Nat} (valid : n < 0xD800 ∨ 0xDFFF < n ∧ n < 0x110000) :
    (Char.ofNat n).val.toNat = n := by
  rw [Char.ofNat, dif_pos valid]
  rfl

theorem ofNat_eq (byte : UInt8) {n : Nat} (h : n = byte.toNat) : UInt8.ofNat n = byte := by
  rw [h, UInt8.ofNat_toNat]

/-- A byte that may follow in a character. -/
def Continues (byte : UInt8) : Prop :=
  0x80 ≤ byte.toNat ∧ byte.toNat ≤ 0xBF

theorem utf8EncodeChar_one {a : UInt8} (high : a.toNat < 0x80) :
    String.utf8EncodeChar (Char.ofNat a.toNat) = [a] := by
  rw [String.utf8EncodeChar, toNat_ofNat_of_valid (.inl (by omega))]
  rw [if_pos (by omega), UInt8.ofNat_toNat]

theorem utf8EncodeChar_two {a b : UInt8} (low : 0xC2 ≤ a.toNat) (high : a.toNat < 0xE0)
    (hb : Continues b) :
    String.utf8EncodeChar (Char.ofNat ((a.toNat - 0xC0) * 64 + (b.toNat - 0x80))) = [a, b] := by
  obtain ⟨lowB, highB⟩ := hb
  rw [String.utf8EncodeChar, toNat_ofNat_of_valid (.inl (by omega))]
  rw [if_neg (by omega), if_pos (by omega), ofNat_eq a (by omega),
    ofNat_eq b (by omega)]

theorem utf8EncodeChar_three {a b c : UInt8} (low : 0xE0 ≤ a.toNat) (high : a.toNat < 0xF0)
    (hb : Continues b) (hc : Continues c) (long : a.toNat = 0xE0 → 0xA0 ≤ b.toNat)
    (scalar : a.toNat = 0xED → b.toNat ≤ 0x9F) :
    String.utf8EncodeChar
      (Char.ofNat (((a.toNat - 0xE0) * 64 + (b.toNat - 0x80)) * 64 + (c.toNat - 0x80))) =
        [a, b, c] := by
  obtain ⟨lowB, highB⟩ := hb
  obtain ⟨lowC, highC⟩ := hc
  rw [String.utf8EncodeChar, toNat_ofNat_of_valid (by omega)]
  rw [if_neg (by omega), if_neg (by omega), if_pos (by omega), ofNat_eq a (by omega),
    ofNat_eq b (by omega), ofNat_eq c (by omega)]

theorem utf8EncodeChar_four {a b c d : UInt8} (low : 0xF0 ≤ a.toNat) (high : a.toNat ≤ 0xF4)
    (hb : Continues b) (hc : Continues c) (hd : Continues d)
    (long : a.toNat = 0xF0 → 0x90 ≤ b.toNat) (scalar : a.toNat = 0xF4 → b.toNat ≤ 0x8F) :
    String.utf8EncodeChar (Char.ofNat ((((a.toNat - 0xF0) * 64 + (b.toNat - 0x80)) * 64 +
      (c.toNat - 0x80)) * 64 + (d.toNat - 0x80))) = [a, b, c, d] := by
  obtain ⟨lowB, highB⟩ := hb
  obtain ⟨lowC, highC⟩ := hc
  obtain ⟨lowD, highD⟩ := hd
  rw [String.utf8EncodeChar, toNat_ofNat_of_valid (by omega)]
  rw [if_neg (by omega), if_neg (by omega), if_neg (by omega), ofNat_eq a (by omega),
    ofNat_eq b (by omega), ofNat_eq c (by omega),
    ofNat_eq d (by omega)]

/-! ## Pending characters -/

/-- The number that bits and the bytes behind them make. -/
def bitsWith (bits : Nat) (tail : List UInt8) : Nat :=
  tail.foldl (fun bits byte => bits * 64 + (byte.toNat - 0x80)) bits

theorem bitsWith_cons (bits : Nat) (byte : UInt8) (tail : List UInt8) :
    bitsWith bits (byte :: tail) = bitsWith (bits * 64 + (byte.toNat - 0x80)) tail :=
  List.foldl_cons ..

/-- As many bytes as are to come, the first in its range. -/
structure Pending.Completes (pending : Pending) (tail : List UInt8) : Prop where
  length : tail.length = pending.remaining
  first : ∀ byte ∈ tail.head?, pending.low ≤ byte ∧ byte ≤ pending.high
  later : ∀ byte ∈ tail.tail, Continues byte

structure Pending.Leads (pending : Pending) (done : List UInt8) : Prop where
  due : 1 ≤ pending.remaining
  code : ∀ tail, pending.Completes tail →
    String.utf8EncodeChar (Char.ofNat (bitsWith pending.bits tail)) = done ++ tail

theorem Continues.of_range {low high byte : UInt8} (from_ : 0x80 ≤ low.toNat)
    (to_ : high.toNat ≤ 0xBF) (range : low ≤ byte ∧ byte ≤ high) : Continues byte := by
  have least := UInt8.le_iff_toNat_le.1 range.1
  have most := UInt8.le_iff_toNat_le.1 range.2
  exact ⟨by omega, by omega⟩

section Announcing

variable {lead low high : UInt8} {start : Nat}

theorem leads_two (least : 0xC2 ≤ lead.toNat) (most : lead.toNat < 0xE0) :
    Pending.Leads ⟨lead, start, lead.toNat - 0xC0, 1, 0x80, 0xBF⟩ [lead] where
  due := Nat.le_refl 1
  code := by
    rintro tail ⟨length, first, -⟩
    obtain ⟨b, rfl⟩ := List.length_eq_one_iff.1 length
    have range : (0x80 : UInt8) ≤ b ∧ b ≤ 0xBF := first b rfl
    exact utf8EncodeChar_two least most (.of_range (by decide) (by decide) range)

theorem leads_three (least : 0xE0 ≤ lead.toNat) (most : lead.toNat < 0xF0)
    (from_ : 0x80 ≤ low.toNat) (to_ : high.toNat ≤ 0xBF)
    (long : lead.toNat = 0xE0 → 0xA0 ≤ low.toNat) (scalar : lead.toNat = 0xED → high.toNat ≤ 0x9F) :
    Pending.Leads ⟨lead, start, lead.toNat - 0xE0, 2, low, high⟩ [lead] where
  due := Nat.le_add_left 1 _
  code := by
    rintro tail ⟨length, first, later⟩
    obtain ⟨b, c, rfl⟩ := List.length_eq_two.1 length
    have range := first b rfl
    have lowB : low.toNat ≤ b.toNat := UInt8.le_iff_toNat_le.1 range.1
    have highB : b.toNat ≤ high.toNat := UInt8.le_iff_toNat_le.1 range.2
    exact utf8EncodeChar_three least most (.of_range from_ to_ range) (later c (by simp))
      (fun same => Nat.le_trans (long same) lowB) fun same => Nat.le_trans highB (scalar same)

theorem leads_four (least : 0xF0 ≤ lead.toNat) (most : lead.toNat ≤ 0xF4)
    (from_ : 0x80 ≤ low.toNat) (to_ : high.toNat ≤ 0xBF)
    (long : lead.toNat = 0xF0 → 0x90 ≤ low.toNat) (scalar : lead.toNat = 0xF4 → high.toNat ≤ 0x8F) :
    Pending.Leads ⟨lead, start, lead.toNat - 0xF0, 3, low, high⟩ [lead] where
  due := Nat.le_add_left 1 _
  code := by
    rintro tail ⟨length, first, later⟩
    obtain ⟨b, c, d, rfl⟩ := List.length_eq_three.1 length
    have range := first b rfl
    have lowB : low.toNat ≤ b.toNat := UInt8.le_iff_toNat_le.1 range.1
    have highB : b.toNat ≤ high.toNat := UInt8.le_iff_toNat_le.1 range.2
    exact utf8EncodeChar_four least most (.of_range from_ to_ range) (later c (by simp))
      (later d (by simp)) (fun same => Nat.le_trans (long same) lowB)
      fun same => Nat.le_trans highB (scalar same)

end Announcing

theorem leads_announce? {byte : UInt8} {position : Nat} {pending : Pending}
    (h : announce? byte position = some pending) : pending.Leads [byte] := by
  have numbers : (0xC2 : UInt8).toNat = 0xC2 ∧ (0xE0 : UInt8).toNat = 0xE0 ∧
      (0xED : UInt8).toNat = 0xED ∧ (0xF0 : UInt8).toNat = 0xF0 ∧ (0xF4 : UInt8).toNat = 0xF4 := by
    decide
  obtain ⟨two, three, surrogate, four, last⟩ := numbers
  have bits {n : Nat} (same : byte.toNat = n) : 0 = byte.toNat - n := by omega
  simp only [announce?, UInt8.lt_iff_toNat_lt, ← UInt8.toNat_inj, two, three, surrogate, four,
    last] at h
  split at h
  · cases h
  split at h
  · cases h
    exact leads_two (by omega) (by omega)
  split at h
  · rename_i same
    cases h
    rw [bits same]
    exact leads_three (by omega) (by omega) (by decide) (by decide) (fun _ => by decide) (by omega)
  split at h
  · rename_i same
    cases h
    have surrogates : 0xD = byte.toNat - 0xE0 := by omega
    rw [surrogates]
    exact leads_three (by omega) (by omega) (by decide) (by decide) (by omega) fun _ => by decide
  split at h
  · cases h
    exact leads_three (by omega) (by omega) (by decide) (by decide) (by omega) (by omega)
  split at h
  · rename_i same
    cases h
    rw [bits same]
    exact leads_four (by omega) (by omega) (by decide) (by decide) (fun _ => by decide) (by omega)
  split at h
  · cases h
    exact leads_four (by omega) (by omega) (by decide) (by decide) (by omega) (by omega)
  split at h
  · rename_i same
    cases h
    have most : 4 = byte.toNat - 0xF0 := by omega
    rw [most]
    exact leads_four (by omega) (by omega) (by decide) (by decide) (by omega) fun _ => by decide
  · cases h

/-- A byte in its range leaves a character that is led by one byte more, or completes it. -/
theorem Pending.Leads.step {pending : Pending} {done : List UInt8} (h : pending.Leads done)
    {byte : UInt8} (range : pending.low ≤ byte ∧ byte ≤ pending.high)
    (more : ¬ pending.remaining ≤ 1) :
    Pending.Leads { pending with bits := pending.bits * 64 + (byte.toNat - 0x80),
                                 remaining := pending.remaining - 1, low := 0x80, high := 0xBF }
      (done ++ [byte]) where
  due := by
    dsimp only
    omega
  code := by
    rintro tail ⟨length, first, later⟩
    dsimp only at length
    rw [List.append_assoc, ← bitsWith_cons, List.singleton_append]
    refine h.code (byte :: tail) ⟨?_, ?_, ?_⟩
    · rw [List.length_cons, length]
      omega
    · rintro _ ⟨⟩
      exact range
    · intro next mem
      cases tail with
      | nil => cases mem
      | cons second tail =>
        rcases List.mem_cons.1 mem with rfl | mem
        · have range : (0x80 : UInt8) ≤ next ∧ next ≤ 0xBF := first next rfl
          exact .of_range (by decide) (by decide) range
        · exact later next mem

theorem Pending.Leads.finish {pending : Pending} {done : List UInt8} (h : pending.Leads done)
    {byte : UInt8} (range : pending.low ≤ byte ∧ byte ≤ pending.high)
    (last : pending.remaining ≤ 1) :
    String.utf8EncodeChar (Char.ofNat (pending.bits * 64 + (byte.toNat - 0x80))) = done ++ [byte] := by
  have due := h.due
  refine h.code [byte] ⟨?_, ?_, ?_⟩
  · rw [List.length_singleton]
    omega
  · rintro _ ⟨⟩
    exact range
  · simp

/-! ## Texts -/

theorem encode_cons (c : Char) (text : List Char) :
    encode (c :: text) = String.utf8EncodeChar c ++ encode text :=
  List.flatMap_cons

/-- What has been read of the bytes is the code of the text so far and the bytes of the pending
character. -/
theorem encode_of_decodeFrom {position : Nat} {bytes : List UInt8} {text : List Char} :
    (∀ pending done, pending.Leads done →
      decodeFrom position (some pending) bytes = .ok text → encode text = done ++ bytes) ∧
    (decodeFrom position none bytes = .ok text → encode text = bytes) := by
  induction bytes generalizing position text with
  | nil =>
    refine ⟨nofun, fun decoded => ?_⟩
    cases decoded
    rfl
  | cons byte rest ih =>
    refine ⟨fun pending done leads decoded => ?_, fun decoded => ?_⟩
    · rw [decodeFrom] at decoded
      split at decoded
      · rename_i range
        rw [Bool.and_eq_true, decide_eq_true_iff, decide_eq_true_iff] at range
        dsimp only at decoded
        split at decoded
        · rename_i last
          obtain ⟨later, found, rfl⟩ := Except.map_eq_ok.1 decoded
          rw [encode_cons, leads.finish range last, ih.2 found, List.append_assoc]
          rfl
        · rename_i more
          rw [ih.1 _ _ (leads.step range more) decoded, List.append_assoc]
          rfl
      · cases decoded
    · rw [decodeFrom] at decoded
      split at decoded
      · rename_i one
        obtain ⟨later, found, rfl⟩ := Except.map_eq_ok.1 decoded
        rw [encode_cons, utf8EncodeChar_one (UInt8.lt_iff_toNat_lt.1 one), ih.2 found]
        rfl
      · split at decoded
        · rename_i pending announced
          exact ih.1 _ _ (leads_announce? announced) decoded
        · cases decoded

/-- **Decoded text is encoded as it was.** -/
theorem encode_of_decode {bytes : List UInt8} {text : List Char} (h : decode bytes = .ok text) :
    encode text = bytes :=
  encode_of_decodeFrom.2 h

end VirtualImports.Text.Utf8
