import AnnotationIndex.Json.Decoder
import AnnotationIndex.Proofs.Json.Lexical

/-!
# Numbers in JSON documents

Whole numbers are printed as their digits, and these have the number as their value as long as it
fits. For a floating point number this is not so in general: `ReadsBack` says that it is.
-/

namespace AnnotationIndex.Json

open Number

theorem toDigits_isDigit (n : Nat) : ∀ c ∈ Nat.toDigits 10 n, c.isDigit = true :=
  fun _ hc => Nat.isDigit_of_mem_toDigits (by decide) (by decide) hc

private theorem toDigits_head_ne_zero {n : Nat} (hn : 0 < n) :
    (Nat.toDigits 10 n).head? ≠ some '0' := by
  induction n using Nat.strongRecOn with
  | ind n ih =>
    by_cases hlt : n < 10
    · rw [Nat.toDigits_of_lt_base hlt]
      have hdigit : ∀ m < 10, 0 < m → [m.digitChar].head? ≠ some '0' := by decide
      exact hdigit n hlt hn
    · have hlast := ih (n / 10) (by omega) (by omega)
      rw [Nat.toDigits_of_base_le (by decide) (by omega), List.head?_append]
      cases hdigits : Nat.toDigits 10 (n / 10) with
      | nil => exact absurd hdigits Nat.toDigits_ne_nil
      | cons c more => simpa [hdigits] using hlast

theorem toDigits_head {n : Nat} (h : (Nat.toDigits 10 n).head? = some '0') :
    Nat.toDigits 10 n = ['0'] := by
  by_cases hn : n = 0
  · rw [hn, Nat.toDigits_zero]
  · exact absurd h (toDigits_head_ne_zero (by omega))

theorem isNumber_nat (n : Nat) : IsNumber (toString n) := by
  rw [IsNumber, Nat.toString_eq_repr, Nat.toList_repr]
  exact number?_digits Nat.toDigits_ne_nil (toDigits_isDigit n) toDigits_head

private theorem toList_toString_negative (n : Nat) :
    (toString (Int.negSucc n)).toList = '-' :: Nat.toDigits 10 (n + 1) := by
  rw [Int.toString_eq_repr, Int.repr_eq_if]
  simp

theorem isNumber_int (n : Int) : IsNumber (toString n) := by
  cases n with
  | ofNat n => exact isNumber_nat n
  | negSucc n =>
    rw [IsNumber, toList_toString_negative]
    exact number?_minus Nat.toDigits_ne_nil (toDigits_isDigit _) toDigits_head

private theorem gather_digits (significand : Nat) (digits : List Char)
    (h : Nat.ofDigitChars 10 digits significand ≤ significandLimit) :
    gather significand digits = (Nat.ofDigitChars 10 digits significand, digits.length, []) := by
  induction digits generalizing significand with
  | nil => rfl
  | cons c digits ih =>
    rw [Nat.ofDigitChars_cons, Nat.mul_comm 10 significand] at h ⊢
    have hnext : significand * 10 + (c.toNat - 48) ≤ significandLimit := by
      rw [Nat.ofDigitChars_eq_ofDigitChars_zero] at h
      have hpow : 0 < 10 ^ digits.length := Nat.pow_pos (by decide)
      have hle := Nat.le_mul_of_pos_left (significand * 10 + (c.toNat - '0'.toNat)) hpow
      change significand * 10 + (c.toNat - '0'.toNat) ≤ significandLimit
      omega
    have hrest : gather (significand * 10 + (c.toNat - 48)) digits = _ := ih _ h
    simp only [gather, if_pos hnext, hrest]
    rfl

private theorem gather_toDigits {n : Nat} (h : n ≤ significandLimit) :
    gather 0 (Nat.toDigits 10 n) = (n, (Nat.toDigits 10 n).length, []) := by
  have hvalue : Nat.ofDigitChars 10 (Nat.toDigits 10 n) 0 = n := Nat.ofDigitChars_ten_toDigits
  have hgather := gather_digits 0 (Nat.toDigits 10 n) (by rw [hvalue]; exact h)
  rwa [hvalue] at hgather

private theorem numberParts_digits {s : List Char} (h : ∀ c ∈ s, c.isDigit = true) :
    numberParts s = ⟨false, s, none, none⟩ := by
  have hhead : s.head? ≠ some '-' := by
    intro hs
    have hdigit := h '-' (List.mem_of_mem_head? hs)
    simp at hdigit
  simp [numberParts, hhead, takeWhile_isDigit h]

private theorem numberParts_minus {s : List Char} (h : ∀ c ∈ s, c.isDigit = true) :
    numberParts ('-' :: s) = ⟨true, s, none, none⟩ := by
  simp [numberParts, takeWhile_isDigit h]

theorem numberValue?_nat {n : Nat} (h : n ≤ significandLimit) :
    numberValue? (toString n) = some (.whole n) := by
  rw [numberValue?, Nat.toString_eq_repr, Nat.toList_repr, numberParts_digits (toDigits_isDigit n)]
  simp [gather_toDigits h]

theorem numberValue?_negative {n : Nat} (h : n < UInt64.size / 2) :
    numberValue? (toString (Int.negSucc n)) = some (.negative (n + 1)) := by
  have hlimit : n + 1 ≤ significandLimit := by
    simp only [significandLimit, UInt64.size] at h ⊢
    omega
  rw [numberValue?, toList_toString_negative, numberParts_minus (toDigits_isDigit _)]
  simp [gather_toDigits hlimit]
  omega

end AnnotationIndex.Json

namespace AnnotationIndex.Decoder

open Json Number

theorem whole_ofInt {low high n : Int} (hlow : -(UInt64.size / 2 : Nat) ≤ low)
    (hhigh : high ≤ significandLimit) (hn : low ≤ n ∧ n ≤ high) (levels : Nat) :
    whole low high levels (Json.ofInt n) = some n := by
  cases n with
  | ofNat n =>
    have hle : n ≤ significandLimit := by
      have := hn.2
      simp only [Int.ofNat_eq_natCast] at this
      omega
    have hvalue := numberValue?_nat hle
    have hhigh' : (n : Int) ≤ high := hn.2
    change whole low high levels (.number (toString n)) = some (n : Int)
    simp only [whole, hvalue, hhigh', if_true]
  | negSucc n =>
    have hlt : n < UInt64.size / 2 := by
      have := hn.1
      omega
    have hvalue := numberValue?_negative hlt
    have hlow' : low ≤ -((n + 1 : Nat) : Int) := by
      have := hn.1
      omega
    simp only [whole, Json.ofInt, hvalue, hlow', if_true]
    rfl

end AnnotationIndex.Decoder

namespace AnnotationIndex.Json

open Number

/-- The printed number is read back as the same number. -/
def ReadsBack (x : Binary64) : Prop := Decoder.run Decoder.real (ofReal x).compact = some x

instance (x : Binary64) : Decidable (ReadsBack x) := inferInstanceAs (Decidable (_ = _))

private theorem number?_of_value? {fuel : Nat} {s rest : List Char} {text : String}
    (h : value? fuel s = some (.number text, rest)) :
    number? (skipBlanks s) = some (text.toList, rest) := by
  cases fuel with
  | zero => simp [value?] at h
  | succ fuel =>
    simp only [value?] at h
    split at h
    · split at h <;> simp at h
    · split at h
      · simp at h
      · obtain ⟨⟨members, after⟩, -, heq⟩ := Option.map_eq_some_iff.1 h
        simp only [objectOf, Prod.mk.injEq] at heq
        split at heq <;> simp at heq
    · obtain ⟨⟨units, after⟩, -, heq⟩ := Option.map_eq_some_iff.1 h
      simp only [Prod.mk.injEq] at heq
      split at heq <;> simp at heq
    · simp [word?] at h
    · simp [word?] at h
    · simp [word?] at h
    · obtain ⟨⟨spelled, after⟩, hnumber, heq⟩ := Option.map_eq_some_iff.1 h
      simp only [Prod.mk.injEq, number.injEq] at heq
      rw [hnumber, ← heq.1, ← heq.2, String.toList_ofList]

private theorem skipBlanks_eq_self {s : List Char} (h : ∀ c ∈ s, isBlank c = false) :
    skipBlanks s = s := by
  cases s with
  | nil => rfl
  | cons c s => simp [skipBlanks, h c]

private theorem parse?_number {text : String} (h : ∀ c ∈ text.toList, isBlank c = false)
    {spelled : String} (hparse : parse? text = some (.number spelled)) :
    IsNumber text ∧ spelled = text := by
  obtain ⟨⟨j, rest⟩, hvalue, hrest⟩ := Option.bind_eq_some_iff.1 hparse
  change (if (skipBlanks rest).isEmpty then some j else none) = some (.number spelled) at hrest
  split at hrest
  · rename_i hempty
    simp only [Option.some.injEq] at hrest
    subst hrest
    have hnumber := number?_of_value? hvalue
    rw [skipBlanks_eq_self h] at hnumber
    have hleft := number?_left hnumber
    have hblank : ∀ c ∈ rest, isBlank c = false := by
      intro c hc
      exact h c (by rw [hleft]; simp [hc])
    rw [skipBlanks_eq_self hblank, List.isEmpty_iff] at hempty
    rw [hempty, List.append_nil] at hleft
    rw [hempty, ← hleft] at hnumber
    exact ⟨hnumber, (String.toList_inj.1 hleft).symm⟩
  · simp at hrest

private theorem shortest_isDigit (x : Binary64) : ∀ c ∈ x.shortest.digits, c.isDigit = true := by
  intro c hc
  simp only [Binary64.shortest, List.mem_reverse] at hc
  have hmem := (List.dropWhile_sublist _).mem hc
  exact toDigits_isDigit _ c (List.mem_reverse.1 hmem)

private theorem positional_noBlank {d : Digits} (h : ∀ c ∈ d.digits, c.isDigit = true) :
    ∀ c ∈ Binary64.positional d, isBlank c = false := by
  intro c hc
  have hzero : isBlank '0' = false ∧ isBlank '.' = false := by decide
  simp only [Binary64.positional] at hc
  split at hc
  · simp only [List.cons_append, List.mem_cons, List.mem_append, List.mem_replicate] at hc
    rcases hc with rfl | rfl | ⟨-, rfl⟩ | hc
    · exact hzero.1
    · exact hzero.2
    · exact hzero.1
    · exact isBlank_of_isDigit (h c hc)
  · split at hc
    · simp only [List.mem_append, List.mem_replicate, List.mem_cons, List.not_mem_nil,
        or_false] at hc
      rcases hc with (hc | ⟨-, rfl⟩) | rfl | rfl
      · exact isBlank_of_isDigit (h c hc)
      · exact hzero.1
      · exact hzero.2
      · exact hzero.1
    · simp only [List.mem_append, List.mem_cons] at hc
      rcases hc with hc | rfl | hc
      · exact isBlank_of_isDigit (h c (List.mem_of_mem_take hc))
      · exact hzero.2
      · exact isBlank_of_isDigit (h c (List.mem_of_mem_drop hc))

private theorem scientific_noBlank {d : Digits} (h : ∀ c ∈ d.digits, c.isDigit = true) :
    ∀ c ∈ Binary64.scientific d, isBlank c = false := by
  intro c hc
  simp only [Binary64.scientific, List.mem_append, List.mem_cons] at hc
  rcases hc with (hc | hc) | rfl | rfl | hc
  · exact isBlank_of_isDigit (h c (List.mem_of_mem_take hc))
  · split at hc
    · simp at hc
    · rcases List.mem_cons.1 hc with rfl | hc
      · decide
      · exact isBlank_of_isDigit (h c (List.mem_of_mem_drop hc))
  · decide
  · split <;> decide
  · exact isBlank_of_isDigit (toDigits_isDigit _ c hc)

private theorem text_noBlank (x : Binary64) : ∀ c ∈ x.text.toList, isBlank c = false := by
  intro c hc
  have hmagnitude : c = '-' ∨ c ∈ ['0', '.', '0'] ∨ c ∈ Binary64.positional x.shortest ∨
      c ∈ Binary64.scientific x.shortest := by
    simp only [Binary64.text, String.toList_ofList] at hc
    split at hc
    · rcases List.mem_cons.1 hc with hc | hc
      · exact Or.inl hc
      · split at hc
        · exact Or.inr (Or.inl hc)
        · split at hc
          · exact Or.inr (Or.inr (Or.inl hc))
          · exact Or.inr (Or.inr (Or.inr hc))
    · split at hc
      · exact Or.inr (Or.inl hc)
      · split at hc
        · exact Or.inr (Or.inr (Or.inl hc))
        · exact Or.inr (Or.inr (Or.inr hc))
  rcases hmagnitude with rfl | hc | hc | hc
  · decide
  · have hall : ['0', '.', '0'].all (!isBlank ·) = true := by decide
    simpa using List.all_eq_true.1 hall c hc
  · exact positional_noBlank (shortest_isDigit x) c hc
  · exact scientific_noBlank (shortest_isDigit x) c hc

theorem ReadsBack.isNumber {x : Binary64} (h : ReadsBack x) : IsNumber x.text := by
  obtain ⟨j, hparse, hreal⟩ := Option.bind_eq_some_iff.1 h
  have hj : ∃ spelled, j = .number spelled := by
    cases j <;> simp [Decoder.real] at hreal ⊢
  obtain ⟨spelled, rfl⟩ := hj
  exact (parse?_number (text_noBlank x) hparse).1

theorem ReadsBack.real_ofReal {x : Binary64} (h : ReadsBack x) (levels : Nat) :
    Decoder.real levels (ofReal x) = some x := by
  obtain ⟨j, hparse, hreal⟩ := Option.bind_eq_some_iff.1 h
  have hj : ∃ spelled, j = .number spelled := by
    cases j <;> simp [Decoder.real] at hreal ⊢
  obtain ⟨spelled, rfl⟩ := hj
  obtain ⟨-, rfl⟩ := parse?_number (text_noBlank x) hparse
  exact hreal

end AnnotationIndex.Json
