import Mathlib.Data.Nat.Digits.Defs
import Mathlib.Data.List.Induction
import AnnotationIndex.Java.Literal

/-!
# Digits

Digits of a base up to sixteen as they are written: figures, and then letters, small or capital. A
row of digits stands for a number, and the number is read back from the row.
-/

namespace AnnotationIndex.Java

def AreDigits (base : Nat) (s : List Char) (values : List Nat) : Prop :=
  s.map (digitValue? base) = values.map some

theorem foldlM_digits {base : Nat} {s : List Char} {values : List Nat}
    (h : AreDigits base s values) (n : Nat) :
    s.foldlM (fun n c => (digitValue? base c).map (n * base + ·)) n =
      some (values.foldl (fun n d => n * base + d) n) := by
  induction s generalizing values n with
  | nil =>
    obtain rfl : values = [] := by simpa [AreDigits] using h.symm
    rfl
  | cons c s ih =>
    cases values with
    | nil => simp [AreDigits] at h
    | cons d values =>
      simp only [AreDigits, List.map_cons, List.cons.injEq] at h
      simp [h.1, ih h.2]

theorem foldl_eq_ofDigits (base : Nat) (values : List Nat) :
    values.foldl (fun n d => n * base + d) 0 = Nat.ofDigits base values.reverse := by
  induction values using List.reverseRecOn with
  | nil => rfl
  | append_singleton values d ih =>
    rw [List.foldl_append, List.reverse_append, List.reverse_singleton, List.singleton_append,
      Nat.ofDigits_cons, ih, List.foldl_cons, List.foldl_nil, Nat.mul_comm, Nat.add_comm]

theorem ofDigits?_eq {base : Nat} {s : List Char} {values : List Nat} (hs : s ≠ [])
    (h : AreDigits base s values) :
    ofDigits? base s = some (Nat.ofDigits base values.reverse) := by
  have hempty : s.isEmpty = false := by simpa using hs
  rw [ofDigits?, hempty, if_neg Bool.false_ne_true, foldlM_digits h, foldl_eq_ofDigits]

theorem AreDigits.length_eq {base : Nat} {s : List Char} {values : List Nat}
    (h : AreDigits base s values) : s.length = values.length := by
  simpa using congrArg List.length h

theorem AreDigits.value {base : Nat} {s : List Char} {values : List Nat}
    (h : AreDigits base s values) {c : Char} (hc : c ∈ s) : ∃ d, digitValue? base c = some d := by
  have hmem : digitValue? base c ∈ values.map some := h ▸ List.mem_map_of_mem hc
  obtain ⟨d, -, hd⟩ := List.mem_map.1 hmem
  exact ⟨d, hd.symm⟩

/-- A digit of a base and how it is written, which matters for letters only. -/
structure Digit (base : Nat) where
  value : Fin base
  capital : Bool := false
  deriving DecidableEq

variable {base : Nat}

def Digit.char (d : Digit base) : Char :=
  if d.capital then (Nat.digitChar d.value).toUpper else Nat.digitChar d.value

def spelling (ds : List (Digit base)) : List Char := ds.map Digit.char

def numberOf (ds : List (Digit base)) : Nat := Nat.ofDigits base (ds.map fun d => d.value.val).reverse

theorem digitValue?_of_hex {c : Char} {v : Nat} (h : digitValue? 16 c = some v) (hv : v < base)
    (hbase : base ≤ 16) : digitValue? base c = some v := by
  simp only [digitValue?] at h ⊢
  grind

theorem digitValue?_char (hbase : base ≤ 16) (d : Digit base) :
    digitValue? base d.char = some d.value.val := by
  have hhex : ∀ v < 16, ∀ capital : Bool,
      digitValue? 16 (if capital then (Nat.digitChar v).toUpper else Nat.digitChar v) = some v := by
    decide
  have hv := d.value.isLt
  exact digitValue?_of_hex (hhex d.value (Nat.lt_of_lt_of_le hv hbase) d.capital) hv hbase

theorem exists_digit (hbase : base ≤ 16) {c : Char} {v : Nat} (h : digitValue? base c = some v) :
    ∃ d : Digit base, c = d.char ∧ d.value.val = v := by
  have hcode : v < base ∧ ((v < 10 ∧ c.toNat = 48 + v) ∨ (10 ≤ v ∧ c.toNat = 87 + v) ∨
      (10 ≤ v ∧ c.toNat = 55 + v)) := by
    have hzero : '0' ≤ c ↔ 48 ≤ c.toNat := UInt32.le_iff_toNat_le
    have hnine : c ≤ '9' ↔ c.toNat ≤ 57 := UInt32.le_iff_toNat_le
    have hsmall : 'a' ≤ c ↔ 97 ≤ c.toNat := UInt32.le_iff_toNat_le
    have hcapital : 'A' ≤ c ↔ 65 ≤ c.toNat := UInt32.le_iff_toNat_le
    have hcode : '0'.toNat = 48 ∧ 'a'.toNat = 97 ∧ 'A'.toNat = 65 := ⟨rfl, rfl, rfl⟩
    simp only [digitValue?, Bool.and_eq_true, decide_eq_true_eq] at h
    grind
  obtain ⟨hv, hcode⟩ := hcode
  have hchar : ∀ v < 16, (v < 10 → Nat.digitChar v = Char.ofNat (48 + v)) ∧
      (10 ≤ v → Nat.digitChar v = Char.ofNat (87 + v) ∧
        (Nat.digitChar v).toUpper = Char.ofNat (55 + v)) := by decide
  obtain ⟨hfigure, hletter⟩ := hchar v (Nat.lt_of_lt_of_le hv hbase)
  rcases hcode with ⟨hten, hc⟩ | ⟨hten, hc⟩ | ⟨hten, hc⟩
  · refine ⟨⟨⟨v, hv⟩, false⟩, ?_, rfl⟩
    change c = Nat.digitChar v
    rw [hfigure hten, ← hc, Char.ofNat_toNat]
  · refine ⟨⟨⟨v, hv⟩, false⟩, ?_, rfl⟩
    change c = Nat.digitChar v
    rw [(hletter hten).1, ← hc, Char.ofNat_toNat]
  · refine ⟨⟨⟨v, hv⟩, true⟩, ?_, rfl⟩
    change c = (Nat.digitChar v).toUpper
    rw [(hletter hten).2, ← hc, Char.ofNat_toNat]

/-- A class of characters holds digits only if it ends below the letter `g` and all of its characters
there are digits. -/
theorem exists_digit_of_class (hbase : base ≤ 16) {p : Char → Bool}
    (hp : ∀ c, p c = true → c ≤ 'f')
    (hall : ∀ n < 128, p (Char.ofNat n) = true → (digitValue? base (Char.ofNat n)).isSome = true)
    {c : Char} (h : p c = true) : ∃ d : Digit base, c = d.char := by
  have hlt : c.toNat < 128 := Nat.lt_of_le_of_lt (UInt32.le_iff_toNat_le.1 (hp c h)) (by decide)
  have hsome := hall c.toNat hlt (by rwa [Char.ofNat_toNat])
  rw [Char.ofNat_toNat] at hsome
  obtain ⟨v, hv⟩ := Option.isSome_iff_exists.1 hsome
  obtain ⟨d, hd, -⟩ := exists_digit hbase hv
  exact ⟨d, hd⟩

theorem exists_spelling {t : List Char} (h : ∀ c ∈ t, ∃ d : Digit base, c = d.char) :
    ∃ ds : List (Digit base), t = spelling ds := by
  induction t with
  | nil => exact ⟨[], rfl⟩
  | cons c t ih =>
    obtain ⟨⟨d, rfl⟩, ht⟩ := List.forall_mem_cons.1 h
    obtain ⟨ds, rfl⟩ := ih ht
    exact ⟨d :: ds, rfl⟩

theorem char_zero {d : Digit base} (h : d.value.val = 0) : d.char = '0' := by
  rw [Digit.char, h]
  cases d.capital <;> rfl

theorem areDigits_spelling (hbase : base ≤ 16) (ds : List (Digit base)) :
    AreDigits base (spelling ds) (ds.map fun d => d.value.val) := by
  simp [AreDigits, spelling, digitValue?_char hbase]

theorem ofDigits?_spelling (hbase : base ≤ 16) {ds : List (Digit base)} (hds : ds ≠ []) :
    ofDigits? base (spelling ds) = some (numberOf ds) :=
  ofDigits?_eq (by simpa [spelling] using hds) (areDigits_spelling hbase ds)

theorem numberOf_concat (ds : List (Digit base)) (d : Digit base) :
    numberOf (ds ++ [d]) = numberOf ds * base + d.value := by
  simp [numberOf, Nat.ofDigits_cons, Nat.mul_comm, Nat.add_comm]

theorem numberOf_lt (hbase : 1 < base) (ds : List (Digit base)) :
    numberOf ds < base ^ ds.length := by
  have hlt := @Nat.ofDigits_lt_base_pow_length base (ds.map fun d => d.value.val).reverse hbase (by
    intro v hv
    obtain ⟨d, -, rfl⟩ := List.mem_map.1 (List.mem_reverse.1 hv)
    exact d.value.isLt)
  simpa [numberOf] using hlt

theorem numberOf_zero_cons {d : Digit base} (hd : d.value.val = 0) (ds : List (Digit base)) :
    numberOf (d :: ds) = numberOf ds := by
  simp [numberOf, hd, Nat.ofDigits_append]

def small (ds : List (Digit base)) : List (Digit base) := ds.map fun d => ⟨d.value, false⟩

theorem numberOf_small (ds : List (Digit base)) : numberOf (small ds) = numberOf ds := by
  simp [numberOf, small, Function.comp_def]

theorem char_ne (hbase : base ≤ 16) (d : Digit base) :
    d.char ≠ '_' ∧ d.char ≠ 'l' ∧ d.char ≠ 'L' := by
  have hvalue := digitValue?_char hbase d
  refine ⟨?_, ?_, ?_⟩
  all_goals
    intro heq
    rw [heq] at hvalue
    simp [digitValue?] at hvalue

theorem toLower_char (hbase : base ≤ 16) (d : Digit base) :
    d.char.toLower = (⟨d.value, false⟩ : Digit base).char := by
  have hlower : ∀ v < 16, ∀ capital : Bool,
      (if capital then (Nat.digitChar v).toUpper else Nat.digitChar v).toLower =
        Nat.digitChar v := by
    decide
  exact hlower d.value (Nat.lt_of_lt_of_le d.value.isLt hbase) d.capital

theorem map_toLower_spelling (hbase : base ≤ 16) (ds : List (Digit base)) :
    (spelling ds).map Char.toLower = spelling (small ds) := by
  simp [spelling, small, toLower_char hbase, Function.comp_def]

theorem ofDigits?_small (hbase : base ≤ 16) {ds : List (Digit base)} (hds : ds ≠ []) :
    ofDigits? base (spelling (small ds)) = some (numberOf ds) := by
  rw [ofDigits?_spelling hbase (by simpa [small] using hds), numberOf_small]

end AnnotationIndex.Java
