import Mathlib.Tactic.NormNum
import AnnotationIndex.Proofs.Java.Digits
import AnnotationIndex.Proofs.Java.Marks
import AnnotationIndex.Proofs.Text.Pieces

/-!
# Integer literals

An integer is written in one of five notations, with underscores between its digits and with or
without a suffix. Every token that is an integer is such a literal. A decimal literal is read as its
number if that is below `2 ^ 63`. The others may use all 64 bits of a word, the highest bit as the
sign; but octal digits after a zero and a letter are not read as a number.
-/

namespace AnnotationIndex.Java

open Text

/-- How an integer is written. -/
inductive Radix where
  | decimal
  /-- Octal digits of which the first one is a zero. -/
  | octal
  /-- Octal digits after a zero and a letter. -/
  | markedOctal
  | hexadecimal
  | binary
  deriving DecidableEq

namespace Radix

def base : Radix → Nat
  | decimal => 10
  | octal => 8
  | markedOctal => 8
  | hexadecimal => 16
  | binary => 2

def marks : Radix → List Char
  | decimal => []
  | octal => []
  | markedOctal => ['o', 'O']
  | hexadecimal => ['x', 'X']
  | binary => ['b', 'B']

/-- What a number in this notation is read as. Decimal numbers must be below `2 ^ 63`; the others may
use all 64 bits of a word, the highest one as the sign. -/
def word? : Radix → Nat → Option Int
  | decimal, n => if n < 2 ^ 63 then some n else none
  | markedOctal, _ => none
  | _, n => if n < 2 ^ 63 then some n else if n < 2 ^ 64 then some ((n : Int) - 2 ^ 64) else none

end Radix

variable {base : Nat}

/-- The text is the digits with any underscores between them. -/
structure Groups (ds : List (Digit base)) (s : List Char) : Prop where
  digits : s.filter (· != '_') = spelling ds
  first : s.head? ≠ some '_'
  last : s.getLast? ≠ some '_'

/-- The text writes a number, without a suffix. -/
inductive IsNumeral : Radix → Nat → List Char → Prop
  | decimal {d : Digit 10} {ds : List (Digit 10)} {s : List Char} (h : Groups (d :: ds) s)
      (hzero : d.value = 0 → ds = []) : IsNumeral .decimal (numberOf (d :: ds)) s
  | octal {d : Digit 8} {ds : List (Digit 8)} {s : List Char} (h : Groups (d :: ds) s)
      (hzero : d.value = 0) (hds : ds ≠ []) : IsNumeral .octal (numberOf (d :: ds)) s
  | marked {radix : Radix} {mark : Char} (hmark : mark ∈ radix.marks)
      {ds : List (Digit radix.base)} (hds : ds ≠ []) {s : List Char} (h : Groups ds s) :
      IsNumeral radix (numberOf ds) ('0' :: mark :: s)

/-- The text is a literal of a number. -/
def IsIntegerLiteral (radix : Radix) (n : Nat) (text : List Char) : Prop :=
  ∃ s, ∃ suffix ∈ [[], ['l'], ['L']], IsNumeral radix n s ∧ text = s ++ suffix

theorem dropEndWhile_suffix {s suffix : List Char} (h : suffix ∈ [[], ['l'], ['L']])
    (hs : ∀ c, s.getLast? = some c → (c == 'l' || c == 'L') = false) :
    dropEndWhile (fun c => c == 'l' || c == 'L') (s ++ suffix) = s := by
  simp only [List.mem_cons, List.not_mem_nil, or_false] at h
  rcases h with rfl | rfl | rfl
  · rw [List.append_nil, dropEndWhile_of_last hs]
  · rw [dropEndWhile_append (by decide), dropEndWhile_of_last hs]
  · rw [dropEndWhile_append (by decide), dropEndWhile_of_last hs]

theorem Groups.endsInNoSuffix (hbase : base ≤ 16) {ds : List (Digit base)} {s : List Char}
    (h : Groups ds s) {c : Char} (hc : s.getLast? = some c) : (c == 'l' || c == 'L') = false := by
  have hne : c ≠ '_' := fun heq => h.last (heq ▸ hc)
  have hmem : c ∈ s.filter (· != '_') :=
    List.mem_filter.2 ⟨List.mem_of_getLast? hc, by simpa using hne⟩
  rw [h.digits] at hmem
  obtain ⟨d, -, rfl⟩ := List.mem_map.1 hmem
  obtain ⟨-, hsmall, hcapital⟩ := char_ne hbase d
  simp [hsmall, hcapital]

theorem Groups.plain (hbase : base ≤ 16) {ds : List (Digit base)} (hds : ds ≠ [])
    {s suffix : List Char} (h : Groups ds s) (hsuffix : suffix ∈ [[], ['l'], ['L']])
    (front : List Char) : plainText (front ++ s ++ suffix) =
      (front.filter (· != '_')).map Char.toLower ++ spelling (small ds) := by
  have hs : s ≠ [] := by
    rintro rfl
    exact hds (by simpa [spelling] using h.digits.symm)
  have hlast : ∀ c, (front ++ s).getLast? = some c → (c == 'l' || c == 'L') = false := by
    intro c hc
    refine h.endsInNoSuffix hbase ?_
    rwa [List.getLast?_append, List.getLast?_eq_some_getLast hs, Option.some_or,
      ← List.getLast?_eq_some_getLast hs] at hc
  rw [plainText, dropEndWhile_suffix hsuffix hlast, List.filter_append, List.map_append, h.digits,
    map_toLower_spelling hbase]

theorem toInt_ofInt_small {n : Nat} (h : n < 2 ^ 63) : (Int64.ofInt n).toInt = n := by
  rw [Int64.toInt_ofInt_of_le]
  · norm_num
  · norm_num
    omega

theorem toInt_ofInt_large {n : Nat} (hlow : ¬n < 2 ^ 63) (hhigh : n < 2 ^ 64) :
    (Int64.ofInt n).toInt = (n : Int) - 2 ^ 64 := by
  have hwrap : Int64.ofInt n = Int64.ofInt (n - 2 ^ 64) := by
    rw [Int64.ofInt_sub]
    simp
  rw [hwrap, Int64.toInt_ofInt_of_le]
  · norm_num
    omega
  · norm_num
    omega

theorem map_toInt_wordOf? (n : Nat) : (wordOf? n).map Int64.toInt =
    if n < 2 ^ 63 then some (n : Int) else if n < 2 ^ 64 then some ((n : Int) - 2 ^ 64) else none := by
  have hsize : UInt64.size = 2 ^ 64 := rfl
  rw [wordOf?, hsize]
  by_cases hword : n < 2 ^ 64
  · rw [if_pos hword, Option.map_some]
    by_cases hsign : n < 2 ^ 63
    · rw [if_pos hsign, toInt_ofInt_small hsign]
    · rw [if_neg hsign, if_pos hword, toInt_ofInt_large hsign hword]
  · rw [if_neg hword, if_neg hword, if_neg (by omega)]
    rfl

section Reading

variable {t : List Char}

theorem integerValue?_hexadecimal {rest : List Char} (h : plainText t = '0' :: 'x' :: rest) :
    integerValue? t = (ofDigits? 16 rest).bind wordOf? := by
  simp only [integerValue?, h]

theorem integerValue?_binary {rest : List Char} (h : plainText t = '0' :: 'b' :: rest) :
    integerValue? t = (ofDigits? 2 rest).bind wordOf? := by
  simp only [integerValue?, h]

theorem integerValue?_octal {c : Char} {rest : List Char} (h : plainText t = '0' :: c :: rest)
    (hx : c ≠ 'x') (hb : c ≠ 'b') :
    integerValue? t = (ofDigits? 8 (c :: rest)).bind wordOf? := by
  simp only [integerValue?, h]

theorem integerValue?_decimal (h : ∀ c rest, plainText t ≠ '0' :: c :: rest) :
    integerValue? t = (ofDigits? 10 (plainText t)).bind fun n =>
      if n < 2 ^ 63 then some (Int64.ofInt n) else none := by
  rw [integerValue?]
  split
  · rename_i rest heq
    exact absurd heq (h 'x' rest)
  · rename_i rest heq
    exact absurd heq (h 'b' rest)
  · rename_i c rest _ _ heq
    exact absurd heq (h c rest)
  · rfl

end Reading

theorem map_toInt_decimal {d : Digit 10} {ds : List (Digit 10)} {s suffix : List Char}
    (h : Groups (d :: ds) s) (hzero : d.value = 0 → ds = []) (hsuffix : suffix ∈ [[], ['l'], ['L']]) :
    (integerValue? (s ++ suffix)).map Int64.toInt = Radix.decimal.word? (numberOf (d :: ds)) := by
  have hplain : plainText (s ++ suffix) = spelling (small (d :: ds)) :=
    h.plain (by decide) (List.cons_ne_nil d ds) hsuffix []
  have hdigits := @ofDigits?_small 10 (by decide) _ (List.cons_ne_nil d ds)
  have hfirst : ∀ c rest, plainText (s ++ suffix) ≠ '0' :: c :: rest := by
    intro c rest heq
    obtain ⟨hd, hds⟩ := List.cons.inj (hplain.symm.trans heq)
    have hvalue : some d.value.val = some 0 := by
      rw [← digitValue?_char (by decide) (⟨d.value, false⟩ : Digit 10), hd]
      rfl
    rw [hzero (Fin.ext (Option.some.inj hvalue))] at hds
    cases hds
  rw [integerValue?_decimal hfirst, hplain, hdigits, Option.bind_some, Radix.word?]
  split
  · rename_i hsmall
    rw [Option.map_some, toInt_ofInt_small hsmall]
  · rfl

theorem map_toInt_octal {d : Digit 8} {ds : List (Digit 8)} {s suffix : List Char}
    (h : Groups (d :: ds) s) (hzero : d.value = 0) (hds : ds ≠ [])
    (hsuffix : suffix ∈ [[], ['l'], ['L']]) :
    (integerValue? (s ++ suffix)).map Int64.toInt = Radix.octal.word? (numberOf (d :: ds)) := by
  have hplain : plainText (s ++ suffix) = '0' :: spelling (small ds) := by
    have hfirst : (⟨d.value, false⟩ : Digit 8).char = '0' := by
      rw [hzero]
      rfl
    rw [← hfirst]
    exact h.plain (by decide) (List.cons_ne_nil d ds) hsuffix []
  have hdigits := @ofDigits?_small 8 (by decide) _ hds
  obtain ⟨e, more, rfl⟩ := List.exists_cons_of_ne_nil hds
  have hvalue := digitValue?_char (by decide) (⟨e.value, false⟩ : Digit 8)
  have hmark : ∀ c, digitValue? 8 c = none → (⟨e.value, false⟩ : Digit 8).char ≠ c := by
    rintro c hc rfl
    rw [hvalue] at hc
    cases hc
  rw [integerValue?_octal hplain (hmark 'x' rfl) (hmark 'b' rfl),
    numberOf_zero_cons (congrArg Fin.val hzero)]
  exact (congrArg (fun n => (n.bind wordOf?).map Int64.toInt) hdigits).trans (map_toInt_wordOf? _)

theorem ofDigits?_letter (rest : List Char) : ofDigits? 8 ('o' :: rest) = none := rfl

theorem map_toInt_marked {radix : Radix} {mark : Char} (hmark : mark ∈ radix.marks)
    {ds : List (Digit radix.base)} (hds : ds ≠ []) {s suffix : List Char} (h : Groups ds s)
    (hsuffix : suffix ∈ [[], ['l'], ['L']]) :
    (integerValue? ('0' :: mark :: s ++ suffix)).map Int64.toInt = radix.word? (numberOf ds) := by
  have hbase : radix.base ≤ 16 := by cases radix <;> decide
  have hdigits := ofDigits?_small hbase hds
  have hplain : plainText ('0' :: mark :: s ++ suffix) =
      '0' :: mark.toLower :: spelling (small ds) := by
    have hne : mark ≠ '_' := by
      rintro rfl
      cases radix <;> simp [Radix.marks] at hmark
    refine (h.plain hbase hds hsuffix ['0', mark]).trans ?_
    simp [hne]
  cases radix with
  | decimal => cases hmark
  | octal => cases hmark
  | markedOctal =>
    have hletter : ∀ c ∈ Radix.markedOctal.marks, c.toLower = 'o' := by simp [Radix.marks]
    rw [hletter mark hmark] at hplain
    rw [integerValue?_octal hplain (by decide) (by decide), ofDigits?_letter]
    rfl
  | hexadecimal =>
    have hletter : ∀ c ∈ Radix.hexadecimal.marks, c.toLower = 'x' := by simp [Radix.marks]
    rw [hletter mark hmark] at hplain
    rw [integerValue?_hexadecimal hplain]
    exact (congrArg (fun n => (n.bind wordOf?).map Int64.toInt) hdigits).trans (map_toInt_wordOf? _)
  | binary =>
    have hletter : ∀ c ∈ Radix.binary.marks, c.toLower = 'b' := by simp [Radix.marks]
    rw [hletter mark hmark] at hplain
    rw [integerValue?_binary hplain]
    exact (congrArg (fun n => (n.bind wordOf?).map Int64.toInt) hdigits).trans (map_toInt_wordOf? _)

/-- A literal is read as the word that its number gives in its notation. -/
theorem IsIntegerLiteral.map_toInt {radix : Radix} {n : Nat} {t : List Char}
    (h : IsIntegerLiteral radix n t) : (integerValue? t).map Int64.toInt = radix.word? n := by
  obtain ⟨s, suffix, hsuffix, hs, rfl⟩ := h
  cases hs with
  | decimal h hzero => exact map_toInt_decimal h hzero hsuffix
  | octal h hzero hds => exact map_toInt_octal h hzero hds hsuffix
  | marked hmark hds h => exact map_toInt_marked hmark hds h hsuffix

open Matcher

theorem exists_decimalDigit {c : Char} (h : c.isDigit = true) : ∃ d : Digit 10, c = d.char := by
  refine exists_digit_of_class (by decide) ?_ (by decide) h
  intro c hc
  simp only [Char.isDigit, Bool.and_eq_true, decide_eq_true_eq] at hc
  exact Char.le_trans hc.2 (by decide)

theorem exists_octalDigit {c : Char} (h : isOctalDigit c = true) : ∃ d : Digit 8, c = d.char := by
  refine exists_digit_of_class (by decide) ?_ (by decide) h
  intro c hc
  simp only [isOctalDigit, Bool.and_eq_true, decide_eq_true_eq] at hc
  exact Char.le_trans hc.2 (by decide)

theorem exists_hexDigit {c : Char} (h : isHexDigit c = true) : ∃ d : Digit 16, c = d.char := by
  refine exists_digit_of_class (by decide) ?_ (by decide) h
  intro c hc
  simp only [isHexDigit, Char.isDigit, Bool.or_eq_true, Bool.and_eq_true, decide_eq_true_eq] at hc
  rcases hc with (hc | hc) | hc
  · exact Char.le_trans hc.2 (by decide)
  · exact hc.2
  · exact Char.le_trans hc.2 (by decide)

theorem exists_binaryDigit {c : Char} (h : (c == '0' || c == '1') = true) :
    ∃ d : Digit 2, c = d.char := by
  rcases Bool.or_eq_true_iff.1 h with h | h
  · exact ⟨⟨0, false⟩, beq_iff_eq.1 h⟩
  · exact ⟨⟨1, false⟩, beq_iff_eq.1 h⟩

theorem groups_cons (hbase : base ≤ 16) (d : Digit base) {ds : List (Digit base)} {s : List Char}
    (hdigits : s.filter (· != '_') = spelling ds) (hlast : s.getLast? ≠ some '_') :
    Groups (d :: ds) (d.char :: s) := by
  have hd : d.char ≠ '_' := (char_ne hbase d).1
  refine ⟨?_, by simpa using hd, ?_⟩
  · simp [hd, hdigits, spelling]
  · cases s with
    | nil => simpa using hd
    | cons c s => rwa [List.getLast?_cons_cons]

theorem exists_groups (hbase : base ≤ 16) (d : Digit base) {s : List Char}
    (hall : ∀ c ∈ s, (∃ d : Digit base, c = d.char) ∨ c = '_') (hlast : s.getLast? ≠ some '_') :
    ∃ ds : List (Digit base), Groups (d :: ds) (d.char :: s) := by
  have hdigits : ∀ c ∈ s.filter (· != '_'), ∃ d : Digit base, c = d.char := by
    intro c hc
    obtain ⟨hmem, hne⟩ := List.mem_filter.1 hc
    exact (hall c hmem).resolve_right (by simpa using hne)
  obtain ⟨ds, hds⟩ := exists_spelling hdigits
  exact ⟨ds, groups_cons hbase d hds hlast⟩

theorem singleGroups_getLast? (s : List Char) : (singleGroups s).getLast? ≠ some '_' := by
  fun_induction singleGroups s with
  | case1 c rest hc => simp
  | case2 c rest hc ih =>
    cases hrest : singleGroups rest with
    | nil => simpa using hc
    | cons d more => simpa [hrest] using ih
  | case3 => simp
  | case4 c rest hnext hone ih =>
    have hc : c ≠ '_' := by
      rintro rfl
      cases rest with
      | nil => exact hone rfl rfl
      | cons d rest => exact hnext d rest rfl rfl
    cases hrest : singleGroups rest with
    | nil => simpa using hc
    | cons d more => simpa [hrest] using ih
  | case5 => simp

theorem getLast?_tail {c : Char} {s : List Char} (h : (c :: s).getLast? ≠ some '_') :
    s.getLast? ≠ some '_' := by
  cases s with
  | nil => simp
  | cons d s => rwa [List.getLast?_cons_cons] at h

theorem groups_of_digitGroups (hbase : base ≤ 16) {p : Char → Bool}
    (hp : ∀ c, p c = true → ∃ d : Digit base, c = d.char) {s t : List Char}
    (h : digitGroups p s = some t) : ∃ d, ∃ ds : List (Digit base), Groups (d :: ds) t := by
  have hall := (takes_digitGroups s t h).2
  cases s with
  | nil => cases h
  | cons c s =>
    simp only [digitGroups] at h
    split at h
    · rename_i hc
      obtain ⟨d, rfl⟩ := hp c hc
      have hd : d.char ≠ '_' := (char_ne hbase d).1
      have htake : (d.char :: s).takeWhile (fun c => p c || c == '_') =
          d.char :: s.takeWhile fun c => p c || c == '_' := by simp [hc]
      have hfirst : t = d.char :: singleGroups (s.takeWhile fun c => p c || c == '_') := by
        rw [← Option.some.inj h, htake]
        rw [singleGroups.eq_3]
        all_goals simp [hd]
      have hlast : t.getLast? ≠ some '_' := Option.some.inj h ▸ singleGroups_getLast? _
      subst hfirst
      refine ⟨d, exists_groups hbase d ?_ (getLast?_tail hlast)⟩
      intro c hc
      rcases Bool.or_eq_true_iff.1 (hall c (List.mem_cons_of_mem _ hc)) with hc | hc
      · exact .inl (hp c hc)
      · exact .inr (beq_iff_eq.1 hc)
    · cases h

theorem getLast?_dropEnd (p : Char → Bool) (s : List Char) {c : Char}
    (h : (s.reverse.dropWhile p).reverse.getLast? = some c) : p c = false := by
  rw [List.getLast?_reverse] at h
  have hnot := List.head?_dropWhile_not p s.reverse
  rw [h] at hnot
  exact hnot

/-- A decimal number begins with a zero only if it is zero. -/
theorem groups_of_decimalDigits {s t : List Char} (h : decimalDigits s = some t) :
    ∃ (d : Digit 10) (ds : List (Digit 10)), Groups (d :: ds) t ∧ (d.value = 0 → ds = []) := by
  have hall := (takes_decimalDigits s t h).2
  unfold decimalDigits at h
  split at h
  · cases h
    exact ⟨⟨0, false⟩, [], groups_cons (by decide) ⟨0, false⟩ rfl (by simp), fun _ => rfl⟩
  · rename_i c rest hzero
    split at h
    · rename_i hc
      obtain ⟨d, rfl⟩ := exists_decimalDigit hc
      have hd : d.value ≠ 0 := fun hd => hzero (char_zero (congrArg Fin.val hd))
      split at h
      · cases h
        exact ⟨d, [], groups_cons (by decide) d rfl (by simp), fun _ => rfl⟩
      · cases h
        obtain ⟨ds, hds⟩ := exists_groups (by decide) d (fun c hc =>
          (Bool.or_eq_true_iff.1 (hall c (List.mem_cons_of_mem _ hc))).imp exists_decimalDigit
            beq_iff_eq.1) (fun hlast => absurd (getLast?_dropEnd (· == '_') _ hlast) (by decide))
        exact ⟨d, ds, hds, fun hzero => absurd hzero hd⟩
    · cases h
  · cases h

theorem mem_suffixes {s t : List Char}
    (h : optional (one fun c => c == 'l' || c == 'L') s = some t) : t ∈ [[], ['l'], ['L']] := by
  rcases optional_eq_some h with rfl | hone
  · exact List.mem_cons_self
  · obtain ⟨c, _, -, hc, rfl⟩ := one_eq_some hone
    simpa using hc

theorem literal_of_marked {radix : Radix} {mark digit : Char → Bool}
    (hmark : ∀ c, mark c = true → c ∈ radix.marks)
    (hdigit : ∀ c, digit c = true → ∃ d : Digit radix.base, c = d.char) {s t : List Char}
    (h : (one (· == '0')).andThen ((one mark).andThen
      ((digitGroups digit).andThen longSuffix)) s = some t) :
    ∃ n, IsIntegerLiteral radix n t := by
  have hbase : radix.base ≤ 16 := by cases radix <;> decide
  obtain ⟨_, _, hzero, hrest, rfl⟩ := andThen_eq_some h
  obtain ⟨_, _, hletter, hmore, rfl⟩ := andThen_eq_some hrest
  obtain ⟨e, f, hgroups, hsuffix, rfl⟩ := andThen_eq_some hmore
  obtain ⟨x, _, -, hx, rfl⟩ := one_eq_some hzero
  obtain ⟨y, _, -, hy, rfl⟩ := one_eq_some hletter
  obtain ⟨d, ds, hds⟩ := groups_of_digitGroups hbase hdigit hgroups
  obtain rfl : x = '0' := beq_iff_eq.1 hx
  exact ⟨_, _, f, mem_suffixes hsuffix, .marked (hmark y hy) (List.cons_ne_nil d ds) hds, rfl⟩

theorem literal_of_octal {s t : List Char}
    (h : (one (· == '0')).andThen ((optional (one fun c => c == 'o' || c == 'O')).andThen
      ((digitGroups isOctalDigit).andThen longSuffix)) s = some t) :
    ∃ radix n, IsIntegerLiteral radix n t := by
  obtain ⟨_, _, hzero, hrest, rfl⟩ := andThen_eq_some h
  obtain ⟨_, _, hletter, hmore, rfl⟩ := andThen_eq_some hrest
  obtain ⟨e, f, hgroups, hsuffix, rfl⟩ := andThen_eq_some hmore
  obtain ⟨x, _, -, hx, rfl⟩ := one_eq_some hzero
  obtain ⟨d, ds, hds⟩ := groups_of_digitGroups (by decide) @exists_octalDigit hgroups
  obtain rfl : x = '0' := beq_iff_eq.1 hx
  rcases optional_eq_some hletter with rfl | hletter
  · have hgroups : Groups ((⟨0, false⟩ : Digit 8) :: d :: ds) ('0' :: e) :=
      groups_cons (by decide) ⟨0, false⟩ hds.digits hds.last
    exact ⟨.octal, _, _, f, mem_suffixes hsuffix, .octal hgroups rfl (List.cons_ne_nil d ds), rfl⟩
  · obtain ⟨y, _, -, hy, rfl⟩ := one_eq_some hletter
    have hmark : y ∈ Radix.markedOctal.marks := by simpa [Radix.marks] using hy
    exact ⟨.markedOctal, _, _, f, mem_suffixes hsuffix, .marked hmark (List.cons_ne_nil d ds) hds,
      rfl⟩

theorem literal_of_decimal {s t : List Char} (h : decimalDigits.andThen longSuffix s = some t) :
    ∃ n, IsIntegerLiteral .decimal n t := by
  obtain ⟨a, b, hdigits, hsuffix, rfl⟩ := andThen_eq_some h
  obtain ⟨d, ds, hds, hzero⟩ := groups_of_decimalDigits hdigits
  exact ⟨_, _, b, mem_suffixes hsuffix, .decimal hds hzero, rfl⟩

theorem literal_of_match {s t : List Char} (h : integerLiteral s = some t) :
    ∃ radix n, IsIntegerLiteral radix n t := by
  unfold integerLiteral at h
  rcases longer_eq_some h with hdecimal | h
  · exact ⟨.decimal, literal_of_decimal hdecimal⟩
  rcases longer_eq_some h with hhex | h
  · exact ⟨.hexadecimal, literal_of_marked (by simp [Radix.marks]) @exists_hexDigit hhex⟩
  rcases longer_eq_some h with hoctal | hbinary
  · exact literal_of_octal hoctal
  · exact ⟨.binary, literal_of_marked (by simp [Radix.marks]) @exists_binaryDigit hbinary⟩

theorem ne_integer_of_stringPart? {embedding embedding' : Embedding} {first block : Bool}
    {opening s t rest : List Char} {kind : TokenKind}
    (h : stringPart? embedding first block opening s = some (kind, t, embedding', rest)) :
    kind ≠ .integer := by
  rintro rfl
  cases block with
  | true =>
    obtain ⟨⟨stop, taken, more⟩, -, hkind⟩ := Option.bind_eq_some_iff.1 h
    cases stop <;> cases first <;> cases hkind
  | false =>
    obtain ⟨⟨stop, taken, more⟩, -, hkind⟩ := Option.bind_eq_some_iff.1 h
    cases stop <;> cases first <;> cases hkind

theorem number?_of_lexeme? {embedding embedding' : Embedding} {s t rest : List Char}
    (h : lexeme? embedding s = some (.integer, t, embedding', rest)) :
    number? s = some (.integer, t) := by
  unfold lexeme? at h
  split at h
  case h_1 => exact absurd rfl (ne_integer_of_stringPart? h)
  case h_2 => exact absurd rfl (ne_integer_of_stringPart? h)
  case h_3 =>
    obtain ⟨_, -, heq⟩ := Option.map_eq_some_iff.1 h
    cases heq
  case h_4 =>
    split at h
    · cases h
    · split at h
      · rename_i kind taken hnumber
        cases h
        exact hnumber
      · split at h
        · exact absurd rfl (ne_integer_of_stringPart? h)
        · obtain ⟨_, -, heq⟩ := Option.map_eq_some_iff.1 h
          cases heq
  case h_5 => cases h

theorem exists_lexeme? {fuel : Nat} {embedding : Embedding} {s : List Char} {ts : List Token}
    (h : tokensFrom? fuel embedding s = some ts) {t : Token} (ht : t ∈ ts) :
    ∃ embedding embedding' start rest,
      lexeme? embedding start = some (t.kind, t.text.toList, embedding', rest) := by
  induction fuel generalizing embedding s ts with
  | zero => cases h
  | succ fuel ih =>
    unfold tokensFrom? at h
    obtain ⟨⟨gap, start⟩, -, hread⟩ := Option.bind_eq_some_iff.1 h
    dsimp only at hread
    split at hread
    · split at hread
      · cases hread
        cases ht
      · cases hread
    · obtain ⟨⟨kind, text, embedding', rest⟩, hlexeme, hrest⟩ := Option.bind_eq_some_iff.1 hread
      obtain ⟨more, hmore, hts⟩ := Option.bind_eq_some_iff.1 hrest
      cases hts
      rcases List.mem_cons.1 ht with rfl | ht
      · exact ⟨embedding, embedding', start, rest, by rwa [String.toList_ofList]⟩
      · exact ih hmore ht

theorem literal_of_token {source : List Char} {ts : List Token} (h : tokens? source = some ts)
    {t : Token} (ht : t ∈ ts) (hkind : t.kind = .integer) :
    ∃ radix n, IsIntegerLiteral radix n t.text.toList := by
  unfold tokens? at h
  dsimp only at h
  generalize (if source.head? = some '\ufeff' then source.drop 1 else source) = start at h
  split at h
  · cases h
  · obtain ⟨embedding, embedding', start, rest, hlexeme⟩ := exists_lexeme? h ht
    rw [hkind] at hlexeme
    rcases number?_match (number?_of_lexeme? hlexeme) with ⟨-, hmatch⟩ | ⟨hreal, -⟩ | ⟨hhex, -⟩
    · exact literal_of_match hmatch
    · cases hreal
    · cases hhex

/-- Every integer among the tokens of a text is a literal of a number, and every literal is read as the
word that its number gives in its notation. -/
theorem integerValue?_of_literals :
    (∀ (source : List Char) (ts : List Token), tokens? source = some ts → ∀ t ∈ ts,
      t.kind = .integer → ∃ radix n, IsIntegerLiteral radix n t.text.toList) ∧
    ∀ (radix : Radix) (n : Nat) (text : List Char), IsIntegerLiteral radix n text →
      (integerValue? text).map Int64.toInt = radix.word? n :=
  ⟨fun _ _ htokens _ ht hkind => literal_of_token htokens ht hkind, fun _ _ _ h => h.map_toInt⟩

/-- The word of which all bits are set, and a number in octal digits after a letter. -/
theorem integerValue?_of_literals_highest :
    (∃ radix n, IsIntegerLiteral radix n "0XffFF_ffff_FFFF_FFFFL".toList) ∧
    IsIntegerLiteral .hexadecimal (2 ^ 64 - 1) "0XffFF_ffff_FFFF_FFFFL".toList ∧
      (integerValue? "0XffFF_ffff_FFFF_FFFFL".toList).map Int64.toInt = some (-1) ∧
    IsIntegerLiteral .markedOctal 15 "0O1_7".toList ∧ integerValue? "0O1_7".toList = none := by
  have htoken : tokens? "0XffFF_ffff_FFFF_FFFFL;".toList =
      some [⟨"", .integer, "0XffFF_ffff_FFFF_FFFFL"⟩, ⟨"", .symbol, ";"⟩] := by decide +kernel
  have hhighest : IsIntegerLiteral .hexadecimal (2 ^ 64 - 1) "0XffFF_ffff_FFFF_FFFFL".toList := by
    let digit (capital : Bool) : Digit 16 := ⟨15, capital⟩
    let ds := [digit false, digit false] ++ List.replicate 2 (digit true) ++
      List.replicate 4 (digit false) ++ List.replicate 8 (digit true)
    have hgroups : Groups ds "ffFF_ffff_FFFF_FFFF".toList := ⟨by decide, by decide, by decide⟩
    have hnumeral := @IsNumeral.marked .hexadecimal 'X' (by decide) ds (List.cons_ne_nil _ _) _ hgroups
    have hnumber : numberOf ds = 2 ^ 64 - 1 := by decide +kernel
    exact ⟨_, ['L'], by decide, hnumber ▸ hnumeral, rfl⟩
  have hletter : IsIntegerLiteral .markedOctal 15 "0O1_7".toList := by
    have hgroups : Groups [(⟨1, false⟩ : Digit 8), ⟨7, false⟩] "1_7".toList :=
      ⟨by decide, by decide, by decide⟩
    have hnumeral := @IsNumeral.marked .markedOctal 'O' (by decide) _ (List.cons_ne_nil _ _) _ hgroups
    exact ⟨_, [], by decide, hnumeral, rfl⟩
  obtain ⟨hliteral, hword⟩ := integerValue?_of_literals
  have hnone := hword _ _ _ hletter
  exact ⟨hliteral _ _ htoken _ List.mem_cons_self rfl, hhighest, hword _ _ _ hhighest, hletter,
    Option.map_eq_none_iff.1 hnone⟩

end AnnotationIndex.Java
