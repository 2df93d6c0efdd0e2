import AnnotationIndex.Java.Unit
import AnnotationIndex.Proofs.Java.Digits
import AnnotationIndex.Proofs.Text.Pieces

/-!
# Escapes and character literals

An escape names a character by a letter, by up to three octal digits or by four hexadecimal ones. A
character literal stands for the character that is spelled between its quotes. The exception is the
quote itself after a backslash: it goes with the quotes around it, and the backslash is left.
-/

namespace AnnotationIndex.Java

open Text

theorem unescape_cons {c : Char} (h : c ≠ '\\') (s : List Char) :
    unescape (c :: s) = c :: unescape s := by
  rw [unescape, if_neg h]

theorem unescape_escape (s : List Char) :
    unescape ('\\' :: s) = (escape s).1 ++ unescape (escape s).2 := by
  rw [unescape, if_pos rfl]

def escapeLetters : List (Char × Char) :=
  [('b', '\x08'), ('t', '\t'), ('n', '\n'), ('f', '\x0c'), ('r', '\r'), ('s', ' '), ('"', '"'),
    ('\'', '\''), ('\\', '\\')]

theorem escape_letter {e : Char × Char} (h : e ∈ escapeLetters) (rest : List Char) :
    escape (e.1 :: rest) = ([e.2], rest) := by
  revert e
  simp [escapeLetters, escape, digitValue?]

theorem escape_digit {c : Char} {d : Nat} (h : digitValue? 8 c = some d) (rest : List Char) :
    escape (c :: rest) = ([Char.ofNat (octalTail 2 d rest).1], (octalTail 2 d rest).2) := by
  rw [escape]
  · rw [h]
  all_goals
    rintro rfl
    cases h

theorem le_foldl_digits {base : Nat} (hbase : 0 < base) (values : List Nat) (n : Nat) :
    n ≤ values.foldl (fun n d => n * base + d) n := by
  induction values generalizing n with
  | nil => exact Nat.le_refl n
  | cons d values ih =>
    have hstep : n ≤ n * base + d :=
      Nat.le_trans (Nat.le_mul_of_pos_right n hbase) (Nat.le_add_right _ d)
    exact Nat.le_trans hstep (ih _)

theorem octalTail_digits {s : List Char} {values : List Nat} (h : AreDigits 8 s values)
    {more code : Nat} (hlength : s.length ≤ more)
    (hcode : values.foldl (fun n d => n * 8 + d) code ≤ 255) (rest : List Char)
    (hstop : s.length = more ∨ ∀ c ∈ rest.head?, ∀ d, digitValue? 8 c = some d →
      255 < values.foldl (fun n d => n * 8 + d) code * 8 + d) :
    octalTail more code (s ++ rest) = (values.foldl (fun n d => n * 8 + d) code, rest) := by
  induction s generalizing values more code with
  | nil =>
    obtain rfl : values = [] := by simpa [AreDigits] using h.symm
    cases more with
    | zero => rfl
    | succ more =>
      cases rest with
      | nil => rfl
      | cons c rest =>
        have hstop := hstop.resolve_left (Nat.succ_ne_zero more).symm c rfl
        rw [List.nil_append, octalTail]
        split
        · rename_i d hd
          exact if_neg (Nat.not_le.2 (hstop d hd))
        · rfl
  | cons c s ih =>
    cases values with
    | nil => simp [AreDigits] at h
    | cons d values =>
      simp only [AreDigits, List.map_cons, List.cons.injEq] at h
      obtain ⟨more, rfl⟩ : ∃ n, more = n + 1 := ⟨more - 1, by simp at hlength; omega⟩
      have hstep : code * 8 + d ≤ 255 := Nat.le_trans (le_foldl_digits (by decide) values _) hcode
      rw [List.cons_append, octalTail, h.1]
      simp only [if_pos hstep]
      exact ih h.2 (Nat.le_of_succ_le_succ hlength) hcode (hstop.imp_left Nat.succ.inj)

theorem hexCode?_digits {s : List Char} {values : List Nat} (hs : s ≠ [])
    (h : AreDigits 16 s values) : hexCode? s = some (Nat.ofDigits 16 values.reverse) := by
  rw [hexCode?]
  · exact ofDigits?_eq hs h
  · rintro rest rfl
    obtain ⟨d, hd⟩ := h.value List.mem_cons_self
    cases hd

theorem dropWhile_marks {s : List Char} {values : List Nat} (hs : s ≠ [])
    (h : AreDigits 16 s values) (n : Nat) (rest : List Char) :
    (List.replicate n 'u' ++ s ++ rest).dropWhile (· == 'u') = s ++ rest := by
  induction n with
  | zero =>
    obtain ⟨c, s, rfl⟩ := List.exists_cons_of_ne_nil hs
    obtain ⟨d, hd⟩ := h.value List.mem_cons_self
    have hc : (c == 'u') = false := by
      rw [beq_eq_false_iff_ne]
      rintro rfl
      cases hd
    simp [hc]
  | succ n ih => simpa [List.replicate_succ] using ih

theorem escape_code {s : List Char} {values : List Nat} (h : AreDigits 16 s values)
    (hlength : s.length = 4) (n : Nat) (rest : List Char) :
    escape ('u' :: (List.replicate n 'u' ++ s ++ rest)) =
      (if (Nat.ofDigits 16 values.reverse).isValidChar then
        [Char.ofNat (Nat.ofDigits 16 values.reverse)] else '\\' :: 'u' :: s, rest) := by
  have hne : s ≠ [] := by
    rintro rfl
    cases hlength
  have htake : (s ++ rest).take 4 = s := by rw [← hlength, List.take_left]
  have hdrop : (s ++ rest).drop 4 = rest := by rw [← hlength, List.drop_left]
  simp only [escape, dropWhile_marks hne h, hdrop, unicodeEscape, htake, hexCode?_digits hne h]

theorem escape_unicode {s : List Char} {values : List Nat} (h : AreDigits 16 s values)
    (hlength : s.length = 4) (hvalid : (Nat.ofDigits 16 values.reverse).isValidChar) (n : Nat)
    (rest : List Char) : escape ('u' :: (List.replicate n 'u' ++ s ++ rest)) =
      ([Char.ofNat (Nat.ofDigits 16 values.reverse)], rest) := by
  rw [escape_code h hlength, if_pos hvalid]

/-- The ways to spell a character between single quotes. -/
inductive Spells : List Char → Char → Prop
  | plain {c : Char} (h : c ∉ ['\'', '\\', '\n', '\r']) : Spells [c] c
  | letter {e : Char × Char} (h : e ∈ escapeLetters) : Spells ['\\', e.1] e.2
  | octal {s : List Char} {values : List Nat} (h : AreDigits 8 s values) (hs : s ≠ [])
      (hlength : s.length ≤ 3) (hcode : Nat.ofDigits 8 values.reverse ≤ 255) :
      Spells ('\\' :: s) (Char.ofNat (Nat.ofDigits 8 values.reverse))
  | unicode {s : List Char} {values : List Nat} (h : AreDigits 16 s values) (hlength : s.length = 4)
      (hvalid : (Nat.ofDigits 16 values.reverse).isValidChar) (n : Nat) :
      Spells ('\\' :: 'u' :: (List.replicate n 'u' ++ s)) (Char.ofNat (Nat.ofDigits 16 values.reverse))

theorem unescape_nil : unescape [] = [] := by rw [unescape]

theorem Spells.unescape_eq {s : List Char} {c : Char} (h : Spells s c) : unescape s = [c] := by
  cases h with
  | plain h =>
    have hne : c ≠ '\\' := by simp_all
    rw [unescape_cons hne, unescape_nil]
  | letter h => rw [unescape_escape, escape_letter h, unescape_nil]; rfl
  | octal h hs hlength hcode =>
    obtain ⟨digit, rest, rfl⟩ := List.exists_cons_of_ne_nil hs
    obtain ⟨d, more, rfl⟩ := List.exists_cons_of_length_pos
      (Nat.lt_of_lt_of_eq (Nat.succ_pos rest.length) h.length_eq)
    simp only [AreDigits, List.map_cons, List.cons.injEq] at h
    have hfold : more.foldl (fun n d => n * 8 + d) d = Nat.ofDigits 8 (d :: more).reverse := by
      rw [← foldl_eq_ofDigits, List.foldl_cons, Nat.zero_mul, Nat.zero_add]
    have htail : octalTail 2 d rest = (Nat.ofDigits 8 (d :: more).reverse, []) := by
      rw [← hfold] at hcode ⊢
      have htake := octalTail_digits h.2 (Nat.le_of_succ_le_succ hlength) hcode [] (.inr (by simp))
      rwa [List.append_nil] at htake
    rw [unescape_escape, escape_digit h.1, htail, unescape_nil]
    rfl
  | unicode h hlength hvalid n =>
    have hescape := escape_unicode h hlength hvalid n []
    rw [List.append_nil] at hescape
    rw [unescape_escape, hescape, unescape_nil]
    rfl

theorem characterValue_of_ends {s : List Char} (hhead : s.head? ≠ some '\'')
    (hlast : s.getLast? ≠ some '\'') : characterValue ('\'' :: s ++ ['\'']) = unescape s := by
  have hstart : ('\'' :: s ++ ['\'']).dropWhile (· == '\'') =
      (s ++ ['\'']).dropWhile (· == '\'') := by simp
  cases s with
  | nil => rfl
  | cons c s =>
    have hc : (c == '\'') = false := by simpa using hhead
    have hend : ∀ d, (c :: s).getLast? = some d → (d == '\'') = false := by
      intro d hd
      rw [beq_eq_false_iff_ne]
      rintro rfl
      exact hlast hd
    rw [characterValue, hstart, List.cons_append, List.dropWhile_cons_of_neg (by simpa using hc),
      ← List.cons_append, dropEndWhile_append (by rfl), dropEndWhile_of_last hend]

/-- No spelling begins with a quote, and only that of the quote itself ends with one. -/
theorem Spells.ends {s : List Char} {c : Char} (h : Spells s c) :
    s.head? ≠ some '\'' ∧ (s ≠ ['\\', '\''] → s.getLast? ≠ some '\'') := by
  have hdigits : ∀ (front : List Char) {base : Nat} {s : List Char} {values : List Nat},
      AreDigits base s values → s ≠ [] → (front ++ s).getLast? ≠ some '\'' := by
    intro front base s values hs hne hlast
    have hmem : '\'' ∈ s := by
      rw [List.getLast?_append, List.getLast?_eq_some_getLast hne, Option.some_or] at hlast
      exact Option.some.inj hlast ▸ List.getLast_mem hne
    obtain ⟨d, hd⟩ := hs.value hmem
    simp [digitValue?] at hd
  cases h with
  | plain h => exact ⟨by simp_all, fun _ => by simp_all⟩
  | @letter e h =>
    refine ⟨by simp, fun hne hlast => hne ?_⟩
    simpa using hlast
  | octal h hs => exact ⟨by simp, fun _ => hdigits ['\\'] h hs⟩
  | @unicode digits _ h hlength hvalid n =>
    refine ⟨by simp, fun _ => ?_⟩
    have hne : digits ≠ [] := by
      rintro rfl
      cases hlength
    exact hdigits ('\\' :: 'u' :: List.replicate n 'u') h hne

/-- A character literal stands for the character that is spelled between its quotes, except that a
quote after a backslash goes with the quotes around it. -/
theorem characterLiteral_value {s : List Char} {c : Char} (h : Spells s c)
    (resolve : String → String) (gap : String) :
    (Syntax.value? (.leaf .character
        ⟨gap, .character, String.ofList ('\'' :: s ++ ['\''])⟩)).bind (Written.value? resolve) =
      some (.character (if s = ['\\', '\''] then "\\" else String.singleton c)) := by
  have hvalue : characterValue ('\'' :: s ++ ['\'']) = if s = ['\\', '\''] then ['\\'] else [c] := by
    split
    · rename_i hs
      subst hs
      decide +kernel
    · rename_i hs
      rw [characterValue_of_ends h.ends.1 (h.ends.2 hs), h.unescape_eq]
  have hread : (Syntax.value? (.leaf .character
      ⟨gap, .character, String.ofList ('\'' :: s ++ ['\''])⟩)).bind (Written.value? resolve) =
      some (.character (String.ofList (characterValue ('\'' :: s ++ ['\''])))) := by
    change some (Value.character (String.ofList (characterValue
      (String.ofList ('\'' :: s ++ ['\''])).toList))) = _
    rw [String.toList_ofList]
  rw [hread, hvalue]
  split <;> rfl

/-- The letter `A` by its code. -/
theorem characterLiteral_value_code : Spells ['\\', 'u', 'u', '0', '0', '4', '1'] 'A' ∧
    (Syntax.value? (.leaf .character ⟨"", .character, "'\\uu0041'"⟩)).bind (Written.value? id) =
      some (.character "A") := by
  have hspells : Spells ['\\', 'u', 'u', '0', '0', '4', '1'] 'A' :=
    @Spells.unicode ['0', '0', '4', '1'] [0, 0, 4, 1] rfl rfl (by decide) 1
  exact ⟨hspells, characterLiteral_value hspells id ""⟩

/-- A quote after a backslash is read as a backslash. -/
theorem characterLiteral_quote : ¬ ∀ (s : List Char) (c : Char), Spells s c →
    ∀ (resolve : String → String) (gap : String),
      (Syntax.value? (.leaf .character
        ⟨gap, .character, String.ofList ('\'' :: s ++ ['\''])⟩)).bind (Written.value? resolve) =
      some (.character (String.singleton c)) := by
  intro hall
  have hspells : Spells ['\\', '\''] '\'' := .letter (e := ('\'', '\'')) (by simp [escapeLetters])
  have hquote := hall _ _ hspells id ""
  have hread : characterValue ['\'', '\\', '\'', '\''] = ['\\'] := by decide +kernel
  change some (Value.character (String.ofList (characterValue ['\'', '\\', '\'', '\'']))) =
    some (.character (String.singleton '\'')) at hquote
  rw [hread] at hquote
  injection hquote with hquote
  injection hquote with hquote
  revert hquote
  decide

end AnnotationIndex.Java
