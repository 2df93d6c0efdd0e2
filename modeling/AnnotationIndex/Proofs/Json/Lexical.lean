import AnnotationIndex.Json.Reader

/-!
# Strings and numbers in JSON texts

A string that was printed is read back, whatever its characters. The spelling of a number is read
to its end if what follows cannot lengthen it.
-/

namespace AnnotationIndex.Json

private theorem hexValue?_hexDigit : ∀ n < 16, hexValue? (hexDigit n) = some n := by decide

private theorem hexCode?_of_values {a b c d : Char} {w x y z : Nat} (ha : hexValue? a = some w)
    (hb : hexValue? b = some x) (hc : hexValue? c = some y) (hd : hexValue? d = some z) :
    hexCode? a b c d = some ((w * 16 + x) * 256 + y * 16 + z) := by
  simp [hexCode?, ha, hb, hc, hd]

private theorem stringTail?_badCode {a b c d : Char} (rest : List Char)
    (hcode : hexCode? a b c d = none) :
    stringTail? ('\\' :: 'u' :: a :: b :: c :: d :: rest) = none := by
  rw [stringTail?.eq_def]
  split
  · simp_all
  · simp_all
  · simp_all
  · rename_i heq
    simp only [List.cons.injEq, true_and] at heq
    obtain ⟨rfl, rfl⟩ := heq
    rfl
  · rename_i hno heq
    simp only [List.cons.injEq] at heq
    obtain ⟨rfl, rfl⟩ := heq
    exact absurd rfl (hno _ _ rfl)
  · rfl

private theorem stringTail?_code {a b c d : Char} {code : Nat} (rest : List Char)
    (hcode : hexCode? a b c d = some code) (hhigh : isHighSurrogate code = false)
    (hvalid : code.isValidChar) :
    stringTail? ('\\' :: 'u' :: a :: b :: c :: d :: rest) =
      (stringTail? rest).map fun p => (some (Char.ofNat code) :: p.1, p.2) := by
  by_cases hnext : ∃ e f g h tail, rest = '\\' :: 'u' :: e :: f :: g :: h :: tail
  · -- The next escape is given by its code too; it is then read on its own.
    obtain ⟨e, f, g, h, tail, rfl⟩ := hnext
    rw [stringTail?.eq_2]
    cases hsecond : hexCode? e f g h with
    | none => simp [hcode, stringTail?_badCode tail hsecond]
    | some second =>
      simp only [hcode, hhigh, hvalid, Option.bind_eq_bind, Option.bind_some, Bool.false_and,
        Bool.false_eq_true, if_false, if_true]
      cases stringTail? ('\\' :: 'u' :: e :: f :: g :: h :: tail) <;> rfl
  · rw [stringTail?.eq_3 _ _ _ _ _ fun e f g h tail heq => hnext ⟨e, f, g, h, tail, heq⟩]
    simp only [hcode, hvalid, Option.bind_eq_bind, Option.bind_some, if_true]
    cases stringTail? rest <;> rfl

private theorem stringTail?_simple {c char : Char} (rest : List Char) (hu : c ≠ 'u')
    (hc : simpleEscape? c = some char) :
    stringTail? ('\\' :: c :: rest) =
      (stringTail? rest).map fun p => (some char :: p.1, p.2) := by
  rw [stringTail?.eq_4 _ _ (fun _ _ _ _ _ _ _ _ _ h _ => hu h) (fun _ _ _ _ _ h _ => hu h)]
  simp only [hc, Option.bind_eq_bind, Option.bind_some]
  cases stringTail? rest <;> rfl

private theorem stringTail?_plain {c : Char} (rest : List Char) (hquote : c ≠ '"')
    (hslash : c ≠ '\\') (hc : ¬ c.toNat < 32) :
    stringTail? (c :: rest) = (stringTail? rest).map fun p => (some c :: p.1, p.2) := by
  rw [stringTail?.eq_5 _ _ hquote (fun _ _ _ _ _ _ _ _ _ h _ => hslash h)
    (fun _ _ _ _ _ h _ => hslash h) (fun _ _ h _ => hslash h)]
  simp only [hc, hslash, decide_false, Bool.false_or, beq_iff_eq, if_false]
  cases stringTail? rest <;> rfl

private theorem isValidChar_of_lt {n : Nat} (h : n < 32) : n.isValidChar :=
  Or.inl (by omega)

theorem stringTail?_escaped (c : Char) (rest : List Char) :
    stringTail? (escaped c ++ rest) =
      (stringTail? rest).map fun p => (some c :: p.1, p.2) := by
  unfold escaped
  split
  case h_8 =>
    split
    · rename_i hc
      have hhigh := hexValue?_hexDigit (c.toNat / 16) (by omega)
      have hlow := hexValue?_hexDigit (c.toNat % 16) (by omega)
      have hcode := hexCode?_of_values (by decide) (by decide) hhigh hlow (a := '0') (b := '0')
        (w := 0) (x := 0)
      rw [show (0 * 16 + 0) * 256 + c.toNat / 16 * 16 + c.toNat % 16 = c.toNat by omega] at hcode
      have hnot : isHighSurrogate c.toNat = false := by
        simp only [isHighSurrogate, Bool.and_eq_false_iff, decide_eq_false_iff_not]
        omega
      have := stringTail?_code rest hcode hnot (isValidChar_of_lt hc)
      rw [Char.ofNat_toNat] at this
      exact this
    · exact stringTail?_plain rest (by assumption) (by assumption) (by assumption)
  all_goals exact stringTail?_simple rest (by decide) (by decide)

theorem stringTail?_quoted (s rest : List Char) :
    stringTail? (s.flatMap escaped ++ '"' :: rest) = some (s.map some, rest) := by
  induction s with
  | nil => simp [stringTail?]
  | cons c s ih =>
    rw [List.flatMap_cons, List.append_assoc, stringTail?_escaped, ih]
    rfl

theorem textOf?_map_some (s : List Char) : textOf? (s.map some) = some (String.ofList s) := by
  have hm : (s.map some).mapM id = some s := by
    induction s with
    | nil => rfl
    | cons c s ih => simp [ih]
  simp [textOf?, hm]

theorem isBlank_of_isDigit {c : Char} (h : c.isDigit = true) : isBlank c = false := by
  by_cases hb : isBlank c = true
  · simp only [isBlank, Bool.or_eq_true, beq_iff_eq] at hb
    rcases hb with ((rfl | rfl) | rfl) | rfl <;> simp at h
  · simpa using hb

/-- A text that cannot lengthen a number which it follows. -/
def EndsNumber (rest : List Char) : Prop :=
  ∀ c ∈ rest.head?, c.isDigit = false ∧ c ≠ '.' ∧ c ≠ 'e' ∧ c ≠ 'E'

def IsNumber (text : String) : Prop := number? text.toList = some (text.toList, [])

instance (text : String) : Decidable (IsNumber text) :=
  inferInstanceAs (Decidable (_ = _))

theorem endsNumber_nil : EndsNumber [] := by simp [EndsNumber]

theorem endsNumber_cons {c : Char} (rest : List Char)
    (h : c.isDigit = false ∧ c ≠ '.' ∧ c ≠ 'e' ∧ c ≠ 'E') : EndsNumber (c :: rest) := by
  simpa [EndsNumber] using h

private theorem takeWhile_isDigit_append (s : List Char) {rest : List Char} (h : EndsNumber rest) :
    (s ++ rest).takeWhile Char.isDigit = s.takeWhile Char.isDigit := by
  induction s with
  | nil =>
    cases rest with
    | nil => rfl
    | cons c rest =>
      have hc := (h c (by simp)).1
      simp [hc]
  | cons c s ih =>
    by_cases hc : c.isDigit <;> simp [hc, ih]

private theorem drop_takeWhile_append (s : List Char) {rest : List Char} :
    (s ++ rest).drop (s.takeWhile Char.isDigit).length =
      s.drop (s.takeWhile Char.isDigit).length ++ rest := by
  rw [List.drop_append_of_le_length (List.takeWhile_prefix _).length_le]

private theorem someDigits?_append {s digits tail rest : List Char} (h : EndsNumber rest)
    (hs : someDigits? s = some (digits, tail)) :
    someDigits? (s ++ rest) = some (digits, tail ++ rest) := by
  simp only [someDigits?] at hs ⊢
  rw [takeWhile_isDigit_append s h, drop_takeWhile_append]
  split at hs
  · simp at hs
  · rename_i hne
    rw [if_neg hne]
    simp only [Option.some.injEq, Prod.mk.injEq] at hs ⊢
    exact ⟨hs.1, congrArg (· ++ rest) hs.2⟩

private theorem wholeDigits?_append {s digits tail rest : List Char} (h : EndsNumber rest)
    (hs : wholeDigits? s = some (digits, tail)) :
    wholeDigits? (s ++ rest) = some (digits, tail ++ rest) := by
  by_cases hzero : ∃ more, s = '0' :: more
  · obtain ⟨more, rfl⟩ := hzero
    have hhead : (more ++ rest).head?.any Char.isDigit = more.head?.any Char.isDigit := by
      cases more with
      | nil =>
        cases rest with
        | nil => rfl
        | cons c rest => simp [(h c (by simp)).1]
      | cons c more => rfl
    simp only [wholeDigits?] at hs
    simp only [wholeDigits?, List.cons_append, hhead]
    split at hs
    · simp at hs
    · simp_all
  · have hne : s ≠ [] := by
      rintro rfl
      simp [wholeDigits?] at hs
    have hnot : ∀ more, s ++ rest ≠ '0' :: more := by
      intro more heq
      cases s with
      | nil => exact hne rfl
      | cons c s =>
        simp only [List.cons_append, List.cons.injEq] at heq
        exact hzero ⟨s, by rw [heq.1]⟩
    rw [wholeDigits?.eq_2 _ hnot]
    rw [wholeDigits?.eq_2 _ fun more heq => hzero ⟨more, heq⟩] at hs
    exact someDigits?_append h hs

private theorem fraction?_append {s fraction tail rest : List Char} (h : EndsNumber rest)
    (hs : fraction? s = some (fraction, tail)) :
    fraction? (s ++ rest) = some (fraction, tail ++ rest) := by
  by_cases hdot : ∃ more, s = '.' :: more
  · obtain ⟨more, rfl⟩ := hdot
    simp only [fraction?, Option.map_eq_some_iff] at hs
    obtain ⟨⟨digits, after⟩, hdigits, heq⟩ := hs
    simp only [Prod.mk.injEq] at heq
    simp [fraction?, someDigits?_append h hdigits, ← heq.1, ← heq.2]
  · rw [fraction?.eq_2 _ fun more heq => hdot ⟨more, heq⟩] at hs
    simp only [Option.some.injEq, Prod.mk.injEq] at hs
    obtain ⟨rfl, rfl⟩ := hs
    apply fraction?.eq_2
    intro more heq
    cases s with
    | nil => exact (h '.' (by simp_all)).2.1 rfl
    | cons c s =>
      simp only [List.cons_append, List.cons.injEq] at heq
      exact hdot ⟨s, by rw [heq.1]⟩

private theorem exponent?_append {s exponent tail rest : List Char} (h : EndsNumber rest)
    (hs : exponent? s = some (exponent, tail)) :
    exponent? (s ++ rest) = some (exponent, tail ++ rest) := by
  cases s with
  | nil =>
    simp only [exponent?, Option.some.injEq, Prod.mk.injEq] at hs
    obtain ⟨rfl, rfl⟩ := hs
    cases rest with
    | nil => rfl
    | cons c rest =>
      obtain ⟨-, -, he, hE⟩ := h c (by simp)
      simp [exponent?, he, hE]
  | cons e more =>
    simp only [exponent?] at hs
    simp only [List.cons_append, exponent?]
    split at hs
    · rename_i hmark
      rw [if_pos hmark]
      cases more with
      | nil => simp at hs
      | cons sign digits =>
        simp only [List.cons_append] at hs ⊢
        split at hs
        · rename_i hsign
          rw [if_pos hsign]
          obtain ⟨⟨ds, after⟩, hds, heq⟩ := Option.map_eq_some_iff.1 hs
          simp only [Prod.mk.injEq] at heq
          simp [someDigits?_append h hds, ← heq.1, ← heq.2]
        · rename_i hsign
          rw [if_neg hsign, ← List.cons_append]
          obtain ⟨⟨ds, after⟩, hds, heq⟩ := Option.map_eq_some_iff.1 hs
          simp only [Prod.mk.injEq] at heq
          simp only [someDigits?_append h hds, Option.map_some, ← heq.1, ← heq.2]
    · rename_i hmark
      rw [if_neg hmark]
      simp only [Option.some.injEq, Prod.mk.injEq] at hs
      obtain ⟨rfl, rfl⟩ := hs
      rfl

private def signOf (s : List Char) : List Char × List Char :=
  match s with
  | '-' :: rest => (['-'], rest)
  | _ => ([], s)

private theorem number?_eq (s : List Char) :
    number? s = (wholeDigits? (signOf s).2).bind fun whole =>
      (fraction? whole.2).bind fun fraction =>
        (exponent? fraction.2).map fun exponent =>
          ((signOf s).1 ++ whole.1 ++ fraction.1 ++ exponent.1, exponent.2) := by
  unfold number?
  split
  rename_i sign tail heq
  have hsign : signOf s = (sign, tail) := heq
  simp only [hsign, Option.bind_eq_bind, Option.pure_def]
  congr 1
  funext whole
  congr 1
  funext fraction
  cases exponent? fraction.2 <;> rfl

private theorem signOf_append {s : List Char} (hs : s ≠ []) (rest : List Char) :
    signOf (s ++ rest) = ((signOf s).1, (signOf s).2 ++ rest) := by
  cases s with
  | nil => exact absurd rfl hs
  | cons c s =>
    simp only [List.cons_append, signOf]
    split
    · rename_i heq
      simp only [List.cons.injEq] at heq
      obtain ⟨rfl, rfl⟩ := heq
      rfl
    · rename_i hnot
      split
      · rename_i heq
        simp only [List.cons.injEq] at heq
        obtain ⟨rfl, rfl⟩ := heq
        exact absurd rfl (hnot _)
      · rfl

theorem number?_append {s text tail rest : List Char} (h : EndsNumber rest)
    (hs : number? s = some (text, tail)) : number? (s ++ rest) = some (text, tail ++ rest) := by
  have hne : s ≠ [] := by
    rintro rfl
    simp [number?_eq, signOf, wholeDigits?] at hs
  rw [number?_eq] at hs ⊢
  obtain ⟨⟨whole, s₁⟩, hwhole, hs⟩ := Option.bind_eq_some_iff.1 hs
  obtain ⟨⟨fraction, s₂⟩, hfraction, hs⟩ := Option.bind_eq_some_iff.1 hs
  obtain ⟨⟨exponent, s₃⟩, hexponent, heq⟩ := Option.map_eq_some_iff.1 hs
  simp only [Prod.mk.injEq] at heq
  rw [signOf_append hne, wholeDigits?_append h hwhole]
  simp [fraction?_append h hfraction, exponent?_append h hexponent, ← heq.1, ← heq.2]

theorem takeWhile_isDigit {s : List Char} (h : ∀ c ∈ s, c.isDigit = true) :
    s.takeWhile Char.isDigit = s := by
  have happend : (s ++ []).takeWhile Char.isDigit = s ++ [].takeWhile Char.isDigit :=
    List.takeWhile_append_of_pos h
  simpa using happend

private theorem wholeDigits?_digits {s : List Char} (hne : s ≠ []) (h : ∀ c ∈ s, c.isDigit = true)
    (hzero : s.head? = some '0' → s = ['0']) : wholeDigits? s = some (s, []) := by
  unfold wholeDigits?
  split
  · have hs := hzero rfl
    simp_all
  · simp [takeWhile_isDigit h, hne]

theorem number?_digits {s : List Char} (hne : s ≠ []) (h : ∀ c ∈ s, c.isDigit = true)
    (hzero : s.head? = some '0' → s = ['0']) : number? s = some (s, []) := by
  have hsign : signOf s = ([], s) := by
    unfold signOf
    split
    · have hdigit := h '-' (by simp)
      simp at hdigit
    · rfl
  simp [number?_eq, hsign, wholeDigits?_digits hne h hzero, fraction?, exponent?]

theorem number?_minus {s : List Char} (hne : s ≠ []) (h : ∀ c ∈ s, c.isDigit = true)
    (hzero : s.head? = some '0' → s = ['0']) : number? ('-' :: s) = some ('-' :: s, []) := by
  have hsign : signOf ('-' :: s) = (['-'], s) := rfl
  simp [number?_eq, hsign, wholeDigits?_digits hne h hzero, fraction?, exponent?]

theorem IsNumber.number?_append {text : String} (ht : IsNumber text) {rest : List Char}
    (h : EndsNumber rest) : number? (text.toList ++ rest) = some (text.toList, rest) :=
  Json.number?_append h ht

theorem IsNumber.head {text : String} (ht : IsNumber text) :
    ∃ c more, text.toList = c :: more ∧ (c = '-' ∨ c.isDigit) := by
  unfold IsNumber at ht
  generalize text.toList = s at ht ⊢
  rw [number?_eq] at ht
  obtain ⟨⟨whole, s₁⟩, hwhole, -⟩ := Option.bind_eq_some_iff.1 ht
  cases s with
  | nil => simp [signOf, wholeDigits?] at hwhole
  | cons c s =>
    refine ⟨c, s, rfl, ?_⟩
    by_cases hc : c = '-'
    · exact Or.inl hc
    · right
      have hsign : signOf (c :: s) = ([], c :: s) := by
        simp only [signOf]
        split
        · rename_i heq
          simp only [List.cons.injEq] at heq
          exact absurd heq.1 hc
        · rfl
      rw [hsign] at hwhole
      by_cases hdigit : c.isDigit
      · exact hdigit
      · have hzero : c ≠ '0' := by
          rintro rfl
          exact hdigit rfl
        simp [wholeDigits?, hdigit, hzero] at hwhole

private theorem takeWhile_append_drop (s : List Char) :
    s = s.takeWhile Char.isDigit ++ s.drop (s.takeWhile Char.isDigit).length := by
  obtain ⟨rest, hrest⟩ := List.takeWhile_prefix (l := s) Char.isDigit
  have hdrop : s.drop (s.takeWhile Char.isDigit).length = rest := by
    conv => lhs; arg 2; rw [← hrest]
    rw [List.drop_left]
  rw [hdrop, hrest]

private theorem someDigits?_left {s digits tail : List Char}
    (h : someDigits? s = some (digits, tail)) : s = digits ++ tail := by
  simp only [someDigits?] at h
  split at h
  · simp at h
  · simp only [Option.some.injEq, Prod.mk.injEq] at h
    rw [← h.1, ← h.2]
    exact takeWhile_append_drop s

private theorem wholeDigits?_left {s digits tail : List Char}
    (h : wholeDigits? s = some (digits, tail)) : s = digits ++ tail := by
  unfold wholeDigits? at h
  split at h
  · split at h
    · simp at h
    · simp only [Option.some.injEq, Prod.mk.injEq] at h
      rw [← h.1, ← h.2]
      rfl
  · exact someDigits?_left h

private theorem fraction?_left {s fraction tail : List Char}
    (h : fraction? s = some (fraction, tail)) : s = fraction ++ tail := by
  unfold fraction? at h
  split at h
  · obtain ⟨⟨digits, after⟩, hdigits, heq⟩ := Option.map_eq_some_iff.1 h
    simp only [Prod.mk.injEq] at heq
    rw [← heq.1, ← heq.2, someDigits?_left hdigits]
    rfl
  · simp_all

private theorem exponent?_left {s exponent tail : List Char}
    (h : exponent? s = some (exponent, tail)) : s = exponent ++ tail := by
  unfold exponent? at h
  split at h
  · split at h
    · split at h
      · split at h
        · obtain ⟨⟨digits, after⟩, hdigits, heq⟩ := Option.map_eq_some_iff.1 h
          simp only [Prod.mk.injEq] at heq
          rw [← heq.1, ← heq.2, someDigits?_left hdigits]
          rfl
        · obtain ⟨⟨digits, after⟩, hdigits, heq⟩ := Option.map_eq_some_iff.1 h
          simp only [Prod.mk.injEq] at heq
          rw [← heq.1, ← heq.2, someDigits?_left hdigits]
          rfl
      · simp at h
    · simp_all
  · simp_all

theorem number?_left {s text tail : List Char} (h : number? s = some (text, tail)) :
    s = text ++ tail := by
  rw [number?_eq] at h
  obtain ⟨⟨whole, s₁⟩, hwhole, h⟩ := Option.bind_eq_some_iff.1 h
  obtain ⟨⟨fraction, s₂⟩, hfraction, h⟩ := Option.bind_eq_some_iff.1 h
  obtain ⟨⟨exponent, s₃⟩, hexponent, heq⟩ := Option.map_eq_some_iff.1 h
  simp only [Prod.mk.injEq] at heq
  have hsign : s = (signOf s).1 ++ (signOf s).2 := by
    unfold signOf
    split <;> rfl
  calc
    s = (signOf s).1 ++ (whole ++ (fraction ++ (exponent ++ s₃))) := by
      rw [← exponent?_left hexponent, ← fraction?_left hfraction, ← wholeDigits?_left hwhole]
      exact hsign
    _ = text ++ tail := by
      rw [← heq.1, ← heq.2]
      simp only [List.append_assoc]

end AnnotationIndex.Json
