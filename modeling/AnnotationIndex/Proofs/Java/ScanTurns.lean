import AnnotationIndex.Java.Header

/-!
# Turns of the scan for headers

The scan for headers takes a text in turns: a comment, a literal, a word or a single character at a
time. The marks of the text are those of the turns, one after the other.
-/

namespace AnnotationIndex.Java

open Header

def StartsComment (s : List Char) : Prop :=
  ∃ rest, s = '/' :: '/' :: rest ∨ s = '/' :: '*' :: rest

theorem isNamePart_of_isNameStart {c : Char} (h : isNameStart c = true) : isNamePart c = true := by
  simp [isNamePart, h]

theorem ne_of_isNameStart {c d : Char} (hc : isNameStart c = true) (hd : isNameStart d = false) :
    c ≠ d := by
  rintro rfl
  exact absurd hc (by simp [hd])

theorem marks_nil : marks [] = [] := by simp [marks]

theorem isAsciiBlank_cases {c : Char} (h : isAsciiBlank c = true) :
    c = ' ' ∨ c = '\t' ∨ c = '\n' ∨ c = '\r' ∨ c = '\x0c' := by
  simpa [isAsciiBlank, or_assoc] using h

/-- The marks of what the scan takes in one turn, and what is left of the text. -/
def turn (s : List Char) : List Mark × List Char :=
  match s with
  | '/' :: '/' :: rest => ([], rest.dropWhile (· != '\n'))
  | '/' :: '*' :: rest => ([], afterComment rest)
  | '"' :: '"' :: '"' :: rest => ([], afterBlock rest)
  | c :: rest =>
    if c == '"' || c == '\'' then ([.other], afterQuote c rest)
    else if isNameStart c then
      ([.word (String.ofList (c :: rest.takeWhile isNamePart))], rest.dropWhile isNamePart)
    else if isAsciiBlank c then ([], rest)
    else ([markOf c], rest)
  | [] => ([], [])

/-- The marks of a text are those of its turns. -/
theorem marks_eq_turn (s : List Char) : marks s = (turn s).1 ++ marks (turn s).2 := by
  fun_cases turn s with
  | case1 rest => rw [marks.eq_1, List.nil_append]
  | case2 rest => rw [marks.eq_2, List.nil_append]
  | case3 rest => rw [marks.eq_3, List.nil_append]
  | case4 c rest hline hcomment hblock hquote =>
    rw [marks.eq_4 _ _ hline hcomment hblock, if_pos hquote]
    rfl
  | case5 c rest hline hcomment hblock hquote hc =>
    rw [marks.eq_4 _ _ hline hcomment hblock, if_neg hquote, if_pos hc]
    rfl
  | case6 c rest hline hcomment hblock hquote hc hblank =>
    rw [marks.eq_4 _ _ hline hcomment hblock, if_neg hquote, if_neg hc, if_pos hblank]
    rfl
  | case7 c rest hline hcomment hblock hquote hc hblank =>
    rw [marks.eq_4 _ _ hline hcomment hblock, if_neg hquote, if_neg hc, if_neg hblank]
    rfl
  | case8 => rw [marks_nil]; rfl

theorem turn_block (rest : List Char) :
    turn ('"' :: '"' :: '"' :: rest) = ([], afterBlock rest) := rfl

theorem turn_quote {quote : Char} {rest : List Char} (hquote : quote = '"' ∨ quote = '\'')
    (hblock : ¬ ∃ t, quote = '"' ∧ rest = '"' :: '"' :: t) :
    turn (quote :: rest) = ([.other], afterQuote quote rest) := by
  rw [turn.eq_4]
  · rcases hquote with rfl | rfl <;> simp
  · rintro t rfl -
    simp at hquote
  · rintro t rfl -
    simp at hquote
  · rintro t rfl rfl
    exact hblock ⟨t, rfl, rfl⟩

theorem turn_word {c : Char} {rest : List Char} (hc : isNameStart c = true) :
    turn (c :: rest) = ([.word (String.ofList (c :: rest.takeWhile isNamePart))],
      rest.dropWhile isNamePart) := by
  have hslash : c ≠ '/' := ne_of_isNameStart hc (by decide)
  have hdouble : c ≠ '"' := ne_of_isNameStart hc (by decide)
  have hsingle : c ≠ '\'' := ne_of_isNameStart hc (by decide)
  rw [turn.eq_4]
  · simp [hdouble, hsingle, hc]
  · exact fun t hc => absurd hc hslash
  · exact fun t hc => absurd hc hslash
  · exact fun t hc => absurd hc hdouble

theorem turn_single {c : Char} {rest : List Char} (hquote : ¬ (c = '"' ∨ c = '\''))
    (hc : isNameStart c = false) (hcomment : ¬ StartsComment (c :: rest)) :
    turn (c :: rest) = (if isAsciiBlank c then [] else [markOf c], rest) := by
  rw [turn.eq_4]
  · rw [if_neg (by simpa using hquote), if_neg (by simp [hc])]
    split <;> rfl
  · rintro t rfl rfl
    exact hcomment ⟨t, .inl rfl⟩
  · rintro t rfl rfl
    exact hcomment ⟨t, .inr rfl⟩
  · rintro t rfl -
    exact hquote (.inl rfl)

theorem turn_blank {c : Char} {rest : List Char} (hc : isAsciiBlank c = true) :
    turn (c :: rest) = ([], rest) := by
  have hcomment : ¬ StartsComment (c :: rest) := by
    rintro ⟨t, heq | heq⟩
    all_goals
      rw [(List.cons.inj heq).1] at hc
      revert hc
      decide
  have hother : ¬ (c = '"' ∨ c = '\'') ∧ isNameStart c = false := by
    rcases isAsciiBlank_cases hc with rfl | rfl | rfl | rfl | rfl <;> decide
  rw [turn_single hother.1 hother.2 hcomment, hc]
  rfl

theorem afterComment_suffix (s : List Char) : afterComment s <:+ s := by
  fun_induction afterComment s with
  | case1 rest => exact ⟨['*', '/'], rfl⟩
  | case2 c rest _ ih => exact ih.trans (List.suffix_cons c rest)
  | case3 => exact List.nil_suffix

theorem afterBlock_suffix (s : List Char) : afterBlock s <:+ s := by
  fun_induction afterBlock s with
  | case1 rest => exact ⟨['"', '"', '"'], rfl⟩
  | case2 c rest ih => exact ih.trans ⟨['\\', c], rfl⟩
  | case3 c rest _ _ ih => exact ih.trans (List.suffix_cons c rest)
  | case4 => exact List.nil_suffix

theorem afterQuote_suffix (quote : Char) (s : List Char) : afterQuote quote s <:+ s := by
  fun_induction afterQuote quote s with
  | case1 => exact List.nil_suffix
  | case2 c rest hc => exact List.suffix_cons c rest
  | case3 c hc hslash d rest ih => exact ih.trans ⟨[c, d], rfl⟩
  | case4 c => exact List.nil_suffix
  | case5 c rest hc hslash ih => exact ih.trans (List.suffix_cons c rest)

/-- A turn takes at least one character, and only from the start of the text. -/
theorem turn_suffix (c : Char) (s : List Char) : (turn (c :: s)).2 <:+ s := by
  generalize heq : c :: s = t
  fun_cases turn t with
  | case1 rest =>
    obtain ⟨rfl, rfl⟩ := List.cons.inj heq
    exact (List.dropWhile_suffix _).trans (List.suffix_cons '/' rest)
  | case2 rest =>
    obtain ⟨rfl, rfl⟩ := List.cons.inj heq
    exact (afterComment_suffix rest).trans (List.suffix_cons '*' rest)
  | case3 rest =>
    obtain ⟨rfl, rfl⟩ := List.cons.inj heq
    exact (afterBlock_suffix rest).trans ⟨['"', '"'], rfl⟩
  | case4 d rest _ _ _ hquote =>
    obtain ⟨rfl, rfl⟩ := List.cons.inj heq
    exact afterQuote_suffix c s
  | case5 d rest =>
    obtain ⟨rfl, rfl⟩ := List.cons.inj heq
    exact List.dropWhile_suffix _
  | case6 d rest =>
    obtain ⟨rfl, rfl⟩ := List.cons.inj heq
    exact List.suffix_refl s
  | case7 d rest =>
    obtain ⟨rfl, rfl⟩ := List.cons.inj heq
    exact List.suffix_refl s
  | case8 => cases heq

end AnnotationIndex.Java
