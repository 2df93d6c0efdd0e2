import AnnotationIndex.Java.Token
import AnnotationIndex.Proofs.Java.HeaderNames
import AnnotationIndex.Proofs.Java.ScanTurns

/-!
# Marks of parts of a text

The scan for headers reads a text character by character. Where no literal and no comment begins,
and no word goes on, the marks of a text are those of its parts. Gaps leave no marks, and numbers
leave neither brackets nor quotes.
-/

namespace AnnotationIndex.Java

open Header

def isPlain (c : Char) : Bool := !(c == '"' || c == '\'' || c == '/')

/-- A word may run on from the end of one text into the other. -/
def RunsOn (text rest : List Char) : Prop :=
  (∃ c ∈ text.getLast?, isNamePart c = true) ∧ ∃ c ∈ rest.head?, isNamePart c = true

theorem marks_word {c : Char} {rest : List Char} (hc : isNameStart c = true) :
    marks (c :: rest) = .word (String.ofList (c :: rest.takeWhile isNamePart)) ::
      marks (rest.dropWhile isNamePart) := by
  rw [marks_eq_turn, turn_word hc, List.singleton_append]

theorem marks_sign {c : Char} {rest : List Char} (hquote : c ≠ '"' ∧ c ≠ '\'')
    (hc : isNameStart c = false) (hblank : isAsciiBlank c = false)
    (hcomment : ¬ StartsComment (c :: rest)) : marks (c :: rest) = markOf c :: marks rest := by
  rw [marks_eq_turn, turn_single (not_or.2 hquote) hc hcomment, hblank]
  rfl

theorem not_isNamePart_of_blank {c : Char} (h : isAsciiBlank c = true) : isNamePart c = false := by
  rcases isAsciiBlank_cases h with rfl | rfl | rfl | rfl | rfl <;> decide

theorem marks_blank {c : Char} {rest : List Char} (hc : isAsciiBlank c = true) :
    marks (c :: rest) = marks rest := by
  rw [marks_eq_turn, turn_blank hc, List.nil_append]

theorem marks_quote {quote : Char} {rest : List Char} (hquote : quote = '"' ∨ quote = '\'')
    (hblock : ¬ ∃ t, quote = '"' ∧ rest = '"' :: '"' :: t) :
    marks (quote :: rest) = .other :: marks (afterQuote quote rest) := by
  rw [marks_eq_turn, turn_quote hquote hblock, List.singleton_append]

private theorem takeWhile_part {text rest : List Char} {c : Char}
    (hboundary : ¬ RunsOn (c :: text) rest) (hc : isNamePart c = true) :
    (text ++ rest).takeWhile isNamePart = text.takeWhile isNamePart ∧
      (text ++ rest).dropWhile isNamePart = text.dropWhile isNamePart ++ rest := by
  induction text generalizing c with
  | nil =>
    cases rest with
    | nil => simp
    | cons d rest =>
      have hd : isNamePart d = false := by
        rw [Bool.eq_false_iff]
        intro hd
        exact hboundary ⟨⟨c, rfl, hc⟩, ⟨d, rfl, hd⟩⟩
      simp [hd]
  | cons d text ih =>
    cases hd : isNamePart d with
    | false => simp [hd]
    | true =>
      have hboundary' : ¬ RunsOn (d :: text) rest := by
        intro hruns
        refine hboundary ⟨?_, hruns.2⟩
        simpa [List.getLast?_cons_cons] using hruns.1
      obtain ⟨htake, hdrop⟩ := ih hboundary' hd
      simp [hd, htake, hdrop]

theorem RunsOn.of_suffix (front : List Char) {text rest : List Char} (h : RunsOn text rest) :
    RunsOn (front ++ text) rest := by
  obtain ⟨⟨c, hc, hpart⟩, hrest⟩ := h
  exact ⟨⟨c, by simp [List.getLast?_append, Option.mem_def.1 hc], hpart⟩, hrest⟩

theorem marks_append {text rest : List Char} (hplain : ∀ c ∈ text, isPlain c = true)
    (hboundary : ¬ RunsOn text rest) : marks (text ++ rest) = marks text ++ marks rest := by
  induction hlength : text.length using Nat.strongRecOn generalizing text with
  | ind n ih =>
    cases text with
    | nil => simp [marks_nil]
    | cons c text =>
      obtain ⟨hc, htext⟩ := List.forall_mem_cons.1 hplain
      have hne : c ≠ '"' ∧ c ≠ '\'' ∧ c ≠ '/' := by
        simpa [isPlain, and_assoc] using hc
      have hcomment : ∀ s, ¬ StartsComment (c :: s) := by
        rintro s ⟨t, h | h⟩
        · exact hne.2.2 (List.cons.inj h).1
        · exact hne.2.2 (List.cons.inj h).1
      have hrest : marks (text ++ rest) = marks text ++ marks rest := by
        refine ih text.length (by simp [← hlength]) htext ?_ rfl
        exact fun hruns => hboundary (RunsOn.of_suffix [c] hruns)
      rw [List.cons_append]
      cases hstart : isNameStart c with
      | true =>
        obtain ⟨htake, hdrop⟩ := takeWhile_part hboundary (isNamePart_of_isNameStart hstart)
        have hsplit := List.takeWhile_append_dropWhile (p := isNamePart) (l := text)
        have hafter : marks (text.dropWhile isNamePart ++ rest) =
            marks (text.dropWhile isNamePart) ++ marks rest := by
          refine ih (text.dropWhile isNamePart).length ?_ ?_ ?_ rfl
          · have := (List.dropWhile_sublist isNamePart (l := text)).length_le
            rw [← hlength, List.length_cons]
            omega
          · exact fun d hd => htext d ((List.dropWhile_sublist _).subset hd)
          · intro hruns
            apply hboundary
            have hsuffix := RunsOn.of_suffix (c :: text.takeWhile isNamePart) hruns
            rwa [List.cons_append, hsplit] at hsuffix
        rw [marks_word hstart, marks_word hstart, htake, hdrop, hafter, List.cons_append]
      | false =>
        cases hblank : isAsciiBlank c with
        | true => rw [marks_blank hblank, marks_blank hblank, hrest]
        | false =>
          rw [marks_sign ⟨hne.1, hne.2.1⟩ hstart hblank (hcomment _),
            marks_sign ⟨hne.1, hne.2.1⟩ hstart hblank (hcomment _), hrest, List.cons_append]

theorem afterComment_of_blockComment? {s taken rest : List Char}
    (h : blockComment? s = some (taken, rest)) : afterComment s = rest ∧ s = taken ++ rest := by
  fun_induction blockComment? s generalizing taken with
  | case1 t =>
    cases h
    simp [afterComment]
  | case2 c t hne ih =>
    obtain ⟨⟨inner, r⟩, hr, heq⟩ := Option.map_eq_some_iff.1 h
    cases heq
    obtain ⟨hafter, hsplit⟩ := ih hr
    refine ⟨?_, by rw [hsplit, List.cons_append]⟩
    rw [afterComment.eq_2, hafter]
    rintro u rfl rfl
    exact hne u rfl rfl
  | case3 => cases h

theorem isAsciiBlank_of_isSpace {c : Char} (h : isSpace c = true) (hne : c ≠ '\x0b') :
    isAsciiBlank c = true := by
  have hcases : c = ' ' ∨ c = '\t' ∨ c = '\n' ∨ c = '\r' ∨ c = '\x0b' ∨ c = '\x0c' := by
    simpa [isSpace, or_assoc] using h
  rcases hcases with rfl | rfl | rfl | rfl | rfl | rfl
  all_goals first | exact absurd rfl hne | decide

theorem marks_takeGap {s gap rest : List Char} (h : takeGap? s = some (gap, rest))
    (hvertical : '\x0b' ∉ s) : s = gap ++ rest ∧ marks s = marks rest ∧ ¬ StartsComment rest ∧
      (∀ c ∈ rest.head?, isSpace c = false) ∧ (gap ≠ [] → ∀ c ∈ s.head?, isNamePart c = false) := by
  fun_induction takeGap? s generalizing gap with
  | case1 t inner =>
    rename_i ih
    obtain ⟨⟨g, r⟩, hr, heq⟩ := Option.map_eq_some_iff.1 h
    cases heq
    have hsplit := List.takeWhile_append_dropWhile (p := (· != '\n')) (l := t)
    have hvertical' : '\x0b' ∉ t.dropWhile (· != '\n') := by
      intro hmem
      have := (List.dropWhile_sublist (· != '\n')).subset hmem
      simp [this] at hvertical
    obtain ⟨hs, hmarks, hcomment, hspace, -⟩ := ih hr hvertical'
    refine ⟨?_, ?_, hcomment, hspace, ?_⟩
    · simp only [List.cons_append, List.append_assoc]
      rw [← hs, hsplit]
    · rw [marks.eq_1, hmarks]
    · rintro - c hc
      cases hc
      decide
  | case2 t inner r hcomment ih =>
    obtain ⟨⟨g, r'⟩, hr, heq⟩ := Option.map_eq_some_iff.1 h
    cases heq
    obtain ⟨hafter, hsplit⟩ := afterComment_of_blockComment? hcomment
    have hvertical' : '\x0b' ∉ r := by
      intro hmem
      simp [hsplit, hmem] at hvertical
    obtain ⟨hs, hmarks, hcomment, hspace, -⟩ := ih hr hvertical'
    refine ⟨?_, ?_, hcomment, hspace, ?_⟩
    · simp only [List.cons_append, List.append_assoc]
      rw [← hs, hsplit]
    · rw [marks.eq_2, hafter, hmarks]
    · rintro - c hc
      cases hc
      decide
  | case3 => cases h
  | case4 c t hline hblock hspace ih =>
    obtain ⟨⟨g, r⟩, hr, heq⟩ := Option.map_eq_some_iff.1 h
    cases heq
    have hne : c ≠ '\x0b' ∧ '\x0b' ∉ t := by
      simpa [eq_comm] using hvertical
    obtain ⟨hs, hmarks, hcomment, hafter, -⟩ := ih hr hne.2
    have hblank := isAsciiBlank_of_isSpace hspace hne.1
    refine ⟨?_, ?_, hcomment, hafter, ?_⟩
    · rw [List.cons_append, ← hs]
    · rw [marks_blank hblank, hmarks]
    · rintro - d hd
      cases hd
      exact not_isNamePart_of_blank hblank
  | case5 c t hline hblock hspace =>
    cases h
    refine ⟨rfl, rfl, ?_, ?_, fun hne => absurd rfl hne⟩
    · rintro ⟨u, heq | heq⟩
      · cases heq
        exact hline _ rfl rfl
      · cases heq
        exact hblock _ rfl rfl
    · intro d hd
      cases hd
      simpa using hspace
  | case6 =>
    cases h
    simp [StartsComment]

def isNumeral (c : Char) : Bool := isNamePart c || c == '.' || c == '+' || c == '-'

/-- What a matcher takes stands at the start of the text and has the characters of a class. -/
def Matcher.Takes (p : Char → Bool) (m : Matcher) : Prop :=
  ∀ s a, m s = some a → a <+: s ∧ ∀ c ∈ a, p c = true

namespace Matcher

variable {p q : Char → Bool} {m n : Matcher} {s t : List Char}

theorem andThen_eq_some (h : m.andThen n s = some t) :
    ∃ a b, m s = some a ∧ n (s.drop a.length) = some b ∧ t = a ++ b := by
  obtain ⟨a, ha, hrest⟩ := Option.bind_eq_some_iff.1 h
  obtain ⟨b, hb, ht⟩ := Option.bind_eq_some_iff.1 hrest
  exact ⟨a, b, ha, hb, (Option.some.inj ht).symm⟩

theorem optional_eq_some (h : m.optional s = some t) : t = [] ∨ m s = some t := by
  cases hs : m s with
  | none =>
    simp only [Matcher.optional, hs, Option.getD_none, Option.some.injEq] at h
    exact .inl h.symm
  | some a =>
    simp only [Matcher.optional, hs, Option.getD_some] at h
    exact .inr h

theorem one_eq_some (h : one p s = some t) : ∃ c rest, s = c :: rest ∧ p c = true ∧ t = [c] := by
  cases s with
  | nil => cases h
  | cons c rest =>
    simp only [one] at h
    split at h
    · rename_i hc
      exact ⟨c, rest, rfl, hc, (Option.some.inj h).symm⟩
    · cases h

theorem longer_eq_some (h : m.longer n s = some t) : m s = some t ∨ n s = some t := by
  unfold Matcher.longer at h
  split at h
  · rename_i a b ha hb
    split at h
    · exact .inr (hb.trans h)
    · exact .inl (ha.trans h)
  · rename_i a ha hb
    exact .inl (ha.trans h)
  · exact .inr h

theorem Takes.mono (h : m.Takes q) (hsub : ∀ c, q c = true → p c = true) : m.Takes p :=
  fun s a ha => ⟨(h s a ha).1, fun c hc => hsub c ((h s a ha).2 c hc)⟩

theorem Takes.andThen (hm : m.Takes p) (hn : n.Takes p) : (m.andThen n).Takes p := by
  intro s ab h
  obtain ⟨a, b, ha, hb, rfl⟩ := andThen_eq_some h
  obtain ⟨⟨rest, rfl⟩, hpa⟩ := hm s a ha
  rw [List.drop_left] at hb
  obtain ⟨hbegins, hpb⟩ := hn rest b hb
  refine ⟨(List.prefix_append_right_inj a).2 hbegins, ?_⟩
  intro c hc
  exact (List.mem_append.1 hc).elim (hpa c) (hpb c)

theorem Takes.optional (hm : m.Takes p) : m.optional.Takes p := by
  intro s a h
  rcases optional_eq_some h with rfl | ha
  · exact ⟨List.nil_prefix, by simp⟩
  · exact hm s a ha

theorem takes_one : (one p).Takes p := by
  intro s a h
  obtain ⟨c, rest, rfl, hc, rfl⟩ := one_eq_some h
  exact ⟨⟨rest, rfl⟩, by simpa using hc⟩

theorem Takes.longer (hm : m.Takes p) (hn : n.Takes p) : (m.longer n).Takes p :=
  fun s a h => (longer_eq_some h).elim (hm s a) (hn s a)

end Matcher

theorem singleGroups_begins (s : List Char) : singleGroups s <+: s := by
  fun_induction singleGroups s with
  | case1 c rest hc => exact List.nil_prefix
  | case2 c rest hc ih => exact (List.prefix_append_right_inj ['_', c]).2 ih
  | case3 => exact List.nil_prefix
  | case4 c rest _ _ ih => exact (List.prefix_append_right_inj [c]).2 ih
  | case5 => exact List.nil_prefix

open Matcher

theorem takes_digitGroups {p : Char → Bool} :
    (digitGroups p).Takes fun c => p c || c == '_' := by
  intro s a h
  cases s with
  | nil => cases h
  | cons c rest =>
    simp only [digitGroups] at h
    split at h
    · cases h
      have hgroups := singleGroups_begins ((c :: rest).takeWhile fun c => p c || c == '_')
      refine ⟨hgroups.trans (List.takeWhile_prefix _), ?_⟩
      intro d hd
      exact List.all_eq_true.1 List.all_takeWhile d (hgroups.subset hd)
    · cases h

theorem dropEnd_begins (p : Char → Bool) (s : List Char) :
    (s.reverse.dropWhile p).reverse <+: s := by
  have h := List.dropWhile_suffix p (l := s.reverse)
  rw [← List.reverse_prefix, List.reverse_reverse] at h
  exact h

theorem takes_decimalDigits : decimalDigits.Takes fun c => c.isDigit || c == '_' := by
  intro s a h
  unfold decimalDigits at h
  split at h
  · rename_i rest
    cases h
    exact ⟨⟨rest, rfl⟩, List.forall_mem_singleton.2 rfl⟩
  · rename_i c rest _
    split at h
    · rename_i hc
      split at h
      · cases h
        exact ⟨⟨rest, rfl⟩, by simp [hc]⟩
      · cases h
        have htake := List.takeWhile_prefix (fun c => c.isDigit || c == '_') (l := rest)
        have hmore := dropEnd_begins (· == '_') (rest.takeWhile fun c => c.isDigit || c == '_')
        refine ⟨(List.prefix_append_right_inj [c]).2 (hmore.trans htake), ?_⟩
        intro d hd
        rcases List.mem_cons.1 hd with rfl | hd
        · simp [hc]
        · exact List.all_eq_true.1 List.all_takeWhile d (hmore.subset hd)
    · cases h
  · cases h

theorem takes_char {c : Char} (hc : isNumeral c = true) :
    (one (· == c)).Takes isNumeral := by
  refine takes_one.mono ?_
  intro d hd
  rw [beq_iff_eq.1 hd]
  exact hc

theorem takes_either {c d : Char} (hc : isNumeral c = true) (hd : isNumeral d = true) :
    (one fun x => x == c || x == d).Takes isNumeral := by
  refine takes_one.mono ?_
  intro x hx
  rcases (Bool.or_eq_true_iff).1 hx with hx | hx
  · rw [beq_iff_eq.1 hx]
    exact hc
  · rw [beq_iff_eq.1 hx]
    exact hd

theorem isNumeral_of_isDigit {c : Char} (h : c.isDigit = true) : isNumeral c = true := by
  simp [isNumeral, isNamePart, h]

theorem isNumeral_of_isAlpha {c : Char} (h : c.isAlpha = true) : isNumeral c = true := by
  simp [isNumeral, isNamePart, isNameStart, h]

theorem isNumeral_of_isHexDigit {c : Char} (h : isHexDigit c = true) : isNumeral c = true := by
  simp only [isHexDigit, Bool.or_eq_true, Bool.and_eq_true, decide_eq_true_eq] at h
  rcases h with (h | h) | h
  · exact isNumeral_of_isDigit h
  · have hf : c ≤ 'z' := Char.le_trans h.2 (by decide)
    have hlower : c.isLower = true :=
      Bool.and_eq_true_iff.2 ⟨decide_eq_true h.1, decide_eq_true hf⟩
    exact isNumeral_of_isAlpha (Bool.or_eq_true_iff.2 (.inr hlower))
  · have hf : c ≤ 'Z' := Char.le_trans h.2 (by decide)
    have hupper : c.isUpper = true := decide_eq_true ⟨h.1, hf⟩
    exact isNumeral_of_isAlpha (Bool.or_eq_true_iff.2 (.inl hupper))

theorem isNumeral_of_isOctalDigit {c : Char} (h : isOctalDigit c = true) : isNumeral c = true := by
  simp only [isOctalDigit, Bool.and_eq_true, decide_eq_true_eq] at h
  apply isNumeral_of_isDigit
  simp only [Char.isDigit, Bool.and_eq_true, decide_eq_true_eq]
  have hf : c ≤ '9' := Char.le_trans h.2 (by decide)
  exact ⟨h.1, hf⟩

theorem takes_groups {p : Char → Bool} (hp : ∀ c, p c = true → isNumeral c = true) :
    (digitGroups p).Takes isNumeral := by
  refine takes_digitGroups.mono ?_
  intro c hc
  rcases (Bool.or_eq_true_iff).1 hc with hc | hc
  · exact hp c hc
  · rw [beq_iff_eq.1 hc]
    decide

theorem takes_decimal : decimalDigits.Takes isNumeral := by
  refine takes_decimalDigits.mono ?_
  intro c hc
  rcases (Bool.or_eq_true_iff).1 hc with hc | hc
  · exact isNumeral_of_isDigit hc
  · rw [beq_iff_eq.1 hc]
    decide

theorem isNumeral_of_binaryDigit {c : Char} (h : (c == '0' || c == '1') = true) :
    isNumeral c = true := by
  rcases (Bool.or_eq_true_iff).1 h with h | h
  · rw [beq_iff_eq.1 h]
    decide
  · rw [beq_iff_eq.1 h]
    decide

theorem takes_integerLiteral : integerLiteral.Takes isNumeral := by
  have hsuffix : (optional (one fun c => c == 'l' || c == 'L')).Takes isNumeral :=
    (takes_either (by decide) (by decide)).optional
  have hzero : (one (· == '0')).Takes isNumeral := takes_char (by decide)
  unfold integerLiteral
  refine Takes.longer (takes_decimal.andThen hsuffix)
    (Takes.longer ?hex (Takes.longer ?octal ?binary))
  case hex =>
    exact hzero.andThen ((takes_either (by decide) (by decide)).andThen
      ((takes_groups @isNumeral_of_isHexDigit).andThen hsuffix))
  case octal =>
    exact hzero.andThen ((takes_either (by decide) (by decide)).optional.andThen
      ((takes_groups @isNumeral_of_isOctalDigit).andThen hsuffix))
  case binary =>
    exact hzero.andThen ((takes_either (by decide) (by decide)).andThen
      ((takes_groups @isNumeral_of_binaryDigit).andThen hsuffix))

private theorem takes_realSuffix :
    (one fun c => c == 'f' || c == 'F' || c == 'd' || c == 'D').Takes isNumeral := by
  refine takes_one.mono ?_
  intro c hc
  have hcases : c = 'f' ∨ c = 'F' ∨ c = 'd' ∨ c = 'D' := by simpa [or_assoc] using hc
  rcases hcases with rfl | rfl | rfl | rfl <;> decide

theorem takes_realLiteral : realLiteral.Takes isNumeral := by
  have hdigits : (digitGroups Char.isDigit).Takes isNumeral :=
    takes_groups @isNumeral_of_isDigit
  have hdot : (one (· == '.')).Takes isNumeral := takes_char (by decide)
  have hexponent : ((one fun c => c == 'e' || c == 'E').andThen
      ((optional (one fun c => c == '+' || c == '-')).andThen
        (digitGroups Char.isDigit))).Takes isNumeral :=
    (takes_either (by decide) (by decide)).andThen
      ((takes_either (by decide) (by decide)).optional.andThen hdigits)
  have htail := hexponent.optional.andThen takes_realSuffix.optional
  unfold realLiteral
  refine Takes.longer ?pointed (Takes.longer ?fraction (Takes.longer ?scaled ?marked))
  case pointed => exact hdigits.andThen (hdot.andThen (hdigits.optional.andThen htail))
  case fraction => exact hdot.andThen (hdigits.andThen htail)
  case scaled => exact takes_decimal.andThen (hexponent.andThen takes_realSuffix.optional)
  case marked => exact takes_decimal.andThen (hexponent.optional.andThen takes_realSuffix)

theorem takes_hexRealLiteral : hexRealLiteral.Takes isNumeral := by
  have hdigits : (digitGroups isHexDigit).Takes isNumeral :=
    takes_groups @isNumeral_of_isHexDigit
  have hdot : (one (· == '.')).Takes isNumeral := takes_char (by decide)
  have hzero : (one (· == '0')).Takes isNumeral := takes_char (by decide)
  unfold hexRealLiteral
  refine hzero.andThen (Takes.andThen (takes_either (by decide) (by decide))
    (Takes.andThen (Takes.longer ?whole ?pointed) (Takes.optional ?power)))
  case whole => exact hdigits.andThen hdot.optional
  case pointed => exact hdigits.optional.andThen (hdot.andThen hdigits)
  case power =>
    exact (takes_either (by decide) (by decide)).andThen
      ((takes_either (by decide) (by decide)).optional.andThen
        (takes_decimal.andThen takes_realSuffix.optional))

private theorem mem_of_longest {cs : List (TokenKind × List Char)}
    {best : Option (TokenKind × List Char)} {c : TokenKind × List Char}
    (h : cs.foldl (fun best c =>
      match best with
      | some b => if b.2.length < c.2.length then some c else some b
      | none => some c) best = some c) : c ∈ cs ∨ best = some c := by
  induction cs generalizing best with
  | nil => exact .inr h
  | cons d cs ih =>
    rcases ih h with hmem | hbest
    · exact .inl (List.mem_cons_of_mem d hmem)
    · simp only at hbest
      split at hbest
      · split at hbest
        · cases hbest
          exact .inl List.mem_cons_self
        · exact .inr hbest
      · cases hbest
        exact .inl List.mem_cons_self

theorem number?_match {s taken : List Char} {kind : TokenKind}
    (h : number? s = some (kind, taken)) :
    (kind = .integer ∧ integerLiteral s = some taken) ∨
      (kind = .real ∧ realLiteral s = some taken) ∨
        (kind = .hexReal ∧ hexRealLiteral s = some taken) := by
  rcases mem_of_longest h with hmem | hnone
  · obtain ⟨⟨k, m⟩, hm, hmatch⟩ := List.mem_filterMap.1 hmem
    obtain ⟨a, ha, heq⟩ := Option.map_eq_some_iff.1 hmatch
    cases heq
    have hmatchers : (kind, m) = (.integer, integerLiteral) ∨ (kind, m) = (.real, realLiteral) ∨
        (kind, m) = (.hexReal, hexRealLiteral) := by simpa using hm
    rcases hmatchers with heq | heq | heq
    · cases heq
      exact .inl ⟨rfl, ha⟩
    · cases heq
      exact .inr (.inl ⟨rfl, ha⟩)
    · cases heq
      exact .inr (.inr ⟨rfl, ha⟩)
  · cases hnone

theorem number?_spec {s taken : List Char} {kind : TokenKind}
    (h : number? s = some (kind, taken)) : taken <+: s ∧ (∀ c ∈ taken, isNumeral c = true) ∧
      (kind = .integer ∨ kind = .real ∨ kind = .hexReal) := by
  rcases number?_match h with ⟨hkind, ha⟩ | ⟨hkind, ha⟩ | ⟨hkind, ha⟩
  · exact ⟨(takes_integerLiteral s _ ha).1, (takes_integerLiteral s _ ha).2, .inl hkind⟩
  · exact ⟨(takes_realLiteral s _ ha).1, (takes_realLiteral s _ ha).2, .inr (.inl hkind)⟩
  · exact ⟨(takes_hexRealLiteral s _ ha).1, (takes_hexRealLiteral s _ ha).2, .inr (.inr hkind)⟩

end AnnotationIndex.Java
