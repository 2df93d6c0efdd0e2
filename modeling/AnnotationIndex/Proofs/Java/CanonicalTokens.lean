import AnnotationIndex.Proofs.Java.CanonicalValues
import AnnotationIndex.Proofs.Java.Tokens

/-!
# The tokens of canonical annotations

The text of a canonical annotation is cut into its tokens. Whether a token is cut off where it ends
depends on the text after it: a word ends before a character that is no part of words, a number
before a bracket or comma. So the tokens of a value are cut off before any text that a value can
stand before, which is proved by induction on the value.
-/

namespace AnnotationIndex.Java

namespace Canonical

/-- A token is cut off before some text. -/
structure IsCut (t : Token) (rest : List Char) : Prop where
  gap : takeGap? (t.gap.toList ++ (t.text.toList ++ rest)) =
    some (t.gap.toList, t.text.toList ++ rest)
  ne : t.text.toList ≠ []
  noNull : '\x00' ∉ t.gap.toList ++ t.text.toList
  lexeme : lexeme? [] (t.text.toList ++ rest) = some (t.kind, t.text.toList, [], rest)

def AreCut : List Token → List Char → Prop
  | [], _ => True
  | t :: ts, rest => IsCut t (spell ts ++ rest) ∧ AreCut ts rest

theorem areCut_append {ts us : List Token} {rest : List Char} :
    AreCut (ts ++ us) rest ↔ AreCut ts (spell us ++ rest) ∧ AreCut us rest := by
  induction ts with
  | nil => simp [AreCut]
  | cons t ts ih => simp [AreCut, ih, spell_append, and_assoc]

theorem tokensFrom?_of_areCut {ts : List Token} (h : AreCut ts []) {fuel : Nat}
    (hfuel : (spell ts).length < fuel) : tokensFrom? fuel [] (spell ts) = some ts := by
  induction ts generalizing fuel with
  | nil =>
    obtain ⟨fuel, rfl⟩ := Nat.exists_eq_add_one_of_ne_zero (Nat.ne_of_gt hfuel)
    simp [tokensFrom?, spell, takeGap?]
  | cons t ts ih =>
    obtain ⟨hcut, hts⟩ := h
    obtain ⟨fuel, rfl⟩ := Nat.exists_eq_add_one_of_ne_zero (Nat.ne_of_gt (Nat.zero_lt_of_lt hfuel))
    have hlength : (spell ts).length < fuel := by
      have hpos := List.length_pos_iff.2 hcut.ne
      rw [spell_cons, List.length_append, List.length_append] at hfuel
      omega
    have hgap := hcut.gap
    have hlexeme := hcut.lexeme
    rw [List.append_nil] at hgap hlexeme
    simp [tokensFrom?, spell_cons, hgap, hcut.ne, hlexeme, ih hts hlength]

theorem noNull_of_areCut {ts : List Token} {rest : List Char} (h : AreCut ts rest) :
    '\x00' ∉ spell ts := by
  induction ts with
  | nil => exact List.not_mem_nil
  | cons t ts ih =>
    rw [spell_cons, List.mem_append]
    exact not_or.2 ⟨h.1.noNull, ih h.2⟩

theorem tokens?_of_areCut {ts : List Token} (h : AreCut ts [])
    (hmark : (spell ts).head? ≠ some '\ufeff') : tokens? (spell ts) = some ts := by
  have hnull : (spell ts).contains '\x00' = false := by simpa using noNull_of_areCut h
  rw [tokens?, if_neg hmark, hnull, if_neg Bool.false_ne_true,
    tokensFrom?_of_areCut h (Nat.lt_succ_self _)]

theorem length_le_spell {ts : List Token} {rest : List Char} (h : AreCut ts rest) :
    ts.length ≤ (spell ts).length := by
  induction ts with
  | nil => exact Nat.zero_le _
  | cons t ts ih =>
    have hpos := List.length_pos_iff.2 h.1.ne
    have hmore := ih h.2
    rw [spell_cons, List.length_cons, List.length_append, List.length_append]
    omega

/-- A text that goes on with no character of a class. -/
def StopsAt (p : Char → Bool) (rest : List Char) : Prop := ∀ c ∈ rest.head?, p c = false

theorem takeWhile_append_of_stops {p : Char → Bool} {s rest : List Char} (hs : ∀ c ∈ s, p c = true)
    (hrest : StopsAt p rest) :
    (s ++ rest).takeWhile p = s ∧ (s ++ rest).dropWhile p = rest := by
  rw [List.takeWhile_append_of_pos hs, List.dropWhile_append_of_pos hs]
  cases rest with
  | nil => simp
  | cons c rest => simp [hrest c rfl]

theorem apart_of_isWordStart {c : Char} (h : isWordStart c = true) :
    c ∉ ['"', '\'', '/', '.', ' ', '\t', '\n', '\r', '\x0b', '\x0c'] ∧ c.isDigit = false := by
  refine ⟨fun hmem => ?_, ?_⟩
  · have hnone : (['"', '\'', '/', '.', ' ', '\t', '\n', '\r', '\x0b', '\x0c'].all
        (! isWordStart ·)) = true := by
      decide
    have hc := List.all_eq_true.1 hnone c hmem
    rw [h] at hc
    cases hc
  · rw [← Bool.not_eq_true]
    intro hdigit
    obtain ⟨d, hd, rfl⟩ := exists_digitChar hdigit
    have hnone : ∀ d < 10, isWordStart (Nat.digitChar d) = false := by decide
    rw [hnone d hd] at h
    cases h

theorem lexeme?_word {c : Char} {more rest : List Char} (hc : isWordStart c = true)
    (hmore : ∀ d ∈ more, isWordPart d = true) (hrest : StopsAt isWordPart rest) :
    lexeme? [] (c :: more ++ rest) = some (.word, c :: more, [], rest) := by
  have hparts : ∀ d ∈ c :: more, isWordPart d = true :=
    List.forall_mem_cons.2 ⟨isWordPart_of_isWordStart hc, hmore⟩
  obtain ⟨htake, hdrop⟩ := takeWhile_append_of_stops hparts hrest
  have hapart := (apart_of_isWordStart hc).1
  rw [List.cons_append] at htake hdrop ⊢
  unfold lexeme?
  split
  case h_4 heq =>
    cases heq
    rw [if_pos hc, htake, hdrop]
  case h_5 heq => cases heq
  all_goals
    rename_i heq
    obtain ⟨rfl, -⟩ := List.cons.inj heq
    simp at hapart

theorem takeGap?_apart {c : Char} (hc : isSpace c = false) (hslash : c ≠ '/') (rest : List Char) :
    takeGap? (c :: rest) = some ([], c :: rest) := by
  refine takeGap?_none ?_ ?_
  · rintro ⟨t, h | h⟩ <;> cases h <;> exact hslash rfl
  · rintro d ⟨⟩
    exact hc

def IsGap (gap : String) : Prop := gap = "" ∨ gap = " "

/-- A token without blanks and slashes at its start is cut off if its text is a lexeme. -/
theorem isCut_of_lexeme {gap : String} (hgap : IsGap gap) {kind : TokenKind} {c : Char}
    {more rest : List Char} (hspace : isSpace c = false) (hslash : c ≠ '/')
    (hnull : '\x00' ∉ c :: more)
    (h : lexeme? [] (c :: more ++ rest) = some (kind, c :: more, [], rest)) :
    IsCut ⟨gap, kind, String.ofList (c :: more)⟩ rest := by
  have hstart := takeGap?_apart hspace hslash (more ++ rest)
  rcases hgap with rfl | rfl
  · exact ⟨by simpa using hstart, by simp, by simpa using hnull, by simpa using h⟩
  · have hblank : takeGap? (' ' :: c :: (more ++ rest)) = some ([' '], c :: (more ++ rest)) := by
      rw [takeGap?.eq_3]
      · simp [isSpace, hstart]
      all_goals
        rintro t h -
        cases h
    exact ⟨by simpa using hblank, by simp, by simpa using hnull, by simpa using h⟩

theorem isCut_word {gap : String} (hgap : IsGap gap) {c : Char} {more rest : List Char}
    (hc : isWordStart c = true) (hmore : ∀ d ∈ more, isWordPart d = true)
    (hrest : StopsAt isWordPart rest) : IsCut ⟨gap, .word, String.ofList (c :: more)⟩ rest := by
  have hapart := (apart_of_isWordStart hc).1
  refine isCut_of_lexeme hgap ?_ (by simp_all) ?_ (lexeme?_word hc hmore hrest)
  · simp only [List.mem_cons, not_or] at hapart
    simp [isSpace, hapart]
  · have hparts : ∀ d ∈ c :: more, isWordPart d = true :=
      List.forall_mem_cons.2 ⟨isWordPart_of_isWordStart hc, hmore⟩
    exact fun hnull => absurd (hparts _ hnull) (by decide)

theorem isCut_sign {gap : String} (hgap : IsGap gap) {c : Char}
    (hc : c ∈ ['(', ')', '\x7b', '\x7d', '@', ',']) (rest : List Char) :
    IsCut ⟨gap, .symbol, String.singleton c⟩ rest := by
  have hsign : isSpace c = false ∧ c ≠ '/' ∧ '\x00' ≠ c ∧
      lexeme? [] (c :: rest) = some (.symbol, [c], [], rest) := by
    simp only [List.mem_cons, List.not_mem_nil, or_false] at hc
    rcases hc with rfl | rfl | rfl | rfl | rfl | rfl <;> exact ⟨by decide, by decide, by decide, rfl⟩
  obtain ⟨hspace, hslash, hnull, hlexeme⟩ := hsign
  exact isCut_of_lexeme hgap hspace hslash (by simpa using hnull) hlexeme

theorem isCut_assign (rest : List Char) : IsCut ⟨" ", .symbol, "="⟩ (' ' :: rest) :=
  isCut_of_lexeme (.inr rfl) (by decide) (by decide) (by decide) rfl

section Numbers

open Matcher

variable {m n : Matcher} {s a b : List Char}

theorem andThen_none (h : m s = none) : (m.andThen n) s = none := by
  simp [andThen, h]

theorem andThen_some (h : m s = some a) : (m.andThen n) s = (n (s.drop a.length)).map (a ++ ·) := by
  simp only [Matcher.andThen, h, Option.bind_eq_bind, Option.bind_some, Option.map_eq_bind]
  rfl

theorem andThen_rest (h : m (a ++ s) = some a) (hn : n s = none) :
    (m.andThen n) (a ++ s) = none := by
  rw [andThen_some h, List.drop_left, hn]
  rfl

theorem longer_none (h : n s = none) : (m.longer n) s = m s := by
  unfold Matcher.longer
  rw [h]
  cases m s <;> rfl

theorem one_of_stops {p : Char → Bool} (h : StopsAt p s) : one p s = none := by
  cases s with
  | nil => rfl
  | cons c s => simp [one, h c rfl]

theorem digitGroups_of_stops {p : Char → Bool} (h : StopsAt p s) : digitGroups p s = none := by
  cases s with
  | nil => rfl
  | cons c s => simp [digitGroups, h c rfl]

theorem optional_of_none (h : m s = none) : optional m s = some [] := by
  rw [Matcher.optional, h]
  rfl

def goesOnNumber (c : Char) : Bool := c.isAlphanum || c == '_' || c == '.'

theorem StopsAt.mono {p q : Char → Bool} (h : StopsAt q s) (hp : ∀ c, p c = true → q c = true) :
    StopsAt p s := by
  intro c hc
  rw [← Bool.not_eq_true]
  intro hpc
  exact absurd (hp c hpc) (by rw [h c hc]; decide)

structure IsNumber (ds rest : List Char) : Prop where
  ne : ds ≠ []
  digits : ∀ c ∈ ds, c.isDigit = true
  zero : ds.head? = some '0' → ds = ['0']
  stops : StopsAt goesOnNumber rest

variable {ds rest : List Char}

theorem IsNumber.stops_digits (h : IsNumber ds rest) :
    StopsAt (fun c => c.isDigit || c == '_') rest := by
  refine h.stops.mono fun c hc => ?_
  simp only [Bool.or_eq_true] at hc
  rcases hc with hc | hc
  · simp [goesOnNumber, Char.isAlphanum, hc]
  · simp [goesOnNumber, hc]

theorem IsNumber.stops_mem (h : IsNumber ds rest) {p : Char → Bool} (cs : List Char)
    (hp : ∀ c, p c = true → c ∈ cs) (hcs : cs.all goesOnNumber = true) : StopsAt p rest :=
  h.stops.mono fun c hc => List.all_eq_true.1 hcs c (hp c hc)

theorem IsNumber.takeWhile_eq (h : IsNumber ds rest) :
    (ds ++ rest).takeWhile (fun c => c.isDigit || c == '_') = ds :=
  (takeWhile_append_of_stops (fun d hd => by simp [h.digits d hd]) h.stops_digits).1

theorem singleGroups_of_digits {s : List Char} (h : ∀ c ∈ s, c.isDigit = true) :
    singleGroups s = s := by
  induction s with
  | nil => rfl
  | cons c s ih =>
    obtain ⟨hc, hs⟩ := List.forall_mem_cons.1 h
    have hne : c ≠ '_' := by
      rintro rfl
      cases hc
    rw [singleGroups]
    · rw [ih hs]
    · rintro d t rfl
      exact absurd rfl hne
    · rintro rfl
      exact absurd rfl hne

theorem digitGroups_of_isNumber (h : IsNumber ds rest) :
    digitGroups Char.isDigit (ds ++ rest) = some ds := by
  have htake := h.takeWhile_eq
  obtain ⟨c, ds, rfl⟩ := List.exists_cons_of_ne_nil h.ne
  rw [List.cons_append] at htake ⊢
  rw [digitGroups, if_pos (h.digits c List.mem_cons_self), htake, singleGroups_of_digits h.digits]

theorem decimalDigits_of_isNumber (h : IsNumber ds rest) : decimalDigits (ds ++ rest) = some ds := by
  have htake := h.takeWhile_eq
  obtain ⟨c, ds, rfl⟩ := List.exists_cons_of_ne_nil h.ne
  obtain ⟨hc, hds⟩ := List.forall_mem_cons.1 h.digits
  by_cases hzero : c = '0'
  · subst hzero
    cases h.zero rfl
    rfl
  · rw [List.cons_append, List.takeWhile_cons_of_pos (by simp [hc])] at htake
    obtain htake := (List.cons.inj htake).2
    have hplain : ∀ d ∈ ds, (d == '_') = false := by
      intro d hd
      rw [beq_eq_false_iff_ne]
      rintro rfl
      exact absurd (hds _ hd) (by decide)
    rw [List.cons_append]
    unfold decimalDigits
    split
    · rename_i heq
      exact absurd (List.cons.inj heq).1 hzero
    · rename_i heq
      obtain ⟨rfl, rfl⟩ := List.cons.inj heq
      rw [if_pos hc, htake]
      split
      · exact absurd (hplain '_' List.mem_cons_self) (by decide)
      · have hend := Text.dropEndWhile_of_last fun d hd => hplain d (List.mem_of_getLast? hd)
        exact congrArg (fun more => some (c :: more)) hend
    · rename_i heq
      cases heq

theorem zero_andThen_of_isNumber (h : IsNumber ds rest) (hn : n rest = none) :
    ((one (· == '0')).andThen n) (ds ++ rest) = none := by
  obtain ⟨c, ds, rfl⟩ := List.exists_cons_of_ne_nil h.ne
  by_cases hzero : c = '0'
  · subst hzero
    cases h.zero rfl
    have htake : one (· == '0') (['0'] ++ rest) = some ['0'] := rfl
    exact andThen_rest htake hn
  · exact andThen_none (by simp [one, hzero])

theorem isDigit_of_isOctalDigit {c : Char} (h : isOctalDigit c = true) : c.isDigit = true := by
  simp only [isOctalDigit, Bool.and_eq_true, decide_eq_true_eq] at h
  have hnine : c ≤ '9' := Char.le_trans h.2 (by decide)
  simp only [Char.isDigit, Bool.and_eq_true, decide_eq_true_eq]
  exact ⟨h.1, hnine⟩

theorem integerLiteral_of_isNumber (h : IsNumber ds rest) : integerLiteral (ds ++ rest) = some ds := by
  have hhex : StopsAt (fun c => c == 'x' || c == 'X') rest :=
    h.stops_mem ['x', 'X'] (by simp) (by decide)
  have hbit : StopsAt (fun c => c == 'b' || c == 'B') rest :=
    h.stops_mem ['b', 'B'] (by simp) (by decide)
  have hoctal : StopsAt (fun c => c == 'o' || c == 'O') rest :=
    h.stops_mem ['o', 'O'] (by simp) (by decide)
  have hlong : StopsAt (fun c => c == 'l' || c == 'L') rest :=
    h.stops_mem ['l', 'L'] (by simp) (by decide)
  have hdigit : StopsAt isOctalDigit rest := h.stops_digits.mono fun c hc => by
    simp [isDigit_of_isOctalDigit hc]
  unfold integerLiteral
  refine (longer_none ((longer_none ((longer_none ?binary).trans ?octal)).trans ?hex)).trans ?decimal
  case binary => exact zero_andThen_of_isNumber h (andThen_none (one_of_stops hbit))
  case octal =>
    exact zero_andThen_of_isNumber h (andThen_rest (a := [])
      (optional_of_none (one_of_stops hoctal)) (andThen_none (digitGroups_of_stops hdigit)))
  case hex => exact zero_andThen_of_isNumber h (andThen_none (one_of_stops hhex))
  case decimal =>
    refine (andThen_some (decimalDigits_of_isNumber h)).trans ?_
    rw [List.drop_left]
    refine (congrArg _ (optional_of_none (one_of_stops hlong))).trans ?_
    simp

theorem realLiteral_of_isNumber (h : IsNumber ds rest) : realLiteral (ds ++ rest) = none := by
  have hdot : StopsAt (· == '.') rest := h.stops_mem ['.'] (by simp) (by decide)
  have hmark : StopsAt (fun c => c == 'e' || c == 'E') rest :=
    h.stops_mem ['e', 'E'] (by simp) (by decide)
  have hsuffix : StopsAt (fun c => c == 'f' || c == 'F' || c == 'd' || c == 'D') rest :=
    h.stops_mem ['f', 'F', 'd', 'D'] (by simp [or_assoc]) (by decide)
  unfold realLiteral
  refine (longer_none ((longer_none ((longer_none ?marked).trans ?scaled)).trans ?fraction)).trans ?pointed
  case pointed =>
    exact andThen_rest (digitGroups_of_isNumber h) (andThen_none (one_of_stops hdot))
  case fraction =>
    refine andThen_none (one_of_stops ?_)
    obtain ⟨c, ds, rfl⟩ := List.exists_cons_of_ne_nil h.ne
    rintro d ⟨⟩
    rw [beq_eq_false_iff_ne]
    rintro rfl
    exact absurd (h.digits '.' List.mem_cons_self) (by decide)
  case scaled =>
    exact andThen_rest (decimalDigits_of_isNumber h) (andThen_none (andThen_none (one_of_stops hmark)))
  case marked =>
    refine andThen_rest (decimalDigits_of_isNumber h) ?_
    exact andThen_rest (a := []) (optional_of_none (andThen_none (one_of_stops hmark)))
      (one_of_stops hsuffix)

theorem hexRealLiteral_of_isNumber (h : IsNumber ds rest) : hexRealLiteral (ds ++ rest) = none := by
  have hhex : StopsAt (fun c => c == 'x' || c == 'X') rest :=
    h.stops_mem ['x', 'X'] (by simp) (by decide)
  exact zero_andThen_of_isNumber h (andThen_none (one_of_stops hhex))

theorem number?_of_isNumber (h : IsNumber ds rest) : number? (ds ++ rest) = some (.integer, ds) := by
  simp [number?, integerLiteral_of_isNumber h, realLiteral_of_isNumber h,
    hexRealLiteral_of_isNumber h]

theorem number?_point (h : StopsAt Char.isDigit rest) : number? ('.' :: rest) = none := by
  have hint : integerLiteral ('.' :: rest) = none := rfl
  have hhex : hexRealLiteral ('.' :: rest) = none := rfl
  have hpoint : one (· == '.') (['.'] ++ rest) = some ['.'] := rfl
  have hreal : realLiteral ('.' :: rest) = none := by
    unfold realLiteral
    refine (longer_none ?more).trans (andThen_none rfl)
    case more =>
      refine (longer_none ((longer_none (andThen_none rfl)).trans (andThen_none rfl))).trans ?_
      exact andThen_rest hpoint (andThen_none (digitGroups_of_stops h))
  simp [number?, hint, hhex, hreal]

end Numbers

theorem lexeme?_number {ds rest : List Char} (h : IsNumber ds rest) :
    lexeme? [] (ds ++ rest) = some (.integer, ds, [], rest) := by
  have hnumber := number?_of_isNumber h
  obtain ⟨c, ds, rfl⟩ := List.exists_cons_of_ne_nil h.ne
  have hdigit := h.digits c List.mem_cons_self
  have hword : isWordStart c = false := by
    rw [← Bool.not_eq_true]
    intro hc
    rw [(apart_of_isWordStart hc).2] at hdigit
    cases hdigit
  rw [List.cons_append] at hnumber ⊢
  unfold lexeme?
  split
  case h_4 heq =>
    cases heq
    rw [hword, if_neg Bool.false_ne_true]
    simp [hnumber]
  case h_5 heq => cases heq
  all_goals
    rename_i heq
    obtain ⟨rfl, -⟩ := List.cons.inj heq
    cases hdigit

theorem isCut_digits (n : Int64) {gap : String} (hgap : IsGap gap) {rest : List Char}
    (hrest : StopsAt goesOnNumber rest) :
    IsCut ⟨gap, .integer, String.ofList (digits n)⟩ rest := by
  have hdigit : ∀ c ∈ digits n, c.isDigit = true := Json.toDigits_isDigit _
  have hlexeme : lexeme? [] (digits n ++ rest) = some (.integer, digits n, [], rest) :=
    lexeme?_number ⟨Nat.toDigits_ne_nil, hdigit, Json.toDigits_head, hrest⟩
  have hne : digits n ≠ [] := Nat.toDigits_ne_nil
  obtain ⟨c, more, hdigits⟩ := List.exists_cons_of_ne_nil hne
  rw [hdigits] at hdigit hlexeme ⊢
  obtain ⟨d, hd, hc⟩ := exists_digitChar (hdigit c List.mem_cons_self)
  have hplain : ∀ d < 10, isSpace (Nat.digitChar d) = false ∧ Nat.digitChar d ≠ '/' := by decide
  refine isCut_of_lexeme hgap (hc ▸ (hplain d hd).1) (hc ▸ (hplain d hd).2) ?_ hlexeme
  exact fun hnull => absurd (hdigit _ hnull) (by decide)

theorem lexeme?_sign {c : Char} {rest : List Char} (hc : c ∉ ['"', '\''])
    (hword : isWordStart c = false) (hnumber : number? (c :: rest) = none) :
    lexeme? [] (c :: rest) =
      (symbols.find? fun symbol => symbol.toList.isPrefixOf (c :: rest)).map fun symbol =>
        (.symbol, symbol.toList, [], (c :: rest).drop symbol.length) := by
  unfold lexeme?
  split
  case h_4 heq =>
    cases heq
    rw [hword, if_neg Bool.false_ne_true]
    simp [hnumber]
  case h_5 heq => cases heq
  all_goals
    rename_i heq
    obtain ⟨rfl, -⟩ := List.cons.inj heq
    simp at hc

theorem isCut_dot {c : Char} (hc : isWordStart c = true) (rest : List Char) :
    IsCut (sign ".") (c :: rest) := by
  obtain ⟨hapart, hdigit⟩ := apart_of_isWordStart hc
  have hstops : StopsAt Char.isDigit (c :: rest) := by
    rintro d ⟨⟩
    exact hdigit
  have hlexeme : lexeme? [] ('.' :: c :: rest) = some (.symbol, ['.'], [], c :: rest) := by
    rw [lexeme?_sign (by decide) (by decide) (number?_point hstops)]
    have hpoint : c ≠ '.' := by simp_all
    simp [symbols, List.isPrefixOf, hpoint.symm]
    rfl
  exact isCut_of_lexeme (.inl rfl) (by decide) (by decide) (by decide) hlexeme

theorem isCut_minus {gap : String} (hgap : IsGap gap) {c : Char} (hc : c.isDigit = true)
    (rest : List Char) : IsCut ⟨gap, .symbol, "-"⟩ (c :: rest) := by
  have hlexeme : lexeme? [] ('-' :: c :: rest) = some (.symbol, ['-'], [], c :: rest) := by
    rw [lexeme?_sign (by decide) (by decide) rfl]
    have hne : '>' ≠ c ∧ '-' ≠ c ∧ '=' ≠ c := by
      refine ⟨?_, ?_, ?_⟩ <;> rintro rfl <;> cases hc
    simp [symbols, List.isPrefixOf, hne]
    rfl
  exact isCut_of_lexeme hgap (by decide) (by decide) (by decide) hlexeme

theorem stringTail?_escape {c : Char} {rest : List Char} (hbrace : c ≠ '\x7b')
    (h : isEscape c rest = true) :
    stringTail? ('\\' :: c :: rest) =
      (stringTail? rest).map fun p => (p.1, '\\' :: c :: p.2.1, p.2.2) := by
  rw [stringTail?.eq_2 _ _ hbrace, if_pos h]

theorem stringTail?_plain {c : Char} (hslash : c ≠ '\\') (hquote : c ≠ '"') (rest : List Char) :
    stringTail? (c :: rest) = (stringTail? rest).map fun p => (p.1, c :: p.2.1, p.2.2) := by
  rw [stringTail?.eq_4, if_neg (by simpa using hslash)]
  · rintro _ h -
    exact hslash h
  · rintro _ _ h -
    exact hslash h
  · exact hquote

theorem hexDigits_of_isControl {c : Char} (h : isControl c = true) :
    ∀ d ∈ [Nat.digitChar (c.toNat / 16), Nat.digitChar (c.toNat % 16)],
      isHexDigit d = true ∧ d ≠ '\\' ∧ d ≠ '"' := by
  have hdigit : ∀ n < 16, isHexDigit (Nat.digitChar n) = true ∧ Nat.digitChar n ≠ '\\' ∧
      Nat.digitChar n ≠ '"' := by
    decide
  have hsmall : c.toNat < 160 := by
    simp only [isControl, Bool.or_eq_true, Bool.and_eq_true, decide_eq_true_eq] at h
    omega
  intro d hd
  simp only [List.mem_cons, List.not_mem_nil, or_false] at hd
  rcases hd with rfl | rfl
  · exact hdigit _ (by omega)
  · exact hdigit _ (by omega)

theorem stringTail?_escaped (c : Char) (rest : List Char) :
    stringTail? (escaped c ++ rest) =
      (stringTail? rest).map fun p => (p.1, escaped c ++ p.2.1, p.2.2) := by
  unfold escaped
  split
  case h_8 _ hslash hquote _ _ _ _ _ =>
    split
    · rename_i hcontrol
      have hhex := hexDigits_of_isControl hcontrol
      generalize Nat.digitChar (c.toNat / 16) = d at hhex ⊢
      generalize Nat.digitChar (c.toNat % 16) = e at hhex ⊢
      obtain ⟨hd, hdslash, hdquote⟩ := hhex d (by simp)
      obtain ⟨he, heslash, hequote⟩ := hhex e (by simp)
      have hcode : isEscape 'u' ('0' :: '0' :: d :: e :: rest) = true := by
        have hzero : isHexDigit '0' = true := by decide
        simp [isEscape, codeEscape?, hzero, hd, he]
      have hzero (s : List Char) := stringTail?_plain (c := '0') (by decide) (by decide) s
      simp only [List.cons_append, List.nil_append]
      rw [stringTail?_escape (by decide) hcode, hzero, hzero, stringTail?_plain hdslash hdquote,
        stringTail?_plain heslash hequote]
      simp [Function.comp_def]
    · exact stringTail?_plain hslash hquote rest
  all_goals exact stringTail?_escape (by decide) rfl

theorem stringTail?_escapes (text rest : List Char) :
    stringTail? (text.flatMap escaped ++ '"' :: rest) =
      some (.quote, text.flatMap escaped ++ ['"'], rest) := by
  induction text with
  | nil => rfl
  | cons c text ih => rw [List.flatMap_cons, List.append_assoc, stringTail?_escaped, ih]; simp

theorem lexeme?_quoted (text : List Char) {rest : List Char} (hrest : StopsAt (· == '"') rest) :
    lexeme? [] (quoted text ++ rest) = some (.string, quoted text, [], rest) := by
  have htail := stringTail?_escapes text rest
  have hpart : stringPart? [] true false ['"'] (text.flatMap escaped ++ '"' :: rest) =
      some (.string, quoted text, [], rest) := by
    simp [stringPart?, htail, quoted]
  have hstart : ∀ more, text.flatMap escaped ++ '"' :: rest ≠ '"' :: '"' :: more := by
    intro more heq
    cases text with
    | nil =>
      obtain ⟨-, rfl⟩ := List.cons.inj heq
      cases hrest '"' rfl
    | cons c text =>
      obtain ⟨d, s, hescaped, hd⟩ := head?_escaped c
      rw [List.flatMap_cons, hescaped] at heq
      exact hd (List.cons.inj heq).1
  have hquoted : quoted text ++ rest = '"' :: (text.flatMap escaped ++ '"' :: rest) := by
    simp [quoted]
  rw [hquoted]
  unfold lexeme?
  split
  case h_1 more heq => exact absurd (List.cons.inj heq).2 (hstart more)
  case h_2 heq =>
    cases heq
    exact hpart
  case h_3 heq => cases heq
  case h_4 hquote _ heq => exact absurd (List.cons.inj heq).1.symm hquote
  case h_5 heq => cases heq

theorem noNull_quoted (text : List Char) : '\x00' ∉ quoted text := by
  simp only [quoted, List.cons_append, List.mem_cons, List.mem_append, List.mem_flatMap]
  rintro (h | ⟨c, -, h⟩ | h)
  · cases h
  · unfold escaped at h
    split at h
    case h_8 =>
      split at h
      · rename_i hcontrol
        have hhex := hexDigits_of_isControl hcontrol
        simp only [List.mem_cons, List.not_mem_nil, or_false] at h hhex
        rcases h with h | h | h | h | h | h
        iterate 4 cases h
        · exact absurd (hhex _ (.inl h)).1 (by decide)
        · exact absurd (hhex _ (.inr h)).1 (by decide)
      · rename_i hcontrol
        cases List.mem_singleton.1 h
        exact hcontrol (by decide)
    all_goals revert h; decide
  · revert h; decide

theorem isCut_quoted (text : List Char) {gap : String} (hgap : IsGap gap) {rest : List Char}
    (hrest : StopsAt (· == '"') rest) :
    IsCut ⟨gap, .string, String.ofList (quoted text)⟩ rest :=
  isCut_of_lexeme hgap (by decide) (by decide) (noNull_quoted text) (lexeme?_quoted text hrest)

theorem isCut_identifier (i : Identifier) {gap : String} (hgap : IsGap gap) {rest : List Char}
    (hrest : StopsAt isWordPart rest) : IsCut (i.token gap) rest :=
  isCut_word hgap i.starts i.goesOn hrest

theorem StopsAt.cons {p : Char → Bool} {c : Char} (hc : p c = false) (s : List Char) :
    StopsAt p (c :: s) := by
  rintro d ⟨⟩
  exact hc

theorem stopsAt_dotted (is : List Identifier) {rest : List Char} (hrest : StopsAt isWordPart rest) :
    StopsAt isWordPart (dotted is ++ rest) := by
  cases is with
  | nil => exact hrest
  | cons i is => exact .cons (by decide) _

theorem areCut_dotted (is : List Identifier) {rest : List Char} (hrest : StopsAt isWordPart rest) :
    AreCut (dottedTokens is) rest := by
  induction is with
  | nil => trivial
  | cons i is ih =>
    change AreCut (sign "." :: i.token "" :: dottedTokens is) rest
    refine ⟨?_, isCut_identifier i (.inl rfl) ?_, ih⟩
    · rw [spell_cons, Identifier.token, Identifier.toList_text]
      exact isCut_dot i.starts _
    · rw [spell_dotted]
      exact stopsAt_dotted is hrest

theorem areCut_name (n : Name) {gap : String} (hgap : IsGap gap) {rest : List Char}
    (hrest : StopsAt isWordPart rest) : AreCut (n.tokens gap) rest := by
  refine ⟨isCut_identifier n.first hgap ?_, areCut_dotted n.more hrest⟩
  rw [spell_dotted]
  exact stopsAt_dotted n.more hrest

/-- Texts that can come after a value. -/
def Ends (rest : List Char) : Prop := ∃ c ∈ [')', '\x7d', ','], ∃ s, rest = c :: s

theorem Ends.stops {p : Char → Bool} (hp : [')', '\x7d', ','].all (! p ·) = true)
    {rest : List Char} (h : Ends rest) : StopsAt p rest := by
  obtain ⟨c, hc, s, rfl⟩ := h
  exact .cons (Bool.not_eq_true' _ ▸ List.all_eq_true.1 hp c hc) s

theorem Ends.of_mem {c : Char} (hc : c ∈ [')', '\x7d', ',']) (s : List Char) : Ends (c :: s) :=
  ⟨c, hc, s, rfl⟩

/-- The tokens of a value are cut off wherever a value can stand. -/
def IsValueCut (d : Datum) : Prop :=
  ∀ ⦃gap⦄, IsGap gap → ∀ ⦃rest⦄, Ends rest → AreCut (d.tokens gap) rest

theorem isCut_close (rest : List Char) : IsCut (sign ")") rest :=
  isCut_sign (.inl rfl) (c := ')') (by decide) rest

theorem isCut_comma (rest : List Char) : IsCut (sign ",") rest :=
  isCut_sign (.inl rfl) (c := ',') (by decide) rest

theorem areCut_moreItems {ds : List Datum} (h : ∀ d ∈ ds, IsValueCut d) {rest : List Char}
    (hrest : Ends rest) :
    Ends (spell (Datum.tokensOfMoreItems ds) ++ rest) ∧
      AreCut (Datum.tokensOfMoreItems ds) rest := by
  induction ds with
  | nil => exact ⟨hrest, trivial⟩
  | cons d ds ih =>
    obtain ⟨hd, hds⟩ := List.forall_mem_cons.1 h
    obtain ⟨hends, hmore⟩ := ih hds
    rw [Datum.tokensOfMoreItems]
    refine ⟨.of_mem (c := ',') (by decide) _, isCut_comma _, ?_⟩
    exact areCut_append.2 ⟨hd (.inr rfl) hends, hmore⟩

theorem areCut_items {ds : List Datum} (h : ∀ d ∈ ds, IsValueCut d) {rest : List Char}
    (hrest : Ends rest) : AreCut (Datum.tokensOfItems ds) rest := by
  cases ds with
  | nil => trivial
  | cons d ds =>
    obtain ⟨hd, hds⟩ := List.forall_mem_cons.1 h
    obtain ⟨hends, hmore⟩ := areCut_moreItems hds hrest
    exact areCut_append.2 ⟨hd (.inl rfl) hends, hmore⟩

theorem areCut_pair (key : Identifier) {d : Datum} (h : IsValueCut d) {gap : String}
    (hgap : IsGap gap) {rest : List Char} (hrest : Ends rest) :
    AreCut (key.token gap :: ⟨" ", .symbol, "="⟩ :: d.tokens " ") rest := by
  refine ⟨isCut_identifier key hgap (.cons (by decide) _), ?_, h (.inr rfl) hrest⟩
  rw [Datum.spell_tokens]
  exact isCut_assign _

theorem areCut_morePairs {ps : List (Identifier × Datum)} (h : ∀ p ∈ ps, IsValueCut p.2)
    {rest : List Char} (hrest : Ends rest) :
    Ends (spell (Datum.tokensOfMorePairs ps) ++ rest) ∧
      AreCut (Datum.tokensOfMorePairs ps) rest := by
  induction ps with
  | nil => exact ⟨hrest, trivial⟩
  | cons p ps ih =>
    obtain ⟨hp, hps⟩ := List.forall_mem_cons.1 h
    obtain ⟨hends, hmore⟩ := ih hps
    rw [Datum.tokensOfMorePairs]
    refine ⟨.of_mem (c := ',') (by decide) _, isCut_comma _, ?_⟩
    exact (@areCut_append (_ :: _ :: _) _ _).2 ⟨areCut_pair p.1 hp (.inr rfl) hends, hmore⟩

/-- The arguments of an annotation are cut off before any text that no name goes on with, and no
name goes on with them. -/
theorem areCut_arguments (a : Annotation) (h : ∀ d ∈ a.data, IsValueCut d) {rest : List Char}
    (hrest : StopsAt isWordPart rest) :
    StopsAt isWordPart (spell (Datum.tokensOfArguments a.arguments) ++ rest) ∧
      AreCut (Datum.tokensOfArguments a.arguments) rest := by
  have hopen (s : List Char) : IsCut (sign "(") s := isCut_sign (.inl rfl) (c := '(') (by decide) s
  have hclose : Ends (spell [sign ")"] ++ rest) := .of_mem (c := ')') (by decide) _
  obtain ⟨kind, arguments⟩ := a
  match arguments, h with
  | .value d, h =>
    have hd : IsValueCut d := h d (List.mem_singleton_self d)
    refine ⟨.cons (by decide) _, hopen _, ?_⟩
    exact areCut_append.2 ⟨hd (.inl rfl) hclose, isCut_close _, trivial⟩
  | .pairs [], _ => exact ⟨hrest, trivial⟩
  | .pairs ((key, d) :: ps), h =>
    obtain ⟨hd, hps⟩ := List.forall_mem_cons.1 (List.forall_mem_map.1 h)
    obtain ⟨hends, hmore⟩ := areCut_morePairs hps hclose
    refine ⟨.cons (by decide) _, hopen _, ?_⟩
    refine (@areCut_append (_ :: _ :: _) _ _).2 ⟨?_, isCut_close _, trivial⟩
    exact (@areCut_append (_ :: _ :: _) _ _).2 ⟨areCut_pair key hd (.inl rfl) hends, hmore⟩

theorem areCut_use (a : Annotation) (h : ∀ d ∈ a.data, IsValueCut d) {gap : String}
    (hgap : IsGap gap) {rest : List Char} (hrest : StopsAt isWordPart rest) :
    AreCut (⟨gap, .symbol, "@"⟩ :: a.kind.name.tokens "" ++ Datum.tokensOfArguments a.arguments)
      rest := by
  obtain ⟨hstops, harguments⟩ := areCut_arguments a h hrest
  refine ⟨isCut_sign hgap (c := '@') (by decide) _, ?_⟩
  exact areCut_append.2 ⟨areCut_name a.kind.name (.inl rfl) hstops, harguments⟩

theorem isValueCut (d : Datum) : IsValueCut d := by
  induction d using Datum.induct with
  | string text =>
    exact fun _ hgap _ hrest => ⟨isCut_quoted text hgap (hrest.stops (by decide)), trivial⟩
  | integer n h =>
    intro gap hgap rest hrest
    have hstops : StopsAt goesOnNumber rest := hrest.stops (by decide)
    rw [Datum.tokens]
    split
    · refine ⟨?_, isCut_digits n (.inl rfl) hstops, trivial⟩
      have hdigit : ∀ c ∈ digits n, c.isDigit = true := Json.toDigits_isDigit _
      have hne : digits n ≠ [] := Nat.toDigits_ne_nil
      obtain ⟨c, more, hdigits⟩ := List.exists_cons_of_ne_nil hne
      rw [hdigits] at hdigit ⊢
      have hspell : spell [⟨"", .integer, String.ofList (c :: more)⟩] ++ rest =
          c :: (more ++ rest) := by
        simp [spell]
      rw [hspell]
      exact isCut_minus hgap (hdigit c List.mem_cons_self) _
    · exact ⟨isCut_digits n hgap hstops, trivial⟩
  | truth b =>
    intro gap hgap rest hrest
    have hstops : StopsAt isWordPart rest := hrest.stops (by decide)
    cases b with
    | false => exact ⟨isCut_word hgap (c := 'f') (by decide) (List.all_eq_true.1 (by decide)) hstops, trivial⟩
    | true => exact ⟨isCut_word hgap (c := 't') (by decide) (List.all_eq_true.1 (by decide)) hstops, trivial⟩
  | null =>
    exact fun _ hgap _ hrest =>
      ⟨isCut_word hgap (c := 'n') (by decide) (List.all_eq_true.1 (by decide))
        (hrest.stops (by decide)), trivial⟩
  | type name =>
    intro gap hgap rest hrest
    have hclass : IsCut ⟨"", .word, "class"⟩ rest :=
      isCut_word (.inl rfl) (c := 'c') (by decide) (List.all_eq_true.1 (by decide))
        (hrest.stops (by decide))
    exact areCut_append.2
      ⟨areCut_name name hgap (.cons (by decide) _), isCut_dot (by decide) _, hclass, trivial⟩
  | constant name => exact fun _ hgap _ hrest => areCut_name name hgap (hrest.stops (by decide))
  | array items ih =>
    intro gap hgap rest hrest
    refine ⟨isCut_sign hgap (c := '\x7b') (by decide) _, ?_⟩
    refine areCut_append.2 ⟨areCut_items ih (.of_mem (c := '\x7d') (by decide) _), ?_, trivial⟩
    exact isCut_sign (.inl rfl) (c := '\x7d') (by decide) _
  | value kind d ih =>
    exact fun _ hgap _ hrest => areCut_use ⟨kind, .value d⟩ (List.forall_mem_singleton.2 ih) hgap
      (hrest.stops (by decide))
  | pairs kind ps ih =>
    exact fun _ hgap _ hrest => areCut_use ⟨kind, .pairs ps⟩ (List.forall_mem_map.2 ih) hgap
      (hrest.stops (by decide))

theorem Annotation.areCut_tokens (a : Annotation) {rest : List Char}
    (hrest : StopsAt isWordPart rest) : AreCut a.tokens rest :=
  areCut_use a (fun d _ => isValueCut d) (.inl rfl) hrest

end Canonical

end AnnotationIndex.Java
