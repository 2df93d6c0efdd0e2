import AnnotationIndex.Proofs.Java.Escapes

/-!
# Texts with escapes

A text with escapes is made of pieces: characters that stand for themselves, and escapes. It is read
piece by piece, and what it stands for is what its pieces stand for, one after the other. Where a
piece ends can be told from the piece alone, except for an octal escape: it takes the digits that
follow as long as there are at most three of them and the code stays below 256.
-/

namespace AnnotationIndex.Java

def controlLetters : List (Char × Char) :=
  [('n', '\n'), ('t', '\t'), ('r', '\r'), ('b', '\x08'), ('f', '\x0c'), ('s', ' ')]

/-- After a backslash the character stands for itself: it is no letter with a meaning there, no octal
digit and no line end. -/
def StandsForItself (c : Char) : Prop :=
  c ∉ controlLetters.map Prod.fst ∧ c ≠ 'u' ∧ c ≠ '\n' ∧ ∀ d : Digit 8, c ≠ d.char

/-- A piece of a text with escapes. -/
inductive EscapedPiece where
  | plain (c : Char) (h : c ≠ '\\')
  | control (letter c : Char) (h : (letter, c) ∈ controlLetters)
  /-- A line end that is escaped stands for nothing. -/
  | lineEnd
  | escaped (c : Char) (h : StandsForItself c)
  | octal (digits : List (Digit 8)) (h : digits ≠ []) (hlength : digits.length ≤ 3)
      (hcode : numberOf digits ≤ 0o377)
  /-- An escape with `more` marks besides the first one. -/
  | unicode (more : Nat) (digits : List (Digit 16)) (h : digits.length = 4)

namespace EscapedPiece

/-- The piece as it is written. -/
def text : EscapedPiece → List Char
  | plain c _ => [c]
  | control letter _ _ => ['\\', letter]
  | lineEnd => ['\\', '\n']
  | escaped c _ => ['\\', c]
  | octal digits _ _ _ => '\\' :: spelling digits
  | unicode more digits _ => '\\' :: 'u' :: (List.replicate more 'u' ++ spelling digits)

def IsSurrogate (code : Nat) : Prop := 0xD800 ≤ code ∧ code ≤ 0xDFFF

instance (code : Nat) : Decidable (IsSurrogate code) := inferInstanceAs (Decidable (_ ∧ _))

/-- What the piece stands for. No character has the code of a surrogate; the escape is kept then, with
a single mark. -/
def value : EscapedPiece → List Char
  | plain c _ => [c]
  | control _ c _ => [c]
  | lineEnd => []
  | escaped c _ => [c]
  | octal digits _ _ _ => [Char.ofNat (numberOf digits)]
  | unicode _ digits _ =>
    if IsSurrogate (numberOf digits) then '\\' :: 'u' :: spelling digits
    else [Char.ofNat (numberOf digits)]

/-- The piece does not go on in the text after it: of an octal escape, another digit there would be a
fourth one or make the code too large. -/
def EndsBefore : EscapedPiece → List Char → Prop
  | octal digits _ _ _, rest => ∀ (d : Digit 8) (more : List Char), rest = d.char :: more →
      digits.length = 3 ∨ 0o377 < numberOf (digits ++ [d])
  | _, _ => True

/-- Every piece is as long as it can be. -/
def Maximal : List EscapedPiece → Prop
  | [] => True
  | piece :: pieces => piece.EndsBefore (pieces.flatMap text) ∧ Maximal pieces

end EscapedPiece

open EscapedPiece

theorem escape_control {letter c : Char} (h : (letter, c) ∈ controlLetters) (rest : List Char) :
    escape (letter :: rest) = ([c], rest) := by
  have hletters : controlLetters ⊆ escapeLetters := by simp [controlLetters, escapeLetters]
  exact escape_letter (hletters h) rest

theorem escape_itself {c : Char} (h : StandsForItself c) (rest : List Char) :
    escape (c :: rest) = ([c], rest) := by
  obtain ⟨hcontrol, hu, hline, hdigit⟩ := h
  have hoctal : digitValue? 8 c = none := by
    rw [Option.eq_none_iff_forall_ne_some]
    intro v hv
    obtain ⟨d, hd, -⟩ := exists_digit (by decide) hv
    exact hdigit d hd
  rw [escape, hoctal]
  all_goals
    rintro rfl
    simp [controlLetters] at hcontrol hu hline

theorem escape_octal {ds : List (Digit 8)} (h : ds ≠ []) (hlength : ds.length ≤ 3)
    (hcode : numberOf ds ≤ 0o377) {rest : List Char}
    (hrest : (octal ds h hlength hcode).EndsBefore rest) :
    escape (spelling ds ++ rest) = ([Char.ofNat (numberOf ds)], rest) := by
  obtain ⟨first, more, rfl⟩ := List.exists_cons_of_ne_nil h
  have hfirst : digitValue? 8 first.char = some first.value.val := digitValue?_char (by decide) first
  have hfold : (more.map fun d => d.value.val).foldl (fun n d => n * 8 + d) first.value.val =
      numberOf (first :: more) := by
    rw [numberOf, ← foldl_eq_ofDigits, List.map_cons, List.foldl_cons, Nat.zero_mul, Nat.zero_add]
  have hstop : (spelling more).length = 2 ∨ ∀ c ∈ rest.head?, ∀ d, digitValue? 8 c = some d →
      255 < (more.map fun d => d.value.val).foldl (fun n d => n * 8 + d) first.value.val * 8 + d := by
    rw [hfold]
    cases rest with
    | nil => exact .inr (by simp)
    | cons c rest =>
      by_cases hc : ∃ d : Digit 8, c = d.char
      · obtain ⟨d, rfl⟩ := hc
        refine (hrest d rest rfl).imp (fun hthree => by simpa [spelling] using hthree) ?_
        rintro hlarge _ ⟨⟩ v hv
        rw [digitValue?_char (by decide) d] at hv
        cases hv
        rwa [numberOf_concat] at hlarge
      · refine .inr ?_
        rintro _ ⟨⟩ v hv
        obtain ⟨d, hd, -⟩ := exists_digit (by decide) hv
        exact absurd ⟨d, hd⟩ hc
  have htail := octalTail_digits (areDigits_spelling (by decide) more)
    (by simpa [spelling] using Nat.le_of_succ_le_succ hlength) (by rwa [hfold]) rest hstop
  rw [hfold] at htail
  have hspelling : spelling (first :: more) ++ rest = first.char :: (spelling more ++ rest) := rfl
  rw [hspelling, escape_digit hfirst, htail]

theorem isValidChar_iff {n : Nat} (h : n < 0x10000) : n.isValidChar ↔ ¬ IsSurrogate n := by
  simp only [Nat.isValidChar, IsSurrogate]
  omega

theorem escape_fourDigits (more : Nat) {ds : List (Digit 16)} (h : ds.length = 4)
    (rest : List Char) :
    escape ('u' :: (List.replicate more 'u' ++ spelling ds ++ rest)) =
      ((unicode more ds h).value, rest) := by
  have hescape : escape ('u' :: (List.replicate more 'u' ++ spelling ds ++ rest)) =
      (if (numberOf ds).isValidChar then [Char.ofNat (numberOf ds)] else '\\' :: 'u' :: spelling ds,
        rest) :=
    escape_code (areDigits_spelling (by decide) ds) (by simpa [spelling] using h) more rest
  have hsmall : numberOf ds < 0x10000 := by simpa [h] using numberOf_lt (by decide) ds
  rw [hescape, value]
  by_cases hsurrogate : IsSurrogate (numberOf ds)
  · rw [if_pos hsurrogate, if_neg (fun hvalid => (isValidChar_iff hsmall).1 hvalid hsurrogate)]
  · rw [if_neg hsurrogate, if_pos ((isValidChar_iff hsmall).2 hsurrogate)]

/-- A piece is read as what it stands for, and the text after it as it would be read alone. -/
theorem unescape_piece (piece : EscapedPiece) {rest : List Char} (h : piece.EndsBefore rest) :
    unescape (piece.text ++ rest) = piece.value ++ unescape rest := by
  cases piece with
  | plain c hc => exact unescape_cons hc rest
  | control letter c hletter =>
    rw [text, List.cons_append, List.singleton_append, unescape_escape, escape_control hletter]
    rfl
  | lineEnd =>
    rw [text, List.cons_append, List.singleton_append, unescape_escape]
    rfl
  | escaped c hc =>
    rw [text, List.cons_append, List.singleton_append, unescape_escape, escape_itself hc]
    rfl
  | octal ds hds hlength hcode =>
    rw [text, List.cons_append, unescape_escape, escape_octal hds hlength hcode h]
    rfl
  | unicode more ds hlength =>
    rw [text, List.cons_append, List.cons_append, unescape_escape, escape_fourDigits]

/-- A text with escapes stands for what its pieces stand for, one after the other. -/
theorem unescape_pieces {pieces : List EscapedPiece} (h : Maximal pieces) :
    unescape (pieces.flatMap text) = pieces.flatMap value := by
  induction pieces with
  | nil => exact unescape_nil
  | cons piece pieces ih =>
    rw [List.flatMap_cons, List.flatMap_cons, unescape_piece piece h.1, ih h.2]

/-- An octal escape before a digit that would be too much for it, a backslash that is escaped before a
letter, and the code of a surrogate after two marks. -/
def shieldedPieces : List EscapedPiece :=
  [octal [⟨4, false⟩, ⟨0, false⟩] (by decide) (by decide) (by decide), plain '0' (by decide),
    escaped '\\' ⟨by decide, by decide, by decide, by rintro ⟨v, c⟩; revert v c; decide⟩,
    plain 'n' (by decide), unicode 1 [⟨0xD, true⟩, ⟨8, false⟩, ⟨3, false⟩, ⟨0xD, false⟩] rfl]

theorem unescape_pieces_shielded : Maximal shieldedPieces ∧
    shieldedPieces.flatMap text = "\\400\\\\n\\uuD83d".toList ∧
      unescape "\\400\\\\n\\uuD83d".toList = " 0\\n\\uD83d".toList := by
  have hmaximal : Maximal shieldedPieces := by
    refine ⟨?_, trivial, trivial, trivial, trivial, trivial⟩
    rintro ⟨value, capital⟩ more -
    right
    revert value capital
    decide
  have htext : shieldedPieces.flatMap text = "\\400\\\\n\\uuD83d".toList := by decide
  have hvalue : shieldedPieces.flatMap value = " 0\\n\\uD83d".toList := by decide
  exact ⟨hmaximal, htext, htext ▸ (unescape_pieces hmaximal).trans hvalue⟩

end AnnotationIndex.Java
