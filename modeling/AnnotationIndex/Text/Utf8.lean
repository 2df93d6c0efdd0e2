/-!
# UTF-8

Text as bytes, and bytes as text. Bytes that are no text can be refused, or read with a
replacement character for each longest beginning of a character that is not continued.
-/

namespace AnnotationIndex.Text

def utf8Bytes (s : String) : List UInt8 := s.toUTF8.data.toList

/-- What the first byte of a character of several bytes says: the bits it gives, the range of the
second byte, and how many bytes follow. -/
structure Lead where
  bits : Nat
  low : UInt8
  high : UInt8
  following : Nat

/-- The first bytes of characters of several bytes. Longer spellings than necessary, surrogates and
codes that are too large are ruled out by the range of the second byte. -/
def lead? (b : UInt8) : Option Lead :=
  if 0xC2 ≤ b && b ≤ 0xDF then some ⟨b.toNat - 0xC0, 0x80, 0xBF, 1⟩
  else if b = 0xE0 then some ⟨0, 0xA0, 0xBF, 2⟩
  else if b = 0xED then some ⟨0xD, 0x80, 0x9F, 2⟩
  else if 0xE1 ≤ b && b ≤ 0xEF then some ⟨b.toNat - 0xE0, 0x80, 0xBF, 2⟩
  else if b = 0xF0 then some ⟨0, 0x90, 0xBF, 3⟩
  else if 0xF1 ≤ b && b ≤ 0xF3 then some ⟨b.toNat - 0xF0, 0x80, 0xBF, 3⟩
  else if b = 0xF4 then some ⟨4, 0x80, 0x8F, 3⟩
  else none

/-- The code after the given number of following bytes, the first of them in a range, and the
bytes left; the code is absent if a byte is out of range. -/
def following (low high : UInt8) : Nat → Nat → List UInt8 → Option Nat × List UInt8
  | 0, code, bytes => (some code, bytes)
  | _ + 1, _, [] => (none, [])
  | n + 1, code, b :: rest =>
    if low ≤ b && b ≤ high then following 0x80 0xBF n (code * 64 + (b.toNat - 0x80)) rest
    else (none, b :: rest)

/-- The first character, absent if the bytes are no text there, and the bytes left. -/
def firstChar (b : UInt8) (rest : List UInt8) : Option Char × List UInt8 :=
  if b < 0x80 then (some (Char.ofNat b.toNat), rest)
  else
    match lead? b with
    | none => (none, rest)
    | some l =>
      let (code, rest) := following l.low l.high l.following l.bits rest
      (code.map Char.ofNat, rest)

theorem following_length (low high : UInt8) (n code : Nat) (bytes : List UInt8) :
    (following low high n code bytes).2.length ≤ bytes.length := by
  fun_induction following low high n code bytes <;> simp_all
  omega

theorem firstChar_length (b : UInt8) (rest : List UInt8) :
    (firstChar b rest).2.length ≤ rest.length := by
  unfold firstChar
  split
  · simp
  · split
    · simp
    · exact following_length ..

@[semireducible]
def charsOf (bytes : List UInt8) : List (Option Char) :=
  match bytes with
  | [] => []
  | b :: rest => (firstChar b rest).1 :: charsOf (firstChar b rest).2
termination_by bytes.length
decreasing_by
  have := firstChar_length b rest
  simp only [List.length_cons]
  omega

/-- The text of a sequence of bytes, with replacement characters where it is no text. -/
def lossyText (bytes : List UInt8) : String :=
  String.ofList ((charsOf bytes).map (·.getD '\ufffd'))

def strictText? (bytes : List UInt8) : Option String := ((charsOf bytes).mapM id).map String.ofList

end AnnotationIndex.Text
