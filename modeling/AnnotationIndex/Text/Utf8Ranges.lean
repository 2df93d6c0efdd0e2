import AnnotationIndex.Text.CharSet

/-!
# Ranges of bytes

The characters of a range are those whose UTF-8 bytes lie in certain rows of byte ranges.
-/

namespace AnnotationIndex.Text

/-- A row of byte ranges, one for each byte of a character. -/
abbrev ByteRow := List (Nat × Nat)

def bytesOfCode (n : Nat) : List Nat :=
  if n < 0x80 then [n]
  else if n < 0x800 then [0xC0 + n / 64, 0x80 + n % 64]
  else if n < 0x10000 then [0xE0 + n / 4096, 0x80 + n / 64 % 64, 0x80 + n % 64]
  else [0xF0 + n / 262144, 0x80 + n / 4096 % 64, 0x80 + n / 64 % 64, 0x80 + n % 64]

/-- Where a range has to be cut so that its two parts are simpler: after the code point that is
given. Cuts are made around surrogates, between characters with different numbers of bytes, and
where not all values of the last bytes occur with each value of the first ones. -/
def cutAfter? (a b : Nat) : Option Nat :=
  if a < 0xE000 && 0xD7FF < b then some 0xD7FF
  else
    match [0x7F, 0x7FF, 0xFFFF].find? fun last => a ≤ last && last < b with
    | some last => some last
    | none =>
      if b ≤ 0x7F then none
      else
        [64, 4096, 262144].findSome? fun block =>
          if a / block = b / block then none
          else if a % block ≠ 0 then some (a / block * block + block - 1)
          else if b % block ≠ block - 1 then some (b / block * block - 1)
          else none

/-- The rows for the code points of a range. The fuel bounds how often a part is cut again. -/
def byteRowsWith : Nat → Nat → Nat → List ByteRow
  | 0, _, _ => []
  | fuel + 1, a, b =>
    match cutAfter? a b with
    | some last =>
      let after := if last = 0xD7FF then 0xE000 else last + 1
      (if a ≤ last then byteRowsWith fuel a last else []) ++
        (if after ≤ b then byteRowsWith fuel after b else [])
    | none => [(bytesOfCode a).zip (bytesOfCode b)]

/-- The rows for the code points of a range: around surrogates, at three lengths and on both sides
of three blocks, a part is cut at most ten times. -/
def byteRows (range : Nat × Nat) : List ByteRow := byteRowsWith 12 range.1 range.2

def CharSet.byteRows (s : CharSet) : List ByteRow := s.ranges.flatMap Text.byteRows

end AnnotationIndex.Text
