/-!
# Blanks, words and lines

Blank characters are those with the Unicode property `White_Space`. Text is handled as a list of
characters; a `String` is built when a result is finished.
-/

namespace AnnotationIndex.Text

def isBlank (c : Char) : Bool :=
  let n := c.toNat
  (9 ≤ n && n ≤ 13) || n == 32 || n == 0x85 || n == 0xA0 || n == 0x1680 ||
    (0x2000 ≤ n && n ≤ 0x200A) || n == 0x2028 || n == 0x2029 || n == 0x202F || n == 0x205F ||
    n == 0x3000

def trimStart (s : List Char) : List Char := s.dropWhile isBlank

def dropEndWhile (p : Char → Bool) (s : List Char) : List Char := (s.reverse.dropWhile p).reverse

def trimEnd (s : List Char) : List Char := dropEndWhile isBlank s

variable {α : Type}

/-- The pieces between the elements for which `p` holds; always at least one piece. -/
def splitWhere (p : α → Bool) : List α → List (List α)
  | [] => [[]]
  | c :: cs =>
    if p c then [] :: splitWhere p cs
    else
      match splitWhere p cs with
      | [] => [[c]]
      | w :: ws => (c :: w) :: ws

def words (s : List Char) : List (List Char) := (splitWhere isBlank s).filter (!·.isEmpty)

def collapse (s : List Char) : List Char := [' '].intercalate (words s)

/-- A line loses one carriage return at its end. -/
def dropReturn (line : List Char) : List Char :=
  if line.getLast? = some '\r' then line.dropLast else line

/-- A line ends at a line feed, which takes one carriage return before it along. Text after the
last line feed is a line of its own unless it is empty, and keeps its carriage returns. -/
def lines (s : List Char) : List (List Char) :=
  let parts := splitWhere (· == '\n') s
  let last := parts.getLastD []
  parts.dropLast.map dropReturn ++ if last.isEmpty then [] else [last]

def byteLength (s : List Char) : Nat := s.foldl (fun n c => n + c.utf8Size) 0

/-- The text without its first `n` bytes, or nothing if the cut falls inside a character or
beyond the end. -/
def dropBytes : Nat → List Char → Option (List Char)
  | 0, s => some s
  | _, [] => none
  | n, c :: cs => if c.utf8Size ≤ n then dropBytes (n - c.utf8Size) cs else none

def splitLast? [BEq α] (sep : α) (s : List α) : Option (List α × List α) :=
  let tail := s.reverse.takeWhile (· != sep)
  match s.reverse.drop tail.length with
  | [] => none
  | _ :: front => some (front.reverse, tail.reverse)

def splitFirst? (sep : Char) (s : List Char) : Option (List Char × List Char) :=
  match s.dropWhile (· != sep) with
  | [] => none
  | _ :: rest => some (s.takeWhile (· != sep), rest)

end AnnotationIndex.Text
