import AnnotationIndex.Text.Blank
import AnnotationIndex.Number.Binary64

/-!
# Java literals

What the text of a literal stands for: strings and text blocks with their escapes and their
indentation, characters, integers and decimal numbers.
-/

namespace AnnotationIndex.Java

open Text Number

def digitValue? (base : Nat) (c : Char) : Option Nat :=
  let n :=
    if '0' ≤ c && c ≤ '9' then c.toNat - '0'.toNat
    else if 'a' ≤ c && c ≤ 'f' then c.toNat - 'a'.toNat + 10
    else if 'A' ≤ c && c ≤ 'F' then c.toNat - 'A'.toNat + 10
    else base
  if n < base then some n else none

def ofDigits? (base : Nat) (s : List Char) : Option Nat :=
  if s.isEmpty then none
  else s.foldlM (fun n c => (digitValue? base c).map (n * base + ·)) 0

/-- Octal digits are added to a code as long as it stays below 256. -/
def octalTail : Nat → Nat → List Char → Nat × List Char
  | more + 1, code, c :: rest =>
    match digitValue? 8 c with
    | some d => if code * 8 + d ≤ 255 then octalTail more (code * 8 + d) rest else (code, c :: rest)
    | none => (code, c :: rest)
  | _, code, s => (code, s)

/-- The code of a Unicode escape; one plus sign may stand before the digits. -/
def hexCode? (s : List Char) : Option Nat :=
  match s with
  | '+' :: digits => ofDigits? 16 digits
  | digits => ofDigits? 16 digits

/-- A Unicode escape after its last `u`: four characters that name a code point, or are kept as
they are if they do not. -/
def unicodeEscape (s : List Char) : List Char :=
  let hex := s.take 4
  match hexCode? hex with
  | some n => if n.isValidChar then [Char.ofNat n] else '\\' :: 'u' :: hex
  | none => '\\' :: 'u' :: hex

def escape : List Char → List Char × List Char
  | [] => (['\\'], [])
  | 'n' :: rest => (['\n'], rest)
  | 't' :: rest => (['\t'], rest)
  | 'r' :: rest => (['\r'], rest)
  | 'b' :: rest => (['\x08'], rest)
  | 'f' :: rest => (['\x0c'], rest)
  | 's' :: rest => ([' '], rest)
  | 'u' :: rest =>
    let digits := rest.dropWhile (· == 'u')
    (unicodeEscape digits, digits.drop 4)
  | '\n' :: rest => ([], rest)
  | c :: rest =>
    match digitValue? 8 c with
    | some d =>
      let (code, rest) := octalTail 2 d rest
      ([Char.ofNat code], rest)
    | none => ([c], rest)

theorem octalTail_rest_length (more code : Nat) (s : List Char) :
    (octalTail more code s).2.length ≤ s.length := by
  induction more generalizing code s with
  | zero => simp [octalTail]
  | succ more ih =>
    cases s with
    | nil => simp [octalTail]
    | cons c rest =>
      simp only [octalTail]
      split
      · split
        · exact Nat.le_succ_of_le (ih _ _)
        · simp
      · simp

theorem escape_rest_length (s : List Char) : (escape s).2.length ≤ s.length := by
  unfold escape
  split <;> try simp
  · rename_i rest
    have := (List.dropWhile_sublist (· == 'u') (l := rest)).length_le
    omega
  · rename_i rest _ _ _ _ _ _ _ _
    split
    · rename_i d _
      exact Nat.le_succ_of_le (octalTail_rest_length 2 d rest)
    · simp

def unescape (s : List Char) : List Char :=
  match s with
  | [] => []
  | c :: rest =>
    if c = '\\' then (escape rest).1 ++ unescape (escape rest).2 else c :: unescape rest
termination_by s.length
decreasing_by
  · have := escape_rest_length rest
    simp only [List.length_cons]
    omega
  · simp

def indentOf (line : List Char) : Nat := byteLength (line.takeWhile isBlank)

/-- The least indentation of the lines that are not blank, or zero if all are. -/
def commonIndent (ls : List (List Char)) : Nat :=
  ((ls.filter (!·.all isBlank)).map indentOf).min?.getD 0

/-- A line without `indent` bytes of indentation, or all it has, and without blanks at its end. -/
def stripLine? (indent : Nat) (line : List Char) : Option (List Char) :=
  (dropBytes (min indent (indentOf line)) line).map trimEnd

/-- The body of a text block without the indentation that its lines share. There is no result if
the cut falls inside a blank character of several bytes. -/
def stripIndent? (body : List Char) : Option (List Char) :=
  let ls := lines body
  (ls.mapM (stripLine? (commonIndent ls))).map fun stripped =>
    ['\n'].intercalate stripped ++ if body.getLast? = some '\n' then ['\n'] else []

def unwrap? (quote s : List Char) : Option (List Char) :=
  if quote.isPrefixOf s then
    let inner := s.drop quote.length
    if quote.isSuffixOf inner then some (inner.take (inner.length - quote.length)) else none
  else none

/-- The value of a string literal or text block. There is no value if a text block cannot be
freed of its indentation. -/
def stringValue? (s : List Char) : Option (List Char) :=
  match unwrap? ['"', '"', '"'] s with
  | some block =>
    let body := match block with
      | '\n' :: rest => rest
      | _ => block
    (stripIndent? body).map unescape
  | none => some (unescape ((unwrap? ['"'] s).getD s))

/-- The value of a character literal: all quotes at its ends are dropped. -/
def characterValue (s : List Char) : List Char :=
  unescape (dropEndWhile (· == '\'') (s.dropWhile (· == '\'')))

def wordOf? (n : Nat) : Option Int64 :=
  if n < UInt64.size then some (Int64.ofInt n) else none

/-- What is left of an integer literal without its suffix and its underscores, in small letters. -/
def plainText (s : List Char) : List Char :=
  ((dropEndWhile (fun c => c == 'l' || c == 'L') s).filter (· != '_')).map Char.toLower

/-- The value of an integer literal. Literals in a base other than ten may use all 64 bits;
decimal ones must be below `2 ^ 63`. -/
def integerValue? (s : List Char) : Option Int64 :=
  match plainText s with
  | '0' :: 'x' :: rest => (ofDigits? 16 rest).bind wordOf?
  | '0' :: 'b' :: rest => (ofDigits? 2 rest).bind wordOf?
  | '0' :: c :: rest => (ofDigits? 8 (c :: rest)).bind wordOf?
  | digits => (ofDigits? 10 digits).bind fun n =>
    if n < UInt64.size / 2 then some (Int64.ofInt n) else none

def exponentValue? (s : List Char) : Option Int :=
  match s with
  | '+' :: digits => (ofDigits? 10 digits).map Int.ofNat
  | '-' :: digits => (ofDigits? 10 digits).map fun n => -(n : Int)
  | digits => (ofDigits? 10 digits).map Int.ofNat

def decimalValue? (s : List Char) : Option Binary64 := do
  let isMark (c : Char) := c == 'e' || c == 'E'
  let significand := s.takeWhile (!isMark ·)
  let whole := significand.takeWhile (· != '.')
  let fraction := (significand.dropWhile (· != '.')).drop 1
  let power ← match s.dropWhile (!isMark ·) with
    | [] => some 0
    | _ :: rest => exponentValue? rest
  let digits ← ofDigits? 10 (whole ++ fraction)
  Binary64.ofDecimal? false digits (power - fraction.length)

/-- The value of a decimal floating point literal, if it is not too large. -/
def realValue? (s : List Char) : Option Binary64 :=
  let isSuffix (c : Char) := c == 'f' || c == 'F' || c == 'd' || c == 'D'
  decimalValue? ((dropEndWhile isSuffix s).filter (· != '_'))

/-- The word `class` is dropped from the end as often as it stands there; the text is given back
to front. -/
def dropClassWords : List Char → List Char
  | 's' :: 's' :: 'a' :: 'l' :: 'c' :: rest => dropClassWords rest
  | s => s

def classLiteralType (s : List Char) : List Char :=
  collapse (dropEndWhile (· == '.') (trimEnd (dropClassWords s.reverse).reverse))

end AnnotationIndex.Java
