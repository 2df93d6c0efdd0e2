import AnnotationIndex.Json.Basic

/-!
# Reading JSON text

The strict grammar: blanks are space, tab, line feed and carriage return, and nothing may follow
the document.
-/

namespace AnnotationIndex.Json

def isBlank (c : Char) : Bool := c == ' ' || c == '\t' || c == '\n' || c == '\r'

def skipBlanks (s : List Char) : List Char := s.dropWhile isBlank

def hexValue? (c : Char) : Option Nat :=
  if '0' ≤ c && c ≤ '9' then some (c.toNat - 48)
  else if 'a' ≤ c && c ≤ 'f' then some (c.toNat - 87)
  else if 'A' ≤ c && c ≤ 'F' then some (c.toNat - 55)
  else none

def hexCode? (a b c d : Char) : Option Nat := do
  return ((← hexValue? a) * 16 + (← hexValue? b)) * 256 + (← hexValue? c) * 16 + (← hexValue? d)

/-- A character of a string after its escapes are undone; none if it is half of a pair. -/
abbrev Unit16 := Option Char

def simpleEscape? (c : Char) : Option Char :=
  match c with
  | '"' => some '"'
  | '\\' => some '\\'
  | '/' => some '/'
  | 'b' => some '\x08'
  | 'f' => some '\x0c'
  | 'n' => some '\n'
  | 'r' => some '\r'
  | 't' => some '\t'
  | _ => none

def isHighSurrogate (n : Nat) : Bool := 0xD800 ≤ n && n ≤ 0xDBFF

def isLowSurrogate (n : Nat) : Bool := 0xDC00 ≤ n && n ≤ 0xDFFF

def pairChar (high low : Nat) : Char := Char.ofNat (0x10000 + (high - 0xD800) * 0x400 + (low - 0xDC00))

def stringTail? : List Char → Option (List Unit16 × List Char)
  | '"' :: rest => some ([], rest)
  | '\\' :: 'u' :: a :: b :: c :: d :: '\\' :: 'u' :: e :: f :: g :: h :: rest => do
    let first ← hexCode? a b c d
    let second ← hexCode? e f g h
    if isHighSurrogate first && isLowSurrogate second then
      let (more, after) ← stringTail? rest
      return (some (pairChar first second) :: more, after)
    else
      let (more, after) ← stringTail? ('\\' :: 'u' :: e :: f :: g :: h :: rest)
      return ((if first.isValidChar then some (Char.ofNat first) else none) :: more, after)
  | '\\' :: 'u' :: a :: b :: c :: d :: rest => do
    let code ← hexCode? a b c d
    let (more, after) ← stringTail? rest
    return ((if code.isValidChar then some (Char.ofNat code) else none) :: more, after)
  | '\\' :: c :: rest => do
    let char ← simpleEscape? c
    let (more, after) ← stringTail? rest
    return (some char :: more, after)
  | c :: rest => do
    if c.toNat < 32 || c == '\\' then none
    else
      let (more, after) ← stringTail? rest
      return (some c :: more, after)
  | [] => none

def textOf? (units : List Unit16) : Option String := (units.mapM id).map String.ofList

def wholeDigits? (s : List Char) : Option (List Char × List Char) :=
  match s with
  | '0' :: rest => if rest.head?.any Char.isDigit then none else some (['0'], rest)
  | _ =>
    let digits := s.takeWhile Char.isDigit
    if digits.isEmpty then none else some (digits, s.drop digits.length)

def someDigits? (s : List Char) : Option (List Char × List Char) :=
  let digits := s.takeWhile Char.isDigit
  if digits.isEmpty then none else some (digits, s.drop digits.length)

def fraction? (s : List Char) : Option (List Char × List Char) :=
  match s with
  | '.' :: rest => (someDigits? rest).map fun (digits, rest) => ('.' :: digits, rest)
  | _ => some ([], s)

def exponent? (s : List Char) : Option (List Char × List Char) :=
  match s with
  | e :: rest =>
    if e == 'e' || e == 'E' then
      match rest with
      | sign :: digits =>
        if sign == '+' || sign == '-' then
          (someDigits? digits).map fun (digits, rest) => (e :: sign :: digits, rest)
        else (someDigits? rest).map fun (digits, rest) => (e :: digits, rest)
      | [] => none
    else some ([], s)
  | [] => some ([], [])

def number? (s : List Char) : Option (List Char × List Char) := do
  let (sign, s) := match s with
    | '-' :: rest => (['-'], rest)
    | _ => ([], s)
  let (whole, s) ← wholeDigits? s
  let (fraction, s) ← fraction? s
  let (exponent, s) ← exponent? s
  return (sign ++ whole ++ fraction ++ exponent, s)

def word? (word : String) (value : Json) (s : List Char) : Option (Json × List Char) :=
  if word.toList.isPrefixOf s then some (value, s.drop word.length) else none

/-- The object with the given members, of which every name has to be a text. -/
def objectOf (members : List (Option String × Json)) : Json :=
  match members.mapM fun (key, value) => key.map (·, value) with
  | some members => .object members
  | none => .broken

mutual

def value? : Nat → List Char → Option (Json × List Char)
  | 0, _ => none
  | fuel + 1, s =>
    match skipBlanks s with
    | '[' :: rest =>
      match skipBlanks rest with
      | ']' :: rest => some (.array [], rest)
      | rest => (items? fuel rest).map fun (items, rest) => (.array items, rest)
    | '\x7b' :: rest =>
      match skipBlanks rest with
      | '\x7d' :: rest => some (.object [], rest)
      | rest => (members? fuel rest).map fun (members, rest) => (objectOf members, rest)
    | '"' :: rest => (stringTail? rest).map fun (units, rest) =>
      (match textOf? units with
        | some text => .string text
        | none => .broken, rest)
    | 'n' :: rest => word? "ull" .null rest
    | 't' :: rest => word? "rue" (.truth true) rest
    | 'f' :: rest => word? "alse" (.truth false) rest
    | s => (number? s).map fun (text, rest) => (.number (String.ofList text), rest)

def items? : Nat → List Char → Option (List Json × List Char)
  | 0, _ => none
  | fuel + 1, s => do
    let (item, rest) ← value? fuel s
    match skipBlanks rest with
    | ',' :: rest => (items? fuel rest).map fun (more, rest) => (item :: more, rest)
    | ']' :: rest => some ([item], rest)
    | _ => none

def members? : Nat → List Char → Option (List (Option String × Json) × List Char)
  | 0, _ => none
  | fuel + 1, s =>
    match skipBlanks s with
    | '"' :: rest => do
      let (units, rest) ← stringTail? rest
      let key := textOf? units
      match skipBlanks rest with
      | ':' :: rest =>
        let (value, rest) ← value? fuel rest
        match skipBlanks rest with
        | ',' :: rest => (members? fuel rest).map fun (more, rest) => ((key, value) :: more, rest)
        | '\x7d' :: rest => some ([(key, value)], rest)
        | _ => none
      | _ => none
    | _ => none

end

def parse? (text : String) : Option Json := do
  let s := text.toList
  let (value, rest) ← value? (2 * s.length + 2) s
  if (skipBlanks rest).isEmpty then some value else none

end AnnotationIndex.Json
