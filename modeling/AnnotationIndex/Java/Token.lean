import AnnotationIndex.Text.Identifier

/-!
# Java tokens

A source text is cut into tokens. Each token keeps the blanks and comments that stand before it,
so the text of a piece of source is the concatenation of its tokens. Longest match decides, except
that `>` is always a token of its own: several of them close nested type arguments, and in an
expression the operators made of them are put together again. A string with embedded expressions
is cut at them.
-/

namespace AnnotationIndex.Java

open Text

inductive TokenKind where
  | word | integer | real | hexReal | character | string
  | templateHead
  | templateMiddle
  | templateTail
  | symbol
  deriving DecidableEq, Repr

structure Token where
  gap : String
  kind : TokenKind
  text : String
  deriving DecidableEq, Repr

def sourceText : List Token → String
  | [] => ""
  | first :: rest => rest.foldl (fun text t => text ++ t.gap ++ t.text) first.text

/-- Blanks between tokens. Blanks outside ASCII do not count. -/
def isSpace (c : Char) : Bool :=
  c == ' ' || c == '\t' || c == '\n' || c == '\r' || c == '\x0b' || c == '\x0c'

def blockComment? : List Char → Option (List Char × List Char)
  | '*' :: '/' :: rest => some (['*', '/'], rest)
  | c :: rest => (blockComment? rest).map fun (taken, rest) => (c :: taken, rest)
  | [] => none

theorem blockComment?_rest_length {s taken rest : List Char}
    (h : blockComment? s = some (taken, rest)) : rest.length ≤ s.length := by
  fun_induction blockComment? s generalizing taken with
  | case1 => simp at h; simp [h]; omega
  | case2 c s _ ih =>
    obtain ⟨⟨t, r⟩, hr, he⟩ := Option.map_eq_some_iff.1 h
    simp only [Prod.mk.injEq] at he
    have := ih (he.2 ▸ hr)
    simp; omega
  | case3 => simp at h

/-- The blanks and comments at the start of a text, and what follows. There is no result if a
comment has no end. -/
def takeGap? (s : List Char) : Option (List Char × List Char) :=
  match s with
  | '/' :: '/' :: rest =>
    let inner := rest.takeWhile (· != '\n')
    (takeGap? (rest.dropWhile (· != '\n'))).map fun (gap, rest) => ('/' :: '/' :: inner ++ gap, rest)
  | '/' :: '*' :: rest =>
    match _h : blockComment? rest with
    | some (inner, rest') =>
      (takeGap? rest').map fun (gap, rest) => ('/' :: '*' :: inner ++ gap, rest)
    | none => none
  | c :: rest =>
    if isSpace c then (takeGap? rest).map fun (gap, rest) => (c :: gap, rest)
    else some ([], c :: rest)
  | [] => some ([], [])
termination_by s.length
decreasing_by
  · have := (List.dropWhile_sublist (· != '\n') (l := rest)).length_le
    simp only [List.length_cons]; omega
  · have := blockComment?_rest_length _h
    simp only [List.length_cons]; omega
  · simp

def isWordStart (c : Char) : Bool := isXidStart c || c == '_' || c == '$'

/-- The cent sign counts as a letter after the first character. -/
def isWordPart (c : Char) : Bool := isXidContinue c || c == '$' || c == '\u00a2'

/-- A matcher takes a part of the text from its start. -/
abbrev Matcher := List Char → Option (List Char)

namespace Matcher

def andThen (m n : Matcher) : Matcher := fun s => do
  let a ← m s
  let b ← n (s.drop a.length)
  return a ++ b

def optional (m : Matcher) : Matcher := fun s => some ((m s).getD [])

def one (p : Char → Bool) : Matcher
  | c :: _ => if p c then some [c] else none
  | [] => none

def longer (m n : Matcher) : Matcher := fun s =>
  match m s, n s with
  | some a, some b => if a.length < b.length then some b else some a
  | some a, none => some a
  | none, b => b

end Matcher

/-- Groups of digits with single underscores between them, cut before a misplaced underscore. -/
def singleGroups : List Char → List Char
  | '_' :: c :: rest => if c == '_' then [] else '_' :: c :: singleGroups rest
  | ['_'] => []
  | c :: rest => c :: singleGroups rest
  | [] => []

def digitGroups (p : Char → Bool) : Matcher
  | c :: rest =>
    if p c then some (singleGroups ((c :: rest).takeWhile fun c => p c || c == '_')) else none
  | [] => none

/-- A decimal number: zero, or digits that start with another one. Groups may be set off by any
number of underscores, the second group only by one. -/
def decimalDigits : Matcher
  | '0' :: _ => some ['0']
  | c :: rest =>
    if c.isDigit then
      match rest.takeWhile fun c => c.isDigit || c == '_' with
      | '_' :: '_' :: _ => some [c]
      | more => some (c :: (more.reverse.dropWhile (· == '_')).reverse)
    else none
  | [] => none

def isHexDigit (c : Char) : Bool :=
  c.isDigit || ('a' ≤ c && c ≤ 'f') || ('A' ≤ c && c ≤ 'F')

def isOctalDigit (c : Char) : Bool := '0' ≤ c && c ≤ '7'

open Matcher

def longSuffix : Matcher := optional (one fun c => c == 'l' || c == 'L')

private def realSuffix : Matcher := one fun c => c == 'f' || c == 'F' || c == 'd' || c == 'D'

private def sign : Matcher := optional (one fun c => c == '+' || c == '-')

private def digits : Matcher := digitGroups Char.isDigit

private def hexDigits : Matcher := digitGroups isHexDigit

private def dot : Matcher := one (· == '.')

private def zero : Matcher := one (· == '0')

private def hexMark : Matcher := one fun c => c == 'x' || c == 'X'

private def exponentPart : Matcher :=
  (one fun c => c == 'e' || c == 'E').andThen (sign.andThen digits)

def integerLiteral : Matcher :=
  let decimal := decimalDigits.andThen longSuffix
  let hex := zero.andThen (hexMark.andThen (hexDigits.andThen longSuffix))
  let octal := zero.andThen ((optional (one fun c => c == 'o' || c == 'O')).andThen
    ((digitGroups isOctalDigit).andThen longSuffix))
  let binary := zero.andThen ((one fun c => c == 'b' || c == 'B').andThen
    ((digitGroups fun c => c == '0' || c == '1').andThen longSuffix))
  decimal.longer (hex.longer (octal.longer binary))

def realLiteral : Matcher :=
  let tail := (optional exponentPart).andThen (optional realSuffix)
  let pointed := digits.andThen (dot.andThen ((optional digits).andThen tail))
  let fraction := dot.andThen (digits.andThen tail)
  let scaled := decimalDigits.andThen (exponentPart.andThen (optional realSuffix))
  let marked := decimalDigits.andThen ((optional exponentPart).andThen realSuffix)
  pointed.longer (fraction.longer (scaled.longer marked))

/-- Hexadecimal floating point literals; point and exponent may both be absent. -/
def hexRealLiteral : Matcher :=
  let whole := hexDigits.andThen (optional dot)
  let pointed := (optional hexDigits).andThen (dot.andThen hexDigits)
  let power := (one fun c => c == 'p' || c == 'P').andThen
    (sign.andThen (decimalDigits.andThen (optional realSuffix)))
  zero.andThen (hexMark.andThen ((whole.longer pointed).andThen (optional power)))

def number? (s : List Char) : Option (TokenKind × List Char) :=
  let candidates := [(TokenKind.integer, integerLiteral), (.real, realLiteral),
    (.hexReal, hexRealLiteral)].filterMap fun (kind, m) => (m s).map (kind, ·)
  candidates.foldl (fun best c =>
    match best with
    | some b => if b.2.length < c.2.length then some c else some b
    | none => some c) none

def characterTail? : List Char → Option (List Char × List Char)
  | '\'' :: rest => some (['\''], rest)
  | '\\' :: c :: rest => (characterTail? rest).map fun (taken, rest) => ('\\' :: c :: taken, rest)
  | c :: rest =>
    if c == '\\' || c == '\n' then none
    else (characterTail? rest).map fun (taken, rest) => (c :: taken, rest)
  | [] => none

def characterLiteral? : List Char → Option (List Char × List Char)
  | '\'' :: '\'' :: _ => none
  | '\'' :: rest => (characterTail? rest).map fun (taken, rest) => ('\'' :: taken, rest)
  | _ => none

/-- The characters that an escape takes after its backslash, in the forms with a code: up to three
octal digits, `x` with two hexadecimal digits, `u` with four of them or with some in braces. -/
def codeEscape? (s : List Char) : Option (List Char) :=
  match s with
  | 'x' :: rest =>
    let code := (rest.take 2).takeWhile isHexDigit
    if code.length = 2 then some ('x' :: code) else none
  | 'u' :: '\x7b' :: rest =>
    let code := rest.takeWhile isHexDigit
    if !code.isEmpty && (rest.drop code.length).head? = some '\x7d' then
      some ('u' :: '\x7b' :: code ++ ['\x7d'])
    else none
  | 'u' :: rest =>
    let code := (rest.take 4).takeWhile isHexDigit
    if code.length = 4 then some ('u' :: code) else none
  | _ =>
    match (s.take 3).takeWhile isOctalDigit with
    | [] => none
    | code => some code

/-- Whether a backslash followed by `c` and `rest` starts an escape of a string literal. -/
def isEscape (c : Char) (rest : List Char) : Bool :=
  if c == 'x' || c == 'u' then (codeEscape? (c :: rest)).isSome else true

inductive StringStop where
  | quote | expression
  deriving DecidableEq, Repr

def stringTail? : List Char → Option (StringStop × List Char × List Char)
  | '\\' :: '\x7b' :: rest => some (.expression, ['\\', '\x7b'], rest)
  | '\\' :: c :: rest =>
    if isEscape c rest then
      (stringTail? rest).map fun (stop, taken, rest) => (stop, '\\' :: c :: taken, rest)
    else none
  | '"' :: rest => some (.quote, ['"'], rest)
  | c :: rest =>
    if c == '\\' then none
    else (stringTail? rest).map fun (stop, taken, rest) => (stop, c :: taken, rest)
  | [] => none

def leadingComment? (s : List Char) : Option (List Char) :=
  let blanks := s.takeWhile isSpace
  match s.drop blanks.length with
  | '/' :: '/' :: rest => some (blanks ++ '/' :: '/' :: rest.takeWhile (· != '\n'))
  | '/' :: '*' :: rest =>
    (blockComment? rest).map fun (taken, _) => blanks ++ '/' :: '*' :: taken
  | _ => none

/-- Characters up to the next quote or backslash. An escaped quote does not count. -/
def quotedRun : List Char → List Char
  | '\\' :: '"' :: rest => '\\' :: '"' :: quotedRun rest
  | c :: rest => if c == '"' || c == '\\' then [] else c :: quotedRun rest
  | [] => []

/-- The piece of a text block at the start of a text, with the stop if it is one. A comment counts
only if it is longer than the run of plain characters at its place. -/
def blockPiece? (s : List Char) : Option (Option StringStop × List Char) :=
  match s with
  | '"' :: '"' :: '"' :: _ => some (some .quote, ['"', '"', '"'])
  | '"' :: rest => some (none, '"' :: quotedRun rest)
  | '\\' :: '\x7b' :: _ => some (some .expression, ['\\', '\x7b'])
  | '\\' :: c :: rest => some (none, '\\' :: (codeEscape? (c :: rest)).getD [c])
  | ['\\'] | [] => none
  | _ =>
    let run := s.takeWhile fun c => c != '"' && c != '\\'
    match leadingComment? s with
    | some comment => some (none, if run.length < comment.length then comment else run)
    | none => some (none, run)

/-- The rest of a text block through its next stop, given at least as much fuel as the text has
characters. -/
def blockTail? : Nat → List Char → Option (StringStop × List Char × List Char)
  | 0, _ => none
  | fuel + 1, s =>
    match blockPiece? s with
    | some (some stop, piece) => some (stop, piece, s.drop piece.length)
    | some (none, piece) =>
      (blockTail? fuel (s.drop piece.length)).map fun (stop, taken, rest) =>
        (stop, piece ++ taken, rest)
    | none => none

def symbols : List String :=
  ["<<=", "...", "->", "++", "--", "::", "==", "!=", "<=", "&&", "||", "+=", "-=", "*=", "/=",
    "&=", "|=", "^=", "%=", "<<", "(", ")", "\x7b", "\x7d", "[", "]", ";", ",", ".", "@", "=",
    "<", ">", "!", "~", "?", ":", "+", "-", "*", "/", "&", "|", "^", "%"]

/-- The embedded expressions that are open: whether each is inside a text block, and how many
braces are open in it. -/
abbrev Embedding := List (Bool × Nat)

def stringPart? (embedding : Embedding) (first : Bool) (block : Bool) (opening s : List Char) :
    Option (TokenKind × List Char × Embedding × List Char) := do
  let (stop, taken, rest) ← if block then blockTail? (s.length + 1) s else stringTail? s
  match stop with
  | .quote => return (if first then .string else .templateTail, opening ++ taken, embedding, rest)
  | .expression =>
    return (if first then .templateHead else .templateMiddle, opening ++ taken,
      (block, 0) :: embedding, rest)

def lexeme? (embedding : Embedding) (s : List Char) :
    Option (TokenKind × List Char × Embedding × List Char) :=
  match s with
  | '"' :: '"' :: '"' :: rest => stringPart? embedding true true ['"', '"', '"'] rest
  | '"' :: rest => stringPart? embedding true false ['"'] rest
  | '\'' :: _ => (characterLiteral? s).map fun (taken, rest) => (.character, taken, embedding, rest)
  | c :: _ =>
    if isWordStart c then
      some (.word, s.takeWhile isWordPart, embedding, s.dropWhile isWordPart)
    else
      match number? s with
      | some (kind, taken) => some (kind, taken, embedding, s.drop taken.length)
      | none =>
        match embedding, c with
        | (block, 0) :: outer, '\x7d' => stringPart? outer false block ['\x7d'] (s.drop 1)
        | _, _ =>
          (symbols.find? fun symbol => symbol.toList.isPrefixOf s).map fun symbol =>
            let embedding := match embedding, c with
              | (block, depth) :: outer, '\x7b' => (block, depth + 1) :: outer
              | (block, depth) :: outer, '\x7d' => (block, depth - 1) :: outer
              | _, _ => embedding
            (.symbol, symbol.toList, embedding, s.drop symbol.length)
  | [] => none

/-- The tokens of a text, given at least as much fuel as it has characters. -/
def tokensFrom? : Nat → Embedding → List Char → Option (List Token)
  | 0, _, _ => none
  | fuel + 1, embedding, s => do
    let (gap, s) ← takeGap? s
    if s.isEmpty then
      if embedding.isEmpty then return [] else none
    else
      let (kind, text, embedding, rest) ← lexeme? embedding s
      let more ← tokensFrom? fuel embedding rest
      return ⟨String.ofList gap, kind, String.ofList text⟩ :: more

/-- The tokens of a source text, if all of it can be cut. A byte order mark at the start is
skipped; a null character is not allowed anywhere. -/
def tokens? (s : List Char) : Option (List Token) :=
  let s := if s.head? = some '\ufeff' then s.drop 1 else s
  if s.contains '\x00' then none else tokensFrom? (s.length + 1) [] s

end AnnotationIndex.Java
