import AnnotationIndex.Json.Reader
import AnnotationIndex.Pattern.Machine
import AnnotationIndex.Text.Blank

/-!
# Reading patterns

Patterns are spelled as regular expressions without look-around and back-references. Flags in a
group change the meaning of what follows in it: the readers pass the flags along.
-/

namespace AnnotationIndex.Pattern

open Text

/-- What the spelling of a pattern means at some place. -/
structure Flags where
  caseless : Bool := false
  multiLine : Bool := false
  dotAll : Bool := false
  returns : Bool := false
  asciiOnly : Bool := false
  verbose : Bool := false
  deriving DecidableEq, Repr

def skipVerbose (inComment : Bool) : List Char → List Char
  | [] => []
  | c :: rest =>
    if inComment then skipVerbose (c ≠ '\n') rest
    else if isBlank c then skipVerbose false rest
    else if c = '#' then skipVerbose true rest
    else c :: rest

def skip (verbose : Bool) (s : List Char) : List Char := if verbose then skipVerbose false s else s

def more? (verbose : Bool) (s : List Char) : Option (List Char) :=
  match skip verbose s with
  | [] => none
  | rest => some rest

inductive Atom where
  /-- A character; `asByte` if it is spelled as the code of a byte. -/
  | literal (c : Char) (asByte : Bool)
  | set (s : CharSet)
  | place (anchor : Anchor)

def metaChars : List Char :=
  ['\\', '.', '+', '*', '?', '(', ')', '|', '[', ']', '\x7b', '\x7d', '^', '$', '#', '&', '-', '~']

def isEscapable (c : Char) : Bool :=
  metaChars.contains c || (c.toNat < 128 && !c.isAlphanum && c ≠ '<' && c ≠ '>')

def charOfCode? (n : Nat) : Option Char := if n.isValidChar then some (Char.ofNat n) else none

def hexDigits? (verbose : Bool) : Nat → Nat → List Char → Option (Nat × List Char)
  | 0, code, s => some (code, s)
  | n + 1, code, c :: rest =>
    match Json.hexValue? c with
    | some d => hexDigits? verbose n (code * 16 + d) (skip verbose rest)
    | none => none
  | _ + 1, _, [] => none

def braced? (verbose inComment : Bool) : List Char → Option (List Char × List Char)
  | [] => none
  | c :: rest =>
    if inComment then braced? verbose (c ≠ '\n') rest
    else if c = '\x7d' then some ([], rest)
    else if verbose && isBlank c then braced? verbose false rest
    else if verbose && c = '#' then braced? verbose true rest
    else (braced? verbose false rest).map fun (inner, rest) => (c :: inner, rest)

def hexEscape? (verbose : Bool) (digits : Nat) (s : List Char) : Option (Char × List Char) := do
  match ← more? verbose s with
  | '\x7b' :: rest =>
    let (inner, rest) ← braced? verbose false rest
    if inner.isEmpty then none
    else
      let code ← inner.foldlM (fun code c => (Json.hexValue? c).map (code * 16 + ·)) 0
      return (← charOfCode? code, skip verbose rest)
  | s =>
    let (code, rest) ← hexDigits? verbose digits 0 s
    return (← charOfCode? code, rest)

def folded (flags : Flags) (s : CharSet) : CharSet :=
  if !flags.caseless then s else if flags.asciiOnly then s.asciiCaseless else s.caseless

def negatedIf (negated : Bool) (s : CharSet) : CharSet := if negated then s.complement else s

/-- A set where classes may know ASCII only. Such a class is one of bytes, and must not have bytes
beyond ASCII. -/
def bounded? (flags : Flags) (s : CharSet) : Option CharSet :=
  if !flags.asciiOnly then some s
  else
    let bytes := s.inter (.range '\x00' '\xff')
    if bytes.ranges.all (·.2 < 128) then some bytes else none

def splitText? (mark : List Char) : List Char → Option (List Char × List Char)
  | [] => none
  | c :: rest =>
    if mark.isPrefixOf (c :: rest) then some ([], (c :: rest).drop mark.length)
    else (splitText? mark rest).map fun (front, back) => (c :: front, back)

/-- The set for what stands in the braces of a property class, and whether it is turned around. -/
def propertyClass? (text : List Char) : Option (CharSet × Bool) :=
  let value (parts : List Char × List Char) : Option CharSet :=
    propertyValueSet? (String.ofList parts.1) (String.ofList parts.2)
  match splitText? ['!', '='] text, splitText? [':'] text, splitText? ['='] text with
  | some parts, _, _ => (value parts).map (·, true)
  | none, some parts, _ => (value parts).map (·, false)
  | none, none, some parts => (value parts).map (·, false)
  | none, none, none => (propertySet? (String.ofList text)).map (·, false)

def propertyEscape? (flags : Flags) (negated : Bool) (s : List Char) :
    Option (CharSet × List Char) := do
  if flags.asciiOnly then none
  else
    let finish (found : CharSet × Bool) : CharSet :=
      negatedIf (negated != found.2) (folded flags found.1)
    match ← more? flags.verbose s with
    | '\x7b' :: rest =>
      let (inner, rest) ← braced? flags.verbose false rest
      return (finish (← propertyClass? inner), rest)
    | c :: rest =>
      if c = '\\' then none
      else return (finish (← propertyClass? [c]), skip flags.verbose rest)
    | [] => none

def namedPlace? (flags : Flags) (s : List Char) : Option (Option (Anchor × List Char)) := do
  let isNameChar (c : Char) : Bool := c.isAlpha || c = '-'
  let s ← more? flags.verbose s
  if (s.head?.map isNameChar).getD false then
    let (name, rest) ← braced? flags.verbose false s
    match String.ofList name with
    | "start" => return some (.wordStart flags.asciiOnly, rest)
    | "end" => return some (.wordEnd flags.asciiOnly, rest)
    | "start-half" => return some (.noWordBefore flags.asciiOnly, rest)
    | "end-half" => return some (.noWordAfter flags.asciiOnly, rest)
    | _ => none
  else return none

def escape? (flags : Flags) : List Char → Option (Atom × List Char)
  | [] => none
  | c :: rest =>
    let perl (s : CharSet) (negated : Bool) : Option (Atom × List Char) :=
      (bounded? flags (negatedIf negated s)).map fun s => (.set s, rest)
    let plain (c : Char) : Option (Atom × List Char) := some (.literal c false, rest)
    match c with
    | 'x' => (hexEscape? flags.verbose 2 rest).map fun (c, after) =>
        (.literal c ((skip flags.verbose rest).head? ≠ some '\x7b'), after)
    | 'u' => (hexEscape? flags.verbose 4 rest).map fun (c, rest) => (.literal c false, rest)
    | 'U' => (hexEscape? flags.verbose 8 rest).map fun (c, rest) => (.literal c false, rest)
    | 'p' => (propertyEscape? flags false rest).map fun (s, rest) => (.set s, rest)
    | 'P' => (propertyEscape? flags true rest).map fun (s, rest) => (.set s, rest)
    | 'd' => perl (decimals flags.asciiOnly) false
    | 'D' => perl (decimals flags.asciiOnly) true
    | 's' => perl (blanks flags.asciiOnly) false
    | 'S' => perl (blanks flags.asciiOnly) true
    | 'w' => perl (wordChars flags.asciiOnly) false
    | 'W' => perl (wordChars flags.asciiOnly) true
    | 'a' => plain '\x07'
    | 'f' => plain '\x0c'
    | 't' => plain '\t'
    | 'n' => plain '\n'
    | 'r' => plain '\r'
    | 'v' => plain '\x0b'
    | 'A' => some (.place .textStart, rest)
    | 'z' => some (.place .textEnd, rest)
    | 'B' => some (.place (.noWordEdge flags.asciiOnly), rest)
    | '<' => some (.place (.wordStart flags.asciiOnly), rest)
    | '>' => some (.place (.wordEnd flags.asciiOnly), rest)
    | 'b' =>
      match rest with
      | '\x7b' :: name =>
        match namedPlace? flags name with
        | none => none
        | some (some (anchor, rest)) => some (.place anchor, rest)
        | some none => some (.place (.wordEdge flags.asciiOnly), rest)
      | _ => some (.place (.wordEdge flags.asciiOnly), rest)
    | c => if isEscapable c then plain c else none

inductive SetOp where
  | inter | minus | apart

/-- What was read of a class in brackets: the operation in front of the current part, and the sets
of the current part. The depths count how deep classes are nested. -/
structure OpenClass where
  left : Option (SetOp × CharSet × Nat)
  current : List CharSet
  currentDepth : Nat

namespace OpenClass

def push (k : OpenClass) (s : CharSet) (depth : Nat) : OpenClass :=
  { k with current := k.current ++ [s], currentDepth := max k.currentDepth depth }

def set (flags : Flags) (k : OpenClass) : CharSet × Nat :=
  let right := CharSet.unions k.current
  let rightDepth := if k.current.length < 2 then k.currentDepth else k.currentDepth + 1
  match k.left with
  | none => (right, rightDepth)
  | some (op, left, leftDepth) =>
    let left := folded flags left
    let right := folded flags right
    let s := match op with
      | .inter => left.inter right
      | .minus => left.minus right
      | .apart => left.apart right
    (s, max leftDepth rightDepth + 1)

def operator (flags : Flags) (k : OpenClass) (op : SetOp) : OpenClass :=
  let (s, depth) := k.set flags
  ⟨some (op, s, depth), [], 0⟩

end OpenClass

def namedClass? (flags : Flags) (s : List Char) : Option (Option CharSet × List Char) :=
  match s with
  | ':' :: rest =>
    let (negated, rest) := match rest with
      | '^' :: rest => (true, rest)
      | _ => (false, rest)
    let name := rest.takeWhile (· ≠ ':')
    match rest.drop name.length with
    | ':' :: ']' :: after =>
      (asciiClass? (String.ofList name)).map fun s =>
        (bounded? flags (negatedIf negated (folded flags s)), after)
    | _ => none
  | _ => none

def classLiteral? (flags : Flags) : Atom → Option Char
  | .literal c asByte =>
    if flags.asciiOnly && !(c.toNat < 128 || (asByte && c.toNat < 256)) then none else some c
  | _ => none

def classItem? (flags : Flags) : Atom → Option CharSet
  | .literal c asByte => (classLiteral? flags (.literal c asByte)).map .single
  | .set s => some s
  | .place _ => none

def classAtom? (flags : Flags) : List Char → Option (Atom × List Char)
  | [] => none
  | '\\' :: rest => escape? flags rest
  | c :: rest => some (.literal c false, rest)

def classRange? (flags : Flags) (s : List Char) : Option (CharSet × List Char) := do
  let (first, rest) ← classAtom? flags s
  let next ← more? flags.verbose rest
  let alone : Option (CharSet × List Char) := (classItem? flags first).map (·, next)
  match next with
  | '-' :: rest =>
    match (skip flags.verbose rest).head? with
    | some ']' => alone
    | some '-' => alone
    | _ =>
      let (last, rest) ← classAtom? flags (← more? flags.verbose rest)
      let low ← classLiteral? flags first
      let high ← classLiteral? flags last
      if low ≤ high then return (.range low high, rest) else none
  | _ => alone

/-- Hyphens in front of a class stand for themselves. -/
def leadingHyphens? (verbose : Bool) : Nat → OpenClass → List Char → Option (OpenClass × List Char)
  | 0, _, _ => none
  | steps + 1, k, s => do
    match ← more? verbose s with
    | '-' :: rest => leadingHyphens? verbose steps (k.push (.single '-') 0) rest
    | s => return (k, s)

/-- The start of a class after its opening bracket: whether it is negated, and what stands for
itself only there. -/
def classStart? (verbose : Bool) (s : List Char) : Option (Bool × OpenClass × List Char) := do
  let s ← more? verbose s
  let (negated, s) ← match s with
    | '^' :: rest => (more? verbose rest).map (true, ·)
    | _ => some (false, s)
  let (k, s) ← leadingHyphens? verbose (s.length + 1) ⟨none, [], 0⟩ s
  match s with
  | ']' :: rest =>
    if k.current.isEmpty then
      return (negated, k.push (.single ']') 0, ← more? verbose rest)
    else return (negated, k, s)
  | _ => return (negated, k, s)

/-- The rest of a class in brackets, in at most `steps` steps. -/
def classRest? (flags : Flags) : Nat → Bool → OpenClass → List Char →
    Option (CharSet × Nat × List Char)
  | 0, _, _, _ => none
  | steps + 1, negated, k, s => do
    match ← more? flags.verbose s with
    | ']' :: rest =>
      let (s, depth) := k.set flags
      return (← bounded? flags (negatedIf negated (folded flags s)), depth, rest)
    | '&' :: '&' :: rest => classRest? flags steps negated (k.operator flags .inter) rest
    | '-' :: '-' :: rest => classRest? flags steps negated (k.operator flags .minus) rest
    | '~' :: '~' :: rest => classRest? flags steps negated (k.operator flags .apart) rest
    | '[' :: rest =>
      match namedClass? flags rest with
      | some (s, rest) => classRest? flags steps negated (k.push (← s) 0) rest
      | none =>
        let (inner, k', rest) ← classStart? flags.verbose rest
        let (s, depth, rest) ← classRest? flags steps inner k' rest
        classRest? flags steps negated (k.push s (depth + 1)) rest
    | s =>
      let (item, rest) ← classRange? flags s
      classRest? flags steps negated (k.push item 0) rest

def bracketed? (flags : Flags) (s : List Char) : Option (CharSet × Nat × List Char) := do
  let (negated, k, rest) ← classStart? flags.verbose s
  classRest? flags (s.length + 1) negated k rest

inductive FlagName where
  | caseless | multiLine | dotAll | swapGreed | unicode | returns | verbose
  deriving DecidableEq

def flagName? : Char → Option FlagName
  | 'i' => some .caseless
  | 'm' => some .multiLine
  | 's' => some .dotAll
  | 'U' => some .swapGreed
  | 'u' => some .unicode
  | 'R' => some .returns
  | 'x' => some .verbose
  | _ => none

def setFlag (flags : Flags) (name : FlagName) (value : Bool) : Flags :=
  match name with
  | .caseless => { flags with caseless := value }
  | .multiLine => { flags with multiLine := value }
  | .dotAll => { flags with dotAll := value }
  | .swapGreed => flags
  | .unicode => { flags with asciiOnly := !value }
  | .returns => { flags with returns := value }
  | .verbose => { flags with verbose := value }

/-- Flags up to the colon or bracket that ends them: the new flags, how many were named, the end
and what follows it. No flag may be named twice, and a minus sign must be followed by a flag. -/
def flagList? (flags : Flags) (seen : List FlagName) (negating dangling : Bool) :
    List Char → Option (Flags × Nat × Char × List Char)
  | [] => none
  | c :: rest =>
    if c = ':' || c = ')' then
      if dangling then none else some (flags, seen.length, c, rest)
    else if c = '-' then
      if negating then none else flagList? flags seen true true rest
    else
      match flagName? c with
      | none => none
      | some name =>
        if seen.contains name then none
        else flagList? (setFlag flags name (!negating)) (name :: seen) negating false rest

def groupName? (s : List Char) : Option (String × List Char) :=
  let name := s.takeWhile (· ≠ '>')
  let isFirst (c : Char) : Bool := c = '_' || isAlphabetic c
  let isOther (c : Char) : Bool :=
    isFirst c || c = '.' || c = '[' || c = ']' ||
      inCategories Category.numbers c
  match name, s.drop name.length with
  | first :: others, '>' :: rest =>
    if isFirst first && others.all isOther then some (String.ofList name, rest) else none
  | _, _ => none

inductive Opening where
  | flags (flags : Flags)
  | plain (flags : Flags)
  | numbered (name : Option String)

def startsWith (text : String) (s : List Char) : Bool := text.toList.isPrefixOf s

def opening? (flags : Flags) (s : List Char) : Option (Opening × List Char) :=
  let s := skip flags.verbose s
  let named (s : List Char) : Option (Opening × List Char) :=
    (groupName? s).map fun (name, rest) => (.numbered (some name), rest)
  if ["?=", "?!", "?<=", "?<!"].any (startsWith · s) then none
  else if startsWith "?P<" s then named (s.drop 3)
  else if startsWith "?<" s then named (s.drop 2)
  else
    match s with
    | '?' :: rest =>
      match flagList? flags [] false false rest with
      | some (changed, count, ')', rest) => if count = 0 then none else some (.flags changed, rest)
      | some (changed, _, _, rest) => some (.plain changed, rest)
      | none => none
    | _ => some (.numbered none, s)

def countDigits (verbose inComment : Bool) : List Char → List Char × List Char
  | [] => ([], [])
  | c :: rest =>
    if inComment then countDigits verbose (c ≠ '\n') rest
    else if verbose && isBlank c then countDigits verbose false rest
    else if verbose && c = '#' then countDigits verbose true rest
    else if c.isDigit then
      let (digits, rest) := countDigits verbose false rest
      (c :: digits, rest)
    else ([], c :: rest)

/-- A count, which has to fit in 32 bits; absent if there are no digits. -/
def count? (verbose : Bool) (s : List Char) : Option (Option Nat × List Char) :=
  let (digits, rest) := countDigits verbose false (s.dropWhile isBlank)
  let rest := skip verbose (rest.dropWhile isBlank)
  if digits.isEmpty then some (none, rest)
  else
    let n := digits.foldl (fun n c => n * 10 + (c.toNat - 48)) 0
    if n < UInt32.size then some (some n, rest) else none

def lazyMark : List Char → List Char
  | '?' :: rest => rest
  | s => s

def counts? (verbose : Bool) (s : List Char) : Option (Nat × Option Nat × List Char) := do
  let (least, rest) ← count? verbose (← more? verbose s)
  let least ← least
  let finish (most : Option Nat) : List Char → Option (Nat × Option Nat × List Char)
    | '\x7d' :: rest =>
      if most.all (least ≤ ·) then some (least, most, lazyMark (skip verbose rest)) else none
    | _ => none
  match rest with
  | ',' :: rest =>
    match ← more? verbose rest with
    | '\x7d' :: rest => finish none ('\x7d' :: rest)
    | s =>
      let (most, rest) ← count? verbose s
      finish (some (← most)) rest
  | s => finish (some least) s

/-- A part of a pattern with how deep it is nested, or flags, which cannot be repeated. -/
inductive Piece where
  | flags
  | part (p : Pattern) (depth : Nat)

/-- What was read of a group: the alternatives and the pieces of the current one, latest first,
with how deep they are nested. -/
structure OpenGroup where
  done : List (Pattern × Nat)
  current : List Piece

namespace OpenGroup

def push (g : OpenGroup) (piece : Piece) : OpenGroup := { g with current := piece :: g.current }

def alternative (g : OpenGroup) : Pattern × Nat :=
  let parts := g.current.reverse.filterMap fun
    | .part p depth => some (p, depth)
    | .flags => none
  let depth := (parts.map (·.2)).foldl max 0
  (ofParts (parts.map (·.1)), if g.current.length < 2 then depth else depth + 1)

def pattern (g : OpenGroup) : Pattern × Nat :=
  match (g.alternative :: g.done).reverse with
  | [(p, depth)] => (p, depth)
  | options => (ofOptions (options.map (·.1)), (options.map (·.2)).foldl max 0 + 1)

def repeated? (g : OpenGroup) (least : Nat) (most : Option Nat) : Option OpenGroup :=
  match g.current with
  | .part p depth :: before =>
    some { g with current := .part (p.repeated least most) (depth + 1) :: before }
  | _ => none

end OpenGroup

def atomPattern? (flags : Flags) : Atom → Option Pattern
  | .literal c asByte =>
    if flags.asciiOnly && asByte && 128 ≤ c.toNat then none
    else some (ofSet (folded flags (.single c)))
  | .set s => some (ofSet s)
  | .place anchor => some (.place anchor)

def anyChar? (flags : Flags) : Option Pattern :=
  if flags.asciiOnly then none
  else if flags.dotAll then some (.oneOf .all)
  else if flags.returns then some (.oneOf (CharSet.unions [.single '\n', .single '\r']).complement)
  else some (.oneOf (CharSet.single '\n').complement)

def lineStart (flags : Flags) : Anchor :=
  if flags.multiLine then .lineStart flags.returns else .textStart

def lineEnd (flags : Flags) : Anchor := if flags.multiLine then .lineEnd flags.returns else .textEnd

structure Numbered where
  count : Nat := 0
  names : List String := []

/-- The rest of a group, or of the pattern if `inGroup` is false, in at most `steps` steps: the
pattern with its depth, the numbered groups so far, and what follows. -/
def groupRest? : Nat → Flags → Numbered → Bool → OpenGroup → List Char →
    Option ((Pattern × Nat) × Numbered × List Char)
  | 0, _, _, _, _, _ => none
  | steps + 1, flags, groups, inGroup, g, s =>
    let next (g : OpenGroup) (rest : List Char) := groupRest? steps flags groups inGroup g rest
    let push (p : Pattern) (depth : Nat) (rest : List Char) := next (g.push (.part p depth)) rest
    match skip flags.verbose s with
    | [] => if inGroup then none else some (g.pattern, groups, [])
    | ')' :: rest => if inGroup then some (g.pattern, groups, rest) else none
    | '|' :: rest => next ⟨g.alternative :: g.done, []⟩ rest
    | '(' :: rest => do
      match ← opening? flags rest with
      | (.flags flags, rest) => groupRest? steps flags groups inGroup (g.push .flags) rest
      | (.plain inner, rest) =>
        let ((p, depth), groups, rest) ← groupRest? steps inner groups true ⟨[], []⟩ rest
        groupRest? steps flags groups inGroup (g.push (.part p (depth + 1))) rest
      | (.numbered name, rest) =>
        if (name.map groups.names.contains).getD false then none
        else
          let number := groups.count + 1
          let ((p, depth), groups, rest) ←
            groupRest? steps flags ⟨number, name.toList ++ groups.names⟩ true ⟨[], []⟩ rest
          groupRest? steps flags groups inGroup (g.push (.part (.group number p) (depth + 1))) rest
    | '[' :: rest => do
      let (set, depth, rest) ← bracketed? flags rest
      push (ofSet set) (depth + 1) rest
    | '?' :: rest => do next (← g.repeated? 0 (some 1)) (lazyMark rest)
    | '*' :: rest => do next (← g.repeated? 0 none) (lazyMark rest)
    | '+' :: rest => do next (← g.repeated? 1 none) (lazyMark rest)
    | '\x7b' :: rest => do
      let (least, most, rest) ← counts? flags.verbose rest
      next (← g.repeated? least most) rest
    | '.' :: rest => do push (← anyChar? flags) 0 rest
    | '^' :: rest => push (.place (lineStart flags)) 0 rest
    | '$' :: rest => push (.place (lineEnd flags)) 0 rest
    | '\\' :: rest => do
      let (atom, rest) ← escape? flags rest
      push (← atomPattern? flags atom) 0 rest
    | c :: rest => do push (← atomPattern? flags (.literal c false)) 0 rest

def nestingLimit : Nat := 250

def parse? (text : String) : Option Pattern := do
  let s := text.toList
  let ((p, depth), _, _) ← groupRest? (s.length + 1) {} {} false ⟨[], []⟩ s
  if depth ≤ nestingLimit && p.fits then return p else none

end AnnotationIndex.Pattern
