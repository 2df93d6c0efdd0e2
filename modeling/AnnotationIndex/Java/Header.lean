import AnnotationIndex.Text.Blank

/-!
# Headers

The package of a source file, its on-demand imports and the names of the types it declares can be
found without reading the whole grammar: comments and literals are skipped, brackets are matched,
and a type keyword that a name follows declares a type. Types inside methods and blocks are not
reported. The scan accepts every text.
-/

namespace AnnotationIndex.Java

structure Header where
  package : Option String
  onDemand : List String
  types : List String
  deriving DecidableEq, Repr

namespace Header

/-- The package of the file, empty for the default package, and then its on-demand imports, each
once. -/
def scope (h : Header) : List String :=
  h.onDemand.foldl (fun packages p => if packages.contains p then packages else packages ++ [p])
    [h.package.getD ""]

inductive Mark where
  | word (text : String)
  | dot | at | star | openBrace | closeBrace | openParen | closeParen
  | other
  deriving DecidableEq, Repr

/-- Every character outside ASCII counts as a letter. -/
def isNameStart (c : Char) : Bool := c.isAlpha || c == '_' || c == '$' || 128 ≤ c.toNat

def isNamePart (c : Char) : Bool := isNameStart c || c.isDigit

def isAsciiBlank (c : Char) : Bool :=
  c == ' ' || c == '\t' || c == '\n' || c == '\r' || c == '\x0c'

/-- What follows the end of a block comment, or nothing. -/
def afterComment : List Char → List Char
  | '*' :: '/' :: rest => rest
  | _ :: rest => afterComment rest
  | [] => []

/-- What follows the closing quotes of a text block. A backslash takes the next character along. -/
def afterBlock : List Char → List Char
  | '"' :: '"' :: '"' :: rest => rest
  | '\\' :: _ :: rest => afterBlock rest
  | _ :: rest => afterBlock rest
  | [] => []

/-- What follows the closing quote of a string or character literal, which ends at its line. -/
def afterQuote (quote : Char) : List Char → List Char
  | [] => []
  | c :: rest =>
    if c == quote || c == '\n' then rest
    else if c == '\\' then
      match rest with
      | _ :: rest => afterQuote quote rest
      | [] => []
    else afterQuote quote rest

theorem afterComment_length (s : List Char) : (afterComment s).length ≤ s.length := by
  fun_induction afterComment s <;> simp <;> omega

theorem afterBlock_length (s : List Char) : (afterBlock s).length ≤ s.length := by
  fun_induction afterBlock s <;> simp <;> omega

theorem afterQuote_length (quote : Char) (s : List Char) :
    (afterQuote quote s).length ≤ s.length := by
  fun_induction afterQuote quote s <;> simp_all <;> omega

def markOf (c : Char) : Mark :=
  match c with
  | '\x7b' => .openBrace
  | '\x7d' => .closeBrace
  | '.' => .dot
  | '*' => .star
  | '(' => .openParen
  | ')' => .closeParen
  | '@' => .at
  | _ => .other

/-- The marks of a source text. Comments and text blocks leave none; a string or character literal
leaves one. -/
def marks (s : List Char) : List Mark :=
  match s with
  | '/' :: '/' :: rest => marks (rest.dropWhile (· != '\n'))
  | '/' :: '*' :: rest => marks (afterComment rest)
  | '"' :: '"' :: '"' :: rest => marks (afterBlock rest)
  | c :: rest =>
    if c == '"' || c == '\'' then .other :: marks (afterQuote c rest)
    else if isNameStart c then
      .word (String.ofList (c :: rest.takeWhile isNamePart)) :: marks (rest.dropWhile isNamePart)
    else if isAsciiBlank c then marks rest
    else markOf c :: marks rest
  | [] => []
termination_by s.length
decreasing_by
  · have := (List.dropWhile_sublist (· != '\n') (l := rest)).length_le
    simp only [List.length_cons]; omega
  · have := afterComment_length rest
    simp only [List.length_cons]; omega
  · have := afterBlock_length rest
    simp only [List.length_cons]; omega
  · have := afterQuote_length c rest
    simp only [List.length_cons]; omega
  · have := (List.dropWhile_sublist isNamePart (l := rest)).length_le
    simp only [List.length_cons]; omega
  · simp
  · simp

/-- The words and dots at the start, written together, and what follows them. -/
def dottedName : List Mark → String × List Mark
  | .word w :: rest => (w ++ (dottedName rest).1, (dottedName rest).2)
  | .dot :: rest => ("." ++ (dottedName rest).1, (dottedName rest).2)
  | marks => ("", marks)

def afterOther (marks : List Mark) : List Mark := (marks.dropWhile (· != .other)).drop 1

def onDemandOf? (path : String) (rest : List Mark) : Option String :=
  match rest, path.toList.reverse with
  | .star :: _, '.' :: front => if front.isEmpty then none else some (String.ofList front.reverse)
  | _, _ => none

/-- Reads an import after its keyword: what it provides on demand, and what follows it. -/
def importTail (marks : List Mark) : Option String × List Mark :=
  match marks with
  | .word "static" :: rest => (none, afterOther (dottedName rest).2)
  | _ =>
    let (path, rest) := dottedName marks
    (onDemandOf? path rest, afterOther rest)

def isTypeKeyword (word : String) : Bool :=
  word = "class" || word = "interface" || word = "enum" || word = "record"

def isTypeName (word : String) : Bool :=
  !(isTypeKeyword word || word = "extends" || word = "implements" || word = "permits")

def typeName? : List Mark → Option String
  | .word name :: _ => if isTypeName name then some name else none
  | _ => none

inductive Frame where
  | type (name : String)
  | block
  deriving DecidableEq, Repr

/-- The state of the scan. Names are kept without the package, latest first. -/
structure State where
  package : Option String := none
  onDemand : List String := []
  names : List String := []
  frames : List Frame := []
  /-- A type whose body has not been opened yet. -/
  pending : Option String := none
  parens : Nat := 0
  afterDot : Bool := false
  deriving DecidableEq, Repr

/-- Whether types declared here are reported: outside all braces or directly inside a type. -/
def State.atTypeLevel (s : State) : Bool :=
  s.parens = 0 && match s.frames with
    | [] => true
    | .type _ :: _ => true
    | .block :: _ => false

/-- Whether a package or import declaration can stand here: before all types. -/
def State.atFileLevel (s : State) : Bool :=
  s.parens = 0 && s.frames.isEmpty && s.names.isEmpty

def State.nested (s : State) (name : String) : String :=
  match s.frames with
  | .type outer :: _ => outer ++ "." ++ name
  | _ => name

/-- An opening brace belongs to the type that waits for its body, unless it stands in brackets. -/
def State.openBrace (s : State) : State :=
  match s.pending with
  | some name =>
    if s.parens = 0 then { s with frames := .type name :: s.frames, pending := none }
    else { s with frames := .block :: s.frames }
  | none => { s with frames := .block :: s.frames }

def State.skip (s : State) (mark : Mark) : State :=
  let s := { s with afterDot := mark = .dot }
  match mark with
  | .openParen => { s with parens := s.parens + 1 }
  | .closeParen => { s with parens := s.parens - 1 }
  | .openBrace => s.openBrace
  | .closeBrace => { s with frames := s.frames.drop 1 }
  | _ => s

def endsInDot (taken rest : List Mark) : Bool :=
  (taken.take (taken.length - rest.length)).getLast? = some .dot

def State.packageDecl (s : State) (marks : List Mark) : State :=
  let (name, rest) := dottedName marks
  { s with
    package := if name.isEmpty then none else some name
    afterDot := endsInDot marks rest }

def State.importDecl (s : State) (marks : List Mark) : State :=
  let (provided, rest) := importTail marks
  { s with
    onDemand := s.onDemand ++ provided.toList
    afterDot := endsInDot marks rest }

def State.typeDecl (s : State) (name : String) : State :=
  { s with
    names := s.nested name :: s.names
    pending := some (s.nested name)
    afterDot := false }

theorem dottedName_rest_length (marks : List Mark) :
    (dottedName marks).2.length ≤ marks.length := by
  fun_induction dottedName marks <;> simp <;> omega

theorem afterOther_length (marks : List Mark) : (afterOther marks).length ≤ marks.length := by
  have := (List.dropWhile_sublist (· != Mark.other) (l := marks)).length_le
  simp [afterOther]
  omega

theorem importTail_rest_length (marks : List Mark) :
    (importTail marks).2.length ≤ marks.length := by
  unfold importTail
  split
  · rename_i rest
    have := afterOther_length (dottedName rest).2
    have := dottedName_rest_length rest
    simp only [List.length_cons]
    omega
  · have := afterOther_length (dottedName marks).2
    have := dottedName_rest_length marks
    simp only
    omega

def scan (s : State) (marks : List Mark) : State :=
  match marks with
  | [] => s
  | .word w :: rest =>
    if w = "package" && s.atFileLevel && s.package.isNone then
      scan (s.packageDecl rest) (dottedName rest).2
    else if w = "import" && s.atFileLevel then
      scan (s.importDecl rest) (importTail rest).2
    else if isTypeKeyword w && s.atTypeLevel && !s.afterDot then
      match typeName? rest with
      | some name => scan (s.typeDecl name) (rest.drop 1)
      | none => scan (s.skip (.word w)) rest
    else scan (s.skip (.word w)) rest
  | mark :: rest => scan (s.skip mark) rest
termination_by marks.length
decreasing_by
  · have := dottedName_rest_length rest
    simp only [List.length_cons]; omega
  · have := importTail_rest_length rest
    simp only [List.length_cons]; omega
  · simp only [List.length_cons, List.length_drop]; omega
  all_goals simp

def State.header (s : State) : Header where
  package := s.package
  onDemand := s.onDemand
  types := s.names.reverse.map fun name =>
    match s.package with
    | some package => package ++ "." ++ name
    | none => name

def ofSource (source : String) : Header := (scan {} (marks source.toList)).header

end Header

end AnnotationIndex.Java
