import AnnotationIndex.Grammar.Reading
import AnnotationIndex.Java.Token
import AnnotationIndex.Java.Syntax.Declarations

/-!
# Source files

The grammar of whole files, and how the tokens of a file are given to it. Three kinds of tokens
depend on what can follow the text before them. A word is a token of its own only where the grammar
has a use for it. A row of `>` signs is cut after the longest operator that fits. The sign `@` with
the word `interface`, and `non-sealed`, are single tokens where these fit.
-/

namespace AnnotationIndex.Java.Syntax

open Terminal Phrase
open Grammar (Next Table Numbering)

abbrev Tree := Grammar.Tree Terminal Phrase Token

def wholeTextRule : Production :=
  ⟨wholeText, [.phrase source, .token finish], 0, none, 0⟩

/-- A file is a row of statements, declarations among them, and methods. -/
def sourceRules : List Production :=
  rule source [items] ++
  oneOrMore items [choice [statement, methodDeclaration]]

def productions : List Production :=
  sourceRules ++ nameRules ++ typeRules ++ operatorRules ++ expressionRules ++
    Syntax.switchRules ++ statementRules ++ controlRules ++ moduleRules ++ declarationRules ++
    memberRules

def numbering : Numbering Terminal Phrase where
  token := Terminal.ctorIdx
  phrase := Phrase.ctorIdx
  tokens := decrement.ctorIdx + 1
  phrases := impossible.ctorIdx + 1

def table : Table Terminal Phrase := Table.ofProductions numbering wholeTextRule productions

abbrev Cut := Next Terminal Token (List Token)

def extent (t : Token) : Nat := t.gap.length + t.text.length

def cut (kind : Terminal) (t : Token) (rest : List Token) : Cut := ⟨kind, t, extent t, rest⟩

/-- What is left of a word after its first `n` characters stands before the tokens that follow. A
rest that is no word makes the text unreadable. -/
def pushBack? (n : Nat) (word : Token) (rest : List Token) : Option (List Token) :=
  match word.text.toList.drop n with
  | [] => some rest
  | c :: more =>
    if isWordStart c then some (⟨"", .word, String.ofList (c :: more)⟩ :: rest) else none

/-- The rest of a token that is made of the word or sign `t`, the tokens `joined` without gaps, and
the start `last` of a word. -/
def compound? (kind : Terminal) (t : Token) (joined : List String) (last : String)
    (rest : List Token) : Option (Option Cut) :=
  let middle := rest.take joined.length
  if middle.all (·.gap.isEmpty) && middle.map (·.text) == joined then
    match rest.drop joined.length with
    | word :: rest =>
      if word.gap.isEmpty && word.kind = .word && last.isPrefixOf word.text then
        let text := t.text ++ String.join joined ++ last
        some ((pushBack? last.length word rest).map (cut kind ⟨t.gap, t.kind, text⟩ ·))
      else none
    | [] => none
  else none

def cutWord (canFollow : Terminal → Bool) (t : Token) (rest : List Token) : Option Cut :=
  let single := match words.lookup t.text with
    | some kind => if canFollow kind then kind else name
    | none => name
  if t.text = "non" && canFollow nonSealed then
    (compound? nonSealed t ["-"] "sealed" rest).getD (some (cut single t rest))
  else some (cut single t rest)

/-- The operators that begin with `>`, longest first. -/
def closingSigns : List String := [">>>=", ">>>", ">>=", ">>", ">="]

def spelled? : List Char → List Token → Option (List Token)
  | [], ts => some ts
  | _ :: _, [] => none
  | c :: cs, t :: ts =>
    if t.gap.isEmpty && t.kind = .symbol && t.text = String.singleton c then spelled? cs ts
    else none

/-- The longest operator that begins with the sign `>` and fits. -/
def cutClosing (canFollow : Terminal → Bool) (t : Token) (rest : List Token) : Option Cut :=
  let longer := closingSigns.findSome? fun sign => do
    let kind ← signs.lookup sign
    let rest ← spelled? (sign.toList.drop 1) rest
    if canFollow kind then some (cut kind ⟨t.gap, t.kind, sign⟩ rest) else none
  longer.or (some (cut greater t rest))

def cutSign (canFollow : Terminal → Bool) (t : Token) (rest : List Token) : Option Cut :=
  let single := (signs.lookup t.text).map (cut · t rest)
  if t.text = ">" then cutClosing canFollow t rest
  else if t.text = "@" && canFollow atInterface then
    (compound? atInterface t [] "interface" rest).getD single
  else single

/-- The next token of a text, where `canFollow` tells which kinds fit. -/
def scan (canFollow : Terminal → Bool) : List Token → Option Cut
  | [] => some ⟨finish, ⟨"", .symbol, ""⟩, 1, []⟩
  | t :: rest =>
    match t.kind with
    | .word => cutWord canFollow t rest
    | .symbol => cutSign canFollow t rest
    | .integer => some (cut integer t rest)
    | .real => some (cut real t rest)
    | .hexReal => some (cut hexReal t rest)
    | .character => some (cut character t rest)
    | .string => some (cut string t rest)
    | .templateHead => some (cut templateHead t rest)
    | .templateMiddle => some (cut templateMiddle t rest)
    | .templateTail => some (cut templateTail t rest)

def trees? (ts : List Token) : Option (List Tree) :=
  match ts with
  | [] => some []
  | _ => table.read? scan (ts.foldl (fun n t => n + extent t) 0) ts

end AnnotationIndex.Java.Syntax
