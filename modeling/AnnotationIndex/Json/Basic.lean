import AnnotationIndex.Number.Shortest

/-!
# JSON documents

Numbers are kept as they are spelled. The members of an object keep their order and may repeat a
name; what that means is for the reader of the document to say.
-/

namespace AnnotationIndex

inductive Json where
  | null
  | truth (value : Bool)
  | number (text : String)
  | string (text : String)
  /-- A string, or an object with a name, in which half of a surrogate pair is escaped. That stands
  for no text. -/
  | broken
  | array (items : List Json)
  | object (members : List (String × Json))
  deriving Repr, Inhabited

namespace Json

def ofInt (n : Int) : Json := .number (toString n)

def ofNat (n : Nat) : Json := .number (toString n)

def ofReal (x : Number.Binary64) : Json := .number x.text

def ofText? : Option String → Json
  | some text => .string text
  | none => .null

def hexDigit (n : Nat) : Char := Char.ofNat (if n < 10 then 48 + n else 87 + n)

def escaped (c : Char) : List Char :=
  match c with
  | '"' => ['\\', '"']
  | '\\' => ['\\', '\\']
  | '\n' => ['\\', 'n']
  | '\r' => ['\\', 'r']
  | '\t' => ['\\', 't']
  | '\x08' => ['\\', 'b']
  | '\x0c' => ['\\', 'f']
  | c =>
    if c.toNat < 32 then ['\\', 'u', '0', '0', hexDigit (c.toNat / 16), hexDigit (c.toNat % 16)]
    else [c]

def quoted (text : String) : String := String.ofList ('"' :: text.toList.flatMap escaped ++ ['"'])

mutual

def compact : Json → String
  | null => "null"
  | truth true => "true"
  | truth false => "false"
  | number text => text
  | string text => quoted text
  | broken => quoted ""
  | array items => "[" ++ compactItems items ++ "]"
  | object members => "\x7b" ++ compactMembers members ++ "\x7d"

def compactItems : List Json → String
  | [] => ""
  | [item] => item.compact
  | item :: more => item.compact ++ "," ++ compactItems more

def compactMembers : List (String × Json) → String
  | [] => ""
  | [(key, value)] => quoted key ++ ":" ++ value.compact
  | (key, value) :: more => quoted key ++ ":" ++ value.compact ++ "," ++ compactMembers more

end

def newLine (level : Nat) : String := String.ofList ('\n' :: List.replicate (2 * level) ' ')

mutual

def prettyAt (level : Nat) : Json → String
  | array (item :: more) =>
    "[" ++ newLine (level + 1) ++ item.prettyAt (level + 1) ++ prettyItems (level + 1) more ++
      newLine level ++ "]"
  | object ((key, value) :: more) =>
    "\x7b" ++ newLine (level + 1) ++ quoted key ++ ": " ++ value.prettyAt (level + 1) ++
      prettyMembers (level + 1) more ++ newLine level ++ "\x7d"
  | array [] => "[]"
  | object [] => "\x7b\x7d"
  | null => "null"
  | truth true => "true"
  | truth false => "false"
  | number text => text
  | string text => quoted text
  | broken => quoted ""

def prettyItems (level : Nat) : List Json → String
  | [] => ""
  | item :: more => "," ++ newLine level ++ item.prettyAt level ++ prettyItems level more

def prettyMembers (level : Nat) : List (String × Json) → String
  | [] => ""
  | (key, value) :: more =>
    "," ++ newLine level ++ quoted key ++ ": " ++ value.prettyAt level ++ prettyMembers level more

end

def pretty (j : Json) : String := j.prettyAt 0

mutual

def depth : Json → Nat
  | array items => depthOfItems items + 1
  | object members => depthOfMembers members + 1
  | _ => 0

def depthOfItems : List Json → Nat
  | [] => 0
  | item :: more => max item.depth (depthOfItems more)

def depthOfMembers : List (String × Json) → Nat
  | [] => 0
  | (_, value) :: more => max value.depth (depthOfMembers more)

end

end Json

end AnnotationIndex
