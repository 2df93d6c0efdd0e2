import AnnotationIndex.Json.Reader
import AnnotationIndex.Json.Number
import AnnotationIndex.Data.KeyMap

/-!
# Reading values from JSON documents

Records may be given as objects or as arrays of their fields in order. An object must not repeat a
field; members with other names are passed over. What is passed over may be nested to any depth,
everything else only to a limit.
-/

namespace AnnotationIndex

open Number

/-- Reads a value from a document in which `levels` more arrays and objects may be nested. -/
abbrev Decoder (α : Type) := (levels : Nat) → Json → Option α

namespace Decoder

variable {α β : Type}

def depthLimit : Nat := 127

def run (d : Decoder α) (text : String) : Option α := (Json.parse? text).bind (d depthLimit)

def map (f : α → β) (d : Decoder α) : Decoder β := fun levels j => (d levels j).map f

def text : Decoder String
  | _, .string s => some s
  | _, _ => none

def truth : Decoder Bool
  | _, .truth b => some b
  | _, _ => none

def whole (low high : Int) : Decoder Int
  | _, .number s =>
    match Json.numberValue? s with
    | some (.whole n) => if (n : Int) ≤ high then some n else none
    | some (.negative n) => if low ≤ -(n : Int) then some (-(n : Int)) else none
    | _ => none
  | _, _ => none

def real : Decoder Binary64
  | _, .number s =>
    match Json.numberValue? s with
    | some (.whole n) => Binary64.ofRatio? false n 1
    | some (.negative n) => Binary64.ofRatio? true n 1
    | some (.real x) => some x
    | none => none
  | _, _ => none

def orNull (d : Decoder α) : Decoder (Option α)
  | _, .null => some none
  | levels, j => (d levels j).map some

def list (d : Decoder α) : Decoder (List α)
  | levels + 1, .array items => items.mapM (d levels)
  | _, _ => none

/-- An object as a map; of several members with one name the last one counts. -/
def keyMap (d : Decoder α) : Decoder (KeyMap String α)
  | levels + 1, .object members =>
    (members.mapM fun member => (d levels member.2).map (member.1, ·)).map KeyMap.ofList
  | _, _ => none

def keySet : Decoder KeySet := (list text).map KeySet.ofList

/-- One of several words. The word may be given as the only member of an object, with `null`. -/
def oneOf (choices : List (String × α)) : Decoder α
  | _, .string s => choices.lookup s
  | _ + 1, .object [(s, .null)] => choices.lookup s
  | _, _ => none

/-- What a document gives for the fields of a record. -/
structure Fields where
  /-- The fields were given in order and not by name. -/
  positional : Bool
  given : List (String × Json)
  levels : Nat

/-- The fields of a record with the given names. With `closed`, other members are refused. -/
def fields (names : List String) (closed : Bool) : Decoder Fields
  | levels + 1, .object members =>
    let known := members.filter fun (key, _) => names.contains key
    let keys := known.map (·.1)
    if closed && known.length < members.length then none
    else if keys.length = keys.eraseDups.length then some ⟨false, known, levels⟩
    else none
  | levels + 1, .array items =>
    if names.length < items.length then none else some ⟨true, names.zip items, levels⟩
  | _, _ => none

namespace Fields

def required (fs : Fields) (name : String) (d : Decoder α) : Option α :=
  (fs.given.lookup name).bind (d fs.levels)

def withDefault (fs : Fields) (name : String) (d : Decoder α) (absent : α) : Option α :=
  match fs.given.lookup name with
  | some j => d fs.levels j
  | none => some absent

/-- A field that may be absent or `null`. Where fields are given in order, it has to be there. -/
def nullable (fs : Fields) (name : String) (d : Decoder α) : Option (Option α) :=
  match fs.given.lookup name with
  | some j => orNull d fs.levels j
  | none => if fs.positional then none else some none

end Fields

mutual

/-- Whether all of a document can be held: its numbers have values, its strings are texts and it is
nested no deeper than `levels`. -/
def sound (levels : Nat) : Json → Bool
  | .number s => (Json.numberValue? s).isSome
  | .broken => false
  | .array items => levels ≠ 0 && soundItems (levels - 1) items
  | .object members => levels ≠ 0 && soundMembers (levels - 1) members
  | _ => true

def soundItems (levels : Nat) : List Json → Bool
  | [] => true
  | j :: more => sound levels j && soundItems levels more

def soundMembers (levels : Nat) : List (String × Json) → Bool
  | [] => true
  | (_, j) :: more => sound levels j && soundMembers levels more

end

structure Tagged where
  tag : String
  content : Option Json
  levels : Nat
  /-- Whether the content was held until the tag was known, or is part of what was. -/
  held : Bool

/-- A tag that is given by name. The word may be the only member of an object, with `null` or, in a
document that is held, with an empty object. -/
def namedTag (held : Bool) (tags : List String) : Decoder String
  | _ + 1, .object [(s, .object [])] => if held && tags.contains s then some s else none
  | levels, j => oneOf (tags.map fun t => (t, t)) levels j

/-- A tag that is given by its place. In a document that is held it may be a number, which counts
the tags. -/
def placedTag (held : Bool) (tags : List String) : Decoder String
  | _, .string s => if tags.contains s then some s else none
  | _, .number s =>
    match held, Json.numberValue? s with
    | true, some (.whole n) => tags[n]?
    | _, _ => none
  | _, _ => none

/-- A tag and the content that belongs to it, given by name or in this order. The content may be
absent where the tag is given by name. Content that stands before its tag is held until the tag is
known, and then all of it has to be sound. -/
def tagged (tag content : String) (tags : List String) (held : Bool) : Decoder Tagged
  | levels + 1, .object members =>
    match members.filter fun (key, _) => key = tag || key = content with
    | [(key, j)] =>
      if key = tag then (namedTag held tags levels j).map (⟨·, none, levels, held⟩) else none
    | [(first, a), (second, b)] =>
      if first = tag && second = content then
        (namedTag held tags levels a).map (⟨·, some b, levels, held⟩)
      else if first = content && second = tag && sound levels a then
        (namedTag held tags levels b).map (⟨·, some a, levels, true⟩)
      else none
    | _ => none
  | levels + 1, .array [t, j] => (placedTag held tags levels t).map (⟨·, some j, levels, held⟩)
  | _, _ => none

end Decoder

end AnnotationIndex
