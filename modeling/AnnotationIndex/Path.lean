import AnnotationIndex.Text.Blank
import AnnotationIndex.Text.Utf8

/-!
# Paths

A path is a sequence of bytes, which need not be a text, and it keeps its spelling. Paths are
compared by their components: repeated and trailing slashes and dots for the current directory do
not count, except a dot at the start.
-/

namespace AnnotationIndex

/-- A path as it is spelled. -/
structure Path where
  bytes : List UInt8
  deriving DecidableEq, Repr, Inhabited

namespace Path

def ofText (text : String) : Path := ⟨Text.utf8Bytes text⟩

/-- The path as a text, with replacement characters where it is none. Other paths may have the same
text then. -/
def text (p : Path) : String := Text.lossyText p.bytes

/-- Whether the path is what its text spells. -/
def isText (p : Path) : Bool := ofText p.text = p

def slash : UInt8 := 0x2F

def dot : UInt8 := 0x2E

inductive Component where
  | root
  | here
  | parent
  | name (bytes : List UInt8)
  deriving DecidableEq, Repr

def isAbsolute (p : Path) : Bool := p.bytes.head? = some slash

def componentOf? (piece : List UInt8) : Option Component :=
  if piece.isEmpty || piece = [dot] then none
  else if piece = [dot, dot] then some .parent
  else some (.name piece)

def components (p : Path) : List Component :=
  let pieces := Text.splitWhere (· == slash) p.bytes
  let start :=
    if p.isAbsolute then [.root] else if pieces.head? = some [dot] then [.here] else []
  start ++ pieces.filterMap componentOf?

def lastWritten? (p : Path) : Option (List UInt8) :=
  ((Text.splitWhere (· == slash) p.bytes).filter (!·.isEmpty)).getLast?

/-- Whether the spelling of a path says that it leads to a directory: it ends in a slash, a dot or
two dots. -/
def leadsToDirectory (p : Path) : Bool :=
  p.bytes.getLast? = some slash || p.lastWritten? = some [dot] ||
    p.lastWritten? = some [dot, dot]

def same (p q : Path) : Bool := p.components = q.components

def Component.rank : Component → Nat
  | .root => 0
  | .here => 1
  | .parent => 2
  | .name _ => 3

def Component.before : Component → Component → Bool
  | .name a, .name b => a < b
  | a, b => a.rank < b.rank

def componentsBefore : List Component → List Component → Bool
  | _, [] => false
  | [], _ :: _ => true
  | a :: as, b :: bs => a.before b || (a = b && componentsBefore as bs)

def before (p q : Path) : Bool := componentsBefore p.components q.components

/-- A relative path taken from `base`; an absolute one stays as it is. -/
def join (base p : Path) : Path :=
  if p.isAbsolute then p
  else
    let separator :=
      if base.bytes.isEmpty || base.bytes.getLast? = some slash then [] else [slash]
    ⟨base.bytes ++ separator ++ p.bytes⟩

/-- How many bytes at the start belong to no component that can be taken off. -/
def bodyStart (s : List UInt8) : Nat :=
  if s.head? = some slash || s = [dot] || s.take 2 = [dot, slash] then 1 else 0

/-- The last piece after the first `start` bytes, and its size with the slash before it. -/
def lastPiece (start : Nat) (s : List UInt8) : List UInt8 × Nat :=
  let body := s.drop start
  let piece := (body.reverse.takeWhile (· != slash)).reverse
  (piece, if piece.length < body.length then piece.length + 1 else piece.length)

/-- The bytes without empty pieces and dots at their end. -/
def trimPieces : Nat → Nat → List UInt8 → List UInt8
  | 0, _, s => s
  | fuel + 1, start, s =>
    if s.length ≤ start then s
    else
      let (piece, size) := lastPiece start s
      if (componentOf? piece).isSome then s else trimPieces fuel start (s.take (s.length - size))

/-- The path without its last component; there is none for the root and the empty path. -/
def parent? (p : Path) : Option Path :=
  let s := p.bytes
  match p.components.getLast? with
  | none => none
  | some .root => none
  | some .here => some ⟨[]⟩
  | some _ =>
    let start := bodyStart s
    let s := trimPieces s.length start s
    let s := s.take (s.length - (lastPiece start s).2)
    some ⟨trimPieces s.length start s⟩

def fileName? (p : Path) : Option (List UInt8) :=
  match p.components.getLast? with
  | some (.name bytes) => some bytes
  | _ => none

/-- What follows the last dot of the file name, unless the name only starts with it. -/
def extension? (p : Path) : Option (List UInt8) :=
  match p.fileName? with
  | some name =>
    match Text.splitLast? dot name with
    | some (front, ext) => if front.isEmpty then none else some ext
    | none => none
  | none => none

end Path

end AnnotationIndex
