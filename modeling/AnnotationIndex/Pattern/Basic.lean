import AnnotationIndex.Pattern.Class

/-!
# Patterns

A pattern describes pieces of text. Patterns are built by operations that leave out what has no
effect: texts that follow each other become one, sequences and choices are not nested directly, a
choice between characters becomes a set, and a common beginning of all options stands once.
-/

namespace AnnotationIndex

open Text

inductive Anchor where
  | textStart
  | textEnd
  /-- The start and the end of a line, where a line may also end in a carriage return. -/
  | lineStart (returns : Bool)
  | lineEnd (returns : Bool)
  | wordEdge (asciiOnly : Bool)
  | noWordEdge (asciiOnly : Bool)
  | wordStart (asciiOnly : Bool)
  | wordEnd (asciiOnly : Bool)
  | noWordBefore (asciiOnly : Bool)
  | noWordAfter (asciiOnly : Bool)
  deriving DecidableEq, Hashable, Repr

namespace Anchor

def isWord (asciiOnly : Bool) : Option Char → Bool
  | some c => (Pattern.wordChars asciiOnly).mem c
  | none => false

def holds (a : Anchor) (before after : Option Char) : Bool :=
  match a with
  | textStart => before = none
  | textEnd => after = none
  | lineStart false => before = none || before = some '\n'
  | lineStart true =>
    before = none || before = some '\n' || (before = some '\r' && after ≠ some '\n')
  | lineEnd false => after = none || after = some '\n'
  | lineEnd true =>
    after = none || after = some '\r' || (after = some '\n' && before ≠ some '\r')
  | wordEdge o => isWord o before != isWord o after
  | noWordEdge o => isWord o before == isWord o after
  | wordStart o => !isWord o before && isWord o after
  | wordEnd o => isWord o before && !isWord o after
  | noWordBefore o => !isWord o before
  | noWordAfter o => !isWord o after

end Anchor

inductive Pattern where
  | text (chars : List Char)
  | oneOf (set : CharSet)
  | place (anchor : Anchor)
  | times (body : Pattern) (least : Nat) (most : Option Nat)
  | group (number : Nat) (body : Pattern)
  | seq (parts : List Pattern)
  | either (options : List Pattern)
  deriving Repr

namespace Pattern

def empty : Pattern := text []

mutual

def same : Pattern → Pattern → Bool
  | text s, text t => s == t
  | oneOf s, oneOf t => s == t
  | place a, place b => a == b
  | times p least most, times q least' most' => least == least' && most == most' && p.same q
  | group n p, group m q => n == m && p.same q
  | seq ps, seq qs => sameAll ps qs
  | either ps, either qs => sameAll ps qs
  | _, _ => false

def sameAll : List Pattern → List Pattern → Bool
  | p :: ps, q :: qs => p.same q && sameAll ps qs
  | [], [] => true
  | _, _ => false

end

instance : BEq Pattern := ⟨same⟩

mutual

/-- A number for a pattern. Of a set, only how many ranges it has and the first one count. -/
def hashOf : Pattern → UInt64
  | text s => mixHash 1 (hash s)
  | oneOf s => mixHash 2 (hash (s.ranges.length, s.ranges.head?))
  | place a => mixHash 3 (hash a)
  | times p least most => mixHash (hash (least, most)) p.hashOf
  | group n p => mixHash (hash n) p.hashOf
  | seq ps => mixHash 4 (hashOfAll ps)
  | either ps => mixHash 5 (hashOfAll ps)

def hashOfAll : List Pattern → UInt64
  | [] => 7
  | p :: ps => mixHash p.hashOf (hashOfAll ps)

end

instance : Hashable Pattern := ⟨hashOf⟩

mutual

/-- The length of the shortest text that a pattern can describe. A set without characters has
none. -/
def leastLength : Pattern → Option Nat
  | text s => some s.length
  | oneOf s => if s.isEmpty then none else some 1
  | place _ => some 0
  | times p least _ => p.leastLength.map (least * ·)
  | group _ p => p.leastLength
  | seq ps => leastSum ps
  | either ps => leastOf ps

def leastSum : List Pattern → Option Nat
  | [] => some 0
  | p :: ps => do return (← p.leastLength) + (← leastSum ps)

def leastOf : List Pattern → Option Nat
  | [] => none
  | [p] => p.leastLength
  | p :: ps => do return min (← p.leastLength) (← leastOf ps)

end

mutual

def mostLength : Pattern → Option Nat
  | text s => some s.length
  | oneOf s => if s.isEmpty then none else some 1
  | place _ => some 0
  | times p _ most => do return (← most) * (← p.mostLength)
  | group _ p => p.mostLength
  | seq ps => mostSum ps
  | either ps => mostOf ps

def mostSum : List Pattern → Option Nat
  | [] => some 0
  | p :: ps => do return (← p.mostLength) + (← mostSum ps)

def mostOf : List Pattern → Option Nat
  | [] => none
  | [p] => p.mostLength
  | p :: ps => do return max (← p.mostLength) (← mostOf ps)

end

def ofSet (s : CharSet) : Pattern :=
  match s.ranges with
  | [(a, b)] => if a = b then text [Char.ofNat a] else oneOf s
  | _ => oneOf s

def before (p : Pattern) (ps : List Pattern) : List Pattern :=
  match p, ps with
  | text [], _ => ps
  | text s, text t :: ps => text (s ++ t) :: ps
  | seq parts, _ => match parts.reverse, ps with
    | text s :: others, text t :: ps => others.reverse ++ text (s ++ t) :: ps
    | _, _ => parts ++ ps
  | p, _ => p :: ps

def ofParts (ps : List Pattern) : Pattern :=
  match ps.foldr before [] with
  | [] => empty
  | [p] => p
  | parts => seq parts

/-- A pattern several times. What describes the empty text only need not be repeated. -/
def repeated (p : Pattern) (least : Nat) (most : Option Nat) : Pattern :=
  let (least, most) :=
    if p.mostLength = some 0 then (min least 1, some ((most.map (min · 1)).getD 1))
    else (least, most)
  if most = some 0 then empty
  else if least = 1 && most = some 1 then p
  else times p least most

def singleChars? (ps : List Pattern) : Option CharSet :=
  (ps.mapM fun
    | text [c] => some (c.toNat, c.toNat)
    | _ => none).map CharSet.ofRanges

def sets? (ps : List Pattern) : Option CharSet :=
  (ps.mapM fun
    | oneOf s => some s
    | _ => none).map CharSet.unions

def commonStart : List Pattern → List Pattern → List Pattern
  | p :: ps, q :: qs => if p == q then p :: commonStart ps qs else []
  | _, _ => []

def sharedStart (first : Pattern) (others : List Pattern) : List Pattern :=
  match first with
  | seq parts => others.foldl (fun shared p =>
      match p with
      | seq parts => commonStart shared parts
      | _ => []) parts
  | _ => []

def withoutStart (n : Nat) : Pattern → Pattern
  | seq parts => ofParts (parts.drop n)
  | p => p

def flatOptions (ps : List Pattern) : List Pattern :=
  ps.flatMap fun
    | either options => options
    | p => [p]

/-- Any of several patterns. The fuel bounds how often a common beginning is taken out. -/
def choiceOf : Nat → List Pattern → Pattern
  | 0, ps => either ps
  | fuel + 1, ps =>
    match flatOptions ps with
    | [] => oneOf .none
    | [p] => p
    | p :: others =>
      match singleChars? (p :: others), sets? (p :: others) with
      | some s, _ => ofSet s
      | none, some s => ofSet s
      | none, none =>
        match sharedStart p others with
        | [] => either (p :: others)
        | shared =>
          let rests := (p :: others).map (withoutStart shared.length)
          ofParts (shared ++ [choiceOf fuel rests])

mutual

def size : Pattern → Nat
  | times p _ _ => p.size + 1
  | group _ p => p.size + 1
  | seq ps => sizes ps + 1
  | either ps => sizes ps + 1
  | _ => 1

def sizes : List Pattern → Nat
  | [] => 0
  | p :: ps => p.size + sizes ps

end

/-- Any of several patterns. Each common beginning that is taken out makes them smaller. -/
def ofOptions (ps : List Pattern) : Pattern := choiceOf (sizes ps + 1) ps

end Pattern

end AnnotationIndex
