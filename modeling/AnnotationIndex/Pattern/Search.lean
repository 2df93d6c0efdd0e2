import Std.Data.HashSet
import AnnotationIndex.Pattern.Basic

/-!
# Searching

Whether a text has a piece that fits a pattern is decided by reading the text once, with the
sequences of patterns in hand that what follows has to begin with.
-/

namespace AnnotationIndex.Pattern

mutual

/-- Whether a pattern describes the empty text between two characters. -/
def matchesEmpty (before after : Option Char) : Pattern → Bool
  | text s => s.isEmpty
  | oneOf _ => false
  | place anchor => anchor.holds before after
  | times p least _ => least = 0 || p.matchesEmpty before after
  | group _ p => p.matchesEmpty before after
  | seq ps => allMatchEmpty before after ps
  | either ps => anyMatchesEmpty before after ps

def allMatchEmpty (before after : Option Char) : List Pattern → Bool
  | [] => true
  | p :: ps => p.matchesEmpty before after && allMatchEmpty before after ps

def anyMatchesEmpty (before after : Option Char) : List Pattern → Bool
  | [] => false
  | p :: ps => p.matchesEmpty before after || anyMatchesEmpty before after ps

end

mutual

/-- Whether a pattern describes the empty text at every place. -/
def isOptional : Pattern → Bool
  | text s => s.isEmpty
  | oneOf _ => false
  | place _ => false
  | times p least _ => least = 0 || p.isOptional
  | group _ p => p.isOptional
  | seq ps => allOptional ps
  | either ps => anyOptional ps

def allOptional : List Pattern → Bool
  | [] => true
  | p :: ps => p.isOptional && allOptional ps

def anyOptional : List Pattern → Bool
  | [] => false
  | p :: ps => p.isOptional || anyOptional ps

end

mutual

/-- What has to follow a character for the character and what follows to fit a pattern: the possible
sequences. -/
def after (before : Option Char) (c : Char) : Pattern → List (List Pattern)
  | text [] => []
  | text (d :: s) => if c = d then [if s.isEmpty then [] else [text s]] else []
  | oneOf set => if set.mem c then [[]] else []
  | place _ => []
  | times p least most =>
    let least := if p.isOptional then 0 else least
    -- Repetitions that are empty in front of the character count as done.
    let skipped := if p.matchesEmpty before (some c) then List.range (max least 1) else [0]
    let rests := skipped.filterMap fun n =>
      match most with
      | none => some [times p (least - 1 - n) none]
      | some limit =>
        if n + 1 < limit then some [times p (least - 1 - n) (some (limit - 1 - n))]
        else if n < limit then some []
        else none
    (p.after before c).flatMap fun rest => rests.map (rest ++ ·)
  | group _ p => p.after before c
  | seq ps => afterAll before c ps
  | either ps => afterAny before c ps

def afterAll (before : Option Char) (c : Char) : List Pattern → List (List Pattern)
  | [] => []
  | p :: ps =>
    (p.after before c).map (· ++ ps) ++
      if p.matchesEmpty before (some c) then afterAll before c ps else []

def afterAny (before : Option Char) (c : Char) : List Pattern → List (List Pattern)
  | [] => []
  | p :: ps => p.after before c ++ afterAny before c ps

end

/-- Sequences without repetitions, in any order. -/
def distinct (sequences : List (List Pattern)) : List (List Pattern) :=
  (Std.HashSet.ofList sequences).toList

/-- Whether one of the `pending` sequences fits at the start of a text, or `p` fits anywhere in
it. -/
def search (p : Pattern) (pending : List (List Pattern)) (before : Option Char) :
    List Char → Bool
  | [] => ([p] :: pending).any (allMatchEmpty before none)
  | c :: rest =>
    ([p] :: pending).any (allMatchEmpty before (some c)) ||
      p.search (distinct (([p] :: pending).flatMap (afterAll before c))) (some c) rest

def isIn (p : Pattern) (text : String) : Bool := p.search [] none text.toList

end AnnotationIndex.Pattern
