/-!
# Sets of characters

A set is given by the ranges of its code points. Tables are written as spans, which may also leave
out every second code point.
-/

namespace AnnotationIndex.Text

/-- Code points from the first to the second in steps of the third. -/
abbrev Span := Nat × Nat × Nat

def inSpans (spans : List Span) (n : Nat) : Bool :=
  spans.any fun (first, last, step) => first ≤ n && n ≤ last && (n - first) % step == 0

def Span.ranges : Span → List (Nat × Nat)
  | (first, last, step) =>
    if step ≤ 1 then [(first, last)]
    else (List.range ((last - first) / step + 1)).map fun i =>
      (first + i * step, first + i * step)

/-- The first and last code points of ranges, in ascending order and with gaps between the ranges.
The codes of surrogates, which stand for no characters, are no gap. -/
structure CharSet where
  ranges : List (Nat × Nat)
  deriving DecidableEq, Repr

namespace CharSet

def lastCode : Nat := 0x10FFFF

def next (n : Nat) : Nat := if n = 0xD7FF then 0xE000 else n + 1

def previous (n : Nat) : Nat := if n = 0xE000 then 0xD7FF else n - 1

/-- Joins ranges that touch or overlap. The ranges are ordered by their first code points. -/
def join : List (Nat × Nat) → List (Nat × Nat)
  | (a, b) :: (c, d) :: rest =>
    if c ≤ next b then join ((a, max b d) :: rest) else (a, b) :: join ((c, d) :: rest)
  | rs => rs
termination_by rs => rs.length

def ofRanges (rs : List (Nat × Nat)) : CharSet := ⟨join (rs.mergeSort fun r s => r.1 ≤ s.1)⟩

def ofSpans (spans : List Span) : CharSet := ofRanges (spans.flatMap Span.ranges)

def mem (s : CharSet) (c : Char) : Bool := s.ranges.any fun (a, b) => a ≤ c.toNat && c.toNat ≤ b

def isEmpty (s : CharSet) : Bool := s.ranges.isEmpty

def none : CharSet := ⟨[]⟩

def all : CharSet := ⟨[(0, lastCode)]⟩

def range (first last : Char) : CharSet := ⟨[(first.toNat, last.toNat)]⟩

def single (c : Char) : CharSet := range c c

def union (s t : CharSet) : CharSet := ofRanges (s.ranges ++ t.ranges)

def unions (sets : List CharSet) : CharSet := ofRanges (sets.flatMap ranges)

def gaps : Nat → List (Nat × Nat) → List (Nat × Nat)
  | start, [] => if start ≤ lastCode then [(start, lastCode)] else []
  | start, (a, b) :: rest =>
    if start < a then (start, previous a) :: gaps (next b) rest else gaps (next b) rest

def complement (s : CharSet) : CharSet := ⟨gaps 0 s.ranges⟩

def inter (s t : CharSet) : CharSet := (s.complement.union t.complement).complement

def minus (s t : CharSet) : CharSet := (s.complement.union t).complement

def apart (s t : CharSet) : CharSet := (s.minus t).union (t.minus s)

end CharSet

end AnnotationIndex.Text
