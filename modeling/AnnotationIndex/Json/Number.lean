import AnnotationIndex.Json.Basic

/-!
# The value of a JSON number

A whole number of at most 64 bits is exact. Any other number is read as a floating point number:
its digits are gathered into a significand of 64 bits, further digits are dropped, and the result
is multiplied or divided by a power of ten once, each step being rounded. The result need not be
the number nearest to the text.
-/

namespace AnnotationIndex.Json

open Number

/-- The value of a number: a whole number without sign, a negative one, or a floating point
number. A negative zero is a floating point number. -/
inductive NumberValue where
  | whole (n : Nat)
  | negative (n : Nat)
  | real (x : Binary64)
  deriving DecidableEq, Repr

def significandLimit : Nat := UInt64.size - 1

def exponentLimit : Nat := UInt32.size / 2 - 1

/-- Adds digits to a significand as long as it stays within the limit: the significand, the number
of digits added, and the digits left. -/
def gather (significand : Nat) : List Char → Nat × Nat × List Char
  | [] => (significand, 0, [])
  | c :: rest =>
    let next := significand * 10 + (c.toNat - 48)
    if next ≤ significandLimit then
      let (result, taken, left) := gather next rest
      (result, taken + 1, left)
    else (significand, 0, c :: rest)

def powerOfTen (n : Nat) : Binary64 := (Binary64.ofRatio? false (Nat.pow 10 n) 1).getD Binary64.zero

/-- Scales a number by a power of ten, in steps if the power is small; nothing if the result is too
large. -/
def scale? : Nat → Binary64 → Int → Option Binary64
  | 0, x, _ => some x
  | steps + 1, x, power =>
    if power.natAbs ≤ 308 then
      if 0 ≤ power then x.mul? (powerOfTen power.natAbs) else x.div? (powerOfTen power.natAbs)
    else if x.mantissa = 0 then some x
    else if 0 ≤ power then none
    else do scale? steps (← x.div? (powerOfTen 308)) (power + 308)

def realOf? (negative : Bool) (significand : Nat) (power : Int) : Option Binary64 := do
  let x ← Binary64.ofRatio? false significand 1
  let y ← scale? 8 x power
  return { y with negative }

structure NumberParts where
  negative : Bool
  whole : List Char
  fraction : Option (List Char)
  exponent : Option (Bool × List Char)

def numberParts (s : List Char) : NumberParts :=
  let negative := s.head? = some '-'
  let s := if negative then s.drop 1 else s
  let whole := s.takeWhile Char.isDigit
  let s := s.drop whole.length
  let fraction := match s with
    | '.' :: rest => some (rest.takeWhile Char.isDigit)
    | _ => none
  let s := match s with
    | '.' :: rest => rest.dropWhile Char.isDigit
    | _ => s
  let exponent := match s.drop 1 with
    | '-' :: digits => some (true, digits)
    | '+' :: digits => some (false, digits)
    | [] => none
    | digits => some (false, digits)
  ⟨negative, whole, fraction, exponent⟩

def natOf (digits : List Char) : Nat := digits.foldl (fun n c => n * 10 + (c.toNat - 48)) 0

def numberValue? (text : String) : Option NumberValue :=
  let parts := numberParts text.toList
  let (significand, _, left) := gather 0 parts.whole
  let (significand', taken, _) := gather significand (parts.fraction.getD [])
  let power : Int := (left.length : Int) - taken
  match parts.exponent with
  | some (negativeExponent, digits) =>
    let e := natOf digits
    if exponentLimit < e then
      if significand' ≠ 0 && !negativeExponent then none
      else some (.real { Binary64.zero with negative := parts.negative })
    else
      let power := if negativeExponent then power - e else power + e
      (realOf? parts.negative significand' power).map .real
  | none =>
    if parts.fraction.isSome || !left.isEmpty then
      (realOf? parts.negative significand' power).map .real
    else if !parts.negative then some (.whole significand)
    else if 0 < significand && significand ≤ UInt64.size / 2 then some (.negative significand)
    else (realOf? true significand 0).map .real

end AnnotationIndex.Json
