/-!
# Finite binary floating point numbers

A number is held exactly, as sign, significand and power of two. Arithmetic is exact arithmetic
on natural numbers followed by one rounding to the nearest representable number, a tie going to
the even significand.
-/

namespace AnnotationIndex.Number

/-- The number `mantissa * 2 ^ exponent`, negated if `negative`. A zero keeps its sign. -/
structure Binary64 where
  negative : Bool
  mantissa : Nat
  exponent : Int
  deriving DecidableEq, Repr, Inhabited

namespace Binary64

def leastExponent : Int := -1074

def greatestExponent : Int := 971

def zero : Binary64 := ⟨false, 0, leastExponent⟩

def neg (x : Binary64) : Binary64 := { x with negative := !x.negative }

/-- The integer nearest to `num / den`, a tie going to the even one. -/
def roundDiv (num den : Nat) : Nat :=
  let quotient := num / den
  let twice := 2 * (num % den)
  if twice < den then quotient
  else if den < twice then quotient + 1
  else quotient + quotient % 2

def unshift (num den : Nat) (shift : Int) : Nat × Nat :=
  if 0 ≤ shift then (num, den * Nat.pow 2 shift.toNat)
  else (num * Nat.pow 2 (-shift).toNat, den)

/-- The exponent at which the significand of `num / den` has 53 binary digits, or the least one. -/
def exponentFor (num den : Nat) : Int :=
  let guess : Int := (Nat.log2 num : Int) - (Nat.log2 den : Int) - 53
  let (n, d) := unshift num den guess
  let exact := if n / d < Nat.pow 2 53 then guess else guess + 1
  max exact leastExponent

def ofRatio? (negative : Bool) (num den : Nat) : Option Binary64 :=
  if num = 0 then some ⟨negative, 0, leastExponent⟩
  else
    let e := exponentFor num den
    let (n, d) := unshift num den e
    let m := roundDiv n d
    let (m, e) := if m = Nat.pow 2 53 then (Nat.pow 2 52, e + 1) else (m, e)
    if greatestExponent < e then none else some ⟨negative, m, e⟩

/-- The number nearest to `digits * 10 ^ power`, or nothing if it is too large. Powers far beyond
the range of the format are settled without being computed. -/
def ofDecimal? (negative : Bool) (digits : Nat) (power : Int) : Option Binary64 :=
  let places := ((Nat.toDigits 10 digits).length : Int) + power
  if digits = 0 || places < -400 then some ⟨negative, 0, leastExponent⟩
  else if 400 < places then none
  else if 0 ≤ power then ofRatio? negative (digits * Nat.pow 10 power.toNat) 1
  else ofRatio? negative digits (Nat.pow 10 (-power).toNat)

def ratio (x : Binary64) : Nat × Nat :=
  if 0 ≤ x.exponent then (x.mantissa * Nat.pow 2 x.exponent.toNat, 1)
  else (x.mantissa, Nat.pow 2 (-x.exponent).toNat)

def mul? (x y : Binary64) : Option Binary64 :=
  let (a, b) := x.ratio
  let (c, d) := y.ratio
  ofRatio? (x.negative != y.negative) (a * c) (b * d)

def div? (x y : Binary64) : Option Binary64 :=
  let (a, b) := x.ratio
  let (c, d) := y.ratio
  ofRatio? (x.negative != y.negative) (a * d) (b * c)

end Binary64

end AnnotationIndex.Number
