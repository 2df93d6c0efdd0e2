import AnnotationIndex.Number.Binary64

/-!
# Shortest decimal text

The decimal text of a number has the fewest digits that read back as that number, and among
those it is the nearest one. Numbers from `1e-5` up to but not including `1e16` are written
positionally and always with a fraction, all others with a signed exponent.
-/

namespace AnnotationIndex.Number

/-- Decimal digits without leading zeros, read as `0.d₁d₂… * 10 ^ point`. -/
structure Digits where
  digits : List Char
  point : Int
  deriving DecidableEq, Repr

namespace Binary64

/-- Whether `num / den` lies between the midpoints to the neighbours of a positive number. A
midpoint itself belongs to the number with the even significand. -/
def reads (x : Binary64) (num den : Nat) : Bool :=
  let (a, b) := x.ratio
  -- one quarter of the step, as `a / (4 * mantissa)` over the same denominator
  let low := if x.mantissa = Nat.pow 2 52 && leastExponent < x.exponent then 1 else 2
  let unit := a / x.mantissa
  -- (4 * a - low * unit) / (4 * b) ≤ num / den ≤ (4 * a + 2 * unit) / (4 * b)
  let lower := (4 * a - low * unit) * den
  let upper := (4 * a + 2 * unit) * den
  let here := 4 * b * num
  if x.mantissa % 2 = 0 then lower ≤ here && here ≤ upper else lower < here && here < upper

/-- The decimal grid point with `n` digits that reads back as the positive number `x`, where
`10 ^ (point - 1) ≤ x < 10 ^ point`; of two the nearer, of two equally near the even one. -/
def onGrid? (x : Binary64) (point : Int) (n : Nat) : Option Nat :=
  let (a, b) := x.ratio
  let power := point - n
  let (num, den) :=
    if 0 ≤ power then (a, b * Nat.pow 10 power.toNat) else (a * Nat.pow 10 (-power).toNat, b)
  let reading (k : Nat) : Bool :=
    if 0 ≤ power then x.reads (k * Nat.pow 10 power.toNat) 1
    else x.reads k (Nat.pow 10 (-power).toNat)
  let near := roundDiv num den
  let far := if num / den = near then near + 1 else num / den
  if reading near then some near else if reading far then some far else none

def pointOf (num den : Nat) : Int :=
  let up := (Nat.toDigits 10 (num / den)).length
  if den ≤ num then up
  else
    let down := (Nat.toDigits 10 (den / num)).length
    -- 10 ^ (down - 1) ≤ den / num < 10 ^ down
    if num * Nat.pow 10 (down - 1) < den then 1 - (down : Int) else 2 - (down : Int)

/-- The fewest digits, at most seventeen, that read back as the positive number `x`. -/
def shortest (x : Binary64) : Digits :=
  let (a, b) := x.ratio
  let point := pointOf a b
  let found := (List.range 17).findSome? fun i => (x.onGrid? point (i + 1)).map (·, i + 1)
  let (k, n) := found.getD (0, 1)
  let text := Nat.toDigits 10 k
  -- a grid point that rounds up to the next power of ten has one digit more
  ⟨(text.reverse.dropWhile (· == '0')).reverse, point + (text.length - n : Int)⟩

def positional (d : Digits) : List Char :=
  let n := d.digits.length
  if d.point ≤ 0 then '0' :: '.' :: List.replicate (-d.point).toNat '0' ++ d.digits
  else if (n : Int) ≤ d.point then
    d.digits ++ List.replicate (d.point.toNat - n) '0' ++ ['.', '0']
  else d.digits.take d.point.toNat ++ '.' :: d.digits.drop d.point.toNat

def scientific (d : Digits) : List Char :=
  let e := d.point - 1
  let fraction := if d.digits.length ≤ 1 then [] else '.' :: d.digits.drop 1
  d.digits.take 1 ++ fraction ++ 'e' :: (if e < 0 then '-' else '+') :: Nat.toDigits 10 e.natAbs

def text (x : Binary64) : String :=
  let magnitude :=
    if x.mantissa = 0 then ['0', '.', '0']
    else
      let d := x.shortest
      if -5 < d.point && d.point ≤ 16 then positional d else scientific d
  String.ofList (if x.negative then '-' :: magnitude else magnitude)

end Binary64

end AnnotationIndex.Number
