/-!
# Decimals and 64-bit floating point

A decimal literal stands for the floating point number nearest to it, and a floating point number is
written with the fewest digits that read back as the same number. Both are worked out in exact
arithmetic. A positive finite number is `significand * 2 ^ exponent`, where the significand has 53
bits unless the exponent is the least there is.
-/

namespace FencedDiff

/-- A positive fraction. -/
structure Ratio where
  num : Nat
  den : Nat
  deriving Repr

/-- `r * 2 ^ e`. -/
def Ratio.scaleTwo (r : Ratio) (e : Int) : Ratio :=
  if 0 ≤ e then ⟨r.num * Nat.pow 2 e.toNat, r.den⟩
  else ⟨r.num, r.den * Nat.pow 2 (-e).toNat⟩

/-- `r * 10 ^ e`. -/
def Ratio.scaleTen (r : Ratio) (e : Int) : Ratio :=
  if 0 ≤ e then ⟨r.num * Nat.pow 10 e.toNat, r.den⟩
  else ⟨r.num, r.den * Nat.pow 10 (-e).toNat⟩

/-- The nearest natural number; of two, the even one. -/
def Ratio.round (r : Ratio) : Nat :=
  let q := r.num / r.den
  let twice := 2 * (r.num % r.den)
  if twice < r.den then q
  else if r.den < twice then q + 1
  else if q % 2 = 0 then q
  else q + 1

/-- `r < s`. -/
def Ratio.below (r s : Ratio) : Bool := r.num * s.den < s.num * r.den

/-- A decimal, `± digits * 10 ^ exponent`. -/
structure Decimal where
  negative : Bool
  digits : Nat
  exponent : Int
  deriving DecidableEq, Repr

/-- The magnitude of a floating point number. -/
structure Binary64 where
  significand : Nat
  exponent : Int
  deriving DecidableEq, Repr

namespace Binary64

def minExponent : Int := -1074

/-- The greatest exponent of a finite number. -/
def maxExponent : Int := 971

/-- The least significand of 53 bits. -/
def leastFull : Nat := 4503599627370496

/-- The number nearest to a positive fraction, if there is a finite one. -/
def nearest? (r : Ratio) : Option Binary64 :=
  let guess : Int := (Nat.log2 r.num : Int) - (Nat.log2 r.den : Int) - 52
  let tooFar := (r.scaleTwo (-guess)).below ⟨leastFull, 1⟩
  let e := max (if tooFar then guess - 1 else guess) minExponent
  let m := (r.scaleTwo (-e)).round
  let b : Binary64 := if m = 2 * leastFull then ⟨leastFull, e + 1⟩ else ⟨m, e⟩
  if maxExponent < b.exponent then none else some b

/-- The number nearest to the magnitude of a decimal, if there is a finite one. Decimals far outside
of the range are settled by their size. -/
def ofDecimal? (d : Decimal) : Option Binary64 :=
  let size : Int := (Nat.toDigits 10 d.digits).length + d.exponent
  if d.digits = 0 || size < -330 then some ⟨0, minExponent⟩
  else if 310 < size then none
  else nearest? (Ratio.scaleTen ⟨d.digits, 1⟩ d.exponent)

/-- Whether a fraction is close enough to this number to stand for it: it lies between the midpoints
to the neighbours, which count themselves just if the significand is even. Below a power of two the
numbers are taken to lie twice as close as above it. -/
def covers (b : Binary64) (r : Ratio) : Bool :=
  let narrow := b.significand = leastFull
  let low := Ratio.scaleTwo ⟨4 * b.significand - (if narrow then 1 else 2), 4⟩ b.exponent
  let high := Ratio.scaleTwo ⟨4 * b.significand + 2, 4⟩ b.exponent
  if b.significand % 2 = 0 then !r.below low && !high.below r
  else low.below r && r.below high

/-- The power of ten at which the first digit of a positive fraction stands. -/
def leadingPower (r : Ratio) : Int :=
  let guess : Int := (Nat.toDigits 10 r.num).length - (Nat.toDigits 10 r.den).length
  if r.below (Ratio.scaleTen ⟨1, 1⟩ guess) then guess - 1 else guess

/-- Tries `count` digits, then one more, and so on, `tries` times: of the two decimals next to the
number, one that stands for it; if both do, the nearer, or the upper when they are equally near. -/
def shortestFrom (b : Binary64) (r : Ratio) (lead : Int) (count : Nat) : Nat → Nat × Int
  | 0 => (0, 0)
  | tries + 1 =>
    let place : Int := lead + 1 - count
    let scaled := r.scaleTen (-place)
    let low := scaled.num / scaled.den
    let decimal (n : Nat) : Ratio := Ratio.scaleTen ⟨n, 1⟩ place
    match b.covers (decimal low), b.covers (decimal (low + 1)) with
    | true, true =>
      (if 2 * (scaled.num % scaled.den) < scaled.den then low else low + 1, place)
    | true, false => (low, place)
    | false, true => (low + 1, place)
    | false, false => shortestFrom b r lead (count + 1) tries

/-- The fewest digits that read back as this number, and the power of ten of the last. A nine that
is rounded up is a one in the place before. -/
def shortest (b : Binary64) : Nat × Int :=
  if b.significand = 0 then (0, 0)
  else
    let r := Ratio.scaleTwo ⟨b.significand, 1⟩ b.exponent
    match shortestFrom b r (leadingPower r) 1 17 with
    | (10, place) => (1, place + 1)
    | digits => digits

end Binary64

/-- Digits with a decimal point and at least one digit on each side of it, never an exponent. -/
def positional (digits : Nat) (exponent : Int) : String :=
  let ds := Nat.toDigits 10 digits
  let point : Int := ds.length + exponent
  let chars :=
    if 0 ≤ exponent then
      (if digits = 0 then ['0'] else ds ++ List.replicate exponent.toNat '0') ++ ['.', '0']
    else if 0 < point then ds.take point.toNat ++ '.' :: ds.drop point.toNat
    else ['0', '.'] ++ List.replicate (-point).toNat '0' ++ ds
  String.ofList chars

/-- The floating point number nearest to a decimal, written in full, unless it is too large to be
finite. -/
def Decimal.written? (d : Decimal) : Option String :=
  (Binary64.ofDecimal? d).map fun b =>
    let s := b.shortest
    let text := positional s.1 s.2
    if d.negative then "-" ++ text else text

end FencedDiff
