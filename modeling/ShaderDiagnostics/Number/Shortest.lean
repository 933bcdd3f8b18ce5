/-!
# Shortest decimals

The text of a binary floating point number with 64 bits. Of all decimals that read back as the number,
those with the fewest digits are considered, and of these the nearest one is taken. Where the decimal
point goes is up to a style.
-/

namespace ShaderDiagnostics.Number

/-- A floating point number, by its bits. -/
structure Binary64 where
  /-- Sign, exponent and fraction. -/
  bits : UInt64
  deriving DecidableEq, Repr

namespace Binary64

/-- The number of a machine float. -/
def ofFloat (x : Float) : Binary64 := ⟨x.toBits⟩

/-- The machine float of a number. -/
def toFloat (x : Binary64) : Float := Float.ofBits x.bits

/-- The number nearest to `mantissa * 10 ^ exponent`, an even one on ties. -/
def ofDecimal (mantissa : Nat) (exponent : Int) : Binary64 :=
  ofFloat (Float.ofScientific mantissa (exponent < 0) exponent.natAbs)

/-- The number with its sign flipped. -/
def neg (x : Binary64) : Binary64 := ⟨x.bits ^^^ 0x8000000000000000⟩

/-- The sign: whether the number is negative. -/
def negative (x : Binary64) : Bool := x.bits >>> 63 == 1

/-- The exponent as stored. -/
def exponentField (x : Binary64) : Nat := (x.bits >>> 52).toNat % 2048

/-- The fraction as stored. -/
def fraction (x : Binary64) : Nat := x.bits.toNat % Nat.pow 2 52

/-- Whether the number is infinite or no number. -/
def special (x : Binary64) : Bool := x.exponentField == 2047

/-- Whether it is no number at all. -/
def isNaN (x : Binary64) : Bool := x.special && x.fraction != 0

/-- The integer and the power of two whose product is the absolute value of a finite number. -/
def parts (x : Binary64) : Nat × Int :=
  if x.exponentField == 0 then (x.fraction, -1074)
  else (Nat.pow 2 52 + x.fraction, (x.exponentField : Int) - 1075)

end Binary64

/-- A positive fraction. -/
structure Fraction where
  /-- The numerator. -/
  num : Nat
  /-- The denominator. -/
  den : Nat

namespace Fraction

/-- `n * 2 ^ e`. -/
def ofBinary (n : Nat) (e : Int) : Fraction :=
  if e < 0 then ⟨n, Nat.pow 2 e.natAbs⟩ else ⟨n * Nat.pow 2 e.toNat, 1⟩

/-- `n * 10 ^ e`. -/
def ofDecimal (n : Nat) (e : Int) : Fraction :=
  if e < 0 then ⟨n, Nat.pow 10 e.natAbs⟩ else ⟨n * Nat.pow 10 e.toNat, 1⟩

/-- Less than. -/
def lt (a b : Fraction) : Bool := a.num * b.den < b.num * a.den

/-- At most. -/
def le (a b : Fraction) : Bool := a.num * b.den ≤ b.num * a.den

/-- The integer part of the quotient of two fractions. -/
def floorDiv (a b : Fraction) : Nat := a.num * b.den / (a.den * b.num)

/-- Whether `a - lo < hi - a`, for `lo ≤ a ≤ hi`. -/
def closerToLow (a lo hi : Fraction) : Bool :=
  -- 2 a < lo + hi
  2 * a.num * (lo.den * hi.den) < (lo.num * hi.den + hi.num * lo.den) * a.den

end Fraction

/-- The fractions between which all decimals read back as the number, and whether they do so
themselves. -/
structure Interval where
  /-- The lower end. -/
  low : Fraction
  /-- The upper end. -/
  high : Fraction
  /-- Whether the ends belong to it. -/
  closed : Bool

/-- Whether the interval holds the fraction. -/
def Interval.has (i : Interval) (a : Fraction) : Bool :=
  if i.closed then i.low.le a && a.le i.high else i.low.lt a && a.lt i.high

/-- The interval around a positive finite number. -/
def Binary64.interval (x : Binary64) : Interval :=
  let (m, e) := x.parts
  let below := if m == Nat.pow 2 52 && x.exponentField > 1 then 1 else 2
  ⟨.ofBinary (4 * m - below) (e - 2), .ofBinary (4 * m + 2) (e - 2), m % 2 == 0⟩

/-- The least exponent from `e` on, after at most `fuel` steps, whose power of ten is above `a`. -/
def decimalExponent (a : Fraction) : Nat → Int → Int
  | 0, e => e
  | n + 1, e => if a.lt (.ofDecimal 1 e) then e else decimalExponent a n (e + 1)

/-- A decimal of `digits` digits in the interval around `a`, whose integer part has `top` digits: the
nearer of the two neighbours on the grid of that many digits, the lower one when both are as near and
it is even. -/
def decimalOn (a : Fraction) (i : Interval) (top : Int) (digits : Nat) : Option (Nat × Int) :=
  let e := top - digits
  let d := a.floorDiv (.ofDecimal 1 e)
  let lo := Fraction.ofDecimal d e
  let hi := Fraction.ofDecimal (d + 1) e
  let okLo := d != 0 && i.has lo
  let okHi := i.has hi
  if okLo && okHi then
    if a.closerToLow lo hi then some (d, e)
    else if hi.num * lo.den * a.den + lo.num * hi.den * a.den == 2 * a.num * hi.den * lo.den &&
        d % 2 == 0 then some (d, e)
    else some (d + 1, e)
  else if okLo then some (d, e)
  else if okHi then some (d + 1, e)
  else none

/-- The first decimal that reads back, trying `digits` digits and then more. -/
def firstDecimal (a : Fraction) (i : Interval) (top : Int) : Nat → Nat → Nat × Int
  | 0, digits => (a.floorDiv (.ofDecimal 1 (top - digits)), top - digits)
  | n + 1, digits =>
    match decimalOn a i top digits with
    | some r => r
    | none => firstDecimal a i top n (digits + 1)

/-- Removes zeros from the end of the digits, latest digit first, counting them. -/
def dropZeros : List Char → Int → List Char × Int
  | '0' :: rest, e => dropZeros rest (e + 1)
  | s, e => (s, e)

/-- The digits of a positive finite number and the exponent of its last digit. -/
def Binary64.shortest (x : Binary64) : List Char × Int :=
  let (m, e) := x.parts
  let a := Fraction.ofBinary m e
  let top := decimalExponent a 700 (-330)
  let (d, e) := firstDecimal a x.interval top 17 1
  let (digits, e) := dropZeros (Nat.toDigits 10 d).reverse e
  (digits.reverse, e)

/-- Where positional notation ends, and how exponents are written. -/
structure FloatStyle where
  /-- The least exponent of ten written without exponent. -/
  least : Int
  /-- The greatest exponent of ten written without exponent. -/
  most : Int
  /-- What stands before an exponent that is not negative. -/
  plus : String

/-- Digits with a decimal point behind the first `n`, and at least one digit on each side. -/
def withPoint (digits : List Char) (n : Int) : List Char :=
  if n ≤ 0 then ['0', '.'] ++ List.replicate n.natAbs '0' ++ digits
  else
    let n := n.toNat
    if digits.length ≤ n then digits ++ List.replicate (n - digits.length) '0' ++ ['.', '0']
    else digits.take n ++ ['.'] ++ digits.drop n

/-- The text of a positive finite number. -/
def positiveText (style : FloatStyle) (x : Binary64) : List Char :=
  let (digits, e) := x.shortest
  let top := e + digits.length
  let exponent := top - 1
  if style.least ≤ exponent && exponent ≤ style.most then withPoint digits top
  else
    let fraction :=
      match digits.drop 1 with
      | [] => []
      | rest => '.' :: rest
    let sign := if exponent < 0 then ['-'] else style.plus.toList
    digits.take 1 ++ fraction ++ ['e'] ++ sign ++ Nat.toDigits 10 exponent.natAbs

/-- The text of a number. -/
def Binary64.text (style : FloatStyle) (x : Binary64) : String :=
  if x.isNaN then "NaN"
  else
    let body :=
      if x.special then "inf".toList
      else if x.exponentField == 0 && x.fraction == 0 then "0.0".toList
      else positiveText style (if x.negative then x.neg else x)
    String.ofList (if x.negative then '-' :: body else body)

end ShaderDiagnostics.Number
