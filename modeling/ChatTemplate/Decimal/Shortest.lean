/-! The shortest decimal that reads back as a given double. A double stands for the interval of
reals that round to it; the answer is a point of that interval on the coarsest grid of powers of
ten that has one there, and of two such points the one nearer to the double. All of it is exact
arithmetic on natural numbers. -/
namespace ChatTemplate.Decimal

/-- The reals that round to one positive double, as numerators over a common denominator. -/
structure Interval where
  low : Nat
  value : Nat
  high : Nat
  denominator : Nat
  /-- Both ends belong to the interval. -/
  closed : Bool

/-- The interval of `significand · 2 ^ exponent`. Half the distance to the next double lies on
each side, except that below a power of two the next double is twice as near. -/
def Interval.ofBinary (significand : Nat) (exponent : Int) (nearBelow : Bool) : Interval where
  low := (4 * significand - if nearBelow then 1 else 2) * Nat.pow 2 (exponent - 2).toNat
  value := 4 * significand * Nat.pow 2 (exponent - 2).toNat
  high := (4 * significand + 2) * Nat.pow 2 (exponent - 2).toNat
  denominator := Nat.pow 2 (2 - exponent).toNat
  closed := significand % 2 = 0

/-- The interval in units of `10 ^ unit`. -/
def Interval.inUnits (i : Interval) (unit : Int) : Interval where
  low := i.low * Nat.pow 10 (-unit).toNat
  value := i.value * Nat.pow 10 (-unit).toNat
  high := i.high * Nat.pow 10 (-unit).toNat
  denominator := i.denominator * Nat.pow 10 unit.toNat
  closed := i.closed

/-- Membership of a whole number of units. -/
def Interval.holds (i : Interval) (n : Nat) : Bool :=
  let scaled := n * i.denominator
  if i.closed then i.low ≤ scaled && scaled ≤ i.high else i.low < scaled && scaled < i.high

/-- The whole number in the interval that is nearest to the value; of two equally near ones the
larger. The value's two neighbours are the only candidates. -/
def Interval.whole? (i : Interval) : Option Nat :=
  let below := i.value / i.denominator
  let above := below + 1
  match i.holds below, i.holds above with
  | true, true =>
    some (if i.value - below * i.denominator < above * i.denominator - i.value then below else above)
  | true, false => some below
  | false, true => some above
  | false, false => none

/-- Number of decimal digits, one for zero. -/
def width (n : Nat) : Nat := (Nat.repr n).length

/-- The least power of ten above the value, by its exponent. -/
def Interval.order (i : Interval) : Int :=
  if i.denominator ≤ i.value then width (i.value / i.denominator)
  else 1 - width ((i.denominator - 1) / i.value)

/-- A decimal `digits · 10 ^ exponent`. -/
structure Digits where
  digits : Nat
  exponent : Int
deriving DecidableEq, Repr

/-- Tries the grids of `10 ^ unit`, `10 ^ (unit - 1)` and so on, at most `finer` of them, and takes
the whole part of the value on the last. Every double has a decimal of seventeen digits. -/
def Interval.search (i : Interval) : Nat → Int → Digits
  | 0, unit => let scaled := i.inUnits unit; ⟨scaled.value / scaled.denominator, unit⟩
  | finer + 1, unit =>
    match (i.inUnits unit).whole? with
    | some n => ⟨n, unit⟩
    | none => i.search finer (unit - 1)

/-- The shortest decimal in the interval. -/
def Interval.shortest (i : Interval) : Digits := i.search 18 i.order

/-- The fields of a double: sign, biased exponent and fraction. -/
structure Fields where
  negative : Bool
  exponent : Nat
  fraction : Nat

/-- The first fraction that is too large: it is the leading bit of a significand. -/
def leadingBit : Nat := Nat.pow 2 52

/-- Taken from the IEEE 754 encoding. -/
def Fields.of (x : Float) : Fields :=
  let bits := x.toBits.toNat
  ⟨bits.testBit 63, bits / leadingBit % 2048, bits % leadingBit⟩

/-- The interval of a finite double other than zero, by magnitude. -/
def Fields.interval (f : Fields) : Interval :=
  if f.exponent = 0 then .ofBinary f.fraction (-1074) false
  else .ofBinary (leadingBit + f.fraction) (f.exponent - 1075) (f.fraction = 0 && 1 < f.exponent)

end ChatTemplate.Decimal
