import ChatTemplate.Decimal.Shortest

/-! How templates show a double. The digits are the fewest that read back; the layout of them is
one `Style` value. Numbers of moderate size are positional and keep a decimal place even when
they are whole, others have an exponent with a sign and two places. -/
namespace ChatTemplate.Decimal

/-- Where positional writing begins and ends, and what the exponent looks like. -/
structure Style where
  /-- Least decimal exponent of a number written without one. -/
  positionalFrom : Int
  /-- Least decimal exponent of a large number written with one. -/
  exponentFrom : Int
  /-- Least number of digits in an exponent. -/
  exponentWidth : Nat
  infinityText : String
  notANumberText : String

/-- Positional from `0.0001` up to below `1e16`; exponents such as `e+16` and `e-05`. -/
def shown : Style := ⟨-4, 16, 2, "inf", "nan"⟩

/-- Digits, padded with zeros on the left. -/
def padded (places n : Nat) : String :=
  let text := Nat.repr n
  String.ofList (List.replicate (places - text.length) '0') ++ text

/-- Whole part, point and at least one further digit. -/
def positional (d : Digits) : String :=
  let digits := (Nat.repr d.digits).toList
  if 0 ≤ d.exponent then
    String.ofList (digits ++ List.replicate d.exponent.toNat '0') ++ ".0"
  else
    let places := d.exponent.natAbs
    let whole := digits.take (digits.length - places)
    let fraction := List.replicate (places - digits.length) '0' ++
      digits.drop (digits.length - places)
    (if whole.isEmpty then "0" else String.ofList whole) ++ "." ++ String.ofList fraction

/-- One digit, a point where more follow, and the exponent of the first digit. -/
def exponential (style : Style) (d : Digits) (order : Int) : String :=
  let digits := (Nat.repr d.digits).toList
  let rest := digits.drop 1
  String.ofList (digits.take 1) ++ (if rest.isEmpty then "" else "." ++ String.ofList rest) ++
    (if order < 0 then "e-" else "e+") ++ padded style.exponentWidth order.natAbs

/-- A decimal in the layout that its size calls for. -/
def Digits.text (style : Style) (d : Digits) : String :=
  let order := d.exponent + width d.digits - 1
  if style.positionalFrom ≤ order && order < style.exponentFrom then positional d
  else exponential style d order

/-- The text of a double. Not-a-number has no sign. -/
def text (style : Style) (x : Float) : String :=
  let f := Fields.of x
  let sign := if f.negative then "-" else ""
  if f.exponent = 2047 then
    if f.fraction = 0 then sign ++ style.infinityText else style.notANumberText
  else if f.exponent = 0 && f.fraction = 0 then sign ++ "0.0"
  else sign ++ f.interval.shortest.text style

end ChatTemplate.Decimal
