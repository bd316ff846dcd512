/-! Reading a decimal numeral as a double: an optional sign, then a name of infinity or of
not-a-number in any case, or digits with at most one point among them and an optional exponent.
Nothing else may stand before, between or after, and only ASCII digits count. -/
namespace ChatTemplate.Decimal

/-- The number that a run of digits writes. -/
def number (digits : List Char) : Nat :=
  digits.foldl (fun total c => 10 * total + (c.toNat - '0'.toNat)) 0

/-- The double nearest to `digits · 10 ^ scale`. Outside the range of doubles the answer is known
without forming the power: infinity above, zero below. -/
def nearest (digits : Nat) (scale : Int) : Float :=
  let width : Int := (Nat.repr digits).length
  if digits = 0 || width + scale < -330 then 0
  else if width + scale > 310 then 1 / 0
  else if scale < 0 then Float.ofScientific digits true scale.natAbs
  else Float.ofScientific digits false scale.natAbs

/-- A sign, if there is one, and what follows it. -/
def signed : List Char → Bool × List Char
  | '-' :: rest => (true, rest)
  | '+' :: rest => (false, rest)
  | text => (false, text)

/-- Zero where the numeral has ended, otherwise `e`, an optional sign and digits to the end. -/
def exponent? : List Char → Option Int
  | [] => some 0
  | mark :: rest =>
    let (negative, digits) := signed rest
    if (mark = 'e' || mark = 'E') && !digits.isEmpty && digits.all Char.isDigit then
      some (if negative then -(number digits : Int) else number digits)
    else none

/-- Digits on at least one side of the point, then the exponent. -/
def scientific? (text : List Char) : Option Float :=
  let whole := text.takeWhile Char.isDigit
  let afterWhole := text.dropWhile Char.isDigit
  let (fraction, rest) := match afterWhole with
    | '.' :: more => (more.takeWhile Char.isDigit, more.dropWhile Char.isDigit)
    | _ => ([], afterWhole)
  if whole.isEmpty && fraction.isEmpty then none
  else (exponent? rest).map fun exponent =>
    nearest (number (whole ++ fraction)) (exponent - fraction.length)

/-- A numeral without its sign. -/
def magnitude? (text : List Char) : Option Float :=
  let name := String.ofList (text.map Char.toLower)
  if name = "inf" || name = "infinity" then some (1 / 0)
  else if name = "nan" then some (0 / 0)
  else scientific? text

/-- The double that a text writes, or nothing if it is no numeral. -/
def read? (text : String) : Option Float :=
  let (negative, rest) := signed text.toList
  (magnitude? rest).map fun x => if negative then -x else x

end ChatTemplate.Decimal
