import ChatTemplate.Decimal.Text

/-! Values of expressions and exec blocks. Objects belong to the host: a template knows one only by
its identity, by the text it shows and by the attributes the host reveals, so `Value` takes the
type of objects as a parameter and an `Objects` record says what the host tells about them. -/
namespace ChatTemplate

/-- An integer as a word of 64 bits, if it is in their range. -/
def word? (n : Int) : Option Int64 :=
  if Int64.minValue.toInt ≤ n ∧ n ≤ Int64.maxValue.toInt then some (Int64.ofInt n) else none

/-- What an operand, an attribute or a whole expression can be. -/
inductive Value (O : Type) where
  | int (n : Int64)
  | float (x : Float)
  | str (s : String)
  | object (o : O)
  | null

/-- What a host tells about its objects. -/
structure Objects (O : Type) where
  /-- The text an object shows. -/
  display : O → String
  /-- An attribute by name, if the object has it. -/
  attribute? : O → String → Option (Value O)

/-- The five types of values. -/
inductive ValueType where
  | int | float | str | object | null
deriving DecidableEq, Repr

/-- The word for a type in messages. -/
def ValueType.name : ValueType → String
  | .int => "int"
  | .float => "float"
  | .str => "str"
  | .object => "object"
  | .null => "none"

namespace Value

def type : Value O → ValueType
  | .int _ => .int
  | .float _ => .float
  | .str _ => .str
  | .object _ => .object
  | .null => .null

/-- Comparisons and logic answer with the integers one and zero. -/
def ofBool (b : Bool) : Value O := .int (if b then 1 else 0)

/-- Zero, the empty string and null do not hold; everything else does, not-a-number included. -/
def isTruthy : Value O → Bool
  | .int n => n != 0
  | .float x => x != 0
  | .str s => s != ""
  | .object _ => true
  | .null => false

/-- Integers and floats as doubles; an integer is rounded to the nearest one. -/
def number? : Value O → Option Float
  | .int n => some (Float.ofInt n.toInt)
  | .float x => some x
  | _ => none

/-- Equality within one type: floats by the rules of IEEE 754, objects by identity. -/
def sameAs [DecidableEq O] : Value O → Value O → Bool
  | .int a, .int b => a == b
  | .float a, .float b => a == b
  | .str a, .str b => a == b
  | .object a, .object b => a = b
  | .null, .null => true
  | _, _ => false

/-- Equality in which an integer and a float are compared as numbers. -/
def looselyEquals [DecidableEq O] (left right : Value O) : Bool :=
  match left.number?, right.number? with
  | some a, some b => a == b
  | _, _ => left.sameAs right

/-- The text that a rendering shows for a value. -/
def display (objects : Objects O) : Value O → String
  | .int n => n.toInt.repr
  | .float x => Decimal.text Decimal.shown x
  | .str s => s
  | .object o => objects.display o
  | .null => "None"

end Value

end ChatTemplate
