import ChatTemplate.Fault

/-! What operators compute. Arithmetic on two integers stays exact as long as the result is a
64-bit integer and otherwise goes on with doubles; division always does. Comparisons and logic
answer one or zero. The attribute operator reads only the attributes on a fixed list. -/
namespace ChatTemplate

/-- The attributes that a template may read. -/
def readableAttributes : List String :=
  ["name", "colour", "id", "discriminator", "nick", "display_name"]

/-- `base ^ exponent` as a machine word. Only powers of -1, 0 and 1 stay in range for exponents
of 64 and more, and their exponent matters by its parity alone. -/
def powerWord? (base : Int) (exponent : Nat) : Option Int64 :=
  if base.natAbs ≤ 1 then word? (if exponent = 0 then 1 else base.pow (2 - exponent % 2))
  else if exponent < 64 then word? (base.pow exponent)
  else none

namespace Arithmetic

/-- The exact result on integers, if there is one. Exponents are 32-bit and not negative. -/
def onWords? (operation : Arithmetic) (a b : Int) : Option Int64 :=
  match operation with
  | .plus => word? (a + b)
  | .minus => word? (a - b)
  | .times => word? (a * b)
  | .divide => none
  | .power => if 0 ≤ b ∧ b.toNat < UInt32.size then powerWord? a b.toNat else none

/-- The result on doubles. Only division can fail, and it does for both zeros. -/
def onFloats (operation : Arithmetic) (a b : Float) : Except Fault Float :=
  match operation with
  | .plus => .ok (a + b)
  | .minus => .ok (a - b)
  | .times => .ok (a * b)
  | .divide => if b == 0 then .error .divisionByZero else .ok (a / b)
  | .power => .ok (a.pow b)

/-- Exactly on integers where that works, on doubles where both operands are numbers. -/
def onNumbers (operation : Arithmetic) (left right : Value O) : Except Fault (Value O) :=
  let exact := match left, right with
    | .int a, .int b => operation.onWords? a.toInt b.toInt
    | _, _ => none
  match exact with
  | some n => .ok (.int n)
  | none =>
    match left.number?, right.number? with
    | some a, some b => (operation.onFloats a b).map .float
    | _, _ => .error (.unsupportedOperands operation left.type right.type)

/-- Addition joins two strings; everything else is for numbers. -/
def apply (operation : Arithmetic) (left right : Value O) : Except Fault (Value O) :=
  match operation, left, right with
  | .plus, .str a, .str b => .ok (.str (a ++ b))
  | operation, left, right => operation.onNumbers left right

end Arithmetic

/-- Reads an attribute. Its name has to be a string on the list and the object has to have it;
a colour is always its text. -/
def readAttribute (objects : Objects O) (owner named : Value O) : Except Fault (Value O) :=
  match named with
  | .str name =>
    if name ∈ readableAttributes then
      match owner with
      | .object o =>
        match objects.attribute? o name with
        | some value => .ok (if name = "colour" then .str (value.display objects) else value)
        | none => .error (.invalidAttribute name)
      | _ => .error (.invalidAttribute name)
    else .error (.invalidAttribute name)
  | other => .error (.invalidAttribute (other.display objects))

/-- An operator between two operands. -/
def Binary.apply [DecidableEq O] (objects : Objects O) (operation : Binary)
    (left right : Value O) : Except Fault (Value O) :=
  match operation with
  | .equal => .ok (.ofBool (left.looselyEquals right))
  | .is => .ok (.ofBool (left.sameAs right))
  | .and => .ok (.ofBool (left.isTruthy && right.isTruthy))
  | .or => .ok (.ofBool (left.isTruthy || right.isTruthy))
  | .attribute => readAttribute objects left right
  | .arithmetic operation => operation.apply left right

/-- An operator on its operands, the left one first. -/
def Operator.apply [DecidableEq O] (objects : Objects O) (op : Operator)
    (operands : List (Value O)) : Except Fault (Value O) :=
  match op, operands with
  | .openParen, [] | .closeParen, [] => .error .unbalancedParenthesis
  | .not, [operand] => .ok (.ofBool (!operand.isTruthy))
  | .binary operation, [left, right] => operation.apply objects left right
  | op, operands => .error (.operandCount op operands.length)

end ChatTemplate
