import ChatTemplate.Value
import ChatTemplate.Operator.Table

/-! What can be wrong with a template, one constructor per cause. A fault ends the rendering and
leaves no text. `kind` sorts the causes into the three that a report names, and `message` words
them. -/
namespace ChatTemplate

inductive Fault where
  /-- A block opens with a word other than the three keywords. -/
  | unknownKeyword
  /-- A condition that must be there is absent or blank. -/
  | missingPredicate
  /-- A fallback block has a condition. -/
  | unexpectedPredicate
  /-- No body follows the head of a block. -/
  | missingBody
  /-- The text ends inside the body of a block. -/
  | unclosedBody
  /-- A selected body lies deeper than the limit allows. -/
  | nestedTooDeep (limit : Nat)
  /-- An expression ends with an operator or leaves other than one value. -/
  | malformedExpression
  | unbalancedParenthesis
  /-- An operator inside an expression finds too few values. -/
  | missingOperand
  /-- An operator is applied to the wrong number of operands. -/
  | operandCount (op : Operator) (supplied : Nat)
  /-- Arithmetic on something that is not a number. -/
  | unsupportedOperands (operation : Arithmetic) (left right : ValueType)
  | divisionByZero
  /-- An attribute that is not to be read, or that nothing provides. -/
  | invalidAttribute (name : String)
deriving DecidableEq, Repr

/-- The three kinds of faults. -/
inductive FaultKind where
  | malformed | operator | attribute
deriving DecidableEq, Repr

/-- The name a report gives to a kind. -/
def FaultKind.name : FaultKind → String
  | .malformed => "SyntaxError"
  | .operator => "OperatorError"
  | .attribute => "InvalidAttribute"

namespace Fault

def kind : Fault → FaultKind
  | .missingOperand | .operandCount .. | .unsupportedOperands .. | .divisionByZero => .operator
  | .invalidAttribute _ => .attribute
  | _ => .malformed

def message : Fault → String
  | .unknownKeyword => "Invalid if statement type"
  | .missingPredicate => "If statement missing boolean expression"
  | .unexpectedPredicate => "Else statement contains unexpected boolean expression"
  | .missingBody => "If statement missing result"
  | .unclosedBody => "Unexpected end of expression"
  | .nestedTooDeep limit =>
    "Conditional blocks nested deeper than " ++ Nat.repr limit ++ " levels"
  | .malformedExpression => "Invalid Boolean Expression"
  | .unbalancedParenthesis => "Unbalanced parenthesis in expression"
  | .missingOperand => "One value supplied to two value operator"
  | .operandCount op supplied =>
    "Operator " ++ op.symbol ++ " takes " ++ Nat.repr op.arity ++ " operand(s), " ++
      Nat.repr supplied ++ " supplied"
  | .unsupportedOperands operation left right =>
    "Unsupported operand types for " ++ operation.symbol ++ ": " ++ left.name ++ " and " ++
      right.name
  | .divisionByZero => "Division by zero"
  | .invalidAttribute name => "Attempt to access invalid attribute " ++ name

end Fault

end ChatTemplate
