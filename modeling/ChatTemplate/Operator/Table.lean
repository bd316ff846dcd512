/-! The operators of expressions with their symbols, binding strengths and operand counts.

| symbol        | precedence | operands |
|---------------|------------|----------|
| `(` `)`       | -1         | 0        |
| `=` `is`      | 0          | 2        |
| `or` `+` `-`  | 10         | 2        |
| `and` `*` `/` | 20         | 2        |
| `^`           | 30         | 2        |
| `not`         | 30         | 1        |
| `:`           | 40         | 2        |

A word of an expression is an operator exactly when it is one of these symbols. -/
namespace ChatTemplate

/-- Operators on two numbers. -/
inductive Arithmetic where
  | plus | minus | times | divide | power
deriving DecidableEq, Repr

/-- Operators between two operands. -/
inductive Binary where
  | equal | is | and | or | attribute
  | arithmetic (operation : Arithmetic)
deriving DecidableEq, Repr

/-- Everything that an expression treats as an operator. Parentheses take no operands and are
never applied in a balanced expression. -/
inductive Operator where
  | openParen | closeParen | not
  | binary (operation : Binary)
deriving DecidableEq, Repr

def Arithmetic.symbol : Arithmetic → String
  | .plus => "+"
  | .minus => "-"
  | .times => "*"
  | .divide => "/"
  | .power => "^"

def Binary.symbol : Binary → String
  | .equal => "="
  | .is => "is"
  | .and => "and"
  | .or => "or"
  | .attribute => ":"
  | .arithmetic operation => operation.symbol

def Arithmetic.precedence : Arithmetic → Int
  | .plus | .minus => 10
  | .times | .divide => 20
  | .power => 30

def Binary.precedence : Binary → Int
  | .equal | .is => 0
  | .or => 10
  | .and => 20
  | .attribute => 40
  | .arithmetic operation => operation.precedence

namespace Operator

def symbol : Operator → String
  | .openParen => "("
  | .closeParen => ")"
  | .not => "not"
  | .binary operation => operation.symbol

/-- How strongly an operator binds; parentheses come below all others. -/
def precedence : Operator → Int
  | .openParen | .closeParen => -1
  | .not => 30
  | .binary operation => operation.precedence

/-- Number of operands. -/
def arity : Operator → Nat
  | .openParen | .closeParen => 0
  | .not => 1
  | .binary _ => 2

def isUnary (op : Operator) : Bool := op.arity == 1

/-- Every operator once. -/
def all : List Operator :=
  [.openParen, .closeParen, .not, .binary .equal, .binary .is, .binary .and, .binary .or,
    .binary .attribute, .binary (.arithmetic .plus), .binary (.arithmetic .minus),
    .binary (.arithmetic .times), .binary (.arithmetic .divide), .binary (.arithmetic .power)]

/-- The operator that a word stands for. -/
def ofSymbol? (word : String) : Option Operator := all.find? (·.symbol == word)

theorem mem_all (op : Operator) : op ∈ all := by
  cases op with
  | binary operation =>
    cases operation with
    | arithmetic operation => cases operation <;> decide
    | _ => decide
  | _ => decide

/-- Symbols tell operators apart. -/
theorem ofSymbol?_symbol (op : Operator) : ofSymbol? op.symbol = some op := by
  cases op with
  | binary operation =>
    cases operation with
    | arithmetic operation => cases operation <;> decide
    | _ => decide
  | _ => decide

theorem ofSymbol?_eq_some_iff {word : String} {op : Operator} :
    ofSymbol? word = some op ↔ op.symbol = word := by
  constructor
  · intro found
    simpa using List.find?_some found
  · rintro rfl
    exact ofSymbol?_symbol op

end Operator

end ChatTemplate
