import ChatTemplate.Expression.Evaluate

/-! The grammar of expressions and what an expression means. Five levels of operators stand over
operands and expressions in parentheses; a derivation yields a syntax tree, and the tree is
evaluated from its parts. Nothing here mentions a stack, a precedence or a waiting operator. -/
namespace ChatTemplate.TermGrammar
open Expression

/-- The syntax tree of an expression. Parentheses keep a node of their own, because an operand right
after the attribute operator is read in another way than the same operand in parentheses. -/
inductive Term where
  | operand (word : String)
  | group (inside : Term)
  | negation (inside : Term)
  | joined (op : Binary) (left right : Term)
deriving DecidableEq, Repr

/-- The levels of the grammar, from the operators that bind least to the operands. -/
inductive Level where
  | comparison | sum | product | power | access | primary
deriving DecidableEq, Repr

/-- The level of a right operand, and of a left one where the operator is missing. -/
def Level.tighter : Level → Level
  | .comparison => .sum
  | .sum => .product
  | .product => .power
  | .power => .access
  | .access | .primary => .primary

/-- The operators between two phrases of a level, as they are written. -/
def Level.operators : Level → List (String × Binary)
  | .comparison => [("=", .equal), ("is", .is)]
  | .sum => [("or", .or), ("+", .arithmetic .plus), ("-", .arithmetic .minus)]
  | .product => [("and", .and), ("*", .arithmetic .times), ("/", .arithmetic .divide)]
  | .power => [("^", .arithmetic .power)]
  | .access => [(":", .attribute)]
  | .primary => []

/-- The words that cannot be operands. -/
def reserved : List String :=
  ["(", ")", "=", "is", "or", "+", "-", "and", "*", "/", "^", "not", ":"]

/-- The words of an expression with its syntax tree. Operators group to the left, and a negation
stands where a power may stand but reaches no further than attribute access. -/
inductive Phrase : Level → List String → Term → Prop where
  | operand (plain : word ∉ reserved) : Phrase .primary [word] (.operand word)
  | group (within : Phrase .comparison wording inside) :
      Phrase .primary ("(" :: wording ++ [")"]) (.group inside)
  | negation (within : Phrase .access wording inside) :
      Phrase .power ("not" :: wording) (.negation inside)
  | joined (listed : (symbol, op) ∈ level.operators) (first : Phrase level before left)
      (second : Phrase level.tighter after right) :
      Phrase level (before ++ symbol :: after) (.joined op left right)
  | tighter (within : Phrase level.tighter wording term) : Phrase level wording term

variable {O : Type} [DecidableEq O]

/-- The value of a tree: the left part first, then the right part, then the operator. An operand
that names nothing is null, and its own text right after the attribute operator. -/
def Term.evaluate (host : Host O) (afterColon : Bool) : Term → Traced (Value O)
  | .operand word =>
    .ask (.resolve word) ((host.resolve? word).getD (if afterColon then .str word else .null))
  | .group inside => inside.evaluate host false
  | .negation inside => do
    let value ← inside.evaluate host false
    Traced.ofExcept (Operator.not.apply host.toObjects [value])
  | .joined op left right => do
    let first ← left.evaluate host afterColon
    let second ← right.evaluate host (op == .attribute)
    Traced.ofExcept ((Operator.binary op).apply host.toObjects [first, second])

end ChatTemplate.TermGrammar
