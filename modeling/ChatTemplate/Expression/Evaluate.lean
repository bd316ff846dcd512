import ChatTemplate.Host
import ChatTemplate.Operator.Apply
import ChatTemplate.Traced

/-! Evaluating the words of an expression from left to right with a stack of operators and a stack
of values. An operator waits until one that binds no stronger, a closing parenthesis or the end of
the expression comes; then it takes its operands from the top of the values. Operands are looked up
as they come, so the host is asked in the order of the text. -/
namespace ChatTemplate.Expression

variable {O : Type} [DecidableEq O]

/-- Applies one operator to the values on top, the last pushed being the right operand. -/
def applyTop (objects : Objects O) (op : Operator) (values : List (Value O)) :
    Except Fault (List (Value O)) :=
  if values.length < op.arity then .error .missingOperand
  else (op.apply objects (values.take op.arity).reverse).map (· :: values.drop op.arity)

/-- Applies waiting operators from the top as long as they are `due`. -/
def drain (objects : Objects O) (due : Operator → Bool) :
    List Operator → List (Value O) → Except Fault (List Operator × List (Value O))
  | [], values => .ok ([], values)
  | op :: below, values =>
    if due op then
      match applyTop objects op values with
      | .ok reduced => drain objects due below reduced
      | .error fault => .error fault
    else .ok (op :: below, values)

/-- The state between two words. -/
structure Progress (O : Type) where
  operators : List Operator := []
  values : List (Value O) := []
  /-- The last word was an operator that needs a right operand. -/
  dangling : Bool := false
  /-- The last word was the attribute operator, so a word that names nothing names an attribute. -/
  afterAttribute : Bool := false

/-- The operators that come before an operator: those back to the last open parenthesis that bind
at least as strongly. -/
def yieldsTo (next waiting : Operator) : Bool :=
  waiting != .openParen && next.precedence ≤ waiting.precedence

/-- Reads one operator. A closing parenthesis takes its open one along, if there is one. -/
def Progress.operator (objects : Objects O) (state : Progress O) (op : Operator) :
    Except Fault (Progress O) :=
  match op with
  | .openParen =>
    .ok { state with operators := .openParen :: state.operators, dangling := false,
                     afterAttribute := false }
  | .closeParen =>
    (drain objects (· != .openParen) state.operators state.values).map fun (operators, values) =>
      ⟨operators.drop 1, values, false, false⟩
  | op =>
    (drain objects (yieldsTo op) state.operators state.values).map fun (operators, values) =>
      ⟨op :: operators, values, !op.isUnary, op == .binary .attribute⟩

/-- The value of an operand. What names nothing is an attribute name after the attribute operator
and null everywhere else. -/
def Progress.operand (host : Host O) (state : Progress O) (word : String) : Value O :=
  (host.resolve? word).getD (if state.afterAttribute then .str word else .null)

/-- Reads one word. -/
def Progress.word (host : Host O) (state : Progress O) (word : String) : Traced (Progress O) :=
  match Operator.ofSymbol? word with
  | some op => .ofExcept (state.operator host.toObjects op)
  | none =>
    .ask (.resolve word)
      { state with values := state.operand host word :: state.values, dangling := false,
                   afterAttribute := false }

/-- Applies everything that still waits. Exactly one value has to remain. -/
def Progress.finish (objects : Objects O) (state : Progress O) : Except Fault (Value O) :=
  if state.dangling then .error .malformedExpression
  else
    match drain objects (fun _ => true) state.operators state.values with
    | .error fault => .error fault
    | .ok (_, [value]) => .ok value
    | .ok _ => .error .malformedExpression

/-- The value of an expression, given as its words. -/
def evaluate (host : Host O) (words : List String) : Traced (Value O) := do
  let state ← words.foldlM (Progress.word host) {}
  Traced.ofExcept (state.finish host.toObjects)

/-- A binary operator that waits alone is applied to the two values below it. -/
theorem finish_binary (objects : Objects O) (operation : Binary) (left right : Value O) :
    Progress.finish objects ⟨[.binary operation], [right, left], false, false⟩ =
      operation.apply objects left right := by
  have applied : applyTop objects (.binary operation) [right, left] =
      (operation.apply objects left right).map ([·]) := rfl
  simp only [Progress.finish, Bool.false_eq_true, ↓reduceIte, drain, applied]
  cases operation.apply objects left right <;> rfl

/-- An operator between two operands is applied to what they mean. Both are looked up, the left one
first. -/
theorem evaluate_binary (host : Host O) (operation : Binary)
    (first : Operator.ofSymbol? left = none) (second : Operator.ofSymbol? right = none) :
    evaluate host [left, operation.symbol, right] =
      ⟨[.resolve left, .resolve right],
        operation.apply host.toObjects ((host.resolve? left).getD .null)
          ((host.resolve? right).getD (if operation = .attribute then .str right else .null))⟩ := by
  have between : Operator.ofSymbol? operation.symbol = some (.binary operation) :=
    Operator.ofSymbol?_symbol (.binary operation)
  have read : [left, operation.symbol, right].foldlM (Progress.word host) {} =
      ⟨[.resolve left, .resolve right], .ok ⟨[.binary operation],
        [(host.resolve? right).getD (if operation = .attribute then .str right else .null),
          (host.resolve? left).getD .null], false, false⟩⟩ := by
    simp only [List.foldlM_cons, List.foldlM_nil, Progress.word, first, second, between,
      Progress.operand]
    -- only the attribute operator leaves its mark for the operand behind it
    cases operation <;> rfl
  rw [evaluate, read, Trace.bind_ok _ rfl, finish_binary]
  rfl

end ChatTemplate.Expression
