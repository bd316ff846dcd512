import Mathlib.Data.List.Basic
import ChatTemplate.Expression.Evaluate

/-! Operators and expressions on operations that are not defined everywhere. A list is elsewhere taken
apart by its shape, so that nothing can go wrong; here an element is taken from a position, a stack is
split at a position and numbers are counted up and down within bounds, each of which breaks down
outside of its domain. No operator and no expression leads there, whatever its operands and words
are, and what comes out is the same. -/
namespace ChatTemplate.PartialOperations

/-- The ways in which an operation breaks down. -/
inductive Breach where
  /-- There is no element at the position. -/
  | missingElement (position length : Nat)
  /-- The position to split a list at lies behind its end. -/
  | splitBeyond (position length : Nat)
  | belowZero
  /-- A number leaves the range of its type. -/
  | aboveLargest
  /-- A case that nothing is to lead to. -/
  | unreachable
deriving DecidableEq, Repr

/-- A computation that asks the host and may break down on the way. -/
abbrev Guarded := ExceptT Breach Traced

/-- A computation that does not break down. -/
def unbreached (x : Traced α) : Guarded α := ExceptT.lift x

/-- A fault of the template, which is no breach. -/
def fail (fault : Fault) : Guarded α := unbreached (.fail fault)

/-- The element at a position. -/
def elementAt (elements : List α) (position : Nat) : Guarded α :=
  match elements[position]? with
  | some element => return element
  | none => throw (.missingElement position elements.length)

/-- The elements before a position and those from it on. -/
def splitAt (elements : List α) (position : Nat) : Guarded (List α × List α) :=
  if position ≤ elements.length then return (elements.take position, elements.drop position)
  else throw (.splitBeyond position elements.length)

/-- A difference that must not be negative. -/
def minus (a b : Nat) : Guarded Nat :=
  if b ≤ a then return a - b else throw .belowZero

/-- The number after another one, where numbers go as far as `largest`. -/
def countUp (largest n : Nat) : Guarded Nat :=
  if n < largest then return n + 1 else throw .aboveLargest

@[simp] theorem unbreached_pure (a : α) : unbreached (pure a) = pure a := rfl

/-- Such a computation makes the same calls and ends the same. -/
theorem unbreached_run (x : Traced α) : (unbreached x).run = ⟨x.calls, x.outcome.map .ok⟩ := by
  refine Trace.ext (Trace.map_calls Except.ok x) ?_
  change (Except.ok <$> x : Traced (Except Breach α)).outcome = _
  rw [map_eq_pure_bind]
  cases ended : x.outcome with
  | error fault => rw [Trace.bind_error _ ended]; rfl
  | ok a => rw [Trace.bind_ok _ ended]; rfl

theorem unbreached_bind (x : Traced α) (next : α → Traced β) :
    unbreached (x >>= next) = unbreached x >>= fun a => unbreached (next a) :=
  monadLift_bind (n := Guarded) x next

/-- What follows a computation that does not break down may see its result in another form. -/
theorem map_unbreached_bind {x : Traced α} {form : α → γ} {next : α → Traced β}
    {guarded : γ → Guarded β} (same : ∀ a, guarded (form a) = unbreached (next a)) :
    unbreached (form <$> x) >>= guarded = unbreached (x >>= next) := by
  rw [map_eq_pure_bind, unbreached_bind, unbreached_bind, bind_assoc]
  simp only [unbreached_pure, pure_bind, same]

variable {O : Type} [DecidableEq O]

/-- Arithmetic, which takes all operators that nothing else has taken. It breaks down on any that is
none of its own, before it looks at the operands. -/
def arithmetic (op : Operator) (left right : Value O) : Guarded (Value O) :=
  match op with
  | .binary (.arithmetic operation) => unbreached (.ofExcept (operation.onNumbers left right))
  | _ => throw .unreachable

/-- An operator between two operands. -/
def applyBinary (objects : Objects O) (op : Operator) (left right : Value O) :
    Guarded (Value O) :=
  match op, left, right with
  | .binary .equal, left, right => return .ofBool (left.looselyEquals right)
  | .binary .is, left, right => return .ofBool (left.sameAs right)
  | .binary .and, left, right => return .ofBool (left.isTruthy && right.isTruthy)
  | .binary .or, left, right => return .ofBool (left.isTruthy || right.isTruthy)
  | .binary .attribute, left, right => unbreached (.ofExcept (readAttribute objects left right))
  | .binary (.arithmetic .plus), .str a, .str b => return .str (a ++ b)
  | op, left, right => arithmetic op left right

/-- An operator on its operands, which are taken from their positions once they have been counted. -/
def apply (objects : Objects O) (op : Operator) (operands : List (Value O)) :
    Guarded (Value O) :=
  if operands.length ≠ op.arity then fail (.operandCount op operands.length)
  else
    match op with
    | .not => do
      let operand ← elementAt operands 0
      return .ofBool (!operand.isTruthy)
    | .openParen | .closeParen => fail .unbalancedParenthesis
    | .binary _ => do
      let left ← elementAt operands 0
      let right ← elementAt operands 1
      applyBinary objects op left right

theorem applyBinary_eq (objects : Objects O) (operation : Binary) (left right : Value O) :
    applyBinary objects (.binary operation) left right =
      unbreached (.ofExcept (operation.apply objects left right)) := by
  cases operation with
  | arithmetic operation =>
    -- only a sum looks at its operands before it goes on to arithmetic
    cases operation with
    | plus => cases left <;> cases right <;> rfl
    | _ => rfl
  | _ => rfl

/-- An operator refuses any other number of operands than its own. -/
theorem apply_miscounted (objects : Objects O) {op : Operator} {operands : List (Value O)}
    (other : operands.length ≠ op.arity) :
    op.apply objects operands = .error (.operandCount op operands.length) := by
  unfold Operator.apply
  split
  case h_5 => rfl
  all_goals exact absurd rfl other

/-- The operands are counted before one of them is taken, so none is missing. -/
theorem apply_eq (objects : Objects O) (op : Operator) (operands : List (Value O)) :
    apply objects op operands = unbreached (.ofExcept (op.apply objects operands)) := by
  by_cases counted : operands.length = op.arity
  · cases op with
    | openParen | closeParen =>
      rw [List.length_eq_zero_iff.mp counted]
      rfl
    | not =>
      obtain ⟨operand, rfl⟩ := List.length_eq_one_iff.mp counted
      rfl
    | binary operation =>
      obtain ⟨left, right, rfl⟩ := List.length_eq_two.mp counted
      exact applyBinary_eq objects operation left right
  · unfold apply
    rw [if_pos counted, apply_miscounted objects counted]
    rfl

section
open Expression

/-- Applies an operator to the last values, the values standing in the order in which they came. -/
def applyTop (objects : Objects O) (op : Operator) (values : List (Value O)) :
    Guarded (List (Value O)) :=
  if values.length < op.arity then fail .missingOperand
  else do
    let position ← minus values.length op.arity
    let (below, operands) ← splitAt values position
    let value ← apply objects op operands
    return below ++ [value]

/-- Applies waiting operators from the top as long as they are `due`. -/
def drain (objects : Objects O) (due : Operator → Bool) :
    List Operator → List (Value O) → Guarded (List Operator × List (Value O))
  | [], values => return ([], values)
  | op :: below, values =>
    if due op then do
      let reduced ← applyTop objects op values
      drain objects due below reduced
    else return (op :: below, values)

/-- Reads one operator. -/
def readOperator (objects : Objects O) (state : Progress O) (op : Operator) :
    Guarded (Progress O) :=
  match op with
  | .openParen =>
    return { state with operators := .openParen :: state.operators, dangling := false,
                        afterAttribute := false }
  | .closeParen => do
    let (operators, values) ← drain objects (· != .openParen) state.operators state.values
    return ⟨operators.drop 1, values, false, false⟩
  | op => do
    let (operators, values) ← drain objects (yieldsTo op) state.operators state.values
    return ⟨op :: operators, values, !op.isUnary, op == .binary .attribute⟩

/-- Reads one word. -/
def readWord (host : Host O) (state : Progress O) (word : String) : Guarded (Progress O) :=
  match Operator.ofSymbol? word with
  | some op => readOperator host.toObjects state op
  | none =>
    unbreached (.ask (.resolve word)
      { state with values := state.values ++ [state.operand host word], dangling := false,
                   afterAttribute := false })

/-- The only value of a stack. -/
def single : List α → Except Fault α
  | [value] => .ok value
  | _ => .error .malformedExpression

/-- Applies everything that still waits. -/
def finish (objects : Objects O) (state : Progress O) : Guarded (Value O) :=
  if state.dangling then fail .malformedExpression
  else do
    let (_, values) ← drain objects (fun _ => true) state.operators state.values
    unbreached (.ofExcept (single values))

/-- The value of an expression, given as its words. -/
def evaluate (host : Host O) (words : List String) : Guarded (Value O) := do
  let state ← words.foldlM (readWord host) {}
  finish host.toObjects state

/-- The same state with the values in the order in which they came. -/
def upright (state : Progress O) : Progress O := { state with values := state.values.reverse }

theorem splitAt_le {elements : List α} (inside : position ≤ elements.length) :
    splitAt elements position = pure (elements.take position, elements.drop position) :=
  if_pos inside

theorem minus_le (enough : b ≤ a) : minus a b = pure (a - b) := if_pos enough

/-- The last values of a stack that is read from the other end. -/
theorem split_reverse (values : List α) (count : Nat) (enough : count ≤ values.length) :
    splitAt values.reverse (values.length - count) =
      pure ((values.drop count).reverse, (values.take count).reverse) := by
  rw [splitAt_le (by rw [List.length_reverse]; omega), List.take_reverse, List.drop_reverse]
  congr 4
  all_goals omega

/-- A stack is split only where it holds all the operands. -/
theorem applyTop_eq (objects : Objects O) (op : Operator) (values : List (Value O)) :
    applyTop objects op values.reverse =
      unbreached (.ofExcept ((Expression.applyTop objects op values).map List.reverse)) := by
  rw [applyTop, Expression.applyTop, List.length_reverse]
  split
  · rfl
  · next enough =>
    -- there are values enough, so neither the difference nor the split breaks down
    rw [minus_le (by omega), pure_bind, split_reverse values op.arity (by omega), pure_bind]
    dsimp only
    rw [apply_eq]
    cases op.apply objects (values.take op.arity).reverse with
    | error fault => rfl
    | ok value => simp [Except.map]

theorem drain_eq (objects : Objects O) (due : Operator → Bool) (operators : List Operator)
    (values : List (Value O)) :
    drain objects due operators values.reverse =
      unbreached (.ofExcept
        ((Expression.drain objects due operators values).map (Prod.map id List.reverse))) := by
  induction operators generalizing values with
  | nil => rfl
  | cons op below ih =>
    rw [drain, Expression.drain]
    split
    · rw [applyTop_eq]
      cases Expression.applyTop objects op values with
      | error fault => rfl
      | ok reduced => exact ih reduced
    · rfl

theorem readOperator_eq (objects : Objects O) (state : Progress O) (op : Operator) :
    readOperator objects (upright state) op =
      unbreached (.ofExcept ((state.operator objects op).map upright)) := by
  cases op with
  | openParen => rfl
  | closeParen =>
    simp only [readOperator, upright, drain_eq, Progress.operator]
    cases Expression.drain objects (· != .openParen) state.operators state.values <;> rfl
  | not | binary =>
    simp only [readOperator, upright, drain_eq, Progress.operator]
    cases Expression.drain objects (yieldsTo _) state.operators state.values <;> rfl

/-- One word keeps both evaluations in the same state. -/
theorem readWord_eq (host : Host O) (state : Progress O) (word : String) :
    readWord host (upright state) word = unbreached (upright <$> state.word host word) := by
  rw [readWord, Progress.word]
  cases Operator.ofSymbol? word with
  | some op =>
    dsimp only
    rw [readOperator_eq]
    cases state.operator host.toObjects op <;> rfl
  | none =>
    have pushed (value : Value O) : state.values.reverse ++ [value] = (value :: state.values).reverse :=
      List.reverse_cons.symm
    simp only [upright, pushed]
    rfl

theorem single_reverse (values : List α) : single values.reverse = single values := by
  match values with
  | [] | [_] => rfl
  | first :: second :: rest =>
    have several (value : α) : (first :: second :: rest).reverse ≠ [value] := by
      intro same
      simpa using congrArg List.length same
    unfold single
    split
    · next value same => exact absurd same (several value)
    · rfl

theorem finish_eq (objects : Objects O) (state : Progress O) :
    finish objects (upright state) = unbreached (.ofExcept (state.finish objects)) := by
  rw [finish, Progress.finish]
  simp only [upright, drain_eq]
  cases state.dangling with
  | true => rfl
  | false =>
    simp only [Bool.false_eq_true, ↓reduceIte]
    cases Expression.drain objects (fun _ => true) state.operators state.values with
    | error fault => rfl
    | ok left =>
      obtain ⟨operators, values⟩ := left
      change unbreached (.ofExcept (single values.reverse)) = _
      rw [single_reverse]
      cases values with
      | nil => rfl
      | cons value others => cases others <;> rfl

/-- So do all words, one after another. -/
theorem readWords_eq (host : Host O) (words : List String) (state : Progress O) :
    words.foldlM (readWord host) (upright state) =
      unbreached (upright <$> words.foldlM (Progress.word host) state) := by
  induction words generalizing state with
  | nil => rfl
  | cons word rest ih =>
    rw [List.foldlM_cons, List.foldlM_cons, readWord_eq, map_bind]
    exact map_unbreached_bind ih

/-- Whatever the words are and mean, no stack is split where it does not reach, and the value or the
fault is the one that the words have. -/
theorem evaluate_eq (host : Host O) (words : List String) :
    evaluate host words = unbreached (Expression.evaluate host words) := by
  have read : words.foldlM (readWord host) {} =
      unbreached (upright <$> words.foldlM (Progress.word host) {}) := readWords_eq host words {}
  rw [evaluate, read]
  exact map_unbreached_bind (finish_eq host.toObjects)

end

end ChatTemplate.PartialOperations
