import ChatTemplate.Proofs.TwoRuns

/-! Whether an evaluation finds words out of order does not depend on what they mean. Two hosts may
give the words different values, but whether an operator waits, is applied or finds too few values is
a matter of how many values there are. So two evaluations of the same words stay abreast whatever
their values are, until a value does not fit its operator in one of them. -/
namespace ChatTemplate.OperandFaults
open Expression TwoRuns

/-- The faults of operands that are there and do not fit their operator. All other faults of an
evaluation are about the order of the words. -/
inductive AboutValues : Fault → Prop where
  | unsupportedOperands (operation : Arithmetic) (left right : ValueType) :
      AboutValues (.unsupportedOperands operation left right)
  | divisionByZero : AboutValues .divisionByZero
  | invalidAttribute (name : String) : AboutValues (.invalidAttribute name)

/-- The reports on words that are out of order. -/
def orderMessages : List String :=
  [Fault.malformedExpression.message, Fault.unbalancedParenthesis.message,
    Fault.missingOperand.message]

/-- A report on values begins in another way than any on the order of the words. -/
theorem message_of_aboutValues (values : AboutValues fault) : fault.message ∉ orderMessages := by
  have openings : ∀ message ∈ orderMessages,
      message.toList.take 3 ∈ [['I', 'n', 'v'], ['U', 'n', 'b'], ['O', 'n', 'e']] := by
    decide
  have other : fault.message.toList.take 3 ∈
      [['U', 'n', 's'], ['D', 'i', 'v'], ['A', 't', 't']] := by
    cases values with
    | unsupportedOperands operation left right =>
      change ("Unsupported operand types for " ++ _ ++ _ ++ _ ++ _ ++ _ : String).toList.take 3 ∈ _
      simp
    | divisionByZero => decide
    | invalidAttribute name =>
      change ("Attempt to access invalid attribute " ++ name).toList.take 3 ∈ _
      simp
  have apart : ∀ opening ∈ [['I', 'n', 'v'], ['U', 'n', 'b'], ['O', 'n', 'e']],
      opening ∉ [['U', 'n', 's'], ['D', 'i', 'v'], ['A', 't', 't']] := by
    decide
  intro listed
  exact apart _ (openings _ listed) other

section
variable {O : Type}

theorem onFloats_aboutValues (operation : Arithmetic) (a b : Float)
    (failed : operation.onFloats a b = .error fault) : AboutValues fault := by
  cases operation with
  | plus | minus | times | power => cases failed
  | divide =>
    rw [Arithmetic.onFloats] at failed
    split at failed
    · cases failed
      exact .divisionByZero
    · cases failed

/-- Arithmetic joins two strings, stays exact on integers, goes on with doubles or fails. -/
theorem arithmetic_cases (operation : Arithmetic) (left right : Value O) :
    (∃ text, operation.apply left right = .ok (.str text)) ∨
      (∃ n, operation.apply left right = .ok (.int n)) ∨
      (∃ a b, operation.apply left right = (operation.onFloats a b).map .float) ∨
      operation.apply left right = .error (.unsupportedOperands operation left.type right.type) := by
  fun_cases Arithmetic.apply operation left right with
  | case1 => exact .inl ⟨_, rfl⟩
  | case2 =>
    fun_cases Arithmetic.onNumbers operation left right with
    | case1 => exact .inr (.inl ⟨_, rfl⟩)
    | case2 => exact .inr (.inr (.inl ⟨_, _, rfl⟩))
    | case3 => exact .inr (.inr (.inr rfl))

theorem arithmetic_aboutValues (operation : Arithmetic) (left right : Value O)
    (failed : operation.apply left right = .error fault) : AboutValues fault := by
  rcases arithmetic_cases operation left right with
    ⟨text, joined⟩ | ⟨n, exact⟩ | ⟨a, b, divided⟩ | unsupported
  · cases joined.symm.trans failed
  · cases exact.symm.trans failed
  · cases ended : operation.onFloats a b with
    | ok x =>
      rw [divided, ended] at failed
      cases failed
    | error cause =>
      rw [divided, ended] at failed
      cases failed
      exact onFloats_aboutValues operation a b ended
  · cases unsupported.symm.trans failed
    exact .unsupportedOperands _ _ _

theorem readAttribute_aboutValues (objects : Objects O) (owner named : Value O)
    (failed : readAttribute objects owner named = .error fault) : AboutValues fault := by
  revert failed
  fun_cases readAttribute objects owner named with
  | case1 => exact nofun
  | case2 | case3 | case4 | case5 =>
    rintro ⟨⟩
    exact .invalidAttribute _

variable [DecidableEq O]

/-- Between two operands nothing but their values can be at fault. -/
theorem binary_aboutValues (objects : Objects O) (operation : Binary) (left right : Value O)
    (failed : operation.apply objects left right = .error fault) : AboutValues fault := by
  cases operation with
  | equal | is | and | or => cases failed
  | «attribute» => exact readAttribute_aboutValues objects left right failed
  | arithmetic operation => exact arithmetic_aboutValues operation left right failed

end

/-- Where nothing but values can be at fault, ends go together. -/
theorem ends_of_aboutValues {x : Except Fault α} {y : Except Fault β}
    (left : ∀ fault, x = .error fault → AboutValues fault)
    (right : ∀ fault, y = .error fault → AboutValues fault) :
    Ends AboutValues (fun _ _ => True) x y := by
  cases x with
  | error fault => exact .first (left fault rfl)
  | ok a =>
    cases y with
    | error fault => exact .second (right fault rfl)
    | ok b => exact .ok trivial

variable {O P : Type} [DecidableEq O] [DecidableEq P]

/-- Parentheses fail for themselves, and other operators on their operands. -/
theorem apply_ends (objects : Objects O) (objects' : Objects P) (op : Operator)
    {operands : List (Value O)} {operands' : List (Value P)}
    (count : operands.length = op.arity) (count' : operands'.length = op.arity) :
    Ends AboutValues (fun _ _ => True) (op.apply objects operands)
      (op.apply objects' operands') := by
  cases op with
  | openParen | closeParen =>
    rw [List.eq_nil_of_length_eq_zero count, List.eq_nil_of_length_eq_zero count']
    exact .error _
  | not =>
    obtain ⟨operand, rfl⟩ := List.length_eq_one_iff.mp count
    obtain ⟨operand', rfl⟩ := List.length_eq_one_iff.mp count'
    exact .ok trivial
  | binary operation =>
    obtain ⟨left, right, rfl⟩ := List.length_eq_two.mp count
    obtain ⟨left', right', rfl⟩ := List.length_eq_two.mp count'
    exact ends_of_aboutValues (fun _ => binary_aboutValues objects operation left right)
      fun _ => binary_aboutValues objects' operation left' right'

/-- Any two hosts are parallel, as long as values may be anything and are excused. -/
theorem parallel (host : Host O) (host' : Host P) :
    Parallel AboutValues (fun _ _ => True) host host' where
  operand _ _ := trivial
  apply count operands := apply_ends _ _ _ count (operands.length_eq.symm.trans count)

/-- If words have a value for one host, no other host finds them out of order. Either they have a
value there as well, or some operand does not fit its operator, and the report says so. -/
theorem evaluate_or_aboutValues (host : Host O) (host' : Host P) (words : List String)
    (ended : (evaluate host words).outcome = .ok value) :
    (∃ value', (evaluate host' words).outcome = .ok value') ∨
      ∃ fault, (evaluate host' words).outcome = .error fault ∧ AboutValues fault ∧
        fault.message ∉ orderMessages := by
  have ends := (evaluate_matches (parallel host host') words).outcome
  rw [ended] at ends
  generalize (evaluate host' words).outcome = outcome at ends ⊢
  cases ends with
  | @ok _ value' _ => exact .inl ⟨value', rfl⟩
  | second atFault => exact .inr ⟨_, rfl, atFault, message_of_aboutValues atFault⟩

/-- Two texts can be joined. Where the same words name nothing, their sum is at fault. -/
theorem evaluate_or_aboutValues_sum :
    let nameless : Host Empty := { contextFree noObjects with resolve? := fun _ => none }
    let words := ["(", "a", "+", "b", ")", "=", "c"]
    (evaluate (contextFree noObjects) words).outcome = .ok (.int 0) ∧
      (evaluate nameless words).outcome = .error (.unsupportedOperands .plus .null .null) ∧
      ((∃ value', (evaluate nameless words).outcome = .ok value') ∨
        ∃ fault, (evaluate nameless words).outcome = .error fault ∧ AboutValues fault ∧
          fault.message ∉ orderMessages) := by
  intro nameless words
  exact ⟨rfl, rfl, evaluate_or_aboutValues (contextFree noObjects) nameless words rfl⟩

end ChatTemplate.OperandFaults
