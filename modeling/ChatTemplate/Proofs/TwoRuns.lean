import Mathlib.Data.List.Forall2
import ChatTemplate.Expression.Evaluate

/-! Two runs side by side. Runs on different hosts return results of different types, so equality
does not compare them. They match where they ask the same questions and then both succeed with
related results or both fail with the same fault; some faults may be excused, and nothing is said of
a run beside one that ends so. A step that keeps results related keeps runs matched. Where results
are related only if they are equal and no fault is excused, the runs are equal.

Two evaluations of the same words match as soon as single operands and single operators do. Which
operators are due depends on the operators alone, so both stacks grow and shrink together. -/
namespace ChatTemplate.TwoRuns
open Expression

/-- No fault is excused. -/
def Never (_ : Fault) : Prop := False

/-- Related results on both sides or the same fault, unless a fault on one side is excused. -/
inductive Ends (excused : Fault → Prop) (related : α → β → Prop) :
    Except Fault α → Except Fault β → Prop where
  | ok (results : related a b) : Ends excused related (.ok a) (.ok b)
  | error (fault : Fault) : Ends excused related (.error fault) (.error fault)
  | first (excuse : excused fault) : Ends excused related (.error fault) y
  | second (excuse : excused fault) : Ends excused related x (.error fault)

/-- The same questions in the same order and ends that go together, unless a fault is excused. -/
inductive Matches (excused : Fault → Prop) (related : α → β → Prop) :
    Traced α → Traced β → Prop where
  | ok (calls : List Call) (results : related a b) :
      Matches excused related ⟨calls, .ok a⟩ ⟨calls, .ok b⟩
  | error (calls : List Call) (fault : Fault) :
      Matches excused related ⟨calls, .error fault⟩ ⟨calls, .error fault⟩
  | first (calls : List Call) (excuse : excused fault) :
      Matches excused related ⟨calls, .error fault⟩ y
  | second (calls : List Call) (excuse : excused fault) :
      Matches excused related x ⟨calls, .error fault⟩

section
variable {excused : Fault → Prop} {related : α → β → Prop} {further : γ → δ → Prop}

theorem Ends.map {x : Except Fault α} {y : Except Fault β} {f : α → γ} {g : β → δ}
    (ends : Ends excused related x y) (step : ∀ a b, related a b → further (f a) (g b)) :
    Ends excused further (x.map f) (y.map g) := by
  cases ends with
  | ok results => exact .ok (step _ _ results)
  | error fault => exact .error fault
  | first excuse => exact .first excuse
  | second excuse => exact .second excuse

namespace Matches

theorem ofExcept {x : Except Fault α} {y : Except Fault β} (ends : Ends excused related x y) :
    Matches excused related (Traced.ofExcept x) (Traced.ofExcept y) := by
  cases ends with
  | ok results => exact .ok [] results
  | error fault => exact .error [] fault
  | first excuse => exact .first [] excuse
  | second excuse => exact .second [] excuse

theorem outcome {x : Traced α} {y : Traced β} (runs : Matches excused related x y) :
    Ends excused related x.outcome y.outcome := by
  cases runs with
  | ok calls results => exact .ok results
  | error calls fault => exact .error fault
  | first calls excuse => exact .first excuse
  | second calls excuse => exact .second excuse

theorem ask (call : Call) (answers : related a b) :
    Matches excused related (Traced.ask call a) (Traced.ask call b) :=
  .ok [call] answers

protected theorem pure (results : related a b) :
    Matches excused related (pure a : Traced α) (pure b : Traced β) :=
  .ok [] results

/-- A run matches itself. -/
protected theorem refl (x : Traced α) : Matches excused Eq x x := by
  obtain ⟨calls, ended⟩ := x
  cases ended with
  | ok a => exact .ok calls rfl
  | error fault => exact .error calls fault

/-- Where only equal results are related, matching runs are equal. -/
theorem eq {x y : Traced α} (runs : Matches Never Eq x y) : x = y := by
  cases runs with
  | ok calls same => rw [same]
  | error calls fault => rfl
  | first calls excuse | second calls excuse => exact excuse.elim

/-- The same questions may come before. -/
theorem after {x : Traced α} {y : Traced β} (runs : Matches excused related x y)
    (earlier : List Call) :
    Matches excused related ⟨earlier ++ x.calls, x.outcome⟩ ⟨earlier ++ y.calls, y.outcome⟩ := by
  cases runs with
  | ok calls results => exact .ok _ results
  | error calls fault => exact .error _ fault
  | first calls excuse => exact .first _ excuse
  | second calls excuse => exact .second _ excuse

/-- Steps that match on related results make longer runs that match. -/
protected theorem bind {x : Traced α} {y : Traced β} {f : α → Traced γ} {g : β → Traced δ}
    (runs : Matches excused related x y)
    (step : ∀ a b, related a b → Matches excused further (f a) (g b)) :
    Matches excused further (x >>= f) (y >>= g) := by
  cases runs with
  | ok calls results => exact (step _ _ results).after calls
  | error calls fault => exact .error calls fault
  | first calls excuse => exact .first calls excuse
  | second calls excuse => exact .second calls excuse

/-- Matching runs are equal as soon as every step behind them is. -/
theorem bind_eq {x : Traced α} {y : Traced β} {f : α → Traced γ} {g : β → Traced γ}
    (runs : Matches Never related x y) (step : ∀ a b, related a b → f a = g b) :
    x >>= f = y >>= g := by
  refine (runs.bind fun a b results => ?_).eq
  rw [step a b results]
  exact .refl (g b)

/-- A loop over one list, by what a single turn preserves. -/
theorem foldlM {f : α → ι → Traced α} {g : β → ι → Traced β} (items : List ι)
    (turn : ∀ a b item, related a b → Matches excused related (f a item) (g b item))
    (start : related a b) : Matches excused related (items.foldlM f a) (items.foldlM g b) := by
  induction items generalizing a b with
  | nil => exact .pure start
  | cons item rest ih =>
    rw [List.foldlM_cons, List.foldlM_cons]
    exact (turn a b item start).bind fun _ _ results => ih results

end Matches
end

variable {O P : Type}

/-- The same operators wait on related values. -/
def Stacks (related : Value O → Value P → Prop) (x : List Operator × List (Value O))
    (y : List Operator × List (Value P)) : Prop :=
  x.1 = y.1 ∧ List.Forall₂ related x.2 y.2

/-- Two evaluations at the same word. -/
structure Abreast (related : Value O → Value P → Prop) (state : Progress O) (state' : Progress P) :
    Prop where
  operators : state.operators = state'.operators
  values : List.Forall₂ related state.values state'.values
  dangling : state.dangling = state'.dangling
  afterAttribute : state.afterAttribute = state'.afterAttribute

variable [DecidableEq O] [DecidableEq P]

/-- Every word means related operands to two hosts, and every operator takes related operands to
ends that go together. -/
structure Parallel (excused : Fault → Prop) (related : Value O → Value P → Prop) (host : Host O)
    (host' : Host P) : Prop where
  operand : Abreast related state state' → ∀ word,
    related (Progress.operand host state word) (Progress.operand host' state' word)
  apply : values.length = Operator.arity op → List.Forall₂ related values values' →
    Ends excused related (op.apply host.toObjects values) (op.apply host'.toObjects values')

section
variable {excused : Fault → Prop} {related : Value O → Value P → Prop}
  {host : Host O} {host' : Host P} {state : Progress O} {state' : Progress P}

theorem applyTop_ends (parallel : Parallel excused related host host') (op : Operator)
    (waiting : List.Forall₂ related values values') :
    Ends excused (List.Forall₂ related) (applyTop host.toObjects op values)
      (applyTop host'.toObjects op values') := by
  simp only [applyTop, waiting.length_eq]
  split
  · exact .error _
  · have operands := List.forall₂_reverse_iff.2 (List.forall₂_take op.arity waiting)
    have count : (values.take op.arity).reverse.length = op.arity := by
      rw [List.length_reverse, List.length_take, waiting.length_eq]
      omega
    have kept := List.forall₂_drop op.arity waiting
    exact (parallel.apply count operands).map fun _ _ result => .cons result kept

/-- Both sides find the same operator on top, so they drain equally far. -/
theorem drain_ends (parallel : Parallel excused related host host') (due : Operator → Bool)
    (operators : List Operator) (waiting : List.Forall₂ related values values') :
    Ends excused (Stacks related) (drain host.toObjects due operators values)
      (drain host'.toObjects due operators values') := by
  induction operators generalizing values values' with
  | nil => exact .ok ⟨rfl, waiting⟩
  | cons op below ih =>
    simp only [drain]
    split
    · have reduced := applyTop_ends parallel op waiting
      generalize applyTop host.toObjects op values = outcome at reduced
      generalize applyTop host'.toObjects op values' = outcome' at reduced
      cases reduced with
      | ok results => exact ih results
      | error fault => exact .error fault
      | first excuse => exact .first excuse
      | second excuse => exact .second excuse
    · exact .ok ⟨rfl, waiting⟩

theorem operator_ends (parallel : Parallel excused related host host') (op : Operator)
    (abreast : Abreast related state state') :
    Ends excused (Abreast related) (state.operator host.toObjects op)
      (state'.operator host'.toObjects op) := by
  -- Either side drains its own operators, which are the same list.
  have drained := fun due => drain_ends parallel due state.operators abreast.values
  rw [abreast.operators] at drained
  cases op with
  | openParen =>
    exact .ok ⟨congrArg (Operator.openParen :: ·) abreast.operators, abreast.values, rfl, rfl⟩
  | closeParen =>
    simp only [Progress.operator, abreast.operators]
    exact (drained _).map fun _ _ waiting => ⟨congrArg (List.drop 1) waiting.1, waiting.2, rfl, rfl⟩
  | not | binary =>
    simp only [Progress.operator, abreast.operators]
    exact (drained _).map fun _ _ waiting => ⟨congrArg (_ :: ·) waiting.1, waiting.2, rfl, rfl⟩

/-- An operator is the same to both hosts, and an operand is one more value on either side. -/
theorem word_matches (parallel : Parallel excused related host host') (word : String)
    (abreast : Abreast related state state') :
    Matches excused (Abreast related) (state.word host word) (state'.word host' word) := by
  simp only [Progress.word]
  cases Operator.ofSymbol? word with
  | some op => exact .ofExcept (operator_ends parallel op abreast)
  | none =>
    have operand := parallel.operand abreast word
    exact .ask _ ⟨abreast.operators, .cons operand abreast.values, rfl, rfl⟩

theorem finish_ends (parallel : Parallel excused related host host')
    (abreast : Abreast related state state') :
    Ends excused related (state.finish host.toObjects) (state'.finish host'.toObjects) := by
  simp only [Progress.finish, abreast.dangling, abreast.operators]
  split
  · exact .error _
  · have drained := drain_ends parallel (fun _ => true) state'.operators abreast.values
    generalize drain host.toObjects _ _ _ = outcome at drained
    generalize drain host'.toObjects _ _ _ = outcome' at drained
    cases drained with
    | error fault => exact .error fault
    | first excuse => exact .first excuse
    | second excuse => exact .second excuse
    | @ok left right waiting =>
      obtain ⟨operators, values⟩ := left
      obtain ⟨operators', values'⟩ := right
      rcases waiting.2 with _ | ⟨value, _ | ⟨_, _⟩⟩
      · exact .error _
      · exact .ok value
      · exact .error _

/-- Two evaluations of the same words match: each word keeps them abreast. -/
theorem evaluate_matches (parallel : Parallel excused related host host') (words : List String) :
    Matches excused related (evaluate host words) (evaluate host' words) := by
  have start : Abreast related ({} : Progress O) ({} : Progress P) := ⟨rfl, .nil, rfl, rfl⟩
  have read := Matches.foldlM words (fun _ _ word => word_matches parallel word) start
  exact read.bind fun _ _ abreast => .ofExcept (finish_ends parallel abreast)

end

end ChatTemplate.TwoRuns
