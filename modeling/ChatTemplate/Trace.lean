import ChatTemplate.Fault

/-! Computations that can fail. Some leave a trace: the ordered list of the calls made so far together
with the outcome. A fault ends such a computation and keeps the calls made before it. What counts as a
call is up to the computation, so the calls are of any type. -/
namespace ChatTemplate

/-- Of two steps that succeed together each succeeds. -/
theorem ok_of_bind {x : Except ε α} {next : α → Except ε β}
    (ended : x >>= next = .ok result) : ∃ a, x = .ok a ∧ next a = .ok result := by
  cases x with
  | error fault => cases ended
  | ok a => exact ⟨a, rfl, ended⟩

theorem ok_of_map {x : Except ε α} {f : α → β} (ended : x.map f = .ok result) :
    ∃ a, x = .ok a ∧ f a = result := by
  cases x with
  | error fault => cases ended
  | ok a => exact ⟨a, rfl, Except.ok.inj ended⟩

/-- What was called, in order, and what came of it. -/
structure Trace (ι α : Type) where
  calls : List ι
  outcome : Except Fault α

namespace Trace

protected def pure (a : α) : Trace ι α := ⟨[], .ok a⟩

/-- The second computation starts only where the first has succeeded, and its calls come after. -/
protected def bind (x : Trace ι α) (next : α → Trace ι β) : Trace ι β :=
  match x.outcome with
  | .ok a => ⟨x.calls ++ (next a).calls, (next a).outcome⟩
  | .error fault => ⟨x.calls, .error fault⟩

instance : Monad (Trace ι) where
  pure := Trace.pure
  bind := Trace.bind

@[ext] theorem ext {x y : Trace ι α} (calls : x.calls = y.calls) (outcome : x.outcome = y.outcome) :
    x = y := by
  cases x; cases y; simp_all

@[simp] theorem pure_calls (a : α) : (pure a : Trace ι α).calls = [] := rfl

@[simp] theorem pure_outcome (a : α) : (pure a : Trace ι α).outcome = .ok a := rfl

theorem bind_outcome (x : Trace ι α) (next : α → Trace ι β) :
    (x >>= next).outcome = x.outcome >>= fun a => (next a).outcome := by
  cases ended : x.outcome <;> simp [bind, Trace.bind, Except.bind, ended]

theorem bind_ok {x : Trace ι α} (next : α → Trace ι β) (ok : x.outcome = .ok a) :
    x >>= next = ⟨x.calls ++ (next a).calls, (next a).outcome⟩ := by
  simp [bind, Trace.bind, ok]

theorem bind_error {x : Trace ι α} (next : α → Trace ι β) (failed : x.outcome = .error fault) :
    x >>= next = ⟨x.calls, .error fault⟩ := by
  simp [bind, Trace.bind, failed]

theorem ok_of_bind {x : Trace ι α} {next : α → Trace ι β}
    (ended : (x >>= next).outcome = .ok b) :
    ∃ a, x.outcome = .ok a ∧ (next a).outcome = .ok b :=
  ChatTemplate.ok_of_bind ((bind_outcome x next).symm.trans ended)

/-- A call of two steps is one of the first, or one of the second behind what the first has given. -/
theorem call_of_bind {x : Trace ι α} {next : α → Trace ι β} (member : call ∈ (x >>= next).calls) :
    call ∈ x.calls ∨ ∃ a, x.outcome = .ok a ∧ call ∈ (next a).calls := by
  cases ended : x.outcome with
  | error fault =>
    rw [bind_error next ended] at member
    exact .inl member
  | ok a =>
    rw [bind_ok next ended] at member
    exact (List.mem_append.mp member).imp_right fun later => ⟨a, rfl, later⟩

private theorem bind_assoc (x : Trace ι α) (f : α → Trace ι β) (g : β → Trace ι γ) :
    x >>= f >>= g = x >>= fun a => f a >>= g := by
  cases first : x.outcome with
  | error fault => simp [bind, Trace.bind, first]
  | ok a =>
    cases second : (f a).outcome with
    | error fault => simp [bind, Trace.bind, first, second]
    | ok b => simp [bind, Trace.bind, first, second]

private theorem bind_pure (x : Trace ι α) : x >>= pure = x := by
  cases ended : x.outcome <;> ext1 <;> simp [bind, Trace.bind, pure, Trace.pure, ended]

instance : LawfulMonad (Trace ι) := LawfulMonad.mk' (Trace ι)
  (fun x => bind_pure x)
  (fun a f => by ext1 <;> simp [bind, Trace.bind, pure, Trace.pure])
  bind_assoc

/-- What is done with the result makes no further call. -/
@[simp] theorem map_calls (f : α → β) (x : Trace ι α) : (f <$> x).calls = x.calls := by
  rw [map_eq_pure_bind]
  cases ended : x.outcome with
  | error fault => rw [bind_error _ ended]
  | ok a => simp [bind_ok _ ended]

end Trace

end ChatTemplate
