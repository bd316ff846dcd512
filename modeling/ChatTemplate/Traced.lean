import ChatTemplate.Trace

/-! Computations that ask the host. The list of their calls is part of the answer: it says which names
were looked up and which commands were tried. -/
namespace ChatTemplate

/-- One question to the host. -/
inductive Call where
  /-- What does this token mean? -/
  | resolve (token : String)
  /-- Is this text a command to run? -/
  | execute (text : String)
deriving DecidableEq, Repr

abbrev Traced : Type → Type := Trace Call

namespace Traced

/-- A fault without a call. -/
def fail (fault : Fault) : Traced α := ⟨[], .error fault⟩

/-- An outcome without a call. -/
def ofExcept (outcome : Except Fault α) : Traced α := ⟨[], outcome⟩

/-- One call and its answer. -/
def ask (call : Call) (answer : α) : Traced α := ⟨[call], .ok answer⟩

/-- The tokens looked up, in order. -/
def resolved (x : Traced α) : List String :=
  x.calls.filterMap fun
    | .resolve token => some token
    | .execute _ => none

/-- The texts tried as commands, in order. -/
def executed (x : Traced α) : List String :=
  x.calls.filterMap fun
    | .resolve _ => none
    | .execute text => some text

@[simp] theorem ofExcept_ok (a : α) : ofExcept (.ok a) = pure a := rfl

/-- Steps that make no call fail as a whole where the first of them fails. -/
theorem ofExcept_bind (x : Except Fault α) (next : α → Except Fault β) :
    ofExcept (x >>= next) = ofExcept x >>= fun a => ofExcept (next a) := by
  cases x <;> rfl

end Traced

end ChatTemplate
