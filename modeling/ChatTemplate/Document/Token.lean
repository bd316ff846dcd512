/-! The tokens of a template: literal text, branches of a conditional and exec blocks. Each token
has an instruction with a fixed code. -/
namespace ChatTemplate

/-- The three kinds of branches, each with its keyword. -/
inductive BranchKind where
  | ifBranch | elifBranch | elseBranch
deriving DecidableEq, Repr

def BranchKind.keyword : BranchKind → String
  | .ifBranch => "if"
  | .elifBranch => "elif"
  | .elseBranch => "else"

/-- The kind that a keyword names. Case matters. -/
def BranchKind.ofKeyword? (word : String) : Option BranchKind :=
  [ifBranch, elifBranch, elseBranch].find? (·.keyword == word)

theorem BranchKind.ofKeyword?_eq_some_iff {word : String} {kind : BranchKind} :
    ofKeyword? word = some kind ↔ kind.keyword = word := by
  constructor
  · intro found
    simpa using List.find?_some found
  · rintro rfl
    cases kind <;> decide

/-- One unit of a template. -/
inductive Token where
  /-- Text that is shown as it stands. -/
  | raw (text : String)
  /-- A branch with its condition and the template to show where it is selected. A branch that
  needs no condition has none. -/
  | branch (kind : BranchKind) (predicate : Option String) (body : String)
  /-- A name to show the value of, or a command to run. -/
  | exec (text : String)
deriving DecidableEq, Repr

/-- What a token asks for. -/
inductive Instruction where
  | raw | ifBranch | elifBranch | elseBranch | exec
deriving DecidableEq, Repr

namespace Instruction

/-- Codes never change their meaning. -/
def code : Instruction → Nat
  | .raw => 0
  | .ifBranch => 1
  | .elifBranch => 2
  | .elseBranch => 3
  | .exec => 4

def name : Instruction → String
  | .raw => "Raw"
  | .ifBranch => "If"
  | .elifBranch => "Elif"
  | .elseBranch => "Else"
  | .exec => "Exec"

/-- The instruction of a code. -/
def ofCode? (code : Nat) : Option Instruction :=
  [raw, ifBranch, elifBranch, elseBranch, exec].find? (·.code == code)

theorem ofCode?_eq_some_iff {code : Nat} {instruction : Instruction} :
    ofCode? code = some instruction ↔ instruction.code = code := by
  constructor
  · intro found
    simpa using List.find?_some found
  · rintro rfl
    cases instruction <;> decide

end Instruction

def Token.instruction : Token → Instruction
  | .raw _ => .raw
  | .branch .ifBranch _ _ => .ifBranch
  | .branch .elifBranch _ _ => .elifBranch
  | .branch .elseBranch _ _ => .elseBranch
  | .exec _ => .exec

end ChatTemplate
