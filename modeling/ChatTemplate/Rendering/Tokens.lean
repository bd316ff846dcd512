import ChatTemplate.Document.Lexer
import ChatTemplate.Expression.Evaluate
import ChatTemplate.Expression.Words

/-! Rendering the tokens of a template. Literal text shows as it stands and an exec block as the
value it names. Branches that follow one another form a chain, of which the first that holds is
selected; its body is read as a template of its own. A chain is open, or `armed`, from a branch
that does not hold until a branch is selected or something else than a branch comes. -/
namespace ChatTemplate

variable {O : Type} [DecidableEq O]

/-- Asks the host for the value of a token. -/
def Host.lookUp (host : Host O) (token : String) : Traced (Option (Value O)) :=
  .ask (.resolve token) (host.resolve? token)

/-- The value that an exec block names: with a colon, an attribute of an object, otherwise the value
of its text. An attribute that names nothing else is known by its own name. -/
def execValue (host : Host O) (text : String) : Traced (Option (Value O)) :=
  match Text.cutAt? ':' text.toList with
  | none => host.lookUp (Text.trimmed text)
  | some (before, after) => do
    let object ← host.lookUp (String.ofList (Text.trim before))
    let name := String.ofList (Text.trim after)
    let named ← host.lookUp name
    let value ← Traced.ofExcept
      (readAttribute host.toObjects (object.getD .null) (named.getD (.str name)))
    return some value

/-- A value shows itself. What names none is tried as a command, which shows nothing; what is no
command either shows its own text. -/
def renderExec (host : Host O) (text : String) : Traced String := do
  match ← execValue host text with
  | some value => return value.display host.toObjects
  | none => Traced.ask (.execute text) (if host.execute text then "" else text)

/-- Whether a condition holds. -/
def predicateHolds (host : Host O) (predicate : String) : Traced Bool :=
  Value.isTruthy <$> Expression.evaluate host (Expression.words predicate)

/-- What becomes of a branch. -/
inductive Selection where
  | selected
  /-- Its condition does not hold, so the next branch of the chain has its turn. -/
  | refused
  /-- Its chain has ended before it, so its condition is not looked at. -/
  | passed
deriving DecidableEq, Repr

/-- An `if` always has its turn, the other branches only in an armed chain. -/
def selectBranch (host : Host O) (armed : Bool) (kind : BranchKind) (predicate : Option String) :
    Traced Selection :=
  match kind, armed with
  | .ifBranch, _ | .elifBranch, true => do
    return if ← predicateHolds host (predicate.getD "") then .selected else .refused
  | .elseBranch, true => return .selected
  | .elifBranch, false | .elseBranch, false => return .passed

/-- Shows tokens one after another, selected bodies by means of `body`. -/
def renderTokens (host : Host O) (body : String → Traced String) :
    Bool → List Token → Traced String
  | _, [] => return ""
  | _, .raw text :: rest => do
    return text ++ (← renderTokens host body false rest)
  | _, .exec text :: rest => do
    let shown ← renderExec host text
    return shown ++ (← renderTokens host body false rest)
  | armed, .branch kind predicate source :: rest => do
    match ← selectBranch host armed kind predicate with
    | .selected =>
      let shown ← body source
      return shown ++ (← renderTokens host body false rest)
    | .refused => renderTokens host body true rest
    | .passed => renderTokens host body false rest

/-- Shows a body with so many `levels` left of the limit. -/
def renderBody (host : Host O) (limit : Nat) : Nat → String → Traced String
  | 0, _ => .fail (.nestedTooDeep limit)
  | levels + 1, source => do
    let tokens ← Traced.ofExcept (lex source)
    renderTokens host (renderBody host limit levels) false tokens

/-- Shows the tokens of a template whose bodies nest no deeper than the limit. -/
def interpret (host : Host O) (limit : Nat) (tokens : List Token) : Traced String :=
  renderTokens host (renderBody host limit limit) false tokens

end ChatTemplate
