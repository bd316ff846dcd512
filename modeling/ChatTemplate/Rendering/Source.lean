import ChatTemplate.Config
import ChatTemplate.Rendering.Tokens

/-! From the text of a template to the text it shows. On the fast path a text without the opening of
a block is shown as it stands, its backslashes and brackets included. -/
namespace ChatTemplate

/-- Holds where an exec block or one of the three branches opens. -/
def opensHere (text : List Char) : Bool :=
  ['{'].isPrefixOf text ||
    [BranchKind.ifBranch, .elifBranch, .elseBranch].any fun kind =>
      [' ', ']'].any fun ending => ('[' :: kind.keyword.toList ++ [ending]).isPrefixOf text

/-- Whether a block opens anywhere in a text. -/
def hasOpening : List Char → Bool
  | [] => false
  | c :: rest => opensHere (c :: rest) || hasOpening rest

/-- The full way: tokens first, then what they show. -/
def renderFully {O : Type} [DecidableEq O] (host : Host O) (limit : Nat) (source : String) :
    Traced String := do
  interpret host limit (← Traced.ofExcept (lex source))

/-- What a template shows. -/
def render {O : Type} [DecidableEq O] (host : Host O) (config : Config) (source : String) :
    Traced String :=
  if config.fastPath && !hasOpening source.toList then return source
  else renderFully host config.maxDepth source

end ChatTemplate
