import ChatTemplate.Fault

/-! Commands of a chat and the ways in which they fail. A command is known by its name; what it does
is its action, and a command that is not allowed is answered with a refusal instead. -/
namespace ChatTemplate.Chat

/-- Why a command itself failed. -/
inductive CommandFault where
  /-- The renderer that the command was made for has been replaced or dropped. -/
  | rendererGone
  /-- Custom commands start one another more often than the limit allows. -/
  | nestedTooDeep (limit : Nat)
  /-- The command's own report. -/
  | reported (message : String)
deriving DecidableEq, Repr

def CommandFault.message : CommandFault → String
  | .rendererGone => "runner is no longer available"
  | .nestedTooDeep limit => "custom commands nested deeper than " ++ Nat.repr limit ++ " levels"
  | .reported message => message

/-- Why something did not reach the chat. -/
inductive Failure where
  /-- Nobody receives the messages any more. -/
  | sendFailed
  | commandFailed (command : String) (fault : CommandFault)
  /-- The text of a custom command is no template, or its rendering failed. -/
  | malformed (fault : Fault)
deriving DecidableEq, Repr

/-- The name a report gives to a failure. -/
def Failure.kindName : Failure → String
  | .sendFailed => "SendFailed"
  | .commandFailed .. => "CommandFailed"
  | .malformed _ => "MalformedSyntax"

def Failure.message : Failure → String
  | .sendFailed => "Failed to send message: channel closed"
  | .commandFailed command fault => "Command " ++ command ++ " failed: " ++ fault.message
  | .malformed fault => "Malformed CommandLang syntax: " ++ fault.message

/-- What a command does. -/
inductive Action where
  /-- Shows a template, by means of the renderer of that number. -/
  | custom (text : String) (renderer : Nat)
  /-- Sends its name and its arguments. -/
  | echo
  | fail (message : String)
deriving DecidableEq, Repr

structure Command where
  name : String
  action : Action
  /-- The invoker may run the command. -/
  allowed : Bool := true
deriving DecidableEq, Repr

end ChatTemplate.Chat
