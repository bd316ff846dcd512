import ChatTemplate.Chat.Session
import ChatTemplate.CommandLine.Options
import ChatTemplate.Json.Reading

/-! What the command line prints and how it exits. The settings come first, then the text, then the
message, then the rendering; the first of them that fails is reported and nothing else is printed.
Without a message the template is rendered for no context; with one, the messages that its commands
send follow the text. -/
namespace ChatTemplate.CommandLine

/-- Why a file has no text. -/
inductive FileFault where
  | notFound | notADirectory | isADirectory | notText
deriving DecidableEq, Repr

def FileFault.message : FileFault → String
  | .notFound => "No such file or directory (os error 2)"
  | .notADirectory => "Not a directory (os error 20)"
  | .isADirectory => "Is a directory (os error 21)"
  | .notText => "stream did not contain valid UTF-8"

/-- The files that the command line can see, by name. -/
abbrev Files := String → Except FileFault String

/-- What can fail once the arguments are in order. -/
inductive Problem where
  | noSource
  | unreadable (fault : FileFault)
  /-- A JSON file cannot be opened. -/
  | unopened (fault : FileFault)
  /-- A JSON file is not what it should be. -/
  | unparsed
  | faulty (fault : Fault)
deriving DecidableEq, Repr

def Problem.message : Problem → String
  | .noSource => "either a source file or --text is required"
  | .unreadable fault => "Failed to read source: " ++ fault.message
  | .unopened fault => "Failed to open config file: " ++ fault.message
  | .unparsed => "Failed to parse config: not the expected document"
  | .faulty fault => fault.kind.name ++ ": " ++ fault.message

/-- A JSON file. What opens but has no text is no document. -/
def loadJson (files : Files) (name : String) (read : Json → Option α) : Except Problem α :=
  match files name with
  | .ok text =>
    match (Json.ofText? text).bind read with
    | some found => .ok found
    | none => .error .unparsed
  | .error .isADirectory | .error .notText => .error .unparsed
  | .error fault => .error (.unopened fault)

/-- A file that is there. -/
def present (files : Files) (name : String) : Bool :=
  match files name with
  | .error .notFound | .error .notADirectory => false
  | _ => true

/-- The file of the settings where no other is named. -/
def standardConfigName : String := "talos.json"

/-- The settings, which are the standard ones if their file is not there. -/
def loadConfig (files : Files) (options : Options) : Except Problem Config :=
  let name := options.config.getD standardConfigName
  if present files name then loadJson files name Config.ofJson? else .ok {}

def loadSource (files : Files) (options : Options) : Except Problem String :=
  match options.text, options.source with
  | some text, _ => .ok text
  | none, some name => (files name).mapError .unreadable
  | none, none => .error .noSource

/-- A session in which the given custom commands are registered, later ones over earlier ones of
the same name. -/
def sessionWith (config : Config) (message : Chat.Message) (commands : List (String × String)) :
    Chat.Session :=
  commands.foldl (fun session (name, text) =>
    match session.custom? name text with
    | some command => (session.register command).1
    | none => session) (.start config message)

/-- The lines to print. -/
def lines (files : Files) (options : Options) : Except Problem (List String) := do
  let config ← loadConfig files options
  let source ← loadSource files options
  match options.context with
  | none =>
    let out ← (render (contextFree noObjects) config source).outcome.mapError .faulty
    return [out]
  | some name =>
    let message ← loadJson files name Chat.Message.ofJson?
    let session := sessionWith config message options.commands
    let (outcome, events) := session.run config 0 true source
    let out ← outcome.mapError .faulty
    return out :: (events.filterMap (·.sent?)).map ("[sent] " ++ ·)

structure Outcome where
  code : Nat
  output : String := ""
  errors : String := ""
deriving DecidableEq, Repr

/-- What the options lead to. -/
def outcome (files : Files) (options : Options) : Outcome :=
  match lines files options with
  | .ok printed => { code := 0, output := String.join (printed.map (· ++ "\n")) }
  | .error problem => { code := 1, errors := "Error: " ++ problem.message ++ "\n" }

/-- How to call the program. -/
def usage : String :=
  "Usage: chat-template [OPTIONS] [SOURCE]\n\n" ++
  "  SOURCE                    file to render\n" ++
  "  -t, --text TEXT           render this text instead of a file\n" ++
  "  -x, --context FILE        message that triggers the template, as JSON\n" ++
  "  -c, --config FILE         settings, as JSON\n" ++
  "      --command NAME=TEXT   custom command for exec blocks\n" ++
  "      --wait-ms N           how long to wait for messages\n" ++
  "  -v, --verbose             more output\n"

/-- What the arguments lead to. -/
def run (files : Files) (args : List String) : Outcome :=
  match Options.ofArguments args with
  | .ok options => outcome files options
  | .error .misuse => { code := 2, errors := usage }
  | .error .help => { code := 0, output := usage }
  | .error .version => { code := 0, output := "chat-template 1.0\n" }

end ChatTemplate.CommandLine
