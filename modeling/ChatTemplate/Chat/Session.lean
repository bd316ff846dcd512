import ChatTemplate.Chat.Message
import ChatTemplate.Chat.Registry
import ChatTemplate.Rendering.Source

/-! A chat in which templates run commands. A rendering only hands commands off: they run after it,
first those of the rendering in their order, then those that these have handed off, and so on. A
custom command is itself a template, shown one level deeper than the message it answers; beyond
the limit it fails, so every cascade of commands ends. -/
namespace ChatTemplate.Chat

/-- A renderer in service. Custom commands remember its number. -/
structure Renderer where
  number : Nat
  config : Config
deriving DecidableEq, Repr

structure Session where
  registry : Registry := {}
  message : Message := .standard
  /-- Somebody receives the messages. -/
  outboxOpen : Bool := true
  renderer : Option Renderer := none
  /-- What commands handed off from outside of templates answer when they are not allowed. -/
  deniedMessage : String
  /-- The number of the next renderer. -/
  nextNumber : Nat := 0

/-- What the chat and its operator see of commands. -/
inductive Event where
  | sent (message : String)
  /-- A command failed after it had been handed off. -/
  | failed (command : String) (failure : Failure)
  /-- A refusal did not reach the chat. -/
  | unreported (command : String) (failure : Failure)
  /-- A command could not be handed off. -/
  | unscheduled (command : String)
deriving DecidableEq, Repr

/-- The text of a message that was sent. -/
def Event.sent? : Event → Option String
  | .sent message => some message
  | _ => none

/-- The text of a warning. -/
def Event.warning? : Event → Option String
  | .sent _ => none
  | .failed command failure => some ("Command " ++ command ++ " failed: " ++ failure.message)
  | .unreported command failure =>
    some ("Failed to report denied command " ++ command ++ ": " ++ failure.message)
  | .unscheduled command =>
    some ("Cannot schedule command " ++ command ++ ": there is no reactor running, must be called " ++
      "from the context of a Tokio 1.x runtime")

/-- A command that has been handed off. -/
structure Job where
  command : Command
  args : List String
  /-- What it answers when it is not allowed. -/
  deniedMessage : String
deriving DecidableEq, Repr

/-- One job that has run, what was seen of it and what it handed off. -/
structure JobRun where
  /-- How many custom commands had started one another before it. -/
  depth : Nat
  job : Job
  events : List Event
  started : List Job := []
deriving DecidableEq, Repr

/-- What an attempt leads to: how it ended, what was seen of it and what it handed off. -/
structure Attempt (α : Type) where
  outcome : Except Failure α
  events : List Event := []
  started : List Job := []

namespace Session

/-- A session with its first renderer. -/
def start (config : Config) (message : Message) : Session where
  message := message
  renderer := some ⟨0, config⟩
  deniedMessage := config.deniedMessage
  nextNumber := 1

/-- A new renderer takes the place of the one in service. -/
def replaceRenderer (session : Session) (config : Config) : Session :=
  { session with
    renderer := some ⟨session.nextNumber, config⟩
    deniedMessage := config.deniedMessage
    nextNumber := session.nextNumber + 1 }

/-- Takes the renderer out of service. -/
def dropRenderer (session : Session) : Session := { session with renderer := none }

/-- A new message arrives, with a receiver of its own. -/
def replaceMessage (session : Session) (message : Message) : Session :=
  { session with message := message, outboxOpen := true }

def closeOutbox (session : Session) : Session := { session with outboxOpen := false }

/-- A command line is taken if it names a command and commands can be scheduled. -/
def accepts (session : Session) (scheduling : Bool) (line : String) : Bool :=
  scheduling && (session.registry.commandLine? line).isSome

/-- The host of templates in the session. -/
def host (session : Session) (scheduling : Bool) : Host Place :=
  session.message.host (session.accepts scheduling)

/-- The commands that a rendering has handed off, in order. -/
def handedOff (session : Session) (deniedMessage : String) (calls : List Call) : List Job :=
  calls.filterMap fun
    | .resolve _ => none
    | .execute line => (session.registry.commandLine? line).map fun (command, args) =>
        ⟨command, args, deniedMessage⟩

/-- The commands that a rendering could not hand off. -/
def leftOut (session : Session) (calls : List Call) : List Event :=
  calls.filterMap fun
    | .resolve _ => none
    | .execute line => (session.registry.commandLine? line).map fun (command, _) =>
        .unscheduled command.name

/-- Sends a message, unless nobody receives it. -/
def send (session : Session) (message : String) : Attempt Unit :=
  if session.outboxOpen then { outcome := .ok (), events := [.sent message] }
  else { outcome := .error .sendFailed }

/-- The most levels of custom commands that start one another. -/
def limit (session : Session) : Nat :=
  match session.renderer with
  | some renderer => renderer.config.maxDepth
  | none => 0

/-- Shows the text of a custom command for a message that is `depth` custom commands deep. -/
def renderCustom (session : Session) (depth : Nat) (name text : String) (number : Nat) :
    Attempt String :=
  match session.renderer with
  | none => { outcome := .error (.commandFailed name .rendererGone) }
  | some renderer =>
    if renderer.number ≠ number then { outcome := .error (.commandFailed name .rendererGone) }
    else if renderer.config.maxDepth ≤ depth then
      { outcome := .error (.commandFailed name (.nestedTooDeep renderer.config.maxDepth)) }
    else
      let shown := render (session.host true) renderer.config text
      { outcome := match shown.outcome with
          | .ok out => .ok (Text.trimmed out)
          | .error fault => .error (.malformed fault)
        started := session.handedOff renderer.config.deniedMessage shown.calls }

/-- Runs a command, whether it is allowed or not. A custom command sends what it shows, if that is
anything, and pays no attention to its arguments. -/
def invoke (session : Session) (depth : Nat) (command : Command) (args : List String) :
    Attempt Unit :=
  match command.action with
  | .echo => session.send (command.name ++ ": " ++ " ".intercalate args)
  | .fail message => { outcome := .error (.commandFailed command.name (.reported message)) }
  | .custom text number =>
    let shown := session.renderCustom depth command.name text number
    match shown.outcome with
    | .error failure => { outcome := .error failure, started := shown.started }
    | .ok out =>
      if out = "" then { outcome := .ok (), started := shown.started }
      else { session.send out with started := shown.started }

/-- Runs a command that has been handed off. Whatever goes wrong becomes an event. -/
def runJob (session : Session) (depth : Nat) (job : Job) : JobRun :=
  let name := job.command.name
  if job.command.allowed then
    let attempt := session.invoke depth job.command job.args
    { depth := depth
      job := job
      events := match attempt.outcome with
        | .ok () => attempt.events
        | .error failure => attempt.events ++ [.failed name failure]
      started := attempt.started }
  else
    let attempt := session.send job.deniedMessage
    { depth := depth
      job := job
      events := match attempt.outcome with
        | .ok () => attempt.events
        | .error failure => attempt.events ++ [.unreported name failure] }

/-- The runs of jobs of one depth, followed by the runs of the jobs that these have handed off, and
so on until none is left. Jobs at the limit hand off nothing. -/
def cascade (session : Session) (depth : Nat) (jobs : List Job) : List JobRun :=
  let runs := jobs.map (session.runJob depth)
  let started := runs.flatMap (·.started)
  if depth < session.limit ∧ started ≠ [] then runs ++ session.cascade (depth + 1) started
  else runs
termination_by session.limit - depth

/-- What is seen of jobs and of all that follows from them. -/
def settle (session : Session) (depth : Nat) (jobs : List Job) : List Event :=
  (session.cascade depth jobs).flatMap (·.events)

/-- Shows a template with the given settings and then runs the commands it has handed off. -/
def run (session : Session) (config : Config) (depth : Nat) (scheduling : Bool) (source : String) :
    Except Fault String × List Event :=
  let shown := render (session.host scheduling) config source
  (shown.outcome,
    if scheduling then session.settle depth (session.handedOff config.deniedMessage shown.calls)
    else session.leftOut shown.calls)

/-- Shows a template with the renderer in service and runs what it has handed off. -/
def run? (session : Session) (depth : Nat) (scheduling : Bool) (source : String) :
    Option (Except Fault String × List Event) :=
  session.renderer.map fun renderer => session.run renderer.config depth scheduling source

/-- Hands off one command line and runs it. Tells whether it was taken. -/
def execute (session : Session) (depth : Nat) (scheduling : Bool) (line : String) :
    Bool × List Event :=
  let calls := [.execute line]
  (session.accepts scheduling line,
    if scheduling then session.settle depth (session.handedOff session.deniedMessage calls)
    else session.leftOut calls)

/-- Runs what an attempt has handed off, one level deeper than the attempt itself. -/
def finish (session : Session) (depth : Nat) (attempt : Attempt α) : Except Failure α × List Event :=
  (attempt.outcome, attempt.events ++ session.settle (depth + 1) attempt.started)

/-- Shows the text of a custom command made for the renderer in service, without sending it. -/
def show? (session : Session) (depth : Nat) (name text : String) :
    Option (Except Failure String × List Event) :=
  session.renderer.map fun renderer =>
    session.finish depth (session.renderCustom depth name text renderer.number)

/-- Runs a registered command directly and reports how it ended. -/
def invoke? (session : Session) (depth : Nat) (name : String) (args : List String) :
    Option (Except Failure Unit × List Event) :=
  (session.registry.get? name).map fun command =>
    session.finish depth (session.invoke depth command args)

/-- Runs a registered command if it is allowed and otherwise answers with the refusal. -/
def runChecked? (session : Session) (depth : Nat) (name : String) (args : List String)
    (deniedMessage : String) : Option (List Event) :=
  (session.registry.get? name).map fun command =>
    session.settle depth [⟨command, args, deniedMessage⟩]

/-- Registers a command, and gives back the one it displaces. -/
def register (session : Session) (command : Command) : Session × Option Command :=
  let (registry, displaced) := session.registry.register command
  ({ session with registry := registry }, displaced)

def unregister (session : Session) (name : String) : Session × Option Command :=
  let (registry, removed) := session.registry.unregister name
  ({ session with registry := registry }, removed)

/-- A custom command for the renderer in service. -/
def custom? (session : Session) (name text : String) : Option Command :=
  session.renderer.map fun renderer => { name := name, action := .custom text renderer.number }

end Session

end ChatTemplate.Chat
