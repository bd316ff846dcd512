import ChatTemplate.Decimal.Reading
import ChatTemplate.Text.Blank

/-! The arguments of the command line. Options that take a value have it attached, after `=` or as
the next argument, which then must not look like an option itself; options of one letter can be
joined; after `--` every argument is the source. Only `--command` can be given more than once. -/
namespace ChatTemplate.CommandLine

structure Options where
  /-- The file to render. -/
  source : Option String := none
  /-- The text to render instead. -/
  text : Option String := none
  /-- The file that describes the message; without one, nothing triggers the template. -/
  context : Option String := none
  config : Option String := none
  /-- Custom commands by name, in the order given. -/
  commands : List (String × String) := []
  /-- How long to wait for messages. -/
  waitMs : Option Nat := none
  verbose : Bool := false
deriving DecidableEq, Repr

/-- Why there is nothing to render. -/
inductive Refusal where
  | help | version | misuse
deriving DecidableEq, Repr

/-- The options that take a value. -/
inductive Valued where
  | text | context | config | command | waitMs
deriving DecidableEq, Repr

/-- A number of at most 64 bits, with or without a plus sign. -/
def readCount? (text : String) : Option Nat :=
  let digits := match text.toList with
    | '+' :: rest => rest
    | all => all
  if !digits.isEmpty && digits.all Char.isDigit && Decimal.number digits < UInt64.size then
    some (Decimal.number digits)
  else none

/-- A name that is not blank, an equals sign and the text of the command. -/
def readCommand? (text : String) : Option (String × String) :=
  match Text.cutAt? '=' text.toList with
  | some (name, body) =>
    if name.all Text.isBlank then none
    else some (String.ofList (Text.trim name), String.ofList body)
  | none => none

/-- Sets a field that is still free. -/
def once (free : Option α) (value : Option α) (set : α → Options) : Except Refusal Options :=
  match free, value with
  | none, some a => .ok (set a)
  | _, _ => .error .misuse

/-- A file name, which is never empty. -/
def fileName? (text : String) : Option String := if text = "" then none else some text

/-- Takes one option with its value. -/
def Options.take (options : Options) (option : Valued) (value : String) :
    Except Refusal Options :=
  match option with
  | .text => once options.text (some value) fun text => { options with text := some text }
  | .context =>
    once options.context (fileName? value) fun name => { options with context := some name }
  | .config =>
    once options.config (fileName? value) fun name => { options with config := some name }
  | .waitMs =>
    once options.waitMs (readCount? value) fun count => { options with waitMs := some count }
  | .command =>
    match readCommand? value with
    | some command => .ok { options with commands := options.commands ++ [command] }
    | none => .error .misuse

def Options.takeSource (options : Options) (value : String) : Except Refusal Options :=
  once options.source (fileName? value) fun name => { options with source := some name }

def Options.takeVerbose (options : Options) : Except Refusal Options :=
  if options.verbose then .error .misuse else .ok { options with verbose := true }

def Valued.ofName? : String → Option Valued
  | "text" => some .text
  | "context" => some .context
  | "config" => some .config
  | "command" => some .command
  | "wait-ms" => some .waitMs
  | _ => none

def Valued.ofLetter? : Char → Option Valued
  | 't' => some .text
  | 'x' => some .context
  | 'c' => some .config
  | _ => none

/-- An option may be taken whole or wait for its value. -/
structure Taken where
  options : Options
  waiting : Option Valued := none

/-- Takes joined options of one letter. The first that takes a value has all that follows it. -/
def takeLetters (options : Options) : List Char → Except Refusal Taken
  | [] => .ok { options := options }
  | 'v' :: rest => do takeLetters (← options.takeVerbose) rest
  | 'h' :: _ => .error .help
  | 'V' :: _ => .error .version
  | letter :: rest =>
    match Valued.ofLetter? letter, rest with
    | none, _ => .error .misuse
    | some option, [] => .ok { options := options, waiting := some option }
    | some option, '=' :: value => do
      return { options := ← options.take option (String.ofList value) }
    | some option, value => do return { options := ← options.take option (String.ofList value) }

/-- Takes an option by its long name, with or without an attached value. -/
def takeLong (options : Options) (written : List Char) : Except Refusal Taken :=
  match Text.cutAt? '=' written with
  | some (name, value) =>
    match Valued.ofName? (String.ofList name) with
    | some option => do return { options := ← options.take option (String.ofList value) }
    | none => .error .misuse
  | none =>
    match String.ofList written with
    | "verbose" => do return { options := ← options.takeVerbose }
    | "help" => .error .help
    | "version" => .error .version
    | name =>
      match Valued.ofName? name with
      | some option => .ok { options := options, waiting := some option }
      | none => .error .misuse

/-- What an argument is by its first characters. -/
inductive Argument where
  | separator
  | long (written : List Char)
  | letters (written : List Char)
  | plain (value : String)

/-- A single dash is a plain argument. -/
def Argument.of (arg : String) : Argument :=
  match arg.toList with
  | ['-', '-'] => .separator
  | '-' :: '-' :: written => .long written
  | '-' :: c :: rest => .letters (c :: rest)
  | _ => .plain arg

/-- Reads arguments one after another; `waiting` is an option that still needs its value, and
`ended` tells that the separator has come. -/
def readFrom (options : Options) (waiting : Option Valued) (ended : Bool) :
    List String → Except Refusal Options
  | [] => if waiting.isSome then .error .misuse else .ok options
  | arg :: rest =>
    if ended then do readFrom (← options.takeSource arg) none true rest
    else
      match waiting, Argument.of arg with
      | some option, .plain value => do readFrom (← options.take option value) none false rest
      | some _, _ => .error .misuse
      | none, .plain value => do readFrom (← options.takeSource value) none false rest
      | none, .separator => readFrom options none true rest
      | none, .long written => do
        let taken ← takeLong options written
        readFrom taken.options taken.waiting false rest
      | none, .letters written => do
        let taken ← takeLetters options written
        readFrom taken.options taken.waiting false rest

/-- The options that arguments give. A text and a source exclude each other. -/
def Options.ofArguments (args : List String) : Except Refusal Options := do
  let options ← readFrom {} none false args
  if options.text.isSome && options.source.isSome then .error .misuse else return options

end ChatTemplate.CommandLine
