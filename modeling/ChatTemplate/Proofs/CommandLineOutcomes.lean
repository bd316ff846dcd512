import Mathlib.Data.List.Induction
import ChatTemplate.CommandLine.Outcome
import ChatTemplate.Proofs.CommandArguments
import ChatTemplate.Proofs.RegistryHistory
import ChatTemplate.Proofs.RegistryUse

/-! How a call of the program ends. It has four stages: the settings, the text, the message and the
rendering. The first stage that fails is reported as the only output, and where none fails the output
is what the renderer shows for that text and what its commands send. -/
namespace ChatTemplate.CommandLineOutcomes
open CommandLine Chat CommandArguments RegistryUse
open RegistryHistory (Request StandsFor agrees_nil agrees_reply)

/-- The arguments are in order and do not ask for more output. -/
def Asks (args : List String) (options : Options) : Prop :=
  Options.ofArguments args = .ok options ∧ options.verbose = false

/-- There is no such file. -/
def Absent (files : Files) (name : String) : Prop :=
  files name = .error .notFound ∨ files name = .error .notADirectory

/-- What reading a JSON file gives. A directory opens, and so does a file that is not text. -/
inductive Holds (files : Files) (name : String) (read : Json → Option α) :
    Except Problem α → Prop where
  | document (opens : files name = .ok text) (json : Json.ofText? text = some document)
      (fits : read document = some found) : Holds files name read (.ok found)
  | noJson (opens : files name = .ok text) (noJson : Json.ofText? text = none) :
      Holds files name read (.error .unparsed)
  | misfit (opens : files name = .ok text) (json : Json.ofText? text = some document)
      (misfit : read document = none) : Holds files name read (.error .unparsed)
  | noText (opens : files name = .error .isADirectory ∨ files name = .error .notText) :
      Holds files name read (.error .unparsed)
  | unopened (absent : Absent files name) (closed : files name = .error fault) :
      Holds files name read (.error (.unopened fault))

/-- The settings are those of their file, if it is there. -/
inductive Settles (files : Files) (options : Options) : Except Problem Config → Prop where
  | standard (absent : Absent files (options.config.getD standardConfigName)) :
      Settles files options (.ok {})
  | file (present : ¬ Absent files (options.config.getD standardConfigName))
      (holds : Holds files (options.config.getD standardConfigName) Config.ofJson? settled) :
      Settles files options settled

/-- The text is given as such or as a file. -/
inductive Finds (files : Files) (options : Options) : Except Problem String → Prop where
  | given (given : options.text = some text) : Finds files options (.ok text)
  | file (ungiven : options.text = none) (named : options.source = some name)
      (opens : files name = .ok text) : Finds files options (.ok text)
  | unreadable (ungiven : options.text = none) (named : options.source = some name)
      (fails : files name = .error fault) : Finds files options (.error (.unreadable fault))
  | nothing (ungiven : options.text = none) (unnamed : options.source = none) :
      Finds files options (.error .noSource)

/-- The message, if there is to be one. -/
inductive Describes (files : Files) (options : Options) : Except Problem (Option Message) → Prop where
  | none (unnamed : options.context = none) : Describes files options (.ok none)
  | file (named : options.context = some name) (holds : Holds files name Message.ofJson? found) :
      Describes files options (found.map some)

/-- The commands come in one after the other, each for the first renderer. -/
def registrations (commands : List (String × String)) : List Request :=
  commands.map fun (name, text) => .register { name := name, action := .custom text 0 }

/-- A chat with that message and those settings, in which a name stands for the custom command that
came in last under it. -/
structure Serves (config : Config) (message : Message) (commands : List (String × String))
    (session : Session) : Prop where
  renderer : session.renderer = some ⟨0, config⟩
  message : session.message = message
  outboxOpen : session.outboxOpen = true
  commands : ∀ name, StandsFor (registrations commands) name (session.registry.get? name)

/-- What the renderer shows and which messages its commands send. Without a message there are no
commands. -/
inductive Shows (config : Config) (commands : List (String × String)) (source : String) :
    Option Message → Except Fault String → List String → Prop where
  | plain : Shows config commands source none (render (contextFree noObjects) config source).outcome []
  | chat (serves : Serves config message commands session)
      (run : session.run? 0 true source = some (shown, events)) :
      Shows config commands source (some message) shown (events.filterMap Event.sent?)

def failure (problem : Problem) : Outcome :=
  { code := 1, output := "", errors := "Error: " ++ problem.message ++ "\n" }

def success (text : String) (messages : List String) : Outcome where
  code := 0
  output := text ++ "\n" ++ String.join (messages.map fun message => "[sent] " ++ message ++ "\n")
  errors := ""

/-- A call ends with the first stage that fails, or with what the rendering shows. -/
inductive Ends (files : Files) (options : Options) : Outcome → Prop where
  | settings (settles : Settles files options (.error problem)) :
      Ends files options (failure problem)
  | text (settles : Settles files options (.ok config))
      (finds : Finds files options (.error problem)) : Ends files options (failure problem)
  | message (settles : Settles files options (.ok config)) (finds : Finds files options (.ok source))
      (describes : Describes files options (.error problem)) : Ends files options (failure problem)
  | rendering (settles : Settles files options (.ok config))
      (finds : Finds files options (.ok source)) (describes : Describes files options (.ok message))
      (shows : Shows config options.commands source message (.error fault) messages) :
      Ends files options (failure (.faulty fault))
  | shown (settles : Settles files options (.ok config)) (finds : Finds files options (.ok source))
      (describes : Describes files options (.ok message))
      (shows : Shows config options.commands source message (.ok text) messages) :
      Ends files options (success text messages)

/-! ### Stage by stage -/

theorem holds_iff {read : Json → Option α} {result : Except Problem α} :
    Holds files name read result ↔ loadJson files name read = result := by
  constructor
  · intro holds
    cases holds with
    | document opens json fits => simp [loadJson, opens, json, fits]
    | noJson opens noJson => simp [loadJson, opens, noJson]
    | misfit opens json misfit => simp [loadJson, opens, json, misfit]
    | noText opens => rcases opens with opens | opens <;> simp [loadJson, opens]
    | unopened absent closed =>
      rw [Absent, closed] at absent
      rcases absent with ⟨⟨⟩⟩ | ⟨⟨⟩⟩ <;> simp [loadJson, closed]
  · rintro rfl
    unfold loadJson
    split
    · next text opens =>
      split
      · next found fits =>
        obtain ⟨document, json, fits⟩ := Option.bind_eq_some_iff.mp fits
        exact .document opens json fits
      · next unfit =>
        cases json : Json.ofText? text with
        | none => exact .noJson opens json
        | some document => exact .misfit opens json (by simpa [json] using unfit)
    · next opens => exact .noText (.inl opens)
    · next opens => exact .noText (.inr opens)
    · next fault directory noText closed =>
      refine .unopened ?_ closed
      cases fault with
      | notFound => exact .inl closed
      | notADirectory => exact .inr closed
      | isADirectory => exact absurd rfl directory
      | notText => exact absurd rfl noText

theorem present_iff : present files name = true ↔ ¬ Absent files name := by
  unfold present Absent
  split <;> simp_all

theorem settles_iff : Settles files options settled ↔ loadConfig files options = settled := by
  by_cases there : present files (options.config.getD standardConfigName) = true
  · have load : loadConfig files options =
        loadJson files (options.config.getD standardConfigName) Config.ofJson? := if_pos there
    rw [load, ← holds_iff]
    constructor
    · rintro (absent | ⟨-, holds⟩)
      · exact absurd absent (present_iff.mp there)
      · exact holds
    · exact .file (present_iff.mp there)
  · have load : loadConfig files options = .ok {} := if_neg there
    have absent := not_not.mp (mt present_iff.mpr there)
    rw [load]
    constructor
    · rintro (- | ⟨present, -⟩)
      · rfl
      · exact absurd absent present
    · rintro rfl
      exact .standard absent

theorem finds_iff : Finds files options found ↔ loadSource files options = found := by
  constructor
  · intro finds
    cases finds with
    | given given => simp [loadSource, given]
    | file ungiven named opens => simp [loadSource, ungiven, named, opens, Except.mapError]
    | unreadable ungiven named fails => simp [loadSource, ungiven, named, fails, Except.mapError]
    | nothing ungiven unnamed => simp [loadSource, ungiven, unnamed]
  · rintro rfl
    unfold loadSource
    split
    · next given => exact .given given
    · next name ungiven named =>
      cases opens : files name with
      | ok text => exact .file ungiven named opens
      | error fault => exact .unreadable ungiven named opens
    · next ungiven unnamed => exact .nothing ungiven unnamed

/-- The message of a call, if it needs one. -/
def loadMessage (files : Files) (options : Options) : Except Problem (Option Message) :=
  match options.context with
  | none => .ok none
  | some name => (loadJson files name Message.ofJson?).map some

theorem describes_iff : Describes files options described ↔ loadMessage files options = described := by
  cases named : options.context with
  | none =>
    have load : loadMessage files options = .ok none := by rw [loadMessage, named]
    rw [load]
    constructor
    · rintro (- | ⟨other, -⟩)
      · rfl
      · cases named.symm.trans other
    · rintro rfl
      exact .none named
  | some name =>
    have load : loadMessage files options = (loadJson files name Message.ofJson?).map some := by
      rw [loadMessage, named]
    rw [load]
    constructor
    · rintro (other | ⟨same, holds⟩)
      · cases named.symm.trans other
      · obtain rfl := Option.some.inj (named.symm.trans same)
        rw [holds_iff.mp holds]
    · rintro rfl
      exact .file named (holds_iff.mpr rfl)

/-- One more command displaces those that came in before it under the same name. -/
theorem serves_register (serves : Serves config message commands session) (name text : String) :
    ∃ command, session.custom? name text = some command ∧
      Serves config message (commands ++ [(name, text)]) (session.register command).1 := by
  refine ⟨{ name := name, action := .custom text 0 }, ?_, serves.renderer, serves.message,
    serves.outboxOpen, ?_⟩
  · rw [Session.custom?, serves.renderer]
    rfl
  · rw [registrations, List.map_append]
    exact agrees_reply serves.commands (.register { name := name, action := .custom text 0 })

theorem sessionWith_append (config : Config) (message : Message) (commands : List (String × String))
    (name text : String) :
    sessionWith config message (commands ++ [(name, text)]) =
      match (sessionWith config message commands).custom? name text with
      | some command => ((sessionWith config message commands).register command).1
      | none => sessionWith config message commands := by
  rw [sessionWith, List.foldl_append]
  rfl

theorem serves_sessionWith (config : Config) (message : Message) (commands : List (String × String)) :
    Serves config message commands (sessionWith config message commands) := by
  induction commands using List.reverseRecOn with
  | nil => exact ⟨rfl, rfl, rfl, agrees_nil⟩
  | append_singleton commands command ih =>
    obtain ⟨made, custom, serves⟩ := serves_register ih command.1 command.2
    rw [sessionWith_append, custom]
    exact serves

/-- What a name stands for is settled, so nothing else about the registry shows. -/
theorem sameCommands_of_serves (first : Serves config message commands one)
    (second : Serves config message commands other) : SameCommands one other where
  renderer := first.renderer.trans second.renderer.symm
  message := first.message.trans second.message.symm
  outboxOpen := first.outboxOpen.trans second.outboxOpen.symm
  commands name := Option.ext fun command =>
    (first.commands name command).trans (second.commands name command).symm

/-- What a call shows and sends once its stages have succeeded. -/
def display (config : Config) (commands : List (String × String)) (source : String) :
    Option Message → Except Fault String × List String
  | none => ((render (contextFree noObjects) config source).outcome, [])
  | some message =>
    let (shown, events) := (sessionWith config message commands).run config 0 true source
    (shown, events.filterMap Event.sent?)

theorem shows_iff : Shows config commands source message shown messages ↔
    display config commands source message = (shown, messages) := by
  cases message with
  | none =>
    constructor
    · rintro ⟨⟩
      rfl
    · rintro ⟨⟩
      exact .plain
  | some message =>
    have serves := serves_sessionWith config message commands
    have runs : (sessionWith config message commands).run? 0 true source =
        some ((sessionWith config message commands).run config 0 true source) := by
      rw [Session.run?, serves.renderer]
      rfl
    constructor
    · rintro (- | ⟨others, run⟩)
      rw [run?_sameCommands (sameCommands_of_serves others serves), runs] at run
      rw [display, Option.some.inj run]
    · rintro ⟨⟩
      exact .chat serves runs

theorem join_lines (text : String) (messages : List String) :
    String.join ((text :: messages.map ("[sent] " ++ ·)).map (· ++ "\n")) =
      text ++ "\n" ++ String.join (messages.map fun message => "[sent] " ++ message ++ "\n") := by
  rw [List.map_cons, String.join_cons, List.map_map]
  rfl

/-- How a call ends whose text has been rendered. -/
def close (shown : Except Fault String) (messages : List String) : Outcome :=
  match shown with
  | .error fault => failure (.faulty fault)
  | .ok text => success text messages

theorem close_eq (shown : Except Fault String) (messages : List String) :
    (match (do
        let text ← shown.mapError Problem.faulty
        return text :: messages.map ("[sent] " ++ ·) : Except Problem (List String)) with
      | .ok printed => { code := 0, output := String.join (printed.map (· ++ "\n")) }
      | .error problem => { code := 1, errors := "Error: " ++ problem.message ++ "\n" }) =
    close shown messages := by
  cases shown with
  | error fault => rfl
  | ok text => exact congrArg (Outcome.mk 0 · "") (join_lines text messages)

/-- The stages come one after the other, and nothing is printed before the last. -/
theorem outcome_eq (files : Files) (options : Options) : outcome files options =
    match loadConfig files options with
    | .error problem => failure problem
    | .ok config =>
      match loadSource files options with
      | .error problem => failure problem
      | .ok source =>
        match loadMessage files options with
        | .error problem => failure problem
        | .ok message =>
          close (display config options.commands source message).1
            (display config options.commands source message).2 := by
  unfold outcome lines
  cases loadConfig files options with
  | error problem => rfl
  | ok config =>
    cases loadSource files options with
    | error problem => rfl
    | ok source =>
      unfold loadMessage
      cases options.context with
      | none => exact close_eq _ []
      | some name =>
        dsimp only
        cases loadJson files name Message.ofJson? with
        | error problem => rfl
        | ok message => exact close_eq _ _

theorem ends_iff : Ends files options ended ↔ outcome files options = ended := by
  rw [outcome_eq]
  constructor
  · intro ends
    cases ends with
    | settings settles => simp only [settles_iff.mp settles]
    | text settles finds => simp only [settles_iff.mp settles, finds_iff.mp finds]
    | message settles finds describes =>
      simp only [settles_iff.mp settles, finds_iff.mp finds, describes_iff.mp describes]
    | rendering settles finds describes shows | shown settles finds describes shows =>
      simp only [settles_iff.mp settles, finds_iff.mp finds, describes_iff.mp describes,
        shows_iff.mp shows, close]
  · rintro rfl
    split
    · next problem settles => exact .settings (settles_iff.mpr settles)
    · next config settles =>
      split
      · next problem finds => exact .text (settles_iff.mpr settles) (finds_iff.mpr finds)
      · next source finds =>
        split
        · next problem describes =>
          exact .message (settles_iff.mpr settles) (finds_iff.mpr finds) (describes_iff.mpr describes)
        · next message describes =>
          have shows := shows_iff.mpr (Eq.refl (display config options.commands source message))
          unfold close
          split
          · next fault failed =>
            exact .rendering (settles_iff.mpr settles) (finds_iff.mpr finds)
              (describes_iff.mpr describes) (failed ▸ shows)
          · next text shown =>
            exact .shown (settles_iff.mpr settles) (finds_iff.mpr finds)
              (describes_iff.mpr describes) (shown ▸ shows)

/-- Accepted arguments lead to one end, which the files and the options decide: the first stage that
fails is reported with nothing printed before it, and where none fails the text of the renderer is
printed, then the messages that were sent. The custom commands are those that the arguments give, in
their order. -/
theorem run_ends (files : Files) (asks : Asks args options) :
    (∀ ended, run files args = ended ↔ Ends files options ended) ∧
      List.Forall₂ Names (commandValues false args) options.commands := by
  obtain ⟨accepted, -⟩ := asks
  refine ⟨fun ended => ?_, names_ofArguments accepted⟩
  rw [run, accepted]
  exact ends_iff.symm

/-- The later of two commands of one name answers. A file of settings that is no JSON stops the same
call. -/
theorem run_ends_greeting :
    let message := "\x7b\"author\":\x7b\"name\":\"Bob\"\x7d,\"top_role\":\x7b\"name\":\"all\"\x7d," ++
      "\"channel\":\x7b\"name\":\"hall\"\x7d\x7d"
    let files : Files := fun name => if name = "hi.json" then .ok message else .error .notFound
    let broken : Files := fun name => if name = "talos.json" then .ok "[" else files name
    let args := ["--text", "Hi\x7bgreet\x7d", "-xhi.json", "--command", " greet =Bye",
      "--command=greet=Dear \x7bauthor:name\x7d"]
    let options : Options := {
      text := some "Hi\x7bgreet\x7d"
      context := some "hi.json"
      commands := [("greet", "Bye"), ("greet", "Dear \x7bauthor:name\x7d")] }
    Asks args options ∧ Ends files options { code := 0, output := "Hi\n[sent] Dear Bob\n" } ∧
      Ends broken options (failure .unparsed) := by
  intro message files broken args options
  have asks : Asks args options := ⟨by decide +kernel, rfl⟩
  refine ⟨asks, ((run_ends files asks).1 _).mp ?_, ((run_ends broken asks).1 _).mp ?_⟩
  · decide +kernel
  · decide +kernel

end ChatTemplate.CommandLineOutcomes
