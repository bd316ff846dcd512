import Mathlib.Data.List.Forall2
import ChatTemplate.Proofs.CommandQueue

/-! Every command line that was accepted is run once. A launch and the texts of custom commands try
command lines; each line that the host accepts becomes one task, with the command it names, the
words behind the name and the refusal of whoever handed it off. Tasks leave the queue only by being
run, so at any time the tasks that have run and those that wait are the lines accepted so far. -/
namespace ChatTemplate.CommandHandOffs
open Chat CommandRuns CommandQueue
open scoped List

variable {session : Session}

/-- A command line that was accepted. -/
structure HandOff where
  /-- How many custom commands had started one another before the command. -/
  depth : Nat
  line : String
  /-- The refusal of whoever handed the line off. -/
  deniedMessage : String
deriving DecidableEq, Repr

/-- The command lines among some calls that the host accepted, in order. -/
def accepted (session : Session) (depth : Nat) (deniedMessage : String) (calls : List Call) :
    List HandOff :=
  calls.filterMap fun
    | .resolve _ => none
    | .execute line =>
      if (session.host true).execute line then some ⟨depth, line, deniedMessage⟩ else none

/-- The text that a run shows and the renderer that shows it, if the run gets as far. -/
def shownText? (session : Session) (run : JobRun) : Option (Renderer × String) :=
  match run.job.command.allowed, run.job.command.action, session.renderer with
  | true, .custom text number, some renderer =>
    if renderer.number = number ∧ run.depth < renderer.config.maxDepth then some (renderer, text)
    else none
  | _, _, _ => none

/-- The command lines that were accepted from the text of a run. They lie one level deeper. -/
def acceptedBy (session : Session) (run : JobRun) : List HandOff :=
  match shownText? session run with
  | some (renderer, text) =>
    accepted session (run.depth + 1) renderer.config.deniedMessage
      (render (session.host true) renderer.config text).calls
  | none => []

/-- The command lines that were accepted from a launch itself. -/
def launched (session : Session) (depth : Nat) : Launch → List HandOff
  | .template source =>
    match session.renderer with
    | none => []
    | some renderer =>
      accepted session depth renderer.config.deniedMessage
        (render (session.host true) renderer.config source).calls
  | .commandLine line => accepted session depth session.deniedMessage [.execute line]

/-- The task that a command line asks for: its first word names the command, the other words are
the arguments. -/
structure Names (session : Session) (handOff : HandOff) (task : Task) : Prop where
  words : (Text.words handOff.line.toList).map String.ofList =
    task.job.command.name :: task.job.args
  registered : session.registry.get? task.job.command.name = some task.job.command
  deniedMessage : task.job.deniedMessage = handOff.deniedMessage
  depth : task.depth = handOff.depth

theorem commandLine?_eq_some {registry : Registry}
    (found : registry.commandLine? line = some (command, args)) :
    (Text.words line.toList).map String.ofList = command.name :: args ∧
      registry.get? command.name = some command := by
  unfold Registry.commandLine? at found
  split at found
  · cases found
  · next name rest split =>
    obtain ⟨known, present, same⟩ := Option.map_eq_some_iff.mp found
    cases same
    have named : command.name = name := by simpa using List.find?_some present
    exact ⟨by rw [split, named], by rw [named, present]⟩

/-- The commands handed off by a rendering are those of the lines that were accepted. -/
theorem handedOff_named (session : Session) (depth : Nat) (deniedMessage : String)
    (calls : List Call) :
    List.Forall₂ (Names session) (accepted session depth deniedMessage calls)
      (waiting depth (session.handedOff deniedMessage calls)) := by
  induction calls with
  | nil => exact .nil
  | cons call rest ih =>
    cases call with
    | resolve token => exact ih
    | execute line =>
      have answer : (session.host true).execute line =
          (session.registry.commandLine? line).isSome := rfl
      cases found : session.registry.commandLine? line with
      | none => simpa [accepted, Session.handedOff, answer, found] using ih
      | some named =>
        obtain ⟨command, args⟩ := named
        obtain ⟨words, registered⟩ := commandLine?_eq_some found
        have taken : accepted session depth deniedMessage (.execute line :: rest) =
            ⟨depth, line, deniedMessage⟩ :: accepted session depth deniedMessage rest := by
          simp [accepted, answer, found]
        have tasks : waiting depth (session.handedOff deniedMessage (.execute line :: rest)) =
            ⟨depth, ⟨command, args, deniedMessage⟩⟩ ::
              waiting depth (session.handedOff deniedMessage rest) := by
          simp [Session.handedOff, waiting, found]
        rw [taken, tasks]
        exact .cons ⟨words, registered, rfl, rfl⟩ ih

theorem launched_named (session : Session) (depth : Nat) (launch : Launch) :
    List.Forall₂ (Names session) (launched session depth launch)
      (waiting depth (launch.jobs session)) := by
  cases launch with
  | commandLine line => exact handedOff_named session depth session.deniedMessage [.execute line]
  | template source =>
    cases serving : session.renderer with
    | none => simp [launched, Launch.jobs, serving, waiting]
    | some renderer =>
      simpa only [launched, Launch.jobs, serving] using handedOff_named session depth _ _

theorem shownText?_eq_some_iff : shownText? session run = some (renderer, text) ↔
    run.job.command.allowed = true ∧ run.job.command.action = .custom text renderer.number ∧
      session.renderer = some renderer ∧ run.depth < session.limit := by
  constructor
  · intro shown
    unfold shownText? at shown
    split at shown
    · next number first allowed action serving =>
      split at shown
      · next fits =>
        cases shown
        obtain ⟨rfl, short⟩ := fits
        exact ⟨allowed, action, serving, by rwa [limit_serving serving]⟩
      · cases shown
    · cases shown
  · rintro ⟨allowed, action, serving, short⟩
    rw [limit_serving serving] at short
    simp [shownText?, allowed, action, serving, short]

/-- A run that shows a text hands off the commands in it and answers with the rest. -/
theorem runJob_shown (shown : shownText? session (session.runJob depth job) = some (renderer, text)) :
    session.runJob depth job =
      { depth := depth
        job := job
        events := reply session job.command.name
          (render (session.host true) renderer.config text).outcome
        started := session.handedOff renderer.config.deniedMessage
          (render (session.host true) renderer.config text).calls } := by
  obtain ⟨allowed, action, serving, short⟩ := shownText?_eq_some_iff.mp shown
  rw [runJob_job] at allowed action
  rw [runJob_depth, limit_serving serving] at short
  exact runJob_rendered allowed action (renderCustom_serving serving short _ text)

/-- A run that shows no text hands off nothing. -/
theorem started_unshown (unshown : shownText? session (session.runJob depth job) = none) :
    (session.runJob depth job).started = [] := by
  by_cases handed : (session.runJob depth job).started = []
  · exact handed
  · have renders := renders_of_started handed
    obtain ⟨text, renderer, allowed, action, serving, -⟩ := id renders
    have short : (session.runJob depth job).depth < session.limit := by
      simpa using renders_depth renders
    rw [shownText?_eq_some_iff.mpr ⟨allowed, action, serving, short⟩] at unshown
    cases unshown

theorem followUps_named (session : Session) (task : Task) :
    List.Forall₂ (Names session) (acceptedBy session (task.run session))
      (followUps (task.run session)) := by
  unfold acceptedBy followUps
  cases shown : shownText? session (task.run session) with
  | none =>
    rw [show (task.run session).started = [] from started_unshown shown]
    exact .nil
  | some found =>
    obtain ⟨renderer, text⟩ := found
    have handed : (task.run session).started = session.handedOff renderer.config.deniedMessage
        (render (session.host true) renderer.config text).calls :=
      congrArg JobRun.started (runJob_shown shown)
    rw [handed]
    exact handedOff_named session _ _ _

/-- The task that has run. -/
def ran (run : JobRun) : Task := ⟨run.depth, run.job⟩

@[simp] theorem ran_run (session : Session) (task : Task) : ran (task.run session) = task := by
  simp [ran, Task.run]

/-- The tasks that have run and those that wait are those of the beginning and those that the runs
have handed off. -/
theorem advances_conserves (advances : Advances session queue runs left) :
    runs.map ran ++ left ~ queue ++ runs.flatMap followUps := by
  induction advances with
  | refl => simp
  | @step runs left before task after later ih =>
    have turn : task :: (before ++ after) ~ before ++ task :: after := List.perm_middle.symm
    rw [List.map_cons, ran_run, List.flatMap_cons, List.cons_append]
    calc task :: (runs.map ran ++ left)
      _ ~ task :: (before ++ after ++ followUps (task.run session) ++ runs.flatMap followUps) :=
        ih.cons task
      _ ~ before ++ task :: after ++ (followUps (task.run session) ++ runs.flatMap followUps) := by
        simpa using turn.append_right (followUps (task.run session) ++ runs.flatMap followUps)

/-- Every run is the run of its task. -/
theorem ran_of_advances (advances : Advances session queue runs left) :
    ∀ run ∈ runs, (ran run).run session = run :=
  forall_of_advances advances fun task => by rw [ran_run]

/-- Each line has a task of its own, and each task a line. -/
def Matched (session : Session) (lines : List HandOff) (tasks : List Task) : Prop :=
  ∃ ordered, List.Forall₂ (Names session) lines ordered ∧ ordered ~ tasks

theorem Matched.length (matched : Matched session lines tasks) : lines.length = tasks.length := by
  obtain ⟨ordered, named, order⟩ := matched
  exact named.length_eq.trans order.length_eq

/-- All lines that were accepted from a launch and from the runs so far. -/
def acceptedSoFar (session : Session) (depth : Nat) (launch : Launch) (runs : List JobRun) :
    List HandOff :=
  launched session depth launch ++ runs.flatMap (acceptedBy session)

private theorem runs_named {runs : List JobRun} (own : ∀ run ∈ runs, (ran run).run session = run) :
    List.Forall₂ (Names session) (runs.flatMap (acceptedBy session)) (runs.flatMap followUps) := by
  induction runs with
  | nil => exact .nil
  | cons run rest ih =>
    have first := followUps_named session (ran run)
    rw [own run List.mem_cons_self] at first
    exact List.rel_append first (ih fun later member => own later (List.mem_cons_of_mem _ member))

/-- At any time the lines accepted so far are, one by one, the tasks that have run or wait. -/
theorem advances_matched
    (advances : Advances session (waiting depth (launch.jobs session)) runs left) :
    Matched session (acceptedSoFar session depth launch runs) (runs.map ran ++ left) :=
  ⟨_, List.rel_append (launched_named session depth launch) (runs_named (ran_of_advances advances)),
    (advances_conserves advances).symm⟩

end ChatTemplate.CommandHandOffs
