import ChatTemplate.Proofs.CommandHandOffs

/-! Commands that are not allowed. Each time such a command is handed off, by a template, a command
line or the text of a custom command, one attempt is made to send the refusal of whoever handed it
off, and nothing else happens: what the command itself would do could be replaced by anything, and
nobody would see a difference. A command that is allowed is invoked once for each time it is handed
off, and the refusal has no part in it. -/
namespace ChatTemplate.CommandPermissions
open Chat CommandRuns CommandQueue CommandHandOffs

/-- A run that is one attempt to send the refusal. -/
structure Refused (session : Session) (run : JobRun) : Prop where
  started : run.started = []
  events : run.events =
    if session.outboxOpen then [.sent run.job.deniedMessage]
    else [.unreported run.job.command.name .sendFailed]

/-- What is seen of a command that has ended. -/
def report (name : String) : Except Failure Unit → List Event
  | .ok () => []
  | .error failure => [.failed name failure]

/-- A run that is one invocation of the command with its arguments, whatever the refusal is. -/
structure Invoked (session : Session) (run : JobRun) : Prop where
  started : run.started = (session.invoke run.depth run.job.command run.job.args).started
  events : run.events =
    (session.invoke run.depth run.job.command run.job.args).events ++
      report run.job.command.name (session.invoke run.depth run.job.command run.job.args).outcome
  unrefused : ∀ message,
    (session.runJob run.depth { run.job with deniedMessage := message }).events = run.events

theorem runJob_refused (session : Session) (depth : Nat) (denied : job.command.allowed = false) :
    Refused session (session.runJob depth job) := by
  constructor
  · simp [Session.runJob, denied]
  · simp only [Session.runJob, denied, Session.send]
    cases session.outboxOpen <;> rfl

theorem runJob_invoked (session : Session) (depth : Nat) (allowed : job.command.allowed = true) :
    Invoked session (session.runJob depth job) := by
  constructor
  · simp [Session.runJob, allowed]
  · simp only [Session.runJob, allowed]
    cases ended : (session.invoke depth job.command job.args).outcome <;> simp [report, ended]
  · intro message
    simp [Session.runJob, allowed]

/-! ### Forbidden commands with other actions -/

/-- The command, with another action if it is not allowed. -/
def rearmed (actions : Command → Action) (command : Command) : Command :=
  if command.allowed then command else { command with action := actions command }

def rearmedJob (actions : Command → Action) (job : Job) : Job :=
  { job with command := rearmed actions job.command }

def rearmedRun (actions : Command → Action) (run : JobRun) : JobRun :=
  { run with job := rearmedJob actions run.job, started := run.started.map (rearmedJob actions) }

@[simp] theorem rearmed_name (actions : Command → Action) (command : Command) :
    (rearmed actions command).name = command.name := by
  unfold rearmed
  split <;> rfl

theorem rearmed_allowed (actions : Command → Action) (allowed : command.allowed = true) :
    rearmed actions command = command := if_pos allowed

/-- A session in which every command that is not allowed has another action. -/
def rearm (session : Session) (actions : Command → Action) : Session :=
  { session with
    registry := {
      commands := session.registry.commands.map (rearmed actions)
      nodup := by simpa [Function.comp_def] using session.registry.nodup } }

variable (session : Session) (actions : Command → Action)

theorem commandLine?_rearm (line : String) :
    (rearm session actions).registry.commandLine? line =
      (session.registry.commandLine? line).map fun (command, args) => (rearmed actions command, args) := by
  unfold Registry.commandLine?
  split
  · rfl
  · next name args split =>
    simp [Registry.get?, rearm, List.find?_map, Function.comp_def]

theorem host_rearm (scheduling : Bool) :
    (rearm session actions).host scheduling = session.host scheduling := by
  have accepts : (rearm session actions).accepts scheduling = session.accepts scheduling := by
    funext line
    simp [Session.accepts, commandLine?_rearm]
  exact congrArg session.message.host accepts

theorem handedOff_rearm (deniedMessage : String) (calls : List Call) :
    (rearm session actions).handedOff deniedMessage calls =
      (session.handedOff deniedMessage calls).map (rearmedJob actions) := by
  unfold Session.handedOff
  rw [List.map_filterMap]
  refine congrArg (List.filterMap · calls) (funext fun call => ?_)
  cases call with
  | resolve token => rfl
  | execute line =>
    simp only [commandLine?_rearm, Option.map_map]
    rfl

theorem send_rearm (message : String) :
    (rearm session actions).send message = session.send message := rfl

theorem renderCustom_rearm (depth : Nat) (name text : String) (number : Nat) :
    (rearm session actions).renderCustom depth name text number =
      { session.renderCustom depth name text number with
        started := (session.renderCustom depth name text number).started.map (rearmedJob actions) } := by
  have serving : (rearm session actions).renderer = session.renderer := rfl
  unfold Session.renderCustom
  rw [serving]
  cases session.renderer with
  | none => rfl
  | some renderer =>
    dsimp only
    rw [host_rearm, handedOff_rearm]
    split
    · rfl
    · split <;> rfl

/-- An invocation hands off the same commands, armed anew, and differs in nothing else. -/
theorem invoke_rearm (depth : Nat) (command : Command) (args : List String) :
    (rearm session actions).invoke depth command args =
      { session.invoke depth command args with
        started := (session.invoke depth command args).started.map (rearmedJob actions) } := by
  unfold Session.invoke
  cases command.action with
  | fail message => rfl
  | echo =>
    dsimp only
    rw [send_rearm]
    unfold Session.send
    cases session.outboxOpen <;> rfl
  | custom text number =>
    dsimp only
    rw [renderCustom_rearm]
    cases ended : (session.renderCustom depth command.name text number).outcome with
    | error failure => rfl
    | ok out =>
      dsimp only
      split <;> rfl

theorem runJob_rearm (depth : Nat) (job : Job) :
    (rearm session actions).runJob depth (rearmedJob actions job) =
      rearmedRun actions (session.runJob depth job) := by
  cases allowed : job.command.allowed with
  | true =>
    have same : rearmedJob actions job = job := by simp [rearmedJob, rearmed_allowed actions allowed]
    rw [same]
    simp only [Session.runJob, allowed, invoke_rearm, rearmedRun, same, if_true]
  | false =>
    have same : (rearmed actions job.command).allowed = false := by simp [rearmed, allowed]
    simp only [Session.runJob, rearmedJob, rearmedRun, same, allowed, rearmed_name]
    rfl

private theorem level_rearm (depth : Nat) (jobs : List Job) :
    (rearm session actions).cascade depth (jobs.map (rearmedJob actions)) =
      (jobs.map (session.runJob depth)).map (rearmedRun actions) ++
        (rearm session actions).cascade (depth + 1)
          ((started session depth jobs).map (rearmedJob actions)) := by
  have runs : (jobs.map (rearmedJob actions)).map ((rearm session actions).runJob depth) =
      (jobs.map (session.runJob depth)).map (rearmedRun actions) := by
    simp only [List.map_map]
    exact List.map_congr_left fun job _ => runJob_rearm session actions depth job
  have handed : started (rearm session actions) depth (jobs.map (rearmedJob actions)) =
      (started session depth jobs).map (rearmedJob actions) := by
    simp only [started, List.flatMap_map, List.map_flatMap, runJob_rearm]
    rfl
  rw [cascade_level, runs, handed]

/-- With other actions for the commands that are not allowed, the same runs take place. -/
theorem cascade_rearm (depth : Nat) (jobs : List Job) :
    (rearm session actions).cascade depth (jobs.map (rearmedJob actions)) =
      (session.cascade depth jobs).map (rearmedRun actions) := by
  induction levels : session.limit - depth generalizing depth jobs with
  | zero =>
    have last := started_limit session depth jobs (by omega)
    rw [level_rearm, cascade_level depth jobs, last, List.map_nil, cascade_nil, cascade_nil,
      List.append_nil, List.append_nil]
  | succ levels ih =>
    rw [level_rearm, cascade_level depth jobs, List.map_append,
      ih (depth + 1) (started session depth jobs) (by omega)]

theorem jobs_rearm (launch : Launch) :
    launch.jobs (rearm session actions) = (launch.jobs session).map (rearmedJob actions) := by
  cases launch with
  | commandLine line => exact handedOff_rearm session actions _ _
  | template source =>
    have serving : (rearm session actions).renderer = session.renderer := rfl
    simp only [Launch.jobs, serving, host_rearm, handedOff_rearm]
    cases session.renderer <;> rfl

/-- Nothing that is seen of a launch depends on what a command would do that is not allowed. -/
theorem events_rearm (depth : Nat) (launch : Launch) :
    launch.events (rearm session actions) depth = launch.events session depth := by
  rw [launch_events, launch_events, jobs_rearm, cascade_rearm, List.flatMap_map]
  rfl

theorem answer_rearm (depth : Nat) (launch : Launch) :
    launch.answer? (rearm session actions) depth = launch.answer? session depth := by
  cases launch with
  | commandLine line =>
    have accepts : (rearm session actions).accepts true line = session.accepts true line :=
      congrArg (fun host => host.execute line) (host_rearm session actions true)
    simp only [Launch.answer?, Session.execute, accepts]
  | template source =>
    have serving : (rearm session actions).renderer = session.renderer := rfl
    cases serves : session.renderer with
    | none => simp [Launch.answer?, Session.run?, serving, serves]
    | some renderer =>
      simp [Launch.answer?, Session.run?, Session.run, serving, serves, host_rearm]

theorem advances_permissions {session : Session} (advances : Advances session queue runs left) :
    ∀ run ∈ runs, (run.job.command.allowed = false → Refused session run) ∧
      (run.job.command.allowed = true → Invoked session run) := by
  refine forall_of_advances advances fun task => ⟨fun denied => ?_, fun allowed => ?_⟩
  · exact runJob_refused session task.depth (by simpa [Task.run] using denied)
  · exact runJob_invoked session task.depth (by simpa [Task.run] using allowed)

/-- Permissions are enforced on every launch, in whatever order its commands run. At any time the
runs so far and the tasks that wait are, one by one, the command lines accepted so far. A run of a
command that is not allowed is one attempt to send the refusal, and a run of any other command is
one invocation. So nothing that a launch shows or answers depends on what a command would do that is not
allowed. -/
theorem launch_permissions (session : Session) (depth : Nat) (launch : Launch) :
    (∃ runs, Drains session (waiting depth (launch.jobs session)) runs ∧
      launch.events session depth = runs.flatMap (·.events)) ∧
    (∀ runs left, Advances session (waiting depth (launch.jobs session)) runs left →
      Matched session (acceptedSoFar session depth launch runs) (runs.map ran ++ left) ∧
      ∀ run ∈ runs, (run.job.command.allowed = false → Refused session run) ∧
        (run.job.command.allowed = true → Invoked session run)) ∧
    ∀ actions, launch.events (rearm session actions) depth = launch.events session depth ∧
      launch.answer? (rearm session actions) depth = launch.answer? session depth :=
  ⟨⟨_, drains_cascade session depth (launch.jobs session), launch_events session depth launch⟩,
    fun _ _ advances => ⟨advances_matched advances, advances_permissions advances⟩,
    fun actions => ⟨events_rearm session actions depth launch,
      answer_rearm session actions depth launch⟩⟩

/-- A template and a custom command both hand off a command that is not allowed. -/
example :
    let hidden : Command := { name := "hidden", action := .custom "secret" 0, allowed := false }
    let asking : Command := { name := "ask", action := .custom "asked\x7bhidden now\x7d" 0 }
    let session := Session.start { deniedMessage := "no" } .standard
    let session := ((session.register hidden).1.register asking).1
    Launch.events session 0 (.template "\x7bask\x7d\x7bhidden\x7d") =
      [.sent "asked", .sent "no", .sent "no"] := by
  decide +kernel

end ChatTemplate.CommandPermissions
