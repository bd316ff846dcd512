import ChatTemplate.Proofs.CommandPermissions

/-! How commands end. A run ends in one way: with one message, with one warning, or with nothing at
all, and with nothing only if it is the run of a custom command whose text shows nothing but white
space. Every command line that was accepted is run once. So at any time the messages, the warnings,
the runs that ended with nothing and the tasks that wait are together as many as the command lines
accepted so far. -/
namespace ChatTemplate.CommandOutcomes
open Chat CommandRuns CommandQueue CommandHandOffs CommandPermissions

variable {session : Session}

/-- The messages that were sent, in order. -/
def messages (events : List Event) : List String := events.filterMap Event.sent?

/-- The texts of the warnings, in order. -/
def warnings (events : List Event) : List String := events.filterMap Event.warning?

@[simp] theorem messages_append (first second : List Event) :
    messages (first ++ second) = messages first ++ messages second := List.filterMap_append

@[simp] theorem warnings_append (first second : List Event) :
    warnings (first ++ second) = warnings first ++ warnings second := List.filterMap_append

/-- The run shows a text, and all that it shows is white space. -/
def silent (session : Session) (run : JobRun) : Bool :=
  match shownText? session run with
  | none => false
  | some (renderer, text) =>
    match (render (session.host true) renderer.config text).outcome with
    | .error _ => false
    | .ok shown => Text.trimmed shown = ""

/-- The ways in which a run can end. -/
inductive Ends (session : Session) (run : JobRun) : Prop where
  /-- With one message, which somebody receives. -/
  | message (text : String) (opened : session.outboxOpen = true) (events : run.events = [.sent text])
  /-- With one warning: the command is allowed and failed. -/
  | failure (reason : Failure) (allowed : run.job.command.allowed = true)
      (events : run.events = [.failed run.job.command.name reason])
  /-- With one warning: nobody received the refusal. -/
  | unrefused (denied : run.job.command.allowed = false) (closed : session.outboxOpen = false)
      (events : run.events = [.unreported run.job.command.name .sendFailed])
  /-- With nothing, since there was nothing to send. -/
  | silence (blank : silent session run = true) (events : run.events = [])

/-- What a run that shows a text answers, and whether it is silent, depends on the outcome only. -/
private theorem shown_cases
    (shown : shownText? session (session.runJob depth job) = some (renderer, text)) :
    ∃ outcome, (session.runJob depth job).events = reply session job.command.name outcome ∧
      (silent session (session.runJob depth job) = true ↔
        ∃ out, outcome = .ok out ∧ Text.trimmed out = "") := by
  refine ⟨_, congrArg JobRun.events (runJob_shown shown), ?_⟩
  simp only [silent, shown]
  cases (render (session.host true) renderer.config text).outcome with
  | error fault => simp
  | ok out => simp

/-- A silent run ends with nothing. -/
theorem events_of_silent (blank : silent session (session.runJob depth job) = true) :
    (session.runJob depth job).events = [] := by
  cases shown : shownText? session (session.runJob depth job) with
  | none => simp [silent, shown] at blank
  | some found =>
    obtain ⟨outcome, events, silence⟩ := shown_cases shown
    obtain ⟨out, rfl, nothing⟩ := silence.mp blank
    simpa [reply, nothing] using events

/-- A run that shows a text answers with it, unless it is blank. -/
theorem ends_shown (shown : shownText? session (session.runJob depth job) = some (renderer, text)) :
    Ends session (session.runJob depth job) := by
  have allowed := (shownText?_eq_some_iff.mp shown).1
  obtain ⟨outcome, events, silence⟩ := shown_cases shown
  cases outcome with
  | error fault => exact .failure (.malformed fault) allowed (by simpa [reply] using events)
  | ok out =>
    by_cases blank : Text.trimmed out = ""
    · exact .silence (silence.mpr ⟨out, rfl, blank⟩) (by simpa [reply, blank] using events)
    · cases opened : session.outboxOpen with
      | true => exact .message (Text.trimmed out) opened (by simpa [reply, blank, opened] using events)
      | false => exact .failure .sendFailed allowed (by simpa [reply, blank, opened] using events)

/-- An allowed command that shows no text sends a message or fails. -/
theorem ends_unshown (allowed : job.command.allowed = true)
    (unshown : shownText? session (session.runJob depth job) = none) :
    Ends session (session.runJob depth job) := by
  have permitted : (session.runJob depth job).job.command.allowed = true := by simpa using allowed
  have events := (runJob_invoked session depth allowed).events
  rw [runJob_job, runJob_depth] at events
  cases action : job.command.action with
  | fail message =>
    simp only [Session.invoke, action] at events
    exact .failure _ permitted (by simpa [report] using events)
  | echo =>
    simp only [Session.invoke, action, Session.send] at events
    cases opened : session.outboxOpen with
    | true => exact .message _ opened (by simpa [opened, report] using events)
    | false => exact .failure .sendFailed permitted (by simpa [opened, report] using events)
  | custom text number =>
    rcases runJob_custom session depth ⟨allowed, text, number, action⟩ with
      ⟨⟨own, renderer, _, custom, serving, _⟩, short⟩ | ⟨_, fault, refused⟩
    · have shown := shownText?_eq_some_iff.mpr ⟨permitted, custom, serving, by simpa using short⟩
      rw [unshown] at shown
      cases shown
    · exact .failure _ permitted refused

theorem ends_runJob (session : Session) (depth : Nat) (job : Job) :
    Ends session (session.runJob depth job) := by
  cases allowed : job.command.allowed with
  | false =>
    have denied : (session.runJob depth job).job.command.allowed = false := by simpa using allowed
    have events := (runJob_refused session depth allowed).events
    cases opened : session.outboxOpen with
    | true => exact .message _ opened (by simpa [opened] using events)
    | false => exact .unrefused denied opened (by simpa [opened] using events)
  | true =>
    cases shown : shownText? session (session.runJob depth job) with
    | some found => exact ends_shown shown
    | none => exact ends_unshown allowed shown

/-- A run counts once. -/
theorem runJob_balance (session : Session) (depth : Nat) (job : Job) :
    (messages (session.runJob depth job).events).length +
      (warnings (session.runJob depth job).events).length +
      (if silent session (session.runJob depth job) then 1 else 0) = 1 := by
  have audible (loud : (session.runJob depth job).events ≠ []) :
      ¬ silent session (session.runJob depth job) = true :=
    fun blank => loud (events_of_silent blank)
  cases ends_runJob session depth job with
  | message text opened events =>
    simp [messages, warnings, events, Event.sent?, Event.warning?, audible (by simp [events])]
  | failure reason allowed events =>
    simp [messages, warnings, events, Event.sent?, Event.warning?, audible (by simp [events])]
  | unrefused denied closed events =>
    simp [messages, warnings, events, Event.sent?, Event.warning?, audible (by simp [events])]
  | silence blank events => simp [messages, warnings, events, blank]

theorem advances_ends (advances : Advances session queue runs left) :
    ∀ run ∈ runs, Ends session run :=
  forall_of_advances advances fun task => ends_runJob session task.depth task.job

theorem advances_balance (advances : Advances session queue runs left) :
    (messages (runs.flatMap (·.events))).length + (warnings (runs.flatMap (·.events))).length +
      runs.countP (silent session) = runs.length := by
  induction advances with
  | refl => rfl
  | @step runs left before task after later ih =>
    have first := runJob_balance session task.depth task.job
    rw [List.flatMap_cons, messages_append, warnings_append, List.length_append,
      List.length_append, List.countP_cons, List.length_cons, ← ih]
    unfold Task.run
    omega

/-- Nobody receives a message where nobody listens. -/
theorem messages_closed {runs : List JobRun} (closed : session.outboxOpen = false)
    (ends : ∀ run ∈ runs, Ends session run) : messages (runs.flatMap (·.events)) = [] := by
  have unsent (run : JobRun) (member : run ∈ runs) : run.events.filterMap Event.sent? = [] := by
    cases ends run member with
    | message text opened events => rw [closed] at opened; cases opened
    | failure reason allowed events => simp [events, Event.sent?]
    | unrefused denied closed events => simp [events, Event.sent?]
    | silence blank events => simp [events]
  rw [messages, List.filterMap_flatMap]
  exact List.flatMap_eq_nil_iff.mpr unsent

/-- The books of a launch after some runs, with the tasks that are left. -/
structure Accounted (session : Session) (depth : Nat) (launch : Launch) (runs : List JobRun)
    (left : List Task) : Prop where
  /-- Each command line that was accepted has run once or waits once. -/
  matched : Matched session (acceptedSoFar session depth launch runs) (runs.map ran ++ left)
  /-- Each run has ended in one way. -/
  ends : ∀ run ∈ runs, Ends session run
  balance :
    (messages (runs.flatMap (·.events))).length + (warnings (runs.flatMap (·.events))).length +
        runs.countP (silent session) + left.length =
      (acceptedSoFar session depth launch runs).length
  closed : session.outboxOpen = false → messages (runs.flatMap (·.events)) = []

theorem advances_accounted
    (advances : Advances session (waiting depth (launch.jobs session)) runs left) :
    Accounted session depth launch runs left where
  matched := advances_matched advances
  ends := advances_ends advances
  balance := by
    have lines := (advances_matched advances).length
    have balance := advances_balance advances
    rw [List.length_append, List.length_map] at lines
    omega
  closed := fun closed => messages_closed closed (advances_ends advances)

/-- No command is lost, and none runs twice. The session shows the runs of a launch down to the last;
their books balance with nothing left to wait. In any other order the books balance too, after
every single run. -/
theorem launch_accounted (session : Session) (depth : Nat) (launch : Launch) :
    (∃ runs, Drains session (waiting depth (launch.jobs session)) runs ∧
      launch.events session depth = runs.flatMap (·.events) ∧
      Accounted session depth launch runs []) ∧
    ∀ runs left, Advances session (waiting depth (launch.jobs session)) runs left →
      Accounted session depth launch runs left := by
  have drains := drains_cascade session depth (launch.jobs session)
  exact ⟨⟨_, drains, launch_events session depth launch,
    advances_accounted (advances_of_drains drains)⟩, fun _ _ advances => advances_accounted advances⟩

end ChatTemplate.CommandOutcomes
