import Mathlib.Data.List.Perm.Basic
import ChatTemplate.Proofs.CommandRuns

/-! Commands that have been handed off wait in a queue, and each of them may add others while it runs.
A cascade runs them depth by depth. Here they run one at a time: the oldest first, which gives
exactly the runs of the cascade, or in any order at all, which gives the same runs in another
order. Either way the queue is empty in the end. -/
namespace ChatTemplate.CommandQueue
open Chat CommandRuns
open scoped List

/-- A command that waits, and how many custom commands had started one another before it. -/
structure Task where
  depth : Nat
  job : Job
deriving DecidableEq, Repr

variable {session : Session}

def Task.run (session : Session) (task : Task) : JobRun := session.runJob task.depth task.job

/-- Commands that wait at one depth. -/
def waiting (depth : Nat) (jobs : List Job) : List Task := jobs.map (Task.mk depth)

/-- The commands that a run has handed off. They wait one level deeper. -/
def followUps (run : JobRun) : List Task := waiting (run.depth + 1) run.started

/-- The tasks run one at a time and the oldest first, until none is left. -/
inductive Drains (session : Session) : List Task → List JobRun → Prop where
  | empty : Drains session [] []
  | oldest (task : Task) (rest : Drains session (queue ++ followUps (task.run session)) runs) :
      Drains session (task :: queue) (task.run session :: runs)

/-- Some tasks have run one after the other, each of them from anywhere in the queue. -/
inductive Advances (session : Session) : List Task → List JobRun → List Task → Prop where
  | refl : Advances session queue [] queue
  | step (before : List Task) (task : Task) (after : List Task)
      (later : Advances session (before ++ after ++ followUps (task.run session)) runs left) :
      Advances session (before ++ task :: after) (task.run session :: runs) left

/-- The jobs that jobs of one depth hand off. -/
def started (session : Session) (depth : Nat) (jobs : List Job) : List Job :=
  jobs.flatMap fun job => (session.runJob depth job).started

/-- Jobs at the limit hand off nothing. -/
theorem started_limit (session : Session) (depth : Nat) (jobs : List Job) (reached : session.limit ≤ depth) :
    started session depth jobs = [] :=
  List.flatMap_eq_nil_iff.mpr fun job _ => runJob_started depth job reached

theorem cascade_nil (depth : Nat) : session.cascade depth [] = [] := by
  unfold Session.cascade
  simp

/-- The runs of a cascade are those of its first level and then those of the next. The guard of
the recursion is no exception: at the limit there is no next level. -/
theorem cascade_level (depth : Nat) (jobs : List Job) :
    session.cascade depth jobs =
      jobs.map (session.runJob depth) ++ session.cascade (depth + 1) (started session depth jobs) := by
  have level : (jobs.map (session.runJob depth)).flatMap (·.started) = started session depth jobs :=
    List.flatMap_map ..
  conv => lhs; unfold Session.cascade
  dsimp only
  rw [level]
  by_cases more : depth < session.limit ∧ started session depth jobs ≠ []
  · rw [if_pos more]
  · have last : started session depth jobs = [] := by
      by_cases short : depth < session.limit
      · exact not_not.mp fun some => more ⟨short, some⟩
      · exact started_limit session depth jobs (by omega)
    rw [if_neg more, last, cascade_nil, List.append_nil]

private theorem started_append (depth : Nat) (first second : List Job) :
    started session depth (first ++ second) =
      started session depth first ++ started session depth second := List.flatMap_append

/-- The jobs of one depth run before anything that they hand off. -/
theorem drains_level (session : Session) (depth : Nat) (jobs : List Job) (later : List Task)
    (rest : Drains session (later ++ waiting (depth + 1) (started session depth jobs)) runs) :
    Drains session (waiting depth jobs ++ later) (jobs.map (session.runJob depth) ++ runs) := by
  induction jobs generalizing later with
  | nil =>
    simpa [waiting, started] using rest
  | cons job jobs ih =>
    have next : Drains session (waiting depth jobs ++
        (later ++ followUps ((Task.mk depth job).run session)))
        (jobs.map (session.runJob depth) ++ runs) := by
      refine ih _ ?_
      simpa [started, waiting, followUps, Task.run] using rest
    rw [← List.append_assoc] at next
    exact .oldest _ next

/-- Run from the queue, the oldest first, jobs of one depth give the cascade. -/
theorem drains_cascade (session : Session) (depth : Nat) (jobs : List Job) :
    Drains session (waiting depth jobs) (session.cascade depth jobs) := by
  induction levels : session.limit - depth generalizing depth jobs with
  | zero =>
    have last := started_limit session depth jobs (by omega)
    have finished : Drains session (waiting depth jobs ++ [])
        (jobs.map (session.runJob depth) ++ []) :=
      drains_level session depth jobs [] (by rw [last]; exact .empty)
    rw [cascade_level, last, cascade_nil]
    simpa using finished
  | succ levels ih =>
    rw [cascade_level]
    have deeper := ih (depth + 1) (started session depth jobs) (by omega)
    simpa using drains_level session depth jobs [] deeper

/-! ### Any order -/

/-- All the runs that a task leads to, its own among them. -/
def outlook (session : Session) (task : Task) : List JobRun := session.cascade task.depth [task.job]

theorem cascade_append (depth : Nat) (first second : List Job) :
    session.cascade depth (first ++ second) ~
      session.cascade depth first ++ session.cascade depth second := by
  induction levels : session.limit - depth generalizing depth first second with
  | zero =>
    have last (jobs : List Job) := started_limit session depth jobs (by omega)
    simp only [cascade_level depth, last, cascade_nil, List.append_nil, List.map_append,
      List.Perm.refl]
  | succ levels ih =>
    have deeper := ih (depth + 1) (started session depth first) (started session depth second)
      (by omega)
    rw [cascade_level depth (first ++ second), cascade_level depth first, cascade_level depth second,
      started_append, List.map_append]
    refine (deeper.append_left _).trans ?_
    simp only [List.append_assoc]
    exact (List.perm_append_comm_assoc _ _ _).append_left _

/-- A task leads to its own run and to what the commands it hands off lead to. -/
theorem outlook_run (session : Session) (task : Task) :
    outlook session task ~
      task.run session :: (followUps (task.run session)).flatMap (outlook session) := by
  have split (depth : Nat) (jobs : List Job) :
      session.cascade depth jobs ~ (waiting depth jobs).flatMap (outlook session) := by
    induction jobs with
    | nil => simp [cascade_nil, waiting]
    | cons job jobs ih =>
      exact (cascade_append depth [job] jobs).trans (ih.append_left _)
  have deeper := split (task.depth + 1) (task.run session).started
  rw [outlook, cascade_level]
  simpa [started, followUps, Task.run] using deeper

/-- Whatever order tasks run in, the runs so far and all that the waiting tasks lead to are the same
runs as at the beginning. -/
theorem advances_perm (advances : Advances session queue runs left) :
    runs ++ left.flatMap (outlook session) ~ queue.flatMap (outlook session) := by
  induction advances with
  | refl => exact .refl _
  | @step runs left before task after later ih =>
    have turn := outlook_run session task
    calc task.run session :: runs ++ left.flatMap (outlook session)
      _ ~ task.run session ::
          (before ++ after ++ followUps (task.run session)).flatMap (outlook session) := ih.cons _
      _ ~ outlook session task ++ (before ++ after).flatMap (outlook session) := by
        rw [List.flatMap_append]
        exact (List.perm_append_comm.cons _).trans (turn.symm.append_right _)
      _ ~ (before ++ task :: after).flatMap (outlook session) := by
        simp only [List.flatMap_append, List.flatMap_cons]
        exact List.perm_append_comm_assoc _ _ _

/-- Draining the oldest first is one of the orders. -/
theorem advances_of_drains (drains : Drains session queue runs) :
    Advances session queue runs [] := by
  induction drains with
  | empty => exact .refl
  | @oldest queue runs task rest ih => exact .step [] task queue ih

/-- A queue that is drained has run everything its tasks lead to. -/
theorem drains_perm (drains : Drains session queue runs) :
    runs ~ queue.flatMap (outlook session) := by
  simpa using advances_perm (advances_of_drains drains)

/-- No order takes more steps than draining does. -/
theorem advances_length (drains : Drains session queue runs)
    (advances : Advances session queue ran left) : ran.length ≤ runs.length := by
  have whole := (advances_perm advances).length_eq
  have drained := (drains_perm drains).length_eq
  rw [List.length_append] at whole
  omega

/-! ### Where the runs come from -/

/-- What holds of the run of every task holds of all runs, in any order. -/
theorem forall_of_advances {motive : JobRun → Prop} (advances : Advances session queue runs left)
    (each : ∀ task : Task, motive (task.run session)) : ∀ run ∈ runs, motive run := by
  induction advances with
  | refl => exact nofun
  | step before task after _ ih =>
    intro run member
    rcases List.mem_cons.mp member with rfl | behind
    · exact each task
    · exact ih run behind

/-- Everything that waits is run. -/
theorem run_of_waiting (drains : Drains session queue runs) (member : task ∈ queue) :
    task.run session ∈ runs := by
  induction drains with
  | empty => cases member
  | @oldest queue runs first rest ih =>
    rcases List.mem_cons.mp member with rfl | behind
    · exact List.mem_cons_self
    · exact List.mem_cons_of_mem _ (ih (List.mem_append_left _ behind))

/-- Everything that a run hands off is run. -/
theorem run_of_followUps (drains : Drains session queue runs) (ran : run ∈ runs)
    (member : task ∈ followUps run) : task.run session ∈ runs := by
  induction drains with
  | empty => cases ran
  | @oldest queue runs first rest ih =>
    rcases List.mem_cons.mp ran with rfl | later
    · exact List.mem_cons_of_mem _ (run_of_waiting rest (List.mem_append_right _ member))
    · exact List.mem_cons_of_mem _ (ih later)

/-- What holds of the tasks in the queue, and of what a run hands off if it holds of the task that
ran, holds of every run. -/
theorem runs_induction {motive : Task → Prop} (drains : Drains session queue runs)
    (first : ∀ task ∈ queue, motive task)
    (next : ∀ task, motive task → ∀ later ∈ followUps (task.run session), motive later) :
    ∀ run ∈ runs, ∃ task, task.run session = run ∧ motive task := by
  induction drains with
  | empty => exact nofun
  | @oldest queue runs task rest ih =>
    have front : motive task := first task List.mem_cons_self
    have inner : ∀ later ∈ queue ++ followUps (task.run session), motive later := by
      intro later member
      rcases List.mem_append.mp member with waits | handed
      · exact first later (List.mem_cons_of_mem _ waits)
      · exact next task front later handed
    intro run member
    rcases List.mem_cons.mp member with rfl | behind
    · exact ⟨task, rfl, front⟩
    · exact ih inner run behind

/-- What hands off commands where they can be scheduled: a template that the renderer in service
shows, or one command line. -/
inductive Launch where
  | template (source : String)
  | commandLine (line : String)
deriving DecidableEq, Repr

/-- The commands that a launch hands off, in order. Without a renderer no template is shown. -/
def Launch.jobs (session : Session) : Launch → List Job
  | .template source =>
    match session.renderer with
    | none => []
    | some renderer =>
      session.handedOff renderer.config.deniedMessage
        (render (session.host true) renderer.config source).calls
  | .commandLine line => session.handedOff session.deniedMessage [.execute line]

/-- What the session shows of a launch and of all that follows from it. -/
def Launch.events (session : Session) (depth : Nat) : Launch → List Event
  | .template source => ((session.run? depth true source).map (·.2)).getD []
  | .commandLine line => (session.execute depth true line).2

/-- What the session answers to a launch: what the template shows, or whether the command line was
taken. -/
inductive Answer where
  | shown (outcome : Except Fault String)
  | taken (accepted : Bool)

/-- There is no answer where there is no renderer to show a template. -/
def Launch.answer? (session : Session) (depth : Nat) : Launch → Option Answer
  | .template source => (session.run? depth true source).map fun result => .shown result.1
  | .commandLine line => some (.taken (session.execute depth true line).1)

/-- The session shows the runs of the cascade, in their order. -/
theorem launch_events (session : Session) (depth : Nat) (launch : Launch) :
    launch.events session depth =
      (session.cascade depth (launch.jobs session)).flatMap (·.events) := by
  cases launch with
  | commandLine line => rfl
  | template source =>
    cases serving : session.renderer with
    | none => simp [Launch.events, Launch.jobs, Session.run?, serving, cascade_nil]
    | some renderer =>
      simp [Launch.events, Launch.jobs, Session.run?, Session.run, Session.settle, serving]

end ChatTemplate.CommandQueue
