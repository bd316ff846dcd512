import ChatTemplate.Proofs.CommandOutcomes

/-! The order of commands. A launch has its answer before the first command runs, and no command looks
at what another has done. So the commands may run one at a time in any order: every order comes to
an end after the same number of runs, with the same answer, and with the same messages and the
same warnings, each as often. -/
namespace ChatTemplate.CommandSchedules
open Chat CommandQueue CommandOutcomes
open scoped List

variable {session : Session}

/-- A launch that has come to its end: the answer, and the runs in the order they had. -/
structure Execution where
  answer : Option Answer
  runs : List JobRun

def Execution.events (execution : Execution) : List Event := execution.runs.flatMap (·.events)

/-- A launch is answered, and then everything that waits runs, one at a time and in some order. -/
inductive Executes (session : Session) (depth : Nat) : Launch → Execution → Prop where
  | template (serving : session.renderer = some renderer)
      (order : Advances session
        (waiting depth (session.handedOff renderer.config.deniedMessage
          (render (session.host true) renderer.config source).calls)) runs []) :
      Executes session depth (.template source)
        ⟨some (.shown (render (session.host true) renderer.config source).outcome), runs⟩
  /-- Without a renderer nothing is answered and nothing runs. -/
  | unserved (gone : session.renderer = none) : Executes session depth (.template source) ⟨none, []⟩
  | commandLine
      (order : Advances session
        (waiting depth (session.handedOff session.deniedMessage [.execute line])) runs []) :
      Executes session depth (.commandLine line)
        ⟨some (.taken (session.registry.commandLine? line).isSome), runs⟩

/-- Two executions that differ at most in the order of what happens. -/
structure Agree (first second : Execution) : Prop where
  answer : first.answer = second.answer
  count : first.runs.length = second.runs.length
  messages : messages first.events ~ messages second.events
  warnings : warnings first.events ~ warnings second.events

theorem advances_trans (first : Advances session queue runs middle)
    (second : Advances session middle later left) :
    Advances session queue (runs ++ later) left := by
  induction first with
  | refl => exact second
  | step before task after _ ih => exact .step before task after (ih second)

/-- Each task that runs leaves less to be run. -/
theorem outlook_shrinks (session : Session) (task : Task) (rest : List Task) :
    ((rest ++ followUps (task.run session)).flatMap (outlook session)).length <
      ((task :: rest).flatMap (outlook session)).length := by
  have turn := (outlook_run session task).length_eq
  rw [List.length_cons] at turn
  simp only [List.flatMap_append, List.flatMap_cons, List.length_append]
  omega

/-- Whatever waits, it can be run to the end. -/
theorem exhausts (session : Session) (queue : List Task) :
    ∃ runs, Advances session queue runs [] := by
  induction size : (queue.flatMap (outlook session)).length using Nat.strongRecOn
    generalizing queue with
  | ind size ih =>
    cases queue with
    | nil => exact ⟨[], .refl⟩
    | cons task rest =>
      have smaller := outlook_shrinks session task rest
      rw [size] at smaller
      obtain ⟨runs, later⟩ := ih _ smaller (rest ++ followUps (task.run session)) rfl
      exact ⟨task.run session :: runs, .step [] task rest later⟩

/-- Two orders that both come to the end consist of the same runs. -/
theorem exhausted_perm (first : Advances session queue runs [])
    (second : Advances session queue others []) : runs ~ others := by
  have left : runs ~ queue.flatMap (outlook session) := by simpa using advances_perm first
  have right : others ~ queue.flatMap (outlook session) := by simpa using advances_perm second
  exact left.trans right.symm

/-- Where nothing waits, nothing runs. -/
theorem runs_of_idle (advances : Advances session [] runs left) : runs = [] := by
  have none : runs ++ left.flatMap (outlook session) ~ [] := advances_perm advances
  exact (List.append_eq_nil_iff.mp none.eq_nil).1

/-- An execution is the answer of the session together with any order that comes to the end. -/
theorem executes_iff : Executes session depth launch execution ↔
    execution.answer = launch.answer? session depth ∧
      Advances session (waiting depth (launch.jobs session)) execution.runs [] := by
  constructor
  · intro executes
    cases executes with
    | template serving order =>
      exact ⟨by simp [Launch.answer?, Session.run?, Session.run, serving],
        by simpa only [Launch.jobs, serving] using order⟩
    | unserved gone =>
      exact ⟨by simp [Launch.answer?, Session.run?, gone], by simpa [Launch.jobs, gone] using .refl⟩
    | commandLine order => exact ⟨rfl, order⟩
  · rintro ⟨answer, order⟩
    obtain ⟨_, runs⟩ := execution
    obtain rfl := answer
    cases launch with
    | commandLine line => exact .commandLine order
    | template source =>
      cases serving : session.renderer with
      | none =>
        simp only [Launch.jobs, serving] at order
        obtain rfl := runs_of_idle order
        have executes : Executes session depth (.template source) ⟨none, []⟩ := .unserved serving
        simpa [Launch.answer?, Session.run?, serving] using executes
      | some renderer =>
        simp only [Launch.jobs, serving] at order
        have executes : Executes session depth (.template source)
            ⟨some (.shown (render (session.host true) renderer.config source).outcome), _⟩ :=
          .template serving order
        simpa [Launch.answer?, Session.run?, Session.run, serving] using executes

theorem executes_agree (first : Executes session depth launch execution)
    (second : Executes session depth launch other) : Agree execution other := by
  obtain ⟨answer, order⟩ := executes_iff.mp first
  obtain ⟨sameAnswer, otherOrder⟩ := executes_iff.mp second
  have runs := exhausted_perm order otherOrder
  have events : execution.events ~ other.events := runs.flatMap_right _
  exact ⟨answer.trans sameAnswer.symm, runs.length_eq, events.filterMap _, events.filterMap _⟩

/-- The order of the commands does not matter. What the session shows of a launch is the execution
that runs the oldest command first; any two executions agree; and any order that has been begun
comes to the end of an execution. -/
theorem launch_confluent (session : Session) (depth : Nat) (launch : Launch) :
    (∃ oldest, Executes session depth launch oldest ∧
      Drains session (waiting depth (launch.jobs session)) oldest.runs ∧
      oldest.answer = launch.answer? session depth ∧
      oldest.events = launch.events session depth) ∧
    (∀ first second, Executes session depth launch first → Executes session depth launch second →
      Agree first second) ∧
    ∀ runs left, Advances session (waiting depth (launch.jobs session)) runs left →
      ∃ execution later, Executes session depth launch execution ∧
        execution.runs = runs ++ later := by
  refine ⟨⟨⟨launch.answer? session depth, session.cascade depth (launch.jobs session)⟩, ?_⟩,
    fun first second => executes_agree, ?_⟩
  · have drains := drains_cascade session depth (launch.jobs session)
    exact ⟨executes_iff.mpr ⟨rfl, advances_of_drains drains⟩, drains, rfl,
      (launch_events session depth launch).symm⟩
  · intro runs left begun
    obtain ⟨later, rest⟩ := exhausts session left
    exact ⟨⟨launch.answer? session depth, runs ++ later⟩, later,
      executes_iff.mpr ⟨rfl, advances_trans begun rest⟩, rfl⟩

end ChatTemplate.CommandSchedules
