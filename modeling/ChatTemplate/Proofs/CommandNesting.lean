import ChatTemplate.Proofs.CommandQueue

/-! Custom commands that start one another. Whatever their texts invoke, and however often, a custom
command renders only short of the limit, and what it starts waits one level deeper. So every queue
of commands runs dry, and a chain of commands that started one another holds no more renderings
than there were levels left at its beginning. -/
namespace ChatTemplate.CommandNesting
open Chat CommandRuns CommandQueue

/-- The first run handed off the command of the second. -/
def Starts (first second : JobRun) : Prop := ⟨second.depth, second.job⟩ ∈ followUps first

/-- Each command of a chain runs one level deeper than the one before it. -/
theorem chain_deepens {chain : List JobRun} (linked : chain.IsChain Starts) :
    chain.Pairwise fun first second => first.depth < second.depth := by
  have deeper (first second : JobRun) (starts : Starts first second) :
      first.depth < second.depth := by
    obtain ⟨job, -, same⟩ := List.mem_map.mp starts
    have level := congrArg Task.depth same
    dsimp only at level
    omega
  have : IsTrans JobRun fun first second => first.depth < second.depth :=
    ⟨fun _ _ _ => Nat.lt_trans⟩
  exact (linked.imp deeper).pairwise

/-- Runs at different depths between two bounds are no more than the depths between the bounds. -/
theorem length_le_levels {runs : List JobRun} {low high : Nat}
    (apart : runs.Pairwise fun first second => first.depth < second.depth)
    (within : ∀ run ∈ runs, low ≤ run.depth ∧ run.depth < high) : runs.length ≤ high - low := by
  induction runs generalizing low with
  | nil => exact Nat.zero_le _
  | cons run rest ih =>
    obtain ⟨front, behind⟩ := List.pairwise_cons.mp apart
    have here := within run List.mem_cons_self
    have deeper : ∀ later ∈ rest, run.depth + 1 ≤ later.depth ∧ later.depth < high := by
      intro later member
      exact ⟨front later member, (within later (List.mem_cons_of_mem run member)).2⟩
    have shorter := ih behind deeper
    rw [List.length_cons]
    omega

/-- Every launch of commands comes to an end: its queue runs dry, and no order of the tasks takes
more steps. On the way a custom command renders short of the limit only, and then every command in
its text is run one level deeper; at the limit it refuses. So of a chain of commands that started
one another no more render than there are levels between the launch and the limit. -/
theorem launch_bounded (session : Session) (depth : Nat) (launch : Launch) :
    ∃ runs, Drains session (waiting depth (launch.jobs session)) runs ∧
      launch.events session depth = runs.flatMap (·.events) ∧
      (∀ ran left, Advances session (waiting depth (launch.jobs session)) ran left →
        ran.length ≤ runs.length) ∧
      (∀ run ∈ runs, IsCustom run.job → Renders session run ∨ Refuses run) ∧
      (∀ run ∈ runs, Renders session run → run.depth < session.limit ∧
        ∀ job ∈ run.started, session.runJob (run.depth + 1) job ∈ runs) ∧
      (∀ run ∈ runs, IsCustom run.job → session.limit ≤ run.depth → Refuses run) ∧
      (∀ run ∈ runs, run.started ≠ [] → Renders session run) ∧
      (∀ chain rendered : List JobRun, (∀ run ∈ chain, run ∈ runs) → chain.IsChain Starts →
        rendered.Sublist chain → (∀ run ∈ rendered, Renders session run) →
        rendered.length ≤ session.limit - depth) := by
  have drains := drains_cascade session depth (launch.jobs session)
  have origin : ∀ run ∈ session.cascade depth (launch.jobs session), ∃ task : Task,
      task.run session = run ∧ depth ≤ task.depth := by
    refine runs_induction drains ?_ ?_
    · intro task member
      obtain ⟨job, -, rfl⟩ := List.mem_map.mp member
      exact Nat.le_refl _
    · intro task below later member
      obtain ⟨job, -, rfl⟩ := List.mem_map.mp member
      have level := runJob_depth session task.depth task.job
      show depth ≤ (task.run session).depth + 1
      rw [Task.run, level]
      omega
  refine ⟨_, drains, launch_events session depth launch,
    fun ran left advances => advances_length drains advances, ?_, ?_, ?_, ?_, ?_⟩
  · intro run member custom
    obtain ⟨task, rfl, -⟩ := origin run member
    rw [Task.run, runJob_job] at custom
    exact (runJob_custom session task.depth custom).imp_left And.left
  · intro run member renders
    obtain ⟨task, rfl, -⟩ := origin run member
    refine ⟨by simpa [Task.run] using renders_depth renders, fun job handed => ?_⟩
    exact run_of_followUps drains member (List.mem_map_of_mem handed)
  · intro run member custom reached
    obtain ⟨task, rfl, -⟩ := origin run member
    rw [Task.run, runJob_job] at custom
    exact refuses_limit custom (by simpa [Task.run] using reached)
  · intro run member handed
    obtain ⟨task, rfl, -⟩ := origin run member
    exact renders_of_started handed
  · intro chain rendered members linked inside renders
    refine length_le_levels ((chain_deepens linked).sublist inside) fun run member => ?_
    obtain ⟨task, rfl, below⟩ := origin run (members run (inside.subset member))
    exact ⟨by simpa [Task.run] using below, by simpa [Task.run] using renders_depth (renders _ member)⟩

/-- A command that says its name and starts itself, three levels from the limit. -/
example :
    let again : Command := { name := "again", action := .custom "again\x7bagain\x7d" 0 }
    let session := ((Session.start { maxDepth := 3 } .standard).register again).1
    Launch.events session 0 (.commandLine "again") =
      [.sent "again", .sent "again", .sent "again",
        .failed "again" (.commandFailed "again" (.nestedTooDeep 3))] := by
  decide +kernel

end ChatTemplate.CommandNesting
