import ChatTemplate.Proofs.RegisteredNames

/-! Of a registry a session uses nothing but what each name stands for. Two sessions with the same
message and the same renderer in service, in which every name stands for the same command, show the
same and send the same, however their registries came about. -/
namespace ChatTemplate.RegistryUse
open Chat CommandQueue RegisteredNames

/-- Nothing that a template or a command can find differs. -/
structure SameCommands (first second : Session) : Prop where
  renderer : first.renderer = second.renderer
  message : first.message = second.message
  outboxOpen : first.outboxOpen = second.outboxOpen
  commands : ∀ name, first.registry.get? name = second.registry.get? name

variable {first second : Session}

theorem commandLine?_sameCommands (same : SameCommands first second) :
    first.registry.commandLine? = second.registry.commandLine? := by
  funext line
  simp only [Registry.commandLine?, same.commands]

theorem host_sameCommands (same : SameCommands first second) (scheduling : Bool) :
    first.host scheduling = second.host scheduling := by
  refine host_sameNames ⟨same.message, fun name => ?_⟩ scheduling
  rw [mem_names_iff, mem_names_iff, same.commands]

theorem handedOff_sameCommands (same : SameCommands first second) :
    first.handedOff = second.handedOff := by
  funext deniedMessage calls
  simp only [Session.handedOff, commandLine?_sameCommands same]

theorem send_sameCommands (same : SameCommands first second) : first.send = second.send := by
  funext message
  simp only [Session.send, same.outboxOpen]

theorem invoke_sameCommands (same : SameCommands first second) : first.invoke = second.invoke := by
  have custom : first.renderCustom = second.renderCustom := by
    funext depth name text number
    simp only [Session.renderCustom, same.renderer, host_sameCommands same,
      handedOff_sameCommands same]
  funext depth command args
  simp only [Session.invoke, custom, send_sameCommands same]

theorem runJob_sameCommands (same : SameCommands first second) : first.runJob = second.runJob := by
  funext depth job
  simp only [Session.runJob, invoke_sameCommands same, send_sameCommands same]

theorem cascade_sameCommands (same : SameCommands first second) (depth : Nat) (jobs : List Job) :
    first.cascade depth jobs = second.cascade depth jobs := by
  have handed : started first = started second := by
    funext depth jobs
    simp only [started, runJob_sameCommands same]
  induction levels : first.limit - depth generalizing depth jobs with
  | zero =>
    have last := started_limit first depth jobs (by omega)
    rw [cascade_level depth jobs, cascade_level depth jobs, runJob_sameCommands same, ← handed, last,
      cascade_nil, cascade_nil]
  | succ levels ih =>
    rw [cascade_level depth jobs, cascade_level depth jobs, runJob_sameCommands same, ← handed,
      ih (depth + 1) _ (by omega)]

/-- Templates show the same, and what follows them is the same. -/
theorem run?_sameCommands (same : SameCommands first second) (depth : Nat) (source : String) :
    first.run? depth true source = second.run? depth true source := by
  simp only [Session.run?, same.renderer, Session.run, Session.settle, host_sameCommands same,
    handedOff_sameCommands same, cascade_sameCommands same, if_true]

end ChatTemplate.RegistryUse
