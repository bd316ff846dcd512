import ChatTemplate.Proofs.CommandHandOffs

/-! What a rendering learns of the registered commands. It asks whether there is a command under the
first word of a command line, and nothing else. So two sessions with the same message, whose
registries hold commands under the same names, show the same text or fault and hand off the same
command lines, whatever the commands do, whoever may run them and however they end. -/
namespace ChatTemplate.RegisteredNames
open Chat CommandQueue CommandHandOffs

/-- The same message and the same names of commands. The commands under these names may differ in all
else, and so may the renderer in service, the refusals and whether anybody receives messages. -/
structure SameNames (first second : Session) : Prop where
  message : first.message = second.message
  names : ∀ name, name ∈ first.registry.names ↔ name ∈ second.registry.names

/-- The command lines that a template hands off, in order. Without scheduling there are none. -/
def handOffs (session : Session) (config : Config) (depth : Nat) (scheduling : Bool)
    (source : String) : List HandOff :=
  if scheduling then
    accepted session depth config.deniedMessage (render (session.host scheduling) config source).calls
  else []

/-- What happens after a rendering is what the command lines ask for that it has handed off. -/
theorem run_handOffs (session : Session) (config : Config) (depth : Nat) (source : String) :
    ∃ jobs, (session.run config depth true source).2 = session.settle depth jobs ∧
      List.Forall₂ (Names session) (handOffs session config depth true source) (waiting depth jobs) :=
  ⟨_, rfl, handedOff_named session depth config.deniedMessage _⟩

theorem mem_names_iff {registry : Registry} :
    name ∈ registry.names ↔ (registry.get? name).isSome = true := by
  simp [Registry.names, Registry.get?, List.find?_isSome]

theorem name_of_get? {registry : Registry} (found : registry.get? name = some command) :
    command.name = name := by
  simpa using List.find?_some found

variable {first second : Session}

/-- A line names commands of one name and with the same arguments in both sessions, or in neither
any command. -/
theorem commandLine?_sameNames (same : SameNames first second) (line : String) :
    Option.Rel (fun one other => one.1.name = other.1.name ∧ one.2 = other.2)
      (first.registry.commandLine? line) (second.registry.commandLine? line) := by
  unfold Registry.commandLine?
  cases (Text.words line.toList).map String.ofList with
  | nil => exact .none
  | cons name args =>
    have present := same.names name
    rw [mem_names_iff, mem_names_iff] at present
    cases found : first.registry.get? name with
    | none =>
      have absent : second.registry.get? name = none := by simpa [found] using present
      simp only [found, absent]
      exact .none
    | some one =>
      obtain ⟨other, also⟩ := Option.isSome_iff_exists.mp (present.mp (by rw [found]; rfl))
      simp only [found, also]
      exact .some ⟨(name_of_get? found).trans (name_of_get? also).symm, rfl⟩

/-- Templates see the same host in both sessions. -/
theorem host_sameNames (same : SameNames first second) (scheduling : Bool) :
    first.host scheduling = second.host scheduling := by
  have accepts : first.accepts scheduling = second.accepts scheduling := by
    funext line
    have alike := commandLine?_sameNames same line
    unfold Session.accepts
    generalize first.registry.commandLine? line = one at alike
    generalize second.registry.commandLine? line = other at alike
    cases alike <;> rfl
  rw [Session.host, Session.host, same.message, accepts]

theorem leftOut_sameNames (same : SameNames first second) (calls : List Call) :
    first.leftOut calls = second.leftOut calls := by
  refine congrArg (List.filterMap · calls) (funext fun call => ?_)
  cases call with
  | resolve token => rfl
  | execute line =>
    have alike := commandLine?_sameNames same line
    dsimp only
    generalize first.registry.commandLine? line = one at alike
    generalize second.registry.commandLine? line = other at alike
    cases alike with
    | none => rfl
    | some names => exact congrArg (fun name => some (Event.unscheduled name)) names.1

/-- Of the registered commands a rendering learns only their names. With the same names it shows the
same text or fault and hands off the same command lines in the same order. Where nothing can be
scheduled even the warnings are the same. -/
theorem run_sameNames (same : SameNames first second) (config : Config) (depth : Nat)
    (scheduling : Bool) (source : String) :
    (first.run config depth scheduling source).1 = (second.run config depth scheduling source).1 ∧
      handOffs first config depth scheduling source =
        handOffs second config depth scheduling source ∧
      (scheduling = false →
        first.run config depth scheduling source = second.run config depth scheduling source) := by
  have hosts := host_sameNames same
  refine ⟨?_, ?_, ?_⟩
  · simp only [Session.run, hosts]
  · simp only [handOffs, accepted, hosts]
  · rintro rfl
    simp only [Session.run, hosts, leftOut_sameNames same]
    rfl

/-- One registry greets back, the other refuses and fails. The texts agree, and what follows the
rendering does not. -/
theorem run_sameNames_opposite :
    let greeting : Command := { name := "hi", action := .echo }
    let other : Command := { name := "by", action := .custom "[if 1=1](left)" 0 }
    let broken : Command := { name := "hi", action := .fail "out of order" }
    let silent : Command := { name := "by", action := .echo, allowed := false }
    let start := Session.start {} .standard
    let first := ((start.register greeting).1.register other).1
    let second := ((start.register silent).1.register broken).1
    let source := "[if a is author](\x7bhi you\x7d)\x7bby\x7d, \x7bnobody\x7d"
    SameNames first second ∧
      (first.run {} 0 true source).1 = (second.run {} 0 true source).1 ∧
      (first.run {} 0 true source).2 ≠ (second.run {} 0 true source).2 := by
  intro greeting other broken silent start first second source
  have names : SameNames first second := by
    refine ⟨rfl, fun name => ?_⟩
    rw [mem_names_iff, mem_names_iff]
    simp [first, second, start, greeting, other, broken, silent, Session.start, Session.register,
      Registry.register, Registry.without, Registry.get?, List.find?_isSome, or_comm]
  refine ⟨names, (run_sameNames names {} 0 true source).1, ?_⟩
  decide +kernel

end ChatTemplate.RegisteredNames
