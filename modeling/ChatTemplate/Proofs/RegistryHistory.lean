import Mathlib.Logic.Function.Basic
import ChatTemplate.Proofs.RegisteredNames

/-! A registry is a finite map. A program creates registries, copies the handles to them and puts its
requests through any of these handles. Whatever came before, a request is answered by the history of
its registry alone: a name stands for the command that was last registered under it, unless the
name was dropped since, and the list of names, their number and the question whether there are any
all speak of the names that stand for a command. -/
namespace ChatTemplate.RegistryHistory
open Chat RegisteredNames

/-- What a registry can be asked. -/
inductive Request where
  | register (command : Command)
  | unregister (name : String)
  | get (name : String)
  | names
  | size
  | isEmpty
deriving DecidableEq, Repr

inductive Answer where
  /-- The command that was found or displaced, if there was one. -/
  | command (found : Option Command)
  | names (names : List String)
  | size (count : Nat)
  | isEmpty (empty : Bool)
deriving DecidableEq, Repr

/-- The registry behind a request, and what it answers. -/
def reply (registry : Registry) : Request → Registry × Answer
  | .register command =>
    ((registry.register command).1, .command (registry.register command).2)
  | .unregister name => ((registry.unregister name).1, .command (registry.unregister name).2)
  | .get name => (registry, .command (registry.get? name))
  | .names => (registry, .names registry.names)
  | .size => (registry, .size registry.size)
  | .isEmpty => (registry, .isEmpty registry.isEmpty)

/-- The request decides what the name stands for from now on. -/
def Request.Decides (name : String) : Request → Prop
  | .register command => command.name = name
  | .unregister dropped => dropped = name
  | _ => False

/-- The command that was last registered under its name, which has not been dropped since. -/
def Current (history : List Request) (command : Command) : Prop :=
  ∃ before after, history = before ++ .register command :: after ∧
    ∀ later ∈ after, ¬ later.Decides command.name

/-- The names that stand for a command, each once and in the order of their bytes. -/
def Lists (history : List Request) (names : List String) : Prop :=
  names.Pairwise (fun first second => Registry.bytes first < Registry.bytes second) ∧
    ∀ name, name ∈ names ↔ ∃ command, Current history command ∧ command.name = name

/-- The command, if any, that the name stands for. -/
def StandsFor (history : List Request) (name : String) (found : Option Command) : Prop :=
  ∀ command, found = some command ↔ Current history command ∧ command.name = name

/-- The answers that a history allows. A command that is registered or dropped gives back the one
that its name stood for. -/
def Right (history : List Request) : Request → Answer → Prop
  | .register command, .command displaced => StandsFor history command.name displaced
  | .unregister name, .command dropped => StandsFor history name dropped
  | .get name, .command found => StandsFor history name found
  | .names, .names names => Lists history names
  | .size, .size count => ∃ names, Lists history names ∧ count = names.length
  | .isEmpty, .isEmpty empty => ∃ names, Lists history names ∧ (empty = true ↔ names = [])
  | _, _ => False

/-- What a program does. Handles are numbered as they come. -/
inductive Step where
  /-- A new registry, and the first handle to it. -/
  | create
  /-- One more handle to the registry of a handle. -/
  | clone (handle : Nat)
  | ask (handle : Nat) (request : Request)
deriving DecidableEq, Repr

/-- A request with the number of its registry and the answer. -/
structure Exchange where
  registry : Nat
  request : Request
  answer : Answer
deriving DecidableEq, Repr

/-- The registries of a program by their numbers, which number each handle holds, and all requests so
far. -/
structure World where
  registries : Nat → Registry := fun _ => ⟨[], List.nodup_nil⟩
  created : Nat := 0
  handles : List Nat := []
  log : List Exchange := []

/-- A step through a handle that does not exist does nothing. -/
def World.step (world : World) : Step → World
  | .create =>
    { world with created := world.created + 1, handles := world.handles ++ [world.created] }
  | .clone handle => { world with handles := world.handles ++ world.handles[handle]?.toList }
  | .ask handle request =>
    match world.handles[handle]? with
    | none => world
    | some number =>
      let (registry, answer) := reply (world.registries number) request
      { world with
        registries := Function.update world.registries number registry
        log := world.log ++ [⟨number, request, answer⟩] }

def run (steps : List Step) : World := steps.foldl World.step {}

/-- The requests to one registry so far, through all of its handles. -/
def World.history (world : World) (number : Nat) : List Request :=
  (world.log.filter (·.registry == number)).map (·.request)

/-- Without a command, all other names stand for what they stood for. -/
theorem find?_without (registry : Registry) (dropped name : String) :
    (registry.without dropped).find? (·.name == name) =
      if dropped = name then none else registry.get? name := by
  rw [Registry.without, List.find?_filter, Registry.get?]
  split
  · next same =>
    subst same
    simp
  · next other =>
    refine congrArg (List.find? · registry.commands) (funext fun found => ?_)
    by_cases same : found.name = name
    · simp [same, Ne.symm other]
    · simp [same]

theorem get?_register (registry : Registry) (command : Command) (name : String) :
    (registry.register command).1.get? name =
      if command.name = name then some command else registry.get? name := by
  have parts : (registry.register command).1.get? name =
      ((registry.without command.name).find? (·.name == name)).or
        ([command].find? (·.name == name)) := List.find?_append
  rw [parts, find?_without]
  split
  · next same => simp [same]
  · next other => simp [other]

theorem get?_unregister (registry : Registry) (dropped name : String) :
    (registry.unregister dropped).1.get? name =
      if dropped = name then none else registry.get? name :=
  find?_without registry dropped name

/-- A request changes nothing for the names that it does not decide. -/
theorem get?_reply (registry : Registry) (other : ¬ request.Decides name) :
    (reply registry request).1.get? name = registry.get? name := by
  cases request with
  | register command => exact (get?_register registry command name).trans (if_neg other)
  | unregister dropped => exact (get?_unregister registry dropped name).trans (if_neg other)
  | get | names | size | isEmpty => rfl

/-- Bytes tell names apart, so two names of a registry never have the same place in their order. -/
theorem names_ascend (registry : Registry) :
    registry.names.Pairwise fun first second => Registry.bytes first < Registry.bytes second := by
  have different : registry.names.Nodup := (List.mergeSort_perm _ _).nodup_iff.mpr registry.nodup
  have sorted : registry.names.Pairwise fun first second =>
      decide (Registry.bytes first ≤ Registry.bytes second) = true := by
    refine List.pairwise_mergeSort ?_ ?_ _
    · intro first second third before behind
      simp only [decide_eq_true_eq] at before behind ⊢
      exact List.le_trans before behind
    · intro first second
      simpa using List.le_total (Registry.bytes first) (Registry.bytes second)
  refine sorted.imp₂ (fun first second atMost apart => ?_) different
  rw [← List.not_le]
  intro atLeast
  have same := List.le_antisymm (of_decide_eq_true atMost) atLeast
  exact apart (String.toByteArray_inj.mp (ByteArray.ext (Array.toList_inj.mp same)))

theorem length_names (registry : Registry) : registry.names.length = registry.size := by
  rw [Registry.names, List.length_mergeSort, List.length_map]
  rfl

theorem isEmpty_iff (registry : Registry) : registry.isEmpty = true ↔ registry.names = [] := by
  rw [← List.length_eq_zero_iff, length_names, Registry.size, List.length_eq_zero_iff]
  exact List.isEmpty_iff

/-- The last of some requests is the one that registered the command, or it leaves its name alone. -/
theorem current_append_iff :
    Current (history ++ [request]) command ↔
      request = .register command ∨ Current history command ∧ ¬ request.Decides command.name := by
  constructor
  · rintro ⟨before, after, split, untouched⟩
    rcases List.eq_nil_or_concat after with rfl | ⟨earlier, last, rfl⟩
    · obtain ⟨-, same⟩ := List.append_inj' split rfl
      exact .inl (List.singleton_inj.mp same)
    · rw [List.concat_eq_append, ← List.cons_append, ← List.append_assoc] at split
      obtain ⟨rfl, same⟩ := List.append_inj' split rfl
      obtain rfl := List.singleton_inj.mp same
      refine .inr ⟨⟨before, earlier, rfl, fun later member => ?_⟩, ?_⟩
      · exact untouched later (by simp [member])
      · exact untouched request (by simp)
  · rintro (rfl | ⟨⟨before, after, rfl, untouched⟩, other⟩)
    · exact ⟨history, [], rfl, nofun⟩
    · refine ⟨before, after ++ [request], by simp, fun later member => ?_⟩
      rcases List.mem_append.mp member with earlier | last
      · exact untouched later earlier
      · exact List.mem_singleton.mp last ▸ other

/-- The registry finds exactly the commands that its history makes current. -/
def Agrees (registry : Registry) (history : List Request) : Prop :=
  ∀ name, StandsFor history name (registry.get? name)

theorem agrees_nil : Agrees {} [] := by
  refine fun _ _ => ⟨nofun, ?_⟩
  rintro ⟨⟨before, after, split, -⟩, -⟩
  exact absurd split (by simp)

theorem agrees_reply (agrees : Agrees registry history) (request : Request) :
    Agrees (reply registry request).1 (history ++ [request]) := by
  intro name command
  rw [current_append_iff]
  by_cases decides : request.Decides name
  · cases request with
    | register registered =>
      have found : (reply registry (.register registered)).1.get? name = some registered :=
        (get?_register registry registered name).trans (if_pos decides)
      rw [found]
      constructor
      · rintro ⟨⟩
        exact ⟨.inl rfl, decides⟩
      · rintro ⟨same | ⟨-, other⟩, rfl⟩
        · cases same
          rfl
        · exact absurd decides other
    | unregister dropped =>
      have gone : (reply registry (.unregister dropped)).1.get? name = none :=
        (get?_unregister registry dropped name).trans (if_pos decides)
      rw [gone]
      constructor
      · exact nofun
      · rintro ⟨same | ⟨-, other⟩, rfl⟩
        · cases same
        · exact absurd decides other
    | get | names | size | isEmpty => exact decides.elim
  · rw [get?_reply registry decides, agrees name command]
    constructor
    · rintro ⟨current, rfl⟩
      exact ⟨.inr ⟨current, decides⟩, rfl⟩
    · rintro ⟨rfl | ⟨current, -⟩, same⟩
      · exact absurd same decides
      · exact ⟨current, same⟩

theorem lists_names (agrees : Agrees registry history) : Lists history registry.names := by
  refine ⟨names_ascend registry, fun name => ?_⟩
  rw [mem_names_iff, Option.isSome_iff_exists]
  exact exists_congr (agrees name)

/-- A registry that agrees with its history answers as its history says. -/
theorem right_reply (agrees : Agrees registry history) (request : Request) :
    Right history request (reply registry request).2 := by
  have listed := lists_names agrees
  cases request with
  | register command => exact agrees command.name
  | unregister name | get name => exact agrees name
  | names => exact listed
  | size => exact ⟨_, listed, (length_names registry).symm⟩
  | isEmpty => exact ⟨_, listed, isEmpty_iff registry⟩

/-- Every registry agrees with its history, and only registries that were created have any. -/
structure Sound (world : World) : Prop where
  agrees : ∀ number, Agrees (world.registries number) (world.history number)
  held : ∀ number ∈ world.handles, number < world.created
  logged : ∀ exchange ∈ world.log, exchange.registry < world.created

/-- A world in which one more request has been answered. -/
def World.exchanged (world : World) (number : Nat) (request : Request) : World :=
  { world with
    registries :=
      Function.update world.registries number (reply (world.registries number) request).1
    log := world.log ++ [⟨number, request, (reply (world.registries number) request).2⟩] }

theorem step_ask {world : World} (held : world.handles[handle]? = some number)
    (request : Request) : world.step (.ask handle request) = world.exchanged number request := by
  rw [World.step, held]
  rfl

/-- Only the registry that was asked has a longer history. -/
theorem history_exchanged (world : World) (number other : Nat) (request : Request) :
    (world.exchanged number request).history other =
      world.history other ++ if number = other then [request] else [] := by
  simp only [World.exchanged, World.history, List.filter_append, List.map_append]
  by_cases same : number = other <;> simp [same]

theorem sound_exchanged (sound : Sound world) (created : number < world.created)
    (request : Request) : Sound (world.exchanged number request) := by
  refine ⟨fun other => ?_, sound.held, fun exchange member => ?_⟩
  · rw [history_exchanged]
    by_cases same : number = other
    · subst same
      simp only [World.exchanged, Function.update_self, if_true]
      exact agrees_reply (sound.agrees number) request
    · simp only [World.exchanged, Function.update_of_ne (Ne.symm same), if_neg same, List.append_nil]
      exact sound.agrees other
  · rcases List.mem_append.mp member with earlier | last
    · exact sound.logged exchange earlier
    · exact List.mem_singleton.mp last ▸ created

theorem sound_step (sound : Sound world) (step : Step) : Sound (world.step step) := by
  cases step with
  | create =>
    refine ⟨sound.agrees, fun number member => ?_, fun exchange member => ?_⟩
    · rcases List.mem_append.mp member with earlier | last
      · exact Nat.lt_succ_of_lt (sound.held number earlier)
      · exact List.mem_singleton.mp last ▸ Nat.lt_succ_self _
    · exact Nat.lt_succ_of_lt (sound.logged exchange member)
  | clone handle =>
    refine ⟨sound.agrees, fun number member => ?_, sound.logged⟩
    rcases List.mem_append.mp member with earlier | last
    · exact sound.held number earlier
    · exact sound.held number (List.mem_of_getElem? (Option.mem_toList.mp last))
  | ask handle request =>
    cases held : world.handles[handle]? with
    | none => rwa [World.step, held]
    | some number =>
      rw [step_ask held]
      exact sound_exchanged sound (sound.held number (List.mem_of_getElem? held)) request

theorem sound_run (steps : List Step) : Sound (run steps) := by
  have start : Sound {} := ⟨fun _ => agrees_nil, nofun, nofun⟩
  suffices kept : ∀ world, Sound world → Sound (steps.foldl World.step world) from kept {} start
  induction steps with
  | nil => exact fun _ sound => sound
  | cons step rest ih => exact fun world sound => ih _ (sound_step sound step)

/-- At any time and through any handle a request is answered, and as the history of its registry says:
by all that was asked of it so far, through this handle or through another. It changes nothing for
the names that it does not decide. A new registry has no history, and a copy of a handle holds the
same registry. -/
theorem run_answers (steps : List Step) (handle number : Nat) (request : Request)
    (held : (run steps).handles[handle]? = some number) :
    (∃ answer, Right ((run steps).history number) request answer ∧
      (run (steps ++ [.ask handle request])).log =
        (run steps).log ++ [⟨number, request, answer⟩]) ∧
    (∀ name, ¬ request.Decides name →
      ((run (steps ++ [.ask handle request])).registries number).get? name =
        ((run steps).registries number).get? name) ∧
    (run steps).history (run steps).created = [] ∧
    (run (steps ++ [.clone handle])).handles = (run steps).handles ++ [number] := by
  have sound := sound_run steps
  have next (step : Step) : run (steps ++ [step]) = (run steps).step step := by
    rw [run, List.foldl_append]
    rfl
  rw [next, next, step_ask held]
  refine ⟨⟨_, right_reply (sound.agrees number) request, rfl⟩, fun name other => ?_, ?_, ?_⟩
  · simp only [World.exchanged, Function.update_self]
    exact get?_reply _ other
  · have earlier : (run steps).log.filter (·.registry == (run steps).created) = [] := by
      refine List.filter_eq_nil_iff.mpr fun exchange member => ?_
      simpa using Nat.ne_of_lt (sound.logged exchange member)
    rw [World.history, earlier, List.map_nil]
  · simp [World.step, held]

/-- A copied handle finds the command that was registered last through the other one. A registry of its
own has another command under the same name. -/
theorem run_answers_clone :
    let ping : Command := { name := "ping", action := .echo }
    let pong : Command := { name := "ping", action := .custom "pong" 0 }
    let steps : List Step := [.create, .clone 0, .create, .ask 0 (.register ping),
      .ask 1 (.register pong), .ask 2 (.register ping)]
    (run steps).handles[0]? = some 0 ∧
      (∃ answer, Right ((run steps).history 0) (.get "ping") answer ∧
        (run (steps ++ [.ask 0 (.get "ping")])).log =
          (run steps).log ++ [⟨0, .get "ping", answer⟩]) ∧
      (run (steps ++ [.ask 0 (.get "ping")])).log.getLast? =
        some ⟨0, .get "ping", .command (some pong)⟩ := by
  intro ping pong steps
  have held : (run steps).handles[0]? = some 0 := rfl
  exact ⟨held, (run_answers steps 0 0 (.get "ping") held).1, rfl⟩

end ChatTemplate.RegistryHistory
