import ChatTemplate.Proofs.CommandQueue

/-! What a custom command does when it is invoked. It remembers the renderer it was made for. Once that
renderer has been replaced or dropped, and wherever the limit is reached, it refuses. Otherwise it
shows its text as that renderer shows it for the message itself, only one level deeper: the text sees
the same values and the same objects, hands off the same commands in the same order, and what it
shows is sent once. -/
namespace ChatTemplate.CustomCommands
open Chat CommandRuns CommandQueue

/-- What changes a session. All else that a session does leaves it as it is. -/
inductive Change where
  | register (command : Command)
  | unregister (name : String)
  | replaceRenderer (config : Config)
  | dropRenderer
  | replaceMessage (message : Message)
  | closeOutbox
deriving DecidableEq, Repr

def Change.apply (session : Session) : Change → Session
  | .register command => (session.register command).1
  | .unregister name => (session.unregister name).1
  | .replaceRenderer config => session.replaceRenderer config
  | .dropRenderer => session.dropRenderer
  | .replaceMessage message => session.replaceMessage message
  | .closeOutbox => session.closeOutbox

/-- The session behind some changes, in their order. -/
def after (session : Session) (changes : List Change) : Session :=
  changes.foldl Change.apply session

/-- The renderer that was in service is so no more. -/
def Change.EndsService : Change → Prop
  | .replaceRenderer _ | .dropRenderer => True
  | _ => False

/-- No renderer bears a number that has not been given yet. -/
def Numbered (session : Session) : Prop :=
  ∀ renderer, session.renderer = some renderer → renderer.number < session.nextNumber

/-- The number was given to a renderer that is no longer in service. -/
structure Retired (number : Nat) (session : Session) : Prop where
  given : number < session.nextNumber
  gone : ∀ renderer, session.renderer = some renderer → renderer.number ≠ number

variable {session : Session} {bound : Renderer}

theorem renderer_apply (stays : ¬ change.EndsService) :
    (Change.apply session change).renderer = session.renderer := by
  cases change with
  | replaceRenderer | dropRenderer => exact absurd trivial stays
  | register | unregister | replaceMessage | closeOutbox => rfl

theorem numbered_apply (numbered : Numbered session) (change : Change) :
    Numbered (Change.apply session change) := by
  cases change with
  | register | unregister | replaceMessage | closeOutbox => exact numbered
  | replaceRenderer config =>
    rintro renderer ⟨⟩
    exact Nat.lt_succ_self session.nextNumber
  | dropRenderer => exact nofun

/-- Numbers are never given twice. -/
theorem retired_apply (retired : Retired number session) (change : Change) :
    Retired number (Change.apply session change) := by
  cases change with
  | register | unregister | replaceMessage | closeOutbox => exact ⟨retired.given, retired.gone⟩
  | replaceRenderer config =>
    refine ⟨Nat.lt_succ_of_lt retired.given, ?_⟩
    rintro renderer ⟨⟩
    exact (Nat.ne_of_lt retired.given).symm
  | dropRenderer => exact ⟨retired.given, nofun⟩

theorem retired_of_endsService (numbered : Numbered session)
    (serving : session.renderer = some bound) (ends : change.EndsService) :
    Retired bound.number (Change.apply session change) := by
  have given := numbered bound serving
  cases change with
  | register | unregister | replaceMessage | closeOutbox => exact ends.elim
  | replaceRenderer config =>
    refine ⟨Nat.lt_succ_of_lt given, ?_⟩
    rintro renderer ⟨⟩
    exact (Nat.ne_of_lt given).symm
  | dropRenderer => exact ⟨given, nofun⟩

theorem after_append (session : Session) (before later : List Change) :
    after session (before ++ later) = after (after session before) later := List.foldl_append

theorem numbered_after (numbered : Numbered session) (changes : List Change) :
    Numbered (after session changes) := by
  induction changes generalizing session with
  | nil => exact numbered
  | cons change rest ih => exact ih (numbered_apply numbered change)

theorem retired_after (retired : Retired number session) (changes : List Change) :
    Retired number (after session changes) := by
  induction changes generalizing session with
  | nil => exact retired
  | cons change rest ih => exact ih (retired_apply retired change)

theorem renderer_after (stay : ∀ change ∈ changes, ¬ change.EndsService) :
    (after session changes).renderer = session.renderer := by
  induction changes generalizing session with
  | nil => rfl
  | cons change rest ih =>
    obtain ⟨first, others⟩ := List.forall_mem_cons.mp stay
    exact (ih others).trans (renderer_apply first)

/-- A renderer that was replaced or dropped at any time does not come back. -/
theorem retired_of_ended (numbered : Numbered session) (serving : session.renderer = some bound)
    (ended : ∃ change ∈ changes, change.EndsService) :
    Retired bound.number (after session changes) := by
  induction changes generalizing session with
  | nil => simp at ended
  | cons change rest ih =>
    by_cases ends : change.EndsService
    · exact retired_after (retired_of_endsService numbered serving ends) rest
    · refine ih (numbered_apply numbered change) ((renderer_apply ends).trans serving) ?_
      obtain ⟨other, member, stops⟩ := ended
      rcases List.mem_cons.mp member with rfl | behind
      · exact absurd stops ends
      · exact ⟨other, behind, stops⟩

/-- What a rendering is for: a message, which may report custom commands before it, or whatever a
custom command was invoked for, seen from inside the command. -/
inductive Context where
  | received (message : Message) (depth : Nat)
  | inside (outer : Context) (depth : Nat)
deriving DecidableEq, Repr

/-- The message at the bottom of a context, whose parts all contexts around it pass on. -/
def Context.origin : Context → Message
  | .received message _ => message
  | .inside outer _ => outer.origin

def Context.depth : Context → Nat
  | .received _ depth | .inside _ depth => depth

/-- The context that the text of a custom command sees. -/
def Context.nested (context : Context) : Context := .inside context (context.depth + 1)

/-- The host of templates for a context. -/
def hostFor (session : Session) (context : Context) : Host Place :=
  context.origin.host (session.accepts true)

theorem hostFor_eq (session : Session) (present : context.origin = session.message) :
    hostFor session context = session.host true := by
  rw [hostFor, present]
  rfl

/-- What a custom command answers, by what its text shows. -/
inductive Ends (session : Session) :
    Except Fault String → Except Failure Unit → List Event → Prop where
  | malformed (fault : Fault) : Ends session (.error fault) (.error (.malformed fault)) []
  | blank (empty : Text.trimmed shown = "") : Ends session (.ok shown) (.ok ()) []
  | sent (filled : Text.trimmed shown ≠ "") (opened : session.outboxOpen = true) :
      Ends session (.ok shown) (.ok ()) [.sent (Text.trimmed shown)]
  | unsent (filled : Text.trimmed shown ≠ "") (closed : session.outboxOpen = false) :
      Ends session (.ok shown) (.error .sendFailed) []

variable {command : Command}

theorem invoke_refused {failure : Failure} (action : command.action = .custom text number)
    (refused : session.renderCustom depth command.name text number = { outcome := .error failure })
    (args : List String) :
    session.invoke depth command args = { outcome := .error failure } := by
  simp only [Session.invoke, action, refused]

theorem invoke_retired (action : command.action = .custom text number)
    (retired : Retired number session) (depth : Nat) (args : List String) :
    session.invoke depth command args =
      { outcome := .error (.commandFailed command.name .rendererGone) } := by
  refine invoke_refused action ?_ args
  unfold Session.renderCustom
  cases serving : session.renderer with
  | none => rfl
  | some renderer => exact if_pos (retired.gone renderer serving)

theorem invoke_limit (action : command.action = .custom text bound.number)
    (serving : session.renderer = some bound) (reached : bound.config.maxDepth ≤ depth)
    (args : List String) :
    session.invoke depth command args =
      { outcome := .error (.commandFailed command.name (.nestedTooDeep bound.config.maxDepth)) } := by
  refine invoke_refused action ?_ args
  simp only [Session.renderCustom, serving]
  exact (if_neg (not_not.mpr rfl)).trans (if_pos reached)

theorem invoke_shown (action : command.action = .custom text bound.number)
    (serving : session.renderer = some bound) (short : depth < bound.config.maxDepth)
    (args : List String) :
    ∃ outcome events,
      Ends session (render (session.host true) bound.config text).outcome outcome events ∧
      session.invoke depth command args =
        { outcome := outcome
          events := events
          started := session.handedOff bound.config.deniedMessage
            (render (session.host true) bound.config text).calls } := by
  have rendered := renderCustom_serving serving short command.name text
  simp only [Session.invoke, action, rendered]
  cases (render (session.host true) bound.config text).outcome with
  | error fault => exact ⟨_, _, .malformed fault, rfl⟩
  | ok shown =>
    by_cases blank : Text.trimmed shown = ""
    · exact ⟨_, _, .blank blank, if_pos blank⟩
    · cases opened : session.outboxOpen with
      | true => exact ⟨_, _, .sent blank opened, by simp [blank, Session.send, opened]⟩
      | false => exact ⟨_, _, .unsent blank opened, by simp [blank, Session.send, opened]⟩

theorem numbered_start (config : Config) (message : Message) :
    Numbered (Session.start config message) := by
  rintro renderer ⟨⟩
  exact Nat.zero_lt_one

/-- A custom command is made for the renderer in service at that time. -/
theorem custom?_eq_some {text : String} (made : session.custom? name text = some command) :
    ∃ bound, session.renderer = some bound ∧ command.name = name ∧ command.allowed = true ∧
      command.action = .custom text bound.number := by
  obtain ⟨bound, serving, rfl⟩ := Option.map_eq_some_iff.mp made
  exact ⟨bound, serving, rfl, rfl, rfl⟩

/-- A custom command was made at some time and is invoked at a later one, for the message of that time
or from inside of custom commands on its behalf. If its renderer has been replaced or dropped since,
or its limit is reached, the command fails with nothing sent and nothing handed off. Otherwise its
text sees the host that it would see without the command and is shown in the same way, down to every
lookup. What it hands off is what the text hands off by itself, one level deeper, and what it shows
decides how the invocation ends. Arguments change nothing. -/
theorem invoke_custom {config : Config} {message : Message} {before later : List Change}
    {name text : String} {context : Context}
    (made : (after (.start config message) before).custom? name text = some command)
    (present : context.origin = (after (.start config message) (before ++ later)).message)
    (args : List String) :
    ∃ bound, (after (.start config message) before).renderer = some bound ∧
      let session := after (.start config message) (before ++ later)
      let invoked := session.invoke context.depth command args
      ((∃ change ∈ later, change.EndsService) →
        invoked = { outcome := .error (.commandFailed name .rendererGone) }) ∧
      ((∀ change ∈ later, ¬ change.EndsService) → bound.config.maxDepth ≤ context.depth →
        invoked =
          { outcome := .error (.commandFailed name (.nestedTooDeep bound.config.maxDepth)) }) ∧
      ((∀ change ∈ later, ¬ change.EndsService) → context.depth < bound.config.maxDepth →
        let direct := render (hostFor session context) bound.config text
        let jobs := session.handedOff bound.config.deniedMessage direct.calls
        hostFor session context.nested = hostFor session context ∧
          render (hostFor session context.nested) bound.config text = direct ∧
          session.run? context.depth true text =
            some (direct.outcome, session.settle context.depth jobs) ∧
          ∃ outcome events, Ends session direct.outcome outcome events ∧
            invoked = { outcome := outcome, events := events, started := jobs } ∧
            session.finish context.depth invoked =
              (outcome, events ++ session.settle context.nested.depth jobs) ∧
            ∀ refusal, followUps (session.runJob context.depth ⟨command, args, refusal⟩) =
              (waiting context.depth jobs).map fun task => { task with depth := task.depth + 1 }) ∧
      ∀ others, session.invoke context.depth command others = invoked := by
  obtain ⟨bound, serving, rfl, allowed, action⟩ := custom?_eq_some made
  refine ⟨bound, serving, ?_, ?_, ?_, ?_⟩
  · intro ended
    rw [after_append]
    have numbered := numbered_after (numbered_start config message) before
    exact invoke_retired action (retired_of_ended numbered serving ended) context.depth args
  · intro stay reached
    rw [after_append]
    exact invoke_limit action ((renderer_after stay).trans serving) reached args
  · intro stay short
    have serves : (after (.start config message) (before ++ later)).renderer = some bound := by
      rw [after_append]
      exact (renderer_after stay).trans serving
    generalize after (.start config message) (before ++ later) = session at present serves
    intro direct jobs
    have host : hostFor session context = session.host true := hostFor_eq session present
    obtain ⟨outcome, events, ends, invoked⟩ := invoke_shown action serves short args
    rw [← host] at ends invoked
    refine ⟨rfl, rfl, ?_, outcome, events, ends, invoked, ?_, fun refusal => ?_⟩
    · simp only [Session.run?, serves, Option.map_some, Session.run, ← host]
      rfl
    · rw [invoked]
      rfl
    · have started : (session.runJob context.depth ⟨command, args, refusal⟩).started = jobs := by
        simp only [Session.runJob, allowed, invoked, ↓reduceIte]
        rfl
      rw [followUps, started, runJob_depth, waiting, waiting, List.map_map]
      rfl
  · intro others
    simp only [Session.invoke, action]

/-- A greeting that invokes itself, from inside of another command. Its renderer is still in service,
and the limit leaves it one more level. -/
theorem invoke_custom_greeting :
    let text := " Hello \x7bauthor:name\x7d! \x7bgreet you\x7d "
    let greet : Command := { name := "greet", action := .custom text 1 }
    let before : List Change := [.replaceRenderer { maxDepth := 3 }]
    let later : List Change := [.register greet, .replaceMessage .standard]
    let session := after (.start {} .standard) (before ++ later)
    let context : Context := .inside (.received .standard 1) 2
    (after (.start {} .standard) before).custom? "greet" text = some greet ∧
      context.origin = session.message ∧
      (∃ outcome events,
        Ends session (render (hostFor session context) { maxDepth := 3 } text).outcome outcome events ∧
        session.invoke 2 greet ["now"] =
          { outcome := outcome
            events := events
            started := [⟨greet, ["you"], Config.deniedMessage {}⟩] }) ∧
      (session.invoke 2 greet ["now"]).events = [.sent "Hello user!"] := by
  intro text greet before later session context
  have made : (after (.start {} .standard) before).custom? "greet" text = some greet := rfl
  have present : context.origin = session.message := rfl
  obtain ⟨bound, serving, -, -, shows, -⟩ := invoke_custom made present ["now"]
  cases serving
  have stay : ∀ change ∈ later, ¬ change.EndsService := by simp [later, Change.EndsService]
  obtain ⟨-, -, -, outcome, events, ends, invoked, -⟩ := shows stay (by decide)
  refine ⟨made, present, ⟨outcome, events, ends, invoked.trans ?_⟩, by decide +kernel⟩
  refine congrArg (Attempt.mk outcome events) ?_
  decide +kernel

end ChatTemplate.CustomCommands
