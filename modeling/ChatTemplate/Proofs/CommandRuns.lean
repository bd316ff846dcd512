import ChatTemplate.Chat.Session

/-! What the run of one command can do. Most commands hand off nothing. A custom command either shows
its text, which hands off the commands in the text and answers with the rest, or refuses; it
refuses wherever its depth has reached the limit. -/
namespace ChatTemplate.CommandRuns
open Chat

variable {session : Session}

@[simp] theorem runJob_depth (session : Session) (depth : Nat) (job : Job) :
    (session.runJob depth job).depth = depth := by
  unfold Session.runJob
  split <;> rfl

@[simp] theorem runJob_job (session : Session) (depth : Nat) (job : Job) :
    (session.runJob depth job).job = job := by
  unfold Session.runJob
  split <;> rfl

/-- The renderer in service sets the limit. -/
theorem limit_serving (serving : session.renderer = some renderer) :
    session.limit = renderer.config.maxDepth := by
  simp [Session.limit, serving]

/-- A custom command that its invoker may run. -/
def IsCustom (job : Job) : Prop :=
  job.command.allowed = true ∧ ∃ text number, job.command.action = .custom text number

/-- What is seen of a custom command once its text has been rendered. Blank text is not sent. -/
def reply (session : Session) (name : String) : Except Fault String → List Event
  | .error fault => [.failed name (.malformed fault)]
  | .ok shown =>
    if Text.trimmed shown = "" then []
    else if session.outboxOpen then [.sent (Text.trimmed shown)]
    else [.failed name .sendFailed]

/-- A custom command whose text was rendered: it handed off the commands in the text and answered
with what the text shows. -/
def Renders (session : Session) (run : JobRun) : Prop :=
  ∃ text renderer, run.job.command.allowed = true ∧
    run.job.command.action = .custom text renderer.number ∧ session.renderer = some renderer ∧
    run.started = session.handedOff renderer.config.deniedMessage
      (render (session.host true) renderer.config text).calls ∧
    run.events = reply session run.job.command.name
      (render (session.host true) renderer.config text).outcome

/-- A command that failed by itself, with nothing sent and nothing handed off. -/
def Refuses (run : JobRun) : Prop :=
  run.started = [] ∧ ∃ fault,
    run.events = [.failed run.job.command.name (.commandFailed run.job.command.name fault)]

/-- A refusal is no answer that a rendered text can give. -/
theorem not_renders_of_refuses (refuses : Refuses run) : ¬ Renders session run := by
  rintro ⟨text, renderer, _, _, _, _, shown⟩
  obtain ⟨_, fault, refused⟩ := refuses
  rw [refused] at shown
  cases ended : (render (session.host true) renderer.config text).outcome with
  | error fault => simp [ended, reply] at shown
  | ok out =>
    simp only [ended, reply] at shown
    split at shown
    · cases shown
    · split at shown <;> simp at shown

/-- Short of the limit the renderer in service shows the text of a custom command made for it. -/
theorem renderCustom_serving (serving : session.renderer = some renderer)
    (short : depth < renderer.config.maxDepth) (name text : String) :
    session.renderCustom depth name text renderer.number =
      { outcome := match (render (session.host true) renderer.config text).outcome with
          | .ok out => .ok (Text.trimmed out)
          | .error fault => .error (.malformed fault)
        started := session.handedOff renderer.config.deniedMessage
          (render (session.host true) renderer.config text).calls } := by
  simp only [Session.renderCustom, serving]
  exact (if_neg fun other => other rfl).trans (if_neg (Nat.not_le.mpr short))

/-- The text of a custom command is rendered short of the limit, or the command fails by itself. -/
theorem renderCustom_cases (session : Session) (depth : Nat) (name text : String) (number : Nat) :
    (∃ renderer, session.renderer = some renderer ∧ renderer.number = number ∧
      depth < session.limit ∧
      session.renderCustom depth name text number =
        { outcome := match (render (session.host true) renderer.config text).outcome with
            | .ok out => .ok (Text.trimmed out)
            | .error fault => .error (.malformed fault)
          started := session.handedOff renderer.config.deniedMessage
            (render (session.host true) renderer.config text).calls }) ∨
    ∃ fault, session.renderCustom depth name text number =
      { outcome := .error (.commandFailed name fault) } := by
  cases serving : session.renderer with
  | none => exact .inr ⟨.rendererGone, by simp only [Session.renderCustom, serving]⟩
  | some renderer =>
    by_cases other : renderer.number ≠ number
    · exact .inr ⟨.rendererGone, by simp only [Session.renderCustom, serving, if_pos other]⟩
    · obtain rfl := Decidable.not_not.mp other
      by_cases reached : renderer.config.maxDepth ≤ depth
      · exact .inr ⟨.nestedTooDeep renderer.config.maxDepth, by
          simp only [Session.renderCustom, serving, if_neg other, if_pos reached]⟩
      · have short := Nat.lt_of_not_le reached
        refine .inl ⟨renderer, rfl, rfl, ?_, renderCustom_serving serving short name text⟩
        rwa [limit_serving serving]

/-- A custom command whose text was rendered answers with what the text shows. -/
theorem runJob_rendered {shown : Except Fault String} {handed : List Job}
    (allowed : job.command.allowed = true) (action : job.command.action = .custom text number)
    (rendered : session.renderCustom depth job.command.name text number =
      { outcome := match shown with
          | .ok out => .ok (Text.trimmed out)
          | .error fault => .error (.malformed fault)
        started := handed }) :
    session.runJob depth job =
      { depth := depth
        job := job
        events := reply session job.command.name shown
        started := handed } := by
  simp only [Session.runJob, allowed, Session.invoke, action, rendered, ↓reduceIte]
  cases shown with
  | error fault => rfl
  | ok out =>
    simp only [reply, Session.send]
    by_cases blank : Text.trimmed out = ""
    · simp [blank]
    · by_cases opened : session.outboxOpen = true <;> simp [blank, opened]

/-- A custom command renders short of the limit, or it refuses. -/
theorem runJob_custom (session : Session) (depth : Nat) (custom : IsCustom job) :
    (Renders session (session.runJob depth job) ∧ depth < session.limit) ∨
      Refuses (session.runJob depth job) := by
  obtain ⟨allowed, text, number, action⟩ := custom
  rcases renderCustom_cases session depth job.command.name text number with
    ⟨renderer, serving, rfl, short, rendered⟩ | ⟨fault, refused⟩
  · rw [runJob_rendered allowed action rendered]
    exact .inl ⟨⟨text, renderer, allowed, action, serving, rfl, rfl⟩, short⟩
  · right
    simp [Refuses, Session.runJob, allowed, Session.invoke, action, refused]

/-- A run of a custom command that renders does so short of the limit. -/
theorem renders_depth (renders : Renders session (session.runJob depth job)) :
    depth < session.limit := by
  obtain ⟨text, renderer, allowed, action, -⟩ := id renders
  rw [runJob_job] at allowed action
  rcases runJob_custom session depth ⟨allowed, text, renderer.number, action⟩ with rendered | refuses
  · exact rendered.2
  · exact absurd renders (not_renders_of_refuses refuses)

/-- A custom command at the limit refuses. -/
theorem refuses_limit (custom : IsCustom job) (reached : session.limit ≤ depth) :
    Refuses (session.runJob depth job) := by
  rcases runJob_custom session depth custom with rendered | refuses
  · exact absurd rendered.2 (by omega)
  · exact refuses

private theorem started_other (depth : Nat) (other : ¬ IsCustom job) :
    (session.runJob depth job).started = [] := by
  by_cases allowed : job.command.allowed = true
  · simp only [Session.runJob, allowed, ↓reduceIte]
    cases action : job.command.action with
    | echo =>
      simp only [Session.invoke, action, Session.send]
      split <;> rfl
    | fail message => simp only [Session.invoke, action]
    | custom text number => exact absurd ⟨allowed, text, number, action⟩ other
  · simp only [Session.runJob, allowed, Bool.false_eq_true, ↓reduceIte]

/-- Only the rendered text of a custom command hands off anything. -/
theorem renders_of_started (handed : (session.runJob depth job).started ≠ []) :
    Renders session (session.runJob depth job) := by
  by_cases custom : IsCustom job
  · rcases runJob_custom session depth custom with rendered | refuses
    · exact rendered.1
    · exact absurd refuses.1 handed
  · exact absurd (started_other depth custom) handed

/-- A job at the limit hands off nothing. -/
theorem runJob_started (depth : Nat) (job : Job) (reached : session.limit ≤ depth) :
    (session.runJob depth job).started = [] := by
  by_cases custom : IsCustom job
  · exact (refuses_limit custom reached).1
  · exact started_other depth custom

end ChatTemplate.CommandRuns
