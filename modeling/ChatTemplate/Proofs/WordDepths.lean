import ChatTemplate.Chat.Session
import ChatTemplate.Proofs.CountingScanner

/-! Rendering with machine words for depths, on operations that are not defined everywhere. A depth is
counted up only behind a comparison with a limit that is a word itself, so the largest word is never
counted up, whatever the limit is and whatever depth a message reports. Together with operators,
expressions and the reading of templates, no part of a rendering breaks down. -/
namespace ChatTemplate.WordDepths
open PartialOperations

/-- The word after another one. The largest word has none. -/
def next? (depth : UInt64) : Option UInt64 :=
  if depth.toNat + 1 < UInt64.size then some (depth + 1) else none

theorem toNat_next (next : next? depth = some deeper) : deeper.toNat = depth.toNat + 1 := by
  unfold next? at next
  split at next
  · next room =>
    rw [← Option.some.inj next, UInt64.toNat_add, UInt64.toNat_one]
    exact Nat.mod_eq_of_lt room
  · cases next

/-- A depth below any limit can be counted up. -/
theorem next_below {depth limit : UInt64} (below : depth < limit) :
    next? depth = some (depth + 1) := by
  have bound := limit.toNat_lt
  have order := UInt64.lt_iff_toNat_lt.mp below
  rw [next?, if_pos]
  exact Nat.lt_of_le_of_lt order bound

example : next? (.ofNat (UInt64.size - 1)) = none := by decide

section
variable {O : Type} [DecidableEq O]

/-- Whether a condition holds. -/
def predicateHolds (host : Host O) (predicate : String) : Guarded Bool := do
  let value ← evaluate host (Expression.words predicate)
  return value.isTruthy

/-- The value that an exec block names. -/
def execValue (host : Host O) (text : String) : Guarded (Option (Value O)) :=
  match Text.cutAt? ':' text.toList with
  | none => unbreached (host.lookUp (Text.trimmed text))
  | some (before, after) => do
    let object ← unbreached (host.lookUp (String.ofList (Text.trim before)))
    let name := String.ofList (Text.trim after)
    let named ← unbreached (host.lookUp name)
    let value ← apply host.toObjects (.binary .attribute)
      [object.getD .null, named.getD (.str name)]
    return some value

/-- A value shows itself; what names none is tried as a command or shows its own text. -/
def renderExec (host : Host O) (text : String) : Guarded String := do
  match ← execValue host text with
  | some value => return value.display host.toObjects
  | none => unbreached (.ask (.execute text) (if host.execute text then "" else text))

/-- Whether a branch has its turn and is selected. -/
def selectBranch (host : Host O) (armed : Bool) (kind : BranchKind) (predicate : Option String) :
    Guarded Selection :=
  match kind, armed with
  | .ifBranch, _ | .elifBranch, true => do
    return if ← predicateHolds host (predicate.getD "") then .selected else .refused
  | .elseBranch, true => return .selected
  | .elifBranch, false | .elseBranch, false => return .passed

/-- Shows tokens one after another, selected bodies by means of `body`. -/
def renderTokens (host : Host O) (body : String → Guarded String) :
    Bool → List Token → Guarded String
  | _, [] => return ""
  | _, .raw text :: rest => do
    return text ++ (← renderTokens host body false rest)
  | _, .exec text :: rest => do
    let shown ← renderExec host text
    return shown ++ (← renderTokens host body false rest)
  | armed, .branch kind predicate source :: rest => do
    match ← selectBranch host armed kind predicate with
    | .selected =>
      let shown ← body source
      return shown ++ (← renderTokens host body false rest)
    | .refused => renderTokens host body true rest
    | .passed => renderTokens host body false rest

/-- Shows a body of tokens at some depth, whose own bodies lie one deeper. -/
def renderBody (host : Host O) (limit depth : UInt64) (source : String) : Guarded String :=
  if limit ≤ depth then fail (.nestedTooDeep limit.toNat)
  else do
    let tokens ← CountingScanner.lex source
    -- the word is matched on here because the recursion ends by it
    match _counted : next? depth with
    | none => throw .aboveLargest
    | some deeper => renderTokens host (renderBody host limit deeper) false tokens
termination_by limit.toNat - depth.toNat
decreasing_by
  have counted := toNat_next _counted
  have below := UInt64.lt_iff_toNat_lt.mp (UInt64.not_le.mp ‹¬ limit ≤ depth›)
  omega

/-- Shows the tokens of a template whose bodies nest no deeper than the limit. -/
def interpret (host : Host O) (limit : UInt64) (tokens : List Token) : Guarded String :=
  renderTokens host (renderBody host limit 0) false tokens

/-- What a template shows. -/
def render (host : Host O) (limit : UInt64) (fastPath : Bool) (source : String) : Guarded String :=
  if fastPath && !hasOpening source.toList then return source
  else do
    let tokens ← CountingScanner.lex source
    interpret host limit tokens

theorem predicateHolds_eq (host : Host O) (predicate : String) :
    predicateHolds host predicate = unbreached (ChatTemplate.predicateHolds host predicate) := by
  rw [predicateHolds, ChatTemplate.predicateHolds, evaluate_eq, map_eq_pure_bind, unbreached_bind]
  rfl

theorem execValue_eq (host : Host O) (text : String) :
    execValue host text = unbreached (ChatTemplate.execValue host text) := by
  rw [execValue, ChatTemplate.execValue]
  cases Text.cutAt? ':' text.toList with
  | none => rfl
  | some parts => simp only [apply_eq, unbreached_bind, unbreached_pure]; rfl

theorem renderExec_eq (host : Host O) (text : String) :
    renderExec host text = unbreached (ChatTemplate.renderExec host text) := by
  rw [renderExec, ChatTemplate.renderExec, execValue_eq, unbreached_bind]
  congr 1
  funext value
  cases value <;> rfl

theorem selectBranch_eq (host : Host O) (armed : Bool) (kind : BranchKind)
    (predicate : Option String) :
    selectBranch host armed kind predicate =
      unbreached (ChatTemplate.selectBranch host armed kind predicate) := by
  cases kind <;> cases armed <;>
    simp only [selectBranch, ChatTemplate.selectBranch, predicateHolds_eq, unbreached_bind,
      unbreached_pure]

/-- Tokens break down nowhere but in a body. -/
theorem renderTokens_eq (host : Host O) {guarded : String → Guarded String}
    {body : String → Traced String} (same : ∀ source, guarded source = unbreached (body source))
    (armed : Bool) (tokens : List Token) :
    renderTokens host guarded armed tokens =
      unbreached (ChatTemplate.renderTokens host body armed tokens) := by
  induction tokens generalizing armed with
  | nil => rfl
  | cons token rest ih =>
    cases token with
    | raw text =>
      simp only [renderTokens, ChatTemplate.renderTokens, ih, unbreached_bind, unbreached_pure]
    | exec text =>
      simp only [renderTokens, ChatTemplate.renderTokens, ih, renderExec_eq, unbreached_bind,
        unbreached_pure]
    | branch kind predicate source =>
      rw [renderTokens, ChatTemplate.renderTokens, selectBranch_eq, unbreached_bind]
      congr 1
      funext selection
      cases selection <;> simp only [ih, same, unbreached_bind, unbreached_pure]

/-- Bodies are shown as deep as there are levels left between their depth and the limit. -/
theorem renderBody_eq (host : Host O) (limit depth : UInt64) (source : String) :
    renderBody host limit depth source =
      unbreached (ChatTemplate.renderBody host limit.toNat (limit.toNat - depth.toNat) source) := by
  induction left : limit.toNat - depth.toNat generalizing depth source with
  | zero =>
    have reached : limit ≤ depth := UInt64.le_iff_toNat_le.mpr (by omega)
    rw [renderBody, if_pos reached]
    rfl
  | succ levels ih =>
    have below : depth < limit := UInt64.lt_iff_toNat_lt.mpr (by omega)
    have deeper := next_below below
    have inside (source : String) : renderBody host limit (depth + 1) source =
        unbreached (ChatTemplate.renderBody host limit.toNat levels source) :=
      ih (depth + 1) source (by have := toNat_next deeper; omega)
    rw [renderBody, if_neg (UInt64.not_le.mpr below), ChatTemplate.renderBody, unbreached_bind,
      CountingScanner.lex_eq]
    congr 1
    funext tokens
    split
    · next none => simp [deeper] at none
    · next some =>
      rw [deeper] at some
      cases some
      exact renderTokens_eq host inside false tokens

theorem interpret_eq (host : Host O) (limit : UInt64) (tokens : List Token) :
    interpret host limit tokens = unbreached (ChatTemplate.interpret host limit.toNat tokens) :=
  renderTokens_eq host (fun source => renderBody_eq host limit 0 source) false tokens

theorem render_eq (host : Host O) (limit : UInt64) (config : Config)
    (same : config.maxDepth = limit.toNat) (source : String) :
    render host limit config.fastPath source = unbreached (ChatTemplate.render host config source) := by
  rw [render, ChatTemplate.render, same]
  split
  · rfl
  · rw [renderFully, unbreached_bind, CountingScanner.lex_eq, funext (interpret_eq host limit)]

end

/-! ### Custom commands -/

section
open Chat

/-- A job with the depth that its context reports. -/
structure PlacedJob where
  depth : UInt64
  job : Job

/-- Jobs in contexts of one depth. -/
def placeAt (depth : UInt64) (jobs : List Job) : List PlacedJob := jobs.map (⟨depth, ·⟩)

theorem placeAt_job (depth : UInt64) (jobs : List Job) :
    (placeAt depth jobs).map (·.job) = jobs := by
  rw [placeAt, List.map_map]
  exact List.map_id jobs

theorem placeAt_depth (placed : PlacedJob) (member : placed ∈ placeAt depth jobs) :
    placed.depth = depth := by
  obtain ⟨job, -, rfl⟩ := List.mem_map.mp member
  rfl

/-- How the rendering of a custom command ends, and what it hands off. -/
structure CustomRun where
  outcome : Except Failure String
  started : List PlacedJob := []

/-- The same without the depths. -/
def CustomRun.attempt (run : CustomRun) : Attempt String where
  outcome := run.outcome
  started := run.started.map (·.job)

/-- Shows a text whose commands have contexts of the given depth. -/
def renderAt (session : Session) (config : Config) (depth : UInt64) (text : String) :
    Except Breach CustomRun :=
  let limit := UInt64.ofNat config.maxDepth
  let shown := (render (session.host true) limit config.fastPath text).run
  let started := placeAt depth (session.handedOff config.deniedMessage shown.calls)
  match shown.outcome with
  | .ok (.ok out) => .ok { outcome := .ok (Text.trimmed out), started := started }
  | .ok (.error breach) => .error breach
  | .error fault => .ok { outcome := .error (.malformed fault), started := started }

/-- Shows the text of a custom command in a context that reports some depth. What the text hands off
has a context one deeper. -/
def renderCustom (session : Session) (depth : UInt64) (name text : String) (number : Nat) :
    Except Breach CustomRun :=
  match session.renderer with
  | none => .ok { outcome := .error (.commandFailed name .rendererGone) }
  | some renderer =>
    let limit := UInt64.ofNat renderer.config.maxDepth
    if renderer.number ≠ number then
      .ok { outcome := .error (.commandFailed name .rendererGone) }
    else if limit ≤ depth then
      .ok { outcome := .error (.commandFailed name (.nestedTooDeep limit.toNat)) }
    else
      match next? depth with
      | none => .error .aboveLargest
      | some deeper => renderAt session renderer.config deeper text

theorem renderAt_eq (session : Session) (fits : config.maxDepth < UInt64.size) (depth : UInt64)
    (text : String) :
    renderAt session config depth text = .ok
      { outcome := match (ChatTemplate.render (session.host true) config text).outcome with
          | .ok out => .ok (Text.trimmed out)
          | .error fault => .error (.malformed fault)
        started := placeAt depth (session.handedOff config.deniedMessage
          (ChatTemplate.render (session.host true) config text).calls) } := by
  have word : config.maxDepth = (UInt64.ofNat config.maxDepth).toNat :=
    (UInt64.toNat_ofNat_of_lt fits).symm
  rw [renderAt, render_eq _ _ config word, unbreached_run]
  dsimp only
  cases (ChatTemplate.render (session.host true) config text).outcome <;> rfl

/-- Whatever depth a context reports, the text of a custom command is shown one deeper or not at all. -/
theorem renderCustom_ok (session : Session) (fits : session.limit < UInt64.size) (depth : UInt64)
    (name text : String) (number : Nat) :
    ∃ run, renderCustom session depth name text number = .ok run ∧
      run.attempt = session.renderCustom depth.toNat name text number ∧
      ∀ placed ∈ run.started, placed.depth.toNat = depth.toNat + 1 := by
  unfold renderCustom Session.renderCustom
  unfold Session.limit at fits
  cases service : session.renderer with
  | none => exact ⟨_, rfl, rfl, nofun⟩
  | some renderer =>
    simp only [service] at fits
    have word : (UInt64.ofNat renderer.config.maxDepth).toNat = renderer.config.maxDepth :=
      UInt64.toNat_ofNat_of_lt fits
    have order : UInt64.ofNat renderer.config.maxDepth ≤ depth ↔
        renderer.config.maxDepth ≤ depth.toNat := by rw [UInt64.le_iff_toNat_le, word]
    dsimp only
    by_cases gone : renderer.number ≠ number
    · rw [if_pos gone, if_pos gone]
      exact ⟨_, rfl, rfl, nofun⟩
    rw [if_neg gone, if_neg gone]
    by_cases reached : UInt64.ofNat renderer.config.maxDepth ≤ depth
    · rw [if_pos reached, if_pos (order.mp reached), word]
      exact ⟨_, rfl, rfl, nofun⟩
    have deeper := next_below (UInt64.not_le.mp reached)
    rw [if_neg reached, if_neg (mt order.mpr reached), deeper]
    refine ⟨_, renderAt_eq session fits (depth + 1) text,
      congrArg (Attempt.mk _ []) (placeAt_job _ _), fun placed member => ?_⟩
    rw [placeAt_depth placed member, toNat_next deeper]

end

/-- Nothing breaks down: no operator on any operands, no expression of any words whatever they mean, no
reading of any text, no rendering of any tokens up to any limit that is a word, and no custom command
in a context of any depth. Each of them asks the host the same and ends the same as on operations that
cannot break down, and what a custom command hands off lies exactly one deeper. -/
theorem no_breach {O : Type} [DecidableEq O] (host : Host O) (session : Chat.Session)
    (fits : session.limit < UInt64.size) :
    (∀ op operands, apply host.toObjects op operands =
      unbreached (.ofExcept (op.apply host.toObjects operands))) ∧
    (∀ words, evaluate host words = unbreached (Expression.evaluate host words)) ∧
    (∀ source, CountingScanner.lex source = unbreached (.ofExcept (lex source))) ∧
    (∀ limit tokens, interpret host limit tokens =
      unbreached (ChatTemplate.interpret host limit.toNat tokens)) ∧
    (∀ depth name text number, ∃ run, renderCustom session depth name text number = .ok run ∧
      run.attempt = session.renderCustom depth.toNat name text number ∧
      ∀ placed ∈ run.started, placed.depth.toNat = depth.toNat + 1) :=
  ⟨apply_eq host.toObjects, evaluate_eq host, CountingScanner.lex_eq, interpret_eq host,
    renderCustom_ok session fits⟩

/-- With the largest limit there is, a command at the last depth below it hands off another one. -/
theorem no_breach_largest_limit :
    let ping : Chat.Command := { name := "ping", action := .echo }
    let session := ((Chat.Session.start { maxDepth := UInt64.size - 1 } .standard).register ping).1
    session.limit < UInt64.size ∧
      ∃ run, renderCustom session (.ofNat (UInt64.size - 2)) "again" "\x7bping\x7d" 0 = .ok run ∧
        run.attempt.outcome = .ok "" ∧
        run.attempt.started = [⟨ping, [], Config.deniedMessage {}⟩] ∧
        ∀ placed ∈ run.started, placed.depth.toNat = UInt64.size - 1 := by
  intro ping session
  have fits : session.limit < UInt64.size := by decide
  obtain ⟨-, -, -, -, custom⟩ := no_breach (contextFree noObjects) session fits
  obtain ⟨run, ended, same, deeper⟩ := custom (.ofNat (UInt64.size - 2)) "again" "\x7bping\x7d" 0
  refine ⟨fits, run, ended, (congrArg Chat.Attempt.outcome same).trans ?_,
    (congrArg Chat.Attempt.started same).trans ?_, deeper⟩
  · decide +kernel
  · decide +kernel

end ChatTemplate.WordDepths
