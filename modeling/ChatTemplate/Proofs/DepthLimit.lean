import Mathlib.Control.Monad.Basic
import ChatTemplate.Proofs.Scanning
import ChatTemplate.Rendering.Tokens

/-! What the depth limit changes. Without a limit a rendering still ends, because every body is
shorter than the text its branch was read from. Such a rendering marks where it starts on a
selected body, and at which level. The limited rendering is this one, stopped short at the first
mark beyond the limit: up to there both ask the host the same, and where no mark lies beyond the
limit they are the same. -/
namespace ChatTemplate.DepthLimit
open Spelling Scanning

/-- What a rendering calls: the host, or the rendering of a selected body. -/
inductive Step where
  | ask (call : Call)
  /-- The bodies of the template itself lie at level one, the bodies inside them at level two. -/
  | enter (level : Nat)
deriving DecidableEq, Repr

def Step.call? : Step → Option Call
  | .ask call => some call
  | .enter _ => none

/-- Holds of everything but a body beyond the limit. -/
def Step.within (limit : Nat) : Step → Bool
  | .ask _ => true
  | .enter level => level ≤ limit

/-- The questions among some steps. -/
def asked (steps : List Step) : List Call := steps.filterMap Step.call?

/-- A computation that also marks the bodies it starts on. -/
abbrev Descent : Type → Type := Trace Step

namespace Descent

def ofTraced (x : Traced α) : Descent α := ⟨x.calls.map .ask, x.outcome⟩

def enter (level : Nat) : Descent Unit := ⟨[.enter level], .ok ()⟩

/-- The computation without its marks. -/
def traced (x : Descent α) : Traced α := ⟨asked x.calls, x.outcome⟩

/-- The computation up to its first mark beyond the limit, where it fails. -/
def stopped (limit : Nat) (x : Descent α) : Traced α :=
  if x.calls.all (Step.within limit) then x.traced
  else ⟨asked (x.calls.takeWhile (Step.within limit)), .error (.nestedTooDeep limit)⟩

end Descent

/-- What a token can still lead to: its body, and itself. -/
def reach : Token → Nat
  | .raw _ | .exec _ => 1
  | .branch _ _ body => body.length + 1

def extent : List Token → Nat
  | [] => 0
  | token :: rest => reach token + extent rest

@[simp] theorem extent_cons (token : Token) (rest : List Token) :
    extent (token :: rest) = reach token + extent rest := rfl

@[simp] theorem extent_append (first second : List Token) :
    extent (first ++ second) = extent first + extent second := by
  induction first with
  | nil => exact (Nat.zero_add _).symm
  | cons token rest ih => rw [List.cons_append, extent_cons, ih, extent_cons, Nat.add_assoc]

private theorem extent_rawToken (text : List Char) : extent (rawToken text) ≤ text.length := by
  cases text with
  | nil => exact Nat.le_refl 0
  | cons c text => exact Nat.le_add_left 1 text.length

private theorem taken_length (taken : takeEscaped stops source = (text, rest)) :
    text.length + rest.length ≤ source.length := by
  cases takeEscaped_iff.mp taken with
  | stopped front bare stop =>
    have := (spells_sublist front).length_le
    rw [List.length_append]
    omega
  | ended front => exact (spells_sublist front).length_le
  | lone front =>
    have := (spells_sublist front).length_le
    rw [List.length_append]
    simp only [List.length_nil]
    omega

/-- The tokens of a text lead to no more than the text is long. -/
theorem extent_lexChars (read : lexChars source = .ok tokens) : extent tokens ≤ source.length := by
  induction source using template_induction generalizing tokens with
  | literal source text taken =>
    rw [lexChars_literal taken] at read
    cases read
    exact Nat.le_trans (extent_rawToken text) (Nat.le_of_add_right_le (taken_length taken))
  | branch source text rest taken ih =>
    rw [lexChars_branch taken] at read
    obtain ⟨⟨token, after⟩, found, read⟩ := ok_of_bind read
    obtain ⟨later, next, rfl⟩ := ok_of_map read
    obtain ⟨kind, condition, body, rfl, parts⟩ := lexBranch_sublist found
    have literal := extent_rawToken text
    have behind := ih _ after found next
    have inside := parts.length_le
    have whole := taken_length taken
    simp only [List.length_append, String.length_toList, List.length_cons] at inside whole
    simp only [extent_append, extent_cons, reach]
    omega
  | exec source text rest taken ih =>
    rw [lexChars_exec taken] at read
    obtain ⟨later, next, rfl⟩ := ok_of_map read
    have literal := extent_rawToken text
    have behind := ih next
    have inside := takeExec_length rest
    have whole := taken_length taken
    rw [List.length_cons] at whole
    simp only [extent_append, extent_cons, reach]
    omega

theorem extent_lex (read : lex source = .ok tokens) : extent tokens ≤ source.length := by
  have bound := extent_lexChars read
  rwa [String.length_toList] at bound

/-- Every body is shorter than the text its branch was read from. -/
theorem body_shorter (read : lex source = .ok tokens)
    (member : .branch kind predicate body ∈ tokens) : body.length < source.length := by
  have whole := extent_lex read
  obtain ⟨before, behind, rfl⟩ := List.append_of_mem member
  simp only [extent_append, extent_cons, reach] at whole
  omega

/-! ### Rendering without a limit -/

variable {O : Type} [DecidableEq O]

mutual

/-- Shows tokens whose own bodies lie one level deeper, with all the bodies that are selected. -/
def descend (host : Host O) (level : Nat) : Bool → List Token → Descent String
  | _, [] => return ""
  | _, .raw text :: rest => do
    return text ++ (← descend host level false rest)
  | _, .exec text :: rest => do
    let shown ← Descent.ofTraced (renderExec host text)
    return shown ++ (← descend host level false rest)
  | armed, .branch kind predicate source :: rest => do
    match ← Descent.ofTraced (selectBranch host armed kind predicate) with
    | .selected =>
      Descent.enter (level + 1)
      let shown ← descendBody host (level + 1) source
      return shown ++ (← descend host level false rest)
    | .refused => descend host level true rest
    | .passed => descend host level false rest
termination_by _ tokens => 2 * extent tokens
decreasing_by
  all_goals simp only [extent_cons, reach]
  all_goals omega

/-- Shows a body, however deep it lies. -/
def descendBody (host : Host O) (level : Nat) (source : String) : Descent String :=
  match read : lex source with
  | .error fault => ⟨[], .error fault⟩
  | .ok tokens =>
    have := extent_lex read
    descend host level false tokens
termination_by 2 * source.length + 1

end

/-- The rendering of a template without a limit, with its marks. -/
def unlimited (host : Host O) (tokens : List Token) : Descent String := descend host 0 false tokens

/-- A body without a limit. -/
def unlimitedBody (host : Host O) (source : String) : Traced String := (descendBody host 1 source).traced

/-- Bodies are shown by the rendering of their own tokens, with no look at their depth. -/
def Unlimited (host : Host O) (body : String → Traced String) : Prop :=
  ∀ source, body source = Traced.ofExcept (lex source) >>= renderTokens host body false

/-- A way to look at computations that keeps the order of their steps and all questions. -/
structure View (view : ∀ {α : Type}, Descent α → Traced α) : Prop where
  ofTraced : ∀ {α : Type} (x : Traced α), view (Descent.ofTraced x) = x
  bind : ∀ {α β : Type} (x : Descent α) (next : α → Descent β),
    view (x >>= next) = view x >>= fun a => view (next a)

@[simp] theorem asked_append (first second : List Step) :
    asked (first ++ second) = asked first ++ asked second := List.filterMap_append

@[simp] theorem asked_ask (calls : List Call) : asked (calls.map .ask) = calls := by
  induction calls with
  | nil => rfl
  | cons call rest ih => exact congrArg (call :: ·) ih

theorem traced_view : View Descent.traced where
  ofTraced x := Trace.ext (asked_ask x.calls) rfl
  bind x next := by
    cases ended : x.outcome with
    | error fault =>
      rw [Trace.bind_error next ended, Trace.bind_error _ (x := x.traced) ended]
      rfl
    | ok a =>
      rw [Trace.bind_ok next ended, Trace.bind_ok _ (x := x.traced) ended]
      exact Trace.ext (asked_append x.calls (next a).calls) rfl

/-- A computation that stays within the limit is not stopped. -/
theorem stopped_within {x : Descent α} (within : x.calls.all (Step.within limit) = true) :
    x.stopped limit = x.traced := if_pos within

theorem stopped_beyond {x : Descent α} (beyond : x.calls.all (Step.within limit) = false) :
    x.stopped limit =
      ⟨asked (x.calls.takeWhile (Step.within limit)), .error (.nestedTooDeep limit)⟩ :=
  if_neg (Bool.eq_false_iff.mp beyond)

/-- Steps with one beyond the limit cut short whatever follows them. -/
private theorem takeWhile_beyond {steps : List Step}
    (beyond : steps.all (Step.within limit) = false) (behind : List Step) :
    (steps ++ behind).takeWhile (Step.within limit) = steps.takeWhile (Step.within limit) := by
  induction steps with
  | nil => cases beyond
  | cons step rest ih =>
    cases inside : step.within limit with
    | false => simp [inside]
    | true =>
      rw [List.all_cons, inside, Bool.true_and] at beyond
      simp [inside, ih beyond]

/-- Once a computation has stopped, nothing behind it is reached. -/
theorem stopped_view (limit : Nat) : View (Descent.stopped limit) where
  ofTraced x := by
    have shallow : (Descent.ofTraced x).calls.all (Step.within limit) = true := by
      simp [Descent.ofTraced, Step.within]
    exact (stopped_within shallow).trans (traced_view.ofTraced x)
  bind {α β} x next := by
    cases within : x.calls.all (Step.within limit) with
    | false =>
      have beyond : (x >>= next).calls.all (Step.within limit) = false ∧
          (x >>= next).calls.takeWhile (Step.within limit) =
            x.calls.takeWhile (Step.within limit) := by
        cases ended : x.outcome with
        | error fault => simp only [Trace.bind_error next ended, within, true_and]
        | ok a =>
          simp only [Trace.bind_ok next ended, List.all_append, within, Bool.false_and,
            takeWhile_beyond within, true_and]
      rw [stopped_beyond beyond.1, beyond.2, stopped_beyond within, Trace.bind_error _ rfl]
    | true =>
      rw [stopped_within within]
      cases ended : x.outcome with
      | error fault =>
        have shallow : (x >>= next).calls.all (Step.within limit) = true := by
          rw [Trace.bind_error next ended, within]
        rw [stopped_within shallow, traced_view.bind, Trace.bind_error _ (x := x.traced) ended,
          Trace.bind_error _ (x := x.traced) ended]
      | ok a =>
        rw [Trace.bind_ok next ended, Trace.bind_ok _ (x := x.traced) ended]
        have allWithin : ∀ step ∈ x.calls, step.within limit = true := List.all_eq_true.mp within
        cases behind : (next a).calls.all (Step.within limit) with
        | true =>
          rw [stopped_within behind, stopped_within (by simp [within, behind])]
          exact Trace.ext (asked_append x.calls (next a).calls) rfl
        | false =>
          rw [stopped_beyond behind, stopped_beyond (by simp [within, behind])]
          simp [Descent.traced, List.takeWhile_append_of_pos allWithin]

section
variable {view : ∀ {α : Type}, Descent α → Traced α} {host : Host O}

theorem View.pure (keeps : View view) (a : α) : view (pure a : Descent α) = pure a :=
  keeps.ofTraced (Pure.pure a)

/-- What is seen of tokens is their rendering, by means of what is seen of their bodies. -/
theorem view_descend (keeps : View view) (level : Nat) (armed : Bool) (tokens : List Token) :
    view (descend host level armed tokens) =
      renderTokens host
        (fun source => view (Descent.enter (level + 1) >>= fun _ =>
          descendBody host (level + 1) source))
        armed tokens := by
  induction tokens generalizing armed with
  | nil => simp only [descend, renderTokens, keeps.pure]
  | cons token rest ih =>
    cases token with
    | raw text => simp only [descend, renderTokens, keeps.bind, keeps.pure, ih]
    | exec text => simp only [descend, renderTokens, keeps.bind, keeps.pure, keeps.ofTraced, ih]
    | branch kind predicate source =>
      rw [descend, renderTokens, keeps.bind, keeps.ofTraced]
      refine bind_congr fun selection => ?_
      cases selection with
      | selected => simp only [keeps.bind, keeps.pure, ih, bind_assoc]
      | refused => exact ih true
      | passed => exact ih false

/-- What is seen of a body is what is seen of its own tokens, if it has any. -/
theorem view_descendBody (keeps : View view) (level : Nat) (source : String) :
    view (descendBody host level source) =
      Traced.ofExcept (lex source) >>= fun tokens => view (descend host level false tokens) := by
  unfold descendBody
  split
  · next fault read =>
    rw [read]
    exact keeps.ofTraced (Traced.ofExcept (.error fault))
  · next tokens read =>
    simp only [read, Traced.ofExcept_ok, pure_bind]

end

/-- Only the bodies of the tokens matter. -/
theorem renderTokens_congr {host : Host O} {first second : String → Traced String} (armed : Bool)
    (same : ∀ kind predicate body, .branch kind predicate body ∈ tokens → first body = second body) :
    renderTokens host first armed tokens = renderTokens host second armed tokens := by
  induction tokens generalizing armed with
  | nil => rfl
  | cons token rest ih =>
    have behind (armed : Bool) := ih armed fun kind predicate body member =>
      same kind predicate body (List.mem_cons_of_mem token member)
    cases token with
    | raw | exec => simp only [renderTokens, behind]
    | branch kind predicate body =>
      simp only [renderTokens, behind, same kind predicate body List.mem_cons_self]

/-- Two ways to show bodies by their own tokens agree, whatever they note of the level. A body is
shorter than the text it was read from, so the induction is on the length of the text. -/
theorem bodies_agree {host : Host O} {first second : Nat → String → Traced String}
    (one : ∀ level source, first level source =
      Traced.ofExcept (lex source) >>= renderTokens host (first (level + 1)) false)
    (other : ∀ level source, second level source =
      Traced.ofExcept (lex source) >>= renderTokens host (second (level + 1)) false)
    (level level' : Nat) (source : String) : first level source = second level' source := by
  induction size : source.length using Nat.strongRecOn generalizing source level level' with
  | _ length ih =>
    subst size
    rw [one, other]
    cases read : lex source with
    | error fault => rfl
    | ok tokens =>
      simp only [Traced.ofExcept_ok, pure_bind]
      refine renderTokens_congr false fun kind predicate body member => ?_
      exact ih _ (body_shorter read member) _ _ body rfl

theorem traced_descendBody (host : Host O) (level : Nat) (source : String) :
    (descendBody host level source).traced =
      Traced.ofExcept (lex source) >>=
        renderTokens host (fun body => (descendBody host (level + 1) body).traced) false := by
  rw [view_descendBody traced_view]
  refine bind_congr fun tokens => ?_
  rw [view_descend traced_view]
  rfl

theorem unlimitedBody_unlimited (host : Host O) : Unlimited host (unlimitedBody host) := by
  intro source
  rw [unlimitedBody, traced_descendBody]
  refine bind_congr fun tokens => renderTokens_congr false fun _ _ body _ => ?_
  exact bodies_agree (traced_descendBody host) (traced_descendBody host) _ _ body

theorem unlimited_unique {host : Host O} {body : String → Traced String}
    (whole : Unlimited host body) : body = unlimitedBody host := by
  funext source
  exact @bodies_agree _ _ host (fun _ => body) _ (fun _ => whole) (traced_descendBody host) 0 1 source

theorem traced_unlimited (host : Host O) (tokens : List Token) :
    (unlimited host tokens).traced = renderTokens host (unlimitedBody host) false tokens :=
  view_descend traced_view 0 false tokens

/-! ### The limit -/

/-- Stopped at the limit, a body is the body with as many levels left as there are up to the limit. -/
theorem stopped_body (host : Host O) (source : String) (total : level + levels = limit) :
    (Descent.enter (level + 1) >>= fun _ => descendBody host (level + 1) source).stopped limit =
      renderBody host limit levels source := by
  have keeps := stopped_view limit
  rw [keeps.bind]
  induction levels generalizing level source with
  | zero =>
    have beyond : (Descent.enter (level + 1)).stopped limit = .fail (.nestedTooDeep limit) := by
      have deep : ([Step.enter (level + 1)].all (Step.within limit)) = false := by
        simp [Step.within, ← total]
      rw [stopped_beyond deep]
      simp [Descent.enter, Step.within, ← total, asked, Traced.fail]
    rw [beyond]
    rfl
  | succ levels ih =>
    have inside : (Descent.enter (level + 1)).stopped limit = pure () :=
      stopped_within (by simp [Descent.enter, Step.within]; omega)
    have deeper (body : String) : (Descent.enter (level + 1 + 1) >>= fun _ =>
        descendBody host (level + 1 + 1) body).stopped limit = renderBody host limit levels body := by
      rw [keeps.bind]
      exact ih body (by omega)
    rw [inside, pure_bind, view_descendBody keeps, renderBody]
    refine bind_congr fun tokens => ?_
    rw [view_descend keeps]
    exact renderTokens_congr false fun _ _ body _ => deeper body

/-- The limited rendering is the unlimited one, stopped at the first body beyond the limit. -/
theorem interpret_stopped (host : Host O) (limit : Nat) (tokens : List Token) :
    interpret host limit tokens = (unlimited host tokens).stopped limit := by
  rw [unlimited, view_descend (stopped_view limit), interpret]
  refine renderTokens_congr false fun _ _ body _ => ?_
  exact (stopped_body host body (Nat.zero_add limit)).symm

theorem all_within_iff {steps : List Step} :
    steps.all (Step.within limit) = true ↔ ∀ level, .enter level ∈ steps → level ≤ limit := by
  rw [List.all_eq_true]
  constructor
  · intro within level member
    simpa [Step.within] using within _ member
  · intro bounded step member
    cases step with
    | ask call => rfl
    | enter level => simpa [Step.within] using bounded level member

/-- Steps that do not all stay within the limit have a first one that does not. -/
private theorem first_beyond {steps : List Step} (beyond : steps.all (Step.within limit) = false) :
    ∃ level behind,
      steps = steps.takeWhile (Step.within limit) ++ .enter level :: behind ∧ limit < level := by
  induction steps with
  | nil => cases beyond
  | cons step rest ih =>
    cases inside : step.within limit with
    | true =>
      rw [List.all_cons, inside, Bool.true_and] at beyond
      obtain ⟨level, behind, split, deep⟩ := ih beyond
      refine ⟨level, behind, ?_, deep⟩
      rw [List.takeWhile_cons_of_pos inside, List.cons_append, ← split]
    | false =>
      cases step with
      | ask call => cases inside
      | enter level => exact ⟨level, rest, by simp [inside], by simpa [Step.within] using inside⟩

/-- The limit is exact. A body is shorter than the text it was read from, so bodies can be shown
without a limit, and in one way only. Where that starts on no body beyond the limit, the limited
rendering is the unlimited one; where it does, the limited one fails at the first such body and has
asked what the unlimited one had asked until then. So a higher limit changes nothing but the fault
of the limit itself. -/
theorem interpret_limit (host : Host O) (limit : Nat) (tokens : List Token) :
    (∀ source inner kind predicate body, lex source = .ok inner →
      .branch kind predicate body ∈ inner → body.length < source.length) ∧
    Unlimited host (unlimitedBody host) ∧
    (∀ body, Unlimited host body → body = unlimitedBody host) ∧
    (unlimited host tokens).traced = renderTokens host (unlimitedBody host) false tokens ∧
    ((∀ level, .enter level ∈ (unlimited host tokens).calls → level ≤ limit) →
      interpret host limit tokens = (unlimited host tokens).traced) ∧
    ((∃ level, .enter level ∈ (unlimited host tokens).calls ∧ limit < level) →
      ∃ before level behind, (unlimited host tokens).calls = before ++ .enter level :: behind ∧
        limit < level ∧ (∀ earlier, .enter earlier ∈ before → earlier ≤ limit) ∧
        interpret host limit tokens = ⟨asked before, .error (.nestedTooDeep limit)⟩) ∧
    (∀ larger, limit ≤ larger →
      (interpret host limit tokens).outcome ≠ .error (.nestedTooDeep limit) →
      interpret host larger tokens = interpret host limit tokens) := by
  have shallow (bound : Nat)
      (within : ∀ level, .enter level ∈ (unlimited host tokens).calls → level ≤ bound) :
      interpret host bound tokens = (unlimited host tokens).traced :=
    (interpret_stopped host bound tokens).trans (stopped_within (all_within_iff.mpr within))
  refine ⟨fun _ _ _ _ _ => body_shorter, unlimitedBody_unlimited host,
    fun body => unlimited_unique, traced_unlimited host tokens, shallow limit, ?_, ?_⟩
  · rintro ⟨level, entered, deep⟩
    have beyond : (unlimited host tokens).calls.all (Step.within limit) = false := by
      rw [Bool.eq_false_iff]
      intro within
      have := all_within_iff.mp within level entered
      omega
    obtain ⟨first, behind, split, deep⟩ := first_beyond beyond
    refine ⟨_, first, behind, split, deep, all_within_iff.mp List.all_takeWhile, ?_⟩
    rw [interpret_stopped, stopped_beyond beyond]
  · intro larger most passed
    cases within : (unlimited host tokens).calls.all (Step.within limit) with
    | true =>
      have bounded := all_within_iff.mp within
      rw [shallow limit bounded,
        shallow larger fun level entered => Nat.le_trans (bounded level entered) most]
    | false =>
      rw [interpret_stopped, stopped_beyond within] at passed
      exact absurd rfl passed

/-- A body at the second level stops a rendering that is limited to one, and two levels are as good
as three. -/
theorem interpret_limit_second_level :
    let host := contextFree noObjects
    let tokens := [.exec "a", .branch .ifBranch (some "1") "\x7bb\x7d[if 1](c)"]
    (Step.enter 2 ∈ (unlimited host tokens).calls ∧
      ∃ before level behind, (unlimited host tokens).calls = before ++ .enter level :: behind ∧
        1 < level ∧ (∀ earlier, .enter earlier ∈ before → earlier ≤ 1) ∧
        interpret host 1 tokens = ⟨asked before, .error (.nestedTooDeep 1)⟩) ∧
    (interpret host 2 tokens).outcome ≠ .error (.nestedTooDeep 2) ∧
      interpret host 3 tokens = interpret host 2 tokens := by
  intro host tokens
  have entered : Step.enter 2 ∈ (unlimited host tokens).calls := by
    decide +kernel
  have shown : (interpret host 2 tokens).outcome ≠ .error (.nestedTooDeep 2) := by
    decide +kernel
  obtain ⟨-, -, -, -, -, deep, -⟩ := interpret_limit host 1 tokens
  obtain ⟨-, -, -, -, -, -, raised⟩ := interpret_limit host 2 tokens
  exact ⟨⟨entered, deep ⟨2, entered, by decide⟩⟩, shown, raised 3 (by decide) shown⟩

end ChatTemplate.DepthLimit
