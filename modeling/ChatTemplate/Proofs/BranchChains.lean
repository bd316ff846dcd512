import ChatTemplate.Rendering.Tokens

/-! Chains of branches. A template falls into groups: an `if` with the branches that continue it,
branches that continue nothing, literal texts and exec blocks. Rendering group by group, a chain
being the first of its members that holds, shows the same text or fault as the rendering token by
token and asks the host the same questions in the same order. -/
namespace ChatTemplate.BranchChains

/-- A branch, taken out of the list of tokens. -/
structure Branch where
  kind : BranchKind
  predicate : Option String
  body : String
deriving DecidableEq, Repr

inductive Group where
  /-- An `if` and the branches right behind it. -/
  | chain (first : Branch) (followers : List Branch)
  /-- A branch that continues a chain where there is none. -/
  | orphan (branch : Branch)
  | raw (text : String)
  | exec (text : String)
deriving DecidableEq, Repr

/-- The branches at the front that continue a chain, and what comes behind them. -/
def followers : List Token → List Branch × List Token
  | .branch .elifBranch predicate body :: rest =>
    (⟨.elifBranch, predicate, body⟩ :: (followers rest).1, (followers rest).2)
  | .branch .elseBranch predicate body :: rest =>
    (⟨.elseBranch, predicate, body⟩ :: (followers rest).1, (followers rest).2)
  | rest => ([], rest)

theorem followers_length (tokens : List Token) :
    (followers tokens).2.length ≤ tokens.length := by
  fun_induction followers tokens with
  | case1 predicate body rest ih | case2 predicate body rest ih => exact Nat.le_succ_of_le ih
  | case3 => exact Nat.le_refl _

/-- The groups of a template, in order. -/
def groups : List Token → List Group
  | [] => []
  | .raw text :: rest => .raw text :: groups rest
  | .exec text :: rest => .exec text :: groups rest
  | .branch .ifBranch predicate body :: rest =>
    .chain ⟨.ifBranch, predicate, body⟩ (followers rest).1 :: groups (followers rest).2
  | .branch kind predicate body :: rest => .orphan ⟨kind, predicate, body⟩ :: groups rest
termination_by tokens => tokens.length
decreasing_by
  all_goals simp only [List.length_cons]
  all_goals have := followers_length rest
  all_goals omega

def Branch.token (branch : Branch) : Token := .branch branch.kind branch.predicate branch.body

def Group.tokens : Group → List Token
  | .chain first followers => (first :: followers).map Branch.token
  | .orphan branch => [branch.token]
  | .raw text => [.raw text]
  | .exec text => [.exec text]

private theorem followers_tokens (tokens : List Token) :
    (followers tokens).1.map Branch.token ++ (followers tokens).2 = tokens := by
  fun_induction followers tokens with
  | case1 predicate body rest ih | case2 predicate body rest ih =>
    exact congrArg (Token.branch _ predicate body :: ·) ih
  | case3 => rfl

/-- The groups hold the tokens of the template, each once and in order. -/
theorem groups_tokens (tokens : List Token) : (groups tokens).flatMap Group.tokens = tokens := by
  fun_induction groups tokens with
  | case1 => rfl
  | case2 text rest ih => exact congrArg (Token.raw text :: ·) ih
  | case3 text rest ih => exact congrArg (Token.exec text :: ·) ih
  | case4 predicate body rest ih =>
    rw [List.flatMap_cons, ih]
    exact congrArg (Token.branch .ifBranch predicate body :: ·) (followers_tokens rest)
  | case5 kind predicate body rest other ih =>
    exact congrArg (Token.branch kind predicate body :: ·) ih

variable {O : Type} [DecidableEq O] {host : Host O} {body : String → Traced String}

/-- Whether a branch holds. A fallback does, without a look at its condition. -/
def Branch.holds (host : Host O) (branch : Branch) : Traced Bool :=
  match branch.kind with
  | .ifBranch | .elifBranch => predicateHolds host (branch.predicate.getD "")
  | .elseBranch => return true

/-- Shows the body of the first branch that holds, and nothing where none does. -/
def selectFirst (host : Host O) (body : String → Traced String) : List Branch → Traced String
  | [] => return ""
  | branch :: rest => do
    if ← branch.holds host then body branch.body else selectFirst host body rest

def Group.rendering (host : Host O) (body : String → Traced String) : Group → Traced String
  | .chain first followers => selectFirst host body (first :: followers)
  | .orphan _ => return ""
  | .raw text => return text
  | .exec text => do
    match ← execValue host text with
    | some value => return value.display host.toObjects
    | none =>
      let taken ← Traced.ask (.execute text) (host.execute text)
      return if taken then "" else text

def renderGroups (host : Host O) (body : String → Traced String) : List Group → Traced String
  | [] => return ""
  | group :: rest => do
    let shown ← group.rendering host body
    return shown ++ (← renderGroups host body rest)

/-- Shows a body group by group, with so many `levels` left of the limit. -/
def renderGroupedBody (host : Host O) (limit : Nat) : Nat → String → Traced String
  | 0, _ => .fail (.nestedTooDeep limit)
  | levels + 1, source => do
    let tokens ← Traced.ofExcept (lex source)
    renderGroups host (renderGroupedBody host limit levels) (groups tokens)

/-- A branch that has its turn: its body is shown and its chain ends, or the next branch has its
turn. -/
private theorem renderTokens_turn (branch : Branch) (rest : List Token)
    (turn : branch.kind = .ifBranch ∨ armed = true) :
    renderTokens host body armed (branch.token :: rest) =
      branch.holds host >>= fun held =>
        if held then body branch.body >>= fun shown =>
          (shown ++ ·) <$> renderTokens host body false rest
        else renderTokens host body true rest := by
  obtain ⟨kind, predicate, source⟩ := branch
  have tested (turned : selectBranch host armed kind predicate =
      predicateHolds host (predicate.getD "") >>= fun held =>
        pure (if held then .selected else .refused)) :
      renderTokens host body armed (.branch kind predicate source :: rest) =
        predicateHolds host (predicate.getD "") >>= fun held =>
          if held then body source >>= fun shown =>
            (shown ++ ·) <$> renderTokens host body false rest
          else renderTokens host body true rest := by
    simp only [renderTokens, turned, bind_assoc, pure_bind]
    refine bind_congr fun held => ?_
    cases held <;> simp
  cases kind with
  | ifBranch => exact tested (by simp [selectBranch])
  | elifBranch =>
    obtain rfl : armed = true := by simpa using turn
    exact tested (by simp [selectBranch])
  | elseBranch =>
    obtain rfl : armed = true := by simpa using turn
    simp [renderTokens, Branch.token, Branch.holds, selectBranch]

/-- Outside of a chain the branches that continue one show nothing and ask nothing. -/
private theorem renderTokens_passed (tokens : List Token) :
    renderTokens host body false tokens = renderTokens host body false (followers tokens).2 := by
  fun_induction followers tokens with
  | case1 predicate source rest ih | case2 predicate source rest ih =>
    simpa [renderTokens, selectBranch] using ih
  | case3 => rfl

/-- What is left of a chain: the first of its branches that holds, then what comes behind them. -/
def renderRest (host : Host O) (body : String → Traced String) (members : List Branch)
    (tokens : List Token) : Traced String :=
  selectFirst host body members >>= fun shown =>
    (shown ++ ·) <$> renderTokens host body false (followers tokens).2

private theorem renderTokens_member (branch : Branch) (rest : List Token)
    (turn : branch.kind = .ifBranch ∨ armed = true)
    (next : renderTokens host body true rest = renderRest host body (followers rest).1 rest) :
    renderTokens host body armed (branch.token :: rest) =
      renderRest host body (branch :: (followers rest).1) rest := by
  rw [renderTokens_turn branch rest turn, next, renderTokens_passed rest]
  simp only [renderRest, selectFirst, bind_assoc]
  refine bind_congr fun held => ?_
  cases held <;> rfl

/-- An armed chain shows its first follower that holds. -/
private theorem renderTokens_armed (tokens : List Token) :
    renderTokens host body true tokens =
      renderRest host body (followers tokens).1 tokens := by
  fun_induction followers tokens with
  | case1 predicate source rest ih | case2 predicate source rest ih =>
    exact renderTokens_member ⟨_, predicate, source⟩ rest (.inr rfl) ih
  | case3 tokens notElif notElse =>
    have alike : renderTokens host body true tokens = renderTokens host body false tokens := by
      cases tokens with
      | nil => rfl
      | cons token rest =>
        cases token with
        | raw | exec => rfl
        | branch kind predicate source =>
          cases kind with
          | ifBranch => simp only [renderTokens, selectBranch]
          | elifBranch => exact absurd rfl (notElif predicate source rest)
          | elseBranch => exact absurd rfl (notElse predicate source rest)
    have stays : followers tokens = ([], tokens) := followers.eq_3 tokens notElif notElse
    simp [alike, renderRest, stays, selectFirst]

private theorem renderExec_rendering (body : String → Traced String) (text : String) :
    renderExec host text = (Group.exec text).rendering host body := by
  simp only [renderExec, Group.rendering]
  refine bind_congr fun value => ?_
  cases value <;> rfl

/-- Token by token and group by group a template shows the same. -/
theorem renderTokens_groups (tokens : List Token) :
    renderTokens host body false tokens = renderGroups host body (groups tokens) := by
  fun_induction groups tokens with
  | case1 => rfl
  | case2 text rest ih =>
    simp only [renderTokens, renderGroups, Group.rendering, ih, pure_bind]
  | case3 text rest ih =>
    simp only [renderTokens, renderGroups, renderExec_rendering body, ih]
  | case4 predicate source rest ih =>
    calc renderTokens host body false (.branch .ifBranch predicate source :: rest)
      _ = renderRest host body (⟨.ifBranch, predicate, source⟩ :: (followers rest).1) rest :=
        renderTokens_member ⟨.ifBranch, predicate, source⟩ rest (.inl rfl) (renderTokens_armed rest)
      _ = renderGroups host body
          (.chain ⟨.ifBranch, predicate, source⟩ (followers rest).1 :: groups (followers rest).2) := by
        simp only [renderRest, renderGroups, Group.rendering, ih, map_eq_pure_bind]
  | case5 kind predicate source rest other ih =>
    cases kind with
    | ifBranch => exact absurd rfl other
    | elifBranch | elseBranch =>
      simp only [renderTokens, selectBranch, renderGroups, Group.rendering, ih, pure_bind,
        String.empty_append, bind_pure]

private theorem renderBody_grouped (limit : Nat) :
    renderBody host limit = renderGroupedBody host limit := by
  funext levels
  induction levels with
  | zero => rfl
  | succ levels ih =>
    funext source
    simp only [renderBody, renderGroupedBody, ih, renderTokens_groups]

/-- A template shows what its groups show: of each chain the first branch that holds, nothing of the
others, and nothing of a branch outside of a chain. -/
theorem interpret_groups (host : Host O) (limit : Nat) (tokens : List Token) :
    (groups tokens).flatMap Group.tokens = tokens ∧
      interpret host limit tokens =
        renderGroups host (renderGroupedBody host limit limit) (groups tokens) := by
  refine ⟨groups_tokens tokens, ?_⟩
  rw [interpret, renderTokens_groups, renderBody_grouped]

end ChatTemplate.BranchChains
