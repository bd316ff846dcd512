import ChatTemplate.Proofs.PartialOperations
import ChatTemplate.Proofs.Scanning

/-! Reading a template in one pass, character by character, with a counter of the open parentheses.
The counter is counted down at a closing parenthesis only where it is not zero, and it never has to
go further than the text is long. So the pass does not break down on any text, and it finds the
tokens or the fault that the template has. -/
namespace ChatTemplate.CountingScanner
open PartialOperations Scanning Spelling

/-- What is being read, and what has been gathered of it. -/
inductive Stage where
  | literal (raw : List Char)
  | exec (raw : List Char)
  | keyword (raw : List Char)
  | predicate (kind : BranchKind) (raw : List Char)
  /-- A condition has ended and a body has to follow. -/
  | awaitBody (kind : BranchKind) (condition : Option String)
  /-- The body has `depth` parentheses of its own open. -/
  | body (kind : BranchKind) (condition : Option String) (raw : List Char) (depth : Nat)

/-- The kind of branch that a keyword opens. -/
def keywordKind (word : List Char) : Except Fault BranchKind :=
  match BranchKind.ofKeyword? (String.ofList word) with
  | some kind => .ok kind
  | none => .error .unknownKeyword

namespace Stage

/-- Everywhere but between a condition and its body a backslash goes with the character behind it. -/
def escapes : Stage → Bool
  | .awaitBody .. => false
  | _ => true

/-- Takes in a character behind a backslash. Only a body keeps the backslash. -/
def escaped (c : Char) : Stage → Stage
  | .literal raw => .literal (raw ++ [c])
  | .exec raw => .exec (raw ++ [c])
  | .keyword raw => .keyword (raw ++ [c])
  | .predicate kind raw => .predicate kind (raw ++ [c])
  | .awaitBody kind condition => .awaitBody kind condition
  | .body kind condition raw depth => .body kind condition (raw ++ ['\\', c]) depth

/-- Takes in any other character: the tokens that it completes, and what is being read behind it. -/
def read (largest : Nat) (c : Char) : Stage → Guarded (List Token × Stage)
  | .literal raw =>
    if c = '[' then return (rawToken raw, .keyword [])
    else if c = '{' then return (rawToken raw, .exec [])
    else return ([], .literal (raw ++ [c]))
  | .exec raw =>
    if c = '}' then return ([.exec (String.ofList raw)], .literal [])
    else return ([], .exec (raw ++ [c]))
  | .keyword raw =>
    if c = ' ' then do
      let kind ← unbreached (.ofExcept (keywordKind raw))
      return ([], .predicate kind [])
    else if c = ']' then do
      let kind ← unbreached (.ofExcept (keywordKind raw))
      let condition ← unbreached (.ofExcept (checkPredicate kind []))
      return ([], .awaitBody kind condition)
    else return ([], .keyword (raw ++ [c]))
  | .predicate kind raw =>
    if c = ']' then do
      let condition ← unbreached (.ofExcept (checkPredicate kind raw))
      return ([], .awaitBody kind condition)
    else return ([], .predicate kind (raw ++ [c]))
  | .awaitBody kind condition =>
    if c = '(' then return ([], .body kind condition [] 0) else fail .missingBody
  | .body kind condition raw depth =>
    if c = '(' then do
      let deeper ← countUp largest depth
      return ([], .body kind condition (raw ++ [c]) deeper)
    -- the parenthesis that ends the body comes first, so the other one has something to take off
    else if c = ')' ∧ depth = 0 then
      return ([.branch kind condition (String.ofList raw)], .literal [])
    else if c = ')' then do
      let outer ← minus depth 1
      return ([], .body kind condition (raw ++ [c]) outer)
    else return ([], .body kind condition (raw ++ [c]) depth)

/-- The end of the text: the last token, or what is missing of a branch. -/
def ended : Stage → Except Fault (List Token)
  | .literal raw => .ok (rawToken raw)
  | .exec raw => .ok [.exec (String.ofList raw)]
  | .keyword raw => do
    let kind ← keywordKind raw
    let _ ← checkPredicate kind []
    .error .missingBody
  | .predicate kind raw => do
    let _ ← checkPredicate kind raw
    .error .missingBody
  | .awaitBody .. => .error .missingBody
  | .body .. => .error .unclosedBody

end Stage

/-- Reads on from a stage, with the tokens found before it. -/
def scan (largest : Nat) (tokens : List Token) (stage : Stage) : List Char → Guarded (List Token)
  | [] => do return tokens ++ (← unbreached (.ofExcept stage.ended))
  | c :: rest =>
    if stage.escapes = true ∧ c = '\\' then
      match rest with
      | [] => do return tokens ++ (← unbreached (.ofExcept stage.ended))
      | next :: rest => scan largest tokens (stage.escaped next) rest
    else do
      let (found, stage) ← stage.read largest c
      scan largest (tokens ++ found) stage rest

/-- The tokens of a template. The counter can go no further than the text is long. -/
def lex (source : String) : Guarded (List Token) :=
  scan source.toList.length [] (.literal []) source.toList

variable {largest : Nat} {tokens : List Token}

/-- A stage that gathers text up to one of some stops, whose escapes are dropped. -/
structure Gathers (largest : Nat) (stops : Char → Bool) (gathered : List Char → Stage) : Prop where
  escapes : ∀ raw, (gathered raw).escapes = true
  escaped : ∀ raw c, (gathered raw).escaped c = gathered (raw ++ [c])
  inside : ∀ raw c, stops c = false → (gathered raw).read largest c = pure ([], gathered (raw ++ [c]))

theorem gathers_literal : Gathers largest opensBlock .literal where
  escapes _ := rfl
  escaped _ _ := rfl
  inside raw c other := by
    simp only [opensBlock, Bool.or_eq_false_iff, decide_eq_false_iff_not] at other
    simp [Stage.read, other]

theorem gathers_exec : Gathers largest (· = '}') .exec where
  escapes _ := rfl
  escaped _ _ := rfl
  inside raw c other := by
    simp only [decide_eq_false_iff_not] at other
    simp [Stage.read, other]

theorem gathers_keyword : Gathers largest endsKeyword .keyword where
  escapes _ := rfl
  escaped _ _ := rfl
  inside raw c other := by
    simp only [endsKeyword, Bool.or_eq_false_iff, decide_eq_false_iff_not] at other
    simp [Stage.read, other]

theorem gathers_predicate (kind : BranchKind) :
    Gathers largest (· = ']') (.predicate kind) where
  escapes _ := rfl
  escaped _ _ := rfl
  inside raw c other := by
    simp only [decide_eq_false_iff_not] at other
    simp [Stage.read, other]

/-- One character that no escape takes. -/
theorem scan_cons {stage : Stage} (plain : ¬ (stage.escapes = true ∧ c = '\\')) (rest : List Char) :
    scan largest tokens stage (c :: rest) =
      stage.read largest c >>= fun read => scan largest (tokens ++ read.1) read.2 rest := by
  conv => lhs; unfold scan
  rw [if_neg plain]

/-- The text up to a stop is gathered in one go. -/
theorem scan_gather {gathered : List Char → Stage} (gathers : Gathers largest stops gathered)
    (raw text : List Char) :
    scan largest tokens (gathered raw) text =
      scan largest tokens (gathered (raw ++ (takeEscaped stops text).1))
        (takeEscaped stops text).2 := by
  fun_induction takeEscaped stops text generalizing raw with
  | case1 => simp
  | case2 => simp [scan, gathers.escapes]
  | case3 c rest taken ih =>
    rw [scan, if_pos ⟨gathers.escapes raw, rfl⟩]
    dsimp only
    rw [gathers.escaped, ih, List.append_assoc]
    rfl
  | case4 c rest lone pair stop => simp
  | case5 c rest lone pair inside taken ih =>
    have bare := bare_of_unmatched lone pair
    rw [scan_cons (fun both => bare both.2), gathers.inside raw c (by simpa using inside), pure_bind,
      List.append_nil, ih, List.append_assoc]
    rfl

section
variable {kind : BranchKind} {condition : Option String} {raw : List Char} {depth : Nat}

/-- A parenthesis that opens is counted, for which there has to be room. -/
theorem read_open (room : depth < largest) :
    (Stage.body kind condition raw depth).read largest '(' =
      pure ([], .body kind condition (raw ++ ['(']) (depth + 1)) := by
  simp [Stage.read, countUp, room]

/-- With another parenthesis open, one that closes is counted. -/
theorem read_close :
    (Stage.body kind condition raw (depth + 1)).read largest ')' =
      pure ([], .body kind condition (raw ++ [')']) depth) := by
  simp [Stage.read, minus]

/-- With no other parenthesis open, one that closes ends the body and is not counted. -/
theorem read_end :
    (Stage.body kind condition raw 0).read largest ')' =
      pure ([.branch kind condition (String.ofList raw)], .literal []) := by
  simp [Stage.read]

theorem read_inside (opens : c ≠ '(') (closes : c ≠ ')') :
    (Stage.body kind condition raw depth).read largest c =
      pure ([], .body kind condition (raw ++ [c]) depth) := by
  simp [Stage.read, opens, closes]

/-- Reads on behind a body, if the body has an end. -/
def closeBody (largest : Nat) (tokens : List Token) (kind : BranchKind)
    (condition : Option String) (raw : List Char) :
    Option (List Char × List Char) → Guarded (List Token)
  | none => fail .unclosedBody
  | some (body, after) =>
    scan largest (tokens ++ [.branch kind condition (String.ofList (raw ++ body))]) (.literal []) after

theorem closeBody_map (front : List Char) (found : Option (List Char × List Char)) :
    closeBody largest tokens kind condition raw
        (found.map fun taken => (front ++ taken.1, taken.2)) =
      closeBody largest tokens kind condition (raw ++ front) found := by
  cases found with
  | none => rfl
  | some taken => simp only [Option.map_some, closeBody, List.append_assoc]

/-- A body ends at the parenthesis that matches its opening one. What stands open and what is still to
be read never go beyond the largest number together: this is what each step keeps, and what leaves
room for every parenthesis that opens. -/
theorem scan_body (room : depth + text.length ≤ largest) :
    scan largest tokens (.body kind condition raw depth) text =
      closeBody largest tokens kind condition raw (takeBody depth text) := by
  fun_induction takeBody depth text generalizing raw with
  | case1 | case2 => rfl
  | case3 depth c rest ih =>
    rw [List.length_cons, List.length_cons] at room
    rw [scan, if_pos ⟨rfl, rfl⟩]
    exact (ih (by omega)).trans (closeBody_map ['\\', c] _).symm
  | case4 depth rest lone pair ih =>
    rw [List.length_cons] at room
    rw [scan_cons (by simp), read_open (by omega), pure_bind, List.append_nil]
    exact (ih (by omega)).trans (closeBody_map ['('] _).symm
  | case5 rest =>
    rw [scan_cons (by simp), read_end, pure_bind, closeBody, List.append_nil]
  | case6 rest outer lone pair opens ih =>
    rw [List.length_cons] at room
    rw [scan_cons (by simp), read_close, pure_bind, List.append_nil]
    exact (ih (by omega)).trans (closeBody_map [')'] _).symm
  | case7 depth c rest lone pair opens closes ih =>
    have bare := bare_of_unmatched lone pair
    rw [List.length_cons] at room
    rw [scan_cons (fun both => bare both.2), read_inside opens closes, pure_bind, List.append_nil]
    exact (ih (by omega)).trans (closeBody_map [c] _).symm

end

/-- A branch from behind its keyword, its condition having been gathered. -/
def branchFrom (kind : BranchKind) (predicate rest : List Char) :
    Except Fault (Token × List Char) := do
  let condition ← checkPredicate kind predicate
  let found ← lexBody rest
  return (.branch kind condition (String.ofList found.1), found.2)

/-- Reads on behind a branch, if there is one. -/
def readOn (largest : Nat) (tokens : List Token) (found : Except Fault (Token × List Char)) :
    Guarded (List Token) := do
  let (token, after) ← unbreached (.ofExcept found)
  scan largest (tokens ++ [token]) (.literal []) after

/-- Behind a condition there is a body or a fault. The counter starts at zero here. -/
theorem scan_awaitBody (room : text.length ≤ largest) (kind : BranchKind)
    (condition : Option String) :
    scan largest tokens (.awaitBody kind condition) text =
      readOn largest tokens ((lexBody (']' :: text)).map fun found =>
        (.branch kind condition (String.ofList found.1), found.2)) := by
  cases text with
  | nil => rfl
  | cons c rest =>
    rw [List.length_cons] at room
    rw [scan_cons (by simp [Stage.escapes])]
    by_cases opens : c = '('
    · subst opens
      simp only [Stage.read, ↓reduceIte, pure_bind, lexBody]
      rw [scan_body (by omega), List.append_nil]
      cases takeBody 0 rest <;> rfl
    · have missing : lexBody (']' :: c :: rest) = .error .missingBody :=
        lexBody_missing (by simp [opens])
      simp only [Stage.read, if_neg opens, missing]
      rfl

/-- A condition ends at its bracket or with the text. -/
def ConditionEnds (rest : List Char) : Prop := ∀ c ∈ rest.head?, c = ']'

/-- A condition is looked at where it ends, and also where the text ends inside the branch. -/
theorem scan_predicate (room : rest.length ≤ largest) (ends : ConditionEnds rest)
    (kind : BranchKind) (predicate : List Char) :
    scan largest tokens (.predicate kind predicate) rest =
      readOn largest tokens (branchFrom kind predicate rest) := by
  cases rest with
  | nil =>
    simp only [scan, Stage.ended, branchFrom]
    cases checkPredicate kind predicate <;> rfl
  | cons c rest =>
    obtain rfl : c = ']' := ends c rfl
    rw [List.length_cons] at room
    rw [scan_cons (by simp)]
    simp only [Stage.read, ↓reduceIte, branchFrom]
    cases checkPredicate kind predicate with
    | error fault => rfl
    | ok condition =>
      exact (congrArg (scan largest · _ rest) (List.append_nil tokens)).trans
        (scan_awaitBody (by omega) kind condition)

/-- A keyword that no space ends stands before an empty condition. -/
theorem scan_keyword_bare (ends : ConditionEnds rest) (word : List Char) :
    scan largest tokens (.keyword word) rest =
      unbreached (.ofExcept (keywordKind word)) >>= fun kind =>
        scan largest tokens (.predicate kind []) rest := by
  cases rest with
  | nil =>
    simp only [scan, Stage.ended]
    cases keywordKind word <;> rfl
  | cons c rest =>
    obtain rfl : c = ']' := ends c rfl
    simp only [scan_cons (show ¬ (Stage.escapes _ = true ∧ ']' = '\\') by simp), Stage.read,
      if_neg (show ¬ ']' = ' ' by decide), ↓reduceIte, bind_assoc, pure_bind]

theorem scan_keyword_spaced (word behind : List Char) :
    scan largest tokens (.keyword word) (' ' :: behind) =
      unbreached (.ofExcept (keywordKind word)) >>= fun kind =>
        scan largest tokens (.predicate kind []) behind := by
  rw [scan_cons (by simp)]
  simp only [Stage.read, ↓reduceIte, bind_assoc, pure_bind, List.append_nil]

/-- What is left behind gathered text begins with a stop. -/
theorem reads_stop (reads : Reads stops source text rest) : ∀ c ∈ rest.head?, stops c = true := by
  cases reads with
  | stopped front bare stop =>
    rintro _ ⟨rfl⟩
    exact stop
  | ended front | lone front => exact nofun

/-- No other character can stand behind the head of a branch. -/
theorem head_ends (head : Head source word predicate rest) : ConditionEnds rest := by
  intro c first
  cases head with
  | bare keyword unspaced =>
    have stop : c = ' ' ∨ c = ']' := by simpa [endsKeyword] using reads_stop keyword c first
    rcases stop with rfl | rfl
    · exact absurd first unspaced
    · rfl
  | spaced keyword condition => simpa using reads_stop condition c first

/-- The head of a branch is its keyword and its condition, the keyword being looked at before the
condition is gathered. -/
theorem scan_head (head : Head source word predicate rest) :
    scan largest tokens (.keyword []) source =
      unbreached (.ofExcept (keywordKind word)) >>= fun kind =>
        scan largest tokens (.predicate kind predicate) rest := by
  have ends := head_ends head
  rw [scan_gather gathers_keyword]
  cases head with
  | bare keyword unspaced =>
    rw [takeEscaped_complete keyword]
    exact scan_keyword_bare ends word
  | spaced keyword condition =>
    rw [takeEscaped_complete keyword]
    refine (scan_keyword_spaced word _).trans (congrArg _ (funext fun kind => ?_))
    rw [scan_gather (gathers_predicate kind), takeEscaped_complete condition, List.nil_append]

/-- A branch is read character by character as the lexer reads it. -/
theorem scan_branch (room : source.length ≤ largest) :
    scan largest tokens (.keyword []) source = readOn largest tokens (lexBranch source) := by
  obtain ⟨word, predicate, rest, head⟩ := head_exists source
  have behind : rest.length ≤ largest := Nat.le_trans (head_suffix head).length_le room
  have whole : lexBranch source = keywordKind word >>= fun kind => branchFrom kind predicate rest := by
    rw [lexBranch_head head, keywordKind]
    cases BranchKind.ofKeyword? (String.ofList word) <;> rfl
  simp only [scan_head head, scan_predicate behind (head_ends head), whole]
  cases keywordKind word <;> rfl

/-- An exec block has no parentheses to count. -/
theorem scan_exec (text : List Char) :
    scan largest tokens (.exec []) text =
      scan largest (tokens ++ [.exec (String.ofList (takeExec text).1)]) (.literal [])
        (takeExec text).2 := by
  rw [scan_gather gathers_exec, takeExec, List.nil_append]
  have stop := reads_stop (takeEscaped_sound (· = '}') text)
  cases left : (takeEscaped (· = '}') text).2 with
  | nil => simp [scan, Stage.ended, rawToken]
  | cons c rest =>
    obtain rfl : c = '}' := by simpa [left] using stop
    rw [scan_cons (by simp)]
    simp [Stage.read]

/-- A template is read block by block, the tokens found so far standing before those of the rest. -/
theorem scan_document (room : source.length ≤ largest) :
    scan largest tokens (.literal []) source =
      unbreached (.ofExcept ((lexChars source).map (tokens ++ ·))) := by
  induction source using template_induction generalizing tokens with
  | literal source text taken =>
    rw [scan_gather gathers_literal, taken, lexChars_literal taken]
    rfl
  | branch source text rest taken ih =>
    have shorter := takeEscaped_length opensBlock source
    rw [taken, List.length_cons] at shorter
    have opened : scan largest tokens (.literal []) source =
        readOn largest (tokens ++ rawToken text) (lexBranch rest) := by
      rw [scan_gather gathers_literal, taken, scan_cons (by simp), ← scan_branch (by omega)]
      rfl
    rw [opened, lexChars_branch taken]
    cases found : lexBranch rest with
    | error fault => rfl
    | ok branch =>
      obtain ⟨token, after⟩ := branch
      have behind := lexBranch_length found
      refine (ih token after found (by omega)).trans ?_
      simp only [bind, Except.bind]
      cases lexChars after with
      | error fault => rfl
      | ok later => simp [Except.map]
  | exec source text rest taken ih =>
    have shorter := takeEscaped_length opensBlock source
    have behind := takeExec_length rest
    rw [taken, List.length_cons] at shorter
    have opened : scan largest tokens (.literal []) source =
        scan largest (tokens ++ rawToken text) (.exec []) rest := by
      rw [scan_gather gathers_literal, taken, scan_cons (by simp)]
      rfl
    rw [opened, scan_exec, ih (by omega), lexChars_exec taken]
    cases lexChars (takeExec rest).2 with
    | error fault => rfl
    | ok later => simp [Except.map]

/-- Every text is read through without a breach, to the tokens or the fault that it has. -/
theorem lex_eq (source : String) : lex source = unbreached (.ofExcept (ChatTemplate.lex source)) := by
  rw [lex, scan_document (Nat.le_refl _), ChatTemplate.lex]
  cases lexChars source.toList <;> rfl

end ChatTemplate.CountingScanner
