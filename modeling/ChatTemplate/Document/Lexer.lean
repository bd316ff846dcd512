import ChatTemplate.Document.Token
import ChatTemplate.Fault
import ChatTemplate.Text.Blank

/-! Reading the text of a template into tokens. Outside of blocks a backslash stands for the
character after it, `[` opens a branch and `{` an exec block. A branch is `[keyword predicate](body)`;
its body keeps its escapes and runs to the parenthesis that matches the opening one, so that it can
be read again as a template. An exec block runs to `}` or to the end of the text. -/
namespace ChatTemplate

/-- The text before the first unescaped stop, its escapes resolved, and what stands from the stop
on. A backslash at the very end stands for nothing. -/
def takeEscaped (stops : Char → Bool) : List Char → List Char × List Char
  | [] => ([], [])
  | ['\\'] => ([], [])
  | '\\' :: c :: rest =>
    let taken := takeEscaped stops rest
    (c :: taken.1, taken.2)
  | c :: rest =>
    if stops c then ([], c :: rest)
    else
      let taken := takeEscaped stops rest
      (c :: taken.1, taken.2)

/-- The text before the parenthesis that closes `depth` open ones and one more, and what follows
that parenthesis. Escapes are kept, and an escaped parenthesis counts for nothing. -/
def takeBody : Nat → List Char → Option (List Char × List Char)
  | _, [] => none
  | _, ['\\'] => none
  | depth, '\\' :: c :: rest =>
    (takeBody depth rest).map fun taken => ('\\' :: c :: taken.1, taken.2)
  | depth, c :: rest =>
    if c = '(' then (takeBody (depth + 1) rest).map fun taken => (c :: taken.1, taken.2)
    else if c = ')' then
      match depth with
      | 0 => some ([], rest)
      | outer + 1 => (takeBody outer rest).map fun taken => (c :: taken.1, taken.2)
    else (takeBody depth rest).map fun taken => (c :: taken.1, taken.2)

/-- The text of an exec block from behind its opening brace, and what follows its closing one. -/
def takeExec (text : List Char) : List Char × List Char :=
  let taken := takeEscaped (· = '}') text
  (taken.1, taken.2.drop 1)

/-- What opens a block. -/
def opensBlock (c : Char) : Bool := c = '[' || c = '{'

/-- What ends a keyword. -/
def endsKeyword (c : Char) : Bool := c = ' ' || c = ']'

/-- A condition belongs to `if` and `elif`, where it must not be blank, and to no `else`. -/
def checkPredicate (kind : BranchKind) (predicate : List Char) : Except Fault (Option String) :=
  match kind, predicate.all Text.isBlank with
  | .elseBranch, true => .ok none
  | .elseBranch, false => .error .unexpectedPredicate
  | _, true => .error .missingPredicate
  | _, false => .ok (some (String.ofList predicate))

/-- The condition after a keyword and what follows it. -/
def takePredicate : List Char → List Char × List Char
  | ' ' :: rest => takeEscaped (· = ']') rest
  | rest => ([], rest)

/-- The bracketed body of a branch and what follows it. -/
def lexBody : List Char → Except Fault (List Char × List Char)
  | ']' :: '(' :: rest =>
    match takeBody 0 rest with
    | some found => .ok found
    | none => .error .unclosedBody
  | _ => .error .missingBody

/-- A branch from behind its opening bracket, and what follows it. -/
def lexBranch (text : List Char) : Except Fault (Token × List Char) :=
  let keyword := takeEscaped endsKeyword text
  match BranchKind.ofKeyword? (String.ofList keyword.1) with
  | none => .error .unknownKeyword
  | some kind =>
    let predicate := takePredicate keyword.2
    match checkPredicate kind predicate.1 with
    | .error fault => .error fault
    | .ok condition =>
      match lexBody predicate.2 with
      | .error fault => .error fault
      | .ok (body, after) => .ok (.branch kind condition (String.ofList body), after)

/-- The literal text before a block, unless there is none. -/
def rawToken (text : List Char) : List Token :=
  if text.isEmpty then [] else [.raw (String.ofList text)]

theorem takeEscaped_length (stops : Char → Bool) (text : List Char) :
    (takeEscaped stops text).2.length ≤ text.length := by
  fun_induction takeEscaped stops text with
  | case1 | case2 => simp
  | case3 c rest taken ih => exact Nat.le_succ_of_le (Nat.le_succ_of_le ih)
  | case4 => exact Nat.le_refl _
  | case5 c rest _ _ _ _ ih => exact Nat.le_succ_of_le ih

theorem takeExec_length (text : List Char) : (takeExec text).2.length ≤ text.length := by
  have taken := takeEscaped_length (· = '}') text
  simp only [takeExec, List.length_drop]
  omega

private theorem shortens_of_map {found : Option (List Char × List Char)} {body after : List Char}
    {f : List Char → List Char} {bound : Nat}
    (mapped : (found.map fun taken => (f taken.1, taken.2)) = some (body, after))
    (inner : ∀ body, found = some (body, after) → after.length < bound) :
    after.length < bound + 1 := by
  obtain ⟨⟨first, last⟩, present, same⟩ := Option.map_eq_some_iff.1 mapped
  simp only [Prod.mk.injEq] at same
  obtain ⟨-, rfl⟩ := same
  exact Nat.lt_succ_of_lt (inner first present)

private theorem takeBody_length {depth : Nat} {text body after : List Char}
    (closed : takeBody depth text = some (body, after)) : after.length < text.length := by
  fun_induction takeBody depth text generalizing body with
  | case1 | case2 => cases closed
  | case3 depth c rest ih =>
    exact Nat.lt_succ_of_lt (shortens_of_map (f := fun body => '\\' :: c :: body) closed
      fun _ => ih)
  | case4 depth rest _ _ ih =>
    exact shortens_of_map (f := fun body => '(' :: body) closed fun _ => ih
  | case5 rest =>
    simp only [Option.some.injEq, Prod.mk.injEq] at closed
    simp [closed.2]
  | case6 rest _ _ _ _ ih =>
    exact shortens_of_map (f := fun body => ')' :: body) closed fun _ => ih
  | case7 depth c rest _ _ _ _ ih =>
    exact shortens_of_map (f := fun body => c :: body) closed fun _ => ih

private theorem takePredicate_length (text : List Char) :
    (takePredicate text).2.length ≤ text.length := by
  unfold takePredicate
  split
  · next rest => exact Nat.le_succ_of_le (takeEscaped_length _ rest)
  · exact Nat.le_refl _

private theorem lexBody_length {text body after : List Char}
    (ended : lexBody text = .ok (body, after)) : after.length < text.length := by
  unfold lexBody at ended
  split at ended
  · next rest =>
    split at ended
    · next found closed =>
      rw [Except.ok.injEq] at ended
      have := takeBody_length (ended ▸ closed)
      simp only [List.length_cons]
      omega
    · cases ended
  · cases ended

/-- A branch takes up some text. -/
theorem lexBranch_length {text after : List Char} {token : Token}
    (ended : lexBranch text = .ok (token, after)) : after.length < text.length := by
  simp only [lexBranch] at ended
  have keyword := takeEscaped_length endsKeyword text
  have predicate := takePredicate_length (takeEscaped endsKeyword text).2
  split at ended
  · cases ended
  · split at ended
    · cases ended
    · split at ended
      · cases ended
      · next body last closed =>
        have shorter := lexBody_length closed
        simp only [Except.ok.injEq, Prod.mk.injEq] at ended
        rw [ended.2] at shorter
        omega

/-- The tokens of a text, or the fault of the first branch that is none. -/
def lexChars (text : List Char) : Except Fault (List Token) :=
  let literal := takeEscaped opensBlock text
  match opened : literal.2 with
  | [] => .ok (rawToken literal.1)
  | c :: rest =>
    have shorter : rest.length < text.length := by
      have := takeEscaped_length opensBlock text
      rw [show (takeEscaped opensBlock text).2 = c :: rest from opened] at this
      exact this
    if c = '[' then
      match ended : lexBranch rest with
      | .error fault => .error fault
      | .ok (token, after) =>
        have := lexBranch_length ended
        (lexChars after).map fun tokens => rawToken literal.1 ++ token :: tokens
    else
      have := takeExec_length rest
      (lexChars (takeExec rest).2).map fun tokens =>
        rawToken literal.1 ++ .exec (String.ofList (takeExec rest).1) :: tokens
termination_by text.length
decreasing_by all_goals omega

/-- The tokens of a template. -/
def lex (source : String) : Except Fault (List Token) := lexChars source.toList

end ChatTemplate
